import Mathlib.Logic.Basic

/-! Sizes, pictures and video frames as the WebRTC frame classes carry them. Pixels
are kept abstract: only their coordinates matter to turning and scaling. -/

namespace WeiRtcNative.Frame

set_option autoImplicit false

universe u

structure Size where
  width : Nat
  height : Nat
  deriving DecidableEq, Repr

/-- `width * height` on two `int`s, whose product wraps in 32 bits. -/
def Size.area (s : Size) : Int32 := Int32.ofNat s.width * Int32.ofNat s.height

def Size.Contains (s : Size) (x y : Nat) : Prop := x < s.width ∧ y < s.height

instance (s : Size) (x y : Nat) : Decidable (s.Contains x y) :=
  inferInstanceAs (Decidable (_ ∧ _))

def Size.swap (s : Size) : Size := ⟨s.height, s.width⟩

inductive VideoRotation where
  | kVideoRotation0
  | kVideoRotation90
  | kVideoRotation180
  | kVideoRotation270
  deriving DecidableEq, Repr

/-- An I420 picture; `pixel x y` is the sample in column `x` of row `y`. -/
structure Picture (Px : Type u) where
  size : Size
  pixel : Nat → Nat → Px

variable {Px : Type u}

namespace Picture

/-- `I420Buffer::Create`: the contents are whatever the allocation holds. -/
def create [Inhabited Px] (size : Size) : Picture Px := ⟨size, fun _ _ => default⟩

/-- `I420Buffer::Rotate`, clockwise. -/
def rotate (p : Picture Px) : VideoRotation → Picture Px
  | .kVideoRotation0 => p
  | .kVideoRotation90 => ⟨p.size.swap, fun x y => p.pixel y (p.size.height - 1 - x)⟩
  | .kVideoRotation180 =>
    ⟨p.size, fun x y => p.pixel (p.size.width - 1 - x) (p.size.height - 1 - y)⟩
  | .kVideoRotation270 => ⟨p.size.swap, fun x y => p.pixel (p.size.width - 1 - y) x⟩

/-- `I420Buffer::ScaleFrom`: all of `src` resampled to the size of the destination. -/
def scaleFrom (resample : Picture Px → Size → Nat → Nat → Px) (dst src : Picture Px) :
    Picture Px := ⟨dst.size, resample src dst.size⟩

@[simp] theorem scaleFrom_size (resample : Picture Px → Size → Nat → Nat → Px)
    (dst src : Picture Px) : (scaleFrom resample dst src).size = dst.size := rfl

end Picture

structure VideoFrame (Px : Type u) where
  videoFrameBuffer : Picture Px
  rotation : VideoRotation
  timestampUs : Int

/-- The buffer turned by the rotation field of the frame. -/
def VideoFrame.upright (f : VideoFrame Px) : Picture Px :=
  if f.rotation ≠ .kVideoRotation0 then f.videoFrameBuffer.rotate f.rotation
  else f.videoFrameBuffer

end WeiRtcNative.Frame
