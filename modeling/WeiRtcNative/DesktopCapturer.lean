import WeiRtcNative.Frame
import WeiRtcNative.Lib.Machine
import WeiRtcNative.Lib.Plane
import WeiRtcNative.Lib.ReusedBuffer

/-!
# DesktopCapturer: captured desktop pictures as video frames

Buffers live on a heap, because a delivered frame refers to the buffer object and
not to a copy of its pixels. The capturer keeps one handle and converts each capture
in place into that buffer, allocating only when the area held is too small.
-/

namespace WeiRtcNative.DesktopCapturer

open WeiRtcNative.Frame Machine ReusedBuffer
set_option autoImplicit false

/-- A captured screen; `data x y` is an ARGB pixel. -/
structure DesktopFrame where
  size : Size
  width_pos : 0 < size.width
  height_pos : 0 < size.height
  data : Nat → Nat → UInt32

/-- The samples `ConvertToI420` computes from an ARGB picture. -/
structure ConvertToI420 where
  luma : DesktopFrame → Nat → Nat → UInt8
  chromaU : DesktopFrame → Nat → Nat → UInt8
  chromaV : DesktopFrame → Nat → Nat → UInt8

structure I420Buffer where
  size : Size
  dataY : Plane UInt8
  dataU : Plane UInt8
  dataV : Plane UInt8

/-- Chroma planes have one sample for two columns and two rows, rounded up. -/
def chroma (s : Size) : Size := ⟨(s.width + 1) / 2, (s.height + 1) / 2⟩

def emptyPlane (s : Size) : Plane UInt8 := ⟨s.width, s.height, fun _ => 0⟩

namespace I420Buffer

def create (s : Size) : I420Buffer :=
  ⟨s, emptyPlane s, emptyPlane (chroma s), emptyPlane (chroma s)⟩

def convert (lib : ConvertToI420) (b : I420Buffer) (f : DesktopFrame) : I420Buffer :=
  {b with
    dataY := b.dataY.write f.size.width f.size.height (lib.luma f)
    dataU := b.dataU.write (chroma f.size).width (chroma f.size).height (lib.chromaU f)
    dataV := b.dataV.write (chroma f.size).width (chroma f.size).height (lib.chromaV f)}

/-- Converting a picture of size `s` writes into the three planes only. -/
structure Holds (b : I420Buffer) (s : Size) : Prop where
  luma : b.dataY.Within s.width s.height
  chromaU : b.dataU.Within (chroma s).width (chroma s).height
  chromaV : b.dataV.Within (chroma s).width (chroma s).height

/-- A reader of the buffer finds the picture of this capture. -/
structure Shows (lib : ConvertToI420) (b : I420Buffer) (f : DesktopFrame) : Prop where
  size : b.size = f.size
  luma : ∀ x y, f.size.Contains x y → b.dataY.sample x y = lib.luma f x y
  chromaU : ∀ x y, (chroma f.size).Contains x y → b.dataU.sample x y = lib.chromaU f x y
  chromaV : ∀ x y, (chroma f.size).Contains x y → b.dataV.sample x y = lib.chromaV f x y

/-- The planes are laid out for the size of the buffer. -/
structure Laid (b : I420Buffer) : Prop where
  strideY : b.dataY.stride = b.size.width
  rowsY : b.dataY.rows = b.size.height
  strideU : b.dataU.stride = (chroma b.size).width
  rowsU : b.dataU.rows = (chroma b.size).height
  strideV : b.dataV.stride = (chroma b.size).width
  rowsV : b.dataV.rows = (chroma b.size).height

theorem create_laid (s : Size) : (create s).Laid := ⟨rfl, rfl, rfl, rfl, rfl, rfl⟩

theorem Laid.convert {b : I420Buffer} (h : b.Laid) (lib : ConvertToI420) (f : DesktopFrame) :
    (b.convert lib f).Laid :=
  ⟨h.strideY, h.rowsY, h.strideU, h.rowsU, h.strideV, h.rowsV⟩

theorem Laid.holds {b : I420Buffer} (h : b.Laid) : b.Holds b.size where
  luma := b.dataY.within_of_le h.strideY.ge h.rowsY.ge
  chromaU := b.dataU.within_of_le h.strideU.ge h.rowsU.ge
  chromaV := b.dataV.within_of_le h.strideV.ge h.rowsV.ge

theorem Laid.convert_shows {b : I420Buffer} (h : b.Laid) (lib : ConvertToI420)
    (f : DesktopFrame) (hs : b.size = f.size) : (b.convert lib f).Shows lib f where
  size := hs
  luma := fun _ _ hxy =>
    b.dataY.write_sample (by rw [h.strideY, hs]) (lib.luma f) hxy.1 hxy.2
  chromaU := fun _ _ hxy =>
    b.dataU.write_sample (by rw [h.strideU, hs]) (lib.chromaU f) hxy.1 hxy.2
  chromaV := fun _ _ hxy =>
    b.dataV.write_sample (by rw [h.strideV, hs]) (lib.chromaV f) hxy.1 hxy.2

end I420Buffer

inductive Result where
  | success
  | errorTemporary
  | errorPermanent
  deriving DecidableEq, Repr

/-- A `VideoFrame` refers to its buffer by handle; its size is that of the buffer. -/
structure SharedFrame where
  buffer : Nat
  size : Size
  rotation : VideoRotation
  timestampUs : UInt64

structure State where
  heap : Nat → I420Buffer
  allocated : Nat
  i420Buffer : Option Nat
  width : Nat
  height : Nat
  frameCount : UInt64

def startTime : UInt64 := 690638571000

/-- `_interval_ms * _nanoSecondPerMillSecond / 2`. -/
def offset : UInt64 := 100 * 1000000 / 2

def create : State := ⟨fun _ => I420Buffer.create ⟨0, 0⟩, 0, none, 0, 0, 0⟩

/-- One capture: the buffer `ConvertToI420` was called on, and the frame handed on. -/
structure Handed where
  captured : DesktopFrame
  target : I420Buffer
  frame : SharedFrame

def i420BufferFor (s : State) (size : Size) : State × Nat :=
  let fresh := ({s with
    heap := Function.update s.heap s.allocated (I420Buffer.create size)
    allocated := s.allocated + 1
    i420Buffer := some s.allocated}, s.allocated)
  match s.i420Buffer with
  | none => fresh
  | some h => if (s.heap h).size.area < size.area then fresh else (s, h)

def onCaptureResult (lib : ConvertToI420) (s : State) (input : Result × DesktopFrame) :
    State × List Handed :=
  match input with
  | (.success, f) =>
    let p := i420BufferFor {s with width := f.size.width, height := f.size.height} f.size
    let target := p.1.heap p.2
    let heap := Function.update p.1.heap p.2 (target.convert lib f)
    let timestamp := startTime + s.frameCount * offset
    ({p.1 with heap := heap, frameCount := s.frameCount + 1},
      [⟨f, target, ⟨p.2, (heap p.2).size, .kVideoRotation0, timestamp⟩⟩])
  | (_, _) => (s, [])

def State.held (s : State) : Option Size := s.i420Buffer.map (fun h => (s.heap h).size)

def State.Laid (s : State) : Prop := ∀ h, (s.heap h).Laid

theorem create_laid : create.Laid := fun _ => I420Buffer.create_laid _

theorem i420BufferFor_cases (s : State) (size : Size) :
    ((∀ h, s.i420Buffer = some h → (s.heap h).size.area < size.area) ∧
      i420BufferFor s size = ({s with
        heap := Function.update s.heap s.allocated (I420Buffer.create size)
        allocated := s.allocated + 1
        i420Buffer := some s.allocated}, s.allocated)) ∨
    (∃ h, s.i420Buffer = some h ∧ ¬ (s.heap h).size.area < size.area ∧
      i420BufferFor s size = (s, h)) := by
  cases hb : s.i420Buffer with
  | none =>
    refine Or.inl ⟨by simp, ?_⟩
    simp only [i420BufferFor, hb]
  | some h =>
    by_cases hlt : (s.heap h).size.area < size.area
    · refine Or.inl ⟨by simpa using hlt, ?_⟩
      simp only [i420BufferFor, hb, hlt, if_true]
    · refine Or.inr ⟨h, rfl, hlt, ?_⟩
      simp only [i420BufferFor, hb, hlt, if_false]

/-- What `i420BufferFor` returns, whether it allocates or not. -/
structure Prepared (s : State) (size : Size) (t : State) (h : Nat) : Prop where
  handle : t.i420Buffer = some h
  size_eq : (t.heap h).size = reuse Size.area s.held size
  laid : s.Laid → t.Laid

theorem i420BufferFor_prepared (s : State) (size : Size) :
    Prepared s size (i420BufferFor s size).1 (i420BufferFor s size).2 := by
  rcases i420BufferFor_cases s size with ⟨hsmall, he⟩ | ⟨h, hb, hlarge, he⟩
  · rw [he]
    refine ⟨rfl, ?_, ?_⟩
    · simp only [Function.update_self, State.held]
      cases hb : s.i420Buffer with
      | none => rfl
      | some h => simp [reuse, hsmall h hb, I420Buffer.create]
    · intro hl h
      by_cases hh : h = s.allocated
      · subst hh
        simpa using I420Buffer.create_laid size
      · simpa [hh] using hl h
  · rw [he]
    refine ⟨hb, ?_, fun hl => hl⟩
    simp [State.held, hb, reuse, hlarge]

theorem update_convert_laid {s : State} (hl : s.Laid) (lib : ConvertToI420) (f : DesktopFrame)
    (h : Nat) (n : UInt64) :
    State.Laid {s with heap := Function.update s.heap h ((s.heap h).convert lib f), frameCount := n} := by
  intro i
  by_cases hi : i = h
  · subst hi
    simpa using (hl i).convert lib f
  · simpa [hi] using hl i

/-- A successful capture converts into a buffer chosen by area alone. -/
theorem onCaptureResult_success (lib : ConvertToI420) (s : State) (hl : s.Laid)
    (f : DesktopFrame) :
    ∃ d, (onCaptureResult lib s (.success, f)).2 = [d] ∧ d.captured = f ∧
      d.target.size = reuse Size.area s.held f.size ∧ d.frame.size = d.target.size ∧
      d.target.Laid ∧ (onCaptureResult lib s (.success, f)).1.held = some d.target.size ∧
      (onCaptureResult lib s (.success, f)).1.Laid := by
  have hp := i420BufferFor_prepared {s with width := f.size.width, height := f.size.height} f.size
  have hlaid := hp.laid hl
  refine ⟨_, rfl, rfl, hp.size_eq, ?_, hlaid _, ?_, update_convert_laid hlaid lib f _ _⟩
  · simp [I420Buffer.convert]
  · simp [onCaptureResult, State.held, hp.handle, I420Buffer.convert]

def successful : Result × DesktopFrame → Option DesktopFrame
  | (.success, f) => some f
  | (_, _) => none

theorem run_handed (lib : ConvertToI420) (s : State) (hl : s.Laid)
    (inputs : List (Result × DesktopFrame)) :
    (run (onCaptureResult lib) s inputs).2.map (·.captured) = inputs.filterMap successful ∧
      (run (onCaptureResult lib) s inputs).2.map (·.target.size) =
        buffers Size.area s.held ((inputs.filterMap successful).map (·.size)) ∧
      ∀ d ∈ (run (onCaptureResult lib) s inputs).2,
        d.frame.size = d.target.size ∧ d.target.Laid := by
  induction inputs generalizing s with
  | nil => simp [buffers]
  | cons input inputs ih =>
    obtain ⟨result, f⟩ := input
    cases result with
    | success =>
      obtain ⟨d, hd, hf, htarget, hframe, hdl, hheld, hl'⟩ := onCaptureResult_success lib s hl f
      obtain ⟨hcap, hbuf, hall⟩ := ih _ hl'
      rw [run_cons, hd]
      refine ⟨?_, ?_, ?_⟩
      · simpa [successful, hf] using hcap
      · rw [hheld] at hbuf
        simp only [List.singleton_append, List.map_cons, successful, List.filterMap_cons, buffers,
          hbuf, htarget]
      · intro d' hd'
        rcases List.mem_cons.mp hd' with rfl | hd'
        · exact ⟨hframe, hdl⟩
        · exact hall d' hd'
    | errorTemporary =>
      rw [List.filterMap_cons_none rfl]
      exact ih s hl
    | errorPermanent =>
      rw [List.filterMap_cons_none rfl]
      exact ih s hl

/-- The frame has the captured size and the conversion stayed inside its buffer. -/
structure Handed.Faithful (d : Handed) : Prop where
  size : d.frame.size = d.captured.size
  inside : d.target.Holds d.captured.size

theorem faithful_iff {d : Handed} (hframe : d.frame.size = d.target.size) (hl : d.target.Laid) :
    d.Faithful ↔ d.target.size = d.captured.size := by
  constructor
  · intro h
    exact hframe.symm.trans h.size
  · intro h
    refine ⟨hframe.trans h, ?_⟩
    rw [← h]
    exact hl.holds

/-- Every delivered frame is faithful exactly when each successful capture has the
size of the one before it or a larger area. -/
theorem handed_faithful_iff (lib : ConvertToI420) (inputs : List (Result × DesktopFrame)) :
    (∀ d ∈ (run (onCaptureResult lib) create inputs).2, d.Faithful) ↔
      ((inputs.filterMap successful).map (·.size)).IsChain (Follows Size.area) := by
  obtain ⟨hcap, hbuf, hall⟩ := run_handed lib create create_laid inputs
  have hsize : (∀ d ∈ (run (onCaptureResult lib) create inputs).2, d.Faithful) ↔
      (run (onCaptureResult lib) create inputs).2.map (·.target.size) =
        (run (onCaptureResult lib) create inputs).2.map (·.captured.size) := by
    rw [List.map_inj_left]
    constructor
    · intro h d hd
      exact (faithful_iff (hall d hd).1 (hall d hd).2).mp (h d hd)
    · intro h d hd
      exact (faithful_iff (hall d hd).1 (hall d hd).2).mpr (h d hd)
  have hneed : (run (onCaptureResult lib) create inputs).2.map (·.captured.size) =
      (inputs.filterMap successful).map (·.size) := by
    rw [← hcap, List.map_map]
    rfl
  rw [hsize, hbuf, hneed]
  exact buffers_none_eq_iff _ _

def blueGreenRed (p : UInt32) : Nat × Nat × Nat :=
  (p.toNat % 256, p.toNat / 256 % 256, p.toNat / 65536 % 256)

/-- The BT.601 conversion; a chroma sample looks at the upper left pixel of its block. -/
def bt601 : ConvertToI420 where
  luma f x y :=
    let (b, g, r) := blueGreenRed (f.data x y)
    UInt8.ofNat ((66 * r + 129 * g + 25 * b + 0x1080) / 256)
  chromaU f x y :=
    let (b, g, r) := blueGreenRed (f.data (2 * x) (2 * y))
    UInt8.ofNat ((0x8080 + 112 * b - 74 * g - 38 * r) / 256)
  chromaV f x y :=
    let (b, g, r) := blueGreenRed (f.data (2 * x) (2 * y))
    UInt8.ofNat ((0x8080 + 112 * r - 94 * g - 18 * b) / 256)

def plainScreen (width height : Nat) (hw : 0 < width) (hh : 0 < height) (argb : UInt32) :
    DesktopFrame := ⟨⟨width, height⟩, hw, hh, fun _ _ => argb⟩

/-- The monitor is turned between two captures. -/
theorem turned_monitor_unfaithful :
    ¬ ∀ d ∈ (run (onCaptureResult bt601) create
      [(.success, plainScreen 1920 1080 (by decide) (by decide) 0xff000000),
       (.success, plainScreen 1080 1920 (by decide) (by decide) 0xff000000)]).2, d.Faithful := by
  intro h
  have hlast := (h _ (List.mem_cons_of_mem _ (List.mem_singleton.mpr rfl))).size
  exact absurd hlast (by decide)

end WeiRtcNative.DesktopCapturer
