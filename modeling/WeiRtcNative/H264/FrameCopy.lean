import WeiRtcNative.Lib.RowAccess
import WeiRtcNative.H264.Encoder

/-!
# The copy of a frame into the media buffer

`FromVideoFrame` puts an I420 frame into a buffer of `totalSize` bytes: `encoded_height` rows of
luma and half as many of chroma, all with the stride of the frame. The calls of libyuv are lists
of the rows that they touch. The arithmetic is that of `int`, where an overflow is undefined.
-/

namespace WeiRtcNative.H264.FrameCopy

open RowAccess Encoder
set_option autoImplicit false

/-- A frame as `I420BufferInterface` shows it; the fields are of type `int`. -/
structure I420Frame where
  width : Int
  height : Int
  strideY : Int
  strideU : Int
  strideV : Int
  width_pos : 1 ≤ width
  height_pos : 1 ≤ height
  strideY_le : width ≤ strideY
  strideU_le : (width + 1) / 2 ≤ strideU
  strideV_le : (width + 1) / 2 ≤ strideV
  height_lt : height < 2 ^ 31
  strideY_lt : strideY < 2 ^ 31
  strideU_lt : strideU < 2 ^ 31
  strideV_lt : strideV < 2 ^ 31

namespace I420Frame

def chromaWidth (f : I420Frame) : Int := (f.width + 1) / 2

def chromaHeight (f : I420Frame) : Int := (f.height + 1) / 2

end I420Frame

inductive Block where
  | dataY
  | dataU
  | dataV
  | destBuffer
  deriving DecidableEq, Repr

/-- The bytes of one row, read or written. -/
structure Access where
  block : Block
  offset : Int
  length : Int
  deriving DecidableEq, Repr

def rows (block : Block) (start stride length : Int) (count : Nat) : List Access :=
  (offsets start stride count).map (⟨block, ·, length⟩)

/-- `CopyPlane` within the media buffer; a negative height turns the destination over. -/
def copyPlane (src dst stride width height : Int) : List Access :=
  let count := height.natAbs
  rows .destBuffer src stride width count ++
    if height < 0 then rows .destBuffer (dst + (count - 1) * stride) (-stride) width count
    else rows .destBuffer dst stride width count

structure Nv12Args where
  srcY : Int
  srcU : Int
  srcV : Int
  dstY : Int
  dstUv : Int
  height : Int
  deriving DecidableEq, Repr

def i420ToNv12 (f : I420Frame) (a : Nv12Args) : List Access :=
  let count := a.height.toNat
  let chromaCount := ((a.height + 1) / 2).toNat
  rows .dataY a.srcY f.strideY f.width count ++
  rows .dataU a.srcU f.strideU f.chromaWidth chromaCount ++
  rows .dataV a.srcV f.strideV f.chromaWidth chromaCount ++
  rows .destBuffer a.dstY f.strideY f.width count ++
  rows .destBuffer a.dstUv f.strideY (2 * f.chromaWidth) chromaCount

/-- The variables that `FromVideoFrame` computes first. -/
structure Layout where
  encodedHeight : Int
  totalSize : Int
  paddingTopY : Int
  paddingBottomY : Int
  paddingTopUv : Int
  paddingBottomUv : Int
  deriving DecidableEq, Repr

def encodedHeight (mode : FrameHeightRoundMode) (f : I420Frame) : Int :=
  (heightToEncode mode (UInt32.ofInt f.height)).toInt32.toInt

def layout (f : I420Frame) (encodedHeight : Int) : Layout :=
  let paddingTopY := (encodedHeight - f.height).tdiv 2
  let paddingTopUv := paddingTopY.tdiv 2
  { encodedHeight := encodedHeight
    totalSize := f.strideY * encodedHeight + (f.strideY * encodedHeight).tdiv 2
    paddingTopY := paddingTopY
    paddingBottomY := encodedHeight - f.height - paddingTopY
    paddingTopUv := paddingTopUv
    paddingBottomUv := encodedHeight.tdiv 2 - f.chromaHeight - paddingTopUv }

/-- Padding moves the destination, cropping the source. -/
def nv12Args (f : I420Frame) (l : Layout) : Nv12Args :=
  let dstUv := f.strideY * l.encodedHeight
  if l.encodedHeight > f.height then
    ⟨0, 0, 0, f.strideY * l.paddingTopY, dstUv + f.strideY * l.paddingTopUv, f.height⟩
  else
    ⟨f.strideY * -l.paddingTopY, f.strideU * -l.paddingTopUv, f.strideV * -l.paddingTopUv, 0,
      dstUv, l.encodedHeight⟩

def padTop (f : I420Frame) (l : Layout) (a : Nv12Args) : List Access :=
  if l.paddingTopY > 0 then
    copyPlane a.dstY 0 f.strideY f.width (-l.paddingTopY) ++
      copyPlane a.dstUv (a.dstUv - f.strideY * l.paddingTopUv) f.strideY f.width (-l.paddingTopUv)
  else []

def padBottom (f : I420Frame) (l : Layout) (a : Nv12Args) : List Access :=
  if l.paddingBottomY > 0 then
    -- height_ is unsigned, and so is this product
    let dstEndY := a.dstY + f.strideY * f.height % 2 ^ 32
    let dstEndUv := a.dstUv + f.strideY * f.chromaHeight
    copyPlane (dstEndY - f.strideY * l.paddingBottomY) dstEndY f.strideY f.width
        (-l.paddingBottomY) ++
      copyPlane (dstEndUv - f.strideY * l.paddingBottomUv) dstEndUv f.strideY f.width
        (-l.paddingBottomUv)
  else []

def accesses (f : I420Frame) (l : Layout) : List Access :=
  i420ToNv12 f (nv12Args f l) ++ padTop f l (nv12Args f l) ++ padBottom f l (nv12Args f l)

def intermediates (f : I420Frame) (l : Layout) : List Int :=
  [l.encodedHeight - f.height, f.strideY * l.encodedHeight, l.totalSize] ++
  (if l.encodedHeight > f.height then [f.strideY * l.paddingTopY, f.strideY * l.paddingTopUv]
    else [f.strideY * -l.paddingTopY, f.strideU * -l.paddingTopUv, f.strideV * -l.paddingTopUv]) ++
  (if l.paddingBottomY > 0 then [f.strideY * l.paddingBottomY, f.strideY * f.chromaHeight,
      f.strideY * l.paddingBottomUv]
    else [])

def FitsInt (x : Int) : Prop := -2 ^ 31 ≤ x ∧ x < 2 ^ 31

def blockSize (f : I420Frame) (l : Layout) : Block → Int
  | .dataY => f.strideY * f.height
  | .dataU => f.strideU * f.chromaHeight
  | .dataV => f.strideV * f.chromaHeight
  | .destBuffer => l.totalSize

def Access.InBounds (f : I420Frame) (l : Layout) (a : Access) : Prop :=
  Inside (blockSize f l a.block) a.length a.offset

/-- No value overflows, and every byte read or written is one of the planes or of the buffer. -/
structure Safe (mode : FrameHeightRoundMode) (f : I420Frame) : Prop where
  defined : ∀ x ∈ intermediates f (layout f (encodedHeight mode f)), FitsInt x
  inBounds : ∀ a ∈ accesses f (layout f (encodedHeight mode f)),
    a.InBounds f (layout f (encodedHeight mode f))

def roundedHeight (mode : FrameHeightRoundMode) (f : I420Frame) : Int :=
  (heightToEncode mode (UInt32.ofInt f.height)).toNat

/-- The size of the buffer and the offsets of a cropped source are `int` values. -/
structure ArithmeticFits (f : I420Frame) (rounded : Int) : Prop where
  totalSize : f.strideY * rounded + f.strideY * rounded / 2 < 2 ^ 31
  offsetY : f.strideY * ((f.height - rounded) / 2) < 2 ^ 31
  offsetU : f.strideU * ((f.height - rounded) / 2 / 2) < 2 ^ 31
  offsetV : f.strideV * ((f.height - rounded) / 2 / 2) < 2 ^ 31

/-- The last row of chroma, which is a byte longer than a luma row if the width is odd, ends
before the buffer does. -/
def ChromaFits (mode : FrameHeightRoundMode) (f : I420Frame) : Prop :=
  match mode with
  | .noChange =>
    if f.height % 2 = 0 then 2 * f.chromaWidth ≤ f.strideY else 2 * (2 * f.chromaWidth) ≤ f.strideY
  | .crop => 16 ≤ f.height → 2 * f.chromaWidth ≤ f.strideY
  | .pad => f.height % 16 = 0 ∨ f.height % 16 = 15 → 2 * f.chromaWidth ≤ f.strideY

section Height

theorem and_not_fifteen (x : UInt32) : (x &&& ~~~15).toNat = x.toNat / 16 * 16 := by
  have hmask : (~~~(15 : UInt32)).toNat = (2 ^ 28 - 1) <<< 4 := by decide
  have hround : x.toNat / 16 * 16 = (x.toNat >>> 4) <<< 4 := by
    rw [Nat.shiftLeft_eq, Nat.shiftRight_eq_div_pow]
  rw [UInt32.toNat_and, hmask, hround]
  apply Nat.eq_of_testBit_eq
  intro i
  rw [Nat.testBit_and, Nat.testBit_shiftLeft, Nat.testBit_shiftLeft, Nat.testBit_shiftRight,
    Nat.testBit_two_pow_sub_one]
  by_cases hlow : i < 4
  · simp [Nat.not_le.mpr hlow]
  · rw [show 4 + (i - 4) = i by omega]
    by_cases hhigh : i < 32
    · simp [Nat.not_lt.mp hlow, show i - 4 < 28 by omega]
    · have hbit : x.toNat.testBit i = false := by
        apply Nat.testBit_lt_two_pow
        exact Nat.lt_of_lt_of_le x.toNat_lt (Nat.pow_le_pow_right (by decide) (by omega))
      rw [hbit]
      simp

theorem height_toNat (f : I420Frame) : ((UInt32.ofInt f.height).toNat : Int) = f.height := by
  have hpos := f.height_pos
  have hlt := f.height_lt
  rw [UInt32.ofInt, UInt32.toNat_ofNat']
  omega

theorem roundedHeight_eq (mode : FrameHeightRoundMode) (f : I420Frame) :
    roundedHeight mode f =
      match mode with
      | .noChange => f.height
      | .crop => f.height / 16 * 16
      | .pad => (f.height + 15) / 16 * 16 := by
  have hheight := height_toNat f
  have hlt := f.height_lt
  cases mode with
  | noChange => exact hheight
  | crop =>
    simp only [roundedHeight, heightToEncode, and_not_fifteen]
    omega
  | pad =>
    simp only [roundedHeight, heightToEncode, and_not_fifteen, UInt32.toNat_add]
    have hfifteen : (15 : UInt32).toNat = 15 := rfl
    omega

theorem encodedHeight_eq (mode : FrameHeightRoundMode) (f : I420Frame) :
    encodedHeight mode f =
      if roundedHeight mode f < 2 ^ 31 then roundedHeight mode f
      else roundedHeight mode f - 2 ^ 32 := by
  have hconvert (x : UInt32) :
      x.toInt32.toInt = if (x.toNat : Int) < 2 ^ 31 then (x.toNat : Int) else x.toNat - 2 ^ 32 := by
    have hcond := BitVec.toInt_eq_toNat_cond x.toBitVec
    rw [UInt32.toNat_toBitVec] at hcond
    have htoInt : x.toInt32.toInt = x.toBitVec.toInt := rfl
    rw [htoInt, hcond]
    split <;> split <;> omega
  exact hconvert _

end Height

section Shapes
variable (f : I420Frame)

theorem strideY_pos : 1 ≤ f.strideY := f.width_pos.trans f.strideY_le

theorem chromaWidth_bounds : 1 ≤ f.chromaWidth ∧ 2 * f.chromaWidth ≤ f.strideY + 1 := by
  have hpos := f.width_pos
  have hle := f.strideY_le
  unfold I420Frame.chromaWidth
  omega

theorem rows_inBounds {l : Layout} {block : Block} {start stride length : Int} {count : Nat} :
    (∀ a ∈ rows block start stride length count, a.InBounds f l) ↔
      ∀ o ∈ offsets start stride count, Inside (blockSize f l block) length o := by
  simp [rows, Access.InBounds]

theorem copyPlane_inBounds {l : Layout} {src dst height total : Int}
    (hsize : f.strideY * total ≤ l.totalSize) (hsrc : 0 ≤ src) (hdst : 0 ≤ dst)
    (hsrcRows : src + height.natAbs ≤ total) (hdstRows : dst + height.natAbs ≤ total) :
    ∀ a ∈ copyPlane (f.strideY * src) (f.strideY * dst) f.strideY f.width height,
      a.InBounds f l := by
  have hstride := strideY_pos f
  have hread := offsets_inside hsrc (by omega) f.strideY_le hsrcRows hsize
  have hwritten := offsets_inside hdst (by omega) f.strideY_le hdstRows hsize
  unfold copyPlane
  rw [List.forall_mem_append]
  refine ⟨(rows_inBounds f).mpr hread, ?_⟩
  split
  · rw [rows_inBounds]
    intro o ho
    exact hwritten o (mem_offsets_neg.mp ho)
  · exact (rows_inBounds f).mpr hwritten

/-- The chroma rows of the conversion, from row `first` of the buffer on. -/
theorem chromaRows_inBounds_iff {l : Layout} {first : Int} (hfirst : 0 ≤ first) (count : Nat) :
    (∀ a ∈ rows .destBuffer (f.strideY * first) f.strideY (2 * f.chromaWidth) (count + 1),
        a.InBounds f l) ↔ f.strideY * (first + count) + 2 * f.chromaWidth ≤ l.totalSize := by
  have hstride := strideY_pos f
  rw [rows_inBounds, offsets_inside_iff (by omega),
    and_iff_right (Int.mul_nonneg (by omega) hfirst),
    show f.strideY * first + count * f.strideY = f.strideY * (first + count) by ring]
  rfl

/-- All other rows of the conversion are where they belong. -/
theorem i420ToNv12_inBounds_iff {l : Layout} {a : Nv12Args} {offset offsetUv top total : Int}
    (hsrcY : a.srcY = f.strideY * offset) (hsrcU : a.srcU = f.strideU * offsetUv)
    (hsrcV : a.srcV = f.strideV * offsetUv) (hdstY : a.dstY = f.strideY * top)
    (hoffset : 0 ≤ offset) (hoffsetUv : 0 ≤ offsetUv) (htop : 0 ≤ top) (hheight : 0 ≤ a.height)
    (hrows : offset + a.height ≤ f.height)
    (hrowsUv : offsetUv + (a.height + 1) / 2 ≤ f.chromaHeight)
    (htotal : top + a.height ≤ total) (hsize : f.strideY * total ≤ l.totalSize) :
    (∀ x ∈ i420ToNv12 f a, x.InBounds f l) ↔
      ∀ x ∈ rows .destBuffer a.dstUv f.strideY (2 * f.chromaWidth) ((a.height + 1) / 2).toNat,
        x.InBounds f l := by
  have hstride := strideY_pos f
  have hwidth := (chromaWidth_bounds f).1
  have hU : f.chromaWidth ≤ f.strideU := f.strideU_le
  have hV : f.chromaWidth ≤ f.strideV := f.strideV_le
  unfold i420ToNv12
  simp only [List.forall_mem_append, hsrcY, hsrcU, hsrcV, hdstY]
  refine and_iff_right ⟨⟨⟨?_, ?_⟩, ?_⟩, ?_⟩
  · rw [rows_inBounds]
    exact offsets_inside hoffset (by omega) f.strideY_le (by omega) (Int.le_refl _)
  · rw [rows_inBounds]
    exact offsets_inside hoffsetUv (by omega) hU (by omega) (Int.le_refl _)
  · rw [rows_inBounds]
    exact offsets_inside hoffsetUv (by omega) hV (by omega) (Int.le_refl _)
  · rw [rows_inBounds]
    exact offsets_inside htop (by omega) f.strideY_le (by omega) hsize

theorem tdiv_two_of_nonpos {x : Int} (hx : x ≤ 0) : x.tdiv 2 = -(-x / 2) := by
  rw [← Int.tdiv_eq_ediv_of_nonneg (by omega), Int.neg_tdiv, Int.neg_neg]

theorem layout_crop {e : Int} (he : 0 ≤ e) (hle : e ≤ f.height) :
    layout f e =
      { encodedHeight := e
        totalSize := f.strideY * e + f.strideY * e / 2
        paddingTopY := -((f.height - e) / 2)
        paddingBottomY := e - f.height + (f.height - e) / 2
        paddingTopUv := -((f.height - e) / 2 / 2)
        paddingBottomUv := e / 2 - f.chromaHeight + (f.height - e) / 2 / 2 } := by
  have hstride := strideY_pos f
  have hnonneg : 0 ≤ f.strideY * e := Int.mul_nonneg (by omega) he
  unfold layout
  dsimp only
  rw [tdiv_two_of_nonpos (show e - f.height ≤ 0 by omega), Int.neg_sub,
    tdiv_two_of_nonpos (show -((f.height - e) / 2) ≤ 0 by omega), Int.neg_neg,
    Int.tdiv_eq_ediv_of_nonneg hnonneg, Int.tdiv_eq_ediv_of_nonneg he, Int.sub_neg, Int.sub_neg]

theorem layout_pad {e : Int} (hlt : f.height < e) :
    layout f e =
      { encodedHeight := e
        totalSize := f.strideY * e + f.strideY * e / 2
        paddingTopY := (e - f.height) / 2
        paddingBottomY := e - f.height - (e - f.height) / 2
        paddingTopUv := (e - f.height) / 2 / 2
        paddingBottomUv := e / 2 - f.chromaHeight - (e - f.height) / 2 / 2 } := by
  have hpos := f.height_pos
  have hstride := strideY_pos f
  have hnonneg : 0 ≤ f.strideY * e := Int.mul_nonneg (by omega) (by omega)
  unfold layout
  dsimp only
  rw [Int.tdiv_eq_ediv_of_nonneg (show 0 ≤ e - f.height by omega),
    Int.tdiv_eq_ediv_of_nonneg (show 0 ≤ (e - f.height) / 2 by omega),
    Int.tdiv_eq_ediv_of_nonneg hnonneg, Int.tdiv_eq_ediv_of_nonneg (show 0 ≤ e by omega)]

/-- The chroma rows behind `e` luma rows. -/
theorem chromaRows_crop_iff {e : Int} (he : 0 ≤ e) {l : Layout}
    (hsize : l.totalSize = f.strideY * e + f.strideY * e / 2) :
    (∀ a ∈ rows .destBuffer (f.strideY * e) f.strideY (2 * f.chromaWidth) ((e + 1) / 2).toNat,
        a.InBounds f l) ↔
      e = 0 ∨ if e % 2 = 0 then 2 * f.chromaWidth ≤ f.strideY
        else 2 * (2 * f.chromaWidth) ≤ f.strideY := by
  by_cases hzero : e = 0
  · subst hzero
    simp [rows, offsets]
  · rw [or_iff_right hzero]
    obtain ⟨m, hm | hm⟩ : ∃ m : Nat, e = 2 * m + 2 ∨ e = 2 * m + 1 :=
      ⟨((e - 1) / 2).toNat, by omega⟩
    · have hcount : ((e + 1) / 2).toNat = m + 1 := by omega
      have hhalf : f.strideY * e / 2 = f.strideY * m + f.strideY := by
        rw [hm, show f.strideY * (2 * (m : Int) + 2) = (f.strideY * m + f.strideY) * 2 by ring]
        exact Int.mul_ediv_cancel _ (by decide)
      rw [hcount, chromaRows_inBounds_iff f he, hsize, if_pos (by omega), hhalf, Int.mul_add]
      omega
    · have hcount : ((e + 1) / 2).toNat = m + 1 := by omega
      have hhalf : f.strideY * e / 2 = f.strideY * m + f.strideY / 2 := by
        rw [hm, show f.strideY * (2 * (m : Int) + 1) = f.strideY + f.strideY * m * 2 by ring,
          Int.add_mul_ediv_right _ _ (by decide)]
        exact Int.add_comm _ _
      rw [hcount, chromaRows_inBounds_iff f he, hsize, if_neg (by omega), hhalf, Int.mul_add]
      omega

/-- A height that is not increased: only the conversion touches the buffer. -/
theorem crop_inBounds_iff {e : Int} (he : 0 ≤ e) (hle : e ≤ f.height) :
    (∀ a ∈ accesses f (layout f e), a.InBounds f (layout f e)) ↔
      e = 0 ∨ if e % 2 = 0 then 2 * f.chromaWidth ≤ f.strideY
        else 2 * (2 * f.chromaWidth) ≤ f.strideY := by
  have hstride := strideY_pos f
  have hnonneg : 0 ≤ f.strideY * e := Int.mul_nonneg (by omega) he
  rw [layout_crop f he hle]
  generalize hl : Layout.mk _ _ _ _ _ _ = l
  have hargs : nv12Args f l =
      ⟨f.strideY * ((f.height - e) / 2), f.strideU * ((f.height - e) / 2 / 2),
        f.strideV * ((f.height - e) / 2 / 2), 0, f.strideY * e, e⟩ := by
    unfold nv12Args
    subst hl
    dsimp only
    rw [if_neg (by omega), Int.neg_neg, Int.neg_neg]
  have honly : accesses f l = i420ToNv12 f (nv12Args f l) := by
    unfold accesses padTop padBottom
    subst hl
    dsimp only
    rw [if_neg (by omega), if_neg (by omega), List.append_nil, List.append_nil]
  have hsize : l.totalSize = f.strideY * e + f.strideY * e / 2 := by
    subst hl
    rfl
  rw [honly, hargs, i420ToNv12_inBounds_iff f rfl rfl rfl (Int.mul_zero _).symm (by omega)
    (by omega) (Int.le_refl 0) he (by dsimp only; omega)
    (by dsimp only [I420Frame.chromaHeight]; omega) (show 0 + e ≤ e by omega) (by omega)]
  exact chromaRows_crop_iff f he hsize

theorem padTop_inBounds {l : Layout} {a : Nv12Args} {e : Int}
    (hdstY : a.dstY = f.strideY * l.paddingTopY)
    (hdstUv : a.dstUv = f.strideY * (e + l.paddingTopUv))
    (hsize : f.strideY * (e + e / 2) ≤ l.totalSize) (htopUv : 0 ≤ l.paddingTopUv)
    (hroomUv : 2 * l.paddingTopUv ≤ e / 2) (hroomY : 2 * l.paddingTopY ≤ e) (he : 0 ≤ e) :
    ∀ x ∈ padTop f l a, x.InBounds f l := by
  unfold padTop
  split
  · rw [List.forall_mem_append, hdstY, hdstUv,
      show f.strideY * (e + l.paddingTopUv) - f.strideY * l.paddingTopUv = f.strideY * e by ring,
      show (0 : Int) = f.strideY * 0 from (Int.mul_zero _).symm]
    constructor
    · exact copyPlane_inBounds f hsize (by omega) (Int.le_refl 0) (by omega) (by omega)
    · exact copyPlane_inBounds f hsize (by omega) he (by omega) (by omega)
  · simp

theorem padBottom_inBounds {l : Layout} {a : Nv12Args} {e : Int}
    (hdstY : a.dstY = f.strideY * l.paddingTopY)
    (hdstUv : a.dstUv = f.strideY * (e + l.paddingTopUv))
    (hsize : f.strideY * (e + e / 2) ≤ l.totalSize) (he : 0 ≤ e)
    (hproduct : f.strideY * f.height < 2 ^ 32)
    (htopY : 0 ≤ l.paddingTopY) (hendY : l.paddingTopY + f.height + l.paddingBottomY = e)
    (hbackY : l.paddingBottomY ≤ l.paddingTopY + f.height)
    (hbottomUv : 0 ≤ l.paddingBottomUv)
    (hendUv : l.paddingTopUv + f.chromaHeight + l.paddingBottomUv = e / 2)
    (hbackUv : l.paddingBottomUv ≤ l.paddingTopUv + f.chromaHeight) :
    ∀ x ∈ padBottom f l a, x.InBounds f l := by
  have hpos := f.height_pos
  have hstride := strideY_pos f
  have hchroma : 0 ≤ f.chromaHeight := by
    unfold I420Frame.chromaHeight
    omega
  have hwrap : f.strideY * f.height % 2 ^ 32 = f.strideY * f.height :=
    Int.emod_eq_of_lt (Int.mul_nonneg (by omega) (by omega)) hproduct
  unfold padBottom
  split
  · dsimp only
    rw [List.forall_mem_append, hdstY, hdstUv, hwrap]
    constructor
    · rw [← Int.mul_add, ← Int.mul_sub]
      exact copyPlane_inBounds f hsize (by omega) (by omega) (by omega) (by omega)
    · rw [← Int.mul_add, ← Int.mul_sub]
      exact copyPlane_inBounds f hsize (by omega) (by omega) (by omega) (by omega)
  · simp

/-- The chroma rows are followed by padding rows, except where one row is added. -/
theorem chromaRows_pad_iff {l : Layout} {e : Int} (hlt : f.height < e) (hle : e ≤ f.height + 15)
    (heven : e % 16 = 0) (htopUv : l.paddingTopUv = (e - f.height) / 2 / 2)
    (hbottomUv : l.paddingBottomUv = e / 2 - f.chromaHeight - (e - f.height) / 2 / 2)
    (hsize : l.totalSize = f.strideY * (e + e / 2)) :
    (∀ a ∈ rows .destBuffer (f.strideY * (e + l.paddingTopUv)) f.strideY (2 * f.chromaWidth)
        ((f.height + 1) / 2).toNat, a.InBounds f l) ↔
      (e = f.height + 1 → 2 * f.chromaWidth ≤ f.strideY) := by
  have hpos := f.height_pos
  have hstride := strideY_pos f
  have hchroma : f.chromaHeight = (f.height + 1) / 2 := rfl
  obtain ⟨k, hk⟩ : ∃ k : Nat, ((f.height + 1) / 2).toNat = k + 1 :=
    ⟨((f.height - 1) / 2).toNat, by omega⟩
  rw [hk, chromaRows_inBounds_iff f (by omega), hsize,
    show e + e / 2 = e + l.paddingTopUv + k + (l.paddingBottomUv + 1) by omega,
    Int.mul_add f.strideY (e + l.paddingTopUv + k), Int.add_le_add_iff_left]
  by_cases hone : e = f.height + 1
  · have hnone : l.paddingBottomUv = 0 := by omega
    rw [hnone, Int.zero_add, Int.mul_one, forall_prop_of_true hone]
  · have htwo : f.strideY * 2 ≤ f.strideY * (l.paddingBottomUv + 1) :=
      Int.mul_le_mul_of_nonneg_left (by omega) (by omega)
    have hwidth := (chromaWidth_bounds f).2
    exact iff_of_true (by omega) fun h => absurd h hone

/-- Padding: the copies stay where the conversion put the image. -/
theorem pad_inBounds_iff {e : Int} (hlt : f.height < e) (hle : e ≤ f.height + 15)
    (heven : e % 16 = 0) (hproduct : f.strideY * e < 2 ^ 31) :
    (∀ a ∈ accesses f (layout f e), a.InBounds f (layout f e)) ↔
      (e = f.height + 1 → 2 * f.chromaWidth ≤ f.strideY) := by
  have hpos := f.height_pos
  have hstride := strideY_pos f
  have hchroma : f.chromaHeight = (f.height + 1) / 2 := rfl
  rw [layout_pad f hlt]
  generalize hl : Layout.mk _ _ _ _ _ _ = l
  have htopY : l.paddingTopY = (e - f.height) / 2 := by rw [← hl]
  have htopUv : l.paddingTopUv = (e - f.height) / 2 / 2 := by rw [← hl]
  have hbottomY : l.paddingBottomY = e - f.height - (e - f.height) / 2 := by rw [← hl]
  have hbottomUv : l.paddingBottomUv = e / 2 - f.chromaHeight - (e - f.height) / 2 / 2 := by
    rw [← hl]
  have hsize : l.totalSize = f.strideY * (e + e / 2) := by
    rw [← hl, Int.mul_add, Int.mul_ediv_assoc _ (by omega : (2 : Int) ∣ e)]
  have hargs : nv12Args f l =
      ⟨0, 0, 0, f.strideY * l.paddingTopY, f.strideY * (e + l.paddingTopUv), f.height⟩ := by
    unfold nv12Args
    rw [← hl]
    dsimp only
    rw [if_pos hlt, Int.mul_add]
  have hheight : f.strideY * f.height ≤ f.strideY * e :=
    Int.mul_le_mul_of_nonneg_left (by omega) (by omega)
  have htop : ∀ x ∈ padTop f l (nv12Args f l), x.InBounds f l := by
    apply padTop_inBounds f (by rw [hargs]) (by rw [hargs]) (Int.le_of_eq hsize.symm) <;> omega
  have hbottom : ∀ x ∈ padBottom f l (nv12Args f l), x.InBounds f l := by
    apply padBottom_inBounds f (by rw [hargs]) (by rw [hargs]) (Int.le_of_eq hsize.symm) <;> omega
  have hconvert : (∀ a ∈ accesses f l, a.InBounds f l) ↔
      ∀ a ∈ i420ToNv12 f (nv12Args f l), a.InBounds f l := by
    unfold accesses
    rw [List.forall_mem_append, List.forall_mem_append, and_iff_left hbottom, and_iff_left htop]
  have hzero (stride : Int) : 0 = stride * 0 := (Int.mul_zero stride).symm
  have hluma : f.strideY * e ≤ l.totalSize := by
    rw [hsize]
    exact Int.mul_le_mul_of_nonneg_left (by omega) (by omega)
  rw [hconvert, hargs, i420ToNv12_inBounds_iff f (hzero _) (hzero _) (hzero _) rfl (Int.le_refl 0)
    (Int.le_refl 0) (by omega) (by dsimp only; omega) (by dsimp only; omega)
    (by dsimp only; omega) (show l.paddingTopY + f.height ≤ e by omega) hluma]
  exact chromaRows_pad_iff f hlt hle heven htopUv hbottomUv hsize

end Shapes

section Arithmetic
variable (f : I420Frame)

theorem fitsInt_of_nonneg {x : Int} (hx : 0 ≤ x) : FitsInt x ↔ x < 2 ^ 31 := by
  unfold FitsInt
  omega

theorem crop_defined_iff {e : Int} (he : 0 ≤ e) (hle : e ≤ f.height) :
    (∀ x ∈ intermediates f (layout f e), FitsInt x) ↔ ArithmeticFits f e := by
  have hheight := f.height_lt
  have hstride := strideY_pos f
  have hwidth := (chromaWidth_bounds f).1
  have hU : f.chromaWidth ≤ f.strideU := f.strideU_le
  have hV : f.chromaWidth ≤ f.strideV := f.strideV_le
  have hnonneg : 0 ≤ f.strideY * e := Int.mul_nonneg (by omega) he
  have hoffsetY : 0 ≤ f.strideY * ((f.height - e) / 2) := Int.mul_nonneg (by omega) (by omega)
  have hoffsetU : 0 ≤ f.strideU * ((f.height - e) / 2 / 2) := Int.mul_nonneg (by omega) (by omega)
  have hoffsetV : 0 ≤ f.strideV * ((f.height - e) / 2 / 2) := Int.mul_nonneg (by omega) (by omega)
  have hdiff : FitsInt (e - f.height) := by
    unfold FitsInt
    omega
  rw [layout_crop f he hle]
  unfold intermediates
  dsimp only
  rw [if_neg (by omega), if_neg (by omega), Int.neg_neg, Int.neg_neg]
  simp only [List.append_nil, List.cons_append, List.nil_append, List.forall_mem_cons,
    List.not_mem_nil, IsEmpty.forall_iff, implies_true, and_true, and_iff_right hdiff,
    fitsInt_of_nonneg hnonneg,
    fitsInt_of_nonneg hoffsetY, fitsInt_of_nonneg hoffsetU, fitsInt_of_nonneg hoffsetV,
    fitsInt_of_nonneg (show 0 ≤ f.strideY * e + f.strideY * e / 2 by omega)]
  constructor
  · rintro ⟨-, htotal, hY, hU, hV⟩
    exact ⟨htotal, hY, hU, hV⟩
  · intro h
    have htotal := h.totalSize
    exact ⟨by omega, htotal, h.offsetY, h.offsetU, h.offsetV⟩

theorem fitsInt_rows {rows e : Int} (hrows : 0 ≤ rows) (hle : rows ≤ e)
    (he : f.strideY * e < 2 ^ 31) : FitsInt (f.strideY * rows) := by
  have hstride := strideY_pos f
  have hmul : f.strideY * rows ≤ f.strideY * e := Int.mul_le_mul_of_nonneg_left hle (by omega)
  rw [fitsInt_of_nonneg (Int.mul_nonneg (by omega) hrows)]
  omega

theorem mul_nonpos_lt {stride x : Int} (hstride : 0 ≤ stride) (hx : x ≤ 0) :
    stride * x < 2 ^ 31 := by
  have hmul := Int.mul_nonpos_of_nonneg_of_nonpos hstride hx
  omega

theorem pad_defined_iff {e : Int} (hlt : f.height < e) (hle : e ≤ f.height + 15)
    (hmax : e < 2 ^ 31) :
    (∀ x ∈ intermediates f (layout f e), FitsInt x) ↔ ArithmeticFits f e := by
  have hpos := f.height_pos
  have hstride := strideY_pos f
  have hwidth := (chromaWidth_bounds f).1
  have hU : f.chromaWidth ≤ f.strideU := f.strideU_le
  have hV : f.chromaWidth ≤ f.strideV := f.strideV_le
  have hchroma : f.chromaHeight = (f.height + 1) / 2 := rfl
  have hnonneg : 0 ≤ f.strideY * e := Int.mul_nonneg (by omega) (by omega)
  rw [layout_pad f hlt]
  constructor
  · intro h
    have htotal := (h _ (by simp [intermediates] : f.strideY * e + f.strideY * e / 2 ∈ _)).2
    exact ⟨htotal, mul_nonpos_lt (by omega) (by omega), mul_nonpos_lt (by omega) (by omega),
      mul_nonpos_lt (by omega) (by omega)⟩
  · intro h
    have htotal := h.totalSize
    have hfits {rows : Int} (hrows : 0 ≤ rows) (hmost : rows ≤ e) : FitsInt (f.strideY * rows) :=
      fitsInt_rows f hrows hmost (by omega)
    unfold intermediates
    dsimp only
    rw [if_pos hlt, if_pos (by omega)]
    simp only [List.cons_append, List.nil_append, List.forall_mem_cons, List.not_mem_nil,
      IsEmpty.forall_iff, implies_true, and_true]
    refine ⟨⟨by omega, by omega⟩, ⟨by omega, by omega⟩, ⟨by omega, by omega⟩, ?_, ?_, ?_, ?_, ?_⟩
    all_goals exact hfits (by omega) (by omega)

theorem roundedHeight_bounds (mode : FrameHeightRoundMode) :
    0 ≤ roundedHeight mode f ∧ roundedHeight mode f ≤ f.height + 15 := by
  have hpos := f.height_pos
  rw [roundedHeight_eq]
  cases mode <;> dsimp only <;> omega

theorem rounded_lt_of_defined {mode : FrameHeightRoundMode}
    (h : ∀ x ∈ intermediates f (layout f (encodedHeight mode f)), FitsInt x) :
    roundedHeight mode f < 2 ^ 31 := by
  have hdiff : FitsInt (encodedHeight mode f - f.height) := h _ (by simp [intermediates, layout])
  have hbounds := roundedHeight_bounds f mode
  have hlow := hdiff.1
  rw [encodedHeight_eq] at hlow
  split at hlow <;> omega

theorem rounded_lt_of_fits {mode : FrameHeightRoundMode}
    (h : ArithmeticFits f (roundedHeight mode f)) : roundedHeight mode f < 2 ^ 31 := by
  have hstride := strideY_pos f
  have hbounds := roundedHeight_bounds f mode
  have htotal := h.totalSize
  have hmul : 1 * roundedHeight mode f ≤ f.strideY * roundedHeight mode f :=
    Int.mul_le_mul_of_nonneg_right hstride hbounds.1
  omega

theorem defined_iff {mode : FrameHeightRoundMode} (hlt : roundedHeight mode f < 2 ^ 31) :
    (∀ x ∈ intermediates f (layout f (roundedHeight mode f)), FitsInt x) ↔
      ArithmeticFits f (roundedHeight mode f) := by
  have hbounds := roundedHeight_bounds f mode
  by_cases hle : roundedHeight mode f ≤ f.height
  · exact crop_defined_iff f hbounds.1 hle
  · exact pad_defined_iff f (by omega) hbounds.2 hlt

theorem inBounds_iff {mode : FrameHeightRoundMode}
    (hfits : ArithmeticFits f (roundedHeight mode f)) :
    (∀ a ∈ accesses f (layout f (roundedHeight mode f)),
        a.InBounds f (layout f (roundedHeight mode f))) ↔ ChromaFits mode f := by
  have hpos := f.height_pos
  have hbounds := roundedHeight_bounds f mode
  have hround := roundedHeight_eq mode f
  generalize roundedHeight mode f = r at hfits hbounds hround
  cases mode with
  | noChange =>
    dsimp only at hround
    rw [crop_inBounds_iff f hbounds.1 (by omega), or_iff_right (by omega), hround]
    rfl
  | crop =>
    dsimp only at hround
    rw [crop_inBounds_iff f hbounds.1 (by omega), if_pos (by omega)]
    unfold ChromaFits
    dsimp only
    omega
  | pad =>
    dsimp only at hround
    unfold ChromaFits
    dsimp only
    by_cases hle : r ≤ f.height
    · rw [crop_inBounds_iff f hbounds.1 hle, if_pos (by omega)]
      omega
    · have htotal := hfits.totalSize
      have hnonneg : 0 ≤ f.strideY * r := Int.mul_nonneg (by have := strideY_pos f; omega) hbounds.1
      rw [pad_inBounds_iff f (by omega) hbounds.2 (by omega) (by omega)]
      omega

end Arithmetic

/-- The copy is safe just when its arithmetic fits and the last chroma row does. -/
theorem copy_safe_iff (mode : FrameHeightRoundMode) (f : I420Frame) :
    Safe mode f ↔ ArithmeticFits f (roundedHeight mode f) ∧ ChromaFits mode f := by
  constructor
  · intro h
    have hlt := rounded_lt_of_defined f h.defined
    have hencoded : encodedHeight mode f = roundedHeight mode f := by
      rw [encodedHeight_eq, if_pos hlt]
    obtain ⟨hdefined, hinBounds⟩ := h
    rw [hencoded] at hdefined hinBounds
    have hfits := (defined_iff f hlt).mp hdefined
    exact ⟨hfits, (inBounds_iff f hfits).mp hinBounds⟩
  · rintro ⟨hfits, hchroma⟩
    have hlt := rounded_lt_of_fits f hfits
    have hencoded : encodedHeight mode f = roundedHeight mode f := by
      rw [encodedHeight_eq, if_pos hlt]
    refine ⟨?_, ?_⟩
    · rw [hencoded]
      exact (defined_iff f hlt).mpr hfits
    · rw [hencoded]
      exact (inBounds_iff f hfits).mpr hchroma

def oddFrame : I420Frame where
  width := 640
  height := 361
  strideY := 640
  strideU := 320
  strideV := 320
  width_pos := by decide
  height_pos := by decide
  strideY_le := by decide
  strideU_le := by decide
  strideV_le := by decide
  height_lt := by decide
  strideY_lt := by decide
  strideU_lt := by decide
  strideV_lt := by decide

/-- Its last chroma row runs over the end of the buffer. -/
theorem oddFrame_unsafe : ¬ Safe .noChange oddFrame := by
  intro h
  have hencoded : encodedHeight .noChange oddFrame = 361 := by decide
  have hinBounds := h.inBounds
  rw [hencoded, crop_inBounds_iff oddFrame (by decide) (by decide)] at hinBounds
  revert hinBounds
  decide

end WeiRtcNative.H264.FrameCopy
