import WeiRtcNative.Lib.RowCopy
import WeiRtcNative.H264.FrameCopy

/-!
# Luma and chroma of the copied frame

What `FromVideoFrame` leaves in the media buffer: the frame shifted to the middle and mirrored at
its first and last row. Luma is shifted by half of the rows that are added or cut off, chroma by
half of that, rounded towards zero. The two agree if luma is shifted by an even number of rows.
-/

namespace WeiRtcNative.H264.FrameAlignment

open RowCopy Encoder
open FrameCopy (I420Frame Access Layout Nv12Args layout nv12Args encodedHeight roundedHeight
  intermediates FitsInt ArithmeticFits)
set_option autoImplicit false

structure Planes where
  dataY : Int → UInt8
  dataU : Int → UInt8
  dataV : Int → UInt8

def copyPlane (src dst stride width height : Int) (memory : Int → UInt8) : Int → UInt8 :=
  let count := height.natAbs
  if height < 0 then
    copyRows src stride (dst + (count - 1) * stride) (-stride) width count memory
  else copyRows src stride dst stride width count memory

section Copy
variable (f : I420Frame) (p : Planes) (a : Nv12Args) (l : Layout)

def lumaBytes (row : Nat) (x : Int) : UInt8 := p.dataY (a.srcY + row * f.strideY + x)

/-- A row of U and one of V, byte by byte in turn. -/
def chromaBytes (row : Nat) (x : Int) : UInt8 :=
  if x % 2 = 0 then p.dataU (a.srcU + row * f.strideU + x / 2)
  else p.dataV (a.srcV + row * f.strideV + x / 2)

def i420ToNv12 (memory : Int → UInt8) : Int → UInt8 :=
  writeRows a.dstUv f.strideY (2 * f.chromaWidth) (chromaBytes f p a) ((a.height + 1) / 2).toNat
    (writeRows a.dstY f.strideY f.width (lumaBytes f p a) a.height.toNat memory)

def padTop (memory : Int → UInt8) : Int → UInt8 :=
  if l.paddingTopY > 0 then
    copyPlane a.dstUv (a.dstUv - f.strideY * l.paddingTopUv) f.strideY f.width (-l.paddingTopUv)
      (copyPlane a.dstY 0 f.strideY f.width (-l.paddingTopY) memory)
  else memory

def padBottom (memory : Int → UInt8) : Int → UInt8 :=
  if l.paddingBottomY > 0 then
    let dstEndY := a.dstY + f.strideY * f.height % 2 ^ 32
    let dstEndUv := a.dstUv + f.strideY * f.chromaHeight
    copyPlane (dstEndUv - f.strideY * l.paddingBottomUv) dstEndUv f.strideY f.width
        (-l.paddingBottomUv)
      (copyPlane (dstEndY - f.strideY * l.paddingBottomY) dstEndY f.strideY f.width
        (-l.paddingBottomY) memory)
  else memory

end Copy

/-- The media buffer after the copy, where `memory` is what it held before. -/
def fromVideoFrame (f : I420Frame) (l : Layout) (p : Planes) (memory : Int → UInt8) :
    Int → UInt8 :=
  padBottom f (nv12Args f l) l (padTop f (nv12Args f l) l (i420ToNv12 f p (nv12Args f l) memory))

/-- A row number mirrored at row 0 and row `height - 1`. -/
def reflect (height z : Int) : Int :=
  if z < 0 then -1 - z else if z < height then z else 2 * height - 1 - z

def sourceRow (f : I420Frame) (l : Layout) (y : Int) : Int := reflect f.height (y - l.paddingTopY)

/-- The picture in the buffer is the source picture, shifted and mirrored as a whole. -/
structure Aligned (mode : FrameHeightRoundMode) (f : I420Frame) (p : Planes)
    (memory : Int → UInt8) : Prop where
  defined : ∀ x ∈ intermediates f (layout f (encodedHeight mode f)), FitsInt x
  luma : ∀ y x, 0 ≤ y → y < encodedHeight mode f → 0 ≤ x → x < f.width →
    fromVideoFrame f (layout f (encodedHeight mode f)) p memory (f.strideY * y + x) =
      p.dataY (f.strideY * sourceRow f (layout f (encodedHeight mode f)) y + x)
  chroma : ∀ c x, 0 ≤ c → c < encodedHeight mode f / 2 → 0 ≤ x → x < f.width / 2 →
    let out := fromVideoFrame f (layout f (encodedHeight mode f)) p memory
    let start := f.strideY * (encodedHeight mode f + c)
    let row := sourceRow f (layout f (encodedHeight mode f)) (2 * c) / 2
    out (start + 2 * x) = p.dataU (f.strideU * row + x) ∧
      out (start + 2 * x + 1) = p.dataV (f.strideV * row + x)
  oneRow : ∀ c, 0 ≤ c → c < encodedHeight mode f / 2 →
    sourceRow f (layout f (encodedHeight mode f)) (2 * c) / 2 =
      sourceRow f (layout f (encodedHeight mode f)) (2 * c + 1) / 2

section Rows
variable {f : I420Frame} {p : Planes} {memory : Int → UInt8} {x : Int}

/-- Rows written upside down beside the rows they come from. -/
theorem copyPlane_rowAt {src dst count r : Int} (hx : 0 ≤ x) (hwidth : x < f.width)
    (hcount : 0 ≤ count) (hapart : src + count ≤ dst ∨ dst + count ≤ src) :
    rowAt f.strideY (copyPlane (f.strideY * src) (f.strideY * dst) f.strideY f.width (-count)
        memory) r x =
      if dst ≤ r ∧ r < dst + count then rowAt f.strideY memory (src + (dst + count - 1 - r)) x
      else rowAt f.strideY memory r x := by
  obtain ⟨n, rfl⟩ := Int.eq_ofNat_of_zero_le hcount
  have habs : (-(n : Int)).natAbs = n := by omega
  unfold copyPlane
  dsimp only
  rw [habs]
  by_cases hzero : n = 0
  · subst hzero
    rw [if_neg (by omega), if_neg (by omega)]
    rfl
  · have hstart : f.strideY * dst + ((n : Int) - 1) * f.strideY = f.strideY * (dst + n - 1) := by
      ring
    rw [if_pos (by omega), hstart, copyRows_rowAt hx hwidth f.strideY_le hapart n (Nat.le_refl n)]
    congr 1
    simp only [Int.add_sub_cancel]

/-- Luma rows in front of row `top`, and chroma rows in front of row `e + topUv`. -/
theorem padTop_rowAt {a : Nv12Args} {l : Layout} {e r : Int} (hx : 0 ≤ x) (hwidth : x < f.width)
    (hdstY : a.dstY = f.strideY * l.paddingTopY)
    (hdstUv : a.dstUv = f.strideY * (e + l.paddingTopUv)) (htop : 0 < l.paddingTopY)
    (htopUv : 0 ≤ l.paddingTopUv) (hle : l.paddingTopY ≤ e) :
    rowAt f.strideY (padTop f a l memory) r x =
      if 0 ≤ r ∧ r < l.paddingTopY then rowAt f.strideY memory (2 * l.paddingTopY - 1 - r) x
      else if e ≤ r ∧ r < e + l.paddingTopUv then
        rowAt f.strideY memory (2 * (e + l.paddingTopUv) - 1 - r) x
      else rowAt f.strideY memory r x := by
  have hfirst : copyPlane (f.strideY * l.paddingTopY) 0 f.strideY f.width (-l.paddingTopY) memory =
      copyPlane (f.strideY * l.paddingTopY) (f.strideY * 0) f.strideY f.width (-l.paddingTopY)
        memory := by
    rw [Int.mul_zero]
  unfold padTop
  rw [if_pos htop, hdstY, hdstUv, ← Int.mul_sub, Int.add_sub_cancel, hfirst,
    copyPlane_rowAt hx hwidth htopUv (.inr (Int.le_refl _)),
    copyPlane_rowAt hx hwidth (by omega) (.inr (by omega)),
    copyPlane_rowAt hx hwidth (by omega) (.inr (by omega))]
  by_cases hluma : 0 ≤ r ∧ r < l.paddingTopY
  · rw [if_neg (by omega), if_pos (by omega), if_pos hluma]
    congr 1
    omega
  · by_cases hchroma : e ≤ r ∧ r < e + l.paddingTopUv
    · rw [if_pos hchroma, if_neg (by omega), if_neg hluma, if_pos hchroma]
      congr 1
      omega
    · rw [if_neg hchroma, if_neg (by omega), if_neg hluma, if_neg hchroma]

/-- Luma rows from row `endY` on, and chroma rows from row `endUv` on. -/
theorem padBottom_rowAt {a : Nv12Args} {l : Layout} {endY endUv r : Int} (hx : 0 ≤ x)
    (hwidth : x < f.width) (hendY : a.dstY + f.strideY * f.height % 2 ^ 32 = f.strideY * endY)
    (hendUv : a.dstUv + f.strideY * f.chromaHeight = f.strideY * endUv)
    (hbottom : 0 < l.paddingBottomY) (hbottomUv : 0 ≤ l.paddingBottomUv)
    (hle : endY + l.paddingBottomY ≤ endUv - l.paddingBottomUv) :
    rowAt f.strideY (padBottom f a l memory) r x =
      if endY ≤ r ∧ r < endY + l.paddingBottomY then rowAt f.strideY memory (2 * endY - 1 - r) x
      else if endUv ≤ r ∧ r < endUv + l.paddingBottomUv then
        rowAt f.strideY memory (2 * endUv - 1 - r) x
      else rowAt f.strideY memory r x := by
  unfold padBottom
  dsimp only
  rw [if_pos hbottom, hendY, hendUv, ← Int.mul_sub, ← Int.mul_sub,
    copyPlane_rowAt hx hwidth hbottomUv (.inl (by omega)),
    copyPlane_rowAt hx hwidth (by omega) (.inl (by omega)),
    copyPlane_rowAt hx hwidth (by omega) (.inl (by omega))]
  by_cases hluma : endY ≤ r ∧ r < endY + l.paddingBottomY
  · rw [if_neg (by omega), if_pos hluma, if_pos hluma]
    congr 1
    omega
  · by_cases hchroma : endUv ≤ r ∧ r < endUv + l.paddingBottomUv
    · rw [if_pos hchroma, if_neg (by omega), if_neg hluma, if_pos hchroma]
      congr 1
      omega
    · rw [if_neg hchroma, if_neg hluma, if_neg hluma, if_neg hchroma]

theorem i420ToNv12_rowAt {a : Nv12Args} {top e topUv r : Int} (hx : 0 ≤ x) (hwidth : x < f.width)
    (heven : f.width % 2 = 0) (hdstY : a.dstY = f.strideY * top)
    (hdstUv : a.dstUv = f.strideY * (e + topUv)) (hheight : 0 ≤ a.height) :
    rowAt f.strideY (i420ToNv12 f p a memory) r x =
      if e + topUv ≤ r ∧ r < e + topUv + (a.height + 1) / 2 then
        chromaBytes f p a (r - (e + topUv)).toNat x
      else if top ≤ r ∧ r < top + a.height then lumaBytes f p a (r - top).toNat x
      else rowAt f.strideY memory r x := by
  have hchroma : 2 * f.chromaWidth = f.width := by
    unfold I420Frame.chromaWidth
    omega
  have hluma : ((a.height.toNat : Nat) : Int) = a.height := by omega
  have hrows : ((((a.height + 1) / 2).toNat : Nat) : Int) = (a.height + 1) / 2 := by omega
  unfold i420ToNv12
  rw [hdstY, hdstUv, hchroma, writeRows_rowAt hx hwidth f.strideY_le,
    writeRows_rowAt hx hwidth f.strideY_le, hluma, hrows]

end Rows

section Frame
variable {f : I420Frame} {p : Planes} {memory : Int → UInt8} {byte : Int}

/-- The accesses write none of the byte. -/
def Untouched (byte : Int) (accesses : List Access) : Prop :=
  ∀ access ∈ accesses, access.block = .destBuffer →
    ¬(access.offset ≤ byte ∧ byte < access.offset + access.length)

theorem untouched_append {xs ys : List Access} :
    Untouched byte (xs ++ ys) ↔ Untouched byte xs ∧ Untouched byte ys :=
  List.forall_mem_append

theorem untouched_rows {start stride length : Int} {count : Nat} :
    Untouched byte (FrameCopy.rows .destBuffer start stride length count) ↔
      ∀ o ∈ RowAccess.offsets start stride count, ¬(o ≤ byte ∧ byte < o + length) := by
  simp [Untouched, FrameCopy.rows]

theorem copyPlane_untouched {src dst stride width height : Int}
    (h : Untouched byte (FrameCopy.copyPlane src dst stride width height)) :
    copyPlane src dst stride width height memory byte = memory byte := by
  unfold FrameCopy.copyPlane at h
  unfold copyPlane
  have hwritten := (untouched_append.mp h).2
  split
  · rename_i hneg
    rw [if_pos hneg, untouched_rows] at hwritten
    exact copyRows_other _ hwritten
  · rename_i hneg
    rw [if_neg hneg, untouched_rows] at hwritten
    exact copyRows_other _ hwritten

theorem i420ToNv12_untouched {a : Nv12Args} (h : Untouched byte (FrameCopy.i420ToNv12 f a)) :
    i420ToNv12 f p a memory byte = memory byte := by
  unfold FrameCopy.i420ToNv12 at h
  simp only [untouched_append, untouched_rows] at h
  unfold i420ToNv12
  rw [writeRows_other _ h.2, writeRows_other _ h.1.2]

/-- The bytes that the list of accesses does not mention keep their values. -/
theorem fromVideoFrame_untouched {l : Layout} (h : Untouched byte (FrameCopy.accesses f l)) :
    fromVideoFrame f l p memory byte = memory byte := by
  unfold FrameCopy.accesses at h
  obtain ⟨⟨himage, htop⟩, hbottom⟩ :=
    (untouched_append.trans (and_congr_left' untouched_append)).mp h
  have hpadTop : padTop f (nv12Args f l) l (i420ToNv12 f p (nv12Args f l) memory) byte =
      memory byte := by
    unfold FrameCopy.padTop at htop
    unfold padTop
    split
    · rename_i hpad
      rw [if_pos hpad, untouched_append] at htop
      rw [copyPlane_untouched htop.2, copyPlane_untouched htop.1, i420ToNv12_untouched himage]
    · exact i420ToNv12_untouched himage
  unfold FrameCopy.padBottom at hbottom
  unfold fromVideoFrame padBottom
  split
  · rename_i hpad
    rw [if_pos hpad, untouched_append] at hbottom
    dsimp only at hbottom ⊢
    rw [copyPlane_untouched hbottom.2, copyPlane_untouched hbottom.1, hpadTop]
  · exact hpadTop

end Frame

/-- Byte `x` of the interleaved chroma rows of index `row`. -/
def chromaAt (f : I420Frame) (p : Planes) (row x : Int) : UInt8 :=
  if x % 2 = 0 then p.dataU (f.strideU * row + x / 2) else p.dataV (f.strideV * row + x / 2)

section Picture
variable {f : I420Frame} {p : Planes} {memory : Int → UInt8} {x : Int}

theorem lumaBytes_eq {a : Nv12Args} {offset : Int} (h : a.srcY = f.strideY * offset) (row : Nat) :
    lumaBytes f p a row x = rowAt f.strideY p.dataY (offset + row) x := by
  unfold lumaBytes rowAt
  rw [h, Int.mul_add, Int.mul_comm (row : Int)]

theorem chromaBytes_eq {a : Nv12Args} {offset : Int} (hU : a.srcU = f.strideU * offset)
    (hV : a.srcV = f.strideV * offset) (row : Nat) :
    chromaBytes f p a row x = chromaAt f p (offset + row) x := by
  unfold chromaBytes chromaAt
  rw [hU, hV, Int.mul_add, Int.mul_add, Int.mul_comm (row : Int), Int.mul_comm (row : Int)]

/-- The rows of the buffer are source rows, those of each plane shifted by its own padding. -/
structure Shifted (f : I420Frame) (p : Planes) (e : Int) (l : Layout) (out : Int → UInt8) :
    Prop where
  luma : ∀ y x, 0 ≤ y → y < e → 0 ≤ x → x < f.width →
    rowAt f.strideY out y x = rowAt f.strideY p.dataY (sourceRow f l y) x
  chroma : ∀ c x, 0 ≤ c → c < e / 2 → 0 ≤ x → x < f.width →
    rowAt f.strideY out (e + c) x =
      chromaAt f p (reflect f.chromaHeight (c - l.paddingTopUv)) x

theorem reflect_of_mem {height z : Int} (hz : 0 ≤ z) (hlt : z < height) : reflect height z = z := by
  rw [reflect, if_neg (by omega), if_pos hlt]

theorem crop_shifted {e : Int} (he : 0 ≤ e) (hle : e ≤ f.height) (heven : e % 2 = 0)
    (hwidth : f.width % 2 = 0) :
    Shifted f p e (layout f e) (fromVideoFrame f (layout f e) p memory) := by
  have hchroma : f.chromaHeight = (f.height + 1) / 2 := rfl
  rw [FrameCopy.layout_crop f he hle]
  generalize hl : Layout.mk _ _ _ _ _ _ = l
  have htopY : l.paddingTopY = -((f.height - e) / 2) := by rw [← hl]
  have htopUv : l.paddingTopUv = -((f.height - e) / 2 / 2) := by rw [← hl]
  have hbottomY : l.paddingBottomY = e - f.height + (f.height - e) / 2 := by rw [← hl]
  have hargs : nv12Args f l = ⟨f.strideY * ((f.height - e) / 2),
      f.strideU * ((f.height - e) / 2 / 2), f.strideV * ((f.height - e) / 2 / 2),
      f.strideY * 0, f.strideY * (e + 0), e⟩ := by
    unfold nv12Args
    rw [← hl]
    dsimp only
    rw [if_neg (by omega), Int.neg_neg, Int.neg_neg, Int.mul_zero, Int.add_zero]
  have hrun : fromVideoFrame f l p memory = i420ToNv12 f p (nv12Args f l) memory := by
    unfold fromVideoFrame padBottom padTop
    rw [if_neg (by omega), if_neg (by omega)]
  rw [hrun, hargs]
  constructor
  · intro y x hy hlt hx hxw
    rw [i420ToNv12_rowAt hx hxw hwidth rfl rfl he, if_neg (by omega),
      if_pos (show 0 ≤ y ∧ y < 0 + e by omega), lumaBytes_eq rfl, sourceRow,
      reflect_of_mem (by omega) (by omega)]
    congr 1
    omega
  · intro c x hc hlt hx hxw
    rw [i420ToNv12_rowAt hx hxw hwidth rfl rfl he, if_pos (by dsimp only; omega),
      chromaBytes_eq rfl rfl, reflect_of_mem (by omega) (by omega)]
    congr 1
    omega

/-- The geometry of a padded frame of even height, whose rows the padding mirrors. -/
structure Padded (f : I420Frame) (e : Int) (l : Layout) : Prop where
  topY : 0 < l.paddingTopY ∧ l.paddingTopY ≤ f.height
  bottomY : 0 < l.paddingBottomY ∧ l.paddingBottomY ≤ f.height
  rowsY : l.paddingTopY + f.height + l.paddingBottomY = e
  topUv : 0 ≤ l.paddingTopUv ∧ l.paddingTopUv ≤ f.chromaHeight
  bottomUv : 0 ≤ l.paddingBottomUv ∧ l.paddingBottomUv ≤ f.chromaHeight
  rowsUv : l.paddingTopUv + f.chromaHeight + l.paddingBottomUv = e / 2
  chromaHeight : (f.height + 1) / 2 = f.chromaHeight
  args : nv12Args f l = ⟨f.strideY * 0, f.strideU * 0, f.strideV * 0,
    f.strideY * l.paddingTopY, f.strideY * (e + l.paddingTopUv), f.height⟩
  wrap : f.strideY * f.height % 2 ^ 32 = f.strideY * f.height

theorem padded_layout {e : Int} (hlt : f.height < e) (hle : e ≤ f.height + 15) (heven : e % 16 = 0)
    (hheight : f.height % 2 = 0) (hmin : 16 ≤ f.height) (hproduct : f.strideY * e < 2 ^ 31) :
    Padded f e (layout f e) := by
  have hstride := FrameCopy.strideY_pos f
  have hchroma : f.chromaHeight = (f.height + 1) / 2 := rfl
  rw [FrameCopy.layout_pad f hlt]
  refine ⟨by dsimp only; omega, by dsimp only; omega, by dsimp only; omega, by dsimp only; omega,
    by dsimp only; omega, by dsimp only; omega, rfl, ?_, ?_⟩
  · unfold nv12Args
    dsimp only
    rw [if_pos hlt, Int.mul_add, Int.mul_zero, Int.mul_zero, Int.mul_zero]
  · have hnonneg : 0 ≤ f.strideY * f.height := Int.mul_nonneg (by omega) (by omega)
    have hmul : f.strideY * f.height ≤ f.strideY * e :=
      Int.mul_le_mul_of_nonneg_left (by omega) (by omega)
    exact Int.emod_eq_of_lt hnonneg (by omega)

namespace Padded
variable {e : Int} {l : Layout} (h : Padded f e l)
include h

theorem image_luma (hwidth : f.width % 2 = 0) {y : Int} (hy : l.paddingTopY ≤ y)
    (hyh : y < l.paddingTopY + f.height) (hx : 0 ≤ x) (hxw : x < f.width) :
    rowAt f.strideY (i420ToNv12 f p (nv12Args f l) memory) y x =
      rowAt f.strideY p.dataY (y - l.paddingTopY) x := by
  have hrows := h.rowsY
  have hbottom := h.bottomY
  have htopUv := h.topUv
  have hpos := f.height_pos
  rw [h.args, i420ToNv12_rowAt hx hxw hwidth rfl rfl (by dsimp only; omega), if_neg (by omega),
    if_pos ⟨hy, hyh⟩, lumaBytes_eq rfl]
  congr 1
  omega

theorem image_chroma (hwidth : f.width % 2 = 0) {c : Int} (hc : l.paddingTopUv ≤ c)
    (hch : c < l.paddingTopUv + f.chromaHeight) (hx : 0 ≤ x) (hxw : x < f.width) :
    rowAt f.strideY (i420ToNv12 f p (nv12Args f l) memory) (e + c) x =
      chromaAt f p (c - l.paddingTopUv) x := by
  have hpos := f.height_pos
  have hchroma := h.chromaHeight
  rw [h.args, i420ToNv12_rowAt hx hxw hwidth rfl rfl (by dsimp only; omega),
    if_pos (by dsimp only; omega), chromaBytes_eq rfl rfl]
  congr 1
  omega

theorem top_rowAt {r : Int} (hx : 0 ≤ x) (hxw : x < f.width) :
    rowAt f.strideY (padTop f (nv12Args f l) l memory) r x =
      if 0 ≤ r ∧ r < l.paddingTopY then rowAt f.strideY memory (2 * l.paddingTopY - 1 - r) x
      else if e ≤ r ∧ r < e + l.paddingTopUv then
        rowAt f.strideY memory (2 * (e + l.paddingTopUv) - 1 - r) x
      else rowAt f.strideY memory r x := by
  have hrows := h.rowsY
  have hbottom := h.bottomY
  have hpos := f.height_pos
  exact padTop_rowAt hx hxw (by rw [h.args]) (by rw [h.args]) h.topY.1 h.topUv.1 (by omega)

theorem bottom_rowAt {r : Int} (hx : 0 ≤ x) (hxw : x < f.width) :
    rowAt f.strideY (padBottom f (nv12Args f l) l memory) r x =
      if l.paddingTopY + f.height ≤ r ∧ r < e then
        rowAt f.strideY memory (2 * (l.paddingTopY + f.height) - 1 - r) x
      else if e + l.paddingTopUv + f.chromaHeight ≤ r ∧ r < e + e / 2 then
        rowAt f.strideY memory (2 * (e + l.paddingTopUv + f.chromaHeight) - 1 - r) x
      else rowAt f.strideY memory r x := by
  have hrows := h.rowsY
  have hrowsUv := h.rowsUv
  have hbottom := h.bottomUv
  have htop := h.topUv
  have hend : l.paddingTopY + f.height + l.paddingBottomY ≤
      e + l.paddingTopUv + f.chromaHeight - l.paddingBottomUv := by omega
  rw [padBottom_rowAt hx hxw (by rw [h.args, h.wrap, ← Int.mul_add]) (by rw [h.args, ← Int.mul_add])
    h.bottomY.1 h.bottomUv.1 hend, hrows,
    show e + l.paddingTopUv + f.chromaHeight + l.paddingBottomUv = e + e / 2 by omega]

theorem luma_rowAt (hwidth : f.width % 2 = 0) {y : Int} (hy : 0 ≤ y) (hye : y < e) (hx : 0 ≤ x)
    (hxw : x < f.width) :
    rowAt f.strideY (fromVideoFrame f l p memory) y x =
      rowAt f.strideY p.dataY (sourceRow f l y) x := by
  obtain ⟨htop, htoph⟩ := h.topY
  obtain ⟨hbottom, hbottomh⟩ := h.bottomY
  have hrows := h.rowsY
  have htopUv := h.topUv
  have hchroma := h.chromaHeight
  unfold fromVideoFrame sourceRow reflect
  rw [h.bottom_rowAt hx hxw]
  by_cases hbelow : l.paddingTopY + f.height ≤ y
  · rw [if_pos ⟨hbelow, hye⟩, h.top_rowAt hx hxw, if_neg (by omega), if_neg (by omega),
      h.image_luma hwidth (by omega) (by omega) hx hxw, if_neg (by omega), if_neg (by omega)]
    congr 1
    omega
  · rw [if_neg (by omega), if_neg (by omega), h.top_rowAt hx hxw]
    by_cases habove : y < l.paddingTopY
    · rw [if_pos ⟨hy, habove⟩, h.image_luma hwidth (by omega) (by omega) hx hxw,
        if_pos (by omega)]
      congr 1
      omega
    · rw [if_neg (by omega), if_neg (by omega), h.image_luma hwidth (by omega) (by omega) hx hxw,
        if_neg (by omega), if_pos (by omega)]

theorem chroma_rowAt (hwidth : f.width % 2 = 0) {c : Int} (hc : 0 ≤ c) (hce : c < e / 2)
    (hx : 0 ≤ x) (hxw : x < f.width) :
    rowAt f.strideY (fromVideoFrame f l p memory) (e + c) x =
      chromaAt f p (reflect f.chromaHeight (c - l.paddingTopUv)) x := by
  obtain ⟨htop, htoph⟩ := h.topUv
  obtain ⟨hbottom, hbottomh⟩ := h.bottomUv
  have hrows := h.rowsUv
  have hrowsY := h.rowsY
  have htopY := h.topY
  have hbottomY := h.bottomY
  have hpos := f.height_pos
  unfold fromVideoFrame reflect
  rw [h.bottom_rowAt hx hxw, if_neg (by omega)]
  by_cases hbelow : l.paddingTopUv + f.chromaHeight ≤ c
  · have hmirror : 2 * (e + l.paddingTopUv + f.chromaHeight) - 1 - (e + c) =
        e + (2 * (l.paddingTopUv + f.chromaHeight) - 1 - c) := by omega
    rw [if_pos (by omega), hmirror, h.top_rowAt hx hxw, if_neg (by omega), if_neg (by omega),
      h.image_chroma hwidth (by omega) (by omega) hx hxw, if_neg (by omega), if_neg (by omega)]
    congr 1
    omega
  · rw [if_neg (by omega), h.top_rowAt hx hxw, if_neg (by omega)]
    by_cases habove : c < l.paddingTopUv
    · have hmirror : 2 * (e + l.paddingTopUv) - 1 - (e + c) =
          e + (2 * l.paddingTopUv - 1 - c) := by omega
      rw [if_pos (by omega), hmirror, h.image_chroma hwidth (by omega) (by omega) hx hxw,
        if_pos (by omega)]
      congr 1
      omega
    · rw [if_neg (by omega), h.image_chroma hwidth (by omega) (by omega) hx hxw,
        if_neg (by omega), if_pos (by omega)]

end Padded

/-- Both planes are shifted and mirrored, whether the frame is cropped or padded. -/
theorem shifted {e : Int} (he : 0 ≤ e) (hle : e ≤ f.height + 15) (heven : e % 16 = 0)
    (hheight : f.height % 2 = 0) (hmin : 16 ≤ f.height) (hwidth : f.width % 2 = 0)
    (hproduct : f.strideY * e < 2 ^ 31) :
    Shifted f p e (layout f e) (fromVideoFrame f (layout f e) p memory) := by
  by_cases hcrop : e ≤ f.height
  · exact crop_shifted he hcrop (by omega) hwidth
  · have hpadded := padded_layout (by omega) hle heven hheight hmin hproduct
    constructor
    · intro y x hy hye hx hxw
      exact hpadded.luma_rowAt hwidth hy hye hx hxw
    · intro c x hc hce hx hxw
      exact hpadded.chroma_rowAt hwidth hc hce hx hxw

end Picture

section Parity
variable {f : I420Frame}

theorem two_mul_paddingTopY {e : Int} (h : (e - f.height) % 2 = 0) :
    2 * (layout f e).paddingTopY = e - f.height :=
  Int.mul_tdiv_cancel' (by omega)

theorem two_mul_paddingTopUv {e : Int} (h : (layout f e).paddingTopY % 2 = 0) :
    2 * (layout f e).paddingTopUv = (layout f e).paddingTopY :=
  Int.mul_tdiv_cancel' (Int.dvd_of_emod_eq_zero h)

/-- A shift by whole chroma rows keeps the two luma rows of a chroma row together. -/
theorem reflect_half {height shift c : Int} :
    reflect (2 * height) (2 * c - 2 * shift) / 2 = reflect height (c - shift) ∧
      reflect (2 * height) (2 * c + 1 - 2 * shift) / 2 = reflect height (c - shift) := by
  unfold reflect
  constructor
  · split_ifs <;> omega
  · split_ifs <;> omega

theorem sourceRow_half {l : Layout} (hheight : f.height = 2 * f.chromaHeight)
    (htop : 2 * l.paddingTopUv = l.paddingTopY) (c : Int) :
    sourceRow f l (2 * c) / 2 = reflect f.chromaHeight (c - l.paddingTopUv) ∧
      sourceRow f l (2 * c + 1) / 2 = reflect f.chromaHeight (c - l.paddingTopUv) := by
  unfold sourceRow
  rw [hheight, ← htop]
  exact reflect_half

/-- An odd shift parts them somewhere in the middle of the picture. -/
theorem exists_parted {height shift rows : Int} (hodd : shift % 2 = 1) (hlow : -7 ≤ shift)
    (hhigh : shift ≤ 7) (hheight : 16 ≤ height) (hrows : 8 ≤ rows) :
    ∃ c, 0 ≤ c ∧ c < rows ∧
      reflect height (2 * c - shift) / 2 ≠ reflect height (2 * c + 1 - shift) / 2 := by
  refine ⟨if shift < 0 then 0 else (shift + 1) / 2, ?_, ?_, ?_⟩
  · split <;> omega
  · split <;> omega
  · rw [reflect_of_mem (by split <;> omega) (by split <;> omega),
      reflect_of_mem (by split <;> omega) (by split <;> omega)]
    split <;> omega

theorem chromaAt_even (f : I420Frame) (p : Planes) (row x : Int) :
    chromaAt f p row (2 * x) = p.dataU (f.strideU * row + x) := by
  rw [chromaAt, if_pos (by omega), Int.mul_ediv_cancel_left _ (by decide)]

theorem chromaAt_odd (f : I420Frame) (p : Planes) (row x : Int) :
    chromaAt f p row (2 * x + 1) = p.dataV (f.strideV * row + x) := by
  rw [chromaAt, if_neg (by omega), show (2 * x + 1) / 2 = x by omega]

theorem roundedHeight_multiple {mode : FrameHeightRoundMode} (hmode : mode ≠ .noChange)
    (hmin : 16 ≤ f.height) :
    roundedHeight mode f % 16 = 0 ∧ 16 ≤ roundedHeight mode f ∧
      f.height - 15 ≤ roundedHeight mode f ∧ roundedHeight mode f ≤ f.height + 15 := by
  rw [FrameCopy.roundedHeight_eq]
  cases mode with
  | noChange => exact absurd rfl hmode
  | crop =>
    dsimp only
    omega
  | pad =>
    dsimp only
    omega

/-- The values of the copy are defined just if they fit, and the height is then what it should
be. -/
theorem defined_iff_fits (mode : FrameHeightRoundMode) :
    (∀ x ∈ intermediates f (layout f (encodedHeight mode f)), FitsInt x) ↔
      ArithmeticFits f (roundedHeight mode f) ∧ encodedHeight mode f = roundedHeight mode f := by
  constructor
  · intro h
    have hlt := FrameCopy.rounded_lt_of_defined f h
    have hencoded : encodedHeight mode f = roundedHeight mode f := by
      rw [FrameCopy.encodedHeight_eq, if_pos hlt]
    rw [hencoded] at h
    exact ⟨(FrameCopy.defined_iff f hlt).mp h, hencoded⟩
  · rintro ⟨hfits, hencoded⟩
    rw [hencoded]
    exact (FrameCopy.defined_iff f (FrameCopy.rounded_lt_of_fits f hfits)).mpr hfits

end Parity

/-- Cropped or padded to 16 rows, a frame of even size keeps luma and chroma together just when
its height is a multiple of 4, as far as the arithmetic of the copy fits. -/
theorem frame_aligned_iff (mode : FrameHeightRoundMode) (f : I420Frame) (p : Planes)
    (memory : Int → UInt8) (hmode : mode ≠ .noChange) (hwidth : f.width % 2 = 0)
    (hheight : f.height % 2 = 0) (hmin : 16 ≤ f.height) :
    Aligned mode f p memory ↔
      ArithmeticFits f (roundedHeight mode f) ∧ f.height % 4 = 0 := by
  obtain ⟨hmultiple, hrows, hlow, hhigh⟩ := roundedHeight_multiple hmode hmin
  have htop : 2 * (layout f (roundedHeight mode f)).paddingTopY =
      roundedHeight mode f - f.height := two_mul_paddingTopY (by omega)
  constructor
  · intro h
    obtain ⟨hfits, hencoded⟩ := (defined_iff_fits mode).mp h.defined
    refine ⟨hfits, ?_⟩
    by_contra hodd
    have hrow := h.oneRow
    rw [hencoded] at hrow
    obtain ⟨c, hc, hlt, hparted⟩ := exists_parted
      (show (layout f (roundedHeight mode f)).paddingTopY % 2 = 1 by omega) (by omega) (by omega)
      hmin (show 8 ≤ roundedHeight mode f / 2 by omega)
    exact hparted (hrow c hc hlt)
  · rintro ⟨hfits, hfour⟩
    have hencoded : encodedHeight mode f = roundedHeight mode f := by
      rw [FrameCopy.encodedHeight_eq, if_pos (FrameCopy.rounded_lt_of_fits f hfits)]
    have hproduct : f.strideY * roundedHeight mode f < 2 ^ 31 := by
      have htotal := hfits.totalSize
      have hstride := FrameCopy.strideY_pos f
      have hnonneg : 0 ≤ f.strideY * roundedHeight mode f := Int.mul_nonneg (by omega) (by omega)
      omega
    have hshifted : Shifted f p _ _ (fromVideoFrame f _ p memory) :=
      shifted (by omega) hhigh hmultiple hheight hmin hwidth hproduct
    have hhalf : ∀ c, _ := sourceRow_half (l := layout f (roundedHeight mode f))
      (show f.height = 2 * f.chromaHeight by unfold I420Frame.chromaHeight; omega)
      (two_mul_paddingTopUv (by omega))
    refine ⟨(defined_iff_fits mode).mpr ⟨hfits, hencoded⟩, ?_, ?_, ?_⟩
    · rw [hencoded]
      exact hshifted.luma
    · rw [hencoded]
      intro c x hc hlt hx hxw
      dsimp only
      rw [(hhalf c).1, ← chromaAt_even, ← chromaAt_odd, Int.add_assoc]
      exact ⟨hshifted.chroma c (2 * x) hc hlt (by omega) (by omega),
        hshifted.chroma c (2 * x + 1) hc hlt (by omega) (by omega)⟩
    · rw [hencoded]
      intro c _ _
      rw [(hhalf c).1, (hhalf c).2]

def smallFrame (height : Int) (hpos : 1 ≤ height) (hlt : height < 2 ^ 31) : I420Frame where
  width := 32
  height := height
  strideY := 32
  strideU := 16
  strideV := 16
  width_pos := by decide
  height_pos := hpos
  strideY_le := by decide
  strideU_le := by decide
  strideV_le := by decide
  height_lt := hlt
  strideY_lt := by decide
  strideU_lt := by decide
  strideV_lt := by decide

def numbered : Planes where
  dataY a := UInt8.ofInt (a / 32)
  dataU a := UInt8.ofInt (a / 16)
  dataV a := UInt8.ofInt (a / 16)

theorem twenty_rows_aligned :
    Aligned .pad (smallFrame 20 (by decide) (by decide)) numbered fun _ => 0 := by
  refine (frame_aligned_iff .pad (smallFrame 20 (by decide) (by decide)) numbered (fun _ => 0)
    (by decide) (by decide) (by decide) (by decide)).mpr ⟨⟨?_, ?_, ?_, ?_⟩, by decide⟩
  all_goals decide

/-- Luma moves up by one row and chroma stays where it is. -/
theorem eighteen_rows_misaligned :
    ¬ Aligned .crop (smallFrame 18 (by decide) (by decide)) numbered fun _ => 0 := by
  intro h
  have hrow := h.oneRow 0 (by decide) (by decide)
  revert hrow
  decide

end WeiRtcNative.H264.FrameAlignment
