import WeiRtcNative.H264.FrameAlignment

/-!
# NV12 pictures, written and read

The decoder takes a picture out of an NV12 buffer with the width of the output type as its stride
and the chroma behind all of its rows. The encoder declares its buffer by a frame size alone and
writes it with the stride of the frame.
-/

namespace WeiRtcNative.H264.NV12Pictures

open RowAccess RowCopy Encoder FrameAlignment
open FrameCopy (I420Frame Access Layout layout nv12Args encodedHeight roundedHeight ArithmeticFits)
set_option autoImplicit false

/-- An aperture whose offsets are whole samples. -/
structure VideoArea where
  offsetX : Int
  offsetY : Int
  cx : UInt32
  cy : UInt32
  deriving DecidableEq, Repr

structure OutputType where
  bufferWidth : UInt32
  bufferHeight : UInt32
  minimumDisplayAperture : Option VideoArea
  deriving DecidableEq, Repr

namespace OutputType
variable (o : OutputType)

def width : UInt32 := o.minimumDisplayAperture.elim o.bufferWidth VideoArea.cx

def height : UInt32 := o.minimumDisplayAperture.elim o.bufferHeight VideoArea.cy

def stride : Int := o.bufferWidth.toNat

/-- `src_stride_y * buffer_height`, a product in 32 bits without sign. -/
def srcUv : Int := (o.bufferWidth * o.bufferHeight).toNat

end OutputType

/-- The samples of an I420 buffer by row and column. -/
structure Samples where
  dataY : Int → Int → UInt8
  dataU : Int → Int → UInt8
  dataV : Int → Int → UInt8

/-- `NV12ToI420` as `FlushFrames` calls it. -/
def nv12ToI420 (o : OutputType) (data : Int → UInt8) : Samples where
  dataY y x := data (o.stride * y + x)
  dataU y x := data (o.srcUv + o.stride * y + 2 * x)
  dataV y x := data (o.srcUv + o.stride * y + 2 * x + 1)

/-- The rows of luma and of interleaved chroma that it reads, by offset and length. -/
def reads (o : OutputType) : List (Int × Int) :=
  (offsets 0 o.stride o.height.toNat).map (·, (o.width.toNat : Int)) ++
  (offsets o.srcUv o.stride ((o.height.toNat + 1) / 2)).map
    (·, 2 * (((o.width.toNat : Int) + 1) / 2))

section Output

def OutputType.offsetX (o : OutputType) : Int :=
  o.minimumDisplayAperture.elim 0 VideoArea.offsetX

def OutputType.offsetY (o : OutputType) : Int :=
  o.minimumDisplayAperture.elim 0 VideoArea.offsetY

/-- The bytes of an NV12 image of the frame size. -/
def OutputType.imageSize (o : OutputType) : Int :=
  o.stride * o.bufferHeight.toNat + o.stride * o.bufferHeight.toNat / 2

/-- What a decoder for 4:2:0 video announces: even sizes and an aperture within the frame. -/
structure Announced (o : OutputType) : Prop where
  size_lt : o.imageSize < 2 ^ 31
  width_even : o.stride % 2 = 0
  height_even : o.bufferHeight.toNat % 2 = 0
  nonempty : 1 ≤ o.width.toNat ∧ 1 ≤ o.height.toNat
  offsetX_even : 0 ≤ o.offsetX ∧ o.offsetX % 2 = 0
  offsetY_even : 0 ≤ o.offsetY ∧ o.offsetY % 2 = 0
  right : o.offsetX + o.width.toNat ≤ o.stride
  bottom : o.offsetY + o.height.toNat ≤ o.bufferHeight.toNat

/-- The part of the image within the aperture. -/
def visible (o : OutputType) (data : Int → UInt8) : Samples where
  dataY y x := data (o.stride * (o.offsetY + y) + (o.offsetX + x))
  dataU y x := data (o.stride * (o.bufferHeight.toNat + o.offsetY / 2 + y) + (o.offsetX + 2 * x))
  dataV y x :=
    data (o.stride * (o.bufferHeight.toNat + o.offsetY / 2 + y) + (o.offsetX + 2 * x + 1))

/-- The pictures agree on the samples of their size. -/
structure SameOn (width height : Int) (s t : Samples) : Prop where
  luma : ∀ y x, 0 ≤ y → y < height → 0 ≤ x → x < width → s.dataY y x = t.dataY y x
  chroma : ∀ y x, 0 ≤ y → y < (height + 1) / 2 → 0 ≤ x → x < (width + 1) / 2 →
    s.dataU y x = t.dataU y x ∧ s.dataV y x = t.dataV y x

variable {o : OutputType}

theorem srcUv_eq (h : o.imageSize < 2 ^ 31) : o.srcUv = o.stride * o.bufferHeight.toNat := by
  have hnonneg : (0 : Int) ≤ o.bufferWidth.toNat * o.bufferHeight.toNat :=
    Int.mul_nonneg (by omega) (by omega)
  unfold OutputType.imageSize OutputType.stride at h
  unfold OutputType.srcUv OutputType.stride
  rw [UInt32.toNat_mul, Nat.mod_eq_of_lt]
  · push_cast
    rfl
  · have hcast : ((o.bufferWidth.toNat * o.bufferHeight.toNat : Nat) : Int) < 2 ^ 32 := by
      push_cast
      omega
    exact_mod_cast hcast

/-- No byte behind an image of the frame size is read. -/
theorem reads_inside (h : Announced o) : ∀ r ∈ reads o, Inside o.imageSize r.2 r.1 := by
  have hright := h.right
  have hbottom := h.bottom
  have hx := h.offsetX_even
  have hy := h.offsetY_even
  have hheight := h.height_even
  have hwidth := h.width_even
  have hstride : 0 ≤ o.stride := by
    unfold OutputType.stride
    omega
  have hrows : o.stride * o.bufferHeight.toNat + o.stride * o.bufferHeight.toNat / 2 =
      o.stride * (o.bufferHeight.toNat + o.bufferHeight.toNat / 2) := by
    obtain ⟨half, hhalf⟩ : ∃ half, o.bufferHeight.toNat = 2 * half :=
      ⟨o.bufferHeight.toNat / 2, by omega⟩
    rw [hhalf]
    push_cast
    rw [show o.stride * (2 * (half : Int)) = 2 * (o.stride * half) by ring,
      Int.mul_ediv_cancel_left _ (by decide), Int.mul_ediv_cancel_left _ (by decide)]
    ring
  intro r hr
  unfold reads at hr
  rw [List.mem_append, List.mem_map, List.mem_map] at hr
  unfold OutputType.imageSize
  rw [hrows]
  rcases hr with ⟨start, hstart, rfl⟩ | ⟨start, hstart, rfl⟩
  · have hzero : (0 : Int) = o.stride * 0 := (Int.mul_zero _).symm
    rw [hzero] at hstart
    exact offsets_inside (Int.le_refl 0) hstride (by omega) (by omega)
      (Int.mul_le_mul_of_nonneg_left (Int.le_refl _) hstride) start hstart
  · rw [srcUv_eq h.size_lt] at hstart
    exact offsets_inside (by omega) hstride (by omega) (by omega) (Int.le_refl _) start hstart

theorem same_of_offsets (h : Announced o) (hx : o.offsetX = 0) (hy : o.offsetY = 0)
    (data : Int → UInt8) :
    SameOn o.width.toNat o.height.toNat (nv12ToI420 o data) (visible o data) := by
  have hchroma (y : Int) : o.srcUv + o.stride * y =
      o.stride * (o.bufferHeight.toNat + o.offsetY / 2 + y) := by
    rw [srcUv_eq h.size_lt, hy]
    ring
  constructor
  · intro y x _ _ _ _
    simp only [nv12ToI420, visible, hx, hy, Int.zero_add]
  · intro y x _ _ _ _
    simp only [nv12ToI420, visible, hchroma, hx, Int.zero_add, Int.add_assoc, and_self]

theorem offsets_of_same (h : Announced o)
    (hsame : ∀ data, SameOn o.width.toNat o.height.toNat (nv12ToI420 o data) (visible o data)) :
    o.offsetX = 0 ∧ o.offsetY = 0 := by
  obtain ⟨hwidth, hheight⟩ := h.nonempty
  obtain ⟨hx, -⟩ := h.offsetX_even
  obtain ⟨hy, -⟩ := h.offsetY_even
  have hright := h.right
  -- an image that is marked in its first byte
  have hfirst := (hsame fun a => if a = 0 then 1 else 0).luma 0 0 (Int.le_refl 0) (by omega)
    (Int.le_refl 0) (by omega)
  simp only [nv12ToI420, visible, Int.mul_zero, Int.add_zero, if_pos] at hfirst
  have hzero : o.stride * o.offsetY + o.offsetX = 0 := by
    by_contra hne
    rw [if_neg hne] at hfirst
    exact absurd hfirst (by decide)
  have hnonneg : 0 ≤ o.stride * o.offsetY := Int.mul_nonneg (by omega) hy
  refine ⟨by omega, ?_⟩
  rcases Int.mul_eq_zero.mp (show o.stride * o.offsetY = 0 by omega) with hstride | hoffset
  · omega
  · exact hoffset

end Output

/-- The decoder reads within the image whatever aperture is announced, and hands on what the
aperture shows just when the aperture begins at the first sample. -/
theorem visible_delivered_iff {o : OutputType} (h : Announced o) :
    (∀ r ∈ reads o, Inside o.imageSize r.2 r.1) ∧
      ((∀ data, SameOn o.width.toNat o.height.toNat (nv12ToI420 o data) (visible o data)) ↔
        o.offsetX = 0 ∧ o.offsetY = 0) := by
  refine ⟨reads_inside h, offsets_of_same h, ?_⟩
  rintro ⟨hx, hy⟩ data
  exact same_of_offsets h hx hy data

/-- 1080 lines in macroblocks of 16. -/
def fullHd : OutputType := ⟨1920, 1088, some ⟨0, 0, 1920, 1080⟩⟩

theorem fullHd_delivered :
    SameOn fullHd.width.toNat fullHd.height.toNat (nv12ToI420 fullHd UInt8.ofInt)
      (visible fullHd UInt8.ofInt) := by
  have hannounced : Announced fullHd := by
    constructor
    all_goals decide
  exact (visible_delivered_iff hannounced).2.mpr ⟨rfl, rfl⟩ UInt8.ofInt

section Declared

/-- The frame size of `mediaTypeIn`, which `InitWriter` gives neither a stride nor an aperture. -/
def mediaTypeIn (mode : FrameHeightRoundMode) (f : I420Frame) : OutputType :=
  ⟨UInt32.ofInt f.width, heightToEncode mode (UInt32.ofInt f.height), none⟩

/-- The rows of the frame under the rows of the buffer. -/
def sourceSamples (f : I420Frame) (p : Planes) (l : Layout) : Samples where
  dataY y x := p.dataY (f.strideY * sourceRow f l y + x)
  dataU y x := p.dataU (f.strideU * reflect f.chromaHeight (y - l.paddingTopUv) + x)
  dataV y x := p.dataV (f.strideV * reflect f.chromaHeight (y - l.paddingTopUv) + x)

def written (mode : FrameHeightRoundMode) (f : I420Frame) (p : Planes) (memory : Int → UInt8) :
    Int → UInt8 :=
  fromVideoFrame f (layout f (encodedHeight mode f)) p memory

variable {f : I420Frame}

/-- All rows that are written begin at a multiple of the stride and have the width of the frame. -/
def AtRows (f : I420Frame) (accesses : List Access) : Prop :=
  ∀ a ∈ accesses, a.block = .destBuffer → (∃ k, a.offset = f.strideY * k) ∧ a.length = f.width

theorem atRows_append {xs ys : List Access} :
    AtRows f (xs ++ ys) ↔ AtRows f xs ∧ AtRows f ys :=
  List.forall_mem_append

theorem atRows_rows (k step : Int) (count : Nat) :
    AtRows f (FrameCopy.rows .destBuffer (f.strideY * k) (f.strideY * step) f.width count) := by
  intro a ha _
  obtain ⟨o, ho, rfl⟩ := List.mem_map.mp ha
  obtain ⟨row, _, rfl⟩ := mem_offsets.mp ho
  exact ⟨⟨k + row * step, by ring⟩, rfl⟩

theorem atRows_source {block : FrameCopy.Block} (hblock : block ≠ .destBuffer)
    {start stride length : Int} {count : Nat} :
    AtRows f (FrameCopy.rows block start stride length count) := by
  intro a ha hdest
  obtain ⟨o, _, rfl⟩ := List.mem_map.mp ha
  exact absurd hdest hblock

theorem atRows_copyPlane {src dst height : Int} :
    AtRows f (FrameCopy.copyPlane (f.strideY * src) (f.strideY * dst) f.strideY f.width
      height) := by
  have hone : f.strideY = f.strideY * 1 := (Int.mul_one _).symm
  have hback : -f.strideY = f.strideY * -1 := by ring
  have hlast : f.strideY * dst + ((height.natAbs : Int) - 1) * f.strideY =
      f.strideY * (dst + height.natAbs - 1) := by ring
  unfold FrameCopy.copyPlane
  refine atRows_append.mpr ⟨?_, ?_⟩
  · nth_rewrite 2 [hone]
    exact atRows_rows _ _ _
  · split
    · rw [hlast, hback]
      exact atRows_rows _ _ _
    · nth_rewrite 2 [hone]
      exact atRows_rows _ _ _

theorem dst_rows (l : Layout) :
    ∃ kY kUv, (nv12Args f l).dstY = f.strideY * kY ∧ (nv12Args f l).dstUv = f.strideY * kUv := by
  unfold nv12Args
  dsimp only
  split
  · exact ⟨l.paddingTopY, l.encodedHeight + l.paddingTopUv, rfl, by ring⟩
  · exact ⟨0, l.encodedHeight, by ring, rfl⟩

theorem atRows_i420ToNv12 {l : Layout} (hwidth : f.width % 2 = 0) :
    AtRows f (FrameCopy.i420ToNv12 f (nv12Args f l)) := by
  obtain ⟨kY, kUv, hY, hUv⟩ := dst_rows (f := f) l
  have hchroma : 2 * f.chromaWidth = f.width := by
    unfold I420Frame.chromaWidth
    omega
  have hrow {k : Int} {count : Nat} :
      AtRows f (FrameCopy.rows .destBuffer (f.strideY * k) f.strideY f.width count) := by
    have hrows := atRows_rows (f := f) k 1 count
    rwa [Int.mul_one] at hrows
  unfold FrameCopy.i420ToNv12
  rw [hY, hUv, hchroma]
  simp only [atRows_append]
  exact ⟨⟨⟨⟨atRows_source (by decide), atRows_source (by decide)⟩, atRows_source (by decide)⟩,
    hrow⟩, hrow⟩

theorem atRows_padTop {l : Layout} : AtRows f (FrameCopy.padTop f l (nv12Args f l)) := by
  obtain ⟨kY, kUv, hY, hUv⟩ := dst_rows (f := f) l
  unfold FrameCopy.padTop
  split
  · have hfirst : (0 : Int) = f.strideY * 0 := (Int.mul_zero _).symm
    rw [hY, hUv, ← Int.mul_sub, atRows_append]
    nth_rewrite 1 [hfirst]
    exact ⟨atRows_copyPlane, atRows_copyPlane⟩
  · intro a ha
    cases ha

theorem atRows_padBottom {l : Layout}
    (hwrap : 0 < l.paddingBottomY → f.strideY * f.height % 2 ^ 32 = f.strideY * f.height) :
    AtRows f (FrameCopy.padBottom f l (nv12Args f l)) := by
  obtain ⟨kY, kUv, hY, hUv⟩ := dst_rows (f := f) l
  unfold FrameCopy.padBottom
  split
  · rename_i hbottom
    dsimp only
    rw [hwrap hbottom, hY, hUv, ← Int.mul_add, ← Int.mul_add, ← Int.mul_sub, ← Int.mul_sub,
      atRows_append]
    exact ⟨atRows_copyPlane, atRows_copyPlane⟩
  · intro a ha
    cases ha

theorem atRows_accesses {l : Layout} (hwidth : f.width % 2 = 0)
    (hwrap : 0 < l.paddingBottomY → f.strideY * f.height % 2 ^ 32 = f.strideY * f.height) :
    AtRows f (FrameCopy.accesses f l) := by
  unfold FrameCopy.accesses
  rw [atRows_append, atRows_append]
  exact ⟨⟨atRows_i420ToNv12 hwidth, atRows_padTop⟩, atRows_padBottom hwrap⟩

/-- The first byte behind the samples of the first row, if the stride leaves one. -/
theorem gap_untouched {accesses : List Access} (h : AtRows f accesses)
    (hgap : f.width < f.strideY) : Untouched f.width accesses := by
  intro a ha hdest hin
  obtain ⟨⟨k, hoffset⟩, hlength⟩ := h a ha hdest
  have hpos := f.width_pos
  rw [hoffset, hlength] at hin
  have hk : 0 < k := by
    by_contra hle
    have hmul : f.strideY * k ≤ 0 := Int.mul_nonpos_of_nonneg_of_nonpos (by omega) (by omega)
    rcases Int.lt_or_eq_of_le (Int.not_lt.mp hle) with hneg | hzero
    · have hstep : f.strideY * k ≤ f.strideY * -1 :=
        Int.mul_le_mul_of_nonneg_left (by omega) (by omega)
      omega
    · rw [hzero, Int.mul_zero] at hin
      omega
  have hstep : f.strideY * 1 ≤ f.strideY * k := Int.mul_le_mul_of_nonneg_left hk (by omega)
  omega

variable {mode : FrameHeightRoundMode}

theorem mediaTypeIn_stride (mode : FrameHeightRoundMode) (f : I420Frame) :
    (mediaTypeIn mode f).stride = f.width := by
  have hpos := f.width_pos
  have hle := f.strideY_le
  have hlt := f.strideY_lt
  unfold OutputType.stride mediaTypeIn
  rw [UInt32.ofInt, UInt32.toNat_ofNat']
  omega

theorem mediaTypeIn_rows (mode : FrameHeightRoundMode) (f : I420Frame) :
    ((mediaTypeIn mode f).bufferHeight.toNat : Int) = roundedHeight mode f := rfl

theorem mediaTypeIn_srcUv (hfits : ArithmeticFits f (roundedHeight mode f)) :
    (mediaTypeIn mode f).srcUv = f.width * roundedHeight mode f := by
  have htotal := hfits.totalSize
  have hrounded : 0 ≤ roundedHeight mode f := by
    unfold roundedHeight
    omega
  have hle : f.width * roundedHeight mode f ≤ f.strideY * roundedHeight mode f :=
    Int.mul_le_mul_of_nonneg_right f.strideY_le hrounded
  rw [srcUv_eq, mediaTypeIn_stride, mediaTypeIn_rows]
  unfold OutputType.imageSize
  rw [mediaTypeIn_stride, mediaTypeIn_rows]
  omega

/-- The buffer, read as it is declared, shows the rows of the frame. -/
structure ReadBack (mode : FrameHeightRoundMode) (f : I420Frame) (p : Planes)
    (memory : Int → UInt8) : Prop where
  luma : ∀ y x, 0 ≤ y → y < roundedHeight mode f → 0 ≤ x → x < f.width →
    (nv12ToI420 (mediaTypeIn mode f) (written mode f p memory)).dataY y x =
      (sourceSamples f p (layout f (encodedHeight mode f))).dataY y x
  chroma : ∀ y x, 0 ≤ y → y < roundedHeight mode f / 2 → 0 ≤ x → x < f.width / 2 →
    let read := nv12ToI420 (mediaTypeIn mode f) (written mode f p memory)
    let source := sourceSamples f p (layout f (encodedHeight mode f))
    read.dataU y x = source.dataU y x ∧ read.dataV y x = source.dataV y x

/-- What the three modes make of an even height. -/
structure EvenRows (mode : FrameHeightRoundMode) (f : I420Frame) : Prop where
  rows : 2 ≤ roundedHeight mode f ∧ roundedHeight mode f % 2 = 0
  encoded : encodedHeight mode f = roundedHeight mode f
  shifted : ∀ p memory, Shifted f p (roundedHeight mode f) (layout f (roundedHeight mode f))
    (fromVideoFrame f (layout f (roundedHeight mode f)) p memory)
  wrap : 0 < (layout f (roundedHeight mode f)).paddingBottomY →
    f.strideY * f.height % 2 ^ 32 = f.strideY * f.height

theorem evenRows (hwidth : f.width % 2 = 0) (hheight : f.height % 2 = 0)
    (hmin : mode = .noChange ∨ 16 ≤ f.height) (hfits : ArithmeticFits f (roundedHeight mode f)) :
    EvenRows mode f := by
  have hpos := f.height_pos
  have hstride := FrameCopy.strideY_pos f
  have htotal := hfits.totalSize
  have hencoded : encodedHeight mode f = roundedHeight mode f := by
    rw [FrameCopy.encodedHeight_eq, if_pos (FrameCopy.rounded_lt_of_fits f hfits)]
  by_cases hmode : mode = .noChange
  · have hrounded : roundedHeight mode f = f.height := by
      rw [FrameCopy.roundedHeight_eq, hmode]
    refine ⟨by omega, hencoded, ?_, ?_⟩
    · intro p memory
      rw [hrounded]
      exact crop_shifted (by omega) (Int.le_refl _) hheight hwidth
    · intro hbottom
      rw [hrounded] at hbottom
      simp [layout] at hbottom
  · obtain hmin := hmin.resolve_left hmode
    obtain ⟨hmultiple, hrows, hlow, hhigh⟩ := roundedHeight_multiple hmode hmin
    have hnonneg : 0 ≤ f.strideY * roundedHeight mode f := Int.mul_nonneg (by omega) (by omega)
    refine ⟨by omega, hencoded, ?_, ?_⟩
    · intro p memory
      exact shifted (by omega) hhigh hmultiple hheight hmin hwidth (by omega)
    · intro hbottom
      have hpad : f.height < roundedHeight mode f := by
        by_contra hle
        rw [FrameCopy.layout_crop f (by omega) (by omega)] at hbottom
        dsimp only at hbottom
        omega
      have hmul : f.strideY * f.height ≤ f.strideY * roundedHeight mode f :=
        Int.mul_le_mul_of_nonneg_left (by omega) (by omega)
      have hproduct : 0 ≤ f.strideY * f.height := Int.mul_nonneg (by omega) (by omega)
      exact Int.emod_eq_of_lt hproduct (by omega)

theorem readBack_of_stride (h : EvenRows mode f) (hwidth : f.width % 2 = 0)
    (hfits : ArithmeticFits f (roundedHeight mode f)) (hstride : f.strideY = f.width)
    (p : Planes) (memory : Int → UInt8) : ReadBack mode f p memory := by
  have hshifted := h.shifted p memory
  constructor
  · intro y x hy hye hx hxw
    have hluma := hshifted.luma y x hy hye hx hxw
    simp only [nv12ToI420, written, sourceSamples, mediaTypeIn_stride, h.encoded]
    rw [← hstride]
    exact hluma
  · intro y x hy hye hx hxw
    have haddress : (mediaTypeIn mode f).srcUv + (mediaTypeIn mode f).stride * y =
        f.strideY * (roundedHeight mode f + y) := by
      rw [mediaTypeIn_srcUv hfits, mediaTypeIn_stride, hstride, Int.mul_add]
    have hu := hshifted.chroma y (2 * x) hy hye (by omega) (by omega)
    have hv := hshifted.chroma y (2 * x + 1) hy hye (by omega) (by omega)
    rw [chromaAt_even, rowAt] at hu
    rw [chromaAt_odd, rowAt, ← Int.add_assoc] at hv
    simp only [nv12ToI420, written, sourceSamples, haddress, h.encoded]
    exact ⟨hu, hv⟩

/-- The second row is read from behind the first, where the stride has left old bytes. -/
theorem stride_of_readBack (h : EvenRows mode f) (hwidth : f.width % 2 = 0)
    (hread : ∀ p memory, ReadBack mode f p memory) : f.strideY = f.width := by
  have hpos := f.width_pos
  have hle := f.strideY_le
  by_contra hne
  have hfirst := (hread ⟨fun _ => 0, fun _ => 0, fun _ => 0⟩ fun _ => 1).luma 1 0 (by omega)
    (by have hrows := h.rows; omega) (Int.le_refl 0) (by omega)
  simp only [nv12ToI420, written, sourceSamples, mediaTypeIn_stride, Int.mul_one, Int.add_zero,
    h.encoded] at hfirst
  rw [fromVideoFrame_untouched (gap_untouched (atRows_accesses hwidth h.wrap) (by omega))] at hfirst
  exact absurd hfirst (by decide)

/-- A buffer of even size declared by its frame size gives back the frame that was copied into it,
in whatever way the height is rounded, just when the rows of the frame have no gaps. -/
theorem read_back_iff (mode : FrameHeightRoundMode) (f : I420Frame) (hwidth : f.width % 2 = 0)
    (hheight : f.height % 2 = 0) (hmin : mode = .noChange ∨ 16 ≤ f.height)
    (hfits : ArithmeticFits f (roundedHeight mode f)) :
    (∀ p memory, ReadBack mode f p memory) ↔ f.strideY = f.width := by
  have hrows := evenRows hwidth hheight hmin hfits
  constructor
  · exact stride_of_readBack hrows hwidth
  · intro hstride p memory
    exact readBack_of_stride hrows hwidth hfits hstride p memory

theorem twenty_rows_read_back :
    ReadBack .pad (smallFrame 20 (by decide) (by decide)) numbered fun _ => 0 := by
  refine (read_back_iff .pad (smallFrame 20 (by decide) (by decide)) (by decide) (by decide)
    (.inr (by decide)) ⟨?_, ?_, ?_, ?_⟩).mpr rfl numbered fun _ => 0
  all_goals decide

end Declared

end WeiRtcNative.H264.NV12Pictures
