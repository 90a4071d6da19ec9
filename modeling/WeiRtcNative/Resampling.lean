import WeiRtcNative.Frame

/-!
# Resampling a picture and its turned copy

`ScaleFrom` makes each pixel of a window of the source, and the windows keep the order of columns
and rows. Whatever the windows are, it cannot tell a picture from its turned copy if the two look
the same or have a single colour; for every other picture some choice of windows does.
-/

namespace WeiRtcNative.Frame

set_option autoImplicit false

universe u
variable {Px : Type u}

/-- At least one pixel, as `I420Buffer::Create` demands. -/
def Size.Positive (s : Size) : Prop := 0 < s.width ∧ 0 < s.height

instance (s : Size) : Decidable s.Positive := inferInstanceAs (Decidable (_ ∧ _))

/-- A place of the source for each place of the destination, along one axis: in the same order,
inside the source, and the same place if the lengths are equal. -/
structure Spots where
  spot : (src dst i : Nat) → Nat
  mono : ∀ src dst {i j}, i ≤ j → spot src dst i ≤ spot src dst j
  inside : ∀ {src dst i}, 0 < src → i < dst → spot src dst i < src
  copy : ∀ n i, spot n n i = i

/-- The first and last column and row of the source that a pixel is made of. -/
structure Windows where
  left : Spots
  right : Spots
  top : Spots
  bottom : Spots

/-- `(x', y')` of the source is in the window of `(x, y)`. -/
structure Windows.Covers (w : Windows) (src dst : Size) (x y x' y' : Nat) : Prop where
  left : w.left.spot src.width dst.width x ≤ x'
  right : x' ≤ w.right.spot src.width dst.width x
  top : w.top.spot src.height dst.height y ≤ y'
  bottom : y' ≤ w.bottom.spot src.height dst.height y

/-- A way to scale without turning: a pixel depends on its window only, and has the colour of
the window where that is a single one. -/
structure Resampler (Px : Type u) extends Windows where
  sample : Picture Px → Size → Nat → Nat → Px
  sees : ∀ {p q : Picture Px} (size : Size) (x y : Nat), p.size = q.size →
    (∀ x' y', toWindows.Covers p.size size x y x' y' → p.pixel x' y' = q.pixel x' y') →
    sample p size x y = sample q size x y
  oneColour : ∀ {p : Picture Px} {colour : Px} (size : Size) (x y : Nat),
    (∀ x' y', toWindows.Covers p.size size x y x' y' → p.pixel x' y' = colour) →
    sample p size x y = colour

namespace Picture

/-- The same size and, at each of its pixels, the same colour. -/
structure Same (p q : Picture Px) : Prop where
  size : p.size = q.size
  pixel : ∀ x y, p.size.Contains x y → p.pixel x y = q.pixel x y

def OneColour (p : Picture Px) : Prop :=
  ∀ x y, p.size.Contains x y → p.pixel x y = p.pixel 0 0

/-- Nobody can tell the turned picture from the picture, whatever it is scaled to. -/
def LooksUnturned (p : Picture Px) (rotation : VideoRotation) : Prop :=
  p.Same (p.rotate rotation) ∨ p.OneColour

/-- The picture that `ScaleFrom` makes in a buffer of this size. -/
def scaled (p : Picture Px) (r : Resampler Px) (size : Size) : Picture Px :=
  ⟨size, r.sample p size⟩

def map {Px' : Type u} (convert : Px → Px') (p : Picture Px) : Picture Px' :=
  ⟨p.size, fun x y => convert (p.pixel x y)⟩

/-- All resamplers make the same of both pictures. -/
def ScaleAlike (p q : Picture Px) (size : Size) : Prop :=
  ∀ r : Resampler Px, (p.scaled r size).Same (q.scaled r size)

end Picture

section Spot

/-- The place `a src` for all of the destination, unless the lengths are equal. -/
def Spots.fixed (a : Nat → Nat) : Spots where
  spot src dst i := if src = dst then i else min (a src) (src - 1)
  mono := by
    intro src dst i j hij
    split
    · exact hij
    · exact Nat.le_refl _
  inside := by
    intro src dst i hsrc hi
    split
    · omega
    · omega
  copy := by
    intro n i
    exact if_pos rfl

def Spots.nearest : Spots where
  spot src dst i := if src = dst then i else i * src / dst
  mono := by
    intro src dst i j hij
    split
    · exact hij
    · exact Nat.div_le_div_right (Nat.mul_le_mul_right src hij)
  inside := by
    intro src dst i hsrc hi
    split
    · omega
    · apply Nat.div_lt_of_lt_mul
      exact Nat.mul_lt_mul_of_pos_right hi hsrc
  copy := by
    intro n i
    exact if_pos rfl

/-- Two places in sources of different lengths can be looked at together. -/
theorem exists_spot {m n dst i j : Nat} (hdst : 0 < dst) (hi : i < m) (hj : j < n)
    (hsame : m = n → i = j) :
    ∃ (s : Spots) (k : Nat), k < dst ∧ s.spot m dst k = i ∧ s.spot n dst k = j := by
  let s := Spots.fixed fun src => if src = m then i else j
  have hm : m ≠ dst → ∀ k, s.spot m dst k = i := by
    intro hne k
    simp only [s, Spots.fixed, if_neg hne, if_true]
    omega
  have hn : n ≠ dst → ∀ k, s.spot n dst k = j := by
    intro hne k
    simp only [s, Spots.fixed, if_neg hne]
    split
    · rename_i hnm
      have hij := hsame hnm.symm
      omega
    · omega
  by_cases hmd : m = dst
  · refine ⟨s, i, by omega, by rw [← hmd, s.copy], ?_⟩
    by_cases hnd : n = dst
    · rw [hnd, s.copy]
      exact hsame (by omega)
    · exact hn hnd i
  · by_cases hnd : n = dst
    · exact ⟨s, j, by omega, hm hmd j, by rw [← hnd, s.copy]⟩
    · exact ⟨s, 0, hdst, hm hmd 0, hn hnd 0⟩

end Spot

namespace Resampler

def point (columns rows : Spots) : Resampler Px where
  left := columns
  right := columns
  top := rows
  bottom := rows
  sample p size x y :=
    p.pixel (columns.spot p.size.width size.width x) (rows.spot p.size.height size.height y)
  sees := by
    intro p q size x y hsize h
    rw [← hsize]
    exact h _ _ ⟨Nat.le_refl _, Nat.le_refl _, Nat.le_refl _, Nat.le_refl _⟩
  oneColour := by
    intro p colour size x y h
    exact h _ _ ⟨Nat.le_refl _, Nat.le_refl _, Nat.le_refl _, Nat.le_refl _⟩

def nearest : Resampler Px := point Spots.nearest Spots.nearest

/-- A window of a picture with a pixel lies inside the picture. -/
theorem covers_contains (r : Resampler Px) {src dst : Size} (hsrc : src.Positive) {x y x' y' : Nat}
    (hxy : dst.Contains x y) (h : r.toWindows.Covers src dst x y x' y') : src.Contains x' y' :=
  ⟨Nat.lt_of_le_of_lt h.right (r.right.inside hsrc.1 hxy.1),
    Nat.lt_of_le_of_lt h.bottom (r.bottom.inside hsrc.2 hxy.2)⟩

end Resampler

namespace Picture
variable {p q : Picture Px} {size : Size}

theorem Same.refl (p : Picture Px) : p.Same p := ⟨rfl, fun _ _ _ => rfl⟩

theorem Same.map {Px' : Type u} (h : p.Same q) (convert : Px → Px') :
    (p.map convert).Same (q.map convert) := by
  refine ⟨h.size, ?_⟩
  intro x y hxy
  exact congrArg convert (h.pixel x y hxy)

theorem Same.scaled (hp : p.size.Positive) (h : p.Same q) (r : Resampler Px) (size : Size) :
    (p.scaled r size).Same (q.scaled r size) := by
  refine ⟨rfl, ?_⟩
  intro x y hxy
  apply r.sees size x y h.size
  intro x' y' hcovers
  exact h.pixel x' y' (r.covers_contains hp hxy hcovers)

theorem OneColour.scaled_pixel (hp : p.size.Positive) (h : p.OneColour) (r : Resampler Px)
    {size : Size} {x y : Nat} (hxy : size.Contains x y) :
    (p.scaled r size).pixel x y = p.pixel 0 0 := by
  apply r.oneColour size x y
  intro x' y' hcovers
  exact h x' y' (r.covers_contains hp hxy hcovers)

/-- Pictures that scale alike have the same pixels wherever one resampler can look at both. -/
theorem ScaleAlike.pixel (hsize : size.Positive) (h : p.ScaleAlike q size) {x y x' y' : Nat}
    (hp : p.size.Contains x y) (hq : q.size.Contains x' y')
    (hx : p.size.width = q.size.width → x = x') (hy : p.size.height = q.size.height → y = y') :
    p.pixel x y = q.pixel x' y' := by
  obtain ⟨columns, k, hk, hcolumn, hcolumn'⟩ := exists_spot hsize.1 hp.1 hq.1 hx
  obtain ⟨rows, l, hl, hrow, hrow'⟩ := exists_spot hsize.2 hp.2 hq.2 hy
  have hout := (h (Resampler.point columns rows)).pixel k l ⟨hk, hl⟩
  simpa only [scaled, Resampler.point, hcolumn, hcolumn', hrow, hrow'] using hout

theorem rotate_size (p : Picture Px) (rotation : VideoRotation) :
    (p.rotate rotation).size = p.size ∨ (p.rotate rotation).size = p.size.swap := by
  cases rotation with
  | kVideoRotation0 => exact .inl rfl
  | kVideoRotation90 => exact .inr rfl
  | kVideoRotation180 => exact .inl rfl
  | kVideoRotation270 => exact .inr rfl

theorem rotate_positive (hp : p.size.Positive) (rotation : VideoRotation) :
    (p.rotate rotation).size.Positive := by
  rcases p.rotate_size rotation with hsize | hsize
  · exact hsize ▸ hp
  · exact hsize ▸ ⟨hp.2, hp.1⟩

/-- The pixels of the turned picture are pixels of the picture. -/
theorem rotate_pixel_mem (rotation : VideoRotation) {x y : Nat}
    (h : (p.rotate rotation).size.Contains x y) :
    ∃ x' y', p.size.Contains x' y' ∧ (p.rotate rotation).pixel x y = p.pixel x' y' := by
  obtain ⟨hx, hy⟩ := h
  cases rotation with
  | kVideoRotation0 => exact ⟨x, y, ⟨hx, hy⟩, rfl⟩
  | kVideoRotation90 =>
    have hx' : x < p.size.height := hx
    exact ⟨y, p.size.height - 1 - x, ⟨hy, by omega⟩, rfl⟩
  | kVideoRotation180 =>
    have hx' : x < p.size.width := hx
    have hy' : y < p.size.height := hy
    exact ⟨p.size.width - 1 - x, p.size.height - 1 - y, ⟨by omega, by omega⟩, rfl⟩
  | kVideoRotation270 =>
    have hy' : y < p.size.width := hy
    exact ⟨p.size.width - 1 - y, x, ⟨by omega, hx⟩, rfl⟩

theorem OneColour.rotate (hp : p.size.Positive) (h : p.OneColour) (rotation : VideoRotation) :
    (p.rotate rotation).OneColour ∧ (p.rotate rotation).pixel 0 0 = p.pixel 0 0 := by
  have hall : ∀ x y, (p.rotate rotation).size.Contains x y →
      (p.rotate rotation).pixel x y = p.pixel 0 0 := by
    intro x y hxy
    obtain ⟨x', y', hin, hpixel⟩ := rotate_pixel_mem rotation hxy
    rw [hpixel, h x' y' hin]
  have hcorner := hall 0 0 (rotate_positive hp rotation)
  refine ⟨?_, hcorner⟩
  intro x y hxy
  rw [hall x y hxy, hcorner]

theorem looksUnturned_of_scaleAlike (hp : p.size.Positive) (hsize : size.Positive)
    {rotation : VideoRotation} (h : p.ScaleAlike (p.rotate rotation) size) :
    p.LooksUnturned rotation := by
  by_cases hpq : p.size = (p.rotate rotation).size
  · refine .inl ⟨hpq, ?_⟩
    intro x y hxy
    exact h.pixel hsize hxy (hpq ▸ hxy) (fun _ => rfl) (fun _ => rfl)
  · -- a quarter turn of a picture that is not square: every pixel is that of one corner
    have hswap : (p.rotate rotation).size = p.size.swap :=
      (p.rotate_size rotation).resolve_left (Ne.symm hpq)
    have hsquare : p.size.width ≠ p.size.height := by
      intro heq
      apply hpq
      rw [hswap]
      exact congr (congrArg Size.mk heq) heq.symm
    have hcorner : ∀ x y, p.size.Contains x y → p.pixel x y = (p.rotate rotation).pixel 0 0 := by
      intro x y hxy
      apply h.pixel hsize hxy (rotate_positive hp rotation)
      · rw [hswap]
        exact fun heq => absurd heq hsquare
      · rw [hswap]
        exact fun heq => absurd heq.symm hsquare
    right
    intro x y hxy
    rw [hcorner x y hxy, hcorner 0 0 hp]

/-- Scaling the picture as it lies is scaling it turned just when turning cannot be seen. -/
theorem scaleAlike_rotate_iff (hp : p.size.Positive) (hsize : size.Positive)
    (rotation : VideoRotation) :
    p.ScaleAlike (p.rotate rotation) size ↔ p.LooksUnturned rotation := by
  constructor
  · exact looksUnturned_of_scaleAlike hp hsize
  · rintro (hsame | hone) r
    · exact hsame.scaled hp r size
    · obtain ⟨hturned, hcorner⟩ := hone.rotate hp rotation
      refine ⟨rfl, ?_⟩
      intro x y hxy
      have hin : size.Contains x y := hxy
      rw [hone.scaled_pixel hp r hin, hturned.scaled_pixel (rotate_positive hp rotation) r hin,
        hcorner]

end Picture

/-- A frame over a buffer that `I420Buffer::Create` has made. -/
structure BufferedFrame (Px : Type u) extends VideoFrame Px where
  positive : videoFrameBuffer.size.Positive

theorem VideoFrame.upright_eq (f : VideoFrame Px) :
    f.upright = f.videoFrameBuffer.rotate f.rotation := by
  unfold VideoFrame.upright
  split
  · rfl
  · rename_i h
    rw [not_not.mp h]
    rfl

end WeiRtcNative.Frame
