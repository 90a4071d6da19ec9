import Mathlib.Data.List.Forall2
import WeiRtcNative.H264.Fragmentation

/-!
# The fragmentation header of arbitrary bytes

Whatever the encoder writes, the hits of the scan are at least six bytes apart and a start code
has at most four, so each fragment begins before the next start code does. What bounds them is the
16-bit count of the header: from 65536 start codes on the loop writes behind its arrays.
-/

namespace WeiRtcNative.H264.Fragmentation

set_option autoImplicit false

/-- The bytes before the fragment are the start code found there. -/
structure Precedes (sendBuffer : Bytes) (code : Hit) (f : Fragment) : Prop where
  offset : f.offset = code.start + code.prefixLength
  bytes : (sendBuffer.drop code.start).take code.prefixLength = [0, 0, 1] ∨
    (sendBuffer.drop code.start).take code.prefixLength = [0, 0, 0, 1]

/-- The length is the difference of two positions, of which the second is the smaller one. -/
structure EndsAt (f : Fragment) (pos : Nat) : Prop where
  length : f.length = sub64 pos f.offset
  offset_lt : f.offset < pos
  ends : f.offset + f.length = pos

/-- The header that belongs to the start codes recorded by the scan. -/
structure WellFormed (sendBuffer : Bytes) (codes : List Hit) (fragments : List Fragment) :
    Prop where
  increasing : fragments.Pairwise fun f g => f.offset < g.offset
  inside : ∀ f ∈ fragments, 1 ≤ f.length ∧ f.offset + f.length ≤ sendBuffer.length
  preceded : List.Forall₂ (Precedes sendBuffer) codes fragments
  closed : List.Forall₂ EndsAt fragments (codes.map (·.start) ++ [sendBuffer.length]).tail

theorem endsAt_sub64 {offset pos : Nat} (h : offset < pos) :
    EndsAt ⟨offset, sub64 pos offset⟩ pos := by
  refine ⟨rfl, h, ?_⟩
  rw [sub64_of_le (Nat.le_of_lt h)]
  exact Nat.add_sub_cancel' (Nat.le_of_lt h)

theorem hitAt_bytes {ptr : Bytes} {p : Nat} {header : UInt8} (h : hitAt ptr = some (p, header)) :
    ptr.take p = [0, 0, 1] ∨ ptr.take p = [0, 0, 0, 1] := by
  unfold hitAt at h
  split at h
  · split at h
    · rename_i hcode
      obtain ⟨rfl, rfl, rfl, rfl, -⟩ := hcode
      cases h
      exact Or.inr rfl
    · split at h
      · rename_i hcode
        obtain ⟨rfl, rfl, rfl, -⟩ := hcode
        cases h
        exact Or.inl rfl
      · cases h
  · cases h

section Hits

/-- What the header needs of the hits: room for each start code before the next one. -/
structure Spaced (hits : List Hit) (total : Nat) : Prop where
  apart : hits.Pairwise fun h h' => h.start + h.prefixLength < h'.start
  room : ∀ h ∈ hits, h.start + h.prefixLength < total

theorem Spaced.cons {h : Hit} {hits : List Hit} {total : Nat} (hs : Spaced (h :: hits) total) :
    (∀ pos ∈ hits.map (·.start) ++ [total], h.start + h.prefixLength < pos) ∧
      Spaced hits total := by
  obtain ⟨hfirst, hrest⟩ := List.pairwise_cons.mp hs.apart
  refine ⟨?_, hrest, fun k hk => hs.room k (List.mem_cons_of_mem h hk)⟩
  intro pos hpos
  rcases List.mem_append.mp hpos with hpos | hpos
  · obtain ⟨k, hk, rfl⟩ := List.mem_map.mp hpos
    exact hfirst k hk
  · rw [List.mem_singleton.mp hpos]
    exact hs.room h List.mem_cons_self

theorem fragmentsFrom_closed {offset total : Nat} {hits : List Hit} (hs : Spaced hits total)
    (hlt : ∀ pos ∈ hits.map (·.start) ++ [total], offset < pos) :
    List.Forall₂ EndsAt (fragmentsFrom offset hits total) (hits.map (·.start) ++ [total]) := by
  induction hits generalizing offset with
  | nil => exact .cons (endsAt_sub64 (hlt total (by simp))) .nil
  | cons h hits ih =>
    obtain ⟨hnext, hrest⟩ := hs.cons
    exact .cons (endsAt_sub64 (hlt h.start (by simp))) (ih hrest hnext)

theorem fragmentsFrom_offsets (offset total : Nat) (hits : List Hit) :
    (fragmentsFrom offset hits total).map (·.offset) =
      offset :: hits.map fun h => h.start + h.prefixLength := by
  induction hits generalizing offset with
  | nil => rfl
  | cons h hits ih =>
    rw [fragmentsFrom, List.map_cons, ih]
    rfl

theorem fragmentsOf_offsets (hits : List Hit) (total : Nat) :
    (fragmentsOf hits total).map (·.offset) = hits.map fun h => h.start + h.prefixLength := by
  cases hits with
  | nil => rfl
  | cons h hits => exact fragmentsFrom_offsets _ total hits

theorem fragmentsOf_closed {hits : List Hit} {total : Nat} (hs : Spaced hits total) :
    List.Forall₂ EndsAt (fragmentsOf hits total) (hits.map (·.start) ++ [total]).tail := by
  cases hits with
  | nil => exact .nil
  | cons h hits =>
    obtain ⟨hnext, hrest⟩ := hs.cons
    exact fragmentsFrom_closed hrest hnext

theorem fragmentsOf_increasing {hits : List Hit} {total : Nat} (hs : Spaced hits total) :
    (fragmentsOf hits total).Pairwise fun f g => f.offset < g.offset := by
  apply List.pairwise_map.mp
  rw [fragmentsOf_offsets, List.pairwise_map]
  refine hs.apart.imp ?_
  intro h h' hlt
  omega

theorem fragmentsOf_preceded {sendBuffer : Bytes} {hits : List Hit} (total : Nat)
    (hbytes : ∀ h ∈ hits, (sendBuffer.drop h.start).take h.prefixLength = [0, 0, 1] ∨
      (sendBuffer.drop h.start).take h.prefixLength = [0, 0, 0, 1]) :
    List.Forall₂ (Precedes sendBuffer) hits (fragmentsOf hits total) := by
  have hoffsets : List.Forall₂ Eq ((fragmentsOf hits total).map (·.offset))
      (hits.map fun h => h.start + h.prefixLength) := by
    rw [fragmentsOf_offsets, List.forall₂_eq_eq_eq]
  rw [List.forall₂_map_left_iff, List.forall₂_map_right_iff] at hoffsets
  refine ((List.forall₂_and_left _ _).mpr ⟨hbytes, hoffsets.flip⟩).imp ?_
  rintro h f ⟨hcode, hoffset⟩
  exact ⟨hoffset, hcode⟩

end Hits

section Scan
variable (sendBuffer : Bytes)

theorem scan_room {h : Hit} (hm : h ∈ scan 0 sendBuffer) :
    h.prefixLength ≤ 4 ∧ h.start + 6 ≤ sendBuffer.length := by
  obtain ⟨-, hend, hhit⟩ := mem_scan hm
  rcases (hitAt_some hhit).1 with hp | hp
  · omega
  · omega

/-- A start code takes six bytes, so a sample of fewer than 384 KiB does not have too many. -/
theorem scan_length (i : Nat) : 6 * (scan i sendBuffer).length ≤ sendBuffer.length := by
  fun_induction scan i sendBuffer with
  | case1 i ptr hlen hnone ih =>
    rw [List.length_drop] at ih
    omega
  | case2 i ptr hlen p header hsome ih =>
    rw [List.length_drop] at ih
    rw [List.length_cons]
    omega
  | case3 i ptr hlen => exact Nat.zero_le _

theorem scan_codes_spaced : Spaced (scan 0 sendBuffer) sendBuffer.length := by
  refine ⟨?_, ?_⟩
  · refine (scan_spaced 0 sendBuffer).imp_of_mem ?_
    intro h h' hm _ hapart
    have hle := (scan_room sendBuffer hm).1
    omega
  · intro h hm
    have hroom := scan_room sendBuffer hm
    omega

theorem scan_bytes {h : Hit} (hm : h ∈ scan 0 sendBuffer) :
    (sendBuffer.drop h.start).take h.prefixLength = [0, 0, 1] ∨
      (sendBuffer.drop h.start).take h.prefixLength = [0, 0, 0, 1] := by
  obtain ⟨-, -, hhit⟩ := mem_scan hm
  exact hitAt_bytes hhit

theorem scan_fragment_inside {f : Fragment}
    (hf : f ∈ fragmentsOf (scan 0 sendBuffer) sendBuffer.length) :
    1 ≤ f.length ∧ f.offset + f.length ≤ sendBuffer.length := by
  obtain ⟨h, hm, hoffset, hlength⟩ := mem_fragmentsOf (scan_spaced 0 sendBuffer) hf
  have hroom := scan_room sendBuffer hm
  rcases hlength with hlast | ⟨h', hm', hapart, hnext⟩
  · rw [sub64_of_le (by omega)] at hlast
    omega
  · have hroom' := scan_room sendBuffer hm'
    rw [sub64_of_le (by omega)] at hnext
    omega

theorem scan_countable {sendBuffer : Bytes} (h : sendBuffer.length < 6 * 0x10000) :
    (scan 0 sendBuffer).length < 0x10000 := by
  have hlength := scan_length sendBuffer 0
  omega

end Scan

/-- The header is well-formed just when its 16 bits can count the start codes of the buffer. -/
theorem header_wellFormed_iff {resize : Resize} (hresize : Resizes resize) (cleanPoint : Bool)
    (sendBuffer : Bytes) (h5 : 5 ≤ sendBuffer.length) :
    (∃ image, encodedImage resize cleanPoint sendBuffer = .ok (some image) ∧
        WellFormed sendBuffer (scan 0 sendBuffer) image.fragments) ↔
      (scan 0 sendBuffer).length < 0x10000 := by
  constructor
  · rintro ⟨image, himage, -⟩
    by_contra hmany
    rw [encodedImage_full cleanPoint (Nat.le_of_not_lt hmany)] at himage
    cases himage
  · intro hroom
    obtain ⟨image, himage, -, hfragments⟩ := encodedImage_eq hresize cleanPoint h5 hroom
    have hspaced := scan_codes_spaced sendBuffer
    refine ⟨image, himage, ?_⟩
    rw [hfragments]
    refine ⟨fragmentsOf_increasing hspaced, ?_, ?_, fragmentsOf_closed hspaced⟩
    · intro f hf
      exact scan_fragment_inside sendBuffer hf
    · apply fragmentsOf_preceded
      intro h hm
      exact scan_bytes sendBuffer hm

/-- Start codes that overlap and touch the end of the buffer. -/
def crowded : Bytes := [0, 0, 0, 1, 0, 0, 0, 1, 0, 0, 0, 0, 1, 0, 0, 1]

theorem crowded_header_wellFormed :
    Resizes growing ∧ 5 ≤ crowded.length ∧
      encodedImage growing false crowded = .ok (some ⟨false, ⟨[⟨4, 5⟩, ⟨13, 3⟩], by decide⟩⟩) ∧
      ∃ image, encodedImage growing false crowded = .ok (some image) ∧
        WellFormed crowded (scan 0 crowded) image.fragments :=
  ⟨growing_resizes, by decide, by decide,
    (header_wellFormed_iff growing_resizes false crowded (by decide)).mpr
      (scan_countable (by decide))⟩

/-- `n` slices of three bytes. -/
def slices (n : Nat) : Bytes := (List.replicate n [0, 0, 1, 0x41, 0x9a, 0x80]).flatten

theorem slices_succ (n : Nat) : slices (n + 1) = 0 :: 0 :: 1 :: 0x41 :: 0x9a :: 0x80 :: slices n :=
  rfl

theorem slices_length (n : Nat) : (slices n).length = 6 * n := by
  induction n with
  | zero => rfl
  | succ n ih =>
    simp only [slices_succ, List.length_cons, ih]
    omega

theorem scan_slices (i n : Nat) : (scan i (slices n)).length = n := by
  induction n generalizing i with
  | zero =>
    rw [scan_of_le i (by decide)]
    rfl
  | succ n ih =>
    have hlength : 5 < (slices (n + 1)).length := by simp [slices_succ]
    have hhit : hitAt (slices (n + 1)) = some (3, 0x41) := rfl
    rw [scan_hit i hlength hhit, List.length_cons]
    exact congrArg Nat.succ (ih (i + 6))

/-- The last of 65536 slices has no place in the header. -/
theorem slices_uncounted :
    5 ≤ (slices 0x10000).length ∧
      ¬ ∃ image, encodedImage growing false (slices 0x10000) = .ok (some image) ∧
        WellFormed (slices 0x10000) (scan 0 (slices 0x10000)) image.fragments := by
  refine ⟨?_, ?_⟩
  · rw [slices_length]
    decide
  · rintro ⟨image, himage, -⟩
    rw [encodedImage_full false (Nat.le_of_eq (scan_slices 0 0x10000).symm)] at himage
    cases himage

end WeiRtcNative.H264.Fragmentation
