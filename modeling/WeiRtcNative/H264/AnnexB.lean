import WeiRtcNative.H264.Fragmentation

/-!
# The scan on well-formed Annex B streams

A stream is a list of NAL units, each after a start code of three or four bytes. The
scan steps over the bytes of a unit without a false hit, because a unit contains no
start code and does not end in a zero byte. What it gets wrong is at the borders: a
start code together with a unit shorter than six bytes is jumped over or lies behind
the loop bound, and an access unit delimiter does not end the fragment before it.
More units than the header can count are written behind its arrays.
-/

namespace WeiRtcNative.H264.AnnexB

open Fragmentation
set_option autoImplicit false

structure NalUnit where
  header : UInt8
  payload : Bytes
  noStartCode : ∀ a b r, a ++ 0 :: 0 :: b :: r = header :: payload → b ≠ 0 ∧ b ≠ 1
  noTrailingZero : (header :: payload).getLast? ≠ some 0

/-- A NAL unit behind a start code of four bytes (`long`) or three. -/
structure Coded where
  long : Bool
  nal : NalUnit

namespace Coded

def bytes (u : Coded) : Bytes := u.nal.header :: u.nal.payload

def prefixLength (u : Coded) : Nat := if u.long then 4 else 3

def startCode (u : Coded) : Bytes := if u.long then [0, 0, 0, 1] else [0, 0, 1]

def length (u : Coded) : Nat := u.bytes.length

end Coded

def annexB (units : List Coded) : Bytes := units.flatMap fun u => u.startCode ++ u.bytes

/-- Where the units other than delimiters lie, for a stream starting at `pos`. -/
def located : Nat → List Coded → List Fragment
  | _, [] => []
  | pos, u :: units =>
    let rest := located (pos + u.prefixLength + u.length) units
    if isDelimiter u.nal.header then rest else ⟨pos + u.prefixLength, u.length⟩ :: rest

def locatedHits : Nat → List Coded → List Hit
  | _, [] => []
  | pos, u :: units =>
    let rest := locatedHits (pos + u.prefixLength + u.length) units
    if isDelimiter u.nal.header then rest else ⟨pos, u.prefixLength, u.nal.header⟩ :: rest

/-- The scan finds the units other than delimiters, nothing else, and marks the image
as a key frame exactly for a clean point or a unit of type 5. -/
def Recovered (resize : Resize) (cleanPoint : Bool) (units : List Coded) : Prop :=
  ∃ out, encodedImage resize cleanPoint (annexB units) = .ok out ∧ (out = none → units = []) ∧
    ∀ image ∈ out, image.fragments = located 0 units ∧
      (image.keyFrame = true ↔ cleanPoint = true ∨ ∃ u ∈ units, nalType u.nal.header = 5)

/-- The units other than delimiters, which get a fragment. -/
def counted (units : List Coded) : Nat := units.countP fun u => !isDelimiter u.nal.header

/-- No unit that counts is shorter than six bytes with its start code, no delimiter
comes after such a unit, the stream is long enough for the loop bound, and there are not too
many fragments for the header. -/
structure Scannable (units : List Coded) : Prop where
  bound : units = [] ∨ 5 ≤ (annexB units).length
  long : ∀ u ∈ units, isDelimiter u.nal.header = false → 6 ≤ u.prefixLength + u.length
  delimiters : units.IsChain fun u v =>
    isDelimiter u.nal.header = false → isDelimiter v.nal.header = false
  few : counted units < 0x10000

@[simp] theorem annexB_nil : annexB [] = [] := rfl

@[simp] theorem annexB_cons (u : Coded) (units : List Coded) :
    annexB (u :: units) = u.startCode ++ (u.bytes ++ annexB units) := by
  simp [annexB]

@[simp] theorem startCode_length (u : Coded) : u.startCode.length = u.prefixLength := by
  unfold Coded.startCode Coded.prefixLength
  split <;> rfl

theorem length_pos (u : Coded) : 0 < u.length := Nat.succ_pos _

/-- A hit needs two zeros and then a zero or a one. -/
theorem hitAt_none_of_ne {ptr : Bytes}
    (h : ∀ b r, ptr = 0 :: 0 :: b :: r → b ≠ 0 ∧ b ≠ 1) : hitAt ptr = none := by
  unfold hitAt
  split
  · rename_i a b c d e rest
    rw [if_neg, if_neg]
    · rintro ⟨rfl, rfl, rfl, _⟩
      exact (h 1 _ rfl).2 rfl
    · rintro ⟨rfl, rfl, rfl, _⟩
      exact (h 0 _ rfl).1 rfl
  · rfl

/-- Inside a unit nothing looks like a start code, also where the rest of the stream
follows: the last byte of the unit is not zero. -/
theorem no_code_inside (u : Coded) {a w rest : Bytes} (hw : a ++ w = u.bytes) (hne : w ≠ [])
    (b : UInt8) (r : Bytes) (h : w ++ rest = 0 :: 0 :: b :: r) : b ≠ 0 ∧ b ≠ 1 := by
  have hlast : u.bytes.getLast? ≠ some 0 := u.nal.noTrailingZero
  rw [← hw, List.getLast?_append_of_ne_nil a hne] at hlast
  match w, hne, h, hlast, hw with
  | [x], _, h, hlast, _ =>
    have hx : x = 0 := by simpa using (List.cons.inj h).1
    simp [hx] at hlast
  | [x, y], _, h, hlast, _ =>
    simp only [List.cons_append, List.nil_append, List.cons.injEq] at h
    simp [h.2.1] at hlast
  | x :: y :: z :: w, _, h, _, hw =>
    simp only [List.cons_append, List.cons.injEq] at h
    obtain ⟨rfl, rfl, rfl, _⟩ := h
    exact u.nal.noStartCode a z w hw

theorem scan_step (i : Nat) (x : UInt8) (ptr : Bytes) (h : hitAt (x :: ptr) = none) :
    scan i (x :: ptr) = scan (i + 1) ptr := by
  by_cases hlen : 5 < (x :: ptr).length
  · rw [scan_miss i hlen h]
    rfl
  · rw [scan_of_le i (by omega), scan_of_le (i + 1)]
    simp only [List.length_cons] at hlen
    omega

theorem scan_inside (u : Coded) (rest : Bytes) (i : Nat) {a w : Bytes} (hw : a ++ w = u.bytes) :
    scan i (w ++ rest) = scan (i + w.length) rest := by
  induction w generalizing a i with
  | nil => simp
  | cons x w ih =>
    have hnone : hitAt (x :: (w ++ rest)) = none :=
      hitAt_none_of_ne (no_code_inside u hw (by simp))
    rw [List.cons_append, scan_step i x _ hnone, ih (a := a ++ [x]) (i + 1) (by simpa using hw)]
    congr 1
    simp only [List.length_cons]
    omega

theorem hitAt_delimiter (u : Coded) (rest : Bytes) (hd : isDelimiter u.nal.header = true) :
    hitAt (u.startCode ++ (u.bytes ++ rest)) = none := by
  unfold Coded.startCode Coded.bytes hitAt
  split
  · rename_i heq
    split at heq
    · obtain ⟨rfl, rfl, rfl, rfl, rfl, _⟩ := by simpa using heq
      simp [hd]
    · obtain ⟨rfl, rfl, rfl, rfl, _⟩ := by simpa using heq
      simp [hd]
  · rfl

theorem hitAt_unit (u : Coded) (rest : Bytes) (hd : isDelimiter u.nal.header = false)
    (hlen : 5 < (u.startCode ++ (u.bytes ++ rest)).length) :
    hitAt (u.startCode ++ (u.bytes ++ rest)) = some (u.prefixLength, u.nal.header) := by
  unfold Coded.startCode Coded.bytes at hlen ⊢
  unfold Coded.prefixLength
  by_cases hl : u.long = true
  · simp [hl, hitAt, hd]
  · simp only [hl, Bool.false_eq_true, if_false, List.cons_append, List.nil_append,
      List.length_cons] at hlen ⊢
    obtain ⟨x, tail, ht⟩ := List.exists_cons_of_ne_nil
      (List.ne_nil_of_length_pos (l := u.nal.payload ++ rest) (by omega))
    simp [ht, hitAt, hd]

theorem scan_delimiter (u : Coded) (rest : Bytes) (i : Nat)
    (hd : isDelimiter u.nal.header = true) :
    scan i (u.startCode ++ (u.bytes ++ rest)) = scan (i + u.prefixLength + u.length) rest := by
  have hwalk : ∀ j, scan j (0 :: 1 :: (u.bytes ++ rest)) = scan (j + 2 + u.length) rest := by
    intro j
    rw [scan_step j 0 _ (hitAt_none_of_ne (by simp)),
      scan_step (j + 1) 1 _ (hitAt_none_of_ne (by simp))]
    exact scan_inside u rest (j + 2) (List.nil_append u.bytes)
  have hfirst := hitAt_delimiter u rest hd
  unfold Coded.startCode at hfirst ⊢
  unfold Coded.prefixLength
  by_cases hl : u.long = true
  · have hsecond : hitAt (0 :: 0 :: 1 :: (u.bytes ++ rest)) = none :=
      hitAt_delimiter ⟨false, u.nal⟩ rest hd
    simp only [hl, if_true, List.cons_append, List.nil_append] at hfirst ⊢
    rw [scan_step i 0 _ hfirst, scan_step (i + 1) 0 _ hsecond, hwalk]
  · simp only [hl, Bool.false_eq_true, if_false, List.cons_append, List.nil_append] at hfirst ⊢
    rw [scan_step i 0 _ hfirst, hwalk]

theorem prefixLength_le (u : Coded) : u.prefixLength ≤ 4 := by
  unfold Coded.prefixLength
  split <;> omega

theorem scan_unit (u : Coded) (rest : Bytes) (i : Nat) (hd : isDelimiter u.nal.header = false)
    (hlong : 6 ≤ u.prefixLength + u.length) :
    scan i (u.startCode ++ (u.bytes ++ rest)) =
      ⟨i, u.prefixLength, u.nal.header⟩ :: scan (i + u.prefixLength + u.length) rest := by
  have hp := prefixLength_le u
  have hlen : 5 < (u.startCode ++ (u.bytes ++ rest)).length := by
    simp only [List.length_append, startCode_length]
    unfold Coded.length at hlong
    omega
  have hdrop : (u.startCode ++ (u.bytes ++ rest)).drop 6 =
      u.bytes.drop (6 - u.prefixLength) ++ rest := by
    rw [List.drop_append, List.drop_eq_nil_of_le (by rw [startCode_length]; omega),
      List.nil_append, startCode_length, List.drop_append_of_le_length]
    unfold Coded.length at hlong
    omega
  rw [scan_hit i hlen (hitAt_unit u rest hd hlen), hdrop,
    scan_inside u rest _ (List.take_append_drop (6 - u.prefixLength) u.bytes)]
  congr 2
  unfold Coded.length at hlong ⊢
  rw [List.length_drop]
  omega

theorem scan_units (i : Nat) (units : List Coded)
    (hlong : ∀ u ∈ units, isDelimiter u.nal.header = false → 6 ≤ u.prefixLength + u.length) :
    scan i (annexB units) = locatedHits i units := by
  induction units generalizing i with
  | nil => exact scan_of_le i (by simp)
  | cons u units ih =>
    have hrest := ih (i + u.prefixLength + u.length)
      (fun v hv => hlong v (List.mem_cons_of_mem u hv))
    rw [annexB_cons, locatedHits]
    cases hd : isDelimiter u.nal.header
    · rw [scan_unit u _ i hd (hlong u List.mem_cons_self hd), hrest]
      simp
    · rw [scan_delimiter u _ i hd, hrest]
      simp

theorem annexB_cons_length (u : Coded) (units : List Coded) :
    (annexB (u :: units)).length = u.prefixLength + u.length + (annexB units).length := by
  simp only [annexB_cons, List.length_append, startCode_length, Coded.length]
  omega

theorem fragmentsFrom_located (offset i : Nat) (units : List Coded)
    (hd : ∀ u ∈ units, isDelimiter u.nal.header = false) :
    fragmentsFrom offset (locatedHits i units) (i + (annexB units).length) =
      ⟨offset, sub64 i offset⟩ :: located i units := by
  induction units generalizing offset i with
  | nil => rfl
  | cons u units ih =>
    have hrest := ih (i + u.prefixLength) (i + u.prefixLength + u.length)
      (fun v hv => hd v (List.mem_cons_of_mem u hv))
    have htotal : i + (annexB (u :: units)).length =
        i + u.prefixLength + u.length + (annexB units).length := by
      rw [annexB_cons_length]
      omega
    have hlen : sub64 (i + u.prefixLength + u.length) (i + u.prefixLength) = u.length := by
      rw [sub64_of_le (by omega)]
      omega
    rw [htotal]
    simp only [locatedHits, located, hd u List.mem_cons_self, Bool.false_eq_true, if_false,
      fragmentsFrom, hrest, hlen]

/-- Once a unit counts, all later ones do. -/
theorem no_delimiter_after {u : Coded} {units : List Coded}
    (hchain : (u :: units).IsChain fun u v =>
      isDelimiter u.nal.header = false → isDelimiter v.nal.header = false)
    (hd : isDelimiter u.nal.header = false) : ∀ v ∈ units, isDelimiter v.nal.header = false := by
  induction units generalizing u with
  | nil => simp
  | cons v units ih =>
    obtain ⟨huv, hrest⟩ := List.isChain_cons_cons.mp hchain
    intro w hw
    rcases List.mem_cons.mp hw with rfl | hw
    · exact huv hd
    · exact ih hrest (huv hd) w hw

theorem fragmentsOf_located (i : Nat) (units : List Coded)
    (hchain : units.IsChain fun u v =>
      isDelimiter u.nal.header = false → isDelimiter v.nal.header = false) :
    fragmentsOf (locatedHits i units) (i + (annexB units).length) = located i units := by
  induction units generalizing i with
  | nil => rfl
  | cons u units ih =>
    have htotal : i + (annexB (u :: units)).length =
        i + u.prefixLength + u.length + (annexB units).length := by
      rw [annexB_cons_length]
      omega
    rw [htotal]
    cases hd : isDelimiter u.nal.header
    · have hlen : sub64 (i + u.prefixLength + u.length) (i + u.prefixLength) = u.length := by
        rw [sub64_of_le (by omega)]
        omega
      simp only [locatedHits, located, hd, Bool.false_eq_true, if_false, fragmentsOf,
        fragmentsFrom_located _ _ units (no_delimiter_after hchain hd), hlen]
    · have hrest := ih (i + u.prefixLength + u.length) hchain.tail
      simpa only [locatedHits, located, hd, if_true] using hrest

theorem key_locatedHits (i : Nat) (units : List Coded) :
    ((locatedHits i units).any fun h => nalType h.header == 5) = true ↔
      ∃ u ∈ units, nalType u.nal.header = 5 := by
  induction units generalizing i with
  | nil => simp [locatedHits]
  | cons u units ih =>
    cases hd : isDelimiter u.nal.header
    · simp [locatedHits, hd, ih]
    · have hne : nalType u.nal.header ≠ 5 := by
        intro h5
        simp [isDelimiter, h5] at hd
      simp [locatedHits, hd, ih, hne]

theorem located_length (i : Nat) (units : List Coded) :
    (located i units).length = counted units := by
  induction units generalizing i with
  | nil => rfl
  | cons u units ih =>
    have hrest := ih (i + u.prefixLength + u.length)
    unfold counted at hrest ⊢
    cases hd : isDelimiter u.nal.header
    · simp [located, hd, hrest]
    · simp [located, hd, hrest]

theorem locatedHits_length (i : Nat) (units : List Coded) :
    (locatedHits i units).length = counted units := by
  induction units generalizing i with
  | nil => rfl
  | cons u units ih =>
    have hrest := ih (i + u.prefixLength + u.length)
    unfold counted at hrest ⊢
    cases hd : isDelimiter u.nal.header
    · simp [locatedHits, hd, hrest]
    · simp [locatedHits, hd, hrest]

section Sufficiency
variable {resize : Resize} (hresize : Resizes resize)
include hresize

theorem recovered_of_scannable (cleanPoint : Bool) {units : List Coded} (h : Scannable units) :
    Recovered resize cleanPoint units := by
  rcases h.bound with rfl | h5
  · exact ⟨none, rfl, fun _ => rfl, by simp⟩
  · have hscan := scan_units 0 units h.long
    have hfrag := fragmentsOf_located 0 units h.delimiters
    rw [Nat.zero_add] at hfrag
    obtain ⟨image, himage, hkey, hfragments⟩ := encodedImage_eq hresize cleanPoint h5 (by
      rw [hscan, locatedHits_length]
      exact h.few)
    refine ⟨_, himage, by simp, ?_⟩
    intro image' himage'
    obtain rfl := Option.some.inj himage'
    rw [hfragments, hkey, hscan]
    refine ⟨hfrag, ?_⟩
    rw [Bool.or_eq_true, key_locatedHits]

end Sufficiency

theorem mem_located (pos : Nat) (us : List Coded) (u : Coded) (vs : List Coded)
    (hd : isDelimiter u.nal.header = false) :
    ⟨pos + (annexB us).length + u.prefixLength, u.length⟩ ∈ located pos (us ++ u :: vs) := by
  induction us generalizing pos with
  | nil => simp [located, hd]
  | cons v us ih =>
    have hrest := ih (pos + v.prefixLength + v.length)
    have hpos : pos + (annexB (v :: us)).length =
        pos + v.prefixLength + v.length + (annexB us).length := by
      rw [annexB_cons_length]
      omega
    rw [hpos, List.cons_append, located]
    split
    · exact hrest
    · exact List.mem_cons_of_mem _ hrest

theorem annexB_append (us vs : List Coded) : annexB (us ++ vs) = annexB us ++ annexB vs := by
  simp [annexB]

/-- The byte before a unit is the last byte of another unit, hence not zero. -/
theorem annexB_getLast (us : List Coded) : (annexB us).getLast? ≠ some 0 := by
  rcases List.eq_nil_or_concat us with rfl | ⟨us, u, rfl⟩
  · simp
  · rw [List.concat_eq_append, annexB_append, annexB_cons, annexB_nil, List.append_nil,
      ← List.append_assoc, List.getLast?_append_of_ne_nil _ (by simp [Coded.bytes])]
    exact u.nal.noTrailingZero

theorem hitAt_head {ptr : Bytes} {r : Nat × UInt8} (h : hitAt ptr = some r) :
    ptr.head? = some 0 := by
  unfold hitAt at h
  split at h
  · split at h
    · rename_i hcond
      simp [hcond.1]
    · split at h
      · rename_i hcond
        simp [hcond.1]
      · cases h
  · cases h

theorem getLast?_of_drop {l m : Bytes} {n : Nat} (hn : n + 1 = l.length)
    (h : ((l ++ m).drop n).head? = some 0) : l.getLast? = some 0 := by
  rw [List.head?_drop, List.getElem?_append_left (by omega)] at h
  rw [List.getLast?_eq_getElem?, ← hn]
  exact h

section Necessity
variable {resize : Resize} (hresize : Resizes resize)
variable {cleanPoint : Bool} {us vs : List Coded} {u : Coded}

/-- A stream whose units are recovered has no more hits than the header can count. -/
theorem Recovered.few_hits {units : List Coded} (hrec : Recovered resize cleanPoint units) :
    (scan 0 (annexB units)).length < 0x10000 := by
  obtain ⟨out, hout, -, -⟩ := hrec
  by_contra hmany
  rw [encodedImage_full cleanPoint (Nat.le_of_not_lt hmany)] at hout
  cases hout

/-- The header itself shows that the units could be counted. -/
theorem Recovered.few {units : List Coded} (hrec : Recovered resize cleanPoint units) :
    counted units < 0x10000 := by
  obtain ⟨out, -, hnone, himage⟩ := hrec
  cases out with
  | none =>
    rw [hnone rfl]
    decide
  | some image =>
    rw [← located_length 0 units, ← (himage image rfl).1]
    exact image.fragmentationHeader.size_lt

include hresize

/-- The fragment of a unit ends six bytes after the hit at the earliest, and unless it
ends the stream, it ends at a hit. -/
theorem fragment_end (hd : isDelimiter u.nal.header = false)
    (h5 : 5 ≤ (annexB (us ++ u :: vs)).length)
    (hrec : Recovered resize cleanPoint (us ++ u :: vs)) :
    6 ≤ u.prefixLength + u.length ∧
      ((annexB us).length + u.prefixLength + u.length = (annexB (us ++ u :: vs)).length ∨
        ∃ r, hitAt ((annexB (us ++ u :: vs)).drop
          ((annexB us).length + u.prefixLength + u.length)) = some r) := by
  obtain ⟨image, hmade, -, hfragments⟩ := encodedImage_eq hresize cleanPoint h5 hrec.few_hits
  obtain ⟨out, hout, _, himage⟩ := hrec
  rw [hmade] at hout
  obtain rfl := Except.ok.inj hout
  have hmem := mem_located 0 us u vs hd
  rw [← (himage _ rfl).1, hfragments, Nat.zero_add] at hmem
  obtain ⟨h, hh, hoff, hlen⟩ := mem_fragmentsOf (scan_spaced 0 _) hmem
  obtain ⟨_, hend, hhit⟩ := mem_scan hh
  rw [Nat.sub_zero] at hhit
  dsimp only at hoff hlen
  -- the hit is at the start code of the unit, or at its second byte
  have hstart : (annexB us).length ≤ h.start := by
    by_contra hlt
    have hp := prefixLength_le u
    have hp3 : 3 ≤ u.prefixLength := by
      unfold Coded.prefixLength
      split <;> omega
    have hone : h.start + 1 = (annexB us).length := by
      rcases (hitAt_some hhit).1 with h3 | h4 <;> omega
    rw [annexB_append] at hhit
    exact annexB_getLast us (getLast?_of_drop hone (hitAt_head hhit))
  have hle : h.prefixLength ≤ 4 := by
    rcases (hitAt_some hhit).1 with h3 | h4 <;> omega
  rcases hlen with hlen | ⟨h', hh', hspace, hlen⟩
  · rw [sub64_of_le (by omega)] at hlen
    exact ⟨by omega, Or.inl (by omega)⟩
  · rw [sub64_of_le (by omega)] at hlen
    have hpos : (annexB us).length + u.prefixLength + u.length = h'.start := by omega
    have hhit' := (mem_scan hh').2.2
    rw [Nat.sub_zero, ← hpos] at hhit'
    exact ⟨by omega, Or.inr ⟨_, hhit'⟩⟩

theorem scannable_of_recovered {units : List Coded}
    (hrec : Recovered resize cleanPoint units) : Scannable units := by
  have hbound : units = [] ∨ 5 ≤ (annexB units).length := by
    cases units with
    | nil => exact Or.inl rfl
    | cons u units =>
      by_contra hshort
      obtain ⟨out, hout, _⟩ := hrec
      have hpos : 0 < (annexB (u :: units)).length := by
        rw [annexB_cons_length]
        have := length_pos u
        omega
      obtain ⟨f, hf⟩ := encodedImage_short cleanPoint hpos (by
        rw [not_or] at hshort
        omega)
      rw [hf] at hout
      cases hout
  have h5 : ∀ us u vs, units = us ++ u :: vs → 5 ≤ (annexB units).length := by
    rintro us u vs rfl
    exact hbound.resolve_left (by simp)
  refine ⟨hbound, ?_, ?_, hrec.few⟩
  · intro u hu hd
    obtain ⟨us, vs, rfl⟩ := List.append_of_mem hu
    exact (fragment_end hresize hd (h5 us u vs rfl) hrec).1
  · apply List.isChain_iff_forall_rel_of_append_cons_cons.mpr
    rintro u v us vs rfl hd
    by_contra hv
    have hdelim : isDelimiter v.nal.header = true := by simpa using hv
    have hsplit : annexB (us ++ u :: v :: vs) =
        annexB (us ++ [u]) ++ (v.startCode ++ (v.bytes ++ annexB vs)) := by
      rw [← annexB_cons, ← annexB_append]
      simp
    have hpos : (annexB us).length + u.prefixLength + u.length = (annexB (us ++ [u])).length := by
      rw [annexB_append, List.length_append, annexB_cons_length]
      simp only [annexB_nil, List.length_nil]
      omega
    rcases (fragment_end hresize hd (h5 us u (v :: vs) rfl) hrec).2 with hend | ⟨r, hr⟩
    · rw [hpos, hsplit, List.length_append, List.length_append, List.length_append] at hend
      have hlen := length_pos v
      unfold Coded.length at hlen
      omega
    · rw [hpos, hsplit, List.drop_left, hitAt_delimiter v _ hdelim] at hr
      cases hr

end Necessity

/-- The fragmentation header and the key frame mark are right for exactly the
scannable streams. -/
theorem recovered_iff_scannable {resize : Resize} (hresize : Resizes resize) (cleanPoint : Bool)
    (units : List Coded) : Recovered resize cleanPoint units ↔ Scannable units :=
  ⟨scannable_of_recovered hresize, recovered_of_scannable hresize cleanPoint⟩

def idrSlice : NalUnit where
  header := 0x65
  payload := [0x88, 0x84]
  noStartCode := by
    intro a b r h
    have hlen := congrArg List.length h
    simp only [List.length_append, List.length_cons, List.length_nil] at hlen
    obtain rfl : a = [] := List.eq_nil_of_length_eq_zero (by omega)
    exact absurd (List.cons.inj h).1 (by decide)
  noTrailingZero := by decide

theorem idrSlice_recovered :
    Resizes growing ∧ Recovered growing false [⟨true, idrSlice⟩, ⟨true, idrSlice⟩] :=
  ⟨growing_resizes, (recovered_iff_scannable growing_resizes false _).mpr
    ⟨.inr (by decide), by decide, by decide, by decide⟩⟩

def delimiter : NalUnit where
  header := 0x09
  payload := [0xf0]
  noStartCode := by
    intro a b r h
    have hlen := congrArg List.length h
    simp only [List.length_append, List.length_cons, List.length_nil] at hlen
    omega
  noTrailingZero := by decide

/-- A delimiter after a slice is counted as part of the slice. -/
theorem delimiter_joins_fragment :
    ¬ Recovered growing false [⟨true, idrSlice⟩, ⟨true, delimiter⟩] := by
  rintro ⟨out, hout, _, himage⟩
  have hscan : encodedImage growing false (annexB [⟨true, idrSlice⟩, ⟨true, delimiter⟩]) =
      .ok (some ⟨true, ⟨[⟨4, 9⟩], by decide⟩⟩) := by decide
  rw [hscan] at hout
  obtain rfl := Except.ok.inj hout
  exact absurd (himage _ rfl).1 (by decide)

end WeiRtcNative.H264.AnnexB
