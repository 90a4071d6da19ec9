import Mathlib.Data.List.Basic

/-!
# UTF-16 and UTF-8

Texts as lists of characters, in both encodings. Every list of units decodes to a text, where a
surrogate without its partner counts as the replacement character; it is the encoding of that text
just when there is no such surrogate.
-/

namespace Utf16

set_option autoImplicit false

def encodeChar (c : Char) : List UInt16 :=
  if c.toNat < 0x10000 then [UInt16.ofNat c.toNat]
  else
    [UInt16.ofNat (0xD800 + (c.toNat - 0x10000) / 0x400),
      UInt16.ofNat (0xDC00 + (c.toNat - 0x10000) % 0x400)]

def encode (cs : List Char) : List UInt16 := cs.flatMap encodeChar

def utf8 (cs : List Char) : List UInt8 := cs.flatMap String.utf8EncodeChar

def isHigh (u : UInt16) : Bool := 0xD800 ≤ u.toNat && u.toNat < 0xDC00

def isLow (u : UInt16) : Bool := 0xDC00 ≤ u.toNat && u.toNat < 0xE000

def replacement : Char := '\uFFFD'

/-- Not a surrogate. -/
def isPlain (u : UInt16) : Bool := !(isHigh u || isLow u)

/-- A unit that is not part of a pair. -/
def single (u : UInt16) : Char := if isPlain u then Char.ofNat u.toNat else replacement

def join (u v : UInt16) : Char :=
  Char.ofNat (0x10000 + (u.toNat - 0xD800) * 0x400 + (v.toNat - 0xDC00))

def decode : List UInt16 → List Char
  | [] => []
  | [u] => [single u]
  | u :: v :: us =>
    if isHigh u && isLow v then join u v :: decode us else single u :: decode (v :: us)

/-- Every surrogate has its partner. -/
def wellFormed : List UInt16 → Bool
  | [] => true
  | [u] => isPlain u
  | u :: v :: us =>
    if isHigh u && isLow v then wellFormed us else isPlain u && wellFormed (v :: us)

@[simp] theorem encode_nil : encode [] = [] := rfl

@[simp] theorem encode_cons (c : Char) (cs : List Char) :
    encode (c :: cs) = encodeChar c ++ encode cs := by
  simp [encode]

@[simp] theorem utf8_nil : utf8 [] = [] := rfl

@[simp] theorem utf8_cons (c : Char) (cs : List Char) :
    utf8 (c :: cs) = String.utf8EncodeChar c ++ utf8 cs := by
  simp [utf8]

theorem not_surrogate (c : Char) : c.toNat < 0xD800 ∨ 0xDFFF < c.toNat ∧ c.toNat < 0x110000 :=
  c.valid

theorem toNat_ofNat {n : Nat} (h : n < 0xD800 ∨ 0xDFFF < n ∧ n < 0x110000) :
    (Char.ofNat n).toNat = n := by
  have hvalid : n.isValidChar := h
  unfold Char.ofNat
  rw [dif_pos hvalid]
  rfl

theorem toNat_unit {n : Nat} (h : n < 0x10000) : (UInt16.ofNat n).toNat = n := by
  simp [Nat.mod_eq_of_lt h]

section Units

theorem isHigh_iff (u : UInt16) : isHigh u = true ↔ 0xD800 ≤ u.toNat ∧ u.toNat < 0xDC00 := by
  simp [isHigh]

theorem isLow_iff (u : UInt16) : isLow u = true ↔ 0xDC00 ≤ u.toNat ∧ u.toNat < 0xE000 := by
  simp [isLow]

theorem isPlain_iff (u : UInt16) : isPlain u = true ↔ u.toNat < 0xD800 ∨ 0xDFFF < u.toNat := by
  simp only [isPlain, isHigh, isLow]
  simp
  omega

theorem encodeChar_plain {u : UInt16} (h : isPlain u = true) : encodeChar (single u) = [u] := by
  have hu := u.toNat_lt
  have hplain := (isPlain_iff u).mp h
  have htoNat : (single u).toNat = u.toNat := by
    rw [single, if_pos h]
    exact toNat_ofNat (by omega)
  simp only [encodeChar, htoNat]
  rw [if_pos (by omega)]
  simp

theorem encodeChar_surrogate {u : UInt16} (h : isPlain u = false) :
    encodeChar (single u) = [0xFFFD] := by
  rw [single, if_neg (by simp [h])]
  rfl

theorem join_toNat {u v : UInt16} (hu : isHigh u = true) (hv : isLow v = true) :
    (join u v).toNat = 0x10000 + (u.toNat - 0xD800) * 0x400 + (v.toNat - 0xDC00) := by
  have hhigh := (isHigh_iff u).mp hu
  have hlow := (isLow_iff v).mp hv
  exact toNat_ofNat (by omega)

theorem encodeChar_join {u v : UInt16} (hu : isHigh u = true) (hv : isLow v = true) :
    encodeChar (join u v) = [u, v] := by
  have hhigh := (isHigh_iff u).mp hu
  have hlow := (isLow_iff v).mp hv
  have hjoin := join_toNat hu hv
  have hfirst : 0xD800 + ((join u v).toNat - 0x10000) / 0x400 = u.toNat := by omega
  have hsecond : 0xDC00 + ((join u v).toNat - 0x10000) % 0x400 = v.toNat := by omega
  unfold encodeChar
  rw [if_neg (by omega), hfirst, hsecond]
  simp

end Units

section Decode

theorem decode_plain {u : UInt16} (h : isPlain u = true) (us : List UInt16) :
    decode (u :: us) = Char.ofNat u.toNat :: decode us := by
  have hhigh : isHigh u = false := by
    cases hu : isHigh u with
    | false => rfl
    | true => simp [isPlain, hu] at h
  cases us with
  | nil => simp [decode, single, h]
  | cons v us => simp [decode, hhigh, single, h]

theorem decode_encodeChar_append (c : Char) (us : List UInt16) :
    decode (encodeChar c ++ us) = c :: decode us := by
  have hvalid := not_surrogate c
  unfold encodeChar
  split
  · rename_i hsmall
    have hunit := toNat_unit hsmall
    have hplain : isPlain (UInt16.ofNat c.toNat) = true := by
      rw [isPlain_iff, hunit]
      omega
    rw [List.singleton_append, decode_plain hplain, hunit, Char.ofNat_toNat]
  · have hfirst : (UInt16.ofNat (0xD800 + (c.toNat - 0x10000) / 0x400)).toNat =
        0xD800 + (c.toNat - 0x10000) / 0x400 := toNat_unit (by omega)
    have hsecond : (UInt16.ofNat (0xDC00 + (c.toNat - 0x10000) % 0x400)).toNat =
        0xDC00 + (c.toNat - 0x10000) % 0x400 := toNat_unit (by omega)
    have hhigh : isHigh (UInt16.ofNat (0xD800 + (c.toNat - 0x10000) / 0x400)) = true := by
      rw [isHigh_iff, hfirst]
      omega
    have hlow : isLow (UInt16.ofNat (0xDC00 + (c.toNat - 0x10000) % 0x400)) = true := by
      rw [isLow_iff, hsecond]
      omega
    have hjoin : join (UInt16.ofNat (0xD800 + (c.toNat - 0x10000) / 0x400))
        (UInt16.ofNat (0xDC00 + (c.toNat - 0x10000) % 0x400)) = c := by
      apply Char.toNat_inj.mp
      rw [join_toNat hhigh hlow, hfirst, hsecond]
      omega
    simp only [List.cons_append, List.nil_append, decode, hhigh, hlow, Bool.and_self, ite_true, hjoin]

@[simp] theorem decode_encode (cs : List Char) : decode (encode cs) = cs := by
  induction cs with
  | nil => rfl
  | cons c cs ih => rw [encode_cons, decode_encodeChar_append, ih]

/-- Decoding loses nothing but surrogates without a partner. -/
theorem encode_single_iff (u : UInt16) (us vs : List UInt16) :
    encodeChar (single u) ++ us = u :: vs ↔ isPlain u = true ∧ us = vs := by
  cases hplain : isPlain u with
  | true => simp [encodeChar_plain hplain]
  | false =>
    have hne : u ≠ 0xFFFD := by
      rintro rfl
      cases hplain
    simp [encodeChar_surrogate hplain, hne.symm]

theorem encode_decode_iff (us : List UInt16) : encode (decode us) = us ↔ wellFormed us = true := by
  induction us using decode.induct with
  | case1 => simp [decode, wellFormed]
  | case2 u =>
    have hsingle := encode_single_iff u [] []
    simpa [decode, wellFormed] using hsingle
  | case3 u v us hpair ih =>
    obtain ⟨hu, hv⟩ : isHigh u = true ∧ isLow v = true := by simpa using hpair
    simp [decode, wellFormed, hu, hv, encodeChar_join hu hv, ih]
  | case4 u v us hpair ih =>
    rw [decode, wellFormed, if_neg hpair, if_neg hpair, encode_cons, encode_single_iff, ih,
      Bool.and_eq_true]

end Decode

section Terminators

theorem single_toNat_ne_zero {u : UInt16} (hu : u ≠ 0) : (single u).toNat ≠ 0 := by
  have hpos : u.toNat ≠ 0 := by
    intro hzero
    exact hu (UInt16.toNat_inj.mp hzero)
  cases hplain : isPlain u with
  | true =>
    have hlt := u.toNat_lt
    have hvalid := (isPlain_iff u).mp hplain
    rw [single, if_pos hplain, toNat_ofNat (by omega)]
    exact hpos
  | false =>
    have hreplacement : single u = replacement := by simp [single, hplain]
    rw [hreplacement]
    simp [replacement]

/-- A text without a terminator has no NUL. -/
theorem toNat_ne_zero_of_mem_decode {us : List UInt16} (hus : 0 ∉ us) :
    ∀ c ∈ decode us, c.toNat ≠ 0 := by
  induction us using decode.induct with
  | case1 => simp [decode]
  | case2 u =>
    have hu : u ≠ 0 := fun h => hus (by simp [h])
    simpa [decode] using single_toNat_ne_zero hu
  | case3 u v us hpair ih =>
    obtain ⟨hu, hv⟩ : isHigh u = true ∧ isLow v = true := by simpa using hpair
    have hjoin := join_toNat hu hv
    rw [decode, if_pos hpair]
    intro c hc
    rcases List.mem_cons.mp hc with hc | hc
    · rw [hc, hjoin]
      omega
    · exact ih (fun h => hus (by simp [h])) c hc
  | case4 u v us hpair ih =>
    have hu : u ≠ 0 := fun h => hus (by simp [h])
    rw [decode, if_neg hpair]
    intro c hc
    rcases List.mem_cons.mp hc with rfl | hc
    · exact single_toNat_ne_zero hu
    · exact ih (fun h => hus (List.mem_cons_of_mem u h)) c hc

theorem zero_notMem_encodeChar {c : Char} (hc : c.toNat ≠ 0) : 0 ∉ encodeChar c := by
  have hvalid := not_surrogate c
  have hunit : ∀ {n : Nat}, n < 0x10000 → n ≠ 0 → (0 : UInt16) ≠ UInt16.ofNat n := by
    intro n hlt hn hzero
    have htoNat := toNat_unit hlt
    rw [← hzero] at htoNat
    exact hn htoNat.symm
  unfold encodeChar
  split
  · rename_i hsmall
    simpa using hunit hsmall hc
  · simp only [List.mem_cons, List.not_mem_nil, or_false, not_or]
    exact ⟨hunit (by omega) (by omega), hunit (by omega) (by omega)⟩

theorem zero_notMem_encode {cs : List Char} (hcs : ∀ c ∈ cs, c.toNat ≠ 0) : 0 ∉ encode cs := by
  intro hzero
  obtain ⟨c, hc, hmem⟩ := List.mem_flatMap.mp hzero
  exact zero_notMem_encodeChar (hcs c hc) hmem

theorem zero_notMem_utf8EncodeChar {c : Char} (hc : c.toNat ≠ 0) :
    0 ∉ String.utf8EncodeChar c := by
  have hbyte : ∀ {n : Nat}, n < 256 → n ≠ 0 → (0 : UInt8) ≠ UInt8.ofNat n := by
    intro n hlt hn hzero
    have htoNat : (UInt8.ofNat n).toNat = n := by simp [Nat.mod_eq_of_lt hlt]
    rw [← hzero] at htoNat
    exact hn htoNat.symm
  have hval : c.val.toNat ≠ 0 := hc
  unfold String.utf8EncodeChar
  dsimp only
  split
  · simpa using hbyte (by omega) hval
  · split
    · simp only [List.mem_cons, List.not_mem_nil, or_false, not_or]
      exact ⟨hbyte (by omega) (by omega), hbyte (by omega) (by omega)⟩
    · split
      · simp only [List.mem_cons, List.not_mem_nil, or_false, not_or]
        exact ⟨hbyte (by omega) (by omega), hbyte (by omega) (by omega),
          hbyte (by omega) (by omega)⟩
      · simp only [List.mem_cons, List.not_mem_nil, or_false, not_or]
        exact ⟨hbyte (by omega) (by omega), hbyte (by omega) (by omega),
          hbyte (by omega) (by omega), hbyte (by omega) (by omega)⟩

theorem zero_notMem_utf8 {cs : List Char} (hcs : ∀ c ∈ cs, c.toNat ≠ 0) : 0 ∉ utf8 cs := by
  intro hzero
  obtain ⟨c, hc, hmem⟩ := List.mem_flatMap.mp hzero
  exact zero_notMem_utf8EncodeChar (hcs c hc) hmem

end Terminators

section Conversion

/-- UTF-8 to UTF-16, for a text in UTF-8. -/
def utf16? (bytes : List UInt8) : Option (List UInt16) :=
  bytes.toByteArray.utf8Decode?.map fun cs => encode cs.toList

@[simp] theorem utf16?_utf8 (cs : List Char) : utf16? (utf8 cs) = some (encode cs) := by
  have hdecode : (utf8 cs).toByteArray.utf8Decode? = some cs.toArray := List.utf8Decode?_utf8Encode
  simp [utf16?, hdecode]

end Conversion

section Lengths

theorem length_encodeChar_le (c : Char) :
    (encodeChar c).length ≤ (String.utf8EncodeChar c).length := by
  rw [String.length_utf8EncodeChar]
  have hsize := c.utf8Size_pos
  unfold encodeChar
  split
  · exact hsize
  · rename_i hbig
    have hfour : c.utf8Size = 4 := by
      rw [Char.utf8Size_eq_four_iff, UInt32.lt_iff_toNat_lt]
      exact Nat.lt_of_not_le fun hle => hbig (Nat.lt_succ_of_le hle)
    simp [hfour]

theorem length_encode_le (cs : List Char) : (encode cs).length ≤ (utf8 cs).length := by
  induction cs with
  | nil => simp
  | cons c cs ih =>
    have hfirst := length_encodeChar_le c
    simp only [encode_cons, utf8_cons, List.length_append]
    omega

theorem length_utf16?_le {bytes : List UInt8} {us : List UInt16} (h : utf16? bytes = some us) :
    us.length ≤ bytes.length := by
  obtain ⟨cs, hcs, rfl⟩ := Option.map_eq_some_iff.mp h
  obtain ⟨l, hl⟩ := ByteArray.isSome_utf8Decode?_iff.mp (Option.isSome_of_eq_some hcs)
  have hdecode : l.utf8Encode.utf8Decode? = some l.toArray := List.utf8Decode?_utf8Encode
  rw [← hl, hcs] at hdecode
  obtain rfl := Option.some.inj hdecode
  have hsize : bytes.length = (utf8 l).length := by
    have hbytes := congrArg ByteArray.size hl
    simpa [List.utf8Encode, utf8] using hbytes
  rw [hsize]
  exact length_encode_le l

end Lengths

end Utf16
