import WeiRtcNative.Lib.RowAccess

/-!
# Copying rows within a block of memory

A block of memory is seen as rows of a fixed stride. Rows are written one after the other, from
another block or from the block itself, and downwards where a picture is turned over. Bytes
between the end of a row and the next one are not looked at.
-/

namespace RowCopy

open RowAccess
set_option autoImplicit false

universe u
variable {α : Type u}

def rowAt (stride : Int) (memory : Int → α) (r x : Int) : α := memory (stride * r + x)

def writeRow (memory : Int → α) (start length : Int) (bytes : Int → α) : Int → α := fun a =>
  if start ≤ a ∧ a < start + length then bytes (a - start) else memory a

def writeRows (start step length : Int) (bytes : Nat → Int → α) : Nat → (Int → α) → Int → α
  | 0, memory => memory
  | row + 1, memory =>
    writeRow (writeRows start step length bytes row memory) (start + row * step) length (bytes row)

/-- Rows of the block itself, read when it is their turn. -/
def copyRows (src srcStep dst dstStep length : Int) : Nat → (Int → α) → Int → α
  | 0, memory => memory
  | row + 1, memory =>
    let copied := copyRows src srcStep dst dstStep length row memory
    writeRow copied (dst + row * dstStep) length fun x => copied (src + row * srcStep + x)

section Rows
variable {stride length : Int} {memory : Int → α}

/-- The bytes of a row have no other row's addresses. -/
theorem row_eq {r r' x : Int} (hx : 0 ≤ x) (hlength : x < length) (hstride : length ≤ stride)
    (hlow : stride * r' ≤ stride * r + x) (hhigh : stride * r + x < stride * r' + length) :
    r = r' := by
  rcases Int.lt_trichotomy r r' with hlt | heq | hgt
  · have hmul : stride * (r + 1) ≤ stride * r' := Int.mul_le_mul_of_nonneg_left hlt (by omega)
    rw [Int.mul_add, Int.mul_one] at hmul
    omega
  · exact heq
  · have hmul : stride * (r' + 1) ≤ stride * r := Int.mul_le_mul_of_nonneg_left hgt (by omega)
    rw [Int.mul_add, Int.mul_one] at hmul
    omega

theorem writeRow_rowAt {r r' x : Int} (hx : 0 ≤ x) (hlength : x < length)
    (hstride : length ≤ stride) (bytes : Int → α) :
    rowAt stride (writeRow memory (stride * r') length bytes) r x =
      if r = r' then bytes x else rowAt stride memory r x := by
  unfold rowAt writeRow
  by_cases hr : r = r'
  · subst hr
    rw [if_pos ⟨by omega, by omega⟩, if_pos rfl]
    congr 1
    omega
  · rw [if_neg fun h => hr (row_eq hx hlength hstride h.1 h.2), if_neg hr]

theorem writeRows_rowAt {first r x : Int} (hx : 0 ≤ x) (hlength : x < length)
    (hstride : length ≤ stride) (bytes : Nat → Int → α) (count : Nat) :
    rowAt stride (writeRows (stride * first) stride length bytes count memory) r x =
      if first ≤ r ∧ r < first + count then bytes (r - first).toNat x
      else rowAt stride memory r x := by
  induction count with
  | zero => exact (if_neg (by omega)).symm
  | succ count ih =>
    have hstart : stride * first + count * stride = stride * (first + count) := by ring
    rw [writeRows, hstart, writeRow_rowAt hx hlength hstride, ih]
    by_cases hr : r = first + count
    · rw [if_pos hr, if_pos (by omega), show (r - first).toNat = count by omega]
    · rw [if_neg hr]
      by_cases hin : first ≤ r ∧ r < first + count
      · rw [if_pos hin, if_pos (by omega)]
      · rw [if_neg hin, if_neg (by omega)]

/-- After `n` of `count` rows, copied downwards to a place beside them. -/
theorem copyRows_rowAt {src dst r x : Int} {count : Nat} (hx : 0 ≤ x) (hlength : x < length)
    (hstride : length ≤ stride) (hapart : src + count ≤ dst ∨ dst + count ≤ src) (n : Nat)
    (hn : n ≤ count) :
    rowAt stride (copyRows (stride * src) stride (stride * (dst + count - 1)) (-stride) length n
        memory) r x =
      if dst + count - n ≤ r ∧ r < dst + count then
        rowAt stride memory (src + (dst + count - 1 - r)) x
      else rowAt stride memory r x := by
  induction n generalizing r with
  | zero => exact (if_neg (by omega)).symm
  | succ n ih =>
    have hdst : stride * (dst + count - 1) + n * -stride = stride * (dst + count - 1 - n) := by ring
    have hsrc : stride * src + n * stride = stride * (src + n) := by ring
    simp only [copyRows]
    rw [hdst, hsrc, writeRow_rowAt hx hlength hstride]
    by_cases hr : r = dst + count - 1 - n
    · -- the row read has not been written yet
      have hread := ih (r := src + n) (by omega)
      rw [if_neg (by omega)] at hread
      rw [if_pos hr, if_pos (by omega), show src + (dst + count - 1 - r) = src + n by omega]
      exact hread
    · rw [if_neg hr, ih (by omega)]
      by_cases hin : dst + count - n ≤ r ∧ r < dst + count
      · rw [if_pos hin, if_pos (by omega)]
      · rw [if_neg hin, if_neg (by omega)]

end Rows

section Frame
variable {length : Int} {memory : Int → α} {a : Int}

theorem writeRow_other {start : Int} {bytes : Int → α}
    (h : ¬(start ≤ a ∧ a < start + length)) : writeRow memory start length bytes a = memory a :=
  if_neg h

/-- A byte that no row contains stays as it is. -/
theorem writeRows_other {start step : Int} {bytes : Nat → Int → α} (count : Nat)
    (h : ∀ o ∈ offsets start step count, ¬(o ≤ a ∧ a < o + length)) :
    writeRows start step length bytes count memory a = memory a := by
  induction count with
  | zero => rfl
  | succ row ih =>
    rw [writeRows, writeRow_other (h _ (mem_offsets.mpr ⟨row, by omega, rfl⟩))]
    apply ih
    intro o ho
    obtain ⟨k, hk, rfl⟩ := mem_offsets.mp ho
    exact h _ (mem_offsets.mpr ⟨k, by omega, rfl⟩)

theorem copyRows_other {src srcStep dst dstStep : Int} (count : Nat)
    (h : ∀ o ∈ offsets dst dstStep count, ¬(o ≤ a ∧ a < o + length)) :
    copyRows src srcStep dst dstStep length count memory a = memory a := by
  induction count with
  | zero => rfl
  | succ row ih =>
    simp only [copyRows]
    rw [writeRow_other (h _ (mem_offsets.mpr ⟨row, by omega, rfl⟩))]
    apply ih
    intro o ho
    obtain ⟨k, hk, rfl⟩ := mem_offsets.mp ho
    exact h _ (mem_offsets.mpr ⟨k, by omega, rfl⟩)

end Frame

end RowCopy
