import Mathlib.Data.List.Basic

/-!
# Writing into a block of memory

A block is a list of fixed length. `splice` writes a run of cells, `moveDown` copies a part of
the block to its beginning, where the two may overlap.
-/

namespace Splice

set_option autoImplicit false

universe u
variable {α : Type u}

def splice (block : List α) (start : Nat) (data : List α) : List α :=
  block.take start ++ data ++ block.drop (start + data.length)

def moveDown (block : List α) (start count : Nat) : List α :=
  splice block 0 ((block.drop start).take count)

theorem length_splice {block data : List α} {start : Nat}
    (h : start + data.length ≤ block.length) : (splice block start data).length = block.length := by
  simp only [splice, List.length_append, List.length_take, List.length_drop]
  omega

/-- What stands before the end of the cells written. -/
theorem take_splice {block data : List α} {start : Nat} (h : start ≤ block.length) :
    (splice block start data).take (start + data.length) = block.take start ++ data := by
  rw [splice]
  apply List.take_left'
  simp only [List.length_append, List.length_take]
  omega

theorem length_moveDown {block : List α} {start count : Nat} (h : start + count ≤ block.length) :
    (moveDown block start count).length = block.length := by
  apply length_splice
  simp only [List.length_take, List.length_drop]
  omega

theorem take_moveDown {block : List α} {start count : Nat} (h : start + count ≤ block.length) :
    (moveDown block start count).take count = (block.drop start).take count := by
  have hlength : ((block.drop start).take count).length = count := by
    simp only [List.length_take, List.length_drop]
    omega
  have htake : (splice block 0 ((block.drop start).take count)).take _ = _ :=
    take_splice (Nat.zero_le block.length)
  rwa [hlength, Nat.zero_add, List.take_zero, List.nil_append] at htake

end Splice
