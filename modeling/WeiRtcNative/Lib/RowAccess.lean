import Mathlib.Tactic.Ring
import Mathlib.Order.Lattice

/-!
# Rows of a block of memory

The offsets at which the rows of a rectangle begin, and when all bytes of the rows lie inside a
block of a given size. Rows may be visited upwards or downwards.
-/

namespace RowAccess

set_option autoImplicit false

def offsets (start stride : Int) (count : Nat) : List Int :=
  (List.range count).map fun row : Nat => start + row * stride

/-- The `length` bytes from `offset` on are bytes of a block of `size`. -/
def Inside (size length offset : Int) : Prop := 0 ≤ offset ∧ offset + length ≤ size

theorem mem_offsets {start stride o : Int} {count : Nat} :
    o ∈ offsets start stride count ↔ ∃ row < count, start + row * stride = o := by
  simp [offsets]

/-- Downwards from the last row the same rows are visited. -/
theorem mem_offsets_neg {start stride o : Int} {count : Nat} :
    o ∈ offsets (start + (count - 1) * stride) (-stride) count ↔
      o ∈ offsets start stride count := by
  rw [mem_offsets, mem_offsets]
  constructor
  · rintro ⟨row, hrow, rfl⟩
    refine ⟨count - 1 - row, by omega, ?_⟩
    rw [Nat.cast_sub (by omega), Nat.cast_sub (by omega)]
    push_cast
    ring
  · rintro ⟨row, hrow, rfl⟩
    refine ⟨count - 1 - row, by omega, ?_⟩
    rw [Nat.cast_sub (by omega), Nat.cast_sub (by omega)]
    push_cast
    ring

/-- The first and the last row decide. -/
theorem offsets_inside_iff {start stride length size : Int} (hstride : 0 ≤ stride) (count : Nat) :
    (∀ o ∈ offsets start stride (count + 1), Inside size length o) ↔
      0 ≤ start ∧ start + count * stride + length ≤ size := by
  constructor
  · intro h
    have hfirst := h start (mem_offsets.mpr ⟨0, by omega, by simp⟩)
    have hlast := h (start + count * stride) (mem_offsets.mpr ⟨count, by omega, rfl⟩)
    exact ⟨hfirst.1, hlast.2⟩
  · rintro ⟨hfirst, hlast⟩ o ho
    obtain ⟨row, hrow, rfl⟩ := mem_offsets.mp ho
    have hle : (row : Int) * stride ≤ count * stride :=
      Int.mul_le_mul_of_nonneg_right (by omega) hstride
    have hnonneg : 0 ≤ (row : Int) * stride := Int.mul_nonneg (by omega) hstride
    exact ⟨by omega, by omega⟩

/-- Rows `first` to `first + count - 1` of a plane of `rows` rows. -/
theorem offsets_inside {first stride length rows size : Int} {count : Nat}
    (hfirst : 0 ≤ first) (hstride : 0 ≤ stride) (hlength : length ≤ stride)
    (hrows : first + count ≤ rows) (hsize : stride * rows ≤ size) :
    ∀ o ∈ offsets (stride * first) stride count, Inside size length o := by
  intro o ho
  obtain ⟨row, hrow, rfl⟩ := mem_offsets.mp ho
  have hend : stride * (first + row + 1) ≤ stride * rows :=
    Int.mul_le_mul_of_nonneg_left (by omega) hstride
  have hbegin : 0 ≤ stride * (first + row) := Int.mul_nonneg hstride (by omega)
  have hexpand : stride * (first + row + 1) = stride * first + row * stride + stride := by ring
  have hoffset : stride * (first + row) = stride * first + row * stride := by ring
  exact ⟨by omega, by omega⟩

end RowAccess
