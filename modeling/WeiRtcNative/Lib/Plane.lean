import Mathlib.Logic.Basic

/-!
# Planes of samples in flat memory

A plane is a block of `stride * rows` cells; sample `(x, y)` lives in cell
`y * stride + x`. `write` stores a rectangle row by row, as image conversions do.
A row longer than the stride would run into the next one, so reading back is
proved for rectangles no wider than the stride.
-/

set_option autoImplicit false

universe u

structure Plane (α : Type u) where
  stride : Nat
  rows : Nat
  cell : Nat → α

namespace Plane

variable {α : Type u}

def capacity (p : Plane α) : Nat := p.stride * p.rows

def sample (p : Plane α) (x y : Nat) : α := p.cell (y * p.stride + x)

/-- A `width` by `height` rectangle touches cells of the plane only. -/
def Within (p : Plane α) (width height : Nat) : Prop :=
  ∀ x y, x < width → y < height → y * p.stride + x < p.capacity

def writeRow (cell : Nat → α) (start width : Nat) (row : Nat → α) : Nat → α := fun a =>
  if start ≤ a ∧ a < start + width then row (a - start) else cell a

def writeRows (stride width : Nat) (src : Nat → Nat → α) : Nat → (Nat → α) → Nat → α
  | 0, cell => cell
  | height + 1, cell =>
    writeRow (writeRows stride width src height cell) (height * stride) width
      (fun x => src x height)

def write (p : Plane α) (width height : Nat) (src : Nat → Nat → α) : Plane α :=
  {p with cell := writeRows p.stride width src height p.cell}

theorem cell_lt {stride x y height : Nat} (hx : x < stride) (hy : y < height) :
    y * stride + x < height * stride := by
  have hle : (y + 1) * stride ≤ height * stride := Nat.mul_le_mul_right stride hy
  rw [Nat.add_mul, Nat.one_mul] at hle
  omega

theorem within_of_le (p : Plane α) {width height : Nat} (hw : width ≤ p.stride)
    (hh : height ≤ p.rows) : p.Within width height := by
  intro x y hx hy
  have hlt := cell_lt (Nat.lt_of_lt_of_le hx hw) (Nat.lt_of_lt_of_le hy hh)
  unfold capacity
  rwa [Nat.mul_comm p.stride p.rows]

theorem writeRows_sample {stride width : Nat} (hw : width ≤ stride) (src : Nat → Nat → α)
    (cell : Nat → α) (height x y : Nat) (hx : x < width) (hy : y < height) :
    writeRows stride width src height cell (y * stride + x) = src x y := by
  induction height with
  | zero => omega
  | succ height ih =>
    simp only [writeRows, writeRow]
    by_cases hlast : y = height
    · subst hlast
      rw [if_pos (by omega)]
      congr 1
      omega
    · have hbefore := cell_lt (Nat.lt_of_lt_of_le hx hw) (show y < height by omega)
      rw [if_neg (by omega)]
      exact ih (by omega)

theorem write_sample (p : Plane α) {width height : Nat} (hw : width ≤ p.stride)
    (src : Nat → Nat → α) {x y : Nat} (hx : x < width) (hy : y < height) :
    (p.write width height src).sample x y = src x y :=
  writeRows_sample hw src p.cell height x y hx hy

end Plane
