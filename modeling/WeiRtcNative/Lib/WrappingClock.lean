import Mathlib.Data.List.Basic

/-!
# Readings of a wrapping clock

A clock counts modulo `2 ^ 32`. If it goes forward by less than a full turn between two
readings, `elapsed` is what it has gone since the first one, turns included.
-/

namespace WrappingClock

set_option autoImplicit false

def advance (a b : UInt32) : Nat := (b - a).toNat

def elapsed : List UInt32 → Nat
  | a :: b :: ts => advance a b + elapsed (b :: ts)
  | _ => 0

@[simp] theorem elapsed_singleton (a : UInt32) : elapsed [a] = 0 := rfl

@[simp] theorem advance_self (a : UInt32) : advance a a = 0 := by
  simp [advance]

theorem add_advance_mod (a b : UInt32) : (a.toNat + advance a b) % 4294967296 = b.toNat := by
  have hb := b.toNat_lt
  have ha := a.toNat_lt
  rw [advance, UInt32.toNat_sub]
  omega

theorem elapsed_append {ts : List UInt32} {a : UInt32} (h : ts.getLast? = some a) (b : UInt32) :
    elapsed (ts ++ [b]) = elapsed ts + advance a b := by
  induction ts with
  | nil => simp at h
  | cons t ts ih =>
    cases ts with
    | nil =>
      obtain rfl : t = a := by simpa using h
      simp [elapsed]
    | cons t' ts =>
      have hlast : (t' :: ts).getLast? = some a := by simpa using h
      simp only [List.cons_append, elapsed] at ih ⊢
      rw [ih hlast]
      omega

/-- The first reading and what has elapsed since give the last reading. -/
theorem head_add_elapsed_mod {ts : List UInt32} {a b : UInt32} (ha : ts.head? = some a)
    (hb : ts.getLast? = some b) : (a.toNat + elapsed ts) % 4294967296 = b.toNat := by
  induction ts generalizing a with
  | nil => simp at ha
  | cons t ts ih =>
    obtain rfl : t = a := by simpa using ha
    cases ts with
    | nil =>
      obtain rfl : t = b := by simpa using hb
      have hlt := t.toNat_lt
      rw [elapsed_singleton]
      omega
    | cons t' ts =>
      have hrest := ih rfl (by simpa using hb)
      have hfirst := add_advance_mod t t'
      rw [elapsed, ← Nat.add_assoc]
      omega

end WrappingClock
