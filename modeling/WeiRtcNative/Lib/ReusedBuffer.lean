import Mathlib.Data.List.Chain

/-!
# A buffer that is reallocated only when its measure is too small

`reuse` keeps the buffer it holds unless the request measures strictly more. The
buffer then has the requested shape at every request exactly when each request
repeats the previous one or measures strictly more. No order law on the measure is
used, so the measure may be a wrapping machine product.
-/

namespace ReusedBuffer

set_option autoImplicit false

universe u v
variable {S : Type u} {A : Type v} [LT A] [DecidableLT A] (measure : S → A)

def reuse : Option S → S → S
  | none, need => need
  | some held, need => if measure held < measure need then need else held

def buffers : Option S → List S → List S
  | _, [] => []
  | held, need :: needs =>
    let b := reuse measure held need
    b :: buffers (some b) needs

/-- A request that a buffer of the previous request's shape serves exactly. -/
def Follows (previous need : S) : Prop := previous = need ∨ measure previous < measure need

omit [DecidableLT A] in
theorem follows_refl (s : S) : Follows measure s s := Or.inl rfl

@[simp] theorem reuse_none (need : S) : reuse measure none need = need := rfl

theorem reuse_some_eq_iff (held need : S) :
    reuse measure (some held) need = need ↔ Follows measure held need := by
  by_cases hlt : measure held < measure need
  · simp [reuse, Follows, hlt]
  · simp [reuse, Follows, hlt]

theorem buffers_concat (held : Option S) (needs : List S) (need : S) :
    buffers measure held (needs ++ [need]) = buffers measure held needs ++
      [reuse measure ((buffers measure held needs).getLast?.or held) need] := by
  induction needs generalizing held with
  | nil => simp [buffers]
  | cons n needs ih =>
    simp only [List.cons_append, buffers, ih, List.cons.injEq, true_and, List.getLast?_cons]
    cases (buffers measure (some (reuse measure held n)) needs).getLast? <;> simp

theorem buffers_some_eq_iff (held : S) (needs : List S) :
    buffers measure (some held) needs = needs ↔ (held :: needs).IsChain (Follows measure) := by
  induction needs generalizing held with
  | nil => simp [buffers]
  | cons need needs ih =>
    simp only [buffers, List.cons.injEq, List.isChain_cons_cons]
    constructor
    · rintro ⟨hhead, htail⟩
      rw [hhead] at htail
      exact ⟨(reuse_some_eq_iff measure held need).mp hhead, (ih need).mp htail⟩
    · rintro ⟨hhead, htail⟩
      have hb := (reuse_some_eq_iff measure held need).mpr hhead
      rw [hb]
      exact ⟨rfl, (ih need).mpr htail⟩

theorem buffers_none_eq_iff (needs : List S) :
    buffers measure none needs = needs ↔ needs.IsChain (Follows measure) := by
  cases needs with
  | nil => simp [buffers]
  | cons need needs =>
    simp only [buffers, reuse_none, List.cons.injEq, true_and]
    exact buffers_some_eq_iff measure need needs

end ReusedBuffer
