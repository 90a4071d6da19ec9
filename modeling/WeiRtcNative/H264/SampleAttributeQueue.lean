import Mathlib.Data.List.Pairwise

/-!
# SampleAttributeQueue

A queue from ids to attributes. `pop` looks at the front only: it throws away smaller
ids, takes an equal one, and answers with a larger one without taking it.
-/

namespace WeiRtcNative.H264.SampleAttributeQueue

set_option autoImplicit false

universe u
variable {α : Type u}

structure Entry (α : Type u) where
  id : UInt64
  value : α
  deriving DecidableEq, Repr

def push (q : List (Entry α)) (id : UInt64) (t : α) : List (Entry α) := q ++ [⟨id, t⟩]

def pop (id : UInt64) : List (Entry α) → Option α × List (Entry α)
  | [] => (none, [])
  | entry :: q =>
    if id < entry.id then (some entry.value, entry :: q)
    else if entry.id = id then (some entry.value, q)
    else pop id q

def size (q : List (Entry α)) : UInt32 := UInt32.ofNat q.length

@[simp] theorem pop_nil (id : UInt64) : pop id ([] : List (Entry α)) = (none, []) := rfl

@[simp] theorem pop_front (e : Entry α) (q : List (Entry α)) :
    pop e.id (e :: q) = (some e.value, q) := by
  have hirrefl : ¬ e.id < e.id := UInt64.lt_irrefl e.id
  simp [pop, hirrefl]

theorem pop_skip {id : UInt64} {e : Entry α} (h : e.id < id) (q : List (Entry α)) :
    pop id (e :: q) = pop id q := by
  have hlt : ¬ id < e.id := UInt64.lt_asymm h
  have hne : e.id ≠ id := UInt64.ne_of_lt h
  simp [pop, hlt, hne]

theorem pop_suffix (id : UInt64) (q : List (Entry α)) : (pop id q).2 <:+ q := by
  induction q with
  | nil => exact List.suffix_rfl
  | cons e q ih =>
    unfold pop
    split
    · exact List.suffix_rfl
    · split
      · exact List.suffix_cons e q
      · exact ih.trans (List.suffix_cons e q)

def Increasing (q : List (Entry α)) : Prop := q.Pairwise fun a b => a.id < b.id

/-- With increasing ids an entry is found behind the ones before it. -/
theorem Increasing.pop_cons_sublist {q es : List (Entry α)} {e : Entry α} (hq : Increasing q)
    (hsub : (e :: es).Sublist q) :
    (pop e.id q).1 = some e.value ∧ es.Sublist (pop e.id q).2 := by
  induction q with
  | nil => exact absurd hsub.length_le (by simp)
  | cons d q ih =>
    obtain ⟨hhead, htail⟩ := List.pairwise_cons.mp hq
    cases hsub with
    | cons _ hsub =>
      have hlt : d.id < e.id := hhead e (hsub.subset List.mem_cons_self)
      rw [pop_skip hlt]
      exact ih htail hsub
    | cons_cons _ hsub =>
      rw [pop_front]
      exact ⟨rfl, hsub⟩

/-- Popping for the first of several samples leaves no more than the entries of the others. -/
theorem pop_sublist_of_sublist {q es : List (Entry α)} {e : Entry α} (hsub : q.Sublist (e :: es)) :
    (pop e.id q).2.Sublist es := by
  cases hsub with
  | cons _ hsub => exact (pop_suffix e.id q).sublist.trans hsub
  | cons_cons _ hsub =>
    rw [pop_front]
    exact hsub

end WeiRtcNative.H264.SampleAttributeQueue
