import WeiRtcNative.Lib.Machine
import WeiRtcNative.H264.SampleAttributeQueue

/-!
# The attribute queue as a map

Pushed with increasing ids, the queue stands for a map from which a `pop` also removes all
smaller ids. What `pop` answers to an id that is not there depends on whether a larger one is.
-/

namespace WeiRtcNative.H264.AttributeExpiry

open Machine SampleAttributeQueue
set_option autoImplicit false

universe u
variable {α : Type u}

def clear (_q : List (Entry α)) : List (Entry α) := []

inductive Op (α : Type u) where
  | push (id : UInt64) (t : α)
  | pop (id : UInt64)
  | clear
  deriving DecidableEq, Repr

/-- A call of `pop`, its result and `outT`, and the queue before and after it. -/
structure Popped (α : Type u) where
  id : UInt64
  before : List (Entry α)
  outT : Option α
  after : List (Entry α)
  deriving DecidableEq, Repr

def step (q : List (Entry α)) : Op α → List (Entry α) × List (Popped α)
  | .push id t => (push q id t, [])
  | .pop id => ((pop id q).2, [⟨id, q, (pop id q).1, (pop id q).2⟩])
  | .clear => (clear q, [])

def pushedIds (ops : List (Op α)) : List UInt64 :=
  ops.filterMap fun
    | .push id _ => some id
    | _ => none

/-- The entry with just this id is found, and the larger ones stay. -/
structure Popped.Exact (p : Popped α) : Prop where
  found : p.outT.isSome = true ↔ ∃ e ∈ p.before, e.id = p.id
  value : ∀ e ∈ p.before, e.id = p.id → p.outT = some e.value
  kept : p.after = p.before.filter fun e => p.id < e.id

/-- The id is in the queue, or no larger one is. -/
def Admits (q : List (Entry α)) : Op α → Prop
  | .pop id => (∃ e ∈ q, e.id = id) ∨ ∀ e ∈ q, ¬ id < e.id
  | _ => True

/-- An id is pushed behind smaller ones only. -/
def InOrder (q : List (Entry α)) : Op α → Prop
  | .push id _ => ∀ e ∈ q, e.id < id
  | _ => True

section Pop
variable {q : List (Entry α)}

theorem filter_of_front {e : Entry α} {id : UInt64} (hq : Increasing (e :: q))
    (h : id ≤ e.id) : q.filter (fun d => id < d.id) = q := by
  apply List.filter_eq_self.mpr
  intro d hd
  have hlt : e.id < d.id := (List.pairwise_cons.mp hq).1 d hd
  exact decide_eq_true (UInt64.lt_of_le_of_lt h hlt)

theorem pop_kept (hq : Increasing q) (id : UInt64) :
    (pop id q).2 = q.filter fun e => id < e.id := by
  induction q with
  | nil => rfl
  | cons e q ih =>
    unfold pop
    split
    · rename_i hlt
      rw [List.filter_cons_of_pos (by simpa using hlt), filter_of_front hq (UInt64.le_of_lt hlt)]
    · rename_i hge
      rw [List.filter_cons_of_neg (by simpa using hge)]
      split
      · rename_i heq
        rw [filter_of_front hq (by rw [heq]; exact UInt64.le_refl id)]
      · exact ih (List.pairwise_cons.mp hq).2

theorem pop_value (hq : Increasing q) {e : Entry α} (he : e ∈ q) :
    (pop e.id q).1 = some e.value :=
  (hq.pop_cons_sublist (List.singleton_sublist.mpr he)).1

/-- Without the id itself the first larger one is answered with. -/
theorem pop_missing {id : UInt64} (hmissing : ∀ e ∈ q, e.id ≠ id) :
    (pop id q).1.isSome = true ↔ ∃ e ∈ q, id < e.id := by
  induction q with
  | nil => simp
  | cons e q ih =>
    have hne : e.id ≠ id := hmissing e List.mem_cons_self
    have hrest := ih fun d hd => hmissing d (List.mem_cons_of_mem e hd)
    unfold pop
    by_cases hlt : id < e.id
    · rw [if_pos hlt]
      exact iff_of_true rfl ⟨e, List.mem_cons_self, hlt⟩
    · rw [if_neg hlt, if_neg hne, hrest]
      simp [hlt]

theorem pop_exact_iff (hq : Increasing q) (id : UInt64) :
    Popped.Exact ⟨id, q, (pop id q).1, (pop id q).2⟩ ↔ Admits q (.pop id) := by
  have hkept := pop_kept hq id
  by_cases hfound : ∃ e ∈ q, e.id = id
  · refine iff_of_true ?_ (Or.inl hfound)
    obtain ⟨e, he, rfl⟩ := hfound
    have hvalue := pop_value hq he
    refine ⟨?_, ?_, hkept⟩
    · exact iff_of_true (by simp [hvalue]) ⟨e, he, rfl⟩
    · intro d hd hid
      have hsame := pop_value hq hd
      rwa [hid] at hsame
  · have hmissing : ∀ e ∈ q, e.id ≠ id := fun e he hid => hfound ⟨e, he, hid⟩
    have hnewer := pop_missing hmissing
    constructor
    · intro h
      refine Or.inr ?_
      intro e he hlt
      exact hfound (h.found.mp (hnewer.mpr ⟨e, he, hlt⟩))
    · rintro (hid | hnone)
      · exact absurd hid hfound
      · refine ⟨iff_of_false ?_ hfound, ?_, hkept⟩
        · rw [hnewer]
          rintro ⟨e, he, hlt⟩
          exact hnone e he hlt
        · intro e he hid
          exact absurd hid (hmissing e he)

end Pop

section Run

theorem step_increasing {q : List (Entry α)} {op : Op α} (hq : Increasing q)
    (hop : InOrder q op) : Increasing (step q op).1 := by
  cases op with
  | push id t =>
    refine List.pairwise_append.mpr ⟨hq, List.pairwise_singleton _ _, ?_⟩
    intro a ha b hb
    rw [List.mem_singleton.mp hb]
    exact hop a ha
  | pop id => exact List.Pairwise.sublist (pop_suffix id q).sublist hq
  | clear => exact List.Pairwise.nil

theorem step_exact_iff {q : List (Entry α)} (hq : Increasing q) (op : Op α) :
    (∀ p ∈ (step q op).2, p.Exact) ↔ Admits q op := by
  cases op with
  | push id t => simp [step, Admits]
  | pop id => simpa [step] using pop_exact_iff hq id
  | clear => simp [step, Admits]

/-- Ids that increase over the whole run are each larger than those in the queue. -/
theorem along_inOrder {log : List (Popped α)} {q : List (Entry α)} {ops : List (Op α)}
    (hids : (pushedIds ops).Pairwise (· < ·)) (hq : ∀ e ∈ q, ∀ id ∈ pushedIds ops, e.id < id) :
    Along step (fun _ q op => InOrder q op) log q ops := by
  induction ops generalizing log q with
  | nil => trivial
  | cons op ops ih =>
    cases op with
    | push id t =>
      obtain ⟨hfirst, hrest⟩ := List.pairwise_cons.mp hids
      refine ⟨fun e he => hq e he id List.mem_cons_self, ih hrest ?_⟩
      intro e he id' hid'
      rcases List.mem_append.mp he with he | he
      · exact hq e he id' (List.mem_cons_of_mem id hid')
      · rw [List.mem_singleton.mp he]
        exact hfirst id' hid'
    | pop id =>
      refine ⟨trivial, ih hids ?_⟩
      intro e he
      exact hq e ((pop_suffix id q).subset he)
    | clear =>
      refine ⟨trivial, ih hids ?_⟩
      intro e he
      cases he

/-- With increasing ids every `pop` of a run is exact just when each is called with an id of the
queue or one that no id of the queue exceeds. -/
theorem pops_exact_iff (ops : List (Op α)) (hids : (pushedIds ops).Pairwise (· < ·)) :
    (∀ p ∈ (run step ([] : List (Entry α)) ops).2, p.Exact) ↔
      Along step (fun _ q op => Admits q op) [] [] ops := by
  rw [← justified_iff_forall]
  refine justified_iff_along step (P := fun _ p => Popped.Exact p) (fun _ q => Increasing q) ?_ ?_
    List.Pairwise.nil (along_inOrder hids (by simp))
  · intro _ q op hq _
    rw [justified_iff_forall]
    exact step_exact_iff hq op
  · intro _ q op hq hop _
    exact step_increasing hq hop

end Run

/-- The attributes of the second frame are asked for after those of the first were popped. -/
def inTurn : List (Op Nat) := [.push 10 1, .push 20 2, .pop 10, .push 30 3, .pop 30, .pop 40]

theorem inTurn_exact :
    (pushedIds inTurn).Pairwise (· < ·) ∧
      ∀ p ∈ (run step [] inTurn).2, p.Exact := by
  refine ⟨by decide, (pops_exact_iff inTurn (by decide)).mpr ?_⟩
  simp [inTurn, Along, Admits, step, push, pop]

/-- The sample between two frames has no entry and gets that of the later frame. -/
theorem missing_id_gets_newer :
    (pop 15 (push (push [] 10 1) 20 2)).1 = some 2 ∧
      ¬ ∀ p ∈ (run step [] ([.push 10 1, .push 20 2, .pop 15] : List (Op Nat))).2, p.Exact := by
  refine ⟨by decide, ?_⟩
  intro h
  have hfound := (h ⟨15, [⟨10, 1⟩, ⟨20, 2⟩], some 2, [⟨20, 2⟩]⟩ (by decide)).found
  exact absurd (hfound.mp rfl) (by decide)

end WeiRtcNative.H264.AttributeExpiry
