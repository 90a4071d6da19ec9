import Mathlib.Data.List.Basic

/-!
# Chains of calls that may fail

A chain asks for values, each at a site of its own, and collects items. The first call that fails
ends it, with the items collected up to there. `Collects` says of a chain which calls it depends
on and which items it leaves if none of them fails; a rule for each way to build a chain reduces
it to the parts.
-/

namespace CallChain

set_option autoImplicit false

variable {Site Error Item : Type} {α β : Type}

abbrev Chain (Error Item α : Type) := ExceptT Error (StateM (List Item)) α

/-- A call that is to give `value`; `fails` says how it fails, if it does. -/
def call (fails : Site → Option Error) (site : Site) (value : α) : Chain Error Item α :=
  match fails site with
  | some e => throw e
  | none => pure value

def push (item : Item) : Chain Error Item Unit := modify (· ++ [item])

/-- `body` for each element of a list, with the index of the element. -/
def forIdx (body : Nat → β → Chain Error Item Unit) : Nat → List β → Chain Error Item Unit
  | _, [] => pure ()
  | i, b :: bs => do
    body i b
    forIdx body (i + 1) bs

def outcome (m : Chain Error Item α) (items : List Item) : Except Error α × List Item :=
  m.run.run items

section Outcome
variable {fails : Site → Option Error} {site : Site} {items : List Item}

@[simp] theorem outcome_pure (a : α) (items : List Item) :
    outcome (pure a : Chain Error Item α) items = (.ok a, items) := rfl

@[simp] theorem outcome_push (item : Item) (items : List Item) :
    outcome (push item : Chain Error Item Unit) items = (.ok (), items ++ [item]) := rfl

theorem outcome_call_none (h : fails site = none) (value : α) :
    outcome (call fails site value : Chain Error Item α) items = (.ok value, items) := by
  rw [call, h]
  rfl

theorem outcome_call_some {e : Error} (h : fails site = some e) (value : α) :
    outcome (call fails site value : Chain Error Item α) items = (.error e, items) := by
  rw [call, h]
  rfl

theorem outcome_bind_ok {m : Chain Error Item α} {f : α → Chain Error Item β} {a : α}
    {items' : List Item} (h : outcome m items = (.ok a, items')) :
    outcome (m >>= f) items = outcome (f a) items' := by
  have hrun : StateT.run (ExceptT.run m) items = (.ok a, items') := h
  simp only [outcome, ExceptT.run_bind, StateT.run_bind, hrun]
  rfl

theorem outcome_bind_error {m : Chain Error Item α} {f : α → Chain Error Item β} {e : Error}
    {items' : List Item} (h : outcome m items = (.error e, items')) :
    outcome (m >>= f) items = (.error e, items') := by
  have hrun : StateT.run (ExceptT.run m) items = (.error e, items') := h
  simp only [outcome, ExceptT.run_bind, StateT.run_bind, hrun]
  rfl

/-- A chain succeeds just if each of its parts does. -/
theorem outcome_bind_ok_iff {m : Chain Error Item α} {f : α → Chain Error Item β} {b : β}
    {items' : List Item} : outcome (m >>= f) items = (.ok b, items') ↔
      ∃ a between, outcome m items = (.ok a, between) ∧ outcome (f a) between = (.ok b, items') := by
  cases hm : outcome m items with
  | mk result between =>
    cases result with
    | ok a => simp [outcome_bind_ok hm]
    | error e => simp [outcome_bind_error hm]

theorem outcome_call_ok_iff {value a : α} {items' : List Item} :
    outcome (call fails site value : Chain Error Item α) items = (.ok a, items') ↔
      fails site = none ∧ a = value ∧ items' = items := by
  cases hsite : fails site with
  | none =>
    rw [outcome_call_none hsite]
    simp [eq_comm]
  | some e =>
    rw [outcome_call_some hsite]
    simp

theorem outcome_throw (e : Error) (items : List Item) :
    outcome (throw e : Chain Error Item α) items = (.error e, items) := rfl

end Outcome

/-- Whether or not a call fails, the items collected keep `P`. -/
def Keeps (P : List Item → Prop) (m : Chain Error Item α) : Prop :=
  ∀ items, P items → P (outcome m items).2

namespace Keeps
variable {P : List Item → Prop} {fails : Site → Option Error}

theorem pure (a : α) : Keeps P (pure a : Chain Error Item α) := fun _ h => h

theorem throw (e : Error) : Keeps P (throw e : Chain Error Item α) := fun _ h => h

/-- What follows a call only matters if the call gives its value. -/
theorem call_bind (site : Site) {value : α} {f : α → Chain Error Item β}
    (h : fails site = none → Keeps P (f value)) : Keeps P (call fails site value >>= f) := by
  intro items hitems
  cases hsite : fails site with
  | none =>
    rw [outcome_bind_ok (outcome_call_none hsite value)]
    exact h hsite items hitems
  | some e => rwa [outcome_bind_error (outcome_call_some hsite value)]

theorem bind {m : Chain Error Item α} {f : α → Chain Error Item β} (h : Keeps P m)
    (hf : ∀ a, Keeps P (f a)) : Keeps P (m >>= f) := by
  intro items hitems
  have hbetween := h items hitems
  cases hm : outcome m items with
  | mk result between =>
    rw [hm] at hbetween
    cases result with
    | ok a =>
      rw [outcome_bind_ok hm]
      exact hf a between hbetween
    | error e => rwa [outcome_bind_error hm]

theorem push {item : Item} (h : ∀ items, P items → P (items ++ [item])) :
    Keeps P (push item : Chain Error Item Unit) := fun items hitems => h items hitems

end Keeps

/-- The chain collects `new` if no call at `sites` fails, and ends in an error otherwise. -/
structure Collects (fails : Site → Option Error) (m : Chain Error Item Unit) (sites : List Site)
    (new : List Item) : Prop where
  complete : (∀ s ∈ sites, fails s = none) → ∀ items, outcome m items = (.ok (), items ++ new)
  stopped : (∃ s ∈ sites, fails s ≠ none) → ∀ items,
    ∃ e items', outcome m items = (.error e, items')

namespace Collects
variable {fails : Site → Option Error}

theorem pure : Collects fails (pure () : Chain Error Item Unit) [] [] := by
  constructor
  · intro _ items
    rw [outcome_pure, List.append_nil]
  · rintro ⟨s, hs, _⟩
    cases hs

theorem push (item : Item) : Collects fails (push item : Chain Error Item Unit) [] [item] := by
  constructor
  · intro _ items
    rw [outcome_push]
  · rintro ⟨s, hs, _⟩
    cases hs

theorem call_bind (site : Site) {value : α} {f : α → Chain Error Item Unit} {sites : List Site}
    {new : List Item} (h : Collects fails (f value) sites new) :
    Collects fails (call fails site value >>= f) (site :: sites) new := by
  constructor
  · intro hall items
    rw [outcome_bind_ok (outcome_call_none (hall site List.mem_cons_self) value)]
    exact h.complete (fun s hs => hall s (List.mem_cons_of_mem site hs)) items
  · rintro ⟨s, hs, hfails⟩ items
    cases hsite : fails site with
    | some e => exact ⟨e, items, outcome_bind_error (outcome_call_some hsite value)⟩
    | none =>
      rw [outcome_bind_ok (outcome_call_none hsite value)]
      rcases List.mem_cons.mp hs with rfl | hs
      · exact absurd hsite hfails
      · exact h.stopped ⟨s, hs, hfails⟩ items

theorem call (site : Site) :
    Collects fails (call fails site () : Chain Error Item Unit) [site] [] := by
  constructor
  · intro hall items
    rw [outcome_call_none (hall site List.mem_cons_self), List.append_nil]
  · rintro ⟨s, hs, hfails⟩ items
    obtain rfl := List.mem_singleton.mp hs
    obtain ⟨e, he⟩ := Option.ne_none_iff_exists'.mp hfails
    exact ⟨e, items, outcome_call_some he ()⟩

theorem bind {m m' : Chain Error Item Unit} {sites sites' : List Site} {new new' : List Item}
    (h : Collects fails m sites new) (h' : Collects fails m' sites' new') :
    Collects fails (do m; m') (sites ++ sites') (new ++ new') := by
  constructor
  · intro hall items
    rw [List.forall_mem_append] at hall
    rw [outcome_bind_ok (h.complete hall.1 items), h'.complete hall.2, List.append_assoc]
  · rintro ⟨s, hs, hfails⟩ items
    by_cases hall : ∀ s ∈ sites, fails s = none
    · rw [outcome_bind_ok (h.complete hall items)]
      refine h'.stopped ⟨s, ?_, hfails⟩ _
      rcases List.mem_append.mp hs with hs | hs
      · exact absurd (hall s hs) hfails
      · exact hs
    · push Not at hall
      obtain ⟨e, items', hrun⟩ := h.stopped hall items
      exact ⟨e, items', outcome_bind_error hrun⟩

theorem forIdx {body : Nat → β → Chain Error Item Unit} {sites : Nat → β → List Site}
    {new : Nat → β → List Item} (h : ∀ i b, Collects fails (body i b) (sites i b) (new i b))
    (start : Nat) (bs : List β) :
    Collects fails (forIdx body start bs) ((bs.zipIdx start).flatMap fun q => sites q.2 q.1)
      ((bs.zipIdx start).flatMap fun q => new q.2 q.1) := by
  induction bs generalizing start with
  | nil => exact pure
  | cons b bs ih =>
    simp only [List.zipIdx_cons, List.flatMap_cons]
    exact (h start b).bind (ih (start + 1))

end Collects

/-- A part of a chain without branches. -/
inductive Step (Error Site Item : Type) where
  | call (site : Site)
  | push (item : Item)
  | throw (e : Error)

section Steps
variable (fails : Site → Option Error)

/-- What is collected up to the first step that fails. -/
def collected : List (Step Error Site Item) → List Item
  | [] => []
  | .call site :: steps => if fails site = none then collected steps else []
  | .push item :: steps => item :: collected steps
  | .throw _ :: _ => []

def result (value : α) : List (Step Error Site Item) → Except Error α
  | [] => .ok value
  | .call site :: steps =>
    match fails site with
    | none => result value steps
    | some e => .error e
  | .push _ :: steps => result value steps
  | .throw e :: _ => .error e

/-- The chain takes the steps and gives `value`, unless one of them fails. -/
def Follows (m : Chain Error Item α) (steps : List (Step Error Site Item)) (value : α) : Prop :=
  ∀ items, outcome m items = (result fails value steps, items ++ collected fails steps)

variable {fails}

theorem collected_calls (sites : List Site) (steps : List (Step Error Site Item)) :
    collected fails (sites.map .call ++ steps) =
      if ∀ s ∈ sites, fails s = none then collected fails steps else [] := by
  induction sites with
  | nil => simp
  | cons s sites ih =>
    simp only [List.map_cons, List.cons_append, collected, List.forall_mem_cons, ih]
    by_cases hs : fails s = none
    · simp [hs]
    · simp [hs]

theorem result_ok {a v : α} (b : β) {steps : List (Step Error Site Item)}
    (steps' : List (Step Error Site Item)) (h : result fails a steps = .ok v) :
    v = a ∧ result fails b (steps ++ steps') = result fails b steps' ∧
      collected fails (steps ++ steps') = collected fails steps ++ collected fails steps' := by
  induction steps with
  | nil => exact ⟨(Except.ok.inj h).symm, rfl, rfl⟩
  | cons step steps ih =>
    cases step with
    | call site =>
      cases hsite : fails site with
      | none => simpa [result, collected, hsite] using ih (by simpa [result, hsite] using h)
      | some e => simp [result, hsite] at h
    | push item => simpa [result, collected] using ih h
    | throw e => cases h

theorem result_error {a : α} (b : β) {e : Error} {steps : List (Step Error Site Item)}
    (steps' : List (Step Error Site Item)) (h : result fails a steps = .error e) :
    result fails b (steps ++ steps') = .error e ∧
      collected fails (steps ++ steps') = collected fails steps := by
  induction steps with
  | nil => cases h
  | cons step steps ih =>
    cases step with
    | call site =>
      cases hsite : fails site with
      | none => simpa [result, collected, hsite] using ih (by simpa [result, hsite] using h)
      | some e' => simpa [result, collected, hsite] using h
    | push item => simpa [result, collected] using ih h
    | throw e' =>
      simp only [result, Except.error.injEq] at h
      simp [result, collected, h]

namespace Follows

theorem pure (a : α) : Follows fails (pure a : Chain Error Item α) [] a := by
  intro items
  simp [result, collected]

theorem throw (e : Error) (value : α) :
    Follows fails (throw e : Chain Error Item α) [.throw e] value := by
  intro items
  simp [result, collected, outcome_throw]

theorem call_bind (site : Site) {a : α} {f : α → Chain Error Item β}
    {steps : List (Step Error Site Item)} {value : β} (h : Follows fails (f a) steps value) :
    Follows fails (call fails site a >>= f) (.call site :: steps) value := by
  intro items
  cases hsite : fails site with
  | none =>
    rw [outcome_bind_ok (outcome_call_none hsite a), h items]
    simp [result, collected, hsite]
  | some e =>
    rw [outcome_bind_error (outcome_call_some hsite a)]
    simp [result, collected, hsite]

theorem bind {m : Chain Error Item α} {f : α → Chain Error Item β} {a : α} {b : β}
    {steps steps' : List (Step Error Site Item)} (h : Follows fails m steps a)
    (hf : Follows fails (f a) steps' b) : Follows fails (m >>= f) (steps ++ steps') b := by
  intro items
  have hfirst := h items
  cases hresult : result fails a steps with
  | ok v =>
    obtain ⟨rfl, hrest, hcollected⟩ := result_ok b steps' hresult
    rw [hresult] at hfirst
    rw [outcome_bind_ok hfirst, hf, hrest, hcollected, List.append_assoc]
  | error e =>
    obtain ⟨hrest, hcollected⟩ := result_error b steps' hresult
    rw [hresult] at hfirst
    rw [outcome_bind_error hfirst, hrest, hcollected]

theorem push_bind (item : Item) {f : Unit → Chain Error Item β}
    {steps : List (Step Error Site Item)} {value : β} (h : Follows fails (f ()) steps value) :
    Follows fails (push item >>= f) (.push item :: steps) value := by
  intro items
  rw [outcome_bind_ok (outcome_push item items), h]
  simp [result, collected]

theorem push (item : Item) : Follows fails (push item : Chain Error Item Unit) [.push item] () := by
  intro items
  simp [result, collected]

end Follows

end Steps

end CallChain
