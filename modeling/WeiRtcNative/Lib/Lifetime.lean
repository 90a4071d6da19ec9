import Mathlib.Data.List.Induction
import WeiRtcNative.Lib.Machine

/-!
# Lifetimes of objects in a log

A log tells when objects are acquired, used and freed. It is proper when an object is only acquired
while it is not live and only used or freed while it is. In a proper log every object was freed as
often as it was acquired, or once less while it is live.
-/

namespace Lifetime

open Machine
set_option autoImplicit false

universe u w
variable {κ : Type u} {ω : Type w}

inductive Event (κ : Type u) where
  | acquire (k : κ)
  | use (k : κ)
  | free (k : κ)
  deriving DecidableEq, Repr

section Projection
variable {f : ω → Option (Event κ)}

def objects (f : ω → Option (Event κ)) (log : List ω) : List (Event κ) := log.filterMap f

@[simp] theorem objects_nil : objects f [] = [] := rfl

@[simp] theorem objects_append (log evs : List ω) :
    objects f (log ++ evs) = objects f log ++ objects f evs := by
  simp [objects]

theorem objects_one_some {e : ω} {x : Event κ} (h : f e = some x) : objects f [e] = [x] := by
  simp [objects, h]

theorem objects_one_none {e : ω} (h : f e = none) : objects f [e] = [] := by
  simp [objects, h]

end Projection

variable [DecidableEq κ]

/-- Whether `k` is live after an event, from whether it was before. -/
def Event.live (k : κ) (was : Bool) : Event κ → Bool
  | .acquire j => was || j = k
  | .use _ => was
  | .free j => was && j ≠ k

def live (k : κ) (log : List (Event κ)) : Bool := log.foldl (Event.live k) false

def Proper (log : List (Event κ)) : Event κ → Prop
  | .acquire k => live k log = false
  | .use k | .free k => live k log = true

@[simp] theorem live_nil (k : κ) : live k [] = false := rfl

@[simp] theorem live_append_one (k : κ) (log : List (Event κ)) (e : Event κ) :
    live k (log ++ [e]) = e.live k (live k log) := by
  simp [live]

theorem frees_add_live {log : List (Event κ)} (h : Justified Proper log) (k : κ) :
    log.count (.free k) + (live k log).toNat = log.count (.acquire k) := by
  induction log using List.reverseRecOn with
  | nil => rfl
  | append_singleton log e ih =>
    obtain ⟨hlog, he⟩ := justified_append.mp h
    have hbefore := ih hlog
    have hproper : Proper log e := by simpa using he
    rw [live_append_one, List.count_append, List.count_append]
    cases e with
    | use j => simpa [Event.live] using hbefore
    | acquire j =>
      by_cases hj : j = k
      · subst hj
        have hdead : live j log = false := hproper
        simp [Event.live, hdead] at hbefore ⊢
        omega
      · simpa [Event.live, hj] using hbefore
    | free j =>
      by_cases hj : j = k
      · subst hj
        have hlive : live j log = true := hproper
        simp [Event.live, hlive] at hbefore ⊢
        omega
      · simpa [Event.live, hj] using hbefore

/-- A log in which each event about an object is proper tells of a proper use of the objects. -/
theorem proper_objects {f : ω → Option (Event κ)} {log : List ω}
    (h : Justified (fun pre e => ∀ x, f e = some x → Proper (objects f pre) x) log) :
    Justified Proper (objects f log) := by
  induction log using List.reverseRecOn with
  | nil => exact justified_nil
  | append_singleton log e ih =>
    obtain ⟨hlog, he⟩ := justified_append.mp h
    rw [objects_append, justified_append]
    refine ⟨ih hlog, ?_⟩
    cases hobject : f e with
    | none => simp [objects_one_none hobject]
    | some x =>
      have hproper : Proper (objects f log) x := by
        simp only [justified_cons, List.append_nil] at he
        exact he.1 x hobject
      simpa [objects_one_some hobject] using hproper

end Lifetime
