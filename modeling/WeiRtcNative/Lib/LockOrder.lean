import Mathlib.Data.List.Count
import Mathlib.Logic.Function.Basic
import Mathlib.Order.RelClasses

/-!
# Threads that take locks

Each thread runs a program of acquisitions, releases and actions on a state that all share. A lock
is re-entrant: its owner may take it again. An action may have to wait. Threads that take their
locks in increasing rank, and wait only with none in their hands, never lock each other out.
-/

namespace LockOrder

set_option autoImplicit false

universe u v w z x
variable {L : Type u} {A : Type v} {σ : Type w} {ι : Type z} {R : Type x}

inductive Op (L : Type u) (A : Type v) where
  | acquire (l : L)
  | release (l : L)
  | act (a : A)
  deriving DecidableEq, Repr

/-- A body under a guard of `l`. -/
def guarded (l : L) (body : List (Op L A)) : List (Op L A) :=
  .acquire l :: (body ++ [.release l])

/-- The locks in a thread's hands, the one taken last first: what is left of its program gives
them back. -/
def held : List (Op L A) → List L
  | [] => []
  | .acquire _ :: rest => (held rest).tail
  | .release l :: rest => l :: held rest
  | .act _ :: rest => held rest

section Programs
variable [LT R] (rank : L → R) (waits : A → Prop)

/-- A lock is taken above all those held, or again. -/
def Above (l : L) (context : List L) : Prop := l ∈ context ∨ ∀ m ∈ context, rank m < rank l

def Ordered : List (Op L A) → Prop
  | [] => True
  | .acquire l :: rest =>
    held rest = l :: (held rest).tail ∧ Above rank l (held rest).tail ∧ Ordered rest
  | .release _ :: rest => Ordered rest
  | .act a :: rest => (waits a → held rest = []) ∧ Ordered rest

/-- The body leaves the locks of `context` as they are, and keeps the order above them. -/
def Within (context : List L) (body : List (Op L A)) : Prop :=
  ∀ rest, held rest = context → Ordered rank waits rest →
    held (body ++ rest) = context ∧ Ordered rank waits (body ++ rest)

variable {rank waits} {context : List L} {body body' : List (Op L A)}

theorem within_nil : Within rank waits context ([] : List (Op L A)) := by
  intro rest hheld hrest
  exact ⟨hheld, hrest⟩

theorem Within.append (h : Within rank waits context body) (h' : Within rank waits context body') :
    Within rank waits context (body ++ body') := by
  intro rest hheld hrest
  obtain ⟨hheld', hrest'⟩ := h' rest hheld hrest
  rw [List.append_assoc]
  exact h _ hheld' hrest'

theorem Within.guard {l : L} (hl : Above rank l context)
    (h : Within rank waits (l :: context) body) :
    Within rank waits context (guarded l body) := by
  intro rest hheld hrest
  obtain ⟨hbody, hordered⟩ := h (.release l :: rest) (by rw [held, hheld]) hrest
  have hsplit : guarded l body ++ rest = .acquire l :: (body ++ .release l :: rest) := by
    simp [guarded]
  rw [hsplit, held, hbody, Ordered, hbody]
  exact ⟨rfl, rfl, hl, hordered⟩

theorem within_act {a : A} (h : waits a → context = []) : Within rank waits context [.act a] := by
  intro rest hheld hrest
  refine ⟨hheld, ?_, hrest⟩
  intro ha
  exact hheld.trans (h ha)

theorem within_flatMap {α : Type*} {f : α → List (Op L A)} {xs : List α}
    (h : ∀ x ∈ xs, Within rank waits context (f x)) :
    Within rank waits context (xs.flatMap f) := by
  induction xs with
  | nil => exact within_nil
  | cons x xs ih =>
    rw [List.flatMap_cons]
    apply (h x (by simp)).append
    apply ih
    intro y hy
    exact h y (by simp [hy])

theorem Within.whole (h : Within rank waits [] body) :
    held body = [] ∧ Ordered rank waits body := by
  simpa using h [] rfl trivial

end Programs

section Entries
variable [DecidableEq ι]

/-! The entry of a lock: the thread that holds it, with how often that thread took it again. -/

def take (i : ι) : Option (ι × Nat) → Option (ι × Nat)
  | none => some (i, 0)
  | some (j, n) => if j = i then some (i, n + 1) else none

def giveBack (i : ι) : Option (ι × Nat) → Option (Option (ι × Nat))
  | none => none
  | some (j, n) => if j = i then some (if n = 0 then none else some (i, n - 1)) else none

/-- How often thread `i` has the lock in its hands. -/
def times (i : ι) : Option (ι × Nat) → Nat
  | none => 0
  | some (j, n) => if j = i then n + 1 else 0

variable {i j : ι} {entry entry' : Option (ι × Nat)} {e : ι × Nat}

theorem take_times (h : take i entry = some e) : times i (some e) = times i entry + 1 := by
  cases entry with
  | none =>
    obtain rfl : (i, 0) = e := by simpa [take] using h
    simp [times]
  | some o =>
    obtain ⟨k, n⟩ := o
    by_cases hk : k = i
    · subst hk
      obtain rfl : (k, n + 1) = e := by simpa [take] using h
      simp [times]
    · simp [take, hk] at h

theorem take_times_other (h : take i entry = some e) (hj : j ≠ i) :
    times j (some e) = times j entry := by
  cases entry with
  | none =>
    obtain rfl : (i, 0) = e := by simpa [take] using h
    simp [times, hj.symm]
  | some o =>
    obtain ⟨k, n⟩ := o
    by_cases hk : k = i
    · subst hk
      obtain rfl : (k, n + 1) = e := by simpa [take] using h
      simp [times, hj.symm]
    · simp [take, hk] at h

theorem giveBack_times (h : giveBack i entry = some entry') :
    times i entry = times i entry' + 1 := by
  cases entry with
  | none => simp [giveBack] at h
  | some o =>
    obtain ⟨k, n⟩ := o
    by_cases hk : k = i
    · subst hk
      obtain rfl : (if n = 0 then none else some (k, n - 1)) = entry' := by simpa [giveBack] using h
      cases n <;> simp [times]
    · simp [giveBack, hk] at h

theorem giveBack_times_other (h : giveBack i entry = some entry') (hj : j ≠ i) :
    times j entry' = times j entry := by
  cases entry with
  | none => simp [giveBack] at h
  | some o =>
    obtain ⟨k, n⟩ := o
    by_cases hk : k = i
    · subst hk
      obtain rfl : (if n = 0 then none else some (k, n - 1)) = entry' := by simpa [giveBack] using h
      cases n <;> simp [times, hj.symm]
    · simp [giveBack, hk] at h

/-- A lock that cannot be taken is in the hands of another thread. -/
theorem take_eq_none (h : take i entry = none) : times i entry = 0 ∧ ∃ j, 0 < times j entry := by
  cases entry with
  | none => simp [take] at h
  | some o =>
    obtain ⟨k, n⟩ := o
    by_cases hk : k = i
    · simp [take, hk] at h
    · exact ⟨by simp [times, hk], k, by simp [times]⟩

theorem take_of_free (h : ∀ j, times j entry = 0) (i : ι) : ∃ e, take i entry = some e := by
  cases entry with
  | none => exact ⟨(i, 0), rfl⟩
  | some o =>
    have howner := h o.1
    simp [times] at howner

theorem giveBack_of_times (h : 0 < times i entry) : ∃ entry', giveBack i entry = some entry' := by
  cases entry with
  | none => simp [times] at h
  | some o =>
    obtain ⟨k, n⟩ := o
    by_cases hk : k = i
    · exact ⟨if n = 0 then none else some (i, n - 1), by simp [giveBack, hk]⟩
    · simp [times, hk] at h

/-- A lock is in the hands of one thread only. -/
theorem times_other (h : 0 < times i entry) (hj : j ≠ i) : times j entry = 0 := by
  cases entry with
  | none => rfl
  | some o =>
    obtain ⟨k, n⟩ := o
    by_cases hk : k = i
    · simp [times, hk, hj.symm]
    · simp [times, hk] at h

end Entries

structure State (ι : Type z) (L : Type u) (A : Type v) (σ : Type w) where
  program : ι → List (Op L A)
  owner : L → Option (ι × Nat)
  shared : σ

section Steps
variable [DecidableEq ι] [DecidableEq L] (perform : A → σ → Option σ)

/-- The next step of a thread, if it can take one. -/
def step (s : State ι L A σ) (i : ι) : Option (State ι L A σ) :=
  match s.program i with
  | [] => none
  | .acquire l :: rest =>
    (take i (s.owner l)).map fun e =>
      ⟨Function.update s.program i rest, Function.update s.owner l (some e), s.shared⟩
  | .release l :: rest =>
    (giveBack i (s.owner l)).map fun entry =>
      ⟨Function.update s.program i rest, Function.update s.owner l entry, s.shared⟩
  | .act a :: rest =>
    (perform a s.shared).map fun shared =>
      ⟨Function.update s.program i rest, s.owner, shared⟩

/-- The threads take steps in the order of the schedule; one that cannot is passed over. -/
def run (s : State ι L A σ) : List ι → State ι L A σ
  | [] => s
  | i :: schedule => run ((step perform s i).getD s) schedule

def start (program : ι → List (Op L A)) (shared : σ) : State ι L A σ :=
  ⟨program, fun _ => none, shared⟩

/-- The thread has come to its end, or is at an action that waits. -/
def AtRest (s : State ι L A σ) (i : ι) : Prop :=
  s.program i = [] ∨ ∃ a rest, s.program i = .act a :: rest ∧ perform a s.shared = none

variable {perform} {s t : State ι L A σ} {i j : ι}

theorem run_append (s : State ι L A σ) (schedule further : List ι) :
    run perform s (schedule ++ further) = run perform (run perform s schedule) further := by
  induction schedule generalizing s with
  | nil => rfl
  | cons i schedule ih => exact ih _

theorem run_of_step {schedule : List ι} (h : step perform s i = some t) :
    run perform s (i :: schedule) = run perform t schedule := by
  rw [run, h]
  rfl

/-- When no thread can take a step, nothing happens any more. -/
theorem run_of_stuck (h : ∀ i, step perform s i = none) (schedule : List ι) :
    run perform s schedule = s := by
  induction schedule with
  | nil => rfl
  | cons i schedule ih =>
    rw [run, h i]
    exact ih

theorem step_acquire {l : L} {rest : List (Op L A)} (hop : s.program i = .acquire l :: rest)
    (h : step perform s i = some t) :
    ∃ e, take i (s.owner l) = some e ∧
      t = ⟨Function.update s.program i rest, Function.update s.owner l (some e), s.shared⟩ := by
  simp only [step, hop, Option.map_eq_some_iff] at h
  obtain ⟨e, he, rfl⟩ := h
  exact ⟨e, he, rfl⟩

theorem step_release {l : L} {rest : List (Op L A)} (hop : s.program i = .release l :: rest)
    (h : step perform s i = some t) :
    ∃ entry, giveBack i (s.owner l) = some entry ∧
      t = ⟨Function.update s.program i rest, Function.update s.owner l entry, s.shared⟩ := by
  simp only [step, hop, Option.map_eq_some_iff] at h
  obtain ⟨entry, he, rfl⟩ := h
  exact ⟨entry, he, rfl⟩

theorem step_act {a : A} {rest : List (Op L A)} (hop : s.program i = .act a :: rest)
    (h : step perform s i = some t) :
    ∃ shared, perform a s.shared = some shared ∧
      t = ⟨Function.update s.program i rest, s.owner, shared⟩ := by
  simp only [step, hop, Option.map_eq_some_iff] at h
  obtain ⟨shared, hshared, rfl⟩ := h
  exact ⟨shared, hshared, rfl⟩

/-- A step takes the first operation of its thread's program, and no other thread moves. -/
theorem step_program (h : step perform s i = some t) :
    ∃ op, s.program i = op :: t.program i ∧ ∀ j, j ≠ i → t.program j = s.program j := by
  cases hprogram : s.program i with
  | nil => simp [step, hprogram] at h
  | cons op rest =>
    have hnext : t.program = Function.update s.program i rest := by
      cases op with
      | acquire l =>
        obtain ⟨e, -, rfl⟩ := step_acquire hprogram h
        rfl
      | release l =>
        obtain ⟨entry, -, rfl⟩ := step_release hprogram h
        rfl
      | act a =>
        obtain ⟨shared, -, rfl⟩ := step_act hprogram h
        rfl
    refine ⟨op, by simp [hnext], ?_⟩
    intro j hj
    simp [hnext, hj]

end Steps

section Soundness
variable [DecidableEq ι] [DecidableEq L] [LT R] (rank : L → R) (waits : A → Prop)

/-- What holds along every run: the entries of the locks agree with what the threads hold. -/
structure Sound (s : State ι L A σ) : Prop where
  agrees : ∀ i l, times i (s.owner l) = (held (s.program i)).count l
  ordered : ∀ i, Ordered rank waits (s.program i)

variable {rank waits} {perform : A → σ → Option σ} {s t : State ι L A σ} {i j : ι} {l : L}

theorem Sound.mem_held (hs : Sound rank waits s) :
    l ∈ held (s.program i) ↔ 0 < times i (s.owner l) := by
  rw [hs.agrees, List.count_pos_iff]

theorem sound_start {program : ι → List (Op L A)} {shared : σ}
    (h : ∀ i, held (program i) = [] ∧ Ordered rank waits (program i)) :
    Sound rank waits (start program shared) where
  agrees i l := by simp [start, times, (h i).1]
  ordered i := (h i).2

theorem Sound.after_step (hs : Sound rank waits s) (h : step perform s i = some t) :
    Sound rank waits t := by
  obtain ⟨op, hop, hothers⟩ := step_program h
  have hmine : Ordered rank waits (op :: t.program i) := hop ▸ hs.ordered i
  constructor
  · intro j m
    cases op with
    | acquire l =>
      obtain ⟨e, he, ht⟩ := step_acquire hop h
      have howner : t.owner = Function.update s.owner l (some e) := by rw [ht]
      obtain ⟨hheld, -, -⟩ := hmine
      by_cases hj : j = i
      · subst hj
        have hbefore := hs.agrees j m
        rw [hop, held] at hbefore
        rw [hheld, howner]
        by_cases hm : m = l
        · subst hm
          simp [take_times he, hbefore]
        · simp [hm, hbefore, List.count_cons_of_ne (Ne.symm hm)]
      · rw [hothers j hj, ← hs.agrees j m, howner]
        by_cases hm : m = l
        · subst hm
          simp [take_times_other he hj]
        · simp [hm]
    | release l =>
      obtain ⟨entry, he, ht⟩ := step_release hop h
      have howner : t.owner = Function.update s.owner l entry := by rw [ht]
      by_cases hj : j = i
      · subst hj
        have hbefore := hs.agrees j m
        rw [hop, held] at hbefore
        rw [howner]
        by_cases hm : m = l
        · subst hm
          rw [giveBack_times he, List.count_cons_self] at hbefore
          simpa using hbefore
        · simpa [hm, List.count_cons_of_ne (Ne.symm hm)] using hbefore
      · rw [hothers j hj, ← hs.agrees j m, howner]
        by_cases hm : m = l
        · subst hm
          simp [giveBack_times_other he hj]
        · simp [hm]
    | act a =>
      obtain ⟨shared, -, ht⟩ := step_act hop h
      have howner : t.owner = s.owner := by rw [ht]
      rw [howner, hs.agrees j m]
      by_cases hj : j = i
      · subst hj
        rw [hop, held]
      · rw [hothers j hj]
  · intro j
    by_cases hj : j = i
    · subst hj
      cases op with
      | acquire l => exact hmine.2.2
      | release l => exact hmine
      | act a => exact hmine.2
    · rw [hothers j hj]
      exact hs.ordered j

theorem Sound.after_run (hs : Sound rank waits s) (perform : A → σ → Option σ)
    (schedule : List ι) : Sound rank waits (run perform s schedule) := by
  induction schedule generalizing s with
  | nil => exact hs
  | cons i schedule ih =>
    apply ih
    cases hstep : step perform s i with
    | none => exact hs
    | some t => exact hs.after_step hstep

end Soundness

section Progress
variable [DecidableEq ι] [DecidableEq L] [Preorder R] [WellFoundedGT R]
variable {rank : L → R} {waits : A → Prop} {perform : A → σ → Option σ}
variable {s t : State ι L A σ} {i j : ι} {l : L}

omit [WellFoundedGT R] in
/-- A thread that cannot take a step is at its end, at an action that waits, or at a lock above
all of its own that another thread holds. -/
theorem Sound.blocked (hs : Sound rank waits s) (h : step perform s i = none) :
    AtRest perform s i ∨
      ∃ m rest k, s.program i = .acquire m :: rest ∧ k ≠ i ∧ 0 < times k (s.owner m) ∧
        ∀ o ∈ held (s.program i), rank o < rank m := by
  cases hop : s.program i with
  | nil => exact .inl (.inl hop)
  | cons op rest =>
    have hmine : Ordered rank waits (op :: rest) := hop ▸ hs.ordered i
    cases op with
    | acquire m =>
      right
      have htake : take i (s.owner m) = none := by simpa [step, hop] using h
      obtain ⟨hfree, k, hk⟩ := take_eq_none htake
      have hki : k ≠ i := by
        rintro rfl
        omega
      refine ⟨m, rest, k, rfl, hki, hk, ?_⟩
      rw [held]
      cases hmine.2.1 with
      | inr habove => exact habove
      | inl hagain =>
        have hmem : m ∈ held (s.program i) := by
          rw [hop, held]
          exact hagain
        have htimes := hs.mem_held.mp hmem
        omega
    | release m =>
      have hmem : m ∈ held (s.program i) := by simp [hop, held]
      obtain ⟨entry, he⟩ := giveBack_of_times (hs.mem_held.mp hmem)
      simp [step, hop, he] at h
    | act a =>
      have hperform : perform a s.shared = none := by simpa [step, hop] using h
      exact .inl (.inr ⟨a, rest, hop, hperform⟩)

variable (hwaits : ∀ a shared, perform a shared = none → waits a)
include hwaits

omit [WellFoundedGT R] in
theorem Sound.held_of_atRest (hs : Sound rank waits s) (h : AtRest perform s i) :
    held (s.program i) = [] := by
  cases h with
  | inl hend => rw [hend, held]
  | inr hact =>
    obtain ⟨a, rest, hop, hperform⟩ := hact
    have hmine : Ordered rank waits (.act a :: rest) := hop ▸ hs.ordered i
    rw [hop, held]
    exact hmine.1 (hwaits a _ hperform)

/-- A lock that is held can be brought free by steps of threads that hold locks of its rank or
above; no other thread moves. The outer induction goes up the ranks, the inner one down the
program of the owner. -/
theorem Sound.can_free (hs : Sound rank waits s) (h : 0 < times j (s.owner l)) :
    ∃ schedule, (∀ k, times k ((run perform s schedule).owner l) = 0) ∧
      ∀ i, (∀ m ∈ held (s.program i), rank m < rank l) →
        (run perform s schedule).program i = s.program i := by
  induction hr : rank l using WellFoundedGT.induction generalizing s j l with
  | _ r outer =>
    subst hr
    generalize hprogram : s.program j = program
    induction program generalizing s with
    | nil =>
      have hmem := hs.mem_held.mpr h
      simp [hprogram, held] at hmem
    | cons op rest inner =>
      -- thread `j` takes a step; it is a thread that may move
      have hstep : ∀ {s t : State ι L A σ}, Sound rank waits s → 0 < times j (s.owner l) →
          s.program j = op :: rest → step perform s j = some t →
          ∃ schedule, (∀ k, times k ((run perform s schedule).owner l) = 0) ∧
            ∀ i, (∀ m ∈ held (s.program i), rank m < rank l) →
              (run perform s schedule).program i = s.program i := by
        intro s t hs h hprogram hst
        obtain ⟨op', hop, hothers⟩ := step_program hst
        obtain ⟨rfl, hrest⟩ := List.cons.inj (hprogram.symm.trans hop)
        have hne : ∀ i, (∀ m ∈ held (s.program i), rank m < rank l) → i ≠ j := by
          rintro i hi rfl
          exact lt_irrefl _ (hi l (hs.mem_held.mpr h))
        by_cases hkeep : 0 < times j (t.owner l)
        · obtain ⟨schedule, hfree, hsame⟩ := inner (hs.after_step hst) hkeep hrest.symm
          refine ⟨j :: schedule, ?_, ?_⟩
          · rw [run_of_step hst]
            exact hfree
          · intro i hi
            rw [run_of_step hst, hsame i, hothers i (hne i hi)]
            rw [hothers i (hne i hi)]
            exact hi
        · refine ⟨[j], ?_, ?_⟩
          · rw [run_of_step hst, run]
            intro k
            by_cases hk : k = j
            · subst hk
              omega
            · have hnone : times k (s.owner l) = 0 := times_other h hk
              rw [hs.agrees k l] at hnone
              rw [(hs.after_step hst).agrees k l, hothers k hk]
              exact hnone
          · intro i hi
            rw [run_of_step hst, run]
            exact hothers i (hne i hi)
      cases hst : step perform s j with
      | some t => exact hstep hs h hprogram hst
      | none =>
        cases hs.blocked hst with
        | inl hrest =>
          have hmem := hs.mem_held.mpr h
          rw [hs.held_of_atRest hwaits hrest] at hmem
          simp at hmem
        | inr hlock =>
          -- the owner waits for a lock above `l`: bring that one free, then go on
          obtain ⟨m, rest', k, hacquire, -, hk, habove⟩ := hlock
          have hlm : rank l < rank m := habove l (hs.mem_held.mpr h)
          obtain ⟨schedule, hfree, hsame⟩ := outer (rank m) hlm hs hk rfl
          have hsound := hs.after_run perform schedule
          have hj := hsame j habove
          have howns : 0 < times j ((run perform s schedule).owner l) := by
            rw [← hsound.mem_held, hj, hs.mem_held]
            exact h
          obtain ⟨e, he⟩ := take_of_free hfree j
          obtain ⟨t, ht⟩ : ∃ t, step perform (run perform s schedule) j = some t := by
            simp [step, hj, hacquire, he]
          obtain ⟨further, hfree', hsame'⟩ := hstep hsound howns (hj.trans hprogram) ht
          refine ⟨schedule ++ further, ?_, ?_⟩
          · rw [run_append]
            exact hfree'
          · intro i hi
            have hunmoved := hsame i (fun o ho => (hi o ho).trans hlm)
            rw [run_append, hsame' i, hunmoved]
            rw [hunmoved]
            exact hi

/-- No thread is locked out: the threads can take steps that bring it to its end, or to an action
that waits. -/
theorem Sound.can_come_to_rest (hs : Sound rank waits s) (i : ι) :
    ∃ schedule, AtRest perform (run perform s schedule) i := by
  generalize hprogram : s.program i = program
  induction program generalizing s with
  | nil => exact ⟨[], .inl hprogram⟩
  | cons op rest ih =>
    have hstep : ∀ {s t : State ι L A σ}, Sound rank waits s → s.program i = op :: rest →
        step perform s i = some t → ∃ schedule, AtRest perform (run perform s schedule) i := by
      intro s t hs hprogram hst
      obtain ⟨op', hop, -⟩ := step_program hst
      obtain ⟨-, hrest⟩ := List.cons.inj (hprogram.symm.trans hop)
      obtain ⟨schedule, hdone⟩ := ih (hs.after_step hst) hrest.symm
      refine ⟨i :: schedule, ?_⟩
      rw [run_of_step hst]
      exact hdone
    cases hst : step perform s i with
    | some t => exact hstep hs hprogram hst
    | none =>
      cases hs.blocked hst with
      | inl hrest => exact ⟨[], hrest⟩
      | inr hlock =>
        obtain ⟨m, rest', k, hacquire, -, hk, habove⟩ := hlock
        obtain ⟨schedule, hfree, hsame⟩ := hs.can_free hwaits hk
        have hi := hsame i habove
        obtain ⟨e, he⟩ := take_of_free hfree i
        obtain ⟨t, ht⟩ : ∃ t, step perform (run perform s schedule) i = some t := by
          simp [step, hi, hacquire, he]
        obtain ⟨further, hdone⟩ :=
          hstep (hs.after_run perform schedule) (hi.trans hprogram) ht
        refine ⟨schedule ++ further, ?_⟩
        rw [run_append]
        exact hdone

end Progress

end LockOrder
