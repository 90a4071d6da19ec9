import Mathlib.Logic.Relation

/-!
# Machines with an output log

A machine reads one input at a time and appends to a log. An invariant of log and
state which every admitted step keeps holds after every admitted input sequence.
`Justified` says of a log that each entry is warranted by the entries before it.
-/

namespace Machine

set_option autoImplicit false

universe u v w
variable {σ : Type u} {ι : Type v} {ω : Type w}

def run (step : σ → ι → σ × List ω) : σ → List ι → σ × List ω
  | s, [] => (s, [])
  | s, i :: is =>
    let r := step s i
    let q := run step r.1 is
    (q.1, r.2 ++ q.2)

/-- Every input is admitted by `ok` with the log and the state it meets. -/
def Along (step : σ → ι → σ × List ω) (ok : List ω → σ → ι → Prop) : List ω → σ → List ι → Prop
  | _, _, [] => True
  | log, s, i :: is => ok log s i ∧ Along step ok (log ++ (step s i).2) (step s i).1 is

instance decidableAlong (step : σ → ι → σ × List ω) (ok : List ω → σ → ι → Prop)
    [∀ log s i, Decidable (ok log s i)] :
    ∀ log s is, Decidable (Along step ok log s is)
  | _, _, [] => .isTrue trivial
  | log, s, i :: is =>
    have := decidableAlong step ok (log ++ (step s i).2) (step s i).1 is
    inferInstanceAs (Decidable (_ ∧ _))

section Total
variable (step : σ → ι → σ × List ω)

@[simp] theorem run_nil (s : σ) : run step s [] = (s, []) := rfl

@[simp] theorem run_cons (s : σ) (i : ι) (is : List ι) :
    run step s (i :: is) =
      ((run step (step s i).1 is).1, (step s i).2 ++ (run step (step s i).1 is).2) := rfl

theorem run_append (s : σ) (is js : List ι) :
    run step s (is ++ js) =
      ((run step (run step s is).1 js).1, (run step s is).2 ++ (run step (run step s is).1 js).2) := by
  induction is generalizing s with
  | nil => simp
  | cons i is ih => simp [ih]

theorem run_invariant_from {ok : List ω → σ → ι → Prop} (Inv : List ω → σ → Prop)
    (hstep : ∀ log s i, Inv log s → ok log s i → Inv (log ++ (step s i).2) (step s i).1)
    {log : List ω} {s : σ} {is : List ι} (h : Inv log s) (hok : Along step ok log s is) :
    Inv (log ++ (run step s is).2) (run step s is).1 := by
  induction is generalizing log s with
  | nil => simpa using h
  | cons i is ih =>
    obtain ⟨hi, hrest⟩ := hok
    have hnext := ih (hstep log s i h hi) hrest
    simpa [List.append_assoc] using hnext

/-- The log may be read by the invariant, so it can speak about the whole history. -/
theorem run_invariant {ok : List ω → σ → ι → Prop} (Inv : List ω → σ → Prop)
    (hstep : ∀ log s i, Inv log s → ok log s i → Inv (log ++ (step s i).2) (step s i).1)
    {s : σ} {is : List ι} (h : Inv [] s) (hok : Along step ok [] s is) :
    Inv (run step s is).2 (run step s is).1 := by
  simpa using run_invariant_from step Inv hstep h hok

end Total

section Log

def Justified (P : List ω → ω → Prop) (log : List ω) : Prop :=
  ∀ pre e post, log = pre ++ e :: post → P pre e

variable {P : List ω → ω → Prop}

@[simp] theorem justified_nil : Justified P [] := by
  intro pre e post h
  simp at h

@[simp] theorem justified_cons {e : ω} {log : List ω} :
    Justified P (e :: log) ↔ P [] e ∧ Justified (fun pre => P (e :: pre)) log := by
  constructor
  · intro h
    refine ⟨h [] e log rfl, ?_⟩
    intro pre f post hlog
    exact h (e :: pre) f post (by rw [hlog, List.cons_append])
  · rintro ⟨hhead, htail⟩ pre f post hlog
    cases pre with
    | nil =>
      obtain ⟨rfl, -⟩ := List.cons.inj hlog
      exact hhead
    | cons g pre =>
      obtain ⟨rfl, hrest⟩ := List.cons.inj hlog
      exact htail pre f post hrest

theorem justified_append {log evs : List ω} :
    Justified P (log ++ evs) ↔ Justified P log ∧ Justified (fun pre => P (log ++ pre)) evs := by
  induction log generalizing P with
  | nil => simp
  | cons e log ih => simp [ih, and_assoc]

theorem justified_iff_forall {P : ω → Prop} {log : List ω} :
    Justified (fun _ e => P e) log ↔ ∀ e ∈ log, P e := by
  induction log with
  | nil => simp
  | cons e log ih => simp [ih]

end Log

section Exact
variable (step : σ → ι → σ × List ω)

/-- The entries of each step are justified just when `ok` admits it: those of a run are just
when `ok` admits all its inputs. Only runs within `dom` are looked at, and `Inv` may be used
of their states. -/
theorem justified_iff_along {dom ok : List ω → σ → ι → Prop} {P : List ω → ω → Prop}
    (Inv : List ω → σ → Prop)
    (hstep : ∀ log s i, Inv log s → dom log s i →
      (Justified (fun pre => P (log ++ pre)) (step s i).2 ↔ ok log s i))
    (hkeep : ∀ log s i, Inv log s → dom log s i → ok log s i →
      Inv (log ++ (step s i).2) (step s i).1)
    {log : List ω} {s : σ} {is : List ι} (h : Inv log s) (hdom : Along step dom log s is) :
    Justified (fun pre => P (log ++ pre)) (run step s is).2 ↔ Along step ok log s is := by
  induction is generalizing log s with
  | nil => simp [Along]
  | cons i is ih =>
    obtain ⟨hi, hrest⟩ := hdom
    simp only [run_cons, justified_append, Along, ← List.append_assoc]
    rw [hstep log s i h hi]
    constructor
    · rintro ⟨hok, htail⟩
      exact ⟨hok, (ih (hkeep log s i h hi hok) hrest).mp htail⟩
    · rintro ⟨hok, hrun⟩
      exact ⟨hok, (ih (hkeep log s i h hi hok) hrest).mpr hrun⟩

theorem along_true (log : List ω) (s : σ) (is : List ι) :
    Along step (fun _ _ _ => True) log s is := by
  induction is generalizing log s with
  | nil => trivial
  | cons i is ih => exact ⟨trivial, ih _ _⟩

theorem along_of_forall {P : ι → Prop} {is : List ι} (h : ∀ i ∈ is, P i) (log : List ω) (s : σ) :
    Along step (fun _ _ i => P i) log s is := by
  induction is generalizing log s with
  | nil => trivial
  | cons i is ih =>
    refine ⟨h i (by simp), ih ?_ _ _⟩
    intro j hj
    exact h j (by simp [hj])

theorem along_and {ok ok' : List ω → σ → ι → Prop} {log : List ω} {s : σ} {is : List ι}
    (h : Along step ok log s is) (h' : Along step ok' log s is) :
    Along step (fun log s i => ok log s i ∧ ok' log s i) log s is := by
  induction is generalizing log s with
  | nil => trivial
  | cons i is ih => exact ⟨⟨h.1, h'.1⟩, ih h.2 h'.2⟩

/-- A property of the log that its parts share holds of what each step appends. -/
theorem along_of_parts {P : ι → Prop} {Q : List ω → Prop}
    (hparts : ∀ log log', Q (log ++ log') → Q log ∧ Q log') {log : List ω} {s : σ} {is : List ι}
    (his : ∀ i ∈ is, P i) (h : Q (run step s is).2) :
    Along step (fun _ s i => P i ∧ Q (step s i).2) log s is := by
  induction is generalizing log s with
  | nil => trivial
  | cons i is ih =>
    obtain ⟨hfirst, hrest⟩ := hparts _ _ h
    refine ⟨⟨his i (by simp), hfirst⟩, ih ?_ hrest⟩
    intro j hj
    exact his j (by simp [hj])

theorem along_imp {ok ok' : List ω → σ → ι → Prop} (Inv : σ → Prop)
    (hkeep : ∀ s i, Inv s → Inv (step s i).1)
    (himp : ∀ log s i, Inv s → ok log s i → ok' log s i)
    {log : List ω} {s : σ} {is : List ι} (h : Inv s) (hok : Along step ok log s is) :
    Along step ok' log s is := by
  induction is generalizing log s with
  | nil => trivial
  | cons i is ih => exact ⟨himp log s i h hok.1, ih (hkeep s i h) hok.2⟩

/-- The equivalence `justified_iff_along` for all runs. -/
theorem justified_run_iff_from {ok : List ω → σ → ι → Prop} {P : List ω → ω → Prop}
    (Inv : List ω → σ → Prop)
    (hstep : ∀ log s i, Inv log s →
      (Justified (fun pre => P (log ++ pre)) (step s i).2 ↔ ok log s i))
    (hkeep : ∀ log s i, Inv log s → ok log s i → Inv (log ++ (step s i).2) (step s i).1)
    {log : List ω} {s : σ} (h : Inv log s) (is : List ι) :
    Justified (fun pre => P (log ++ pre)) (run step s is).2 ↔ Along step ok log s is := by
  apply justified_iff_along step Inv ?_ ?_ h (along_true step log s is)
  · intro log s i hlog _
    exact hstep log s i hlog
  · intro log s i hlog _ hok
    exact hkeep log s i hlog hok

theorem justified_run_iff {ok : List ω → σ → ι → Prop} {P : List ω → ω → Prop}
    (Inv : List ω → σ → Prop)
    (hstep : ∀ log s i, Inv log s →
      (Justified (fun pre => P (log ++ pre)) (step s i).2 ↔ ok log s i))
    (hkeep : ∀ log s i, Inv log s → ok log s i → Inv (log ++ (step s i).2) (step s i).1)
    {s : σ} (h : Inv [] s) (is : List ι) :
    Justified P (run step s is).2 ↔ Along step ok [] s is := by
  simpa using justified_run_iff_from step Inv hstep hkeep h is

/-- The equivalence `justified_run_iff_from` for a property of single entries. -/
theorem forall_log_iff_along {ok : List ω → σ → ι → Prop} {P : ω → Prop}
    (Inv : List ω → σ → Prop)
    (hstep : ∀ log s i, Inv log s → ((∀ e ∈ (step s i).2, P e) ↔ ok log s i))
    (hkeep : ∀ log s i, Inv log s → ok log s i → Inv (log ++ (step s i).2) (step s i).1)
    {log : List ω} {s : σ} {is : List ι} (h : Inv log s) :
    (∀ e ∈ (run step s is).2, P e) ↔ Along step ok log s is := by
  rw [← justified_iff_forall]
  refine justified_run_iff_from step (P := fun _ e => P e) Inv ?_ hkeep h is
  intro log s i hlog
  rw [justified_iff_forall]
  exact hstep log s i hlog

end Exact

end Machine
