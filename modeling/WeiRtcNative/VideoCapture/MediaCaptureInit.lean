import WeiRtcNative.Lib.Machine

/-!
# Initialising the media capture on the UI thread

`GetMediaCaptureWithInitSettingsUWP` has a handler started on the UI thread, which starts the
initialisation, and a delegate called when the initialisation has ended, that is when the user has
granted or denied access. Both set an event that the caller waits for, and refer to the caller's
variables. The outcome of the initialisation goes no further than the result of the delegate.
-/

namespace WeiRtcNative.VideoCapture.MediaCaptureInit

open Machine
set_option autoImplicit false

/-- The calls of the caller that can fail, in their order; `hasThreadAccess` is the test that this
is not the UI thread, `getMainViewDispatcher` stands for the calls of that function, and
`resolveAction` is `As` of the agile reference to the action. -/
inductive Call where
  | getMainViewDispatcher
  | getHasThreadAccess
  | hasThreadAccess
  | createActionEvent
  | activateInstance
  | asAgile
  | runAsync
  | waitForAction
  | createCompletionEvent
  | resolveAction
  | putCompleted
  | waitForCompletion
  deriving DecidableEq, Repr

def Call.position : Call → Nat
  | .getMainViewDispatcher => 0
  | .getHasThreadAccess => 1
  | .hasThreadAccess => 2
  | .createActionEvent => 3
  | .activateInstance => 4
  | .asAgile => 5
  | .runAsync => 6
  | .waitForAction => 7
  | .createCompletionEvent => 8
  | .resolveAction => 9
  | .putCompleted => 10
  | .waitForCompletion => 11

/-- The calls of the handler on the UI thread. -/
inductive HandlerCall where
  | resolveMediaCapture
  | initializeWithSettings
  | actionAsAgile
  deriving DecidableEq, Repr

/-- The first call of either that fails; whether an empty agile reference resolves to a null pointer
and says `S_OK`; and how the initialisation ends. -/
structure Answers where
  fail : Option Call
  handlerFail : Option HandlerCall
  emptyResolves : Bool
  granted : Bool
  deriving DecidableEq, Repr

def Answers.passed (a : Answers) (call : Call) : Bool :=
  match a.fail with
  | none => true
  | some f => call.position < f.position

def Answers.succeeds (a : Answers) : Bool := a.fail.isNone && a.handlerFail.isNone

inductive Caller where
  | entered
  | waitsForAction
  | waitsForCompletion
  | returned (ok : Bool)
  | crashed
  deriving DecidableEq, Repr

inductive Handler where
  | absent
  | queued
  | started
  | done
  deriving DecidableEq, Repr

inductive Operation where
  | absent
  | running
  | ended
  deriving DecidableEq, Repr

inductive Delegate where
  | absent
  | registered
  | done
  deriving DecidableEq, Repr

/-- `actionEvent` and `completionEvent` are whether the events are set, `action` whether the agile
reference to the action is. -/
structure State where
  caller : Caller
  handler : Handler
  operation : Operation
  delegate : Delegate
  actionEvent : Bool
  completionEvent : Bool
  action : Bool
  deriving DecidableEq, Repr

def initial : State := ⟨.entered, .absent, .absent, .absent, false, false, false⟩

inductive Party where
  | caller
  | handler
  | operation
  | delegate
  deriving DecidableEq, Repr

/-- The caller's variables, which the handler and the delegate refer to, are there. -/
def State.live (s : State) : Bool :=
  match s.caller with
  | .returned _ => false
  | _ => true

section Parties
variable (a : Answers) (s : State)

/-- Up to `RunAsync`. -/
def enter : State :=
  if a.passed .runAsync then
    {s with caller := .waitsForAction, handler := .queued}
  else {s with caller := .returned false}

/-- From the first wait to the second. A reference that resolves to a null pointer is called. -/
def registerDelegate : State :=
  if !a.passed .resolveAction then {s with caller := .returned false}
  else if !s.action then {s with caller := if a.emptyResolves then .crashed else .returned false}
  else if !a.passed .putCompleted then {s with caller := .returned false}
  else {s with caller := .waitsForCompletion, delegate := .registered}

/-- A wait that fails ends at any time. -/
def callerStep : State :=
  match s.caller with
  | .entered => enter a s
  | .waitsForAction =>
    if a.fail = some .waitForAction then {s with caller := .returned false}
    else if s.actionEvent then registerDelegate a s
    else s
  | .waitsForCompletion =>
    if a.fail = some .waitForCompletion then {s with caller := .returned false}
    else if s.completionEvent then {s with caller := .returned true}
    else s
  | .returned _ | .crashed => s

def startsOperation : Bool :=
  a.handlerFail = none || a.handlerFail = some .actionAsAgile

/-- The three calls, and then `SetEvent`; each refers to variables of the caller, and is logged with
whether they are live. -/
def handlerStep : State × List Bool :=
  match s.handler with
  | .queued =>
    ({s with
      handler := .started
      operation := if startsOperation a then .running else s.operation
      action := a.handlerFail.isNone}, [s.live])
  | .started => ({s with handler := .done, actionEvent := true}, [s.live])
  | .absent | .done => (s, [])

def operationStep : State :=
  match s.operation with
  | .running => {s with operation := .ended}
  | .absent | .ended => s

/-- The delegate is called once the operation has ended, also when it had ended before. -/
def delegateStep : State × List Bool :=
  if s.delegate = .registered && s.operation = .ended then
    ({s with delegate := .done, completionEvent := true}, [s.live])
  else (s, [])

def step (s : State) (p : Party) : State × List Bool :=
  if s.caller = .crashed then (s, [])
  else
    match p with
    | .caller => (callerStep a s, [])
    | .handler => handlerStep a s
    | .operation => (operationStep s, [])
    | .delegate => delegateStep s

end Parties

/-- The order in which the parties bring a call to its end. -/
def toTheEnd : List Party :=
  [.caller, .handler, .handler, .caller, .operation, .delegate, .caller]

/-- Whatever the parties have done: neither the handler nor the delegate used variables of a caller
that has returned, the process lives, and where the caller returned `S_OK` the media capture is
initialised. When all go on, the caller returns, with `S_OK` if no call fails. -/
structure Good (a : Answers) (schedule : List Party) : Prop where
  uses : ∀ live ∈ (run (step a) initial schedule).2, live = true
  lives : (run (step a) initial schedule).1.caller ≠ .crashed
  initialised : (run (step a) initial schedule).1.caller = .returned true →
    (run (step a) initial schedule).1.operation = .ended ∧ a.granted = true
  returns : (run (step a) initial (schedule ++ toTheEnd)).1.caller = .returned a.succeeds

/-- No wait fails, an empty agile reference is refused where the handler leaves one, and the user
grants access. -/
structure Dependable (a : Answers) : Prop where
  waitForAction : a.fail ≠ some .waitForAction
  waitForCompletion : a.handlerFail = none → a.fail ≠ some .waitForCompletion
  refused : a.handlerFail ≠ none → a.passed .resolveAction = true → a.emptyResolves = false
  granted : a.succeeds = true → a.granted = true

section Reached
variable {a : Answers} {s : State}

/-- The handler, while the caller waits for it. -/
def HandlerAt (a : Answers) (s : State) : Prop :=
  match s.handler with
  | .absent => False
  | .queued => s.actionEvent = false
  | .started =>
    s.actionEvent = false ∧ s.action = a.handlerFail.isNone ∧
      (a.handlerFail = none → s.operation ≠ .absent)
  | .done =>
    s.actionEvent = true ∧ s.action = a.handlerFail.isNone ∧
      (a.handlerFail = none → s.operation ≠ .absent)

/-- The delegate, while the caller waits for it. -/
def DelegateAt (s : State) : Prop :=
  match s.delegate with
  | .absent => False
  | .registered => s.completionEvent = false
  | .done => s.completionEvent = true ∧ s.operation = .ended

/-- What the other parties may be at, for each point of the caller. -/
def Reached (a : Answers) (s : State) : Prop :=
  match s.caller with
  | .entered => s = initial
  | .waitsForAction => s.delegate = .absent ∧ s.completionEvent = false ∧ HandlerAt a s
  | .waitsForCompletion =>
    a.handlerFail = none ∧ a.passed .putCompleted = true ∧ s.handler = .done ∧
      s.operation ≠ .absent ∧ DelegateAt s
  | .returned ok =>
    ok = a.succeeds ∧ (s.handler = .absent ∨ s.handler = .done) ∧ s.delegate ≠ .registered ∧
      (ok = true → s.operation = .ended)
  | .crashed => False

theorem not_succeeds_of_fail {call : Call} (h : a.passed call = false) : a.succeeds = false := by
  cases hfail : a.fail with
  | none => simp [Answers.passed, hfail] at h
  | some f => simp [Answers.succeeds, hfail]

/-- Only the last wait is left. -/
theorem fail_of_passed (h : a.passed .putCompleted = true)
    (hwait : a.fail ≠ some .waitForCompletion) : a.fail = none := by
  cases hfail : a.fail with
  | none => rfl
  | some f => cases f <;> simp_all [Answers.passed, Call.position]

theorem enter_reached (h : s = initial) : Reached a (enter a s) := by
  subst h
  unfold enter
  split
  · simp [Reached, HandlerAt, initial]
  · rename_i hpassed
    have hfail := not_succeeds_of_fail (by simpa using hpassed)
    simp [Reached, initial, hfail]

theorem registerDelegate_reached (ha : Dependable a) (hdelegate : s.delegate = .absent)
    (hcompletion : s.completionEvent = false) (hhandler : s.handler = .done)
    (haction : s.action = a.handlerFail.isNone)
    (hoperation : a.handlerFail = none → s.operation ≠ .absent) :
    Reached a (registerDelegate a s) := by
  unfold registerDelegate
  cases hresolve : a.passed .resolveAction with
  | false => simp [Reached, not_succeeds_of_fail hresolve, hhandler, hdelegate]
  | true =>
    cases hfail : a.handlerFail with
    | some f =>
      have hrefused := ha.refused (by simp [hfail]) hresolve
      simp [Reached, haction, hfail, hrefused, hhandler, hdelegate, Answers.succeeds]
    | none =>
      cases hput : a.passed .putCompleted with
      | false => simp [Reached, haction, hfail, not_succeeds_of_fail hput, hhandler, hdelegate]
      | true =>
        simp [Reached, haction, hfail, hput, hhandler, hoperation hfail, DelegateAt, hcompletion]

theorem callerStep_reached (ha : Dependable a) (h : Reached a s) : Reached a (callerStep a s) := by
  unfold callerStep
  cases hcaller : s.caller with
  | entered =>
    apply enter_reached
    simpa [Reached, hcaller] using h
  | waitsForAction =>
    simp only [ha.waitForAction, if_false]
    cases hevent : s.actionEvent with
    | false => simpa using h
    | true =>
      simp only [Reached, hcaller] at h
      obtain ⟨hdelegate, hcompletion, hhandler⟩ := h
      cases hdone : s.handler with
      | absent => simp [HandlerAt, hdone] at hhandler
      | queued => simp [HandlerAt, hdone, hevent] at hhandler
      | started => simp [HandlerAt, hdone, hevent] at hhandler
      | done =>
        simp only [HandlerAt, hdone] at hhandler
        exact registerDelegate_reached ha hdelegate hcompletion hdone hhandler.2.1 hhandler.2.2
  | waitsForCompletion =>
    have hat := h
    simp only [Reached, hcaller] at hat
    obtain ⟨hfail, hput, hhandler, hoperation, hdelegate⟩ := hat
    have hwait := ha.waitForCompletion hfail
    simp only [hwait, if_false]
    cases hevent : s.completionEvent with
    | false => simpa using h
    | true =>
      cases hdone : s.delegate with
      | absent => simp [DelegateAt, hdone] at hdelegate
      | registered => simp [DelegateAt, hdone, hevent] at hdelegate
      | done =>
        simp only [DelegateAt, hdone] at hdelegate
        simp [Reached, Answers.succeeds, fail_of_passed hput hwait, hfail, hhandler, hdelegate]
  | returned ok => exact h
  | crashed => exact h

/-- The handler runs while the caller waits for it. -/
theorem handlerStep_reached (h : Reached a s) :
    Reached a (handlerStep a s).1 ∧ ∀ live ∈ (handlerStep a s).2, live = true := by
  unfold handlerStep
  cases hcaller : s.caller with
  | entered =>
    have hinitial : s = initial := by simpa [Reached, hcaller] using h
    subst hinitial
    simp [initial, Reached]
  | waitsForAction =>
    have hat := h
    simp only [Reached, hcaller] at hat
    obtain ⟨hdelegate, hcompletion, hhandler⟩ := hat
    cases hphase : s.handler with
    | absent => simp [HandlerAt, hphase] at hhandler
    | queued =>
      have hevent : s.actionEvent = false := by simpa [HandlerAt, hphase] using hhandler
      have hstarts : a.handlerFail = none → startsOperation a = true := by
        intro hfail
        simp [startsOperation, hfail]
      refine ⟨?_, by simp [State.live, hcaller]⟩
      simp only [Reached, HandlerAt]
      refine ⟨hdelegate, hcompletion, hevent, trivial, ?_⟩
      intro hfail
      simp [hstarts hfail]
    | started =>
      simp only [HandlerAt, hphase] at hhandler
      refine ⟨?_, by simp [State.live, hcaller]⟩
      simp only [Reached, HandlerAt]
      exact ⟨hdelegate, hcompletion, trivial, hhandler.2⟩
    | done => exact ⟨h, by simp⟩
  | waitsForCompletion =>
    have hat := h
    simp only [Reached, hcaller] at hat
    simp [hat.2.2.1, h]
  | returned ok =>
    have hat := h
    simp only [Reached, hcaller] at hat
    rcases hat.2.1 with hphase | hphase
    · simp [hphase, h]
    · simp [hphase, h]
  | crashed => simp [Reached, hcaller] at h

theorem operationStep_reached (h : Reached a s) : Reached a (operationStep s) := by
  unfold operationStep
  cases hphase : s.operation with
  | absent => exact h
  | ended => exact h
  | running =>
    cases hcaller : s.caller with
    | entered =>
      have hinitial : s = initial := by simpa [Reached, hcaller] using h
      subst hinitial
      simp [initial] at hphase
    | waitsForAction =>
      simp only [Reached, hcaller] at h ⊢
      obtain ⟨hdelegate, hcompletion, hhandler⟩ := h
      refine ⟨hdelegate, hcompletion, ?_⟩
      cases hdone : s.handler <;> simp_all [HandlerAt]
    | waitsForCompletion =>
      simp only [Reached, hcaller] at h ⊢
      obtain ⟨hfail, hput, hhandler, -, hdelegate⟩ := h
      refine ⟨hfail, hput, hhandler, by simp, ?_⟩
      cases hdone : s.delegate <;> simp_all [DelegateAt]
    | returned ok =>
      simp only [Reached, hcaller] at h ⊢
      exact ⟨h.1, h.2.1, h.2.2.1, fun _ => trivial⟩
    | crashed => simp [Reached, hcaller] at h

/-- The delegate is called while the caller waits for it. -/
theorem delegateStep_reached (h : Reached a s) :
    Reached a (delegateStep s).1 ∧ ∀ live ∈ (delegateStep s).2, live = true := by
  unfold delegateStep
  split
  · rename_i hcalled
    obtain ⟨hdelegate, hended⟩ : s.delegate = .registered ∧ s.operation = .ended := by
      simpa using hcalled
    cases hcaller : s.caller with
    | entered =>
      have hinitial : s = initial := by simpa [Reached, hcaller] using h
      subst hinitial
      simp [initial] at hdelegate
    | waitsForAction =>
      simp only [Reached, hcaller] at h
      simp [hdelegate] at h
    | waitsForCompletion =>
      simp only [Reached, hcaller] at h ⊢
      obtain ⟨hfail, hput, hhandler, hoperation, -⟩ := h
      simp [hfail, hput, hhandler, hended, DelegateAt, State.live, hcaller]
    | returned ok =>
      simp only [Reached, hcaller] at h
      exact absurd hdelegate h.2.2.1
    | crashed => simp [Reached, hcaller] at h
  · exact ⟨h, by simp⟩

theorem reached_lives (h : Reached a s) : s.caller ≠ .crashed := by
  intro hcrashed
  simp [Reached, hcrashed] at h

theorem step_reached (ha : Dependable a) (h : Reached a s) (p : Party) :
    Reached a (step a s p).1 ∧ ∀ live ∈ (step a s p).2, live = true := by
  unfold step
  rw [if_neg (reached_lives h)]
  cases p with
  | caller => exact ⟨callerStep_reached ha h, by simp⟩
  | handler => exact handlerStep_reached h
  | operation => exact ⟨operationStep_reached h, by simp⟩
  | delegate => exact delegateStep_reached h

theorem run_reached (ha : Dependable a) (h : Reached a s) (schedule : List Party) :
    Reached a (run (step a) s schedule).1 ∧
      ∀ live ∈ (run (step a) s schedule).2, live = true := by
  induction schedule generalizing s with
  | nil => exact ⟨h, by simp⟩
  | cons p schedule ih =>
    obtain ⟨hnext, hlive⟩ := step_reached ha h p
    obtain ⟨hlast, hlives⟩ := ih hnext
    refine ⟨hlast, ?_⟩
    intro live hmem
    rcases List.mem_append.mp hmem with hmem | hmem
    · exact hlive live hmem
    · exact hlives live hmem

/-! Each step of `toTheEnd` brings the caller further. -/

@[simp] theorem handlerStep_caller : (handlerStep a s).1.caller = s.caller := by
  unfold handlerStep
  split <;> rfl

@[simp] theorem operationStep_caller : (operationStep s).caller = s.caller := by
  unfold operationStep
  split <;> rfl

@[simp] theorem delegateStep_caller : (delegateStep s).1.caller = s.caller := by
  unfold delegateStep
  split <;> rfl

theorem registerDelegate_caller : (registerDelegate a s).caller ≠ .entered ∧
    (registerDelegate a s).caller ≠ .waitsForAction := by
  unfold registerDelegate
  repeat' split
  all_goals simp

theorem callerStep_enters : (callerStep a s).caller ≠ .entered := by
  unfold callerStep
  cases hcaller : s.caller with
  | entered =>
    simp only [enter]
    split <;> simp
  | waitsForAction =>
    simp only
    repeat' split
    · simp
    · exact registerDelegate_caller.1
    · simp [hcaller]
  | waitsForCompletion =>
    simp only
    repeat' split
    all_goals simp [hcaller]
  | returned ok => simp [hcaller]
  | crashed => simp [hcaller]

theorem handlerStep_sets_actionEvent (h : Reached a s) (hcaller : s.caller = .waitsForAction) :
    (handlerStep a (handlerStep a s).1).1.actionEvent = true := by
  simp only [Reached, hcaller] at h
  have hhandler := h.2.2
  cases hphase : s.handler with
  | absent => simp [HandlerAt, hphase] at hhandler
  | queued => simp [handlerStep, hphase]
  | started => simp [handlerStep, hphase]
  | done =>
    simp only [HandlerAt, hphase] at hhandler
    simp [handlerStep, hphase, hhandler.1]

/-- From the first wait, once its event is set, or from a later point. -/
theorem callerStep_leaves_waitForAction (hentered : s.caller ≠ .entered)
    (hevent : s.caller = .waitsForAction → s.actionEvent = true) :
    (callerStep a s).caller ≠ .entered ∧ (callerStep a s).caller ≠ .waitsForAction := by
  refine ⟨callerStep_enters, ?_⟩
  unfold callerStep
  cases hcaller : s.caller with
  | entered => exact absurd hcaller hentered
  | waitsForAction =>
    simp only [hevent hcaller, if_true]
    split
    · simp
    · exact registerDelegate_caller.2
  | waitsForCompletion =>
    simp only
    repeat' split
    all_goals simp [hcaller]
  | returned ok => simp [hcaller]
  | crashed => simp [hcaller]

theorem operationStep_ends (h : Reached a s) (hcaller : s.caller = .waitsForCompletion) :
    (operationStep s).operation = .ended := by
  simp only [Reached, hcaller] at h
  obtain ⟨-, -, -, hoperation, -⟩ := h
  cases hphase : s.operation with
  | absent => exact absurd hphase hoperation
  | running => simp [operationStep, hphase]
  | ended => simp [operationStep, hphase]

theorem delegateStep_sets_completionEvent (h : Reached a s)
    (hcaller : s.caller = .waitsForCompletion) (hended : s.operation = .ended) :
    (delegateStep s).1.completionEvent = true := by
  simp only [Reached, hcaller] at h
  obtain ⟨-, -, -, -, hdelegate⟩ := h
  cases hphase : s.delegate with
  | absent => simp [DelegateAt, hphase] at hdelegate
  | registered => simp [delegateStep, hphase, hended]
  | done =>
    simp only [DelegateAt, hphase] at hdelegate
    simp [delegateStep, hphase, hdelegate.1]

theorem callerStep_returns (h : Reached a s) (hentered : s.caller ≠ .entered)
    (haction : s.caller ≠ .waitsForAction)
    (hevent : s.caller = .waitsForCompletion → s.completionEvent = true) :
    ∃ ok, (callerStep a s).caller = .returned ok := by
  unfold callerStep
  cases hcaller : s.caller with
  | entered => exact absurd hcaller hentered
  | waitsForAction => exact absurd hcaller haction
  | waitsForCompletion =>
    simp only [hevent hcaller, if_true]
    split
    · exact ⟨false, rfl⟩
    · exact ⟨true, rfl⟩
  | returned ok => exact ⟨ok, hcaller⟩
  | crashed => exact absurd hcaller (reached_lives h)

theorem step_of_reached (h : Reached a s) :
    (step a s .caller).1 = callerStep a s ∧ (step a s .handler).1 = (handlerStep a s).1 ∧
      (step a s .operation).1 = operationStep s ∧ (step a s .delegate).1 = (delegateStep s).1 := by
  simp [step, reached_lives h]

/-- What the caller and the handler do brings the caller past its first wait. -/
theorem run_leaves_waitForAction (ha : Dependable a) (h : Reached a s) :
    (run (step a) s [.caller, .handler, .handler, .caller]).1.caller ≠ .entered ∧
      (run (step a) s [.caller, .handler, .handler, .caller]).1.caller ≠ .waitsForAction := by
  have hentered := callerStep_reached ha h
  have hstarted := (handlerStep_reached hentered).1
  have hdone := (handlerStep_reached hstarted).1
  simp only [run_cons, run_nil, (step_of_reached h).1, (step_of_reached hentered).2.1,
    (step_of_reached hstarted).2.1, (step_of_reached hdone).1]
  apply callerStep_leaves_waitForAction
  · simpa using callerStep_enters
  · intro hcaller
    apply handlerStep_sets_actionEvent hentered
    simpa using hcaller

/-- What the operation and the delegate do brings it past its second. -/
theorem run_returns (h : Reached a s)
    (hleft : s.caller ≠ .entered ∧ s.caller ≠ .waitsForAction) :
    ∃ ok, (run (step a) s [.operation, .delegate, .caller]).1.caller = .returned ok := by
  have hended := operationStep_reached h
  have hcalled := (delegateStep_reached hended).1
  simp only [run_cons, run_nil, (step_of_reached h).2.2.1, (step_of_reached hended).2.2.2,
    (step_of_reached hcalled).1]
  apply callerStep_returns hcalled
  · simpa using hleft.1
  · simpa using hleft.2
  · intro hcaller
    have hwaits : s.caller = .waitsForCompletion := by simpa using hcaller
    apply delegateStep_sets_completionEvent hended
    · simpa using hwaits
    · exact operationStep_ends h hwaits

theorem toTheEnd_returns (ha : Dependable a) (h : Reached a s) :
    (run (step a) s toTheEnd).1.caller = .returned a.succeeds := by
  obtain ⟨ok, hok⟩ : ∃ ok, (run (step a) s toTheEnd).1.caller = .returned ok := by
    have hsplit : toTheEnd =
      [.caller, .handler, .handler, .caller] ++ [.operation, .delegate, .caller] := rfl
    have hwaits := (run_reached ha h [.caller, .handler, .handler, .caller]).1
    simp only [hsplit, run_append]
    exact run_returns hwaits (run_leaves_waitForAction ha h)
  have hlast := (run_reached ha h toTheEnd).1
  simp only [Reached, hok] at hlast
  rw [hok, hlast.1]

theorem good_of_dependable (ha : Dependable a) (schedule : List Party) : Good a schedule := by
  have hinitial : Reached a initial := by simp [Reached, initial]
  obtain ⟨hreached, huses⟩ := run_reached ha hinitial schedule
  refine ⟨huses, reached_lives hreached, ?_, ?_⟩
  · intro hok
    simp only [Reached, hok] at hreached
    obtain ⟨hsucceeds, -, -, hended⟩ := hreached
    exact ⟨hended trivial, ha.granted hsucceeds.symm⟩
  · simp only [run_append]
    exact toTheEnd_returns ha hreached

end Reached

section Necessary
variable {a : Answers}

/-- The caller gives up the first wait before the handler is called. -/
theorem uses_after_waitForAction (h : a.fail = some .waitForAction) :
    false ∈ (run (step a) initial [.caller, .caller, .handler]).2 := by
  simp [step, callerStep, enter, initial, handlerStep, State.live, Answers.passed, Call.position, h]

/-- It gives up the second wait before the delegate is called. -/
theorem uses_after_waitForCompletion (h : a.fail = some .waitForCompletion)
    (hhandler : a.handlerFail = none) :
    false ∈ (run (step a) initial
      [.caller, .handler, .handler, .caller, .caller, .operation, .delegate]).2 := by
  simp [step, callerStep, enter, initial, handlerStep, State.live, Answers.passed, Call.position, h,
    hhandler, registerDelegate, startsOperation, operationStep, delegateStep]

theorem passed_of_resolveAction (h : a.passed .resolveAction = true) :
    a.passed .runAsync = true ∧ a.fail ≠ some .waitForAction := by
  cases hfail : a.fail with
  | none => simp [Answers.passed, hfail]
  | some f => cases f <;> simp_all [Answers.passed, Call.position]

theorem crashes_of_empty (hfail : a.handlerFail ≠ none) (hpassed : a.passed .resolveAction = true)
    (hempty : a.emptyResolves = true) :
    (run (step a) initial [.caller, .handler, .handler, .caller]).1.caller = .crashed := by
  obtain ⟨hrun, hwait⟩ := passed_of_resolveAction hpassed
  have hhandler : a.handlerFail.isNone = false := by
    simpa [Option.isSome_iff_ne_none] using hfail
  simp [step, callerStep, enter, initial, handlerStep, registerDelegate, hrun, hwait, hpassed,
    hempty, hhandler]

end Necessary

/-- What the function depends on, and what nothing in it checks. -/
theorem capture_initialised_iff (a : Answers) :
    (∀ schedule, Good a schedule) ↔ Dependable a := by
  constructor
  · intro hgood
    refine ⟨?_, ?_, ?_, ?_⟩
    · intro hfail
      exact absurd ((hgood _).uses _ (uses_after_waitForAction hfail)) (by simp)
    · intro hhandler hfail
      exact absurd ((hgood _).uses _ (uses_after_waitForCompletion hfail hhandler)) (by simp)
    · intro hhandler hpassed
      cases hempty : a.emptyResolves with
      | false => rfl
      | true => exact absurd (crashes_of_empty hhandler hpassed hempty) (hgood _).lives
    · intro hsucceeds
      have hreturns := (hgood []).returns
      rw [hsucceeds, List.nil_append] at hreturns
      exact ((hgood toTheEnd).initialised hreturns).2
  · intro ha schedule
    exact good_of_dependable ha schedule

end WeiRtcNative.VideoCapture.MediaCaptureInit
