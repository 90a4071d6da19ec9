import Mathlib.Logic.Function.Iterate
import WeiRtcNative.H264.MediaSink

/-!
# The presentation clock of H264MediaSink

`SetPresentationClock` leaves the old clock, registers with the new one and then remembers it, and
stops at the first call that fails. `Shutdown` forgets the clock without leaving it. A clock tells
those registered with it, whatever the sink remembers.
-/

namespace WeiRtcNative.H264.SinkClock

open Machine MediaSink
set_option autoImplicit false

universe u
variable {α : Type u}

/-- Clocks are numbers; `registered` are those that the sink is registered with, one entry for each
`AddClockStateSink` that was not undone. -/
structure State (α : Type u) where
  sink : MediaSink.State α
  spClock : Option Nat
  registered : List Nat
  deriving DecidableEq, Repr

def create : State α := ⟨MediaSink.create, none, []⟩

/-- `AddClockStateSink` of a clock, with its answer. -/
def addClockStateSink (s : State α) (clock : Nat) (answer : HResult) : State α × HResult :=
  if answer.failed then (s, answer) else ({s with registered := s.registered ++ [clock]}, .ok)

def removeClockStateSink (s : State α) (clock : Nat) (answer : HResult) : State α × HResult :=
  if answer.failed then (s, answer) else ({s with registered := s.registered.erase clock}, .ok)

/-- `remove` and `add` are the answers of the old and of the new clock, where there is one. -/
def setPresentationClock (s : State α) (clock : Option Nat) (remove add : HResult) :
    State α × HResult :=
  if (checkShutdown s.sink).failed then (s, checkShutdown s.sink)
  else
    let (s, hr) := s.spClock.elim (s, .ok) fun old => removeClockStateSink s old remove
    if hr.failed then (s, hr)
    else
      let (s, hr) := clock.elim (s, .ok) fun new => addClockStateSink s new add
      if hr.failed then (s, hr) else ({s with spClock := clock}, .ok)

/-- The clock that is given out; `none` is a failure. `out` says whether there is a place for it. -/
def getPresentationClock (s : State α) (out : Bool) : Option Nat :=
  if !out || (checkShutdown s.sink).failed then none else s.spClock

def shutdown (s : State α) : State α :=
  if !(checkShutdown s.sink).failed && s.sink.outputStream.isSome then
    {s with sink := (MediaSink.shutdown s.sink).1, spClock := none}
  else s

/-- One of several calls, before which the process may have ended. -/
def callOnce (c : MediaSink.Call) (sink : MediaSink.State α) : MediaSink.State α :=
  if sink.crashed then sink else (MediaSink.call sink c).1

/-- How a clock tells of its changes. -/
inductive Notice where
  | start (put : HResult)
  | stop (put : HResult)
  deriving DecidableEq, Repr

def Notice.call : Notice → MediaSink.Call
  | .start put => .onClockStart put
  | .stop put => .onClockStop put

/-- What happens: a call of another method of the sink, a call that sets its clock, or a change of a
clock, which calls the sink for each registration. -/
inductive Action where
  | method (c : MediaSink.Call)
  | setPresentationClock (clock : Option Nat) (remove add : HResult)
  | change (clock : Nat) (notice : Notice)
  deriving DecidableEq, Repr

/-- `told` is how often the sink was told of the change of a clock. -/
structure Entry (α : Type u) where
  action : Action
  before : State α
  after : State α
  told : Nat
  deriving DecidableEq, Repr

def next (s : State α) : Action → State α × Nat
  | .method .shutdown => (shutdown s, 0)
  | .method c => ({s with sink := callOnce c s.sink}, 0)
  | .setPresentationClock clock remove add => ((setPresentationClock s clock remove add).1, 0)
  | .change clock notice =>
    let told := s.registered.count clock
    ({s with sink := (callOnce notice.call)^[told] s.sink}, told)

/-- A sink that went through a null pointer has ended the process. -/
def step (s : State α) (a : Action) : State α × List (Entry α) :=
  if s.sink.crashed then (s, []) else ((next s a).1, [⟨a, s, (next s a).1, (next s a).2⟩])

/-- The sink is registered with the clock it gives out and with no other, and is told just the
changes of that clock, each once. -/
structure Sound (e : Entry α) : Prop where
  registered : e.after.registered = (getPresentationClock e.after true).toList
  told : ∀ clock notice, e.action = .change clock notice →
    e.told = if getPresentationClock e.before true = some clock then 1 else 0

/-- No clock refuses the sink after the old one let it go, and a sink that is shut down has no
clock. -/
def Clocked (s : State α) : Action → Prop
  | .setPresentationClock clock remove add =>
    s.sink.isShutdown = false → s.spClock.isSome = true → remove = .ok → clock.isSome = true →
      add = .ok
  | .method .shutdown =>
    s.sink.isShutdown = false → s.sink.outputStream.isSome = true → s.spClock = none
  | _ => True

/-- What a run that lives asks of each step. -/
def Admits (s : State α) (a : Action) : Prop := s.sink.crashed = false → Clocked s a

/-- A sink that is registered with its clock, and has none once it is shut down. -/
structure Inv (s : State α) : Prop where
  registered : s.registered = s.spClock.toList
  down : s.sink.isShutdown = true → s.spClock = none

section Steps
variable {s : State α} {clock : Option Nat} {remove add : HResult}

theorem setPresentationClock_down (h : s.sink.isShutdown = true) :
    setPresentationClock s clock remove add = (s, .shutdown) := by
  simp [setPresentationClock, checkShutdown, h]

theorem setPresentationClock_kept {old : Nat} (h : s.spClock = some old) (hremove : remove ≠ .ok) :
    (setPresentationClock s clock remove add).1 = s := by
  unfold setPresentationClock
  split
  · rfl
  · simp [h, removeClockStateSink, hremove]

/-- From a sink that has not registered yet. -/
theorem setPresentationClock_first (hup : s.sink.isShutdown = false) (h : s.spClock = none) :
    (setPresentationClock s clock remove add).1 =
      match clock with
      | none => {s with spClock := none}
      | some new =>
        if add = .ok then {s with registered := s.registered ++ [new], spClock := some new}
        else s := by
  cases clock with
  | none => simp [setPresentationClock, checkShutdown, hup, h]
  | some new =>
    by_cases hadd : add = .ok
    · simp [setPresentationClock, checkShutdown, hup, h, addClockStateSink, hadd]
    · simp [setPresentationClock, checkShutdown, hup, h, addClockStateSink, hadd]

/-- From a sink that its clock lets go. -/
theorem setPresentationClock_next {old : Nat} (hup : s.sink.isShutdown = false)
    (h : s.spClock = some old) :
    (setPresentationClock s clock .ok add).1 =
      match clock with
      | none => {s with registered := s.registered.erase old, spClock := none}
      | some new =>
        if add = .ok then
          {s with registered := s.registered.erase old ++ [new], spClock := some new}
        else {s with registered := s.registered.erase old} := by
  cases clock with
  | none => simp [setPresentationClock, checkShutdown, hup, h, removeClockStateSink]
  | some new =>
    by_cases hadd : add = .ok
    · simp [setPresentationClock, checkShutdown, hup, h, removeClockStateSink, addClockStateSink,
        hadd]
    · simp [setPresentationClock, checkShutdown, hup, h, removeClockStateSink, addClockStateSink,
        hadd]

theorem addStreamSink_isShutdown (sink : MediaSink.State α) (identifier : UInt32)
    (type : Option MediaType) (make : HResult) (answers : StreamSink.SetTypeAnswers) :
    (addStreamSink sink identifier type make answers).1.isShutdown = sink.isShutdown := by
  unfold addStreamSink
  dsimp only
  generalize (if sink.outputStream.isSome = true then Result.streamSinkExists
    else .of (checkShutdown sink)) = hr
  split
  · rfl
  · split
    · rfl
    · cases type <;> rfl

theorem getStreamSinkByIndex_isShutdown (sink : MediaSink.State α) (index : UInt32) (out : Bool) :
    (getStreamSinkByIndex sink index out).1.isShutdown = sink.isShutdown := by
  unfold getStreamSinkByIndex
  split
  · rfl
  · split
    · rfl
    · split
      · rfl
      · cases sink.outputStream <;> rfl

theorem getStreamSinkById_isShutdown (sink : MediaSink.State α) (identifier : UInt32) (out : Bool) :
    (getStreamSinkById sink identifier out).1.isShutdown = sink.isShutdown := by
  unfold getStreamSinkById
  split
  · rfl
  · split
    · rfl
    · cases sink.outputStream <;> rfl

theorem onClock_isShutdown (sink : MediaSink.State α) (f : StreamSink α → StreamSink α × HResult) :
    (onClock sink f).1.isShutdown = sink.isShutdown := by
  unfold onClock
  split
  · rfl
  · cases sink.outputStream <;> rfl

theorem call_isShutdown {sink : MediaSink.State α} {c : MediaSink.Call} (hc : c ≠ .shutdown) :
    (MediaSink.call sink c).1.isShutdown = sink.isShutdown := by
  cases c with
  | addStreamSink identifier type make answers => exact addStreamSink_isShutdown sink _ _ _ _
  | removeStreamSink identifier => rfl
  | getStreamSinkByIndex index out => exact getStreamSinkByIndex_isShutdown sink _ _
  | getStreamSinkById identifier out => exact getStreamSinkById_isShutdown sink _ _
  | onClockStart put => exact onClock_isShutdown sink _
  | onClockStop put => exact onClock_isShutdown sink _
  | registerEncodingCallback =>
    cases hstream : sink.outputStream <;>
      simp [MediaSink.call, registerEncodingCallback, crash, hstream]
  | shutdown => exact absurd rfl hc

theorem callOnce_isShutdown {sink : MediaSink.State α} {c : MediaSink.Call} (hc : c ≠ .shutdown) :
    (callOnce c sink).isShutdown = sink.isShutdown := by
  unfold callOnce
  split
  · rfl
  · exact call_isShutdown hc

theorem notices_isShutdown (notice : Notice) (n : Nat) (sink : MediaSink.State α) :
    ((callOnce notice.call)^[n] sink).isShutdown = sink.isShutdown := by
  have hc : notice.call ≠ .shutdown := by cases notice <;> simp [Notice.call]
  induction n generalizing sink with
  | zero => rfl
  | succ n ih => rw [Function.iterate_succ_apply, ih, callOnce_isShutdown hc]

/-- A call of another method than `Shutdown` leaves the clock alone. -/
theorem next_method {c : MediaSink.Call} (h : c ≠ .shutdown) :
    next s (.method c) = ({s with sink := callOnce c s.sink}, 0) := by
  cases c with
  | shutdown => exact absurd rfl h
  | _ => rfl

end Steps

section Exact
variable {s : State α} {a : Action}

theorem Inv.given (h : Inv s) : getPresentationClock s true = s.spClock := by
  unfold getPresentationClock
  cases hdown : s.sink.isShutdown with
  | false => simp [checkShutdown, hdown]
  | true => simp [checkShutdown, hdown, h.down hdown]

theorem setPresentationClock_sink (clock : Option Nat) (remove add : HResult) :
    (setPresentationClock s clock remove add).1.sink = s.sink := by
  cases hup : s.sink.isShutdown with
  | true => rw [setPresentationClock_down hup]
  | false =>
    cases hclock : s.spClock with
    | none =>
      rw [setPresentationClock_first hup hclock]
      cases clock with
      | none => rfl
      | some new => dsimp only; split <;> rfl
    | some old =>
      by_cases hremove : remove = .ok
      · subst hremove
        rw [setPresentationClock_next hup hclock]
        cases clock with
        | none => rfl
        | some new => dsimp only; split <;> rfl
      · rw [setPresentationClock_kept hclock hremove]

theorem Inv.shutdown_down (h : Inv s) :
    (shutdown s).sink.isShutdown = true → (shutdown s).spClock = none := by
  unfold shutdown
  split
  · intro _
    rfl
  · exact h.down

/-- Whatever happens, a sink that is shut down has no clock. -/
theorem Inv.next_down (h : Inv s) (a : Action) :
    (next s a).1.sink.isShutdown = true → (next s a).1.spClock = none := by
  intro hdown
  cases a with
  | method c =>
    by_cases hc : c = .shutdown
    · subst hc
      exact h.shutdown_down hdown
    · rw [next_method hc] at hdown ⊢
      exact h.down ((callOnce_isShutdown hc).symm.trans hdown)
  | setPresentationClock clock remove add =>
    have hbefore : s.sink.isShutdown = true := by
      rw [← hdown]
      exact congrArg MediaSink.State.isShutdown (setPresentationClock_sink clock remove add).symm
    rw [next, setPresentationClock_down hbefore]
    exact h.down hbefore
  | change clock notice =>
    exact h.down ((notices_isShutdown notice _ s.sink).symm.trans hdown)

theorem setPresentationClock_registered_iff (h : s.registered = s.spClock.toList)
    (clock : Option Nat) (remove add : HResult) :
    (setPresentationClock s clock remove add).1.registered =
        (setPresentationClock s clock remove add).1.spClock.toList ↔
      Clocked s (.setPresentationClock clock remove add) := by
  unfold Clocked
  cases hup : s.sink.isShutdown with
  | true =>
    rw [setPresentationClock_down hup]
    simp [h]
  | false =>
    cases hclock : s.spClock with
    | none =>
      rw [setPresentationClock_first hup hclock]
      rw [hclock] at h
      cases clock with
      | none => simp [h]
      | some new =>
        by_cases hadd : add = .ok
        · simp [h, hadd]
        · simp [h, hadd, hclock]
    | some old =>
      rw [hclock] at h
      by_cases hremove : remove = .ok
      · subst hremove
        rw [setPresentationClock_next hup hclock]
        cases clock with
        | none => simp [h]
        | some new =>
          by_cases hadd : add = .ok
          · simp [h, hadd]
          · simp [h, hadd, hclock]
      · rw [setPresentationClock_kept hclock hremove]
        simp [h, hclock, hremove]

theorem shutdown_registered_iff (h : s.registered = s.spClock.toList) :
    (shutdown s).registered = (shutdown s).spClock.toList ↔ Clocked s (.method .shutdown) := by
  unfold Clocked shutdown
  cases hup : s.sink.isShutdown with
  | true => simp [checkShutdown, hup, h]
  | false =>
    cases hstream : s.sink.outputStream with
    | none => simp [checkShutdown, hup, h]
    | some stream =>
      cases hclock : s.spClock with
      | none => simp [checkShutdown, hup, h, hclock]
      | some clock => simp [checkShutdown, hup, h, hclock]

/-- One step, from a sink that is registered with its clock. -/
theorem next_registered_iff (h : s.registered = s.spClock.toList) (a : Action) :
    (next s a).1.registered = (next s a).1.spClock.toList ↔ Clocked s a := by
  cases a with
  | method c =>
    by_cases hc : c = .shutdown
    · subst hc
      exact shutdown_registered_iff h
    · rw [next_method hc]
      cases c with
      | shutdown => exact absurd rfl hc
      | _ => simpa [Clocked] using h
  | setPresentationClock clock remove add => exact setPresentationClock_registered_iff h _ _ _
  | change clock notice => simpa [Clocked, next] using h

theorem Inv.next_iff (h : Inv s) (a : Action) : Inv (next s a).1 ↔ Clocked s a := by
  rw [← next_registered_iff h.registered a]
  constructor
  · intro hnext
    exact hnext.registered
  · intro hregistered
    exact ⟨hregistered, h.next_down a⟩

theorem Inv.told (h : Inv s) (clock : Nat) (notice : Notice) :
    (next s (.change clock notice)).2 =
      if getPresentationClock s true = some clock then 1 else 0 := by
  rw [h.given, next, h.registered]
  cases s.spClock with
  | none => simp
  | some old => by_cases hold : old = clock <;> simp [hold]

theorem Inv.sound_iff (h : Inv s) (a : Action) :
    Sound ⟨a, s, (next s a).1, (next s a).2⟩ ↔ Clocked s a := by
  rw [← h.next_iff a]
  constructor
  · intro hsound
    refine ⟨?_, h.next_down a⟩
    have hregistered := hsound.registered
    cases hdown : (next s a).1.sink.isShutdown with
    | false => simpa [getPresentationClock, checkShutdown, hdown] using hregistered
    | true =>
      rw [h.next_down a hdown]
      simpa [getPresentationClock, checkShutdown, hdown] using hregistered
  · intro hnext
    refine ⟨?_, ?_⟩
    · rw [hnext.given]
      exact hnext.registered
    · rintro clock notice rfl
      exact h.told clock notice

end Exact

/-- In every run the sink is registered with the clock that it gives out and with no other, and is
told just the changes of that clock, as long as no clock refuses it after the old one let it go and
it has no clock when it is shut down; and no longer. -/
theorem clock_registered_iff (actions : List Action) :
    (∀ e ∈ (run step (create : State α) actions).2, Sound e) ↔
      Along step (fun _ s a => Admits s a) [] (create : State α) actions := by
  apply forall_log_iff_along step fun _ s => Inv s
  · intro log s a h
    unfold step Admits
    cases hcrashed : s.sink.crashed with
    | true => simp
    | false => simpa using h.sound_iff a
  · intro log s a h hadmits
    unfold step
    cases hcrashed : s.sink.crashed with
    | true => simpa using h
    | false => simpa using (h.next_iff a).mpr (hadmits hcrashed)
  · exact ⟨rfl, by simp [create, MediaSink.create]⟩

/-! ## A sink whose new clock refused it -/

section Refused
variable {s : State α} {a : Action}

/-- A clock does not remove a sink that is not registered with it. -/
def RemovesItsOwn (s : State α) : Action → Prop
  | .setPresentationClock _ remove _ =>
    ∀ old, s.spClock = some old → old ∉ s.registered → remove ≠ .ok
  | _ => True

/-- The sink remembers a clock it is not registered with, or is shut down. -/
structure Clockless (s : State α) : Prop where
  registered : s.registered = []
  stuck : s.spClock.isSome = true ∨ s.sink.isShutdown = true

theorem Clockless.set_fails (h : Clockless s) {clock : Option Nat} {remove add : HResult}
    (ha : RemovesItsOwn s (.setPresentationClock clock remove add)) :
    (setPresentationClock s clock remove add).1 = s ∧
      (setPresentationClock s clock remove add).2.failed = true := by
  by_cases hdown : s.sink.isShutdown = true
  · rw [setPresentationClock_down hdown]
    exact ⟨rfl, rfl⟩
  · obtain ⟨old, hold⟩ := Option.isSome_iff_exists.mp (h.stuck.resolve_right hdown)
    have hremove : remove ≠ .ok := ha old hold (by simp [h.registered])
    refine ⟨setPresentationClock_kept hold hremove, ?_⟩
    simp [setPresentationClock, checkShutdown, hdown, hold, removeClockStateSink, hremove]

theorem Clockless.shutdown (h : Clockless s) : Clockless (SinkClock.shutdown s) := by
  unfold SinkClock.shutdown
  cases hup : !(checkShutdown s.sink).failed && s.sink.outputStream.isSome with
  | false => simpa using h
  | true =>
    refine ⟨h.registered, .inr ?_⟩
    simp [MediaSink.shutdown, hup]

theorem Clockless.next (h : Clockless s) (ha : RemovesItsOwn s a) :
    Clockless (SinkClock.next s a).1 ∧ (SinkClock.next s a).2 = 0 := by
  cases a with
  | method c =>
    by_cases hc : c = .shutdown
    · subst hc
      exact ⟨h.shutdown, rfl⟩
    · rw [next_method hc]
      refine ⟨⟨h.registered, h.stuck.imp_right ?_⟩, rfl⟩
      intro hdown
      exact (callOnce_isShutdown hc).trans hdown
  | setPresentationClock clock remove add =>
    refine ⟨?_, rfl⟩
    rw [SinkClock.next, (h.set_fails ha).1]
    exact h
  | change clock notice =>
    have htold : s.registered.count clock = 0 := by simp [h.registered]
    simp only [SinkClock.next, htold]
    exact ⟨h, trivial⟩

/-- Such a sink never gets a clock again: no change of a clock reaches it, and each later
`SetPresentationClock` fails. -/
theorem clockless_for_ever (h : Clockless s) {actions : List Action}
    (hactions : Along step (fun _ s a => RemovesItsOwn s a) [] s actions) :
    Clockless (run step s actions).1 ∧ ∀ e ∈ (run step s actions).2, e.told = 0 := by
  have hstep : ∀ (log : List (Entry α)) (s : State α) a, (Clockless s ∧ ∀ e ∈ log, e.told = 0) → RemovesItsOwn s a →
      Clockless (step s a).1 ∧ ∀ e ∈ log ++ (step s a).2, e.told = 0 := by
    rintro log s a ⟨hs, hlog⟩ ha
    unfold step
    cases hcrashed : s.sink.crashed with
    | true => simpa using ⟨hs, hlog⟩
    | false =>
      obtain ⟨hnext, htold⟩ := hs.next ha
      refine ⟨hnext, ?_⟩
      intro e he
      rcases List.mem_append.mp he with he | he
      · exact hlog e he
      · obtain rfl := List.mem_singleton.mp he
        exact htold
  exact run_invariant step (fun log s => Clockless s ∧ ∀ e ∈ log, e.told = 0) hstep
    ⟨h, by simp⟩ hactions

end Refused

end WeiRtcNative.H264.SinkClock
