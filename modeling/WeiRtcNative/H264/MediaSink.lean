import WeiRtcNative.Lib.Machine
import WeiRtcNative.H264.StreamSink

/-!
# H264MediaSink

The media sink holds at most one stream sink in `outputStream_`. Stream sinks are numbered as they
are made, so that `outputStream_` can be compared before and after a call. A method that goes
through a null `outputStream_` ends the process.
-/

namespace WeiRtcNative.H264.MediaSink

open Machine
set_option autoImplicit false

universe u
variable {α : Type u}

/-- The codes of the sink's own, and those of the calls it makes. -/
inductive Result where
  | of (hr : HResult)
  | invalidArg
  | streamSinkExists
  | invalidIndex
  | invalidStreamNumber
  deriving DecidableEq, Repr

def Result.failed : Result → Bool
  | .of hr => hr.failed
  | _ => true

structure Stream (α : Type u) where
  number : Nat
  identifier : UInt32
  sink : StreamSink α
  deriving DecidableEq, Repr

structure State (α : Type u) where
  isShutdown : Bool
  outputStream : Option (Stream α)
  created : Nat
  crashed : Bool
  deriving DecidableEq, Repr

def create : State α := ⟨false, none, 0, false⟩

/-- Which stream sink `outputStream_` points to. -/
def State.slot (s : State α) : Option Nat := s.outputStream.map Stream.number

def checkShutdown (s : State α) : HResult := if s.isShutdown then .shutdown else .ok

def crash (s : State α) : State α × Option Result := ({s with crashed := true}, none)

/-- `make` is the answer of `MakeAndInitialize`, `answers` those of the calls in
`SetCurrentMediaType`; the type may be null. -/
def addStreamSink (s : State α) (identifier : UInt32) (type : Option MediaType) (make : HResult)
    (answers : StreamSink.SetTypeAnswers) : State α × Option Result :=
  let hr : Result := if s.outputStream.isSome then .streamSinkExists else .of (checkShutdown s)
  if hr.failed then (s, some hr)
  else if make.failed then (s, some (.of make))
  else
    let stream : Stream α := ⟨s.created, identifier, StreamSink.create⟩
    let s := {s with created := s.created + 1}
    match type with
    | none => ({s with outputStream := some stream}, some (.of .ok))
    | some t =>
      let (sink, hr) := stream.sink.setCurrentMediaType t answers
      ({s with outputStream := some {stream with sink := sink}}, some (.of hr))

/-- `GetIdentifier` of the stream sink gives `identifier`. -/
def Stream.hasIdentifier (stream : Stream α) (identifier : UInt32) : Bool :=
  !stream.sink.checkShutdown.failed && stream.identifier == identifier

/-- The stream sink is let go on every path. -/
def removeStreamSink (s : State α) (identifier : UInt32) : State α × Option Result :=
  let hr : Result :=
    if (checkShutdown s).failed then .of (checkShutdown s)
    else
      match s.outputStream with
      | none => .invalidArg
      | some stream => if stream.hasIdentifier identifier then .of .ok else .invalidArg
  ({s with outputStream := none}, some hr)

/-- `out` says whether there is a place for the result. -/
def getStreamSinkByIndex (s : State α) (index : UInt32) (out : Bool) : State α × Option Result :=
  if !out then (s, some .invalidArg)
  else if 1 ≤ index then (s, some .invalidIndex)
  else if (checkShutdown s).failed then (s, some (.of (checkShutdown s)))
  else
    match s.outputStream with
    | none => crash s
    | some _ => (s, some (.of .ok))

def getStreamSinkById (s : State α) (identifier : UInt32) (out : Bool) :
    State α × Option Result :=
  if !out then (s, some .invalidArg)
  else if (checkShutdown s).failed then (s, some (.of (checkShutdown s)))
  else
    match s.outputStream with
    | none => (s, some .invalidStreamNumber)
    | some stream =>
      (s, some (if stream.hasIdentifier identifier then .of .ok else .invalidStreamNumber))

def shutdown (s : State α) : State α × Option Result :=
  if !(checkShutdown s).failed && s.outputStream.isSome then
    ({s with outputStream := none, isShutdown := true}, some (.of .ok))
  else (s, some (.of .ok))

/-- `OnClockStart` and `OnClockStop`, which pass the call on. -/
def onClock (s : State α) (f : StreamSink α → StreamSink α × HResult) : State α × Option Result :=
  if (checkShutdown s).failed then (s, some (.of (checkShutdown s)))
  else
    match s.outputStream with
    | none => crash s
    | some stream =>
      let (sink, hr) := f stream.sink
      ({s with outputStream := some {stream with sink := sink}}, some (.of hr))

def onClockStart (s : State α) (put : HResult) : State α × Option Result :=
  onClock s fun sink => sink.start put

def onClockStop (s : State α) (put : HResult) : State α × Option Result :=
  onClock s fun sink => sink.stop put

def registerEncodingCallback (s : State α) : State α × Option Result :=
  match s.outputStream with
  | none => crash s
  | some stream =>
    ({s with outputStream := some {stream with sink := stream.sink.registerEncodingCallback}},
      some (.of .ok))

inductive Call where
  | addStreamSink (identifier : UInt32) (type : Option MediaType) (make : HResult)
    (answers : StreamSink.SetTypeAnswers)
  | removeStreamSink (identifier : UInt32)
  | getStreamSinkByIndex (index : UInt32) (out : Bool)
  | getStreamSinkById (identifier : UInt32) (out : Bool)
  | onClockStart (put : HResult)
  | onClockStop (put : HResult)
  | registerEncodingCallback
  | shutdown
  deriving DecidableEq, Repr

def call (s : State α) : Call → State α × Option Result
  | .addStreamSink identifier type make answers => addStreamSink s identifier type make answers
  | .removeStreamSink identifier => removeStreamSink s identifier
  | .getStreamSinkByIndex index out => getStreamSinkByIndex s index out
  | .getStreamSinkById identifier out => getStreamSinkById s identifier out
  | .onClockStart put => onClockStart s put
  | .onClockStop put => onClockStop s put
  | .registerEncodingCallback => registerEncodingCallback s
  | .shutdown => shutdown s

/-- A call with the states around it; `code` is absent when it went through a null pointer. -/
structure Entry (α : Type u) where
  call : Call
  before : State α
  after : State α
  code : Option Result
  deriving DecidableEq, Repr

def step (s : State α) (c : Call) : State α × List (Entry α) :=
  if s.crashed then (s, []) else ((call s c).1, [⟨c, s, (call s c).1, (call s c).2⟩])

def shutDown (log : List (Entry α)) : Bool := log.any fun e => e.call = .shutdown

def Call.needsStream : Call → Bool
  | .addStreamSink _ _ _ _ | .shutdown => false
  | _ => true

/-- The calls that come to `CheckShutdown`. `Shutdown` itself does, but never returns its result;
`again` says whether it is counted. -/
def Call.checks (again : Bool) : Call → Bool
  | .addStreamSink _ _ _ _ | .removeStreamSink _ | .onClockStart _ | .onClockStop _ => true
  | .getStreamSinkByIndex index out => out && !(1 ≤ index)
  | .getStreamSinkById _ out => out
  | .registerEncodingCallback => false
  | .shutdown => again

structure Sound (again : Bool) (log : List (Entry α)) (e : Entry α) : Prop where
  failure : ∀ r, e.code = some r → r.failed = true →
    e.after.slot = e.before.slot ∧ e.after.isShutdown = e.before.isShutdown
  absent : e.call.needsStream = true → e.before.outputStream = none →
    ∃ r, e.code = some r ∧ r.failed = true
  down : shutDown log = true → e.call.checks again = true → e.code = some (.of .shutdown)

/-- A new stream sink takes the media type. -/
def Takes (type : Option MediaType) (answers : StreamSink.SetTypeAnswers) : Prop :=
  ∀ t, type = some t →
    answers.createMediaType = .ok ∧ answers.copyAllItems = .ok ∧ t.subtype.isSome = true

/-- What a call has to find in a sink that is not shut down. -/
def Meets (s : State α) : Call → Prop
  | .addStreamSink _ type make answers =>
    s.outputStream = none → make = .ok → Takes type answers
  | .removeStreamSink identifier => ∀ stream, s.outputStream = some stream →
    stream.identifier = identifier
  | .getStreamSinkByIndex index out => out = true → index = 0 → s.outputStream.isSome = true
  | .onClockStart _ | .onClockStop _ => s.outputStream.isSome = true
  | .getStreamSinkById _ _ | .registerEncodingCallback | .shutdown => True

/-- The answer of Media Foundation that a call on a sink that is not shut down returns. -/
def passesOn (s : State α) : Call → Option HResult
  | .addStreamSink _ _ make _ => if s.outputStream.isSome then none else some make
  | .onClockStart put | .onClockStop put => s.outputStream.bind fun stream =>
    if stream.sink.state = .typeNotSet then none else some put
  | _ => none

/-- A `Shutdown` came while a stream sink was present. -/
def shutWithStream (log : List (Entry α)) : Bool :=
  log.any fun e => e.call = .shutdown && e.before.outputStream.isSome

/-- The code that stands for a sink that is shut down, where `shut` says whether there was something
to shut down. -/
def Refuses (shut : Bool) (s : State α) (c : Call) : Prop :=
  shut = true ∧ c ≠ .shutdown ∨ shut = false ∧ passesOn s c = some .shutdown

/-- The call meets what it relies on, the callback is registered with a stream sink, and after a
`Shutdown` the call is refused as `shut` says. -/
structure AdmitsAs (again shut : Bool) (log : List (Entry α)) (s : State α) (c : Call) : Prop where
  meets : shut = false → Meets s c
  registers : c = .registerEncodingCallback → s.outputStream.isSome = true
  down : shutDown log = true → c.checks again = true → Refuses shut s c

/-- Whether the sink was shut down is read off the calls: a `Shutdown` counts when it came while a
stream sink was present. -/
def Admits (again : Bool) (log : List (Entry α)) (s : State α) (c : Call) : Prop :=
  AdmitsAs again (shutWithStream log) log s c

/-- A sink that is shut down has no stream sink, and its stream sink is not shut down on its own. -/
structure Inv (s : State α) : Prop where
  up : s.crashed = false
  emptied : s.isShutdown = true → s.outputStream = none
  alive : ∀ stream, s.outputStream = some stream → stream.sink.isShutdown = false

section Exact
variable {again : Bool} {log : List (Entry α)} {s t : State α} {c : Call}

/-- A call that returns and breaks neither of the first two laws, where all it relies on is met: the
law about `Shutdown` is left. -/
theorem returned_iff {r : Result}
    (hfailure : r.failed = true → t.slot = s.slot ∧ t.isShutdown = s.isShutdown)
    (habsent : c.needsStream = true → s.outputStream = none → r.failed = true)
    (hmeets : s.isShutdown = false → Meets s c)
    (hregisters : c = .registerEncodingCallback → s.outputStream.isSome = true)
    (hcode : c.checks again = true → (r = .of .shutdown ↔ Refuses s.isShutdown s c)) :
    Sound again log ⟨c, s, t, some r⟩ ↔ AdmitsAs again s.isShutdown log s c := by
  constructor
  · intro h
    refine ⟨hmeets, hregisters, ?_⟩
    intro hlog hchecks
    exact (hcode hchecks).mp (Option.some.inj (h.down hlog hchecks))
  · intro h
    refine ⟨?_, ?_, ?_⟩
    · rintro r' hr' hfailed
      obtain rfl := Option.some.inj hr'
      exact hfailure hfailed
    · intro hneeds hnone
      exact ⟨r, rfl, habsent hneeds hnone⟩
    · intro hlog hchecks
      rw [(hcode hchecks).mpr (h.down hlog hchecks)]

theorem not_sound_crashed (hneeds : c.needsStream = true) (hnone : s.outputStream = none) :
    ¬ Sound again log ⟨c, s, t, none⟩ := by
  intro h
  obtain ⟨r, hr, -⟩ := h.absent hneeds hnone
  cases hr

theorem not_sound_changed {r : Result} (hr : r.failed = true) (hslot : t.slot ≠ s.slot) :
    ¬ Sound again log ⟨c, s, t, some r⟩ := by
  intro h
  exact hslot (h.failure r rfl hr).1

theorem setCurrentMediaType_create (type : MediaType) (answers : StreamSink.SetTypeAnswers) :
    ((StreamSink.create : StreamSink α).setCurrentMediaType type answers).2 = .ok ↔
      Takes (some type) answers := by
  unfold StreamSink.setCurrentMediaType
  cases hcreate : answers.createMediaType <;> cases hcopy : answers.copyAllItems <;>
    cases htype : type.subtype <;>
      simp [StreamSink.create, StreamSink.checkShutdown, StreamSink.validateOperation,
        StreamSink.validStateMatrix, HResult.andThen, Takes, hcreate, hcopy, htype]

theorem checkShutdown_up (hup : s.isShutdown = false) : checkShutdown s = .ok := by
  simp [checkShutdown, hup]

theorem checkShutdown_down (hdown : s.isShutdown = true) : checkShutdown s = .shutdown := by
  simp [checkShutdown, hdown]

/-- A sink that is shut down refuses what it checks, and changes nothing. -/
theorem call_down (h : Inv s) (hdown : s.isShutdown = true)
    (hc : c ≠ .registerEncodingCallback ∧ c ≠ .shutdown) :
    ∃ r, call s c = (s, some r) ∧ r.failed = true ∧
      (c.checks again = true → r = .of .shutdown) := by
  have hnone := h.emptied hdown
  have hcheck := checkShutdown_down hdown
  cases c with
  | addStreamSink identifier type make answers =>
    exact ⟨.of .shutdown, by simp [call, addStreamSink, hnone, hcheck, Result.failed], rfl,
      fun _ => rfl⟩
  | removeStreamSink identifier =>
    refine ⟨.of .shutdown, ?_, rfl, fun _ => rfl⟩
    simp only [call, removeStreamSink, hcheck, HResult.failed_eq_true, ne_eq, reduceCtorEq,
      not_false_eq_true, if_true, ← hnone]
  | getStreamSinkByIndex index out =>
    cases out with
    | false => exact ⟨.invalidArg, rfl, rfl, by simp [Call.checks]⟩
    | true =>
      by_cases hindex : 1 ≤ index
      · exact ⟨.invalidIndex, by simp [call, getStreamSinkByIndex, hindex], rfl,
          by simp [Call.checks, hindex]⟩
      · exact ⟨.of .shutdown, by simp [call, getStreamSinkByIndex, hindex, hcheck], rfl,
          fun _ => rfl⟩
  | getStreamSinkById identifier out =>
    cases out with
    | false => exact ⟨.invalidArg, rfl, rfl, by simp [Call.checks]⟩
    | true =>
      exact ⟨.of .shutdown, by simp [call, getStreamSinkById, hcheck], rfl, fun _ => rfl⟩
  | onClockStart put =>
    exact ⟨.of .shutdown, by simp [call, onClockStart, onClock, hcheck], rfl, fun _ => rfl⟩
  | onClockStop put =>
    exact ⟨.of .shutdown, by simp [call, onClockStop, onClock, hcheck], rfl, fun _ => rfl⟩
  | registerEncodingCallback => exact absurd rfl hc.1
  | shutdown => exact absurd rfl hc.2

/-- `Shutdown` succeeds whatever it finds, so it counts as a refusal of nothing. -/
theorem shutdown_sound_iff :
    Sound again log ⟨.shutdown, s, (call s .shutdown).1, (call s .shutdown).2⟩ ↔
      AdmitsAs again s.isShutdown log s .shutdown := by
  have hcode : (call s .shutdown).2 = some (.of .ok) := by
    simp only [call, shutdown]
    split <;> rfl
  rw [hcode]
  exact returned_iff (by simp [Result.failed]) (by simp [Call.needsStream]) (fun _ => trivial)
    (by simp) (by simp [Refuses, passesOn])

theorem registerEncodingCallback_sound_iff :
    Sound again log ⟨.registerEncodingCallback, s, (call s .registerEncodingCallback).1,
        (call s .registerEncodingCallback).2⟩ ↔
      AdmitsAs again s.isShutdown log s .registerEncodingCallback := by
  simp only [call, registerEncodingCallback]
  cases hstream : s.outputStream with
  | none =>
    refine iff_of_false (not_sound_crashed rfl hstream) ?_
    intro h
    have hsome := h.registers rfl
    rw [hstream] at hsome
    cases hsome
  | some stream =>
    exact returned_iff (by simp [Result.failed]) (by simp [hstream]) (fun _ => trivial)
      (by simp [hstream]) (by simp [Call.checks])

theorem down_sound_iff (h : Inv s) (hdown : s.isShutdown = true) (c : Call) :
    Sound again log ⟨c, s, (call s c).1, (call s c).2⟩ ↔ AdmitsAs again s.isShutdown log s c := by
  by_cases hregister : c = .registerEncodingCallback
  · rw [hregister]
    exact registerEncodingCallback_sound_iff
  · by_cases hshutdown : c = .shutdown
    · rw [hshutdown]
      exact shutdown_sound_iff
    · obtain ⟨r, hcall, hfailed, hchecks⟩ := call_down h hdown
        ⟨hregister, hshutdown⟩
      rw [hcall]
      refine returned_iff (fun _ => ⟨rfl, rfl⟩) (fun _ _ => hfailed) (by simp [hdown])
        (fun hc => absurd hc hregister) ?_
      intro hc
      exact iff_of_true (hchecks hc) (.inl ⟨hdown, hshutdown⟩)

section Up
variable (hup : s.isShutdown = false)
include hup

/-- On a sink that is not shut down only Media Foundation can say that it is. -/
theorem refuses_up : Refuses s.isShutdown s c ↔ passesOn s c = some .shutdown := by
  simp [Refuses, hup]

/-- A stream sink is made. A type that it does not take is reported, and it stays. -/
theorem addStreamSink_made_iff (identifier : UInt32) (type : Option MediaType)
    (answers : StreamSink.SetTypeAnswers) (hstream : s.outputStream = none) :
    Sound again log ⟨.addStreamSink identifier type .ok answers, s,
        (addStreamSink s identifier type .ok answers).1,
        (addStreamSink s identifier type .ok answers).2⟩ ↔
      AdmitsAs again s.isShutdown log s (.addStreamSink identifier type .ok answers) := by
  have hcheck := checkShutdown_up hup
  have hpasses : passesOn s (.addStreamSink identifier type .ok answers) = some .ok := by
    simp [passesOn, hstream]
  cases type with
  | none =>
    have hcode : (addStreamSink s identifier none .ok answers).2 = some (.of .ok) := by
      simp [addStreamSink, hstream, hcheck, Result.failed]
    rw [hcode]
    exact returned_iff (by simp [Result.failed]) (by simp [Call.needsStream])
      (by simp [Meets, Takes]) (by simp) (by simp [refuses_up hup, hpasses])
  | some type =>
    have hcode : (addStreamSink s identifier (some type) .ok answers).2 =
        some (.of (StreamSink.create.setCurrentMediaType (α := α) type answers).2) := by
      simp [addStreamSink, hstream, hcheck, Result.failed]
    rw [hcode]
    by_cases htakes : Takes (some type) answers
    · rw [(setCurrentMediaType_create type answers).mpr htakes]
      exact returned_iff (by simp [Result.failed]) (by simp [Call.needsStream])
        (fun _ _ _ => htakes) (by simp) (by simp [refuses_up hup, hpasses])
    · have hfailed := mt (setCurrentMediaType_create (α := α) type answers).mp htakes
      have hslot : (addStreamSink s identifier (some type) .ok answers).1.slot =
          some s.created := by
        simp [addStreamSink, hstream, hcheck, Result.failed, State.slot]
      refine iff_of_false (not_sound_changed ?_ ?_) ?_
      · simpa [Result.failed] using hfailed
      · rw [hslot]
        simp [State.slot, hstream]
      · intro hadmits
        exact htakes (hadmits.meets hup hstream rfl)

theorem addStreamSink_sound_iff (identifier : UInt32) (type : Option MediaType) (make : HResult)
    (answers : StreamSink.SetTypeAnswers) :
    Sound again log ⟨.addStreamSink identifier type make answers, s,
        (addStreamSink s identifier type make answers).1,
        (addStreamSink s identifier type make answers).2⟩ ↔
      AdmitsAs again s.isShutdown log s (.addStreamSink identifier type make answers) := by
  have hcheck := checkShutdown_up hup
  cases hstream : s.outputStream with
  | some stream =>
    have hvalue : addStreamSink s identifier type make answers = (s, some .streamSinkExists) := by
      simp [addStreamSink, hstream, Result.failed]
    rw [hvalue]
    exact returned_iff (fun _ => ⟨rfl, rfl⟩) (by simp [Call.needsStream])
      (by simp [Meets, hstream]) (by simp) (by simp [refuses_up hup, passesOn, hstream])
  | none =>
    by_cases hmake : make = .ok
    · rw [hmake]
      exact addStreamSink_made_iff hup identifier type answers hstream
    · have hvalue : addStreamSink s identifier type make answers = (s, some (.of make)) := by
        simp [addStreamSink, hstream, hcheck, hmake, Result.failed]
      rw [hvalue]
      exact returned_iff (fun _ => ⟨rfl, rfl⟩) (by simp [Call.needsStream])
        (by simp [Meets, hmake]) (by simp) (by simp [refuses_up hup, passesOn, hstream])

theorem removeStreamSink_sound_iff (h : Inv s) (identifier : UInt32) :
    Sound again log ⟨.removeStreamSink identifier, s, (removeStreamSink s identifier).1,
        (removeStreamSink s identifier).2⟩ ↔
      AdmitsAs again s.isShutdown log s (.removeStreamSink identifier) := by
  have hcheck := checkShutdown_up hup
  simp only [removeStreamSink, hcheck, HResult.failed_eq_true, ne_eq, not_true_eq_false, if_false]
  cases hstream : s.outputStream with
  | none =>
    exact returned_iff (fun _ => ⟨by simp [State.slot, hstream], rfl⟩) (fun _ _ => rfl)
      (by simp [Meets, hstream]) (by simp) (by simp [refuses_up hup, passesOn])
  | some stream =>
    have hidentifier : stream.hasIdentifier identifier = (stream.identifier == identifier) := by
      simp [Stream.hasIdentifier, StreamSink.checkShutdown, h.alive stream hstream]
    dsimp only
    rw [hidentifier]
    by_cases hsame : stream.identifier = identifier
    · simp only [hsame, beq_self_eq_true, if_true]
      exact returned_iff (by simp [Result.failed]) (by simp [hstream])
        (by simp [Meets, hstream, hsame]) (by simp) (by simp [refuses_up hup, passesOn])
    · -- the wrong stream sink is let go all the same
      simp only [beq_iff_eq, hsame, if_false]
      refine iff_of_false (not_sound_changed rfl (by simp [State.slot, hstream])) ?_
      intro hadmits
      exact hsame (hadmits.meets hup stream hstream)

theorem getStreamSinkByIndex_sound_iff (index : UInt32) (out : Bool) :
    Sound again log ⟨.getStreamSinkByIndex index out, s, (getStreamSinkByIndex s index out).1,
        (getStreamSinkByIndex s index out).2⟩ ↔
      AdmitsAs again s.isShutdown log s (.getStreamSinkByIndex index out) := by
  have hcheck := checkShutdown_up hup
  cases out with
  | false =>
    exact returned_iff (fun _ => ⟨rfl, rfl⟩) (fun _ _ => rfl) (by simp [Meets]) (by simp)
      (by simp [Call.checks])
  | true =>
    by_cases hindex : 1 ≤ index
    · simp only [getStreamSinkByIndex, hindex, Bool.not_true, Bool.false_eq_true, if_false, if_true]
      refine returned_iff (fun _ => ⟨rfl, rfl⟩) (fun _ _ => rfl) ?_ (by simp)
        (by simp [Call.checks, hindex])
      rintro - - rfl
      exact absurd hindex (by decide)
    · simp only [getStreamSinkByIndex, hindex, hcheck, HResult.failed_eq_true, ne_eq,
        not_true_eq_false, Bool.not_true, Bool.false_eq_true, if_false]
      cases hstream : s.outputStream with
      | none =>
        have hzero : index = 0 := by
          apply UInt32.toNat_inj.mp
          rw [UInt32.le_iff_toNat_le] at hindex
          simpa using hindex
        refine iff_of_false (not_sound_crashed rfl hstream) ?_
        intro hadmits
        have hsome := hadmits.meets hup rfl hzero
        rw [hstream] at hsome
        cases hsome
      | some stream =>
        exact returned_iff (by simp [Result.failed]) (by simp [hstream])
          (by simp [Meets, hstream]) (by simp) (by simp [refuses_up hup, passesOn])

theorem getStreamSinkById_sound_iff (identifier : UInt32) (out : Bool) :
    Sound again log ⟨.getStreamSinkById identifier out, s, (getStreamSinkById s identifier out).1,
        (getStreamSinkById s identifier out).2⟩ ↔
      AdmitsAs again s.isShutdown log s (.getStreamSinkById identifier out) := by
  have hcheck := checkShutdown_up hup
  cases out with
  | false =>
    exact returned_iff (fun _ => ⟨rfl, rfl⟩) (fun _ _ => rfl) (by simp [Meets]) (by simp)
      (by simp [Call.checks])
  | true =>
    simp only [getStreamSinkById, hcheck, HResult.failed_eq_true, ne_eq, not_true_eq_false,
      Bool.not_true, Bool.false_eq_true, if_false]
    cases hstream : s.outputStream with
    | none =>
      exact returned_iff (fun _ => ⟨rfl, rfl⟩) (fun _ _ => rfl) (by simp [Meets]) (by simp)
        (by simp [refuses_up hup, passesOn])
    | some stream =>
      refine returned_iff (fun _ => ⟨rfl, rfl⟩) (by simp [hstream]) (by simp [Meets]) (by simp) ?_
      split <;> simp [refuses_up hup, passesOn]

/-- `OnClockStart` and `OnClockStop`, where `f` answers with the result of its put. -/
theorem onClock_sound_iff {f : StreamSink α → StreamSink α × HResult}
    (hneeds : c.needsStream = true) (hmeets : Meets s c ↔ s.outputStream.isSome = true)
    (hc : c ≠ .registerEncodingCallback)
    (hf : ∀ stream, s.outputStream = some stream →
      ((f stream.sink).2 = .shutdown ↔ passesOn s c = some .shutdown)) :
    Sound again log ⟨c, s, (onClock s f).1, (onClock s f).2⟩ ↔
      AdmitsAs again s.isShutdown log s c := by
  have hcheck := checkShutdown_up hup
  simp only [onClock, hcheck, HResult.failed_eq_true, ne_eq, not_true_eq_false, if_false]
  cases hstream : s.outputStream with
  | none =>
    refine iff_of_false (not_sound_crashed hneeds hstream) ?_
    intro hadmits
    have hsome := hmeets.mp (hadmits.meets hup)
    rw [hstream] at hsome
    cases hsome
  | some stream =>
    refine returned_iff (fun _ => ⟨by simp [State.slot, hstream], rfl⟩) (by simp [hstream])
      (fun _ => hmeets.mpr (by simp [hstream])) (fun h => absurd h hc) ?_
    intro _
    rw [refuses_up hup, ← hf stream hstream]
    simp

omit hup in
theorem changeState_shutdown (sink : StreamSink α) {op : StreamOperation}
    (target : StreamSinkState) (put : HResult) (hop : op = .start ∨ op = .stop) :
    (sink.changeState op target put).2 = .shutdown ↔
      sink.state ≠ .typeNotSet ∧ put = .shutdown := by
  unfold StreamSink.changeState StreamSink.validateOperation StreamSink.queueAsyncOperation
  rcases hop with rfl | rfl <;> cases hstate : sink.state <;> cases put <;>
    simp [StreamSink.validStateMatrix, HResult.failed]

theorem up_sound_iff (h : Inv s) (c : Call) :
    Sound again log ⟨c, s, (call s c).1, (call s c).2⟩ ↔ AdmitsAs again s.isShutdown log s c := by
  cases c with
  | addStreamSink identifier type make answers =>
    exact addStreamSink_sound_iff hup identifier type make answers
  | removeStreamSink identifier => exact removeStreamSink_sound_iff hup h identifier
  | getStreamSinkByIndex index out => exact getStreamSinkByIndex_sound_iff hup index out
  | getStreamSinkById identifier out => exact getStreamSinkById_sound_iff hup identifier out
  | onClockStart put =>
    refine onClock_sound_iff hup rfl Iff.rfl (by simp) ?_
    intro stream hstream
    have hput := changeState_shutdown stream.sink .started put (.inl rfl)
    simpa [passesOn, hstream, StreamSink.start] using hput
  | onClockStop put =>
    refine onClock_sound_iff hup rfl Iff.rfl (by simp) ?_
    intro stream hstream
    have hput := changeState_shutdown stream.sink .stopped put (.inr rfl)
    simpa [passesOn, hstream, StreamSink.stop] using hput
  | registerEncodingCallback => exact registerEncodingCallback_sound_iff
  | shutdown => exact shutdown_sound_iff

end Up

theorem call_sound_iff (h : Inv s) (c : Call) :
    Sound again log ⟨c, s, (call s c).1, (call s c).2⟩ ↔ AdmitsAs again s.isShutdown log s c := by
  by_cases hs : s.isShutdown = true
  · exact down_sound_iff h hs c
  · exact up_sound_iff (Bool.eq_false_iff.mpr hs) h c

end Exact

section Kept
variable {again : Bool} {log : List (Entry α)} {s : State α}

/-- A sink that is not shut down may hold any stream sink that is not. -/
theorem inv_of_stream (stream : Stream α) (created : Nat)
    (halive : stream.sink.isShutdown = false) : Inv ⟨false, some stream, created, false⟩ := by
  refine ⟨rfl, by simp, ?_⟩
  intro stream' hstream'
  obtain rfl := Option.some.inj hstream'
  exact halive

theorem inv_of_none (isShutdown : Bool) (created : Nat) :
    Inv (⟨isShutdown, none, created, false⟩ : State α) :=
  ⟨rfl, fun _ => rfl, by simp⟩

theorem addStreamSink_inv (h : Inv s) (identifier : UInt32) (type : Option MediaType)
    (make : HResult) (answers : StreamSink.SetTypeAnswers) :
    Inv (addStreamSink s identifier type make answers).1 := by
  cases hstream : s.outputStream with
  | some stream => simpa [addStreamSink, hstream, Result.failed] using h
  | none =>
    cases hs : s.isShutdown with
    | true => simpa [addStreamSink, hstream, checkShutdown, hs, Result.failed] using h
    | false =>
      by_cases hmake : make = .ok
      · cases type with
        | none =>
          simp only [addStreamSink, hstream, checkShutdown, hs, hmake, Result.failed, h.up]
          exact inv_of_stream ⟨s.created, identifier, StreamSink.create⟩ _ rfl
        | some type =>
          simp only [addStreamSink, hstream, checkShutdown, hs, hmake, Result.failed, h.up]
          exact inv_of_stream ⟨s.created, identifier, _⟩ _
            (StreamSink.create.setCurrentMediaType_isShutdown type answers)
      · simpa [addStreamSink, hstream, checkShutdown, hs, hmake, Result.failed] using h

theorem onClock_inv (h : Inv s) {f : StreamSink α → StreamSink α × HResult}
    (hf : ∀ sink, (f sink).1.isShutdown = sink.isShutdown)
    (hstream : s.isShutdown = false → s.outputStream.isSome = true) : Inv (onClock s f).1 := by
  unfold onClock
  cases hs : s.isShutdown with
  | true =>
    rw [checkShutdown_down hs]
    exact h
  | false =>
    obtain ⟨stream, hsome⟩ := Option.isSome_iff_exists.mp (hstream hs)
    have halive := (hf stream.sink).trans (h.alive stream hsome)
    simp only [checkShutdown_up hs, HResult.failed_eq_true, ne_eq, not_true_eq_false, if_false, hsome,
      h.up]
    exact inv_of_stream _ _ halive

theorem getStreamSinkByIndex_inv (h : Inv s) {index : UInt32} {out : Bool}
    (hmeets : s.isShutdown = false → Meets s (.getStreamSinkByIndex index out)) :
    Inv (getStreamSinkByIndex s index out).1 := by
  unfold getStreamSinkByIndex
  split
  · exact h
  · rename_i hout
    split
    · exact h
    · rename_i hindex
      split
      · exact h
      · rename_i hcheck
        have hup : s.isShutdown = false := by
          cases hs : s.isShutdown with
          | false => rfl
          | true => simp [checkShutdown, hs] at hcheck
        have hzero : index = 0 := by
          apply UInt32.toNat_inj.mp
          rw [UInt32.le_iff_toNat_le] at hindex
          simpa using hindex
        obtain ⟨stream, hsome⟩ := Option.isSome_iff_exists.mp (hmeets hup (by simpa using hout) hzero)
        rw [hsome]
        exact h

theorem call_inv (h : Inv s) {c : Call} (hc : AdmitsAs again s.isShutdown log s c) :
    Inv (call s c).1 := by
  cases c with
  | addStreamSink identifier type make answers =>
    exact addStreamSink_inv h identifier type make answers
  | removeStreamSink identifier =>
    simp only [call, removeStreamSink, h.up]
    exact inv_of_none _ _
  | getStreamSinkByIndex index out => exact getStreamSinkByIndex_inv h hc.meets
  | getStreamSinkById identifier out =>
    simp only [call, getStreamSinkById]
    repeat' split
    all_goals exact h
  | onClockStart put => exact onClock_inv h (fun sink => sink.changeState_isShutdown _ _ _) hc.meets
  | onClockStop put => exact onClock_inv h (fun sink => sink.changeState_isShutdown _ _ _) hc.meets
  | registerEncodingCallback =>
    obtain ⟨stream, hsome⟩ := Option.isSome_iff_exists.mp (hc.registers rfl)
    have hup : s.isShutdown = false := by
      cases hs : s.isShutdown with
      | false => rfl
      | true =>
        have hnone := h.emptied hs
        rw [hsome] at hnone
        cases hnone
    simp only [call, registerEncodingCallback, hsome, hup, h.up]
    exact inv_of_stream _ _ (h.alive stream hsome)
  | shutdown =>
    simp only [call, shutdown]
    split
    · rw [h.up]
      exact inv_of_none _ _
    · exact h

theorem step_entry (h : Inv s) (c : Call) :
    step s c = ((call s c).1, [⟨c, s, (call s c).1, (call s c).2⟩]) := by
  simp [step, h.up]

theorem onClock_isShutdown (s : State α) (f : StreamSink α → StreamSink α × HResult) :
    (onClock s f).1.isShutdown = s.isShutdown := by
  unfold onClock crash
  repeat' split
  all_goals rfl

/-- Only a `Shutdown` that finds a stream sink sets `isShutdown_`, and no call clears it. -/
theorem call_isShutdown (s : State α) (c : Call) :
    (call s c).1.isShutdown =
      (s.isShutdown || (c = .shutdown && s.outputStream.isSome)) := by
  cases c with
  | addStreamSink identifier type make answers =>
    simp only [call, addStreamSink, reduceCtorEq, decide_false, Bool.false_and, Bool.or_false]
    repeat' split
    all_goals rfl
  | removeStreamSink identifier => simp [call, removeStreamSink]
  | getStreamSinkByIndex index out =>
    simp only [call, getStreamSinkByIndex, crash, reduceCtorEq, decide_false, Bool.false_and,
      Bool.or_false]
    repeat' split
    all_goals rfl
  | getStreamSinkById identifier out =>
    simp only [call, getStreamSinkById, reduceCtorEq, decide_false, Bool.false_and, Bool.or_false]
    repeat' split
    all_goals rfl
  | onClockStart put => simp [call, onClockStart, onClock_isShutdown]
  | onClockStop put => simp [call, onClockStop, onClock_isShutdown]
  | registerEncodingCallback =>
    simp only [call, registerEncodingCallback, crash, reduceCtorEq, decide_false, Bool.false_and,
      Bool.or_false]
    split <;> rfl
  | shutdown =>
    cases hs : s.isShutdown with
    | true => simp [call, shutdown, checkShutdown, hs]
    | false => cases hstream : s.outputStream <;> simp [call, shutdown, checkShutdown, hs, hstream]

/-- `isShutdown_` says whether a `Shutdown` found a stream sink. -/
theorem step_shutWithStream (h : Inv s) (hshut : s.isShutdown = shutWithStream log) (c : Call) :
    (step s c).1.isShutdown = shutWithStream (log ++ (step s c).2) := by
  rw [step_entry h c]
  dsimp only
  rw [call_isShutdown s c, hshut]
  simp [shutWithStream]

end Kept

/-- In a run the sink is a faithful container just when every call finds what it relies on: a
stream sink for the calls that go through it, the right identifier for a removal, a media type that
is taken, and, after a `Shutdown`, one among them that came while a stream sink was present. -/
theorem container_sound_iff (again : Bool) (calls : List Call) :
    Justified (Sound again) (run step (create : State α) calls).2 ↔
      Along step (Admits again) [] (create : State α) calls := by
  apply justified_run_iff step
    (fun log (s : State α) => Inv s ∧ s.isShutdown = shutWithStream log) ?_ ?_
    ⟨inv_of_none false 0, rfl⟩
  · rintro log s c ⟨hinv, hshut⟩
    rw [step_entry hinv c, Admits, ← hshut]
    simpa using call_sound_iff hinv c
  · rintro log s c ⟨hinv, hshut⟩ hc
    refine ⟨?_, step_shutWithStream hinv hshut c⟩
    rw [Admits, ← hshut] at hc
    rw [step_entry hinv c]
    exact call_inv hinv hc

section Failures

def wrongRemoval : List Call :=
  [.addStreamSink 1 none .ok ⟨.ok, .ok, .ok⟩, .removeStreamSink 2]

def earlyStart : List Call := [.onClockStart .ok]

def addedAfterShutdown : List Call := [.shutdown, .addStreamSink 1 none .ok ⟨.ok, .ok, .ok⟩]

theorem container_laws_broken :
    ¬ Justified (Sound false) (run step (create : State Nat) wrongRemoval).2 ∧
      ¬ Justified (Sound false) (run step (create : State Nat) earlyStart).2 ∧
      ¬ Justified (Sound false) (run step (create : State Nat) addedAfterShutdown).2 := by
  refine ⟨?_, ?_, ?_⟩
  · intro h
    have hsound := h _ _ [] (List.append_cons [_] _ []).symm
    exact absurd (hsound.failure .invalidArg rfl rfl).1 (by decide)
  · intro h
    obtain ⟨r, hr, -⟩ := (h [] _ [] rfl).absent rfl rfl
    cases hr
  · intro h
    have hsound := h [_] _ [] rfl
    exact absurd (hsound.down rfl rfl) (by decide)

end Failures

end WeiRtcNative.H264.MediaSink
