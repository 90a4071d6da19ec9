import WeiRtcNative.H264.MediaFoundation

/-!
# H264StreamSink

The sink keeps the samples it was given in `sampleQueue_` and puts one operation per
call on a serial work queue. `onDispatchWorkItem` is the part of a work item that runs
under `critSec_`; it hands out at most one sample. What follows, the test of
`encodingCallback_` and the callback, runs under another lock and is a step of its own.
-/

namespace WeiRtcNative.H264

set_option autoImplicit false

universe u

inductive StreamSinkState where
  | typeNotSet
  | ready
  | started
  | stopped
  deriving DecidableEq, Repr

inductive StreamOperation where
  | setMediaType
  | start
  | stop
  | processSample
  | placeMarker
  deriving DecidableEq, Repr

/-- What `MF_MT_MAJOR_TYPE` holds; `absent` is a type without that item. -/
inductive MajorType where
  | absent
  | video
  | audio
  | other
  deriving DecidableEq, Repr

/-- A media type; `subtype` is absent when it has no `MF_MT_SUBTYPE`, and `attributes` are its
other items. -/
structure MediaType where
  majorType : MajorType
  subtype : Option Nat
  attributes : List (Nat × Nat)
  deriving DecidableEq, Repr

/-- What `MFCreateMediaType` makes. -/
def MediaType.empty : MediaType := ⟨.absent, none, []⟩

structure StreamSink (α : Type u) where
  state : StreamSinkState
  isShutdown : Bool
  currentType : Option MediaType
  currentSubtype : Nat
  sampleQueue : List α
  encodingCallback : Bool
  workItems : List StreamOperation
  deriving DecidableEq, Repr

namespace StreamSink

variable {α : Type u}

def create : StreamSink α := ⟨.typeNotSet, false, none, 0, [], false, []⟩

def checkShutdown (s : StreamSink α) : HResult := if s.isShutdown then .shutdown else .ok

def validStateMatrix : StreamSinkState → StreamOperation → Bool
  | .typeNotSet, .setMediaType => true
  | .typeNotSet, _ => false
  | .ready, .processSample => false
  | .stopped, .processSample => false
  | _, .placeMarker => false
  | _, _ => true

def validateOperation (s : StreamSink α) (op : StreamOperation) : HResult :=
  if validStateMatrix s.state op then .ok
  else if s.state = .typeNotSet then .notInitialized
  else .invalidRequest

/-- `put` is the answer of `MFPutWorkItem2`. -/
def queueAsyncOperation (s : StreamSink α) (op : StreamOperation) (put : HResult) :
    StreamSink α × HResult :=
  if put.failed then (s, put) else ({s with workItems := s.workItems ++ [op]}, .ok)

def processSample (s : StreamSink α) (sample : α) (put : HResult) : StreamSink α × HResult :=
  let hr := s.checkShutdown.andThen (s.validateOperation .processSample)
  if hr.failed then (s, hr)
  else queueAsyncOperation {s with sampleQueue := s.sampleQueue ++ [sample]} .processSample put

def placeMarker (s : StreamSink α) (put : HResult) : StreamSink α × HResult :=
  if s.checkShutdown.failed then (s, s.checkShutdown)
  else s.queueAsyncOperation .placeMarker put

def dropSamplesFromQueue (s : StreamSink α) : StreamSink α := {s with sampleQueue := []}

def flush (s : StreamSink α) : StreamSink α × HResult :=
  if s.checkShutdown.failed then (s, s.checkShutdown) else (s.dropSamplesFromQueue, .ok)

/-- `Start` and `Stop`, which do not look at `isShutdown_`. -/
def changeState (s : StreamSink α) (op : StreamOperation) (target : StreamSinkState)
    (put : HResult) : StreamSink α × HResult :=
  let hr := s.validateOperation op
  if hr.failed then (s, hr) else queueAsyncOperation {s with state := target} op put

def start (s : StreamSink α) (put : HResult) : StreamSink α × HResult :=
  s.changeState .start .started put

def stop (s : StreamSink α) (put : HResult) : StreamSink α × HResult :=
  s.changeState .stop .stopped put

def isMediaTypeSupported (s : StreamSink α) (type : MediaType) : HResult :=
  if s.checkShutdown.failed then s.checkShutdown
  else if type.majorType = .absent then .fail
  else if type.majorType = .other then .invalidType
  else if s.currentType.isSome ∧ type.subtype ≠ some s.currentSubtype then .invalidType
  else .ok

/-- The answers of `MFCreateMediaType`, `CopyAllItems` and the put of a format change. -/
structure SetTypeAnswers where
  createMediaType : HResult
  copyAllItems : HResult
  put : HResult
  deriving DecidableEq, Repr

def setCurrentMediaType (s : StreamSink α) (type : MediaType) (a : SetTypeAnswers) :
    StreamSink α × HResult :=
  let hr := s.checkShutdown.andThen (s.validateOperation .setMediaType)
  let hr := if s.state = .typeNotSet then hr else hr.andThen (s.isMediaTypeSupported type)
  if hr.failed then (s, hr)
  else if a.createMediaType.failed then ({s with currentType := none}, a.createMediaType)
  else if a.copyAllItems.failed then
    ({s with currentType := some .empty}, a.copyAllItems)
  else
    match type.subtype with
    | none => ({s with currentType := some type}, .fail)
    | some subtype =>
      let s := {s with currentType := some type, currentSubtype := subtype}
      match s.state with
      | .typeNotSet => ({s with state := .ready}, .ok)
      | .ready => (s, .ok)
      | _ => ((s.queueAsyncOperation .setMediaType a.put).1, .ok)

def shutdown (s : StreamSink α) : StreamSink α :=
  if s.isShutdown then s
  else {s with sampleQueue := [], currentType := none, encodingCallback := false, isShutdown := true}

def registerEncodingCallback (s : StreamSink α) : StreamSink α := {s with encodingCallback := true}

/-- `QueueEvent`, where `answer` is that of the event queue. -/
def queueEvent (s : StreamSink α) (answer : HResult) : HResult := s.checkShutdown.andThen answer

def processSamplesFromQueue (s : StreamSink α) : StreamSink α × Option α :=
  ({s with sampleQueue := s.sampleQueue.tail}, s.sampleQueue.head?)

def perform (s : StreamSink α) (op : StreamOperation) (event : HResult) : StreamSink α × Option α :=
  match op with
  | .start | .processSample =>
    if (s.queueEvent event).failed then (s, none) else s.processSamplesFromQueue
  | .stop => (s.dropSamplesFromQueue, none)
  | .placeMarker | .setMediaType => (s, none)

/-- The first work item; `none` when there is none. -/
def onDispatchWorkItem (s : StreamSink α) (event : HResult) : Option (StreamSink α × Option α) :=
  match s.workItems with
  | [] => none
  | op :: items => some (perform {s with workItems := items} op event)

theorem queueAsyncOperation_isShutdown (s : StreamSink α) (op : StreamOperation) (put : HResult) :
    (s.queueAsyncOperation op put).1.isShutdown = s.isShutdown := by
  unfold queueAsyncOperation
  split <;> rfl

theorem changeState_isShutdown (s : StreamSink α) (op : StreamOperation)
    (target : StreamSinkState) (put : HResult) :
    (s.changeState op target put).1.isShutdown = s.isShutdown := by
  unfold changeState
  dsimp only
  split
  · rfl
  · exact queueAsyncOperation_isShutdown _ op put

theorem setCurrentMediaType_isShutdown (s : StreamSink α) (type : MediaType)
    (a : SetTypeAnswers) : (s.setCurrentMediaType type a).1.isShutdown = s.isShutdown := by
  unfold setCurrentMediaType
  dsimp only
  repeat' split
  all_goals first | rfl | exact queueAsyncOperation_isShutdown _ .setMediaType a.put

theorem queueAsyncOperation_sampleQueue (s : StreamSink α) (op : StreamOperation) (put : HResult) :
    (s.queueAsyncOperation op put).1.sampleQueue = s.sampleQueue := by
  unfold queueAsyncOperation
  split <;> rfl

theorem changeState_sampleQueue (s : StreamSink α) (op : StreamOperation)
    (target : StreamSinkState) (put : HResult) :
    (s.changeState op target put).1.sampleQueue = s.sampleQueue := by
  unfold changeState
  dsimp only
  split
  · rfl
  · exact queueAsyncOperation_sampleQueue _ op put

theorem placeMarker_sampleQueue (s : StreamSink α) (put : HResult) :
    (s.placeMarker put).1.sampleQueue = s.sampleQueue := by
  unfold placeMarker
  split
  · rfl
  · exact queueAsyncOperation_sampleQueue s .placeMarker put

theorem setCurrentMediaType_sampleQueue (s : StreamSink α) (type : MediaType) (a : SetTypeAnswers) :
    (s.setCurrentMediaType type a).1.sampleQueue = s.sampleQueue := by
  unfold setCurrentMediaType
  dsimp only
  repeat' split
  all_goals first | rfl | exact queueAsyncOperation_sampleQueue _ .setMediaType a.put

def rejectsSample (s : StreamSink α) : Bool :=
  (s.checkShutdown.andThen (s.validateOperation .processSample)).failed

theorem processSample_sampleQueue (s : StreamSink α) (sample : α) (put : HResult) :
    (s.processSample sample put).1.sampleQueue =
      if s.rejectsSample then s.sampleQueue else s.sampleQueue ++ [sample] := by
  unfold processSample rejectsSample
  dsimp only
  split
  · rfl
  · exact queueAsyncOperation_sampleQueue _ .processSample put

theorem flush_sampleQueue (s : StreamSink α) :
    s.flush.1.sampleQueue = if s.isShutdown then s.sampleQueue else [] := by
  cases h : s.isShutdown <;> simp [flush, checkShutdown, HResult.failed, h, dropSamplesFromQueue]

theorem processSamplesFromQueue_split (s : StreamSink α) :
    s.sampleQueue = s.processSamplesFromQueue.2.toList ++ s.processSamplesFromQueue.1.sampleQueue := by
  unfold processSamplesFromQueue
  cases s.sampleQueue <;> simp

/-- A work item takes the first sample or none, and drops all of them when it is a stop. -/
theorem perform_cases (s : StreamSink α) (op : StreamOperation) (event : HResult) :
    s.sampleQueue = (s.perform op event).2.toList ++ (s.perform op event).1.sampleQueue ∨
      op = .stop ∧ (s.perform op event).2 = none ∧ (s.perform op event).1.sampleQueue = [] := by
  cases op with
  | start | processSample =>
    left
    simp only [perform]
    split
    · simp
    · exact processSamplesFromQueue_split s
  | stop => exact .inr ⟨rfl, rfl, rfl⟩
  | placeMarker | setMediaType => exact .inl (by simp [perform])

theorem onDispatchWorkItem_cases {s t : StreamSink α} {event : HResult} {sample : Option α}
    (h : s.onDispatchWorkItem event = some (t, sample)) :
    s.sampleQueue = sample.toList ++ t.sampleQueue ∨
      s.workItems.head? = some .stop ∧ sample = none ∧ t.sampleQueue = [] := by
  unfold onDispatchWorkItem at h
  split at h
  · exact absurd h (by simp)
  · rename_i op items hitems
    have hcases := perform_cases {s with workItems := items} op event
    rw [Option.some.inj h] at hcases
    rcases hcases with hkept | ⟨rfl, hnone, hempty⟩
    · exact .inl hkept
    · exact .inr ⟨by simp [hitems], hnone, hempty⟩

end StreamSink

end WeiRtcNative.H264
