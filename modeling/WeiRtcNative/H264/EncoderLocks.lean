import Mathlib.Data.Fintype.Order
import Mathlib.Order.Fin.Basic
import WeiRtcNative.H264.StreamSink
import WeiRtcNative.Lib.LockOrder

/-!
# The locks of the encoder and its sinks

The critical sections of `H264EncoderMFImpl`, of its attribute queue and of the two sinks, as each
function takes them. Media Foundation calls the sinks from its own threads and from within the calls
the encoder makes, some of them under `crit_`. A work item calls `OnH264Encoded` under `cbCritSec_`,
and with `callbackCrit_` taken as well the application is called, which may call the encoder again.
Branches that depend on the state of the objects are answers here: every combination is admitted.
-/

namespace WeiRtcNative.H264.EncoderLocks

open LockOrder
set_option autoImplicit false

/-- `crit_` and `callbackCrit_` of the encoder, `_crit` of its attribute queue, `critSec_` of a
media sink, and `critSec_` and `cbCritSec_` of a stream sink. -/
inductive Lock where
  | crit
  | callbackCrit
  | attributes
  | mediaSink (m : Nat)
  | stream (s : Nat)
  | cbCritSec (s : Nat)
  deriving DecidableEq, Repr

/-- The order in which all functions take them. -/
def Lock.rank : Lock → Fin 6
  | .crit => 0
  | .mediaSink _ => 1
  | .stream _ => 2
  | .cbCritSec _ => 3
  | .attributes => 4
  | .callbackCrit => 5

/-! ## The event queues -/

/-- What is done with `spEventQueue_` of a stream sink. -/
inductive Action where
  | queueEvent (s : Nat)
  | endGetEvent (s : Nat)
  | getEvent (s : Nat)
  | shutdown (s : Nat)
  deriving DecidableEq, Repr

def Action.waits : Action → Prop
  | .getEvent _ => True
  | .queueEvent _ | .endGetEvent _ | .shutdown _ => False

structure Events where
  queued : Nat → Nat
  isShutdown : Nat → Bool

def Events.setQueued (e : Events) (s n : Nat) : Events :=
  {e with queued := Function.update e.queued s n}

/-- `GetEvent` waits while there is no event, until the queue is shut down. -/
def perform : Action → Events → Option Events
  | .queueEvent s, e => some (if e.isShutdown s then e else e.setQueued s (e.queued s + 1))
  | .endGetEvent s, e => some (e.setQueued s (e.queued s - 1))
  | .getEvent s, e =>
    if e.isShutdown s then some e
    else if e.queued s = 0 then none
    else some (e.setQueued s (e.queued s - 1))
  | .shutdown s, e => some {e with isShutdown := Function.update e.isShutdown s true}

abbrev Program := List (Op Lock Action)

/-! ## H264StreamSink -/

/-- The calls of the interfaces of the sink; `refused` is one that returns for a null pointer before
it takes the lock. `pollEvent` is `GetEvent` with `MF_EVENT_FLAG_NO_WAIT`. -/
inductive StreamCall where
  | refused
  | beginGetEvent
  | endGetEvent
  | pollEvent
  | queueEvent
  | getMediaSink
  | getIdentifier
  | getMediaTypeHandler
  | processSample
  | placeMarker
  | flush
  | isMediaTypeSupported
  | getMediaTypeCount
  | getMediaTypeByIndex
  /-- `asks`: the sink is ready, and asks itself whether the new type is supported. -/
  | setCurrentMediaType (asks : Bool)
  | getCurrentMediaType
  | getMajorType
  deriving DecidableEq, Repr

/-- A function of the stream sink that takes `critSec_` and calls nothing that takes a lock. -/
def underCritSec (s : Nat) : Program := guarded (.stream s) []

def queueEvent (s : Nat) : Program := guarded (.stream s) [.act (.queueEvent s)]

def setCurrentMediaType (s : Nat) (asks : Bool) : Program :=
  guarded (.stream s) (if asks then underCritSec s else [])

def StreamCall.locks (s : Nat) : StreamCall → Program
  | .refused | .getMajorType => []
  | .beginGetEvent | .pollEvent | .getMediaSink | .getIdentifier | .getMediaTypeHandler
  | .processSample | .placeMarker | .flush | .isMediaTypeSupported | .getMediaTypeCount
  | .getMediaTypeByIndex | .getCurrentMediaType => underCritSec s
  | .endGetEvent => guarded (.stream s) [.act (.endGetEvent s)]
  | .queueEvent => EncoderLocks.queueEvent s
  | .setCurrentMediaType asks => EncoderLocks.setCurrentMediaType s asks

/-- `GetEvent` gives `critSec_` back before it waits; `passed` is the result of `CheckShutdown`. -/
def getEvent (s : Nat) (passed : Bool) : Program :=
  underCritSec s ++ if passed then [.act (.getEvent s)] else []

def start (s : Nat) : Program := underCritSec s

def stop (s : Nat) : Program := underCritSec s

def shutdownStream (s : Nat) : Program := guarded (.stream s) [.act (.shutdown s)]

def registerEncodingCallback (s : Nat) : Program := guarded (.cbCritSec s) []

/-! ## H264MediaSink -/

/-- Calls of a presentation clock; `stream` is the stream sink that is called in turn. -/
inductive ClockCall where
  | onClockStart (stream : Option Nat)
  | onClockStop (stream : Option Nat)
  | onClockPause
  | onClockRestart
  | onClockSetRate
  deriving DecidableEq, Repr

def ClockCall.locks (m : Nat) : ClockCall → Program
  | .onClockStart stream => guarded (.mediaSink m) (stream.elim [] start)
  | .onClockStop stream => guarded (.mediaSink m) (stream.elim [] stop)
  | .onClockPause | .onClockRestart | .onClockSetRate => []

/-- The calls of the media sink. A stream is given where the call reaches it, for `addStreamSink`
with the type it is given, for `removeStreamSink` with whether it has the identifier asked for.
`setPresentationClock` has the calls that the clocks make meanwhile. -/
inductive MediaCall where
  | refused
  | getCharacteristics
  | addStreamSink (typed : Option (Nat × Bool))
  | removeStreamSink (stream : Option (Nat × Bool))
  | getStreamSinkCount
  | getStreamSinkByIndex
  | getStreamSinkById (stream : Option Nat)
  | setPresentationClock (calls : List ClockCall)
  | getPresentationClock
  | shutdown (stream : Option Nat)
  | clock (call : ClockCall)
  deriving DecidableEq, Repr

def addStreamSink (m : Nat) (typed : Option (Nat × Bool)) : Program :=
  guarded (.mediaSink m) (typed.elim [] fun p => setCurrentMediaType p.1 p.2)

def removeStreamSink (m : Nat) (stream : Option (Nat × Bool)) : Program :=
  guarded (.mediaSink m)
    (stream.elim [] fun p => underCritSec p.1 ++ if p.2 then shutdownStream p.1 else [])

def getStreamSinkById (m : Nat) (stream : Option Nat) : Program :=
  guarded (.mediaSink m) (stream.elim [] underCritSec)

def setPresentationClock (m : Nat) (calls : List ClockCall) : Program :=
  guarded (.mediaSink m) (calls.flatMap (ClockCall.locks m))

def shutdownMedia (m : Nat) (stream : Option Nat) : Program :=
  guarded (.mediaSink m) (stream.elim [] shutdownStream)

def MediaCall.locks (m : Nat) : MediaCall → Program
  | .refused => []
  | .getCharacteristics | .getStreamSinkCount | .getStreamSinkByIndex | .getPresentationClock =>
    guarded (.mediaSink m) []
  | .addStreamSink typed => EncoderLocks.addStreamSink m typed
  | .removeStreamSink stream => EncoderLocks.removeStreamSink m stream
  | .getStreamSinkById stream => EncoderLocks.getStreamSinkById m stream
  | .setPresentationClock calls => EncoderLocks.setPresentationClock m calls
  | .shutdown stream => shutdownMedia m stream
  | .clock call => call.locks m

/-- A call of a sink, by Media Foundation. -/
inductive SinkCall where
  | media (m : Nat) (call : MediaCall)
  | stream (s : Nat) (call : StreamCall)
  deriving DecidableEq, Repr

def SinkCall.locks : SinkCall → Program
  | .media m call => call.locks m
  | .stream s call => call.locks s

/-- What Media Foundation calls in the course of one call of it. -/
def within (calls : List SinkCall) : Program := calls.flatMap SinkCall.locks

/-! ## H264EncoderMFImpl -/

/-- The calls of the sinks within each call of `InitWriter`, and the stream sink on which the
callback is registered, if no call failed before. -/
structure WriterAnswers where
  createSinkWriter : List SinkCall
  addStream : List SinkCall
  setInputMediaType : List SinkCall
  registered : Option Nat
  beginWriting : List SinkCall
  deriving DecidableEq, Repr

def initWriter (a : WriterAnswers) : Program :=
  guarded .crit
    (within a.createSinkWriter ++ within a.addStream ++ within a.setInputMediaType ++
      a.registered.elim [] registerEncodingCallback ++ within a.beginWriting)

/-- The calls of the sinks when `sinkWriter_` is let go, and the media sink to be shut down, with
its stream. -/
structure ReleaseAnswers where
  resetSinkWriter : List SinkCall
  mediaSink : Option (Nat × Option Nat)
  deriving DecidableEq, Repr

def clearAttributes : Program := guarded .attributes []

/-- The media sink is shut down after the block that holds `crit_`. -/
def releaseWriter (a : ReleaseAnswers) : Program :=
  guarded .crit (within a.resetSinkWriter ++ clearAttributes ++ guarded .callbackCrit []) ++
    a.mediaSink.elim [] fun p => shutdownMedia p.1 p.2

/-- `none` when neither the size nor the rates are updated. -/
def reconfigureSinkWriter : Option (ReleaseAnswers × WriterAnswers) → Program
  | none => []
  | some (release, init) => releaseWriter release ++ guarded .callbackCrit [] ++ initWriter init

/-- `reconfigured` is also `none` when `ReconfigureSinkWriter` is not called; `pushed` is that
`FromVideoFrame` is called and comes to its push. -/
structure EncodeAnswers where
  inited : Bool
  reconfigured : Option (ReleaseAnswers × WriterAnswers)
  placeEncodingParameters : List SinkCall
  pushed : Bool
  sample : Bool
  sendStreamTick : List SinkCall
  writeSample : List SinkCall
  notifyEndOfSegment : List SinkCall
  deriving DecidableEq, Repr

def attributesSize : Program := guarded .attributes []

def fromVideoFrame (pushed : Bool) : Program := if pushed then guarded .attributes [] else []

def encode (a : EncodeAnswers) : Program :=
  if a.inited then
    guarded .crit (reconfigureSinkWriter a.reconfigured) ++
    within a.placeEncodingParameters ++
    guarded .crit (attributesSize ++ fromVideoFrame a.pushed) ++
    (if a.sample then within a.writeSample ++ guarded .crit (within a.notifyEndOfSegment)
      else within a.sendStreamTick)
  else []

/-- The calls of the encoder. `accepted` is that the settings are, `takes` that there is a sink
writer and the frame rate is not 0. -/
inductive EncoderCall where
  | initEncode (accepted : Bool) (init : WriterAnswers)
  | registerEncodeCompleteCallback
  | release (a : ReleaseAnswers)
  | encode (a : EncodeAnswers)
  | setRates (takes : Bool) (reconfigured : Option (ReleaseAnswers × WriterAnswers))
  | getEncoderInfo
  deriving DecidableEq, Repr

def EncoderCall.locks : EncoderCall → Program
  | .initEncode accepted init => if accepted then initWriter init else []
  | .registerEncodeCompleteCallback => guarded .callbackCrit []
  | .release a => releaseWriter a
  | .encode a => EncoderLocks.encode a
  | .setRates takes reconfigured =>
    if takes then guarded .crit (reconfigureSinkWriter reconfigured) else []
  | .getEncoderInfo => []

/-- The call comes to take `crit_`. -/
def EncoderCall.takesCrit : EncoderCall → Bool
  | .initEncode accepted _ => accepted
  | .release _ => true
  | .encode a => a.inited
  | .setRates takes _ => takes
  | .registerEncodeCompleteCallback | .getEncoderInfo => false

/-- `delivered`: the attributes were found and the buffer could be read; `callback`: there is an
`encodedCompleteCallback_`. -/
structure EncodedAnswers where
  delivered : Bool
  callback : Bool
  deriving DecidableEq, Repr

/-- `onEncodedImage` is what the application calls of the encoder when it is given an image. -/
def onH264Encoded (onEncodedImage : List EncoderCall) (a : EncodedAnswers) : Program :=
  guarded .attributes [] ++
  if a.delivered then
    guarded .callbackCrit (if a.callback then onEncodedImage.flatMap EncoderCall.locks else [])
  else []

/-- `queued` is that the first event could be queued, `propVariant` that the context of a marker
could be read, `sample` that there is a sample in the queue, `registered` that there is an
`encodingCallback_`. -/
structure WorkItemAnswers where
  getState : Bool
  op : StreamOperation
  queued : Bool
  propVariant : Bool
  sample : Bool
  registered : Bool
  encoded : EncodedAnswers
  deriving DecidableEq, Repr

def WorkItemAnswers.handsOut (a : WorkItemAnswers) : Bool :=
  a.getState && (a.op = .start || a.op = .processSample) && a.queued && a.sample

def dispatchOperation (s : Nat) (a : WorkItemAnswers) : Program :=
  match a.op with
  | .start => queueEvent s ++ if a.queued && !a.sample then queueEvent s else []
  | .stop | .processSample | .setMediaType => queueEvent s
  | .placeMarker => if a.propVariant then queueEvent s else []

def onDispatchWorkItem (onEncodedImage : List EncoderCall) (s : Nat) (a : WorkItemAnswers) :
    Program :=
  guarded (.stream s) (if a.getState then dispatchOperation s a else []) ++
  if a.handsOut then
    guarded (.cbCritSec s) (if a.registered then onH264Encoded onEncodedImage a.encoded else [])
  else []

/-! ## All threads -/

inductive Call where
  | encoder (call : EncoderCall)
  | sink (call : SinkCall)
  | getEvent (s : Nat) (passed : Bool)
  | workItem (s : Nat) (a : WorkItemAnswers)
  deriving DecidableEq, Repr

def Call.locks (onEncodedImage : List EncoderCall) : Call → Program
  | .encoder call => call.locks
  | .sink call => call.locks
  | .getEvent s passed => EncoderLocks.getEvent s passed
  | .workItem s a => onDispatchWorkItem onEncodedImage s a

/-- Each thread makes its calls one after the other; no lock is taken and no event queued. -/
def initial {ι : Type} (onEncodedImage : List EncoderCall) (threads : ι → List Call) :
    State ι Lock Action Events :=
  LockOrder.start (fun i => (threads i).flatMap (Call.locks onEncodedImage))
    ⟨fun _ => 0, fun _ => false⟩

theorem waits_of_perform (a : Action) (e : Events) (h : perform a e = none) : a.waits := by
  cases a with
  | getEvent s => trivial
  | queueEvent s => simp [perform] at h
  | endGetEvent s => simp [perform] at h
  | shutdown s => simp [perform] at h

/-! ## Every function keeps the order -/

section Order
variable {context : List Lock}

/-- All locks held come before rank `r`. -/
def Below (r : Fin 6) (context : List Lock) : Prop := ∀ l ∈ context, l.rank < r

theorem Below.mono {r q : Fin 6} (h : Below r context) (hrq : r ≤ q) : Below q context := by
  intro l hl
  exact (h l hl).trans_le hrq

theorem Below.above {r : Fin 6} {l : Lock} (h : Below r context) (hl : r ≤ l.rank) :
    Above Lock.rank l context :=
  .inr (h.mono hl)

theorem Below.cons {r : Fin 6} {l : Lock} (hl : l.rank < r) (h : Below r context) :
    Below r (l :: context) := by
  intro m hm
  rcases List.mem_cons.mp hm with rfl | hm
  · exact hl
  · exact h m hm

abbrev Keeps (context : List Lock) (body : Program) : Prop :=
  Within Lock.rank Action.waits context body

theorem keeps_guard_nil {l : Lock} (h : Above Lock.rank l context) : Keeps context (guarded l []) :=
  within_nil.guard h

theorem keeps_act {a : Action} (h : ¬ a.waits) : Keeps context [.act a] :=
  within_act fun ha => absurd ha h

theorem keeps_option {α : Type} {o : Option α} {f : α → Program}
    (h : ∀ x, o = some x → Keeps context (f x)) : Keeps context (o.elim [] f) := by
  cases o with
  | none => exact within_nil
  | some x => exact h x rfl

theorem keeps_if {b : Bool} {body : Program} (h : b = true → Keeps context body) :
    Keeps context (if b then body else []) := by
  cases b with
  | false => exact within_nil
  | true => exact h rfl

theorem queueEvent_keeps (s : Nat) (h : Above Lock.rank (.stream s) context) :
    Keeps context (queueEvent s) :=
  (keeps_act id).guard h

theorem setCurrentMediaType_keeps (s : Nat) (asks : Bool) (h : Above Lock.rank (.stream s) context) :
    Keeps context (setCurrentMediaType s asks) := by
  apply Within.guard h
  apply keeps_if
  intro _
  exact keeps_guard_nil (.inl (by simp))

theorem shutdownStream_keeps (s : Nat) (h : Above Lock.rank (.stream s) context) :
    Keeps context (shutdownStream s) :=
  (keeps_act id).guard h

theorem streamCall_keeps (s : Nat) (call : StreamCall) (h : Above Lock.rank (.stream s) context) :
    Keeps context (call.locks s) := by
  cases call with
  | refused => exact within_nil
  | getMajorType => exact within_nil
  | queueEvent => exact queueEvent_keeps s h
  | endGetEvent => exact (keeps_act id).guard h
  | setCurrentMediaType asks => exact setCurrentMediaType_keeps s asks h
  | _ => exact keeps_guard_nil h

theorem clockCall_keeps (m : Nat) (call : ClockCall) (h : Above Lock.rank (.mediaSink m) context)
    (hbelow : Below 2 context) : Keeps context (call.locks m) := by
  have hstream : ∀ s, Above Lock.rank (.stream s) (.mediaSink m :: context) := by
    intro s
    exact (hbelow.cons (by simp [Lock.rank])).above (by simp [Lock.rank])
  cases call with
  | onClockStart stream =>
    apply Within.guard h
    apply keeps_option
    intro s _
    exact keeps_guard_nil (hstream s)
  | onClockStop stream =>
    apply Within.guard h
    apply keeps_option
    intro s _
    exact keeps_guard_nil (hstream s)
  | onClockPause => exact within_nil
  | onClockRestart => exact within_nil
  | onClockSetRate => exact within_nil

theorem mediaCall_keeps (m : Nat) (call : MediaCall) (hbelow : Below 1 context) :
    Keeps context (call.locks m) := by
  have hmedia : Above Lock.rank (.mediaSink m) context := .inr hbelow
  have htwo : Below 2 (.mediaSink m :: context) :=
    (hbelow.mono (by decide)).cons (by simp [Lock.rank])
  have hstream : ∀ s, Above Lock.rank (.stream s) (.mediaSink m :: context) := fun s =>
    htwo.above (by simp [Lock.rank])
  cases call with
  | refused => exact within_nil
  | addStreamSink typed =>
    apply Within.guard hmedia
    apply keeps_option
    intro p _
    exact setCurrentMediaType_keeps p.1 p.2 (hstream p.1)
  | removeStreamSink stream =>
    apply Within.guard hmedia
    apply keeps_option
    intro p _
    apply (keeps_guard_nil (hstream p.1)).append
    apply keeps_if
    intro _
    exact shutdownStream_keeps p.1 (hstream p.1)
  | getStreamSinkById stream =>
    apply Within.guard hmedia
    apply keeps_option
    intro s _
    exact keeps_guard_nil (hstream s)
  | setPresentationClock calls =>
    apply Within.guard hmedia
    apply within_flatMap
    intro call _
    exact clockCall_keeps m call (.inl (by simp)) htwo
  | shutdown stream =>
    apply Within.guard hmedia
    apply keeps_option
    intro s _
    exact shutdownStream_keeps s (hstream s)
  | clock call => exact clockCall_keeps m call hmedia (hbelow.mono (by decide))
  | _ => exact keeps_guard_nil hmedia

theorem sinkCall_keeps (call : SinkCall) (hbelow : Below 1 context) :
    Keeps context call.locks := by
  cases call with
  | media m call => exact mediaCall_keeps m call hbelow
  | stream s call => exact streamCall_keeps s call (hbelow.above (by simp [Lock.rank]))

theorem within_keeps (calls : List SinkCall) (hbelow : Below 1 context) :
    Keeps context (within calls) :=
  within_flatMap fun call _ => sinkCall_keeps call hbelow

/-- What the encoder does under `crit_`, which it may hold already. -/
theorem crit_keeps {body : Program} (hcrit : Above Lock.rank .crit context)
    (hbelow : Below 1 context) (h : ∀ {inner}, Lock.crit ∈ inner → Below 1 inner → Keeps inner body) :
    Keeps context (guarded .crit body) :=
  (h (by simp) (hbelow.cons (by simp [Lock.rank]))).guard hcrit

theorem initWriter_keeps (a : WriterAnswers) (hcrit : Above Lock.rank .crit context)
    (hbelow : Below 1 context) : Keeps context (initWriter a) := by
  apply crit_keeps hcrit hbelow
  intro inner _ hinner
  have hregister : Keeps inner (a.registered.elim [] registerEncodingCallback) := by
    apply keeps_option
    intro s _
    exact keeps_guard_nil (hinner.above (by simp [Lock.rank]))
  exact ((((within_keeps _ hinner).append (within_keeps _ hinner)).append
    (within_keeps _ hinner)).append hregister).append (within_keeps _ hinner)

theorem releaseWriter_keeps (a : ReleaseAnswers) (hcrit : Above Lock.rank .crit context)
    (hbelow : Below 1 context) : Keeps context (releaseWriter a) := by
  apply Within.append
  · apply crit_keeps hcrit hbelow
    intro inner _ hinner
    apply Within.append
    · apply (within_keeps _ hinner).append
      exact keeps_guard_nil (hinner.above (by simp [Lock.rank]))
    · exact keeps_guard_nil (hinner.above (by simp [Lock.rank]))
  · apply keeps_option
    intro p _
    exact mediaCall_keeps p.1 (.shutdown p.2) hbelow

theorem reconfigureSinkWriter_keeps (a : Option (ReleaseAnswers × WriterAnswers))
    (hcrit : Above Lock.rank .crit context) (hbelow : Below 1 context) :
    Keeps context (reconfigureSinkWriter a) := by
  cases a with
  | none => exact within_nil
  | some p =>
    apply Within.append
    · apply (releaseWriter_keeps p.1 hcrit hbelow).append
      exact keeps_guard_nil (hbelow.above (by simp [Lock.rank]))
    · exact initWriter_keeps p.2 hcrit hbelow

theorem encode_keeps (a : EncodeAnswers) (hcrit : Above Lock.rank .crit context)
    (hbelow : Below 1 context) : Keeps context (encode a) := by
  apply keeps_if
  intro _
  apply Within.append
  · apply Within.append
    · apply Within.append
      · apply crit_keeps hcrit hbelow
        intro inner hmem hinner
        exact reconfigureSinkWriter_keeps a.reconfigured (.inl hmem) hinner
      · exact within_keeps _ hbelow
    · apply crit_keeps hcrit hbelow
      intro inner _ hinner
      have hattributes : Above Lock.rank .attributes inner :=
        hinner.above (by simp [Lock.rank])
      apply (keeps_guard_nil hattributes).append
      apply keeps_if
      intro _
      exact keeps_guard_nil hattributes
  · split
    · apply (within_keeps _ hbelow).append
      apply crit_keeps hcrit hbelow
      intro inner _ hinner
      exact within_keeps _ hinner
    · exact within_keeps _ hbelow

theorem encoderCall_keeps (call : EncoderCall) (hcrit : Above Lock.rank .crit context)
    (hbelow : Below 1 context) : Keeps context call.locks := by
  cases call with
  | initEncode accepted init =>
    apply keeps_if
    intro _
    exact initWriter_keeps init hcrit hbelow
  | registerEncodeCompleteCallback =>
    exact keeps_guard_nil (hbelow.above (by simp [Lock.rank]))
  | release a => exact releaseWriter_keeps a hcrit hbelow
  | encode a => exact encode_keeps a hcrit hbelow
  | setRates takes reconfigured =>
    apply keeps_if
    intro _
    apply crit_keeps hcrit hbelow
    intro inner hmem hinner
    exact reconfigureSinkWriter_keeps reconfigured (.inl hmem) hinner
  | getEncoderInfo => exact within_nil

/-- A call that does not come to take `crit_` takes at most `callbackCrit_`. -/
theorem quiet_locks {call : EncoderCall} (h : call.takesCrit = false) :
    call.locks = [] ∨ call.locks = guarded .callbackCrit [] := by
  cases call with
  | initEncode accepted init =>
    obtain rfl : accepted = false := h
    exact .inl rfl
  | registerEncodeCompleteCallback => exact .inr rfl
  | release a => simp [EncoderCall.takesCrit] at h
  | encode a =>
    have hinited : a.inited = false := h
    left
    simp [EncoderCall.locks, encode, hinited]
  | setRates takes reconfigured =>
    obtain rfl : takes = false := h
    exact .inl rfl
  | getEncoderInfo => exact .inl rfl

variable {onEncodedImage : List EncoderCall}

theorem onH264Encoded_keeps (h : ∀ call ∈ onEncodedImage, call.takesCrit = false)
    (a : EncodedAnswers) (hbelow : Below 4 context) :
    Keeps context (onH264Encoded onEncodedImage a) := by
  apply (keeps_guard_nil (hbelow.above (by simp [Lock.rank]))).append
  apply keeps_if
  intro _
  apply Within.guard (hbelow.above (by decide))
  apply keeps_if
  intro _
  apply within_flatMap
  intro call hcall
  rcases quiet_locks (h call hcall) with hnone | hcallback
  · rw [hnone]
    exact within_nil
  · rw [hcallback]
    exact keeps_guard_nil (.inl (by simp))

theorem dispatchOperation_keeps (s : Nat) (a : WorkItemAnswers)
    (h : Above Lock.rank (.stream s) context) : Keeps context (dispatchOperation s a) := by
  unfold dispatchOperation
  split
  · apply (queueEvent_keeps s h).append
    split
    · exact queueEvent_keeps s h
    · exact within_nil
  · exact queueEvent_keeps s h
  · exact queueEvent_keeps s h
  · exact queueEvent_keeps s h
  · apply keeps_if
    intro _
    exact queueEvent_keeps s h

theorem below_nil (r : Fin 6) : Below r [] := by
  intro l hl
  simp at hl

theorem onDispatchWorkItem_keeps (h : ∀ call ∈ onEncodedImage, call.takesCrit = false) (s : Nat)
    (a : WorkItemAnswers) : Keeps [] (onDispatchWorkItem onEncodedImage s a) := by
  apply Within.append
  · apply Within.guard ((below_nil 0).above (by simp))
    apply keeps_if
    intro _
    exact dispatchOperation_keeps s a (.inl (by simp))
  · apply keeps_if
    intro _
    apply Within.guard ((below_nil 0).above (by simp))
    apply keeps_if
    intro _
    exact onH264Encoded_keeps h a.encoded ((below_nil 4).cons (by simp [Lock.rank]))

theorem getEvent_keeps (s : Nat) (passed : Bool) : Keeps [] (getEvent s passed) := by
  apply (keeps_guard_nil ((below_nil 0).above (by simp))).append
  apply keeps_if
  intro _
  exact within_act fun _ => rfl

theorem call_keeps (h : ∀ call ∈ onEncodedImage, call.takesCrit = false) (call : Call) :
    Keeps [] (call.locks onEncodedImage) := by
  cases call with
  | encoder call => exact encoderCall_keeps call ((below_nil 0).above (by simp)) (below_nil 1)
  | sink call => exact sinkCall_keeps call (below_nil 1)
  | getEvent s passed => exact getEvent_keeps s passed
  | workItem s a => exact onDispatchWorkItem_keeps h s a

theorem sound_initial {ι : Type} [DecidableEq ι]
    (h : ∀ call ∈ onEncodedImage, call.takesCrit = false) (threads : ι → List Call) :
    Sound Lock.rank Action.waits (initial onEncodedImage threads) := by
  apply sound_start
  intro i
  apply Within.whole
  exact within_flatMap fun call _ => call_keeps h call

end Order

/-! ## An application that calls the encoder when it is given an image -/

section Crossed
variable {onEncodedImage calls : List EncoderCall}

/-- Thread `i` is about to take a lock that thread `j` has. -/
def WaitsFor {ι : Type} (s : State ι Lock Action Events) (i j : ι) (l : Lock) : Prop :=
  (∃ rest, s.program i = .acquire l :: rest) ∧ ∃ n, s.owner l = some (j, n)

/-- One thread hands a sample to the application while another releases the encoder. -/
def crossed : Bool → List Call
  | false => [.workItem 0 ⟨true, .processSample, true, false, true, true, ⟨true, true⟩⟩]
  | true => [.encoder (.release ⟨[], none⟩)]

/-- The first thread calls the application, with `cbCritSec_` and `callbackCrit_` in its hands. -/
theorem crossed_calls_application (onEncodedImage : List EncoderCall) :
    ∃ schedule, ∀ t, t = run perform (initial onEncodedImage crossed) schedule →
      t.program false = onEncodedImage.flatMap EncoderCall.locks ++
        [.release .callbackCrit, .release (.cbCritSec 0)] ∧
      t.program true = releaseWriter ⟨[], none⟩ ∧
      t.owner .crit = none ∧ t.owner .attributes = none ∧
      t.owner .callbackCrit = some (false, 0) := by
  refine ⟨List.replicate 9 false, ?_⟩
  rintro t rfl
  simp [initial, LockOrder.start, crossed, Call.locks, onDispatchWorkItem, dispatchOperation,
    WorkItemAnswers.handsOut, queueEvent, onH264Encoded, EncoderCall.locks, guarded, run, step, take,
    giveBack, perform, List.replicate]

/-- Calls that do not take `crit_` come back, in the thread that holds `callbackCrit_`. -/
theorem quiet_calls_return (h : ∀ call ∈ calls, call.takesCrit = false)
    {s : State Bool Lock Action Events} {n : Nat} {rest : Program}
    (hprogram : s.program false = calls.flatMap EncoderCall.locks ++ rest)
    (howner : s.owner .callbackCrit = some (false, n)) :
    ∃ schedule, ∀ t, t = run perform s schedule →
      t.program false = rest ∧ t.program true = s.program true ∧ t.owner = s.owner := by
  induction calls generalizing s with
  | nil =>
    refine ⟨[], ?_⟩
    rintro t rfl
    exact ⟨hprogram, rfl, rfl⟩
  | cons call calls ih =>
    have hcalls : ∀ call ∈ calls, call.takesCrit = false := by
      intro call' hmem
      exact h call' (by simp [hmem])
    rcases quiet_locks (h call (by simp)) with hnone | hcallback
    · apply ih hcalls _ howner
      rw [hprogram, List.flatMap_cons, hnone, List.nil_append]
    · have hops : s.program false = .acquire .callbackCrit :: .release .callbackCrit ::
          (calls.flatMap EncoderCall.locks ++ rest) := by
        rw [hprogram, List.flatMap_cons, hcallback]
        rfl
      have hfalse : (run perform s [false, false]).program false =
          calls.flatMap EncoderCall.locks ++ rest := by
        simp [run, step, hops, howner, take, giveBack]
      have htrue : (run perform s [false, false]).program true = s.program true := by
        simp [run, step, hops, howner, take, giveBack]
      have hback : Function.update s.owner .callbackCrit (some (false, n)) = s.owner := by
        rw [← howner, Function.update_eq_self]
      have hsame : (run perform s [false, false]).owner = s.owner := by
        simp [run, step, hops, howner, take, giveBack, hback]
      obtain ⟨schedule, hrun⟩ := ih hcalls hfalse (hsame ▸ howner)
      refine ⟨[false, false] ++ schedule, ?_⟩
      intro t ht
      rw [run_append] at ht
      rw [← htrue, ← hsame]
      exact hrun t ht

theorem takesCrit_locks {call : EncoderCall} (h : call.takesCrit = true) :
    ∃ rest, call.locks = .acquire .crit :: rest := by
  cases call with
  | initEncode accepted init =>
    obtain rfl : accepted = true := h
    exact ⟨_, rfl⟩
  | registerEncodeCompleteCallback => simp [EncoderCall.takesCrit] at h
  | release a => exact ⟨_, rfl⟩
  | encode a =>
    have hinited : a.inited = true := h
    simp [EncoderCall.locks, encode, hinited, guarded]
  | setRates takes reconfigured =>
    obtain rfl : takes = true := h
    exact ⟨_, rfl⟩
  | getEncoderInfo => simp [EncoderCall.takesCrit] at h

/-- Up to the first call that takes `crit_`. -/
theorem splits_at_crit (h : ∃ call ∈ calls, call.takesCrit = true) :
    ∃ (before : List EncoderCall) (rest : Program), (∀ call ∈ before, call.takesCrit = false) ∧
      calls.flatMap EncoderCall.locks =
        before.flatMap EncoderCall.locks ++ .acquire .crit :: rest := by
  induction calls with
  | nil => simp at h
  | cons first calls ih =>
    cases hfirst : first.takesCrit with
    | true =>
      obtain ⟨rest, hlocks⟩ := takesCrit_locks hfirst
      refine ⟨[], rest ++ calls.flatMap EncoderCall.locks, by simp, ?_⟩
      simp [hlocks]
    | false =>
      obtain ⟨call, hmem, hcall⟩ := h
      have hlater : call ∈ calls := by
        rcases List.mem_cons.mp hmem with rfl | hlater
        · simp [hfirst] at hcall
        · exact hlater
      obtain ⟨before, rest, hbefore, hsplit⟩ := ih ⟨call, hlater, hcall⟩
      refine ⟨first :: before, rest, ?_, ?_⟩
      · intro c hc
        rcases List.mem_cons.mp hc with rfl | hc
        · exact hfirst
        · exact hbefore c hc
      · simp [hsplit]

theorem WaitsFor.not_atRest {ι : Type} {s : State ι Lock Action Events} {i j : ι} {l : Lock}
    (h : WaitsFor s i j l) : ¬ AtRest perform s i := by
  obtain ⟨⟨rest, hprogram⟩, -⟩ := h
  simp [AtRest, hprogram]

/-- A thread does not get past a lock that another thread has. -/
theorem WaitsFor.stuck {ι : Type} [DecidableEq ι] {s : State ι Lock Action Events} {i j : ι}
    {l : Lock} (h : WaitsFor s i j l) (hne : j ≠ i) : step perform s i = none := by
  obtain ⟨⟨rest, hprogram⟩, n, howner⟩ := h
  simp [step, hprogram, howner, take, hne]

/-- Once the application comes to take `crit_`, the other thread may have it already, and wait for
`callbackCrit_`. -/
theorem crossed_locked (h : ∃ call ∈ onEncodedImage, call.takesCrit = true) :
    ∃ schedule, ∀ further t,
      t = run perform (initial onEncodedImage crossed) (schedule ++ further) →
        WaitsFor t false true .crit ∧ WaitsFor t true false .callbackCrit := by
  obtain ⟨before, rest, hbefore, hsplit⟩ := splits_at_crit h
  obtain ⟨first, hfirst⟩ := crossed_calls_application onEncodedImage
  obtain ⟨hfalse, htrue, hcrit, hattributes, hcallback⟩ := hfirst _ rfl
  rw [hsplit, List.append_assoc] at hfalse
  obtain ⟨second, hsecond⟩ := quiet_calls_return hbefore hfalse hcallback
  obtain ⟨hwants, hother, howner⟩ := hsecond _ rfl
  rw [← run_append] at hwants hother howner
  generalize run perform (initial onEncodedImage crossed) first = s at *
  generalize hreached : run perform (initial onEncodedImage crossed) (first ++ second) = t at *
  rw [htrue] at hother
  -- the other thread takes `crit_`, empties the attribute queue and comes to `callbackCrit_`
  obtain ⟨hwants', hother', hcrit', hcallback'⟩ :
      (run perform t [true, true, true]).program false = t.program false ∧
      (run perform t [true, true, true]).program true =
        [.acquire .callbackCrit, .release .callbackCrit, .release .crit] ∧
      (run perform t [true, true, true]).owner .crit = some (true, 0) ∧
      (run perform t [true, true, true]).owner .callbackCrit = some (false, 0) := by
    simp [run, step, hother, releaseWriter, within, clearAttributes, guarded, take, giveBack, howner,
      hcrit, hattributes, hcallback]
  refine ⟨(first ++ second) ++ [true, true, true], ?_⟩
  rintro further u rfl
  have hfirstWaits : WaitsFor (run perform t [true, true, true]) false true .crit :=
    ⟨⟨_, hwants'.trans hwants⟩, 0, hcrit'⟩
  have hsecondWaits : WaitsFor (run perform t [true, true, true]) true false .callbackCrit :=
    ⟨⟨_, hother'⟩, 0, hcallback'⟩
  rw [run_append, run_append, hreached, run_of_stuck]
  · exact ⟨hfirstWaits, hsecondWaits⟩
  · intro i
    cases i with
    | false => exact hfirstWaits.stuck (by decide)
    | true => exact hsecondWaits.stuck (by decide)

end Crossed

/-- In every interleaving of any calls on any number of threads, every thread can be brought to the
end of its calls, or to `GetEvent` on a queue without events, just when the application makes no
call that takes `crit_` while it is in `OnEncodedImage`. If it makes one, that call and a `Release`
of another thread can come to wait for each other, and from then on they do. -/
theorem calls_come_to_rest_iff (onEncodedImage : List EncoderCall) :
    ((∀ (ι : Type) [DecidableEq ι] (threads : ι → List Call) (schedule : List ι) (i : ι),
        ∃ further, AtRest perform
          (run perform (initial onEncodedImage threads) (schedule ++ further)) i) ↔
      ∀ call ∈ onEncodedImage, call.takesCrit = false) ∧
    ((∃ call ∈ onEncodedImage, call.takesCrit = true) →
      ∃ schedule, ∀ further t,
        t = run perform (initial onEncodedImage crossed) (schedule ++ further) →
          WaitsFor t false true .crit ∧ WaitsFor t true false .callbackCrit) := by
  refine ⟨⟨?_, ?_⟩, crossed_locked⟩
  · intro hrest call hcall
    by_contra htakes
    obtain ⟨schedule, hlocked⟩ :=
      crossed_locked ⟨call, hcall, Bool.eq_true_of_not_eq_false htakes⟩
    obtain ⟨further, hdone⟩ := hrest Bool crossed schedule false
    exact (hlocked further _ rfl).1.not_atRest hdone
  · intro hquiet ι _ threads schedule i
    have hsound := (sound_initial hquiet threads).after_run perform schedule
    obtain ⟨further, hdone⟩ := hsound.can_come_to_rest waits_of_perform i
    refine ⟨further, ?_⟩
    rw [run_append]
    exact hdone

end WeiRtcNative.H264.EncoderLocks
