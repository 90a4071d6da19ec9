import Mathlib.Logic.Function.Basic
import WeiRtcNative.Lib.Machine
import WeiRtcNative.H264.Encoder
import WeiRtcNative.H264.Fragmentation
import WeiRtcNative.H264.StreamSink

/-!
# The encoder, its sink writers and their stream sinks

One thread calls `SetRates` and `Encode`; Media Foundation encodes the samples of each
sink writer in order and hands the outputs to the writer's stream sink, whose work
items call `OnH264Encoded`. An action is one step of one of them. A sink that was shut
down may still be on its way into `OnH264Encoded`: the callback is tested under
`cbCritSec_`, which `Shutdown` does not take, and the attributes are popped later.
-/

namespace WeiRtcNative.H264.Pipeline

open SampleAttributeQueue Encoder
set_option autoImplicit false

structure Encoded where
  sample : Sample
  bytes : Fragmentation.Bytes
  cleanPoint : Bool
  deriving DecidableEq, Repr

/-- How far the work item in execution is: with a sample but outside `critSec_`, inside
`OnH264Encoded`, past the `pop`. -/
inductive Running where
  | idle
  | taken (x : Encoded)
  | entered (x : Encoded)
  | popped (x : Encoded) (attributes : Option CachedFrameAttributes)
  deriving DecidableEq, Repr

/-- A sink writer: the samples it accepted and has not put out, and its stream sink. -/
structure Writer where
  encoding : List Sample
  sink : StreamSink Encoded
  running : Running
  deriving DecidableEq, Repr

/-- A new writer; `registered` says whether `InitWriter` came to `RegisterEncodingCallback`. -/
def Writer.create (registered : Bool) : Writer :=
  ⟨[], if registered then StreamSink.create.registerEncodingCallback else StreamSink.create, .idle⟩

structure Pending where
  frame : VideoFrame
  frameTypes : Option (List VideoFrameType)
  deriving DecidableEq, Repr

/-- Where the calling thread is. A `pending` frame waits for the end of a
reconfiguration that `Encode` started. -/
inductive Api where
  | idle
  | shuttingDown (sink : Option Nat) (callback : Bool) (pending : Option Pending)
  | initializing (pending : Option Pending)
  | sampling (pending : Pending)
  | writing (sample : Sample)
  deriving DecidableEq, Repr

structure System where
  encoder : Encoder.State
  api : Api
  writers : Nat → Writer
  crashed : Bool

inductive RatesOutcome where
  | ignored
  | postponed
  | applied
  deriving DecidableEq, Repr

/-- The image given to `OnEncodedImage`. -/
structure EncodedImage where
  attributes : CachedFrameAttributes
  content : Fragmentation.EncodedImage
  deriving DecidableEq, Repr

inductive Event where
  | setRates (rates : Rates) (outcome : RatesOutcome)
  | reconfigure (args : ReconfigureArgs) (inForce : Rates)
  | initWriter (writer : Nat) (config : WriterConfig) (succeeded : Bool)
  | forceKeyFrame (writer : Nat)
  | streamTick (writer : Nat) (timeHns : Int)
  | writeSample (writer : Nat) (sample : Sample) (hr : HResult)
  | endOfSegment (writer : Nat)
  | onEncodedImage (image : EncodedImage) (sample : Sample)
  deriving DecidableEq, Repr

inductive Action where
  | setRates (parameters : RateControlParameters) (now : Int)
  | encode (frame : VideoFrame) (frameTypes : Option (List VideoFrameType)) (now : Int)
  | registerEncodeCompleteCallback (present : Bool)
  | shutdownSink
  | initWriter (fail : Option WriterCall) (inited changed : Int)
  | takeFrame (fail : Option FrameCall)
  | writeSample (hr : HResult)
  | output (writer : Nat) (bytes : Fragmentation.Bytes) (cleanPoint : Bool) (put : HResult)
  | setCurrentMediaType (writer : Nat) (type : MediaType) (answers : StreamSink.SetTypeAnswers)
  | start (writer : Nat) (put : HResult)
  | stop (writer : Nat) (put : HResult)
  | flush (writer : Nat)
  | placeMarker (writer : Nat) (put : HResult)
  | dispatch (writer : Nat) (event : HResult)
  | enterCallback (writer : Nat)
  | popAttributes (writer : Nat)
  | deliver (writer : Nat) (readable : Bool)
  deriving DecidableEq, Repr

def System.setWriter (sys : System) (w : Nat) (writer : Writer) : System :=
  {sys with writers := Function.update sys.writers w writer}

def System.setSink (sys : System) (w : Nat) (sink : StreamSink Encoded) : System :=
  sys.setWriter w {sys.writers w with sink := sink}

def System.setRunning (sys : System) (w : Nat) (running : Running) : System :=
  sys.setWriter w {sys.writers w with running := running}

def System.setQueue (sys : System) (queue : List (Entry CachedFrameAttributes)) : System :=
  {sys with encoder := {sys.encoder with sampleAttributeQueue := queue}}

def System.crash (sys : System) : System := {sys with crashed := true}

/-- A new encoder after `InitEncode`, all calls succeeding. -/
def start (u : Uninitialised) (settings : CodecSettings) (now : Int) : System where
  encoder := initEncode (create u) settings none now
  api := .idle
  writers := fun _ => Writer.create true
  crashed := false

/-- Where `Encode` or `SetRates` goes on after `ReconfigureSinkWriter`. -/
def resume : Option Pending → Api
  | some p => .sampling p
  | none => .idle

/-- `ReconfigureSinkWriter`, up to the end of the locked part of `ReleaseWriter`. -/
def reconfigureSinkWriter (sys : System) (args : ReconfigureArgs) (pending : Option Pending) :
    System × List Event :=
  let e := sys.encoder
  let event := .reconfigure args e.rates
  if replacesWriter e args then
    ({sys with
        encoder := releaseWriter (adopt e args)
        api := .shuttingDown e.mediaSink e.encodedCompleteCallback pending}, [event])
  else ({sys with encoder := adopt e args, api := resume pending}, [event])

def setRates (sys : System) (p : RateControlParameters) (now : Int) : System × List Event :=
  let e := sys.encoder
  if !takesRates e p then (sys, [.setRates p.rates .ignored])
  else if postpones e now then
    ({sys with encoder := postpone e p.rates}, [.setRates p.rates .postponed])
  else
    let (sys, events) := reconfigureSinkWriter sys ⟨e.width, e.height, p.rates⟩ none
    (sys, .setRates p.rates .applied :: events)

/-- `Encode` up to the end of its first locked part. -/
def encode (sys : System) (p : Pending) (now : Int) : System × List Event :=
  if !sys.encoder.inited then (sys, [])
  else
    match encodeReconfigures sys.encoder p.frame now with
    | none => ({sys with api := .sampling p}, [])
    | some args =>
      reconfigureSinkWriter {sys with encoder := {sys.encoder with rateChangeRequested := false}}
        args (some p)

/-- The rest of `ReleaseWriter`, and `ReconfigureSinkWriter` restoring the callback. -/
def shutdownSink (sys : System) (sink : Option Nat) (callback : Bool) (pending : Option Pending) :
    System :=
  let sys := {sys with
    encoder := {sys.encoder with encodedCompleteCallback := callback}
    api := .initializing pending}
  match sink with
  | none => sys
  | some w => sys.setSink w (sys.writers w).sink.shutdown

def initWriter (mode : FrameHeightRoundMode) (sys : System) (pending : Option Pending)
    (fail : Option WriterCall) (inited changed : Int) : System × List Event :=
  let e := Encoder.initWriter sys.encoder fail inited
  ({sys with
      encoder := {e with lastRateChangeTimeRtcMs := changed}
      writers := Function.update sys.writers sys.encoder.writersCreated
        (Writer.create (passed fail .setInputMediaType))
      api := resume pending},
    [.initWriter sys.encoder.writersCreated (writerConfig mode sys.encoder) fail.isNone])

def keyFrameRequested (p : Pending) : Bool := (p.frameTypes.getD []).contains .key

/-- `Encode` from the key-frame request to the sample, or to the tick for a dropped frame. -/
def takeFrame (mode : FrameHeightRoundMode) (sys : System) (p : Pending)
    (fail : Option FrameCall) : System × List Event :=
  match keyFrameRequested p, sys.encoder.sinkWriter with
  | true, none => (sys.crash, [])
  | requested, writer =>
    let asked := if requested then writer.toList.map Event.forceKeyFrame else []
    match Encoder.takeFrame mode sys.encoder p.frame fail with
    | (e, some sample) => ({sys with encoder := e, api := .writing sample}, asked)
    | (e, none) =>
      match writer with
      | none => (sys.crash, asked)
      | some w => ({sys with encoder := dropFrame e p.frame, api := .idle},
          asked ++ [.streamTick w (getFrameTimestampHns e p.frame)])

def writeSample (sys : System) (sample : Sample) (hr : HResult) : System × List Event :=
  match sys.encoder.sinkWriter with
  | none => (sys.crash, [])
  | some w =>
    let e := countFrame sys.encoder
    let writer := sys.writers w
    let written := if hr.failed then writer else
      {writer with encoding := writer.encoding ++ [sample]}
    let segment := if !hr.failed && e.frameCount % 30 == 0 then [.endOfSegment w] else []
    ({sys.setWriter w written with encoder := e, api := .idle}, .writeSample w sample hr :: segment)

def output (sys : System) (w : Nat) (bytes : Fragmentation.Bytes) (cleanPoint : Bool)
    (put : HResult) : System :=
  match (sys.writers w).encoding with
  | [] => sys
  | sample :: rest =>
    sys.setWriter w {sys.writers w with
      encoding := rest
      sink := ((sys.writers w).sink.processSample ⟨sample, bytes, cleanPoint⟩ put).1}

/-- The work queue is serial: a work item starts when the last one has ended. -/
def dispatch (sys : System) (w : Nat) (event : HResult) : System :=
  match (sys.writers w).running, (sys.writers w).sink.onDispatchWorkItem event with
  | .idle, some (sink, none) => sys.setSink w sink
  | .idle, some (sink, some x) => sys.setWriter w {sys.writers w with sink := sink, running := .taken x}
  | _, _ => sys

def enterCallback (sys : System) (w : Nat) : System :=
  match (sys.writers w).running with
  | .taken x => sys.setRunning w (if (sys.writers w).sink.encodingCallback then .entered x else .idle)
  | _ => sys

/-- `OnH264Encoded` up to the `pop`, where `GetTotalLength` and `GetSampleTime` are taken to succeed:
with a sample time that cannot be read the code pops the identifier 0. -/
def popAttributes (sys : System) (w : Nat) : System :=
  match (sys.writers w).running with
  | .entered x =>
    let r := pop (sampleTimestamp x.sample) sys.encoder.sampleAttributeQueue
    (sys.setQueue r.2).setRunning w (.popped x r.1)
  | _ => sys

/-- The rest of `OnH264Encoded`; `readable` says whether the buffer could be read. A scan that reads
or writes outside its arrays ends the process. -/
def deliver (sys : System) (w : Nat) (readable : Bool) : System × List Event :=
  match (sys.writers w).running with
  | .popped x attributes =>
    let sys := sys.setRunning w .idle
    match attributes, readable with
    | some attributes, true =>
      match Fragmentation.encodedImage Fragmentation.growing x.cleanPoint x.bytes with
      | .error _ => (sys.crash, [])
      | .ok none => (sys, [])
      | .ok (some content) =>
        ({sys with encoder :=
            {sys.encoder with framePendingCount := sys.encoder.framePendingCount - 1}},
          if sys.encoder.encodedCompleteCallback then
            [.onEncodedImage ⟨attributes, content⟩ x.sample] else [])
    | _, _ => (sys, [])
  | _ => (sys, [])

def stepApi (mode : FrameHeightRoundMode) (sys : System) : Action → System × List Event
  | .setRates p now => if sys.api = .idle then setRates sys p now else (sys, [])
  | .encode frame frameTypes now =>
    if sys.api = .idle then encode sys ⟨frame, frameTypes⟩ now else (sys, [])
  | .registerEncodeCompleteCallback present =>
    if sys.api = .idle then
      ({sys with encoder := {sys.encoder with encodedCompleteCallback := present}}, [])
    else (sys, [])
  | .shutdownSink =>
    match sys.api with
    | .shuttingDown sink callback pending => (shutdownSink sys sink callback pending, [])
    | _ => (sys, [])
  | .initWriter fail inited changed =>
    match sys.api with
    | .initializing pending => initWriter mode sys pending fail inited changed
    | _ => (sys, [])
  | .takeFrame fail =>
    match sys.api with
    | .sampling p => takeFrame mode sys p fail
    | _ => (sys, [])
  | .writeSample hr =>
    match sys.api with
    | .writing sample => writeSample sys sample hr
    | _ => (sys, [])
  | _ => (sys, [])

def stepSink (sys : System) : Action → System × List Event
  | .output w bytes cleanPoint put => (output sys w bytes cleanPoint put, [])
  | .setCurrentMediaType w type a => (sys.setSink w ((sys.writers w).sink.setCurrentMediaType type a).1, [])
  | .start w put => (sys.setSink w ((sys.writers w).sink.start put).1, [])
  | .stop w put => (sys.setSink w ((sys.writers w).sink.stop put).1, [])
  | .flush w => (sys.setSink w (sys.writers w).sink.flush.1, [])
  | .placeMarker w put => (sys.setSink w ((sys.writers w).sink.placeMarker put).1, [])
  | .dispatch w event => (dispatch sys w event, [])
  | .enterCallback w => (enterCallback sys w, [])
  | .popAttributes w => (popAttributes sys w, [])
  | .deliver w readable => deliver sys w readable
  | _ => (sys, [])

def Action.isApi : Action → Bool
  | .setRates _ _ | .encode _ _ _ | .registerEncodeCompleteCallback _ | .shutdownSink
  | .initWriter _ _ _ | .takeFrame _ | .writeSample _ => true
  | _ => false

/-- An action that is not possible in a state leaves it as it is. -/
def step (mode : FrameHeightRoundMode) (sys : System) (a : Action) : System × List Event :=
  if sys.crashed then (sys, [])
  else if a.isApi then stepApi mode sys a
  else stepSink sys a

theorem reconfigureSinkWriter_cases (sys : System) (args : ReconfigureArgs)
    (pending : Option Pending) :
    reconfigureSinkWriter sys args pending =
        ({sys with
          encoder := releaseWriter (adopt sys.encoder args)
          api := .shuttingDown sys.encoder.mediaSink sys.encoder.encodedCompleteCallback pending},
          [.reconfigure args sys.encoder.rates]) ∨
      reconfigureSinkWriter sys args pending =
        ({sys with encoder := adopt sys.encoder args, api := resume pending},
          [.reconfigure args sys.encoder.rates]) := by
  unfold reconfigureSinkWriter
  dsimp only
  split
  · exact .inl rfl
  · exact .inr rfl

@[simp] theorem reconfigureSinkWriter_events (sys : System) (args : ReconfigureArgs)
    (pending : Option Pending) :
    (reconfigureSinkWriter sys args pending).2 = [.reconfigure args sys.encoder.rates] := by
  rcases reconfigureSinkWriter_cases sys args pending with h | h <;> rw [h]

def KeyFrameRequests (events : List Event) : Prop := ∀ e ∈ events, ∃ w, e = .forceKeyFrame w

/-- All that a step of the calling thread can do. -/
inductive ApiEffect (mode : FrameHeightRoundMode) (sys : System) :
    Action → System × List Event → Prop where
  | none {a : Action} : ApiEffect mode sys a (sys, [])
  | ratesIgnored {p : RateControlParameters} {now : Int} :
      ApiEffect mode sys (.setRates p now) (sys, [.setRates p.rates .ignored])
  | ratesPostponed {p : RateControlParameters} {now : Int} (idle : sys.api = .idle) :
      ApiEffect mode sys (.setRates p now)
        ({sys with encoder := postpone sys.encoder p.rates}, [.setRates p.rates .postponed])
  | ratesApplied {p : RateControlParameters} {now : Int} {args : ReconfigureArgs}
      (idle : sys.api = .idle) (rates : args.rates = p.rates) :
      ApiEffect mode sys (.setRates p now) ((reconfigureSinkWriter sys args none).1,
        [.setRates p.rates .applied, .reconfigure args sys.encoder.rates])
  | encodes {frame : VideoFrame} {types : Option (List VideoFrameType)} {now : Int}
      (idle : sys.api = .idle) :
      ApiEffect mode sys (.encode frame types now) ({sys with api := .sampling ⟨frame, types⟩}, [])
  | reconfigures {frame : VideoFrame} {types : Option (List VideoFrameType)} {now : Int}
      {args : ReconfigureArgs} (idle : sys.api = .idle) (inited : sys.encoder.inited = true)
      (needed : encodeReconfigures sys.encoder frame now = some args) :
      ApiEffect mode sys (.encode frame types now) ((reconfigureSinkWriter
        {sys with encoder := {sys.encoder with rateChangeRequested := false}} args
        (some ⟨frame, types⟩)).1, [.reconfigure args sys.encoder.rates])
  | registers {present : Bool} (idle : sys.api = .idle) :
      ApiEffect mode sys (.registerEncodeCompleteCallback present)
        ({sys with encoder := {sys.encoder with encodedCompleteCallback := present}}, [])
  | shutsDown {sink : Option Nat} {callback : Bool} {pending : Option Pending}
      (api : sys.api = .shuttingDown sink callback pending) :
      ApiEffect mode sys .shutdownSink (shutdownSink sys sink callback pending, [])
  | initializes {pending : Option Pending} {fail : Option WriterCall} {inited changed : Int}
      (api : sys.api = .initializing pending) :
      ApiEffect mode sys (.initWriter fail inited changed)
        (initWriter mode sys pending fail inited changed)
  | samples {p : Pending} {fail : Option FrameCall} {e : Encoder.State} {sample : Sample}
      {asked : List Event} (api : sys.api = .sampling p)
      (takes : Takes sys.encoder e (some sample)) (requests : KeyFrameRequests asked) :
      ApiEffect mode sys (.takeFrame fail) ({sys with encoder := e, api := .writing sample}, asked)
  | drops {p : Pending} {fail : Option FrameCall} {e : Encoder.State} {w : Nat} {time : Int}
      {asked : List Event} (api : sys.api = .sampling p) (takes : Takes sys.encoder e none)
      (requests : KeyFrameRequests asked) :
      ApiEffect mode sys (.takeFrame fail)
        ({sys with encoder := dropFrame e p.frame, api := .idle}, asked ++ [.streamTick w time])
  | writes {sample : Sample} {hr : HResult} {w : Nat} (api : sys.api = .writing sample)
      (current : sys.encoder.sinkWriter = some w) :
      ApiEffect mode sys (.writeSample hr) (writeSample sys sample hr)
  | crashes {a : Action} {asked : List Event} (requests : KeyFrameRequests asked) :
      ApiEffect mode sys a (sys.crash, asked)

theorem setRates_effect (mode : FrameHeightRoundMode) {sys : System} (p : RateControlParameters)
    (now : Int) (hidle : sys.api = .idle) :
    ApiEffect mode sys (.setRates p now) (setRates sys p now) := by
  unfold setRates
  dsimp only
  split
  · exact .ratesIgnored
  · split
    · exact .ratesPostponed hidle
    · rw [reconfigureSinkWriter_events]
      exact .ratesApplied hidle rfl

theorem encode_effect (mode : FrameHeightRoundMode) {sys : System} (frame : VideoFrame)
    (types : Option (List VideoFrameType)) (now : Int) (hidle : sys.api = .idle) :
    ApiEffect mode sys (.encode frame types now) (encode sys ⟨frame, types⟩ now) := by
  unfold encode
  split
  · exact .none
  · rename_i hinited
    split
    · exact .encodes hidle
    · rename_i args hargs
      have hevents := reconfigureSinkWriter_events
        {sys with encoder := {sys.encoder with rateChangeRequested := false}} args
        (some ⟨frame, types⟩)
      rw [← Prod.eta (reconfigureSinkWriter _ _ _), hevents]
      exact .reconfigures hidle (by simpa using hinited) hargs

theorem takeFrame_effect (mode : FrameHeightRoundMode) {sys : System} {p : Pending}
    (fail : Option FrameCall) (hapi : sys.api = .sampling p) :
    ApiEffect mode sys (.takeFrame fail) (takeFrame mode sys p fail) := by
  have htakes := takeFrame_takes mode sys.encoder p.frame fail
  have hasked : ∀ requested (writer : Option Nat), KeyFrameRequests
      (if requested = true then writer.toList.map Event.forceKeyFrame else []) := by
    intro requested writer e he
    split at he
    · obtain ⟨w, -, rfl⟩ := List.mem_map.mp he
      exact ⟨w, rfl⟩
    · simp at he
  unfold takeFrame
  split
  · exact .crashes (by simp [KeyFrameRequests])
  · dsimp only
    split
    · rename_i e sample he
      rw [he] at htakes
      exact .samples hapi htakes (hasked _ _)
    · rename_i e he
      rw [he] at htakes
      split
      · exact .crashes (hasked _ _)
      · exact .drops hapi htakes (hasked _ _)

theorem writeSample_effect (mode : FrameHeightRoundMode) {sys : System} {sample : Sample}
    (hr : HResult) (hapi : sys.api = .writing sample) :
    ApiEffect mode sys (.writeSample hr) (writeSample sys sample hr) := by
  cases hw : sys.encoder.sinkWriter with
  | none =>
    rw [writeSample, hw]
    exact .crashes (by simp [KeyFrameRequests])
  | some w => exact .writes hapi hw

theorem stepApi_effect (mode : FrameHeightRoundMode) (sys : System) (a : Action) :
    ApiEffect mode sys a (stepApi mode sys a) := by
  unfold stepApi
  split
  · split
    · exact setRates_effect mode _ _ ‹_›
    · exact .none
  · split
    · exact encode_effect mode _ _ _ ‹_›
    · exact .none
  · split
    · exact .registers ‹_›
    · exact .none
  · split
    · exact .shutsDown ‹_›
    · exact .none
  · split
    · exact .initializes ‹_›
    · exact .none
  · split
    · exact takeFrame_effect mode _ ‹_›
    · exact .none
  · split
    · exact writeSample_effect mode _ ‹_›
    · exact .none
  · exact .none

/-- An end of `OnH264Encoded` gives out the attributes popped before, or nothing. -/
theorem deliver_cases (sys : System) (w : Nat) (readable : Bool) :
    deliver sys w readable = (sys, []) ∨
      ∃ x attributes, (sys.writers w).running = .popped x attributes ∧
        ∃ n c evs, deliver sys w readable =
          ({sys.setRunning w .idle with
            encoder := {sys.encoder with framePendingCount := n}, crashed := c}, evs) ∧
          (evs = [] ∨ ∃ given content, attributes = some given ∧
            evs = [.onEncodedImage ⟨given, content⟩ x.sample]) := by
  unfold deliver
  split
  · rename_i x attributes hrun
    refine .inr ⟨x, attributes, hrun, ?_⟩
    split
    · split
      · exact ⟨_, _, _, rfl, .inl rfl⟩
      · exact ⟨_, _, _, rfl, .inl rfl⟩
      · rename_i content _
        refine ⟨_, _, _, rfl, ?_⟩
        split
        · exact .inr ⟨_, content, rfl, rfl⟩
        · exact .inl rfl
    · exact ⟨_, _, _, rfl, .inl rfl⟩
  · exact .inl rfl

/-- All that a step of Media Foundation or of a work queue can do to the system around the
stream sinks. -/
inductive SinkEffect (sys : System) : Action → System × List Event → Prop where
  | none {a : Action} : SinkEffect sys a (sys, [])
  | changes {a : Action} {w : Nat} {writer : Writer}
      (popped : ∀ x attributes, writer.running = .popped x attributes →
        (sys.writers w).running = .popped x attributes) :
      SinkEffect sys a (sys.setWriter w writer, [])
  | pops {w : Nat} : SinkEffect sys (.popAttributes w) (popAttributes sys w, [])
  | delivers {w : Nat} {readable : Bool} {x : Encoded} {attributes : Option CachedFrameAttributes}
      {n : Int} {c : Bool} {events : List Event}
      (running : (sys.writers w).running = .popped x attributes)
      (image : events = [] ∨ ∃ given content, attributes = some given ∧
        events = [.onEncodedImage ⟨given, content⟩ x.sample]) :
      SinkEffect sys (.deliver w readable) ({sys.setRunning w .idle with
        encoder := {sys.encoder with framePendingCount := n}, crashed := c}, events)

theorem dispatch_effect (sys : System) (w : Nat) (event : HResult) :
    SinkEffect sys (.dispatch w event) (dispatch sys w event, []) := by
  unfold dispatch
  split
  · exact .changes fun _ _ h => h
  · exact .changes (fun _ _ h => by simp at h)
  · exact .none

theorem enterCallback_effect (sys : System) (w : Nat) :
    SinkEffect sys (.enterCallback w) (enterCallback sys w, []) := by
  unfold enterCallback
  split
  · apply SinkEffect.changes
    intro x attributes h
    dsimp only at h
    split at h <;> exact absurd h (by simp)
  · exact .none

theorem stepSink_effect (sys : System) (a : Action) : SinkEffect sys a (stepSink sys a) := by
  cases a with
  | output w bytes cleanPoint put =>
    unfold stepSink output
    dsimp only
    split
    · exact .none
    · exact .changes fun _ _ h => h
  | dispatch w event => exact dispatch_effect sys w event
  | enterCallback w => exact enterCallback_effect sys w
  | popAttributes w => exact .pops
  | deliver w readable =>
    rcases deliver_cases sys w readable with h | ⟨x, attributes, hrun, n, c, events, h, himage⟩
    · rw [stepSink, h]
      exact .none
    · rw [stepSink, h]
      exact .delivers hrun himage
  | setCurrentMediaType w type answers => exact .changes fun _ _ h => h
  | start w put => exact .changes fun _ _ h => h
  | stop w put => exact .changes fun _ _ h => h
  | flush w => exact .changes fun _ _ h => h
  | placeMarker w put => exact .changes fun _ _ h => h
  | _ => exact .none

def someMemory : Uninitialised := ⟨0, 0, ⟨0, 0⟩, 0, ⟨0, 0⟩⟩

def vga : CodecSettings := ⟨true, 640, 480, 30, 51, 300, 0⟩

def frameOf (timestamp : UInt32) (width height : UInt32) : VideoFrame :=
  ⟨timestamp, 0, 0, width, height⟩

end WeiRtcNative.H264.Pipeline
