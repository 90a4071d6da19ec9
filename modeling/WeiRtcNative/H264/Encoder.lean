import WeiRtcNative.Lib.Precision
import WeiRtcNative.H264.MediaFoundation
import WeiRtcNative.H264.SampleAttributeQueue

/-!
# H264EncoderMFImpl

The fields of the encoder and the pieces of `InitEncode`, `SetRates` and `Encode` that
run without letting another thread in between: a caller of `SetRates` and `Encode`
goes through them one after the other, while the stream sinks call back. Sink writers
are numbered as their media sinks are created.
-/

namespace WeiRtcNative.H264.Encoder

open SampleAttributeQueue
set_option autoImplicit false

inductive FrameHeightRoundMode where
  | noChange
  | crop
  | pad
  deriving DecidableEq, Repr

def heightToEncode (mode : FrameHeightRoundMode) (height : UInt32) : UInt32 :=
  match mode with
  | .noChange => height
  | .crop => height &&& ~~~15
  | .pad => (height + 15) &&& ~~~15

structure VideoFrame where
  timestamp : UInt32
  ntpTimeMs : Int
  renderTimeMs : Int
  width : UInt32
  height : UInt32
  deriving DecidableEq, Repr

structure CachedFrameAttributes where
  timestamp : UInt32
  ntpTime : UInt64
  captureRenderTime : UInt64
  frameWidth : UInt32
  frameHeight : UInt32
  deriving DecidableEq, Repr

structure Rates where
  targetBps : UInt32
  frameRate : UInt32
  deriving DecidableEq, Repr

structure State where
  inited : Bool
  sinkWriter : Option Nat
  mediaSink : Option Nat
  writersCreated : Nat
  encodedCompleteCallback : Bool
  startTime : Int
  lastTimestampHns : Int
  firstFrame : Bool
  framePendingCount : Int
  frameCount : UInt32
  lastFrameDropped : Bool
  width : UInt32
  height : UInt32
  rates : Rates
  maxQp : UInt32
  lastRateChangeTimeRtcMs : Int
  rateChangeRequested : Bool
  nextRates : Rates
  sampleAttributeQueue : List (Entry CachedFrameAttributes)
  deriving DecidableEq, Repr

/-- The fields without an initialiser. -/
structure Uninitialised where
  width : UInt32
  height : UInt32
  rates : Rates
  maxQp : UInt32
  nextRates : Rates
  deriving DecidableEq, Repr

def create (u : Uninitialised) : State where
  inited := false
  sinkWriter := none
  mediaSink := none
  writersCreated := 0
  encodedCompleteCallback := false
  startTime := 0
  lastTimestampHns := 0
  firstFrame := true
  framePendingCount := 0
  frameCount := 0
  lastFrameDropped := false
  width := u.width
  height := u.height
  rates := u.rates
  maxQp := u.maxQp
  lastRateChangeTimeRtcMs := 0
  rateChangeRequested := false
  nextRates := u.nextRates
  sampleAttributeQueue := []

/-- The calls of `InitWriter` that can fail, in their order; `mediaTypes` stands for all
calls on the two media types. -/
inductive WriterCall where
  | mediaTypes
  | createMediaSink
  | creationAttributes
  | createSinkWriter
  | addStream
  | encodingAttributes
  | setInputMediaType
  | beginWriting
  deriving DecidableEq, Repr

def WriterCall.position : WriterCall → Nat
  | .mediaTypes => 0
  | .createMediaSink => 1
  | .creationAttributes => 2
  | .createSinkWriter => 3
  | .addStream => 4
  | .encodingAttributes => 5
  | .setInputMediaType => 6
  | .beginWriting => 7

/-- Whether `call` succeeded when `fail` is the first call that did not. -/
def passed (fail : Option WriterCall) (call : WriterCall) : Bool :=
  match fail with
  | none => true
  | some f => call.position < f.position

structure WriterConfig where
  rates : Rates
  width : UInt32
  encodedHeight : UInt32
  maxQp : Option UInt32
  deriving DecidableEq, Repr

def kMaxH264Qp : UInt32 := 51

def writerConfig (mode : FrameHeightRoundMode) (s : State) : WriterConfig where
  rates := s.rates
  width := s.width
  encodedHeight := heightToEncode mode s.height
  maxQp := if s.maxQp < kMaxH264Qp then some s.maxQp else none

def makeMediaSink (s : State) (fail : Option WriterCall) : State :=
  if passed fail .mediaTypes then
    if passed fail .createMediaSink then
      {s with mediaSink := some s.writersCreated, writersCreated := s.writersCreated + 1}
    else {s with mediaSink := none}
  else s

def makeSinkWriter (s : State) (fail : Option WriterCall) : State :=
  if passed fail .creationAttributes then
    {s with sinkWriter := if passed fail .createSinkWriter then s.mediaSink else none}
  else s

def initWriter (s : State) (fail : Option WriterCall) (now : Int) : State :=
  let s := makeSinkWriter (makeMediaSink s fail) fail
  if fail.isNone then {s with inited := true, lastRateChangeTimeRtcMs := now} else s

theorem initWriter_nextRates (s : State) (fail : Option WriterCall) (now : Int) :
    (initWriter s fail now).nextRates = s.nextRates := by
  unfold initWriter makeSinkWriter makeMediaSink
  dsimp only
  repeat' split
  all_goals rfl

theorem initWriter_queue (s : State) (fail : Option WriterCall) (now : Int) :
    (initWriter s fail now).sampleAttributeQueue = s.sampleAttributeQueue := by
  unfold initWriter makeSinkWriter makeMediaSink
  dsimp only
  repeat' split
  all_goals rfl

/-- From no writer, `InitWriter` comes to none or to a new one. -/
theorem initWriter_sinkWriter {s : State} (h : s.sinkWriter = none) (fail : Option WriterCall)
    (now : Int) :
    (initWriter s fail now).sinkWriter = none ∨
      (initWriter s fail now).sinkWriter = some s.writersCreated := by
  cases fail with
  | none => exact .inr (by simp [initWriter, makeSinkWriter, makeMediaSink, passed])
  | some f =>
    cases f <;>
      simp [initWriter, makeSinkWriter, makeMediaSink, passed, WriterCall.position, h]

structure CodecSettings where
  isH264 : Bool
  width : UInt16
  height : UInt16
  maxFramerate : UInt32
  qpMax : UInt32
  startBitrate : UInt32
  minBitrate : UInt32
  deriving DecidableEq, Repr

def CodecSettings.accepted (c : CodecSettings) : Bool :=
  c.isH264 && c.maxFramerate != 0 && !(c.width < 1 || c.height < 1)

def CodecSettings.targetBps (c : CodecSettings) : UInt32 :=
  if 0 < c.startBitrate then c.startBitrate * 1000
  else if 0 < c.minBitrate then c.minBitrate * 1000
  else c.width.toUInt32 * c.height.toUInt32 * 2

/-- `InitEncode` of accepted settings, up to `InitWriter`. -/
def configure (s : State) (c : CodecSettings) : State :=
  {s with
    width := c.width.toUInt32
    height := c.height.toUInt32
    rates := ⟨c.targetBps, c.maxFramerate⟩
    maxQp := min c.qpMax kMaxH264Qp}

def initEncode (s : State) (c : CodecSettings) (fail : Option WriterCall) (now : Int) : State :=
  if c.accepted then initWriter (configure s c) fail now else s

/-- The part of `ReleaseWriter` under `crit_`; the media sink is shut down afterwards. -/
def releaseWriter (s : State) : State :=
  {s with
    sinkWriter := none
    mediaSink := none
    startTime := 0
    lastTimestampHns := 0
    firstFrame := true
    inited := false
    framePendingCount := 0
    sampleAttributeQueue := []
    encodedCompleteCallback := false}

def kMinIntervalBetweenRateChangesMs : Int := 5000

/-- The float nearest to `0.1`. -/
def kMinRateVariation : ℚ := 13421773 / 2 ^ 27

/-- `std::abs((int)old - (int)new) > old * kMinRateVariation`, in single precision. -/
def variesEnough (old new : UInt32) : Bool :=
  Precision.toBits 24 (Precision.toBits 24 old.toNat * kMinRateVariation) <
    Precision.toBits 24 |((old.toInt32 - new.toInt32).toInt : ℚ)|

example : Precision.toBits 24 (1 / 10) = kMinRateVariation := by decide +kernel

/-- The values in force after `ReconfigureSinkWriter`, small changes being ignored. -/
def Rates.follow (r new : Rates) : Rates where
  targetBps := if variesEnough r.targetBps new.targetBps then new.targetBps else r.targetBps
  frameRate := if variesEnough r.frameRate new.frameRate then new.frameRate else r.frameRate

structure ReconfigureArgs where
  width : UInt32
  height : UInt32
  rates : Rates
  deriving DecidableEq, Repr

def adopt (s : State) (args : ReconfigureArgs) : State :=
  {s with width := args.width, height := args.height, rates := s.rates.follow args.rates}

def replacesWriter (s : State) (args : ReconfigureArgs) : Bool :=
  s.width != args.width || s.height != args.height ||
    variesEnough s.rates.targetBps args.rates.targetBps ||
    variesEnough s.rates.frameRate args.rates.frameRate

structure RateControlParameters where
  sumBps : UInt32
  framerateFps : ℚ
  deriving DecidableEq, Repr

def RateControlParameters.getSumKbps (p : RateControlParameters) : UInt32 := p.sumBps / 1000

def RateControlParameters.rates (p : RateControlParameters) : Rates :=
  ⟨p.getSumKbps * 1000, UInt32.ofInt (Precision.truncate p.framerateFps)⟩

/-- `SetRates` goes past its first two tests. -/
def takesRates (s : State) (p : RateControlParameters) : Bool :=
  s.sinkWriter.isSome && p.framerateFps != 0

def postpones (s : State) (now : Int) : Bool :=
  0 < kMinIntervalBetweenRateChangesMs - (now - s.lastRateChangeTimeRtcMs)

def postpone (s : State) (r : Rates) : State :=
  {s with nextRates := r, rateChangeRequested := true}

def resChanged (s : State) (frame : VideoFrame) : Bool :=
  frame.width != s.width || frame.height != s.height

def shouldChangeRateNow (s : State) (now : Int) : Bool :=
  s.rateChangeRequested && kMinIntervalBetweenRateChangesMs < now - s.lastRateChangeTimeRtcMs

/-- Whether `Encode` calls `ReconfigureSinkWriter`, and with which arguments. -/
def encodeReconfigures (s : State) (frame : VideoFrame) (now : Int) : Option ReconfigureArgs :=
  if resChanged s frame || shouldChangeRateNow s now then
    some ⟨frame.width, frame.height, s.nextRates⟩
  else none

def getFrameTimestampHns (s : State) (frame : VideoFrame) : Int :=
  ((frame.timestamp.toNat - s.startTime) * 10000).tdiv 90

/-- What the entry pushed for a frame says about it and about the time of its sample. -/
structure Describes (entry : Entry CachedFrameAttributes) (frame : VideoFrame) (time : UInt64) :
    Prop where
  id : entry.id = time
  timestamp : entry.value.timestamp = frame.timestamp
  ntpTime : entry.value.ntpTime = UInt64.ofInt frame.ntpTimeMs
  width : entry.value.frameWidth = frame.width

/-- A sample made of `frame`. `cached` is the entry that `FromVideoFrame` pushed for it. -/
structure Sample where
  frame : VideoFrame
  timeHns : Option Int
  durationHns : Option Int
  discontinuity : Bool
  cached : Option (Entry CachedFrameAttributes)
  -- a sample without a time reads as zero in OnH264Encoded
  describes : ∀ entry ∈ cached, Describes entry frame (UInt64.ofInt (timeHns.getD 0))
  deriving DecidableEq, Repr

/-- `GetSampleTime`, which leaves the initial zero when the sample has no time. -/
def sampleTimestamp (sample : Sample) : UInt64 := UInt64.ofInt (sample.timeHns.getD 0)

theorem Sample.cached_id {sample : Sample} {entry : Entry CachedFrameAttributes}
    (h : sample.cached = some entry) : sampleTimestamp sample = entry.id :=
  (sample.describes entry h).id.symm

def Sample.uncached (frame : VideoFrame) (timeHns : Option Int) (discontinuity : Bool) : Sample :=
  ⟨frame, timeHns, none, discontinuity, none, by simp⟩

/-- The calls of `FromVideoFrame` that can fail, in their order. -/
inductive FrameCall where
  | createSample
  | sampleAttributes
  | mediaBuffer
  | setSampleTime
  | setSampleDuration
  | addBuffer
  deriving DecidableEq, Repr

def cachedAttributes (mode : FrameHeightRoundMode) (s : State) (frame : VideoFrame) :
    CachedFrameAttributes where
  timestamp := frame.timestamp
  ntpTime := UInt64.ofInt frame.ntpTimeMs
  captureRenderTime := UInt64.ofInt frame.renderTimeMs
  frameWidth := frame.width
  frameHeight := heightToEncode mode s.height

def noteFirstFrame (s : State) (frame : VideoFrame) : State :=
  if s.firstFrame then {s with firstFrame := false, startTime := frame.timestamp.toNat} else s

/-- The sample with its times set, and the entry pushed for it. -/
def Sample.cache (mode : FrameHeightRoundMode) (s : State) (frame : VideoFrame) : Sample where
  frame := frame
  timeHns := some (getFrameTimestampHns s frame)
  durationHns := some (getFrameTimestampHns s frame - s.lastTimestampHns)
  discontinuity := s.lastFrameDropped
  cached := some ⟨UInt64.ofInt (getFrameTimestampHns s frame), cachedAttributes mode s frame⟩
  describes := by
    intro entry hentry
    obtain rfl := Option.some.inj hentry
    exact ⟨rfl, rfl, rfl, rfl⟩

def stamp (mode : FrameHeightRoundMode) (s : State) (frame : VideoFrame)
    (fail : Option FrameCall) : State × Sample :=
  let time := getFrameTimestampHns s frame
  match fail with
  | some .mediaBuffer | some .setSampleTime => (s, .uncached frame none s.lastFrameDropped)
  | some .setSampleDuration => (s, .uncached frame (some time) s.lastFrameDropped)
  | _ =>
    ({s with
        lastTimestampHns := time
        sampleAttributeQueue :=
          push s.sampleAttributeQueue (UInt64.ofInt time) (cachedAttributes mode s frame)},
      .cache mode s frame)

def fromVideoFrame (mode : FrameHeightRoundMode) (s : State) (frame : VideoFrame)
    (fail : Option FrameCall) : State × Option Sample :=
  match fail with
  | some .createSample => (s, none)
  | some .sampleAttributes => (s, some (.uncached frame none false))
  | _ =>
    let (s, sample) := stamp mode (noteFirstFrame s frame) frame fail
    ({s with lastFrameDropped := false}, some sample)

def hasRoom (s : State) : Bool := size s.sampleAttributeQueue ≤ 2

def takeFrame (mode : FrameHeightRoundMode) (s : State) (frame : VideoFrame)
    (fail : Option FrameCall) : State × Option Sample :=
  if hasRoom s then fromVideoFrame mode s frame fail else (s, none)

/-- What taking a frame leaves alone, and the entry it pushes for the sample it makes. -/
structure Takes (s t : State) (sample : Option Sample) : Prop where
  sinkWriter : t.sinkWriter = s.sinkWriter
  nextRates : t.nextRates = s.nextRates
  queue : t.sampleAttributeQueue = s.sampleAttributeQueue ++ (sample.bind Sample.cached).toList

theorem stamp_takes (mode : FrameHeightRoundMode) (s : State) (frame : VideoFrame)
    (fail : Option FrameCall) :
    Takes s (stamp mode s frame fail).1 (some (stamp mode s frame fail).2) := by
  unfold stamp
  dsimp only
  split
  all_goals exact ⟨rfl, rfl, by simp [push, Sample.cache, Sample.uncached]⟩

theorem Takes.of_state {s s' t t' : State} {sample : Option Sample} (h : Takes s' t' sample)
    (hs : s'.sinkWriter = s.sinkWriter ∧ s'.nextRates = s.nextRates ∧
      s'.sampleAttributeQueue = s.sampleAttributeQueue)
    (ht : t.sinkWriter = t'.sinkWriter ∧ t.nextRates = t'.nextRates ∧
      t.sampleAttributeQueue = t'.sampleAttributeQueue) : Takes s t sample where
  sinkWriter := ht.1.trans (h.sinkWriter.trans hs.1)
  nextRates := ht.2.1.trans (h.nextRates.trans hs.2.1)
  queue := by rw [ht.2.2, h.queue, hs.2.2]

theorem takes_nothing (s : State) : Takes s s none := ⟨rfl, rfl, by simp⟩

theorem fromVideoFrame_takes (mode : FrameHeightRoundMode) (s : State) (frame : VideoFrame)
    (fail : Option FrameCall) :
    Takes s (fromVideoFrame mode s frame fail).1 (fromVideoFrame mode s frame fail).2 := by
  unfold fromVideoFrame
  split
  · exact takes_nothing s
  · exact ⟨rfl, rfl, by simp [Sample.uncached]⟩
  · refine (stamp_takes mode (noteFirstFrame s frame) frame fail).of_state ?_ ⟨rfl, rfl, rfl⟩
    unfold noteFirstFrame
    split <;> exact ⟨rfl, rfl, rfl⟩

theorem takeFrame_takes (mode : FrameHeightRoundMode) (s : State) (frame : VideoFrame)
    (fail : Option FrameCall) :
    Takes s (takeFrame mode s frame fail).1 (takeFrame mode s frame fail).2 := by
  unfold takeFrame
  split
  · exact fromVideoFrame_takes mode s frame fail
  · exact takes_nothing s

def dropFrame (s : State) (frame : VideoFrame) : State :=
  {s with lastFrameDropped := true, lastTimestampHns := getFrameTimestampHns s frame}

def countFrame (s : State) : State :=
  {s with frameCount := s.frameCount + 1, framePendingCount := s.framePendingCount + 1}

end WeiRtcNative.H264.Encoder
