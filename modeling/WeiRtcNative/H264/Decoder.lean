import WeiRtcNative.Lib.Machine
import WeiRtcNative.Lib.Precision
import WeiRtcNative.H264.MediaFoundation

/-!
# H264DecoderMFImpl

A call takes the answers of the Media Foundation calls it makes as an argument and
logs what it does to the transforms: creating one, flushing one, giving one a sample.
Transforms are numbered as they are created. `require_keyframe_` is cleared when a key
image is let through, before the transform has accepted it, and neither `Release` nor
`InitDecode` sets it again.
-/

namespace WeiRtcNative.H264.Decoder

open Machine
set_option autoImplicit false

/-- `data()` and `size()`; a null pointer can come with any size. -/
inductive ImageData where
  | null (size : Nat)
  | bytes (data : List UInt8)
  deriving DecidableEq, Repr

structure EncodedImage where
  data : ImageData
  frameType : VideoFrameType
  completeFrame : Bool
  timestamp : UInt32
  ntpTimeMs : Int
  deriving DecidableEq, Repr

structure InputMediaType where
  frameRate : Option UInt32
  frameSize : Option (UInt32 × UInt32)
  deriving DecidableEq, Repr

structure Sample where
  bytes : List UInt8
  timeHns : Int
  cleanPoint : Bool
  discontinuity : Bool
  deriving DecidableEq, Repr

inductive Event where
  | created (instance_ : Nat)
  | setInputType (instance_ : Nat) (type : InputMediaType)
  | flush (instance_ : Nat)
  | processInput (instance_ : Nat) (image : EncodedImage) (sample : Sample) (hr : HResult)
  | decoded (timestamp : UInt32) (ntpTimeMs : Int) (width height : UInt32)
  | nullDecoderUsed
  | returned (code : CodecResult)
  deriving DecidableEq, Repr

structure State where
  decoder : Option Nat
  created : Nat
  inited : Bool
  requireKeyframe : Bool
  firstFrameRtp : UInt32
  width : Option UInt32
  height : Option UInt32
  decodeCompleteCallback : Bool
  crashed : Bool
  deriving DecidableEq, Repr

def create : State where
  decoder := none
  created := 0
  inited := false
  requireKeyframe := true
  firstFrameRtp := 0
  width := none
  height := none
  decodeCompleteCallback := false
  crashed := false

/-- The answers about one entry of the transform's list of output types. -/
structure OutputType where
  getOutputAvailableType : HResult
  getGUID : HResult
  isNV12 : Bool
  deriving DecidableEq, Repr

/-- The end of the list stands for `MF_E_NO_MORE_TYPES`. -/
def configureOutputMediaType (setOutputType : HResult) : List OutputType → HResult × Bool
  | [] => (.ok, false)
  | t :: ts =>
    if t.getOutputAvailableType = .noMoreTypes then (.ok, false)
    else
      let hr := t.getOutputAvailableType.andThen t.getGUID
      if hr.failed then (hr, false)
      else if t.isNV12 then (setOutputType, !setOutputType.failed)
      else configureOutputMediaType setOutputType ts

structure CodecSettings where
  width : UInt16
  height : UInt16
  maxFramerate : UInt32
  deriving DecidableEq, Repr

def positive (n : UInt32) : Option UInt32 := if 0 < n then some n else none

def createInputMediaType (width height frameRate : Option UInt32) : InputMediaType :=
  ⟨frameRate, match width, height with
    | some w, some h => some (w, h)
    | _, _ => none⟩

structure InitAnswers where
  coCreateInstance : HResult
  createInputMediaType : HResult
  setInputType : HResult
  outputTypes : List OutputType
  setOutputType : HResult
  getInputStatus : HResult
  acceptsData : Bool
  flush : HResult
  beginStreaming : HResult
  startOfStream : HResult
  deriving DecidableEq, Repr

/-- `InitDecode` after `CoCreateInstance` made the transform `i`. -/
def configure (s : State) (i : Nat) (settings : CodecSettings) (a : InitAnswers) :
    State × List Event × CodecResult :=
  if a.createInputMediaType.failed then (s, [], .error)
  else
    let type := createInputMediaType s.width s.height (positive settings.maxFramerate)
    if a.setInputType.failed then (s, [.setInputType i type], .error)
    else
      let (hr, suitableTypeFound) := configureOutputMediaType a.setOutputType a.outputTypes
      if hr.failed || !suitableTypeFound then (s, [.setInputType i type], .error)
      else if a.getInputStatus.failed then
        -- no message is sent and the error is returned, but inited_ is set
        ({s with inited := true}, [.setInputType i type], .error)
      else if !a.acceptsData then (s, [.setInputType i type], .error)
      else
        let hr := (a.flush.andThen a.beginStreaming).andThen a.startOfStream
        ({s with inited := true}, [.setInputType i type, .flush i],
          if hr.failed then .error else .ok)

/-- Taking the address of `decoder_` releases the transform it held. -/
def initDecode (s : State) (settings : CodecSettings) (a : InitAnswers) :
    State × List Event × CodecResult :=
  let s := {s with
    width := positive settings.width.toUInt32
    height := positive settings.height.toUInt32}
  if a.coCreateInstance.failed then ({s with decoder := none}, [], .error)
  else
    let i := s.created
    let (s, events, code) :=
      configure {s with decoder := some i, created := s.created + 1} i settings a
    (s, .created i :: events, code)

structure EnqueueAnswers where
  bufferFails : Bool
  setSampleTimeFails : Bool
  attributesFail : Bool
  setCleanPointFails : Bool
  setDiscontinuityFails : Bool
  processInput : HResult
  deriving DecidableEq, Repr

/-- The double `(ts - first) / 90.0 + 0.5f`, the difference taken in 64 bits. -/
def sampleTimeMs (first ts : UInt32) : Int :=
  let ticks : UInt64 := ts.toUInt64 - first.toUInt64
  let ms := Precision.toBits 53 (Precision.toBits 53 ticks.toNat / 90)
  Precision.truncate (Precision.toBits 53 (ms + 1 / 2))

def EncodedImage.cleanPoint (image : EncodedImage) : Bool :=
  image.frameType == .key && image.completeFrame

def ImageData.copied : ImageData → List UInt8
  | .null _ => []
  | .bytes data => data

def enqueueFrame (s : State) (image : EncodedImage) (missingFrames : Bool) (a : EnqueueAnswers) :
    State × List Event × HResult :=
  if a.bufferFails then (s, [], .fail)
  else
    let (s, ms) :=
      if s.firstFrameRtp = 0 then ({s with firstFrameRtp := image.timestamp}, 0)
      else (s, sampleTimeMs s.firstFrameRtp image.timestamp)
    if a.setSampleTimeFails then (s, [], .fail)
    else
      let sample : Sample :=
        { bytes := image.data.copied
          timeHns := (ms * 10000).bmod (2 ^ 64)
          cleanPoint := !a.attributesFail && image.cleanPoint && !a.setCleanPointFails
          discontinuity := !a.attributesFail && missingFrames && !a.setDiscontinuityFails }
      match s.decoder with
      | none => ({s with crashed := true}, [.nullDecoderUsed], .fail)
      | some i => (s, [.processInput i image sample a.processInput], a.processInput)

/-- The value of `EnqueueFrame` on a transform. -/
def EnqueueAnswers.result (a : EnqueueAnswers) : HResult :=
  if a.bufferFails || a.setSampleTimeFails then .fail else a.processInput

theorem enqueueFrame_some (s : State) (image : EncodedImage) (missingFrames : Bool)
    (a : EnqueueAnswers) {i : Nat} (hd : s.decoder = some i) :
    ∃ t, t.decoder = some i ∧ t.requireKeyframe = s.requireKeyframe ∧ t.crashed = s.crashed ∧
      (a.result = .fail ∧ enqueueFrame s image missingFrames a = (t, [], .fail) ∨
        ∃ sample, enqueueFrame s image missingFrames a =
          (t, [.processInput i image sample a.result], a.result)) := by
  unfold enqueueFrame EnqueueAnswers.result
  cases hb : a.bufferFails with
  | true => exact ⟨s, hd, rfl, rfl, .inl ⟨by simp, by simp⟩⟩
  | false =>
    by_cases hf : s.firstFrameRtp = 0
    · refine ⟨{s with firstFrameRtp := image.timestamp}, hd, rfl, rfl, ?_⟩
      cases ht : a.setSampleTimeFails <;> simp [hf, hd]
    · refine ⟨s, hd, rfl, rfl, ?_⟩
      cases ht : a.setSampleTimeFails <;> simp [hf, hd]

theorem enqueueFrame_none (s : State) (image : EncodedImage) (missingFrames : Bool)
    (a : EnqueueAnswers) (hd : s.decoder = none) :
    ∃ t, t.decoder = none ∧
      (enqueueFrame s image missingFrames a = (t, [], .fail) ∨
        enqueueFrame s image missingFrames a = (t, [.nullDecoderUsed], .fail)) := by
  unfold enqueueFrame
  cases hb : a.bufferFails with
  | true => exact ⟨s, hd, .inl (by simp)⟩
  | false =>
    by_cases hf : s.firstFrameRtp = 0
    · cases ht : a.setSampleTimeFails <;> simp [hf, hd]
    · cases ht : a.setSampleTimeFails <;> simp [hf, hd]

/-- How the loop of `FlushFrames` went: the sizes of the pictures delivered, the size
of a picture lost after `ProcessOutput`, and the value returned. -/
structure Outputs where
  pictures : List (UInt32 × UInt32)
  lost : Option (UInt32 × UInt32)
  result : HResult
  deriving DecidableEq, Repr

def flushFrames (s : State) (timestamp : UInt32) (ntpTimeMs : Int) (o : Outputs) :
    State × List Event × HResult :=
  let s := match o.lost.or o.pictures.getLast? with
    | some (w, h) => {s with width := some w, height := some h}
    | none => s
  (s, o.pictures.map fun p => .decoded timestamp ntpTimeMs p.1 p.2, o.result)

structure DecodeAnswers where
  enqueue : EnqueueAnswers
  flush : HResult
  enqueueAgain : EnqueueAnswers
  outputs : Outputs
  outputTypes : List OutputType
  setOutputType : HResult
  outputsAgain : Outputs
  deriving DecidableEq, Repr

def drain (s : State) (image : EncodedImage) (a : DecodeAnswers) :
    State × List Event × CodecResult :=
  let done (hr : HResult) : CodecResult :=
    if hr = .ok ∨ hr = .needMoreInput then .ok else .error
  let (s, events, hr) := flushFrames s image.timestamp image.ntpTimeMs a.outputs
  if hr = .streamChange then
    let (hr, suitableTypeFound) := configureOutputMediaType a.setOutputType a.outputTypes
    if hr.failed || !suitableTypeFound then (s, events, .error)
    else
      let (s, more, hr) := flushFrames {s with width := none, height := none}
        image.timestamp image.ntpTimeMs a.outputsAgain
      (s, events ++ more, done hr)
  else (s, events, done hr)

structure Drains (s t : State) (events : List Event) : Prop where
  decoder : t.decoder = s.decoder
  requireKeyframe : t.requireKeyframe = s.requireKeyframe
  crashed : t.crashed = s.crashed
  events : ∀ e ∈ events, ∃ timestamp ntp w h, e = .decoded timestamp ntp w h

theorem flushFrames_drains (s : State) (timestamp : UInt32) (ntpTimeMs : Int) (o : Outputs) :
    Drains s (flushFrames s timestamp ntpTimeMs o).1 (flushFrames s timestamp ntpTimeMs o).2.1 := by
  have hevents : ∀ e ∈ (flushFrames s timestamp ntpTimeMs o).2.1,
      ∃ timestamp ntp w h, e = .decoded timestamp ntp w h := by
    intro e he
    obtain ⟨p, -, rfl⟩ := List.mem_map.mp he
    exact ⟨_, _, _, _, rfl⟩
  refine ⟨?_, ?_, ?_, hevents⟩ <;> simp only [flushFrames] <;> split <;> rfl

theorem drain_drains (s : State) (image : EncodedImage) (a : DecodeAnswers) :
    Drains s (drain s image a).1 (drain s image a).2.1 := by
  have hfirst := flushFrames_drains s image.timestamp image.ntpTimeMs a.outputs
  unfold drain
  dsimp only
  split
  · split
    · exact hfirst
    · have hagain := flushFrames_drains
        {(flushFrames s image.timestamp image.ntpTimeMs a.outputs).1 with width := none, height := none}
        image.timestamp image.ntpTimeMs a.outputsAgain
      refine ⟨hagain.decoder.trans hfirst.decoder,
        hagain.requireKeyframe.trans hfirst.requireKeyframe,
        hagain.crashed.trans hfirst.crashed, ?_⟩
      intro e he
      rcases List.mem_append.mp he with he | he
      · exact hfirst.events e he
      · exact hagain.events e he
  · exact hfirst

/-- The enqueueing of `Decode`: a full transform is flushed, and a key image retried. -/
def enqueueOrFlush (s : State) (image : EncodedImage) (missingFrames : Bool) (a : DecodeAnswers) :
    State × List Event × HResult :=
  let (s, events, hr) := enqueueFrame s image missingFrames a.enqueue
  if hr = .notAccepting then
    let flushed := s.decoder.toList.map Event.flush
    if image.frameType = .key then
      if a.flush.failed then (s, events ++ flushed, a.flush)
      else
        let (s, more, hr) := enqueueFrame s image missingFrames a.enqueueAgain
        (s, events ++ flushed ++ more, hr)
    else ({s with requireKeyframe := true}, events ++ flushed, .fail)
  else (s, events, hr)

def ImageData.missing : ImageData → Bool
  | .null size => 0 < size
  | .bytes _ => false

/-- What `Decode` refuses before it looks at the kind of image. -/
def refused (s : State) (image : EncodedImage) : Option CodecResult :=
  if !s.inited then some .uninitialized
  else if !s.decodeCompleteCallback then some .uninitialized
  else if image.data.missing then some .errParameter
  else none

def State.openGate (s : State) : State := {s with requireKeyframe := false}

def decode (s : State) (image : EncodedImage) (missingFrames : Bool) (a : DecodeAnswers) :
    State × List Event × CodecResult :=
  match refused s image with
  | some code => (s, [], code)
  | none =>
    if s.requireKeyframe && !image.cleanPoint then (s, [], .error)
    else
      let (s, events, hr) := enqueueOrFlush s.openGate image missingFrames a
      if hr.failed then (s, events, .error)
      else
        let (s, more, code) := drain s image a
        (s, events ++ more, code)

structure ReleaseAnswers where
  endOfStream : HResult
  drain : HResult
  deriving DecidableEq, Repr

def release (s : State) (a : ReleaseAnswers) : State × List Event × CodecResult :=
  let flushed := if (a.endOfStream.andThen a.drain).failed then [] else
    s.decoder.toList.map Event.flush
  ({s with inited := false, decoder := none}, flushed, .ok)

inductive Call where
  | initDecode (settings : CodecSettings) (answers : InitAnswers)
  | registerDecodeCompleteCallback (present : Bool)
  | decode (image : EncodedImage) (missingFrames : Bool) (answers : DecodeAnswers)
  | release (answers : ReleaseAnswers)
  deriving DecidableEq, Repr

def call (s : State) : Call → State × List Event × CodecResult
  | .initDecode settings a => initDecode s settings a
  | .registerDecodeCompleteCallback present => ({s with decodeCompleteCallback := present}, [], .ok)
  | .decode image missingFrames a => decode s image missingFrames a
  | .release a => release s a

/-- A use of a null `decoder_` ends the process. -/
def step (s : State) (c : Call) : State × List Event :=
  if s.crashed then (s, [])
  else
    let (s, events, code) := call s c
    (s, events ++ if s.crashed then [] else [.returned code])

end WeiRtcNative.H264.Decoder
