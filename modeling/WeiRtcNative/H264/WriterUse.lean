import Mathlib.Data.List.Induction
import WeiRtcNative.Lib.Machine
import WeiRtcNative.H264.Encoder

/-!
# Uses of the sink writer

Whole calls of `H264EncoderMFImpl`, one after the other. `ReconfigureSinkWriter` does not look at
the result of `InitWriter` and `Encode` goes on with `sinkWriter_` as it is left, null or half made.
`InitEncode` reports a failed `InitWriter` but leaves `inited_` set if it was. While `Encode` runs,
`OnH264Encoded` may take entries out of the attribute queue.
-/

namespace WeiRtcNative.H264.WriterUse

open Machine Encoder
set_option autoImplicit false

inductive Use where
  | keyFrameRequest
  | writeSample
  | sendStreamTick
  | notifyEndOfSegment
  deriving DecidableEq, Repr

inductive Event where
  | initWriter (fail : Option WriterCall)
  | releaseWriter
  | encodeCalled
  | used (use : Use)
  | encodeReturned (code : CodecResult)
  deriving DecidableEq, Repr

/-- The first call of `InitWriter` that fails, the time it reads, and the time read after it. -/
structure Reinit where
  fail : Option WriterCall
  inited : Int
  changed : Int
  deriving DecidableEq, Repr

structure EncodeArgs where
  frame : VideoFrame
  frameTypes : Option (List VideoFrameType)
  now : Int
  reinit : Reinit
  encoded : List UInt64
  fromVideoFrame : Option FrameCall
  writeSample : HResult
  deriving DecidableEq, Repr

/-- Settings that are null are `none`. -/
inductive Call where
  | initEncode (settings : Option CodecSettings) (fail : Option WriterCall) (now : Int)
  | registerEncodeCompleteCallback (present : Bool)
  | setRates (parameters : RateControlParameters) (now : Int) (reinit : Reinit)
  | encode (args : EncodeArgs)
  | onH264Encoded (sampleTimestamp : UInt64)
  | release
  deriving DecidableEq, Repr

structure System where
  encoder : Encoder.State
  crashed : Bool
  deriving DecidableEq, Repr

def create (u : Uninitialised) : System := ⟨Encoder.create u, false⟩

def initEncode (s : Encoder.State) (settings : Option CodecSettings) (fail : Option WriterCall)
    (now : Int) : Encoder.State × List Event :=
  match settings with
  | none => (s, [])
  | some c => (Encoder.initEncode s c fail now, if c.accepted then [.initWriter fail] else [])

def reconfigureSinkWriter (s : Encoder.State) (args : ReconfigureArgs) (r : Reinit) :
    Encoder.State × List Event × CodecResult :=
  if replacesWriter s args then
    let released := {releaseWriter (adopt s args) with
      encodedCompleteCallback := s.encodedCompleteCallback}
    ({initWriter released r.fail r.inited with lastRateChangeTimeRtcMs := r.changed},
      [.releaseWriter, .initWriter r.fail], .ok)
  else (adopt s args, [], .ok)

def setRates (s : Encoder.State) (p : RateControlParameters) (now : Int) (r : Reinit) :
    Encoder.State × List Event :=
  if !takesRates s p then (s, [])
  else if postpones s now then (postpone s p.rates, [])
  else
    let (s, events, _) := reconfigureSinkWriter s ⟨s.width, s.height, p.rates⟩ r
    (s, events)

def onH264Encoded (s : Encoder.State) (sampleTimestamp : UInt64) : Encoder.State :=
  {s with sampleAttributeQueue := (SampleAttributeQueue.pop sampleTimestamp s.sampleAttributeQueue).2}

def keyFrameRequested (a : EncodeArgs) : Bool := (a.frameTypes.getD []).contains .key

/-- `Encode` from the sample on, or from its absence; no code is returned when `sinkWriter_` is
null. -/
def writeFrame (s : Encoder.State) (sample : Option Sample) (a : EncodeArgs) :
    Encoder.State × List Use × Option CodecResult :=
  match s.sinkWriter, sample with
  | none, none => (s, [.sendStreamTick], none)
  | some _, none => (dropFrame s a.frame, [.sendStreamTick], some .ok)
  | none, some _ => (s, [.writeSample], none)
  | some _, some _ =>
    let s := countFrame s
    let segment := !a.writeSample.failed && s.frameCount % 30 == 0
    (s, .writeSample :: if segment then [.notifyEndOfSegment] else [], some .ok)

/-- `Encode` after its first locked part. -/
def useWriter (mode : FrameHeightRoundMode) (s : Encoder.State) (a : EncodeArgs) :
    Encoder.State × List Use × Option CodecResult :=
  let asked := if keyFrameRequested a then [Use.keyFrameRequest] else []
  if keyFrameRequested a && s.sinkWriter.isNone then (s, asked, none)
  else
    let (s, sample) := takeFrame mode (a.encoded.foldl onH264Encoded s) a.frame a.fromVideoFrame
    let (s, uses, code) := writeFrame s sample a
    (s, asked ++ uses, code)

def encode (mode : FrameHeightRoundMode) (s : Encoder.State) (a : EncodeArgs) :
    Encoder.State × List Event × Option CodecResult :=
  if !s.inited then (s, [], some .uninitialized)
  else
    match encodeReconfigures s a.frame a.now with
    | none =>
      let (s, uses, code) := useWriter mode s a
      (s, uses.map .used, code)
    | some args =>
      let (s, events, res) := reconfigureSinkWriter s args a.reinit
      if res ≠ .ok then (s, events, some res)
      else
        let (s, uses, code) := useWriter mode {s with rateChangeRequested := false} a
        (s, events ++ uses.map .used, code)

/-- A use of a null `sinkWriter_` ends the process. -/
def step (mode : FrameHeightRoundMode) (sys : System) (c : Call) : System × List Event :=
  if sys.crashed then (sys, [])
  else
    let s := sys.encoder
    match c with
    | .initEncode settings fail now =>
      let (s, events) := initEncode s settings fail now
      (⟨s, false⟩, events)
    | .registerEncodeCompleteCallback present =>
      (⟨{s with encodedCompleteCallback := present}, false⟩, [])
    | .setRates p now r =>
      let (s, events) := setRates s p now r
      (⟨s, false⟩, events)
    | .encode a =>
      let (s, events, code) := encode mode s a
      (⟨s, code.isNone⟩, .encodeCalled :: events ++ code.toList.map .encodeReturned)
    | .onH264Encoded time => (⟨onH264Encoded s time, false⟩, [])
    | .release => (⟨releaseWriter s, false⟩, [.releaseWriter])

def Event.ready (was : Bool) : Event → Bool
  | .initWriter fail => fail.isNone
  | .releaseWriter => false
  | _ => was

/-- The most recent `InitWriter` succeeded and no `ReleaseWriter` came after it. -/
def ready (log : List Event) : Bool := log.foldl Event.ready false

def Event.failing (was : Bool) : Event → Bool
  | .encodeCalled => false
  | .initWriter fail => was || fail.isSome
  | _ => was

/-- An `InitWriter` failed in the last `Encode`. -/
def reconfigurationFailed (log : List Event) : Bool := log.foldl Event.failing false

def SoundAt (log : List Event) : Event → Prop
  | .used _ => ready log = true
  | .encodeReturned code => reconfigurationFailed log = true → code ≠ .ok
  | _ => True

def Event.broken (was : Bool) : Event → Bool
  | .initWriter fail => fail.isSome
  | .releaseWriter => false
  | _ => was

/-- The calls of the last `InitWriter` did not all succeed, and there was no `ReleaseWriter` since. -/
def lastInitFailed (log : List Event) : Bool := log.foldl Event.broken false

def encodeReplaces (s : Encoder.State) (a : EncodeArgs) : Bool :=
  match encodeReconfigures s a.frame a.now with
  | none => false
  | some args => replacesWriter s args

/-- An `Encode` that replaces the writer gets a whole one, and any other comes with a writer that
was not broken by a failed `InitEncode`. -/
def Admits (log : List Event) (sys : System) : Call → Prop
  | .encode a => sys.encoder.inited = true →
    if encodeReplaces sys.encoder a then a.reinit.fail = none else lastInitFailed log = false
  | _ => True

section Writer

theorem initWriter_succeeds (s : Encoder.State) (now : Int) :
    (initWriter s none now).sinkWriter.isSome = true := by
  simp [initWriter, makeSinkWriter, makeMediaSink, passed]

theorem foldl_onH264Encoded (s : Encoder.State) (times : List UInt64) :
    (times.foldl onH264Encoded s).sinkWriter = s.sinkWriter := by
  induction times generalizing s with
  | nil => rfl
  | cons time times ih => exact ih (onH264Encoded s time)

/-- What the second half of `Encode` does: it uses the writer, and returns if there is one. -/
structure Uses (s : Encoder.State) (r : Encoder.State × List Use × Option CodecResult) : Prop where
  sinkWriter : r.1.sinkWriter = s.sinkWriter
  uses : r.2.1 ≠ []
  code : s.sinkWriter.isSome = true → r.2.2 = some .ok

theorem writeFrame_uses (s : Encoder.State) (sample : Option Sample) (a : EncodeArgs) :
    Uses s (writeFrame s sample a) := by
  unfold writeFrame
  cases hw : s.sinkWriter with
  | none => cases sample <;> exact ⟨rfl, by simp, by simp [hw]⟩
  | some w => cases sample <;> exact ⟨rfl, by simp, by simp⟩

theorem useWriter_uses (mode : FrameHeightRoundMode) (s : Encoder.State) (a : EncodeArgs) :
    Uses s (useWriter mode s a) := by
  unfold useWriter
  dsimp only
  split
  · rename_i hnull
    rw [Bool.and_eq_true] at hnull
    refine ⟨rfl, by simp [hnull.1], ?_⟩
    intro hwriter
    rw [Option.isNone_iff_eq_none.mp hnull.2] at hwriter
    cases hwriter
  · have htakes := takeFrame_takes mode (a.encoded.foldl onH264Encoded s) a.frame a.fromVideoFrame
    have hsame := htakes.sinkWriter.trans (foldl_onH264Encoded s a.encoded)
    have hwritten := writeFrame_uses
      (takeFrame mode (a.encoded.foldl onH264Encoded s) a.frame a.fromVideoFrame).1
      (takeFrame mode (a.encoded.foldl onH264Encoded s) a.frame a.fromVideoFrame).2 a
    refine ⟨hwritten.sinkWriter.trans hsame, ?_, ?_⟩
    · intro hnil
      exact hwritten.uses (List.append_eq_nil_iff.mp hnil).2
    · intro hsome
      exact hwritten.code (hsame ▸ hsome)

/-- The events of an `Encode` that goes past its first test, up to its uses of the writer. -/
def replaceEvents (s : Encoder.State) (a : EncodeArgs) : List Event :=
  if encodeReplaces s a then [.releaseWriter, .initWriter a.reinit.fail] else []

/-- What `Encode` does: it replaces the writer or leaves it, and then uses what there is. -/
structure Encodes (s : Encoder.State) (a : EncodeArgs)
    (r : Encoder.State × List Event × Option CodecResult) : Prop where
  events : ∃ uses : List Use, uses ≠ [] ∧ r.2.1 = replaceEvents s a ++ uses.map .used
  code : r.1.sinkWriter.isSome = true → r.2.2 = some .ok
  kept : encodeReplaces s a = false → r.1.sinkWriter = s.sinkWriter
  replaced : encodeReplaces s a = true → a.reinit.fail = none → r.1.sinkWriter.isSome = true

theorem Uses.code_of_sinkWriter {s : Encoder.State}
    {r : Encoder.State × List Use × Option CodecResult} (h : Uses s r)
    (hsome : r.1.sinkWriter.isSome = true) : r.2.2 = some .ok :=
  h.code (h.sinkWriter ▸ hsome)

theorem encode_encodes (mode : FrameHeightRoundMode) {s : Encoder.State} (a : EncodeArgs)
    (h : s.inited = true) : Encodes s a (encode mode s a) := by
  unfold encode
  simp only [h, Bool.not_true, Bool.false_eq_true, if_false]
  cases hargs : encodeReconfigures s a.frame a.now with
  | none =>
    have hkept : encodeReplaces s a = false := by simp [encodeReplaces, hargs]
    have huses := useWriter_uses mode s a
    refine ⟨⟨_, huses.uses, by simp [replaceEvents, hkept]⟩, huses.code_of_sinkWriter,
      fun _ => huses.sinkWriter, ?_⟩
    intro hreplaced
    rw [hkept] at hreplaced
    cases hreplaced
  | some args =>
    have hsame : encodeReplaces s a = replacesWriter s args := by simp [encodeReplaces, hargs]
    cases hreplaces : replacesWriter s args with
    | false =>
      have huses := useWriter_uses mode {adopt s args with rateChangeRequested := false} a
      simp only [reconfigureSinkWriter, hreplaces, Bool.false_eq_true, if_false, ne_eq,
        not_true_eq_false, List.nil_append]
      refine ⟨⟨_, huses.uses, by simp [replaceEvents, hsame, hreplaces]⟩,
        huses.code_of_sinkWriter, fun _ => huses.sinkWriter, ?_⟩
      intro hreplaced
      rw [hsame, hreplaces] at hreplaced
      cases hreplaced
    | true =>
      simp only [reconfigureSinkWriter, hreplaces, if_true, ne_eq, not_true_eq_false, if_false]
      have huses := useWriter_uses mode {initWriter
        {releaseWriter (adopt s args) with encodedCompleteCallback := s.encodedCompleteCallback}
        a.reinit.fail a.reinit.inited with
          lastRateChangeTimeRtcMs := a.reinit.changed
          rateChangeRequested := false} a
      refine ⟨⟨_, huses.uses, by simp [replaceEvents, hsame, hreplaces]⟩,
        huses.code_of_sinkWriter, ?_, ?_⟩
      · intro hkept
        rw [hsame, hreplaces] at hkept
        cases hkept
      · intro _ hfail
        rw [huses.sinkWriter, hfail]
        exact initWriter_succeeds _ a.reinit.inited

end Writer

section Log

/-- Uses of the writer do not count as news about it. -/
theorem foldl_used {f : Bool → Event → Bool} (hf : ∀ was u, f was (.used u) = was)
    (uses : List Use) (was : Bool) : (uses.map Event.used).foldl f was = was := by
  induction uses generalizing was with
  | nil => rfl
  | cons u uses ih =>
    rw [List.map_cons, List.foldl_cons, hf]
    exact ih was

theorem ready_used (log : List Event) (uses : List Use) :
    ready (log ++ uses.map .used) = ready log := by
  rw [ready, List.foldl_append]
  exact foldl_used (fun _ _ => rfl) uses _

theorem reconfigurationFailed_used (log : List Event) (uses : List Use) :
    reconfigurationFailed (log ++ uses.map .used) = reconfigurationFailed log := by
  rw [reconfigurationFailed, List.foldl_append]
  exact foldl_used (fun _ _ => rfl) uses _

theorem justified_used (log : List Event) {uses : List Use} (h : uses ≠ []) :
    Justified (fun pre => SoundAt (log ++ pre)) (uses.map .used) ↔ ready log = true := by
  constructor
  · intro hsound
    obtain ⟨u, uses, rfl⟩ := List.exists_cons_of_ne_nil h
    rw [List.map_cons, justified_cons, List.append_nil] at hsound
    exact hsound.1
  · rintro hready pre e post hsplit
    obtain ⟨before, after, rfl, rfl, hafter⟩ := List.map_eq_append_iff.mp hsplit
    obtain ⟨u, _, -, rfl, -⟩ := List.map_eq_cons_iff.mp hafter
    exact (ready_used log before).trans hready

theorem ready_imp_not_lastInitFailed (log : List Event) (h : ready log = true) :
    lastInitFailed log = false := by
  induction log using List.reverseRecOn with
  | nil => rfl
  | append_singleton log e ih =>
    simp only [ready, lastInitFailed, List.foldl_append, List.foldl_cons, List.foldl_nil] at h ih ⊢
    cases e with
    | initWriter fail =>
      rw [Event.ready, Option.isNone_iff_eq_none] at h
      rw [h]
      rfl
    | releaseWriter => rfl
    | encodeCalled => exact ih h
    | used u => exact ih h
    | encodeReturned code => exact ih h

end Log

/-- An initialised encoder has a writer, except after a failed `InitWriter`. -/
structure Inv (log : List Event) (sys : System) : Prop where
  up : sys.crashed = false
  inited : sys.encoder.inited = true → lastInitFailed log = false →
    ready log = true ∧ sys.encoder.sinkWriter.isSome = true

theorem create_inv (u : Uninitialised) : Inv [] (create u) := ⟨rfl, by simp [create, Encoder.create]⟩

section Encode
variable {log : List Event} {sys : System}

/-- Whether the writer is ready when `Encode` comes to use it. -/
theorem ready_replaceEvents (log : List Event) (s : Encoder.State) (a : EncodeArgs) :
    ready (log ++ .encodeCalled :: replaceEvents s a) =
      if encodeReplaces s a then a.reinit.fail.isNone else ready log := by
  unfold replaceEvents
  split <;> simp [ready, Event.ready]

theorem reconfigurationFailed_replaceEvents (log : List Event) (s : Encoder.State)
    (a : EncodeArgs) :
    reconfigurationFailed (log ++ .encodeCalled :: replaceEvents s a) =
      (encodeReplaces s a && a.reinit.fail.isSome) := by
  unfold replaceEvents
  cases encodeReplaces s a <;> simp [reconfigurationFailed, Event.failing]

theorem justified_replaceEvents (log : List Event) (s : Encoder.State) (a : EncodeArgs) :
    Justified (fun pre => SoundAt (log ++ pre)) (.encodeCalled :: replaceEvents s a) := by
  unfold replaceEvents
  split <;> simp [SoundAt]

/-- A writer that is ready is used and a code returned; the code may be a success, since then no
reconfiguration failed. -/
theorem encode_sound_iff_ready (mode : FrameHeightRoundMode) {s : Encoder.State} (a : EncodeArgs)
    (h : s.inited = true) :
    Justified (fun pre => SoundAt (log ++ pre))
        (.encodeCalled :: (encode mode s a).2.1 ++ (encode mode s a).2.2.toList.map .encodeReturned) ↔
      ready (log ++ .encodeCalled :: replaceEvents s a) = true := by
  obtain ⟨uses, huses, hevents⟩ := (encode_encodes mode a h).events
  rw [hevents, ← List.cons_append, justified_append, justified_append]
  simp only [← List.append_assoc]
  rw [justified_used _ huses]
  constructor
  · rintro ⟨⟨-, hready⟩, -⟩
    exact hready
  · intro hready
    refine ⟨⟨justified_replaceEvents log s a, hready⟩, ?_⟩
    have hnot : reconfigurationFailed (log ++ .encodeCalled :: replaceEvents s a) = false := by
      rw [ready_replaceEvents] at hready
      rw [reconfigurationFailed_replaceEvents]
      cases hreplaces : encodeReplaces s a with
      | false => rfl
      | true =>
        rw [hreplaces, if_pos rfl, Option.isNone_iff_eq_none] at hready
        simp [hready]
    cases (encode mode s a).2.2 with
    | none => simp
    | some code =>
      simp only [Option.toList_some, List.map_cons, List.map_nil, justified_cons, justified_nil,
        List.append_nil, and_true]
      intro hfailed
      rw [reconfigurationFailed_used, hnot] at hfailed
      cases hfailed

theorem ready_iff_admits (h : Inv log sys) (a : EncodeArgs) (hinited : sys.encoder.inited = true) :
    ready (log ++ .encodeCalled :: replaceEvents sys.encoder a) = true ↔
      Admits log sys (.encode a) := by
  rw [ready_replaceEvents]
  simp only [Admits, hinited, true_implies]
  split
  · exact Option.isNone_iff_eq_none
  · constructor
    · exact ready_imp_not_lastInitFailed log
    · intro hwhole
      exact (h.inited hinited hwhole).1

theorem encode_step (mode : FrameHeightRoundMode) (h : Inv log sys) (a : EncodeArgs) :
    step mode sys (.encode a) =
      (⟨(encode mode sys.encoder a).1, (encode mode sys.encoder a).2.2.isNone⟩,
        .encodeCalled :: (encode mode sys.encoder a).2.1 ++
          (encode mode sys.encoder a).2.2.toList.map .encodeReturned) := by
  simp [step, h.up]

theorem encode_uninitialised (mode : FrameHeightRoundMode) {s : Encoder.State} (a : EncodeArgs)
    (h : s.inited = false) : encode mode s a = (s, [], some .uninitialized) := by
  simp [encode, h]

theorem encode_sound_iff (mode : FrameHeightRoundMode) (h : Inv log sys) (a : EncodeArgs) :
    Justified (fun pre => SoundAt (log ++ pre)) (step mode sys (.encode a)).2 ↔
      Admits log sys (.encode a) := by
  rw [encode_step mode h a]
  cases hinited : sys.encoder.inited with
  | true =>
    rw [encode_sound_iff_ready mode a hinited]
    exact ready_iff_admits h a hinited
  | false =>
    rw [encode_uninitialised mode a hinited]
    refine iff_of_true (by simp [SoundAt]) ?_
    intro hin
    rw [hinited] at hin
    cases hin

/-- An admitted `Encode` of an initialised encoder finds and leaves a writer. -/
theorem encode_writer (mode : FrameHeightRoundMode) (h : Inv log sys) {a : EncodeArgs}
    (hinited : sys.encoder.inited = true) (ha : Admits log sys (.encode a)) :
    (encode mode sys.encoder a).1.sinkWriter.isSome = true := by
  have hencodes := encode_encodes mode a hinited
  simp only [Admits, hinited, true_implies] at ha
  cases hreplaces : encodeReplaces sys.encoder a with
  | true =>
    rw [hreplaces, if_pos rfl] at ha
    exact hencodes.replaced hreplaces ha
  | false =>
    rw [hreplaces, if_neg Bool.false_ne_true] at ha
    rw [hencodes.kept hreplaces]
    exact (h.inited hinited ha).2

theorem encode_inv (mode : FrameHeightRoundMode) (h : Inv log sys) {a : EncodeArgs}
    (ha : Admits log sys (.encode a)) :
    Inv (log ++ (step mode sys (.encode a)).2) (step mode sys (.encode a)).1 := by
  rw [encode_step mode h a]
  cases hinited : sys.encoder.inited with
  | false =>
    rw [encode_uninitialised mode a hinited]
    refine ⟨rfl, ?_⟩
    intro hin
    dsimp only at hin
    rw [hinited] at hin
    cases hin
  | true =>
    have hencodes := encode_encodes mode a hinited
    have hwriter := encode_writer mode h hinited ha
    have hready := (ready_iff_admits h a hinited).mpr ha
    obtain ⟨uses, -, hevents⟩ := hencodes.events
    rw [hencodes.code hwriter]
    refine ⟨rfl, fun _ _ => ⟨?_, hwriter⟩⟩
    rw [hevents, ← List.cons_append, ← List.append_assoc, ← List.append_assoc]
    rw [ready, List.foldl_append]
    exact (ready_used _ uses).trans hready

end Encode

section Run
variable {log : List Event} {sys : System}

theorem initWriter_inv {s : Encoder.State} (fail : Option WriterCall) (now : Int) :
    Inv (log ++ [.initWriter fail]) ⟨initWriter s fail now, false⟩ := by
  refine ⟨rfl, ?_⟩
  intro _ hwhole
  cases fail with
  | none => exact ⟨by simp [ready, Event.ready], initWriter_succeeds s now⟩
  | some f => simp [lastInitFailed, Event.broken] at hwhole

theorem initEncode_inv (h : Inv log sys) (settings : Option CodecSettings)
    (fail : Option WriterCall) (now : Int) :
    Inv (log ++ (initEncode sys.encoder settings fail now).2)
      ⟨(initEncode sys.encoder settings fail now).1, false⟩ := by
  have hsame : Inv (log ++ []) ⟨sys.encoder, false⟩ := by
    rw [List.append_nil]
    exact ⟨rfl, h.inited⟩
  cases settings with
  | none => exact hsame
  | some c =>
    simp only [initEncode, Encoder.initEncode]
    split
    · exact initWriter_inv fail now
    · exact hsame

theorem reconfigureSinkWriter_inv (h : Inv log sys) (args : ReconfigureArgs) (r : Reinit) :
    Inv (log ++ (reconfigureSinkWriter sys.encoder args r).2.1)
      ⟨(reconfigureSinkWriter sys.encoder args r).1, false⟩ := by
  unfold reconfigureSinkWriter
  split
  · dsimp only
    rw [List.append_cons]
    have hinv : Inv ((log ++ [.releaseWriter]) ++ [.initWriter r.fail])
        ⟨initWriter {releaseWriter (adopt sys.encoder args) with
          encodedCompleteCallback := sys.encoder.encodedCompleteCallback} r.fail r.inited, false⟩ :=
      initWriter_inv r.fail r.inited
    exact ⟨rfl, hinv.inited⟩
  · rw [List.append_nil]
    exact ⟨rfl, h.inited⟩

theorem setRates_inv (h : Inv log sys) (p : RateControlParameters) (now : Int) (r : Reinit) :
    Inv (log ++ (setRates sys.encoder p now r).2) ⟨(setRates sys.encoder p now r).1, false⟩ := by
  unfold setRates
  split
  · rw [List.append_nil]
    exact ⟨rfl, h.inited⟩
  · split
    · rw [List.append_nil]
      exact ⟨rfl, h.inited⟩
    · exact reconfigureSinkWriter_inv h _ r

theorem step_inv (mode : FrameHeightRoundMode) (h : Inv log sys) {c : Call}
    (hc : Admits log sys c) : Inv (log ++ (step mode sys c).2) (step mode sys c).1 := by
  cases c with
  | encode a => exact encode_inv mode h hc
  | initEncode settings fail now =>
    simpa [step, h.up] using initEncode_inv h settings fail now
  | setRates p now r => simpa [step, h.up] using setRates_inv h p now r
  | registerEncodeCompleteCallback present =>
    simp only [step, h.up, Bool.false_eq_true, if_false, List.append_nil]
    exact ⟨rfl, h.inited⟩
  | onH264Encoded time =>
    simp only [step, h.up, Bool.false_eq_true, if_false, List.append_nil]
    exact ⟨rfl, h.inited⟩
  | release =>
    simp only [step, h.up, Bool.false_eq_true, if_false]
    exact ⟨rfl, by simp [releaseWriter]⟩

/-- Only `Encode` uses the writer. -/
theorem step_sound_iff (mode : FrameHeightRoundMode) (h : Inv log sys) (c : Call) :
    Justified (fun pre => SoundAt (log ++ pre)) (step mode sys c).2 ↔ Admits log sys c := by
  cases c with
  | encode a => exact encode_sound_iff mode h a
  | initEncode settings fail now =>
    refine iff_of_true ?_ trivial
    cases settings with
    | none => simp [step, h.up, initEncode]
    | some c => cases hc : c.accepted <;> simp [step, h.up, initEncode, hc, SoundAt]
  | setRates p now r =>
    refine iff_of_true ?_ trivial
    simp only [step, h.up, Bool.false_eq_true, if_false, setRates, reconfigureSinkWriter]
    repeat' split
    all_goals simp [SoundAt]
  | registerEncodeCompleteCallback present => exact iff_of_true (by simp [step, h.up]) trivial
  | onH264Encoded time => exact iff_of_true (by simp [step, h.up]) trivial
  | release => exact iff_of_true (by simp [step, h.up, SoundAt]) trivial

/-- In a run, `Encode` uses only writers that were made without a failure and returns an error when
its reconfiguration fails, just when every `Encode` meets the condition. -/
theorem writer_used_when_ready_iff (mode : FrameHeightRoundMode) (u : Uninitialised)
    (calls : List Call) :
    Justified SoundAt (run (step mode) (create u) calls).2 ↔
      Along (step mode) Admits [] (create u) calls := by
  apply justified_run_iff (step mode) Inv ?_ ?_ (create_inv u)
  · intro log sys c hinv
    exact step_sound_iff mode hinv c
  · intro log sys c hinv hc
    exact step_inv mode hinv hc

end Run

section Failures

def smallFrame : VideoFrame := ⟨90000, 0, 0, 320, 240⟩

/-- A frame of another size comes, and the new writer fails in `BeginWriting`. -/
def brokenReplacement : List Call :=
  [.initEncode (some ⟨true, 640, 480, 30, 51, 300, 0⟩) none 0,
    .encode ⟨smallFrame, none, 10, ⟨some .beginWriting, 10, 10⟩, [], none, .ok⟩]

theorem broken_writer_used :
    (run (step .noChange) (create ⟨0, 0, ⟨0, 0⟩, 0, ⟨0, 0⟩⟩) brokenReplacement).2 =
      [.initWriter none, .encodeCalled, .releaseWriter, .initWriter (some .beginWriting),
        .used .writeSample, .encodeReturned .ok] ∧
    ¬ Justified SoundAt
      (run (step .noChange) (create ⟨0, 0, ⟨0, 0⟩, 0, ⟨0, 0⟩⟩) brokenReplacement).2 := by
  have hlog : (run (step .noChange) (create ⟨0, 0, ⟨0, 0⟩, 0, ⟨0, 0⟩⟩) brokenReplacement).2 =
      [.initWriter none, .encodeCalled, .releaseWriter, .initWriter (some .beginWriting),
        .used .writeSample, .encodeReturned .ok] := by
    decide +kernel
  refine ⟨hlog, ?_⟩
  intro h
  have hused := h [.initWriter none, .encodeCalled, .releaseWriter,
    .initWriter (some .beginWriting)] (.used .writeSample) [.encodeReturned .ok] hlog
  simp [SoundAt, ready, Event.ready] at hused

end Failures

end WeiRtcNative.H264.WriterUse
