import WeiRtcNative.H264.InFlight

/-!
# What is written to a sink writer

`Encode` compares the size of a frame with `width_` and `height_` in its first locked part and
makes the sample in a second one; `SetRates` may replace the writer in between calls. Whatever
the interleaving, the writer in use has the settings that the encoder keeps, and a sample is made
of a frame of that size. A sample made after a dropped frame carries the mark for it.
-/

namespace WeiRtcNative.H264.WrittenSamples

open Machine Encoder Pipeline InFlight
set_option autoImplicit false

/-- The settings with which the last `InitWriter` for the writer `w` was to make it. -/
def setUp (w : Nat) (config : Option WriterConfig) (log : List Event) : Option WriterConfig :=
  log.foldl (fun config e =>
    match e with
    | .initWriter v new _ => if v = w then some new else config
    | _ => config) config

/-- The settings of the writer `w`, where `InitEncode` makes the first one. -/
def configured (initial : WriterConfig) (log : List Event) (w : Nat) : Option WriterConfig :=
  setUp w (if w = 0 then some initial else none) log

structure Fits (mode : FrameHeightRoundMode) (config : WriterConfig) (frame : VideoFrame) :
    Prop where
  width : config.width = frame.width
  encodedHeight : config.encodedHeight = heightToEncode mode frame.height

def FitsAt (mode : FrameHeightRoundMode) (initial : WriterConfig) (pre : List Event) :
    Event → Prop
  | .writeSample w sample _ =>
    ∃ config, configured initial pre w = some config ∧ Fits mode config sample.frame
  | _ => True

/-- A frame was dropped after the last sample. -/
def dropped (log : List Event) : Bool :=
  log.foldl (fun
    | _, .streamTick _ _ => true
    | _, .writeSample _ _ _ => false
    | was, _ => was) false

def MarkedAt (pre : List Event) : Event → Prop
  | .writeSample _ sample _ => sample.discontinuity = dropped pre
  | _ => True

/-- The frame that the calling thread has still to write. -/
def frame? : Api → Option VideoFrame
  | .idle => none
  | .shuttingDown _ _ pending | .initializing pending => pending.map Pending.frame
  | .sampling p => some p.frame
  | .writing sample => some sample.frame

/-- Events that are about neither a new writer nor a frame. -/
def Aside : Event → Prop
  | .initWriter _ _ _ | .writeSample _ _ _ | .streamTick _ _ => False
  | _ => True

section Asides
variable {log evs : List Event}

theorem configured_append (initial : WriterConfig) (w : Nat) :
    configured initial (log ++ evs) w = setUp w (configured initial log w) evs := by
  simp [configured, setUp]

theorem setUp_asides (h : ∀ e ∈ evs, Aside e) (w : Nat) (config : Option WriterConfig) :
    setUp w config evs = config := by
  induction evs with
  | nil => rfl
  | cons e evs ih =>
    obtain ⟨he, hevs⟩ := List.forall_mem_cons.mp h
    have hsame : setUp w config (e :: evs) = setUp w config evs := by
      cases e <;> first | rfl | exact absurd he id
    exact hsame.trans (ih hevs)

theorem configured_asides (h : ∀ e ∈ evs, Aside e) (initial : WriterConfig) (w : Nat) :
    configured initial (log ++ evs) w = configured initial log w := by
  rw [configured_append, setUp_asides h]

theorem dropped_asides (h : ∀ e ∈ evs, Aside e) : dropped (log ++ evs) = dropped log := by
  unfold dropped
  rw [List.foldl_append]
  generalize List.foldl _ false log = was
  induction evs with
  | nil => rfl
  | cons e evs ih =>
    obtain ⟨he, hevs⟩ := List.forall_mem_cons.mp h
    cases e <;> first | exact ih hevs | exact absurd he id

theorem justified_asides {P : List Event → Event → Prop} (haside : ∀ pre e, Aside e → P pre e)
    (h : ∀ e ∈ evs, Aside e) (hlog : Justified P log) : Justified P (log ++ evs) := by
  refine justified_append.mpr ⟨hlog, ?_⟩
  intro pre e post heq
  exact haside _ _ (h e (by simp [heq]))

theorem fitsAt_aside (mode : FrameHeightRoundMode) (initial : WriterConfig) (pre : List Event)
    (e : Event) (h : Aside e) : FitsAt mode initial pre e := by
  cases e <;> trivial

theorem markedAt_aside (pre : List Event) (e : Event) (h : Aside e) : MarkedAt pre e := by
  cases e <;> trivial

theorem requests_asides (h : KeyFrameRequests evs) : ∀ e ∈ evs, Aside e := by
  intro e he
  obtain ⟨w, rfl⟩ := h e he
  trivial

end Asides

section Steps

/-- What the settings of a new writer are made from, and which writer is in use. -/
structure SameSettings (e e' : State) : Prop where
  sinkWriter : e'.sinkWriter = e.sinkWriter
  width : e'.width = e.width
  height : e'.height = e.height
  rates : e'.rates = e.rates
  maxQp : e'.maxQp = e.maxQp

theorem SameSettings.writerConfig {e e' : State} (h : SameSettings e e')
    (mode : FrameHeightRoundMode) : writerConfig mode e' = writerConfig mode e := by
  simp [Encoder.writerConfig, h.width, h.height, h.rates, h.maxQp]

/-- A step of Media Foundation or of a work queue changes the cached attributes and the count of
pending frames only. -/
theorem stepSink_asides (sys : System) (a : Action) :
    (∃ queue count, (stepSink sys a).1.encoder =
        {sys.encoder with sampleAttributeQueue := queue, framePendingCount := count}) ∧
      (stepSink sys a).1.api = sys.api ∧ ∀ e ∈ (stepSink sys a).2, Aside e := by
  have heffect := stepSink_effect sys a
  generalize stepSink sys a = r at heffect ⊢
  cases heffect with
  | none | changes => exact ⟨⟨_, _, rfl⟩, rfl, by simp⟩
  | pops =>
    unfold popAttributes
    split
    · exact ⟨⟨_, _, rfl⟩, rfl, by simp⟩
    · exact ⟨⟨_, _, rfl⟩, rfl, by simp⟩
  | delivers running image =>
    refine ⟨⟨_, _, rfl⟩, rfl, ?_⟩
    rcases image with rfl | ⟨given, content, -, rfl⟩
    · simp
    · simp [Aside]

/-- A sample is of the frame it was asked for. The mark is taken over from `lastFrameDropped_`,
which is cleared, unless the sample gives no access to its attributes. -/
structure MakesSample (e e' : State) (frame : VideoFrame) (fail : Option FrameCall)
    (sample : Sample) : Prop where
  settings : SameSettings e e'
  frame : sample.frame = frame
  mark : fail ≠ some .sampleAttributes →
    sample.discontinuity = e.lastFrameDropped ∧ e'.lastFrameDropped = false

theorem stamp_makesSample (mode : FrameHeightRoundMode) (e : State) (frame : VideoFrame)
    (fail : Option FrameCall) :
    SameSettings e (stamp mode e frame fail).1 ∧ (stamp mode e frame fail).2.frame = frame ∧
      (stamp mode e frame fail).2.discontinuity = e.lastFrameDropped := by
  unfold stamp
  dsimp only
  split <;> exact ⟨⟨rfl, rfl, rfl, rfl, rfl⟩, rfl, rfl⟩

theorem fromVideoFrame_makesSample {mode : FrameHeightRoundMode} {e e' : State}
    {frame : VideoFrame} {fail : Option FrameCall} {sample : Sample}
    (h : fromVideoFrame mode e frame fail = (e', some sample)) :
    MakesSample e e' frame fail sample := by
  unfold fromVideoFrame at h
  split at h
  · simp at h
  · obtain ⟨rfl, hsample⟩ := Prod.mk.inj h
    obtain rfl := Option.some.inj hsample
    exact ⟨⟨rfl, rfl, rfl, rfl, rfl⟩, rfl, fun hfail => absurd rfl hfail⟩
  · obtain ⟨hsame, hframe, hmark⟩ := stamp_makesSample mode (noteFirstFrame e frame) frame fail
    obtain ⟨rfl, hsample⟩ := Prod.mk.inj h
    obtain rfl := Option.some.inj hsample
    have hnote : SameSettings e (noteFirstFrame e frame) ∧
        (noteFirstFrame e frame).lastFrameDropped = e.lastFrameDropped := by
      unfold noteFirstFrame
      split <;> exact ⟨⟨rfl, rfl, rfl, rfl, rfl⟩, rfl⟩
    refine ⟨?_, hframe, fun _ => ⟨hmark.trans hnote.2, rfl⟩⟩
    exact ⟨hsame.sinkWriter.trans hnote.1.sinkWriter, hsame.width.trans hnote.1.width,
      hsame.height.trans hnote.1.height, hsame.rates.trans hnote.1.rates,
      hsame.maxQp.trans hnote.1.maxQp⟩

theorem fromVideoFrame_none {mode : FrameHeightRoundMode} {e e' : State} {frame : VideoFrame}
    {fail : Option FrameCall} (h : fromVideoFrame mode e frame fail = (e', none)) : e' = e := by
  unfold fromVideoFrame at h
  split at h
  · exact (Prod.mk.inj h).1.symm
  · simp at h
  · simp at h

theorem takeFrame_makesSample {mode : FrameHeightRoundMode} {e e' : State} {frame : VideoFrame}
    {fail : Option FrameCall} {sample : Sample}
    (h : Encoder.takeFrame mode e frame fail = (e', some sample)) :
    MakesSample e e' frame fail sample := by
  unfold Encoder.takeFrame at h
  split at h
  · exact fromVideoFrame_makesSample h
  · simp at h

theorem takeFrame_none {mode : FrameHeightRoundMode} {e e' : State} {frame : VideoFrame}
    {fail : Option FrameCall} (h : Encoder.takeFrame mode e frame fail = (e', none)) : e' = e := by
  unfold Encoder.takeFrame at h
  split at h
  · exact fromVideoFrame_none h
  · exact (Prod.mk.inj h).1.symm

/-- What `Encode` does from the key-frame request on: it fails on a null writer, makes a sample,
or drops the frame. -/
inductive TakesFrame (mode : FrameHeightRoundMode) (sys : System) (p : Pending)
    (fail : Option FrameCall) : System × List Event → Prop where
  | crashes {asked : List Event} (requests : KeyFrameRequests asked) :
      TakesFrame mode sys p fail (sys.crash, asked)
  | samples {e : State} {sample : Sample} {asked : List Event} (requests : KeyFrameRequests asked)
      (makes : MakesSample sys.encoder e p.frame fail sample) :
      TakesFrame mode sys p fail ({sys with encoder := e, api := .writing sample}, asked)
  | drops {w : Nat} {time : Int} {asked : List Event} (requests : KeyFrameRequests asked) :
      TakesFrame mode sys p fail ({sys with encoder := dropFrame sys.encoder p.frame, api := .idle},
        asked ++ [.streamTick w time])

theorem asked_requests (requested : Bool) (writer : Option Nat) :
    KeyFrameRequests (if requested = true then writer.toList.map Event.forceKeyFrame else []) := by
  intro e he
  split at he
  · obtain ⟨w, -, rfl⟩ := List.mem_map.mp he
    exact ⟨w, rfl⟩
  · simp at he

theorem takeFrame_takesFrame (mode : FrameHeightRoundMode) (sys : System) (p : Pending)
    (fail : Option FrameCall) : TakesFrame mode sys p fail (Pipeline.takeFrame mode sys p fail) := by
  unfold Pipeline.takeFrame
  split
  · exact .crashes (by simp [KeyFrameRequests])
  · dsimp only
    split
    · rename_i e sample hmade
      exact .samples (asked_requests _ _) (takeFrame_makesSample hmade)
    · rename_i e hnone
      obtain rfl := takeFrame_none hnone
      split
      · exact .crashes (asked_requests _ _)
      · exact .drops (asked_requests _ _)

/-- The written sample, after which a segment may be ended. -/
theorem writeSample_events {sys : System} {w : Nat} (hw : sys.encoder.sinkWriter = some w)
    (sample : Sample) (hr : HResult) :
    ∃ segment, (∀ e ∈ segment, Aside e) ∧
      (writeSample sys sample hr).2 = .writeSample w sample hr :: segment := by
  rw [writeSample, hw]
  refine ⟨_, ?_, rfl⟩
  intro e he
  split at he
  · obtain rfl := List.mem_singleton.mp he
    trivial
  · simp at he

end Steps

section Sizes
variable {mode : FrameHeightRoundMode} {initial : WriterConfig} {log evs : List Event}
  {sys sys' : System}

/-- The writer in use has the settings of the encoder, and the frame still to be written has the
size that the encoder has noted. -/
structure Inv (mode : FrameHeightRoundMode) (initial : WriterConfig) (log : List Event)
    (sys : System) : Prop where
  fits : Justified (FitsAt mode initial) log
  config : ∀ w, sys.encoder.sinkWriter = some w →
    configured initial log w = some (writerConfig mode sys.encoder)
  size : ∀ frame ∈ frame? sys.api,
    sys.encoder.width = frame.width ∧ sys.encoder.height = frame.height
  released : Released sys

theorem Inv.aside (h : Inv mode initial log sys) (hsame : SameSettings sys.encoder sys'.encoder)
    (hframe : ∀ frame ∈ frame? sys'.api, frame ∈ frame? sys.api) (hreleased : Released sys')
    (hevs : ∀ e ∈ evs, Aside e) : Inv mode initial (log ++ evs) sys' where
  fits := justified_asides (fitsAt_aside mode initial) hevs h.fits
  config := by
    intro w hw
    rw [configured_asides hevs, hsame.writerConfig]
    exact h.config w (hsame.sinkWriter.symm.trans hw)
  size := by
    intro frame hmem
    rw [hsame.width, hsame.height]
    exact h.size frame (hframe frame hmem)
  released := hreleased

theorem frame?_resume (pending : Option Pending) :
    frame? (resume pending) = pending.map Pending.frame := by
  cases pending <;> rfl

/-- Rates that do not replace the writer are not taken over either. -/
theorem adopt_settings {e : State} {args : ReconfigureArgs} (h : replacesWriter e args = false) :
    SameSettings e (adopt e args) := by
  simp only [replacesWriter, Bool.or_eq_false_iff, bne_eq_false_iff_eq] at h
  obtain ⟨⟨⟨hwidth, hheight⟩, hbps⟩, hfps⟩ := h
  refine ⟨rfl, hwidth.symm, hheight.symm, ?_, rfl⟩
  simp [adopt, Rates.follow, hbps, hfps]

theorem reconfigureSinkWriter_inv (h : Inv mode initial log sys) {args : ReconfigureArgs}
    {pending : Option Pending}
    (hargs : ∀ p ∈ pending, args.width = p.frame.width ∧ args.height = p.frame.height)
    (hevs : ∀ e ∈ evs, Aside e) :
    Inv mode initial (log ++ evs) (reconfigureSinkWriter sys args pending).1 := by
  have hreleased := reconfigureSinkWriter_released sys args pending
  have hsize : ∀ frame ∈ pending.map Pending.frame,
      args.width = frame.width ∧ args.height = frame.height := by
    intro frame hmem
    obtain ⟨p, hp, rfl⟩ := Option.map_eq_some_iff.mp hmem
    exact hargs p hp
  unfold reconfigureSinkWriter at hreleased ⊢
  dsimp only at hreleased ⊢
  split at hreleased
  · rename_i hreplaces
    rw [if_pos hreplaces]
    exact ⟨justified_asides (fitsAt_aside mode initial) hevs h.fits, by simp [releaseWriter],
      hsize, hreleased⟩
  · rename_i hkeeps
    rw [if_neg hkeeps]
    have hsame := adopt_settings (by simpa using hkeeps)
    refine ⟨justified_asides (fitsAt_aside mode initial) hevs h.fits, ?_, ?_, hreleased⟩
    · intro w hw
      rw [configured_asides hevs, hsame.writerConfig]
      exact h.config w (hsame.sinkWriter.symm.trans hw)
    · rw [frame?_resume]
      exact hsize

theorem setRates_inv (h : Inv mode initial log sys) (hidle : sys.api = .idle)
    (p : RateControlParameters) (now : Int) :
    Inv mode initial (log ++ (setRates sys p now).2) (setRates sys p now).1 := by
  unfold setRates
  dsimp only
  split
  · exact h.aside ⟨rfl, rfl, rfl, rfl, rfl⟩ (fun _ hmem => hmem) h.released (by simp [Aside])
  · split
    · exact h.aside ⟨rfl, rfl, rfl, rfl, rfl⟩ (fun _ hmem => hmem)
        (by simp [Released, hidle]) (by simp [Aside])
    · rw [reconfigureSinkWriter_events]
      exact reconfigureSinkWriter_inv h (by simp) (by simp [Aside])

/-- A frame that starts no reconfiguration has the size of the writer, and one that does gives its
own size. -/
theorem encode_inv (h : Inv mode initial log sys) (p : Pending) (now : Int) :
    Inv mode initial (log ++ (encode sys p now).2) (encode sys p now).1 := by
  unfold encode
  split
  · exact h.aside ⟨rfl, rfl, rfl, rfl, rfl⟩ (fun _ hmem => hmem) h.released (by simp)
  · split
    · rename_i hsame
      have hsize : sys.encoder.width = p.frame.width ∧ sys.encoder.height = p.frame.height := by
        simp only [encodeReconfigures, resChanged, ite_eq_right_iff, reduceCtorEq, imp_false,
          Bool.or_eq_true, bne_iff_ne, not_or, not_not] at hsame
        exact ⟨hsame.1.1.symm, hsame.1.2.symm⟩
      refine ⟨by simpa using h.fits, by simpa using h.config, ?_, trivial⟩
      intro frame hmem
      obtain rfl := Option.some.inj hmem
      exact hsize
    · rename_i args hargs
      have hsize : args.width = p.frame.width ∧ args.height = p.frame.height := by
        unfold encodeReconfigures at hargs
        split at hargs
        · obtain rfl := Option.some.inj hargs
          exact ⟨rfl, rfl⟩
        · simp at hargs
      have hcleared : Inv mode initial log
          {sys with encoder := {sys.encoder with rateChangeRequested := false}} :=
        ⟨h.fits, h.config, h.size, h.released⟩
      rw [reconfigureSinkWriter_events]
      refine reconfigureSinkWriter_inv hcleared ?_ (by simp [Aside])
      intro q hq
      obtain rfl := Option.some.inj hq
      exact hsize

theorem shutdownSink_inv (h : Inv mode initial log sys) {sink : Option Nat} {callback : Bool}
    {pending : Option Pending} (hapi : sys.api = .shuttingDown sink callback pending) :
    Inv mode initial log (shutdownSink sys sink callback pending) := by
  have hnone : sys.encoder.sinkWriter = none := by simpa [Released, hapi] using h.released
  have hsize := h.size
  rw [hapi] at hsize
  unfold shutdownSink
  dsimp only
  split
  · exact ⟨h.fits, h.config, hsize, hnone⟩
  · exact ⟨h.fits, h.config, hsize, hnone⟩

theorem initWriter_settings (mode : FrameHeightRoundMode) (e : State) (fail : Option WriterCall)
    (now : Int) :
    writerConfig mode (Encoder.initWriter e fail now) = writerConfig mode e ∧
      (Encoder.initWriter e fail now).width = e.width ∧
      (Encoder.initWriter e fail now).height = e.height := by
  unfold Encoder.initWriter makeSinkWriter makeMediaSink
  dsimp only
  repeat' split
  all_goals exact ⟨rfl, rfl, rfl⟩

theorem initWriter_inv (h : Inv mode initial log sys) {pending : Option Pending}
    (hapi : sys.api = .initializing pending) (fail : Option WriterCall) (inited changed : Int) :
    Inv mode initial (log ++ (Pipeline.initWriter mode sys pending fail inited changed).2)
      (Pipeline.initWriter mode sys pending fail inited changed).1 := by
  obtain ⟨hconfig, hwidth, hheight⟩ := initWriter_settings mode sys.encoder fail inited
  refine ⟨justified_append.mpr ⟨h.fits, by simp [Pipeline.initWriter, FitsAt]⟩, ?_, ?_,
    released_resume _ _ _ _⟩
  · intro w hw
    have hnumber : w = sys.encoder.writersCreated := by
      have hreleased : sys.encoder.sinkWriter = none := by simpa [Released, hapi] using h.released
      rcases initWriter_sinkWriter hreleased fail inited with hnone | hsome
      · exact absurd (hw.symm.trans hnone) (by simp)
      · exact Option.some.inj (hw.symm.trans hsome)
    rw [configured_append, hnumber]
    exact (if_pos rfl).trans (congrArg some hconfig.symm)
  · intro frame hmem
    have hpending : frame ∈ pending.map Pending.frame := by
      rw [← frame?_resume]
      exact hmem
    have hsize := h.size frame (by rw [hapi]; exact hpending)
    exact ⟨hwidth.trans hsize.1, hheight.trans hsize.2⟩

theorem takeFrame_inv (h : Inv mode initial log sys) {p : Pending} (hapi : sys.api = .sampling p)
    (fail : Option FrameCall) :
    Inv mode initial (log ++ (Pipeline.takeFrame mode sys p fail).2)
      (Pipeline.takeFrame mode sys p fail).1 := by
  have htakes := takeFrame_takesFrame mode sys p fail
  generalize Pipeline.takeFrame mode sys p fail = r at htakes ⊢
  cases htakes with
  | crashes hasked =>
    exact h.aside ⟨rfl, rfl, rfl, rfl, rfl⟩ (fun _ hmem => hmem) h.released
      (requests_asides hasked)
  | samples hasked makes =>
    refine h.aside makes.settings ?_ trivial (requests_asides hasked)
    intro frame hmem
    rw [hapi]
    obtain rfl := Option.some.inj hmem
    exact congrArg some makes.frame.symm
  | drops hasked =>
    have hlog := justified_asides (fitsAt_aside mode initial) (requests_asides hasked) h.fits
    rw [← List.append_assoc]
    refine ⟨justified_append.mpr ⟨hlog, by simp [FitsAt]⟩, ?_, by simp [frame?], trivial⟩
    intro v hv
    rw [configured_append, configured_asides (requests_asides hasked)]
    exact h.config v hv

theorem writeSample_inv (h : Inv mode initial log sys) {sample : Sample}
    (hapi : sys.api = .writing sample) (hr : HResult) :
    Inv mode initial (log ++ (writeSample sys sample hr).2) (writeSample sys sample hr).1 := by
  cases hw : sys.encoder.sinkWriter with
  | none =>
    rw [writeSample, hw]
    exact h.aside ⟨rfl, rfl, rfl, rfl, rfl⟩ (fun _ hmem => hmem) h.released (by simp)
  | some w =>
    obtain ⟨segment, hsegment, hevents⟩ := writeSample_events hw sample hr
    have hconfig := h.config w hw
    obtain ⟨hwidth, hheight⟩ := h.size sample.frame (by rw [hapi]; rfl)
    have hfits : FitsAt mode initial log (.writeSample w sample hr) :=
      ⟨_, hconfig, hwidth, congrArg (heightToEncode mode) hheight⟩
    have hstate : ∃ writers, (writeSample sys sample hr).1 =
        {sys with encoder := countFrame sys.encoder, api := .idle, writers := writers} := by
      rw [writeSample, hw]
      exact ⟨_, rfl⟩
    obtain ⟨writers, hstate⟩ := hstate
    rw [hevents, hstate, ← List.singleton_append, ← List.append_assoc]
    have hwritten : Inv mode initial (log ++ [.writeSample w sample hr])
        {sys with encoder := countFrame sys.encoder, api := .idle, writers := writers} := by
      refine ⟨justified_append.mpr ⟨h.fits, by simpa using hfits⟩, ?_, by simp [frame?],
        trivial⟩
      intro v hv
      obtain rfl : w = v := Option.some.inj (hw.symm.trans hv)
      rw [configured_append]
      exact hconfig
    exact hwritten.aside ⟨rfl, rfl, rfl, rfl, rfl⟩ (fun _ hmem => hmem) hwritten.released hsegment

theorem stepApi_inv (h : Inv mode initial log sys) (a : Action) :
    Inv mode initial (log ++ (stepApi mode sys a).2) (stepApi mode sys a).1 := by
  have hnothing : Inv mode initial (log ++ []) sys := by simpa using h
  unfold stepApi
  split
  · split
    · exact setRates_inv h ‹_› _ _
    · exact hnothing
  · split
    · exact encode_inv h _ _
    · exact hnothing
  · split
    · exact h.aside ⟨rfl, rfl, rfl, rfl, rfl⟩ (fun _ hmem => hmem) h.released (by simp)
    · exact hnothing
  · split
    · simpa using shutdownSink_inv h ‹_›
    · exact hnothing
  · split
    · exact initWriter_inv h ‹_› _ _ _
    · exact hnothing
  · split
    · exact takeFrame_inv h ‹_› _
    · exact hnothing
  · split
    · exact writeSample_inv h ‹_› _
    · exact hnothing
  · exact hnothing

theorem step_inv (h : Inv mode initial log sys) (a : Action) :
    Inv mode initial (log ++ (step mode sys a).2) (step mode sys a).1 := by
  have hreleased := step_released mode a h.released
  unfold step at hreleased ⊢
  split at hreleased
  · rename_i hcrashed
    rw [if_pos hcrashed]
    simpa using h
  · rename_i hrunning
    rw [if_neg hrunning]
    split
    · exact stepApi_inv h a
    · rename_i hsink
      rw [if_neg hsink] at hreleased
      obtain ⟨⟨queue, count, hencoder⟩, hapi, hevs⟩ := stepSink_asides sys a
      refine h.aside ?_ (by rw [hapi]; exact fun _ hmem => hmem) hreleased hevs
      rw [hencoder]
      exact ⟨rfl, rfl, rfl, rfl, rfl⟩

end Sizes

section Marks
variable {mode : FrameHeightRoundMode} {log evs : List Event} {sys sys' : System}

/-- The interface to the attributes of a sample is there. -/
def AttributesGiven : Action → Prop
  | .takeFrame fail => fail ≠ some .sampleAttributes
  | _ => True

/-- `lastFrameDropped_`, or the mark of the sample in its place once that is made, tells whether a
frame was dropped after the last sample. -/
def Remembers (log : List Event) (e : State) : Api → Prop
  | .writing sample => sample.discontinuity = dropped log ∧ e.lastFrameDropped = false
  | _ => e.lastFrameDropped = dropped log

structure MarkInv (log : List Event) (sys : System) : Prop where
  marked : Justified MarkedAt log
  remembers : Remembers log sys.encoder sys.api

def isWriting : Api → Bool
  | .writing _ => true
  | _ => false

theorem remembers_other {e : State} {api : Api} (h : isWriting api = false) :
    Remembers log e api ↔ e.lastFrameDropped = dropped log := by
  cases api <;> first | rfl | simp [isWriting] at h

theorem remembers_asides {e e' : State} {api : Api} (hevs : ∀ x ∈ evs, Aside x)
    (hflag : e'.lastFrameDropped = e.lastFrameDropped) :
    Remembers (log ++ evs) e' api ↔ Remembers log e api := by
  cases api <;> simp [Remembers, dropped_asides hevs, hflag]

theorem MarkInv.aside (h : MarkInv log sys)
    (hflag : sys'.encoder.lastFrameDropped = sys.encoder.lastFrameDropped)
    (hapi : sys'.api = sys.api) (hevs : ∀ e ∈ evs, Aside e) : MarkInv (log ++ evs) sys' where
  marked := justified_asides markedAt_aside hevs h.marked
  remembers := by
    rw [hapi]
    exact (remembers_asides hevs hflag).mpr h.remembers

/-- A step of the calling thread away from the samples. -/
theorem MarkInv.moves (h : MarkInv log sys)
    (hflag : sys'.encoder.lastFrameDropped = sys.encoder.lastFrameDropped)
    (hbefore : isWriting sys.api = false) (hafter : isWriting sys'.api = false)
    (hevs : ∀ e ∈ evs, Aside e) : MarkInv (log ++ evs) sys' where
  marked := justified_asides markedAt_aside hevs h.marked
  remembers := by
    rw [remembers_other hafter, hflag, dropped_asides hevs]
    exact (remembers_other hbefore).mp h.remembers

theorem isWriting_resume (pending : Option Pending) : isWriting (resume pending) = false := by
  cases pending <;> rfl

theorem reconfigureSinkWriter_markInv (h : MarkInv log sys)
    (hbefore : isWriting sys.api = false) (args : ReconfigureArgs) (pending : Option Pending)
    (hevs : ∀ e ∈ evs, Aside e) :
    MarkInv (log ++ evs) (reconfigureSinkWriter sys args pending).1 := by
  rcases reconfigureSinkWriter_cases sys args pending with heq | heq <;> rw [heq]
  · exact h.moves rfl hbefore rfl hevs
  · exact h.moves rfl hbefore (isWriting_resume pending) hevs

theorem setRates_markInv (h : MarkInv log sys) (hidle : sys.api = .idle)
    (p : RateControlParameters) (now : Int) :
    MarkInv (log ++ (setRates sys p now).2) (setRates sys p now).1 := by
  unfold setRates
  dsimp only
  split
  · exact h.aside rfl rfl (by simp [Aside])
  · split
    · exact h.aside rfl rfl (by simp [Aside])
    · rw [reconfigureSinkWriter_events]
      exact reconfigureSinkWriter_markInv h (by rw [hidle]; rfl) _ _ (by simp [Aside])

theorem encode_markInv (h : MarkInv log sys) (hidle : sys.api = .idle) (p : Pending) (now : Int) :
    MarkInv (log ++ (encode sys p now).2) (encode sys p now).1 := by
  have hbefore : isWriting sys.api = false := by
    rw [hidle]
    rfl
  unfold encode
  split
  · exact h.aside rfl rfl (by simp)
  · split
    · exact h.moves rfl hbefore rfl (by simp)
    · have hcleared : MarkInv log
          {sys with encoder := {sys.encoder with rateChangeRequested := false}} :=
        ⟨h.marked, h.remembers⟩
      rw [reconfigureSinkWriter_events]
      exact reconfigureSinkWriter_markInv hcleared hbefore _ _ (by simp [Aside])

theorem takeFrame_markInv (h : MarkInv log sys) {p : Pending} (hapi : sys.api = .sampling p)
    {fail : Option FrameCall} (hfail : fail ≠ some .sampleAttributes) :
    MarkInv (log ++ (Pipeline.takeFrame mode sys p fail).2)
      (Pipeline.takeFrame mode sys p fail).1 := by
  have hflag : sys.encoder.lastFrameDropped = dropped log :=
    (remembers_other (by rw [hapi]; rfl)).mp h.remembers
  have htakes := takeFrame_takesFrame mode sys p fail
  generalize Pipeline.takeFrame mode sys p fail = r at htakes ⊢
  cases htakes with
  | crashes hasked => exact h.aside rfl rfl (requests_asides hasked)
  | samples hasked makes =>
    obtain ⟨hmark, hcleared⟩ := makes.mark hfail
    refine ⟨justified_asides markedAt_aside (requests_asides hasked) h.marked, ?_, hcleared⟩
    rw [dropped_asides (requests_asides hasked), hmark, hflag]
  | drops hasked =>
    have hlog := justified_asides markedAt_aside (requests_asides hasked) h.marked
    rw [← List.append_assoc]
    exact ⟨justified_append.mpr ⟨hlog, by simp [MarkedAt]⟩, by simp [Remembers, dropFrame, dropped]⟩

theorem writeSample_markInv (h : MarkInv log sys) {sample : Sample}
    (hapi : sys.api = .writing sample) (hr : HResult) :
    MarkInv (log ++ (writeSample sys sample hr).2) (writeSample sys sample hr).1 := by
  obtain ⟨hmark, hcleared⟩ : sample.discontinuity = dropped log ∧
      sys.encoder.lastFrameDropped = false := by
    have hremembers := h.remembers
    rwa [hapi] at hremembers
  cases hw : sys.encoder.sinkWriter with
  | none =>
    rw [writeSample, hw]
    exact h.aside rfl rfl (by simp)
  | some w =>
    obtain ⟨segment, hsegment, hevents⟩ := writeSample_events hw sample hr
    have hstate : (writeSample sys sample hr).1.encoder = countFrame sys.encoder ∧
        (writeSample sys sample hr).1.api = .idle := by
      rw [writeSample, hw]
      exact ⟨rfl, rfl⟩
    have hlog : Justified MarkedAt (log ++ [.writeSample w sample hr]) :=
      justified_append.mpr ⟨h.marked, by simpa [MarkedAt] using hmark⟩
    rw [hevents, ← List.singleton_append, ← List.append_assoc]
    refine ⟨justified_asides markedAt_aside hsegment hlog, ?_⟩
    have hflag : (countFrame sys.encoder).lastFrameDropped = sys.encoder.lastFrameDropped := rfl
    rw [hstate.1, hstate.2]
    refine (remembers_asides hsegment hflag).mpr ?_
    simp [Remembers, hcleared, dropped]

theorem stepApi_markInv (h : MarkInv log sys) {a : Action} (ha : AttributesGiven a) :
    MarkInv (log ++ (stepApi mode sys a).2) (stepApi mode sys a).1 := by
  have hnothing : MarkInv (log ++ []) sys := by simpa using h
  unfold stepApi
  split
  · split
    · exact setRates_markInv h ‹_› _ _
    · exact hnothing
  · split
    · exact encode_markInv h ‹_› _ _
    · exact hnothing
  · split
    · exact h.aside rfl rfl (by simp)
    · exact hnothing
  · split
    · rename_i hapi
      unfold shutdownSink
      dsimp only
      split
      · exact h.moves rfl (by rw [hapi]; rfl) rfl (by simp)
      · exact h.moves rfl (by rw [hapi]; rfl) rfl (by simp)
    · exact hnothing
  · split
    · rename_i fail inited changed _ pending hapi
      have hflag : (Encoder.initWriter sys.encoder fail inited).lastFrameDropped =
          sys.encoder.lastFrameDropped := by
        unfold Encoder.initWriter makeSinkWriter makeMediaSink
        dsimp only
        repeat' split
        all_goals rfl
      have hbefore : isWriting sys.api = false := by
        rw [hapi]
        rfl
      refine ⟨justified_append.mpr ⟨h.marked, by simp [Pipeline.initWriter, MarkedAt]⟩, ?_⟩
      have hremembers := (remembers_other hbefore).mp h.remembers
      refine (remembers_other (isWriting_resume pending)).mpr ?_
      simpa [Pipeline.initWriter, dropped] using hflag.trans hremembers
    · exact hnothing
  · split
    · exact takeFrame_markInv h ‹_› ha
    · exact hnothing
  · split
    · exact writeSample_markInv h ‹_› _
    · exact hnothing
  · exact hnothing

theorem step_markInv (h : MarkInv log sys) {a : Action} (ha : AttributesGiven a) :
    MarkInv (log ++ (step mode sys a).2) (step mode sys a).1 := by
  unfold step
  split
  · simpa using h
  · split
    · exact stepApi_markInv h ha
    · obtain ⟨⟨queue, count, hencoder⟩, hapi, hevs⟩ := stepSink_asides sys a
      exact h.aside (by rw [hencoder]) hapi hevs

/-- A sample carries `MFSampleExtension_Discontinuity` just when a frame was dropped after the
sample before it, also where the writer was replaced in between. -/
theorem discontinuities_mark_drops (mode : FrameHeightRoundMode) (u : Uninitialised)
    (settings : CodecSettings) (now : Int) {actions : List Action}
    (h : ∀ a ∈ actions, AttributesGiven a) :
    Justified MarkedAt (run (step mode) (start u settings now) actions).2 := by
  have hstart : MarkInv [] (start u settings now) := by
    refine ⟨justified_nil, ?_⟩
    unfold start initEncode
    dsimp only
    split <;> rfl
  exact (run_invariant (step mode) MarkInv (fun _ _ _ hlog ha => step_markInv hlog ha) hstart
    (along_of_forall (step mode) h _ _)).marked

def marks (log : List Event) : List Bool :=
  log.filterMap fun
    | .writeSample _ sample _ => some sample.discontinuity
    | _ => none

/-- No sample can be created for the second of three frames. -/
def secondDropped : List Action :=
  [.encode (frameOf 0 640 480) none 0, .takeFrame none, .writeSample .ok,
    .encode (frameOf 3000 640 480) none 0, .takeFrame (some .createSample),
    .encode (frameOf 6000 640 480) none 0, .takeFrame none, .writeSample .ok]

theorem secondDropped_marked :
    Justified MarkedAt (run (step .noChange) (start someMemory vga 0) secondDropped).2 ∧
      marks (run (step .noChange) (start someMemory vga 0) secondDropped).2 = [false, true] :=
  ⟨discontinuities_mark_drops .noChange someMemory vga 0
    (by simp [secondDropped, AttributesGiven]), by decide⟩

end Marks

end WeiRtcNative.H264.WrittenSamples
