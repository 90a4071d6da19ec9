import WeiRtcNative.H264.Decoder

/-!
# Readiness of the decoder

`inited_` should say that the last `InitDecode` succeeded and no `Release` came after it, so that
`Decode` finds a transform that is configured. `InitDecode` leaves `inited_` alone on most of its
error paths, which is right for a decoder that was not initialised and wrong for one that was; on
the others it sets it.
-/

namespace WeiRtcNative.H264.DecoderReadiness

open Machine Decoder
set_option autoImplicit false

/-- A call, with the state it left, what it did to the transforms and the value it returned. -/
structure Entry where
  call : Call
  after : State
  events : List Event
  code : CodecResult
  deriving DecidableEq, Repr

/-- A use of a null `decoder_` ends the process. -/
def step (s : State) (c : Call) : State × List Entry :=
  if s.crashed then (s, [])
  else
    let (t, events, code) := call s c
    (t, [⟨c, t, events, code⟩])

/-- Whether the decoder is ready after a call, from whether it was before. -/
def Entry.ready (was : Bool) (e : Entry) : Bool :=
  match e.call with
  | .initDecode _ _ => e.code = .ok
  | .release _ => false
  | _ => was

/-- The last `InitDecode` returned `WEBRTC_VIDEO_CODEC_OK` and no `Release` came after it. -/
def ready (log : List Entry) : Bool := log.foldl Entry.ready false

@[simp] theorem ready_append_one (log : List Entry) (e : Entry) :
    ready (log ++ [e]) = e.ready (ready log) := by
  simp [ready]

def Call.isDecode : Call → Bool
  | .decode _ _ _ => true
  | _ => false

/-- `inited_` tells the truth after the call, and a `Decode` that did something with `decoder_` found
it ready. -/
structure Sound (log : List Entry) (e : Entry) : Prop where
  inited : e.after.inited = true → e.after.decoder.isSome = true ∧ ready (log ++ [e]) = true
  used : Call.isDecode e.call = true →
    .nullDecoderUsed ∉ e.events ∧ (e.events ≠ [] → ready log = true)

/-- `InitDecode` comes to an end before it sets `inited_`. -/
def givesUp (a : InitAnswers) : Bool :=
  let output := configureOutputMediaType a.setOutputType a.outputTypes
  a.coCreateInstance.failed || a.createInputMediaType.failed || a.setInputType.failed ||
    (output.1.failed || !output.2) || (!a.getInputStatus.failed && !a.acceptsData)

/-- The input status and the three messages at the end of `InitDecode` all succeed. -/
def starts (a : InitAnswers) : Bool :=
  !a.getInputStatus.failed && !((a.flush.andThen a.beginStreaming).andThen a.startOfStream).failed

/-- An initialisation succeeds, or gives up on a decoder that was not initialised. -/
def Admits (s : State) : Call → Prop
  | .initDecode _ a =>
    givesUp a = false ∧ starts a = true ∨ givesUp a = true ∧ s.inited = false
  | _ => True

section Initialisation

theorem configure_givesUp {s : State} {i : Nat} {settings : CodecSettings} {a : InitAnswers}
    (hcreated : a.coCreateInstance.failed = false) (h : givesUp a = true) :
    (configure s i settings a).1 = s ∧ (configure s i settings a).2.2 = .error := by
  unfold configure
  dsimp only
  repeat' split
  all_goals simp_all [givesUp]

theorem configure_goes {s : State} {i : Nat} {settings : CodecSettings} {a : InitAnswers}
    (h : givesUp a = false) :
    (configure s i settings a).1 = {s with inited := true} ∧
      (configure s i settings a).2.2 = if starts a then .ok else .error := by
  unfold configure starts
  dsimp only
  repeat' split
  all_goals simp_all [givesUp]

theorem initDecode_givesUp (s : State) (settings : CodecSettings) {a : InitAnswers}
    (h : givesUp a = true) :
    (initDecode s settings a).1.inited = s.inited ∧
      (initDecode s settings a).1.crashed = s.crashed ∧
      (initDecode s settings a).2.2 = .error := by
  unfold initDecode
  dsimp only
  split
  · exact ⟨rfl, rfl, rfl⟩
  · rename_i hcreated
    obtain ⟨hstate, hcode⟩ := configure_givesUp (by simpa using hcreated) h
    rw [hstate]
    exact ⟨rfl, rfl, hcode⟩

theorem initDecode_goes (s : State) (settings : CodecSettings) {a : InitAnswers}
    (h : givesUp a = false) :
    (initDecode s settings a).1.inited = true ∧
      (initDecode s settings a).1.decoder = some s.created ∧
      (initDecode s settings a).1.crashed = s.crashed ∧
      (initDecode s settings a).2.2 = if starts a then .ok else .error := by
  have hcreated : a.coCreateInstance.failed = false := by
    cases hc : a.coCreateInstance.failed with
    | false => rfl
    | true => simp [givesUp, hc] at h
  unfold initDecode
  dsimp only
  rw [hcreated]
  simp only [Bool.false_eq_true, if_false]
  obtain ⟨hstate, hcode⟩ := configure_goes h
  rw [hstate]
  exact ⟨rfl, rfl, rfl, hcode⟩

end Initialisation

section Decoding

/-- What a call with a transform keeps. -/
structure Steady (s t : State) (events : List Event) : Prop where
  inited : t.inited = s.inited
  decoder : t.decoder = s.decoder
  crashed : t.crashed = s.crashed
  notNull : .nullDecoderUsed ∉ events

theorem Steady.append {s t u : State} {events more : List Event} (h : Steady s t events)
    (hmore : Steady t u more) : Steady s u (events ++ more) where
  inited := hmore.inited.trans h.inited
  decoder := hmore.decoder.trans h.decoder
  crashed := hmore.crashed.trans h.crashed
  notNull := by
    rw [List.mem_append, not_or]
    exact ⟨h.notNull, hmore.notNull⟩

theorem steady_flush (s : State) : Steady s s (s.decoder.toList.map Event.flush) :=
  ⟨rfl, rfl, rfl, by simp⟩

theorem enqueueFrame_steady {s : State} (image : EncodedImage) (missingFrames : Bool)
    (a : EnqueueAnswers) (hd : s.decoder.isSome = true) :
    Steady s (enqueueFrame s image missingFrames a).1
      (enqueueFrame s image missingFrames a).2.1 := by
  obtain ⟨i, hi⟩ := Option.isSome_iff_exists.mp hd
  unfold enqueueFrame
  cases hb : a.bufferFails with
  | true => exact ⟨rfl, rfl, rfl, by simp⟩
  | false =>
    by_cases hf : s.firstFrameRtp = 0
    · cases ht : a.setSampleTimeFails with
      | true =>
        simp only [hf, Bool.false_eq_true, if_false, if_true]
        exact ⟨rfl, rfl, rfl, by simp⟩
      | false =>
        simp only [hf, hi, Bool.false_eq_true, if_false, if_true]
        exact ⟨rfl, hi.symm, rfl, by simp⟩
    · cases ht : a.setSampleTimeFails with
      | true =>
        simp only [hf, Bool.false_eq_true, if_false, if_true]
        exact ⟨rfl, rfl, rfl, by simp⟩
      | false =>
        simp only [hf, hi, Bool.false_eq_true, if_false]
        exact ⟨rfl, rfl, rfl, by simp⟩

theorem enqueueOrFlush_steady {s : State} (image : EncodedImage) (missingFrames : Bool)
    (a : DecodeAnswers) (hd : s.decoder.isSome = true) :
    Steady s (enqueueOrFlush s image missingFrames a).1
      (enqueueOrFlush s image missingFrames a).2.1 := by
  have hfirst := enqueueFrame_steady image missingFrames a.enqueue hd
  have hflushed := hfirst.append (steady_flush _)
  unfold enqueueOrFlush
  dsimp only
  split
  · split
    · split
      · exact hflushed
      · refine hflushed.append (enqueueFrame_steady image missingFrames a.enqueueAgain ?_)
        rw [hfirst.decoder]
        exact hd
    · exact ⟨hflushed.inited, hflushed.decoder, hflushed.crashed, hflushed.notNull⟩
  · exact hfirst

theorem flushFrames_inited (s : State) (timestamp : UInt32) (ntpTimeMs : Int) (o : Outputs) :
    (flushFrames s timestamp ntpTimeMs o).1.inited = s.inited := by
  simp only [flushFrames]
  split <;> rfl

theorem drain_inited (s : State) (image : EncodedImage) (a : DecodeAnswers) :
    (drain s image a).1.inited = s.inited := by
  have hfirst := flushFrames_inited s image.timestamp image.ntpTimeMs a.outputs
  unfold drain
  dsimp only
  split
  · split
    · exact hfirst
    · rw [flushFrames_inited]
      exact hfirst
  · exact hfirst

theorem drain_steady (s : State) (image : EncodedImage) (a : DecodeAnswers) :
    Steady s (drain s image a).1 (drain s image a).2.1 := by
  have hdrains := drain_drains s image a
  refine ⟨drain_inited s image a, hdrains.decoder, hdrains.crashed, ?_⟩
  intro hnull
  obtain ⟨_, _, _, _, hdecoded⟩ := hdrains.events _ hnull
  cases hdecoded

theorem decode_steady {s : State} (image : EncodedImage) (missingFrames : Bool)
    (a : DecodeAnswers) (hd : s.decoder.isSome = true) :
    Steady s (decode s image missingFrames a).1 (decode s image missingFrames a).2.1 := by
  have henqueued := enqueueOrFlush_steady (s := s.openGate) image missingFrames a hd
  unfold decode
  split
  · exact ⟨rfl, rfl, rfl, by simp⟩
  · split
    · exact ⟨rfl, rfl, rfl, by simp⟩
    · dsimp only
      split
      · exact ⟨henqueued.inited, henqueued.decoder, henqueued.crashed, henqueued.notNull⟩
      · have hall := henqueued.append (drain_steady _ image a)
        exact ⟨hall.inited, hall.decoder, hall.crashed, hall.notNull⟩

theorem decode_uninitialized {s : State} (image : EncodedImage) (missingFrames : Bool)
    (a : DecodeAnswers) (h : s.inited = false) :
    decode s image missingFrames a = (s, [], .uninitialized) := by
  simp [decode, refused, h]

end Decoding

structure Inv (log : List Entry) (s : State) : Prop where
  up : s.crashed = false
  inited : s.inited = true → s.decoder.isSome = true ∧ ready log = true

theorem create_inv : Inv [] create := ⟨rfl, by simp [create]⟩

theorem step_entry {s : State} (c : Call) (h : s.crashed = false) :
    step s c = ((call s c).1, [⟨c, (call s c).1, (call s c).2.1, (call s c).2.2⟩]) := by
  simp [step, h]

theorem initDecode_sound_iff {log : List Entry} {s : State} (settings : CodecSettings)
    (a : InitAnswers) :
    Sound log ⟨.initDecode settings a, (initDecode s settings a).1, (initDecode s settings a).2.1,
      (initDecode s settings a).2.2⟩ ↔ Admits s (.initDecode settings a) := by
  cases hgivesUp : givesUp a with
  | true =>
    obtain ⟨hinited, -, hcode⟩ := initDecode_givesUp s settings hgivesUp
    constructor
    · intro h
      refine .inr ⟨hgivesUp, ?_⟩
      cases hs : s.inited with
      | false => rfl
      | true =>
        have hready := (h.inited (hinited.trans hs)).2
        simp [Entry.ready, hcode] at hready
    · rintro (⟨hgoes, -⟩ | ⟨-, hs⟩)
      · rw [hgivesUp] at hgoes
        cases hgoes
      · refine ⟨?_, by simp [Call.isDecode]⟩
        intro hafter
        rw [hinited, hs] at hafter
        cases hafter
  | false =>
    obtain ⟨hinited, hdecoder, -, hcode⟩ := initDecode_goes s settings hgivesUp
    constructor
    · intro h
      refine .inl ⟨hgivesUp, ?_⟩
      have hready := (h.inited hinited).2
      simpa [Entry.ready, hcode] using hready
    · rintro (⟨-, hstarts⟩ | ⟨hup, -⟩)
      · refine ⟨fun _ => ⟨by simp [hdecoder], ?_⟩, by simp [Call.isDecode]⟩
        simp [Entry.ready, hcode, hstarts]
      · rw [hgivesUp] at hup
        cases hup

theorem decode_sound {log : List Entry} {s : State} (h : Inv log s) (image : EncodedImage)
    (missingFrames : Bool) (a : DecodeAnswers) :
    Sound log ⟨.decode image missingFrames a, (decode s image missingFrames a).1,
      (decode s image missingFrames a).2.1, (decode s image missingFrames a).2.2⟩ := by
  cases hs : s.inited with
  | false =>
    rw [decode_uninitialized image missingFrames a hs]
    exact ⟨by simp [hs], by simp⟩
  | true =>
    obtain ⟨hdecoder, hready⟩ := h.inited hs
    have hsteady := decode_steady image missingFrames a hdecoder
    refine ⟨fun _ => ⟨?_, ?_⟩, fun _ => ⟨hsteady.notNull, fun _ => hready⟩⟩
    · dsimp only
      rw [hsteady.decoder]
      exact hdecoder
    · simpa [Entry.ready] using hready

theorem call_sound_iff {log : List Entry} {s : State} (h : Inv log s) (c : Call) :
    Sound log ⟨c, (call s c).1, (call s c).2.1, (call s c).2.2⟩ ↔ Admits s c := by
  cases c with
  | initDecode settings a => exact initDecode_sound_iff settings a
  | registerDecodeCompleteCallback present =>
    refine iff_of_true ⟨?_, by simp [Call.isDecode]⟩ trivial
    intro hinited
    obtain ⟨hdecoder, hready⟩ := h.inited hinited
    exact ⟨hdecoder, by simpa [Entry.ready] using hready⟩
  | decode image missingFrames a =>
    exact iff_of_true (decode_sound h image missingFrames a) trivial
  | release a => exact iff_of_true ⟨by simp [call, release], by simp [Call.isDecode]⟩ trivial

theorem call_crashed {log : List Entry} {s : State} (h : Inv log s) (c : Call) :
    (call s c).1.crashed = false := by
  cases c with
  | initDecode settings a =>
    cases hgivesUp : givesUp a with
    | true => exact (initDecode_givesUp s settings hgivesUp).2.1.trans h.up
    | false => exact (initDecode_goes s settings hgivesUp).2.2.1.trans h.up
  | registerDecodeCompleteCallback present => exact h.up
  | decode image missingFrames a =>
    cases hs : s.inited with
    | false =>
      rw [call, decode_uninitialized image missingFrames a hs]
      exact h.up
    | true => exact (decode_steady image missingFrames a (h.inited hs).1).crashed.trans h.up
  | release a => exact h.up

theorem step_sound_iff {log : List Entry} {s : State} (h : Inv log s) (c : Call) :
    Justified (fun pre => Sound (log ++ pre)) (step s c).2 ↔ Admits s c := by
  rw [step_entry c h.up]
  simpa using call_sound_iff h c

theorem step_inv {log : List Entry} {s : State} (h : Inv log s) {c : Call} (hc : Admits s c) :
    Inv (log ++ (step s c).2) (step s c).1 := by
  have hsound := (call_sound_iff h c).mpr hc
  rw [step_entry c h.up]
  exact ⟨call_crashed h c, hsound.inited⟩

/-- In a run, `inited_` tells the truth after every call, and `Decode` uses a ready transform, just
when every initialisation succeeds or gives up on a decoder that was not initialised. -/
theorem inited_iff_ready (calls : List Call) :
    Justified Sound (run step create calls).2 ↔
      Along step (fun _ => Admits) [] create calls := by
  apply justified_run_iff step Inv ?_ ?_ create_inv
  · intro log s c hinv
    exact step_sound_iff hinv c
  · intro log s c hinv hc
    exact step_inv hinv hc

section Failures

def fullAnswers : InitAnswers :=
  ⟨.ok, .ok, .ok, [⟨.ok, .ok, true⟩], .ok, .ok, true, .ok, .ok, .ok⟩

def smallCodec : CodecSettings := ⟨640, 480, 30⟩

def halfStarted : List Call := [.initDecode smallCodec {fullAnswers with beginStreaming := .fail}]

theorem half_started_is_inited : ¬ Justified Sound (run step create halfStarted).2 := by
  intro h
  have hready := ((h [] _ [] rfl).inited rfl).2
  revert hready
  decide

end Failures

end WeiRtcNative.H264.DecoderReadiness
