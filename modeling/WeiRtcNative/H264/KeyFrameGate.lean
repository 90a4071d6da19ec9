import WeiRtcNative.H264.Decoder

/-!
# Key-frame gating of the decoder

A transform is primed while it has accepted a complete key image and was not flushed
or replaced since. Delta images should only reach a primed transform. The gate
`require_keyframe_` stands for "not primed", and this is kept as long as a key image
that opens the gate, or is retried after a flush, is accepted in the end, and no
transform is created behind an open gate.
-/

namespace WeiRtcNative.H264.KeyFrameGate

open Machine Decoder
set_option autoImplicit false

def Interrupts (i : Nat) : Event → Prop
  | .created _ => True
  | .flush j => i = j
  | _ => False

def Primed (i : Nat) (log : List Event) : Prop :=
  ∃ pre image sample post, log = pre ++ .processInput i image sample .ok :: post ∧
    image.frameType = .key ∧ image.completeFrame = true ∧ ∀ e ∈ post, ¬ Interrupts i e

def GatedAt (pre : List Event) : Event → Prop
  | .processInput i image _ _ => image.frameType ≠ .key → Primed i pre
  | _ => True

def Gated (log : List Event) : Prop := Justified GatedAt log

theorem Primed.append {i : Nat} {log evs : List Event} (h : Primed i log)
    (hevs : ∀ e ∈ evs, ¬ Interrupts i e) : Primed i (log ++ evs) := by
  obtain ⟨pre, image, sample, post, rfl, hkey, hcomplete, hpost⟩ := h
  refine ⟨pre, image, sample, post ++ evs, by simp, hkey, hcomplete, ?_⟩
  intro e he
  rcases List.mem_append.mp he with he | he
  · exact hpost e he
  · exact hevs e he

theorem primed_of_accepted {i : Nat} {log : List Event} {image : EncodedImage} {sample : Sample}
    (hkey : image.frameType = .key) (hcomplete : image.completeFrame = true) :
    Primed i (log ++ [.processInput i image sample .ok]) :=
  ⟨log, image, sample, [], rfl, hkey, hcomplete, by simp⟩

/-- An event that neither gives a sample to a transform nor resets one. -/
def Passive : Event → Prop
  | .setInputType _ _ | .decoded _ _ _ _ | .nullDecoderUsed | .returned _ => True
  | _ => False

theorem Passive.not_interrupts {e : Event} (h : Passive e) (i : Nat) : ¬ Interrupts i e := by
  cases e <;> simp_all [Passive, Interrupts]

theorem Gated.append_passive {log evs : List Event} (h : Gated log) (hevs : ∀ e ∈ evs, Passive e) :
    Gated (log ++ evs) := by
  refine justified_append.mpr ⟨h, ?_⟩
  rintro pre e post rfl
  have he := hevs e (by simp)
  cases e <;> simp_all [Passive, GatedAt]

theorem Gated.append_one {log : List Event} {e : Event} (h : Gated log) (he : GatedAt log e) :
    Gated (log ++ [e]) :=
  justified_append.mpr ⟨h, by simpa using he⟩

/-- The gate is shut, or the transform behind it is primed. -/
structure Inv (log : List Event) (s : State) : Prop where
  gated : Gated log
  primed : s.requireKeyframe = false → ∀ i, s.decoder = some i → Primed i log

theorem Inv.append_passive {log evs : List Event} {s t : State} (h : Inv log s)
    (hr : t.requireKeyframe = s.requireKeyframe) (hd : t.decoder = s.decoder)
    (hevs : ∀ e ∈ evs, Passive e) : Inv (log ++ evs) t where
  gated := h.gated.append_passive hevs
  primed := by
    intro hopen i hi
    rw [hr] at hopen
    rw [hd] at hi
    exact (h.primed hopen i hi).append fun e he => (hevs e he).not_interrupts i

def admitted (s : State) (image : EncodedImage) : Bool :=
  (refused s image).isNone && (!s.requireKeyframe || image.cleanPoint)

/-- The transform takes the image, at once or after one flush. -/
def Accepted (a : DecodeAnswers) : Prop :=
  a.enqueue.result = .ok ∨
    a.enqueue.result = .notAccepting ∧ a.flush = .ok ∧ a.enqueueAgain.result = .ok

def Safe (s : State) : Call → Prop
  | .initDecode _ a => a.coCreateInstance = .ok → s.requireKeyframe = true
  | .decode image _ a =>
    admitted s image = true → s.decoder ≠ none → image.frameType = .key →
      s.requireKeyframe = true ∨ a.enqueue.result = .notAccepting →
      image.completeFrame = true ∧ Accepted a
  | _ => True

/-- A delta image needs a primed transform, a key image one that stays or becomes primed. -/
def Ready (i : Nat) (log : List Event) (image : EncodedImage) (a : DecodeAnswers) : Prop :=
  Primed i log ∧ (image.frameType = .key → a.enqueue.result ≠ .notAccepting) ∨
    image.frameType = .key ∧ image.completeFrame = true ∧ Accepted a

theorem Ready.primed {i : Nat} {log : List Event} {image : EncodedImage} {a : DecodeAnswers}
    (h : Ready i log image a) (hdelta : image.frameType ≠ .key) : Primed i log := by
  rcases h with ⟨hp, -⟩ | ⟨hkey, -⟩
  · exact hp
  · exact absurd hkey hdelta

theorem Ready.enqueued {i : Nat} {log : List Event} {image : EncodedImage} {a : DecodeAnswers}
    (h : Ready i log image a) (hres : a.enqueue.result ≠ .notAccepting) (sample : Sample) :
    Primed i (log ++ [.processInput i image sample a.enqueue.result]) := by
  rcases h with ⟨hp, -⟩ | ⟨hkey, hcomplete, hok | ⟨hna, -⟩⟩
  · exact hp.append (by simp [Interrupts])
  · rw [hok]
    exact primed_of_accepted hkey hcomplete
  · exact absurd hna hres

theorem Ready.retried {i : Nat} {log : List Event} {image : EncodedImage} {a : DecodeAnswers}
    (h : Ready i log image a) (hres : a.enqueue.result = .notAccepting)
    (hkey : image.frameType = .key) :
    image.completeFrame = true ∧ a.flush = .ok ∧ a.enqueueAgain.result = .ok := by
  rcases h with ⟨-, hno⟩ | ⟨-, hcomplete, hok | ⟨-, hflush, hagain⟩⟩
  · exact absurd hres (hno hkey)
  · exact absurd (hres.symm.trans hok) (by decide)
  · exact ⟨hcomplete, hflush, hagain⟩

theorem inv_of_primed {log : List Event} {s : State} {i : Nat} (hlog : Gated log)
    (hd : s.decoder = some i) (hp : Primed i log) : Inv log s := by
  refine ⟨hlog, ?_⟩
  intro _ j hj
  obtain rfl : i = j := Option.some.inj (hd.symm.trans hj)
  exact hp

/-- A key image retried after a flush primes the transform again. -/
theorem retry_inv {log : List Event} {s : State} {i : Nat} {image : EncodedImage}
    (missingFrames : Bool) {a : EnqueueAnswers} (hd : s.decoder = some i) (hlog : Gated log)
    (hkey : image.frameType = .key) (hcomplete : image.completeFrame = true)
    (hok : a.result = .ok) :
    Inv (log ++ (enqueueFrame s image missingFrames a).2.1)
      (enqueueFrame s image missingFrames a).1 := by
  obtain ⟨t, htd, -, -, ⟨hfail, -⟩ | ⟨sample, he⟩⟩ := enqueueFrame_some s image missingFrames a hd
  · exact absurd (hok.symm.trans hfail) (by decide)
  · rw [he, hok]
    have hlog' := hlog.append_one (e := .processInput i image sample .ok)
      (fun hdelta => absurd hkey hdelta)
    exact inv_of_primed hlog' htd (primed_of_accepted hkey hcomplete)

theorem enqueueOrFlush_inv {log : List Event} {s : State} {i : Nat} {image : EncodedImage}
    {missingFrames : Bool} {a : DecodeAnswers} (hd : s.decoder = some i) (hlog : Gated log)
    (hready : Ready i log image a) :
    Inv (log ++ (enqueueOrFlush s image missingFrames a).2.1)
      (enqueueOrFlush s image missingFrames a).1 := by
  obtain ⟨t, htd, -, -, ⟨hres, he⟩ | ⟨sample, he⟩⟩ := enqueueFrame_some s image missingFrames a.enqueue hd
  · have hp : Primed i log := by
      rcases hready with ⟨hp, -⟩ | ⟨-, -, hok | ⟨hna, -⟩⟩
      · exact hp
      · exact absurd (hres.symm.trans hok) (by decide)
      · exact absurd (hres.symm.trans hna) (by decide)
    simp only [enqueueOrFlush, he, reduceCtorEq, if_false, List.append_nil]
    exact inv_of_primed hlog htd hp
  · have hlog₁ := hlog.append_one (e := .processInput i image sample a.enqueue.result)
      (fun hdelta => hready.primed hdelta)
    by_cases hna : a.enqueue.result = .notAccepting
    · have hlog₂ := hlog₁.append_one (e := .flush i) trivial
      by_cases hkey : image.frameType = .key
      · obtain ⟨hcomplete, hflush, hagain⟩ := hready.retried hna hkey
        have hretry := retry_inv missingFrames htd hlog₂ hkey hcomplete hagain
        simp only [enqueueOrFlush, he, hna, hkey, hflush, htd, HResult.failed, bne_self_eq_false,
          if_true, Bool.false_eq_true, if_false, Option.toList_some, List.map_cons, List.map_nil]
        simpa [hna] using hretry
      · simp only [enqueueOrFlush, he, hna, if_true, hkey, if_false, htd, Option.toList_some,
          List.map_cons, List.map_nil]
        rw [hna] at hlog₂
        exact ⟨by simpa using hlog₂, by simp⟩
    · simp only [enqueueOrFlush, he, hna, if_false]
      exact inv_of_primed hlog₁ htd (hready.enqueued hna sample)

theorem enqueueOrFlush_null {log : List Event} {s : State} {image : EncodedImage}
    {missingFrames : Bool} {a : DecodeAnswers} (hd : s.decoder = none) (hlog : Gated log) :
    Inv (log ++ (enqueueOrFlush s image missingFrames a).2.1)
      (enqueueOrFlush s image missingFrames a).1 := by
  obtain ⟨t, htd, he | he⟩ := enqueueFrame_none s image missingFrames a.enqueue hd
  · simp only [enqueueOrFlush, he, reduceCtorEq, if_false, List.append_nil]
    exact ⟨hlog, by simp [htd]⟩
  · simp only [enqueueOrFlush, he, reduceCtorEq, if_false]
    exact ⟨hlog.append_passive (by simp [Passive]), by simp [htd]⟩

theorem ready_of_safe {log : List Event} {s : State} {i : Nat} {image : EncodedImage}
    {missingFrames : Bool} {a : DecodeAnswers} (hinv : Inv log s) (hd : s.decoder = some i)
    (hadm : admitted s image = true) (hsafe : Safe s (.decode image missingFrames a)) :
    Ready i log image a := by
  have hsafe' := hsafe hadm (by simp [hd])
  cases hreq : s.requireKeyframe with
  | true =>
    obtain ⟨hkey, hcomplete⟩ : image.frameType = .key ∧ image.completeFrame = true := by
      simpa [admitted, hreq, EncodedImage.cleanPoint] using (Bool.and_eq_true_iff.mp hadm).2
    exact .inr ⟨hkey, hcomplete, (hsafe' hkey (.inl hreq)).2⟩
  | false =>
    have hp := hinv.primed hreq i hd
    by_cases hkey : image.frameType = .key
    · by_cases hna : a.enqueue.result = .notAccepting
      · exact .inr ⟨hkey, hsafe' hkey (.inr hna)⟩
      · exact .inl ⟨hp, fun _ => hna⟩
    · exact .inl ⟨hp, fun h => absurd h hkey⟩

theorem decode_inv {log : List Event} {s : State} {image : EncodedImage} {missingFrames : Bool}
    {a : DecodeAnswers} (hinv : Inv log s) (hsafe : Safe s (.decode image missingFrames a)) :
    Inv (log ++ (decode s image missingFrames a).2.1) (decode s image missingFrames a).1 := by
  unfold decode
  cases hrefused : refused s image with
  | some code => simpa using hinv
  | none =>
    dsimp only
    by_cases hgate : (s.requireKeyframe && !image.cleanPoint) = true
    · rw [if_pos hgate]
      simpa using hinv
    · have hadm : admitted s image = true := by
        cases hreq : s.requireKeyframe <;> simp_all [admitted]
      have henq : Inv (log ++ (enqueueOrFlush s.openGate image missingFrames a).2.1)
          (enqueueOrFlush s.openGate image missingFrames a).1 := by
        by_cases hd : s.decoder = none
        · exact enqueueOrFlush_null hd hinv.gated
        · obtain ⟨i, hi⟩ := Option.ne_none_iff_exists'.mp hd
          exact enqueueOrFlush_inv hi hinv.gated (ready_of_safe hinv hi hadm hsafe)
      rw [if_neg hgate]
      split
      · exact henq
      · have hdrain := drain_drains (enqueueOrFlush s.openGate image missingFrames a).1 image a
        rw [← List.append_assoc]
        refine henq.append_passive hdrain.requireKeyframe hdrain.decoder ?_
        intro e he
        obtain ⟨_, _, _, _, rfl⟩ := hdrain.events e he
        trivial

theorem configure_shut {log : List Event} (s : State) (i : Nat) (settings : CodecSettings)
    (a : InitAnswers) (hlog : Gated log) :
    Gated (log ++ (configure s i settings a).2.1) ∧
      (configure s i settings a).1.requireKeyframe = s.requireKeyframe := by
  have htype : ∀ type, Gated (log ++ [.setInputType i type]) :=
    fun type => hlog.append_passive (by simp [Passive])
  unfold configure
  repeat' split
  all_goals first
    | exact ⟨by simpa using hlog, rfl⟩
    | exact ⟨htype _, rfl⟩
    | exact ⟨by simpa using (htype _).append_one (e := .flush i) trivial, rfl⟩

theorem initDecode_inv {log : List Event} {s : State} {settings : CodecSettings}
    {a : InitAnswers} (hinv : Inv log s) (hsafe : Safe s (.initDecode settings a)) :
    Inv (log ++ (initDecode s settings a).2.1) (initDecode s settings a).1 := by
  unfold initDecode
  dsimp only
  split
  · exact ⟨by simpa using hinv.gated, by simp⟩
  · rename_i hok
    have hreq := hsafe (by simpa using hok)
    have hlog := hinv.gated.append_one (e := .created s.created) trivial
    obtain ⟨hgated, hshut⟩ := configure_shut _ s.created settings a hlog
    refine ⟨by simpa using hgated, ?_⟩
    intro hopen
    exact absurd ((hshut.trans hreq).symm.trans hopen) (by decide)

theorem release_inv {log : List Event} {s : State} {a : ReleaseAnswers} (hinv : Inv log s) :
    Inv (log ++ (release s a).2.1) (release s a).1 := by
  refine ⟨justified_append.mpr ⟨hinv.gated, ?_⟩, by simp [release]⟩
  unfold release
  cases s.decoder <;> cases (a.endOfStream.andThen a.drain).failed <;> simp [GatedAt]

theorem call_inv {log : List Event} {s : State} {c : Call} (hinv : Inv log s) (hsafe : Safe s c) :
    Inv (log ++ (call s c).2.1) (call s c).1 := by
  cases c with
  | initDecode settings a => exact initDecode_inv hinv hsafe
  | registerDecodeCompleteCallback present => exact hinv.append_passive rfl rfl (by simp [call])
  | decode image missingFrames a => exact decode_inv hinv hsafe
  | release a => exact release_inv hinv

theorem step_inv {log : List Event} {s : State} {c : Call} (hinv : Inv log s) (hsafe : Safe s c) :
    Inv (log ++ (step s c).2) (step s c).1 := by
  unfold step
  split
  · simpa using hinv
  · dsimp only
    rw [← List.append_assoc]
    refine (call_inv hinv hsafe).append_passive rfl rfl ?_
    intro e he
    split at he
    · simp at he
    · obtain rfl := List.mem_singleton.mp he
      trivial

theorem create_inv : Inv [] create := ⟨justified_nil, by simp [create]⟩

/-- While no key image is lost behind an open gate and no transform is replaced there, delta
images reach primed transforms only. -/
theorem delta_after_key (calls : List Call) (hsafe : Along step (fun _ => Safe) [] create calls) :
    Gated (run step create calls).2 :=
  (run_invariant step Inv (fun _ _ _ => step_inv) create_inv hsafe).gated

def initOk : InitAnswers where
  coCreateInstance := .ok
  createInputMediaType := .ok
  setInputType := .ok
  outputTypes := [⟨.ok, .ok, true⟩]
  setOutputType := .ok
  getInputStatus := .ok
  acceptsData := true
  flush := .ok
  beginStreaming := .ok
  startOfStream := .ok

def enqueueAnswering (hr : HResult) : EnqueueAnswers := ⟨false, false, false, false, false, hr⟩

def decodeAnswering (hr : HResult) : DecodeAnswers where
  enqueue := enqueueAnswering hr
  flush := .ok
  enqueueAgain := enqueueAnswering .ok
  outputs := ⟨[], none, .needMoreInput⟩
  outputTypes := []
  setOutputType := .ok
  outputsAgain := ⟨[], none, .needMoreInput⟩

def keyImage : EncodedImage := ⟨.bytes [0, 0, 0, 1, 0x65], .key, true, 3000, 0⟩

def deltaImage : EncodedImage := ⟨.bytes [0, 0, 0, 1, 0x41], .delta, true, 6000, 0⟩

def opening : List Call :=
  [.initDecode ⟨640, 480, 30⟩ initOk, .registerDecodeCompleteCallback true]

/-- A key image retried after a flush, a delta image, and the end of the stream. -/
theorem delta_after_retried_key :
    Gated (run step create (opening ++
      [.decode keyImage false (decodeAnswering .notAccepting),
        .decode deltaImage false (decodeAnswering .ok), .release ⟨.ok, .ok⟩])).2 := by
  apply delta_after_key
  refine ⟨fun _ => rfl, trivial, ?_, ?_, trivial, trivial⟩
  · intro _ _ _ _
    exact ⟨rfl, .inr ⟨rfl, rfl, rfl⟩⟩
  · intro _ _ hkey
    cases hkey

def isAccepted : Event → Bool
  | .processInput _ _ _ hr => !hr.failed
  | _ => false

theorem Primed.exists_accepted {i : Nat} {log : List Event} (h : Primed i log) :
    log.any isAccepted = true := by
  obtain ⟨pre, image, sample, post, rfl, -⟩ := h
  simp [isAccepted]

def lostKey : List Call := opening ++
  [.decode keyImage false (decodeAnswering .fail), .decode deltaImage false (decodeAnswering .ok)]

/-- `ProcessInput` refuses the key image; the gate is open and the delta image goes in. -/
theorem delta_after_lost_key : ¬ Gated (run step create lostKey).2 := by
  intro h
  have hdelta : GatedAt ((run step create lostKey).2.take 7)
      (.processInput 0 deltaImage ⟨deltaImage.data.copied, 330000, false, false⟩ .ok) :=
    h _ _ [.returned .ok] (by decide +kernel)
  have hprimed : Primed 0 ((run step create lostKey).2.take 7) := hdelta (by decide)
  exact absurd hprimed.exists_accepted (by decide)

end WeiRtcNative.H264.KeyFrameGate
