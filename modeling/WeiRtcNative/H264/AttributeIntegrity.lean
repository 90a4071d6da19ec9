import WeiRtcNative.H264.InFlight

/-!
# Encoded images carry the attributes of their frame

The attributes are found by sample time alone, and sample times start again at zero
with every sink writer. A late `pop` for a sample of an earlier writer must therefore
find the queue empty. For the writer in use the entries awaited by its samples are a
subsequence of the queue, so the first of them is found whenever the queue holds no
other entries or is in increasing order.
-/

namespace WeiRtcNative.H264.AttributeIntegrity

open Machine SampleAttributeQueue Encoder Pipeline InFlight
set_option autoImplicit false

def Faithful (log : List Event) : Prop :=
  ∀ image sample, .onEncodedImage image sample ∈ log →
    ∃ entry, sample.cached = some entry ∧ image.attributes = entry.value

/-- A `pop` that cannot mistake the entry of one frame for that of another. -/
def Unmistakable (sys : System) : Action → Prop
  | .popAttributes w =>
    ∀ x, (sys.writers w).running = .entered x → sys.encoder.sampleAttributeQueue = [] ∨
      sys.encoder.sinkWriter = some w ∧ x.sample.cached ≠ none ∧
        (awaited sys = sys.encoder.sampleAttributeQueue ∨
          Increasing sys.encoder.sampleAttributeQueue)
  | _ => True

structure Inv (log : List Event) (sys : System) : Prop where
  released : Released sys
  queued : (awaited sys).Sublist sys.encoder.sampleAttributeQueue
  popped : ∀ w x attributes, (sys.writers w).running = .popped x (some attributes) →
    ∃ entry, x.sample.cached = some entry ∧ attributes = entry.value
  faithful : Faithful log

theorem flow_queued {sys sys' : System} {lost : List Cached}
    (hqueued : (awaited sys).Sublist sys.encoder.sampleAttributeQueue)
    (hflow : Flow sys sys' lost) : (awaited sys').Sublist sys'.encoder.sampleAttributeQueue := by
  cases hflow with
  | cached new queue fewer all =>
    rw [queue]
    exact fewer.trans (hqueued.append (List.Sublist.refl new))
  | cleared queue none =>
    rw [none]
    exact List.nil_sublist _

/-- The `pop` finds the entry of its sample and leaves those of the samples behind it. -/
theorem popAttributes_found {sys : System} {w : Nat} {x : Encoded}
    (hqueued : (awaited sys).Sublist sys.encoder.sampleAttributeQueue)
    (hrun : (sys.writers w).running = .entered x) (hok : Unmistakable sys (.popAttributes w)) :
    (awaited (popAttributes sys w)).Sublist (popAttributes sys w).encoder.sampleAttributeQueue ∧
      ∀ attributes, (pop (sampleTimestamp x.sample) sys.encoder.sampleAttributeQueue).1 =
        some attributes → ∃ entry, x.sample.cached = some entry ∧ attributes = entry.value := by
  obtain ⟨hqueue, hown, hother⟩ := popAttributes_flow hrun
  rw [hqueue]
  rcases hok x hrun with hempty | ⟨hcur, hcached, horder⟩
  · rw [hempty] at hqueued ⊢
    have hnone := List.sublist_nil.mp hqueued
    refine ⟨?_, by simp⟩
    by_cases hcur : sys.encoder.sinkWriter = some w
    · rw [hown hcur] at hnone
      rw [(List.append_eq_nil_iff.mp hnone).2]
      exact List.nil_sublist _
    · rw [hother hcur, hnone]
      exact List.nil_sublist _
  · obtain ⟨entry, hentry⟩ := Option.ne_none_iff_exists'.mp hcached
    have hfront := hown hcur
    rw [hentry, Option.toList_some, List.singleton_append] at hfront
    have hfound : (pop entry.id sys.encoder.sampleAttributeQueue).1 = some entry.value ∧
        (awaited (popAttributes sys w)).Sublist
          (pop entry.id sys.encoder.sampleAttributeQueue).2 := by
      rcases horder with hall | hincreasing
      · rw [← hall, hfront, pop_front]
        exact ⟨rfl, List.Sublist.refl _⟩
      · rw [hfront] at hqueued
        exact hincreasing.pop_cons_sublist hqueued
    rw [Sample.cached_id hentry]
    refine ⟨hfound.2, ?_⟩
    intro attributes hattributes
    exact ⟨entry, hentry, Option.some.inj (hattributes.symm.trans hfound.1)⟩

/-- The popped attributes that work items hold after a step were held before it. -/
def NonePopped (sys sys' : System) : Prop :=
  ∀ w x attributes, (sys'.writers w).running = .popped x attributes →
    (sys.writers w).running = .popped x attributes

theorem nonePopped_setWriter {sys : System} {v : Nat} {writer : Writer}
    (hv : ∀ x attributes, writer.running = .popped x attributes →
      (sys.writers v).running = .popped x attributes) :
    NonePopped sys (sys.setWriter v writer) := by
  intro w x attributes hrun
  by_cases hw : w = v
  · subst hw
    simp only [System.setWriter, Function.update_self] at hrun
    exact hv x attributes hrun
  · simpa [System.setWriter, Function.update_of_ne hw] using hrun

theorem nonePopped_same {sys sys' : System} (h : sys'.writers = sys.writers) :
    NonePopped sys sys' := by
  intro w x attributes hrun
  rwa [h] at hrun

theorem reconfigureSinkWriter_nonePopped (sys : System) (args : ReconfigureArgs)
    (pending : Option Pending) : NonePopped sys (reconfigureSinkWriter sys args pending).1 := by
  apply nonePopped_same
  rcases reconfigureSinkWriter_cases sys args pending with h | h <;> rw [h]

theorem stepApi_nonePopped (mode : FrameHeightRoundMode) (sys : System) (a : Action) :
    NonePopped sys (stepApi mode sys a).1 := by
  have heffect := stepApi_effect mode sys a
  generalize stepApi mode sys a = r at heffect ⊢
  cases heffect with
  | none | ratesIgnored | ratesPostponed | encodes | registers | samples | drops | crashes =>
    exact nonePopped_same rfl
  | ratesApplied | reconfigures => exact reconfigureSinkWriter_nonePopped _ _ _
  | shutsDown =>
    unfold shutdownSink
    dsimp only
    split
    · exact nonePopped_same rfl
    · exact nonePopped_setWriter fun _ _ h => h
  | initializes => exact nonePopped_setWriter (fun x attributes h => by simp [Writer.create] at h)
  | writes api current =>
    rw [writeSample, current]
    apply nonePopped_setWriter
    intro x attributes h
    split at h <;> exact h

theorem stepSink_nonePopped (sys : System) (a : Action) (hpop : ∀ w, a ≠ .popAttributes w) :
    NonePopped sys (stepSink sys a).1 := by
  have heffect := stepSink_effect sys a
  generalize stepSink sys a = r at heffect ⊢
  cases heffect with
  | none => exact nonePopped_same rfl
  | changes popped => exact nonePopped_setWriter popped
  | pops => exact absurd rfl (hpop _)
  | delivers => exact nonePopped_setWriter (fun x attributes h => by simp at h)

def isImage : Event → Bool
  | .onEncodedImage _ _ => true
  | _ => false

theorem stepApi_no_image (mode : FrameHeightRoundMode) (sys : System) (a : Action) :
    ∀ e ∈ (stepApi mode sys a).2, isImage e = false := by
  have heffect := stepApi_effect mode sys a
  generalize stepApi mode sys a = r at heffect ⊢
  have hrequests : ∀ asked, KeyFrameRequests asked → ∀ e ∈ asked, isImage e = false := by
    intro asked h e he
    obtain ⟨w, rfl⟩ := h e he
    rfl
  cases heffect with
  | samples api takes requests => exact hrequests _ requests
  | crashes requests => exact hrequests _ requests
  | drops api takes requests =>
    intro e he
    rcases List.mem_append.mp he with he | he
    · exact hrequests _ requests e he
    · obtain rfl := List.mem_singleton.mp he
      rfl
  | writes api current =>
    rw [writeSample, current]
    dsimp only
    split <;> simp [isImage]
  | _ => simp [Pipeline.initWriter, isImage]

theorem faithful_append {log evs : List Event} (hlog : Faithful log)
    (hevs : ∀ e ∈ evs, isImage e = false) : Faithful (log ++ evs) := by
  intro image sample hmem
  rcases List.mem_append.mp hmem with hmem | hmem
  · exact hlog image sample hmem
  · exact absurd (hevs _ hmem) (by simp [isImage])

theorem deliver_faithful {log : List Event} {sys : System} (hinv : Inv log sys) (w : Nat)
    (readable : Bool) : Faithful (log ++ (deliver sys w readable).2) := by
  rcases deliver_cases sys w readable with h | ⟨x, attributes, hrun, n, c, evs, h, hevs⟩
  · simpa [h] using hinv.faithful
  · rw [h]
    rcases hevs with rfl | ⟨given, content, rfl, rfl⟩
    · simpa using hinv.faithful
    · intro image sample hmem
      rcases List.mem_append.mp hmem with hmem | hmem
      · exact hinv.faithful image sample hmem
      · obtain ⟨rfl, rfl⟩ : image = ⟨given, content⟩ ∧ sample = x.sample := by
          simpa using hmem
        exact hinv.popped w x given hrun

theorem step_faithful (mode : FrameHeightRoundMode) {log : List Event} {sys : System}
    (hinv : Inv log sys) (a : Action) : Faithful (log ++ (step mode sys a).2) := by
  unfold step
  split
  · simpa using hinv.faithful
  · split
    · exact faithful_append hinv.faithful (stepApi_no_image mode sys a)
    · cases a with
      | deliver w readable => exact deliver_faithful hinv w readable
      | _ => simpa [stepSink] using hinv.faithful

theorem pop_inv {log : List Event} {sys : System} {w : Nat} (hinv : Inv log sys)
    (hok : Unmistakable sys (.popAttributes w)) : Inv log (popAttributes sys w) := by
  cases hrun : (sys.writers w).running with
  | entered x =>
    obtain ⟨hqueued, hfound⟩ := popAttributes_found hinv.queued hrun hok
    obtain ⟨hapi, hw⟩ := stepSink_frame sys (.popAttributes w)
    refine ⟨?_, hqueued, ?_, hinv.faithful⟩
    · have hrel := hinv.released
      unfold Released at hrel ⊢
      rwa [← hapi, ← hw] at hrel
    · intro v y attributes hv
      by_cases hvw : v = w
      · subst hvw
        simp only [popAttributes, hrun, System.setRunning, System.setWriter, Function.update_self,
          Running.popped.injEq] at hv
        obtain ⟨rfl, hattributes⟩ := hv
        exact hfound attributes hattributes
      · refine hinv.popped v y attributes ?_
        simpa [popAttributes, hrun, System.setRunning, System.setWriter, System.setQueue,
          Function.update_of_ne hvw] using hv
  | idle | taken x | popped x attributes => simpa [popAttributes, hrun] using hinv

theorem step_nonePopped (mode : FrameHeightRoundMode) (sys : System) (a : Action)
    (hpop : ∀ w, a ≠ .popAttributes w) : NonePopped sys (step mode sys a).1 := by
  unfold step
  split
  · exact nonePopped_same rfl
  · split
    · exact stepApi_nonePopped mode sys a
    · exact stepSink_nonePopped sys a hpop

theorem step_inv {mode : FrameHeightRoundMode} {log : List Event} {sys : System} {a : Action}
    (hinv : Inv log sys) (hok : Unmistakable sys a) :
    Inv (log ++ (step mode sys a).2) (step mode sys a).1 := by
  have hfaithful := step_faithful mode hinv a
  by_cases hpop : ∃ w, a = .popAttributes w
  · obtain ⟨w, rfl⟩ := hpop
    unfold step
    split
    · simpa using hinv
    · simpa [Action.isApi, stepSink] using pop_inv hinv hok
  · have hpop' : ∀ w, a ≠ .popAttributes w := fun w hw => hpop ⟨w, hw⟩
    refine ⟨step_released mode a hinv.released, ?_, ?_, hfaithful⟩
    · exact flow_queued hinv.queued (step_flow mode a hinv.released hpop')
    · intro w x attributes hrun
      exact hinv.popped w x attributes (step_nonePopped mode sys a hpop' w x _ hrun)

theorem start_inv (u : Uninitialised) (settings : CodecSettings) (now : Int) :
    Inv [] (start u settings now) where
  released := start_released u settings now
  queued := by
    rw [start_awaited]
    exact List.nil_sublist _
  popped := by
    intro w x attributes hrun
    simp [start, Writer.create] at hrun
  faithful := by simp [Faithful]

/-- In every interleaving whose `pop`s are unmistakable, every image carries the attributes
cached for the frame of its sample. -/
theorem images_carry_their_attributes (mode : FrameHeightRoundMode) (u : Uninitialised)
    (settings : CodecSettings) (now : Int) (actions : List Action)
    (hok : Along (step mode) (fun _ => Unmistakable) [] (start u settings now) actions) :
    Faithful (run (step mode) (start u settings now) actions).2 :=
  (run_invariant (step mode) Inv (fun _ _ _ => step_inv) (start_inv u settings now) hok).faithful

def intoCallback : List Action :=
  [.registerEncodeCompleteCallback true,
    .setCurrentMediaType 0 ⟨.video, some 0, []⟩ ⟨.ok, .ok, .ok⟩, .start 0 .ok, .dispatch 0 .ok,
    .encode (frameOf 3000 640 480) none 0, .takeFrame none, .writeSample .ok,
    .output 0 [0, 0, 0, 1, 0x65, 0x88] true .ok, .dispatch 0 .ok, .enterCallback 0]

theorem image_of_one_frame :
    Faithful (run (step .noChange) (start someMemory vga 0)
      (intoCallback ++ [.popAttributes 0, .deliver 0 true])).2 := by
  apply images_carry_their_attributes
  refine ⟨trivial, trivial, trivial, trivial, trivial, trivial, trivial, trivial, trivial, trivial,
    ?_, trivial, trivial⟩
  rintro x ⟨⟩
  exact .inr ⟨rfl, by decide, .inl rfl⟩

/-- The frame size changes and a new frame is cached before the callback of the old sink pops. -/
def lateCallback : List Action :=
  intoCallback ++ [.encode (frameOf 6000 320 240) none 0, .shutdownSink, .initWriter none 0 0,
    .takeFrame none, .popAttributes 0, .deliver 0 true]

def carriesCached : Event → Bool
  | .onEncodedImage image sample => sample.cached.map (·.value) == some image.attributes
  | _ => true

theorem Faithful.all_carry {log : List Event} (h : Faithful log) : log.all carriesCached = true := by
  apply List.all_eq_true.mpr
  intro e he
  cases e with
  | onEncodedImage image sample =>
    obtain ⟨entry, hentry, himage⟩ := h image sample he
    simp [carriesCached, hentry, himage]
  | _ => rfl

/-- The image of the first frame goes out with the attributes of the second. -/
theorem late_callback_takes_new_attributes :
    ¬ Faithful (run (step .noChange) (start someMemory vga 0) lateCallback).2 := by
  intro h
  exact absurd h.all_carry (by decide +kernel)

end WeiRtcNative.H264.AttributeIntegrity
