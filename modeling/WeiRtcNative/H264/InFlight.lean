import WeiRtcNative.H264.Pipeline

/-!
# Samples in flight and the entries cached for them

The samples of the sink writer in use, in the order in which they will reach
`OnH264Encoded`: the one a work item holds, those in `sampleQueue_`, those in the
encoder, and the one `Encode` is about to write. `Flow` says what an action other than
a `pop` does to them and to the attribute queue; `discarded` are the samples it loses.
-/

namespace WeiRtcNative.H264.InFlight

open SampleAttributeQueue Encoder Pipeline
set_option autoImplicit false

abbrev Cached := Entry CachedFrameAttributes

/-- The sample of a work item that has not come to the `pop`. -/
def waiting : Running → List Encoded
  | .taken x | .entered x => [x]
  | _ => []

def samples (writer : Writer) : List Sample :=
  (waiting writer.running ++ writer.sink.sampleQueue).map (·.sample) ++ writer.encoding

def held : Api → List Sample
  | .writing sample => [sample]
  | _ => []

def inUse (sys : System) : List Sample :=
  match sys.encoder.sinkWriter with
  | none => []
  | some w => samples (sys.writers w)

def inFlight (sys : System) : List Sample := inUse sys ++ held sys.api

def entries (xs : List Sample) : List Cached := xs.filterMap Sample.cached

def awaited (sys : System) : List Cached := entries (inFlight sys)

@[simp] theorem entries_nil : entries [] = [] := rfl

@[simp] theorem entries_append (xs ys : List Sample) : entries (xs ++ ys) = entries xs ++ entries ys :=
  List.filterMap_append

@[simp] theorem entries_cons (x : Sample) (xs : List Sample) :
    entries (x :: xs) = x.cached.toList ++ entries xs := by
  cases hcached : x.cached <;> simp [entries, hcached]

theorem entries_sublist {xs ys : List Sample} (h : xs.Sublist ys) : (entries xs).Sublist (entries ys) :=
  h.filterMap _

/-- The samples of the writer in use that an action throws away. -/
def discarded (sys : System) : Action → List Sample
  | .writeSample hr => if hr.failed then held sys.api else []
  | .output w _ _ _ =>
    if sys.encoder.sinkWriter = some w ∧ (sys.writers w).sink.rejectsSample then
      (sys.writers w).encoding.take 1 else []
  | .flush w =>
    if sys.encoder.sinkWriter = some w ∧ !(sys.writers w).sink.isShutdown then
      (sys.writers w).sink.sampleQueue.map (·.sample) else []
  | .dispatch w _ =>
    if sys.encoder.sinkWriter = some w ∧ (sys.writers w).running = .idle ∧
        (sys.writers w).sink.workItems.head? = some .stop then
      (sys.writers w).sink.sampleQueue.map (·.sample) else []
  | .enterCallback w =>
    if sys.encoder.sinkWriter = some w ∧ !(sys.writers w).sink.encodingCallback then
      (waiting (sys.writers w).running).map (·.sample) else []
  | _ => []

inductive Flow (sys sys' : System) (lost : List Cached) : Prop where
  | cached (new : List Cached)
      (queue : sys'.encoder.sampleAttributeQueue = sys.encoder.sampleAttributeQueue ++ new)
      (fewer : (awaited sys').Sublist (awaited sys ++ new))
      (all : lost = [] → awaited sys' = awaited sys ++ new)
  | cleared (queue : sys'.encoder.sampleAttributeQueue = []) (none : awaited sys' = [])

theorem awaited_congr {sys sys' : System} (hw : sys'.encoder.sinkWriter = sys.encoder.sinkWriter)
    (hwriters : sys'.writers = sys.writers) (hapi : held sys'.api = held sys.api) :
    awaited sys' = awaited sys := by
  simp only [awaited, inFlight, inUse, hw, hwriters, hapi]

theorem flow_same {sys sys' : System} {lost : List Cached}
    (hq : sys'.encoder.sampleAttributeQueue = sys.encoder.sampleAttributeQueue)
    (ha : awaited sys' = awaited sys) : Flow sys sys' lost :=
  .cached [] (by simpa using hq) (by simp [ha]) (by simp [ha])

theorem flow_refl (sys : System) (lost : List Cached) : Flow sys sys lost := flow_same rfl rfl

theorem flow_from_same {sys sys' : System} {lost : List Cached} (before : System)
    (hq : before.encoder.sampleAttributeQueue = sys.encoder.sampleAttributeQueue)
    (ha : awaited before = awaited sys) (hflow : Flow before sys' lost) : Flow sys sys' lost := by
  cases hflow with
  | cached new queue fewer all => exact .cached new (hq ▸ queue) (ha ▸ fewer) (ha ▸ all)
  | cleared queue none => exact .cleared queue none

theorem awaited_setWriter_of_ne {sys : System} {w : Nat} {writer : Writer}
    (h : sys.encoder.sinkWriter ≠ some w) : awaited (sys.setWriter w writer) = awaited sys := by
  cases hw : sys.encoder.sinkWriter with
  | none => simp [awaited, inFlight, inUse, System.setWriter, hw]
  | some v =>
    have hne : v ≠ w := by
      rintro rfl
      exact h hw
    simp [awaited, inFlight, inUse, System.setWriter, hw, Function.update_of_ne hne]

theorem awaited_setWriter {sys : System} {w : Nat} {writer : Writer}
    (h : sys.encoder.sinkWriter = some w) :
    awaited (sys.setWriter w writer) = entries (samples writer) ++ entries (held sys.api) := by
  simp [awaited, inFlight, inUse, System.setWriter, h]

theorem awaited_of_current {sys : System} {w : Nat} (h : sys.encoder.sinkWriter = some w) :
    awaited sys = entries (samples (sys.writers w)) ++ entries (held sys.api) := by
  simp [awaited, inFlight, inUse, h]

/-- Changing one writer loses what its new samples lack. -/
theorem flow_setWriter {sys : System} {w : Nat} {writer : Writer} {lost : List Cached}
    (hsub : (entries (samples writer)).Sublist (entries (samples (sys.writers w))))
    (hall : sys.encoder.sinkWriter = some w → lost = [] →
      entries (samples writer) = entries (samples (sys.writers w))) :
    Flow sys (sys.setWriter w writer) lost := by
  by_cases h : sys.encoder.sinkWriter = some w
  · refine .cached [] (by simp [System.setWriter]) ?_ ?_
    · rw [awaited_setWriter h, awaited_of_current h, List.append_nil]
      exact hsub.append (List.Sublist.refl _)
    · intro hlost
      rw [awaited_setWriter h, awaited_of_current h, List.append_nil, hall h hlost]
  · exact flow_same rfl (awaited_setWriter_of_ne h)

/-- A sink operation that keeps `sampleQueue_`. -/
theorem flow_setSink {sys : System} {w : Nat} {sink : StreamSink Encoded} {lost : List Cached}
    (h : sink.sampleQueue = (sys.writers w).sink.sampleQueue) :
    Flow sys (sys.setSink w sink) lost := by
  have hsamples : samples {sys.writers w with sink := sink} = samples (sys.writers w) := by
    simp [samples, h]
  exact flow_setWriter (by rw [hsamples]) (fun _ _ => by rw [hsamples])

theorem output_flow (sys : System) (w : Nat) (bytes : Fragmentation.Bytes) (cleanPoint : Bool)
    (put : HResult) :
    Flow sys (output sys w bytes cleanPoint put)
      (entries (discarded sys (.output w bytes cleanPoint put))) := by
  unfold output
  split
  · exact flow_refl sys _
  · rename_i sample rest hencoding
    have hqueue := StreamSink.processSample_sampleQueue (sys.writers w).sink
      (Encoded.mk sample bytes cleanPoint) put
    cases hrej : (sys.writers w).sink.rejectsSample with
    | true =>
      rw [if_pos hrej] at hqueue
      apply flow_setWriter
      · apply entries_sublist
        simp [samples, hqueue, hencoding]
      · intro hcur hlost
        simp only [discarded, hcur, hrej, hencoding, and_self, if_true, List.take_succ_cons,
          List.take_zero, entries_cons, entries_nil, List.append_nil] at hlost
        simp [samples, hqueue, hencoding, hlost]
    | false =>
      rw [if_neg (by simp [hrej])] at hqueue
      have hsame : samples {sys.writers w with
          encoding := rest
          sink := ((sys.writers w).sink.processSample ⟨sample, bytes, cleanPoint⟩ put).1} =
          samples (sys.writers w) := by
        simp [samples, hqueue, hencoding]
      exact flow_setWriter (by rw [hsame]) (fun _ _ => by rw [hsame])

theorem flush_flow (sys : System) (w : Nat) :
    Flow sys (sys.setSink w (sys.writers w).sink.flush.1) (entries (discarded sys (.flush w))) := by
  have hqueue := StreamSink.flush_sampleQueue (sys.writers w).sink
  cases hshut : (sys.writers w).sink.isShutdown with
  | true => exact flow_setSink (by simpa [hshut] using hqueue)
  | false =>
    simp only [hshut, Bool.false_eq_true, if_false] at hqueue
    apply flow_setWriter
    · apply entries_sublist
      simp [samples, hqueue]
    · intro hcur hlost
      simp only [discarded, hcur, hshut, Bool.not_false, and_self, if_true] at hlost
      simp [samples, hqueue, hlost]

theorem dispatch_flow (sys : System) (w : Nat) (event : HResult) :
    Flow sys (dispatch sys w event) (entries (discarded sys (.dispatch w event))) := by
  unfold dispatch
  split
  · rename_i sink hrun hitem
    rcases StreamSink.onDispatchWorkItem_cases hitem with hkept | ⟨hstop, -, hempty⟩
    · exact flow_setSink (by simpa using hkept.symm)
    · apply flow_setWriter
      · apply entries_sublist
        simp [samples, hempty]
      · intro hcur hlost
        simp only [discarded, hcur, hrun, hstop, and_self, if_true] at hlost
        simp [samples, hempty, hlost]
  · rename_i sink x hrun hitem
    rcases StreamSink.onDispatchWorkItem_cases hitem with hkept | ⟨-, hnone, -⟩
    · have hsame : samples {sys.writers w with sink := sink, running := .taken x} =
          samples (sys.writers w) := by
        simp [samples, waiting, hrun, hkept]
      exact flow_setWriter (by rw [hsame]) (fun _ _ => by rw [hsame])
    · exact absurd hnone (by simp)
  · exact flow_refl sys _

theorem enterCallback_flow (sys : System) (w : Nat) :
    Flow sys (enterCallback sys w) (entries (discarded sys (.enterCallback w))) := by
  unfold enterCallback
  split
  · rename_i x hrun
    cases hcb : (sys.writers w).sink.encodingCallback with
    | true =>
      have hsame : samples {sys.writers w with running := .entered x} = samples (sys.writers w) := by
        simp [samples, waiting, hrun]
      exact flow_setWriter (by simp [hsame]) (fun _ _ => by simp [hsame])
    | false =>
      apply flow_setWriter
      · apply entries_sublist
        simp [samples, waiting, hrun]
      · intro hcur hlost
        simp only [discarded, hcur, hcb, Bool.not_false, and_self, if_true, hrun, waiting,
          List.map_cons, List.map_nil, entries_cons, entries_nil, List.append_nil] at hlost
        simp [samples, waiting, hrun, hlost]
  · exact flow_refl sys _

theorem deliver_flow (sys : System) (w : Nat) (readable : Bool) (lost : List Cached) :
    Flow sys (deliver sys w readable).1 lost := by
  rcases deliver_cases sys w readable with h | ⟨x, attributes, hrun, n, c, evs, h, -⟩
  · rw [h]
    exact flow_refl sys _
  · rw [h]
    have hsame : samples {sys.writers w with running := .idle} = samples (sys.writers w) := by
      simp [samples, waiting, hrun]
    have hidle : awaited (sys.setRunning w .idle) = awaited sys := by
      by_cases hcur : sys.encoder.sinkWriter = some w
      · rw [System.setRunning, awaited_setWriter hcur, awaited_of_current hcur, hsame]
      · exact awaited_setWriter_of_ne hcur
    exact flow_same rfl ((awaited_congr rfl rfl rfl).trans hidle)

theorem stepSink_flow (sys : System) (a : Action) (hpop : ∀ w, a ≠ .popAttributes w) :
    Flow sys (stepSink sys a).1 (entries (discarded sys a)) := by
  cases a with
  | output w bytes cleanPoint put => exact output_flow sys w bytes cleanPoint put
  | setCurrentMediaType w type answers =>
    exact flow_setSink (StreamSink.setCurrentMediaType_sampleQueue _ type answers)
  | start w put => exact flow_setSink (StreamSink.changeState_sampleQueue _ _ _ put)
  | stop w put => exact flow_setSink (StreamSink.changeState_sampleQueue _ _ _ put)
  | flush w => exact flush_flow sys w
  | placeMarker w put => exact flow_setSink (StreamSink.placeMarker_sampleQueue _ put)
  | dispatch w event => exact dispatch_flow sys w event
  | enterCallback w => exact enterCallback_flow sys w
  | popAttributes w => exact absurd rfl (hpop w)
  | deliver w readable => exact deliver_flow sys w readable _
  | _ => exact flow_refl sys _

/-- No writer is in use between `ReleaseWriter` and `InitWriter`. -/
def Released (sys : System) : Prop :=
  match sys.api with
  | .shuttingDown _ _ _ | .initializing _ => sys.encoder.sinkWriter = none
  | _ => True

theorem awaited_of_none {sys : System} (hw : sys.encoder.sinkWriter = none)
    (hapi : held sys.api = []) : awaited sys = [] := by
  simp [awaited, inFlight, inUse, hw, hapi]

theorem held_resume (pending : Option Pending) : held (resume pending) = [] := by
  cases pending <;> rfl

theorem reconfigureSinkWriter_flow {sys : System} (args : ReconfigureArgs)
    (pending : Option Pending) (lost : List Cached) (hidle : sys.api = .idle) :
    Flow sys (reconfigureSinkWriter sys args pending).1 lost := by
  rcases reconfigureSinkWriter_cases sys args pending with h | h
  · rw [h]
    exact .cleared rfl (awaited_of_none rfl rfl)
  · rw [h]
    refine flow_same rfl (awaited_congr rfl rfl ?_)
    rw [hidle]
    exact held_resume pending

theorem shutdownSink_flow {sys : System} {sink : Option Nat} {callback : Bool}
    {pending : Option Pending} (lost : List Cached) (hrel : Released sys)
    (hapi : sys.api = .shuttingDown sink callback pending) :
    Flow sys (shutdownSink sys sink callback pending) lost := by
  have hnone : sys.encoder.sinkWriter = none := by simpa [Released, hapi] using hrel
  have hbefore := awaited_of_none hnone (by rw [hapi]; rfl)
  unfold shutdownSink
  dsimp only
  split
  all_goals
    refine flow_same rfl ?_
    rw [hbefore]
    exact awaited_of_none hnone rfl

@[simp] theorem samples_create (registered : Bool) : samples (Writer.create registered) = [] := by
  cases registered <;> rfl

theorem initWriter_flow {mode : FrameHeightRoundMode} {sys : System} {pending : Option Pending}
    (fail : Option WriterCall) (inited changed : Int) (lost : List Cached) (hrel : Released sys)
    (hapi : sys.api = .initializing pending) :
    Flow sys (initWriter mode sys pending fail inited changed).1 lost := by
  have hnone : sys.encoder.sinkWriter = none := by simpa [Released, hapi] using hrel
  have hbefore := awaited_of_none hnone (by rw [hapi]; rfl)
  have hafter : awaited (initWriter mode sys pending fail inited changed).1 = [] := by
    rcases initWriter_sinkWriter hnone fail inited with hw | hw
    · exact awaited_of_none hw (held_resume pending)
    · rw [awaited_of_current hw]
      simp [Pipeline.initWriter, held_resume]
  exact flow_same (initWriter_queue sys.encoder fail inited) (hafter.trans hbefore.symm)

theorem samples_flow {sys : System} {p : Pending} {e : State} {sample : Sample}
    (lost : List Cached) (hapi : sys.api = .sampling p)
    (htakes : Takes sys.encoder e (some sample)) :
    Flow sys {sys with encoder := e, api := .writing sample} lost := by
  have hw : e.sinkWriter = sys.encoder.sinkWriter := htakes.sinkWriter
  have hawaited : awaited {sys with encoder := e, api := .writing sample} =
      awaited sys ++ sample.cached.toList := by
    simp [awaited, inFlight, inUse, hw, hapi, held]
  exact .cached sample.cached.toList htakes.queue (by rw [hawaited]) (fun _ => hawaited)

theorem writeSample_flow {sys : System} {sample : Sample} {w : Nat} (hr : HResult)
    (hapi : sys.api = .writing sample) (hw : sys.encoder.sinkWriter = some w) :
    Flow sys (writeSample sys sample hr).1 (entries (discarded sys (.writeSample hr))) := by
  have hbefore : awaited sys = entries (samples (sys.writers w)) ++ entries [sample] := by
    rw [awaited_of_current hw, hapi]
    rfl
  rw [writeSample, hw]
  dsimp only
  cases hfail : hr.failed with
  | true =>
    have hafter : awaited {sys.setWriter w (sys.writers w) with
        encoder := countFrame sys.encoder, api := .idle} = entries (samples (sys.writers w)) := by
      simp [awaited, inFlight, inUse, countFrame, hw, held, System.setWriter]
    refine .cached [] (by simp [countFrame]) ?_ ?_
    · simp [hafter, hbefore]
    · intro hlost
      simp only [discarded, hfail, if_true, hapi, held] at hlost
      rw [hlost] at hbefore
      simp [hafter, hbefore]
  | false =>
    refine flow_same rfl ?_
    rw [hbefore]
    simp [awaited, inFlight, inUse, countFrame, hw, held, System.setWriter, samples]

theorem stepApi_flow (mode : FrameHeightRoundMode) {sys : System} (a : Action)
    (hrel : Released sys) : Flow sys (stepApi mode sys a).1 (entries (discarded sys a)) := by
  have heffect := stepApi_effect mode sys a
  generalize stepApi mode sys a = r at heffect ⊢
  cases heffect with
  | none | ratesIgnored => exact flow_refl sys _
  | ratesPostponed | registers | crashes => exact flow_same rfl (awaited_congr rfl rfl rfl)
  | ratesApplied idle => exact reconfigureSinkWriter_flow _ none _ idle
  | encodes idle =>
    refine flow_same rfl (awaited_congr rfl rfl ?_)
    rw [idle]
    rfl
  | reconfigures idle =>
    refine flow_from_same {sys with encoder := {sys.encoder with rateChangeRequested := false}}
      rfl (awaited_congr rfl rfl rfl) ?_
    exact reconfigureSinkWriter_flow _ _ _ idle
  | shutsDown api => exact shutdownSink_flow _ hrel api
  | initializes api => exact initWriter_flow _ _ _ _ hrel api
  | samples api takes => exact samples_flow _ api takes
  | drops api takes =>
    refine flow_same (by simpa [dropFrame] using takes.queue)
      (awaited_congr takes.sinkWriter rfl ?_)
    rw [api]
    rfl
  | writes api current => exact writeSample_flow _ api current

theorem released_resume (e : State) (pending : Option Pending) (writers : Nat → Writer)
    (crashed : Bool) : Released ⟨e, resume pending, writers, crashed⟩ := by
  cases pending <;> trivial

theorem reconfigureSinkWriter_released (sys : System) (args : ReconfigureArgs)
    (pending : Option Pending) : Released (reconfigureSinkWriter sys args pending).1 := by
  rcases reconfigureSinkWriter_cases sys args pending with h | h
  · rw [h]
    rfl
  · rw [h]
    exact released_resume _ _ _ _

theorem stepApi_released (mode : FrameHeightRoundMode) {sys : System} (a : Action)
    (hrel : Released sys) : Released (stepApi mode sys a).1 := by
  have heffect := stepApi_effect mode sys a
  generalize stepApi mode sys a = r at heffect ⊢
  cases heffect with
  | none | ratesIgnored | ratesPostponed | registers | crashes => exact hrel
  | ratesApplied | reconfigures => exact reconfigureSinkWriter_released _ _ _
  | encodes | samples | drops => trivial
  | shutsDown api =>
    have hnone : sys.encoder.sinkWriter = none := by simpa [Released, api] using hrel
    unfold shutdownSink
    dsimp only
    split <;> exact hnone
  | initializes => exact released_resume _ _ _ _
  | writes api current =>
    rw [writeSample, current]
    trivial

theorem stepSink_frame (sys : System) (a : Action) :
    (stepSink sys a).1.api = sys.api ∧
      (stepSink sys a).1.encoder.sinkWriter = sys.encoder.sinkWriter := by
  have heffect := stepSink_effect sys a
  generalize stepSink sys a = r at heffect ⊢
  cases heffect with
  | none | changes | delivers => exact ⟨rfl, rfl⟩
  | pops =>
    unfold popAttributes
    split <;> exact ⟨rfl, rfl⟩

theorem step_released (mode : FrameHeightRoundMode) {sys : System} (a : Action)
    (hrel : Released sys) : Released (step mode sys a).1 := by
  unfold step
  split
  · exact hrel
  · split
    · exact stepApi_released mode a hrel
    · obtain ⟨hapi, hw⟩ := stepSink_frame sys a
      unfold Released
      rw [hapi, hw]
      exact hrel

/-- What an action other than a `pop` does to the samples in flight. -/
theorem step_flow (mode : FrameHeightRoundMode) {sys : System} (a : Action) (hrel : Released sys)
    (hpop : ∀ w, a ≠ .popAttributes w) :
    Flow sys (step mode sys a).1 (entries (discarded sys a)) := by
  unfold step
  split
  · exact flow_refl sys _
  · split
    · exact stepApi_flow mode a hrel
    · exact stepSink_flow sys a hpop

/-- A `pop` for the sample `x` takes it out of flight when it belongs to the writer in use. -/
theorem popAttributes_flow {sys : System} {w : Nat} {x : Encoded}
    (hrun : (sys.writers w).running = .entered x) :
    (popAttributes sys w).encoder.sampleAttributeQueue =
        (pop (sampleTimestamp x.sample) sys.encoder.sampleAttributeQueue).2 ∧
      (sys.encoder.sinkWriter = some w →
        awaited sys = x.sample.cached.toList ++ awaited (popAttributes sys w)) ∧
      (sys.encoder.sinkWriter ≠ some w → awaited (popAttributes sys w) = awaited sys) := by
  unfold popAttributes
  simp only [hrun]
  refine ⟨rfl, ?_, ?_⟩
  · intro hcur
    rw [System.setRunning, awaited_setWriter, awaited_of_current hcur]
    · simp [samples, waiting, hrun, System.setQueue]
    · exact hcur
  · intro hother
    exact (awaited_setWriter_of_ne hother).trans (awaited_congr rfl rfl rfl)

theorem start_released (u : Uninitialised) (settings : CodecSettings) (now : Int) :
    Released (start u settings now) := trivial

theorem start_awaited (u : Uninitialised) (settings : CodecSettings) (now : Int) :
    awaited (start u settings now) = [] := by
  cases hw : (start u settings now).encoder.sinkWriter with
  | none => exact awaited_of_none hw rfl
  | some w =>
    rw [awaited_of_current hw]
    rfl

theorem start_queue (u : Uninitialised) (settings : CodecSettings) (now : Int) :
    (start u settings now).encoder.sampleAttributeQueue = [] := by
  unfold start initEncode
  dsimp only
  split
  · exact initWriter_queue _ none now
  · rfl

end WeiRtcNative.H264.InFlight
