import WeiRtcNative.Lib.Machine
import WeiRtcNative.H264.StreamSink

/-!
# Delivery of samples by the stream sink

Calls of `H264StreamSink` interleaved with its work items. It is taken that the work queue is serial
and first-in first-out, that its puts succeed, and that the calls of the event queue succeed until
`Shutdown`. A work item first takes a sample under `critSec_` and then hands it to the callback
under `cbCritSec_`; other calls may come between.
-/

namespace WeiRtcNative.H264.StreamDelivery

open Machine StreamSink
set_option autoImplicit false

universe u
variable {α : Type u}

/-- A null sample or media type is `none`. -/
inductive Action (α : Type u) where
  | processSample (sample : Option α)
  | start
  | stop
  | flush
  | placeMarker
  | setCurrentMediaType (type : Option MediaType) (createMediaType copyAllItems : HResult)
  | shutdown
  | dispatch
  | callback
  deriving DecidableEq, Repr

/-- The sink, and the sample taken by the work item in execution. -/
structure System (α : Type u) where
  sink : StreamSink α
  running : Option α
  deriving DecidableEq, Repr

inductive Event (α : Type u) where
  | accepted (sample : α)
  | delivered (sample : α)
  deriving DecidableEq, Repr

/-- A sink after `RegisterEncodingCallback`. -/
def initial : System α := ⟨create.registerEncodingCallback, none⟩

def processSample (s : System α) (sample : α) : System α × List (Event α) :=
  let r := s.sink.processSample sample .ok
  ({s with sink := r.1}, if r.2.failed then [] else [.accepted sample])

/-- A work item begins when the one before it has ended. -/
def dispatch (s : System α) : System α :=
  match s.running, s.sink.onDispatchWorkItem .ok with
  | none, some (sink, sample) => ⟨sink, sample⟩
  | _, _ => s

def callback (s : System α) : System α × List (Event α) :=
  match s.running with
  | none => (s, [])
  | some sample =>
    ({s with running := none}, if s.sink.encodingCallback then [.delivered sample] else [])

def step (s : System α) : Action α → System α × List (Event α)
  | .processSample none => (s, [])
  | .processSample (some sample) => processSample s sample
  | .start => ({s with sink := (s.sink.start .ok).1}, [])
  | .stop => ({s with sink := (s.sink.stop .ok).1}, [])
  | .flush => ({s with sink := s.sink.flush.1}, [])
  | .placeMarker => ({s with sink := (s.sink.placeMarker .ok).1}, [])
  | .setCurrentMediaType none _ _ => (s, [])
  | .setCurrentMediaType (some type) createMediaType copyAllItems =>
    ({s with sink := (s.sink.setCurrentMediaType type ⟨createMediaType, copyAllItems, .ok⟩).1}, [])
  | .shutdown => ({s with sink := s.sink.shutdown}, [])
  | .dispatch => (dispatch s, [])
  | .callback => callback s

def accepted (log : List (Event α)) : List α :=
  log.filterMap fun
    | .accepted sample => some sample
    | .delivered _ => none

def delivered (log : List (Event α)) : List α :=
  log.filterMap fun
    | .accepted _ => none
    | .delivered sample => some sample

def pendingSamples (s : System α) : Nat := s.sink.workItems.count .processSample

def Quiet (s : System α) : Prop := s.sink.workItems = [] ∧ s.running = none

def Action.drops : Action α → Bool
  | .stop | .flush | .shutdown => true
  | _ => false

section Calls

/-- A call that leaves the samples alone and puts work items on the queue. -/
structure Puts (s t : StreamSink α) (ops : List StreamOperation) : Prop where
  sampleQueue : t.sampleQueue = s.sampleQueue
  isShutdown : t.isShutdown = s.isShutdown
  encodingCallback : t.encodingCallback = s.encodingCallback
  workItems : t.workItems = s.workItems ++ ops

theorem puts_nothing (s : StreamSink α) : Puts s s [] := ⟨rfl, rfl, rfl, by simp⟩

theorem changeState_puts (s : StreamSink α) (op : StreamOperation) (target : StreamSinkState) :
    Puts s (s.changeState op target .ok).1 [] ∨ Puts s (s.changeState op target .ok).1 [op] := by
  unfold changeState
  dsimp only
  split
  · exact .inl (puts_nothing s)
  · exact .inr ⟨rfl, rfl, rfl, rfl⟩

theorem placeMarker_puts (s : StreamSink α) :
    Puts s (s.placeMarker .ok).1 [] ∨ Puts s (s.placeMarker .ok).1 [.placeMarker] := by
  unfold placeMarker
  split
  · exact .inl (puts_nothing s)
  · exact .inr ⟨rfl, rfl, rfl, rfl⟩

theorem setCurrentMediaType_puts (s : StreamSink α) (type : MediaType)
    (createMediaType copyAllItems : HResult) :
    Puts s (s.setCurrentMediaType type ⟨createMediaType, copyAllItems, .ok⟩).1 [] ∨
      Puts s (s.setCurrentMediaType type ⟨createMediaType, copyAllItems, .ok⟩).1
        [.setMediaType] := by
  unfold setCurrentMediaType
  dsimp only
  repeat' split
  all_goals first
    | exact .inl ⟨rfl, rfl, rfl, (List.append_nil _).symm⟩
    | exact .inr ⟨rfl, rfl, rfl, rfl⟩

/-- A sample that is accepted is queued together with a work item for it. -/
inductive Takes (s : StreamSink α) (sample : α) : StreamSink α × HResult → Prop where
  | refused {hr : HResult} : hr.failed = true → Takes s sample (s, hr)
  | queued : s.isShutdown = false → Takes s sample
    ({s with
      sampleQueue := s.sampleQueue ++ [sample]
      workItems := s.workItems ++ [.processSample]}, .ok)

theorem processSample_takes (s : StreamSink α) (sample : α) :
    Takes s sample (s.processSample sample .ok) := by
  unfold StreamSink.processSample
  dsimp only
  split
  · rename_i hrefused
    exact .refused hrefused
  · rename_i haccepted
    have hup : s.isShutdown = false := by
      cases hdown : s.isShutdown with
      | false => rfl
      | true => simp [checkShutdown, hdown, HResult.andThen] at haccepted
    exact .queued hup

/-- What the operation of a work item leaves alone. -/
theorem perform_frame (s : StreamSink α) (op : StreamOperation) :
    (s.perform op .ok).1.workItems = s.workItems ∧
      (s.perform op .ok).1.isShutdown = s.isShutdown ∧
      (s.perform op .ok).1.encodingCallback = s.encodingCallback := by
  unfold perform
  repeat' split
  all_goals exact ⟨rfl, rfl, rfl⟩

theorem perform_processSample {s : StreamSink α} (h : s.isShutdown = false) :
    (s.perform .processSample .ok).1.sampleQueue = s.sampleQueue.tail := by
  simp [perform, queueEvent, checkShutdown, h, HResult.andThen, processSamplesFromQueue]

/-- All that a step can do. -/
inductive StepEffect (s : System α) : Action α → System α × List (Event α) → Prop where
  | puts {a : Action α} {t : StreamSink α} {ops : List StreamOperation} (calls : Puts s.sink t ops)
      (samples : .processSample ∉ ops) (stops : a.drops = false → .stop ∉ ops) :
      StepEffect s a ({s with sink := t}, [])
  | clears {a : Action α} {t : StreamSink α} (drops : a.drops = true) (empty : t.sampleQueue = []) :
      StepEffect s a ({s with sink := t}, [])
  | queues {a : Action α} {sample : α} (up : s.sink.isShutdown = false) :
      StepEffect s a ({s with sink := {s.sink with
        sampleQueue := s.sink.sampleQueue ++ [sample]
        workItems := s.sink.workItems ++ [.processSample]}}, [.accepted sample])
  | performs {a : Action α} {op : StreamOperation} {items : List StreamOperation}
      (idle : s.running = none) (first : s.sink.workItems = op :: items) :
      StepEffect s a (⟨({s.sink with workItems := items}.perform op .ok).1,
        ({s.sink with workItems := items}.perform op .ok).2⟩, [])
  | delivers {a : Action α} {sample : α} (running : s.running = some sample) :
      StepEffect s a ({s with running := none},
        if s.sink.encodingCallback then [.delivered sample] else [])

theorem effect_nothing (s : System α) (a : Action α) : StepEffect s a (s, []) :=
  .puts (puts_nothing s.sink) (by simp) (by simp)

theorem processSample_effect (s : System α) (a : Action α) (sample : α) :
    StepEffect s a (processSample s sample) := by
  have htakes := processSample_takes s.sink sample
  unfold processSample
  generalize s.sink.processSample sample .ok = r at htakes
  cases htakes with
  | refused hrefused =>
    dsimp only
    rw [if_pos hrefused]
    exact effect_nothing s a
  | queued hup => exact .queues hup

theorem dispatch_effect (s : System α) (a : Action α) : StepEffect s a (dispatch s, []) := by
  unfold dispatch onDispatchWorkItem
  cases hrunning : s.running with
  | some sample => exact effect_nothing s a
  | none =>
    cases hitems : s.sink.workItems with
    | nil => exact effect_nothing s a
    | cons op items => exact .performs hrunning hitems

theorem callback_effect (s : System α) (a : Action α) : StepEffect s a (callback s) := by
  unfold callback
  cases hrunning : s.running with
  | none => exact effect_nothing s a
  | some sample => exact .delivers hrunning

theorem shutdown_effect (s : System α) :
    StepEffect s .shutdown ({s with sink := s.sink.shutdown}, []) := by
  unfold shutdown
  split
  · exact effect_nothing s _
  · exact .clears rfl rfl

theorem flush_effect (s : System α) :
    StepEffect s .flush ({s with sink := s.sink.flush.1}, []) := by
  unfold flush
  split
  · exact effect_nothing s _
  · exact .clears rfl rfl

theorem step_effect (s : System α) (a : Action α) : StepEffect s a (step s a) := by
  cases a with
  | processSample sample =>
    cases sample with
    | none => exact effect_nothing s _
    | some sample => exact processSample_effect s _ sample
  | start =>
    rcases changeState_puts s.sink .start .started with h | h
    · exact .puts h (by simp) (by simp)
    · exact .puts h (by simp) (by simp)
  | stop =>
    rcases changeState_puts s.sink .stop .stopped with h | h
    · exact .puts h (by simp) (by simp)
    · exact .puts h (by simp) (by simp [Action.drops])
  | flush => exact flush_effect s
  | placeMarker =>
    rcases placeMarker_puts s.sink with h | h
    · exact .puts h (by simp) (by simp)
    · exact .puts h (by simp) (by simp)
  | setCurrentMediaType type createMediaType copyAllItems =>
    cases type with
    | none => exact effect_nothing s _
    | some type =>
      rcases setCurrentMediaType_puts s.sink type createMediaType copyAllItems with h | h
      · exact .puts h (by simp) (by simp)
      · exact .puts h (by simp) (by simp)
  | shutdown => exact shutdown_effect s
  | dispatch => exact dispatch_effect s _
  | callback => exact callback_effect s _

end Calls

section Order

@[simp] theorem accepted_append (log events : List (Event α)) :
    accepted (log ++ events) = accepted log ++ accepted events := by
  simp [accepted]

@[simp] theorem delivered_append (log events : List (Event α)) :
    delivered (log ++ events) = delivered log ++ delivered events := by
  simp [delivered]

/-- The samples on their way, in their order. -/
def System.held (s : System α) : List α := s.running.toList ++ s.sink.sampleQueue

theorem held_of_idle {s : System α} (hidle : s.running = none) : s.held = s.sink.sampleQueue := by
  rw [System.held, hidle]
  rfl

/-- A step adds to the end of `held` what it accepts and takes from its front what it delivers;
it may lose some of the rest. -/
theorem effect_held {s : System α} {a : Action α} {r : System α × List (Event α)}
    (h : StepEffect s a r) : (delivered r.2 ++ r.1.held).Sublist (s.held ++ accepted r.2) := by
  cases h with
  | puts hputs => simp [System.held, hputs.sampleQueue, accepted, delivered]
  | clears _ hempty => simp [System.held, hempty, accepted, delivered]
  | queues => simp [System.held, accepted, delivered]
  | @performs op items hidle =>
    rcases perform_cases {s.sink with workItems := items} op .ok with hkept | ⟨-, hnone, hempty⟩
    · rw [held_of_idle hidle, hkept]
      simp [System.held, accepted, delivered]
    · simp [System.held, hnone, hempty, accepted, delivered]
  | delivers hrunning =>
    split
    · simp [System.held, hrunning, accepted, delivered]
    · simp [System.held, hrunning, accepted, delivered]

/-- Nothing has made the sink drop samples. -/
structure Healthy (s : System α) : Prop where
  up : s.sink.isShutdown = false
  registered : s.sink.encodingCallback = true
  noStop : .stop ∉ s.sink.workItems

theorem effect_healthy {s : System α} {a : Action α} {r : System α × List (Event α)}
    (h : StepEffect s a r) (ha : a.drops = false) (hs : Healthy s) : Healthy r.1 := by
  cases h with
  | puts hputs _ hstops =>
    refine ⟨hputs.isShutdown.trans hs.up, hputs.encodingCallback.trans hs.registered, ?_⟩
    rw [hputs.workItems, List.mem_append, not_or]
    exact ⟨hs.noStop, hstops ha⟩
  | clears hdrops =>
    rw [ha] at hdrops
    cases hdrops
  | queues => exact ⟨hs.up, hs.registered, by simpa using hs.noStop⟩
  | @performs op items _ hfirst =>
    obtain ⟨hitems, hdown, hcallback⟩ := perform_frame {s.sink with workItems := items} op
    refine ⟨hdown.trans hs.up, hcallback.trans hs.registered, ?_⟩
    have hnoStop := hs.noStop
    rw [hfirst, List.mem_cons, not_or] at hnoStop
    rw [hitems]
    exact hnoStop.2
  | delivers => exact ⟨hs.up, hs.registered, hs.noStop⟩

theorem effect_held_eq {s : System α} {a : Action α} {r : System α × List (Event α)}
    (h : StepEffect s a r) (ha : a.drops = false) (hs : Healthy s) :
    delivered r.2 ++ r.1.held = s.held ++ accepted r.2 := by
  cases h with
  | puts hputs => simp [System.held, hputs.sampleQueue, accepted, delivered]
  | clears hdrops =>
    rw [ha] at hdrops
    cases hdrops
  | queues => simp [System.held, accepted, delivered]
  | @performs op items hidle hfirst =>
    rcases perform_cases {s.sink with workItems := items} op .ok with hkept | ⟨rfl, -, -⟩
    · rw [held_of_idle hidle, hkept]
      simp [System.held, accepted, delivered]
    · exact absurd (by simp [hfirst]) hs.noStop
  | delivers hrunning => simp [System.held, hrunning, hs.registered, accepted, delivered]

/-- What was delivered and what is held are accepted samples, in their order. -/
def Ordered (log : List (Event α)) (s : System α) : Prop :=
  (delivered log ++ s.held).Sublist (accepted log)

theorem step_ordered (log : List (Event α)) (s : System α) (a : Action α) (h : Ordered log s) :
    Ordered (log ++ (step s a).2) (step s a).1 := by
  have hheld := effect_held (step_effect s a)
  unfold Ordered
  rw [delivered_append, accepted_append, List.append_assoc]
  have hmore := List.Sublist.append (List.Sublist.refl (delivered log)) hheld
  refine hmore.trans ?_
  rw [← List.append_assoc]
  exact List.Sublist.append h (List.Sublist.refl _)

def Complete (log : List (Event α)) (s : System α) : Prop :=
  Healthy s ∧ delivered log ++ s.held = accepted log

theorem step_complete (log : List (Event α)) (s : System α) (a : Action α) (h : Complete log s)
    (ha : a.drops = false) : Complete (log ++ (step s a).2) (step s a).1 := by
  obtain ⟨hs, hall⟩ := h
  refine ⟨effect_healthy (step_effect s a) ha hs, ?_⟩
  rw [delivered_append, accepted_append, List.append_assoc,
    effect_held_eq (step_effect s a) ha hs, ← List.append_assoc, hall]

end Order

section Stock

/-- Each queued sample has a work item of its own, and a sink that is shut down has no samples. -/
structure Stocked (s : System α) : Prop where
  paired : s.sink.sampleQueue.length ≤ pendingSamples s
  emptied : s.sink.isShutdown = true → s.sink.sampleQueue = []

/-- A work item leaves at most one sample fewer, and one fewer when it is for a sample. -/
theorem perform_length (s : StreamSink α) (op : StreamOperation)
    (hdown : s.isShutdown = true → s.sampleQueue = []) :
    (s.perform op .ok).1.sampleQueue.length ≤
      s.sampleQueue.length - [op].count .processSample := by
  cases op with
  | start =>
    simp only [perform]
    split
    · simp
    · simp [processSamplesFromQueue]
  | stop => simp [perform, dropSamplesFromQueue]
  | processSample =>
    cases hs : s.isShutdown with
    | true =>
      have hempty := hdown hs
      simp [perform, queueEvent, checkShutdown, hs, HResult.andThen, hempty]
    | false =>
      rw [perform_processSample hs]
      simp
  | placeMarker => simp [perform]
  | setMediaType => simp [perform]

theorem effect_stocked {s : System α} {a : Action α} {r : System α × List (Event α)}
    (h : StepEffect s a r) (hs : Stocked s) : Stocked r.1 := by
  have hpaired := hs.paired
  simp only [pendingSamples] at hpaired
  cases h with
  | puts hputs hsamples =>
    refine ⟨?_, ?_⟩
    · simp only [pendingSamples]
      rw [hputs.sampleQueue, hputs.workItems, List.count_append, List.count_eq_zero.mpr hsamples]
      exact hpaired
    · intro hdown
      rw [hputs.sampleQueue]
      exact hs.emptied (hputs.isShutdown ▸ hdown)
  | clears _ hempty => exact ⟨by simp [hempty], fun _ => hempty⟩
  | queues hup =>
    refine ⟨?_, ?_⟩
    · simpa [pendingSamples] using hpaired
    · intro hdown
      rw [hup] at hdown
      cases hdown
  | @performs op items _ hfirst =>
    obtain ⟨hitems, hsame, -⟩ := perform_frame {s.sink with workItems := items} op
    have hlength := perform_length {s.sink with workItems := items} op hs.emptied
    refine ⟨?_, ?_⟩
    · simp only [pendingSamples]
      rw [hitems]
      rw [hfirst, ← List.singleton_append, List.count_append] at hpaired
      dsimp only at hlength ⊢
      omega
    · intro hdown
      have hnone := congrArg List.length (hs.emptied (hsame ▸ hdown))
      dsimp only [List.length_nil] at hlength hnone ⊢
      exact List.length_eq_zero_iff.mp (by omega)
  | delivers => exact ⟨hpaired, hs.emptied⟩

theorem run_stocked (actions : List (Action α)) : Stocked (run step initial actions).1 := by
  refine run_invariant step (fun _ s => Stocked s) ?_ ?_ (along_true step [] _ actions)
  · intro _ s a h _
    exact effect_stocked (step_effect s a) h
  · exact ⟨Nat.zero_le _, fun _ => rfl⟩

end Stock

/-- Samples reach the callback in the order they were accepted, each at most once; the queue never
holds more of them than there are work items for samples; and when nothing drops samples, all of
them have arrived once the work queue has run dry. -/
theorem samples_delivered_in_order (actions : List (Action α)) :
    (delivered (run step initial actions).2).Sublist (accepted (run step initial actions).2) ∧
      (run step initial actions).1.sink.sampleQueue.length ≤
        pendingSamples (run step initial actions).1 ∧
      ((∀ a ∈ actions, a.drops = false) → Quiet (run step initial actions).1 →
        delivered (run step initial actions).2 = accepted (run step initial actions).2) := by
  refine ⟨?_, ?_, ?_⟩
  · have hordered : Ordered (run step initial actions).2 (run step initial actions).1 := by
      refine run_invariant step Ordered ?_ ?_ (along_true step [] _ actions)
      · intro log s a h _
        exact step_ordered log s a h
      · exact List.Sublist.refl []
    exact (List.sublist_append_left _ _).trans hordered
  · exact (run_stocked actions).paired
  · rintro hkeep ⟨hitems, hidle⟩
    have hcomplete : Complete (run step initial actions).2 (run step initial actions).1 := by
      refine run_invariant step Complete ?_ ?_ (along_of_forall step hkeep [] _)
      · intro log s a h ha
        exact step_complete log s a h ha
      · exact ⟨⟨rfl, rfl, List.not_mem_nil⟩, rfl⟩
    -- with no work item left there is no queued sample either
    have hpaired := (run_stocked actions).paired
    rw [pendingSamples, hitems] at hpaired
    have hempty : (run step initial actions).1.sink.sampleQueue = [] := by simpa using hpaired
    have hall := hcomplete.2
    rw [System.held, hidle, hempty] at hall
    simpa using hall

def twoSamples : List (Action Nat) :=
  [.setCurrentMediaType (some ⟨.video, some 1, []⟩) .ok .ok, .start, .processSample (some 7),
    .processSample (some 8), .dispatch, .callback, .dispatch, .callback, .dispatch]

theorem two_samples_delivered :
    accepted (run step initial twoSamples).2 = [7, 8] ∧
      delivered (run step initial twoSamples).2 = accepted (run step initial twoSamples).2 :=
  ⟨by decide, (samples_delivered_in_order twoSamples).2.2 (by decide) ⟨by decide, by decide⟩⟩

end WeiRtcNative.H264.StreamDelivery
