import WeiRtcNative.H264.StreamDelivery

/-!
# The events of the stream sink

The work items of `H264StreamSink` raise the events its caller listens to. A sample is asked for
once for each sample that was accepted, and once more by a start that finds no sample. The caller
may answer before the event reaches it, so the steps are those of `StreamDelivery`, with what is
taken there of the work queue and the event queue: a put that failed would leave its sample queued
without a work item.
-/

namespace WeiRtcNative.H264.SampleRequests

open Machine StreamSink StreamDelivery
set_option autoImplicit false

universe u
variable {α : Type u}

inductive MediaEvent where
  | streamSinkStarted
  | streamSinkStopped
  | streamSinkRequestSample
  | streamSinkMarker
  | streamSinkFormatChanged
  deriving DecidableEq, Repr

inductive Event where
  | accepted
  | raised (op : StreamOperation) (event : MediaEvent)
  | shutdown
  deriving DecidableEq, Repr

/-- What `OnDispatchWorkItem` gives to `QueueEvent` for an operation. -/
def queued (s : StreamSink α) : StreamOperation → List MediaEvent
  | .start =>
    match s.processSamplesFromQueue.2 with
    | none => [.streamSinkStarted, .streamSinkRequestSample]
    | some _ => [.streamSinkStarted]
  | .stop => [.streamSinkStopped]
  | .processSample => [.streamSinkRequestSample]
  | .placeMarker => [.streamSinkMarker]
  | .setMediaType => [.streamSinkFormatChanged]

/-- `QueueEvent` raises nothing once the sink is shut down. -/
def raised (s : StreamSink α) (op : StreamOperation) : List Event :=
  if (s.queueEvent .ok).failed then [] else (queued s op).map (.raised op)

def dispatched (s : System α) : List Event :=
  match s.running, s.sink.workItems with
  | none, op :: items => raised {s.sink with workItems := items} op
  | _, _ => []

def events (s : System α) (a : Action α) : List Event :=
  match a with
  | .processSample (some sample) =>
    if (s.sink.processSample sample .ok).2.failed then [] else [.accepted]
  | .shutdown => [.shutdown]
  | .dispatch => dispatched s
  | _ => []

def step (s : System α) (a : Action α) : System α × List Event :=
  ((StreamDelivery.step s a).1, events s a)

def acceptances (log : List Event) : Nat := log.count .accepted

def requests (log : List Event) : Nat :=
  log.countP fun
    | .raised _ event => event = .streamSinkRequestSample
    | _ => false

/-- The starts that found no sample. -/
def idleStarts (log : List Event) : Nat := log.count (.raised .start .streamSinkRequestSample)

def NotAfterShutdown (earlier : List Event) : Event → Prop
  | .raised _ _ => .shutdown ∉ earlier
  | _ => True

section Counting

@[simp] theorem acceptances_append (log more : List Event) :
    acceptances (log ++ more) = acceptances log + acceptances more := List.count_append

@[simp] theorem requests_append (log more : List Event) :
    requests (log ++ more) = requests log + requests more := List.countP_append

@[simp] theorem idleStarts_append (log more : List Event) :
    idleStarts (log ++ more) = idleStarts log + idleStarts more := List.count_append

/-- A work item asks for one sample when it is for a sample, and otherwise only when it is a start
that finds none. -/
theorem queued_balance (s : StreamSink α) (op : StreamOperation) :
    requests ((queued s op).map (.raised op)) =
        [op].count .processSample + idleStarts ((queued s op).map (.raised op)) ∧
      acceptances ((queued s op).map (.raised op)) = 0 := by
  cases op with
  | start =>
    unfold queued
    cases s.processSamplesFromQueue.2 with
    | none => exact ⟨rfl, rfl⟩
    | some sample => exact ⟨rfl, rfl⟩
  | stop => exact ⟨rfl, rfl⟩
  | processSample => exact ⟨rfl, rfl⟩
  | placeMarker => exact ⟨rfl, rfl⟩
  | setMediaType => exact ⟨rfl, rfl⟩

theorem raised_of_up {s : StreamSink α} (hup : s.isShutdown = false) (op : StreamOperation) :
    raised s op = (queued s op).map (.raised op) := by
  simp [raised, queueEvent, checkShutdown, hup, HResult.andThen, HResult.failed]

theorem raised_balance {s : StreamSink α} (hup : s.isShutdown = false) (op : StreamOperation) :
    requests (raised s op) = [op].count .processSample + idleStarts (raised s op) ∧
      acceptances (raised s op) = 0 := by
  rw [raised_of_up hup op]
  exact queued_balance s op

theorem raised_of_shutdown {s : StreamSink α} (hdown : s.isShutdown = true)
    (op : StreamOperation) : raised s op = [] := by
  simp [raised, queueEvent, checkShutdown, hdown, HResult.andThen, HResult.failed]

theorem not_mem_raised_shutdown (s : StreamSink α) (op : StreamOperation) :
    .shutdown ∉ raised s op := by
  unfold raised
  split
  · exact List.not_mem_nil
  · simp

end Counting

section Steps

/-- What a call other than `Shutdown` does while the sink is up. -/
structure Balanced (s : System α) (r : System α × List Event) : Prop where
  up : r.1.sink.isShutdown = false
  noShutdown : .shutdown ∉ r.2
  balance : requests r.2 + pendingSamples r.1 =
    pendingSamples s + acceptances r.2 + idleStarts r.2

theorem balanced_of_puts {s : System α} {t : StreamSink α} {ops : List StreamOperation}
    (hup : s.sink.isShutdown = false) (hputs : Puts s.sink t ops)
    (hsamples : .processSample ∉ ops) : Balanced s ({s with sink := t}, []) := by
  refine ⟨hputs.isShutdown.trans hup, List.not_mem_nil, ?_⟩
  simp only [pendingSamples]
  rw [hputs.workItems, List.count_append, List.count_eq_zero.mpr hsamples]
  simp [requests, acceptances, idleStarts]

theorem balanced_nothing {s : System α} (hup : s.sink.isShutdown = false) : Balanced s (s, []) :=
  balanced_of_puts hup (puts_nothing s.sink) List.not_mem_nil

theorem processSample_balanced {s : System α} (hup : s.sink.isShutdown = false) (sample : α) :
    Balanced s (step s (.processSample (some sample))) := by
  have htakes := processSample_takes s.sink sample
  simp only [step, StreamDelivery.step, StreamDelivery.processSample, events]
  generalize s.sink.processSample sample .ok = r at htakes
  cases htakes with
  | refused hrefused =>
    rw [if_pos hrefused]
    exact balanced_nothing hup
  | queued =>
    refine ⟨hup, by simp [HResult.failed], ?_⟩
    have hlog : (if HResult.ok.failed = true then [] else [Event.accepted]) = [.accepted] := rfl
    simp only [pendingSamples, List.count_append, hlog]
    change 0 + (_ + 1) = _ + 1 + 0
    omega

theorem flush_balanced {s : System α} (hup : s.sink.isShutdown = false) :
    Balanced s (step s .flush) := by
  have hflush : s.sink.flush.1 = s.sink.dropSamplesFromQueue := by
    simp [flush, checkShutdown, hup]
  simp only [step, StreamDelivery.step, events, hflush]
  refine ⟨hup, List.not_mem_nil, ?_⟩
  simp [pendingSamples, dropSamplesFromQueue, requests, acceptances, idleStarts]

/-- The item that leaves the work queue is answered by the events it raises. -/
theorem dispatch_balanced {s : System α} (hup : s.sink.isShutdown = false) :
    Balanced s (step s .dispatch) := by
  simp only [step, StreamDelivery.step, events]
  unfold dispatched dispatch onDispatchWorkItem
  cases hrunning : s.running with
  | some sample => exact balanced_nothing hup
  | none =>
    cases hitems : s.sink.workItems with
    | nil => exact balanced_nothing hup
    | cons op items =>
      dsimp only
      obtain ⟨hleft, hsame, -⟩ := perform_frame {s.sink with workItems := items} op
      obtain ⟨hrequests, hnone⟩ := raised_balance (s := {s.sink with workItems := items}) hup op
      refine ⟨hsame.trans hup, not_mem_raised_shutdown _ op, ?_⟩
      have hcount : s.sink.workItems.count .processSample =
          [op].count .processSample + items.count .processSample := by
        rw [hitems, ← List.count_append, List.singleton_append]
      simp only [pendingSamples, hleft, hcount, hrequests, hnone]
      omega

theorem step_balanced {s : System α} (hup : s.sink.isShutdown = false) {a : Action α}
    (ha : a ≠ .shutdown) : Balanced s (step s a) := by
  cases a with
  | processSample sample =>
    cases sample with
    | none => exact balanced_nothing hup
    | some sample => exact processSample_balanced hup sample
  | start =>
    rcases changeState_puts s.sink .start .started with h | h
    · exact balanced_of_puts hup h (by simp)
    · exact balanced_of_puts hup h (by simp)
  | stop =>
    rcases changeState_puts s.sink .stop .stopped with h | h
    · exact balanced_of_puts hup h (by simp)
    · exact balanced_of_puts hup h (by simp)
  | flush => exact flush_balanced hup
  | placeMarker =>
    rcases placeMarker_puts s.sink with h | h
    · exact balanced_of_puts hup h (by simp)
    · exact balanced_of_puts hup h (by simp)
  | setCurrentMediaType type createMediaType copyAllItems =>
    cases type with
    | none => exact balanced_nothing hup
    | some type =>
      rcases setCurrentMediaType_puts s.sink type createMediaType copyAllItems with h | h
      · exact balanced_of_puts hup h (by simp)
      · exact balanced_of_puts hup h (by simp)
  | shutdown => exact absurd rfl ha
  | dispatch => exact dispatch_balanced hup
  | callback =>
    simp only [step, StreamDelivery.step, events, callback]
    cases s.running with
    | none => exact balanced_nothing hup
    | some sample => exact ⟨hup, List.not_mem_nil, (balanced_nothing hup).balance⟩

/-- A sink that is shut down stays so and raises nothing. -/
theorem step_of_shutdown {s : System α} (hdown : s.sink.isShutdown = true) (a : Action α) :
    (step s a).1.sink.isShutdown = true ∧ ∀ op event, .raised op event ∉ (step s a).2 := by
  cases a with
  | processSample sample =>
    cases sample with
    | none => exact ⟨hdown, by simp [step, events]⟩
    | some sample =>
      have hrefused : s.sink.processSample sample .ok = (s.sink, .shutdown) := by
        simp [StreamSink.processSample, checkShutdown, hdown, HResult.andThen, HResult.failed]
      simp [step, StreamDelivery.step, StreamDelivery.processSample, events, hrefused, hdown,
        HResult.failed]
  | start =>
    rcases changeState_puts s.sink .start .started with h | h
    · exact ⟨h.isShutdown.trans hdown, by simp [step, events]⟩
    · exact ⟨h.isShutdown.trans hdown, by simp [step, events]⟩
  | stop =>
    rcases changeState_puts s.sink .stop .stopped with h | h
    · exact ⟨h.isShutdown.trans hdown, by simp [step, events]⟩
    · exact ⟨h.isShutdown.trans hdown, by simp [step, events]⟩
  | flush => simp [step, StreamDelivery.step, events, flush, checkShutdown, hdown]
  | placeMarker => simp [step, StreamDelivery.step, events, placeMarker, checkShutdown, hdown]
  | setCurrentMediaType type createMediaType copyAllItems =>
    cases type with
    | none => exact ⟨hdown, by simp [step, events]⟩
    | some type =>
      rcases setCurrentMediaType_puts s.sink type createMediaType copyAllItems with h | h
      · exact ⟨h.isShutdown.trans hdown, by simp [step, events]⟩
      · exact ⟨h.isShutdown.trans hdown, by simp [step, events]⟩
  | shutdown => simp [step, StreamDelivery.step, events, shutdown, hdown]
  | dispatch =>
    simp only [step, StreamDelivery.step, events]
    unfold dispatched dispatch onDispatchWorkItem
    cases s.running with
    | some sample => exact ⟨hdown, by simp⟩
    | none =>
      cases s.sink.workItems with
      | nil => exact ⟨hdown, by simp⟩
      | cons op items =>
        dsimp only
        rw [raised_of_shutdown (s := {s.sink with workItems := items}) hdown op]
        exact ⟨(perform_frame {s.sink with workItems := items} op).2.1.trans hdown, by simp⟩
  | callback =>
    simp only [step, StreamDelivery.step, events, callback]
    cases s.running with
    | none => exact ⟨hdown, by simp⟩
    | some sample => exact ⟨hdown, by simp⟩

theorem step_shutdown (s : System α) :
    (step s .shutdown).1.sink.isShutdown = true ∧ (step s .shutdown).2 = [.shutdown] := by
  refine ⟨?_, rfl⟩
  simp only [step, StreamDelivery.step, shutdown]
  split
  · assumption
  · rfl

end Steps

section Runs

/-- What the log says of the sink. -/
structure Answering (log : List Event) (s : System α) : Prop where
  shutdown : .shutdown ∈ log ↔ s.sink.isShutdown = true
  silent : Justified NotAfterShutdown log
  balance : .shutdown ∉ log →
    requests log + pendingSamples s = acceptances log + idleStarts log

theorem silent_append {log more : List Event} (hlog : Justified NotAfterShutdown log)
    (hmore : .shutdown ∈ log → ∀ op event, .raised op event ∉ more)
    (hquiet : (∃ op event, .raised op event ∈ more) → .shutdown ∉ more) :
    Justified NotAfterShutdown (log ++ more) := by
  refine justified_append.mpr ⟨hlog, ?_⟩
  rintro pre e post rfl
  cases e with
  | accepted => trivial
  | shutdown => trivial
  | raised op event =>
    intro hmem
    rcases List.mem_append.mp hmem with hold | hnew
    · exact hmore hold op event (by simp)
    · exact hquiet ⟨op, event, by simp⟩ (by simp [hnew])

theorem step_answering (log : List Event) (s : System α) (a : Action α) (h : Answering log s) :
    Answering (log ++ (step s a).2) (step s a).1 := by
  cases hdown : s.sink.isShutdown with
  | true =>
    obtain ⟨hstays, hsilent⟩ := step_of_shutdown hdown a
    have hlogged : .shutdown ∈ log := h.shutdown.mpr hdown
    refine ⟨by simp [hlogged, hstays], ?_, ?_⟩
    · apply silent_append h.silent
      · exact fun _ => hsilent
      · rintro ⟨op, event, hraised⟩
        exact absurd hraised (hsilent op event)
    · intro hnever
      exact absurd (List.mem_append_left _ hlogged) hnever
  | false =>
    have hunlogged : .shutdown ∉ log := by simp [h.shutdown, hdown]
    by_cases ha : a = .shutdown
    · subst ha
      obtain ⟨hstays, hlog⟩ := step_shutdown s
      rw [hlog]
      refine ⟨by simp [hstays], ?_, by simp⟩
      apply silent_append h.silent
      · exact fun hlogged => absurd hlogged hunlogged
      · rintro ⟨op, event, hraised⟩
        simp at hraised
    · have hstep := step_balanced hdown ha
      refine ⟨by simp [hunlogged, hstep.noShutdown, hstep.up], ?_, ?_⟩
      · apply silent_append h.silent
        · exact fun hlogged => absurd hlogged hunlogged
        · exact fun _ => hstep.noShutdown
      · intro _
        have hbefore := h.balance hunlogged
        have hnow := hstep.balance
        simp only [requests_append, acceptances_append, idleStarts_append]
        omega

theorem run_answering (actions : List (Action α)) :
    Answering (run step initial actions).2 (run step initial actions).1 := by
  refine run_invariant step Answering ?_ ?_ (along_true step [] _ actions)
  · intro log s a h _
    exact step_answering log s a h
  · exact ⟨by simp [initial, create, registerEncodingCallback], justified_nil, fun _ => rfl⟩

/-- The steps are those of `StreamDelivery`. -/
theorem run_fst (s : System α) (actions : List (Action α)) :
    (run step s actions).1 = (run StreamDelivery.step s actions).1 := by
  induction actions generalizing s with
  | nil => rfl
  | cons a actions ih => exact ih _

end Runs

/-- Until the sink is shut down each accepted sample has either been answered by a request for the
next one or has its work item in the queue, and after that no event is raised. A caller that has
not sent more samples than it was asked for finds at most one sample queued for each start that
came upon none. -/
theorem requests_answer_samples (actions : List (Action α)) :
    Justified NotAfterShutdown (run step initial actions).2 ∧
      (.shutdown ∉ (run step initial actions).2 →
        requests (run step initial actions).2 + pendingSamples (run step initial actions).1 =
          acceptances (run step initial actions).2 + idleStarts (run step initial actions).2) ∧
      (acceptances (run step initial actions).2 ≤ requests (run step initial actions).2 →
        (run step initial actions).1.sink.sampleQueue.length ≤
          idleStarts (run step initial actions).2) := by
  have hrun := run_answering actions
  refine ⟨hrun.silent, hrun.balance, ?_⟩
  intro hasked
  have hstocked := run_stocked actions
  rw [← run_fst] at hstocked
  by_cases hlogged : .shutdown ∈ (run step initial actions).2
  · rw [hstocked.emptied (hrun.shutdown.mp hlogged)]
    exact Nat.zero_le _
  · have hbalance := hrun.balance hlogged
    have hpaired := hstocked.paired
    omega

/-- A start that finds nothing, two samples sent before it is answered, and one of them handed
on. -/
def pushedSamples : List (Action Nat) :=
  [.setCurrentMediaType (some ⟨.video, some 1, []⟩) .ok .ok, .start, .dispatch,
    .processSample (some 7), .processSample (some 8), .dispatch]

theorem pushedSamples_bounded :
    acceptances (run step initial pushedSamples).2 = 2 ∧
      requests (run step initial pushedSamples).2 = 2 ∧
      (run step initial pushedSamples).1.sink.sampleQueue.length ≤ 1 := by
  refine ⟨by decide, by decide, ?_⟩
  have hidle : idleStarts (run step initial pushedSamples).2 = 1 := by decide
  rw [← hidle]
  exact (requests_answer_samples pushedSamples).2.2 (by decide)

end WeiRtcNative.H264.SampleRequests
