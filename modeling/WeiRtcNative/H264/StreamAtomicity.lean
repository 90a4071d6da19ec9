import WeiRtcNative.Lib.Machine
import WeiRtcNative.H264.StreamSink

/-!
# Failed calls and calls after Shutdown

Every call of `H264StreamSink` with the answers of the Media Foundation calls inside it, and its
work items. `ProcessSample`, `Start`, `Stop` and `SetCurrentMediaType` write their members before
the last call that can fail, and `Start` and `Stop` do not look at `isShutdown_`.
-/

namespace WeiRtcNative.H264.StreamAtomicity

open Machine StreamSink
set_option autoImplicit false

universe u
variable {α : Type u}

/-- A null sample or media type is `none`. -/
inductive Call (α : Type u) where
  | processSample (sample : Option α) (put : HResult)
  | placeMarker (put : HResult)
  | flush
  | setCurrentMediaType (type : Option MediaType) (answers : SetTypeAnswers)
  | start (put : HResult)
  | stop (put : HResult)
  | shutdown
  | registerEncodingCallback
  | dispatch (event : HResult)
  deriving DecidableEq, Repr

def answer (s : StreamSink α) : Call α → StreamSink α × HResult
  | .processSample none _ => (s, .fail)
  | .processSample (some sample) put => s.processSample sample put
  | .placeMarker put => s.placeMarker put
  | .flush => s.flush
  | .setCurrentMediaType none _ => (s, .fail)
  | .setCurrentMediaType (some type) answers => s.setCurrentMediaType type answers
  | .start put => s.start put
  | .stop put => s.stop put
  | .shutdown => (s.shutdown, .ok)
  | .registerEncodingCallback => (s.registerEncodingCallback, .ok)
  | .dispatch event => ((s.onDispatchWorkItem event).elim s Prod.fst, .ok)

structure Entry (α : Type u) where
  call : Call α
  before : StreamSink α
  after : StreamSink α
  hr : HResult
  deriving DecidableEq, Repr

def step (s : StreamSink α) (c : Call α) : StreamSink α × List (Entry α) :=
  ((answer s c).1, [⟨c, s, (answer s c).1, (answer s c).2⟩])

def Call.changes : Call α → Bool
  | .processSample _ _ | .setCurrentMediaType _ _ | .start _ | .stop _ => true
  | _ => false

/-- The calls that `Shutdown` is to end, with non-null arguments. -/
def Call.ended : Call α → Bool
  | .processSample (some _) _ | .placeMarker _ | .flush => true
  | .setCurrentMediaType (some _) _ | .start _ | .stop _ => true
  | _ => false

structure Same (s t : StreamSink α) : Prop where
  state : t.state = s.state
  sampleQueue : t.sampleQueue = s.sampleQueue
  currentType : t.currentType = s.currentType
  currentSubtype : t.currentSubtype = s.currentSubtype

def IsShut (log : List (Entry α)) : Prop := ∃ e ∈ log, e.call = .shutdown

structure Sound (pre : List (Entry α)) (e : Entry α) : Prop where
  atomic : e.call.changes = true → e.hr.failed = true → Same e.before e.after
  final : IsShut pre → e.call.ended = true → e.hr = .shutdown ∧ e.after = e.before

/-- A sample that is accepted needs a work item. -/
def AdmitsSample (s : StreamSink α) (put : HResult) : Prop := s.rejectsSample = true ∨ put = .ok

/-- `Start` and `Stop`, where `target` is the state that they set. -/
def AdmitsChange (s : StreamSink α) (target : StreamSinkState) (put : HResult) : Prop :=
  if s.isShutdown then s.state = target ∧ put = .shutdown
  else s.state = .typeNotSet ∨ s.state = target ∨ put = .ok

/-- The checks with which `SetCurrentMediaType` begins. -/
def passesChecks (s : StreamSink α) (type : MediaType) : Bool :=
  !s.isShutdown && (s.state == .typeNotSet || s.isMediaTypeSupported type == .ok)

/-- Behind its checks every failure of `SetCurrentMediaType` leaves another type, unless the
sink happens to hold that one already. -/
def AdmitsType (s : StreamSink α) (type : MediaType) (a : SetTypeAnswers) : Prop :=
  passesChecks s type = true →
    if a.createMediaType.failed then s.currentType = none
    else if a.copyAllItems.failed then s.currentType = some .empty
    else type.subtype = none → s.currentType = some type

def Admits (s : StreamSink α) : Call α → Prop
  | .processSample (some _) put => AdmitsSample s put
  | .setCurrentMediaType (some type) a => AdmitsType s type a
  | .start put => AdmitsChange s .started put
  | .stop put => AdmitsChange s .stopped put
  | _ => True

section Calls
variable (s : StreamSink α)

theorem perform_isShutdown (op : StreamOperation) (event : HResult) :
    (s.perform op event).1.isShutdown = s.isShutdown := by
  cases op with
  | start | processSample =>
    simp only [perform]
    split <;> rfl
  | stop | placeMarker | setMediaType => rfl

/-- Only `Shutdown` sets `isShutdown_`, and no call clears it. -/
theorem answer_isShutdown (c : Call α) :
    (answer s c).1.isShutdown = true ↔ s.isShutdown = true ∨ c = .shutdown := by
  cases c with
  | processSample sample put =>
    cases sample with
    | none => simp [answer]
    | some sample =>
      simp only [answer, processSample]
      split
      · simp
      · simp [queueAsyncOperation_isShutdown]
  | placeMarker put =>
    simp only [answer, placeMarker]
    split
    · simp
    · simp [queueAsyncOperation_isShutdown]
  | flush =>
    simp only [answer, flush]
    split
    · simp
    · simp [dropSamplesFromQueue]
  | setCurrentMediaType type a =>
    cases type with
    | none => simp [answer]
    | some type => simp [answer, setCurrentMediaType_isShutdown]
  | start put => simp [answer, start, changeState_isShutdown]
  | stop put => simp [answer, stop, changeState_isShutdown]
  | shutdown =>
    simp only [answer, shutdown]
    split
    · simp_all
    · simp
  | registerEncodingCallback => simp [answer, registerEncodingCallback]
  | dispatch event =>
    simp only [answer, onDispatchWorkItem]
    split
    · simp
    · simp [perform_isShutdown]

end Calls

section Good

/-- A failed call keeps everything, and a call after `Shutdown` is refused as such. -/
structure Good (s : StreamSink α) (r : StreamSink α × HResult) : Prop where
  atomic : r.2.failed = true → Same s r.1
  final : s.isShutdown = true → r.2 = .shutdown ∧ r.1 = s

variable {s : StreamSink α}

theorem same_refl (s : StreamSink α) : Same s s := ⟨rfl, rfl, rfl, rfl⟩

theorem good_refused {hr : HResult} (h : s.isShutdown = true → hr = .shutdown) :
    Good s (s, hr) := ⟨fun _ => same_refl s, fun hshut => ⟨h hshut, rfl⟩⟩

/-- A call that has written members before the put. -/
theorem good_queued_iff {t : StreamSink α} (hopen : s.isShutdown = false) (op : StreamOperation)
    (put : HResult) : Good s (t.queueAsyncOperation op put) ↔ Same s t ∨ put = .ok := by
  unfold queueAsyncOperation
  by_cases hput : put = .ok
  · subst hput
    refine ⟨fun _ => .inr rfl, fun _ => ⟨?_, ?_⟩⟩
    · intro hfailed
      cases hfailed
    · intro hshut
      rw [hopen] at hshut
      cases hshut
  · have hfailed : put.failed = true := HResult.failed_eq_true.mpr hput
    rw [if_pos hfailed, or_iff_left hput]
    constructor
    · intro h
      exact h.atomic hfailed
    · intro h
      refine ⟨fun _ => h, ?_⟩
      intro hshut
      rw [hopen] at hshut
      cases hshut

theorem good_queued_shut_iff {t : StreamSink α} (hshut : s.isShutdown = true) (op : StreamOperation)
    (put : HResult) : Good s (t.queueAsyncOperation op put) ↔ t = s ∧ put = .shutdown := by
  unfold queueAsyncOperation
  split
  · constructor
    · intro h
      exact ⟨(h.final hshut).2, (h.final hshut).1⟩
    · rintro ⟨rfl, rfl⟩
      exact good_refused fun _ => rfl
  · rename_i hput
    apply iff_of_false
    · intro h
      cases (h.final hshut).1
    · rintro ⟨-, rfl⟩
      exact hput rfl

theorem andThen_shut (h : s.isShutdown = true) (hr : HResult) :
    s.checkShutdown.andThen hr = .shutdown := by
  rw [checkShutdown, if_pos h]
  rfl

theorem processSample_good_iff (s : StreamSink α) (sample : α) (put : HResult) :
    Good s (s.processSample sample put) ↔ AdmitsSample s put := by
  have hunfold : s.processSample sample put = if s.rejectsSample then
      (s, s.checkShutdown.andThen (s.validateOperation .processSample))
    else queueAsyncOperation {s with sampleQueue := s.sampleQueue ++ [sample]} .processSample put :=
    rfl
  rw [hunfold, AdmitsSample]
  by_cases hrejects : s.rejectsSample = true
  · rw [if_pos hrejects]
    exact iff_of_true (good_refused fun h => andThen_shut h _) (.inl hrejects)
  · rw [if_neg hrejects, or_iff_right hrejects]
    have hopen : s.isShutdown = false := by
      rw [Bool.eq_false_iff]
      intro hshut
      exact hrejects (by simp [rejectsSample, andThen_shut hshut])
    rw [good_queued_iff hopen, or_iff_right]
    intro hsame
    have hlength := congrArg List.length hsame.sampleQueue
    simp at hlength

/-- The state matrix has `Start` and `Stop` in every state but the first. -/
theorem validateOperation_change {op : StreamOperation} (hop : op = .start ∨ op = .stop)
    (s : StreamSink α) :
    s.validateOperation op = if s.state = .typeNotSet then .notInitialized else .ok := by
  unfold validateOperation
  rcases hop with rfl | rfl
  all_goals cases hstate : s.state <;> rfl

theorem changeState_good_iff {op : StreamOperation} (hop : op = .start ∨ op = .stop)
    {target : StreamSinkState} (htarget : target ≠ .typeNotSet) (s : StreamSink α)
    (put : HResult) :
    Good s (s.changeState op target put) ↔ AdmitsChange s target put := by
  unfold changeState AdmitsChange
  dsimp only
  rw [validateOperation_change hop]
  by_cases hset : s.state = .typeNotSet
  · have hother : s.state ≠ target := by
      rw [hset]
      exact htarget.symm
    rw [if_pos hset, if_pos (by rfl)]
    by_cases hshut : s.isShutdown = true
    · rw [if_pos hshut]
      apply iff_of_false
      · intro h
        cases (h.final hshut).1
      · rintro ⟨hstate, -⟩
        exact hother hstate
    · rw [if_neg hshut]
      exact iff_of_true (good_refused fun h => absurd h hshut) (.inl hset)
  · rw [if_neg hset, if_neg (by decide)]
    by_cases hshut : s.isShutdown = true
    · rw [if_pos hshut, good_queued_shut_iff hshut]
      apply and_congr_left'
      constructor
      · intro h
        exact (congrArg StreamSink.state h).symm
      · rintro rfl
        rfl
    · rw [if_neg hshut, or_iff_right hset, good_queued_iff (Bool.eq_false_iff.mpr hshut)]
      apply or_congr_left
      constructor
      · intro h
        exact h.state.symm
      · intro h
        exact ⟨h.symm, rfl, rfl, rfl⟩

/-- What `SetCurrentMediaType` does behind its checks. -/
def replaceType (s : StreamSink α) (type : MediaType) (a : SetTypeAnswers) :
    StreamSink α × HResult :=
  if a.createMediaType.failed then ({s with currentType := none}, a.createMediaType)
  else if a.copyAllItems.failed then ({s with currentType := some .empty}, a.copyAllItems)
  else
    match type.subtype with
    | none => ({s with currentType := some type}, .fail)
    | some subtype =>
      let s := {s with currentType := some type, currentSubtype := subtype}
      match s.state with
      | .typeNotSet => ({s with state := .ready}, .ok)
      | .ready => (s, .ok)
      | _ => ((s.queueAsyncOperation .setMediaType a.put).1, .ok)

def typeCheck (s : StreamSink α) (type : MediaType) : HResult :=
  let hr := s.checkShutdown.andThen (s.validateOperation .setMediaType)
  if s.state = .typeNotSet then hr else hr.andThen (s.isMediaTypeSupported type)

theorem setCurrentMediaType_eq (s : StreamSink α) (type : MediaType) (a : SetTypeAnswers) :
    s.setCurrentMediaType type a =
      if (typeCheck s type).failed then (s, typeCheck s type) else replaceType s type a := rfl

theorem typeCheck_shut (h : s.isShutdown = true) (type : MediaType) :
    typeCheck s type = .shutdown := by
  unfold typeCheck
  dsimp only
  rw [andThen_shut h]
  split <;> rfl

theorem validateOperation_setMediaType (s : StreamSink α) :
    s.validateOperation .setMediaType = .ok := by
  unfold validateOperation
  cases s.state <;> rfl

theorem typeCheck_failed_iff (s : StreamSink α) (type : MediaType) :
    (typeCheck s type).failed = true ↔ passesChecks s type = false := by
  by_cases hshut : s.isShutdown = true
  · simp [typeCheck_shut hshut, passesChecks, hshut]
  · have hcheck : s.checkShutdown.andThen (s.validateOperation .setMediaType) = .ok := by
      rw [checkShutdown, if_neg hshut, validateOperation_setMediaType]
      rfl
    unfold typeCheck passesChecks
    dsimp only
    rw [hcheck]
    by_cases hset : s.state = .typeNotSet
    · simp [hset, hshut]
    · simp [hset, hshut, HResult.andThen]

theorem good_success (hopen : ¬ s.isShutdown = true) (t : StreamSink α) : Good s (t, .ok) := by
  refine ⟨?_, fun hshut => absurd hshut hopen⟩
  intro hfailed
  cases hfailed

theorem good_newType_iff (hopen : ¬ s.isShutdown = true) (type : Option MediaType) {hr : HResult}
    (hfailed : hr.failed = true) :
    Good s ({s with currentType := type}, hr) ↔ s.currentType = type := by
  constructor
  · intro h
    exact (h.atomic hfailed).currentType.symm
  · rintro rfl
    exact good_refused fun hshut => absurd hshut hopen

theorem replaceType_good_iff (hopen : ¬ s.isShutdown = true) (type : MediaType)
    (a : SetTypeAnswers) :
    Good s (replaceType s type a) ↔
      if a.createMediaType.failed then s.currentType = none
      else if a.copyAllItems.failed then s.currentType = some .empty
      else type.subtype = none → s.currentType = some type := by
  unfold replaceType
  by_cases hcreate : a.createMediaType.failed = true
  · rw [if_pos hcreate, if_pos hcreate]
    exact good_newType_iff hopen none hcreate
  rw [if_neg hcreate, if_neg hcreate]
  by_cases hcopy : a.copyAllItems.failed = true
  · rw [if_pos hcopy, if_pos hcopy]
    exact good_newType_iff hopen (some .empty) hcopy
  rw [if_neg hcopy, if_neg hcopy]
  cases hsubtype : type.subtype with
  | none =>
    rw [forall_prop_of_true rfl]
    exact good_newType_iff hopen (some type) rfl
  | some subtype =>
    refine iff_of_true ?_ (by simp)
    dsimp only
    split <;> exact good_success hopen _

theorem setCurrentMediaType_good_iff (s : StreamSink α) (type : MediaType) (a : SetTypeAnswers) :
    Good s (s.setCurrentMediaType type a) ↔ AdmitsType s type a := by
  rw [setCurrentMediaType_eq, AdmitsType]
  by_cases hpasses : passesChecks s type = true
  · have hcheck : ¬ (typeCheck s type).failed = true := by
      rw [typeCheck_failed_iff, hpasses]
      exact Bool.noConfusion
    have hopen : ¬ s.isShutdown = true := by
      intro hshut
      simp [passesChecks, hshut] at hpasses
    rw [if_neg hcheck, forall_prop_of_true hpasses]
    exact replaceType_good_iff hopen type a
  · have hcheck := (typeCheck_failed_iff s type).mpr (Bool.eq_false_iff.mpr hpasses)
    rw [if_pos hcheck]
    refine iff_of_true (good_refused fun h => typeCheck_shut h type) ?_
    intro h
    exact absurd h hpasses

theorem placeMarker_shut (h : s.isShutdown = true) (put : HResult) :
    s.placeMarker put = (s, .shutdown) := by
  rw [placeMarker, checkShutdown, if_pos h]
  rfl

theorem flush_shut (h : s.isShutdown = true) : s.flush = (s, .shutdown) := by
  rw [flush, checkShutdown, if_pos h]
  rfl

end Good

section Log
variable {log : List (Entry α)} {s : StreamSink α} (hlog : IsShut log ↔ s.isShutdown = true)
include hlog

/-- The entry of a call that both laws speak of. -/
theorem sound_iff_good {c : Call α} (hchanges : c.changes = true) (hended : c.ended = true) :
    Sound log ⟨c, s, (answer s c).1, (answer s c).2⟩ ↔ Good s (answer s c) := by
  constructor
  · intro h
    exact ⟨h.atomic hchanges, fun hshut => h.final (hlog.mpr hshut) hended⟩
  · intro h
    exact ⟨fun _ => h.atomic, fun hshut _ => h.final (hlog.mp hshut)⟩

theorem sound_iff_admits (c : Call α) :
    Sound log ⟨c, s, (answer s c).1, (answer s c).2⟩ ↔ Admits s c := by
  cases c with
  | processSample sample put =>
    cases sample with
    | none => exact iff_of_true ⟨fun _ _ => same_refl s, fun _ h => (nomatch h)⟩ trivial
    | some sample => exact (sound_iff_good hlog rfl rfl).trans (processSample_good_iff s sample put)
  | placeMarker put =>
    refine iff_of_true ⟨fun h => (nomatch h), ?_⟩ trivial
    intro hshut _
    simp [answer, placeMarker_shut (hlog.mp hshut)]
  | flush =>
    refine iff_of_true ⟨fun h => (nomatch h), ?_⟩ trivial
    intro hshut _
    simp [answer, flush_shut (hlog.mp hshut)]
  | setCurrentMediaType type a =>
    cases type with
    | none => exact iff_of_true ⟨fun _ _ => same_refl s, fun _ h => (nomatch h)⟩ trivial
    | some type => exact (sound_iff_good hlog rfl rfl).trans (setCurrentMediaType_good_iff s type a)
  | start put =>
    exact (sound_iff_good hlog rfl rfl).trans (changeState_good_iff (.inl rfl) (by decide) s put)
  | stop put =>
    exact (sound_iff_good hlog rfl rfl).trans (changeState_good_iff (.inr rfl) (by decide) s put)
  | shutdown | registerEncodingCallback | dispatch event =>
    exact iff_of_true ⟨fun h => (nomatch h), fun _ h => (nomatch h)⟩ trivial

omit hlog in
theorem isShut_append (log : List (Entry α)) (e : Entry α) :
    IsShut (log ++ [e]) ↔ IsShut log ∨ e.call = .shutdown := by
  simp [IsShut, or_and_right, exists_or]

theorem step_isShut (c : Call α) :
    IsShut (log ++ (step s c).2) ↔ (step s c).1.isShutdown = true := by
  have hanswer := answer_isShutdown s c
  simp only [step, isShut_append, hlog]
  exact hanswer.symm

end Log

/-- Failed calls are atomic and `Shutdown` is final in a run just when every call of it is
admitted by the state it meets. -/
theorem calls_sound_iff (calls : List (Call α)) :
    Justified Sound (run step create calls).2 ↔
      Along step (fun _ s c => Admits s c) [] create calls := by
  apply justified_run_iff step (fun log s => IsShut log ↔ s.isShutdown = true) ?_ ?_ ?_
  · intro log s c hlog
    simpa [step] using sound_iff_admits hlog c
  · intro log s c hlog _
    exact step_isShut hlog c
  · simp [IsShut, create]

def videoType : Call Nat := .setCurrentMediaType (some ⟨.video, some 1, []⟩) ⟨.ok, .ok, .ok⟩

/-- `Start` with a failing put leaves the sink started, and after `Shutdown` it still queues. -/
theorem start_unsound :
    ¬ Justified Sound (run step create [videoType, .start .fail]).2 ∧
      ¬ Justified Sound (run step create [videoType, .shutdown, .start .ok]).2 := by
  constructor
  · intro h
    have hstart := h [_] _ [] rfl
    cases (hstart.atomic rfl rfl).state
  · intro h
    have hstart := h [_, _] _ [] rfl
    have hshut : IsShut (run step create [videoType, .shutdown]).2 :=
      ⟨_, List.mem_cons_of_mem _ List.mem_cons_self, rfl⟩
    cases (hstart.final hshut rfl).1

end WeiRtcNative.H264.StreamAtomicity
