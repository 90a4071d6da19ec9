import WeiRtcNative.Lib.Lifetime

/-!
# Lifecycle of the desktop capturer

`StartCapture`, `StopCapture`, `Dispose` and the destructor of `DesktopCapturer`, statement by
statement, interleaved with the capture thread. The thread is created before `_isRunning` is set, so
it may find it false and end at once. `Dispose` deletes `_screenCapturer` and keeps the pointer, and
the destructor disposes again.
-/

namespace WeiRtcNative.CaptureThread

open Machine Lifetime
set_option autoImplicit false

inductive Thread where
  | testing
  | capturing
  | exited
  deriving DecidableEq, Repr

inductive Closing where
  | stopCapture
  | dispose
  | destructor
  deriving DecidableEq, Repr

/-- What the calling thread does next. -/
inductive Phase where
  | idle
  | starting
  | creating
  | settingRunning
  | stopping (closing : Closing)
  | joining (closing : Closing)
  | deleting (closing : Closing)
  | destroyed
  | terminated
  deriving DecidableEq, Repr

/-- `_thread` is joinable when it is not `none`; `deleted` is the state of the object behind
`_screenCapturer`. -/
structure System where
  phase : Phase
  thread : Option Thread
  isRunning : Bool
  deleted : Bool
  deriving DecidableEq, Repr

inductive Event where
  | startReturned
  | closing (closing : Closing)
  | threadCreated
  | threadReplaced
  | threadExited
  | screenCapturer (event : Lifetime.Event Unit)
  | destroyed
  deriving DecidableEq, Repr

inductive Action where
  | startCapture
  | close (closing : Closing)
  | api
  | thread
  deriving DecidableEq, Repr

/-- After the constructor, which makes the screen capturer and selects a source. -/
def constructed : System × List Event :=
  (⟨.idle, none, false, false⟩,
    [.screenCapturer (.acquire ()), .screenCapturer (.use ()), .screenCapturer (.use ())])

def joined (s : System) (c : Closing) : System :=
  {s with thread := none, phase := if c = .stopCapture then .idle else .deleting c}

/-- The next statement of the calling thread. Assigning to a joinable `_thread` ends the process,
and `join` waits. -/
def api (s : System) : System × List Event :=
  match s.phase with
  | .idle | .destroyed | .terminated => (s, [])
  | .starting => ({s with phase := .creating}, [.screenCapturer (.use ())])
  | .creating =>
    if s.thread.isSome then ({s with phase := .terminated}, [.threadReplaced])
    else ({s with phase := .settingRunning, thread := some .testing}, [.threadCreated])
  | .settingRunning => ({s with phase := .idle, isRunning := true}, [.startReturned])
  | .stopping c => ({s with phase := .joining c, isRunning := false}, [])
  | .joining c => (if s.thread = none ∨ s.thread = some .exited then joined s c else s, [])
  | .deleting c =>
    if c = .destructor then
      ({s with deleted := true, phase := .destroyed}, [.screenCapturer (.free ()), .destroyed])
    else ({s with deleted := true, phase := .idle}, [.screenCapturer (.free ())])

def threadStep (s : System) : System × List Event :=
  match s.thread with
  | none | some .exited => (s, [])
  | some .testing =>
    if s.isRunning then ({s with thread := some .capturing}, [])
    else ({s with thread := some .exited}, [.threadExited])
  | some .capturing => ({s with thread := some .testing}, [.screenCapturer (.use ())])

def step (s : System) (a : Action) : System × List Event :=
  if s.phase = .terminated then (s, [])
  else
    match a with
    | .startCapture => (if s.phase = .idle then {s with phase := .starting} else s, [])
    | .close c =>
      if s.phase = .idle then ({s with phase := .stopping c}, [.closing c]) else (s, [])
    | .api => api s
    | .thread => threadStep s

def Event.capturing (was : Bool) : Event → Bool
  | .startReturned => true
  | .closing _ => false
  | _ => was

/-- `StartCapture` has returned and none of the others was called since. -/
def capturing (log : List Event) : Bool := log.foldl Event.capturing false

def Event.alive (was : Bool) : Event → Bool
  | .threadCreated => true
  | .threadExited => false
  | _ => was

/-- The thread that was created last has not exited. -/
def alive (log : List Event) : Bool := log.foldl Event.alive false

def Event.object : Event → Option (Lifetime.Event Unit)
  | .screenCapturer event => some event
  | _ => none

/-- What happens to the screen capturer. -/
abbrev capturerLog (log : List Event) : List (Lifetime.Event Unit) := objects Event.object log

def SoundAt (log : List Event) : Event → Prop
  | .startReturned => alive log = true
  | .threadExited => capturing log = false
  | .threadCreated | .threadReplaced => alive log = false
  | .screenCapturer event => Proper (capturerLog log) event
  | .destroyed => (capturerLog log).count (.free ()) = 1
  | .closing _ => True

/-- The screen capturer is there when it is started and deleted, there is no thread when one is
created, and the new one has not ended when `_isRunning` is set. -/
def Admits (s : System) : Action → Prop
  | .api =>
    match s.phase with
    | .starting | .deleting _ => s.deleted = false
    | .creating => s.thread = none
    | .settingRunning => s.thread ≠ some .exited
    | _ => True
  | _ => True

section Shape

def System.runs (s : System) : Bool := s.thread == some .testing || s.thread == some .capturing

/-- Between calls: the capture is on, with all that belongs to it, or off. -/
def Settled (on : Bool) (s : System) : Prop :=
  on = true ∧ s.runs = true ∧ s.isRunning = true ∧ s.deleted = false ∨
    on = false ∧ s.thread = none ∧ s.isRunning = false

/-- What is true while the calling thread is at a phase. -/
def Shape (on : Bool) (s : System) : Prop :=
  match s.phase with
  | .idle | .starting => Settled on s
  | .creating => Settled on s ∧ s.deleted = false
  | .settingRunning => on = false ∧ s.thread.isSome = true ∧ s.isRunning = false ∧ s.deleted = false
  | .stopping _ => on = false ∧ ∃ was, Settled was s
  | .joining _ => on = false ∧ s.isRunning = false ∧ (s.thread.isSome = true → s.deleted = false)
  | .deleting _ => on = false ∧ s.thread = none ∧ s.isRunning = false
  | .destroyed => on = false ∧ s.thread = none
  | .terminated => False

variable {on : Bool} {s : System}

theorem runs_isSome (h : s.runs = true) : s.thread.isSome = true := by
  cases ht : s.thread <;> simp_all [System.runs]

theorem Settled.thread (h : Settled on s) (hthread : s.thread.isSome = true) :
    on = true ∧ s.runs = true ∧ s.isRunning = true ∧ s.deleted = false := by
  rcases h with hon | ⟨-, hnone, -⟩
  · exact hon
  · rw [hnone] at hthread
    cases hthread

/-- The screen capturer outlives the thread. -/
theorem Shape.deleted (h : Shape on s) (hthread : s.thread.isSome = true) : s.deleted = false := by
  unfold Shape at h
  split at h
  · exact (h.thread hthread).2.2.2
  · exact (h.thread hthread).2.2.2
  · exact h.2
  · exact h.2.2.2
  · obtain ⟨-, was, hwas⟩ := h
    exact (hwas.thread hthread).2.2.2
  · exact h.2.2 hthread
  · rw [h.2.1] at hthread
    cases hthread
  · rw [h.2] at hthread
    cases hthread
  · exact absurd h id

/-- While the capture is on the thread finds `_isRunning` set. -/
theorem Shape.isRunning (h : Shape on s) (hon : on = true) : s.isRunning = true := by
  have hsettled : ∀ {t : System}, Settled on t → t.isRunning = true := by
    rintro t (⟨-, -, hrunning, -⟩ | ⟨hoff, -⟩)
    · exact hrunning
    · rw [hon] at hoff
      cases hoff
  unfold Shape at h
  split at h
  · exact hsettled h
  · exact hsettled h
  · exact hsettled h.1
  all_goals first
    | exact absurd (hon.symm.trans h.1) (by decide)
    | exact absurd h id

/-- A running thread goes on. -/
theorem Shape.goesOn (h : Shape on s) (hruns : s.runs = true) {t : Thread} (ht : t ≠ .exited) :
    Shape on {s with thread := some t} := by
  have hthread := runs_isSome hruns
  have hruns' : ({s with thread := some t} : System).runs = true := by
    cases t <;> simp_all [System.runs]
  have hsettled : ∀ {b : Bool}, Settled b s → Settled b {s with thread := some t} := by
    intro b hb
    obtain ⟨hon, -, hrunning, hdeleted⟩ := hb.thread hthread
    exact .inl ⟨hon, hruns', hrunning, hdeleted⟩
  unfold Shape at h ⊢
  dsimp only
  split at h
  · exact hsettled h
  · exact hsettled h
  · exact ⟨hsettled h.1, h.2⟩
  · exact ⟨h.1, rfl, h.2.2⟩
  · obtain ⟨hon, was, hwas⟩ := h
    exact ⟨hon, was, hsettled hwas⟩
  · exact ⟨h.1, h.2.1, fun _ => h.2.2 hthread⟩
  · rw [h.2.1] at hthread
    cases hthread
  · rw [h.2] at hthread
    cases hthread
  · exact absurd h id

/-- A thread that finds `_isRunning` false is being joined, or was created just now. -/
theorem Shape.exits (h : Shape on s) (hthread : s.thread.isSome = true)
    (hstopped : s.isRunning = false) : Shape on {s with thread := some .exited} := by
  have hsettled : ∀ {b : Bool}, ¬ Settled b s := by
    intro b hb
    have hrunning := (hb.thread hthread).2.2.1
    rw [hstopped] at hrunning
    cases hrunning
  unfold Shape at h ⊢
  dsimp only
  split at h
  · exact absurd h hsettled
  · exact absurd h hsettled
  · exact absurd h.1 hsettled
  · exact ⟨h.1, rfl, h.2.2⟩
  · obtain ⟨-, was, hwas⟩ := h
    exact absurd hwas hsettled
  · exact ⟨h.1, h.2.1, fun _ => h.2.2 hthread⟩
  · rw [h.2.1] at hthread
    cases hthread
  · rw [h.2] at hthread
    cases hthread
  · exact absurd h id

end Shape

section Log

@[simp] theorem capturing_append_one (log : List Event) (e : Event) :
    capturing (log ++ [e]) = e.capturing (capturing log) := by
  simp [capturing]

@[simp] theorem alive_append_one (log : List Event) (e : Event) :
    alive (log ++ [e]) = e.alive (alive log) := by
  simp [alive]

structure Inv (log : List Event) (s : System) : Prop where
  proper : Justified Proper (capturerLog log)
  made : (capturerLog log).count (.acquire ()) = 1
  live : live () (capturerLog log) = !s.deleted
  alive : alive log = s.runs
  shape : Shape (capturing log) s

theorem constructed_inv : Inv constructed.2 constructed.1 where
  proper := by simp [constructed, capturerLog, objects, Event.object, Proper, Lifetime.live,
    Lifetime.Event.live]
  made := by decide
  live := by decide
  alive := by decide
  shape := .inr ⟨rfl, rfl, rfl⟩

variable {log : List Event} {s t : System}

theorem Inv.silent (h : Inv log s) (hdeleted : t.deleted = s.deleted) (hruns : t.runs = s.runs)
    (hshape : Shape (capturing log) t) : Inv (log ++ []) t := by
  rw [List.append_nil]
  exact ⟨h.proper, h.made, hdeleted ▸ h.live, h.alive.trans hruns.symm, hshape⟩

/-- An event that says nothing about the screen capturer. -/
theorem Inv.event (h : Inv log s) {e : Event} (hobject : e.object = none)
    (hdeleted : t.deleted = s.deleted) (halive : e.alive s.runs = t.runs)
    (hshape : Shape (e.capturing (capturing log)) t) : Inv (log ++ [e]) t := by
  have hsame : capturerLog (log ++ [e]) = capturerLog log := by
    simp [capturerLog, objects_one_none hobject]
  refine ⟨hsame ▸ h.proper, hsame ▸ h.made, ?_, ?_, ?_⟩
  · rw [hsame, hdeleted]
    exact h.live
  · rw [alive_append_one, h.alive]
    exact halive
  · rw [capturing_append_one]
    exact hshape

/-- A use or a deletion of the screen capturer. -/
theorem Inv.object (h : Inv log s) {e : Lifetime.Event Unit} (he : e ≠ .acquire ())
    (hproper : Proper (capturerLog log) e) (hlive : e.live () (!s.deleted) = !t.deleted)
    (hruns : t.runs = s.runs) (hshape : Shape (capturing log) t) :
    Inv (log ++ [.screenCapturer e]) t := by
  have hlog : capturerLog (log ++ [.screenCapturer e]) = capturerLog log ++ [e] := by
    simp [capturerLog, objects_one_some (f := Event.object) (e := .screenCapturer e) rfl]
  refine ⟨?_, ?_, ?_, ?_, ?_⟩
  · rw [hlog]
    exact justified_append.mpr ⟨h.proper, by simpa using hproper⟩
  · rw [hlog, List.count_append, h.made, List.count_singleton]
    simp [he]
  · rw [hlog, live_append_one, h.live]
    exact hlive
  · rw [alive_append_one, hruns]
    exact h.alive
  · rw [capturing_append_one]
    exact hshape

/-- A deletion is the first one. -/
theorem Inv.frees (h : Inv log s) (hdeleted : s.deleted = true) :
    (capturerLog log).count (.free ()) = 1 := by
  have hbalance := frees_add_live h.proper ()
  rw [h.made, h.live, hdeleted] at hbalance
  simpa using hbalance

end Log

section Steps
variable {log : List Event} {s : System}

theorem use_sound_iff (h : Inv log s) :
    Justified (fun pre => SoundAt (log ++ pre)) [.screenCapturer (.use ())] ↔ s.deleted = false := by
  simp [SoundAt, Proper, h.live]

theorem thread_sound (h : Inv log s) :
    Justified (fun pre => SoundAt (log ++ pre)) (threadStep s).2 ∧
      Inv (log ++ (threadStep s).2) (threadStep s).1 := by
  unfold threadStep
  cases hthread : s.thread with
  | none => exact ⟨by simp, h.silent rfl rfl h.shape⟩
  | some t =>
    have hsome : s.thread.isSome = true := by simp [hthread]
    have hlive := h.shape.deleted hsome
    cases t with
    | exited => exact ⟨by simp, h.silent rfl rfl h.shape⟩
    | testing =>
      have hruns : s.runs = true := by simp [System.runs, hthread]
      dsimp only
      by_cases hrunning : s.isRunning = true
      · rw [if_pos hrunning]
        exact ⟨by simp, h.silent rfl (by simp [System.runs, hthread])
          (h.shape.goesOn hruns (by simp))⟩
      · rw [if_neg hrunning]
        rw [Bool.not_eq_true] at hrunning
        have hoff : capturing log = false := by
          cases hon : capturing log with
          | false => rfl
          | true =>
            have hset := h.shape.isRunning hon
            rw [hrunning] at hset
            cases hset
        refine ⟨by simp [SoundAt, hoff], ?_⟩
        exact h.event rfl rfl (by simp [Event.alive, System.runs]) (h.shape.exits hsome hrunning)
    | capturing =>
      have hruns : s.runs = true := by simp [System.runs, hthread]
      refine ⟨(use_sound_iff h).mpr hlive, ?_⟩
      exact h.object (by simp) (by simp [Proper, h.live, hlive]) (by simp [Lifetime.Event.live])
        (by simp [System.runs, hthread]) (h.shape.goesOn hruns (by simp))

theorem delete_sound_iff (h : Inv log s) :
    Justified (fun pre => SoundAt (log ++ pre)) [.screenCapturer (.free ())] ↔
      s.deleted = false := by
  simp [SoundAt, Proper, h.live]

theorem delete_inv (h : Inv log s) (hdeleted : s.deleted = false) (hthread : s.thread = none)
    {t : System} (ht : t.deleted = true) (hnone : t.thread = none)
    (hshape : Shape (capturing log) t) : Inv (log ++ [.screenCapturer (.free ())]) t := by
  refine h.object (by simp) (by simp [Proper, h.live, hdeleted]) ?_ ?_ hshape
  · simp [Lifetime.Event.live, hdeleted, ht]
  · simp [System.runs, hthread, hnone]

theorem deleting_sound_iff (h : Inv log s) {c : Closing} (hphase : s.phase = .deleting c) :
    Justified (fun pre => SoundAt (log ++ pre)) (api s).2 ↔ s.deleted = false := by
  obtain ⟨-, hthread, -⟩ : capturing log = false ∧ s.thread = none ∧ s.isRunning = false := by
    simpa [Shape, hphase] using h.shape
  simp only [api, hphase]
  split
  · constructor
    · intro hsound
      refine (delete_sound_iff h).mp ?_
      rw [← List.singleton_append, justified_append] at hsound
      exact hsound.1
    · intro hdeleted
      have hsound := (delete_sound_iff h).mpr hdeleted
      have hnext := delete_inv h hdeleted hthread (t := {s with deleted := true}) rfl hthread
        (by simpa [Shape, hphase] using h.shape)
      rw [← List.singleton_append, justified_append]
      exact ⟨hsound, by simpa [SoundAt] using hnext.frees rfl⟩
  · exact delete_sound_iff h

theorem deleting_inv (h : Inv log s) {c : Closing} (hphase : s.phase = .deleting c)
    (hdeleted : s.deleted = false) : Inv (log ++ (api s).2) (api s).1 := by
  obtain ⟨hoff, hthread, hstopped⟩ :
      capturing log = false ∧ s.thread = none ∧ s.isRunning = false := by
    simpa [Shape, hphase] using h.shape
  simp only [api, hphase]
  split
  · rw [← List.singleton_append, ← List.append_assoc]
    have hnext := delete_inv h hdeleted hthread
      (t := {s with deleted := true, phase := .destroyed}) rfl hthread ⟨hoff, hthread⟩
    refine hnext.event rfl rfl rfl ?_
    rw [capturing_append_one]
    exact ⟨hoff, hthread⟩
  · exact delete_inv h hdeleted hthread rfl hthread (.inr ⟨hoff, hthread, hstopped⟩)

theorem api_sound_iff (h : Inv log s) :
    Justified (fun pre => SoundAt (log ++ pre)) (api s).2 ↔ Admits s .api := by
  have hshape := h.shape
  cases hphase : s.phase with
  | idle => simp [api, Admits, hphase]
  | destroyed => simp [api, Admits, hphase]
  | terminated => simp [api, Admits, hphase]
  | stopping c => simp [api, Admits, hphase]
  | joining c => simp [api, Admits, hphase]
  | starting =>
    simp only [api, Admits, hphase]
    exact use_sound_iff h
  | creating =>
    simp only [Shape, hphase] at hshape
    simp only [api, Admits, hphase]
    cases hthread : s.thread with
    | none => simp [SoundAt, h.alive, System.runs, hthread]
    | some t =>
      have hruns := (hshape.1.thread (by simp [hthread])).2.1
      simp [SoundAt, h.alive, hruns]
  | settingRunning =>
    simp only [Shape, hphase] at hshape
    simp only [api, Admits, hphase]
    obtain ⟨t, ht⟩ := Option.isSome_iff_exists.mp hshape.2.1
    cases t <;> simp [SoundAt, h.alive, System.runs, ht]
  | deleting c =>
    simp only [Admits, hphase]
    exact deleting_sound_iff h hphase

theorem api_inv (h : Inv log s) (ha : Admits s .api) : Inv (log ++ (api s).2) (api s).1 := by
  have hshape := h.shape
  cases hphase : s.phase with
  | idle | destroyed | terminated =>
    simp only [api, hphase]
    exact h.silent rfl rfl h.shape
  | starting =>
    simp only [Admits, hphase] at ha
    simp only [Shape, hphase] at hshape
    simp only [api, hphase]
    exact h.object (by simp) (by simp [Proper, h.live, ha]) (by simp [Lifetime.Event.live]) rfl
      ⟨hshape, ha⟩
  | creating =>
    simp only [Admits, hphase] at ha
    simp only [Shape, hphase] at hshape
    have hoff : capturing log = false ∧ s.isRunning = false := by
      rcases hshape.1 with ⟨-, hruns, -⟩ | ⟨hoff, -, hstopped⟩
      · have hsome := runs_isSome hruns
        rw [ha] at hsome
        cases hsome
      · exact ⟨hoff, hstopped⟩
    simp only [api, hphase, ha, Option.isSome_none, Bool.false_eq_true, if_false]
    exact h.event rfl rfl rfl ⟨hoff.1, rfl, hoff.2, hshape.2⟩
  | settingRunning =>
    simp only [Admits, hphase] at ha
    simp only [Shape, hphase] at hshape
    obtain ⟨t, ht⟩ := Option.isSome_iff_exists.mp hshape.2.1
    have hruns : s.runs = true := by
      cases t <;> simp_all [System.runs]
    simp only [api, hphase]
    exact h.event rfl rfl rfl (.inl ⟨rfl, hruns, rfl, hshape.2.2.2⟩)
  | stopping c =>
    simp only [Shape, hphase] at hshape
    obtain ⟨hoff, was, hwas⟩ := hshape
    simp only [api, hphase]
    exact h.silent rfl rfl ⟨hoff, rfl, fun hthread => (hwas.thread hthread).2.2.2⟩
  | joining c =>
    simp only [Shape, hphase] at hshape
    obtain ⟨hoff, hstopped, -⟩ := hshape
    simp only [api, hphase]
    split
    · rename_i hover
      refine h.silent rfl ?_ ?_
      · rcases hover with hnone | hexited
        · simp [joined, System.runs, hnone]
        · simp [joined, System.runs, hexited]
      · cases c with
        | stopCapture => exact .inr ⟨hoff, rfl, hstopped⟩
        | dispose => exact ⟨hoff, rfl, hstopped⟩
        | destructor => exact ⟨hoff, rfl, hstopped⟩
    · exact h.silent rfl rfl h.shape
  | deleting c =>
    simp only [Admits, hphase] at ha
    exact deleting_inv h hphase ha

theorem step_sound_iff (h : Inv log s) (a : Action) :
    Justified (fun pre => SoundAt (log ++ pre)) (step s a).2 ↔ Admits s a := by
  have hup : s.phase ≠ .terminated := by
    intro hphase
    have hshape := h.shape
    simp [Shape, hphase] at hshape
  cases a with
  | startCapture => simp [step, hup, Admits]
  | close c =>
    refine iff_of_true ?_ trivial
    simp only [step, hup, if_false]
    split <;> simp [SoundAt]
  | api =>
    simp only [step, hup, if_false]
    exact api_sound_iff h
  | thread =>
    refine iff_of_true ?_ trivial
    simp only [step, hup, if_false]
    exact (thread_sound h).1

theorem step_inv (h : Inv log s) {a : Action} (ha : Admits s a) :
    Inv (log ++ (step s a).2) (step s a).1 := by
  have hshape := h.shape
  have hup : s.phase ≠ .terminated := by
    intro hphase
    simp [Shape, hphase] at hshape
  cases a with
  | startCapture =>
    simp only [step, hup, if_false]
    split
    · rename_i hphase
      simp only [Shape, hphase] at hshape
      exact h.silent rfl rfl hshape
    · exact h.silent rfl rfl h.shape
  | close c =>
    simp only [step, hup, if_false]
    split
    · rename_i hphase
      simp only [Shape, hphase] at hshape
      exact h.event rfl rfl rfl ⟨rfl, _, hshape⟩
    · exact h.silent rfl rfl h.shape
  | api =>
    simp only [step, hup, if_false]
    exact api_inv h ha
  | thread =>
    simp only [step, hup, if_false]
    exact (thread_sound h).2

end Steps

/-- In a run the capture thread lives as long as the capture is on and is not replaced, and the screen
capturer is deleted once and not used after that, just when the calls and the thread meet the
condition. -/
theorem lifecycle_sound_iff (actions : List Action) :
    Justified SoundAt (constructed.2 ++ (run step constructed.1 actions).2) ↔
      Along step (fun _ => Admits) constructed.2 constructed.1 actions := by
  have hexact := justified_run_iff_from step (P := SoundAt) Inv (fun _ _ a h => step_sound_iff h a)
    (fun _ _ _ h ha => step_inv h ha) constructed_inv actions
  rw [justified_append, hexact]
  refine and_iff_right ?_
  simp [constructed, SoundAt, objects, Event.object, Proper, Lifetime.live, Lifetime.Event.live]

section Failures

/-- The thread runs before `_isRunning` is set. -/
def testedEarly : List Action := [.startCapture, .api, .api, .thread, .api]

def startedTwice : List Action := [.startCapture, .api, .api, .api, .startCapture, .api, .api]

def disposedEarly : List Action :=
  [.close .dispose, .api, .api, .api, .close .destructor, .api, .api, .api]

theorem lifecycle_broken :
    ¬ Justified SoundAt (constructed.2 ++ (run step constructed.1 testedEarly).2) ∧
      ¬ Justified SoundAt (constructed.2 ++ (run step constructed.1 startedTwice).2) ∧
      ¬ Justified SoundAt (constructed.2 ++ (run step constructed.1 disposedEarly).2) := by
  refine ⟨?_, ?_, ?_⟩
  · simp [testedEarly, step, api, threadStep, constructed, SoundAt, alive, Event.alive]
  · simp [startedTwice, step, api, constructed, SoundAt, alive, Event.alive]
  · intro h
    have honce := h (constructed.2 ++ [.closing .dispose, .screenCapturer (.free ()),
      .closing .destructor, .screenCapturer (.free ())]) .destroyed [] rfl
    exact absurd honce (show ¬ List.count _ _ = 1 by decide)

end Failures

end WeiRtcNative.CaptureThread
