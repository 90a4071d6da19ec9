import WeiRtcNative.Lib.Lifetime
import WeiRtcNative.Audio.StopJoins

/-!
# AudioDeviceWindowsCore: the helpers and their threads

`Init` makes the two device helpers and `Terminate` deletes them. Neither a public method nor
`AttachAudioBuffer` asks whether they exist, `Terminate` leaves both pointers as they are, and it
does not stop the transport threads, which go on with the helper that they were started for. What
happens after a use of a helper that is gone is left open.
-/

namespace WeiRtcNative.Audio.CoreLifecycle

open Machine
open Transport (Device System Phase)
set_option autoImplicit false

/-- A helper, by its device and the `Init` that made it. -/
abbrev Object := Device × Nat

inductive Event where
  | helper (e : Lifetime.Event Object)
  | nullUsed
  | deletedUnderThread (k : Object)
  deriving DecidableEq, Repr

/-- `helpers` is where both pointers point; `attached` is the audio buffer of each helper. -/
structure Core where
  initialized : Bool
  helpers : Option Nat
  created : Nat
  audioBuffer : Option Nat
  attached : Device → Option Nat
  transport : System

def create : Core := ⟨false, none, 0, none, fun _ => none, System.create⟩

section Calls
variable (c : Core)

def useOf (d : Device) : Option Nat → Event
  | none => .nullUsed
  | some k => .helper (.use (d, k))

/-- `Init` and `Terminate` wait for the lock. -/
def init (roInitialized : Bool) : Core × List Event :=
  if c.transport.lock.isSome || c.initialized || !roInitialized then (c, [])
  else
    let k := c.created
    let attach := if c.audioBuffer.isSome then [useOf .render k, useOf .capture k] else []
    ({c with
        initialized := true
        helpers := some k
        created := k + 1
        attached := fun _ => c.audioBuffer
        transport := System.create},
      [.helper (.acquire (.render, k)), .helper (.acquire (.capture, k))] ++ attach)

/-- A thread of the device has not ended. -/
def alive (sys : System) (d : Device) : Bool :=
  (List.range (sys.helpers d).created).any fun t => sys.phase d t ≠ .gone

def deleteHelper (d : Device) (k : Nat) : List Event :=
  (if alive c.transport d then [.deletedUnderThread (d, k)] else []) ++ [.helper (.free (d, k))]

def terminate : Core × List Event :=
  if c.transport.lock.isSome || !c.initialized then (c, [])
  else
    ({c with initialized := false},
      match c.helpers with
      | none => []
      | some k => deleteHelper c .capture k ++ deleteHelper c .render k)

/-- The helpers set rate and channels of the buffer that they are given, null or not. -/
def attachAudioBuffer (buffer : Option Nat) : Core × List Event :=
  let set := if buffer.isNone then [Event.nullUsed] else []
  match c.helpers with
  | none => ({c with audioBuffer := buffer}, [])
  | some k => ({c with audioBuffer := buffer, attached := fun _ => buffer},
      useOf .render k :: set ++ useOf .capture k :: set)

inductive Role where
  | api (d : Device)
  | thread (d : Device) (t : Nat)
  /-- The rest of an API call in progress, and events of the system. -/
  | other
  deriving DecidableEq, Repr

def roleOf : Transport.Action → Role
  | .initTransport d _ => .api d
  | .startTransport d _ => .api d
  | .stopTransport d => .api d
  | .startedInTime | .startTimedOut | .joined | .joinTimedOut | .samplesReady _ => .other
  | .startUp d t _ => .thread d t
  | .wake d t => .thread d t
  | .waitTimesOut d t => .thread d t
  | .waitFails d t => .thread d t
  | .takeLock d t => .thread d t
  | .process d t _ => .thread d t
  | .finish d t => .thread d t

/-- A capture thread also reads `_sndCardDelay` of the render helper. -/
def threadUses (d : Device) : List Event :=
  match d with
  | .capture => [useOf .capture c.helpers, useOf .render c.helpers]
  | .render => [useOf .render c.helpers]

def transportStep (a : Transport.Action) : Core × List Event :=
  let next := {c with transport := (Transport.step c.transport a).1}
  match roleOf a with
  | .api d =>
    if c.transport.lock.isSome then (c, [])
    else (if c.initialized then next else c, [useOf d c.helpers])
  | .thread d t => (next, if c.transport.phase d t = .gone then [] else threadUses c d)
  | .other => (next, [])

end Calls

/-- `call` is any method that asks a helper or sets a value of it. -/
inductive Action where
  | init (roInitialized : Bool)
  | terminate
  | attachAudioBuffer (buffer : Option Nat)
  | call (d : Device)
  | transport (a : Transport.Action)
  deriving DecidableEq, Repr

def step (c : Core) : Action → Core × List Event
  | .init roInitialized => init c roInitialized
  | .terminate => terminate c
  | .attachAudioBuffer buffer => attachAudioBuffer c buffer
  | .call d => (c, [useOf d c.helpers])
  | .transport a => transportStep c a

def Event.object : Event → Option (Lifetime.Event Object)
  | .helper e => some e
  | _ => none

def objectLog (log : List Event) : List (Lifetime.Event Object) :=
  Lifetime.objects Event.object log

/-- A helper is used and deleted while it exists, and not deleted while a thread of it runs. -/
def Sound (earlier : List Event) : Event → Prop
  | .helper e => Lifetime.Proper (objectLog earlier) e
  | .nullUsed => False
  | .deletedUnderThread _ => False

/-- The methods are called between `Init` and `Terminate`, and `Terminate` after the end of the
threads. No null audio buffer is attached while there are helpers, which both use it at once. -/
def Admits (c : Core) : Action → Prop
  | .init _ => True
  | .terminate => c.initialized = true → c.transport.lock = none →
      ∀ d, alive c.transport d = false
  | .attachAudioBuffer buffer => c.helpers = none ∨ c.initialized = true ∧ buffer ≠ none
  | .call _ => c.initialized = true
  | .transport a => ∀ d, roleOf a = .api d → c.transport.lock = none → c.initialized = true

section Threads

/-- No thread has a number that is still to be given. -/
def Fresh (sys : System) : Prop := ∀ d t, (sys.helpers d).created ≤ t → sys.phase d t = .gone

/-- No thread begins. -/
structure Onward (sys sys' : System) : Prop where
  created : ∀ d, (sys'.helpers d).created = (sys.helpers d).created
  stays : ∀ d t, sys.phase d t = .gone → sys'.phase d t = .gone

theorem Onward.fresh {sys sys' : System} (h : Onward sys sys') (hfresh : Fresh sys) :
    Fresh sys' := by
  intro d t ht
  rw [h.created d] at ht
  exact h.stays d t (hfresh d t ht)

theorem onward_refl (sys : System) : Onward sys sys := ⟨fun _ => rfl, fun _ _ hgone => hgone⟩

/-- A helper is changed in which threads that are gone stay so. -/
theorem onward_set {sys sys' : System} {d : Device} {h : Transport.Helper}
    (hset : sys'.helpers = Function.update sys.helpers d h)
    (hcreated : h.created = (sys.helpers d).created)
    (hthreads : ∀ t, sys.phase d t = .gone → h.threads t = .gone) : Onward sys sys' := by
  constructor
  · intro e
    rw [hset]
    by_cases he : e = d
    · subst he
      simp [hcreated]
    · simp [Function.update_of_ne he]
  · intro e t hgone
    unfold System.phase
    rw [hset]
    by_cases he : e = d
    · subst he
      simpa using hthreads t hgone
    · rw [Function.update_of_ne he]
      exact hgone

/-- A thread that has not ended goes on. -/
theorem onward_thread {sys sys' : System} {d : Device} {t : Nat} {h : Transport.Helper} {p : Phase}
    (halive : sys.phase d t ≠ .gone) (hset : sys'.helpers = Function.update sys.helpers d h)
    (hcreated : h.created = (sys.helpers d).created)
    (hthreads : h.threads = Function.update (sys.helpers d).threads t p) : Onward sys sys' := by
  apply onward_set hset hcreated
  intro u hgone
  have hne : u ≠ t := by
    rintro rfl
    exact halive hgone
  rw [hthreads, Function.update_of_ne hne]
  exact hgone

theorem startTransport_fresh {sys : System} (hfresh : Fresh sys) (d : Device) (created : Bool) :
    Fresh (Transport.startTransport sys d created).1 := by
  unfold Transport.startTransport
  dsimp only
  repeat' split
  all_goals try exact hfresh
  intro e t ht
  by_cases he : e = d
  · subst he
    simp only [System.set, System.phase, Function.update_self] at ht ⊢
    have hne : t ≠ (sys.helpers e).created := by omega
    have hgone : (sys.helpers e).threads t = .gone := hfresh e t (by omega)
    simpa [Transport.Helper.setPhase, Function.update_of_ne hne] using hgone
  · simp only [System.set, System.phase, Function.update_of_ne he] at ht ⊢
    exact hfresh e t ht

theorem stopReturns_onward (sys : System) (d : Device) (t : Nat) (fromStart exited : Bool) :
    Onward sys (Transport.stopReturns sys d t fromStart exited).1 :=
  onward_set rfl rfl fun _ hgone => hgone

theorem signalShutdown_onward (sys : System) (d : Device) (t : Nat) (fromStart : Bool) :
    Onward sys (Transport.signalShutdown sys d t fromStart) :=
  onward_set rfl rfl fun _ hgone => hgone

theorem startUp_onward (sys : System) (d : Device) (t : Nat) (result : Transport.StartUp) :
    Onward sys (Transport.startUp sys d t result) := by
  unfold Transport.startUp
  split
  · rename_i hphase
    have halive : sys.phase d t ≠ .gone := by simp [hphase]
    cases result with
    | returns => exact onward_thread halive rfl rfl rfl
    | fails => exact onward_thread halive rfl rfl rfl
    | succeeds => exact onward_thread halive rfl rfl rfl
  · exact onward_refl sys

theorem wake_onward (sys : System) (d : Device) (t : Nat) :
    Onward sys (Transport.wake sys d t) := by
  unfold Transport.wake
  dsimp only
  split
  · rename_i hphase
    have halive : sys.phase d t ≠ .gone := by simp [hphase]
    split
    · exact onward_thread halive rfl rfl rfl
    · split
      · exact onward_thread halive rfl rfl rfl
      · exact onward_refl sys
  · exact onward_refl sys

theorem takeLock_onward (sys : System) (d : Device) (t : Nat) :
    Onward sys (Transport.takeLock sys d t) := by
  unfold Transport.takeLock
  split
  · exact onward_refl sys
  · split
    · rename_i hphase
      exact onward_thread (by simp [hphase]) rfl rfl rfl
    · rename_i hphase
      exact onward_thread (by simp [hphase]) rfl rfl rfl
    · exact onward_refl sys

theorem step_onward (sys : System) {a : Transport.Action}
    (ha : ∀ d created, a ≠ .startTransport d created) : Onward sys (Transport.step sys a).1 := by
  cases a with
  | initTransport d succeeds =>
    simp only [Transport.step, Transport.initTransport]
    split
    · exact onward_set rfl rfl fun _ hgone => hgone
    · exact onward_refl sys
  | startTransport d created => exact absurd rfl (ha d created)
  | startedInTime =>
    simp only [Transport.step, Transport.startedInTime]
    split
    · split
      · exact onward_set rfl rfl fun _ hgone => hgone
      · exact onward_refl sys
    · exact onward_refl sys
  | startTimedOut =>
    simp only [Transport.step, Transport.startTimedOut]
    split
    · split
      · exact onward_refl sys
      · exact signalShutdown_onward sys _ _ _
    · exact onward_refl sys
  | stopTransport d =>
    simp only [Transport.step, Transport.stopTransport]
    split
    · exact onward_refl sys
    · split
      · exact onward_refl sys
      · split
        · exact onward_set rfl rfl fun _ hgone => hgone
        · exact signalShutdown_onward sys _ _ _
  | joined =>
    simp only [Transport.step, Transport.joined]
    split
    · split
      · exact stopReturns_onward sys _ _ _ _
      · exact onward_refl sys
    · exact onward_refl sys
  | joinTimedOut =>
    simp only [Transport.step, Transport.joinTimedOut]
    split
    · split
      · exact stopReturns_onward sys _ _ _ _
      · exact onward_refl sys
    · exact onward_refl sys
  | samplesReady d => exact onward_set rfl rfl fun _ hgone => hgone
  | startUp d t result => exact startUp_onward sys d t result
  | wake d t => exact wake_onward sys d t
  | waitTimesOut d t =>
    simp only [Transport.step, Transport.waitTimesOut]
    split
    · rename_i hphase
      exact onward_thread (by simp [hphase.1]) rfl rfl rfl
    · exact onward_refl sys
  | waitFails d t =>
    simp only [Transport.step, Transport.waitFails]
    split
    · rename_i hphase
      exact onward_thread (by simp [hphase]) rfl rfl rfl
    · exact onward_refl sys
  | takeLock d t => exact takeLock_onward sys d t
  | process d t result =>
    simp only [Transport.step, Transport.process]
    split
    · rename_i hphase
      exact onward_thread (by simp [hphase]) rfl rfl rfl
    · exact onward_refl sys
  | finish d t =>
    simp only [Transport.step, Transport.finish]
    split
    · rename_i hphase
      exact onward_thread (by simp [hphase]) rfl rfl rfl
    · rename_i hphase
      exact onward_thread (by simp [hphase]) rfl rfl rfl
    · exact onward_refl sys

theorem step_fresh {sys : System} (hfresh : Fresh sys) (a : Transport.Action) :
    Fresh (Transport.step sys a).1 := by
  by_cases ha : ∃ d created, a = .startTransport d created
  · obtain ⟨d, created, rfl⟩ := ha
    exact startTransport_fresh hfresh d created
  · apply (step_onward sys ?_).fresh hfresh
    intro d created hstart
    exact ha ⟨d, created, hstart⟩

theorem alive_eq_false_iff {sys : System} (hfresh : Fresh sys) (d : Device) :
    alive sys d = false ↔ ∀ t, sys.phase d t = .gone := by
  unfold alive
  rw [List.any_eq_false]
  constructor
  · intro h t
    by_cases ht : t < (sys.helpers d).created
    · simpa using h t (List.mem_range.mpr ht)
    · exact hfresh d t (by omega)
  · intro h t _
    simp [h t]

end Threads

section Soundness
open Lifetime

@[simp] theorem objectLog_helper (log : List Event) (e : Lifetime.Event Object) :
    objectLog (log ++ [.helper e]) = objectLog log ++ [e] := by
  simp [objectLog, objects_one_some (f := Event.object) (e := .helper e) rfl]

/-- An event that no helper is made or deleted by. -/
def Event.isStill : Event → Bool
  | .helper (.use _) => true
  | .helper _ => false
  | _ => true

theorem live_still {e : Event} (he : e.isStill = true) (log : List Event) (k : Object) :
    live k (objectLog (log ++ [e])) = live k (objectLog log) := by
  cases e with
  | helper e =>
    cases e with
    | use j => simp [Lifetime.Event.live]
    | acquire j => cases he
    | free j => cases he
  | nullUsed => simp [objectLog, objects_one_none (f := Event.object) (e := .nullUsed) rfl]
  | deletedUnderThread j =>
    simp [objectLog, objects_one_none (f := Event.object) (e := .deletedUnderThread j) rfl]

theorem live_stills {evs : List Event} (hstill : ∀ e ∈ evs, e.isStill = true) (log : List Event)
    (k : Object) : live k (objectLog (log ++ evs)) = live k (objectLog log) := by
  induction evs generalizing log with
  | nil => simp
  | cons e evs ih =>
    have hrest := ih (fun f hf => hstill f (by simp [hf])) (log ++ [e])
    rw [live_still (hstill e (by simp))] at hrest
    simpa using hrest

theorem sound_congr {log log' : List Event}
    (h : ∀ k, live k (objectLog log) = live k (objectLog log')) (e : Event) :
    Sound log e ↔ Sound log' e := by
  cases e with
  | helper e =>
    cases e with
    | acquire k => simp [Sound, Proper, h k]
    | use k => simp [Sound, Proper, h k]
    | free k => simp [Sound, Proper, h k]
  | nullUsed => rfl
  | deletedUnderThread k => rfl

/-- Events that leave all helpers are sound one by one. -/
theorem stills_sound_iff {evs : List Event} (hstill : ∀ e ∈ evs, e.isStill = true)
    (log : List Event) :
    Justified (fun pre => Sound (log ++ pre)) evs ↔ ∀ e ∈ evs, Sound log e := by
  rw [← justified_iff_forall]
  constructor
  · intro h pre e post hevs
    have hpre : ∀ f ∈ pre, f.isStill = true := fun f hf => hstill f (by simp [hevs, hf])
    exact (sound_congr (live_stills hpre log) e).mp (h pre e post hevs)
  · intro h pre e post hevs
    have hpre : ∀ f ∈ pre, f.isStill = true := fun f hf => hstill f (by simp [hevs, hf])
    exact (sound_congr (live_stills hpre log) e).mpr (h pre e post hevs)

@[simp] theorem useOf_still (d : Device) (helpers : Option Nat) :
    (useOf d helpers).isStill = true := by
  cases helpers <;> rfl

/-- Just the helpers of the last `Init` exist, until `Terminate`; they have the audio buffer of the
core, and no thread runs while they do not exist. -/
structure Inv (log : List Event) (c : Core) : Prop where
  fresh : Fresh c.transport
  made : ∀ k, c.helpers = some k → k < c.created
  pointers : c.initialized = true → ∃ k, c.helpers = some k
  existing : ∀ k, live k (objectLog log) = true ↔ c.initialized = true ∧ c.helpers = some k.2
  attached : c.initialized = true → ∀ d, c.attached d = c.audioBuffer
  ended : c.initialized = false → ∀ d t, c.transport.phase d t = .gone

theorem create_inv : Inv [] create where
  fresh := by simp [create, Fresh, System.create, System.phase, Transport.Helper.create]
  made := by simp [create]
  pointers := by simp [create]
  existing := by simp [create, objectLog]
  attached := by simp [create]
  ended := by simp [create, System.create, System.phase, Transport.Helper.create]

variable {log : List Event} {c : Core}

theorem Inv.use_iff (hinv : Inv log c) (d : Device) :
    Sound log (useOf d c.helpers) ↔ c.initialized = true := by
  cases hhelpers : c.helpers with
  | none =>
    have hnot : c.initialized ≠ true := by
      intro hinit
      obtain ⟨k, hk⟩ := hinv.pointers hinit
      rw [hhelpers] at hk
      cases hk
    simp [useOf, Sound, hnot]
  | some k =>
    have hlive := hinv.existing (d, k)
    simpa [useOf, Sound, Proper, hhelpers] using hlive

/-- The log grows by events that leave all helpers, and the core keeps them. -/
theorem Inv.still (hinv : Inv log c) (c' : Core) {evs : List Event}
    (hstill : ∀ e ∈ evs, e.isStill = true) (hinit : c'.initialized = c.initialized)
    (hhelpers : c'.helpers = c.helpers) (hcreated : c'.created = c.created)
    (hfresh : Fresh c'.transport)
    (hattached : c'.initialized = true → ∀ d, c'.attached d = c'.audioBuffer)
    (hended : c'.initialized = false → ∀ d t, c'.transport.phase d t = .gone) :
    Inv (log ++ evs) c' where
  fresh := hfresh
  made := by
    rw [hhelpers, hcreated]
    exact hinv.made
  pointers := by
    rw [hinit, hhelpers]
    exact hinv.pointers
  existing := by
    intro k
    rw [live_stills hstill, hinit, hhelpers]
    exact hinv.existing k
  attached := hattached
  ended := hended

section Steps

theorem Inv.dead (hinv : Inv log c) (hinit : c.initialized = false) (k : Object) :
    live k (objectLog log) = false := by
  have hlive := hinv.existing k
  simpa [hinit] using hlive

/-- After a helper was made for both devices they exist. -/
theorem live_made (hdead : ∀ k, live k (objectLog log) = false) (n : Nat) (k : Object) :
    live k (objectLog (log ++ [.helper (.acquire (.render, n)), .helper (.acquire (.capture, n))])) =
      true ↔ k.2 = n := by
  have hsplit : log ++ [.helper (.acquire (.render, n)), .helper (.acquire (.capture, n))] =
      (log ++ [.helper (.acquire (.render, n))]) ++ [.helper (.acquire (.capture, n))] := by simp
  obtain ⟨d, m⟩ := k
  rw [hsplit]
  simp only [objectLog_helper, live_append_one, Lifetime.Event.live, hdead]
  cases d <;> simp [eq_comm]

/-- Helpers are used: soundly if they exist. -/
theorem uses_sound_iff {evs : List Event} {helpers : Option Nat}
    (huses : ∀ e ∈ evs, ∃ d, e = useOf d helpers) :
    Justified (fun pre => Sound (log ++ pre)) evs ↔ ∀ e ∈ evs, Sound log e := by
  apply stills_sound_iff
  intro e he
  obtain ⟨d, rfl⟩ := huses e he
  exact useOf_still d helpers

theorem Inv.uses_iff (hinv : Inv log c) {evs : List Event} (hne : evs ≠ [])
    (huses : ∀ e ∈ evs, ∃ d, e = useOf d c.helpers) :
    Justified (fun pre => Sound (log ++ pre)) evs ↔ c.initialized = true := by
  rw [uses_sound_iff huses]
  constructor
  · intro h
    obtain ⟨e, he⟩ := List.exists_mem_of_ne_nil evs hne
    obtain ⟨d, rfl⟩ := huses e he
    exact (hinv.use_iff d).mp (h _ he)
  · intro hinit e he
    obtain ⟨d, rfl⟩ := huses e he
    exact (hinv.use_iff d).mpr hinit

theorem attach_uses (b : Bool) (k : Nat) :
    ∀ e ∈ (if b then [useOf .render k, useOf .capture k] else []), ∃ d, e = useOf d (some k) := by
  intro e he
  split at he
  · simp only [List.mem_cons, List.not_mem_nil, or_false] at he
    rcases he with rfl | rfl
    · exact ⟨.render, rfl⟩
    · exact ⟨.capture, rfl⟩
  · cases he

theorem init_sound (hinv : Inv log c) (roInitialized : Bool) :
    Justified (fun pre => Sound (log ++ pre)) (init c roInitialized).2 := by
  unfold init
  split
  · exact justified_nil
  · rename_i hcond
    obtain ⟨-, hinit, -⟩ : c.transport.lock = none ∧ c.initialized = false ∧ roInitialized = true := by
      simpa [and_assoc] using hcond
    have hdead := hinv.dead hinit
    rw [justified_append]
    constructor
    · simp [Sound, Proper, hdead, Lifetime.Event.live]
    · simp only [← List.append_assoc]
      have huses := attach_uses c.audioBuffer.isSome c.created
      apply (uses_sound_iff huses).mpr
      intro e he
      obtain ⟨d, rfl⟩ := huses e he
      exact (live_made hdead c.created (d, c.created)).mpr rfl

theorem init_inv (hinv : Inv log c) (roInitialized : Bool) :
    Inv (log ++ (init c roInitialized).2) (init c roInitialized).1 := by
  unfold init
  split
  · simpa using hinv
  · rename_i hcond
    obtain ⟨-, hinit, -⟩ : c.transport.lock = none ∧ c.initialized = false ∧ roInitialized = true := by
      simpa [and_assoc] using hcond
    have hdead := hinv.dead hinit
    refine ⟨create_inv.fresh, ?_, fun _ => ⟨_, rfl⟩, ?_, fun _ _ => rfl, by simp⟩
    · rintro k ⟨⟩
      exact Nat.lt_succ_self _
    · intro k
      rw [← List.append_assoc, live_stills, live_made hdead]
      · simp [eq_comm]
      · intro e he
        obtain ⟨d, rfl⟩ := attach_uses c.audioBuffer.isSome c.created e he
        exact useOf_still d _

/-- A helper that exists is deleted soundly if no thread of it runs. -/
theorem deleteHelper_sound_iff {d : Device} {k : Nat}
    (hlive : live (d, k) (objectLog log) = true) :
    Justified (fun pre => Sound (log ++ pre)) (deleteHelper c d k) ↔
      alive c.transport d = false := by
  unfold deleteHelper
  cases halive : alive c.transport d with
  | true => simp [Sound]
  | false => simp [Sound, Proper, hlive]

theorem live_deleteHelper (d : Device) (k : Nat) (j : Object) :
    live j (objectLog (log ++ deleteHelper c d k)) =
      (live j (objectLog log) && decide ((d, k) ≠ j)) := by
  unfold deleteHelper
  rw [← List.append_assoc, objectLog_helper, live_append_one, live_stills]
  · rfl
  · intro e he
    split at he
    · simp only [List.mem_cons, List.not_mem_nil, or_false] at he
      subst he
      rfl
    · cases he

theorem terminate_sound_iff (hinv : Inv log c) :
    Justified (fun pre => Sound (log ++ pre)) (terminate c).2 ↔ Admits c .terminate := by
  unfold terminate
  split
  · rename_i hcond
    simp only [justified_nil, true_iff]
    intro hinit hlock
    simp [hinit, hlock] at hcond
  · rename_i hcond
    obtain ⟨hlock, hinit⟩ : c.transport.lock = none ∧ c.initialized = true := by
      simpa using hcond
    obtain ⟨k, hk⟩ := hinv.pointers hinit
    have hlive : ∀ d, live (d, k) (objectLog log) = true :=
      fun d => (hinv.existing (d, k)).mpr ⟨hinit, hk⟩
    have hstill : live (.render, k) (objectLog (log ++ deleteHelper c .capture k)) = true := by
      simp [live_deleteHelper, hlive]
    have hboth : (∀ d, alive c.transport d = false) ↔
        alive c.transport .capture = false ∧ alive c.transport .render = false := by
      constructor
      · intro h
        exact ⟨h .capture, h .render⟩
      · rintro ⟨hcapture, hrender⟩ d
        cases d with
        | capture => exact hcapture
        | render => exact hrender
    simp only [hk, justified_append, ← List.append_assoc]
    rw [deleteHelper_sound_iff (hlive .capture), deleteHelper_sound_iff hstill]
    simp [Admits, hinit, hlock, hboth]

theorem terminate_inv (hinv : Inv log c) (hok : Admits c .terminate) :
    Inv (log ++ (terminate c).2) (terminate c).1 := by
  unfold terminate
  split
  · simpa using hinv
  · rename_i hcond
    obtain ⟨hlock, hinit⟩ : c.transport.lock = none ∧ c.initialized = true := by
      simpa using hcond
    obtain ⟨k, hk⟩ := hinv.pointers hinit
    refine ⟨hinv.fresh, hinv.made, by simp, ?_, by simp, ?_⟩
    · intro j
      simp only [hk, ← List.append_assoc, live_deleteHelper, Bool.false_eq_true, false_and,
        iff_false]
      intro hlive
      simp only [ne_eq, decide_not, Bool.and_eq_true, Bool.not_eq_true', decide_eq_false_iff_not] at hlive
      obtain ⟨⟨hbefore, hcapture⟩, hrender⟩ := hlive
      have hj := ((hinv.existing j).mp hbefore).2
      rw [hk] at hj
      obtain ⟨d, m⟩ := j
      simp only [Option.some.injEq] at hj
      subst hj
      cases d with
      | capture => exact hcapture rfl
      | render => exact hrender rfl
    · intro _ d
      exact (alive_eq_false_iff hinv.fresh d).mp (hok hinit hlock d)

theorem attachAudioBuffer_still (buffer : Option Nat) :
    ∀ e ∈ (attachAudioBuffer c buffer).2, e.isStill = true := by
  unfold attachAudioBuffer
  cases c.helpers with
  | none => simp
  | some k => cases buffer <;> simp [useOf, Event.isStill]

theorem attachAudioBuffer_sound_iff (hinv : Inv log c) (buffer : Option Nat) :
    Justified (fun pre => Sound (log ++ pre)) (attachAudioBuffer c buffer).2 ↔
      Admits c (.attachAudioBuffer buffer) := by
  rw [stills_sound_iff (attachAudioBuffer_still buffer)]
  have huse := hinv.use_iff
  unfold attachAudioBuffer
  cases hk : c.helpers with
  | none => simp [Admits, hk]
  | some k =>
    rw [hk] at huse
    cases buffer with
    | none => simp [Admits, hk, Sound]
    | some b => simp [Admits, hk, huse]

theorem attachAudioBuffer_inv (hinv : Inv log c) (buffer : Option Nat) :
    Inv (log ++ (attachAudioBuffer c buffer).2) (attachAudioBuffer c buffer).1 := by
  have hstill := attachAudioBuffer_still (c := c) buffer
  unfold attachAudioBuffer at hstill ⊢
  cases hk : c.helpers with
  | none =>
    simp only [hk] at hstill ⊢
    refine hinv.still {c with helpers := none, audioBuffer := buffer} hstill rfl hk.symm rfl
      hinv.fresh ?_ hinv.ended
    intro hinit
    obtain ⟨k, hk'⟩ := hinv.pointers hinit
    rw [hk] at hk'
    cases hk'
  | some k =>
    simp only [hk] at hstill ⊢
    exact hinv.still _ hstill rfl hk.symm rfl hinv.fresh (fun _ _ => rfl) hinv.ended

theorem threadUses_eq (d : Device) : ∀ e ∈ threadUses c d, ∃ f, e = useOf f c.helpers := by
  intro e he
  cases d with
  | capture =>
    simp only [threadUses, List.mem_cons, List.not_mem_nil, or_false] at he
    rcases he with rfl | rfl
    · exact ⟨.capture, rfl⟩
    · exact ⟨.render, rfl⟩
  | render =>
    simp only [threadUses, List.mem_cons, List.not_mem_nil, or_false] at he
    subst he
    exact ⟨.render, rfl⟩

theorem transportStep_uses (a : Transport.Action) :
    ∀ e ∈ (transportStep c a).2, ∃ d, e = useOf d c.helpers := by
  intro e he
  unfold transportStep at he
  dsimp only at he
  cases hrole : roleOf a with
  | api d =>
    simp only [hrole] at he
    split at he
    · cases he
    · exact ⟨d, by simpa using he⟩
  | thread d t =>
    simp only [hrole] at he
    split at he
    · cases he
    · exact threadUses_eq d e he
  | other =>
    simp only [hrole] at he
    cases he

/-- A thread only runs while the helpers exist. -/
theorem transportStep_sound_iff (hinv : Inv log c) (a : Transport.Action) :
    Justified (fun pre => Sound (log ++ pre)) (transportStep c a).2 ↔ Admits c (.transport a) := by
  have huses := transportStep_uses (c := c) a
  unfold transportStep at huses ⊢
  dsimp only at huses ⊢
  cases hrole : roleOf a with
  | api d =>
    simp only [hrole] at huses ⊢
    by_cases hlock : c.transport.lock.isSome = true
    · have hsome : c.transport.lock ≠ none := by
        intro hnone
        simp [hnone] at hlock
      simp [hlock, Admits, hrole, hsome]
    · have hnone : c.transport.lock = none := by simpa using hlock
      simp only [if_neg hlock] at huses ⊢
      rw [hinv.uses_iff (by simp) huses]
      simp [Admits, hrole, hnone]
  | thread d t =>
    simp only [hrole] at huses ⊢
    have hadmits : Admits c (.transport a) := by simp [Admits, hrole]
    simp only [hadmits, iff_true]
    by_cases hgone : c.transport.phase d t = .gone
    · simp [hgone]
    · simp only [if_neg hgone] at huses ⊢
      apply (hinv.uses_iff ?_ huses).mpr
      · by_contra hinit
        exact hgone (hinv.ended (by simpa using hinit) d t)
      · cases d <;> simp [threadUses]
  | other => simp [Admits, hrole]

theorem transportStep_inv (hinv : Inv log c) (a : Transport.Action) :
    Inv (log ++ (transportStep c a).2) (transportStep c a).1 := by
  have hstill : ∀ e ∈ (transportStep c a).2, e.isStill = true := by
    intro e he
    obtain ⟨d, rfl⟩ := transportStep_uses a e he
    exact useOf_still d _
  -- a thread begins in a call, which does nothing to the threads once the helpers are deleted
  have hnext : roleOf a = .other ∨ (∃ d t, roleOf a = .thread d t) ∨ c.initialized = true →
      Inv (log ++ (transportStep c a).2) {c with transport := (Transport.step c.transport a).1} := by
    intro hrole
    refine hinv.still {c with transport := (Transport.step c.transport a).1} hstill rfl rfl
      rfl (step_fresh hinv.fresh a) hinv.attached ?_
    intro hinit d t
    apply (step_onward c.transport ?_).stays d t (hinv.ended hinit d t)
    rintro e created rfl
    have hnot : c.initialized ≠ true := by simpa using hinit
    simp [roleOf, hnot] at hrole
  have hsame : (transportStep c a).1 = c → Inv (log ++ (transportStep c a).2) (transportStep c a).1 := by
    intro hc
    rw [hc]
    exact hinv.still _ hstill rfl rfl rfl hinv.fresh hinv.attached hinv.ended
  cases hrole : roleOf a with
  | api d =>
    by_cases hlock : c.transport.lock.isSome = true
    · exact hsame (by simp [transportStep, hrole, hlock])
    · cases hinit : c.initialized with
      | true => simpa [transportStep, hrole, hlock, hinit] using hnext (.inr (.inr hinit))
      | false => exact hsame (by simp [transportStep, hrole, hlock, hinit])
  | thread d t => simpa [transportStep, hrole] using hnext (.inr (.inl ⟨d, t, hrole⟩))
  | other => simpa [transportStep, hrole] using hnext (.inl hrole)

theorem step_sound_iff (hinv : Inv log c) (a : Action) :
    Justified (fun pre => Sound (log ++ pre)) (step c a).2 ↔ Admits c a := by
  cases a with
  | init roInitialized => simpa [Admits, step] using init_sound hinv roInitialized
  | terminate => exact terminate_sound_iff hinv
  | attachAudioBuffer buffer => exact attachAudioBuffer_sound_iff hinv buffer
  | call d =>
    apply hinv.uses_iff (by simp [step])
    intro e he
    exact ⟨d, by simpa [step] using he⟩
  | transport a => exact transportStep_sound_iff hinv a

theorem step_inv (hinv : Inv log c) {a : Action} (hok : Admits c a) :
    Inv (log ++ (step c a).2) (step c a).1 := by
  cases a with
  | init roInitialized => exact init_inv hinv roInitialized
  | terminate => exact terminate_inv hinv hok
  | attachAudioBuffer buffer => exact attachAudioBuffer_inv hinv buffer
  | call d =>
    exact hinv.still _ (by simp [step]) rfl rfl rfl hinv.fresh hinv.attached hinv.ended
  | transport a => exact transportStep_inv hinv a

end Steps

theorem proper_of_sound {log : List Event} (h : Justified Sound log) :
    Justified Proper (objectLog log) := by
  apply proper_objects
  intro pre e post hlog x hx
  have hsound := h pre e post hlog
  cases e with
  | helper y =>
    cases hx
    exact hsound
  | nullUsed => cases hx
  | deletedUnderThread k => cases hx

theorem sound_and_inv {actions : List Action} (hok : Along step (fun _ => Admits) [] create actions) :
    Inv (run step create actions).2 (run step create actions).1 :=
  run_invariant step Inv (fun _ _ _ hinv hadmits => step_inv hinv hadmits) create_inv hok

theorem sound_iff_admits (actions : List Action) :
    Justified Sound (run step create actions).2 ↔
      Along step (fun _ => Admits) [] create actions :=
  justified_run_iff step Inv (fun _ _ a hinv => step_sound_iff hinv a)
    (fun _ _ _ hinv hok => step_inv hinv hok) create_inv actions

/-- The helpers are only used while they exist, with no null audio buffer, and not deleted under a
thread, just if every call comes between `Init` and `Terminate`, `Terminate` after the threads, and
an `AttachAudioBuffer` with a buffer; then every helper was deleted once but for those of an `Init`
without a `Terminate`, which have the attached audio buffer. -/
theorem helpers_used_while_existing (actions : List Action) :
    let (core, log) := run step create actions
    (Justified Sound log ↔ Along step (fun _ => Admits) [] create actions) ∧
      (Justified Sound log →
        (∀ k, (objectLog log).count (.free k) +
          (if core.initialized = true ∧ core.helpers = some k.2 then 1 else 0) =
            (objectLog log).count (.acquire k)) ∧
        (core.initialized = true → ∀ d, core.attached d = core.audioBuffer)) := by
  refine ⟨sound_iff_admits actions, ?_⟩
  intro hsound
  have hinv := sound_and_inv ((sound_iff_admits actions).mp hsound)
  refine ⟨?_, hinv.attached⟩
  intro k
  rw [← frees_add_live (proper_of_sound hsound) k]
  congr 1
  have hexists := hinv.existing k
  split
  · rename_i hlive
    simp [hexists.mpr hlive]
  · rename_i hdead
    have hnot : Lifetime.live k (objectLog (run step create actions).2) = false := by
      simpa using mt hexists.mp hdead
    simp [hnot]

end Soundness

section Orderly

/-- The calls come between `Init` and `Terminate`, `StopTransport` never meets a thread on its way to
the lock, and both devices are stopped when `Terminate` is called. -/
def Orderly (c : Core) : Action → Prop
  | .terminate => c.initialized = true → c.transport.lock = none →
      ∀ d, (c.transport.helpers d).transporting = false
  | .transport a => Admits c (.transport a) ∧ StopJoins.Safe c.transport a
  | a => Admits c a

variable {log : List Event} {c : Core}

/-- The threads of stopped devices have ended. -/
theorem admits_of_orderly (hinv : StopJoins.Inv c.transport) {a : Action} (hok : Orderly c a) :
    Admits c a := by
  cases a with
  | terminate =>
    intro hinit hlock d
    have hidle : c.transport.api = .idle := hinv.idle (by simp [hlock])
    simp only [alive, List.any_eq_false, decide_eq_true_eq, ne_eq, not_not]
    intro t _
    exact hinv.single.noneWhenStopped hidle d (hok hinit hlock d) t
  | transport a => exact hok.1
  | init roInitialized => exact hok
  | attachAudioBuffer buffer => exact hok
  | call d => exact hok

theorem step_stopJoins (hinv : StopJoins.Inv c.transport) {a : Action} (hok : Orderly c a) :
    StopJoins.Inv (step c a).1.transport := by
  cases a with
  | init roInitialized =>
    simp only [step, init]
    split
    · exact hinv
    · exact StopJoins.create_inv
  | terminate =>
    simp only [step, terminate]
    split
    · exact hinv
    · exact hinv
  | attachAudioBuffer buffer =>
    simp only [step, attachAudioBuffer]
    cases c.helpers with
    | none => exact hinv
    | some k => exact hinv
  | call d => exact hinv
  | transport a =>
    have hnext := StopJoins.step_inv hinv hok.2
    simp only [step, transportStep]
    cases roleOf a with
    | api d =>
      dsimp only
      split
      · exact hinv
      · split
        · exact hnext
        · exact hinv
    | thread d t => exact hnext
    | other => exact hnext

/-- Whoever stops both devices before `Terminate`, and calls nothing outside of `Init` and
`Terminate`, uses helpers that exist and deletes them after their threads. -/
theorem orderly_core_sound (actions : List Action)
    (hok : Along step (fun _ => Orderly) [] create actions) :
    Justified Sound (run step create actions).2 := by
  have hrun := run_invariant step
    (fun log c => Justified Sound log ∧ Inv log c ∧ StopJoins.Inv c.transport) ?_
    ⟨justified_nil, create_inv, StopJoins.create_inv⟩ hok
  · exact hrun.1
  · rintro log c a ⟨hsound, hinv, hjoins⟩ horderly
    have hadmits := admits_of_orderly hjoins horderly
    refine ⟨justified_append.mpr ⟨hsound, (step_sound_iff hinv a).mpr hadmits⟩,
      step_inv hinv hadmits, step_stopJoins hjoins horderly⟩

/-- A capture session with a packet. -/
def session : List Transport.Action :=
  StopJoins.started .capture ++ [.samplesReady .capture, .wake .capture 0, .takeLock .capture 0,
    .process .capture 0 .drained, .stopTransport .capture, .wake .capture 0, .finish .capture 0,
    .joined]

def captured : List Action :=
  [.init true, .attachAudioBuffer (some 0), .call .capture] ++ session.map .transport ++ [.terminate]

theorem captured_sound : Justified Sound (run step create captured).2 := by
  apply orderly_core_sound
  have hcalls : ∀ (c : Core) (a : Transport.Action), c.initialized = true →
      Admits c (.transport a) := fun _ _ hinit _ _ _ => hinit
  refine ⟨trivial, .inr ⟨rfl, by decide⟩, rfl, ⟨hcalls _ _ rfl, trivial⟩, ⟨hcalls _ _ rfl, trivial⟩,
    ⟨hcalls _ _ rfl, trivial⟩, ⟨hcalls _ _ rfl, trivial⟩, ⟨hcalls _ _ rfl, trivial⟩,
    ⟨hcalls _ _ rfl, trivial⟩, ⟨hcalls _ _ rfl, trivial⟩, ⟨hcalls _ _ rfl, trivial⟩,
    ⟨hcalls _ _ rfl, ?_⟩, ⟨hcalls _ _ rfl, trivial⟩, ⟨hcalls _ _ rfl, trivial⟩,
    ⟨hcalls _ _ rfl, trivial⟩, ?_, trivial⟩
  · rintro _ _ t ⟨⟩
    rfl
  · intro _ _ d
    cases d <;> rfl

end Orderly

end WeiRtcNative.Audio.CoreLifecycle
