import WeiRtcNative.Audio.Transport

/-!
# Stopped transport threads have ended

As long as `StopTransport` meets a thread that will look at the shutdown event before
it needs the lock, the wait ends with the thread, so that a device never has two
threads and none while it is not transporting.
-/

namespace WeiRtcNative.Audio.StopJoins

open Machine Transport
set_option autoImplicit false

/-- Every `StopTransport` that waited for a thread returned after its end. -/
def Joined (log : List Event) : Prop :=
  ∀ d t exited code, .stopReturned d (some (t, exited)) code ∈ log → exited = true

structure Single (sys : System) : Prop where
  atMostOne : ∀ d t u, sys.phase d t ≠ .gone → sys.phase d u ≠ .gone → t = u
  noneWhenStopped : sys.api = .idle → ∀ d, (sys.helpers d).transporting = false →
    ∀ t, sys.phase d t = .gone

/-- `StopTransport` finds no thread on its way to the lock, and none gets there while it waits. -/
def Safe (sys : System) : Action → Prop
  | .stopTransport d =>
    sys.lock = none → (sys.helpers d).transporting = true →
      ∀ t, (sys.helpers d).hThread = some t → (sys.phase d t).needsLock = false
  | .startTimedOut =>
    ∀ d t, sys.api = .starting d t → (sys.helpers d).startedEvent = false →
      (sys.phase d t).needsLock = false
  | .startUp d t .fails => sys.phase d t = .starting → ∀ b, sys.api ≠ .stopping d t b
  | .waitFails d t => sys.phase d t = .waiting → ∀ b, sys.api ≠ .stopping d t b
  | _ => True

/-- The thread ends without the lock: it is past its loop or will find the shutdown event. -/
def Leaving (h : Helper) (t : Nat) : Prop :=
  match h.threads t with
  | .starting | .waiting => h.shutdownEvent = true
  | .stopping | .gone => True
  | _ => False

structure Inv (sys : System) : Prop where
  busy : sys.lock = some .api ↔ sys.api ≠ .idle
  holder : ∀ d t, (sys.phase d t).holdsLock = true → sys.lock = some (.thread d t)
  handle : ∀ d t, sys.phase d t ≠ .gone → (sys.helpers d).hThread = some t
  started : ∀ d, (sys.helpers d).transporting = false →
    (sys.helpers d).hThread = none ∨ ∃ t, sys.api = .starting d t
  starting : ∀ d t, sys.api = .starting d t → (sys.helpers d).hThread = some t
  stopping : ∀ d t b, sys.api = .stopping d t b →
    (sys.helpers d).hThread = some t ∧ Leaving (sys.helpers d) t

theorem Inv.single {sys : System} (hinv : Inv sys) : Single sys where
  atMostOne := by
    intro d t u ht hu
    exact Option.some.inj ((hinv.handle d t ht).symm.trans (hinv.handle d u hu))
  noneWhenStopped := by
    intro hidle d hstopped t
    by_contra halive
    have hthread := hinv.handle d t halive
    rcases hinv.started d hstopped with hnone | ⟨u, hu⟩
    · rw [hnone] at hthread
      cases hthread
    · rw [hidle] at hu
      cases hu

@[simp] theorem set_same (sys : System) (d : Device) (h : Helper) : (sys.set d h).helpers d = h := by
  simp [System.set]

theorem set_other (sys : System) {d e : Device} (hne : e ≠ d) (h : Helper) :
    (sys.set d h).helpers e = sys.helpers e := by
  simp [System.set, Function.update_of_ne hne]

@[simp] theorem set_api (sys : System) (d : Device) (h : Helper) : (sys.set d h).api = sys.api := rfl

/-- A step of the thread `t` of device `d`, which may take or give back the lock. -/
structure Moves (sys : System) (d : Device) (t : Nat) (h : Helper) (lock : Option Owner) : Prop where
  alive : sys.phase d t ≠ .gone
  others : ∀ u, u ≠ t → h.threads u = sys.phase d u
  handle : h.hThread = (sys.helpers d).hThread
  transporting : h.transporting = (sys.helpers d).transporting
  lock : lock = sys.lock ∧ (h.threads t).holdsLock = false ∧ (sys.phase d t).holdsLock = false ∨
    sys.lock = none ∧ lock = some (.thread d t) ∨
    sys.lock = some (.thread d t) ∧ lock = none ∧ (h.threads t).holdsLock = false
  leaving : ∀ b, sys.api = .stopping d t b → Leaving h t

theorem Moves.inv {sys : System} {d : Device} {t : Nat} {h : Helper} {lock : Option Owner}
    (hm : Moves sys d t h lock) (hinv : Inv sys) : Inv {sys.set d h with lock := lock} where
  busy := by
    have hbusy := hinv.busy
    rcases hm.lock with ⟨rfl, -, -⟩ | ⟨hfree, rfl⟩ | ⟨hheld, rfl, -⟩
    · exact hbusy
    · rw [hfree] at hbusy
      simpa using hbusy
    · rw [hheld] at hbusy
      simpa using hbusy
  holder := by
    intro e u hu
    by_cases he : e = d
    · subst he
      simp only [System.phase, set_same] at hu
      by_cases hut : u = t
      · subst hut
        rcases hm.lock with ⟨-, hno, -⟩ | ⟨-, hlock⟩ | ⟨-, -, hno⟩
        · simp [hno] at hu
        · exact hlock
        · simp [hno] at hu
      · rw [hm.others u hut] at hu
        have halive : sys.phase e u ≠ .gone := by
          intro hgone
          simp [hgone, Phase.holdsLock] at hu
        have hsame := (hinv.handle e u halive).symm.trans (hinv.handle e t hm.alive)
        exact absurd (Option.some.inj hsame) hut
    · simp only [System.phase, set_other sys he] at hu
      have hother := hinv.holder e u hu
      rcases hm.lock with ⟨rfl, -, -⟩ | ⟨hfree, -⟩ | ⟨hheld, -, -⟩
      · exact hother
      · rw [hfree] at hother
        cases hother
      · rw [hheld] at hother
        simp only [Option.some.injEq, Owner.thread.injEq] at hother
        exact absurd hother.1.symm he
  handle := by
    intro e u hu
    by_cases he : e = d
    · subst he
      simp only [System.phase, set_same] at hu ⊢
      rw [hm.handle]
      by_cases hut : u = t
      · subst hut
        exact hinv.handle e u hm.alive
      · rw [hm.others u hut] at hu
        exact hinv.handle e u hu
    · simp only [System.phase, set_other sys he] at hu ⊢
      exact hinv.handle e u hu
  started := by
    intro e hstopped
    by_cases he : e = d
    · subst he
      simp only [set_same] at hstopped ⊢
      rw [hm.transporting] at hstopped
      rw [hm.handle]
      exact hinv.started e hstopped
    · simp only [set_other sys he] at hstopped ⊢
      exact hinv.started e hstopped
  starting := by
    intro e u hapi
    by_cases he : e = d
    · subst he
      simp only [set_same]
      rw [hm.handle]
      exact hinv.starting e u hapi
    · simp only [set_other sys he]
      exact hinv.starting e u hapi
  stopping := by
    intro e u b hapi
    obtain ⟨hthread, hleaving⟩ := hinv.stopping e u b hapi
    by_cases he : e = d
    · subst he
      simp only [set_same]
      have hut : u = t := Option.some.inj (hthread.symm.trans (hinv.handle e t hm.alive))
      subst hut
      exact ⟨hm.handle.trans hthread, hm.leaving b hapi⟩
    · simp only [set_other sys he]
      exact ⟨hthread, hleaving⟩

theorem setPhase_others (h : Helper) (t : Nat) (p : Phase) :
    ∀ u, u ≠ t → (h.setPhase t p).threads u = h.threads u := by
  intro u hu
  simp [Helper.setPhase, Function.update_of_ne hu]

@[simp] theorem setPhase_same (h : Helper) (t : Nat) (p : Phase) : (h.setPhase t p).threads t = p := by
  simp [Helper.setPhase]

theorem unlocked_inv {sys : System} (hinv : Inv sys) {d : Device} {t : Nat} {h : Helper} (p : Phase)
    (halive : sys.phase d t ≠ .gone) (hbefore : (sys.phase d t).holdsLock = false)
    (hthreads : h.threads = ((sys.helpers d).setPhase t p).threads)
    (hhandle : h.hThread = (sys.helpers d).hThread)
    (htrans : h.transporting = (sys.helpers d).transporting) (hp : p.holdsLock = false)
    (hleaving : ∀ b, sys.api = .stopping d t b → Leaving h t) : Inv (sys.set d h) := by
  have hmoves : Moves sys d t h sys.lock := by
    refine ⟨halive, ?_, hhandle, htrans, .inl ⟨rfl, ?_, hbefore⟩, hleaving⟩
    · rw [hthreads]
      exact setPhase_others _ t p
    · rw [hthreads, setPhase_same]
      exact hp
  exact hmoves.inv hinv

theorem startUp_inv {sys : System} (hinv : Inv sys) {d : Device} {t : Nat} {result : StartUp}
    (hok : Safe sys (.startUp d t result)) : Inv (startUp sys d t result) := by
  unfold startUp
  split
  · rename_i hphase
    have halive : sys.phase d t ≠ .gone := by simp [hphase]
    have hbefore : (sys.phase d t).holdsLock = false := by simp [hphase, Phase.holdsLock]
    cases result with
    | returns =>
      refine unlocked_inv hinv .gone halive hbefore rfl rfl rfl rfl ?_
      intro b _
      simp [Leaving]
    | fails =>
      refine unlocked_inv hinv .premature halive hbefore rfl rfl rfl rfl ?_
      intro b hapi
      exact absurd hapi (hok hphase b)
    | succeeds =>
      refine unlocked_inv hinv .waiting halive hbefore rfl rfl rfl rfl ?_
      intro b hapi
      have hleaving := (hinv.stopping d t b hapi).2
      simp only [Leaving, System.phase] at hleaving hphase
      rw [hphase] at hleaving
      simpa [Leaving, Helper.setPhase] using hleaving
  · exact hinv

/-- A waiting thread that `StopTransport` waits for finds the shutdown event. -/
theorem Inv.signalled {sys : System} (hinv : Inv sys) {d : Device} {t : Nat} {b : Bool}
    (hapi : sys.api = .stopping d t b) (hphase : sys.phase d t = .waiting) :
    (sys.helpers d).shutdownEvent = true := by
  have hleaving := (hinv.stopping d t b hapi).2
  simp only [Leaving, System.phase] at hleaving hphase
  rwa [hphase] at hleaving

theorem wake_inv {sys : System} (hinv : Inv sys) (d : Device) (t : Nat) : Inv (wake sys d t) := by
  unfold wake
  dsimp only
  split
  · rename_i hphase
    have halive : sys.phase d t ≠ .gone := by simp [hphase]
    have hbefore : (sys.phase d t).holdsLock = false := by simp [hphase, Phase.holdsLock]
    split
    · refine unlocked_inv hinv .stopping halive hbefore rfl rfl rfl rfl ?_
      intro b _
      simp [Leaving]
    · rename_i hshutdown
      split
      · refine unlocked_inv hinv .wantsLock halive hbefore rfl rfl rfl rfl ?_
        intro b hapi
        exact absurd (hinv.signalled hapi hphase) hshutdown
      · exact hinv
  · exact hinv

theorem waitTimesOut_inv {sys : System} (hinv : Inv sys) (d : Device) (t : Nat) :
    Inv (waitTimesOut sys d t) := by
  unfold waitTimesOut
  dsimp only
  split
  · rename_i hcond
    obtain ⟨hphase, hshutdown, -⟩ := hcond
    refine unlocked_inv hinv .premature (by simp [hphase]) (by simp [hphase, Phase.holdsLock]) rfl rfl rfl rfl
      ?_
    intro b hapi
    exact absurd (hinv.signalled hapi hphase) (by simp [hshutdown])
  · exact hinv

theorem waitFails_inv {sys : System} (hinv : Inv sys) {d : Device} {t : Nat}
    (hok : Safe sys (.waitFails d t)) : Inv (waitFails sys d t) := by
  unfold waitFails
  split
  · rename_i hphase
    refine unlocked_inv hinv .premature (by simp [hphase]) (by simp [hphase, Phase.holdsLock]) rfl rfl rfl rfl
      ?_
    intro b hapi
    exact absurd hapi (hok hphase b)
  · exact hinv

theorem Inv.idle {sys : System} (hinv : Inv sys) (hlock : sys.lock ≠ some .api) :
    sys.api = .idle := by
  by_contra hbusy
  exact hlock (hinv.busy.mpr hbusy)

theorem takeLock_inv {sys : System} (hinv : Inv sys) (d : Device) (t : Nat) :
    Inv (takeLock sys d t) := by
  unfold takeLock
  split
  · exact hinv
  · rename_i hfree
    have hnone : sys.lock = none := by simpa using hfree
    have hidle := hinv.idle (by simp [hnone])
    have hmoves : ∀ p, sys.phase d t ≠ .gone →
        Moves sys d t ((sys.helpers d).setPhase t p) (some (.thread d t)) := by
      intro p halive
      refine ⟨halive, setPhase_others _ t p, rfl, rfl, .inr (.inl ⟨hnone, rfl⟩), ?_⟩
      intro b hapi
      rw [hidle] at hapi
      cases hapi
    split
    · rename_i hphase
      exact (hmoves _ (by simp [hphase])).inv hinv
    · rename_i hphase
      exact (hmoves _ (by simp [hphase])).inv hinv
    · exact hinv

/-- A step of the thread that holds the lock, at whose end it is free. -/
theorem unlock_inv {sys : System} (hinv : Inv sys) {d : Device} {t : Nat} (p : Phase)
    (hphase : (sys.phase d t).holdsLock = true) (hp : p.holdsLock = false) :
    Inv {sys.setPhase d t p with lock := none} := by
  have hlock := hinv.holder d t hphase
  have hidle := hinv.idle (by simp [hlock])
  have halive : sys.phase d t ≠ .gone := by
    intro hgone
    simp [hgone, Phase.holdsLock] at hphase
  have hmoves : Moves sys d t ((sys.helpers d).setPhase t p) none := by
    refine ⟨halive, setPhase_others _ t p, rfl, rfl, .inr (.inr ⟨hlock, rfl, ?_⟩), ?_⟩
    · simpa using hp
    · intro b hapi
      rw [hidle] at hapi
      cases hapi
  exact hmoves.inv hinv

theorem process_inv {sys : System} (hinv : Inv sys) (d : Device) (t : Nat) (result : Processed) :
    Inv (process sys d t result) := by
  unfold process
  split
  · rename_i hphase
    cases result <;> exact unlock_inv hinv _ (by simp [hphase, Phase.holdsLock]) rfl
  · exact hinv

theorem finish_inv {sys : System} (hinv : Inv sys) (d : Device) (t : Nat) :
    Inv (finish sys d t) := by
  unfold finish
  split
  · rename_i hphase
    refine unlocked_inv hinv .gone (by simp [hphase]) (by simp [hphase, Phase.holdsLock]) rfl rfl rfl rfl
      ?_
    intro b _
    simp [Leaving]
  · rename_i hphase
    exact unlock_inv hinv _ (by simp [hphase, Phase.holdsLock]) rfl
  · exact hinv

theorem flags_inv {sys : System} (hinv : Inv sys) {d : Device} {h : Helper}
    (hthreads : h.threads = (sys.helpers d).threads)
    (hhandle : h.hThread = (sys.helpers d).hThread)
    (htrans : h.transporting = (sys.helpers d).transporting)
    (hevent : h.shutdownEvent = (sys.helpers d).shutdownEvent) : Inv (sys.set d h) := by
  have hphase : ∀ e t, (sys.set d h).phase e t = sys.phase e t := by
    intro e t
    by_cases he : e = d
    · subst he
      simp [System.phase, hthreads]
    · simp [System.phase, set_other sys he]
  have hsame : ∀ e, ((sys.set d h).helpers e).hThread = (sys.helpers e).hThread ∧
      ((sys.set d h).helpers e).transporting = (sys.helpers e).transporting ∧
      ∀ t, Leaving ((sys.set d h).helpers e) t ↔ Leaving (sys.helpers e) t := by
    intro e
    by_cases he : e = d
    · subst he
      simp [hhandle, htrans, Leaving, hthreads, hevent]
    · simp [set_other sys he]
  refine ⟨hinv.busy, ?_, ?_, ?_, ?_, ?_⟩
  · intro e t ht
    rw [hphase] at ht
    exact hinv.holder e t ht
  · intro e t ht
    rw [hphase] at ht
    exact (hsame e).1.trans (hinv.handle e t ht)
  · intro e he
    rw [(hsame e).2.1] at he
    rw [(hsame e).1]
    exact hinv.started e he
  · intro e t hapi
    exact (hsame e).1.trans (hinv.starting e t hapi)
  · intro e t b hapi
    obtain ⟨hthread, hleaving⟩ := hinv.stopping e t b hapi
    exact ⟨(hsame e).1.trans hthread, ((hsame e).2.2 t).mpr hleaving⟩

theorem Inv.unheld {sys : System} (hinv : Inv sys) (hlock : sys.lock = none ∨ sys.lock = some .api)
    (d : Device) (t : Nat) : (sys.phase d t).holdsLock = false := by
  by_contra hholds
  have hthread := hinv.holder d t (by simpa using hholds)
  rcases hlock with hlock | hlock
  all_goals
    rw [hlock] at hthread
    cases hthread

/-- What a step of an API call on device `d` leaves behind on that device. -/
structure Calls (d : Device) (h : Helper) (lock : Option Owner) (api : Api) : Prop where
  busy : lock = some .api ↔ api ≠ .idle
  unheld : ∀ t, (h.threads t).holdsLock = false
  handle : ∀ t, h.threads t ≠ .gone → h.hThread = some t
  started : h.transporting = false → h.hThread = none ∨ ∃ t, api = .starting d t
  starting : ∀ e t, api = .starting e t → e = d ∧ h.hThread = some t
  stopping : ∀ e t b, api = .stopping e t b → e = d ∧ h.hThread = some t ∧ Leaving h t

theorem Calls.inv {sys : System} {d : Device} {h : Helper} {lock : Option Owner} {api : Api}
    (hc : Calls d h lock api) (hinv : Inv sys) (hlock : sys.lock = none ∨ sys.lock = some .api)
    (hown : ∀ e t, sys.api = .starting e t → e = d) :
    Inv ({sys with lock := lock, api := api}.set d h) where
  busy := hc.busy
  holder := by
    intro e t ht
    by_cases he : e = d
    · subst he
      simp only [System.phase, set_same] at ht
      simp [hc.unheld t] at ht
    · simp only [System.phase, set_other _ he] at ht
      have hunheld := hinv.unheld hlock e t
      simp [System.phase, ht] at hunheld
  handle := by
    intro e t ht
    by_cases he : e = d
    · subst he
      simp only [System.phase, set_same] at ht ⊢
      exact hc.handle t ht
    · simp only [System.phase, set_other _ he] at ht ⊢
      exact hinv.handle e t ht
  started := by
    intro e hstopped
    by_cases he : e = d
    · subst he
      simp only [set_same] at hstopped ⊢
      exact hc.started hstopped
    · simp only [set_other _ he] at hstopped ⊢
      rcases hinv.started e hstopped with hnone | ⟨t, ht⟩
      · exact .inl hnone
      · exact absurd (hown e t ht) he
  starting := by
    intro e t hapi
    obtain ⟨rfl, hthread⟩ := hc.starting e t hapi
    simpa using hthread
  stopping := by
    intro e t b hapi
    obtain ⟨rfl, hthread, hleaving⟩ := hc.stopping e t b hapi
    simpa using ⟨hthread, hleaving⟩

theorem startTransport_inv {sys : System} (hinv : Inv sys) (d : Device) (created : Bool) :
    Inv (startTransport sys d created).1 := by
  unfold startTransport
  dsimp only
  split
  · exact hinv
  split
  · exact hinv
  split
  · exact hinv
  split
  · exact hinv
  split
  · exact hinv
  rename_i hfree _ hnothread _ _
  have hnone : sys.lock = none := by simpa using hfree
  have hidle := hinv.idle (by simp [hnone])
  have hgone : ∀ t, (sys.helpers d).threads t = .gone := by
    intro t
    by_contra halive
    have hsome := hinv.handle d t halive
    simp [hsome] at hnothread
  refine Calls.inv ⟨by simp, ?_, ?_, ?_, ?_, by simp⟩ hinv (.inl hnone) (by simp [hidle])
  · intro t
    by_cases ht : t = (sys.helpers d).created
    · subst ht
      simp [Phase.holdsLock]
    · simp [setPhase_others _ _ _ t ht, hgone t, Phase.holdsLock]
  · intro t halive
    by_cases ht : t = (sys.helpers d).created
    · rw [ht]
    · simp [setPhase_others _ _ _ t ht, hgone t] at halive
  · intro _
    exact .inr ⟨_, rfl⟩
  · rintro e t ⟨⟩
    exact ⟨rfl, rfl⟩

theorem startedInTime_inv {sys : System} (hinv : Inv sys) : Inv (startedInTime sys).1 := by
  unfold startedInTime
  split
  · rename_i d t hapi
    dsimp only
    split
    · have hlock : sys.lock = some .api := hinv.busy.mpr (by simp [hapi])
      refine Calls.inv ⟨by simp, hinv.unheld (.inr hlock) d, hinv.handle d, by simp, by simp,
        by simp⟩ hinv (.inr hlock) ?_
      intro e u hu
      rw [hapi] at hu
      cases hu
      rfl
    · exact hinv
  · exact hinv

/-- A thread that does not need the lock leaves once the shutdown event is set. -/
theorem leaving_of_signal {h : Helper} {t : Nat} (hneeds : (h.threads t).needsLock = false)
    (hholds : (h.threads t).holdsLock = false) (hevent : h.shutdownEvent = true) : Leaving h t := by
  unfold Leaving
  cases hphase : h.threads t <;> simp_all [Phase.needsLock, Phase.holdsLock]

theorem signalShutdown_inv {sys : System} (hinv : Inv sys) {d : Device} {t : Nat} (fromStart : Bool)
    (hlock : sys.lock = none ∨ sys.lock = some .api) (hown : ∀ e u, sys.api = .starting e u → e = d)
    (hthread : (sys.helpers d).hThread = some t) (hneeds : (sys.phase d t).needsLock = false) :
    Inv (signalShutdown sys d t fromStart) := by
  have hunheld := hinv.unheld hlock d
  refine Calls.inv ⟨by simp, hunheld, hinv.handle d, by simp, by simp, ?_⟩ hinv hlock hown
  rintro e u b ⟨⟩
  exact ⟨rfl, hthread, leaving_of_signal hneeds (hunheld t) rfl⟩

theorem startTimedOut_inv {sys : System} (hinv : Inv sys) (hok : Safe sys .startTimedOut) :
    Inv (startTimedOut sys).1 := by
  unfold startTimedOut
  split
  · rename_i d t hapi
    split
    · exact hinv
    · rename_i hevent
      have hneeds := hok d t hapi (by simpa using hevent)
      refine signalShutdown_inv hinv true (.inr (hinv.busy.mpr (by simp [hapi]))) ?_
        (hinv.starting d t hapi) hneeds
      intro e u hu
      rw [hapi] at hu
      cases hu
      rfl
  · exact hinv

theorem stopTransport_inv {sys : System} (hinv : Inv sys) {d : Device}
    (hok : Safe sys (.stopTransport d)) : Inv (stopTransport sys d).1 := by
  unfold stopTransport
  dsimp only
  split
  · exact hinv
  · rename_i hfree
    have hnone : sys.lock = none := by simpa using hfree
    have hidle := hinv.idle (by simp [hnone])
    split
    · exact hinv
    · rename_i htrans
      split
      · rename_i hthread
        refine Calls.inv ⟨?_, hinv.unheld (.inl hnone) d, hinv.handle d, fun _ => .inl hthread,
          ?_, ?_⟩ hinv (.inl hnone) (by simp [hidle])
        · simp [hnone, hidle]
        · simp [hidle]
        · simp [hidle]
      · rename_i t hthread
        exact signalShutdown_inv hinv false (.inl hnone) (by simp [hidle]) hthread
          (hok hnone (by simpa using htrans) t hthread)

theorem joined_inv {sys : System} (hinv : Inv sys) : Inv (joined sys).1 := by
  unfold joined
  split
  · rename_i d t fromStart hapi
    split
    · rename_i hgone
      have hlock : sys.lock = some .api := hinv.busy.mpr (by simp [hapi])
      have hthread := (hinv.stopping d t fromStart hapi).1
      refine Calls.inv ⟨by simp, hinv.unheld (.inr hlock) d, ?_, fun _ => .inl rfl, by simp,
        by simp⟩ hinv (.inr hlock) (by simp [hapi])
      intro u halive
      have hu := hinv.handle d u halive
      rw [hthread] at hu
      cases hu
      exact absurd hgone halive
    · exact hinv
  · exact hinv

/-- The wait of `StopTransport` does not expire: the thread it waits for is leaving. -/
theorem joinTimedOut_eq {sys : System} (hinv : Inv sys) : joinTimedOut sys = (sys, []) := by
  unfold joinTimedOut
  split
  · rename_i d t fromStart hapi
    have hleaving := (hinv.stopping d t fromStart hapi).2
    unfold Leaving at hleaving
    cases hphase : sys.phase d t <;> simp_all [System.phase, Phase.needsLock]
  · rfl

theorem step_inv {sys : System} {a : Action} (hinv : Inv sys) (hok : Safe sys a) :
    Inv (step sys a).1 := by
  cases a with
  | initTransport d succeeds =>
    simp only [step, initTransport]
    split
    · exact flags_inv hinv rfl rfl rfl rfl
    · exact hinv
  | startTransport d created => exact startTransport_inv hinv d created
  | startedInTime => exact startedInTime_inv hinv
  | startTimedOut => exact startTimedOut_inv hinv hok
  | stopTransport d => exact stopTransport_inv hinv hok
  | joined => exact joined_inv hinv
  | joinTimedOut =>
    simp only [step, joinTimedOut_eq hinv]
    exact hinv
  | samplesReady d => exact flags_inv hinv rfl rfl rfl rfl
  | startUp d t result => exact startUp_inv hinv hok
  | wake d t => exact wake_inv hinv d t
  | waitTimesOut d t => exact waitTimesOut_inv hinv d t
  | waitFails d t => exact waitFails_inv hinv hok
  | takeLock d t => exact takeLock_inv hinv d t
  | process d t result => exact process_inv hinv d t result
  | finish d t => exact finish_inv hinv d t

def isTimeout : Event → Bool
  | .stopReturned _ (some (_, exited)) _ => !exited
  | _ => false

theorem step_no_timeout {sys : System} (hinv : Inv sys) (a : Action) :
    (step sys a).2.any isTimeout = false := by
  cases a with
  | startTransport d created =>
    simp only [step, startTransport]
    repeat' split
    all_goals rfl
  | startedInTime =>
    simp only [step, startedInTime]
    repeat' split
    all_goals rfl
  | startTimedOut =>
    simp only [step, startTimedOut]
    repeat' split
    all_goals rfl
  | stopTransport d =>
    simp only [step, stopTransport]
    repeat' split
    all_goals rfl
  | joined =>
    simp only [step, joined]
    split
    · rename_i d t fromStart hapi
      split
      · cases fromStart <;> rfl
      · rfl
    · rfl
  | joinTimedOut => simp [step, joinTimedOut_eq hinv]
  | _ => rfl

theorem Joined.append {log evs : List Event} (h : Joined log) (hevs : evs.any isTimeout = false) :
    Joined (log ++ evs) := by
  intro d t exited code hmem
  rcases List.mem_append.mp hmem with hmem | hmem
  · exact h d t exited code hmem
  · have hevent := List.any_eq_false.mp hevs _ hmem
    simpa [isTimeout] using hevent

theorem create_inv : Inv System.create where
  busy := by simp [System.create]
  holder := by simp [System.create, System.phase, Helper.create, Phase.holdsLock]
  handle := by simp [System.create, System.phase, Helper.create]
  started := by simp [System.create, Helper.create]
  starting := by simp [System.create]
  stopping := by simp [System.create]

/-- In every run in which `StopTransport` meets no thread on its way to the lock, the threads it
stops have ended when it returns, and a device has one thread at most and none when stopped. -/
theorem stopped_threads_have_ended (actions : List Action)
    (hok : Along step (fun _ => Safe) [] System.create actions) :
    Joined (run step System.create actions).2 ∧ Single (run step System.create actions).1 := by
  have hrun := run_invariant step (fun log sys => Joined log ∧ Inv sys)
    (fun log sys a h hok => ⟨h.1.append (step_no_timeout h.2 a), step_inv h.2 hok⟩)
    ⟨by simp [Joined], create_inv⟩ hok
  exact ⟨hrun.1, hrun.2.single⟩

def started (d : Device) : List Action :=
  [.initTransport d true, .startTransport d true, .startUp d 0 .succeeds, .startedInTime]

/-- Capture and playout, with a packet processed and a second session. -/
def twoSessions : List Action :=
  started .capture ++ started .render ++
    [.samplesReady .capture, .wake .capture 0, .takeLock .capture 0, .process .capture 0 .drained,
      .stopTransport .capture, .wake .capture 0, .finish .capture 0, .joined,
      .startTransport .capture true, .startUp .capture 1 .succeeds, .startedInTime,
      .stopTransport .render, .wake .render 0, .finish .render 0, .joined]

theorem two_sessions_end :
    Joined (run step System.create twoSessions).2 ∧ Single (run step System.create twoSessions).1 := by
  apply stopped_threads_have_ended
  refine ⟨trivial, trivial, trivial, trivial, trivial, trivial, trivial, trivial,
    trivial, trivial, trivial, trivial, ?_, trivial, trivial, trivial,
    trivial, trivial, trivial, ?_, trivial, trivial, trivial, trivial⟩
  · rintro _ _ t ⟨⟩
    rfl
  · rintro _ _ t ⟨⟩
    rfl

/-- `StopTransport` comes between the wait for events and the lock; then a new start. -/
def stoppedBeforeLock : List Action :=
  started .capture ++ [.samplesReady .capture, .wake .capture 0, .stopTransport .capture,
    .joinTimedOut, .startTransport .capture true]

theorem stop_leaves_thread :
    ¬ Joined (run step System.create stoppedBeforeLock).2 ∧
      ¬ Single (run step System.create stoppedBeforeLock).1 := by
  constructor
  · intro h
    have hexited := h .capture 0 false (-1) (by decide)
    cases hexited
  · intro h
    have hsame := h.atMostOne .capture 0 1 (by decide) (by decide)
    cases hsame

end WeiRtcNative.Audio.StopJoins
