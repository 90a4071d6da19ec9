import WeiRtcNative.Lib.Lifetime

/-!
# Teardown of the sample application

`WebRtcSample` makes one `PeerConnectionFactory` and shares the pointer with the `PeerConnection` it
creates. `OnPeerConnectionDropped` deletes the factory each time a failed connection is reported and
clears neither pointer; the added tracks go through the pointer in the `PeerConnection`.
-/

namespace WeiRtcNative.WeiRtcApp

open Machine Lifetime
set_option autoImplicit false

inductive IceConnectionState where
  | new
  | checking
  | connected
  | completed
  | failed
  | disconnected
  | closed
  | max
  deriving DecidableEq, Repr

inductive VideoSourceType where
  | camera
  | desktop
  deriving DecidableEq, Repr

/-- The `WebRtcSample` with its `PeerConnection`; `factoryDeleted` is the state of the object behind
the two pointers. -/
structure WebRtcSample where
  factoryDeleted : Bool
  audioTracks : Nat
  videoTracks : List VideoSourceType
  destroyed : Bool
  deriving DecidableEq, Repr

/-- What happens to the factory. -/
abbrev Factory := Lifetime.Event Unit

/-- `_factory->CreateAudioTrack` and the list of tracks. -/
def addAudioTrack (s : WebRtcSample) : WebRtcSample × List Factory :=
  ({s with audioTracks := s.audioTracks + 1}, [.use ()])

/-- `PeerConnection::AddVideoTrack`. -/
def addVideoTrackOf (s : WebRtcSample) (type : VideoSourceType) : WebRtcSample × List Factory :=
  ({s with videoTracks := s.videoTracks ++ [type]}, [.use ()])

def addVideoTrack (s : WebRtcSample) : WebRtcSample × List Factory := addVideoTrackOf s .camera

def addDesktopTrack (s : WebRtcSample) : WebRtcSample × List Factory := addVideoTrackOf s .desktop

def startDesktopCaptuer (s : WebRtcSample) : WebRtcSample × List Factory := addDesktopTrack s

/-- `PeerConnection::Close` has an empty body. -/
def onPeerConnectionDropped (s : WebRtcSample) : WebRtcSample × List Factory :=
  ({s with factoryDeleted := true}, [.free ()])

def onStandardizedIceConnectionChange (s : WebRtcSample) (state : IceConnectionState) :
    WebRtcSample × List Factory :=
  if state = .failed then onPeerConnectionDropped s else (s, [])

/-- The destructor, which leaves the factory alone. -/
def destroy (s : WebRtcSample) : WebRtcSample × List Factory := ({s with destroyed := true}, [])

inductive Action where
  | iceConnectionChange (state : IceConnectionState)
  | startDesktopCaptuer
  | addDesktopTrack
  | addVideoTrack
  | addAudioTrack
  | destroy
  deriving DecidableEq, Repr

def step (s : WebRtcSample) (a : Action) : WebRtcSample × List Factory :=
  if s.destroyed then (s, [])
  else
    match a with
    | .iceConnectionChange state => onStandardizedIceConnectionChange s state
    | .startDesktopCaptuer => startDesktopCaptuer s
    | .addDesktopTrack => addDesktopTrack s
    | .addVideoTrack => addVideoTrack s
    | .addAudioTrack => addAudioTrack s
    | .destroy => destroy s

def init : WebRtcSample × List Factory :=
  let s : WebRtcSample := ⟨false, 0, [], false⟩
  let (s, audio) := addAudioTrack s
  let (s, desktop) := addDesktopTrack s
  (s, [.acquire (), .use ()] ++ audio ++ desktop)

/-- The actions that go to the factory. -/
def Action.reachesFactory : Action → Bool
  | .iceConnectionChange state => state = .failed
  | .startDesktopCaptuer | .addDesktopTrack | .addVideoTrack | .addAudioTrack => true
  | .destroy => false

/-- After a failed connection neither another one is reported nor a track added. -/
def Admits (s : WebRtcSample) (a : Action) : Prop :=
  s.destroyed = false → a.reachesFactory = true → s.factoryDeleted = false

/-- The whole life of the factory in a run after `Init`. -/
def factoryLog (actions : List Action) : List Factory := init.2 ++ (run step init.1 actions).2

structure Inv (log : List Factory) (s : WebRtcSample) : Prop where
  proper : Justified Proper log
  live : live () log = !s.factoryDeleted

theorem init_inv : Inv init.2 init.1 := by
  refine ⟨?_, rfl⟩
  simp [init, addAudioTrack, addDesktopTrack, addVideoTrackOf, Proper, Lifetime.live, Event.live]

/-- An action that reaches the factory frees or uses it once. -/
theorem step_cases (s : WebRtcSample) (a : Action) (hup : s.destroyed = false) :
    a.reachesFactory = false ∧ (step s a).2 = [] ∧
        (step s a).1.factoryDeleted = s.factoryDeleted ∨
      a.reachesFactory = true ∧ (step s a).2 = [.use ()] ∧
        (step s a).1.factoryDeleted = s.factoryDeleted ∨
      a.reachesFactory = true ∧ (step s a).2 = [.free ()] ∧
        (step s a).1.factoryDeleted = true := by
  cases a with
  | iceConnectionChange state =>
    by_cases hstate : state = .failed
    · simp [step, hup, Action.reachesFactory, onStandardizedIceConnectionChange, hstate,
        onPeerConnectionDropped]
    · simp [step, hup, Action.reachesFactory, onStandardizedIceConnectionChange, hstate]
  | destroy => simp [step, hup, Action.reachesFactory, destroy]
  | startDesktopCaptuer | addDesktopTrack | addVideoTrack | addAudioTrack =>
    refine .inr (.inl ⟨rfl, ?_⟩)
    simp [step, hup, startDesktopCaptuer, addDesktopTrack, addVideoTrack, addVideoTrackOf,
      addAudioTrack]

theorem step_proper_iff {log : List Factory} {s : WebRtcSample} (h : Inv log s) (a : Action) :
    Justified (fun pre => Proper (log ++ pre)) (step s a).2 ↔ Admits s a := by
  cases hup : s.destroyed with
  | true => simp [step, Admits, hup]
  | false =>
    rcases step_cases s a hup with ⟨hreaches, hlog, -⟩ | ⟨hreaches, hlog, -⟩ | ⟨hreaches, hlog, -⟩
    · simp [hlog, Admits, hreaches]
    · simp [hlog, Admits, hreaches, hup, Proper, h.live]
    · simp [hlog, Admits, hreaches, hup, Proper, h.live]

theorem step_inv {log : List Factory} {s : WebRtcSample} (h : Inv log s) {a : Action}
    (ha : Admits s a) : Inv (log ++ (step s a).2) (step s a).1 := by
  refine ⟨justified_append.mpr ⟨h.proper, (step_proper_iff h a).mpr ha⟩, ?_⟩
  cases hup : s.destroyed with
  | true => simp [step, hup, h.live]
  | false =>
    rcases step_cases s a hup with ⟨-, hlog, hkept⟩ | ⟨-, hlog, hkept⟩ | ⟨-, hlog, hdeleted⟩
    · rw [hlog, hkept, List.append_nil]
      exact h.live
    · rw [hlog, hkept, live_append_one]
      exact h.live
    · simp [hlog, hdeleted, Event.live]

theorem step_acquires (s : WebRtcSample) (a : Action) : .acquire () ∉ (step s a).2 := by
  cases hup : s.destroyed with
  | true => simp [step, hup]
  | false =>
    rcases step_cases s a hup with ⟨-, hlog, -⟩ | ⟨-, hlog, -⟩ | ⟨-, hlog, -⟩ <;> simp [hlog]

/-- The factory is made once, in `Init`. -/
theorem factoryLog_acquire (actions : List Action) : (factoryLog actions).count (.acquire ()) = 1 := by
  have hnone : .acquire () ∉ (run step init.1 actions).2 := by
    refine run_invariant step (fun log _ => .acquire () ∉ log) ?_ List.not_mem_nil
      (along_true step [] init.1 actions)
    intro log s a h _
    rw [List.mem_append, not_or]
    exact ⟨h, step_acquires s a⟩
  rw [factoryLog, List.count_append, List.count_eq_zero.mpr hnone]
  rfl

/-- In a run the factory is deleted at most once and not used after that, just when no failed
connection is followed by another one or by an added track. -/
theorem factory_proper_iff (actions : List Action) :
    (factoryLog actions).count (.free ()) ≤ 1 ∧ Justified Proper (factoryLog actions) ↔
      Along step (fun _ => Admits) init.2 init.1 actions := by
  have hexact := justified_run_iff_from step (P := Proper) Inv (fun _ _ a h => step_proper_iff h a)
    (fun _ _ _ h ha => step_inv h ha) init_inv actions
  rw [← hexact, factoryLog, justified_append]
  constructor
  · rintro ⟨-, -, hrun⟩
    exact hrun
  · intro hrun
    have hproper : Justified Proper (factoryLog actions) :=
      justified_append.mpr ⟨init_inv.proper, hrun⟩
    have hbalance := frees_add_live hproper ()
    rw [factoryLog_acquire] at hbalance
    refine ⟨?_, init_inv.proper, hrun⟩
    have hfrees : (factoryLog actions).count (.free ()) ≤ 1 := by omega
    exact hfrees

def failsTwice : List Action := [.iceConnectionChange .failed, .iceConnectionChange .failed]

theorem factory_deleted_twice :
    ¬ ((factoryLog failsTwice).count (.free ()) ≤ 1 ∧ Justified Proper (factoryLog failsTwice)) := by
  rintro ⟨honce, -⟩
  revert honce
  decide

end WeiRtcNative.WeiRtcApp
