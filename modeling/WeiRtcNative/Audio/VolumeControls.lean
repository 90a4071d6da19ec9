import WeiRtcNative.Audio.Activation

/-!
# Volume and mute controls

The methods of `AudioDeviceHelper` that use `_simpleAudioVolume` check `TransportIsInitialized` and
nothing else. `RenderDeviceInternal::InitTransport` asks for the interface before it sets
`_transportInitialized`; `CaptureDeviceInternal::InitTransport` does not.
-/

namespace WeiRtcNative.Audio.VolumeControls

open Machine Activation
set_option autoImplicit false

def MIN_CORE_SPEAKER_VOLUME : UInt32 := 0
def MAX_CORE_SPEAKER_VOLUME : UInt32 := 100

/-- What a call of `_simpleAudioVolume` answers: its level times `MAX_CORE_SPEAKER_VOLUME` and
whether it is muted. -/
structure VolumeAnswer where
  succeeded : Bool
  level : UInt32
  mute : Bool
  deriving DecidableEq, Repr

/-- The value a method gives back by reference. -/
inductive Out where
  | flag (value : Bool)
  | level (value : UInt32)
  deriving DecidableEq, Repr

inductive Outcome where
  | returned (code : Int) (out : Option Out)
  | nullUsed
  deriving DecidableEq, Repr

section Methods
variable {Device : Type}

/-- A method that uses `_simpleAudioVolume` once the transport is initialised and its argument, if
it has one, is in range. -/
def guarded (h : DeviceInternal Device) (inRange : Bool) (reply : Outcome) : Outcome :=
  if !h.transportInitialized then .returned (-1) none
  else if !inRange then .returned (-1) none
  else if !h.simpleAudioVolume then .nullUsed
  else reply

def resultOf (a : VolumeAnswer) (out : Option Out) : Outcome :=
  if a.succeeded then .returned 0 out else .returned (-1) none

def volumeIsAvailable (h : DeviceInternal Device) (a : VolumeAnswer) : Outcome :=
  guarded h true (.returned 0 (some (.flag a.succeeded)))

def setVolume (h : DeviceInternal Device) (volume : UInt32) (a : VolumeAnswer) : Outcome :=
  guarded h (!(volume < MIN_CORE_SPEAKER_VOLUME || MAX_CORE_SPEAKER_VOLUME < volume))
    (resultOf a none)

def volume (h : DeviceInternal Device) (a : VolumeAnswer) : Outcome :=
  guarded h true (resultOf a (some (.level a.level)))

def volumeBound (h : DeviceInternal Device) (bound : UInt32) : Outcome :=
  if !h.transportInitialized then .returned (-1) none
  else .returned 0 (some (.level bound))

def maxVolume (h : DeviceInternal Device) : Outcome := volumeBound h MAX_CORE_SPEAKER_VOLUME

def minVolume (h : DeviceInternal Device) : Outcome := volumeBound h MIN_CORE_SPEAKER_VOLUME

def muteIsAvailable (h : DeviceInternal Device) (a : VolumeAnswer) : Outcome :=
  guarded h true (.returned 0 (some (.flag a.succeeded)))

/-- The value to set goes to Windows only. -/
def setMute (h : DeviceInternal Device) (_enable : Bool) (a : VolumeAnswer) : Outcome :=
  guarded h true (resultOf a none)

def mute (h : DeviceInternal Device) (a : VolumeAnswer) : Outcome :=
  guarded h true (resultOf a (some (.flag a.mute)))

inductive Control where
  | volumeIsAvailable
  | setVolume (volume : UInt32)
  | volume
  | maxVolume
  | minVolume
  | muteIsAvailable
  | setMute (enable : Bool)
  | mute
  deriving DecidableEq, Repr

def control (h : DeviceInternal Device) (a : VolumeAnswer) : Control → Outcome
  | .volumeIsAvailable => volumeIsAvailable h a
  | .setVolume level => setVolume h level a
  | .volume => volume h a
  | .maxVolume => maxVolume h
  | .minVolume => minVolume h
  | .muteIsAvailable => muteIsAvailable h a
  | .setMute enable => setMute h enable a
  | .mute => mute h a

inductive PublicCall (Device : Type) where
  | device (c : Call Device)
  | control (c : Control) (a : VolumeAnswer)

/-- The device after a call, and whether a control used a null interface. -/
structure Entry (Device : Type) where
  after : DeviceInternal Device
  nullUsed : Bool
  deriving DecidableEq, Repr

def publicCall (kind : Kind) (h : DeviceInternal Device) :
    PublicCall Device → DeviceInternal Device × Bool
  | .device c => ((call kind h c).1, false)
  | .control c a =>
    if control h a c = .nullUsed then ({h with crashed := true}, true) else (h, false)

def step (kind : Kind) (h : DeviceInternal Device) (c : PublicCall Device) :
    DeviceInternal Device × List (Entry Device) :=
  if h.crashed then (h, [])
  else
    let (t, nullUsed) := publicCall kind h c
    (t, [⟨t, nullUsed⟩])

structure Ready (h : DeviceInternal Device) : Prop where
  audioClient : h.audioClient.isSome = true
  serviceClient : h.serviceClient = true
  simpleAudioVolume : h.simpleAudioVolume = true

structure Sound (e : Entry Device) : Prop where
  ready : e.after.transportInitialized = true → Ready e.after
  used : e.nullUsed = false

/-- No microphone opens its stream; and an `InitMixer` that replaces the client of an initialised
transport gets one. -/
def Admits (kind : Kind) (h : DeviceInternal Device) (c : PublicCall Device) : Prop :=
  h.crashed = false →
    match c with
    | .device (.initTransport a) =>
      kind = .capture → attempts kind h a = true →
        (h.mixerInitialized = true ∨
          deviceLost h a.toMixerAnswers = false ∧ clientHeld h a.toMixerAnswers = true) →
        served kind a = false
    | .device (.initMixer a) =>
      h.transportInitialized = true → h.mixerInitialized = false → h.transporting = false →
        h.deviceInformation.isSome = true → obtained h a = true → a.queryInterface = true
    | _ => True

end Methods

section Readiness
variable {Device : Type} {kind : Kind} {h : DeviceInternal Device}

structure Inv (kind : Kind) (h : DeviceInternal Device) : Prop where
  client : h.mixerInitialized = true → h.audioClient.isSome = true
  ready : h.transportInitialized = true → Ready h
  microphone : kind = .capture → h.simpleAudioVolume = false

theorem create_inv (kind : Kind) : Inv kind (create : DeviceInternal Device) := by
  refine ⟨?_, ?_, fun _ => rfl⟩
  all_goals
    intro hfalse
    cases hfalse

theorem Inv.keep {t : DeviceInternal Device} (hinv : Inv kind h) (hsame : Unchanged h t) :
    Inv kind t := by
  refine ⟨?_, ?_, ?_⟩
  · rw [hsame.mixer, hsame.audioClient]
    exact hinv.client
  · rw [hsame.transport]
    intro hinitialized
    obtain ⟨hclient, hservice, hvolume⟩ := hinv.ready hinitialized
    refine ⟨?_, ?_, ?_⟩
    · rw [hsame.audioClient]
      exact hclient
    · rw [hsame.serviceClient]
      exact hservice
    · rw [hsame.simpleAudioVolume]
      exact hvolume
  · rw [hsame.simpleAudioVolume]
    exact hinv.microphone

theorem Inv.crash (hinv : Inv kind h) : Inv kind {h with crashed := true} := by
  refine ⟨hinv.client, ?_, hinv.microphone⟩
  intro hinitialized
  obtain ⟨hclient, hservice, hvolume⟩ := hinv.ready hinitialized
  exact ⟨hclient, hservice, hvolume⟩

theorem Inv.sound (hinv : Inv kind h) : Sound ⟨h, false⟩ := ⟨hinv.ready, rfl⟩

theorem guarded_not_null (hinv : Inv kind h) (inRange : Bool) {reply : Outcome}
    (hreply : reply ≠ .nullUsed) : guarded h inRange reply ≠ .nullUsed := by
  unfold guarded
  split
  · simp
  · split
    · simp
    · rename_i hinitialized _
      have hvolume := (hinv.ready (by simpa using hinitialized)).simpleAudioVolume
      rw [if_neg (by simp [hvolume])]
      exact hreply

theorem resultOf_not_null (a : VolumeAnswer) (out : Option Out) : resultOf a out ≠ .nullUsed := by
  unfold resultOf
  split
  · simp
  · simp

theorem volumeBound_not_null (h : DeviceInternal Device) (bound : UInt32) :
    volumeBound h bound ≠ .nullUsed := by
  unfold volumeBound
  split
  · simp
  · simp

theorem control_not_null (hinv : Inv kind h) (a : VolumeAnswer) (c : Control) :
    control h a c ≠ .nullUsed := by
  cases c with
  | volumeIsAvailable => exact guarded_not_null hinv _ (by simp)
  | setVolume level => exact guarded_not_null hinv _ (resultOf_not_null a none)
  | volume => exact guarded_not_null hinv _ (resultOf_not_null a _)
  | maxVolume => exact volumeBound_not_null h _
  | minVolume => exact volumeBound_not_null h _
  | muteIsAvailable => exact guarded_not_null hinv _ (by simp)
  | setMute enable => exact guarded_not_null hinv _ (resultOf_not_null a none)
  | mute => exact guarded_not_null hinv _ (resultOf_not_null a _)

/-- An `InitMixer` that tries to activate a client, on a transport initialised or not. -/
theorem activates_ready_iff (hinv : Inv kind h) {a : MixerAnswers Device}
    {t : DeviceInternal Device} {code : Int} (hactivates : Activates h a t code) :
    (t.transportInitialized = true → Ready t) ↔
      (h.transportInitialized = true → obtained h a = true → a.queryInterface = true) := by
  rw [hactivates.same.initialized]
  refine imp_congr_right ?_
  intro hinitialized
  obtain ⟨hclient, hservice, hvolume⟩ := hinv.ready hinitialized
  constructor
  · intro hready hobtained
    have hheld := hready.audioClient
    rw [hactivates.client, clientHeld, if_pos hobtained] at hheld
    exact hheld
  · intro hquery
    refine ⟨?_, hactivates.same.serviceClient.trans hservice,
      hactivates.same.simpleAudioVolume.trans hvolume⟩
    rw [hactivates.client, clientHeld]
    split
    · rename_i hobtained
      exact hquery hobtained
    · exact hclient

theorem activates_inv (hinv : Inv kind h) {a : MixerAnswers Device} {t : DeviceInternal Device}
    {code : Int} (hactivates : Activates h a t code)
    (hready : t.transportInitialized = true → Ready t) : Inv kind t := by
  refine ⟨?_, hready, ?_⟩
  · rw [hactivates.mixer, hactivates.client]
    exact clientHeld_of_mixerSucceeds
  · rw [hactivates.same.simpleAudioVolume]
    exact hinv.microphone

theorem initMixer_sound_iff (hinv : Inv kind h) (hup : h.crashed = false)
    (a : MixerAnswers Device) :
    (Sound ⟨(initMixer h a).1, false⟩ ↔ Admits kind h (.device (.initMixer a))) ∧
      (Sound ⟨(initMixer h a).1, false⟩ → Inv kind (initMixer h a).1) := by
  have houtcome := initMixer_outcome h a
  generalize initMixer h a = m at houtcome
  cases houtcome with
  | idle hcode hidle =>
    refine ⟨iff_of_true hinv.sound ?_, fun _ => hinv⟩
    intro _ _ hmixer htransporting hdevice
    rcases hidle with hyes | hyes | hnone
    · rw [hmixer] at hyes
      cases hyes
    · rw [htransporting] at hyes
      cases hyes
    · rw [hnone] at hdevice
      cases hdevice
  | activated hmixer htransporting hdevice hactivates =>
    have hiff := activates_ready_iff hinv hactivates
    refine ⟨?_, fun hsound => activates_inv hinv hactivates hsound.ready⟩
    constructor
    · intro hsound
      have hquery := hiff.mp hsound.ready
      intro _ hinitialized _ _ _
      exact hquery hinitialized
    · intro hadmits
      refine ⟨hiff.mpr ?_, rfl⟩
      intro hinitialized
      exact hadmits hup hinitialized hmixer htransporting hdevice

theorem prepared_inv (hinv : Inv kind h) {a : MixerAnswers Device} {t : DeviceInternal Device}
    {code : Int} (hp : Prepared h a t code) (hclosed : h.transportInitialized = false) :
    Inv kind t := by
  refine ⟨?_, ?_, ?_⟩
  · rw [hp.mixer, hp.client, Bool.or_eq_true, Bool.or_eq_true]
    exact Or.imp_right clientHeld_of_mixerSucceeds
  · rw [hp.same.initialized, hclosed]
    intro hinitialized
    cases hinitialized
  · rw [hp.same.simpleAudioVolume]
    exact hinv.microphone

/-- The stream of a speaker comes with its volume, that of a microphone without one. -/
theorem opens_ready_iff (hinv : Inv kind h) (hclosed : h.transportInitialized = false)
    (hclient : h.audioClient.isSome = true) {a : TransportAnswers Device}
    {t : DeviceInternal Device} {code : Int} (hopens : Opens kind h a t code) :
    (t.transportInitialized = true → Ready t) ↔ (kind = .capture → served kind a = false) := by
  rw [hopens.initialized, hclosed, Bool.false_or]
  constructor
  · intro hready hcapture
    cases hserved : served kind a with
    | false => rfl
    | true =>
      have hvolume := (hready hserved).simpleAudioVolume
      rw [hopens.microphone hcapture, hinv.microphone hcapture] at hvolume
      cases hvolume
  · intro hcapture hserved
    obtain ⟨hservice, hvolume⟩ := hopens.services hserved
    refine ⟨?_, hservice, hvolume ?_⟩
    · rw [hopens.client]
      exact hclient
    · cases kind with
      | capture =>
        rw [hcapture rfl] at hserved
        cases hserved
      | render => rfl

theorem opens_inv (hinv : Inv kind h) {a : TransportAnswers Device} {t : DeviceInternal Device}
    {code : Int} (hopens : Opens kind h a t code)
    (hready : t.transportInitialized = true → Ready t) : Inv kind t := by
  refine ⟨?_, hready, ?_⟩
  · rw [hopens.mixer, hopens.client]
    exact hinv.client
  · intro hcapture
    rw [hopens.microphone hcapture]
    exact hinv.microphone hcapture

theorem initTransport_sound_iff (hinv : Inv kind h) (hup : h.crashed = false)
    (a : TransportAnswers Device) :
    (Sound ⟨(initTransport kind h a).1, false⟩ ↔ Admits kind h (.device (.initTransport a))) ∧
      (Sound ⟨(initTransport kind h a).1, false⟩ → Inv kind (initTransport kind h a).1) := by
  cases hattempts : attempts kind h a with
  | false =>
    obtain ⟨code, hresult, -⟩ := initTransport_idle hattempts
    rw [hresult]
    exact ⟨iff_of_true hinv.sound (by simp [Admits, hattempts]), fun _ => hinv⟩
  | true =>
    have hclosed : h.transportInitialized = false := by
      simp only [attempts, Bool.and_eq_true, Bool.not_eq_true'] at hattempts
      exact hattempts.1.1.2
    have ht := prepared_inv hinv (attempt_prepared hinv.client hattempts) hclosed
    have hsame := (attempt_prepared hinv.client hattempts).same.initialized.trans hclosed
    have houtcome := attempt_outcome hinv.client hattempts
    simp only [Admits, hup, hattempts, true_implies]
    generalize (initMixer h a.toMixerAnswers).1 = t at ht hsame houtcome
    generalize initTransport kind h a = r at houtcome
    cases houtcome with
    | lost hmixer hlost =>
      refine ⟨iff_of_true ht.sound ?_, fun _ => ht⟩
      intro _ hready
      simp [hmixer, hlost] at hready
    | crashed hmixer hlost hheld =>
      refine ⟨iff_of_true ht.crash.sound ?_, fun _ => ht.crash⟩
      intro _ hready
      simp [hmixer, hheld] at hready
    | opened hready hsome =>
      have hopens := openStream_opens kind t a
      have hiff := opens_ready_iff ht hsame hsome hopens
      refine ⟨?_, fun hsound => opens_inv ht hopens hsound.ready⟩
      constructor
      · intro hsound hcapture _
        exact hiff.mp hsound.ready hcapture
      · intro hadmits
        refine ⟨hiff.mpr ?_, rfl⟩
        intro hcapture
        exact hadmits hcapture hready

theorem unchanged_sound_iff (hinv : Inv kind h) {t : DeviceInternal Device}
    (hsame : Unchanged h t) {c : PublicCall Device} (hadmits : Admits kind h c) :
    (Sound ⟨t, false⟩ ↔ Admits kind h c) ∧ (Sound ⟨t, false⟩ → Inv kind t) := by
  have ht := hinv.keep hsame
  exact ⟨iff_of_true ht.sound hadmits, fun _ => ht⟩

/-- One call, and what a sound one leaves. -/
theorem publicCall_sound_iff (hinv : Inv kind h) (hup : h.crashed = false) (c : PublicCall Device) :
    (Sound ⟨(publicCall kind h c).1, (publicCall kind h c).2⟩ ↔ Admits kind h c) ∧
      (Sound ⟨(publicCall kind h c).1, (publicCall kind h c).2⟩ →
        Inv kind (publicCall kind h c).1) := by
  cases c with
  | device c =>
    cases c with
    | initTransport a => exact initTransport_sound_iff hinv hup a
    | initMixer a => exact initMixer_sound_iff hinv hup a
    | setDeviceIndex index a =>
      exact unchanged_sound_iff hinv (setDeviceIndex_unchanged h a index) (fun _ => trivial)
    | setDeviceType type a =>
      exact unchanged_sound_iff hinv (setDeviceType_unchanged h a type) (fun _ => trivial)
    | startTransport created started joined =>
      exact unchanged_sound_iff hinv (startTransport_unchanged h created started joined)
        (fun _ => trivial)
    | stopTransport joined =>
      exact unchanged_sound_iff hinv (stopTransport_unchanged h joined) (fun _ => trivial)
  | control c a =>
    have hcall : publicCall kind h (.control c a) = (h, false) := by
      unfold publicCall
      exact if_neg (control_not_null hinv a c)
    rw [hcall]
    exact ⟨iff_of_true hinv.sound (by simp [Admits]), fun _ => hinv⟩

theorem step_sound_iff (hinv : Inv kind h) (c : PublicCall Device) :
    ((∀ e ∈ (step kind h c).2, Sound e) ↔ Admits kind h c) ∧
      (Admits kind h c → Inv kind (step kind h c).1) := by
  by_cases hup : h.crashed = true
  · have hstep : step kind h c = (h, []) := by
      unfold step
      exact if_pos hup
    rw [hstep]
    refine ⟨iff_of_true (by simp) ?_, fun _ => hinv⟩
    intro hfalse
    rw [hup] at hfalse
    cases hfalse
  · have hstep : step kind h c =
        ((publicCall kind h c).1, [⟨(publicCall kind h c).1, (publicCall kind h c).2⟩]) := by
      unfold step
      exact if_neg hup
    obtain ⟨hiff, hkeep⟩ := publicCall_sound_iff hinv (by simpa using hup) c
    rw [hstep]
    exact ⟨by simpa using hiff, fun hadmits => hkeep (hiff.mpr hadmits)⟩

/-- In a run, an initialised transport has all its interfaces after every call and no control uses
a null one, just when no microphone opens its stream and no `InitMixer` loses the client of an
initialised transport. -/
theorem interfaces_held_iff (kind : Kind) (calls : List (PublicCall Device)) :
    (∀ e ∈ (run (step kind) create calls).2, Sound e) ↔
      Along (step kind) (fun _ => Admits kind) [] create calls := by
  apply forall_log_iff_along (step kind) (fun _ h => Inv kind h) ?_ ?_ (create_inv kind)
  · intro log h c hinv
    exact (step_sound_iff hinv c).1
  · intro log h c hinv hadmits
    exact (step_sound_iff hinv c).2 hadmits

end Readiness

section Failures

/-- A microphone is prepared, and its volume is read. -/
def microphoneVolume : List (PublicCall Unit) :=
  [.device (.setDeviceIndex 0 allSucceed.toSelection), .device (.initTransport allSucceed),
    .control .volume ⟨true, 50, false⟩]

/-- A speaker is prepared with a client that refused its properties; `InitMixer` is tried again and
gets no client. -/
def speakerWithoutClient : List (PublicCall Unit) :=
  [.device (.setDeviceIndex 0 allSucceed.toSelection),
    .device (.initTransport {allSucceed with setClientProperties := false}),
    .device (.initMixer {allSucceed.toMixerAnswers with queryInterface := false})]

theorem interfaces_missing :
    (∃ e ∈ (run (step .capture) create microphoneVolume).2, e.nullUsed = true) ∧
      ¬ (∀ e ∈ (run (step .render) create speakerWithoutClient).2, Sound e) := by
  constructor
  · refine ⟨_, List.mem_cons_of_mem _ (List.mem_cons_of_mem _ List.mem_cons_self), ?_⟩
    decide
  · intro h
    have hsound := h _ (List.mem_cons_of_mem _ (List.mem_cons_of_mem _ List.mem_cons_self))
    have hclient := (hsound.ready (by decide)).audioClient
    revert hclient
    decide

end Failures

end WeiRtcNative.Audio.VolumeControls
