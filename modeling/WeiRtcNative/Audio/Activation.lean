import WeiRtcNative.Audio.DeviceSelection

/-!
# Activation of the audio client

`InitMixer` and `InitTransport` with Windows calls that may fail. `InitTransport` only logs a
failure of `InitMixer` and then asks for the device instead of the client, so that it goes on with
the client some earlier call has left, or with none.
-/

namespace WeiRtcNative.Audio.Activation

open Machine DeviceSelection
set_option autoImplicit false

/-- `CaptureDeviceInternal` or `RenderDeviceInternal`. -/
inductive Kind where
  | capture
  | render
  deriving DecidableEq, Repr

section Calls
variable {Device : Type}

/-- `serviceClient` is `_audioCaptureClient` or `_audioRenderClient`. -/
structure DeviceInternal (Device : Type) extends Helper Device where
  serviceClient : Bool
  simpleAudioVolume : Bool
  deriving DecidableEq, Repr

def create : DeviceInternal Device where
  toHelper := Helper.create
  serviceClient := false
  simpleAudioVolume := false

/-- What Windows answers during `SetDevice`. Without `collection` the devices could not be
listed, and without `opened` the default device has no id or could not be opened. -/
structure Selection (Device : Type) where
  collection : Option (List Device)
  getAt : Bool
  opened : Bool
  getResults : Option Device
  deriving DecidableEq, Repr

def requestedIndex (index : UInt16) : UInt16 := if index = 0xFFFF then 0 else index

/-- `GetAt` and `GetResults` release the old device before they are called. -/
def setDeviceIndex (h : DeviceInternal Device) (a : Selection Device) (index : UInt16) :
    DeviceInternal Device × Int :=
  match a.collection with
  | none => (h, -1)
  | some devices =>
    match devices[(requestedIndex index).toNat]? with
    | none => (h, -1)
    | some device =>
      if !a.getAt then ({h with deviceInformation := none}, -1)
      else
        ({h with
          deviceInformation := some device
          deviceIndex := requestedIndex index
          usingDeviceIndex := true}, 0)

def setDeviceType (h : DeviceInternal Device) (a : Selection Device) (type : WindowsDeviceType) :
    DeviceInternal Device × Int :=
  if type = .invalid then (h, -1)
  else if !a.opened then (h, -1)
  else
    match a.getResults with
    | none => ({h with deviceInformation := none}, -1)
    | some device =>
      ({h with
        deviceInformation := some device
        deviceType := type
        usingDeviceIndex := false}, 0)

/-- What Windows answers during `InitMixer`, call by call. -/
structure MixerAnswers (Device : Type) extends Selection Device where
  counted : Option (List Device)
  activateAudioInterfaceAsync : Bool
  wait : Bool
  getActivateResult : Bool
  queryInterface : Bool
  setClientProperties : Bool
  deriving DecidableEq, Repr

/-- `Devices` counts none when a call fails. -/
def devices (a : MixerAnswers Device) : Int :=
  (Int16.ofNat (a.counted.getD []).length).toInt

def setDeviceAgain (h : DeviceInternal Device) (a : MixerAnswers Device) :
    DeviceInternal Device × Int :=
  if h.usingDeviceIndex then
    if devices a - 1 < h.deviceIndex.toNat then (h, -1)
    else setDeviceIndex h a.toSelection h.deviceIndex
  else setDeviceType h a.toSelection h.deviceType

/-- `QueryInterface` releases the old client before it is called. -/
def initMixer (h : DeviceInternal Device) (a : MixerAnswers Device) :
    DeviceInternal Device × Int :=
  if h.mixerInitialized then (h, 0)
  else if h.transporting || h.deviceInformation.isNone then (h, -1)
  else
    let (h, ret) := setDeviceAgain h a
    if ret ≠ 0 then (h, -1)
    else if !a.activateAudioInterfaceAsync then (h, -1)
    else if !a.wait then (h, -1)
    else if !a.getActivateResult then (h, -1)
    else if !a.queryInterface then ({h with audioClient := none}, -1)
    else
      let h := {h with audioClient := h.deviceInformation}
      if !a.setClientProperties then (h, -1)
      else ({h with mixerInitialized := true}, 0)

/-- What Windows answers during `InitTransport`; only a microphone asks for the performance
counter and only a speaker for its volume. -/
structure TransportAnswers (Device : Type) extends MixerAnswers Device where
  queryPerformanceFrequency : Bool
  initializeClient : Bool
  setEventHandle : Bool
  getServiceClient : Bool
  getSimpleAudioVolume : Bool
  deriving DecidableEq, Repr

/-- `usedClient` is the first use of `_audioClient` in `InitTransport`, with whether it is there. -/
inductive Event where
  | initMixer (code : Int)
  | usedClient (held : Bool)
  | initTransport (code : Int)
  deriving DecidableEq, Repr

/-- The calls of `InitTransport` whose failure ends it; `GetService` releases the old interface. -/
def openStream (kind : Kind) (h : DeviceInternal Device) (a : TransportAnswers Device) :
    DeviceInternal Device × Int :=
  if !a.initializeClient then (h, -1)
  else if !a.setEventHandle then (h, -1)
  else if !a.getServiceClient then ({h with serviceClient := false}, -1)
  else
    let h := {h with serviceClient := true}
    match kind with
    | .capture => ({h with transportInitialized := true}, 0)
    | .render =>
      if !a.getSimpleAudioVolume then ({h with simpleAudioVolume := false}, -1)
      else ({h with simpleAudioVolume := true, transportInitialized := true}, 0)

/-- There is no result when `_audioClient` is used and is null. -/
def initTransport (kind : Kind) (h : DeviceInternal Device) (a : TransportAnswers Device) :
    DeviceInternal Device × List Event × Option Int :=
  if h.transporting then (h, [], some (-1))
  else if h.transportInitialized then (h, [], some 0)
  else if kind = .capture ∧ a.queryPerformanceFrequency = false then (h, [], some (-1))
  else if h.deviceInformation.isNone then (h, [], some (-1))
  else
    let (h, mixer) := initMixer h a.toMixerAnswers
    if h.deviceInformation.isNone then (h, [.initMixer mixer], some (-1))
    else if h.audioClient.isNone then
      ({h with crashed := true}, [.initMixer mixer, .usedClient false], none)
    else
      let (h, code) := openStream kind h a
      (h, [.initMixer mixer, .usedClient true], some code)

def stopTransport (h : DeviceInternal Device) (joined : Bool) : DeviceInternal Device × Int :=
  if !h.transporting then (h, 0)
  else if !h.hThread then ({h with transporting := false}, 0)
  else ({h with transporting := false, hThread := false}, if joined then 0 else -1)

def startTransport (h : DeviceInternal Device) (created started joined : Bool) :
    DeviceInternal Device × Int :=
  if !h.transportInitialized then (h, -1)
  else if h.hThread then (h, 0)
  else if h.transporting then (h, 0)
  else if !created then (h, -1)
  else if started then ({h with hThread := true, transporting := true}, 0)
  else ((stopTransport {h with hThread := true, transporting := true} joined).1, -1)

inductive Call (Device : Type) where
  | setDeviceIndex (index : UInt16) (a : Selection Device)
  | setDeviceType (type : WindowsDeviceType) (a : Selection Device)
  | initMixer (a : MixerAnswers Device)
  | initTransport (a : TransportAnswers Device)
  | startTransport (created started joined : Bool)
  | stopTransport (joined : Bool)

def call (kind : Kind) (h : DeviceInternal Device) :
    Call Device → DeviceInternal Device × List Event
  | .setDeviceIndex index a => ((setDeviceIndex h a index).1, [])
  | .setDeviceType type a => ((setDeviceType h a type).1, [])
  | .initMixer a =>
    let (h, code) := initMixer h a
    (h, [.initMixer code])
  | .initTransport a =>
    let (h, events, code) := initTransport kind h a
    (h, events ++ (code.map Event.initTransport).toList)
  | .startTransport created started joined => ((startTransport h created started joined).1, [])
  | .stopTransport joined => ((stopTransport h joined).1, [])

def step (kind : Kind) (h : DeviceInternal Device) (c : Call Device) :
    DeviceInternal Device × List Event :=
  if h.crashed then (h, []) else call kind h c

/-- The client is there when it is used, and `InitTransport` returns 0 after a success of
`InitMixer` only. -/
def Reported (log : List Event) : Event → Prop
  | .usedClient held => held = true
  | .initTransport code => code = 0 → .initMixer 0 ∈ log
  | .initMixer _ => True

section Conditions
variable (kind : Kind) (h : DeviceInternal Device)

/-- The second `SetDevice` comes to the call that replaces the device. -/
def found (a : MixerAnswers Device) : Bool :=
  if h.usingDeviceIndex then
    decide (h.deviceIndex.toNat ≤ devices a - 1) &&
      a.collection.any
        (fun devices => decide ((requestedIndex h.deviceIndex).toNat < devices.length))
  else decide (h.deviceType ≠ .invalid) && a.opened

def replaced (a : MixerAnswers Device) : Bool :=
  if h.usingDeviceIndex then a.getAt else a.getResults.isSome

def deviceLost (a : MixerAnswers Device) : Bool := found h a && !replaced h a

/-- `InitMixer` comes to `QueryInterface`. -/
def obtained (a : MixerAnswers Device) : Bool :=
  found h a && replaced h a && a.activateAudioInterfaceAsync && a.wait && a.getActivateResult

def mixerSucceeds (a : MixerAnswers Device) : Bool :=
  obtained h a && a.queryInterface && a.setClientProperties

/-- `InitMixer` leaves a client, its own or one from before. -/
def clientHeld (a : MixerAnswers Device) : Bool :=
  if obtained h a then a.queryInterface else h.audioClient.isSome

/-- `InitTransport` comes to `InitMixer`. -/
def attempts (a : TransportAnswers Device) : Bool :=
  !h.transporting && !h.transportInitialized &&
    (kind = .render || a.queryPerformanceFrequency) && h.deviceInformation.isSome

/-- No call of `openStream` fails. -/
def served (a : TransportAnswers Device) : Bool :=
  a.initializeClient && a.setEventHandle && a.getServiceClient &&
    (kind = .capture || a.getSimpleAudioVolume)

/-- An `InitTransport` that comes to a mixer not initialised loses the device, initialises the
mixer, or holds a client and is failed by a later call. -/
def Admits : Call Device → Prop
  | .initTransport a =>
    attempts kind h a = true → h.mixerInitialized = false →
      deviceLost h a.toMixerAnswers = true ∨ mixerSucceeds h a.toMixerAnswers = true ∨
        clientHeld h a.toMixerAnswers = true ∧ served kind a = false
  | _ => True

end Conditions

section Mixer
variable {h : DeviceInternal Device}

/-- What a call of `SetDevice` may change. -/
def Selected (h t : DeviceInternal Device) : Prop :=
  ∃ device usingIndex index type, t = {h with
    deviceInformation := some device
    usingDeviceIndex := usingIndex
    deviceIndex := index
    deviceType := type}

theorem setDeviceAgain_not_found {a : MixerAnswers Device} (hfound : found h a = false) :
    setDeviceAgain h a = (h, -1) := by
  unfold found at hfound
  unfold setDeviceAgain
  split
  · rename_i husing
    rw [if_pos husing] at hfound
    split
    · rfl
    · rename_i hcount
      unfold setDeviceIndex
      cases hcollection : a.collection with
      | none => rfl
      | some devices =>
        have hle : ¬ (requestedIndex h.deviceIndex).toNat < devices.length := by
          intro hlt
          have hcounted : (h.deviceIndex.toNat : Int) ≤ Activation.devices a - 1 := by omega
          simp [hcollection, hlt, hcounted] at hfound
        dsimp only
        rw [List.getElem?_eq_none (Nat.le_of_not_lt hle)]
  · rename_i husing
    rw [if_neg husing] at hfound
    unfold setDeviceType
    split
    · rfl
    · rename_i htype
      rw [if_pos]
      simpa [htype] using hfound

theorem setDeviceAgain_found {a : MixerAnswers Device} (hfound : found h a = true) :
    (replaced h a = false ∧ setDeviceAgain h a = ({h with deviceInformation := none}, -1)) ∨
      (replaced h a = true ∧ ∃ t, Selected h t ∧ setDeviceAgain h a = (t, 0)) := by
  unfold found at hfound
  unfold setDeviceAgain replaced
  split
  · rename_i husing
    rw [if_pos husing, Bool.and_eq_true, decide_eq_true_eq, Option.any_eq_true] at hfound
    obtain ⟨hcount, devices, hcollection, hlt⟩ := hfound
    rw [decide_eq_true_eq] at hlt
    rw [if_neg (by omega)]
    unfold setDeviceIndex
    rw [hcollection]
    dsimp only
    rw [List.getElem?_eq_getElem hlt]
    cases hget : a.getAt with
    | false => exact .inl ⟨rfl, rfl⟩
    | true => exact .inr ⟨rfl, _, ⟨_, _, _, _, rfl⟩, rfl⟩
  · rename_i husing
    rw [if_neg husing, Bool.and_eq_true, decide_eq_true_eq] at hfound
    obtain ⟨htype, hopened⟩ := hfound
    unfold setDeviceType
    rw [if_neg htype, hopened]
    cases hresults : a.getResults with
    | none => exact .inl ⟨rfl, rfl⟩
    | some device => exact .inr ⟨rfl, _, ⟨_, _, _, _, rfl⟩, rfl⟩

/-- What `InitMixer` never changes. -/
structure SameTransport (h t : DeviceInternal Device) : Prop where
  initialized : t.transportInitialized = h.transportInitialized
  transporting : t.transporting = h.transporting
  serviceClient : t.serviceClient = h.serviceClient
  simpleAudioVolume : t.simpleAudioVolume = h.simpleAudioVolume
  crashed : t.crashed = h.crashed

structure Activates (h : DeviceInternal Device) (a : MixerAnswers Device)
    (t : DeviceInternal Device) (code : Int) : Prop where
  device : t.deviceInformation.isNone = deviceLost h a
  client : t.audioClient.isSome = clientHeld h a
  mixer : t.mixerInitialized = mixerSucceeds h a
  code : code = if mixerSucceeds h a then 0 else -1
  same : SameTransport h t

theorem initMixer_activates (hmixer : h.mixerInitialized = false)
    (htransporting : h.transporting = false) (hdevice : h.deviceInformation.isSome = true)
    (a : MixerAnswers Device) : Activates h a (initMixer h a).1 (initMixer h a).2 := by
  have hopen : ¬ (h.transporting || h.deviceInformation.isNone) = true := by
    rw [Option.isSome_iff_ne_none] at hdevice
    simp [htransporting, hdevice]
  unfold initMixer
  rw [if_neg (by simp [hmixer]), if_neg hopen]
  cases hfound : found h a with
  | false =>
    rw [setDeviceAgain_not_found hfound]
    refine ⟨?_, ?_, ?_, ?_, ⟨rfl, rfl, rfl, rfl, rfl⟩⟩
    · simpa [deviceLost, hfound] using hdevice
    · simp [clientHeld, obtained, hfound]
    · simpa [mixerSucceeds, obtained, hfound] using hmixer
    · simp [mixerSucceeds, obtained, hfound]
  | true =>
    obtain ⟨hreplaced, hagain⟩ | ⟨hreplaced, t, ⟨_, _, _, _, rfl⟩, hagain⟩ :=
      setDeviceAgain_found hfound
    · rw [hagain]
      refine ⟨?_, ?_, ?_, ?_, ⟨rfl, rfl, rfl, rfl, rfl⟩⟩
      · simp [deviceLost, hfound, hreplaced]
      · simp [clientHeld, obtained, hreplaced]
      · simpa [mixerSucceeds, obtained, hreplaced] using hmixer
      · simp [mixerSucceeds, obtained, hreplaced]
    · rw [hagain]
      have hobtained : obtained h a =
          (a.activateAudioInterfaceAsync && a.wait && a.getActivateResult) := by
        simp [obtained, hfound, hreplaced]
      have hlost : deviceLost h a = false := by
        simp [deviceLost, hreplaced]
      dsimp only
      -- The device is selected again; the calls that activate a client follow.
      repeat' split
      all_goals
        refine ⟨?_, ?_, ?_, ?_, ⟨rfl, rfl, rfl, rfl, rfl⟩⟩
        all_goals simp_all [clientHeld, mixerSucceeds]

/-- `InitMixer` does nothing or tries to activate a client. -/
inductive MixerOutcome (h : DeviceInternal Device) (a : MixerAnswers Device) :
    DeviceInternal Device × Int → Prop where
  | idle {code : Int} : (code = 0 ↔ h.mixerInitialized = true) →
    (h.mixerInitialized = true ∨ h.transporting = true ∨ h.deviceInformation = none) →
    MixerOutcome h a (h, code)
  | activated {t : DeviceInternal Device} {code : Int} : h.mixerInitialized = false →
    h.transporting = false → h.deviceInformation.isSome = true → Activates h a t code →
    MixerOutcome h a (t, code)

theorem initMixer_outcome (h : DeviceInternal Device) (a : MixerAnswers Device) :
    MixerOutcome h a (initMixer h a) := by
  cases hmixer : h.mixerInitialized with
  | true =>
    have hagain : initMixer h a = (h, 0) := by
      unfold initMixer
      rw [if_pos hmixer]
    rw [hagain]
    exact .idle (by simp [hmixer]) (.inl hmixer)
  | false =>
    by_cases hidle : h.transporting = true ∨ h.deviceInformation = none
    · have hrefused : initMixer h a = (h, -1) := by
        unfold initMixer
        rw [if_neg (by simp [hmixer]), if_pos (by simpa using hidle)]
      rw [hrefused]
      exact .idle (by simp [hmixer]) (.inr hidle)
    · obtain ⟨htransporting, hdevice⟩ := not_or.mp hidle
      rw [Bool.not_eq_true] at htransporting
      rw [← ne_eq, Option.ne_none_iff_isSome] at hdevice
      exact .activated hmixer htransporting hdevice
        (initMixer_activates hmixer htransporting hdevice a)

end Mixer

section Transport
variable {kind : Kind} {h : DeviceInternal Device}

/-- The client and the mixer stay as they are while the stream is opened. -/
structure Opens (kind : Kind) (h : DeviceInternal Device) (a : TransportAnswers Device)
    (t : DeviceInternal Device) (code : Int) : Prop where
  code : code = if served kind a then 0 else -1
  initialized : t.transportInitialized = (h.transportInitialized || served kind a)
  services : served kind a = true →
    t.serviceClient = true ∧ (kind = .render → t.simpleAudioVolume = true)
  microphone : kind = .capture → t.simpleAudioVolume = h.simpleAudioVolume
  client : t.audioClient = h.audioClient
  mixer : t.mixerInitialized = h.mixerInitialized
  crashed : t.crashed = h.crashed

theorem openStream_opens (kind : Kind) (h : DeviceInternal Device) (a : TransportAnswers Device) :
    Opens kind h a (openStream kind h a).1 (openStream kind h a).2 := by
  unfold openStream
  dsimp only
  repeat' split
  all_goals
    refine ⟨?_, ?_, ?_, ?_, rfl, rfl, rfl⟩
    all_goals simp_all [served]

theorem initTransport_idle {a : TransportAnswers Device} (hidle : attempts kind h a = false) :
    ∃ code, initTransport kind h a = (h, [], some code) ∧
      (code = 0 → h.transportInitialized = true) := by
  unfold initTransport
  split
  · exact ⟨-1, rfl, by simp⟩
  · split
    · rename_i hinitialized
      exact ⟨0, rfl, fun _ => hinitialized⟩
    · split
      · exact ⟨-1, rfl, by simp⟩
      · split
        · exact ⟨-1, rfl, by simp⟩
        · rename_i htransporting hinitialized hcounter hdevice
          exfalso
          rw [Option.isNone_iff_eq_none, ← ne_eq, Option.ne_none_iff_isSome] at hdevice
          cases kind with
          | capture => simp_all [attempts]
          | render => simp_all [attempts]

theorem initTransport_attempt {a : TransportAnswers Device} (hattempts : attempts kind h a = true) :
    initTransport kind h a =
      let (t, mixer) := initMixer h a.toMixerAnswers
      if t.deviceInformation.isNone then (t, [.initMixer mixer], some (-1))
      else if t.audioClient.isNone then
        ({t with crashed := true}, [.initMixer mixer, .usedClient false], none)
      else
        ((openStream kind t a).1, [.initMixer mixer, .usedClient true],
          some (openStream kind t a).2) := by
  simp only [attempts, Bool.and_eq_true, Bool.not_eq_true', Bool.or_eq_true, decide_eq_true_eq]
    at hattempts
  obtain ⟨⟨⟨htransporting, hinitialized⟩, hcounter⟩, hdevice⟩ := hattempts
  rw [Option.isSome_iff_ne_none] at hdevice
  unfold initTransport
  rw [if_neg (by simp [htransporting]), if_neg (by simp [hinitialized]), if_neg, if_neg]
  · simpa using hdevice
  · rintro ⟨rfl, hfalse⟩
    simp [hfalse] at hcounter

end Transport

section Attempt
variable {kind : Kind} {h : DeviceInternal Device} {a : TransportAnswers Device}

/-- What `InitTransport` finds after its `InitMixer`. -/
structure Prepared (h : DeviceInternal Device) (a : MixerAnswers Device)
    (t : DeviceInternal Device) (code : Int) : Prop where
  device : t.deviceInformation.isNone = (!h.mixerInitialized && deviceLost h a)
  client : t.audioClient.isSome = (h.mixerInitialized || clientHeld h a)
  mixer : t.mixerInitialized = (h.mixerInitialized || mixerSucceeds h a)
  code : code = 0 ↔ t.mixerInitialized = true
  same : SameTransport h t

theorem attempt_prepared (hclient : h.mixerInitialized = true → h.audioClient.isSome = true)
    (hattempts : attempts kind h a = true) :
    Prepared h a.toMixerAnswers (initMixer h a.toMixerAnswers).1
      (initMixer h a.toMixerAnswers).2 := by
  simp only [attempts, Bool.and_eq_true, Bool.not_eq_true'] at hattempts
  obtain ⟨⟨⟨htransporting, -⟩, -⟩, hdevice⟩ := hattempts
  have houtcome := initMixer_outcome h a.toMixerAnswers
  generalize initMixer h a.toMixerAnswers = m at houtcome
  cases houtcome with
  | idle hcode hidle =>
    have hmixer : h.mixerInitialized = true := by
      rcases hidle with hmixer | hyes | hnone
      · exact hmixer
      · rw [htransporting] at hyes
        cases hyes
      · rw [hnone] at hdevice
        cases hdevice
    refine ⟨?_, ?_, ?_, hcode, ⟨rfl, rfl, rfl, rfl, rfl⟩⟩
    · simpa [hmixer] using hdevice
    · simpa [hmixer] using hclient hmixer
    · simp [hmixer]
  | activated hmixer _ _ hactivates =>
    refine ⟨?_, ?_, ?_, ?_, hactivates.same⟩
    · rw [hactivates.device, hmixer]
      rfl
    · rw [hactivates.client, hmixer]
      rfl
    · rw [hactivates.mixer, hmixer]
      rfl
    · rw [hactivates.code, hactivates.mixer]
      split <;> simp_all

/-- How an attempt goes on after `InitMixer` has left `t` and returned `code`. -/
inductive AttemptOutcome (kind : Kind) (h : DeviceInternal Device) (a : TransportAnswers Device)
    (t : DeviceInternal Device) (code : Int) :
    DeviceInternal Device × List Event × Option Int → Prop where
  | lost : h.mixerInitialized = false → deviceLost h a.toMixerAnswers = true →
    AttemptOutcome kind h a t code (t, [.initMixer code], some (-1))
  | crashed : h.mixerInitialized = false → deviceLost h a.toMixerAnswers = false →
    clientHeld h a.toMixerAnswers = false →
    AttemptOutcome kind h a t code
      ({t with crashed := true}, [.initMixer code, .usedClient false], none)
  | opened : (h.mixerInitialized = true ∨
      deviceLost h a.toMixerAnswers = false ∧ clientHeld h a.toMixerAnswers = true) →
    t.audioClient.isSome = true →
    AttemptOutcome kind h a t code ((openStream kind t a).1, [.initMixer code, .usedClient true],
      some (openStream kind t a).2)

theorem attempt_outcome (hclient : h.mixerInitialized = true → h.audioClient.isSome = true)
    (hattempts : attempts kind h a = true) :
    AttemptOutcome kind h a (initMixer h a.toMixerAnswers).1 (initMixer h a.toMixerAnswers).2
      (initTransport kind h a) := by
  have hp := attempt_prepared hclient hattempts
  rw [initTransport_attempt hattempts]
  generalize initMixer h a.toMixerAnswers = m at hp
  obtain ⟨t, code⟩ := m
  dsimp only at hp ⊢
  split
  · rename_i hdevice
    rw [hp.device, Bool.and_eq_true, Bool.not_eq_true'] at hdevice
    exact .lost hdevice.1 hdevice.2
  · rename_i hdevice
    rw [hp.device, Bool.not_eq_true, Bool.and_eq_false_iff, Bool.not_eq_false'] at hdevice
    split
    · rename_i hnone
      have hheld : (h.mixerInitialized || clientHeld h a.toMixerAnswers) = false := by
        rw [← hp.client]
        simpa using hnone
      rw [Bool.or_eq_false_iff] at hheld
      refine .crashed hheld.1 ?_ hheld.2
      rcases hdevice with hmixer | hlost
      · rw [hheld.1] at hmixer
        cases hmixer
      · exact hlost
    · rename_i hnone
      have hsome : t.audioClient.isSome = true := by
        rw [Option.isNone_iff_eq_none, ← ne_eq, Option.ne_none_iff_isSome] at hnone
        exact hnone
      refine .opened ?_ hsome
      rw [hp.client, Bool.or_eq_true] at hsome
      rcases hdevice with hmixer | hlost
      · exact .inl hmixer
      · exact hsome.imp_right fun hheld => ⟨hlost, hheld⟩

theorem clientHeld_of_mixerSucceeds {a : MixerAnswers Device}
    (hsucceeds : mixerSucceeds h a = true) : clientHeld h a = true := by
  simp only [mixerSucceeds, Bool.and_eq_true] at hsucceeds
  simp [clientHeld, hsucceeds]

end Attempt

section Frames

/-- A call that changes none of the interfaces and neither flag. -/
structure Unchanged (h t : DeviceInternal Device) : Prop where
  mixer : t.mixerInitialized = h.mixerInitialized
  transport : t.transportInitialized = h.transportInitialized
  audioClient : t.audioClient = h.audioClient
  serviceClient : t.serviceClient = h.serviceClient
  simpleAudioVolume : t.simpleAudioVolume = h.simpleAudioVolume
  crashed : t.crashed = h.crashed

theorem setDeviceIndex_unchanged (h : DeviceInternal Device) (a : Selection Device)
    (index : UInt16) : Unchanged h (setDeviceIndex h a index).1 := by
  unfold setDeviceIndex
  repeat' split
  all_goals exact ⟨rfl, rfl, rfl, rfl, rfl, rfl⟩

theorem setDeviceType_unchanged (h : DeviceInternal Device) (a : Selection Device)
    (type : WindowsDeviceType) : Unchanged h (setDeviceType h a type).1 := by
  unfold setDeviceType
  repeat' split
  all_goals exact ⟨rfl, rfl, rfl, rfl, rfl, rfl⟩

theorem stopTransport_unchanged (h : DeviceInternal Device) (joined : Bool) :
    Unchanged h (stopTransport h joined).1 := by
  unfold stopTransport
  repeat' split
  all_goals exact ⟨rfl, rfl, rfl, rfl, rfl, rfl⟩

theorem startTransport_unchanged (h : DeviceInternal Device) (created started joined : Bool) :
    Unchanged h (startTransport h created started joined).1 := by
  unfold startTransport stopTransport
  repeat' split
  all_goals exact ⟨rfl, rfl, rfl, rfl, rfl, rfl⟩

end Frames

section Reports
variable {kind : Kind} {log : List Event} {h : DeviceInternal Device}

structure Inv (log : List Event) (h : DeviceInternal Device) : Prop where
  up : h.crashed = false
  client : h.mixerInitialized = true → h.audioClient.isSome = true
  mixer : .initMixer 0 ∈ log ↔ h.mixerInitialized = true
  transport : h.transportInitialized = true → h.mixerInitialized = true

theorem create_inv : Inv [] (create : DeviceInternal Device) := by
  refine ⟨rfl, ?_, ?_, ?_⟩
  · intro hmixer
    cases hmixer
  · simp [create, Helper.create]
  · intro htransport
    cases htransport

theorem Inv.keep {t : DeviceInternal Device} (hinv : Inv log h) (hsame : Unchanged h t) :
    Inv (log ++ []) t := by
  refine ⟨hsame.crashed.trans hinv.up, ?_, ?_, ?_⟩
  · rw [hsame.mixer, hsame.audioClient]
    exact hinv.client
  · rw [hsame.mixer, List.append_nil]
    exact hinv.mixer
  · rw [hsame.transport, hsame.mixer]
    exact hinv.transport

/-- The log of an attempt, from what `InitMixer` left. -/
theorem attempt_reported_iff {t : DeviceInternal Device} {code : Int} {a : TransportAnswers Device}
    (hinv : Inv log h) (hp : Prepared h a.toMixerAnswers t code) :
    Justified (fun pre => Reported (log ++ pre)) [.initMixer code, .usedClient true,
        .initTransport (openStream kind t a).2] ↔
      (served kind a = true → t.mixerInitialized = true) := by
  have hcode : .initMixer 0 ∈ log ++ [.initMixer code, .usedClient true] ↔
      t.mixerInitialized = true := by
    rw [List.mem_append, hinv.mixer]
    simp only [List.mem_cons, Event.initMixer.injEq, reduceCtorEq, List.not_mem_nil, or_false,
      eq_comm (a := (0 : Int)), hp.code]
    constructor
    · rintro (hmixer | hmixer)
      · simp [hp.mixer, hmixer]
      · exact hmixer
    · exact Or.inr
  have hopens := openStream_opens kind t a
  simp only [justified_cons, justified_nil, Reported, true_and, and_true, hcode, hopens.code]
  cases served kind a with
  | false => simp
  | true => simp

theorem initTransport_reported_iff (hinv : Inv log h) (a : TransportAnswers Device) :
    Justified (fun pre => Reported (log ++ pre)) (call kind h (.initTransport a)).2 ↔
      Admits kind h (.initTransport a) := by
  cases hattempts : attempts kind h a with
  | false =>
    obtain ⟨code, hresult, hzero⟩ := initTransport_idle hattempts
    refine iff_of_true ?_ (by simp [Admits, hattempts])
    simp only [call, hresult, Option.map_some, Option.toList_some, List.nil_append, justified_cons,
      justified_nil, and_true, List.append_nil, Reported]
    intro hcode
    exact hinv.mixer.mpr (hinv.transport (hzero hcode))
  | true =>
    have hp := attempt_prepared hinv.client hattempts
    have houtcome := attempt_outcome hinv.client hattempts
    simp only [call, Admits, hattempts, true_implies]
    generalize initTransport kind h a = r at houtcome
    cases houtcome with
    | lost hmixer hlost =>
      refine iff_of_true (by simp [Reported]) ?_
      intro _
      exact .inl hlost
    | crashed hmixer hlost hheld =>
      refine iff_of_false (by simp [Reported]) ?_
      intro hadmits
      rcases hadmits hmixer with hyes | hsucceeds | ⟨hyes, -⟩
      · rw [hlost] at hyes
        cases hyes
      · rw [clientHeld_of_mixerSucceeds hsucceeds] at hheld
        cases hheld
      · rw [hheld] at hyes
        cases hyes
    | opened hready hsome =>
      refine (attempt_reported_iff hinv hp).trans ?_
      rw [hp.mixer]
      rcases hready with hmixer | ⟨hlost, hheld⟩
      · simp [hmixer]
      · cases h.mixerInitialized with
        | true => simp
        | false =>
          cases served kind a with
          | false => simp [hheld]
          | true => simp [hlost]

theorem call_reported_iff (hinv : Inv log h) (c : Call Device) :
    Justified (fun pre => Reported (log ++ pre)) (call kind h c).2 ↔ Admits kind h c := by
  cases c with
  | initTransport a => exact initTransport_reported_iff hinv a
  | initMixer a => simp [call, Reported, Admits]
  | setDeviceIndex index a => simp [call, Admits]
  | setDeviceType type a => simp [call, Admits]
  | startTransport created started joined => simp [call, Admits]
  | stopTransport joined => simp [call, Admits]

theorem initMixer_inv (hinv : Inv log h) (a : MixerAnswers Device) :
    Inv (log ++ [.initMixer (initMixer h a).2]) (initMixer h a).1 := by
  have houtcome := initMixer_outcome h a
  generalize initMixer h a = m at houtcome
  cases houtcome with
  | idle hcode hidle =>
    refine ⟨hinv.up, hinv.client, ?_, hinv.transport⟩
    rw [List.mem_append, hinv.mixer, List.mem_singleton, Event.initMixer.injEq,
      eq_comm (a := (0 : Int)), hcode, or_self]
  | activated hmixer _ _ hactivates =>
    refine ⟨hactivates.same.crashed.trans hinv.up, ?_, ?_, ?_⟩
    · rw [hactivates.mixer, hactivates.client]
      exact clientHeld_of_mixerSucceeds
    · rw [List.mem_append, hinv.mixer, hmixer, hactivates.code, hactivates.mixer]
      cases mixerSucceeds h a with
      | false => simp
      | true => simp
    · rw [hactivates.same.initialized]
      intro htransport
      rw [hinv.transport htransport] at hmixer
      cases hmixer

/-- Entries that are none of `InitMixer`. -/
theorem Inv.append {events : List Event} (hinv : Inv log h) (hevents : .initMixer 0 ∉ events) :
    Inv (log ++ events) h := by
  refine ⟨hinv.up, hinv.client, ?_, hinv.transport⟩
  rw [List.mem_append, hinv.mixer]
  exact or_iff_left hevents

theorem initTransport_inv (hinv : Inv log h) {a : TransportAnswers Device}
    (hadmits : Admits kind h (.initTransport a)) :
    Inv (log ++ (call kind h (.initTransport a)).2) (call kind h (.initTransport a)).1 := by
  have hreported := (initTransport_reported_iff hinv a).mpr hadmits
  cases hattempts : attempts kind h a with
  | false =>
    obtain ⟨code, hresult, -⟩ := initTransport_idle hattempts
    simp only [call, hresult]
    exact hinv.append (by simp)
  | true =>
    have hp := attempt_prepared hinv.client hattempts
    have hinit := initMixer_inv hinv a.toMixerAnswers
    have houtcome := attempt_outcome hinv.client hattempts
    simp only [call] at hreported ⊢
    generalize initMixer h a.toMixerAnswers = m at hp hinit houtcome
    obtain ⟨t, code⟩ := m
    dsimp only at hp hinit houtcome
    generalize initTransport kind h a = r at houtcome hreported
    cases houtcome with
    | lost hmixer hlost =>
      rw [← List.append_assoc]
      exact hinit.append (by simp)
    | crashed hmixer hlost hheld => simp [Reported] at hreported
    | opened hready hsome =>
      have hmixer := (attempt_reported_iff hinv hp).mp hreported
      have hopens := openStream_opens kind t a
      rw [List.cons_append, List.append_cons]
      have happend : Inv ((log ++ [.initMixer code]) ++
          [.usedClient true, .initTransport (openStream kind t a).2]) t :=
        hinit.append (by simp)
      refine ⟨hopens.crashed.trans happend.up, ?_, ?_, ?_⟩
      · rw [hopens.mixer, hopens.client]
        exact happend.client
      · rw [hopens.mixer]
        exact happend.mixer
      · rw [hopens.mixer, hopens.initialized, Bool.or_eq_true]
        rintro (htransport | hserved)
        · exact happend.transport htransport
        · exact hmixer hserved

theorem call_inv (hinv : Inv log h) {c : Call Device} (hadmits : Admits kind h c) :
    Inv (log ++ (call kind h c).2) (call kind h c).1 := by
  cases c with
  | initTransport a => exact initTransport_inv hinv hadmits
  | initMixer a => exact initMixer_inv hinv a
  | setDeviceIndex index a => exact hinv.keep (setDeviceIndex_unchanged h a index)
  | setDeviceType type a => exact hinv.keep (setDeviceType_unchanged h a type)
  | startTransport created started joined =>
    exact hinv.keep (startTransport_unchanged h created started joined)
  | stopTransport joined => exact hinv.keep (stopTransport_unchanged h joined)

theorem step_up (kind : Kind) (hup : h.crashed = false) (c : Call Device) :
    step kind h c = call kind h c := by
  unfold step
  rw [hup]
  rfl

/-- In a run, `InitTransport` never uses a null client and returns 0 after a success of `InitMixer`
only, just when every `InitTransport` that comes to a mixer not initialised loses the device,
initialises the mixer, or holds a client and is failed by a later call. -/
theorem activation_reported_iff (kind : Kind) (calls : List (Call Device)) :
    Justified Reported (run (step kind) create calls).2 ↔
      Along (step kind) (fun _ => Admits kind) [] create calls := by
  apply justified_run_iff (step kind) Inv ?_ ?_ create_inv
  · intro log h c hinv
    rw [step_up kind hinv.up]
    exact call_reported_iff hinv c
  · intro log h c hinv hadmits
    rw [step_up kind hinv.up]
    exact call_inv hinv hadmits

end Reports

section Succeeding

/-- The answers when every call of Windows succeeds. -/
def selectionOf (e : Endpoints Device) (type : WindowsDeviceType) : Selection Device where
  collection := some e.found
  getAt := true
  opened := (e.defaultDevice type).isSome
  getResults := e.defaultDevice type

def mixerAnswersOf (e : Endpoints Device) (type : WindowsDeviceType) : MixerAnswers Device where
  toSelection := selectionOf e type
  counted := some e.counted
  activateAudioInterfaceAsync := true
  wait := true
  getActivateResult := true
  queryInterface := true
  setClientProperties := true

def transportAnswersOf (e : Endpoints Device) (type : WindowsDeviceType) :
    TransportAnswers Device where
  toMixerAnswers := mixerAnswersOf e type
  queryPerformanceFrequency := true
  initializeClient := true
  setEventHandle := true
  getServiceClient := true
  getSimpleAudioVolume := true

def helperResult (r : DeviceInternal Device × Int) : Helper Device × Int := (r.1.toHelper, r.2)

theorem setDeviceIndex_succeeding (h : DeviceInternal Device) (e : Endpoints Device)
    (type : WindowsDeviceType) (index : UInt16) :
    helperResult (setDeviceIndex h (selectionOf e type) index) =
      DeviceSelection.setDeviceIndex h.toHelper e index := by
  unfold setDeviceIndex DeviceSelection.setDeviceIndex
  cases hdevice : e.found[(requestedIndex index).toNat]? with
  | none =>
    simp only [selectionOf, hdevice]
    simp only [requestedIndex] at hdevice
    rw [hdevice]
    rfl
  | some device =>
    simp only [selectionOf, hdevice]
    simp only [requestedIndex] at hdevice
    rw [hdevice]
    rfl

theorem setDeviceType_succeeding (h : DeviceInternal Device) (e : Endpoints Device)
    (type : WindowsDeviceType) :
    helperResult (setDeviceType h (selectionOf e type) type) =
      DeviceSelection.setDeviceType h.toHelper e type := by
  unfold setDeviceType DeviceSelection.setDeviceType
  split
  · rfl
  · cases hdevice : e.defaultDevice type with
    | none =>
      simp only [selectionOf, hdevice]
      rfl
    | some device =>
      simp only [selectionOf, hdevice]
      rfl

theorem setDeviceAgain_succeeding (h : DeviceInternal Device) (e : Endpoints Device) :
    helperResult (setDeviceAgain h (mixerAnswersOf e h.deviceType)) =
      DeviceSelection.setDeviceAgain h.toHelper e := by
  have hdevices : devices (mixerAnswersOf e h.deviceType) = DeviceSelection.devices e := rfl
  unfold setDeviceAgain DeviceSelection.setDeviceAgain
  rw [hdevices]
  split
  · split
    · rfl
    · exact setDeviceIndex_succeeding h e h.deviceType h.deviceIndex
  · exact setDeviceType_succeeding h e h.deviceType

theorem initMixer_succeeding (h : DeviceInternal Device) (e : Endpoints Device) :
    helperResult (initMixer h (mixerAnswersOf e h.deviceType)) =
      DeviceSelection.initMixer h.toHelper e := by
  have hagain := setDeviceAgain_succeeding h e
  unfold initMixer DeviceSelection.initMixer
  split
  · rfl
  · split
    · rfl
    · rw [← hagain]
      dsimp only [helperResult]
      split
      · rfl
      · simp [mixerAnswersOf]

theorem openStream_succeeding (kind : Kind) (h : DeviceInternal Device) (e : Endpoints Device)
    (type : WindowsDeviceType) :
    helperResult (openStream kind h (transportAnswersOf e type)) =
      ({h.toHelper with transportInitialized := true}, 0) := by
  cases kind with
  | capture => rfl
  | render => rfl

theorem initMixer_keeps_device {h : DeviceInternal Device}
    (hdevice : h.deviceInformation.isSome = true) (e : Endpoints Device) :
    (initMixer h (mixerAnswersOf e h.deviceType)).1.deviceInformation.isSome = true := by
  have heffect := DeviceSelection.initMixer_effect h.toHelper e
  rw [← initMixer_succeeding] at heffect
  generalize initMixer h (mixerAnswersOf e h.deviceType) = r at heffect
  obtain ⟨t, code⟩ := r
  dsimp only [helperResult] at heffect ⊢
  generalize t.toHelper = t at heffect ⊢
  cases heffect with
  | before => exact hdevice
  | refused => exact hdevice
  | activated device usingIndex index type => rfl

theorem initTransport_succeeding (kind : Kind) (h : DeviceInternal Device) (e : Endpoints Device) :
    ((initTransport kind h (transportAnswersOf e h.deviceType)).1.toHelper,
        (initTransport kind h (transportAnswersOf e h.deviceType)).2.2) =
      DeviceSelection.initTransport h.toHelper e := by
  have hcounter : ¬ (kind = .capture ∧
      (transportAnswersOf e h.deviceType).queryPerformanceFrequency = false) := by
    rintro ⟨-, hfalse⟩
    cases hfalse
  unfold initTransport DeviceSelection.initTransport
  rw [if_neg hcounter]
  split
  · rfl
  · split
    · rfl
    · split
      · rfl
      · rename_i hnone
        rw [Bool.not_eq_true, Option.isNone_eq_false_iff] at hnone
        have hdevice := initMixer_keeps_device hnone e
        rw [Option.isSome_iff_ne_none] at hdevice
        have hanswers : (transportAnswersOf e h.deviceType).toMixerAnswers =
            mixerAnswersOf e h.deviceType := rfl
        rw [← initMixer_succeeding, hanswers]
        generalize initMixer h (mixerAnswersOf e h.deviceType) = m at hdevice
        obtain ⟨t, code⟩ := m
        dsimp only [helperResult] at hdevice ⊢
        rw [if_neg (by simpa using hdevice)]
        split
        · rfl
        · have hopen := openStream_succeeding kind t e h.deviceType
          simp only [helperResult, Prod.mk.injEq] at hopen
          simp only [hopen]

theorem stopTransport_succeeding (h : DeviceInternal Device) (joined : Bool) :
    helperResult (stopTransport h joined) = DeviceSelection.stopTransport h.toHelper joined := by
  unfold stopTransport DeviceSelection.stopTransport
  split
  · rfl
  · split
    · rfl
    · rfl

theorem startTransport_succeeding (h : DeviceInternal Device) (started joined : Bool) :
    helperResult (startTransport h true started joined) =
      DeviceSelection.startTransport h.toHelper started joined := by
  unfold startTransport DeviceSelection.startTransport
  split
  · rfl
  · split
    · rfl
    · split
      · rfl
      · cases started with
        | true => rfl
        | false => rfl

theorem step_simulates (kind : Kind) (h : DeviceInternal Device) (c : DeviceSelection.Call Device) :
    ∃ d : Call Device, (step kind h d).1.toHelper = (DeviceSelection.step h.toHelper c).1 := by
  unfold step DeviceSelection.step
  split
  · exact ⟨.stopTransport false, rfl⟩
  · cases c with
    | setDeviceIndex index e =>
      exact ⟨.setDeviceIndex index (selectionOf e .invalid),
        congrArg Prod.fst (setDeviceIndex_succeeding h e .invalid index)⟩
    | setDeviceType type e =>
      exact ⟨.setDeviceType type (selectionOf e type),
        congrArg Prod.fst (setDeviceType_succeeding h e type)⟩
    | initMixer e =>
      exact ⟨.initMixer (mixerAnswersOf e h.deviceType),
        congrArg Prod.fst (initMixer_succeeding h e)⟩
    | initTransport e =>
      exact ⟨.initTransport (transportAnswersOf e h.deviceType),
        congrArg Prod.fst (initTransport_succeeding kind h e)⟩
    | startTransport started joined =>
      exact ⟨.startTransport true started joined,
        congrArg Prod.fst (startTransport_succeeding h started joined)⟩
    | stopTransport joined =>
      exact ⟨.stopTransport joined, congrArg Prod.fst (stopTransport_succeeding h joined)⟩

/-- Every run of `DeviceSelection` is a run here, one in which no call of Windows fails. -/
theorem run_simulates (kind : Kind) (h : DeviceInternal Device)
    (calls : List (DeviceSelection.Call Device)) :
    ∃ answered : List (Call Device), (run (step kind) h answered).1.toHelper =
      (run DeviceSelection.step h.toHelper calls).1 := by
  induction calls generalizing h with
  | nil => exact ⟨[], rfl⟩
  | cons c calls ih =>
    obtain ⟨d, hd⟩ := step_simulates kind h c
    obtain ⟨answered, hanswered⟩ := ih (step kind h d).1
    refine ⟨d :: answered, ?_⟩
    rw [run_cons, run_cons, ← hd]
    exact hanswered

end Succeeding

end Calls

section Failures

def allSucceed : TransportAnswers Unit :=
  transportAnswersOf ⟨[()], [()], fun _ => none⟩ .invalid

/-- The device is chosen, and its activation fails. -/
def notActivated : List (Call Unit) :=
  [.setDeviceIndex 0 allSucceed.toSelection,
    .initTransport {allSucceed with activateAudioInterfaceAsync := false}]

/-- The device is chosen, and its client refuses its properties. -/
def noProperties : List (Call Unit) :=
  [.setDeviceIndex 0 allSucceed.toSelection,
    .initTransport {allSucceed with setClientProperties := false}]

theorem activation_unreported :
    ¬ Justified Reported (run (step .capture) create notActivated).2 ∧
      ¬ Justified Reported (run (step .render) create noProperties).2 := by
  constructor
  · intro h
    have hused : false = true := h [.initMixer (-1)] (.usedClient false) [] (by decide)
    cases hused
  · intro h
    have hzero := h [.initMixer (-1), .usedClient true] (.initTransport 0) [] (by decide) rfl
    revert hzero
    decide

end Failures

end WeiRtcNative.Audio.Activation
