import WeiRtcNative.Lib.Machine

/-!
# AudioDeviceHelper: the selected device and the audio client

`SetDevice` chooses the device, `InitMixer` activates an audio client for it and
`InitTransport` prepares that client; each of the last two returns at once when it was done
before. A client is known by the device it was activated for. All calls of Windows succeed,
but the devices they report may be others each time.
-/

namespace WeiRtcNative.Audio.DeviceSelection

open Machine
set_option autoImplicit false

/-- `invalid` stands for all values that `SetDevice` refuses. -/
inductive WindowsDeviceType where
  | kDefaultCommunicationDevice
  | kDefaultDevice
  | invalid
  deriving DecidableEq, Repr

section Calls
variable {Device : Type}

structure Helper (Device : Type) where
  deviceInformation : Option Device
  usingDeviceIndex : Bool
  deviceIndex : UInt16
  deviceType : WindowsDeviceType
  mixerInitialized : Bool
  transportInitialized : Bool
  transporting : Bool
  hThread : Bool
  audioClient : Option Device
  crashed : Bool
  deriving DecidableEq, Repr

def Helper.create : Helper Device where
  deviceInformation := none
  usingDeviceIndex := false
  deviceIndex := 0xFFFF
  deviceType := .invalid
  mixerInitialized := false
  transportInitialized := false
  transporting := false
  hThread := false
  audioClient := none
  crashed := false

/-- What Windows reports during a call: the devices counted by `Devices`, those found by
`SetDevice`, and the default device of each type, if it has an id. -/
structure Endpoints (Device : Type) where
  counted : List Device
  found : List Device
  defaultDevice : WindowsDeviceType → Option Device

def setDeviceIndex (h : Helper Device) (e : Endpoints Device) (index : UInt16) :
    Helper Device × Int :=
  let index := if index = 0xFFFF then 0 else index
  match e.found[index.toNat]? with
  | none => (h, -1)
  | some device =>
    ({h with deviceInformation := some device, deviceIndex := index, usingDeviceIndex := true}, 0)

def setDeviceType (h : Helper Device) (e : Endpoints Device) (type : WindowsDeviceType) :
    Helper Device × Int :=
  if type = .invalid then (h, -1)
  else
    match e.defaultDevice type with
    | none => (h, -1)
    | some device =>
      ({h with deviceInformation := some device, deviceType := type, usingDeviceIndex := false}, 0)

def devices (e : Endpoints Device) : Int := (Int16.ofNat e.counted.length).toInt

def setDeviceAgain (h : Helper Device) (e : Endpoints Device) : Helper Device × Int :=
  if h.usingDeviceIndex then
    if devices e - 1 < h.deviceIndex.toNat then (h, -1)
    else setDeviceIndex h e h.deviceIndex
  else setDeviceType h e h.deviceType

def initMixer (h : Helper Device) (e : Endpoints Device) : Helper Device × Int :=
  if h.mixerInitialized then (h, 0)
  else if h.transporting || h.deviceInformation.isNone then (h, -1)
  else
    let (h, ret) := setDeviceAgain h e
    if ret ≠ 0 then (h, -1)
    else ({h with audioClient := h.deviceInformation, mixerInitialized := true}, 0)

/-- A failure of `InitMixer` is only logged; without a client the next line dereferences a
null pointer, and there is no result. -/
def initTransport (h : Helper Device) (e : Endpoints Device) : Helper Device × Option Int :=
  if h.transporting then (h, some (-1))
  else if h.transportInitialized then (h, some 0)
  else if h.deviceInformation.isNone then (h, some (-1))
  else
    let (h, _) := initMixer h e
    if h.audioClient.isNone then ({h with crashed := true}, none)
    else ({h with transportInitialized := true}, some 0)

/-- `joined` tells whether the thread ended before the wait for it did. -/
def stopTransport (h : Helper Device) (joined : Bool) : Helper Device × Int :=
  if !h.transporting then (h, 0)
  else if !h.hThread then ({h with transporting := false}, 0)
  else ({h with transporting := false, hThread := false}, if joined then 0 else -1)

def startTransport (h : Helper Device) (started joined : Bool) : Helper Device × Int :=
  if !h.transportInitialized then (h, -1)
  else if h.hThread then (h, 0)
  else if h.transporting then (h, 0)
  else if started then ({h with hThread := true, transporting := true}, 0)
  else ((stopTransport {h with hThread := true, transporting := true} joined).1, -1)

inductive Call (Device : Type) where
  | setDeviceIndex (index : UInt16) (e : Endpoints Device)
  | setDeviceType (type : WindowsDeviceType) (e : Endpoints Device)
  | initMixer (e : Endpoints Device)
  | initTransport (e : Endpoints Device)
  | startTransport (started joined : Bool)
  | stopTransport (joined : Bool)

/-- `activated` is an `InitMixer` that makes a client, with its device; `transportReady` is the return
of `InitTransport` or `StartTransport` with 0, with the device selected then and the device of the
client. -/
inductive Event (Device : Type) where
  | activated (device : Option Device)
  | transportReady (deviceInformation audioClient : Option Device)
  deriving DecidableEq, Repr

def activations (before after : Helper Device) : List (Event Device) :=
  if !before.mixerInitialized && after.mixerInitialized then [.activated after.audioClient] else []

def readiness (h : Helper Device) (code : Option Int) : List (Event Device) :=
  if code = some 0 then [.transportReady h.deviceInformation h.audioClient] else []

def call (h : Helper Device) : Call Device → Helper Device × List (Event Device)
  | .setDeviceIndex index e => ((setDeviceIndex h e index).1, [])
  | .setDeviceType type e => ((setDeviceType h e type).1, [])
  | .initMixer e =>
    let r := initMixer h e
    (r.1, activations h r.1)
  | .initTransport e =>
    let r := initTransport h e
    (r.1, activations h r.1 ++ readiness r.1 r.2)
  | .startTransport started joined =>
    let r := startTransport h started joined
    (r.1, readiness r.1 (some r.2))
  | .stopTransport joined => ((stopTransport h joined).1, [])

def step (h : Helper Device) (c : Call Device) : Helper Device × List (Event Device) :=
  if h.crashed then (h, []) else call h c

/-- The client was activated for the device that is selected. -/
def ForSelected : Event Device → Prop
  | .transportReady deviceInformation audioClient =>
    audioClient.isSome ∧ audioClient = deviceInformation
  | _ => True

/-- The device that the mixer was initialised for. -/
def mixerDevice (log : List (Event Device)) : Option Device :=
  log.foldl (fun last event => match event with | .activated device => device | _ => last) none

/-- The device that a call of `SetDevice` finds; any other call finds none. -/
def Call.finds : Call Device → Option Device
  | .setDeviceIndex index e => e.found[(if index = 0xFFFF then 0 else index).toNat]?
  | .setDeviceType type e => if type = .invalid then none else e.defaultDevice type
  | _ => none

/-- A call of `SetDevice` after the mixer was initialised finds the device it was initialised for, or
none. -/
def Condition (log : List (Event Device)) (c : Call Device) : Prop :=
  ∀ device ∈ c.finds, ∀ mixer ∈ mixerDevice log, device = mixer

instance [DecidableEq Device] (log : List (Event Device)) (c : Call Device) :
    Decidable (Condition log c) :=
  inferInstanceAs (Decidable (∀ device ∈ c.finds, ∀ mixer ∈ mixerDevice log, device = mixer))

/-- A call of `SetDevice` refuses, or replaces the selection by the device found. -/
inductive Selects (h : Helper Device) : Option Device → Helper Device × Int → Prop where
  | refused (found : Option Device) : Selects h found (h, -1)
  | selected (device : Device) (usingIndex : Bool) (index : UInt16) (type : WindowsDeviceType) :
    Selects h (some device) ({h with
      deviceInformation := some device
      usingDeviceIndex := usingIndex
      deviceIndex := index
      deviceType := type}, 0)

theorem setDeviceIndex_selects (h : Helper Device) (e : Endpoints Device) (index : UInt16) :
    Selects h (Call.setDeviceIndex index e).finds (setDeviceIndex h e index) := by
  unfold setDeviceIndex Call.finds
  dsimp only
  cases e.found[(if index = 0xFFFF then 0 else index).toNat]? with
  | none => exact .refused none
  | some device => exact .selected device _ _ _

theorem setDeviceType_selects (h : Helper Device) (e : Endpoints Device)
    (type : WindowsDeviceType) :
    Selects h (Call.setDeviceType type e).finds (setDeviceType h e type) := by
  unfold setDeviceType Call.finds
  dsimp only
  split
  · exact .refused none
  · cases e.defaultDevice type with
    | none => exact .refused none
    | some device => exact .selected device _ _ _

theorem setDeviceAgain_selects (h : Helper Device) (e : Endpoints Device) :
    ∃ found, Selects h found (setDeviceAgain h e) := by
  unfold setDeviceAgain
  split
  · split
    · exact ⟨none, .refused none⟩
    · exact ⟨_, setDeviceIndex_selects h e _⟩
  · exact ⟨_, setDeviceType_selects h e _⟩

inductive InitsMixer (h : Helper Device) : Helper Device × Int → Prop where
  | before : h.mixerInitialized = true → InitsMixer h (h, 0)
  | refused : h.mixerInitialized = false → InitsMixer h (h, -1)
  | activated (device : Device) (usingIndex : Bool) (index : UInt16) (type : WindowsDeviceType) :
    h.mixerInitialized = false →
    InitsMixer h ({h with
      deviceInformation := some device
      usingDeviceIndex := usingIndex
      deviceIndex := index
      deviceType := type
      audioClient := some device
      mixerInitialized := true}, 0)

theorem initMixer_effect (h : Helper Device) (e : Endpoints Device) :
    InitsMixer h (initMixer h e) := by
  unfold initMixer
  split
  · rename_i hmixer
    exact .before hmixer
  · rename_i hmixer
    rw [Bool.not_eq_true] at hmixer
    split
    · exact .refused hmixer
    · obtain ⟨found, hselects⟩ := setDeviceAgain_selects h e
      generalize setDeviceAgain h e = r at hselects
      cases hselects with
      | refused => exact .refused hmixer
      | selected device usingIndex index type =>
        exact .activated device usingIndex index type hmixer

/-- The log tells which device the client is for, and that one is still selected. -/
structure Consistent (log : List (Event Device)) (h : Helper Device) : Prop where
  activated : mixerDevice log = h.audioClient
  mixer : h.mixerInitialized = h.audioClient.isSome
  client : h.mixerInitialized = true → h.audioClient = h.deviceInformation
  transport : h.transportInitialized = true → h.mixerInitialized = true

theorem consistent_create : Consistent ([] : List (Event Device)) Helper.create := by
  refine ⟨rfl, rfl, ?_, ?_⟩
  all_goals
    intro h
    cases h

theorem Consistent.selects {log : List (Event Device)} {h : Helper Device}
    (hlog : Consistent log h) {found : Option Device}
    (hok : ∀ device ∈ found, ∀ mixer ∈ mixerDevice log, device = mixer)
    {r : Helper Device × Int} (hr : Selects h found r) : Consistent log r.1 := by
  cases hr with
  | refused => exact hlog
  | selected device usingIndex index type =>
    refine ⟨hlog.activated, hlog.mixer, ?_, hlog.transport⟩
    intro hmixer
    obtain ⟨mixer, hclient⟩ := Option.isSome_iff_exists.mp (hlog.mixer.symm.trans hmixer)
    have hsame := hok device rfl mixer (hlog.activated.trans hclient)
    dsimp only
    rw [hclient, hsame]

theorem Consistent.initsMixer {log : List (Event Device)} {h : Helper Device}
    (hlog : Consistent log h) {r : Helper Device × Int} (hr : InitsMixer h r) :
    Consistent (log ++ activations h r.1) r.1 := by
  cases hr with
  | before => simpa [activations] using hlog
  | refused => simpa [activations] using hlog
  | activated device usingIndex index type hmixer =>
    refine ⟨?_, rfl, fun _ => rfl, fun _ => rfl⟩
    simp [activations, hmixer, mixerDevice]

theorem Consistent.readiness {log : List (Event Device)} {h : Helper Device}
    (hlog : Consistent log h) (h' : Helper Device) (code : Option Int) :
    Consistent (log ++ readiness h' code) h := by
  unfold DeviceSelection.readiness
  split
  · refine ⟨?_, hlog.mixer, hlog.client, hlog.transport⟩
    simpa [mixerDevice] using hlog.activated
  · simpa using hlog

inductive InitsTransport (h : Helper Device) : Helper Device × Option Int → Prop where
  | refused : h.transporting = true ∨ h.deviceInformation.isNone = true →
    InitsTransport h (h, some (-1))
  | before : h.transporting = false → h.transportInitialized = true →
    InitsTransport h (h, some 0)
  | prepared {r : Helper Device × Int} : h.transporting = false → InitsMixer h r →
    r.1.audioClient.isSome = true →
    InitsTransport h ({r.1 with transportInitialized := true}, some 0)
  | crashed {r : Helper Device × Int} : InitsMixer h r → r.1.audioClient.isNone = true →
    InitsTransport h ({r.1 with crashed := true}, none)

theorem initTransport_effect (h : Helper Device) (e : Endpoints Device) :
    InitsTransport h (initTransport h e) := by
  have hmixer := initMixer_effect h e
  unfold initTransport
  split
  · rename_i htransporting
    exact .refused (.inl htransporting)
  · rename_i htransporting
    rw [Bool.not_eq_true] at htransporting
    split
    · rename_i htransport
      exact .before htransporting htransport
    · split
      · rename_i hdevice
        exact .refused (.inr hdevice)
      · dsimp only
        split
        · rename_i hclient
          exact .crashed hmixer hclient
        · rename_i hclient
          exact .prepared htransporting hmixer (by simpa [Option.isSome_iff_ne_none] using hclient)

/-- What `StartTransport` and `StopTransport` leave alone. -/
structure SameClient (h h' : Helper Device) : Prop where
  deviceInformation : h'.deviceInformation = h.deviceInformation
  audioClient : h'.audioClient = h.audioClient
  mixerInitialized : h'.mixerInitialized = h.mixerInitialized
  transportInitialized : h'.transportInitialized = h.transportInitialized
  crashed : h'.crashed = h.crashed

theorem stopTransport_same (h : Helper Device) (joined : Bool) :
    SameClient h (stopTransport h joined).1 := by
  unfold stopTransport
  repeat' split
  all_goals exact ⟨rfl, rfl, rfl, rfl, rfl⟩

theorem startTransport_same (h : Helper Device) (started joined : Bool) :
    SameClient h (startTransport h started joined).1 := by
  unfold startTransport stopTransport
  repeat' split
  all_goals exact ⟨rfl, rfl, rfl, rfl, rfl⟩

theorem startTransport_zero_iff (h : Helper Device) (started joined : Bool) :
    (startTransport h started joined).2 = 0 ↔
      h.transportInitialized = true ∧
        (h.hThread = true ∨ h.transporting = true ∨ started = true) := by
  unfold startTransport
  repeat' split
  all_goals simp_all

theorem Consistent.of_same {log : List (Event Device)} {h h' : Helper Device}
    (hlog : Consistent log h) (hsame : SameClient h h') : Consistent log h' := by
  obtain ⟨hdevice, hclient, hmixer, htransport, -⟩ := hsame
  constructor
  · rw [hclient]
    exact hlog.activated
  · rw [hmixer, hclient]
    exact hlog.mixer
  · rw [hmixer, hclient, hdevice]
    exact hlog.client
  · rw [htransport, hmixer]
    exact hlog.transport

theorem Consistent.prepared {log : List (Event Device)} {h : Helper Device} (hlog : Consistent log h)
    (hmixer : h.mixerInitialized = true) : Consistent log {h with transportInitialized := true} :=
  ⟨hlog.activated, hlog.mixer, hlog.client, fun _ => hmixer⟩

theorem Consistent.crash {log : List (Event Device)} {h : Helper Device} (hlog : Consistent log h) :
    Consistent log {h with crashed := true} :=
  ⟨hlog.activated, hlog.mixer, hlog.client, hlog.transport⟩

/-- Over an initialised mixer the client is for the selected device. -/
theorem Consistent.ready {log : List (Event Device)} {h : Helper Device} (hlog : Consistent log h)
    (hmixer : h.mixerInitialized = true) (code : Option Int) :
    ∀ event ∈ DeviceSelection.readiness h code, ForSelected event := by
  intro event hevent
  unfold DeviceSelection.readiness at hevent
  split at hevent
  · obtain rfl := List.mem_singleton.mp hevent
    exact ⟨hlog.mixer.symm.trans hmixer, hlog.client hmixer⟩
  · cases hevent

theorem readiness_refused (h : Helper Device) {code : Option Int} (hcode : code ≠ some 0) :
    DeviceSelection.readiness h code = [] := if_neg hcode

theorem activations_forSelected (before after : Helper Device) :
    ∀ event ∈ activations before after, ForSelected event := by
  unfold activations
  split <;> simp [ForSelected]

theorem Consistent.initsTransport {log : List (Event Device)} {h : Helper Device}
    (hlog : Consistent log h) {r : Helper Device × Option Int} (hr : InitsTransport h r) :
    Consistent (log ++ (activations h r.1 ++ DeviceSelection.readiness r.1 r.2)) r.1 ∧
      ∀ event ∈ activations h r.1 ++ DeviceSelection.readiness r.1 r.2, ForSelected event := by
  rw [← List.append_assoc, List.forall_mem_append]
  cases hr with
  | refused =>
    refine ⟨Consistent.readiness (by simpa [activations] using hlog) _ _,
      activations_forSelected _ _, ?_⟩
    rw [readiness_refused _ (by simp)]
    simp
  | before _ htransport =>
    exact ⟨Consistent.readiness (by simpa [activations] using hlog) _ _,
      activations_forSelected _ _, hlog.ready (hlog.transport htransport) _⟩
  | prepared _ hmixer hclient =>
    have hnext := hlog.initsMixer hmixer
    have hinitialized := hnext.mixer.trans hclient
    have hprepared := hnext.prepared hinitialized
    exact ⟨hprepared.readiness _ _, activations_forSelected _ _, hprepared.ready hinitialized _⟩
  | crashed hmixer =>
    refine ⟨(hlog.initsMixer hmixer).crash.readiness _ _, activations_forSelected _ _, ?_⟩
    rw [readiness_refused _ (by simp)]
    simp

/-- The events so far report clients of the selected device, and the next ones will. -/
structure Inv (log : List (Event Device)) (h : Helper Device) : Prop where
  consistent : Consistent log h
  reported : ∀ event ∈ log, ForSelected event

theorem Inv.extend {log events : List (Event Device)} {h h' : Helper Device} (hlog : Inv log h)
    (hnext : Consistent (log ++ events) h') (hevents : ∀ event ∈ events, ForSelected event) :
    Inv (log ++ events) h' :=
  ⟨hnext, List.forall_mem_append.mpr ⟨hlog.reported, hevents⟩⟩

theorem step_inv {log : List (Event Device)} {h : Helper Device} (hlog : Inv log h)
    {c : Call Device} (hok : Condition log c) : Inv (log ++ (step h c).2) (step h c).1 := by
  have hconsistent := hlog.consistent
  unfold step
  split
  · simpa using hlog
  · cases c with
    | setDeviceIndex index e =>
      have hselects := hconsistent.selects hok (setDeviceIndex_selects h e index)
      exact hlog.extend (by simpa [call] using hselects) (by simp [call])
    | setDeviceType type e =>
      have hselects := hconsistent.selects hok (setDeviceType_selects h e type)
      exact hlog.extend (by simpa [call] using hselects) (by simp [call])
    | initMixer e =>
      exact hlog.extend (hconsistent.initsMixer (initMixer_effect h e)) (activations_forSelected _ _)
    | initTransport e =>
      obtain ⟨hnext, hevents⟩ := hconsistent.initsTransport (initTransport_effect h e)
      exact hlog.extend hnext hevents
    | startTransport started joined =>
      have hnext := hconsistent.of_same (startTransport_same h started joined)
      refine hlog.extend (hnext.readiness _ _) ?_
      by_cases hreturns : (startTransport h started joined).2 = 0
      · have htransport := ((startTransport_zero_iff h started joined).mp hreturns).1
        have hmixer := (startTransport_same h started joined).mixerInitialized.trans
          (hconsistent.transport htransport)
        exact hnext.ready hmixer _
      · simp only [call, readiness_refused _ (show some _ ≠ some 0 by simpa using hreturns)]
        simp
    | stopTransport joined =>
      have hnext := hconsistent.of_same (stopTransport_same h joined)
      exact hlog.extend (by simpa [call] using hnext) (by simp [call])

/-- As long as no `SetDevice` turns from the device that the mixer was initialised for, the client in
use is the one of the selected device. -/
theorem client_for_selected (calls : List (Call Device))
    (h : Along step (fun log _ c => Condition log c) [] Helper.create calls) :
    ∀ event ∈ (run step Helper.create calls).2, ForSelected event :=
  (run_invariant step Inv (fun _ _ _ hlog hok => step_inv hlog hok)
    ⟨consistent_create, by simp⟩ h).reported

end Calls

def headsetAndSpeaker : Endpoints String where
  counted := ["headset", "speaker"]
  found := ["headset", "speaker"]
  defaultDevice _ := some "headset"

/-- The device is changed before the mixer is initialised, and selected once more afterwards. -/
def settled : List (Call String) :=
  [.setDeviceIndex 0 headsetAndSpeaker, .setDeviceIndex 1 headsetAndSpeaker,
    .initMixer headsetAndSpeaker, .setDeviceIndex 1 headsetAndSpeaker,
    .initTransport headsetAndSpeaker, .startTransport true true]

theorem settled_for_selected :
    Along step (fun log _ c => Condition log c) [] Helper.create settled ∧
      ∀ event ∈ (run step Helper.create settled).2, ForSelected event :=
  ⟨by decide, client_for_selected settled (by decide)⟩

/-- The second device is selected over an initialised mixer. -/
theorem client_of_other_device :
    ¬ ∀ event ∈ (run step Helper.create
        [.setDeviceIndex 0 headsetAndSpeaker, .initMixer headsetAndSpeaker,
          .setDeviceIndex 1 headsetAndSpeaker, .initTransport headsetAndSpeaker]).2,
      ForSelected event := by
  intro h
  have hready := h (.transportReady (some "speaker") (some "headset")) (by decide)
  exact absurd hready.2 (by decide)

end WeiRtcNative.Audio.DeviceSelection
