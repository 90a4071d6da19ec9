import WeiRtcNative.VideoCapture.CapabilityMap
import WeiRtcNative.VideoCapture.DeviceNames

/-!
# The camera that is opened

`CameraCapturer` asks for the id of the first camera and hands it to the capture module and to the
list of capabilities, where it is turned back into a wide string. It does not look at the result of
`GetDeviceName`, and its buffer is shorter than an id may be. `StartCapture` then opens a camera by
the `profile_id` of the capability, which only a capability from a profile has: all others open the
camera that Windows takes without an id.
-/

namespace WeiRtcNative.VideoCapture.OpenedCamera

open Utf16 DeviceId DeviceNames CapabilityMap Formats
set_option autoImplicit false

section Ids

/-- A conversion that agrees with UTF-8 where its input does. -/
structure Standard extends DeviceId.Utf16 where
  units_utf8 : ∀ cs, units (utf8 cs) = encode cs

def standard : Standard where
  units bytes := (utf16? bytes).getD []
  length_units bytes := by
    cases h : utf16? bytes with
    | none => simp
    | some us => simpa using length_utf16?_le h
  units_utf8 cs := by simp

/-- `GetDeviceName(0, nullptr, 0, id, sizeof(id), nullptr, 0)` -/
def firstCamera : Request where
  deviceNumber := 0
  length
    | .deviceUniqueId => 256
    | .deviceName | .productUniqueId => 0

/-- `char id[256]` after the call; `stack` is what it held before, or what a conversion that failed
has left there. -/
def idAfter (stack : List UInt8) (written : List Written) : List UInt8 :=
  match written.find? fun w => w.text = .deviceUniqueId with
  | some ⟨_, some bytes⟩ => bytes ++ stack.drop bytes.length
  | some ⟨_, none⟩ => stack
  | none => stack

/-- The string in a buffer, if it ends there. -/
def readString (buffer : List UInt8) : Option CString :=
  if 0 ∈ buffer then
    some ⟨buffer.takeWhile (· ≠ 0), fun h => by simpa using List.mem_takeWhile_imp h⟩
  else none

variable (utf16 : Standard) (fails : DeviceNames.Site → Option HResult)
  (devices : List DeviceInformation)

/-- The id with which `CameraCapturer` goes on. -/
def cameraId (stack : List UInt8) : Option CString :=
  readString (idAfter stack (getDeviceName fails devices firstCamera).2)

/-- The module takes the id, and the capabilities are those of the camera with this wide id. -/
structure Recovered (id : CString) (deviceId : List UInt16) : Prop where
  init : (DeviceId.init utf16.toUtf16 none id).value = (0, some id)
  queried : (queriedId utf16.toUtf16 id).value = some (deviceId ++ [0])

/-- The id is well-formed UTF-16 without a NUL, and fits the buffer in UTF-8. -/
structure Recoverable (id : List UInt16) : Prop where
  noNul : 0 ∉ id
  wellFormed : wellFormed id = true
  short : (utf8 (decode id)).length < 256

theorem cString_eq {id : List UInt16} (h : 0 ∉ id) : cString id = id := by
  unfold cString
  rw [List.takeWhile_eq_self_iff]
  intro u hu
  have hne : u ≠ 0 := by
    rintro rfl
    exact h hu
  simpa using hne

theorem cString_noNul (id : List UInt16) : 0 ∉ cString id := by
  intro h
  simpa using List.mem_takeWhile_imp h

theorem readString_converted {us : List UInt16} (hus : 0 ∉ us) (rest : List UInt8) :
    ∃ id : CString, readString (converted us ++ rest) = some id ∧ id.bytes = utf8 (decode us) := by
  have hbytes : 0 ∉ utf8 (decode us) := zero_notMem_utf8 (toNat_ne_zero_of_mem_decode hus)
  have hread : (converted us ++ rest).takeWhile (· ≠ 0) = utf8 (decode us) := by
    unfold converted
    rw [List.append_assoc, List.takeWhile_append_of_pos]
    · simp
    · intro b hb
      have hne : b ≠ 0 := by
        rintro rfl
        exact hbytes hb
      simpa using hne
  unfold readString
  rw [if_pos (by simp [converted])]
  exact ⟨_, rfl, hread⟩

variable {utf16} in
/-- A text comes back from its UTF-8 form just if it has no terminator and no lone surrogate. -/
theorem recovered_iff {us : List UInt16} {id : CString} (hid : id.bytes = utf8 (decode us))
    (hshort : id.bytes.length < 256) (deviceId : List UInt16) :
    Recovered utf16 id deviceId ↔ deviceId = encode (decode us) := by
  have hlt : id.bytes.length < kVideoCaptureUniqueNameLength := by
    unfold kVideoCaptureUniqueNameLength
    omega
  have hnotLong : strnlen id kVideoCaptureUniqueNameLength ≠ kVideoCaptureUniqueNameLength := by
    rw [Ne, strnlen_eq_iff]
    omega
  have hunits : utf16.units id.bytes = encode (decode us) := by
    rw [hid]
    exact utf16.units_utf8 _
  have hconverts := converts_of_lt utf16.toUtf16 id hlt
  have hwritten : (multiByteToWideChar utf16.toUtf16 id sizeofDeviceIdW).written =
      encode (decode us) ++ [0] := by
    have hresult :=
      mt (multiByteToWideChar_result_eq_zero utf16.toUtf16 id sizeofDeviceIdW).mpr hconverts
    simp only [multiByteToWideChar, hunits] at hresult ⊢
    rw [if_pos]
    simp only [List.length_append, List.length_singleton]
    omega
  constructor
  · intro h
    have hqueried := h.queried
    simp only [queriedId, if_neg hnotLong, if_neg hconverts, hwritten] at hqueried
    simpa [eq_comm] using hqueried
  · rintro rfl
    refine ⟨?_, ?_⟩
    · simp only [DeviceId.init, if_neg hconverts, setDeviceUniqueId, if_neg hnotLong]
      rfl
    · simp only [queriedId, if_neg hnotLong, if_neg hconverts, hwritten]

variable {fails devices} in
/-- A string is read back if the conversion has succeeded. -/
theorem written_of_readString {stack : List UInt8} (hstack : 0 ∉ stack) {id : CString}
    (h : cameraId fails devices stack = some id) :
    ∃ w ∈ (getDeviceName fails devices firstCamera).2, w.text = .deviceUniqueId ∧
      ∃ bytes, w.bytes = some bytes ∧ readString (bytes ++ stack.drop bytes.length) = some id := by
  have hunread : readString stack = none := if_neg hstack
  unfold cameraId idAfter at h
  cases hfind : (getDeviceName fails devices firstCamera).2.find? fun w => w.text = .deviceUniqueId with
  | none =>
    rw [hfind, hunread] at h
    cases h
  | some w =>
    rw [hfind] at h
    have htext := List.find?_some hfind
    obtain ⟨text, bytes⟩ := w
    cases bytes with
    | none =>
      rw [hunread] at h
      cases h
    | some bytes => exact ⟨_, List.mem_of_find?_eq_some hfind, by simpa using htext, bytes, rfl, h⟩

theorem firstCamera_wants (text : Text) : firstCamera.wants text ↔ text = .deviceUniqueId := by
  cases text <;> decide

theorem firstCamera_number : devices[firstCamera.deviceNumber.toNat]? = devices.head? :=
  List.head?_eq_getElem?.symm

variable {utf16 fails devices} {info : DeviceInformation}

/-- What comes back from a stack without a terminator was written by `GetDeviceName`. -/
theorem recoverable_of_recovered (hinfo : devices.head? = some info) {stack : List UInt8}
    (hstack : 0 ∉ stack) {id : CString} (hid : cameraId fails devices stack = some id)
    (h : Recovered utf16 id info.id) :
    (∀ site ∈ Site.get .deviceUniqueId :: openingSites, fails site = none) ∧
      Recoverable info.id := by
  obtain ⟨w, hw, htext, bytes, hbytes, hread⟩ := written_of_readString hstack hid
  obtain ⟨-, hnone | ⟨info', hinfo', hcomplete⟩⟩ :=
    getDeviceName_writes fails devices firstCamera w hw
  · rw [hnone] at hbytes
    cases hbytes
  rw [firstCamera_number, hinfo] at hinfo'
  cases hinfo'
  obtain ⟨hget, us, hus, hfits⟩ := hcomplete.delivers ((firstCamera_wants _).mpr htext)
  have hconverted : bytes = converted (cString info.id) := by
    have hwritten := hcomplete.bytes
    rw [hbytes, htext] at hwritten
    simpa [DeviceInformation.text] using hwritten
  rw [htext] at hget hus hfits
  cases hus
  have hlength : (utf8 (decode (cString info.id))).length + 1 ≤ 256 := by
    simpa [converted, firstCamera] using hfits.1
  obtain ⟨id', hid', hutf8⟩ := readString_converted (cString_noNul info.id)
    (stack.drop bytes.length)
  rw [hconverted] at hread hid'
  rw [hid'] at hread
  cases hread
  have hback := (recovered_iff hutf8 (by rw [hutf8]; omega) info.id).mp h
  have hnoNul : 0 ∉ info.id := by
    rw [hback]
    exact zero_notMem_encode (toNat_ne_zero_of_mem_decode (cString_noNul info.id))
  rw [cString_eq hnoNul] at hback hlength
  refine ⟨?_, hnoNul, (encode_decode_iff _).mp hback.symm, by omega⟩
  intro site hsite
  rcases List.mem_cons.mp hsite with rfl | hsite
  · exact hget
  · exact hcomplete.opened site hsite

theorem firstCamera_delivers
    (hsites : ∀ site ∈ Site.get .deviceUniqueId :: openingSites, fails site = none)
    (hid : Recoverable info.id) (text : Text) : Delivers fails info firstCamera text := by
  intro htext
  obtain rfl := (firstCamera_wants text).mp htext
  refine ⟨hsites _ List.mem_cons_self, cString info.id, rfl, ?_, by decide⟩
  rw [cString_eq hid.noNul]
  have hlength : (converted info.id).length = (utf8 (decode info.id)).length + 1 := by
    simp [converted]
  rw [hlength]
  exact hid.short

variable (utf16) in
theorem recovered_of_recoverable (hinfo : devices.head? = some info)
    (hsites : ∀ site ∈ Site.get .deviceUniqueId :: openingSites, fails site = none)
    (hid : Recoverable info.id) (stack : List UInt8) :
    ∃ id, cameraId fails devices stack = some id ∧ Recovered utf16 id info.id := by
  have hok := (getDeviceNameInternal_ok_iff fails devices firstCamera
    (firstCamera.written info)).mpr ⟨fun site hsite => hsites site (List.mem_cons_of_mem _ hsite),
      info, (firstCamera_number devices).trans hinfo, firstCamera_delivers hsites hid, rfl⟩
  have hwritten : (getDeviceName fails devices firstCamera).2 =
      [⟨.deviceUniqueId, some (converted (cString info.id))⟩] := by
    unfold getDeviceName
    rw [hok]
    simp [Request.written, firstCamera_wants, DeviceInformation.text]
  obtain ⟨id, hread, hutf8⟩ := readString_converted hid.noNul
    (stack.drop (converted (cString info.id)).length)
  refine ⟨id, ?_, (recovered_iff hutf8 ?_ info.id).mpr ?_⟩
  · unfold cameraId idAfter
    rw [hwritten]
    simpa [cString_eq hid.noNul] using hread
  · rw [hutf8]
    exact hid.short
  · exact ((encode_decode_iff _).mpr hid.wellFormed).symm

variable (utf16 fails devices) in
/-- Whatever was on the stack, the id of the first camera reaches the module and the list of
capabilities just if no call fails, there is a camera, and its id is well-formed UTF-16 without a
NUL and takes less than 256 bytes. -/
theorem first_id_recovered_iff :
    (∃ info, devices.head? = some info ∧ ∀ stack : List UInt8, stack.length = 256 →
      ∃ id, cameraId fails devices stack = some id ∧ Recovered utf16 id info.id) ↔
    (∀ site ∈ Site.get .deviceUniqueId :: openingSites, fails site = none) ∧
      ∃ info, devices.head? = some info ∧ Recoverable info.id := by
  constructor
  · rintro ⟨info, hinfo, hrecovers⟩
    have hstack : (0 : UInt8) ∉ List.replicate 256 1 := by
      intro h
      cases List.eq_of_mem_replicate h
    obtain ⟨id, hid, hrecovered⟩ := hrecovers (List.replicate 256 1) List.length_replicate
    obtain ⟨hsites, hrecoverable⟩ := recoverable_of_recovered hinfo hstack hid hrecovered
    exact ⟨hsites, info, hinfo, hrecoverable⟩
  · rintro ⟨hsites, info, hinfo, hid⟩
    exact ⟨info, hinfo, fun stack _ => recovered_of_recoverable utf16 hinfo hsites hid stack⟩

/-- The id ends with a character outside the basic plane. -/
def pluggedCamera : DeviceInformation := ⟨wide "Front", wide "USB#" ++ [0xD83D, 0xDCF7]⟩

theorem pluggedCamera_recovered :
    ∃ info, [pluggedCamera].head? = some info ∧ ∀ stack : List UInt8, stack.length = 256 →
      ∃ id, cameraId (fun _ => none) [pluggedCamera] stack = some id ∧
        Recovered standard id info.id :=
  (first_id_recovered_iff standard (fun _ => none) [pluggedCamera]).mpr
    ⟨fun _ _ => rfl, pluggedCamera, rfl, ⟨by decide, by decide, by decide⟩⟩

end Ids

inductive StreamingCaptureMode where
  | audioAndVideo
  | audio
  | video
  deriving DecidableEq, Repr

inductive MediaCaptureMemoryPreference where
  | auto
  | cpu
  deriving DecidableEq, Repr

structure InitializationSettings where
  videoDeviceId : Option (List UInt16)
  streamingCaptureMode : StreamingCaptureMode
  videoProfile : Option Object
  recordMediaDescription : Option Object
  memoryPreference : MediaCaptureMemoryPreference
  deriving DecidableEq, Repr

def InitializationSettings.create : InitializationSettings :=
  ⟨none, .audioAndVideo, none, none, .auto⟩

/-- The calls of `StartCapture` up to its settings. -/
inductive SettingsCall where
  | queryVideoProfile
  | queryProfileDescription
  | activateInstance
  | putVideoDeviceId
  | putStreamingCaptureMode
  | asSettings4
  | putVideoProfile
  | putRecordMediaDescription
  | asSettings5
  | putMemoryPreference
  deriving DecidableEq, Repr

section Settings
variable (fails : SettingsCall → Option HResult)

/-- `put` is called on the settings if `wanted`. -/
def setting (wanted : Bool) (site : SettingsCall)
    (put : InitializationSettings → InitializationSettings) (settings : InitializationSettings) :
    Except HResult InitializationSettings :=
  if wanted then
    match fails site with
    | some hr => throw hr
    | none => return put settings
  else return settings

def createMediaCaptureInitializationSettings (deviceId : List UInt16)
    (videoProfile profileDescription : Option Object) :
    Except HResult InitializationSettings := do
  let s ← setting fails true .activateInstance id .create
  let s ← setting fails (videoProfile.isNone && profileDescription.isNone && !deviceId.isEmpty)
    .putVideoDeviceId (fun s => {s with videoDeviceId := some deviceId}) s
  let s ← setting fails true .putStreamingCaptureMode
    (fun s => {s with streamingCaptureMode := .audioAndVideo}) s
  let s ← setting fails true .asSettings4 id s
  let s ← setting fails videoProfile.isSome .putVideoProfile
    (fun s => {s with videoProfile := videoProfile}) s
  let s ← setting fails profileDescription.isSome .putRecordMediaDescription
    (fun s => {s with recordMediaDescription := profileDescription}) s
  let s ← setting fails true .asSettings5 id s
  setting fails true .putMemoryPreference (fun s => {s with memoryPreference := .cpu}) s

/-- The beginning of `VideoCaptureWinRTInternal::StartCapture`; `_deviceUniqueId` has no part. -/
def startSettings (capability : Capability) : Except HResult InitializationSettings := do
  let _ ← setting fails capability.mediaCaptureVideoProfile.isSome .queryVideoProfile id .create
  let _ ← setting fails capability.recordMediaDescription.isSome .queryProfileDescription id .create
  createMediaCaptureInitializationSettings fails capability.profileId
    capability.mediaCaptureVideoProfile capability.recordMediaDescription

end Settings

/-- The loop of the constructor of `CameraCapturer`. -/
def pickFrom (capability : Capability) : List Capability → Capability
  | [] => capability
  | c :: cs => if skipped c.videoType then pickFrom c cs else c

def defaultCapability : Capability where
  toVideoCaptureCapability := .create
  interlaced := false
  profileId := []
  mediaCaptureVideoProfile := none
  recordMediaDescription := none

section Calls

/-- The call is made for this capability. -/
def made (c : Capability) : SettingsCall → Bool
  | .queryVideoProfile | .putVideoProfile => c.mediaCaptureVideoProfile.isSome
  | .queryProfileDescription | .putRecordMediaDescription => c.recordMediaDescription.isSome
  | .putVideoDeviceId =>
    c.mediaCaptureVideoProfile.isNone && c.recordMediaDescription.isNone && !c.profileId.isEmpty
  | .activateInstance | .putStreamingCaptureMode | .asSettings4 | .asSettings5
  | .putMemoryPreference => true

/-- The settings that the capability asks for. -/
def settingsOf (c : Capability) : InitializationSettings where
  videoDeviceId := if made c .putVideoDeviceId then some c.profileId else none
  streamingCaptureMode := .audioAndVideo
  videoProfile := c.mediaCaptureVideoProfile
  recordMediaDescription := c.recordMediaDescription
  memoryPreference := .cpu

variable {fails : SettingsCall → Option HResult}

theorem bind_ok_iff {α β : Type} {m : Except HResult α} {f : α → Except HResult β} {b : β} :
    m >>= f = .ok b ↔ ∃ a, m = .ok a ∧ f a = .ok b := by
  cases m with
  | ok a => simp [bind, Except.bind]
  | error hr => simp [bind, Except.bind]

theorem setting_ok_iff (wanted : Bool) (site : SettingsCall)
    (put : InitializationSettings → InitializationSettings) (s s' : InitializationSettings) :
    setting fails wanted site put s = .ok s' ↔
      (wanted = true → fails site = none) ∧ s' = if wanted then put s else s := by
  unfold setting
  cases wanted with
  | false => simp [pure, Except.pure, eq_comm]
  | true =>
    cases hsite : fails site with
    | none => simp [pure, Except.pure, eq_comm]
    | some hr => simp [throw, throwThe, MonadExceptOf.throw]

/-- `StartCapture` gets its settings just if no call that it makes for them fails. -/
theorem startSettings_ok_iff (c : Capability) (s : InitializationSettings) :
    startSettings fails c = .ok s ↔
      (∀ call, made c call = true → fails call = none) ∧ s = settingsOf c := by
  have hcalls : (∀ call, made c call = true → fails call = none) ↔
      (c.mediaCaptureVideoProfile.isSome = true →
        fails .queryVideoProfile = none ∧ fails .putVideoProfile = none) ∧
      (c.recordMediaDescription.isSome = true →
        fails .queryProfileDescription = none ∧ fails .putRecordMediaDescription = none) ∧
      (made c .putVideoDeviceId = true → fails .putVideoDeviceId = none) ∧
      fails .activateInstance = none ∧ fails .putStreamingCaptureMode = none ∧
      fails .asSettings4 = none ∧ fails .asSettings5 = none ∧ fails .putMemoryPreference = none := by
    constructor
    · intro h
      exact ⟨fun hsome => ⟨h _ hsome, h _ hsome⟩, fun hsome => ⟨h _ hsome, h _ hsome⟩, h _, h _ rfl,
        h _ rfl, h _ rfl, h _ rfl, h _ rfl⟩
    · rintro ⟨hprofile, hdescription, hid, hactivate, hmode, h4, h5, hmemory⟩ call hmade
      cases call with
      | queryVideoProfile => exact (hprofile hmade).1
      | putVideoProfile => exact (hprofile hmade).2
      | queryProfileDescription => exact (hdescription hmade).1
      | putRecordMediaDescription => exact (hdescription hmade).2
      | putVideoDeviceId => exact hid hmade
      | activateInstance => exact hactivate
      | putStreamingCaptureMode => exact hmode
      | asSettings4 => exact h4
      | asSettings5 => exact h5
      | putMemoryPreference => exact hmemory
  rw [hcalls]
  obtain ⟨base, interlaced, profileId, videoProfile, description⟩ := c
  unfold startSettings createMediaCaptureInitializationSettings
  simp only [bind_ok_iff, setting_ok_iff, and_assoc, exists_and_left, exists_eq_left, forall_const,
    ite_true, id_eq, ite_self, settingsOf, made]
  rcases videoProfile with _ | profile
  all_goals
    rcases description with _ | description
    all_goals
      rcases profileId with _ | ⟨u, us⟩
      all_goals
        simp [InitializationSettings.create]
        try tauto

end Calls

/-- Which camera Windows takes for a profile, for an id, and without either. -/
structure Windows (Camera : Type) where
  ofProfile : Object → Camera
  ofId : List UInt16 → Option Camera
  default : Camera

def Windows.opens {Camera : Type} (windows : Windows Camera) (settings : InitializationSettings) :
    Option Camera :=
  match settings.videoProfile, settings.videoDeviceId with
  | some profile, _ => some (windows.ofProfile profile)
  | none, some id => windows.ofId id
  | none, none => some windows.default

/-- A camera of Windows, with its profiles. -/
structure Plugged {Camera : Type} (windows : Windows Camera) extends Device where
  camera : Camera
  ofProfile : ∀ profile ∈ videoProfiles, windows.ofProfile profile.object = camera

section Picks

/-- The constructor and the search of `StartCapture` go by the same capability. -/
theorem pickFrom_capability (c : Capability) (cs : List Capability) :
    (pickFrom c cs).toVideoCaptureCapability =
      pickCapability c.toVideoCaptureCapability (cs.map Capability.toVideoCaptureCapability) := by
  induction cs generalizing c with
  | nil => rfl
  | cons d cs ih =>
    rw [pickFrom, List.map_cons, pickCapability]
    split
    · exact ih d
    · rfl

theorem pickFrom_append_kept {as : List Capability} (h : ∃ a ∈ as, skipped a.videoType = false)
    (c : Capability) (bs : List Capability) : pickFrom c (as ++ bs) = pickFrom c as := by
  induction as generalizing c with
  | nil =>
    obtain ⟨a, ha, -⟩ := h
    cases ha
  | cons a as ih =>
    rw [List.cons_append, pickFrom, pickFrom]
    split
    · rename_i hskipped
      obtain ⟨b, hb, hkept⟩ := h
      rcases List.mem_cons.mp hb with rfl | hb
      · rw [hskipped] at hkept
        cases hkept
      · exact ih ⟨b, hb, hkept⟩ a
    · rfl

theorem pickFrom_append_skipped {as : List Capability} (h : ∀ a ∈ as, skipped a.videoType = true)
    (c : Capability) (bs : List Capability) :
    pickFrom c (as ++ bs) = pickFrom (pickFrom c as) bs := by
  induction as generalizing c with
  | nil => rfl
  | cons a as ih =>
    have ha := h a List.mem_cons_self
    rw [List.cons_append, pickFrom, pickFrom, if_pos ha, if_pos ha]
    exact ih (fun b hb => h b (List.mem_cons_of_mem a hb)) a

theorem pickFrom_mem {cs : List Capability} (hcs : cs ≠ []) (c : Capability) :
    pickFrom c cs ∈ cs := by
  induction cs generalizing c with
  | nil => exact absurd rfl hcs
  | cons d cs ih =>
    rw [pickFrom]
    split
    · cases cs with
      | nil => exact List.mem_cons_self
      | cons e cs => exact List.mem_cons_of_mem d (ih (by simp) d)
    · exact List.mem_cons_self

/-- The first capability that is not skipped is one of a profile; or all are skipped, and the last
one is. -/
def PicksProfile (device : Device) : Prop :=
  (∃ profile ∈ device.videoProfiles, ∃ d ∈ profile.supportedRecordMediaDescription,
    skipped (toVideoType d.subtype) = false) ∨
  (device.streamProperties = [] ∧
    ∃ profile ∈ device.videoProfiles, profile.supportedRecordMediaDescription ≠ [])

variable (device : Device) (rate : Nat → MediaRatio → UInt32)

def picked : Capability := pickFrom defaultCapability (device.capabilities rate)

/-- The capability is one of a description of one of the profiles. -/
def FromProfile (c : Capability) : Prop :=
  ∃ profile ∈ device.videoProfiles, ∃ d ∈ profile.supportedRecordMediaDescription,
    c = d.capability profile

/-- The capability names no camera. -/
structure Bare (c : Capability) : Prop where
  profileId : c.profileId = []
  mediaCaptureVideoProfile : c.mediaCaptureVideoProfile = none
  recordMediaDescription : c.recordMediaDescription = none

def profileCapabilities : List Capability :=
  device.videoProfiles.flatMap fun profile =>
    profile.supportedRecordMediaDescription.map (MediaDescription.capability profile)

def controllerCapabilities : List Capability :=
  device.streamProperties.zipIdx.map fun q => q.1.capability (rate q.2 q.1.frameRate)

theorem mem_profileCapabilities (c : Capability) :
    c ∈ profileCapabilities device ↔ FromProfile device c := by
  simp [profileCapabilities, FromProfile, eq_comm]

theorem bare_of_mem {c : Capability} (hc : c ∈ controllerCapabilities device rate) : Bare c := by
  obtain ⟨q, -, rfl⟩ := List.mem_map.mp hc
  exact ⟨rfl, rfl, rfl⟩

theorem picked_cases :
    PicksProfile device ∧ FromProfile device (picked device rate) ∨
      ¬ PicksProfile device ∧ Bare (picked device rate) := by
  have hpicked : picked device rate = pickFrom defaultCapability
      (profileCapabilities device ++ controllerCapabilities device rate) := rfl
  by_cases hkept : ∃ a ∈ profileCapabilities device, skipped a.videoType = false
  · left
    have hne : profileCapabilities device ≠ [] := by
      obtain ⟨a, ha, -⟩ := hkept
      exact List.ne_nil_of_mem ha
    have hmem := pickFrom_mem hne defaultCapability
    rw [hpicked, pickFrom_append_kept hkept]
    refine ⟨.inl ?_, (mem_profileCapabilities device _).mp hmem⟩
    obtain ⟨a, ha, htype⟩ := hkept
    obtain ⟨profile, hprofile, d, hd, rfl⟩ := (mem_profileCapabilities device a).mp ha
    exact ⟨profile, hprofile, d, hd, htype⟩
  · have hskipped : ∀ a ∈ profileCapabilities device, skipped a.videoType = true := by
      intro a ha
      by_contra htype
      exact hkept ⟨a, ha, by simpa using htype⟩
    have hno : ¬ ∃ profile ∈ device.videoProfiles, ∃ d ∈ profile.supportedRecordMediaDescription,
        skipped (toVideoType d.subtype) = false := by
      rintro ⟨profile, hprofile, d, hd, htype⟩
      exact hkept ⟨_, (mem_profileCapabilities device _).mpr ⟨profile, hprofile, d, hd, rfl⟩, htype⟩
    rw [hpicked, pickFrom_append_skipped hskipped]
    by_cases hstream : device.streamProperties = []
    · simp only [controllerCapabilities, hstream, List.zipIdx_nil, List.map_nil, pickFrom]
      by_cases hnil : profileCapabilities device = []
      · right
        rw [hnil]
        refine ⟨?_, ⟨rfl, rfl, rfl⟩⟩
        rintro (hfirst | ⟨-, profile, hprofile, hdescriptions⟩)
        · exact hno hfirst
        · obtain ⟨d, hd⟩ := List.exists_mem_of_ne_nil _ hdescriptions
          have hmem := (mem_profileCapabilities device _).mpr ⟨profile, hprofile, d, hd, rfl⟩
          rw [hnil] at hmem
          cases hmem
      · left
        have hfrom := (mem_profileCapabilities device _).mp (pickFrom_mem hnil defaultCapability)
        refine ⟨.inr ⟨hstream, ?_⟩, hfrom⟩
        obtain ⟨profile, hprofile, d, hd, -⟩ := hfrom
        exact ⟨profile, hprofile, List.ne_nil_of_mem hd⟩
    · right
      constructor
      · rintro (hfirst | ⟨hnil, -⟩)
        · exact hno hfirst
        · exact hstream hnil
      · apply bare_of_mem device rate
        exact pickFrom_mem (by simpa [controllerCapabilities] using hstream) _

end Picks

variable {Camera : Type} {windows : Windows Camera}

/-- The camera that `StartCapture` opens, if it gets its settings. -/
def openedBy (windows : Windows Camera) (fails : SettingsCall → Option HResult) (c : Capability) :
    Option Camera :=
  match startSettings fails c with
  | .ok settings => windows.opens settings
  | .error _ => none

theorem openedBy_iff (fails : SettingsCall → Option HResult) (c : Capability) (camera : Camera) :
    openedBy windows fails c = some camera ↔
      (∀ call, made c call = true → fails call = none) ∧
        windows.opens (settingsOf c) = some camera := by
  unfold openedBy
  cases hstart : startSettings fails c with
  | ok settings =>
    obtain ⟨hcalls, rfl⟩ := (startSettings_ok_iff c settings).mp hstart
    exact ⟨fun hopens => ⟨hcalls, hopens⟩, fun h => h.2⟩
  | error hr =>
    have hnot : ¬ ∀ call, made c call = true → fails call = none := by
      intro hcalls
      have hok := (startSettings_ok_iff c (settingsOf c)).mpr ⟨hcalls, rfl⟩
      rw [hstart] at hok
      cases hok
    simp [hnot]

theorem opens_fromProfile (plugged : Plugged windows) {c : Capability}
    (hc : FromProfile plugged.toDevice c) : windows.opens (settingsOf c) = some plugged.camera := by
  obtain ⟨profile, hprofile, d, hd, rfl⟩ := hc
  rw [← plugged.ofProfile profile hprofile]
  rfl

theorem opens_bare {c : Capability} (hc : Bare c) :
    windows.opens (settingsOf c) = some windows.default := by
  simp [Windows.opens, settingsOf, made, hc.mediaCaptureVideoProfile, hc.profileId]

/-- The capabilities that do not come from a profile name no camera. `CameraCapturer` opens the
camera whose capabilities it has read just if no call fails and that camera is the one Windows takes
without an id, or its capability is one of a profile. -/
theorem camera_opened_iff (plugged : Plugged windows) (fails : SettingsCall → Option HResult)
    (rate : Nat → MediaRatio → UInt32) :
    (plugged.toDevice.capabilities rate =
        profileCapabilities plugged.toDevice ++ controllerCapabilities plugged.toDevice rate ∧
      ∀ c ∈ controllerCapabilities plugged.toDevice rate, Bare c) ∧
    (openedBy windows fails (picked plugged.toDevice rate) = some plugged.camera ↔
      (∀ call, made (picked plugged.toDevice rate) call = true → fails call = none) ∧
        (windows.default = plugged.camera ∨ PicksProfile plugged.toDevice)) := by
  refine ⟨⟨rfl, fun c hc => bare_of_mem plugged.toDevice rate hc⟩, ?_⟩
  rw [openedBy_iff]
  apply and_congr_right
  intro _
  rcases picked_cases plugged.toDevice rate with ⟨hpicks, hfrom⟩ | ⟨hpicks, hbare⟩
  · simp [opens_fromProfile plugged hfrom, hpicks]
  · simp [opens_bare hbare, hpicks]

/-- Windows takes the front camera, number 0, without an id; the profile 7 is one of the back
camera. -/
def frontAndBack : Windows Nat where
  ofProfile object := if object = 7 then 1 else 0
  ofId _ := none
  default := 0

def backCamera : Plugged frontAndBack where
  videoProfiles := [⟨7, wide "HDR", [⟨8, 640, 480, 30, wide "NV12"⟩]⟩]
  streamProperties := [⟨1280, 720, ⟨30, 1⟩, wide "NV12"⟩]
  camera := 1
  ofProfile := by simp [frontAndBack]

theorem backCamera_opened :
    openedBy frontAndBack (fun _ => none)
      (picked backCamera.toDevice fun _ => MediaRatio.rate) = some 1 :=
  (camera_opened_iff backCamera (fun _ => none) fun _ => MediaRatio.rate).2.mpr
    ⟨fun _ _ => rfl, .inr (.inl ⟨_, List.mem_singleton.mpr rfl, _, List.mem_singleton.mpr rfl,
      by decide⟩)⟩

end WeiRtcNative.VideoCapture.OpenedCamera
