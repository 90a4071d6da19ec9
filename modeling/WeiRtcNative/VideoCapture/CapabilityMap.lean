import Mathlib.Data.List.Forall2
import WeiRtcNative.Lib.CallChain
import WeiRtcNative.Lib.Precision
import WeiRtcNative.VideoCapture.DeviceId
import WeiRtcNative.VideoCapture.Formats

/-!
# The capabilities of a camera

`DeviceInfoWinRT::CreateCapabilityMap` walks through the profiles of a camera, the descriptions of
each, and the stream properties of its controller. Every step is a call of Windows that may fail,
and the list built so far is dropped then. Only `SafelyComputeMediaRatio` goes on after a failure:
a rate that cannot be read counts as 0.
-/

namespace WeiRtcNative.VideoCapture.CapabilityMap

open CallChain Precision DeviceId Formats
set_option autoImplicit false

abbrev HResult := UInt32

abbrev Object := Nat

/-- The fields of `VideoCaptureCapability` that say where it comes from. -/
structure Capability extends VideoCaptureCapability where
  interlaced : Bool
  profileId : List UInt16
  mediaCaptureVideoProfile : Option Object
  recordMediaDescription : Option Object
  deriving DecidableEq, Repr

/-- An `IMediaCaptureVideoProfileMediaDescription`; the rate is a `double`. -/
structure MediaDescription where
  object : Object
  width : UInt32
  height : UInt32
  frameRate : ℚ
  subtype : List UInt16

structure VideoProfile where
  object : Object
  id : List UInt16
  supportedRecordMediaDescription : List MediaDescription

structure MediaRatio where
  numerator : UInt32
  denominator : UInt32
  deriving DecidableEq, Repr

/-- An `IVideoEncodingProperties`. -/
structure StreamProperties where
  width : UInt32
  height : UInt32
  frameRate : MediaRatio
  subtype : List UInt16
  deriving DecidableEq, Repr

structure Device where
  videoProfiles : List VideoProfile
  streamProperties : List StreamProperties

inductive DescriptionCall where
  | getAt
  | getWidth
  | getHeight
  | getFrameRate
  | asDescription2
  | getSubtype
  | profileAsUnknown
  | asUnknown
  deriving DecidableEq, Repr

inductive PropertiesCall where
  | getAt
  | asVideoEncodingProperties
  | getWidth
  | getHeight
  | getFrameRate
  | getNumerator
  | getDenominator
  | getSubtype
  deriving DecidableEq, Repr

inductive Site where
  | getActivationFactory
  | findAllVideoProfiles
  | profilesGetSize
  | profileGetAt (profile : Nat)
  | getSupportedRecordMediaDescription (profile : Nat)
  | getId (profile : Nat)
  | descriptionsGetSize (profile : Nat)
  | description (profile index : Nat) (call : DescriptionCall)
  | activateInitializationSettings
  | putVideoDeviceId
  | putStreamingCaptureMode
  | asSettings4
  | asSettings5
  | putMemoryPreference
  | getMediaCaptureWithInitSettings
  | getVideoDeviceController
  | asMediaDeviceController
  | getAvailableMediaStreamProperties
  | streamPropertiesGetSize
  | properties (index : Nat) (call : PropertiesCall)
  | asClosable
  | close
  deriving DecidableEq, Repr

def wide (text : String) : List UInt16 := text.toList.map fun c => UInt16.ofNat c.toNat

/-- `wcsncmp(a, b, count) == 0` for strings with a NUL behind them. -/
def wcsncmpEq : Nat → List UInt16 → List UInt16 → Bool
  | 0, _, _ => true
  | count + 1, a, b =>
    let x := a.headD 0
    let y := b.headD 0
    x == y && (x == 0 || wcsncmpEq count a.tail b.tail)

def formatToType : List (List UInt16 × VideoType) :=
  [(wide "I420", .kI420), (wide "I420", .kI420), (wide "IYUV", .kIYUV), (wide "RGB24", .kRGB24),
    (wide "ABGR", .kABGR), (wide "ARGB", .kARGB), (wide "ARGB4444", .kARGB4444),
    (wide "RGB565", .kRGB565), (wide "RGB565", .kRGB565), (wide "ARGB1555", .kARGB1555),
    (wide "YUY2", .kYUY2), (wide "YV12", .kYV12), (wide "UYVY", .kUYVY), (wide "MJPEG", .kMJPEG),
    (wide "NV21", .kNV21), (wide "NV12", .kNV12), (wide "BGRA", .kBGRA)]

def toVideoType (subType : List UInt16) : VideoType :=
  if subType.length < 4 ∨ 8 < subType.length then .kUnknown
  else
    match formatToType.find? fun entry => wcsncmpEq subType.length entry.1 subType with
    | some entry => entry.2
    | none => .kUnknown

def MediaRatio.rate (ratio : MediaRatio) : UInt32 :=
  if ratio.denominator ≠ 0 then ratio.numerator / ratio.denominator else 0

section Calls
variable (fails : Site → Option HResult)

def safelyComputeMediaRatio (index : Nat) (ratio : MediaRatio) : UInt32 :=
  if (fails (.properties index .getNumerator)).isSome then 0
  else if (fails (.properties index .getDenominator)).isSome then 0
  else ratio.rate

def MediaDescription.capability (profile : VideoProfile) (d : MediaDescription) : Capability where
  width := d.width.toInt32
  height := d.height.toInt32
  maxFPS := Int32.ofInt (truncate d.frameRate)
  videoType := toVideoType d.subtype
  interlaced := false
  profileId := profile.id.takeWhile (· ≠ 0)
  mediaCaptureVideoProfile := some profile.object
  recordMediaDescription := some d.object

def StreamProperties.capability (maxFPS : UInt32) (p : StreamProperties) : Capability where
  width := p.width.toInt32
  height := p.height.toInt32
  maxFPS := maxFPS.toInt32
  videoType := toVideoType p.subtype
  interlaced := false
  profileId := []
  mediaCaptureVideoProfile := none
  recordMediaDescription := none

/-- A chain of calls that pushes to `device_caps`. -/
abbrev Fill (α : Type) := Chain HResult Capability α

def addDescription (profile : VideoProfile) (i j : Nat) (d : MediaDescription) : Fill Unit := do
  let d ← call fails (.description i j .getAt) d
  let width ← call fails (.description i j .getWidth) d.width
  let height ← call fails (.description i j .getHeight) d.height
  let frameRate ← call fails (.description i j .getFrameRate) d.frameRate
  call fails (.description i j .asDescription2) ()
  let subtype ← call fails (.description i j .getSubtype) d.subtype
  let profileObject ← call fails (.description i j .profileAsUnknown) profile.object
  let object ← call fails (.description i j .asUnknown) d.object
  push (MediaDescription.capability {profile with object := profileObject}
    ⟨object, width, height, frameRate, subtype⟩)

def fillVideoCaptureCapabilityFromProfile (i : Nat) (profile : VideoProfile) : Fill Unit := do
  let descriptions ← call fails (.getSupportedRecordMediaDescription i)
    profile.supportedRecordMediaDescription
  let id ← call fails (.getId i) profile.id
  call fails (.descriptionsGetSize i) ()
  forIdx (addDescription fails {profile with id := id} i) 0 descriptions

def fillVideoCaptureCapabilityFromProfiles (profiles : List VideoProfile) : Fill Unit := do
  call fails .profilesGetSize ()
  forIdx (fun i profile => do
    let profile ← call fails (.profileGetAt i) profile
    fillVideoCaptureCapabilityFromProfile fails i profile) 0 profiles

/-- The factory is kept in `media_capture_statics_`. -/
def assureMediaCaptureStatics (mediaCaptureStatics : Bool) : Fill Unit :=
  if mediaCaptureStatics then pure () else call fails .getActivationFactory ()

def fillVideoCaptureCapabilityFromDeviceProfiles (mediaCaptureStatics : Bool) (device : Device) :
    Fill Unit := do
  assureMediaCaptureStatics fails mediaCaptureStatics
  let profiles ← call fails .findAllVideoProfiles device.videoProfiles
  fillVideoCaptureCapabilityFromProfiles fails profiles

def addStreamProperties (i : Nat) (p : StreamProperties) : Fill Unit := do
  let p ← call fails (.properties i .getAt) p
  call fails (.properties i .asVideoEncodingProperties) ()
  let width ← call fails (.properties i .getWidth) p.width
  let height ← call fails (.properties i .getHeight) p.height
  let ratio ← call fails (.properties i .getFrameRate) p.frameRate
  let maxFPS := safelyComputeMediaRatio fails i ratio
  let subtype ← call fails (.properties i .getSubtype) p.subtype
  push (StreamProperties.capability maxFPS ⟨width, height, ratio, subtype⟩)

def fillVideoCaptureCapabilityFromMediaController (device : Device) : Fill Unit := do
  let streamCapabilities ← call fails .getAvailableMediaStreamProperties device.streamProperties
  call fails .streamPropertiesGetSize ()
  forIdx (addStreamProperties fails) 0 streamCapabilities

def putVideoDeviceId (deviceId : List UInt16) : Fill Unit :=
  if 0 < deviceId.length then call fails .putVideoDeviceId () else pure ()

/-- Without a profile and a description, as it is called here. -/
def createMediaCaptureInitializationSettings (deviceId : List UInt16) : Fill Unit := do
  call fails .activateInitializationSettings ()
  putVideoDeviceId fails deviceId
  call fails .putStreamingCaptureMode ()
  call fails .asSettings4 ()
  call fails .asSettings5 ()
  call fails .putMemoryPreference ()

def fillVideoCaptureCapabilityFromDeviceWithoutProfiles (deviceId : List UInt16)
    (device : Device) : Fill Unit := do
  createMediaCaptureInitializationSettings fails deviceId
  call fails .getMediaCaptureWithInitSettings ()
  call fails .getVideoDeviceController ()
  call fails .asMediaDeviceController ()
  fillVideoCaptureCapabilityFromMediaController fails device
  call fails .asClosable ()
  call fails .close ()

/-- `DeviceInfoWinRTInternal::CreateCapabilityMap`: how it ends, and the caller's vector then. -/
def swapCapabilities (mediaCaptureStatics : Bool) (deviceId : List UInt16) (device : Device)
    (videoCaptureCapabilities : List Capability) : Except HResult Unit × List Capability :=
  let deviceCaps := outcome (do
    fillVideoCaptureCapabilityFromDeviceProfiles fails mediaCaptureStatics device
    fillVideoCaptureCapabilityFromDeviceWithoutProfiles fails deviceId device) []
  match deviceCaps.1 with
  | .ok () => (.ok (), deviceCaps.2)
  | .error hr => (.error hr, videoCaptureCapabilities)

end Calls

structure State where
  captureCapabilities : List Capability
  lastUsedDeviceName : List UInt8
  lastUsedDeviceNameLength : Nat
  mediaCaptureStatics : Bool
  deriving DecidableEq, Repr

def createCapabilityMap (utf16 : Utf16) (fails : Site → Option HResult) (device : Device)
    (s : State) (id : CString) : Int32 × State :=
  match (queriedId utf16 id).value with
  | none => (-1, s)
  | some deviceIdW =>
    let statics := s.mediaCaptureStatics || (fails .getActivationFactory).isNone
    match swapCapabilities fails s.mediaCaptureStatics (deviceIdW.takeWhile (· ≠ 0)) device
        s.captureCapabilities with
    | (.error _, capabilities) =>
      (-1, {s with captureCapabilities := capabilities, mediaCaptureStatics := statics})
    | (.ok _, capabilities) =>
      (Int32.ofNat capabilities.length,
        { captureCapabilities := capabilities
          lastUsedDeviceName := id.bytes ++ [0]
          lastUsedDeviceNameLength := strnlen id kVideoCaptureUniqueNameLength
          mediaCaptureStatics := statics })

/-- One entry for each description of each profile, then one for each of the stream properties,
whose rates are as given. -/
def Device.capabilities (device : Device) (rate : Nat → MediaRatio → UInt32) : List Capability :=
  (device.videoProfiles.flatMap fun profile =>
      profile.supportedRecordMediaDescription.map (MediaDescription.capability profile)) ++
    device.streamProperties.zipIdx.map fun q => q.1.capability (rate q.2 q.1.frameRate)

/-- The call has failed and left the list and the name alone. -/
structure Unchanged (s : State) (result : Int32) (s' : State) : Prop where
  result : result = -1
  captureCapabilities : s'.captureCapabilities = s.captureCapabilities
  lastUsedDeviceName : s'.lastUsedDeviceName = s.lastUsedDeviceName
  lastUsedDeviceNameLength : s'.lastUsedDeviceNameLength = s.lastUsedDeviceNameLength

/-- The type of an entry is the one that belongs to the name of its format. -/
structure OfType (subtype : List UInt16) (type : VideoType) : Prop where
  converted : type = toVideoType subtype
  named : ∀ known, (subtype, known) ∈ formatToType → type = known

/-- An entry of `device_caps` for a description: its rate is a number of whole frames. -/
structure DescriptionEntry (d : MediaDescription) (c : Capability) : Prop where
  width : c.width = d.width.toInt32
  height : c.height = d.height.toInt32
  maxFPS : c.maxFPS = Int32.ofInt (truncate d.frameRate)
  videoType : OfType d.subtype c.videoType

/-- An entry for the stream properties at `i`; `rateRead` says at which of them the numerator and the
denominator of the rate are read. A rate that is not read, or has no value, counts as 0. -/
structure PropertiesEntry (rateRead : Nat → Prop) (p : StreamProperties × Nat) (c : Capability) :
    Prop where
  width : c.width = p.1.width.toInt32
  height : c.height = p.1.height.toInt32
  maxFPS : rateRead p.2 → p.1.frameRate.denominator ≠ 0 →
    c.maxFPS = (p.1.frameRate.numerator / p.1.frameRate.denominator).toInt32
  noRate : ¬ rateRead p.2 ∨ p.1.frameRate.denominator = 0 → c.maxFPS = 0
  videoType : OfType p.1.subtype c.videoType

/-- One entry for each description of each profile in order, then one for each of the stream
properties. -/
structure Lists (rateRead : Nat → Prop) (device : Device) (capabilities : List Capability) :
    Prop where
  parts : ∃ fromProfiles fromController, capabilities = fromProfiles ++ fromController ∧
    List.Forall₂ DescriptionEntry
      (device.videoProfiles.flatMap VideoProfile.supportedRecordMediaDescription) fromProfiles ∧
    List.Forall₂ (PropertiesEntry rateRead) device.streamProperties.zipIdx fromController

/-- The list is complete and the name is that of the device. -/
structure Completed (rateRead : Nat → Prop) (device : Device) (id : CString) (result : Int32)
    (s' : State) : Prop where
  result : result = Int32.ofNat s'.captureCapabilities.length
  captureCapabilities : Lists rateRead device s'.captureCapabilities
  lastUsedDeviceName : s'.lastUsedDeviceName = id.bytes ++ [0]
  lastUsedDeviceNameLength : s'.lastUsedDeviceNameLength = id.bytes.length

section Entries
variable (fails : Site → Option HResult)

/-- The formats of the table are told apart by their names. -/
theorem toVideoType_ofType (subtype : List UInt16) : OfType subtype (toVideoType subtype) := by
  have hnames : ∀ entry ∈ formatToType, toVideoType entry.1 = entry.2 := by decide
  exact ⟨rfl, fun known hknown => hnames (subtype, known) hknown⟩

theorem description_entry (profile : VideoProfile) (d : MediaDescription) :
    DescriptionEntry d (d.capability profile) :=
  ⟨rfl, rfl, rfl, toVideoType_ofType d.subtype⟩

/-- Both getters of the ratio at `i` succeed. -/
def RateRead (i : Nat) : Prop :=
  fails (.properties i .getNumerator) = none ∧ fails (.properties i .getDenominator) = none

theorem safelyComputeMediaRatio_read {i : Nat} (hread : RateRead fails i) (ratio : MediaRatio) :
    safelyComputeMediaRatio fails i ratio = ratio.rate := by
  unfold safelyComputeMediaRatio
  rw [hread.1, hread.2]
  rfl

theorem safelyComputeMediaRatio_unread {i : Nat} (hread : ¬ RateRead fails i)
    (ratio : MediaRatio) : safelyComputeMediaRatio fails i ratio = 0 := by
  unfold safelyComputeMediaRatio
  split
  · rfl
  · split
    · rfl
    · rename_i hnumerator hdenominator
      rw [Bool.not_eq_true, Option.isSome_eq_false_iff, Option.isNone_iff_eq_none] at *
      exact absurd ⟨hnumerator, hdenominator⟩ hread

theorem properties_entry (i : Nat) (p : StreamProperties) :
    PropertiesEntry (RateRead fails) (p, i)
      (p.capability (safelyComputeMediaRatio fails i p.frameRate)) := by
  refine ⟨rfl, rfl, ?_, ?_, toVideoType_ofType p.subtype⟩
  · intro hread hdenominator
    dsimp only [StreamProperties.capability]
    rw [safelyComputeMediaRatio_read fails hread, MediaRatio.rate, if_pos hdenominator]
  · intro hnone
    dsimp only [StreamProperties.capability]
    by_cases hread : RateRead fails i
    · have hdenominator := hnone.resolve_left (not_not_intro hread)
      rw [safelyComputeMediaRatio_read fails hread, MediaRatio.rate,
        if_neg (not_not_intro hdenominator)]
      rfl
    · rw [safelyComputeMediaRatio_unread fails hread]
      rfl

/-- What the calls push in the end is a list of the camera's capabilities. -/
theorem capabilities_listed (device : Device) :
    Lists (RateRead fails) device (device.capabilities (safelyComputeMediaRatio fails)) := by
  refine ⟨⟨_, _, rfl, ?_, ?_⟩⟩
  · induction device.videoProfiles with
    | nil => exact .nil
    | cons profile profiles ih =>
      rw [List.flatMap_cons, List.flatMap_cons]
      refine List.rel_append ?_ ih
      rw [List.forall₂_map_right_iff, List.forall₂_same]
      intro d _
      exact description_entry profile d
  · rw [List.forall₂_map_right_iff, List.forall₂_same]
    rintro ⟨p, i⟩ _
    exact properties_entry fails i p

end Entries

section Sites

def descriptionSites (i j : Nat) : List Site :=
  [DescriptionCall.getAt, .getWidth, .getHeight, .getFrameRate, .asDescription2, .getSubtype,
    .profileAsUnknown, .asUnknown].map (.description i j)

def profileSites (i : Nat) (profile : VideoProfile) : List Site :=
  .profileGetAt i :: .getSupportedRecordMediaDescription i :: .getId i ::
    .descriptionsGetSize i ::
      profile.supportedRecordMediaDescription.zipIdx.flatMap fun q => descriptionSites i q.2

/-- The calls for one of the stream properties that are not about its rate. -/
def propertiesSites (i : Nat) : List Site :=
  [PropertiesCall.getAt, .asVideoEncodingProperties, .getWidth, .getHeight, .getFrameRate,
    .getSubtype].map (.properties i)

def settingsSites (deviceId : List UInt16) : List Site :=
  [.activateInitializationSettings] ++
    (if 0 < deviceId.length then [.putVideoDeviceId] else []) ++
    [.putStreamingCaptureMode, .asSettings4, .asSettings5, .putMemoryPreference]

/-- All calls but those that `SafelyComputeMediaRatio` makes. -/
def sites (mediaCaptureStatics : Bool) (deviceId : List UInt16) (device : Device) : List Site :=
  (if mediaCaptureStatics then [] else [.getActivationFactory]) ++
    (.findAllVideoProfiles :: .profilesGetSize ::
      device.videoProfiles.zipIdx.flatMap fun q => profileSites q.2 q.1) ++
    (settingsSites deviceId ++
      [.getMediaCaptureWithInitSettings, .getVideoDeviceController, .asMediaDeviceController] ++
      (.getAvailableMediaStreamProperties :: .streamPropertiesGetSize ::
        device.streamProperties.zipIdx.flatMap fun q => propertiesSites q.2) ++
      [.asClosable, .close])

end Sites

section Fills
variable {fails : Site → Option HResult}

theorem collects_addDescription (profile : VideoProfile) (i j : Nat) (d : MediaDescription) :
    Collects fails (addDescription fails profile i j d) (descriptionSites i j)
      [d.capability profile] := by
  unfold addDescription
  repeat refine Collects.call_bind _ ?_
  exact Collects.push _

theorem zipIdx_flatMap_fst {α β : Type} (f : α → List β) (as : List α) (start : Nat) :
    ((as.zipIdx start).flatMap fun q => f q.1) = as.flatMap f := by
  induction as generalizing start with
  | nil => rfl
  | cons a as ih => rw [List.zipIdx_cons, List.flatMap_cons, ih, List.flatMap_cons]

theorem collects_fillFromProfile (i : Nat) (profile : VideoProfile) :
    Collects fails
      (do
        let profile ← call fails (.profileGetAt i) profile
        fillVideoCaptureCapabilityFromProfile fails i profile)
      (profileSites i profile)
      (profile.supportedRecordMediaDescription.map (MediaDescription.capability profile)) := by
  unfold fillVideoCaptureCapabilityFromProfile
  repeat refine Collects.call_bind _ ?_
  have h : Collects fails _ _ _ := Collects.forIdx (collects_addDescription profile i) 0
    profile.supportedRecordMediaDescription
  rwa [zipIdx_flatMap_fst fun d : MediaDescription => [d.capability profile],
    ← List.map_eq_flatMap] at h

theorem collects_addStreamProperties (i : Nat) (p : StreamProperties) :
    Collects fails (addStreamProperties fails i p) (propertiesSites i)
      [p.capability (safelyComputeMediaRatio fails i p.frameRate)] := by
  unfold addStreamProperties
  repeat refine Collects.call_bind _ ?_
  exact Collects.push _

theorem collects_fromDeviceProfiles (mediaCaptureStatics : Bool) (device : Device) :
    Collects fails
      (fillVideoCaptureCapabilityFromDeviceProfiles fails mediaCaptureStatics device)
      ((if mediaCaptureStatics then [] else [.getActivationFactory]) ++
        (.findAllVideoProfiles :: .profilesGetSize ::
          device.videoProfiles.zipIdx.flatMap fun q => profileSites q.2 q.1))
      (device.videoProfiles.flatMap fun profile =>
        profile.supportedRecordMediaDescription.map (MediaDescription.capability profile)) := by
  have hstatics : Collects fails (assureMediaCaptureStatics fails mediaCaptureStatics)
      (if mediaCaptureStatics then [] else [.getActivationFactory]) [] := by
    cases mediaCaptureStatics with
    | true => exact Collects.pure
    | false => exact Collects.call _
  have hprofiles : Collects fails
      (fillVideoCaptureCapabilityFromProfiles fails device.videoProfiles)
      (.profilesGetSize :: device.videoProfiles.zipIdx.flatMap fun q => profileSites q.2 q.1)
      (device.videoProfiles.zipIdx.flatMap fun q =>
        q.1.supportedRecordMediaDescription.map (MediaDescription.capability q.1)) := by
    unfold fillVideoCaptureCapabilityFromProfiles
    refine Collects.call_bind _ ?_
    exact Collects.forIdx collects_fillFromProfile 0 device.videoProfiles
  rw [zipIdx_flatMap_fst fun profile : VideoProfile =>
    profile.supportedRecordMediaDescription.map (MediaDescription.capability profile)] at hprofiles
  exact hstatics.bind (Collects.call_bind _ hprofiles)

theorem collects_fromMediaController (device : Device) :
    Collects fails (fillVideoCaptureCapabilityFromMediaController fails device)
      (.getAvailableMediaStreamProperties :: .streamPropertiesGetSize ::
        device.streamProperties.zipIdx.flatMap fun q => propertiesSites q.2)
      (device.streamProperties.zipIdx.map fun q =>
        q.1.capability (safelyComputeMediaRatio fails q.2 q.1.frameRate)) := by
  unfold fillVideoCaptureCapabilityFromMediaController
  repeat refine Collects.call_bind _ ?_
  have h : Collects fails _ _ _ := Collects.forIdx collects_addStreamProperties 0
    device.streamProperties
  rwa [← List.map_eq_flatMap] at h

theorem collects_settings (deviceId : List UInt16) :
    Collects fails (createMediaCaptureInitializationSettings fails deviceId)
      (settingsSites deviceId) [] := by
  have hput : Collects fails (putVideoDeviceId fails deviceId)
      (if 0 < deviceId.length then [.putVideoDeviceId] else []) [] := by
    unfold putVideoDeviceId
    split
    · exact Collects.call _
    · exact Collects.pure
  have hrest : Collects fails
      (do
        call fails Site.putStreamingCaptureMode ()
        call fails .asSettings4 ()
        call fails .asSettings5 ()
        call fails .putMemoryPreference ())
      [.putStreamingCaptureMode, .asSettings4, .asSettings5, .putMemoryPreference]
      ([] : List Capability) := by
    repeat refine Collects.call_bind _ ?_
    exact Collects.call _
  rw [settingsSites, List.append_assoc]
  exact (Collects.call _).bind (hput.bind hrest)

theorem collects_withoutProfiles (deviceId : List UInt16) (device : Device) :
    Collects fails (fillVideoCaptureCapabilityFromDeviceWithoutProfiles fails deviceId device)
      (settingsSites deviceId ++
        [.getMediaCaptureWithInitSettings, .getVideoDeviceController, .asMediaDeviceController] ++
        (.getAvailableMediaStreamProperties :: .streamPropertiesGetSize ::
          device.streamProperties.zipIdx.flatMap fun q => propertiesSites q.2) ++
        [.asClosable, .close])
      (device.streamProperties.zipIdx.map fun q =>
        q.1.capability (safelyComputeMediaRatio fails q.2 q.1.frameRate)) := by
  unfold fillVideoCaptureCapabilityFromDeviceWithoutProfiles
  have hclose : Collects fails
      (do
        fillVideoCaptureCapabilityFromMediaController fails device
        call fails .asClosable ()
        call fails .close ()) _ _ :=
    (collects_fromMediaController device).bind (Collects.call_bind _ (Collects.call _))
  have hopen : Collects fails
      (do
        call fails .getMediaCaptureWithInitSettings ()
        call fails .getVideoDeviceController ()
        call fails .asMediaDeviceController ()
        fillVideoCaptureCapabilityFromMediaController fails device
        call fails .asClosable ()
        call fails .close ()) _ _ :=
    Collects.call_bind _ (Collects.call_bind _ (Collects.call_bind _ hclose))
  have h := (collects_settings deviceId).bind hopen
  simpa only [List.append_assoc, List.cons_append, List.nil_append, List.append_nil] using h

theorem collects_capabilities (mediaCaptureStatics : Bool) (deviceId : List UInt16)
    (device : Device) :
    Collects fails
      (do
        fillVideoCaptureCapabilityFromDeviceProfiles fails mediaCaptureStatics device
        fillVideoCaptureCapabilityFromDeviceWithoutProfiles fails deviceId device)
      (sites mediaCaptureStatics deviceId device)
      (device.capabilities (safelyComputeMediaRatio fails)) :=
  (collects_fromDeviceProfiles mediaCaptureStatics device).bind
    (collects_withoutProfiles deviceId device)

variable (fails) in
/-- The list is swapped for the new one if all calls succeed, and kept otherwise. -/
theorem swapCapabilities_eq (mediaCaptureStatics : Bool) (deviceId : List UInt16)
    (device : Device) (capabilities : List Capability) :
    ((∀ site ∈ sites mediaCaptureStatics deviceId device, fails site = none) ∧
      swapCapabilities fails mediaCaptureStatics deviceId device capabilities =
        (.ok (), device.capabilities (safelyComputeMediaRatio fails))) ∨
    ((∃ site ∈ sites mediaCaptureStatics deviceId device, fails site ≠ none) ∧
      ∃ hr, swapCapabilities fails mediaCaptureStatics deviceId device capabilities =
        (.error hr, capabilities)) := by
  have hcollects : Collects fails _ _ _ := collects_capabilities mediaCaptureStatics deviceId device
  by_cases hall : ∀ site ∈ sites mediaCaptureStatics deviceId device, fails site = none
  · refine .inl ⟨hall, ?_⟩
    simp only [swapCapabilities, hcollects.complete hall, List.nil_append]
  · push Not at hall
    obtain ⟨hr, items, hrun⟩ := hcollects.stopped hall []
    exact .inr ⟨hall, hr, by simp only [swapCapabilities, hrun]⟩

end Fills

/-- The id is too long to be passed on, or a call fails that `SafelyComputeMediaRatio` does not
make. -/
def Refused (utf16 : Utf16) (fails : Site → Option HResult) (device : Device) (s : State)
    (id : CString) : Prop :=
  ∀ deviceIdW ∈ (queriedId utf16 id).value,
    ∃ site ∈ sites s.mediaCaptureStatics (deviceIdW.takeWhile (· ≠ 0)) device, fails site ≠ none

/-- Whatever calls fail, `CreateCapabilityMap` leaves the list and the name alone or completes
both; it completes them just if no call fails, where a rate that cannot be read is 0. -/
theorem capability_map_all_or_nothing (utf16 : Utf16) (fails : Site → Option HResult)
    (device : Device) (s : State) (id : CString) :
    let r := createCapabilityMap utf16 fails device s id
    (Refused utf16 fails device s id ∧ Unchanged s r.1 r.2) ∨
      (¬ Refused utf16 fails device s id ∧
        Completed (RateRead fails) device id r.1 r.2) := by
  have hshort := queriedId_isSome_iff utf16 id
  unfold createCapabilityMap Refused
  cases hid : (queriedId utf16 id).value with
  | none =>
    refine .inl ⟨?_, ⟨rfl, rfl, rfl, rfl⟩⟩
    intro deviceIdW hmem
    cases hmem
  | some deviceIdW =>
    rw [hid] at hshort
    have hlt := hshort.mp rfl
    have hswap := swapCapabilities_eq fails s.mediaCaptureStatics (deviceIdW.takeWhile (· ≠ 0))
      device s.captureCapabilities
    simp only [Option.mem_def, Option.some.injEq, forall_eq']
    rcases hswap with ⟨hall, hswap⟩ | ⟨hfails, hr, hswap⟩
    · simp only [hswap]
      refine .inr ⟨?_, ⟨rfl, capabilities_listed fails device, rfl, ?_⟩⟩
      · rintro ⟨site, hsite, hne⟩
        exact hne (hall site hsite)
      · exact Nat.min_eq_left (Nat.le_of_lt hlt)
    · simp only [hswap]
      exact .inl ⟨hfails, ⟨rfl, rfl, rfl, rfl⟩⟩

/-- A camera without profiles that records 640 by 480 pixels at 30 frames a second. -/
def webcam : Device := ⟨[], [⟨640, 480, ⟨30, 1⟩, wide "NV12"⟩]⟩

def numeratorFails (site : Site) : Option HResult :=
  if site = .properties 0 .getNumerator then some 0x80004005 else none

def fresh : State := ⟨[], [0], 0, false⟩

def webcamId : CString := ⟨[99, 97, 109], by decide⟩

/-- The list is handed out all the same, with a rate that is not that of the camera. -/
theorem unread_rate_listed :
    let r := createCapabilityMap ascii numeratorFails webcam fresh webcamId
    ¬ (Unchanged fresh r.1 r.2 ∨ Completed (fun _ => True) webcam webcamId r.1 r.2) := by
  rintro r (h | h)
  · exact absurd h.result (by decide)
  · obtain ⟨fromProfiles, fromController, hlist, hprofiles, hcontroller⟩ :=
      h.captureCapabilities.parts
    obtain rfl : fromProfiles = [] := List.forall₂_nil_left_iff.mp hprofiles
    have hlisted : r.2.captureCapabilities =
        [StreamProperties.capability 0 ⟨640, 480, ⟨30, 1⟩, wide "NV12"⟩] := by decide
    rw [hlisted, List.nil_append] at hlist
    rw [← hlist] at hcontroller
    have hentry := (List.forall₂_cons.mp hcontroller).1
    exact absurd (hentry.maxFPS trivial (by decide)) (by decide)

end WeiRtcNative.VideoCapture.CapabilityMap
