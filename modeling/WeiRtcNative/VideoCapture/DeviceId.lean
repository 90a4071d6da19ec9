import Mathlib.Data.List.Basic

/-!
# The device id as a wide string

`VideoCaptureWinRT::Init` and `DeviceInfoWinRT::CreateCapabilityMap` convert the id of a camera
into an array on the stack, and both give the size of the array in bytes where the conversion
counts wide characters. `CreateCapabilityMap` turns long ids away before it converts them, `Init`
after.
-/

namespace WeiRtcNative.VideoCapture.DeviceId

set_option autoImplicit false

def kVideoCaptureUniqueNameLength : Nat := 1024

/-- `sizeof` an array of that many `wchar_t`. -/
def sizeofDeviceIdW : Nat := 2 * kVideoCaptureUniqueNameLength

structure CString where
  bytes : List UInt8
  nonzero : 0 ∉ bytes

def strnlen (s : CString) (maxlen : Nat) : Nat := min s.bytes.length maxlen

/-- UTF-8 to UTF-16, with replacements for what is not UTF-8. A code point of one to three bytes
becomes one unit and one of four bytes two, so there are never more units than bytes. -/
structure Utf16 where
  units : List UInt8 → List UInt16
  length_units : ∀ bytes, (units bytes).length ≤ bytes.length

/-- What a call of `MultiByteToWideChar` with length -1 writes, and its return value. -/
structure Conversion where
  written : List UInt16
  result : Nat
  deriving DecidableEq, Repr

def multiByteToWideChar (utf16 : Utf16) (s : CString) (cchWideChar : Nat) : Conversion :=
  let converted := utf16.units s.bytes ++ [0]
  if converted.length ≤ cchWideChar then ⟨converted, converted.length⟩
  else ⟨converted.take cchWideChar, 0⟩

/-- The wide characters written into the array on the stack, and how the call ends. -/
structure Outcome (α : Type) where
  deviceIdW : List UInt16
  value : α
  deriving DecidableEq, Repr

def Outcome.InBounds {α : Type} (o : Outcome α) : Prop :=
  o.deviceIdW.length ≤ kVideoCaptureUniqueNameLength

def setDeviceUniqueId (deviceUniqueId : Option CString) (id : CString) : Int × Option CString :=
  if strnlen id kVideoCaptureUniqueNameLength = kVideoCaptureUniqueNameLength then
    (-1, deviceUniqueId)
  else (0, some id)

def init (utf16 : Utf16) (deviceUniqueId : Option CString) (id : CString) :
    Outcome (Int × Option CString) :=
  let conversion := multiByteToWideChar utf16 id sizeofDeviceIdW
  if conversion.result = 0 then ⟨conversion.written, -1, deviceUniqueId⟩
  else
    let r := setDeviceUniqueId deviceUniqueId id
    if r.1 ≠ 0 then ⟨conversion.written, -1, r.2⟩ else ⟨conversion.written, 0, r.2⟩

/-- The wide id that `CreateCapabilityMap` queries the device with, if it comes to that. -/
def queriedId (utf16 : Utf16) (id : CString) : Outcome (Option (List UInt16)) :=
  if strnlen id kVideoCaptureUniqueNameLength = kVideoCaptureUniqueNameLength then ⟨[], none⟩
  else
    let conversion := multiByteToWideChar utf16 id sizeofDeviceIdW
    if conversion.result = 0 then ⟨conversion.written, none⟩
    else ⟨conversion.written, some conversion.written⟩

section Lengths
variable (utf16 : Utf16) (id : CString)

theorem strnlen_eq_iff (n : Nat) : strnlen id n = n ↔ n ≤ id.bytes.length := by
  unfold strnlen
  omega

theorem multiByteToWideChar_length (cchWideChar : Nat) :
    (multiByteToWideChar utf16 id cchWideChar).written.length =
      min ((utf16.units id.bytes).length + 1) cchWideChar := by
  simp only [multiByteToWideChar]
  split
  · rename_i hfits
    simp only [List.length_append, List.length_singleton] at hfits ⊢
    omega
  · simp only [List.length_take, List.length_append, List.length_singleton]
    omega

theorem multiByteToWideChar_result_eq_zero (cchWideChar : Nat) :
    (multiByteToWideChar utf16 id cchWideChar).result = 0 ↔
      cchWideChar ≤ (utf16.units id.bytes).length := by
  simp only [multiByteToWideChar, List.length_append, List.length_singleton]
  split
  · exact ⟨fun h => by simp at h, fun h => by omega⟩
  · exact ⟨fun _ => by omega, fun _ => rfl⟩

/-- An id that is not too long is converted. -/
theorem converts_of_lt (h : id.bytes.length < kVideoCaptureUniqueNameLength) :
    (multiByteToWideChar utf16 id sizeofDeviceIdW).result ≠ 0 := by
  have hunits := utf16.length_units id.bytes
  rw [Ne, multiByteToWideChar_result_eq_zero, sizeofDeviceIdW]
  omega

theorem init_deviceIdW (deviceUniqueId : Option CString) :
    (init utf16 deviceUniqueId id).deviceIdW =
      (multiByteToWideChar utf16 id sizeofDeviceIdW).written := by
  simp only [init]
  split
  · rfl
  · split
    · rfl
    · rfl

theorem init_accepts_iff (deviceUniqueId : Option CString) :
    (init utf16 deviceUniqueId id).value.1 = 0 ↔
      id.bytes.length < kVideoCaptureUniqueNameLength := by
  by_cases hlong : kVideoCaptureUniqueNameLength ≤ id.bytes.length
  · have hset : (setDeviceUniqueId deviceUniqueId id).1 = -1 := by
      rw [setDeviceUniqueId, if_pos ((strnlen_eq_iff id _).mpr hlong)]
    simp only [init, hset]
    split
    · simp [hlong]
    · simp [hlong]
  · have hset : (setDeviceUniqueId deviceUniqueId id).1 = 0 := by
      rw [setDeviceUniqueId, if_neg (mt (strnlen_eq_iff id _).mp hlong)]
    have hlt : id.bytes.length < kVideoCaptureUniqueNameLength := by omega
    simp only [init, if_neg (converts_of_lt utf16 id hlt), hset]
    simp [hlt]

theorem queriedId_isSome_iff :
    (queriedId utf16 id).value.isSome ↔ id.bytes.length < kVideoCaptureUniqueNameLength := by
  by_cases hlong : kVideoCaptureUniqueNameLength ≤ id.bytes.length
  · simp only [queriedId, if_pos ((strnlen_eq_iff id _).mpr hlong)]
    simp [hlong]
  · have hlt : id.bytes.length < kVideoCaptureUniqueNameLength := by omega
    simp only [queriedId, if_neg (mt (strnlen_eq_iff id _).mp hlong),
      if_neg (converts_of_lt utf16 id hlt)]
    simp [hlt]

/-- The ids that `CreateCapabilityMap` converts are short enough for the array. -/
theorem queriedId_inBounds : (queriedId utf16 id).InBounds := by
  simp only [Outcome.InBounds, queriedId]
  split
  · exact Nat.zero_le _
  · rename_i hshort
    rw [strnlen_eq_iff] at hshort
    have hunits := utf16.length_units id.bytes
    have hwritten : (multiByteToWideChar utf16 id sizeofDeviceIdW).written.length ≤
        kVideoCaptureUniqueNameLength := by
      rw [multiByteToWideChar_length]
      omega
    split
    · exact hwritten
    · exact hwritten

theorem init_inBounds_iff (deviceUniqueId : Option CString) :
    (init utf16 deviceUniqueId id).InBounds ↔
      (utf16.units id.bytes).length < kVideoCaptureUniqueNameLength := by
  have hlength := multiByteToWideChar_length utf16 id sizeofDeviceIdW
  rw [Outcome.InBounds, init_deviceIdW, hlength]
  simp only [sizeofDeviceIdW, kVideoCaptureUniqueNameLength]
  omega

end Lengths

/-- Both users of an id write inside their arrays and agree on it. -/
structure Safe (utf16 : Utf16) (deviceUniqueId : Option CString) (id : CString) : Prop where
  init : (init utf16 deviceUniqueId id).InBounds
  createCapabilityMap : (queriedId utf16 id).InBounds
  agree : (DeviceId.init utf16 deviceUniqueId id).value.1 = 0 ↔
    (queriedId utf16 id).value.isSome

/-- The conversions stay in their arrays just for the ids whose wide form, with its terminator,
fits the array of `Init`. -/
theorem device_id_safe_iff (utf16 : Utf16) (deviceUniqueId : Option CString) (id : CString) :
    Safe utf16 deviceUniqueId id ↔
      (utf16.units id.bytes).length + 1 ≤ kVideoCaptureUniqueNameLength := by
  constructor
  · intro h
    exact (init_inBounds_iff utf16 id deviceUniqueId).mp h.init
  · intro h
    refine ⟨(init_inBounds_iff utf16 id deviceUniqueId).mpr h, queriedId_inBounds utf16 id, ?_⟩
    rw [init_accepts_iff, queriedId_isSome_iff]

def ascii : Utf16 where
  units bytes := bytes.map UInt8.toUInt16
  length_units _ := Nat.le_of_eq (List.length_map _)

def longId : CString where
  bytes := List.replicate 1024 97
  nonzero := by
    rw [List.mem_replicate]
    decide

/-- `Init` turns the id away, but only after it has written the terminator behind the array. -/
theorem long_id_overflows : ¬ Safe ascii none longId := by
  intro h
  have hlength : (init ascii none longId).deviceIdW.length ≤ 1024 := h.init
  rw [init_deviceIdW, multiByteToWideChar_length] at hlength
  have hunits : (ascii.units longId.bytes).length = 1024 := by
    simp only [ascii, longId, List.length_map, List.length_replicate]
  rw [hunits] at hlength
  exact absurd hlength (by decide)

end WeiRtcNative.VideoCapture.DeviceId
