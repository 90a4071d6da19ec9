import Mathlib.Data.List.Basic

/-!
# The name and the id of an audio device

`DeviceHelper::DeviceName` fills two buffers of the caller, either of which may be null. The block
for the name ends the text in `name`, but copies it to `guid`.
-/

namespace WeiRtcNative.Audio.DeviceName

set_option autoImplicit false

def kAdmMaxDeviceNameSize : Nat := 128

def kAdmMaxGuidSize : Nat := 128

inductive Buffer where
  | name
  | guid
  deriving DecidableEq, Repr

/-- The bytes that have been written, and with what. -/
abbrev Written := Buffer → Nat → Option UInt8

def untouched : Written := fun _ _ => none

/-- An `IDeviceInformation`, with its two strings in wide characters. -/
structure DeviceInformation where
  name : List UInt16
  id : List UInt16
  deriving DecidableEq, Repr

/-- A `wstring` made of the raw buffer of a string, which ends at the first NUL. -/
def wstring (buffer : List UInt16) : List UInt16 := buffer.takeWhile (· ≠ 0)

section Call
variable (wideCharToMultiByte : List UInt16 → List UInt8)

def toUtf8 (wide : List UInt16) : List UInt8 :=
  if wide.length = 0 then [] else wideCharToMultiByte wide

def DeviceInformation.utf8 (d : DeviceInformation) : Buffer → List UInt8
  | .name => toUtf8 wideCharToMultiByte (wstring d.name)
  | .guid => toUtf8 wideCharToMultiByte (wstring d.id)

/-- Which of the buffers are not null. -/
structure Given where
  name : Bool
  guid : Bool
  deriving DecidableEq, Repr

def Given.has (given : Given) : Buffer → Bool
  | .name => given.name
  | .guid => given.guid

/-- `std::copy_n` to the beginning of a buffer; `none` if that is a write through null. -/
def copyN (given : Given) (text : List UInt8) (buffer : Buffer) (w : Written) : Option Written :=
  if text = [] then some w
  else if given.has buffer then
    some fun b i => if b = buffer ∧ i < text.length then text[i]? else w b i
  else none

def put (given : Given) (buffer : Buffer) (index : Nat) (byte : UInt8) (w : Written) :
    Option Written :=
  if given.has buffer then some fun b i => if b = buffer ∧ i = index then some byte else w b i
  else none

def fillName (given : Given) (d : DeviceInformation) (w : Written) : Option Written :=
  if given.name then do
    let nameUtf8 := d.utf8 wideCharToMultiByte .name
    let length := min nameUtf8.length (kAdmMaxDeviceNameSize - 1)
    -- the destination is `guid`, which may be null
    let w ← copyN given (nameUtf8.take length) .guid w
    put given .name length 0 w
  else some w

def fillGuid (given : Given) (d : DeviceInformation) (w : Written) : Option Written :=
  if given.guid then do
    let idUtf8 := d.utf8 wideCharToMultiByte .guid
    let length := min idUtf8.length (kAdmMaxGuidSize - 1)
    let w ← copyN given (idUtf8.take length) .guid w
    put given .guid length 0 w
  else some w

def fill (given : Given) (d : DeviceInformation) : Option Written := do
  let w ← fillName wideCharToMultiByte given d untouched
  fillGuid wideCharToMultiByte given d w

/-- `(uint16_t)(-1)` stands for the first device. -/
def position (index : UInt16) : Nat := if index = 0xFFFF then 0 else index.toNat

/-- The result and all that has been written; `none` after a write through null. -/
def deviceName (devices : List DeviceInformation) (index : UInt16) (given : Given) :
    Option (Int × Written) :=
  match devices[position index]? with
  | none => some (-1, untouched)
  | some d => (fill wideCharToMultiByte given d).map (0, ·)

def Buffer.size : Buffer → Nat
  | .name => kAdmMaxDeviceNameSize
  | .guid => kAdmMaxGuidSize

/-- The text of a buffer as C has it, cut to the size of the buffer. -/
def cut (buffer : Buffer) (text : List UInt8) : List UInt8 := text.take (buffer.size - 1) ++ [0]

/-- Each buffer that is given holds its own text, and nothing else is written. -/
def described (given : Given) (d : DeviceInformation) : Written := fun b i =>
  if given.has b then (cut b (d.utf8 wideCharToMultiByte b))[i]? else none

def intended (devices : List DeviceInformation) (index : UInt16) (given : Given) :
    Option (Int × Written) :=
  match devices[position index]? with
  | none => some (-1, untouched)
  | some d => some (0, described wideCharToMultiByte given d)

end Call

section Blocks
variable {wideCharToMultiByte : List UInt16 → List UInt8} {given : Given} {d : DeviceInformation}
  {w : Written}

/-- A text and its terminator, copied to a buffer that is given. -/
theorem store_cut (buffer : Buffer) (hgiven : given.has buffer = true) (text : List UInt8)
    (hw : ∀ i, w buffer i = none) :
    (copyN given (text.take (min text.length (buffer.size - 1))) buffer w).bind
        (put given buffer (min text.length (buffer.size - 1)) 0) =
      some fun b i => if b = buffer then (cut buffer text)[i]? else w b i := by
  have hlength : (text.take (buffer.size - 1)).length = min text.length (buffer.size - 1) := by
    rw [List.length_take, Nat.min_comm]
  have htake : text.take (min text.length (buffer.size - 1)) = text.take (buffer.size - 1) := by
    rw [Nat.min_comm, ← List.take_take, List.take_length]
  rw [htake, ← hlength, cut]
  generalize text.take (buffer.size - 1) = t
  have hcopy : copyN given t buffer w =
      some fun b i => if b = buffer ∧ i < t.length then t[i]? else w b i := by
    by_cases ht : t = []
    · simp [copyN, ht]
    · simp [copyN, ht, hgiven]
  rw [hcopy, Option.bind_some, put, if_pos hgiven]
  congr 1
  funext b i
  by_cases hb : b = buffer
  · subst hb
    rcases Nat.lt_trichotomy i t.length with hlt | rfl | hgt
    · simp [hlt, Nat.ne_of_lt hlt, List.getElem?_append_left]
    · simp
    · have hlast : (t ++ [0])[i]? = none := List.getElem?_eq_none (by simp; omega)
      simp [hw, hlast, Nat.ne_of_gt hgt, Nat.not_lt.mpr (Nat.le_of_lt hgt)]
  · simp [hb]

theorem fillGuid_eq (hw : ∀ i, w .guid i = none) :
    fillGuid wideCharToMultiByte given d w =
      some fun b i =>
        if b = .guid ∧ given.guid then (cut .guid (d.utf8 wideCharToMultiByte .guid))[i]?
        else w b i := by
  unfold fillGuid
  by_cases hguid : given.guid = true
  · rw [if_pos hguid]
    simp only [hguid, and_true]
    exact store_cut .guid hguid (d.utf8 wideCharToMultiByte .guid) hw
  · rw [if_neg hguid]
    simp [hguid]

theorem copyN_other {text : List UInt8} {buffer other : Buffer} {w' : Written}
    (h : copyN given text buffer w = some w') (hother : other ≠ buffer) (i : Nat) :
    w' other i = w other i := by
  unfold copyN at h
  split at h
  · rw [Option.some.inj h]
  · split at h
    · rw [← Option.some.inj h]
      exact if_neg fun hb => hother hb.1
    · cases h

theorem put_other {buffer : Buffer} {index : Nat} {byte : UInt8} {w' : Written}
    (h : put given buffer index byte w = some w') {other : Buffer} {i : Nat}
    (hother : ¬(other = buffer ∧ i = index)) : w' other i = w other i := by
  unfold put at h
  split at h
  · rw [← Option.some.inj h]
    exact if_neg hother
  · cases h

theorem fillGuid_name {w' : Written} (h : fillGuid wideCharToMultiByte given d w = some w')
    (i : Nat) : w' .name i = w .name i := by
  unfold fillGuid at h
  split at h
  · simp only [Option.bind_eq_bind, Option.bind_eq_some_iff] at h
    obtain ⟨copied, hcopy, hput⟩ := h
    rw [put_other hput (by simp), copyN_other hcopy (by decide)]
  · rw [Option.some.inj h]

/-- A name that is null, or is to hold an empty text, is treated as it should be. -/
theorem fillName_eq (h : given.name = false ∨ d.utf8 wideCharToMultiByte .name = []) :
    fillName wideCharToMultiByte given d untouched =
      some fun b i =>
        if b = .name ∧ given.name then (cut .name (d.utf8 wideCharToMultiByte .name))[i]?
        else none := by
  unfold fillName
  by_cases hgiven : given.name = true
  · have hnil := h.resolve_left (by simp [hgiven])
    rw [if_pos hgiven, hnil]
    simp only [hgiven, and_true]
    exact store_cut (w := untouched) .name hgiven [] (fun _ => rfl)
  · rw [if_neg hgiven]
    congr 1
    funext b i
    exact (if_neg fun hb => hgiven hb.2).symm

/-- Otherwise the first byte of `name` stays as it was. -/
theorem fillName_first (hname : d.utf8 wideCharToMultiByte .name ≠ []) (hgiven : given.name = true)
    (h : fillName wideCharToMultiByte given d untouched = some w) : w .name 0 = none := by
  simp only [fillName, if_pos hgiven, Option.bind_eq_bind, Option.bind_eq_some_iff] at h
  obtain ⟨copied, hcopy, hput⟩ := h
  have hlength : min (d.utf8 wideCharToMultiByte .name).length (kAdmMaxDeviceNameSize - 1) ≠ 0 := by
    have hpos := List.length_pos_iff.mpr hname
    simp only [kAdmMaxDeviceNameSize]
    omega
  rw [put_other hput fun hend => hlength hend.2.symm, copyN_other hcopy (by decide)]
  rfl

end Blocks

section Result
variable (wideCharToMultiByte : List UInt16 → List UInt8) {given : Given} {d : DeviceInformation}

theorem fill_of_unnamed (h : given.name = false ∨ d.utf8 wideCharToMultiByte .name = []) :
    fill wideCharToMultiByte given d = some (described wideCharToMultiByte given d) := by
  simp only [fill, fillName_eq h, Option.bind_eq_bind, Option.bind_some]
  rw [fillGuid_eq (fun _ => by simp)]
  congr 1
  funext b i
  cases b with
  | name =>
    by_cases hname : given.name = true
    · simp [described, Given.has, hname]
    · simp [described, Given.has, hname]
  | guid =>
    by_cases hguid : given.guid = true
    · simp [described, Given.has, hguid]
    · simp [described, Given.has, hguid]

/-- A text for `name` that is not empty never gets there. -/
theorem fill_ne_described (hname : d.utf8 wideCharToMultiByte .name ≠ [])
    (hgiven : given.name = true) :
    fill wideCharToMultiByte given d ≠ some (described wideCharToMultiByte given d) := by
  intro h
  obtain ⟨w, hfill, hguid⟩ := Option.bind_eq_some_iff.mp h
  have hfirst := fillName_first hname hgiven hfill
  rw [← fillGuid_name hguid 0] at hfirst
  have hhas : given.has .name = true := hgiven
  rw [described, if_pos hhas, List.getElem?_eq_none_iff] at hfirst
  simp [cut] at hfirst

/-- `DeviceName` does what it is for just when the index is out of range, no name is wanted or
the name of the device is empty. -/
theorem device_name_iff (devices : List DeviceInformation) (index : UInt16) (given : Given) :
    deviceName wideCharToMultiByte devices index given =
        intended wideCharToMultiByte devices index given ↔
      devices.length ≤ position index ∨ given.name = false ∨
        ∀ d ∈ devices[position index]?, d.utf8 wideCharToMultiByte .name = [] := by
  cases hd : devices[position index]? with
  | none =>
    refine iff_of_true ?_ (.inl (List.getElem?_eq_none_iff.mp hd))
    rw [deviceName, intended, hd]
  | some d =>
    have hrange : ¬ devices.length ≤ position index := by
      intro hle
      rw [List.getElem?_eq_none_iff.mpr hle] at hd
      cases hd
    have hrun : deviceName wideCharToMultiByte devices index given =
        (fill wideCharToMultiByte given d).map (0, ·) := by
      simp only [deviceName, hd]
    have hintended : intended wideCharToMultiByte devices index given =
        (some (described wideCharToMultiByte given d)).map (0, ·) := by
      simp only [intended, hd, Option.map_some]
    rw [hrun, hintended, or_iff_right hrange]
    simp only [Option.mem_def, Option.some.injEq, forall_eq']
    constructor
    · intro h
      by_contra hnot
      obtain ⟨hgiven, hname⟩ := not_or.mp hnot
      apply fill_ne_described wideCharToMultiByte hname (by simpa using hgiven)
      exact Option.map_injective (fun _ _ hpair => (Prod.mk.inj hpair).2) h
    · intro h
      rw [fill_of_unnamed wideCharToMultiByte h]

end Result

/-- UTF-8 for texts that are ASCII. -/
def asciiUtf8 (wide : List UInt16) : List UInt8 := wide.map UInt16.toUInt8

def microphone : DeviceInformation := ⟨[77, 105, 99], [49]⟩

/-- `name` is given three bytes of text, but only its fourth byte is written. -/
theorem microphone_unnamed :
    deviceName asciiUtf8 [microphone] 0 ⟨true, true⟩ ≠
      intended asciiUtf8 [microphone] 0 ⟨true, true⟩ := by
  intro h
  have hfirst := congrArg (fun r => r.map fun q => q.2 .name 0) h
  revert hfirst
  decide

end WeiRtcNative.Audio.DeviceName
