import Mathlib.Data.List.TakeWhile
import WeiRtcNative.Lib.Utf16
import WeiRtcNative.VideoCapture.CapabilityMap

/-!
# The names of a camera

`DeviceInfoWinRT::GetDeviceName` writes up to three texts about a camera, each to a buffer of its
own: the name, the unique id and the product id, which is the second of the parts that the id is
cut into at every `&`. Each text is converted to UTF-8 with its terminator. What a conversion that
fails, as for a buffer that is too small, has left in its buffer is unknown; the call fails then.
-/

namespace WeiRtcNative.VideoCapture.DeviceNames

open CallChain Utf16
open CapabilityMap (HResult)
set_option autoImplicit false

section Tokens
variable {α : Type} (p : α → Bool)

/-- `wcstok_s`: the next token and what is behind the delimiter that ends it. -/
def wcstok (us : List α) : Option (List α × List α) :=
  match us.dropWhile p with
  | [] => none
  | u :: us => some ((u :: us).takeWhile (!p ·), ((u :: us).dropWhile (!p ·)).drop 1)

/-- The parts between delimiters that are not empty. -/
def tokens (us : List α) : List (List α) := (us.splitOnP p).filter (!·.isEmpty)

variable {p}

theorem tokens_delimiter {u : α} (hu : p u = true) (us : List α) :
    tokens p (u :: us) = tokens p us := by
  simp [tokens, List.splitOnP_cons_eq_if_modifyHead, hu]

theorem tokens_plain {us : List α} (hus : us ≠ []) (h : ∀ u ∈ us, p u = false) :
    tokens p us = [us] := by
  rw [tokens, List.splitOnP_eq_singleton h]
  simp [hus]

theorem tokens_append_delimiter {us : List α} (hus : us ≠ []) (h : ∀ u ∈ us, p u = false) {u : α}
    (hu : p u = true) (vs : List α) : tokens p (us ++ u :: vs) = us :: tokens p vs := by
  have hfirst := tokens_plain hus h
  unfold tokens at hfirst ⊢
  rw [List.splitOnP_append_cons us vs hu, List.filter_append, hfirst]
  rfl

theorem tokens_dropWhile (us : List α) : tokens p (us.dropWhile p) = tokens p us := by
  induction us with
  | nil => rfl
  | cons u us ih =>
    cases hu : p u with
    | true => rw [List.dropWhile_cons_of_pos hu, ih, tokens_delimiter hu]
    | false => rw [List.dropWhile_cons_of_neg (by simp [hu])]

/-- `wcstok_s` takes the tokens one by one. -/
theorem tokens_eq (us : List α) :
    tokens p us = match wcstok p us with
      | none => []
      | some (token, rest) => token :: tokens p rest := by
  rw [← tokens_dropWhile, wcstok]
  cases hskipped : us.dropWhile p with
  | nil => rfl
  | cons u vs =>
    have hu : p u = false := by
      have hhead := List.head?_dropWhile_not p us
      rw [hskipped] at hhead
      simpa using hhead
    have hplain : ∀ v ∈ (u :: vs).takeWhile (!p ·), p v = false := by
      intro v hv
      simpa using List.mem_takeWhile_imp hv
    have hne : (u :: vs).takeWhile (!p ·) ≠ [] := by simp [hu]
    have hsplit := List.takeWhile_append_dropWhile (p := fun v => !p v) (l := u :: vs)
    cases hrest : (u :: vs).dropWhile (!p ·) with
    | nil =>
      rw [hrest, List.append_nil] at hsplit
      rw [hsplit] at hne hplain
      simp only [hsplit, hrest, tokens_plain hne hplain]
      rfl
    | cons v ws =>
      have hv : p v = true := by
        have hhead := List.head?_dropWhile_not (fun v => !p v) (u :: vs)
        rw [hrest] at hhead
        simpa using hhead
      rw [hrest] at hsplit
      have htokens := tokens_append_delimiter hne hplain hv ws
      rw [hsplit] at htokens
      simpa only [hrest, List.drop_succ_cons, List.drop_zero] using htokens

end Tokens

def eFail : HResult := 0x80004005

def eBounds : HResult := 0x8000000B

/-- The strings of an `IDeviceInformation`. -/
structure DeviceInformation where
  name : List UInt16
  id : List UInt16
  deriving DecidableEq, Repr

inductive Text where
  | deviceName
  | deviceUniqueId
  | productUniqueId
  deriving DecidableEq, Repr

/-- The calls that may fail; `get` is `get_Name` or `get_Id`, once for each text. -/
inductive Site where
  | getActivationFactory
  | asDeviceInformationStatics
  | findAllAsync
  | waitForAsyncOperation
  | getResults
  | getSize
  | getAt
  | get (text : Text)
  deriving DecidableEq, Repr

/-- The number of the camera and the lengths of the buffers. -/
structure Request where
  deviceNumber : UInt32
  length : Text → UInt32

/-- What a buffer holds; nothing is known about it after a conversion that failed. -/
structure Written where
  text : Text
  bytes : Option (List UInt8)
  deriving DecidableEq, Repr

def cString (us : List UInt16) : List UInt16 := us.takeWhile (· ≠ 0)

def isAmpersand (u : UInt16) : Bool := u = 38

/-- The id is cut into tokens as far as the second one. -/
def secondToken (id : List UInt16) : Option (List UInt16) := do
  let (_, rest) ← wcstok isAmpersand (cString id)
  let (token, _) ← wcstok isAmpersand rest
  return token

def DeviceInformation.get (info : DeviceInformation) : Text → List UInt16
  | .deviceName => info.name
  | .deviceUniqueId | .productUniqueId => info.id

def Text.of (text : Text) (value : List UInt16) : Option (List UInt16) :=
  match text with
  | .deviceName | .deviceUniqueId => some (cString value)
  | .productUniqueId => secondToken value

/-- The text in UTF-8, with its terminator. -/
def converted (us : List UInt16) : List UInt8 := utf8 (decode us) ++ [0]

/-- The length of the buffer is an `int` here. -/
def Fits (us : List UInt16) (length : UInt32) : Prop :=
  (converted us).length ≤ length.toNat ∧ length.toNat < 2 ^ 31

instance decidableFits (us : List UInt16) (length : UInt32) : Decidable (Fits us length) :=
  inferInstanceAs (Decidable (_ ∧ _))

section Calls
variable (fails : Site → Option HResult)

abbrev Fill (α : Type) := Chain HResult Written α

def wideCharToMultiByte (text : Text) (us : List UInt16) (length : UInt32) : Fill Unit :=
  if Fits us length then push ⟨text, some (converted us)⟩
  else do
    push ⟨text, none⟩
    throw eFail

def getDeviceInformationCollection (devices : List DeviceInformation) :
    Fill (List DeviceInformation) := do
  call fails .getActivationFactory ()
  call fails .asDeviceInformationStatics ()
  call fails .findAllAsync ()
  call fails .waitForAsyncOperation ()
  call fails .getResults devices

/-- One of the three parts of `GetDeviceName`, which are alike. -/
def getText (info : DeviceInformation) (r : Request) (text : Text) : Fill Unit :=
  if 0 < r.length text then do
    let value ← call fails (.get text) (info.get text)
    match text.of value with
    | none => throw eFail
    | some us => wideCharToMultiByte text us (r.length text)
  else pure ()

def getDeviceNameInternal (devices : List DeviceInformation) (r : Request) : Fill Unit := do
  let collection ← getDeviceInformationCollection fails devices
  call fails .getSize ()
  match collection[r.deviceNumber.toNat]? with
  | none => throw eBounds
  | some info => do
    let info ← call fails .getAt info
    getText fails info r .deviceName
    getText fails info r .deviceUniqueId
    getText fails info r .productUniqueId

/-- The result and what was written to the buffers. -/
def getDeviceName (devices : List DeviceInformation) (r : Request) : Int × List Written :=
  match outcome (getDeviceNameInternal fails devices r) [] with
  | (.ok _, written) => (0, written)
  | (.error _, written) => (-1, written)

end Calls

section Texts

/-- What the buffer for a text is to hold. -/
def DeviceInformation.text (info : DeviceInformation) : Text → Option (List UInt16)
  | .deviceName => some (cString info.name)
  | .deviceUniqueId => some (cString info.id)
  | .productUniqueId => (tokens isAmpersand (cString info.id))[1]?

theorem secondToken_eq (id : List UInt16) :
    secondToken id = (tokens isAmpersand (cString id))[1]? := by
  unfold secondToken
  rw [tokens_eq]
  cases hfirst : wcstok isAmpersand (cString id) with
  | none => rfl
  | some first =>
    obtain ⟨token, rest⟩ := first
    simp only [Option.bind_eq_bind, Option.bind_some, List.getElem?_cons_succ]
    rw [tokens_eq]
    cases hsecond : wcstok isAmpersand rest with
    | none => rfl
    | some second => rfl

theorem of_get (info : DeviceInformation) (text : Text) :
    text.of (info.get text) = info.text text := by
  cases text with
  | deviceName => rfl
  | deviceUniqueId => rfl
  | productUniqueId => exact secondToken_eq info.id

end Texts

def Request.wants (r : Request) (text : Text) : Prop := 0 < r.length text

instance decidableWants (r : Request) (text : Text) : Decidable (r.wants text) :=
  inferInstanceAs (Decidable (_ < _))

/-- The calls that are made for any text. -/
def openingSites : List Site :=
  [.getActivationFactory, .asDeviceInformationStatics, .findAllAsync, .waitForAsyncOperation,
    .getResults, .getSize, .getAt]

/-- Each buffer of the request, with its text. -/
def Request.written (r : Request) (info : DeviceInformation) : List Written :=
  [Text.deviceName, .deviceUniqueId, .productUniqueId].flatMap fun text =>
    if r.wants text then [⟨text, (info.text text).map converted⟩] else []

section Results
variable {fails : Site → Option HResult} {items items' : List Written}

theorem wideCharToMultiByte_ok_iff (text : Text) (us : List UInt16) (length : UInt32) :
    outcome (wideCharToMultiByte text us length) items = (.ok (), items') ↔
      Fits us length ∧ items' = items ++ [⟨text, some (converted us)⟩] := by
  unfold wideCharToMultiByte
  split
  · rename_i hfits
    simp [hfits, eq_comm]
  · rename_i hfits
    simp only [hfits, false_and, iff_false, outcome_bind_ok_iff]
    rintro ⟨_, _, _, hthrow⟩
    cases hthrow

/-- A text that the request wants is written if it is there and fits. -/
def Delivers (fails : Site → Option HResult) (info : DeviceInformation) (r : Request)
    (text : Text) : Prop :=
  r.wants text → fails (.get text) = none ∧
    ∃ us, info.text text = some us ∧ Fits us (r.length text)

theorem getText_ok_iff (info : DeviceInformation) (r : Request) (text : Text) :
    outcome (getText fails info r text) items = (.ok (), items') ↔
      Delivers fails info r text ∧
        items' = items ++
          if r.wants text then [⟨text, (info.text text).map converted⟩] else [] := by
  unfold getText Delivers Request.wants
  split
  · rename_i hwants
    simp only [outcome_bind_ok_iff, outcome_call_ok_iff]
    cases htext : info.text text with
    | none =>
      constructor
      · rintro ⟨value, between, ⟨-, rfl, rfl⟩, hrest⟩
        rw [of_get, htext] at hrest
        cases hrest
      · rintro ⟨hdelivers, -⟩
        obtain ⟨-, us, hus, -⟩ := hdelivers hwants
        cases hus
    | some us =>
      constructor
      · rintro ⟨value, between, ⟨hsite, rfl, rfl⟩, hrest⟩
        rw [of_get, htext] at hrest
        obtain ⟨hfits, rfl⟩ := (wideCharToMultiByte_ok_iff text us _).mp hrest
        exact ⟨fun _ => ⟨hsite, us, rfl, hfits⟩, by simp [hwants]⟩
      · rintro ⟨hdelivers, rfl⟩
        obtain ⟨hsite, _, ⟨⟩, hfits⟩ := hdelivers hwants
        refine ⟨_, items, ⟨hsite, rfl, rfl⟩, ?_⟩
        rw [of_get, htext]
        exact (wideCharToMultiByte_ok_iff text us _).mpr ⟨hfits, by simp [hwants]⟩
  · rename_i hwants
    simp [hwants, eq_comm]

theorem getDeviceInformationCollection_ok_iff (devices collection : List DeviceInformation) :
    outcome (getDeviceInformationCollection fails devices) items = (.ok collection, items') ↔
      (∀ site ∈ [Site.getActivationFactory, .asDeviceInformationStatics, .findAllAsync,
        .waitForAsyncOperation, .getResults], fails site = none) ∧
        collection = devices ∧ items' = items := by
  simp only [getDeviceInformationCollection, outcome_bind_ok_iff, outcome_call_ok_iff]
  simp
  tauto

/-- A buffer that holds its text, after calls that did not fail. -/
structure Complete (fails : Site → Option HResult) (info : DeviceInformation) (r : Request)
    (w : Written) : Prop where
  bytes : w.bytes = (info.text w.text).map converted
  opened : ∀ site ∈ openingSites, fails site = none
  delivers : Delivers fails info r w.text

/-- The buffers that are written to are asked for, and complete or not known. -/
def Writes (fails : Site → Option HResult) (r : Request) (info : DeviceInformation)
    (written : List Written) : Prop :=
  ∀ w ∈ written, r.wants w.text ∧ (w.bytes = none ∨ Complete fails info r w)

theorem writes_append {r : Request} {info : DeviceInformation} {w : Written}
    (hw : r.wants w.text ∧ (w.bytes = none ∨ Complete fails info r w)) (written : List Written)
    (h : Writes fails r info written) : Writes fails r info (written ++ [w]) := by
  intro v hv
  rcases List.mem_append.mp hv with hv | hv
  · exact h v hv
  · rw [List.mem_singleton.mp hv]
    exact hw

theorem getText_writes (hopened : ∀ site ∈ openingSites, fails site = none)
    (info : DeviceInformation) (r : Request) (text : Text) :
    Keeps (Writes fails r info) (getText fails info r text) := by
  unfold getText
  split
  · rename_i hwants
    apply Keeps.call_bind
    intro hget
    rw [of_get]
    cases htext : info.text text with
    | none => exact Keeps.throw eFail
    | some us =>
      unfold wideCharToMultiByte
      dsimp only
      split
      · rename_i hfits
        have hcomplete : Complete fails info r ⟨text, some (converted us)⟩ :=
          ⟨by rw [htext]; rfl, hopened, fun _ => ⟨hget, us, htext, hfits⟩⟩
        apply Keeps.push
        exact writes_append ⟨hwants, .inr hcomplete⟩
      · apply Keeps.bind
        · apply Keeps.push
          exact writes_append ⟨hwants, .inl rfl⟩
        · exact fun _ => Keeps.throw eFail
  · exact Keeps.pure ()

end Results

section Calls
variable (fails : Site → Option HResult) (devices : List DeviceInformation) (r : Request)

theorem getDeviceNameInternal_ok_iff (written : List Written) :
    outcome (getDeviceNameInternal fails devices r) [] = (.ok (), written) ↔
      (∀ site ∈ openingSites, fails site = none) ∧
        ∃ info, devices[r.deviceNumber.toNat]? = some info ∧
          (∀ text, Delivers fails info r text) ∧ written = r.written info := by
  have hsites : (∀ site ∈ openingSites, fails site = none) ↔
      (∀ site ∈ [Site.getActivationFactory, .asDeviceInformationStatics, .findAllAsync,
        .waitForAsyncOperation, .getResults], fails site = none) ∧
        fails .getSize = none ∧ fails .getAt = none := by
    simp only [openingSites, List.forall_mem_cons]
    tauto
  have htexts : ∀ info, (∀ text, Delivers fails info r text) ↔
      Delivers fails info r .deviceName ∧ Delivers fails info r .deviceUniqueId ∧
        Delivers fails info r .productUniqueId := by
    intro info
    constructor
    · intro h
      exact ⟨h _, h _, h _⟩
    · rintro ⟨hname, hid, hproduct⟩ text
      cases text with
      | deviceName => exact hname
      | deviceUniqueId => exact hid
      | productUniqueId => exact hproduct
  unfold getDeviceNameInternal
  constructor
  · intro h
    obtain ⟨collection, _, hcollection, h⟩ := outcome_bind_ok_iff.mp h
    obtain ⟨hopening, rfl, rfl⟩ := (getDeviceInformationCollection_ok_iff _ _).mp hcollection
    obtain ⟨_, _, hcall, h⟩ := outcome_bind_ok_iff.mp h
    obtain ⟨hsize, rfl, rfl⟩ := outcome_call_ok_iff.mp hcall
    cases hinfo : collection[r.deviceNumber.toNat]? with
    | none =>
      rw [hinfo] at h
      cases h
    | some info =>
      rw [hinfo] at h
      obtain ⟨_, _, hcall, h⟩ := outcome_bind_ok_iff.mp h
      obtain ⟨hgetAt, rfl, rfl⟩ := outcome_call_ok_iff.mp hcall
      obtain ⟨_, _, hfirst, h⟩ := outcome_bind_ok_iff.mp h
      obtain ⟨hname, rfl⟩ := (getText_ok_iff _ r _).mp hfirst
      obtain ⟨_, _, hsecond, h⟩ := outcome_bind_ok_iff.mp h
      obtain ⟨hid, rfl⟩ := (getText_ok_iff _ r _).mp hsecond
      obtain ⟨hproduct, rfl⟩ := (getText_ok_iff _ r _).mp h
      refine ⟨hsites.mpr ⟨hopening, hsize, hgetAt⟩, _, rfl,
        (htexts _).mpr ⟨hname, hid, hproduct⟩, ?_⟩
      simp [Request.written]
  · rintro ⟨hopening, info, hinfo, hdelivers, rfl⟩
    obtain ⟨hopening, hsize, hgetAt⟩ := hsites.mp hopening
    obtain ⟨hname, hid, hproduct⟩ := (htexts info).mp hdelivers
    rw [outcome_bind_ok ((getDeviceInformationCollection_ok_iff devices devices).mpr
      ⟨hopening, rfl, rfl⟩), outcome_bind_ok (outcome_call_none hsize ()), hinfo,
      outcome_bind_ok (outcome_call_none hgetAt info),
      outcome_bind_ok ((getText_ok_iff info r .deviceName).mpr ⟨hname, rfl⟩),
      outcome_bind_ok ((getText_ok_iff info r .deviceUniqueId).mpr ⟨hid, rfl⟩)]
    rw [getText_ok_iff]
    exact ⟨hproduct, by simp [Request.written]⟩

/-- Only the buffers that are asked for are written to, about the camera that is asked for. -/
theorem getDeviceName_writes :
    ∀ w ∈ (getDeviceName fails devices r).2, r.wants w.text ∧
      (w.bytes = none ∨
        ∃ info, devices[r.deviceNumber.toNat]? = some info ∧ Complete fails info r w) := by
  have hkeeps : ∀ P : List Written → Prop, P [] →
      (∀ info, devices[r.deviceNumber.toNat]? = some info →
        (∀ site ∈ openingSites, fails site = none) → ∀ text,
          Keeps P (getText fails info r text)) →
      P (getDeviceName fails devices r).2 := by
    intro P hnil htexts
    have hinternal : Keeps P (getDeviceNameInternal fails devices r) := by
      unfold getDeviceNameInternal getDeviceInformationCollection
      simp only [bind_assoc]
      apply Keeps.call_bind
      intro hfactory
      apply Keeps.call_bind
      intro hstatics
      apply Keeps.call_bind
      intro hfind
      apply Keeps.call_bind
      intro hwait
      apply Keeps.call_bind
      intro hresults
      apply Keeps.call_bind
      intro hsize
      cases hinfo : devices[r.deviceNumber.toNat]? with
      | none => exact Keeps.throw eBounds
      | some info =>
        apply Keeps.call_bind
        intro hgetAt
        have hopened : ∀ site ∈ openingSites, fails site = none := by
          simp [openingSites, hfactory, hstatics, hfind, hwait, hresults, hsize, hgetAt]
        have htext := htexts info hinfo hopened
        exact (htext _).bind fun _ => (htext _).bind fun _ => htext _
    have hwritten : P (outcome (getDeviceNameInternal fails devices r) []).2 := hinternal [] hnil
    unfold getDeviceName
    cases houtcome : outcome (getDeviceNameInternal fails devices r) [] with
    | mk result items =>
      rw [houtcome] at hwritten
      cases result with
      | ok _ => exact hwritten
      | error e => exact hwritten
  cases hinfo : devices[r.deviceNumber.toNat]? with
  | none =>
    have hnone : (getDeviceName fails devices r).2 = [] := by
      apply hkeeps (· = []) rfl
      intro info hsome
      rw [hinfo] at hsome
      cases hsome
    simp [hnone]
  | some info =>
    have hwrites : Writes fails r info (getDeviceName fails devices r).2 := by
      apply hkeeps (Writes fails r info)
      · intro w hw
        cases hw
      · intro info' hsome hopened text
        rw [hinfo] at hsome
        cases hsome
        exact getText_writes hopened info r text
    intro w hw
    obtain ⟨hwants, hbytes⟩ := hwrites w hw
    refine ⟨hwants, hbytes.imp_right fun hcomplete => ⟨info, rfl, hcomplete⟩⟩

end Calls

/-- `GetDeviceName` returns 0 just if the camera is there, no call that it makes fails, and every
text that is asked for exists and fits; then each buffer that has a length holds its text. In any
case no other buffer is written to, and what a conversion that succeeded has written is the whole
text. -/
theorem device_name_returned_iff (fails : Site → Option HResult)
    (devices : List DeviceInformation) (r : Request) :
    (∀ written, getDeviceName fails devices r = (0, written) ↔
      (∀ site ∈ openingSites, fails site = none) ∧
        ∃ info, devices[r.deviceNumber.toNat]? = some info ∧
          (∀ text, Delivers fails info r text) ∧ written = r.written info) ∧
      ∀ w ∈ (getDeviceName fails devices r).2, r.wants w.text ∧
        (w.bytes = none ∨
          ∃ info, devices[r.deviceNumber.toNat]? = some info ∧ Complete fails info r w) := by
  refine ⟨?_, getDeviceName_writes fails devices r⟩
  intro written
  rw [← getDeviceNameInternal_ok_iff, getDeviceName]
  cases houtcome : outcome (getDeviceNameInternal fails devices r) [] with
  | mk result items =>
    cases result with
    | ok _ => simp
    | error e => simp

end WeiRtcNative.VideoCapture.DeviceNames
