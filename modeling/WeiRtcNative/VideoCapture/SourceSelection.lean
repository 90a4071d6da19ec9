import WeiRtcNative.VideoCapture.Formats

/-!
# The source selection of StartCapture

The loops of `VideoCaptureWinRTInternal::StartCapture` with their iterator. `MoveNext` is called
in one branch only, the one that filters a source out, so the loop has fuel. `findFormat` says
what it comes to.
-/

namespace WeiRtcNative.VideoCapture.SourceSelection

open Formats
set_option autoImplicit false

/-- `media_frame_source` and the format set on it. -/
structure Selection where
  mediaFrameSource : MediaFrameSource
  mediaFrameFormat : MediaFrameFormat
  deriving DecidableEq, Repr

inductive HResult where
  | eFail
  deriving DecidableEq, Repr

/-- The inner loop, over the formats from index `i` on. -/
def formatLoop (capability : VideoCaptureCapability) :
    List MediaFrameFormat → Option MediaFrameFormat
  | [] => none
  | format :: formats =>
    if format.videoType ≠ capability.videoType ∧ format.videoType ≠ .kI420 ∧
        format.videoType ≠ .kYUY2 ∧ format.videoType ≠ .kYV12 ∧ format.videoType ≠ .kNV12 then
      formatLoop capability formats
    else if format.width ≠ capability.width.toUInt32 ∨
        format.height ≠ capability.height.toUInt32 then
      formatLoop capability formats
    else if format.frameRate > capability.maxFPS.toUInt32 then
      formatLoop capability formats
    else some format

/-- The outer loop. The iterator is the list from its current source on; `none` without fuel. -/
def sourceLoop (capability : VideoCaptureCapability) :
    Nat → List MediaFrameSource → Option Selection → Option (Option Selection)
  | 0, _, _ => none
  | _ + 1, [], selected => some selected
  | fuel + 1, value :: rest, selected =>
    if value.streamType ≠ .videoRecord ∨ value.kind ≠ .color then
      sourceLoop capability fuel rest selected
    else
      let selected := ((formatLoop capability value.supportedFormats).map (⟨value, ·⟩)).or selected
      match selected with
      | some s => some (some s)
      -- the iterator still stands on `value`
      | none => sourceLoop capability fuel (value :: rest) none

def selectSource (capability : VideoCaptureCapability) (sources : List MediaFrameSource)
    (fuel : Nat) : Option (Except HResult Selection) :=
  (sourceLoop capability fuel sources none).map fun selected =>
    match selected with
    | some s => .ok s
    | none => .error .eFail

/-- A colour source with an acceptable format. -/
def Offers (capability : VideoCaptureCapability) (source : MediaFrameSource)
    (format : MediaFrameFormat) : Prop :=
  source.isColorVideo = true ∧ format ∈ source.supportedFormats ∧ accepts capability format = true

/-- The result that StartCapture is to come to. -/
def Proper (capability : VideoCaptureCapability) (sources : List MediaFrameSource) :
    Except HResult Selection → Prop
  | .ok s => s.mediaFrameSource ∈ sources ∧ Offers capability s.mediaFrameSource s.mediaFrameFormat
  | .error _ => ¬ ∃ source ∈ sources, ∃ format, Offers capability source format

theorem formatLoop_eq (capability : VideoCaptureCapability) (formats : List MediaFrameFormat) :
    formatLoop capability formats = formats.find? (accepts capability) := by
  induction formats with
  | nil => rfl
  | cons format formats ih =>
    rw [formatLoop, ih, List.find?_cons]
    cases haccepts : accepts capability format with
    | true =>
      simp only [accepts, Bool.and_eq_true, Bool.or_eq_true, beq_iff_eq, decide_eq_true_eq]
        at haccepts
      obtain ⟨⟨htype, hwidth, hheight⟩, hrate⟩ := haccepts
      rw [if_neg (by tauto), if_neg (by tauto), if_neg (UInt32.not_lt.mpr hrate)]
    | false =>
      simp only [accepts, Bool.and_eq_false_iff, Bool.or_eq_false_iff, beq_eq_false_iff_ne,
        decide_eq_false_iff_not] at haccepts
      rcases haccepts with (htype | hsize) | hrate
      · rw [if_pos (by tauto)]
      · rw [if_pos hsize, ite_self]
      · rw [if_pos (UInt32.not_le.mp hrate), ite_self, ite_self]

theorem isColorVideo_iff (source : MediaFrameSource) :
    source.isColorVideo = true ↔ ¬ (source.streamType ≠ .videoRecord ∨ source.kind ≠ .color) := by
  simp [MediaFrameSource.isColorVideo]

section Loop
variable (capability : VideoCaptureCapability)

theorem sourceLoop_filtered {value : MediaFrameSource} (hvalue : value.isColorVideo = false)
    (rest : List MediaFrameSource) (selected : Option Selection) (fuel : Nat) :
    sourceLoop capability (fuel + 1) (value :: rest) selected =
      sourceLoop capability fuel rest selected := by
  have hfiltered : value.streamType ≠ .videoRecord ∨ value.kind ≠ .color := by
    by_contra hcolor
    rw [(isColorVideo_iff value).mpr hcolor] at hvalue
    cases hvalue
  rw [sourceLoop, if_pos hfiltered]

theorem sourceLoop_color {value : MediaFrameSource} (hvalue : value.isColorVideo = true)
    (rest : List MediaFrameSource) (fuel : Nat) :
    sourceLoop capability (fuel + 1) (value :: rest) none =
      match value.supportedFormats.find? (accepts capability) with
      | some format => some (some ⟨value, format⟩)
      | none => sourceLoop capability fuel (value :: rest) none := by
  rw [sourceLoop, if_neg ((isColorVideo_iff value).mp hvalue), formatLoop_eq]
  cases value.supportedFormats.find? (accepts capability) with
  | none => rfl
  | some format => rfl

/-- A colour source without an acceptable format holds the loop for ever. -/
theorem sourceLoop_endless {value : MediaFrameSource} (hvalue : value.isColorVideo = true)
    (hnone : value.supportedFormats.find? (accepts capability) = none)
    (rest : List MediaFrameSource) (fuel : Nat) :
    sourceLoop capability fuel (value :: rest) none = none := by
  induction fuel with
  | zero => rfl
  | succ fuel ih => rw [sourceLoop_color capability hvalue, hnone, ih]

theorem sourceLoop_found {sources : List MediaFrameSource} {format : MediaFrameFormat}
    (h : findFormat capability sources = .found format) :
    ∃ source ∈ sources, Offers capability source format ∧
      sourceLoop capability (sources.length + 1) sources none = some (some ⟨source, format⟩) := by
  induction sources with
  | nil => cases h
  | cons source sources ih =>
    cases hcolor : source.isColorVideo with
    | false =>
      rw [findFormat, hcolor, if_neg Bool.false_ne_true] at h
      obtain ⟨s, hs, hoffers, hloop⟩ := ih h
      refine ⟨s, List.mem_cons_of_mem source hs, hoffers, ?_⟩
      rw [List.length_cons, sourceLoop_filtered capability hcolor, hloop]
    | true =>
      rw [findFormat, hcolor, if_pos rfl] at h
      cases hfind : source.supportedFormats.find? (accepts capability) with
      | none =>
        rw [hfind] at h
        cases h
      | some found =>
        rw [hfind] at h
        cases h
        refine ⟨source, List.mem_cons_self, ?_, ?_⟩
        · exact ⟨hcolor, List.mem_of_find?_eq_some hfind, List.find?_some hfind⟩
        · rw [sourceLoop_color capability hcolor, hfind]

theorem sourceLoop_notFound {sources : List MediaFrameSource}
    (h : findFormat capability sources = .notFound) :
    (∀ source ∈ sources, source.isColorVideo = false) ∧
      sourceLoop capability (sources.length + 1) sources none = some none := by
  induction sources with
  | nil => simp [sourceLoop]
  | cons source sources ih =>
    cases hcolor : source.isColorVideo with
    | false =>
      rw [findFormat, hcolor, if_neg Bool.false_ne_true] at h
      obtain ⟨hnone, hloop⟩ := ih h
      refine ⟨List.forall_mem_cons.mpr ⟨hcolor, hnone⟩, ?_⟩
      rw [List.length_cons, sourceLoop_filtered capability hcolor, hloop]
    | true =>
      rw [findFormat, hcolor, if_pos rfl] at h
      split at h
      · cases h
      · cases h

theorem sourceLoop_of_endless {sources : List MediaFrameSource}
    (h : findFormat capability sources = .endless) (fuel : Nat) :
    sourceLoop capability fuel sources none = none := by
  induction sources generalizing fuel with
  | nil => cases h
  | cons source sources ih =>
    cases hcolor : source.isColorVideo with
    | false =>
      rw [findFormat, hcolor, if_neg Bool.false_ne_true] at h
      cases fuel with
      | zero => rfl
      | succ fuel => rw [sourceLoop_filtered capability hcolor, ih h]
    | true =>
      rw [findFormat, hcolor, if_pos rfl] at h
      cases hfind : source.supportedFormats.find? (accepts capability) with
      | none => exact sourceLoop_endless capability hcolor hfind sources fuel
      | some found =>
        rw [hfind] at h
        cases h

theorem findFormat_endless_iff (sources : List MediaFrameSource) :
    findFormat capability sources = .endless ↔
      ∃ source ∈ sources.find? (·.isColorVideo),
        ∀ format ∈ source.supportedFormats, accepts capability format = false := by
  induction sources with
  | nil => simp [findFormat]
  | cons source sources ih =>
    rw [findFormat, List.find?_cons]
    cases hcolor : source.isColorVideo with
    | false => exact ih
    | true =>
      have hnone : (∀ format ∈ source.supportedFormats, accepts capability format = false) ↔
          source.supportedFormats.find? (accepts capability) = none := by
        simp [List.find?_eq_none]
      simp only [if_true, Option.mem_def, Option.some.injEq, exists_eq_left', hnone]
      cases source.supportedFormats.find? (accepts capability) with
      | none => simp
      | some format => simp

end Loop

/-- The selection ends, and with the proper result, just when the first colour source of the
list has an acceptable format or there is no colour source. -/
theorem selectSource_proper_iff (capability : VideoCaptureCapability)
    (sources : List MediaFrameSource) :
    (∃ fuel result, selectSource capability sources fuel = some result ∧
        Proper capability sources result) ↔
      ∀ source ∈ sources.find? (·.isColorVideo),
        ∃ format ∈ source.supportedFormats, accepts capability format = true := by
  have hendless := findFormat_endless_iff capability sources
  constructor
  · rintro ⟨fuel, result, hselect, -⟩ source hsource
    by_contra hformats
    simp only [not_exists, not_and, Bool.not_eq_true] at hformats
    have hloop := sourceLoop_of_endless capability (hendless.mpr ⟨source, hsource, hformats⟩) fuel
    rw [selectSource, hloop] at hselect
    cases hselect
  · intro hfirst
    cases hfind : findFormat capability sources with
    | found format =>
      obtain ⟨source, hsource, hoffers, hloop⟩ := sourceLoop_found capability hfind
      refine ⟨sources.length + 1, .ok ⟨source, format⟩, ?_, hsource, hoffers⟩
      rw [selectSource, hloop]
      rfl
    | notFound =>
      obtain ⟨hnone, hloop⟩ := sourceLoop_notFound capability hfind
      refine ⟨sources.length + 1, .error .eFail, ?_, ?_⟩
      · rw [selectSource, hloop]
        rfl
      · rintro ⟨source, hsource, format, hcolor, -⟩
        rw [hnone source hsource] at hcolor
        cases hcolor
    | endless =>
      obtain ⟨source, hsource, hformats⟩ := hendless.mp hfind
      obtain ⟨format, hformat, haccepts⟩ := hfirst source hsource
      rw [hformats format hformat] at haccepts
      cases haccepts

def smallSource : MediaFrameSource := ⟨.videoRecord, .color, [⟨.kNV12, 640, 480, 30⟩]⟩

def largeSource : MediaFrameSource := ⟨.videoRecord, .color, [⟨.kNV12, 1280, 720, 30⟩]⟩

/-- A colour source with frames of another size stands before the one that is asked for. -/
theorem small_source_first_endless :
    ¬ ∃ fuel result,
      selectSource ⟨1280, 720, 30, .kNV12⟩ [smallSource, largeSource] fuel = some result ∧
        Proper ⟨1280, 720, 30, .kNV12⟩ [smallSource, largeSource] result := by
  rintro ⟨fuel, result, hselect, -⟩
  have hcolor : smallSource.isColorVideo = true := rfl
  have hnone : smallSource.supportedFormats.find? (accepts ⟨1280, 720, 30, .kNV12⟩) = none := by
    decide
  rw [selectSource, sourceLoop_endless _ hcolor hnone] at hselect
  cases hselect

end WeiRtcNative.VideoCapture.SourceSelection
