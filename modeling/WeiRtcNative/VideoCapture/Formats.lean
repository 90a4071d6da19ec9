import Mathlib.Data.List.Basic

/-!
# The capability and the format of a camera

The constructor of `CameraCapturer` walks through the capabilities of the camera and stops at
the first one that is neither YUY2 nor unknown; `StartCapture` sets the first format of the
camera's source that has the size of that capability, no higher frame rate, and the same type
or one of four others. `FrameArrived` takes frames with two planes only.
-/

namespace WeiRtcNative.VideoCapture.Formats

set_option autoImplicit false

inductive VideoType where
  | kUnknown
  | kI420
  | kIYUV
  | kRGB24
  | kABGR
  | kARGB
  | kARGB4444
  | kRGB565
  | kARGB1555
  | kYUY2
  | kYV12
  | kUYVY
  | kMJPEG
  | kNV21
  | kNV12
  | kBGRA
  deriving DecidableEq, Repr

structure VideoCaptureCapability where
  width : Int32
  height : Int32
  maxFPS : Int32
  videoType : VideoType
  deriving DecidableEq, Repr

def VideoCaptureCapability.create : VideoCaptureCapability := ⟨0, 0, 0, .kUnknown⟩

structure MediaFrameFormat where
  videoType : VideoType
  width : UInt32
  height : UInt32
  frameRate : UInt32
  deriving DecidableEq, Repr

inductive MediaStreamType where
  | videoRecord
  | other
  deriving DecidableEq, Repr

inductive MediaFrameSourceKind where
  | color
  | other
  deriving DecidableEq, Repr

structure MediaFrameSource where
  streamType : MediaStreamType
  kind : MediaFrameSourceKind
  supportedFormats : List MediaFrameFormat
  deriving DecidableEq, Repr

def MediaFrameSource.isColorVideo (source : MediaFrameSource) : Bool :=
  source.streamType == .videoRecord && source.kind == .color

def skipped (type : VideoType) : Bool := type == .kYUY2 || type == .kUnknown

/-- The loop of the constructor, which keeps the capability it has read last. -/
def pickCapability (capability : VideoCaptureCapability) :
    List VideoCaptureCapability → VideoCaptureCapability
  | [] => capability
  | c :: cs => if skipped c.videoType then pickCapability c cs else c

def accepts (capability : VideoCaptureCapability) (format : MediaFrameFormat) : Bool :=
  (format.videoType == capability.videoType || format.videoType == .kI420 ||
    format.videoType == .kYUY2 || format.videoType == .kYV12 || format.videoType == .kNV12) &&
  (format.width == capability.width.toUInt32 && format.height == capability.height.toUInt32) &&
  format.frameRate ≤ capability.maxFPS.toUInt32

/-- The search of `StartCapture` through the sources. A colour source without an accepted
format is looked at again and again. -/
inductive Search where
  | found (format : MediaFrameFormat)
  | notFound
  | endless
  deriving DecidableEq, Repr

def findFormat (capability : VideoCaptureCapability) : List MediaFrameSource → Search
  | [] => .notFound
  | source :: sources =>
    if source.isColorVideo then
      match source.supportedFormats.find? (accepts capability) with
      | some format => .found format
      | none => .endless
    else findFormat capability sources

def TwoPlane (type : VideoType) : Prop := type = .kNV12 ∨ type = .kNV21

/-- An entry of the camera's list, as a format of its source. -/
def VideoCaptureCapability.format (c : VideoCaptureCapability) : MediaFrameFormat :=
  ⟨c.videoType, c.width.toUInt32, c.height.toUInt32, c.maxFPS.toUInt32⟩

/-- The capability and then the format picked for it have two planes. -/
def Deliverable (capabilities : List VideoCaptureCapability) (sources : List MediaFrameSource) :
    Prop :=
  TwoPlane (pickCapability .create capabilities).videoType ∧
    ∃ format, findFormat (pickCapability .create capabilities) sources = .found format ∧
      TwoPlane format.videoType

/-- `e` would be set in place of `c`. -/
def Shadows (e c : VideoCaptureCapability) : Prop :=
  e.videoType = .kYUY2 ∧ e.width = c.width ∧ e.height = c.height ∧
    e.maxFPS.toUInt32 ≤ c.maxFPS.toUInt32

/-- The first entry that is neither YUY2 nor unknown has two planes, and no YUY2 entry before
it has its size and no higher frame rate. -/
def Condition (capabilities : List VideoCaptureCapability) : Prop :=
  ∃ pre c post, capabilities = pre ++ c :: post ∧ (∀ e ∈ pre, skipped e.videoType = true) ∧
    TwoPlane c.videoType ∧ ∀ e ∈ pre, ¬ Shadows e c

theorem TwoPlane.not_skipped {type : VideoType} (h : TwoPlane type) : skipped type = false := by
  rcases h with rfl | rfl <;> rfl

theorem pickCapability_append {pre : List VideoCaptureCapability} {c : VideoCaptureCapability}
    (hpre : ∀ e ∈ pre, skipped e.videoType = true) (hc : skipped c.videoType = false)
    (d : VideoCaptureCapability) (post : List VideoCaptureCapability) :
    pickCapability d (pre ++ c :: post) = c := by
  induction pre generalizing d with
  | nil => simp [pickCapability, hc]
  | cons e pre ih =>
    rw [List.cons_append, pickCapability, if_pos (hpre e List.mem_cons_self)]
    exact ih (fun e he => hpre e (List.mem_cons_of_mem _ he)) e

/-- The picked capability is the first one that is not skipped, if there is one. -/
theorem pickCapability_split {d : VideoCaptureCapability} {cs : List VideoCaptureCapability}
    (hd : skipped d.videoType = true) (h : skipped (pickCapability d cs).videoType = false) :
    ∃ pre post, cs = pre ++ pickCapability d cs :: post ∧
      ∀ e ∈ pre, skipped e.videoType = true := by
  induction cs generalizing d with
  | nil =>
    rw [pickCapability, hd] at h
    cases h
  | cons c cs ih =>
    rw [pickCapability] at h ⊢
    split
    · rename_i hc
      rw [if_pos hc] at h
      obtain ⟨pre, post, hcs, hpre⟩ := ih hc h
      refine ⟨c :: pre, post, by rw [List.cons_append, ← hcs], ?_⟩
      intro e he
      rcases List.mem_cons.mp he with rfl | he
      · exact hc
      · exact hpre e he
    · exact ⟨[], cs, rfl, by simp⟩

theorem accepts_self (c : VideoCaptureCapability) : accepts c c.format = true := by
  simp [accepts, VideoCaptureCapability.format]

theorem toUInt32_eq_iff (a b : Int32) : a.toUInt32 = b.toUInt32 ↔ a = b := by
  constructor
  · intro h
    cases a
    cases b
    exact congrArg Int32.ofUInt32 h
  · rintro rfl
    rfl

theorem accepts_skipped_iff {e c : VideoCaptureCapability} (he : skipped e.videoType = true)
    (hc : TwoPlane c.videoType) : accepts c e.format = true ↔ Shadows e c := by
  have htype : e.videoType = .kYUY2 ∨ e.videoType = .kUnknown := by
    simpa [skipped] using he
  rcases htype with htype | htype
  · simp [accepts, Shadows, VideoCaptureCapability.format, htype, toUInt32_eq_iff, and_assoc]
  · rcases hc with hc | hc
    all_goals simp [accepts, Shadows, VideoCaptureCapability.format, htype, hc]

section Search
variable {pre : List VideoCaptureCapability} {c : VideoCaptureCapability}
  (hpre : ∀ e ∈ pre, skipped e.videoType = true) (hc : TwoPlane c.videoType)
include hpre hc

/-- Without an entry that shadows it, the format of the capability itself is found. -/
theorem find_self (hshadow : ∀ e ∈ pre, ¬ Shadows e c) (post : List VideoCaptureCapability) :
    ((pre ++ c :: post).map VideoCaptureCapability.format).find? (accepts c) = some c.format := by
  have hnone : (pre.map VideoCaptureCapability.format).find? (accepts c) = none := by
    rw [List.find?_eq_none]
    intro format hformat haccepts
    obtain ⟨e, he, rfl⟩ := List.mem_map.mp hformat
    exact hshadow e he ((accepts_skipped_iff (hpre e he) hc).mp haccepts)
  rw [List.map_append, List.find?_append, hnone, List.map_cons,
    List.find?_cons_of_pos (accepts_self c)]
  rfl

/-- An entry that shadows the capability puts a YUY2 format in its place. -/
theorem find_shadow {e : VideoCaptureCapability} (he : e ∈ pre) (hshadow : Shadows e c)
    (post : List VideoCaptureCapability) :
    ∃ format, ((pre ++ c :: post).map VideoCaptureCapability.format).find? (accepts c) =
      some format ∧ format.videoType = .kYUY2 := by
  have hsome : ((pre.map VideoCaptureCapability.format).find? (accepts c)).isSome = true := by
    rw [List.find?_isSome]
    exact ⟨e.format, List.mem_map_of_mem he, (accepts_skipped_iff (hpre e he) hc).mpr hshadow⟩
  obtain ⟨format, hfind⟩ := Option.isSome_iff_exists.mp hsome
  refine ⟨format, ?_, ?_⟩
  · rw [List.map_append, List.find?_append, hfind]
    rfl
  · obtain ⟨e', he', rfl⟩ := List.mem_map.mp (List.mem_of_find?_eq_some hfind)
    exact ((accepts_skipped_iff (hpre e' he') hc).mp (List.find?_some hfind)).1

end Search

theorem findFormat_append {before : List MediaFrameSource}
    (hbefore : ∀ source ∈ before, source.isColorVideo = false) {source : MediaFrameSource}
    (hsource : source.isColorVideo = true) (capability : VideoCaptureCapability)
    {format : MediaFrameFormat}
    (hfind : source.supportedFormats.find? (accepts capability) = some format)
    (after : List MediaFrameSource) :
    findFormat capability (before ++ source :: after) = .found format := by
  induction before with
  | nil => simp [findFormat, hsource, hfind]
  | cons s before ih =>
    rw [List.cons_append, findFormat, if_neg (by simp [hbefore s List.mem_cons_self])]
    exact ih fun s hs => hbefore s (List.mem_cons_of_mem _ hs)

def colorSource (capabilities : List VideoCaptureCapability) : MediaFrameSource :=
  ⟨.videoRecord, .color, capabilities.map VideoCaptureCapability.format⟩

/-- Frames of the camera are deliverable just when the first entry that the constructor does
not skip has two planes and no skipped entry is set in its place. -/
theorem deliverable_iff (capabilities : List VideoCaptureCapability)
    (before after : List MediaFrameSource)
    (hbefore : ∀ source ∈ before, source.isColorVideo = false) :
    Deliverable capabilities (before ++ colorSource capabilities :: after) ↔
      Condition capabilities := by
  constructor
  · rintro ⟨hc, format, hfound, hformat⟩
    obtain ⟨pre, post, hsplit, hpre⟩ := pickCapability_split rfl hc.not_skipped
    generalize pickCapability .create capabilities = c at hc hfound hsplit
    refine ⟨pre, c, post, hsplit, hpre, hc, ?_⟩
    intro e he hshadow
    obtain ⟨shadow, hfind, hyuy2⟩ := find_shadow hpre hc he hshadow post
    rw [← hsplit] at hfind
    rw [findFormat_append hbefore rfl c hfind] at hfound
    obtain rfl := Search.found.inj hfound
    rw [hyuy2] at hformat
    exact absurd hformat.not_skipped (by decide)
  · rintro ⟨pre, c, post, hsplit, hpre, hc, hshadow⟩
    have hpick : pickCapability .create capabilities = c := by
      rw [hsplit]
      exact pickCapability_append hpre hc.not_skipped _ post
    have hfind := find_self hpre hc hshadow post
    rw [← hsplit] at hfind
    refine ⟨by rwa [hpick], c.format, ?_, hc⟩
    rw [hpick]
    exact findFormat_append hbefore rfl c hfind after

def depthSource : MediaFrameSource := ⟨.videoRecord, .other, []⟩

theorem nv12_first_deliverable :
    (∀ source ∈ [depthSource], source.isColorVideo = false) ∧
      Deliverable [⟨640, 480, 30, .kNV12⟩, ⟨640, 480, 30, .kYUY2⟩]
        ([depthSource] ++ colorSource [⟨640, 480, 30, .kNV12⟩, ⟨640, 480, 30, .kYUY2⟩] :: []) := by
  have hbefore : ∀ source ∈ [depthSource], source.isColorVideo = false := by
    simp [depthSource, MediaFrameSource.isColorVideo]
  refine ⟨hbefore, ?_⟩
  apply (deliverable_iff _ [depthSource] [] hbefore).mpr
  exact ⟨[], _, _, rfl, by simp, .inl rfl, by simp⟩

/-- The capability is NV12, but the YUY2 format of the same size comes first. -/
theorem yuy2_in_place_of_nv12 :
    ¬ Deliverable [⟨640, 480, 30, .kYUY2⟩, ⟨640, 480, 30, .kNV12⟩]
        [colorSource [⟨640, 480, 30, .kYUY2⟩, ⟨640, 480, 30, .kNV12⟩]] := by
  rintro ⟨-, format, hfound, hformat⟩
  have hyuy2 : findFormat (pickCapability .create [⟨640, 480, 30, .kYUY2⟩, ⟨640, 480, 30, .kNV12⟩])
      [colorSource [⟨640, 480, 30, .kYUY2⟩, ⟨640, 480, 30, .kNV12⟩]] =
        .found ⟨.kYUY2, 640, 480, 30⟩ := by
    decide
  obtain rfl := Search.found.inj (hyuy2.symm.trans hfound)
  exact absurd hformat.not_skipped (by decide)

end WeiRtcNative.VideoCapture.Formats
