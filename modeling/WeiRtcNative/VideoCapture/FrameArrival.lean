import WeiRtcNative.Lib.Machine
import WeiRtcNative.VideoCapture.CapabilityMap

/-!
# VideoCaptureWinRT: frames that arrive

`FrameArrived` acquires up to four objects of a frame one after the other, hands the picture to
the callback while it holds them all, and closes those that it has, the last one first. It tests
no object for null but the frame itself, and not whether an object it closes is closable; a use of
a null pointer ends the process.
-/

namespace WeiRtcNative.VideoCapture.FrameArrival

open CallChain
open Machine (run run_cons)
open CapabilityMap (HResult MediaRatio Capability toVideoType)
set_option autoImplicit false

inductive Resource where
  | mediaFrameReference
  | softwareBitmap
  | bitmapBuffer
  | memoryBufferReference
  deriving DecidableEq, Repr

inductive Site where
  | tryAcquireLatestFrame
  | getVideoMediaFrame
  | getVideoFormat
  | getMediaFrameFormat
  | getFrameRate
  | getWidth
  | getHeight
  | getSubtype
  | getNumerator
  | getDenominator
  | getSoftwareBitmap
  | lockBuffer
  | getPlaneCount
  | getPlaneDescriptionY
  | getPlaneDescriptionUV
  | asMemoryBuffer
  | createReference
  | asMemoryBufferByteAccess
  | getBuffer
  | asClosable (r : Resource)
  deriving DecidableEq, Repr

structure BitmapPlaneDescription where
  startIndex : Int32
  width : Int32
  height : Int32
  stride : Int32
  deriving DecidableEq, Repr

structure SoftwareBitmap where
  planeCount : Int32
  planeY : BitmapPlaneDescription
  planeUV : BitmapPlaneDescription
  capacity : UInt32
  deriving DecidableEq, Repr

/-- The bitmap is null if the picture is in graphics memory. -/
structure VideoMediaFrame where
  width : UInt32
  height : UInt32
  frameRate : MediaRatio
  subtype : List UInt16
  softwareBitmap : Option SoftwareBitmap
  deriving DecidableEq, Repr

/-- One call of the handler: how the calls it makes fail, and the latest frame, if there is one,
with its picture, if it is one of a camera. -/
structure Arrival where
  fails : Site → Option HResult
  mediaFrameReference : Option (Option VideoMediaFrame)

/-- The arguments of `pfn_incoming_frame_`; the planes are given by their place in the buffer. -/
structure IncomingFrame where
  planeY : Int
  strideY : Int32
  planeUV : Int
  strideUV : Int32
  videoFrameLength : UInt32
  frameInfo : Capability
  captureTime : Int
  deriving DecidableEq, Repr

inductive Event where
  | acquired (r : Resource)
  | incoming (frame : IncomingFrame)
  | closed (r : Resource)
  | nullUsed
  deriving DecidableEq, Repr

inductive Stop where
  | failed (hr : HResult)
  | crashed
  deriving DecidableEq, Repr

abbrev Handler (α : Type) := Chain Stop Event α

def eFail : HResult := 0x80004005

def crash {α : Type} : Handler α := do
  push .nullUsed
  throw .crashed

section Calls
variable (fails : Site → Option HResult)

def ask {α : Type} (site : Site) (value : α) : Handler α :=
  call (fun s => (fails s).map .failed) site value

def safelyComputeMediaRatio (ratio : MediaRatio) : UInt32 :=
  if (fails .getNumerator).isSome then 0
  else if (fails .getDenominator).isSome then 0
  else ratio.rate

def frameInfo (frame : VideoMediaFrame) : Capability where
  width := frame.width.toInt32
  height := frame.height.toInt32
  maxFPS := (safelyComputeMediaRatio fails frame.frameRate).toInt32
  videoType := toVideoType frame.subtype
  interlaced := false
  profileId := []
  mediaCaptureVideoProfile := none
  recordMediaDescription := none

/-- The calls on a bitmap up to the callback. -/
def lockAndDeliver (info : Capability) (bitmap : SoftwareBitmap) : Handler Unit := do
  ask fails .lockBuffer ()
  push (.acquired .bitmapBuffer)
  let planeCount ← ask fails .getPlaneCount bitmap.planeCount
  if planeCount = 2 then
    let planeY ← ask fails .getPlaneDescriptionY bitmap.planeY
    let planeUV ← ask fails .getPlaneDescriptionUV bitmap.planeUV
    ask fails .asMemoryBuffer ()
    ask fails .createReference ()
    push (.acquired .memoryBufferReference)
    ask fails .asMemoryBufferByteAccess ()
    let capacity ← ask fails .getBuffer bitmap.capacity
    push (.incoming ⟨0, planeY.stride, planeUV.startIndex.toInt, planeUV.stride, capacity, info, 0⟩)
  else
    throw (.failed eFail)

def readFrame (frame : VideoMediaFrame) : Handler Unit := do
  ask fails .getVideoFormat ()
  ask fails .getMediaFrameFormat ()
  ask fails .getFrameRate ()
  ask fails .getWidth ()
  ask fails .getHeight ()
  ask fails .getSubtype ()
  let softwareBitmap ← ask fails .getSoftwareBitmap frame.softwareBitmap
  match softwareBitmap with
  | none => crash
  | some bitmap =>
    push (.acquired .softwareBitmap)
    lockAndDeliver fails (frameInfo fails frame) bitmap

/-- The first part of `FrameArrived`. -/
def acquireFrame (mediaFrameReference : Option (Option VideoMediaFrame)) : Handler Unit := do
  let reference ← ask fails .tryAcquireLatestFrame mediaFrameReference
  match reference with
  | none => return
  | some videoMediaFrame =>
    push (.acquired .mediaFrameReference)
    let frame ← ask fails .getVideoMediaFrame videoMediaFrame
    match frame with
    | none => crash
    | some frame => readFrame fails frame

/-- A pointer is set if its object was acquired. -/
def close (r : Resource) : Handler Unit := do
  let log ← get
  if .acquired r ∈ log then
    match fails (.asClosable r) with
    | some _ => crash
    | none => push (.closed r)

def closeAll : List Resource → Handler Unit
  | [] => pure ()
  | r :: rs => do
    close fails r
    closeAll rs

/-- The second part, which also follows a failed first one. -/
def closeFrame : Handler Unit :=
  closeAll fails [.memoryBufferReference, .bitmapBuffer, .softwareBitmap, .mediaFrameReference]

end Calls

/-- The result, and what was done with the objects. -/
def frameArrived (a : Arrival) : Except Stop Unit × List Event :=
  let first := outcome (acquireFrame a.fails a.mediaFrameReference) []
  if first.1 = .error .crashed then first
  else
    let second := outcome (closeFrame a.fails) first.2
    (if second.1 = .error .crashed then second.1 else first.1, second.2)

/-- The handler for every frame; the process is still there or not. -/
def step (alive : Bool) (a : Arrival) : Bool × List Event :=
  if alive then
    let r := frameArrived a
    (r.1 ≠ .error .crashed, r.2)
  else (false, [])

/-- The calls between the frame and its bitmap. -/
def readSites : List Site :=
  [.getVideoMediaFrame, .getVideoFormat, .getMediaFrameFormat, .getFrameRate, .getWidth, .getHeight,
    .getSubtype, .getSoftwareBitmap]

/-- The calls between the lock on the bitmap and the reference to its memory. -/
def planeSites : List Site :=
  [.getPlaneCount, .getPlaneDescriptionY, .getPlaneDescriptionUV, .asMemoryBuffer, .createReference]

def bufferSites : List Site := [.asMemoryBufferByteAccess, .getBuffer]

namespace Arrival
variable (a : Arrival)

def Succeeds (sites : List Site) : Prop := ∀ s ∈ sites, a.fails s = none

instance (sites : List Site) : Decidable (a.Succeeds sites) :=
  inferInstanceAs (Decidable (∀ s ∈ sites, a.fails s = none))

/-- The objects acquired of a frame with a bitmap. -/
def heldOfBitmap (bitmap : SoftwareBitmap) : List Resource :=
  if a.Succeeds readSites then
    .softwareBitmap :: (if a.Succeeds [.lockBuffer] then
      .bitmapBuffer :: (if bitmap.planeCount = 2 ∧ a.Succeeds planeSites then
        [.memoryBufferReference] else []) else [])
  else []

def heldOf : Option (Option VideoMediaFrame) → List Resource
  | none => []
  | some none => [.mediaFrameReference]
  | some (some frame) => .mediaFrameReference :: (frame.softwareBitmap.elim [] a.heldOfBitmap)

/-- The objects acquired, in their order. -/
def held : List Resource :=
  if a.Succeeds [.tryAcquireLatestFrame] then a.heldOf a.mediaFrameReference else []

/-- The two getters of the frame rate may fail: `SafelyComputeMediaRatio` gives 0 then. -/
def deliversOf (frame : VideoMediaFrame) (bitmap : SoftwareBitmap) : Option IncomingFrame :=
  if bitmap.planeCount = 2 ∧ a.Succeeds ([.tryAcquireLatestFrame] ++ readSites ++
      [.lockBuffer] ++ planeSites ++ bufferSites) then
    some ⟨0, bitmap.planeY.stride, bitmap.planeUV.startIndex.toInt, bitmap.planeUV.stride,
      bitmap.capacity, frameInfo a.fails frame, 0⟩
  else none

/-- What the callback is given. -/
def delivers : Option IncomingFrame := do
  let frame ← a.mediaFrameReference.join
  let bitmap ← frame.softwareBitmap
  a.deliversOf frame bitmap

/-- A frame without picture, or a picture without bitmap, is read. -/
def ReadsNullOf : Option (Option VideoMediaFrame) → Prop
  | none => False
  | some none => a.Succeeds ([.tryAcquireLatestFrame] ++ [.getVideoMediaFrame])
  | some (some frame) =>
    frame.softwareBitmap = none ∧ a.Succeeds ([.tryAcquireLatestFrame] ++ readSites)

def ReadsNull : Prop := a.ReadsNullOf a.mediaFrameReference

instance decidableReadsNullOf : ∀ reference, Decidable (a.ReadsNullOf reference)
  | none => inferInstanceAs (Decidable False)
  | some none => inferInstanceAs (Decidable (a.Succeeds _))
  | some (some _) => inferInstanceAs (Decidable (_ ∧ a.Succeeds _))

instance : Decidable a.ReadsNull := a.decidableReadsNullOf a.mediaFrameReference

/-- No null pointer is read, and what is acquired can be closed. -/
def Sound : Prop := ¬ a.ReadsNull ∧ a.Succeeds (a.held.map .asClosable)

/-- What is acquired is closed in reverse order, each object once, the picture being handed on
between. -/
def orderly : List Event :=
  a.held.map .acquired ++ a.delivers.toList.map .incoming ++ a.held.reverse.map .closed

end Arrival

section Acquiring
variable (fails : Site → Option HResult)

abbrev Steps := List (Step Stop Site Event)

def lockSteps (info : Capability) (bitmap : SoftwareBitmap) : Steps :=
  [Site.lockBuffer].map .call ++ (.push (.acquired .bitmapBuffer) ::
    if bitmap.planeCount = 2 then
      planeSites.map .call ++ (.push (.acquired .memoryBufferReference) ::
        (bufferSites.map .call ++ [.push (.incoming ⟨0, bitmap.planeY.stride,
          bitmap.planeUV.startIndex.toInt, bitmap.planeUV.stride, bitmap.capacity, info, 0⟩)]))
    else [Site.getPlaneCount].map .call ++ [.throw (.failed eFail)])

def readSteps (frame : VideoMediaFrame) : Steps :=
  readSites.map .call ++
    match frame.softwareBitmap with
    | none => [.push .nullUsed, .throw .crashed]
    | some bitmap => .push (.acquired .softwareBitmap) :: lockSteps (frameInfo fails frame) bitmap

def frameSteps : Option (Option VideoMediaFrame) → Steps
  | none => [.call .tryAcquireLatestFrame]
  | some none => [Site.tryAcquireLatestFrame].map .call ++
      (.push (.acquired .mediaFrameReference) :: ([Site.getVideoMediaFrame].map .call ++
        [.push .nullUsed, .throw .crashed]))
  | some (some frame) => [Site.tryAcquireLatestFrame].map .call ++
      (.push (.acquired .mediaFrameReference) :: readSteps fails frame)

/-- How a call ends the chain. -/
def stops (s : Site) : Option Stop := (fails s).map .failed

variable {fails}

theorem ask_bind {α β : Type} {site : Site} {value : α} {f : α → Handler β} {steps : Steps} {b : β}
    (h : Follows (stops fails) (f value) steps b) :
    Follows (stops fails) (ask fails site value >>= f) (.call site :: steps) b :=
  Follows.call_bind site h

theorem acquired_bind {β : Type} {e : Event} {f : Unit → Handler β} {steps : Steps} {b : β}
    (h : Follows (stops fails) (f ()) steps b) :
    Follows (stops fails) (push e >>= f) (.push e :: steps) b :=
  Follows.push_bind e h

theorem follows_crash : Follows (stops fails) (crash : Handler Unit)
    [.push .nullUsed, .throw .crashed] () := by
  unfold crash
  apply acquired_bind
  exact Follows.throw Stop.crashed ()

theorem follows_lockAndDeliver (info : Capability) (bitmap : SoftwareBitmap) :
    Follows (stops fails) (lockAndDeliver fails info bitmap) (lockSteps info bitmap) () := by
  unfold lockAndDeliver lockSteps
  apply ask_bind
  apply acquired_bind
  by_cases hplanes : bitmap.planeCount = 2
  · rw [if_pos hplanes]
    apply ask_bind
    rw [if_pos hplanes]
    apply ask_bind
    apply ask_bind
    apply ask_bind
    apply ask_bind
    apply acquired_bind
    apply ask_bind
    apply ask_bind
    exact Follows.push _
  · rw [if_neg hplanes]
    apply ask_bind
    rw [if_neg hplanes]
    exact Follows.throw _ ()

theorem follows_readFrame (frame : VideoMediaFrame) :
    Follows (stops fails)
      (ask fails .getVideoMediaFrame (some frame) >>= fun
        | none => crash
        | some frame => readFrame fails frame) (readSteps fails frame) () := by
  unfold readSteps readFrame
  apply ask_bind
  apply ask_bind
  apply ask_bind
  apply ask_bind
  apply ask_bind
  apply ask_bind
  apply ask_bind
  apply ask_bind
  cases frame.softwareBitmap with
  | none => exact follows_crash
  | some bitmap =>
    apply acquired_bind
    exact follows_lockAndDeliver _ bitmap

theorem follows_acquireFrame (reference : Option (Option VideoMediaFrame)) :
    Follows (stops fails) (acquireFrame fails reference) (frameSteps fails reference) () := by
  unfold acquireFrame frameSteps
  rcases reference with _ | _ | frame
  · apply ask_bind
    exact Follows.pure ()
  · apply ask_bind
    apply acquired_bind
    apply ask_bind
    exact follows_crash
  · apply ask_bind
    apply acquired_bind
    exact follows_readFrame frame

end Acquiring

namespace Arrival
variable (a : Arrival)

theorem succeeds_append (sites sites' : List Site) :
    a.Succeeds (sites ++ sites') ↔ a.Succeeds sites ∧ a.Succeeds sites' :=
  List.forall_mem_append

theorem stops_iff (sites : List Site) :
    (∀ s ∈ sites, stops a.fails s = none) ↔ a.Succeeds sites := by
  simp [stops, Succeeds]

theorem collected_sites (sites : List Site) (steps : Steps) :
    collected (stops a.fails) (sites.map .call ++ steps) =
      if a.Succeeds sites then collected (stops a.fails) steps else [] := by
  rw [collected_calls]
  simp only [stops_iff]

theorem collected_lock (info : Capability) (bitmap : SoftwareBitmap) :
    collected (stops a.fails) (lockSteps info bitmap) =
      if a.Succeeds [.lockBuffer] then
        .acquired .bitmapBuffer :: if bitmap.planeCount = 2 ∧ a.Succeeds planeSites then
          .acquired .memoryBufferReference :: if a.Succeeds bufferSites then
            [.incoming ⟨0, bitmap.planeY.stride, bitmap.planeUV.startIndex.toInt,
              bitmap.planeUV.stride, bitmap.capacity, info, 0⟩]
          else []
        else []
      else [] := by
  unfold lockSteps
  rw [collected_sites]
  by_cases hplanes : bitmap.planeCount = 2
  · simp only [hplanes, if_true, true_and, collected, collected_sites]
  · simp [hplanes, collected]

theorem collected_one (s : Site) (steps : Steps) :
    collected (stops a.fails) (.call s :: steps) =
      if a.Succeeds [s] then collected (stops a.fails) steps else [] :=
  a.collected_sites [s] steps

theorem collected_bitmap (info : Capability) (bitmap : SoftwareBitmap) :
    collected (stops a.fails) (readSites.map .call ++
        (.push (.acquired .softwareBitmap) :: lockSteps info bitmap)) =
      (a.heldOfBitmap bitmap).map .acquired ++
      if bitmap.planeCount = 2 ∧ a.Succeeds (readSites ++ [.lockBuffer] ++ planeSites ++
          bufferSites) then
        [.incoming ⟨0, bitmap.planeY.stride, bitmap.planeUV.startIndex.toInt,
          bitmap.planeUV.stride, bitmap.capacity, info, 0⟩]
      else [] := by
  simp only [collected_sites, collected, collected_lock, heldOfBitmap, succeeds_append]
  by_cases hread : a.Succeeds readSites
  · by_cases hlock : a.Succeeds [.lockBuffer]
    · by_cases hplanes : bitmap.planeCount = 2 ∧ a.Succeeds planeSites
      · by_cases hbuffer : a.Succeeds bufferSites
        · simp [hread, hlock, hplanes, hbuffer]
        · simp [hread, hlock, hplanes, hbuffer]
      · simp [hread, hlock, hplanes]
        tauto
    · simp [hread, hlock]
  · simp [hread]

/-- The log of the first part. -/
theorem collected_frame (reference : Option (Option VideoMediaFrame))
    (hreference : a.mediaFrameReference = reference) :
    collected (stops a.fails) (frameSteps a.fails reference) =
      a.held.map .acquired ++
        (if a.ReadsNull then [.nullUsed] else a.delivers.toList.map .incoming) := by
  have hnull : a.ReadsNull ↔ a.ReadsNullOf reference := by rw [ReadsNull, hreference]
  simp only [held, delivers, hreference, hnull]
  rcases reference with _ | _ | frame
  · simp [frameSteps, heldOf, ReadsNullOf, collected_one, collected]
  · simp only [frameSteps, heldOf, ReadsNullOf, collected_sites, collected, succeeds_append]
    by_cases hfirst : a.Succeeds [.tryAcquireLatestFrame]
    · by_cases hread : a.Succeeds [.getVideoMediaFrame]
      · simp only [hfirst, hread]
        rfl
      · simp only [hfirst, hread]
        rfl
    · simp [hfirst]
  · cases hbitmap : frame.softwareBitmap with
    | none =>
      simp only [frameSteps, readSteps, heldOf, ReadsNullOf, hbitmap, collected_sites, collected,
        succeeds_append, true_and, Option.join_some, Option.bind_eq_bind, Option.bind_some,
        Option.bind_none]
      by_cases hfirst : a.Succeeds [.tryAcquireLatestFrame]
      · by_cases hread : a.Succeeds readSites
        · simp [hfirst, hread]
        · simp [hfirst, hread]
      · simp [hfirst]
    | some bitmap =>
      simp only [frameSteps, readSteps, heldOf, ReadsNullOf, hbitmap, Option.join_some,
        Option.bind_eq_bind, Option.bind_some, deliversOf, reduceCtorEq, false_and, if_false]
      rw [collected_sites, collected, collected_bitmap]
      simp only [succeeds_append]
      by_cases hfirst : a.Succeeds [.tryAcquireLatestFrame]
      · simp [hfirst]
        split <;> rfl
      · simp [hfirst]

theorem crashed_sites (sites : List Site) (steps : Steps) :
    result (stops a.fails) () (sites.map .call ++ steps) = .error .crashed ↔
      a.Succeeds sites ∧ result (stops a.fails) () steps = .error .crashed := by
  induction sites with
  | nil => simp [Succeeds]
  | cons s sites ih =>
    cases hs : a.fails s with
    | none =>
      have hstops : stops a.fails s = none := by simp [stops, hs]
      simp only [List.map_cons, List.cons_append, result, hstops, ih]
      simp [Succeeds, hs]
    | some e =>
      have hstops : stops a.fails s = some (.failed e) := by simp [stops, hs]
      simp only [List.map_cons, List.cons_append, result, hstops]
      simp [Succeeds, hs]

theorem lock_returns (info : Capability) (bitmap : SoftwareBitmap) :
    result (stops a.fails) () (lockSteps info bitmap) ≠ .error .crashed := by
  unfold lockSteps
  rw [Ne, crashed_sites]
  split
  · simp only [result, crashed_sites]
    simp
  · simp only [result, crashed_sites]
    simp

/-- The first part ends the process just when it reads a null pointer. -/
theorem crashed_iff (reference : Option (Option VideoMediaFrame)) :
    result (stops a.fails) () (frameSteps a.fails reference) = .error .crashed ↔
      a.ReadsNullOf reference := by
  rcases reference with _ | _ | frame
  · have hone := a.crashed_sites [.tryAcquireLatestFrame] []
    simpa [frameSteps, ReadsNullOf, result] using hone
  · simp only [frameSteps, ReadsNullOf, crashed_sites, result, succeeds_append]
    simp
  · cases hbitmap : frame.softwareBitmap with
    | none =>
      simp only [frameSteps, readSteps, ReadsNullOf, hbitmap, crashed_sites, result,
        succeeds_append]
      simp
    | some bitmap =>
      have hreturns := a.lock_returns (frameInfo a.fails frame) bitmap
      simp only [frameSteps, readSteps, ReadsNullOf, hbitmap, crashed_sites, result, hreturns]
      simp

end Arrival

section Closing
variable (fails : Site → Option HResult)

variable {fails}

theorem outcome_close (r : Resource) (log : List Event) :
    outcome (close fails r) log =
      if .acquired r ∈ log then
        if fails (.asClosable r) = none then (.ok (), log ++ [.closed r])
        else (.error .crashed, log ++ [.nullUsed])
      else (.ok (), log) := by
  unfold close
  rw [outcome_bind_ok (show outcome (get : Handler (List Event)) log = (.ok log, log) from rfl)]
  split
  · cases fails (.asClosable r) with
    | none => rfl
    | some hr => rfl
  · rfl

theorem closeAll_ok {log : List Event} {rs : List Resource}
    (h : ∀ r ∈ rs, .acquired r ∈ log → fails (.asClosable r) = none) :
    outcome (closeAll fails rs) log =
      (.ok (), log ++ (rs.filter fun r => .acquired r ∈ log).map .closed) := by
  induction rs generalizing log with
  | nil => simp [closeAll]
  | cons r rs ih =>
    obtain ⟨hr, hrs⟩ := List.forall_mem_cons.mp h
    unfold closeAll
    by_cases hheld : .acquired r ∈ log
    · have hclose : outcome (close fails r) log = (.ok (), log ++ [.closed r]) := by
        rw [outcome_close, if_pos hheld, if_pos (hr hheld)]
      rw [outcome_bind_ok hclose, ih (by simpa using hrs)]
      simp [hheld]
    · have hclose : outcome (close fails r) log = (.ok (), log) := by
        rw [outcome_close, if_neg hheld]
      rw [outcome_bind_ok hclose, ih hrs]
      simp [hheld]

theorem closeAll_crashes {log : List Event} {rs : List Resource} {r : Resource} (hr : r ∈ rs)
    (hheld : .acquired r ∈ log) (hfails : fails (.asClosable r) ≠ none) :
    (outcome (closeAll fails rs) log).1 = .error .crashed := by
  induction rs generalizing log with
  | nil => cases hr
  | cons q rs ih =>
    unfold closeAll
    by_cases hq : .acquired q ∈ log ∧ fails (.asClosable q) ≠ none
    · have hclose : outcome (close fails q) log = (.error .crashed, log ++ [.nullUsed]) := by
        rw [outcome_close, if_pos hq.1, if_neg hq.2]
      rw [outcome_bind_error hclose]
    · have hrs : r ∈ rs := by
        rcases List.mem_cons.mp hr with rfl | hrs
        · exact absurd ⟨hheld, hfails⟩ hq
        · exact hrs
      obtain ⟨closed, hclose⟩ : ∃ closed, outcome (close fails q) log = (.ok (), log ++ closed) := by
        rw [outcome_close]
        split
        · rename_i hq'
          have hok : fails (.asClosable q) = none := by
            by_contra hbad
            exact hq ⟨hq', hbad⟩
          exact ⟨_, if_pos hok⟩
        · exact ⟨[], by rw [List.append_nil]⟩
      rw [outcome_bind_ok hclose]
      exact ih hrs (List.mem_append_left closed hheld)

end Closing

namespace Arrival
variable (a : Arrival)

theorem held_cases : a.held = [] ∨ a.held = [.mediaFrameReference] ∨
    a.held = [.mediaFrameReference, .softwareBitmap] ∨
    a.held = [.mediaFrameReference, .softwareBitmap, .bitmapBuffer] ∨
    a.held = [.mediaFrameReference, .softwareBitmap, .bitmapBuffer, .memoryBufferReference] := by
  unfold held
  split
  · rcases a.mediaFrameReference with _ | _ | frame
    · simp [heldOf]
    · simp [heldOf]
    · cases hbitmap : frame.softwareBitmap with
      | none => simp [heldOf, hbitmap]
      | some bitmap =>
        simp only [heldOf, hbitmap, Option.elim_some, heldOfBitmap]
        split
        · split
          · split
            · simp
            · simp
          · simp
        · simp
  · simp

theorem held_closed : ([.memoryBufferReference, .bitmapBuffer, .softwareBitmap,
    .mediaFrameReference] : List Resource).filter (fun r => r ∈ a.held) = a.held.reverse := by
  rcases a.held_cases with h | h | h | h | h
  all_goals rw [h]; decide

theorem first_part : outcome (acquireFrame a.fails a.mediaFrameReference) [] =
    (result (stops a.fails) () (frameSteps a.fails a.mediaFrameReference),
      a.held.map .acquired ++
        (if a.ReadsNull then [.nullUsed] else a.delivers.toList.map .incoming)) := by
  rw [follows_acquireFrame a.mediaFrameReference [], ← a.collected_frame a.mediaFrameReference rfl]
  rfl

theorem acquired_mem {rest : List Event} (h : ∀ r, .acquired r ∉ rest) (r : Resource) :
    .acquired r ∈ a.held.map Event.acquired ++ rest ↔ r ∈ a.held := by
  simp [h r]

/-- What the first part leaves, if it reads no null pointer. -/
theorem first_log (h : ¬ a.ReadsNull) :
    (outcome (acquireFrame a.fails a.mediaFrameReference) []).1 ≠ .error .crashed ∧
      (outcome (acquireFrame a.fails a.mediaFrameReference) []).2 =
        a.held.map .acquired ++ a.delivers.toList.map .incoming := by
  have hreturns := (not_congr (a.crashed_iff a.mediaFrameReference)).mpr h
  rw [first_part, if_neg h]
  exact ⟨hreturns, rfl⟩

theorem held_mem (r : Resource) :
    .acquired r ∈ a.held.map Event.acquired ++ a.delivers.toList.map .incoming ↔ r ∈ a.held :=
  a.acquired_mem (by simp) r

theorem frameArrived_sound (h : a.Sound) :
    (frameArrived a).1 ≠ .error .crashed ∧ (frameArrived a).2 = a.orderly := by
  obtain ⟨hnull, hclosable⟩ := h
  obtain ⟨hreturns, hlog⟩ := a.first_log hnull
  have hclose : outcome (closeFrame a.fails)
      (outcome (acquireFrame a.fails a.mediaFrameReference) []).2 = (.ok (), a.orderly) := by
    rw [hlog, closeFrame, closeAll_ok]
    · simp only [held_mem, held_closed]
      rfl
    · intro r _ hr
      exact hclosable _ (List.mem_map_of_mem ((a.held_mem r).mp hr))
  unfold frameArrived
  simp only [hreturns, if_false, hclose]
  simp [hreturns]

theorem frameArrived_crashes (h : ¬ a.Sound) : (frameArrived a).1 = .error .crashed := by
  unfold frameArrived
  by_cases hnull : a.ReadsNull
  · have hcrashed : (outcome (acquireFrame a.fails a.mediaFrameReference) []).1 =
        .error .crashed := by
      rw [first_part]
      exact (a.crashed_iff a.mediaFrameReference).mpr hnull
    simp only [hcrashed, if_true]
  · obtain ⟨hreturns, hlog⟩ := a.first_log hnull
    have hfails : ∃ r ∈ a.held, a.fails (.asClosable r) ≠ none := by
      by_contra hall
      push Not at hall
      exact h ⟨hnull, by simpa [Succeeds] using hall⟩
    obtain ⟨r, hr, hfails⟩ := hfails
    have hcrashed : (outcome (closeFrame a.fails)
        (outcome (acquireFrame a.fails a.mediaFrameReference) []).2).1 = .error .crashed := by
      rw [hlog]
      apply closeAll_crashes (r := r) ?_ ((a.held_mem r).mpr hr) hfails
      cases r <;> simp
    simp only [hreturns, if_false, hcrashed, if_true]

end Arrival

theorem ended_stays (arrivals : List Arrival) : (run step false arrivals).1 = false := by
  induction arrivals with
  | nil => rfl
  | cons a arrivals ih => exact ih

/-- The process outlives the frames just when each of them is sound; then, whatever calls fail, what
is acquired of a frame is closed once, in reverse order, and the pictures are handed on while all
their objects are held. -/
theorem frames_handled_iff (arrivals : List Arrival) :
    ((run step true arrivals).1 = true ↔ ∀ a ∈ arrivals, a.Sound) ∧
      ((∀ a ∈ arrivals, a.Sound) →
        (run step true arrivals).2 = arrivals.flatMap fun a => a.orderly) := by
  induction arrivals with
  | nil => simp
  | cons a arrivals ih =>
    obtain ⟨halive, hlog⟩ := ih
    rw [run_cons, List.forall_mem_cons]
    by_cases ha : a.Sound
    · obtain ⟨hreturns, hevents⟩ := a.frameArrived_sound ha
      have hstep : step true a = (true, a.orderly) := by
        simp [step, hreturns, hevents]
      rw [hstep]
      refine ⟨by simp [halive, ha], ?_⟩
      rintro ⟨_, hrest⟩
      rw [List.flatMap_cons, hlog hrest]
    · have hcrashed := a.frameArrived_crashes ha
      have hstep : (step true a).1 = false := by simp [step, hcrashed]
      refine ⟨?_, fun h => absurd h.1 ha⟩
      rw [hstep]
      simp [ended_stays, ha]

end WeiRtcNative.VideoCapture.FrameArrival
