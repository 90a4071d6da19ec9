import WeiRtcNative.Lib.Machine
import WeiRtcNative.Lib.WrappingClock
import WeiRtcNative.H264.Encoder

/-!
# Sample times of the encoder

The part of `Encode` from the test of the queue on, for the frames of one sink writer, while
`OnH264Encoded` pops attributes in between. The calls of Media Foundation succeed, so a
frame is dropped only when the queue is full. `GetFrameTimestampHns` subtracts the first
timestamp from a later one in 64 bits, which is right until the 32-bit clock has wrapped.
-/

namespace WeiRtcNative.H264.SampleTimes

open Machine Encoder SampleAttributeQueue WrappingClock
set_option autoImplicit false

/-- A time given to `SetSampleTime`, with the duration set after it, or to
`SendStreamTick`. -/
structure Timed where
  frame : VideoFrame
  timeHns : Int
  durationHns : Option Int
  deriving DecidableEq, Repr

inductive Input where
  | frame (frame : VideoFrame)
  | popAttributes (id : UInt64)
  deriving DecidableEq, Repr

def encodeFrame (mode : FrameHeightRoundMode) (s : State) (frame : VideoFrame) :
    State × List Timed :=
  match takeFrame mode s frame none with
  | (s, none) => (dropFrame s frame, [⟨frame, getFrameTimestampHns s frame, none⟩])
  | (s, some sample) =>
    (countFrame s, sample.timeHns.toList.map fun time => ⟨frame, time, sample.durationHns⟩)

def step (mode : FrameHeightRoundMode) (s : State) : Input → State × List Timed
  | .frame frame => encodeFrame mode s frame
  | .popAttributes id =>
    ({s with sampleAttributeQueue := (pop id s.sampleAttributeQueue).2}, [])

structure Fresh (s : State) : Prop where
  firstFrame : s.firstFrame = true
  lastTimestampHns : s.lastTimestampHns = 0
  queue : s.sampleAttributeQueue = []

theorem create_fresh (u : Uninitialised) : Fresh (create u) := ⟨rfl, rfl, rfl⟩

theorem initWriter_clock (s : State) (fail : Option WriterCall) (now : Int) :
    (initWriter s fail now).firstFrame = s.firstFrame ∧
      (initWriter s fail now).lastTimestampHns = s.lastTimestampHns := by
  unfold initWriter makeSinkWriter makeMediaSink
  dsimp only
  repeat' split
  all_goals exact ⟨rfl, rfl⟩

theorem Fresh.initWriter {s : State} (h : Fresh s) (fail : Option WriterCall) (now : Int) :
    Fresh (initWriter s fail now) := by
  obtain ⟨hfirst, hlast⟩ := initWriter_clock s fail now
  exact ⟨hfirst.trans h.firstFrame, hlast.trans h.lastTimestampHns,
    (initWriter_queue s fail now).trans h.queue⟩

theorem Fresh.initEncode {s : State} (h : Fresh s) (c : CodecSettings) (fail : Option WriterCall)
    (now : Int) : Fresh (initEncode s c fail now) := by
  unfold Encoder.initEncode
  split
  · have hconfigure : Fresh (configure s c) := ⟨h.firstFrame, h.lastTimestampHns, h.queue⟩
    exact hconfigure.initWriter fail now
  · exact h

/-- What a call sets, `s` being the state with the first frame noted. -/
structure Stamps (s : State) (frame : VideoFrame) (r : State × List Timed) : Prop where
  firstFrame : r.1.firstFrame = s.firstFrame
  startTime : r.1.startTime = s.startTime
  lastTimestampHns : r.1.lastTimestampHns = getFrameTimestampHns s frame
  log : ∃ duration, r.2 = [⟨frame, getFrameTimestampHns s frame, duration⟩] ∧
    ∀ d ∈ duration, d = getFrameTimestampHns s frame - s.lastTimestampHns

theorem encodeFrame_accepted (mode : FrameHeightRoundMode) {s : State} (h : hasRoom s = true)
    (frame : VideoFrame) : Stamps (noteFirstFrame s frame) frame (encodeFrame mode s frame) := by
  simp only [encodeFrame, takeFrame, h, if_true, fromVideoFrame, stamp]
  refine ⟨rfl, rfl, rfl, _, rfl, ?_⟩
  intro d hd
  exact (Option.some.inj hd).symm

theorem encodeFrame_dropped (mode : FrameHeightRoundMode) {s : State} (h : hasRoom s = false)
    (frame : VideoFrame) : Stamps s frame (encodeFrame mode s frame) := by
  simp only [encodeFrame, takeFrame, h, Bool.false_eq_true, if_false]
  exact ⟨rfl, rfl, rfl, none, rfl, by simp⟩

theorem encodeFrame_started (mode : FrameHeightRoundMode) {s : State} (h : s.firstFrame = false)
    (frame : VideoFrame) : Stamps s frame (encodeFrame mode s frame) := by
  have hnoted : noteFirstFrame s frame = s := by simp [noteFirstFrame, h]
  cases hroom : hasRoom s with
  | false => exact encodeFrame_dropped mode hroom frame
  | true =>
    rw [← hnoted]
    nth_rewrite 2 [hnoted]
    exact encodeFrame_accepted mode hroom frame

theorem Fresh.hasRoom {s : State} (h : Fresh s) : hasRoom s = true := by
  rw [Encoder.hasRoom, h.queue]
  rfl

theorem noteFirstFrame_fresh {s : State} (h : Fresh s) (frame : VideoFrame) :
    noteFirstFrame s frame = {s with firstFrame := false, startTime := frame.timestamp.toNat} := by
  simp [noteFirstFrame, h.firstFrame]

/-- The time computed for a frame `d` ticks after the first one is that of the unwrapped
clock just when the clock has not wrapped. -/
theorem hns_eq_iff {a b d : Nat} (ha : a < 4294967296) (hb : (a + d) % 4294967296 = b) :
    (((b : Int) - a) * 10000).tdiv 90 = (d * 10000 / 90 : Nat) ↔ a + d < 4294967296 := by
  rcases Nat.le_total a b with hle | hle
  · rw [Int.tdiv_eq_ediv_of_nonneg (by omega)]
    omega
  · obtain ⟨k, rfl⟩ := Nat.exists_eq_add_of_le hle
    have hneg : (((b : Int) - (b + k : Nat)) * 10000) = -((k * 10000 : Nat) : Int) := by
      push_cast
      omega
    -- a time before the first one, unless nothing has elapsed
    have hbefore : (-((k * 10000 : Nat) : Int)).tdiv 90 = -((k * 10000 / 90 : Nat) : Int) := by
      rw [Int.neg_tdiv, Int.tdiv_eq_ediv_of_nonneg (by omega)]
      rfl
    rw [hneg, hbefore]
    constructor
    · intro htimes
      have hd : d * 10000 / 90 = 0 := by omega
      omega
    · intro hwrap
      have hk : k = 0 := by omega
      have hd : d = 0 := by omega
      rw [hk, hd]
      rfl

def timestamps (log : List Timed) : List UInt32 := log.map fun e => e.frame.timestamp

/-- The time is that of the unwrapped clock, later than the one before it, and a duration
set after the first one is positive. -/
def OnTime (pre : List Timed) (e : Timed) : Prop :=
  e.timeHns = (elapsed (timestamps pre ++ [e.frame.timestamp]) * 10000 / 90 : Nat) ∧
    ∀ last ∈ pre.getLast?, last.timeHns < e.timeHns ∧ ∀ d ∈ e.durationHns, 0 < d

/-- The timestamp of a frame is between 1 and `2 ^ 31 - 1` after the one before it. -/
def Advances (log : List Timed) : Input → Prop
  | .frame frame => ∀ last ∈ log.getLast?,
    1 ≤ advance last.frame.timestamp frame.timestamp ∧
      advance last.frame.timestamp frame.timestamp ≤ 2147483647
  | .popAttributes _ => True

/-- The clock does not wrap between the first frame and this one. -/
def NotWrapped (log : List Timed) : Input → Prop
  | .frame frame => ∀ first ∈ log.head?,
    first.frame.timestamp.toNat + elapsed (timestamps log ++ [frame.timestamp]) < 4294967296
  | .popAttributes _ => True

structure Running (log : List Timed) (first last : Timed) (s : State) : Prop where
  head : log.head? = some first
  getLast : log.getLast? = some last
  firstFrame : s.firstFrame = false
  startTime : s.startTime = first.frame.timestamp.toNat
  lastTimestampHns : s.lastTimestampHns = last.timeHns
  lastTime : last.timeHns = (elapsed (timestamps log) * 10000 / 90 : Nat)

def Follows (log : List Timed) (s : State) : Prop :=
  (log = [] ∧ Fresh s) ∨ ∃ first last, Running log first last s

section Running
variable {log : List Timed} {first last : Timed} {s : State}

theorem Running.elapsed_next (h : Running log first last s) (frame : VideoFrame) :
    elapsed (timestamps log ++ [frame.timestamp]) =
      elapsed (timestamps log) + advance last.frame.timestamp frame.timestamp := by
  apply elapsed_append
  simp [timestamps, h.getLast]

theorem Running.time_eq_iff (h : Running log first last s) (frame : VideoFrame) :
    getFrameTimestampHns s frame =
        (elapsed (timestamps log ++ [frame.timestamp]) * 10000 / 90 : Nat) ↔
      first.frame.timestamp.toNat + elapsed (timestamps log ++ [frame.timestamp]) < 4294967296 := by
  have hhead : (timestamps log ++ [frame.timestamp]).head? = some first.frame.timestamp := by
    simp [timestamps, h.head]
  rw [getFrameTimestampHns, h.startTime]
  apply hns_eq_iff first.frame.timestamp.toNat_lt
  exact head_add_elapsed_mod hhead (by simp)

/-- A frame is on time just when the clock has not wrapped before it. -/
theorem Running.onTime_iff (h : Running log first last s) {frame : VideoFrame}
    (hadvance : Advances log (.frame frame)) {duration : Option Int}
    (hduration : ∀ d ∈ duration, d = getFrameTimestampHns s frame - s.lastTimestampHns) :
    OnTime log ⟨frame, getFrameTimestampHns s frame, duration⟩ ↔ NotWrapped log (.frame frame) := by
  have hwrap : NotWrapped log (.frame frame) ↔ getFrameTimestampHns s frame =
      (elapsed (timestamps log ++ [frame.timestamp]) * 10000 / 90 : Nat) := by
    rw [h.time_eq_iff]
    simp [NotWrapped, h.head]
  rw [hwrap, OnTime]
  refine and_iff_left_of_imp ?_
  intro htime last' hlast
  dsimp only at htime
  obtain rfl : last = last' := by simpa [h.getLast] using hlast
  have hlater : last.timeHns < getFrameTimestampHns s frame := by
    have hstep := (hadvance last hlast).1
    rw [htime, h.lastTime, h.elapsed_next]
    omega
  refine ⟨hlater, ?_⟩
  intro d hd
  rw [hduration d hd, h.lastTimestampHns]
  omega

theorem Running.next (h : Running log first last s) {frame : VideoFrame} {t : State} {e : Timed}
    (hframe : e.frame = frame) (htime : e.timeHns = getFrameTimestampHns s frame)
    (hstamps : Stamps s frame (t, [e])) (hok : NotWrapped log (.frame frame)) :
    Running (log ++ [e]) first e t where
  head := by simp [h.head]
  getLast := by simp
  firstFrame := hstamps.firstFrame.trans h.firstFrame
  startTime := hstamps.startTime.trans h.startTime
  lastTimestampHns := hstamps.lastTimestampHns.trans htime.symm
  lastTime := by
    rw [htime, (h.time_eq_iff frame).mpr (hok first (by simp [h.head]))]
    simp [timestamps, hframe]

end Running

theorem frame_onTime_iff (mode : FrameHeightRoundMode) {log : List Timed} {s : State}
    (h : Follows log s) {frame : VideoFrame} (hadvance : Advances log (.frame frame)) :
    Justified (fun pre => OnTime (log ++ pre)) (encodeFrame mode s frame).2 ↔
      NotWrapped log (.frame frame) := by
  rcases h with ⟨rfl, hfresh⟩ | ⟨first, last, hrunning⟩
  · obtain ⟨duration, hlog, -⟩ := (encodeFrame_accepted mode hfresh.hasRoom frame).log
    rw [hlog, noteFirstFrame_fresh hfresh]
    simp [OnTime, NotWrapped, getFrameTimestampHns, timestamps]
  · obtain ⟨duration, hlog, hduration⟩ := (encodeFrame_started mode hrunning.firstFrame frame).log
    rw [hlog]
    simpa using hrunning.onTime_iff hadvance hduration

theorem frame_follows (mode : FrameHeightRoundMode) {log : List Timed} {s : State}
    (h : Follows log s) {frame : VideoFrame} (hok : NotWrapped log (.frame frame)) :
    Follows (log ++ (encodeFrame mode s frame).2) (encodeFrame mode s frame).1 := by
  refine .inr ?_
  rcases h with ⟨rfl, hfresh⟩ | ⟨first, last, hrunning⟩
  · have hstamps := encodeFrame_accepted mode hfresh.hasRoom frame
    rw [noteFirstFrame_fresh hfresh] at hstamps
    obtain ⟨duration, hlog, -⟩ := hstamps.log
    rw [hlog]
    refine ⟨_, _, rfl, rfl, hstamps.firstFrame, hstamps.startTime, hstamps.lastTimestampHns, ?_⟩
    simp [getFrameTimestampHns, timestamps]
  · have hstamps := encodeFrame_started mode hrunning.firstFrame frame
    generalize encodeFrame mode s frame = r at hstamps
    obtain ⟨t, entries⟩ := r
    obtain ⟨duration, rfl, -⟩ := hstamps.log
    exact ⟨first, _, hrunning.next rfl rfl hstamps hok⟩

theorem pop_follows {log : List Timed} {s : State} (h : Follows log s) (id : UInt64) :
    Follows log {s with sampleAttributeQueue := (pop id s.sampleAttributeQueue).2} := by
  rcases h with ⟨hlog, hfresh⟩ | ⟨first, last, hrunning⟩
  · refine .inl ⟨hlog, hfresh.firstFrame, hfresh.lastTimestampHns, ?_⟩
    simp [hfresh.queue]
  · exact .inr ⟨first, last, hrunning.head, hrunning.getLast, hrunning.firstFrame,
      hrunning.startTime, hrunning.lastTimestampHns, hrunning.lastTime⟩

/-- With timestamps that advance, the times of one writer are those of the unwrapped clock and
grow just as long as the 32-bit clock does not wrap. -/
theorem sample_times_iff (mode : FrameHeightRoundMode) {s : State} (hfresh : Fresh s)
    (inputs : List Input)
    (hadvance : Along (step mode) (fun log _ input => Advances log input) [] s inputs) :
    Justified OnTime (run (step mode) s inputs).2 ↔
      Along (step mode) (fun log _ input => NotWrapped log input) [] s inputs := by
  apply justified_iff_along (step mode) (P := OnTime) Follows ?_ ?_ (.inl ⟨rfl, hfresh⟩) hadvance
  · intro log s input h hinput
    cases input with
    | frame frame => exact frame_onTime_iff mode h hinput
    | popAttributes id => simp [step, NotWrapped]
  · intro log s input h hinput hok
    cases input with
    | frame frame => exact frame_follows mode h hok
    | popAttributes id => simpa [step] using pop_follows h id

def frameAt (timestamp : UInt32) : VideoFrame := ⟨timestamp, 0, 0, 640, 480⟩

def started : State :=
  initEncode (create ⟨0, 0, ⟨0, 0⟩, 0, ⟨0, 0⟩⟩) ⟨true, 640, 480, 30, 51, 300, 0⟩ none 0

theorem started_fresh : Fresh started := (create_fresh _).initEncode _ none 0

theorem two_frames_on_time :
    Fresh started ∧
      Along (step .noChange) (fun log _ input => Advances log input) [] started
        [.frame (frameAt 1000), .frame (frameAt 4000)] ∧
      Justified OnTime
        (run (step .noChange) started [.frame (frameAt 1000), .frame (frameAt 4000)]).2 := by
  have hadvance : Along (step .noChange) (fun log _ input => Advances log input) [] started
      [.frame (frameAt 1000), .frame (frameAt 4000)] := by
    refine ⟨?_, ?_, trivial⟩
    · intro last hlast
      cases hlast
    · intro last hlast
      obtain rfl := Option.some.inj hlast
      decide
  refine ⟨started_fresh, hadvance, ?_⟩
  apply (sample_times_iff .noChange started_fresh _ hadvance).mpr
  refine ⟨?_, ?_, trivial⟩
  · intro first hfirst
    cases hfirst
  · intro first hfirst
    obtain rfl := Option.some.inj hfirst
    decide

/-- The second frame is given a time before the first one when the clock wraps between them. -/
theorem wrapped_clock_goes_back :
    Fresh started ∧
      Along (step .noChange) (fun log _ input => Advances log input) [] started
        [.frame (frameAt 4294967000), .frame (frameAt 2704)] ∧
      ¬ Justified OnTime
        (run (step .noChange) started [.frame (frameAt 4294967000), .frame (frameAt 2704)]).2 := by
  refine ⟨started_fresh, ⟨?_, ?_, trivial⟩, ?_⟩
  · intro last hlast
    cases hlast
  · intro last hlast
    obtain rfl := Option.some.inj hlast
    decide
  · intro h
    have hsecond := h [⟨frameAt 4294967000, 0, some 0⟩]
      ⟨frameAt 2704, -477218255111, some (-477218255111)⟩ [] (by decide)
    exact absurd hsecond.1 (by decide)

end WeiRtcNative.H264.SampleTimes
