import Mathlib.Data.List.Chain
import WeiRtcNative.H264.WriterUse

/-!
# The interval between rate changes

The readings of `rtc::TimeMillis` in the calls of `WriterUse`, and the sink writers that are
created between them. `SetRates` and `Encode` compare the time with
`last_rate_change_time_rtc_ms` in different ways; `InitWriter` and `ReconfigureSinkWriter` set it.
-/

namespace WeiRtcNative.H264.RateLimit

open Machine Encoder WriterUse
set_option autoImplicit false

/-- `decided` is the last reading before the writer is created and `done` the first one after. -/
structure Creation where
  resized : Bool
  decided : Int
  done : Int
  deriving DecidableEq, Repr

inductive Event where
  | read (time : Int)
  | created (creation : Creation)
  deriving DecidableEq, Repr

def readings (log : List Event) : List Int :=
  log.filterMap fun
    | .read time => some time
    | .created _ => none

def Ordered (log : List Event) : Prop := (readings log).IsChain (· ≤ ·)

def creations (log : List Event) : List Creation :=
  log.filterMap fun
    | .read _ => none
    | .created creation => some creation

def resizes (s : Encoder.State) (args : ReconfigureArgs) : Bool :=
  s.width != args.width || s.height != args.height

/-- `ReconfigureSinkWriter`, called after the reading `now`. -/
def reconfigureEvents (s : Encoder.State) (args : ReconfigureArgs) (now : Int) (r : Reinit) :
    List Event :=
  if replacesWriter s args then
    (if r.fail.isNone then [.created ⟨resizes s args, now, r.inited⟩, .read r.inited] else []) ++
      [.read r.changed]
  else []

def initEvents (now : Int) : List Event := [.created ⟨true, now, now⟩, .read now]

def initEncodeEvents (settings : Option CodecSettings) (fail : Option WriterCall) (now : Int) :
    List Event :=
  match settings with
  | none => []
  | some c => if c.accepted && fail.isNone then initEvents now else []

def setRatesEvents (s : Encoder.State) (p : RateControlParameters) (now : Int) (r : Reinit) :
    List Event :=
  if !takesRates s p then []
  else
    .read now ::
      if postpones s now then [] else reconfigureEvents s ⟨s.width, s.height, p.rates⟩ now r

def encodeEvents (s : Encoder.State) (a : EncodeArgs) : List Event :=
  if !s.inited then []
  else
    .read a.now ::
      match encodeReconfigures s a.frame a.now with
      | none => []
      | some args => reconfigureEvents s args a.now a.reinit

def events (s : Encoder.State) : Call → List Event
  | .initEncode settings fail now => initEncodeEvents settings fail now
  | .setRates p now r => setRatesEvents s p now r
  | .encode a => encodeEvents s a
  | .registerEncodeCompleteCallback _ | .onH264Encoded _ | .release => []

def step (mode : FrameHeightRoundMode) (sys : System) (c : Call) : System × List Event :=
  ((WriterUse.step mode sys c).1, if sys.crashed then [] else events sys.encoder c)

/-- A call between two of `InitEncode` and `Release`, whose `InitWriter` succeeds. -/
def Succeeds : Call → Prop
  | .setRates _ _ r => r.fail = none
  | .encode a => a.reinit.fail = none
  | .registerEncodeCompleteCallback _ | .onH264Encoded _ => True
  | .initEncode _ _ _ | .release => False

def Spaced (a b : Creation) : Prop :=
  b.resized = false →
    a.done + kMinIntervalBetweenRateChangesMs ≤ b.decided ∧ b.decided ≤ b.done

structure Inv (log : List Event) (sys : System) : Prop where
  spaced : (creations log).IsChain Spaced
  last : ∀ a ∈ (creations log).getLast?, a.done ≤ sys.encoder.lastRateChangeTimeRtcMs

section Frame

theorem foldl_onH264Encoded_last (s : Encoder.State) (times : List UInt64) :
    (times.foldl onH264Encoded s).lastRateChangeTimeRtcMs = s.lastRateChangeTimeRtcMs := by
  induction times generalizing s with
  | nil => rfl
  | cons time times ih => exact ih (onH264Encoded s time)

theorem takeFrame_last (mode : FrameHeightRoundMode) (s : Encoder.State) (frame : VideoFrame)
    (fail : Option FrameCall) :
    (takeFrame mode s frame fail).1.lastRateChangeTimeRtcMs = s.lastRateChangeTimeRtcMs := by
  unfold takeFrame fromVideoFrame stamp noteFirstFrame
  dsimp only
  repeat' split
  all_goals rfl

theorem writeFrame_last (s : Encoder.State) (sample : Option Sample) (a : EncodeArgs) :
    (writeFrame s sample a).1.lastRateChangeTimeRtcMs = s.lastRateChangeTimeRtcMs := by
  unfold writeFrame
  split <;> rfl

theorem useWriter_last (mode : FrameHeightRoundMode) (s : Encoder.State) (a : EncodeArgs) :
    (useWriter mode s a).1.lastRateChangeTimeRtcMs = s.lastRateChangeTimeRtcMs := by
  unfold useWriter
  dsimp only
  split
  · rfl
  · rw [writeFrame_last, takeFrame_last, foldl_onH264Encoded_last]

end Frame

section Step

/-- What a call does to the time kept: nothing, or it creates a writer and notes a later time. -/
inductive Paces (s t : Encoder.State) (evs : List Event) : Prop where
  | kept : creations evs = [] → t.lastRateChangeTimeRtcMs = s.lastRateChangeTimeRtcMs →
    Paces s t evs
  | creates (b : Creation) : creations evs = [b] → b.done ≤ t.lastRateChangeTimeRtcMs →
    (b.resized = false →
      s.lastRateChangeTimeRtcMs + kMinIntervalBetweenRateChangesMs ≤ b.decided ∧
        b.decided ≤ b.done) → Paces s t evs

theorem reconfigure_paces {s : Encoder.State} {args : ReconfigureArgs} {now : Int} {r : Reinit}
    (hr : r.fail = none)
    (hclock : Ordered (.read now :: reconfigureEvents s args now r))
    (hnow : resizes s args = false →
      s.lastRateChangeTimeRtcMs + kMinIntervalBetweenRateChangesMs ≤ now) :
    Paces s (reconfigureSinkWriter s args r).1 (.read now :: reconfigureEvents s args now r) := by
  unfold reconfigureSinkWriter reconfigureEvents at *
  by_cases hreplaces : replacesWriter s args = true
  · rw [if_pos hreplaces]
    rw [if_pos hreplaces, hr] at hclock
    have htimes : [now, r.inited, r.changed].IsChain (· ≤ ·) := hclock
    simp only [List.isChain_cons_cons, List.isChain_singleton, and_true] at htimes
    refine .creates ⟨resizes s args, now, r.inited⟩ ?_ htimes.2 ?_
    · rw [if_pos hreplaces, hr]
      rfl
    · intro hresized
      exact ⟨hnow hresized, htimes.1⟩
  · rw [if_neg hreplaces, if_neg hreplaces]
    exact .kept rfl rfl

theorem setRates_paces {s : Encoder.State} {p : RateControlParameters} {now : Int} {r : Reinit}
    (hr : r.fail = none) (hclock : Ordered (setRatesEvents s p now r)) :
    Paces s (setRates s p now r).1 (setRatesEvents s p now r) := by
  unfold setRates
  unfold setRatesEvents at *
  by_cases htakes : (!takesRates s p) = true
  · rw [if_pos htakes, if_pos htakes]
    exact .kept rfl rfl
  rw [if_neg htakes] at hclock ⊢
  rw [if_neg htakes]
  by_cases hpostpones : postpones s now = true
  · rw [if_pos hpostpones, if_pos hpostpones]
    exact .kept rfl rfl
  rw [if_neg hpostpones] at hclock ⊢
  rw [if_neg hpostpones]
  refine reconfigure_paces hr hclock ?_
  intro _
  simp only [postpones, decide_eq_true_eq] at hpostpones
  omega

/-- With the size unchanged `Encode` reconfigures for a postponed request only. -/
theorem encodeReconfigures_interval {s : Encoder.State} {frame : VideoFrame} {now : Int}
    {args : ReconfigureArgs} (h : encodeReconfigures s frame now = some args)
    (hsize : resizes s args = false) :
    s.lastRateChangeTimeRtcMs + kMinIntervalBetweenRateChangesMs ≤ now := by
  unfold encodeReconfigures at h
  split at h
  · rename_i hreason
    cases h
    have hsame : resChanged s frame = false := by
      simp only [resizes, Bool.or_eq_false_iff, bne_eq_false_iff_eq] at hsize
      simp [resChanged, hsize.1, hsize.2]
    rw [hsame, Bool.false_or, shouldChangeRateNow, Bool.and_eq_true, decide_eq_true_eq] at hreason
    omega
  · cases h

theorem reconfigureSinkWriter_code (s : Encoder.State) (args : ReconfigureArgs) (r : Reinit) :
    (reconfigureSinkWriter s args r).2.2 = .ok := by
  unfold reconfigureSinkWriter
  split <;> rfl

theorem encode_paces (mode : FrameHeightRoundMode) {s : Encoder.State} {a : EncodeArgs}
    (hr : a.reinit.fail = none) (hclock : Ordered (encodeEvents s a)) :
    Paces s (encode mode s a).1 (encodeEvents s a) := by
  unfold encode
  unfold encodeEvents at *
  by_cases hinited : (!s.inited) = true
  · rw [if_pos hinited, if_pos hinited]
    exact .kept rfl rfl
  rw [if_neg hinited] at hclock ⊢
  rw [if_neg hinited]
  cases hargs : encodeReconfigures s a.frame a.now with
  | none => exact .kept rfl (useWriter_last mode s a)
  | some args =>
    rw [hargs] at hclock
    have hpaces := reconfigure_paces hr hclock (encodeReconfigures_interval hargs)
    dsimp only
    rw [if_neg (not_not.mpr (reconfigureSinkWriter_code s args a.reinit))]
    have hlast := useWriter_last mode
      {(reconfigureSinkWriter s args a.reinit).1 with rateChangeRequested := false} a
    cases hpaces with
    | kept hnone hsame => exact .kept hnone (hlast.trans hsame)
    | creates b hone hdone hinterval => exact .creates b hone (hdone.trans hlast.ge) hinterval

theorem step_paces (mode : FrameHeightRoundMode) {sys : System} {c : Call} (hc : Succeeds c)
    (hclock : Ordered (step mode sys c).2) :
    Paces sys.encoder (step mode sys c).1.encoder (step mode sys c).2 := by
  by_cases hcrashed : sys.crashed = true
  · unfold step WriterUse.step
    rw [if_pos hcrashed, if_pos hcrashed]
    exact .kept rfl rfl
  have hlog : (step mode sys c).2 = events sys.encoder c := if_neg hcrashed
  rw [hlog] at hclock ⊢
  unfold step WriterUse.step
  rw [if_neg hcrashed]
  cases c with
  | setRates p now r => exact setRates_paces hc hclock
  | encode a => exact encode_paces mode hc hclock
  | registerEncodeCompleteCallback present => exact .kept rfl rfl
  | onH264Encoded time => exact .kept rfl rfl
  | initEncode settings fail now => exact hc.elim
  | release => exact hc.elim

theorem creations_append (log log' : List Event) :
    creations (log ++ log') = creations log ++ creations log' := List.filterMap_append

theorem Ordered.parts {log log' : List Event} (h : Ordered (log ++ log')) :
    Ordered log ∧ Ordered log' := by
  rw [Ordered, readings, List.filterMap_append, List.isChain_append] at h
  exact ⟨h.1, h.2.1⟩

theorem Paces.inv {log evs : List Event} {s t : System} (hinv : Inv log s)
    (h : Paces s.encoder t.encoder evs) : Inv (log ++ evs) t := by
  cases h with
  | kept hnone hsame =>
    have hsameLog : creations (log ++ evs) = creations log := by
      rw [creations_append, hnone, List.append_nil]
    refine ⟨?_, ?_⟩
    · rw [hsameLog]
      exact hinv.spaced
    · rw [hsameLog, hsame]
      exact hinv.last
  | creates b hone hdone hinterval =>
    refine ⟨?_, ?_⟩
    · rw [creations_append, hone, List.isChain_append]
      refine ⟨hinv.spaced, List.isChain_singleton b, ?_⟩
      intro a ha b' hb' hresized
      obtain rfl := Option.some.inj hb'
      obtain ⟨hmin, hdecided⟩ := hinterval hresized
      have hlast := hinv.last a ha
      exact ⟨by omega, hdecided⟩
    · intro a ha
      rw [creations_append, hone, List.getLast?_concat] at ha
      obtain rfl := Option.some.inj ha
      exact hdone

end Step

section Writers

theorem reconfigureEvents_creations (s : Encoder.State) (args : ReconfigureArgs) (now : Int)
    (r : Reinit) :
    (creations (reconfigureEvents s args now r)).length =
      (reconfigureSinkWriter s args r).2.1.count (.initWriter none) := by
  unfold reconfigureEvents reconfigureSinkWriter
  split
  · cases hfail : r.fail with
    | none => rfl
    | some f => rfl
  · rfl

theorem count_used (uses : List Use) :
    (uses.map WriterUse.Event.used).count (.initWriter none) = 0 := by
  rw [List.count_eq_zero]
  simp

theorem count_returned (codes : List CodecResult) :
    (codes.map WriterUse.Event.encodeReturned).count (.initWriter none) = 0 := by
  rw [List.count_eq_zero]
  simp

/-- The writers created are those of the machine that `step` extends. -/
theorem step_creations (mode : FrameHeightRoundMode) (sys : System) (c : Call) :
    (creations (step mode sys c).2).length =
      (WriterUse.step mode sys c).2.count (.initWriter none) := by
  obtain ⟨s, crashed⟩ := sys
  unfold step WriterUse.step
  by_cases hcrashed : crashed = true
  · rw [if_pos hcrashed, if_pos hcrashed]
    rfl
  rw [if_neg hcrashed, if_neg hcrashed]
  cases c with
  | initEncode settings fail now =>
    cases settings with
    | none => rfl
    | some c =>
      simp only [events, initEncodeEvents, WriterUse.initEncode]
      cases c.accepted with
      | false => rfl
      | true => cases fail <;> rfl
  | setRates p now r =>
    simp only [events, setRatesEvents, setRates]
    split
    · rfl
    · split
      · rfl
      · exact reconfigureEvents_creations s ⟨s.width, s.height, p.rates⟩ now r
  | encode a =>
    simp only [events, encodeEvents, encode]
    split
    · rfl
    · cases hargs : encodeReconfigures s a.frame a.now with
      | none => simp [creations, count_used, count_returned]
      | some args =>
        have hcreations := reconfigureEvents_creations s args a.now a.reinit
        dsimp only
        rw [if_neg (not_not.mpr (reconfigureSinkWriter_code s args a.reinit))]
        simp only [List.cons_append, List.count_cons, List.count_append, count_used, count_returned,
          ← hcreations]
        rfl
  | registerEncodeCompleteCallback present => rfl
  | onH264Encoded time => rfl
  | release => rfl

end Writers

/-- The log of a run that begins with an `InitEncode` at the reading `now`. -/
def runLog (mode : FrameHeightRoundMode) (s : Encoder.State) (c : CodecSettings) (now : Int)
    (calls : List Call) : List Event :=
  initEvents now ++ (run (step mode) ⟨Encoder.initEncode s c none now, false⟩ calls).2

/-- After a successful `InitEncode` a writer of the same size is never created within the
interval that begins with the creation of the writer before it. -/
theorem creations_spaced (mode : FrameHeightRoundMode) (s : Encoder.State) {c : CodecSettings}
    (hc : c.accepted = true) (now : Int) (calls : List Call)
    (hcalls : ∀ call ∈ calls, Succeeds call)
    (hclock : Ordered (runLog mode s c now calls)) :
    (creations (runLog mode s c now calls)).IsChain Spaced := by
  have hinit : Inv (initEvents now) ⟨Encoder.initEncode s c none now, false⟩ := by
    refine ⟨List.isChain_singleton _, ?_⟩
    intro a ha
    obtain rfl := Option.some.inj ha
    rw [Encoder.initEncode, if_pos hc]
    exact Int.le_refl now
  have halong : Along (step mode)
      (fun _ sys call => Succeeds call ∧ Ordered (step mode sys call).2)
      (initEvents now) ⟨Encoder.initEncode s c none now, false⟩ calls := by
    apply along_of_parts (step mode) ?_ hcalls hclock.parts.2
    intro log log' h
    exact h.parts
  refine (run_invariant_from (step mode) Inv ?_ hinit halong).spaced
  intro log sys call hinv hcall
  exact (step_paces mode hcall.1 hcall.2).inv hinv

def vgaSettings : CodecSettings := ⟨true, 640, 480, 30, 51, 300, 0⟩

def vgaFrame (now : Int) (reinit : Reinit) : Call :=
  .encode ⟨⟨9000, 0, 0, 640, 480⟩, none, now, reinit, [], none, .ok⟩

def rateCalls : List Call :=
  [.setRates ⟨600000, 30⟩ 1000 ⟨none, 0, 0⟩, vgaFrame 6000 ⟨none, 6010, 6020⟩,
    .setRates ⟨1200000, 30⟩ 11020 ⟨none, 11030, 11040⟩]

theorem rateCalls_spaced :
    (creations (runLog .crop (Encoder.create ⟨0, 0, ⟨0, 0⟩, 0, ⟨0, 0⟩⟩) vgaSettings 0
        rateCalls)).length = 3 ∧
      (creations (runLog .crop (Encoder.create ⟨0, 0, ⟨0, 0⟩, 0, ⟨0, 0⟩⟩) vgaSettings 0
        rateCalls)).IsChain Spaced := by
  refine ⟨by decide +kernel, ?_⟩
  apply creations_spaced .crop _ (by decide) 0 rateCalls
  · simp [rateCalls, vgaFrame, Succeeds]
  · unfold Ordered
    decide +kernel

end WeiRtcNative.H264.RateLimit
