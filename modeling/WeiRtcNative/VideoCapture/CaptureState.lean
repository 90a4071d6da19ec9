import WeiRtcNative.Lib.Machine

/-!
# VideoCaptureWinRT: starting and stopping

`StartCapture` and `StopCapture` over all patterns of failure of the WinRT calls they make. A
call stops at the first failure and does not undo what it has done; `StopCapture` gives up
its handles in any case but clears `is_capturing` only when all its calls succeeded. A start
that the program takes for failed may have started the reader all the same.
-/

namespace WeiRtcNative.VideoCapture.CaptureState

open Machine
set_option autoImplicit false

/-- The calls of `StartCapture` that can fail, in their order; `findSource` stands for the
search through the frame sources and `startStatus` for the test of the status. -/
inductive StartCall where
  | videoProfile
  | profileDescription
  | initializationSettings
  | getMediaCapture
  | asMediaCapture5
  | getFrameSources
  | asIterable
  | first
  | getHasCurrent
  | findSource
  | createFrameReader
  | waitFrameReader
  | getFrameReader
  | addFrameArrived
  | startAsync
  | waitStart
  | getStartStatus
  | startStatus
  deriving DecidableEq, Repr

def StartCall.position : StartCall → Nat
  | .videoProfile => 0
  | .profileDescription => 1
  | .initializationSettings => 2
  | .getMediaCapture => 3
  | .asMediaCapture5 => 4
  | .getFrameSources => 5
  | .asIterable => 6
  | .first => 7
  | .getHasCurrent => 8
  | .findSource => 9
  | .createFrameReader => 10
  | .waitFrameReader => 11
  | .getFrameReader => 12
  | .addFrameArrived => 13
  | .startAsync => 14
  | .waitStart => 15
  | .getStartStatus => 16
  | .startStatus => 17

/-- The first call that fails, and whether the reader starts after `StartAsync` although the
wait for it, or the reading of its result, fails. -/
structure StartAnswers where
  fail : Option StartCall
  startsAnyway : Bool
  deriving DecidableEq, Repr

def StartAnswers.passed (a : StartAnswers) (call : StartCall) : Bool :=
  match a.fail with
  | none => true
  | some f => call.position < f.position

def StartAnswers.succeeds (a : StartAnswers) : Bool := a.fail.isNone

/-- The reader starts, but `StartCapture` fails. -/
def StartAnswers.unnoticed (a : StartAnswers) : Bool :=
  (a.fail = some .waitStart || a.fail = some .getStartStatus) && a.startsAnyway

inductive StopCall where
  | removeFrameArrived
  | stopAsync
  | waitStop
  | asClosable
  | close
  deriving DecidableEq, Repr

/-- The call is made on the reader, not on the media capture. -/
def StopCall.onReader : StopCall → Bool
  | .removeFrameArrived | .stopAsync | .waitStop => true
  | .asClosable | .close => false

section Calls
variable {Capability : Type}

/-- A frame reader, with the capability it was made for. -/
structure Reader (Capability : Type) where
  capability : Capability
  running : Bool
  deriving DecidableEq, Repr

structure State (Capability : Type) where
  mediaCapture : Bool
  mediaFrameReader : Option (Reader Capability)
  isCapturing : Bool
  requestedCapability : Capability
  deriving DecidableEq, Repr

def create (default : Capability) : State Capability := ⟨false, none, false, default⟩

def captureStarted (s : State Capability) : Bool := s.isCapturing

/-- Whether all calls of `StopCapture` succeed, when `fail` is the first that would not. -/
def stopSucceeds (s : State Capability) (fail : Option StopCall) : Bool :=
  match fail with
  | none => true
  | some call => if call.onReader then s.mediaFrameReader.isNone else !s.mediaCapture

def stopCapture (s : State Capability) (fail : Option StopCall) : State Capability × Bool :=
  let ok := stopSucceeds s fail
  ({s with
    isCapturing := s.isCapturing && !ok
    mediaFrameReader := none
    mediaCapture := false}, ok)

def makeMediaCapture (s : State Capability) (a : StartAnswers) : State Capability :=
  if a.passed .initializationSettings then {s with mediaCapture := a.passed .getMediaCapture} else s

/-- The handle of an earlier reader is given up when the new one is asked for. -/
def makeFrameReader (s : State Capability) (capability : Capability) (a : StartAnswers) :
    State Capability :=
  if a.passed .waitFrameReader then
    {s with mediaFrameReader :=
      if a.passed .getFrameReader then some ⟨capability, a.succeeds || a.unnoticed⟩ else none}
  else s

def startCaptureInternal (s : State Capability) (capability : Capability) (a : StartAnswers) :
    State Capability × Bool :=
  let s := makeFrameReader (makeMediaCapture s a) capability a
  (if a.succeeds then {s with isCapturing := true} else s, a.succeeds)

def startCapture [DecidableEq Capability] (s : State Capability) (capability : Capability)
    (fail : Option StopCall) (a : StartAnswers) : State Capability × Bool :=
  if captureStarted s && capability = s.requestedCapability then (s, true)
  else
    let s := if captureStarted s then (stopCapture s fail).1 else s
    let (s, ok) := startCaptureInternal s capability a
    (if ok then {s with requestedCapability := capability} else s, ok)

inductive Call (Capability : Type) where
  | startCapture (capability : Capability) (fail : Option StopCall) (answers : StartAnswers)
  | stopCapture (fail : Option StopCall)
  deriving DecidableEq, Repr

/-- The state a call leaves, and the capability with which it returned success, if it is a
start that did. -/
structure Returned (Capability : Type) where
  state : State Capability
  startedWith : Option Capability
  deriving DecidableEq, Repr

def step [DecidableEq Capability] (s : State Capability) :
    Call Capability → State Capability × List (Returned Capability)
  | .startCapture capability fail a =>
    let r := startCapture s capability fail a
    (r.1, [⟨r.1, if r.2 then some capability else none⟩])
  | .stopCapture fail =>
    let r := stopCapture s fail
    (r.1, [⟨r.1, none⟩])

def readerRunning (s : State Capability) : Bool :=
  s.mediaFrameReader.any Reader.running

/-- `CaptureStarted` tells whether the reader is running, and a start returns success only
with a reader running for its capability. -/
structure Truthful (r : Returned Capability) : Prop where
  started : captureStarted r.state = readerRunning r.state
  success : ∀ capability ∈ r.startedWith, captureStarted r.state = true ∧
    r.state.mediaFrameReader = some ⟨capability, true⟩

/-- A stop while capturing succeeds. A start that is not answered at once succeeds, or it fails
without a running reader, its own or one that could not be stopped. -/
def Condition (s : State Capability) : Call Capability → Prop
  | .stopCapture fail => s.isCapturing = true → stopSucceeds s fail = true
  | .startCapture capability fail a =>
    (s.isCapturing = true ∧ capability = s.requestedCapability) ∨ a.succeeds = true ∨
      (a.unnoticed = false ∧ (s.isCapturing = true → stopSucceeds s fail = true))

/-- The flag and the reader agree, and the reader is the one that was asked for last. -/
structure Consistent (s : State Capability) : Prop where
  capturing : s.isCapturing = true →
    s.mediaFrameReader = some ⟨s.requestedCapability, true⟩
  idle : s.isCapturing = false → readerRunning s = false

theorem Consistent.started {s : State Capability} (h : Consistent s) :
    captureStarted s = readerRunning s := by
  rw [captureStarted]
  cases hcapturing : s.isCapturing with
  | true => simp [readerRunning, h.capturing hcapturing]
  | false => exact (h.idle hcapturing).symm

theorem consistent_idle {s : State Capability} (hcapturing : s.isCapturing = false)
    (hrunning : readerRunning s = false) : Consistent s := by
  refine ⟨?_, fun _ => hrunning⟩
  intro h
  rw [hcapturing] at h
  cases h

theorem stopCapture_consistent {s : State Capability} {fail : Option StopCall}
    (h : s.isCapturing = true → stopSucceeds s fail = true) :
    Consistent (stopCapture s fail).1 := by
  apply consistent_idle
  · cases hcapturing : s.isCapturing with
    | true => simp [stopCapture, h hcapturing]
    | false => simp [stopCapture, hcapturing]
  · rfl

theorem stopCapture_isCapturing {s : State Capability} {fail : Option StopCall}
    (h : stopSucceeds s fail = true) : (stopCapture s fail).1.isCapturing = false := by
  simp [stopCapture, h]

theorem startCaptureInternal_succeeds (s : State Capability) (capability : Capability)
    {a : StartAnswers} (h : a.succeeds = true) :
    (startCaptureInternal s capability a).1.isCapturing = true ∧
      (startCaptureInternal s capability a).1.mediaFrameReader = some ⟨capability, true⟩ := by
  have hnone : a.fail = none := by simpa [StartAnswers.succeeds] using h
  simp [startCaptureInternal, makeFrameReader, StartAnswers.passed, hnone, h]

theorem makeMediaCapture_same (s : State Capability) (a : StartAnswers) :
    (makeMediaCapture s a).isCapturing = s.isCapturing ∧
      (makeMediaCapture s a).mediaFrameReader = s.mediaFrameReader := by
  unfold makeMediaCapture
  split <;> exact ⟨rfl, rfl⟩

/-- A start that fails leaves the flag alone and no new reader running that it did not
notice. -/
theorem startCaptureInternal_fails {s : State Capability} (capability : Capability)
    {a : StartAnswers} (hfails : a.succeeds = false) (hnoticed : a.unnoticed = false)
    (hrunning : readerRunning s = false) :
    (startCaptureInternal s capability a).1.isCapturing = s.isCapturing ∧
      readerRunning (startCaptureInternal s capability a).1 = false := by
  obtain ⟨hflag, hreader⟩ := makeMediaCapture_same s a
  simp only [startCaptureInternal, hfails, Bool.false_eq_true, if_false, makeFrameReader]
  split
  · refine ⟨hflag, ?_⟩
    simp only [readerRunning, hnoticed, Bool.or_false]
    split <;> rfl
  · refine ⟨hflag, ?_⟩
    rw [readerRunning, hreader]
    exact hrunning

/-- What a start that is not answered at once does, in the state it finds after the stop. -/
theorem start_truthful {s : State Capability} (capability : Capability) {a : StartAnswers}
    (hstopped : a.succeeds = false → a.unnoticed = false ∧ s.isCapturing = false ∧
      readerRunning s = false) :
    let r := startCaptureInternal s capability a
    let t := if r.2 then {r.1 with requestedCapability := capability} else r.1
    Consistent t ∧ (r.2 = true → t.isCapturing = true ∧
      t.mediaFrameReader = some ⟨capability, true⟩) := by
  have hresult : (startCaptureInternal s capability a).2 = a.succeeds := rfl
  dsimp only
  rw [hresult]
  cases hsucceeds : a.succeeds with
  | true =>
    obtain ⟨hflag, hreader⟩ := startCaptureInternal_succeeds s capability hsucceeds
    refine ⟨⟨fun _ => hreader, ?_⟩, fun _ => ⟨hflag, hreader⟩⟩
    intro hidle
    exact absurd (hflag.symm.trans hidle) (by decide)
  | false =>
    obtain ⟨hnoticed, hidle, hrunning⟩ := hstopped hsucceeds
    obtain ⟨hflag, hreader⟩ :=
      startCaptureInternal_fails capability hsucceeds hnoticed hrunning
    exact ⟨consistent_idle (hflag.trans hidle) hreader, by simp⟩

section Runs
variable [DecidableEq Capability]

theorem startCapture_truthful {s : State Capability} (h : Consistent s) {capability : Capability}
    {fail : Option StopCall} {a : StartAnswers}
    (hcondition : Condition s (.startCapture capability fail a)) :
    Consistent (startCapture s capability fail a).1 ∧
      ((startCapture s capability fail a).2 = true →
        (startCapture s capability fail a).1.isCapturing = true ∧
          (startCapture s capability fail a).1.mediaFrameReader = some ⟨capability, true⟩) := by
  unfold startCapture
  split
  · rename_i hsame
    obtain ⟨hcapturing, rfl⟩ : s.isCapturing = true ∧ capability = s.requestedCapability := by
      simpa [captureStarted] using hsame
    exact ⟨h, fun _ => ⟨hcapturing, h.capturing hcapturing⟩⟩
  · rename_i hother
    apply start_truthful
    intro hfails
    have hrest : a.unnoticed = false ∧ (s.isCapturing = true → stopSucceeds s fail = true) := by
      rcases hcondition with hsame | hsucceeds | hrest
      · exact absurd (by simpa [captureStarted] using hsame) hother
      · rw [hsucceeds] at hfails
        cases hfails
      · exact hrest
    refine ⟨hrest.1, ?_⟩
    split
    · rename_i hcapturing
      exact ⟨stopCapture_isCapturing (hrest.2 hcapturing), rfl⟩
    · rename_i hidle
      rw [Bool.not_eq_true] at hidle
      exact ⟨hidle, h.idle hidle⟩

theorem step_truthful {s : State Capability} (h : Consistent s) {call : Call Capability}
    (hcondition : Condition s call) :
    Consistent (step s call).1 ∧ ∀ r ∈ (step s call).2, Truthful r := by
  cases call with
  | stopCapture fail =>
    have hstopped := stopCapture_consistent hcondition
    refine ⟨hstopped, ?_⟩
    intro r hr
    obtain rfl := List.mem_singleton.mp hr
    exact ⟨hstopped.started, by simp⟩
  | startCapture capability fail a =>
    obtain ⟨hstarted, hsuccess⟩ := startCapture_truthful h hcondition
    refine ⟨hstarted, ?_⟩
    intro r hr
    obtain rfl := List.mem_singleton.mp hr
    refine ⟨hstarted.started, ?_⟩
    intro capability' hcapability
    split at hcapability
    · rename_i hok
      obtain rfl := Option.some.inj hcapability
      exact hsuccess hok
    · cases hcapability

/-- As long as no stop fails while capturing and no reader starts behind a start that failed,
`CaptureStarted` and the result of `StartCapture` are true of the reader. -/
theorem capture_state_truthful (default : Capability) (calls : List (Call Capability))
    (hok : Along step (fun _ s call => Condition s call) [] (create default) calls) :
    ∀ r ∈ (run step (create default) calls).2, Truthful r := by
  have hstart : Consistent (create default) := consistent_idle rfl rfl
  refine (run_invariant step (fun log s => Consistent s ∧ ∀ r ∈ log, Truthful r) ?_
    ⟨hstart, by simp⟩ hok).2
  rintro log s call ⟨h, hlog⟩ hcondition
  obtain ⟨hnext, hreturned⟩ := step_truthful h hcondition
  exact ⟨hnext, List.forall_mem_append.mpr ⟨hlog, hreturned⟩⟩

end Runs

end Calls

theorem restart_with_other_capability :
    Along step (fun _ s call => Condition s call) [] (create 0)
        [.startCapture 1 none ⟨none, false⟩, .startCapture 2 none ⟨none, false⟩,
          .stopCapture none] ∧
      ∀ r ∈ (run step (create 0) [.startCapture 1 none ⟨none, false⟩,
        .startCapture 2 none ⟨none, false⟩, .stopCapture none]).2, Truthful r := by
  have hok : Along step (fun _ s call => Condition s call) [] (create 0)
      [.startCapture 1 none ⟨none, false⟩, .startCapture 2 none ⟨none, false⟩,
        .stopCapture none] :=
    ⟨.inr (.inl rfl), .inr (.inl rfl), fun _ => rfl, trivial⟩
  exact ⟨hok, capture_state_truthful 0 _ hok⟩

/-- The wait for the reader to stop times out; a start with the same capability then succeeds
without a reader. -/
theorem success_without_reader :
    ¬ ∀ r ∈ (run step (create 0) [.startCapture 1 none ⟨none, false⟩, .stopCapture (some .waitStop),
      .startCapture 1 none ⟨none, false⟩]).2, Truthful r := by
  intro h
  have hlast := (h ⟨⟨false, none, true, 1⟩, some 1⟩ (by decide)).success 1 rfl
  cases hlast.2

end WeiRtcNative.VideoCapture.CaptureState
