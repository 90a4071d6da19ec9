import WeiRtcNative.Lib.Lifetime
import WeiRtcNative.VideoCapture.CapabilityMap

/-!
# Waiting for an asynchronous operation

`WaitForAsyncAction` and `WaitForAsyncOperation` make an event, give the operation a delegate that
sets it, and wait with a time limit. The handle of the event belongs to the waiting thread and to
the delegate together. The operation ends, and calls and releases its delegate, at any time, also
after the wait was given up.
-/

namespace WeiRtcNative.VideoCapture.AsyncWait

open Machine Lifetime
open CapabilityMap (HResult)
set_option autoImplicit false

inductive AsyncStatus where
  | started
  | completed
  | canceled
  | error
  deriving DecidableEq, Repr

/-- The `HRESULT` of a call that fails. -/
def Failure : Type := {hr : HResult // 0x80000000 ≤ hr}

def sOk : HResult := 0

def eFail : Failure := ⟨0x80004005, by decide⟩

def rpcETimeout : Failure := ⟨0x8001011F, by decide⟩

inductive Point where
  | entered
  | created
  | registered
  | waiting
  | timedOut
  | waited
  | returned (hr : HResult)
  deriving DecidableEq, Repr

inductive Delegate where
  | absent
  | registered
  | invoked
  | released
  deriving DecidableEq, Repr

structure Wait where
  point : Point
  status : AsyncStatus
  errorCode : HResult
  delegate : Delegate
  signalled : Bool

/-- The operation has been started already, and may have ended. -/
def start (status : AsyncStatus) (errorCode : HResult) : Wait :=
  ⟨.entered, status, errorCode, .absent, false⟩

inductive WaitResult where
  | object0
  | timeout
  | failed
  deriving DecidableEq, Repr

/-- The steps of the waiting thread with the calls of theirs that fail, and those of the operation.
`createEvent` stands for all calls up to `CreateEventEx`, `putCompleted` also for the test of
`GetLastError` before it. -/
inductive Action where
  | createEvent (fails : Option Failure)
  | putCompleted (fails : Option Failure)
  | getStatus (fails : Option Failure)
  | wake (result : WaitResult)
  | getStatusAgain (fails : Option Failure)
  | getErrorCode (fails : Option Failure)
  | finish (status : AsyncStatus) (errorCode : HResult)
  | invoke
  | release

/-- The events are those of the handle. -/
abbrev Log := List (Lifetime.Event Unit)

namespace Wait
variable (w : Wait)

/-- The waiting thread has its `shared_ptr`. -/
def threadHolds : Bool :=
  match w.point with
  | .entered | .returned _ => false
  | _ => true

/-- The delegate has its `shared_ptr`. -/
def delegateHolds : Bool :=
  match w.delegate with
  | .registered | .invoked => true
  | _ => false

/-- The deleter of the `shared_ptr`, which the last owner runs. -/
def closeUnless (held : Bool) : Log := if held then [] else [.free ()]

/-- The thread returns and drops its `shared_ptr`. -/
def returns (hr : HResult) : Wait × Log :=
  ({w with point := .returned hr}, closeUnless w.delegateHolds)

/-- The operation drops the delegate, and with it the other one. -/
def dropDelegate : Wait × Log :=
  ({w with delegate := .released}, closeUnless w.threadHolds)

def createEvent : Option Failure → Wait × Log
  | some e => ({w with point := .returned e.val}, [])
  | none => ({w with point := .created}, [.acquire ()])

def putCompleted : Option Failure → Wait × Log
  | some e => w.returns e.val
  | none => ({w with point := .registered, delegate := .registered}, [])

/-- The first lines of `WaitForASyncWithEvent`. -/
def getStatus : Option Failure → Wait × Log
  | some e => w.returns e.val
  | none =>
    match w.status with
    | .started => ({w with point := .waiting}, [])
    | .completed => ({w with point := .waited}, [])
    | .canceled | .error => w.returns eFail.val

def wake (result : WaitResult) : Wait × Log :=
  match result with
  | .object0 => (if w.signalled then {w with point := .waited} else w, [.use ()])
  | .timeout => ({w with point := .timedOut}, [.use ()])
  | .failed =>
    let r := w.returns eFail.val
    (r.1, .use () :: r.2)

def getStatusAgain (fails : Option Failure) : Wait × Log :=
  if fails.isNone ∧ w.status = .completed then ({w with point := .waited}, [])
  else w.returns rpcETimeout.val

def getErrorCode : Option Failure → Wait × Log
  | some e => w.returns e.val
  | none => w.returns w.errorCode

/-- `SetEvent` in the delegate. -/
def invoke : Wait × Log :=
  ({w with delegate := .invoked, signalled := true}, [.use ()])

end Wait

/-- The delegate is called once, after the end of the operation. It is released after the call, or
with the operation, which the thread holds until it returns. -/
def step (w : Wait) : Action → Wait × Log
  | .createEvent fails => if w.point = .entered then w.createEvent fails else (w, [])
  | .putCompleted fails => if w.point = .created then w.putCompleted fails else (w, [])
  | .getStatus fails => if w.point = .registered then w.getStatus fails else (w, [])
  | .wake result => if w.point = .waiting then w.wake result else (w, [])
  | .getStatusAgain fails => if w.point = .timedOut then w.getStatusAgain fails else (w, [])
  | .getErrorCode fails => if w.point = .waited then w.getErrorCode fails else (w, [])
  | .finish status errorCode =>
    if w.status = .started then ({w with status, errorCode}, []) else (w, [])
  | .invoke => if w.delegate = .registered ∧ w.status ≠ .started then w.invoke else (w, [])
  | .release =>
    if w.delegate = .invoked ∨ w.delegate = .registered ∧ w.threadHolds = false then w.dropDelegate
    else (w, [])

/-- The handle is open while the thread or the delegate has it; who waits no more has seen the
operation end. -/
structure Inv (log : Log) (w : Wait) : Prop where
  proper : Justified Proper log
  held : live () log = (w.threadHolds || w.delegateHolds)
  once : log.count (.acquire ()) ≤ 1
  entered : w.point = .entered → log = [] ∧ w.delegate = .absent
  signalled : w.signalled = true → w.status ≠ .started
  waited : w.point = .waited → w.status ≠ .started
  returned : w.point = .returned sOk → w.status ≠ .started ∧ w.errorCode = sOk

section Invariant
variable {log : Log} {w : Wait}

theorem start_inv (status : AsyncStatus) (errorCode : HResult) :
    Inv [] (start status errorCode) where
  proper := justified_nil
  held := rfl
  once := by simp
  entered := fun _ => ⟨rfl, rfl⟩
  signalled := by simp [start]
  waited := by simp [start]
  returned := by simp [start]

theorem Failure.ne_ok (e : Failure) : e.val ≠ sOk := by
  intro h
  have hle := e.property
  rw [h] at hle
  exact absurd hle (by decide)

theorem proper_append {e : Lifetime.Event Unit} (h : Justified Proper log) (he : Proper log e) :
    Justified Proper (log ++ [e]) := by
  rw [justified_append]
  exact ⟨h, by simpa using he⟩

/-- A use of the handle by one who has it. -/
theorem Inv.used (h : Inv log w) (hholds : (w.threadHolds || w.delegateHolds) = true) :
    Inv (log ++ [.use ()]) w where
  proper := proper_append h.proper (h.held.trans hholds)
  held := by simpa [Event.live] using h.held
  once := by simpa using h.once
  entered := by
    intro hentered
    obtain ⟨_, hdelegate⟩ := h.entered hentered
    simp [Wait.threadHolds, Wait.delegateHolds, hentered, hdelegate] at hholds
  signalled := h.signalled
  waited := h.waited
  returned := h.returned

/-- Who drops the handle as the last one closes it. -/
theorem dropped (held : Bool) (hproper : Justified Proper log) (hlive : live () log = true) :
    Justified Proper (log ++ Wait.closeUnless held) ∧
      live () (log ++ Wait.closeUnless held) = held ∧
      (log ++ Wait.closeUnless held).count (.acquire ()) = log.count (.acquire ()) := by
  cases held with
  | true => simp [Wait.closeUnless, hproper, hlive]
  | false =>
    refine ⟨proper_append hproper hlive, ?_, ?_⟩
    · simp [Wait.closeUnless, Event.live]
    · simp [Wait.closeUnless]

theorem Inv.returns (h : Inv log w) (hholds : w.threadHolds = true) {hr : HResult}
    (hok : hr = sOk → w.status ≠ .started ∧ w.errorCode = sOk) :
    Inv (log ++ (w.returns hr).2) (w.returns hr).1 := by
  have hlive : live () log = true := by simp [h.held, hholds]
  obtain ⟨hproper, hnow, hcount⟩ := dropped w.delegateHolds h.proper hlive
  constructor
  · exact hproper
  · exact hnow
  · exact hcount.trans_le h.once
  · intro hpoint
    cases hpoint
  · exact h.signalled
  · intro hpoint
    cases hpoint
  · intro hpoint
    exact hok (Point.returned.inj hpoint)

theorem Inv.fails (h : Inv log w) (hholds : w.threadHolds = true) (e : Failure) :
    Inv (log ++ (w.returns e.val).2) (w.returns e.val).1 :=
  h.returns hholds fun hok => absurd hok e.ne_ok

/-- The thread goes on within the call. -/
theorem Inv.advance (h : Inv log w) (hholds : w.threadHolds = true) (point : Point)
    (hinside : ({w with point} : Wait).threadHolds = true)
    (hwaited : point = .waited → w.status ≠ .started) : Inv log {w with point} := by
  have hlive : live () log = true := by simp [h.held, hholds]
  constructor
  · exact h.proper
  · rw [hlive, hinside, Bool.true_or]
  · exact h.once
  · intro hpoint
    simp only at hpoint
    subst hpoint
    cases hinside
  · exact h.signalled
  · exact hwaited
  · intro hpoint
    simp only at hpoint
    subst hpoint
    cases hinside

theorem Inv.createEvent (h : Inv log w) (hpoint : w.point = .entered) (fails : Option Failure) :
    Inv (log ++ (w.createEvent fails).2) (w.createEvent fails).1 := by
  obtain ⟨rfl, hdelegate⟩ := h.entered hpoint
  cases fails with
  | none =>
    refine ⟨by simp [Wait.createEvent, Proper], ?_, by simp [Wait.createEvent], ?_, h.signalled,
      ?_, ?_⟩
    · simp [Wait.createEvent, Wait.threadHolds, live, Event.live]
    all_goals simp [Wait.createEvent]
  | some e =>
    refine ⟨justified_nil, ?_, by simp [Wait.createEvent], ?_, h.signalled, ?_, ?_⟩
    · simp [Wait.createEvent, Wait.threadHolds, Wait.delegateHolds, hdelegate]
    · simp [Wait.createEvent]
    · simp [Wait.createEvent]
    · simp [Wait.createEvent, e.ne_ok]

theorem Inv.putCompleted (h : Inv log w) (hpoint : w.point = .created) (fails : Option Failure) :
    Inv (log ++ (w.putCompleted fails).2) (w.putCompleted fails).1 := by
  have hholds : w.threadHolds = true := by simp [Wait.threadHolds, hpoint]
  cases fails with
  | none =>
    have hlive : live () log = true := by simp [h.held, hholds]
    simp only [Wait.putCompleted, List.append_nil]
    refine ⟨h.proper, ?_, h.once, by simp, h.signalled, by simp, by simp⟩
    simp [hlive, Wait.threadHolds]
  | some e => exact h.fails hholds e

theorem Inv.getStatus (h : Inv log w) (hpoint : w.point = .registered) (fails : Option Failure) :
    Inv (log ++ (w.getStatus fails).2) (w.getStatus fails).1 := by
  have hholds : w.threadHolds = true := by simp [Wait.threadHolds, hpoint]
  cases fails with
  | none =>
    simp only [Wait.getStatus]
    split
    · simpa using h.advance hholds .waiting rfl (by simp)
    · rename_i hstatus
      simpa using h.advance hholds .waited rfl (by simp [hstatus])
    · exact h.fails hholds eFail
    · exact h.fails hholds eFail
  | some e => exact h.fails hholds e

theorem Inv.wake (h : Inv log w) (hpoint : w.point = .waiting) (result : WaitResult) :
    Inv (log ++ (w.wake result).2) (w.wake result).1 := by
  have hholds : w.threadHolds = true := by simp [Wait.threadHolds, hpoint]
  have hused : Inv (log ++ [.use ()]) w := h.used (by simp [hholds])
  cases result with
  | object0 =>
    unfold Wait.wake
    by_cases hset : w.signalled = true
    · rw [if_pos hset]
      exact hused.advance hholds .waited rfl fun _ => h.signalled hset
    · rw [if_neg hset]
      exact hused
  | timeout => exact hused.advance hholds .timedOut rfl (by simp)
  | failed =>
    have hreturned := hused.fails hholds eFail
    rwa [List.append_assoc] at hreturned

theorem Inv.getStatusAgain (h : Inv log w) (hpoint : w.point = .timedOut)
    (fails : Option Failure) : Inv (log ++ (w.getStatusAgain fails).2) (w.getStatusAgain fails).1 := by
  have hholds : w.threadHolds = true := by simp [Wait.threadHolds, hpoint]
  unfold Wait.getStatusAgain
  split
  · rename_i hcompleted
    simp only [List.append_nil]
    exact h.advance hholds .waited rfl (by simp [hcompleted.2])
  · exact h.fails hholds rpcETimeout

theorem Inv.getErrorCode (h : Inv log w) (hpoint : w.point = .waited) (fails : Option Failure) :
    Inv (log ++ (w.getErrorCode fails).2) (w.getErrorCode fails).1 := by
  have hholds : w.threadHolds = true := by simp [Wait.threadHolds, hpoint]
  cases fails with
  | none => exact h.returns hholds fun hok => ⟨h.waited hpoint, hok⟩
  | some e => exact h.fails hholds e

/-- `SetEvent` finds the handle open, however long ago the wait was given up. -/
theorem Inv.invoke (h : Inv log w) (hdelegate : w.delegate = .registered)
    (hended : w.status ≠ .started) : Inv (log ++ w.invoke.2) w.invoke.1 := by
  have hholds : w.delegateHolds = true := by simp [Wait.delegateHolds, hdelegate]
  have hused : Inv (log ++ [.use ()]) w := h.used (by simp [hholds])
  refine ⟨hused.proper, ?_, hused.once, ?_, fun _ => hended, h.waited, h.returned⟩
  · rw [show live () (log ++ w.invoke.2) = _ from hused.held, hholds]
    rfl
  · intro hpoint
    have hnone := (h.entered hpoint).2
    rw [hdelegate] at hnone
    cases hnone

theorem Inv.dropDelegate (h : Inv log w) (hholds : w.delegateHolds = true) :
    Inv (log ++ w.dropDelegate.2) w.dropDelegate.1 := by
  have hlive : live () log = true := by simp [h.held, hholds]
  obtain ⟨hproper, hnow, hcount⟩ := dropped w.threadHolds h.proper hlive
  refine ⟨hproper, ?_, hcount.trans_le h.once, ?_, h.signalled, h.waited, h.returned⟩
  · rw [show live () (log ++ w.dropDelegate.2) = _ from hnow]
    simp [Wait.dropDelegate, Wait.threadHolds, Wait.delegateHolds]
  · intro hpoint
    have hnone := (h.entered hpoint).2
    rw [Wait.delegateHolds, hnone] at hholds
    cases hholds

theorem Inv.finish (h : Inv log w) (hstarted : w.status = .started) (status : AsyncStatus)
    (errorCode : HResult) : Inv log {w with status, errorCode} := by
  refine ⟨h.proper, h.held, h.once, h.entered, ?_, ?_, ?_⟩
  · exact fun hset => absurd hstarted (h.signalled hset)
  · exact fun hpoint => absurd hstarted (h.waited hpoint)
  · exact fun hpoint => absurd hstarted (h.returned hpoint).1

theorem Inv.guarded (h : Inv log w) {p : Prop} [Decidable p] {r : Wait × Log}
    (hr : p → Inv (log ++ r.2) r.1) :
    Inv (log ++ (if p then r else (w, [])).2) (if p then r else (w, [])).1 := by
  split
  · exact hr ‹_›
  · rwa [List.append_nil]

theorem step_inv (log : Log) (w : Wait) (a : Action) (h : Inv log w) :
    Inv (log ++ (step w a).2) (step w a).1 := by
  cases a with
  | createEvent fails => exact h.guarded fun hpoint => h.createEvent hpoint fails
  | putCompleted fails => exact h.guarded fun hpoint => h.putCompleted hpoint fails
  | getStatus fails => exact h.guarded fun hpoint => h.getStatus hpoint fails
  | wake result => exact h.guarded fun hpoint => h.wake hpoint result
  | getStatusAgain fails => exact h.guarded fun hpoint => h.getStatusAgain hpoint fails
  | getErrorCode fails => exact h.guarded fun hpoint => h.getErrorCode hpoint fails
  | finish status errorCode =>
    apply h.guarded
    intro hstarted
    simpa using h.finish hstarted status errorCode
  | invoke => exact h.guarded fun hready => h.invoke hready.1 hready.2
  | release =>
    apply h.guarded
    intro hready
    apply h.dropDelegate
    rcases hready with hinvoked | ⟨hregistered, _⟩
    · simp [Wait.delegateHolds, hinvoked]
    · simp [Wait.delegateHolds, hregistered]

end Invariant

/-- In every interleaving of the waiting thread with the operation the handle is used while it is
open only, open just while the thread or the delegate has it, and closed once; and a wait that
returns `S_OK` has seen the operation end with the error code `S_OK`. -/
theorem wait_sound (status : AsyncStatus) (errorCode : HResult) (actions : List Action) :
    let r := run step (start status errorCode) actions
    Justified Proper r.2 ∧ live () r.2 = (r.1.threadHolds || r.1.delegateHolds) ∧
      r.2.count (.free ()) + (live () r.2).toNat = r.2.count (.acquire ()) ∧
      r.2.count (.acquire ()) ≤ 1 ∧
      (r.1.point = .returned sOk → r.1.status ≠ .started ∧ r.1.errorCode = sOk) := by
  have hinv := @run_invariant _ _ _ step (fun _ _ _ => True) Inv
    (fun log w a h _ => step_inv log w a h) _ _ (start_inv status errorCode)
    (along_true step [] (start status errorCode) actions)
  exact ⟨hinv.proper, hinv.held, frees_add_live hinv.proper (), hinv.once, hinv.returned⟩

end WeiRtcNative.VideoCapture.AsyncWait
