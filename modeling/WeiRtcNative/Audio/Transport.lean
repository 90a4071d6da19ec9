import Mathlib.Logic.Function.Basic
import WeiRtcNative.Lib.Machine

/-!
# AudioDeviceHelper: starting and stopping the transport threads

The capture and the render device each have a transport thread; both devices share
`_critSect`, which every API call holds from its first line to its return and which a
thread takes for each packet and, when it ends before it was told to, to clean up.
`StopTransport` signals the shutdown event and waits for the thread with the lock held:
a thread that comes to the lock before it looks at the events cannot end in time.
-/

namespace WeiRtcNative.Audio.Transport

open Machine
set_option autoImplicit false

inductive Device where
  | capture
  | render
  deriving DecidableEq, Repr

/-- Where a transport thread is. `waiting` is the wait for events, `premature` the exit with
`keepRecording` or `keepPlaying` still set; `processing` and `cleaning` hold the lock. -/
inductive Phase where
  | starting
  | waiting
  | wantsLock
  | processing
  | stopping
  | premature
  | cleaning
  | gone
  deriving DecidableEq, Repr

def Phase.holdsLock : Phase → Bool
  | .processing | .cleaning => true
  | _ => false

def Phase.needsLock : Phase → Bool
  | .wantsLock | .premature => true
  | _ => false

/-- An `AudioDeviceHelper` with its auto-reset events and all threads it ever created. -/
structure Helper where
  transportInitialized : Bool
  transporting : Bool
  hThread : Option Nat
  shutdownEvent : Bool
  samplesReadyEvent : Bool
  startedEvent : Bool
  created : Nat
  threads : Nat → Phase

def Helper.create : Helper := ⟨false, false, none, false, false, false, 0, fun _ => .gone⟩

def Helper.setPhase (h : Helper) (t : Nat) (p : Phase) : Helper :=
  {h with threads := Function.update h.threads t p}

inductive Owner where
  | api
  | thread (d : Device) (t : Nat)
  deriving DecidableEq, Repr

/-- The API call in progress: `StartTransport` waiting for the started event, or
`StopTransport` waiting for the thread, on its own or called by `StartTransport`. -/
inductive Api where
  | idle
  | starting (d : Device) (t : Nat)
  | stopping (d : Device) (t : Nat) (fromStart : Bool)
  deriving DecidableEq, Repr

structure System where
  lock : Option Owner
  api : Api
  helpers : Device → Helper

def System.create : System := ⟨none, .idle, fun _ => Helper.create⟩

def System.set (sys : System) (d : Device) (h : Helper) : System :=
  {sys with helpers := Function.update sys.helpers d h}

def System.phase (sys : System) (d : Device) (t : Nat) : Phase := (sys.helpers d).threads t

/-- `stopReturned` tells whether the thread it waited for had ended. -/
inductive Event where
  | startReturned (d : Device) (code : Int)
  | stopReturned (d : Device) (stopped : Option (Nat × Bool)) (code : Int)
  deriving DecidableEq, Repr

/-- How the part of `Transport` before its loop ends: without a look at the lock, at the label
`Exit`, or in the loop. -/
inductive StartUp where
  | returns
  | fails
  | succeeds
  deriving DecidableEq, Repr

inductive Processed where
  | more
  | drained
  | failed
  deriving DecidableEq, Repr

inductive Action where
  | initTransport (d : Device) (succeeds : Bool)
  | startTransport (d : Device) (created : Bool)
  | startedInTime
  | startTimedOut
  | stopTransport (d : Device)
  | joined
  | joinTimedOut
  | samplesReady (d : Device)
  | startUp (d : Device) (t : Nat) (result : StartUp)
  | wake (d : Device) (t : Nat)
  | waitTimesOut (d : Device) (t : Nat)
  | waitFails (d : Device) (t : Nat)
  | takeLock (d : Device) (t : Nat)
  | process (d : Device) (t : Nat) (result : Processed)
  | finish (d : Device) (t : Nat)
  deriving DecidableEq, Repr

/-- The API calls start when the lock is free. -/
def initTransport (sys : System) (d : Device) (succeeds : Bool) : System :=
  let h := sys.helpers d
  if sys.lock.isNone && !h.transporting && succeeds then
    sys.set d {h with transportInitialized := true}
  else sys

def startTransport (sys : System) (d : Device) (created : Bool) : System × List Event :=
  let h := sys.helpers d
  if sys.lock.isSome then (sys, [])
  else if !h.transportInitialized then (sys, [.startReturned d (-1)])
  else if h.hThread.isSome then (sys, [.startReturned d 0])
  else if h.transporting then (sys, [.startReturned d 0])
  else if !created then (sys, [.startReturned d (-1)])
  else
    let t := h.created
    ({sys with lock := some .api, api := .starting d t}.set d
      {h.setPhase t .starting with hThread := some t, created := t + 1}, [])

def startedInTime (sys : System) : System × List Event :=
  match sys.api with
  | .starting d _ =>
    let h := sys.helpers d
    if h.startedEvent then
      ({sys with lock := none, api := .idle}.set d {h with startedEvent := false, transporting := true},
        [.startReturned d 0])
    else (sys, [])
  | _ => (sys, [])

def signalShutdown (sys : System) (d : Device) (t : Nat) (fromStart : Bool) : System :=
  let h := sys.helpers d
  {sys with lock := some .api, api := .stopping d t fromStart}.set d
    {h with shutdownEvent := true, transporting := true}

def startTimedOut (sys : System) : System × List Event :=
  match sys.api with
  | .starting d t =>
    if (sys.helpers d).startedEvent then (sys, []) else (signalShutdown sys d t true, [])
  | _ => (sys, [])

def stopTransport (sys : System) (d : Device) : System × List Event :=
  let h := sys.helpers d
  if sys.lock.isSome then (sys, [])
  else if !h.transporting then (sys, [.stopReturned d none 0])
  else
    match h.hThread with
    | none => (sys.set d {h with transporting := false}, [.stopReturned d none 0])
    | some t => (signalShutdown sys d t false, [])

/-- `StopTransport` after its wait, and `StartTransport` when it was the caller. -/
def stopReturns (sys : System) (d : Device) (t : Nat) (fromStart exited : Bool) :
    System × List Event :=
  let h := sys.helpers d
  ({sys with lock := none, api := .idle}.set d
      {h with
        shutdownEvent := if exited then false else h.shutdownEvent
        transporting := false
        hThread := none},
    .stopReturned d (some (t, exited)) (if exited then 0 else -1) ::
      if fromStart then [.startReturned d (-1)] else [])

def joined (sys : System) : System × List Event :=
  match sys.api with
  | .stopping d t fromStart =>
    if sys.phase d t = .gone then stopReturns sys d t fromStart true else (sys, [])
  | _ => (sys, [])

/-- The wait for the thread expires when the thread cannot go on without the lock. -/
def joinTimedOut (sys : System) : System × List Event :=
  match sys.api with
  | .stopping d t fromStart =>
    if (sys.phase d t).needsLock then stopReturns sys d t fromStart false else (sys, [])
  | _ => (sys, [])

def System.setPhase (sys : System) (d : Device) (t : Nat) (p : Phase) : System :=
  sys.set d ((sys.helpers d).setPhase t p)

/-- `SetEvent(_hStartedEvent)` is the last thing before the loop. -/
def startUp (sys : System) (d : Device) (t : Nat) (result : StartUp) : System :=
  if sys.phase d t = .starting then
    match result with
    | .returns => sys.setPhase d t .gone
    | .fails => sys.setPhase d t .premature
    | .succeeds => sys.set d {(sys.helpers d).setPhase t .waiting with startedEvent := true}
  else sys

/-- The wait returns for the shutdown event first. -/
def wake (sys : System) (d : Device) (t : Nat) : System :=
  let h := sys.helpers d
  if sys.phase d t = .waiting then
    if h.shutdownEvent then sys.set d {h.setPhase t .stopping with shutdownEvent := false}
    else if h.samplesReadyEvent then
      sys.set d {h.setPhase t .wantsLock with samplesReadyEvent := false}
    else sys
  else sys

def waitTimesOut (sys : System) (d : Device) (t : Nat) : System :=
  let h := sys.helpers d
  if sys.phase d t = .waiting ∧ h.shutdownEvent = false ∧ h.samplesReadyEvent = false then
    sys.setPhase d t .premature
  else sys

def waitFails (sys : System) (d : Device) (t : Nat) : System :=
  if sys.phase d t = .waiting then sys.setPhase d t .premature else sys

def takeLock (sys : System) (d : Device) (t : Nat) : System :=
  if sys.lock.isSome then sys
  else
    match sys.phase d t with
    | .wantsLock => {sys.setPhase d t .processing with lock := some (.thread d t)}
    | .premature => {sys.setPhase d t .cleaning with lock := some (.thread d t)}
    | _ => sys

def process (sys : System) (d : Device) (t : Nat) (result : Processed) : System :=
  if sys.phase d t = .processing then
    let next := match result with
      | .more => Phase.wantsLock
      | .drained => .waiting
      | .failed => .premature
    {sys.setPhase d t next with lock := none}
  else sys

def finish (sys : System) (d : Device) (t : Nat) : System :=
  match sys.phase d t with
  | .stopping => sys.setPhase d t .gone
  | .cleaning => {sys.setPhase d t .gone with lock := none}
  | _ => sys

def step (sys : System) : Action → System × List Event
  | .initTransport d succeeds => (initTransport sys d succeeds, [])
  | .startTransport d created => startTransport sys d created
  | .startedInTime => startedInTime sys
  | .startTimedOut => startTimedOut sys
  | .stopTransport d => stopTransport sys d
  | .joined => joined sys
  | .joinTimedOut => joinTimedOut sys
  | .samplesReady d => (sys.set d {sys.helpers d with samplesReadyEvent := true}, [])
  | .startUp d t result => (startUp sys d t result, [])
  | .wake d t => (wake sys d t, [])
  | .waitTimesOut d t => (waitTimesOut sys d t, [])
  | .waitFails d t => (waitFails sys d t, [])
  | .takeLock d t => (takeLock sys d t, [])
  | .process d t result => (process sys d t result, [])
  | .finish d t => (finish sys d t, [])

end WeiRtcNative.Audio.Transport
