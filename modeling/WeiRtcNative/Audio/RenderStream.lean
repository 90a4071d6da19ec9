import WeiRtcNative.Lib.ResetQueue
import WeiRtcNative.Audio.PlayoutDelay

/-!
# The rendered stream

What `RenderDeviceInternal::Transport` puts into the endpoint buffer and what the device plays of
it. The states of the thread are those of `PlayoutDelay`; here the packets have their samples, and
any of the calls may fail, also those with which a thread ends. Of the endpoint buffer it is taken
that it is a queue, which a `Reset` that succeeds empties and one that fails leaves as it is.
-/

namespace WeiRtcNative.Audio.RenderStream

open Machine PlayoutDelay ResetQueue
set_option autoImplicit false

universe u
variable {α : Type u}

/-- What `_pAudioBuffer` does for a block: it is not attached, it returns -1, or it copies the
frames to `pData`. -/
inductive Given (α : Type u) where
  | unattached
  | failed
  | frames (data : List α)
  deriving DecidableEq, Repr

/-- `memory` is what the packet holds when it is handed out. -/
structure BlockAnswers (α : Type u) where
  getBufferFails : Bool
  memory : Nat → α
  given : Given α
  releaseBufferFails : Bool

/-- The call that a thread ends with before its loop. -/
inductive StartFailure where
  | roInitialize
  /-- `GetBufferSize` or `GetCurrentPadding`. -/
  | size
  /-- `GetBuffer` or `ReleaseBuffer`. -/
  | buffer
  | start
  deriving DecidableEq, Repr

/-- What the calls at the end of a thread answer: the `Stop` after the loop, the one that follows a
failed call, and the two calls of a thread that was not told to end. -/
structure EndAnswers where
  stopFails : Bool
  stopOnFailureFails : Bool
  stopEarlyFails : Bool
  resetFails : Bool
  deriving DecidableEq, Repr

/-- A stream whose `Stop` has failed goes on playing, also between the `GetCurrentPadding` and the
`GetBuffer` of the next thread: `meanwhile` are the frames of that time. -/
inductive Input (α : Type u) where
  | startPlayout (latency devPeriod : ℤ) (meanwhile : Nat)
  | startFails (failure : StartFailure) (latency devPeriod : ℤ) (meanwhile : Nat)
      (a : EndAnswers)
  | waited (w : WaitResult) (a : EndAnswers)
  | advance (currentPaddingFails : Bool) (block : BlockAnswers α) (a : EndAnswers)
  | played (frames : Nat)

structure System (α : Type u) where
  renderer : Renderer
  queue : List α

inductive Entry (α : Type u) where
  /-- `GetBuffer`, and the room that the endpoint buffer has. -/
  | asked (frames room : Nat)
  | copied (frames room : Nat)
  | silent (frames : List α)
  | rendered (packet : List α) (given : Given α)
  | played (frames : List α)
  | reset
  deriving DecidableEq, Repr

def create (sndCardDelay : UInt32) : System α := ⟨PlayoutDelay.create sndCardDelay, []⟩

def System.runs (s : System α) (started : Bool) : System α :=
  ⟨{s.renderer with started := started}, s.queue⟩

section Calls
variable (st : Stream) (silence : α)

/-- The label `Exit` of a thread that was not told to end. Failures are only traced. -/
def exit (s : System α) (callFailed : Bool) (a : EndAnswers) : System α × List (Entry α) :=
  let stopped := (callFailed && !a.stopOnFailureFails) || !a.stopEarlyFails
  let r := {s.renderer with started := s.renderer.started && !stopped, phase := .idle}
  if a.resetFails then (⟨r, s.queue⟩, [])
  else (⟨{r with queued := 0, position := 0}, []⟩, [.reset])

/-- The end of a thread that was told to end: `Stop`, and once more if it fails. -/
def terminate (s : System α) (a : EndAnswers) : System α × List (Entry α) :=
  let stopped := !a.stopFails || !a.stopOnFailureFails
  (⟨{s.renderer with started := s.renderer.started && !stopped, phase := .idle}, s.queue⟩, [])

def played (s : System α) (frames : Nat) : System α × List (Entry α) :=
  (⟨PlayoutDelay.played s.renderer frames, s.queue.drop frames⟩, [.played (s.queue.take frames)])

/-- The initial rendering delay, and `_samples` before the first silence. -/
def deriveDelay (s : System α) (latency devPeriod : ℤ) : System α :=
  ⟨{s.renderer with
      samples := 0
      sndCardDelay := (PlayoutDelay.startUp st s.renderer latency devPeriod).sndCardDelay},
    s.queue⟩

/-- From `GetCurrentPadding` to the `GetBuffer` for the first silence. -/
def grab (s : System α) (meanwhile : Nat) : System α × List (Entry α) :=
  let r := if s.renderer.started then played s meanwhile else (s, [])
  (r.1, r.2 ++ [.asked (st.bufferLength.toNat - s.renderer.queued)
    (st.bufferLength.toNat - r.1.renderer.queued)])

def startUp (s : System α) (latency devPeriod : ℤ) (meanwhile : Nat) :
    System α × List (Entry α) :=
  let r := grab st s meanwhile
  let quiet := List.replicate (st.bufferLength.toNat - s.renderer.queued) silence
  (⟨{PlayoutDelay.startUp st s.renderer latency devPeriod with
      queued := r.1.renderer.queued + quiet.length
      position := r.1.renderer.position}, r.1.queue ++ quiet⟩, r.2 ++ [.silent quiet])

def startFails (s : System α) (failure : StartFailure) (latency devPeriod : ℤ) (meanwhile : Nat)
    (a : EndAnswers) : System α × List (Entry α) :=
  match failure with
  | .roInitialize => (s, [])
  | .size => exit s true a
  | .buffer =>
    let r := grab st (deriveDelay st s latency devPeriod) meanwhile
    ((exit r.1 true a).1, r.2 ++ (exit r.1 true a).2)
  | .start =>
    let r := startUp st silence s latency devPeriod meanwhile
    let filled := r.1.runs s.renderer.started
    ((exit filled true a).1, r.2 ++ (exit filled true a).2)

/-- The packet as the device finds it. -/
def packet (memory : Nat → α) (data : List α) : List α :=
  (List.range st.blockSize.toNat).map fun i => data[i]?.getD (memory i)

def Given.data : Given α → List α
  | .frames data => data
  | _ => []

/-- `GetPlayoutData`. -/
def copies (given : Given α) : List (Entry α) :=
  match given with
  | .frames data => [.copied data.length st.blockSize.toNat]
  | _ => []

def release (s : System α) (block : BlockAnswers α) (a : EndAnswers) :
    System α × List (Entry α) :=
  if block.releaseBufferFails then exit s true a
  else
    let filled := packet st block.memory block.given.data
    (⟨(PlayoutDelay.advance st s.renderer).1, s.queue ++ filled⟩, [.rendered filled block.given])

/-- After a `RequestPlayoutData` that returned -1 the last call has succeeded. -/
def writeBlock (s : System α) (block : BlockAnswers α) (a : EndAnswers) :
    System α × List (Entry α) :=
  let asked : Entry α := .asked st.blockSize.toNat (st.bufferLength.toNat - s.renderer.queued)
  if block.getBufferFails then ((exit s true a).1, asked :: (exit s true a).2)
  else
    match block.given with
    | .failed => ((exit s false a).1, asked :: (exit s false a).2)
    | given =>
      let r := release st s block a
      (r.1, asked :: (copies st given ++ r.2))

def advance (s : System α) (currentPaddingFails : Bool) (block : BlockAnswers α)
    (a : EndAnswers) : System α × List (Entry α) :=
  match s.renderer.phase with
  | .checking =>
    if currentPaddingFails then exit s true a
    else (⟨(PlayoutDelay.advance st s.renderer).1, s.queue⟩, [])
  | .writing (_ + 1) => writeBlock st s block a
  | .draining => terminate s a
  | _ => (⟨(PlayoutDelay.advance st s.renderer).1, s.queue⟩, [])

def waited (s : System α) (a : EndAnswers) : WaitResult → System α × List (Entry α)
  | .shutdown => (⟨PlayoutDelay.waited s.renderer .shutdown, s.queue⟩, [])
  | .samplesReady => (⟨PlayoutDelay.waited s.renderer .samplesReady, s.queue⟩, [])
  | .timeout => exit s false a
  | .failed => exit s false a

def step (s : System α) : Input α → System α × List (Entry α)
  | .startPlayout latency devPeriod meanwhile =>
    if s.renderer.phase = .idle then startUp st silence s latency devPeriod meanwhile else (s, [])
  | .startFails failure latency devPeriod meanwhile a =>
    if s.renderer.phase = .idle then startFails st silence s failure latency devPeriod meanwhile a
    else (s, [])
  | .waited w a => if s.renderer.phase = .waiting then waited s a w else (s, [])
  | .advance currentPaddingFails block a => advance st s currentPaddingFails block a
  | .played frames => if s.renderer.started then played s frames else (s, [])

end Calls

/-- The endpoint buffer is a queue. -/
def Entry.queued : Entry α → Option (ResetQueue.Event α)
  | .silent frames => some (.put frames)
  | .rendered packet _ => some (.put packet)
  | .played frames => some (.take frames)
  | .reset => some .clear
  | _ => none

def endpoint (log : List (Entry α)) : List (ResetQueue.Event α) := log.filterMap Entry.queued

def Entry.Fits : Entry α → Prop
  | .asked frames room => frames ≤ room
  | _ => True

/-- The packet is the block that the audio buffer gave, which was copied within it. -/
def Entry.Faithful : Entry α → Prop
  | .copied frames room => frames ≤ room
  | .rendered packet given => given = .frames packet
  | _ => True

/-- A packet is released with a block of `blockSize` frames from an attached audio buffer. -/
def BlockAnswers.Whole (st : Stream) (block : BlockAnswers α) : Prop :=
  match block.given with
  | .unattached => block.releaseBufferFails = true
  | .failed => True
  | .frames data => data.length ≤ st.blockSize.toNat ∧
      (block.releaseBufferFails = false → data.length = st.blockSize.toNat)

def Admits (st : Stream) (s : System α) : Input α → Prop
  | .advance _ block _ => (∃ blocks, s.renderer.phase = .writing (blocks + 1)) →
      block.getBufferFails = false → block.Whole st
  | _ => True

section Packets
variable {st : Stream} {silence : α}

theorem packet_length (memory : Nat → α) (data : List α) :
    (packet st memory data).length = st.blockSize.toNat := by
  simp [packet]

theorem packet_eq_iff (memory : Nat → α) (data : List α) :
    data = packet st memory data ↔ data.length = st.blockSize.toNat := by
  constructor
  · intro h
    rw [h, packet_length]
  · intro h
    apply List.ext_getElem
    · rw [packet_length, h]
    · intro i hi _
      simp [packet, List.getElem?_eq_getElem hi]

theorem exit_faithful (s : System α) (callFailed : Bool) (a : EndAnswers) :
    ∀ e ∈ (exit s callFailed a).2, e.Faithful := by
  unfold exit
  dsimp only
  split
  · simp
  · simp [Entry.Faithful]

theorem grab_faithful (s : System α) (meanwhile : Nat) :
    ∀ e ∈ (grab st s meanwhile).2, e.Faithful := by
  unfold grab
  split
  · simp [played, Entry.Faithful]
  · simp [Entry.Faithful]

theorem startUp_faithful (s : System α) (latency devPeriod : ℤ) (meanwhile : Nat) :
    ∀ e ∈ (startUp st silence s latency devPeriod meanwhile).2, e.Faithful := by
  unfold startUp
  rw [List.forall_mem_append, List.forall_mem_singleton]
  exact ⟨grab_faithful s meanwhile, trivial⟩

theorem startFails_faithful (s : System α) (failure : StartFailure) (latency devPeriod : ℤ)
    (meanwhile : Nat) (a : EndAnswers) :
    ∀ e ∈ (startFails st silence s failure latency devPeriod meanwhile a).2, e.Faithful := by
  cases failure with
  | roInitialize => simp [startFails]
  | size => exact exit_faithful s true a
  | buffer => exact List.forall_mem_append.mpr ⟨grab_faithful _ meanwhile, exit_faithful _ true a⟩
  | start =>
    exact List.forall_mem_append.mpr
      ⟨startUp_faithful s latency devPeriod meanwhile, exit_faithful _ true a⟩

theorem release_faithful_iff (s : System α) (block : BlockAnswers α) (a : EndAnswers) :
    (∀ e ∈ (release st s block a).2, e.Faithful) ↔
      (block.releaseBufferFails = false →
        block.given = .frames (packet st block.memory block.given.data)) := by
  unfold release
  cases block.releaseBufferFails with
  | true => simpa using exit_faithful s true a
  | false => simp [Entry.Faithful]

theorem writeBlock_faithful_iff (s : System α) (block : BlockAnswers α) (a : EndAnswers) :
    (∀ e ∈ (writeBlock st s block a).2, e.Faithful) ↔
      (block.getBufferFails = false → block.Whole st) := by
  have hexit (callFailed : Bool) :
      (∀ e ∈ (exit s callFailed a).2, e.Faithful) ↔ True :=
    iff_true_intro (exit_faithful s callFailed a)
  unfold writeBlock
  cases hgetBuffer : block.getBufferFails with
  | true =>
    rw [if_pos rfl, List.forall_mem_cons, hexit]
    simp [Entry.Faithful]
  | false =>
    have hrelease : (∀ e ∈ (release st s block a).2, e.Faithful) ↔ _ :=
      release_faithful_iff s block a
    unfold BlockAnswers.Whole
    cases hgiven : block.given with
    | unattached =>
      simp only [hgiven, reduceCtorEq, imp_false, Bool.not_eq_false] at hrelease
      simpa [copies, Entry.Faithful] using hrelease
    | failed =>
      rw [if_neg Bool.false_ne_true, List.forall_mem_cons, hexit]
      simp [Entry.Faithful]
    | frames data =>
      simp only [hgiven, Given.data, Given.frames.injEq, packet_eq_iff] at hrelease
      dsimp only [copies]
      rw [if_neg Bool.false_ne_true, List.forall_mem_cons, List.forall_mem_append,
        List.forall_mem_singleton, hrelease]
      simp [Entry.Faithful]

end Packets

section Endpoint
variable {st : Stream} {silence : α}

/-- The queue is what the endpoint buffer holds, and the log accounts for it. -/
structure Inv (st : Stream) (log : List (Entry α)) (s : System α) : Prop where
  accounts : Accounts st s.renderer
  length : s.queue.length = s.renderer.queued
  conserved : Conserved (endpoint log) s.queue
  fits : ∀ e ∈ log, e.Fits

theorem inv_create (sndCardDelay : UInt32) : Inv st ([] : List (Entry α)) (create sndCardDelay) :=
  ⟨accounts_create sndCardDelay, rfl, conserved_nil, by simp⟩

theorem endpoint_append (log more : List (Entry α)) :
    endpoint (log ++ more) = endpoint log ++ endpoint more := by
  simp [endpoint]

/-- Entries that do not concern the queue. -/
theorem Inv.entry {log : List (Entry α)} {s : System α} (h : Inv st log s) {e : Entry α}
    (hqueued : e.queued = none) (hfits : e.Fits) : Inv st (log ++ [e]) s := by
  refine ⟨h.accounts, h.length, ?_, ?_⟩
  · rw [endpoint_append]
    simpa [endpoint, hqueued] using h.conserved
  · simpa [or_imp, forall_and, hfits] using h.fits

theorem Inv.renderer {log : List (Entry α)} {s : System α} (h : Inv st log s) {r : Renderer}
    (haccounts : Accounts st r) (hqueued : r.queued = s.renderer.queued) :
    Inv st log ⟨r, s.queue⟩ :=
  ⟨haccounts, h.length.trans hqueued.symm, h.conserved, h.fits⟩

theorem Inv.runs {log : List (Entry α)} {s : System α} (h : Inv st log s) (started : Bool) :
    Inv st log (s.runs started) := by
  obtain ⟨hfits, hcounted, hroom⟩ := h.accounts
  refine h.renderer ⟨hfits, ?_, hroom⟩ rfl
  intro hphase
  obtain ⟨hbegun, hsamples⟩ := hcounted hphase
  exact ⟨hbegun, hsamples⟩

theorem accounts_idle {r : Renderer} (h : Accounts st r) (started : Bool) :
    Accounts st {r with started := started, phase := .idle} :=
  ⟨h.fits, fun hidle => absurd rfl hidle, by simp⟩

theorem Inv.exit {log : List (Entry α)} {s : System α} (h : Inv st log s) (callFailed : Bool)
    (a : EndAnswers) :
    Inv st (log ++ (RenderStream.exit s callFailed a).2) (RenderStream.exit s callFailed a).1 := by
  unfold RenderStream.exit
  dsimp only
  split
  · rw [List.append_nil]
    exact h.renderer (accounts_idle h.accounts _) rfl
  · refine ⟨⟨Nat.zero_le _, fun hidle => absurd rfl hidle, by simp⟩, rfl, ?_, ?_⟩
    · rw [endpoint_append]
      exact conserved_clear _
    · simpa [or_imp, forall_and, Entry.Fits] using h.fits

theorem Inv.played {log : List (Entry α)} {s : System α} (h : Inv st log s) (frames : Nat) :
    Inv st (log ++ (RenderStream.played s frames).2) (RenderStream.played s frames).1 := by
  refine ⟨accounts_played h.accounts frames, ?_, ?_, ?_⟩
  · simp [RenderStream.played, PlayoutDelay.played, h.length]
  · rw [endpoint_append]
    exact h.conserved.take frames
  · simpa [RenderStream.played, or_imp, forall_and, Entry.Fits] using h.fits

/-- What was available at `GetCurrentPadding` still is at `GetBuffer`, and what has been played
meanwhile has left the queue. -/
theorem Inv.grab {log : List (Entry α)} {s : System α} (h : Inv st log s) (meanwhile : Nat) :
    Inv st (log ++ (RenderStream.grab st s meanwhile).2) (RenderStream.grab st s meanwhile).1 ∧
      (RenderStream.grab st s meanwhile).1.renderer.queued ≤ s.renderer.queued ∧
      (RenderStream.grab st s meanwhile).1.renderer.queued +
          (RenderStream.grab st s meanwhile).1.renderer.position =
        s.renderer.queued + s.renderer.position := by
  unfold RenderStream.grab
  dsimp only
  rw [← List.append_assoc]
  cases s.renderer.started with
  | true =>
    rw [if_pos rfl]
    refine ⟨(h.played meanwhile).entry rfl ?_, Nat.sub_le _ _, ?_⟩
    · exact Nat.sub_le_sub_left (Nat.sub_le _ _) _
    · dsimp only [RenderStream.played, PlayoutDelay.played]
      omega
  | false =>
    rw [if_neg Bool.false_ne_true, List.append_nil]
    exact ⟨h.entry rfl (Nat.le_refl _), Nat.le_refl _, rfl⟩

theorem Inv.startUp {log : List (Entry α)} {s : System α} (h : Inv st log s)
    (latency devPeriod : ℤ) (meanwhile : Nat) :
    Inv st (log ++ (RenderStream.startUp st silence s latency devPeriod meanwhile).2)
      (RenderStream.startUp st silence s latency devPeriod meanwhile).1 := by
  obtain ⟨hgrab, hless, hsum⟩ := h.grab meanwhile
  have hfits := h.accounts.fits
  unfold RenderStream.startUp
  dsimp only
  generalize RenderStream.grab st s meanwhile = r at hgrab hless hsum
  rw [← List.append_assoc, List.length_replicate]
  refine ⟨⟨?_, ?_, ?_⟩, ?_, ?_, ?_⟩
  · dsimp only
    omega
  · intro _
    refine ⟨?_, ?_⟩
    · dsimp only [PlayoutDelay.startUp]
      omega
    · simp only [PlayoutDelay.startUp, UInt32.toNat_toUInt64]
      congr 1
      omega
  · intro blocks hphase
    cases hphase
  · rw [List.length_append, hgrab.length, List.length_replicate]
  · rw [endpoint_append]
    exact hgrab.conserved.put _
  · simpa [or_imp, forall_and, Entry.Fits] using hgrab.fits

theorem Inv.deriveDelay {log : List (Entry α)} {s : System α} (h : Inv st log s)
    (hphase : s.renderer.phase = .idle) (latency devPeriod : ℤ) :
    Inv st log (RenderStream.deriveDelay st s latency devPeriod) :=
  h.renderer ⟨h.accounts.fits, fun hidle => absurd hphase hidle, h.accounts.room⟩ rfl

theorem Inv.startFails {log : List (Entry α)} {s : System α} (h : Inv st log s)
    (hphase : s.renderer.phase = .idle) (failure : StartFailure) (latency devPeriod : ℤ)
    (meanwhile : Nat) (a : EndAnswers) :
    Inv st
      (log ++ (RenderStream.startFails st silence s failure latency devPeriod meanwhile a).2)
      (RenderStream.startFails st silence s failure latency devPeriod meanwhile a).1 := by
  cases failure with
  | roInitialize => simpa [RenderStream.startFails] using h
  | size => exact h.exit true a
  | buffer =>
    have hgrab := ((h.deriveDelay hphase latency devPeriod).grab meanwhile).1
    have hend := hgrab.exit true a
    rwa [List.append_assoc] at hend
  | start =>
    have hfilled :
        Inv st (log ++ (RenderStream.startUp st silence s latency devPeriod meanwhile).2)
          (RenderStream.startUp st silence s latency devPeriod meanwhile).1 :=
      h.startUp latency devPeriod meanwhile
    have hend := (hfilled.runs s.renderer.started).exit true a
    rwa [List.append_assoc] at hend

theorem copies_entries (st : Stream) (given : Given α) :
    ∀ e ∈ copies st given, e.queued = none ∧ e.Fits := by
  cases given with
  | frames data => simp [copies, Entry.queued, Entry.Fits]
  | unattached => simp [copies]
  | failed => simp [copies]

theorem Inv.entries {log more : List (Entry α)} {s : System α} (h : Inv st log s)
    (hmore : ∀ e ∈ more, e.queued = none ∧ e.Fits) : Inv st (log ++ more) s := by
  induction more generalizing log with
  | nil => simpa using h
  | cons e more ih =>
    obtain ⟨hqueued, hfits⟩ := hmore e List.mem_cons_self
    have hrest := ih (h.entry hqueued hfits) fun e' he' => hmore e' (List.mem_cons_of_mem _ he')
    simpa using hrest

/-- A block goes where the endpoint buffer has room for it. -/
theorem Inv.release {log : List (Entry α)} {s : System α} (h : Inv st log s)
    (block : BlockAnswers α) (a : EndAnswers) {blocks : Nat}
    (hphase : s.renderer.phase = .writing (blocks + 1)) :
    Inv st (log ++ (RenderStream.release st s block a).2)
      (RenderStream.release st s block a).1 := by
  unfold RenderStream.release
  cases block.releaseBufferFails with
  | true => exact h.exit true a
  | false =>
    have hadvance : (PlayoutDelay.advance st s.renderer).1.queued =
        s.renderer.queued + st.blockSize.toNat := by
      simp [PlayoutDelay.advance, hphase]
    refine ⟨accounts_advance h.accounts, ?_, ?_, ?_⟩
    · dsimp only
      rw [if_neg Bool.false_ne_true, hadvance, List.length_append, packet_length, h.length]
    · rw [endpoint_append]
      exact h.conserved.put _
    · simpa [or_imp, forall_and, Entry.Fits] using h.fits

theorem Inv.writeBlock {log : List (Entry α)} {s : System α} (h : Inv st log s)
    (block : BlockAnswers α) (a : EndAnswers) {blocks : Nat}
    (hphase : s.renderer.phase = .writing (blocks + 1)) :
    Inv st (log ++ (RenderStream.writeBlock st s block a).2)
      (RenderStream.writeBlock st s block a).1 := by
  have hroom := h.accounts.room (blocks + 1) hphase
  have hasked : Inv st (log ++ [.asked st.blockSize.toNat
      (st.bufferLength.toNat - s.renderer.queued)]) s := by
    refine h.entry rfl ?_
    rw [Nat.add_mul] at hroom
    simp only [Entry.Fits]
    omega
  unfold RenderStream.writeBlock
  split
  · simpa using hasked.exit true a
  · split
    · simpa using hasked.exit false a
    · have hcopied := (hasked.entries (copies_entries st block.given)).release block a hphase
      simpa using hcopied

theorem Inv.advance {log : List (Entry α)} {s : System α} (h : Inv st log s)
    (currentPaddingFails : Bool) (block : BlockAnswers α) (a : EndAnswers) :
    Inv st (log ++ (RenderStream.advance st s currentPaddingFails block a).2)
      (RenderStream.advance st s currentPaddingFails block a).1 := by
  have hsame (hwriting : ∀ blocks, s.renderer.phase ≠ .writing (blocks + 1)) :
      Inv st (log ++ []) ⟨(PlayoutDelay.advance st s.renderer).1, s.queue⟩ := by
    rw [List.append_nil]
    refine h.renderer (accounts_advance h.accounts) ?_
    unfold PlayoutDelay.advance
    split
    case h_3 =>
      dsimp only
      split <;> rfl
    case h_4 blocks hblocks => exact absurd hblocks (hwriting blocks)
    all_goals rfl
  unfold RenderStream.advance
  split
  · rename_i hphase
    split
    · exact h.exit true a
    · exact hsame (by simp [hphase])
  · rename_i blocks hphase
    exact h.writeBlock block a hphase
  · unfold terminate
    rw [List.append_nil]
    exact h.renderer (accounts_idle h.accounts _) rfl
  · rename_i hother _
    exact hsame hother

theorem step_inv (log : List (Entry α)) (s : System α) (i : Input α) (h : Inv st log s) :
    Inv st (log ++ (step st silence s i).2) (step st silence s i).1 := by
  have hnothing : Inv st (log ++ []) s := by simpa using h
  cases i with
  | startPlayout latency devPeriod meanwhile =>
    simp only [step]
    split
    · exact h.startUp latency devPeriod meanwhile
    · exact hnothing
  | startFails failure latency devPeriod meanwhile a =>
    simp only [step]
    split
    · rename_i hphase
      exact h.startFails hphase failure latency devPeriod meanwhile a
    · exact hnothing
  | waited w a =>
    simp only [step]
    split
    · rename_i hphase
      cases w with
      | timeout | failed => exact h.exit false a
      | shutdown | samplesReady =>
        simp only [waited, List.append_nil]
        exact h.renderer (accounts_waited h.accounts hphase _) rfl
    · exact hnothing
  | advance currentPaddingFails block a => exact h.advance currentPaddingFails block a
  | played frames =>
    simp only [step]
    split
    · exact h.played frames
    · exact hnothing

end Endpoint

section Faithful
variable {st : Stream} {silence : α}

theorem step_faithful_iff (s : System α) (i : Input α) :
    (∀ e ∈ (step st silence s i).2, e.Faithful) ↔ Admits st s i := by
  cases i with
  | advance currentPaddingFails block a =>
    simp only [step, advance, Admits]
    split
    · rename_i hphase
      simp only [hphase, reduceCtorEq, exists_false, false_implies, iff_true]
      split
      · exact exit_faithful s true a
      · simp
    · rename_i blocks hphase
      rw [writeBlock_faithful_iff]
      exact ⟨fun h _ => h, fun h => h ⟨blocks, hphase⟩⟩
    · rename_i hphase
      simp [hphase, terminate]
    · rename_i hother _
      have hnone : ¬ ∃ blocks, s.renderer.phase = .writing (blocks + 1) :=
        fun ⟨blocks, hblocks⟩ => hother blocks hblocks
      simp [hnone]
  | startPlayout latency devPeriod meanwhile =>
    simp only [step, Admits, iff_true]
    split
    · exact startUp_faithful s latency devPeriod meanwhile
    · simp
  | startFails failure latency devPeriod meanwhile a =>
    simp only [step, Admits, iff_true]
    split
    · exact startFails_faithful s failure latency devPeriod meanwhile a
    · simp
  | waited w a =>
    simp only [step, Admits, iff_true]
    split
    · cases w with
      | timeout | failed => exact exit_faithful s false a
      | shutdown | samplesReady => simp [waited]
    · simp
  | played frames =>
    simp only [step, Admits, iff_true]
    split
    · simp [played, Entry.Faithful]
    · simp

end Faithful

/-- Whatever the calls answer, also those at the end of a thread: no frames are asked for that the
endpoint buffer has no room for, and it never holds more than it can; since the last reset that
succeeded the device has played what was put there, from the first frame on. What was put there are
silence and the blocks of the audio buffer, as they were given, just when every packet is released
with a whole block from an attached audio buffer. -/
theorem rendered_stream (st : Stream) (silence : α) (sndCardDelay : UInt32)
    (inputs : List (Input α)) :
    (∀ e ∈ (run (step st silence) (create sndCardDelay) inputs).2, e.Fits) ∧
      (run (step st silence) (create sndCardDelay) inputs).1.queue.length ≤
        st.bufferLength.toNat ∧
      putIn (endpoint (run (step st silence) (create sndCardDelay) inputs).2) =
        takenOut (endpoint (run (step st silence) (create sndCardDelay) inputs).2) ++
          (run (step st silence) (create sndCardDelay) inputs).1.queue ∧
      ((∀ e ∈ (run (step st silence) (create sndCardDelay) inputs).2, e.Faithful) ↔
        Along (step st silence) (fun _ => Admits st) [] (create sndCardDelay) inputs) := by
  have hinv : Inv st (run (step st silence) (create sndCardDelay) inputs).2
      (run (step st silence) (create sndCardDelay) inputs).1 := by
    refine run_invariant (step st silence) (Inv st) ?_ (inv_create sndCardDelay)
      (along_true _ [] _ inputs)
    intro log s i h _
    exact step_inv log s i h
  refine ⟨hinv.fits, hinv.length.trans_le hinv.accounts.fits, hinv.conserved, ?_⟩
  apply forall_log_iff_along (step st silence) (fun _ _ => True)
  · intro _ s i _
    exact step_faithful_iff s i
  · intro _ _ _ _ _
    trivial
  · trivial

end WeiRtcNative.Audio.RenderStream
