import WeiRtcNative.Lib.Precision
import WeiRtcNative.Audio.FormatNegotiation

/-!
# The playout delay

The render thread keeps the endpoint buffer filled, and after each round of blocks it stores in
`_sndCardDelay` how much of what it wrote the device has still to play. What it wrote it counts
in `_samples`, which begins anew with every thread; what was played it reads from the clock of
the device, which begins anew only at `Reset`.
-/

namespace WeiRtcNative.Audio.PlayoutDelay

open Machine Precision
set_option autoImplicit false

/-- What `InitTransport` settles for all threads of a device. -/
structure Stream where
  bufferLength : UInt32
  blockSize : UInt32
  deviceSampleRate : UInt32
  blockSize_pos : 0 < blockSize
  rate_pos : 0 < deviceSampleRate

inductive Phase where
  | idle
  /-- In `WaitForMultipleObjects`. -/
  | waiting
  /-- At the head of the inner loop. -/
  | checking
  /-- So many blocks are still to be written; after the last one the clock is read. -/
  | writing (blocks : Nat)
  /-- In `SleepMs`, with the stream still running. -/
  | draining
  deriving DecidableEq, Repr

inductive WaitResult where
  | shutdown
  | samplesReady
  | timeout
  | failed
  deriving DecidableEq, Repr

/-- `queued` and `position` are the device's: the frames in the endpoint buffer, and those played
since the last `Reset`. `sessionStart` is the position at which the thread found the device. -/
structure Renderer where
  queued : Nat
  position : Nat
  started : Bool
  phase : Phase
  samples : UInt64
  sndCardDelay : UInt32
  sessionStart : Nat
  deriving DecidableEq, Repr

/-- `_sndCardDelay` has no initialiser. -/
def create (sndCardDelay : UInt32) : Renderer where
  queued := 0
  position := 0
  started := false
  phase := .idle
  samples := 0
  sndCardDelay := sndCardDelay
  sessionStart := 0

/-- A value stored in the thread loop, before and after its conversion to `uint32_t`, and the
frames in the endpoint buffer at that moment. -/
structure Stored where
  playoutDelay : ℤ
  sndCardDelay : UInt32
  queued : Nat
  deriving DecidableEq

section Calls
variable (st : Stream)

/-- `Transport` up to its loop. The stream does not run yet, so nothing is played meanwhile. -/
def startUp (r : Renderer) (latency devPeriod : ℤ) : Renderer :=
  let framesAvailable := st.bufferLength.toNat - r.queued
  {r with
    queued := r.queued + framesAvailable
    started := true
    phase := .waiting
    samples := st.bufferLength.toUInt64
    sndCardDelay := 10 * (st.bufferLength / st.blockSize) +
      UInt32.ofInt ((latency + devPeriod).tdiv 10000)
    sessionStart := r.position}

/-- The frequency of the clock is the sample rate. -/
def playoutDelay (r : Renderer) : ℤ :=
  roundHalfAway (((r.samples.toNat : ℚ) / st.deviceSampleRate.toNat -
    ((UInt64.ofNat r.position).toNat : ℚ) / st.deviceSampleRate.toNat) * 1000)

def advance (r : Renderer) : Renderer × List Stored :=
  match r.phase with
  | .idle => (r, [])
  | .waiting => (r, [])
  | .checking =>
    let framesAvailable := st.bufferLength.toNat - r.queued
    if framesAvailable < st.blockSize.toNat then ({r with phase := .waiting}, [])
    else ({r with phase := .writing (framesAvailable / st.blockSize.toNat)}, [])
  | .writing (blocks + 1) =>
    ({r with
      queued := r.queued + st.blockSize.toNat
      samples := r.samples + st.blockSize.toUInt64
      phase := .writing blocks}, [])
  | .writing 0 =>
    let delay := playoutDelay st r
    ({r with sndCardDelay := UInt32.ofInt delay, phase := .checking},
      [⟨delay, UInt32.ofInt delay, r.queued⟩])
  | .draining => ({r with started := false, phase := .idle}, [])

/-- A thread that ends before it is told to stops the stream and resets it. -/
def waited (r : Renderer) : WaitResult → Renderer
  | .shutdown => {r with phase := .draining}
  | .samplesReady => {r with phase := .checking}
  | .timeout => {r with queued := 0, position := 0, started := false, phase := .idle}
  | .failed => {r with queued := 0, position := 0, started := false, phase := .idle}

def played (r : Renderer) (frames : Nat) : Renderer :=
  {r with queued := r.queued - frames, position := r.position + min frames r.queued}

/-- `startPlayout` is a `StartTransport` that creates a thread; `shutdown` follows from a
`StopTransport`. Between any two of these the device may play what is queued. -/
inductive Input where
  | startPlayout (latency devPeriod : ℤ)
  | waited (w : WaitResult)
  | advance
  | played (frames : Nat)
  deriving DecidableEq, Repr

def step (r : Renderer) : Input → Renderer × List Stored
  | .startPlayout latency devPeriod =>
    (if r.phase = .idle then startUp st r latency devPeriod else r, [])
  | .waited w => (if r.phase = .waiting then PlayoutDelay.waited r w else r, [])
  | .advance => PlayoutDelay.advance st r
  | .played frames => (if r.started then PlayoutDelay.played r frames else r, [])

end Calls

def delayOf (st : Stream) (frames : Nat) : ℤ :=
  roundHalfAway ((frames : ℚ) * 1000 / st.deviceSampleRate.toNat)

/-- The value is the delay of the frames in the endpoint buffer. -/
structure Stored.Exact (st : Stream) (e : Stored) : Prop where
  delay : e.playoutDelay = delayOf st e.queued
  nonneg : 0 ≤ e.playoutDelay
  stored : (e.sndCardDelay.toNat : ℤ) = e.playoutDelay

/-- The delay of so many frames is at most `INT_MAX`. -/
def FitsInt (st : Stream) (frames : Nat) : Prop :=
  frames * 1000 ≤ 2147483647 * st.deviceSampleRate.toNat

instance (st : Stream) (frames : Nat) : Decidable (FitsInt st frames) :=
  inferInstanceAs (Decidable (_ ≤ _))

/-- A value is stored by a thread that found the clock at 0, and neither the 64 bits of the
counters nor the range of the delay are exceeded. -/
def Fresh (st : Stream) (r : Renderer) : Input → Prop
  | .advance => r.phase = .writing 0 →
      r.sessionStart = 0 ∧ r.position + r.queued < 2 ^ 64 ∧ FitsInt st r.queued
  | _ => True

instance (st : Stream) (r : Renderer) (i : Input) : Decidable (Fresh st r i) :=
  match i with
  | .advance => inferInstanceAs (Decidable (_ → _))
  | .startPlayout _ _ => .isTrue trivial
  | .waited _ => .isTrue trivial
  | .played _ => .isTrue trivial

/-- A thread that stores a value found less than a millisecond played since the last `Reset`. -/
def Early (st : Stream) (r : Renderer) : Input → Prop
  | .advance => r.phase = .writing 0 → r.position + r.queued < 2 ^ 64 →
      r.sessionStart * 1000 < st.deviceSampleRate.toNat
  | _ => True

section Initialised
variable {Device : Type}

open FormatNegotiation

/-- An `InitTransport` that finds a format leaves such a stream. Whatever buffer the device has, no
frequency is so low that the delay of what is in it leaves the range of `int`. -/
theorem exists_stream (n : Negotiator Device) {supported : WaveFormat → Bool}
    (h : ∃ wfx ∈ candidates .render n.channelsPrioList, supported wfx = true)
    (bufferLength : UInt32) :
    ∃ st : Stream, st.bufferLength = bufferLength ∧
      st.blockSize = (openedWith .render n supported).parameters.blockSize ∧
      st.deviceSampleRate = (openedWith .render n supported).parameters.deviceSampleRate ∧
      ∀ frames ≤ bufferLength.toNat, FitsInt st frames := by
  have hrates : ∀ freq ∈ freqs, 8000 ≤ freq := by simp [freqs]
  obtain ⟨wfx, hwfx⟩ := exists_find_candidates .render n h
  have hfreq := mem_candidates_freq (List.mem_of_find?_eq_some hwfx)
  rw [openedWith_eq .render n hwfx]
  have hrate : 8000 ≤ wfx.nSamplesPerSec.toNat := UInt32.le_iff_toNat_le.mp (hrates _ hfreq)
  have hpos : 0 < wfx.nSamplesPerSec := UInt32.lt_of_lt_of_le (by decide) (hrates _ hfreq)
  refine ⟨⟨bufferLength, _, _, blockSize_pos_of_mem_freqs _ hfreq, hpos⟩, rfl, rfl, rfl, ?_⟩
  intro frames hframes
  have hlength := bufferLength.toNat_lt
  unfold FitsInt
  dsimp only
  omega

end Initialised

section Accounts
variable {st : Stream}

/-- What the thread wrote is what was played since it began and what is queued. -/
structure Counted (r : Renderer) : Prop where
  begun : r.sessionStart ≤ r.position
  samples : (r.samples.toNat + r.sessionStart) % 2 ^ 64 = (r.queued + r.position) % 2 ^ 64

structure Accounts (st : Stream) (r : Renderer) : Prop where
  fits : r.queued ≤ st.bufferLength.toNat
  counted : r.phase ≠ .idle → Counted r
  room : ∀ blocks, r.phase = .writing blocks →
    r.queued + blocks * st.blockSize.toNat ≤ st.bufferLength.toNat

theorem accounts_create (sndCardDelay : UInt32) : Accounts st (create sndCardDelay) where
  fits := Nat.zero_le _
  counted := fun h => absurd rfl h
  room := by
    intro blocks h
    cases h

theorem accounts_startUp {r : Renderer} (h : Accounts st r) (latency devPeriod : ℤ) :
    Accounts st (startUp st r latency devPeriod) := by
  have hfull : r.queued + (st.bufferLength.toNat - r.queued) = st.bufferLength.toNat :=
    Nat.add_sub_cancel' h.fits
  refine ⟨Nat.le_of_eq hfull, ?_, ?_⟩
  · intro _
    refine ⟨Nat.le_refl _, ?_⟩
    simp only [startUp, UInt32.toNat_toUInt64]
    rw [hfull]
  · intro blocks hphase
    cases hphase

/-- The blocks of one round fit in what `GetCurrentPadding` left available, since the device only
plays meanwhile. -/
theorem accounts_advance {r : Renderer} (h : Accounts st r) : Accounts st (advance st r).1 := by
  unfold advance
  split
  · exact h
  · exact h
  case h_3 hphase =>
    have hcounted := h.counted (by simp [hphase])
    dsimp only
    split
    · exact ⟨h.fits, fun _ => ⟨hcounted.begun, hcounted.samples⟩, by simp⟩
    · refine ⟨h.fits, fun _ => ⟨hcounted.begun, hcounted.samples⟩, ?_⟩
      intro blocks hblocks
      obtain rfl := Phase.writing.inj hblocks
      have hfits := h.fits
      have hwhole := Nat.div_mul_le_self (st.bufferLength.toNat - r.queued) st.blockSize.toNat
      dsimp only
      omega
  case h_4 blocks hphase =>
    obtain ⟨hbegun, hsamples⟩ := h.counted (by simp [hphase])
    have hroom := h.room (blocks + 1) hphase
    rw [Nat.add_mul] at hroom
    refine ⟨?_, ?_, ?_⟩
    · dsimp only
      omega
    · intro _
      refine ⟨hbegun, ?_⟩
      simp only [UInt64.toNat_add, UInt32.toNat_toUInt64]
      omega
    · intro blocks' hblocks
      obtain rfl := Phase.writing.inj hblocks
      dsimp only
      omega
  case h_5 hphase =>
    have hcounted := h.counted (by simp [hphase])
    exact ⟨h.fits, fun _ => ⟨hcounted.begun, hcounted.samples⟩, by simp⟩
  case h_6 => exact ⟨h.fits, fun hidle => absurd rfl hidle, by simp⟩

theorem accounts_waited {r : Renderer} (h : Accounts st r) (hphase : r.phase = .waiting)
    (w : WaitResult) : Accounts st (waited r w) := by
  have hcounted := h.counted (by simp [hphase])
  have hreset : Accounts st {r with queued := 0, position := 0, started := false, phase := .idle} :=
    ⟨Nat.zero_le _, fun hidle => absurd rfl hidle, by simp⟩
  cases w with
  | shutdown => exact ⟨h.fits, fun _ => ⟨hcounted.begun, hcounted.samples⟩, by simp [waited]⟩
  | samplesReady => exact ⟨h.fits, fun _ => ⟨hcounted.begun, hcounted.samples⟩, by simp [waited]⟩
  | timeout => exact hreset
  | failed => exact hreset

theorem accounts_played {r : Renderer} (h : Accounts st r) (frames : Nat) :
    Accounts st (played r frames) := by
  have hmoved : r.queued - frames + (r.position + min frames r.queued) = r.queued + r.position := by
    omega
  refine ⟨Nat.le_trans (Nat.sub_le _ _) h.fits, ?_, ?_⟩
  · intro hphase
    obtain ⟨hbegun, hsamples⟩ := h.counted hphase
    refine ⟨Nat.le_trans hbegun (Nat.le_add_right _ _), ?_⟩
    dsimp only [played]
    rw [hmoved]
    exact hsamples
  · intro blocks hblocks
    have hroom := h.room blocks hblocks
    dsimp only [played]
    omega

theorem accounts_step {r : Renderer} (h : Accounts st r) (i : Input) :
    Accounts st (step st r i).1 := by
  unfold step
  split
  · dsimp only
    split
    · exact accounts_startUp h _ _
    · exact h
  · dsimp only
    split
    · rename_i hphase
      exact accounts_waited h hphase _
    · exact h
  · exact accounts_advance h
  · dsimp only
    split
    · exact accounts_played h _
    · exact h

end Accounts

section Delay
variable {st : Stream}

theorem rate_cast_pos (st : Stream) : (0 : ℚ) < st.deviceSampleRate.toNat := by
  exact_mod_cast UInt32.lt_iff_toNat_lt.mp st.rate_pos

theorem delayOf_nonneg (frames : Nat) : 0 ≤ delayOf st frames := by
  have hrate := rate_cast_pos st
  apply roundHalfAway_nonneg
  positivity

theorem delayOf_lt {frames : Nat} (h : FitsInt st frames) : delayOf st frames < 2 ^ 31 := by
  have hdelay : (frames : ℚ) * 1000 / st.deviceSampleRate.toNat ≤ ((2147483647 : ℤ) : ℚ) := by
    rw [div_le_iff₀ (rate_cast_pos st)]
    unfold FitsInt at h
    exact_mod_cast h
  exact Int.lt_of_le_of_lt (roundHalfAway_le hdelay) (by norm_num)

theorem toNat_ofInt {n : ℤ} (h0 : 0 ≤ n) (h : n < 2 ^ 31) : ((UInt32.ofInt n).toNat : ℤ) = n := by
  unfold UInt32.ofInt
  rw [UInt32.toNat_ofNat']
  omega

/-- The value falls short by what was played before the thread began. -/
theorem playoutDelay_eq {r : Renderer} (h : Accounts st r) (hphase : r.phase = .writing 0)
    (hcounted : r.position + r.queued < 2 ^ 64) :
    playoutDelay st r = roundHalfAway ((r.queued : ℚ) * 1000 / st.deviceSampleRate.toNat -
      (r.sessionStart : ℚ) * 1000 / st.deviceSampleRate.toNat) := by
  obtain ⟨hbegun, hcount⟩ := h.counted (by simp [hphase])
  have hsamples : r.samples.toNat + r.sessionStart = r.queued + r.position := by
    have hlt := r.samples.toNat_lt
    omega
  have hsamples' : (r.samples.toNat : ℚ) = r.queued + r.position - r.sessionStart := by
    rw [eq_sub_iff_add_eq]
    exact_mod_cast hsamples
  have hclock : (UInt64.ofNat r.position).toNat = r.position := by
    rw [UInt64.toNat_ofNat']
    omega
  unfold playoutDelay
  rw [hsamples', hclock]
  congr 1
  ring

theorem advance_log (r : Renderer) :
    (advance st r).2 = if r.phase = .writing 0 then
      [⟨playoutDelay st r, UInt32.ofInt (playoutDelay st r), r.queued⟩] else [] := by
  unfold advance
  split
  case h_3 hphase =>
    rw [hphase]
    dsimp only
    split <;> rfl
  all_goals
    rename_i hphase
    rw [hphase]
    rfl

theorem step_exact {r : Renderer} (h : Accounts st r) {i : Input} (hfresh : Fresh st r i) :
    ∀ e ∈ (step st r i).2, e.Exact st := by
  intro e he
  cases i with
  | advance =>
    have hlog : e ∈ (advance st r).2 := he
    rw [advance_log] at hlog
    split at hlog
    · rename_i hphase
      obtain ⟨hstart, hcounted, hint⟩ := hfresh hphase
      have hdelay : playoutDelay st r = delayOf st r.queued := by
        rw [playoutDelay_eq h hphase hcounted, hstart, delayOf]
        simp
      have hnonneg : 0 ≤ delayOf st r.queued := delayOf_nonneg _
      rw [List.mem_singleton.mp hlog, hdelay]
      exact ⟨rfl, hnonneg, toNat_ofInt hnonneg (delayOf_lt hint)⟩
    · cases hlog
  | _ => cases he

theorem step_early {r : Renderer} (h : Accounts st r) {i : Input}
    (hexact : ∀ e ∈ (step st r i).2, e.Exact st) : Early st r i := by
  cases i with
  | advance =>
    intro hphase hcounted
    by_contra hlate
    have hlog : (advance st r).2 = 
        [⟨playoutDelay st r, UInt32.ofInt (playoutDelay st r), r.queued⟩] := by
      rw [advance_log, if_pos hphase]
    have hdelay : playoutDelay st r = delayOf st r.queued :=
      (hexact _ (hlog ▸ List.mem_singleton_self _)).delay
    have hplayed : 1 ≤ (r.sessionStart : ℚ) * 1000 / st.deviceSampleRate.toNat := by
      rw [one_le_div (rate_cast_pos st)]
      exact_mod_cast Nat.le_of_not_lt hlate
    have hshort := roundHalfAway_sub_lt (q := (r.queued : ℚ) * 1000 / st.deviceSampleRate.toNat)
      hplayed
    rw [← playoutDelay_eq h hphase hcounted, hdelay] at hshort
    exact lt_irrefl _ hshort
  | _ => trivial

/-- In every run in which each value is stored by a thread that found the clock at 0, every value
is the delay of what is queued. -/
theorem stored_delays_exact (st : Stream) (sndCardDelay : UInt32) (inputs : List Input)
    (h : Along (step st) (fun _ r i => Fresh st r i) [] (create sndCardDelay) inputs) :
    ∀ e ∈ (run (step st) (create sndCardDelay) inputs).2, e.Exact st := by
  have hinv := run_invariant (step st)
    (fun log r => Accounts st r ∧ ∀ e ∈ log, Stored.Exact st e) ?_
    ⟨accounts_create sndCardDelay, by simp⟩ h
  · exact hinv.2
  · rintro log r i ⟨haccounts, hlog⟩ hfresh
    refine ⟨accounts_step haccounts i, ?_⟩
    rw [List.forall_mem_append]
    exact ⟨hlog, step_exact haccounts hfresh⟩

/-- The condition cannot be weakened by more than the rounding. -/
theorem early_of_exact (st : Stream) (sndCardDelay : UInt32) (inputs : List Input)
    (h : ∀ e ∈ (run (step st) (create sndCardDelay) inputs).2, e.Exact st) :
    Along (step st) (fun _ r i => Early st r i) [] (create sndCardDelay) inputs := by
  have hsteps : Along (step st) (fun _ r i => ∀ e ∈ (step st r i).2, e.Exact st) []
      (create sndCardDelay) inputs := by
    refine (forall_log_iff_along (step st) (fun _ _ => True) ?_ ?_ trivial).mp h
    · intros
      rfl
    · intros
      trivial
  refine along_imp (step st) (Accounts st) ?_ ?_ (accounts_create sndCardDelay) hsteps
  · intro r i hr
    exact accounts_step hr i
  · intro _ r i hr hexact
    exact step_early hr hexact

end Delay

def smallBuffer : Stream := ⟨960, 480, 48000, by decide, by decide⟩

/-- The device plays 10 ms, and the thread writes one block and stores the delay. -/
def oneRound : List Input :=
  [.played 480, .waited .samplesReady, .advance, .advance, .advance, .advance]

/-- The queue is played before `Stop`. -/
def orderlyStop : List Input := [.waited .shutdown, .played 960, .advance]

def twoSessions (stop : List Input) : List Input :=
  .startPlayout 0 100000 :: oneRound ++ stop ++ .startPlayout 0 100000 :: oneRound

theorem second_session_negative :
    (run (step smallBuffer) (create 0) (twoSessions orderlyStop)).2 =
        [⟨20, 20, 960⟩, ⟨-10, 4294967286, 960⟩] ∧
      ¬ ∀ e ∈ (run (step smallBuffer) (create 0) (twoSessions orderlyStop)).2,
        e.Exact smallBuffer := by
  have hlog : (run (step smallBuffer) (create 0) (twoSessions orderlyStop)).2 =
      [⟨20, 20, 960⟩, ⟨-10, 4294967286, 960⟩] := by
    decide +kernel
  refine ⟨hlog, ?_⟩
  rw [hlog]
  intro h
  have hsecond := (h ⟨-10, 4294967286, 960⟩ (by simp)).nonneg
  exact absurd hsecond (by decide)

theorem reset_sessions_exact :
    (run (step smallBuffer) (create 0) (twoSessions [.waited .timeout])).2.length = 2 ∧
      ∀ e ∈ (run (step smallBuffer) (create 0) (twoSessions [.waited .timeout])).2,
        e.Exact smallBuffer := by
  refine ⟨by decide +kernel, ?_⟩
  apply stored_delays_exact
  decide +kernel

end WeiRtcNative.Audio.PlayoutDelay
