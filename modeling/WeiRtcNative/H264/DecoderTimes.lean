import WeiRtcNative.Lib.WrappingClock
import WeiRtcNative.H264.KeyFrameGate

/-!
# Sample times of the decoder

The time of a sample counts from the first image that was enqueued, whose timestamp is kept
in `first_frame_rtp_` with zero for "none yet". Neither `Release` nor `InitDecode` resets it,
and the distance to it is taken in 64 bits although the clock wraps at 32.
-/

namespace WeiRtcNative.H264.DecoderTimes

open Machine Decoder WrappingClock Precision
set_option autoImplicit false

/-- `d / 90` in milliseconds, rounded half up. -/
def roundedMs (d : ℕ) : ℤ := ⌊(d : ℚ) / 90 + 1 / 2⌋

section Rounding

theorem roundedMs_mono {d d' : ℕ} (h : d ≤ d') : roundedMs d ≤ roundedMs d' := by
  unfold roundedMs
  gcongr

theorem roundedMs_eq {d n r : ℕ} (hr : r < 90) (hsum : d + 45 = 90 * n + r) :
    (d : ℚ) / 90 + 1 / 2 = n + r / 90 ∧ roundedMs d = n := by
  have hsum' : (d : ℚ) + 45 = 90 * n + r := by exact_mod_cast hsum
  have hq : (d : ℚ) / 90 + 1 / 2 = n + r / 90 := by linarith
  refine ⟨hq, ?_⟩
  have hle : (r : ℚ) ≤ 89 := by exact_mod_cast Nat.le_of_lt_succ hr
  have hnonneg : (0 : ℚ) ≤ r := by positivity
  rw [roundedMs, hq, Int.floor_eq_iff]
  push_cast
  constructor <;> linarith

/-- Half a millisecond is held by the format, so nothing is rounded away. -/
theorem truncate_ms_half {d n : ℕ} (hd : d < 4294967296) (hsum : d + 45 = 90 * n) :
    truncate (toBits 53 (toBits 53 ((d : ℚ) / 90) + 1 / 2)) = n := by
  have hsum' : (d : ℚ) + 45 = 90 * n := by exact_mod_cast hsum
  have hhalf : (d : ℚ) / 90 = n - 1 / 2 := by linarith
  have hexact : toBits 53 ((d : ℚ) / 90) = d / 90 := by
    apply toBits_eq_self (k := 1) (n := 2 * n - 1)
    · rw [hhalf]
      push_cast
      ring
    · rw [abs_lt]
      constructor <;> omega
  have hwhole : toBits 53 (n : ℚ) = n := by
    apply toBits_eq_self (k := 0) (n := n)
    · simp
    · rw [abs_lt]
      constructor <;> omega
  rw [hexact, hhalf, sub_add_cancel, hwhole, truncate, if_pos (by positivity)]
  exact Int.floor_natCast n

/-- Away from the halves both roundings together are too small to reach the next number. -/
theorem truncate_ms_between {d n r : ℕ} (hd : d < 4294967296) (hpos : 0 < r) (hr : r < 90)
    (hsum : d + 45 = 90 * n + r) :
    truncate (toBits 53 (toBits 53 ((d : ℚ) / 90) + 1 / 2)) = n := by
  have hq := (roundedMs_eq hr hsum).1
  have hrge : (1 : ℚ) ≤ r := by exact_mod_cast hpos
  have hrle : (r : ℚ) ≤ 89 := by exact_mod_cast Nat.le_of_lt_succ hr
  have hdle : (d : ℚ) ≤ 4294967296 := by exact_mod_cast hd.le
  have hdnonneg : (0 : ℚ) ≤ d := by positivity
  have hfirst := abs_toBits_sub_le 53 ((d : ℚ) / 90)
  rw [abs_of_nonneg (by positivity : (0 : ℚ) ≤ (d : ℚ) / 90), abs_le] at hfirst
  generalize toBits 53 ((d : ℚ) / 90) = x at hfirst ⊢
  norm_num at hfirst
  have hx : 0 ≤ x + 1 / 2 := by linarith
  have hsecond := abs_toBits_sub_le 53 (x + 1 / 2)
  rw [abs_of_nonneg hx, abs_le] at hsecond
  generalize toBits 53 (x + 1 / 2) = y at hsecond ⊢
  norm_num at hsecond
  have hlow : (n : ℚ) ≤ y := by linarith
  have hhigh : y < n + 1 := by linarith
  have hnonneg : (0 : ℚ) ≤ n := by positivity
  rw [truncate, if_pos (hnonneg.trans hlow), Int.floor_eq_iff]
  exact ⟨by exact_mod_cast hlow, by exact_mod_cast hhigh⟩

/-- Doubles are precise enough for the distances of a 32-bit clock. -/
theorem truncate_ms {d : ℕ} (hd : d < 4294967296) :
    truncate (toBits 53 (toBits 53 (toBits 53 d / 90) + 1 / 2)) = roundedMs d := by
  have hticks : toBits 53 (d : ℚ) = d := by
    apply toBits_eq_self (k := 0) (n := d)
    · simp
    · rw [abs_lt]
      constructor <;> omega
  obtain ⟨n, r, hr, hsum⟩ : ∃ n r, r < 90 ∧ d + 45 = 90 * n + r :=
    ⟨(d + 45) / 90, (d + 45) % 90, Nat.mod_lt _ (by norm_num), by omega⟩
  rw [hticks, (roundedMs_eq hr hsum).2]
  rcases Nat.eq_zero_or_pos r with rfl | hpos
  · exact truncate_ms_half hd hsum
  · exact truncate_ms_between hd hpos hr hsum

theorem sampleTimeMs_eq {first ts : UInt32} {d : ℕ} (hts : ts.toNat = first.toNat + d) :
    sampleTimeMs first ts = roundedMs d := by
  have hlt := ts.toNat_lt
  have hticks : (ts.toUInt64 - first.toUInt64).toNat = d := by
    rw [UInt64.toNat_sub, UInt32.toNat_toUInt64, UInt32.toNat_toUInt64]
    omega
  rw [sampleTimeMs, hticks]
  exact truncate_ms (by omega)

theorem roundedMs_bmod {d : ℕ} (hd : d < 4294967296) :
    (roundedMs d * 10000).bmod (2 ^ 64) = roundedMs d * 10000 := by
  have hnonneg : 0 ≤ roundedMs d := Int.floor_nonneg.mpr (by positivity)
  have hlt : roundedMs d < 4294967296 := by
    have hdlt : (d : ℚ) < 4294967296 := by exact_mod_cast hd
    rw [roundedMs, Int.floor_lt]
    push_cast
    linarith
  rw [Int.bmod_eq_of_le]
  · norm_num
    omega
  · norm_num
    omega

end Rounding

section Sessions

/-- The images given to the current transform so far, with the times of their samples. -/
def noteImage (images : List (UInt32 × Int)) : Event → List (UInt32 × Int)
  | .created _ => []
  | .processInput _ image sample _ => images ++ [(image.timestamp, sample.timeHns)]
  | _ => images

def session (log : List Event) : List (UInt32 × Int) := log.foldl noteImage []

def timestamps (log : List Event) : List UInt32 := (session log).map Prod.fst

/-- A sample has the time of the unwrapped clock since the first image after `InitDecode`; the
first one is at zero, and none is before the one enqueued last. -/
def OnClock (pre : List Event) : Event → Prop
  | .processInput _ image sample _ =>
    sample.timeHns = roundedMs (elapsed (timestamps pre ++ [image.timestamp])) * 10000 ∧
      (session pre = [] → sample.timeHns = 0) ∧
      ∀ last ∈ (session pre).getLast?, last.2 ≤ sample.timeHns
  | _ => True

/-- Events that do not concern the times. -/
def Quiet : Event → Prop
  | .created _ | .processInput _ _ _ _ => False
  | _ => True

theorem session_append_quiet {log events : List Event} (h : ∀ e ∈ events, Quiet e) :
    session (log ++ events) = session log := by
  unfold session
  rw [List.foldl_append]
  generalize List.foldl noteImage [] log = images
  induction events with
  | nil => rfl
  | cons e events ih =>
    have hnote : noteImage images e = images := by
      have he := h e List.mem_cons_self
      cases e <;> first | rfl | exact he.elim
    rw [List.foldl_cons, hnote]
    exact ih fun e he => h e (List.mem_cons_of_mem _ he)

theorem justified_quiet {events : List Event} (log : List Event)
    (h : ∀ e ∈ events, Quiet e) : Justified (fun pre => OnClock (log ++ pre)) events := by
  induction events generalizing log with
  | nil => exact justified_nil
  | cons e events ih =>
    rw [justified_cons]
    have he := h e List.mem_cons_self
    refine ⟨?_, ?_⟩
    · cases e <;> trivial
    · simpa using ih (log ++ [e]) fun e he => h e (List.mem_cons_of_mem _ he)

/-- The times so far, with what the next one is computed from. -/
structure Timed (log : List Event) (s : State) : Prop where
  justified : Justified OnClock log
  first : ∀ first ∈ (session log).head?, s.firstFrameRtp = first.1
  last : ∀ last ∈ (session log).getLast?, last.2 = roundedMs (elapsed (timestamps log)) * 10000

theorem Timed.congr {log : List Event} {s t : State} (h : Timed log s)
    (ht : t.firstFrameRtp = s.firstFrameRtp) : Timed log t := by
  refine ⟨h.justified, ?_, h.last⟩
  rw [ht]
  exact h.first

theorem Timed.quiet {log events : List Event} {s t : State} (h : Timed log s)
    (hevents : ∀ e ∈ events, Quiet e) (ht : t.firstFrameRtp = s.firstFrameRtp) :
    Timed (log ++ events) t := by
  have hsession : session (log ++ events) = session log := session_append_quiet hevents
  refine ⟨justified_append.mpr ⟨h.justified, justified_quiet log hevents⟩, ?_, ?_⟩
  · rw [hsession, ht]
    exact h.first
  · rw [timestamps, hsession]
    exact h.last

/-- What an image has to be so that its time is right: the first one of a session meets no
other value in `first_frame_rtp_` than zero or its own; for a later one the first was not
zero, or it is zero itself, and the clock has not wrapped since. -/
def Admits (images : List UInt32) (firstFrameRtp timestamp : UInt32) : Prop :=
  match images with
  | [] => firstFrameRtp = 0 ∨ firstFrameRtp = timestamp
  | first :: rest =>
    (first = 0 → timestamp = 0) ∧
      first.toNat + elapsed (first :: rest ++ [timestamp]) < 4294967296

instance (images : List UInt32) (firstFrameRtp timestamp : UInt32) :
    Decidable (Admits images firstFrameRtp timestamp) :=
  match images with
  | [] => inferInstanceAs (Decidable (_ ∨ _))
  | _ :: _ => inferInstanceAs (Decidable (_ ∧ _))

theorem roundedMs_zero : roundedMs 0 = 0 := by
  exact (roundedMs_eq (n := 0) (r := 45) (by omega) rfl).2

theorem sampleTimeMs_self (t : UInt32) : sampleTimeMs t t = 0 := by
  rw [sampleTimeMs_eq (d := 0) rfl, roundedMs_zero]

theorem admitted_ms {images : List UInt32} {f t : UInt32} (hfirst : ∀ a ∈ images.head?, f = a)
    (h : Admits images f t) :
    elapsed (images ++ [t]) < 4294967296 ∧
      (if f = 0 then 0 else sampleTimeMs f t) = roundedMs (elapsed (images ++ [t])) := by
  cases images with
  | nil =>
    refine ⟨by simp, ?_⟩
    rw [List.nil_append, elapsed_singleton, roundedMs_zero]
    rcases h with rfl | rfl
    · rfl
    · rw [sampleTimeMs_self, ite_self]
  | cons a images =>
    obtain rfl : f = a := hfirst a rfl
    obtain ⟨hzero, hwrap⟩ := h
    have hmod : (f.toNat + elapsed (f :: images ++ [t])) % 4294967296 = t.toNat :=
      head_add_elapsed_mod rfl (by rw [List.getLast?_concat])
    rw [Nat.mod_eq_of_lt hwrap] at hmod
    refine ⟨by omega, ?_⟩
    split
    · rename_i hf
      have hnone : elapsed (f :: images ++ [t]) = 0 := by
        have hf0 : f.toNat = 0 := by rw [hf]; rfl
        have ht0 : t.toNat = 0 := by rw [hzero hf]; rfl
        omega
      rw [hnone, roundedMs_zero]
    · exact sampleTimeMs_eq hmod.symm

theorem admitted_first {images : List UInt32} {f t : UInt32} (hfirst : ∀ a ∈ images.head?, f = a)
    (h : Admits images f t) :
    ∀ a ∈ (images ++ [t]).head?, (if f = 0 then t else f) = a := by
  cases images with
  | nil =>
    intro a ha
    obtain rfl : t = a := by simpa using ha
    rcases h with rfl | rfl
    · rfl
    · exact ite_self _
  | cons b images =>
    intro a ha
    obtain rfl : b = a := by simpa using ha
    obtain rfl : f = b := hfirst b rfl
    split
    · rename_i hf
      rw [h.1 hf, hf]
    · rfl

theorem session_processInput (log : List Event) (i : Nat) (image : EncodedImage)
    (sample : Sample) (hr : HResult) :
    session (log ++ [.processInput i image sample hr]) =
      session log ++ [(image.timestamp, sample.timeHns)] := by
  simp [session, noteImage]

theorem timestamps_processInput (log : List Event) (i : Nat) (image : EncodedImage)
    (sample : Sample) (hr : HResult) :
    timestamps (log ++ [.processInput i image sample hr]) =
      timestamps log ++ [image.timestamp] := by
  rw [timestamps, session_processInput, List.map_append]
  rfl

theorem Timed.head {log : List Event} {s : State} (h : Timed log s) :
    ∀ a ∈ (timestamps log).head?, s.firstFrameRtp = a := by
  intro a ha
  rw [timestamps, List.head?_map] at ha
  obtain ⟨first, hhead, rfl⟩ := Option.mem_map.mp ha
  exact h.first first hhead

theorem Timed.onClock {log : List Event} {s : State} (h : Timed log s) {image : EncodedImage}
    {sample : Sample}
    (htime : sample.timeHns = roundedMs (elapsed (timestamps log ++ [image.timestamp])) * 10000)
    (i : Nat) (hr : HResult) : OnClock log (.processInput i image sample hr) := by
  refine ⟨htime, ?_, ?_⟩
  · intro hempty
    have hnone : timestamps log = [] := by rw [timestamps, hempty, List.map_nil]
    rw [htime, hnone, List.nil_append, elapsed_singleton, roundedMs_zero, zero_mul]
  · intro last hlast
    have hstamp : (timestamps log).getLast? = some last.1 := by
      rw [timestamps, List.getLast?_map, hlast]
      rfl
    have hmono := roundedMs_mono (Nat.le_add_right (elapsed (timestamps log))
      (advance last.1 image.timestamp))
    rw [h.last last hlast, htime, elapsed_append hstamp]
    omega

theorem Timed.processInput {log : List Event} {s t : State} (h : Timed log s)
    {image : EncodedImage} (hadmits : Admits (timestamps log) s.firstFrameRtp image.timestamp)
    (ht : t.firstFrameRtp = if s.firstFrameRtp = 0 then image.timestamp else s.firstFrameRtp)
    {sample : Sample} (hms : sample.timeHns = ((if s.firstFrameRtp = 0 then 0 else
      sampleTimeMs s.firstFrameRtp image.timestamp) * 10000).bmod (2 ^ 64))
    (i : Nat) (hr : HResult) : Timed (log ++ [.processInput i image sample hr]) t := by
  obtain ⟨hlt, hadmitted⟩ := admitted_ms h.head hadmits
  rw [hadmitted, roundedMs_bmod hlt] at hms
  refine ⟨justified_append.mpr ⟨h.justified, ?_⟩, ?_, ?_⟩
  · simpa using h.onClock hms i hr
  · intro first hhead
    rw [ht]
    apply admitted_first h.head hadmits
    rw [← timestamps_processInput log i image sample hr, timestamps, List.head?_map, hhead]
    rfl
  · intro last hlast
    rw [session_processInput, List.getLast?_concat] at hlast
    obtain rfl := Option.some.inj hlast
    rw [timestamps_processInput]
    exact hms

/-- A second try with the same image. -/
theorem Admits.again {images : List UInt32} {f t : UInt32} (h : Admits images f t) (f' : UInt32) :
    Admits (images ++ [t]) f' t := by
  have hsame : ∀ ts : List UInt32, elapsed (ts ++ [t] ++ [t]) = elapsed (ts ++ [t]) := by
    intro ts
    rw [elapsed_append (List.getLast?_concat ..), advance_self]
    rfl
  cases images with
  | nil =>
    refine ⟨id, ?_⟩
    have helapsed := hsame []
    rw [List.nil_append, elapsed_singleton] at helapsed
    have hlt := t.toNat_lt
    rw [helapsed]
    omega
  | cons a images =>
    refine ⟨h.1, ?_⟩
    change a.toNat + elapsed ((a :: images) ++ [t] ++ [t]) < 4294967296
    rw [hsame]
    exact h.2

end Sessions

section Calls

/-- What `EnqueueFrame` does to `first_frame_rtp_` and which time it sets. -/
inductive Enqueues (s : State) (image : EncodedImage) (a : EnqueueAnswers) :
    State × List Event × HResult → Prop where
  | noBuffer : a.bufferFails = true → Enqueues s image a (s, [], .fail)
  | lost {t : State} {events : List Event} : a.bufferFails = false →
    t.firstFrameRtp = (if s.firstFrameRtp = 0 then image.timestamp else s.firstFrameRtp) →
    (∀ e ∈ events, Quiet e) → Enqueues s image a (t, events, .fail)
  | given {t : State} {i : Nat} {sample : Sample} : a.bufferFails = false →
    t.firstFrameRtp = (if s.firstFrameRtp = 0 then image.timestamp else s.firstFrameRtp) →
    sample.timeHns = ((if s.firstFrameRtp = 0 then 0 else
      sampleTimeMs s.firstFrameRtp image.timestamp) * 10000).bmod (2 ^ 64) →
    Enqueues s image a (t, [.processInput i image sample a.processInput], a.processInput)

theorem enqueueFrame_effect (s : State) (image : EncodedImage) (missingFrames : Bool)
    (a : EnqueueAnswers) : Enqueues s image a (enqueueFrame s image missingFrames a) := by
  unfold enqueueFrame
  split
  · rename_i hbuffer
    exact .noBuffer hbuffer
  · rename_i hbuffer
    rw [Bool.not_eq_true] at hbuffer
    by_cases hfirst : s.firstFrameRtp = 0
    · simp only [hfirst, if_true]
      repeat' split
      · exact .lost hbuffer (by simp [hfirst]) (by simp)
      · exact .lost hbuffer (by simp [hfirst]) (by simp [Quiet])
      · exact .given hbuffer (by simp [hfirst]) (by simp [hfirst])
    · simp only [hfirst, if_false]
      repeat' split
      · exact .lost hbuffer (by simp [hfirst]) (by simp)
      · exact .lost hbuffer (by simp [hfirst]) (by simp [Quiet])
      · exact .given hbuffer (by simp [hfirst]) (by simp [hfirst])

variable {log : List Event} {s : State}

theorem Timed.noted (h : Timed log s) {image : EncodedImage}
    (hadmits : Admits (timestamps log) s.firstFrameRtp image.timestamp) {t : State}
    (ht : t.firstFrameRtp = if s.firstFrameRtp = 0 then image.timestamp else s.firstFrameRtp) :
    Timed log t := by
  refine ⟨h.justified, ?_, h.last⟩
  intro first hhead
  rw [ht]
  apply admitted_first h.head hadmits
  rw [List.head?_append, timestamps, List.head?_map, hhead]
  rfl

theorem Timed.enqueues (h : Timed log s) {image : EncodedImage} {a : EnqueueAnswers}
    (hadmits : a.bufferFails = false →
      Admits (timestamps log) s.firstFrameRtp image.timestamp)
    {r : State × List Event × HResult} (hr : Enqueues s image a r) : Timed (log ++ r.2.1) r.1 := by
  cases hr with
  | noBuffer => simpa using h
  | lost hbuffer ht hevents => exact (h.noted (hadmits hbuffer) ht).quiet hevents rfl
  | given hbuffer ht htime => exact h.processInput (hadmits hbuffer) ht htime _ _

/-- An image that was not accepted may be given again. -/
theorem Enqueues.admits_again {image : EncodedImage} {a : EnqueueAnswers}
    {r : State × List Event × HResult} (hr : Enqueues s image a r)
    (hadmits : a.bufferFails = false →
      Admits (timestamps log) s.firstFrameRtp image.timestamp)
    (hagain : r.2.2 = .notAccepting) :
    Admits (timestamps (log ++ r.2.1)) r.1.firstFrameRtp image.timestamp := by
  cases hr with
  | noBuffer => cases hagain
  | lost => cases hagain
  | given hbuffer =>
    dsimp only
    rw [timestamps_processInput]
    exact (hadmits hbuffer).again _

theorem enqueueOrFlush_timed (h : Timed log s) {image : EncodedImage} (missingFrames : Bool)
    {a : DecodeAnswers} (hadmits : a.enqueue.bufferFails = false →
      Admits (timestamps log) s.firstFrameRtp image.timestamp) :
    Timed (log ++ (enqueueOrFlush s image missingFrames a).2.1)
      (enqueueOrFlush s image missingFrames a).1 := by
  have heffect := enqueueFrame_effect s image missingFrames a.enqueue
  have htimed := h.enqueues hadmits heffect
  have hagain := heffect.admits_again hadmits
  unfold enqueueOrFlush
  generalize enqueueFrame s image missingFrames a.enqueue = r at htimed hagain
  obtain ⟨t, events, hr⟩ := r
  have hquiet : ∀ e ∈ t.decoder.toList.map Event.flush, Quiet e := by
    intro e he
    obtain ⟨i, -, rfl⟩ := List.mem_map.mp he
    trivial
  have hflushed := htimed.quiet hquiet rfl
  dsimp only at hagain hflushed ⊢
  rw [List.append_assoc] at hflushed
  split
  · rename_i hnot
    split
    · split
      · exact hflushed
      · have hadmits' : Admits (timestamps (log ++ (events ++ t.decoder.toList.map Event.flush)))
            t.firstFrameRtp image.timestamp := by
          rw [timestamps, ← List.append_assoc, session_append_quiet hquiet]
          exact hagain hnot
        have hretried := hflushed.enqueues (fun _ => hadmits')
          (enqueueFrame_effect t image missingFrames a.enqueueAgain)
        simpa using hretried
    · exact hflushed.congr rfl
  · exact htimed

@[simp] theorem flushFrames_firstFrameRtp (s : State) (timestamp : UInt32) (ntpTimeMs : Int)
    (o : Outputs) :
    (flushFrames s timestamp ntpTimeMs o).1.firstFrameRtp = s.firstFrameRtp := by
  simp only [flushFrames]
  split <;> rfl

theorem drain_firstFrameRtp (s : State) (image : EncodedImage) (a : DecodeAnswers) :
    (drain s image a).1.firstFrameRtp = s.firstFrameRtp := by
  unfold drain
  dsimp only
  repeat' split
  all_goals simp

theorem drain_quiet (s : State) (image : EncodedImage) (a : DecodeAnswers) :
    ∀ e ∈ (drain s image a).2.1, Quiet e := by
  intro e he
  obtain ⟨_, _, _, _, rfl⟩ := (drain_drains s image a).events e he
  trivial

/-- `Decode` comes to the time of a sample. -/
def reachesSampleTime (s : State) (image : EncodedImage) (a : DecodeAnswers) : Bool :=
  (refused s image).isNone && !(s.requireKeyframe && !image.cleanPoint) && !a.enqueue.bufferFails

theorem decode_timed (h : Timed log s) {image : EncodedImage} (missingFrames : Bool)
    {a : DecodeAnswers} (hadmits : reachesSampleTime s image a = true →
      Admits (timestamps log) s.firstFrameRtp image.timestamp) :
    Timed (log ++ (decode s image missingFrames a).2.1) (decode s image missingFrames a).1 := by
  unfold decode
  split
  · simpa using h
  · rename_i hrefused
    split
    · simpa using h
    · rename_i hgate
      have hopen : Timed log s.openGate := h.congr rfl
      have henqueued : Timed (log ++ (enqueueOrFlush s.openGate image missingFrames a).2.1)
          (enqueueOrFlush s.openGate image missingFrames a).1 := by
        apply enqueueOrFlush_timed hopen
        intro hbuffer
        apply hadmits
        rw [Bool.not_eq_true] at hgate
        rw [reachesSampleTime, hrefused, hbuffer, hgate]
        rfl
      dsimp only
      generalize enqueueOrFlush s.openGate image missingFrames a = r at henqueued
      split
      · exact henqueued
      · have hdrained := henqueued.quiet (drain_quiet r.1 image a) (drain_firstFrameRtp r.1 image a)
        simpa using hdrained

theorem configure_quiet (s : State) (i : Nat) (settings : CodecSettings) (a : InitAnswers) :
    (configure s i settings a).1.firstFrameRtp = s.firstFrameRtp ∧
      ∀ e ∈ (configure s i settings a).2.1, Quiet e := by
  unfold configure
  dsimp only
  repeat' split
  all_goals simp [Quiet]

theorem Timed.created (h : Timed log s) (i : Nat) : Timed (log ++ [.created i]) s := by
  have hsession : session (log ++ [.created i]) = [] := by simp [session, noteImage]
  refine ⟨justified_append.mpr ⟨h.justified, by simp [OnClock]⟩, ?_, ?_⟩
  · simp [hsession]
  · simp [hsession]

theorem initDecode_timed (h : Timed log s) (settings : CodecSettings) (a : InitAnswers) :
    Timed (log ++ (initDecode s settings a).2.1) (initDecode s settings a).1 := by
  unfold initDecode
  dsimp only
  split
  · rw [List.append_nil]
    exact h.congr rfl
  · generalize hmade : ({s with
      width := positive settings.width.toUInt32
      height := positive settings.height.toUInt32
      decoder := some s.created
      created := s.created + 1} : State) = made
    have hkept : made.firstFrameRtp = s.firstFrameRtp := by rw [← hmade]
    obtain ⟨hfirst, hquiet⟩ := configure_quiet made s.created settings a
    have hconfigured := (h.created s.created).quiet hquiet (hfirst.trans hkept)
    simpa using hconfigured

theorem release_timed (h : Timed log s) (a : ReleaseAnswers) :
    Timed (log ++ (release s a).2.1) (release s a).1 := by
  unfold release
  dsimp only
  refine h.quiet ?_ rfl
  intro e he
  split at he
  · cases he
  · obtain ⟨i, -, rfl⟩ := List.mem_map.mp he
    trivial

/-- The images that `Decode` gives a sample time are admitted in the state they meet. -/
def Condition (log : List Event) (s : State) : Call → Prop
  | .decode image _ a => s.crashed = false → reachesSampleTime s image a = true →
    Admits (timestamps log) s.firstFrameRtp image.timestamp
  | _ => True

theorem call_timed (h : Timed log s) (hcrashed : s.crashed = false) {c : Call}
    (hc : Condition log s c) : Timed (log ++ (call s c).2.1) (call s c).1 := by
  cases c with
  | initDecode settings a => exact initDecode_timed h settings a
  | registerDecodeCompleteCallback present =>
    rw [call, List.append_nil]
    exact h.congr rfl
  | decode image missingFrames a => exact decode_timed h missingFrames (hc hcrashed)
  | release a => exact release_timed h a

theorem step_timed (h : Timed log s) {c : Call} (hc : Condition log s c) :
    Timed (log ++ (step s c).2) (step s c).1 := by
  unfold step
  split
  · simpa using h
  · rename_i hcrashed
    rw [Bool.not_eq_true] at hcrashed
    have hcall := call_timed h hcrashed hc
    dsimp only
    rw [← List.append_assoc]
    refine hcall.quiet ?_ rfl
    split <;> simp [Quiet]

/-- Over any sessions of one decoder, the samples have the times of the unwrapped clock. -/
theorem decoder_times (calls : List Call)
    (hok : Along step (fun log s c => Condition log s c) [] create calls) :
    Justified OnClock (run step create calls).2 := by
  have htimed : Timed [] create := ⟨justified_nil, by simp [session], by simp [session]⟩
  refine (run_invariant step Timed ?_ htimed hok).justified
  intro log s c h hc
  exact step_timed h hc

end Calls

section Examples
open KeyFrameGate (opening keyImage deltaImage decodeAnswering)

def twoImages : List Call :=
  opening ++ [.decode keyImage false (decodeAnswering .ok),
    .decode deltaImage false (decodeAnswering .ok)]

theorem twoImages_on_clock :
    Along step (fun log s c => Condition log s c) [] create twoImages ∧
      Justified OnClock (run step create twoImages).2 := by
  have hok : Along step (fun log s c => Condition log s c) [] create twoImages := by
    refine ⟨trivial, trivial, ?_, ?_, trivial⟩
    · intro _ _
      exact .inl rfl
    · intro _ _
      decide +kernel
  exact ⟨hok, decoder_times twoImages hok⟩

/-- The same image in a second session, a second later. -/
def reopened : List Call :=
  opening ++ [.decode keyImage false (decodeAnswering .ok), .release ⟨.ok, .ok⟩] ++ opening ++
    [.decode {keyImage with timestamp := 93000} false (decodeAnswering .ok)]

/-- The second session counts from the first image of the first one. -/
theorem reopened_session_off_clock : ¬ Justified OnClock (run step create reopened).2 := by
  intro h
  have hsecond : OnClock ((run step create reopened).2.take 14) (.processInput 1
      {keyImage with timestamp := 93000} ⟨keyImage.data.copied, 10000000, true, false⟩ .ok) :=
    h _ _ [.returned .ok] (by decide +kernel)
  have hempty : session ((run step create reopened).2.take 14) = [] := by decide +kernel
  exact absurd (hsecond.2.1 hempty) (by decide)

end Examples

end WeiRtcNative.H264.DecoderTimes
