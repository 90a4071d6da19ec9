import Mathlib.Algebra.Ring.Nat
import WeiRtcNative.Lib.Machine
import WeiRtcNative.Lib.Splice

/-!
# The sync buffer of the capture thread

`CaptureDeviceInternal::Transport` appends each captured packet to `syncBuffer` and hands out the
buffer in blocks of 10 ms, moving the rest down after each. Indices count audio frames, offsets
bytes. The buffer holds twice the length of the endpoint buffer, whatever the block size is.
-/

namespace WeiRtcNative.Audio.SyncBuffer

open Machine Splice
set_option autoImplicit false

/-- What the thread finds: the length reported by the audio client, and what `InitTransport` has
recorded, which is nothing or both sizes. -/
structure Device where
  bufferLength : Nat
  audioFrameSize : Nat
  blockSize : Nat
  /-- `_pAudioBuffer` is attached. -/
  audioBuffer : Bool
  recorded : 0 < blockSize → 0 < audioFrameSize

def Device.syncBufferSize (d : Device) : Nat := 2 * (d.bufferLength * d.audioFrameSize) % 2 ^ 32

def Device.blockBytes (d : Device) : Nat := d.blockSize * d.audioFrameSize

structure Packet (audioFrameSize : Nat) where
  framesAvailable : Nat
  data : List UInt8
  silent : Bool
  length_data : data.length = framesAvailable * audioFrameSize

/-- `pData` after the look at the flags: a packet that is flagged silent is not read. -/
def Packet.pData {audioFrameSize : Nat} (q : Packet audioFrameSize) : Option (List UInt8) :=
  if q.silent then none else some q.data

def copyMemory (destination : List UInt8) (offset : Nat) (source : List UInt8) (length : Nat) :
    List UInt8 := splice destination offset (source.take length)

def zeroMemory (destination : List UInt8) (offset length : Nat) : List UInt8 :=
  splice destination offset (List.replicate length 0)

structure State where
  syncBuffer : List UInt8
  syncBufIndex : Nat
  samples : UInt64
  crashed : Bool
  deriving DecidableEq, Repr

inductive Event where
  | copied (syncBufIndex framesAvailable : Nat)
  | recorded (block : List UInt8)
  deriving DecidableEq, Repr

/-- The state before the loop, with the contents of the new buffer. -/
def start (d : Device) (memory : {m : List UInt8 // m.length = d.syncBufferSize}) : State :=
  ⟨memory, 0, 0, false⟩

/-- `SetRecordedBuffer` takes the first block, and the rest is moved down. -/
def deliver (d : Device) (s : State) : State × List Event :=
  if _h : 0 < d.blockSize ∧ d.blockSize ≤ s.syncBufIndex then
    let rest := s.syncBufIndex - d.blockSize
    let block := s.syncBuffer.take d.blockBytes
    let r := deliver d {s with
      syncBuffer := moveDown s.syncBuffer d.blockBytes (rest * d.audioFrameSize)
      syncBufIndex := rest}
    (r.1, (if d.audioBuffer then [.recorded block] else []) ++ r.2)
  else (s, [])
termination_by s.syncBufIndex
decreasing_by omega

/-- The packet copied behind what is pending, and counted. -/
def append (d : Device) (s : State) (q : Packet d.audioFrameSize) : State :=
  let offset := s.syncBufIndex * d.audioFrameSize
  let length := q.framesAvailable * d.audioFrameSize
  {s with
    syncBuffer := match q.pData with
      | some pData => copyMemory s.syncBuffer offset pData length
      | none => zeroMemory s.syncBuffer offset length
    samples := s.samples + UInt64.ofNat q.framesAvailable
    syncBufIndex := s.syncBufIndex + q.framesAvailable}

/-- One packet. `_blockSize` divides the delay that is computed before the blocks are handed out,
so the thread dies there if it is zero. -/
def step (d : Device) (s : State) (q : Packet d.audioFrameSize) : State × List Event :=
  if s.crashed then (s, [])
  else
    let copied := Event.copied s.syncBufIndex q.framesAvailable
    if d.blockSize = 0 then ({append d s q with crashed := true}, [copied])
    else
      let r := deliver d (append d s q)
      (r.1, copied :: r.2)

/-- A copy ends before the buffer does. -/
def Event.Fits (d : Device) : Event → Prop
  | .copied syncBufIndex framesAvailable =>
    (syncBufIndex + framesAvailable) * d.audioFrameSize ≤ d.syncBufferSize
  | .recorded _ => True

def blocks (log : List Event) : List (List UInt8) :=
  log.filterMap fun
    | .copied _ _ => none
    | .recorded block => some block

def pending (d : Device) (s : State) : List UInt8 :=
  s.syncBuffer.take (s.syncBufIndex * d.audioFrameSize)

theorem blocks_append (log log' : List Event) : blocks (log ++ log') = blocks log ++ blocks log' :=
  List.filterMap_append

section Received
variable {size : Nat}

/-- The stream that was captured, in which a silent packet counts as that many zero frames. -/
def received : List (Packet size) → List UInt8
  | [] => []
  | q :: packets =>
    match q.silent with
    | true => List.replicate (q.framesAvailable * size) 0 ++ received packets
    | false => q.data ++ received packets

theorem received_cons (q : Packet size) (packets : List (Packet size)) :
    received (q :: packets) = received [q] ++ received packets := by
  simp only [received]
  cases q.silent <;> simp

theorem length_received_one (q : Packet size) :
    (received [q]).length = q.framesAvailable * size := by
  simp only [received]
  cases q.silent <;> simp [q.length_data]

end Received

/-- What the thread writes behind the pending bytes is what the packet adds to the stream. -/
theorem append_syncBuffer {d : Device} (s : State) (q : Packet d.audioFrameSize) :
    (append d s q).syncBuffer =
      splice s.syncBuffer (s.syncBufIndex * d.audioFrameSize) (received [q]) := by
  have htake : q.data.take (q.framesAvailable * d.audioFrameSize) = q.data :=
    List.take_of_length_le (Nat.le_of_eq q.length_data)
  simp only [append, Packet.pData, received]
  cases q.silent <;> simp [copyMemory, zeroMemory, htake]

section Deliver
variable {d : Device}

theorem deliver_syncBufIndex (d : Device) (s : State) :
    (deliver d s).1.syncBufIndex = s.syncBufIndex % d.blockSize := by
  fun_induction deliver d s with
  | case1 s h rest block r ih =>
    rw [ih]
    exact (Nat.mod_eq_sub_mod h.2).symm
  | case2 s h =>
    by_cases hzero : d.blockSize = 0
    · rw [hzero, Nat.mod_zero]
    · exact (Nat.mod_eq_of_lt (show s.syncBufIndex < d.blockSize by omega)).symm

theorem blockBytes_add (d : Device) {index : Nat} (hle : d.blockSize ≤ index) :
    d.blockBytes + (index - d.blockSize) * d.audioFrameSize = index * d.audioFrameSize := by
  rw [Device.blockBytes, ← Nat.add_mul, Nat.add_sub_cancel' hle]

/-- What is left behind a block is moved down within the buffer. -/
theorem rest_fits {s : State} (hle : d.blockSize ≤ s.syncBufIndex)
    (h : s.syncBufIndex * d.audioFrameSize ≤ s.syncBuffer.length) :
    let rest := (s.syncBufIndex - d.blockSize) * d.audioFrameSize
    (moveDown s.syncBuffer d.blockBytes rest).length = s.syncBuffer.length ∧
      rest ≤ (moveDown s.syncBuffer d.blockBytes rest).length := by
  intro rest
  have hsplit : d.blockBytes + rest = s.syncBufIndex * d.audioFrameSize := blockBytes_add d hle
  have hlength : (moveDown s.syncBuffer d.blockBytes rest).length = s.syncBuffer.length :=
    length_moveDown (by omega)
  exact ⟨hlength, by omega⟩

/-- Blocks are handed out and nothing else happens. -/
structure Keeps (s t : State) (evs : List Event) : Prop where
  samples : t.samples = s.samples
  crashed : t.crashed = s.crashed
  recorded : ∀ e ∈ evs, ∃ block, e = .recorded block

theorem deliver_keeps (d : Device) (s : State) : Keeps s (deliver d s).1 (deliver d s).2 := by
  fun_induction deliver d s with
  | case1 s hblock rest block r ih =>
    refine ⟨ih.samples, ih.crashed, ?_⟩
    intro e he
    rcases List.mem_append.mp he with he | he
    · split at he
      · exact ⟨block, List.mem_singleton.mp he⟩
      · cases he
    · exact ih.recorded e he
  | case2 s hblock => exact ⟨rfl, rfl, by simp⟩

theorem deliver_length {s : State} (h : s.syncBufIndex * d.audioFrameSize ≤ s.syncBuffer.length) :
    (deliver d s).1.syncBuffer.length = s.syncBuffer.length := by
  fun_induction deliver d s with
  | case1 s hblock rest block r ih =>
    obtain ⟨hlength, hroom⟩ := rest_fits hblock.2 h
    exact (ih hroom).trans hlength
  | case2 s hblock => rfl

theorem deliver_stream {s : State} (hbuffer : d.audioBuffer = true)
    (h : s.syncBufIndex * d.audioFrameSize ≤ s.syncBuffer.length) :
    (blocks (deliver d s).2).flatten ++ pending d (deliver d s).1 = pending d s ∧
      ∀ block ∈ blocks (deliver d s).2, block.length = d.blockBytes := by
  fun_induction deliver d s with
  | case1 s hblock rest block r ih =>
    have hsplit : d.blockBytes + rest * d.audioFrameSize = s.syncBufIndex * d.audioFrameSize :=
      blockBytes_add d hblock.2
    obtain ⟨hstream, hwhole⟩ := ih (rest_fits hblock.2 h).2
    have hblocks : blocks ((if d.audioBuffer then [.recorded block] else []) ++ r.2) =
        block :: blocks r.2 := by
      rw [if_pos hbuffer]
      rfl
    rw [hblocks]
    refine ⟨?_, ?_⟩
    · have hrest : pending d {s with
            syncBuffer := moveDown s.syncBuffer d.blockBytes (rest * d.audioFrameSize)
            syncBufIndex := rest} =
          (s.syncBuffer.drop d.blockBytes).take (rest * d.audioFrameSize) := by
        unfold pending
        dsimp only
        exact take_moveDown (by omega)
      rw [List.flatten_cons, List.append_assoc, hstream, hrest, pending, ← hsplit, List.take_add]
    · intro b hb
      rcases List.mem_cons.mp hb with rfl | hb
      · exact List.length_take_of_le (by omega)
      · exact hwhole b hb
  | case2 s hblock => simp [blocks]

end Deliver

section Step
variable {d : Device}

theorem step_eq {s : State} (hpos : 0 < d.blockSize) (hs : s.crashed = false)
    (q : Packet d.audioFrameSize) :
    step d s q = ((deliver d (append d s q)).1,
      .copied s.syncBufIndex q.framesAvailable :: (deliver d (append d s q)).2) := by
  have hnonzero : ¬ d.blockSize = 0 := by omega
  unfold step
  rw [if_neg (Bool.eq_false_iff.mp hs)]
  dsimp only
  rw [if_neg hnonzero]

/-- The buffer is whole and holds what is pending. -/
structure Holds (d : Device) (s : State) : Prop where
  length : s.syncBuffer.length = d.syncBufferSize
  index : s.syncBufIndex < d.blockSize
  crashed : s.crashed = false

/-- What a packet that fits does to the stream. -/
structure Streams (d : Device) (s t : State) (q : Packet d.audioFrameSize) (evs : List Event) :
    Prop where
  holds : Holds d t
  stream : (blocks evs).flatten ++ pending d t = pending d s ++ received [q]
  whole : ∀ block ∈ blocks evs, block.length = d.blockBytes
  samples : t.samples = s.samples + UInt64.ofNat q.framesAvailable

theorem append_length {s : State} {q : Packet d.audioFrameSize}
    (hlength : s.syncBuffer.length = d.syncBufferSize)
    (hfits : (s.syncBufIndex + q.framesAvailable) * d.audioFrameSize ≤ d.syncBufferSize) :
    (append d s q).syncBuffer.length = d.syncBufferSize := by
  rw [Nat.add_mul] at hfits
  rw [append_syncBuffer, length_splice, hlength]
  rw [length_received_one]
  omega

theorem append_pending {s : State} {q : Packet d.audioFrameSize}
    (hlength : s.syncBuffer.length = d.syncBufferSize)
    (hfits : (s.syncBufIndex + q.framesAvailable) * d.audioFrameSize ≤ d.syncBufferSize) :
    pending d (append d s q) = pending d s ++ received [q] := by
  rw [Nat.add_mul] at hfits
  have htake : (splice s.syncBuffer (s.syncBufIndex * d.audioFrameSize) (received [q])).take _ = _ :=
    take_splice (by omega)
  rw [length_received_one, ← Nat.add_mul] at htake
  rw [pending, append_syncBuffer]
  exact htake

theorem step_streams (hbuffer : d.audioBuffer = true) (hpos : 0 < d.blockSize) {s : State}
    (hs : Holds d s) {q : Packet d.audioFrameSize}
    (hfits : (s.syncBufIndex + q.framesAvailable) * d.audioFrameSize ≤ d.syncBufferSize) :
    Streams d s (step d s q).1 q (step d s q).2 := by
  have hlength := append_length hs.length hfits
  have hroom : (append d s q).syncBufIndex * d.audioFrameSize ≤ (append d s q).syncBuffer.length :=
    Nat.le_trans hfits (Nat.le_of_eq hlength.symm)
  obtain ⟨hstream, hwhole⟩ := deliver_stream hbuffer hroom
  have hkeeps := deliver_keeps d (append d s q)
  rw [step_eq hpos hs.crashed]
  refine ⟨⟨(deliver_length hroom).trans hlength, ?_, hkeeps.crashed.trans hs.crashed⟩, ?_, hwhole,
    hkeeps.samples⟩
  · rw [deliver_syncBufIndex]
    exact Nat.mod_lt _ hpos
  · exact hstream.trans (append_pending hs.length hfits)

end Step

section Stream
variable {d : Device}

def framesReceived {size : Nat} (packets : List (Packet size)) : Nat :=
  (packets.map Packet.framesAvailable).sum

/-- Nothing is lost, duplicated or reordered between the packets and the blocks. -/
structure Preserved (d : Device) (packets : List (Packet d.audioFrameSize)) (s : State)
    (log : List Event) : Prop where
  stream : (blocks log).flatten ++ pending d s = received packets
  whole : ∀ block ∈ blocks log, block.length = d.blockSize * d.audioFrameSize
  index : s.syncBufIndex < d.blockSize
  samples : s.samples = UInt64.ofNat (framesReceived packets)

theorem run_streams (hbuffer : d.audioBuffer = true) (hpos : 0 < d.blockSize) {s : State}
    (hs : Holds d s) {packets : List (Packet d.audioFrameSize)}
    (hfits : ∀ e ∈ (run (step d) s packets).2, e.Fits d) :
    Holds d (run (step d) s packets).1 ∧
      (blocks (run (step d) s packets).2).flatten ++ pending d (run (step d) s packets).1 =
        pending d s ++ received packets ∧
      (∀ block ∈ blocks (run (step d) s packets).2, block.length = d.blockBytes) ∧
      (run (step d) s packets).1.samples =
        s.samples + UInt64.ofNat (framesReceived packets) := by
  induction packets generalizing s with
  | nil => exact ⟨hs, by simp [blocks, received], by simp [blocks], by simp [framesReceived]⟩
  | cons q packets ih =>
    rw [run_cons] at hfits ⊢
    rw [List.forall_mem_append] at hfits
    have hcopy : (s.syncBufIndex + q.framesAvailable) * d.audioFrameSize ≤ d.syncBufferSize :=
      hfits.1 (.copied s.syncBufIndex q.framesAvailable) (by simp [step_eq hpos hs.crashed])
    have hstep := step_streams hbuffer hpos hs hcopy
    obtain ⟨hholds, hstream, hwhole, hsamples⟩ := ih hstep.holds hfits.2
    refine ⟨hholds, ?_, ?_, ?_⟩
    · calc
        (blocks _).flatten ++ pending d (run (step d) (step d s q).1 packets).1 =
            (blocks (step d s q).2).flatten ++
              (pending d (step d s q).1 ++ received packets) := by
          rw [blocks_append, List.flatten_append, List.append_assoc, hstream]
        _ = pending d s ++ (received [q] ++ received packets) := by
          rw [← List.append_assoc, hstep.stream, List.append_assoc]
        _ = pending d s ++ received (q :: packets) := by rw [received_cons q packets]
    · intro block hblock
      rw [blocks_append, List.mem_append] at hblock
      exact hblock.elim (hstep.whole block) (hwhole block)
    · rw [hsamples, hstep.samples, framesReceived, framesReceived, List.map_cons, List.sum_cons,
        UInt64.ofNat_add, UInt64.add_assoc]

theorem run_crashed {s : State} (hs : s.crashed = true)
    (packets : List (Packet d.audioFrameSize)) : (run (step d) s packets).1.crashed = true := by
  induction packets generalizing s with
  | nil => exact hs
  | cons q packets ih =>
    rw [run_cons]
    apply ih
    unfold step
    rw [if_pos hs]
    exact hs

/-- A run in which every copy fits: the thread survives it if there is a block size, and after
every packet that it survives the stream is preserved. -/
theorem stream_preserved (d : Device) (memory : {m : List UInt8 // m.length = d.syncBufferSize})
    (packets : List (Packet d.audioFrameSize)) (hbuffer : d.audioBuffer = true)
    (hfits : ∀ e ∈ (run (step d) (start d memory) packets).2, e.Fits d) :
    (0 < d.blockSize → (run (step d) (start d memory) packets).1.crashed = false) ∧
      ((run (step d) (start d memory) packets).1.crashed = false → packets ≠ [] →
        Preserved d packets (run (step d) (start d memory) packets).1
          (run (step d) (start d memory) packets).2) := by
  by_cases hpos : 0 < d.blockSize
  · have hstart : Holds d (start d memory) := ⟨memory.2, hpos, rfl⟩
    obtain ⟨hholds, hstream, hwhole, hsamples⟩ := run_streams hbuffer hpos hstart hfits
    refine ⟨fun _ => hholds.crashed, fun _ _ => ⟨?_, hwhole, hholds.index, ?_⟩⟩
    · rw [hstream]
      simp [pending, start]
    · rw [hsamples]
      simp [start]
  · refine ⟨fun h => absurd h hpos, ?_⟩
    intro hcrashed hpackets
    obtain ⟨q, packets, rfl⟩ := List.exists_cons_of_ne_nil hpackets
    have hdead : (step d (start d memory) q).1.crashed = true := by
      unfold step
      rw [if_neg (show ¬ (start d memory).crashed = true from Bool.false_ne_true)]
      dsimp only
      rw [if_pos (by omega)]
    rw [run_cons, run_crashed hdead packets] at hcrashed
    cases hcrashed

end Stream

section Overflow
variable {d : Device}

/-- A packet that the endpoint buffer can hold. -/
def Packet.Possible (d : Device) (q : Packet d.audioFrameSize) : Prop :=
  1 ≤ q.framesAvailable ∧ q.framesAvailable ≤ d.bufferLength

theorem fits_iff (hblock : 1 ≤ d.blockSize)
    (hsize : 2 * (d.bufferLength * d.audioFrameSize) < 2 ^ 32)
    (index frames : Nat) :
    (Event.copied index frames).Fits d ↔ index + frames ≤ 2 * d.bufferLength := by
  have hframe := d.recorded hblock
  unfold Event.Fits Device.syncBufferSize
  rw [Nat.mod_eq_of_lt hsize, ← Nat.mul_assoc]
  exact Nat.mul_le_mul_right_iff hframe

/-- The residue between packets is less than a block. -/
structure Residue (d : Device) (s : State) : Prop where
  index : s.syncBufIndex < d.blockSize
  crashed : s.crashed = false

theorem step_residue (hblock : 1 ≤ d.blockSize) {s : State} (hs : Residue d s)
    (q : Packet d.audioFrameSize) :
    Residue d (step d s q).1 ∧
      (step d s q).1.syncBufIndex = (s.syncBufIndex + q.framesAvailable) % d.blockSize := by
  rw [step_eq hblock hs.crashed]
  have hindex := deliver_syncBufIndex d (append d s q)
  refine ⟨⟨?_, (deliver_keeps d (append d s q)).crashed.trans hs.crashed⟩, hindex⟩
  rw [hindex]
  exact Nat.mod_lt _ hblock

theorem step_fits_iff (hblock : 1 ≤ d.blockSize) {s : State} (hs : Residue d s)
    (q : Packet d.audioFrameSize) :
    (∀ e ∈ (step d s q).2, e.Fits d) ↔ (Event.copied s.syncBufIndex q.framesAvailable).Fits d := by
  rw [step_eq hblock hs.crashed, List.forall_mem_cons]
  refine and_iff_left ?_
  intro e he
  obtain ⟨block, rfl⟩ := (deliver_keeps d (append d s q)).recorded e he
  trivial

theorem run_fits (hblock : 1 ≤ d.blockSize)
    (hsize : 2 * (d.bufferLength * d.audioFrameSize) < 2 ^ 32)
    (hroom : d.blockSize ≤ d.bufferLength + 1) {s : State} (hs : Residue d s)
    {packets : List (Packet d.audioFrameSize)} (hpackets : ∀ q ∈ packets, q.Possible d) :
    ∀ e ∈ (run (step d) s packets).2, e.Fits d := by
  induction packets generalizing s with
  | nil => simp
  | cons q packets ih =>
    rw [List.forall_mem_cons] at hpackets
    rw [run_cons, List.forall_mem_append]
    refine ⟨?_, ih (step_residue hblock hs q).1 hpackets.2⟩
    have hindex := hs.index
    have hmost := hpackets.1.2
    rw [step_fits_iff hblock hs, fits_iff hblock hsize]
    omega

def silence (size frames : Nat) : Packet size :=
  ⟨frames, List.replicate (frames * size) 0, true, List.length_replicate⟩

/-- Packets of one frame each lead to a residue of one more than the endpoint buffer holds, and
a full packet then overruns the sync buffer. -/
theorem exists_overrun (hblock : 1 ≤ d.blockSize)
    (hsize : 2 * (d.bufferLength * d.audioFrameSize) < 2 ^ 32)
    (hroom : d.bufferLength + 1 < d.blockSize) (hbuffer : 1 ≤ d.bufferLength) (missing : Nat)
    {s : State} (hs : Residue d s) (hindex : s.syncBufIndex + missing = d.bufferLength + 1) :
    ∃ packets : List (Packet d.audioFrameSize), (∀ q ∈ packets, q.Possible d) ∧
      ¬ ∀ e ∈ (run (step d) s packets).2, e.Fits d := by
  induction missing generalizing s with
  | zero =>
    refine ⟨[silence d.audioFrameSize d.bufferLength], ?_, ?_⟩
    · simpa [Packet.Possible, silence] using hbuffer
    · rw [run_cons, List.forall_mem_append, step_fits_iff hblock hs, fits_iff hblock hsize]
      rintro ⟨hfits, -⟩
      have hframes : (silence d.audioFrameSize d.bufferLength).framesAvailable =
          d.bufferLength := rfl
      omega
  | succ missing ih =>
    obtain ⟨hnext, hmod⟩ := step_residue hblock hs (silence d.audioFrameSize 1)
    have hone : (silence d.audioFrameSize 1).framesAvailable = 1 := rfl
    rw [hone, Nat.mod_eq_of_lt (by omega)] at hmod
    obtain ⟨packets, hpackets, hoverrun⟩ := ih hnext (by omega)
    refine ⟨silence d.audioFrameSize 1 :: packets, ?_, ?_⟩
    · rw [List.forall_mem_cons]
      exact ⟨⟨Nat.le_refl 1, hbuffer⟩, hpackets⟩
    · rw [run_cons, List.forall_mem_append]
      rintro ⟨-, hrest⟩
      exact hoverrun hrest

end Overflow

/-- No packets that the endpoint buffer can hold overrun the sync buffer just when a block is at
most one frame longer than the endpoint buffer. -/
theorem copies_fit_iff (d : Device) (memory : {m : List UInt8 // m.length = d.syncBufferSize})
    (hblock : 1 ≤ d.blockSize) (hsize : 2 * (d.bufferLength * d.audioFrameSize) < 2 ^ 32) :
    (∀ packets : List (Packet d.audioFrameSize), (∀ q ∈ packets, q.Possible d) →
        ∀ e ∈ (run (step d) (start d memory) packets).2, e.Fits d) ↔
      d.blockSize ≤ d.bufferLength + 1 ∨ d.bufferLength = 0 := by
  have hstart : Residue d (start d memory) := ⟨hblock, rfl⟩
  constructor
  · intro h
    by_contra hcondition
    rw [not_or] at hcondition
    obtain ⟨packets, hpackets, hoverrun⟩ := exists_overrun hblock hsize (by omega) (by omega)
      (d.bufferLength + 1) hstart (Nat.zero_add _)
    exact hoverrun (h packets hpackets)
  · rintro (hroom | hempty) packets hpackets
    · exact run_fits hblock hsize hroom hstart hpackets
    · cases packets with
      | nil => simp
      | cons q packets =>
        have hq := hpackets q List.mem_cons_self
        have hleast := hq.1
        have hmost := hq.2
        omega

def stereoDevice (bufferLength : Nat) : Device := ⟨bufferLength, 4, 480, true, by decide⟩

def freshMemory (d : Device) : {m : List UInt8 // m.length = d.syncBufferSize} :=
  ⟨List.replicate d.syncBufferSize 0, List.length_replicate⟩

def zeroStart (d : Device) : State := start d (freshMemory d)

def fullPackets (d : Device) : List (Packet d.audioFrameSize) :=
  let q := silence d.audioFrameSize d.bufferLength
  [q, q, q]

theorem fullPackets_possible {d : Device} (h : 1 ≤ d.bufferLength) :
    ∀ q ∈ fullPackets d, q.Possible d := by
  simp [fullPackets, Packet.Possible, silence, h]

theorem copies_fit_stereo :
    1 ≤ (stereoDevice 1056).blockSize ∧ 2 * (1056 * 4) < 2 ^ 32 ∧
      ∀ packets : List (Packet (stereoDevice 1056).audioFrameSize),
        (∀ q ∈ packets, q.Possible (stereoDevice 1056)) →
        ∀ e ∈ (run (step (stereoDevice 1056)) (zeroStart (stereoDevice 1056)) packets).2,
          e.Fits (stereoDevice 1056) := by
  refine ⟨by decide, by decide, ?_⟩
  exact (copies_fit_iff (stereoDevice 1056) (freshMemory _) (by decide) (by decide)).mpr
    (.inl (by decide))

/-- The third packet of a device whose buffer is shorter than half a block. -/
theorem third_packet_overruns :
    ¬ ∀ packets : List (Packet (stereoDevice 128).audioFrameSize),
      (∀ q ∈ packets, q.Possible (stereoDevice 128)) →
      ∀ e ∈ (run (step (stereoDevice 128)) (zeroStart (stereoDevice 128)) packets).2,
        e.Fits (stereoDevice 128) := by
  intro h
  have hfits := h (fullPackets (stereoDevice 128)) (fullPackets_possible (by decide))
  have hstart : Residue (stereoDevice 128) (zeroStart (stereoDevice 128)) :=
    ⟨by decide, rfl⟩
  obtain ⟨hfirst, hindex⟩ := step_residue (by decide) hstart (silence _ 128)
  obtain ⟨hsecond, hindex'⟩ := step_residue (by decide) hfirst (silence _ 128)
  rw [fullPackets, run_cons, run_cons, run_cons, List.forall_mem_append, List.forall_mem_append,
    List.forall_mem_append] at hfits
  have hthird := (step_fits_iff (by decide) hsecond (silence _ 128)).mp hfits.2.2.1
  rw [hindex', hindex] at hthird
  revert hthird
  unfold Event.Fits
  decide

/-- Blocks of three frames of two bytes. -/
def smallDevice : Device := ⟨4, 2, 3, true, by decide⟩

/-- The second packet is flagged silent; what its data hold does not count. -/
def mixedPackets : List (Packet smallDevice.audioFrameSize) :=
  [⟨2, [1, 2, 3, 4], false, rfl⟩, ⟨3, [9, 9, 9, 9, 9, 9], true, rfl⟩, ⟨1, [5, 6], false, rfl⟩]

theorem mixedPackets_possible : ∀ q ∈ mixedPackets, q.Possible smallDevice := by
  unfold mixedPackets Packet.Possible
  decide

theorem mixedPackets_preserved :
    received mixedPackets = [1, 2, 3, 4, 0, 0, 0, 0, 0, 0, 5, 6] ∧
      Preserved smallDevice mixedPackets
        (run (step smallDevice) (zeroStart smallDevice) mixedPackets).1
        (run (step smallDevice) (zeroStart smallDevice) mixedPackets).2 := by
  have hfits : ∀ e ∈ (run (step smallDevice) (zeroStart smallDevice) mixedPackets).2,
      e.Fits smallDevice :=
    run_fits (by decide) (by decide) (by decide) ⟨by decide, rfl⟩
      mixedPackets_possible
  obtain ⟨hlives, hpreserved⟩ :=
    stream_preserved smallDevice (freshMemory _) mixedPackets rfl hfits
  exact ⟨by decide, hpreserved (hlives (by decide)) (by simp [mixedPackets])⟩

end WeiRtcNative.Audio.SyncBuffer
