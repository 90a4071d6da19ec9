import Mathlib.Data.Nat.Cast.Order.Field
import WeiRtcNative.Lib.Precision
import WeiRtcNative.Audio.SyncBuffer

/-!
# The recording delay

With each block the capture thread passes on how old it is: the time since the first frame of
the packet was recorded and that of the frames pending, less the 10 ms of the block itself. The
sum is cut to 32 bits once, and lowered by 10 for each block handed out.
-/

namespace WeiRtcNative.Audio.RecordingDelay

open Precision SyncBuffer
set_option autoImplicit false

/-- `sndCardRecDelay` in front of the inner loop, where `latency` is the time since `recTime`. -/
def sndCardRecDelay (latency : ℚ) (syncBufIndex blockSize : UInt32) : UInt32 :=
  UInt32.ofInt (truncate (latency + ((10 * syncBufIndex / blockSize).toNat : ℚ) - 10))

/-- A call of `SetVQEData`, and the index at that moment. -/
structure VqeData where
  sndCardRecDelay : UInt32
  syncBufIndex : UInt32
  deriving DecidableEq, Repr

def vqeData (blockSize syncBufIndex sndCardRecDelay : UInt32) : List VqeData :=
  if _h : 0 < blockSize ∧ blockSize ≤ syncBufIndex then
    ⟨sndCardRecDelay, syncBufIndex⟩ ::
      vqeData blockSize (syncBufIndex - blockSize) (sndCardRecDelay - 10)
  else []
termination_by syncBufIndex.toNat
decreasing_by
  have hpos := UInt32.lt_iff_toNat_lt.mp _h.1
  have hle := UInt32.le_iff_toNat_le.mp _h.2
  rw [UInt32.toNat_sub_of_le _ _ _h.2]
  exact Nat.sub_lt (Nat.lt_of_lt_of_le hpos hle) hpos

/-- The delay has not wrapped, and lies between the latency and the time of all that is pending. -/
structure VqeData.InRange (latency : ℚ) (blockSize : UInt32) (v : VqeData) : Prop where
  exact : (v.sndCardRecDelay.toNat : ℤ) =
    ⌊latency⌋ + 10 * v.syncBufIndex.toNat / blockSize.toNat - 10
  low : ⌊latency⌋ ≤ v.sndCardRecDelay.toNat
  high : (v.sndCardRecDelay.toNat : ℚ) <
    latency + 10 * v.syncBufIndex.toNat / blockSize.toNat

section Loop
variable {blockSize syncBufIndex sndCardRecDelay : UInt32}

/-- Ten frames pending in a block are a millisecond each, so a block less is 10 ms less. -/
theorem div_sub_block {block index : Nat} (hpos : 0 < block) (hle : block ≤ index) :
    10 * (index - block) / block + 10 = 10 * index / block := by
  have hsplit : 10 * index = 10 * (index - block) + block * 10 := by omega
  rw [hsplit, Nat.add_mul_div_left _ _ hpos]

theorem ten_le_div {block index : Nat} (hpos : 0 < block) (hle : block ≤ index) :
    10 ≤ 10 * index / block := by
  rw [Nat.le_div_iff_mul_le hpos]
  exact Nat.mul_le_mul_left 10 hle

/-- Each delay is that of the frames still pending, as long as a block is left. -/
theorem vqeData_exact {latency : Nat}
    (h : blockSize ≤ syncBufIndex → sndCardRecDelay.toNat + 10 =
      latency + 10 * syncBufIndex.toNat / blockSize.toNat) :
    ∀ v ∈ vqeData blockSize syncBufIndex sndCardRecDelay, blockSize ≤ v.syncBufIndex ∧
      v.sndCardRecDelay.toNat + 10 = latency + 10 * v.syncBufIndex.toNat / blockSize.toNat := by
  fun_induction vqeData blockSize syncBufIndex sndCardRecDelay with
  | case1 index delay hblock ih =>
    have hexact := h hblock.2
    have hpos : 0 < blockSize.toNat := UInt32.lt_iff_toNat_lt.mp hblock.1
    have hle := UInt32.le_iff_toNat_le.mp hblock.2
    intro v hv
    rcases List.mem_cons.mp hv with rfl | hv
    · exact ⟨hblock.2, hexact⟩
    · refine ih ?_ v hv
      intro hagain
      -- another block is pending, so the delay is at least 10
      have hindex : (index - blockSize).toNat = index.toNat - blockSize.toNat :=
        UInt32.toNat_sub_of_le _ _ hblock.2
      have hle' : blockSize.toNat ≤ index.toNat - blockSize.toNat := by
        rw [← hindex]
        exact UInt32.le_iff_toNat_le.mp hagain
      have hless := div_sub_block hpos hle
      have hless' := ten_le_div hpos hle'
      have hten : (10 : UInt32) ≤ delay := by
        rw [UInt32.le_iff_toNat_le]
        show 10 ≤ delay.toNat
        omega
      have hdelay : (delay - 10).toNat = delay.toNat - 10 := UInt32.toNat_sub_of_le _ _ hten
      rw [hdelay, hindex]
      omega
  | case2 index delay hblock => simp

end Loop

section Latency
variable {latency : ℚ} {blockSize syncBufIndex : UInt32}

theorem ten_mul_toNat (h : 10 * syncBufIndex.toNat < 2 ^ 32) :
    (10 * syncBufIndex).toNat = 10 * syncBufIndex.toNat := by
  rw [UInt32.toNat_mul]
  exact Nat.mod_eq_of_lt h

theorem sndCardRecDelay_eq (hlatency : 0 ≤ latency) (hindex : 10 * syncBufIndex.toNat < 2 ^ 32)
    (hsum : latency + 10 * syncBufIndex.toNat / blockSize.toNat < 2 ^ 32)
    (hpos : 0 < blockSize) (hle : blockSize ≤ syncBufIndex) :
    (sndCardRecDelay latency syncBufIndex blockSize).toNat + 10 =
      ⌊latency⌋.toNat + 10 * syncBufIndex.toNat / blockSize.toNat := by
  have hquotient : (10 * syncBufIndex / blockSize).toNat =
      10 * syncBufIndex.toNat / blockSize.toNat := by
    rw [UInt32.toNat_div, ten_mul_toNat hindex]
  have hpos' : 0 < blockSize.toNat := UInt32.lt_iff_toNat_lt.mp hpos
  have hten := ten_le_div hpos' (UInt32.le_iff_toNat_le.mp hle)
  have hfloor : 0 ≤ ⌊latency⌋ := Int.floor_nonneg.mpr hlatency
  unfold sndCardRecDelay
  rw [hquotient]
  generalize hk : 10 * syncBufIndex.toNat / blockSize.toNat = k at hten
  have hbelow : (k : ℚ) ≤ 10 * syncBufIndex.toNat / blockSize.toNat := by
    rw [← hk]
    exact_mod_cast Nat.cast_div_le (α := ℚ) (m := 10 * syncBufIndex.toNat) (n := blockSize.toNat)
  have hlt : ⌊latency⌋ + k < 2 ^ 32 := by
    have hcast : ((⌊latency⌋ + k : ℤ) : ℚ) < 2 ^ 32 := by
      push_cast
      have := Int.floor_le latency
      linarith
    exact_mod_cast hcast
  have hvalue : truncate (latency + (k : ℚ) - 10) = ⌊latency⌋ + k - 10 := by
    have hnonneg : 0 ≤ latency + (k : ℚ) - 10 := by
      have : (10 : ℚ) ≤ k := by exact_mod_cast hten
      linarith
    have hshift : latency + (k : ℚ) - 10 = latency + ((k - 10 : ℤ) : ℚ) := by
      push_cast
      ring
    rw [truncate, if_pos hnonneg, hshift, Int.floor_add_intCast]
    omega
  rw [hvalue, UInt32.ofInt, UInt32.toNat_ofNat']
  omega

/-- For every latency and index that 32 bits can hold, each delay passed on is at least the
whole milliseconds of the latency, and less than the latency and all that is pending. -/
theorem recording_delays_in_range (latency : ℚ) (blockSize syncBufIndex : UInt32)
    (hpos : 0 < blockSize) (hlatency : 0 ≤ latency) (hindex : 10 * syncBufIndex.toNat < 2 ^ 32)
    (hsum : latency + 10 * syncBufIndex.toNat / blockSize.toNat < 2 ^ 32) :
    ∀ v ∈ vqeData blockSize syncBufIndex (sndCardRecDelay latency syncBufIndex blockSize),
      v.InRange latency blockSize := by
  intro v hv
  have hstart := sndCardRecDelay_eq hlatency hindex hsum hpos
  obtain ⟨hle, hexact⟩ := vqeData_exact hstart v hv
  have hpos' : 0 < blockSize.toNat := UInt32.lt_iff_toNat_lt.mp hpos
  have hten := ten_le_div hpos' (UInt32.le_iff_toNat_le.mp hle)
  have hfloor : 0 ≤ ⌊latency⌋ := Int.floor_nonneg.mpr hlatency
  have hvalue : (v.sndCardRecDelay.toNat : ℤ) =
      ⌊latency⌋ + ((10 * v.syncBufIndex.toNat / blockSize.toNat : ℕ) : ℤ) - 10 := by
    omega
  refine ⟨?_, by omega, ?_⟩
  · rw [hvalue]
    push_cast
    rfl
  · have hbelow : ((10 * v.syncBufIndex.toNat / blockSize.toNat : ℕ) : ℚ) ≤
        10 * v.syncBufIndex.toNat / blockSize.toNat := by
      exact_mod_cast Nat.cast_div_le (α := ℚ) (m := 10 * v.syncBufIndex.toNat)
        (n := blockSize.toNat)
    have hle' := Int.floor_le latency
    generalize 10 * v.syncBufIndex.toNat / blockSize.toNat = k at hvalue hbelow
    have hcast : (v.sndCardRecDelay.toNat : ℚ) = ⌊latency⌋ + k - 10 := by
      exact_mod_cast hvalue
    rw [hcast]
    linarith

theorem two_blocks_in_range :
    (∀ v ∈ vqeData 480 1000 (sndCardRecDelay (5 / 2) 1000 480), v.InRange (5 / 2) 480) ∧
      vqeData 480 1000 (sndCardRecDelay (5 / 2) 1000 480) = [⟨12, 1000⟩, ⟨2, 520⟩] := by
  refine ⟨?_, by decide +kernel⟩
  refine recording_delays_in_range (5 / 2) 480 1000 (by decide) (by norm_num) (by decide) ?_
  show (5 / 2 : ℚ) + 10 * (1000 : ℕ) / (480 : ℕ) < 2 ^ 32
  norm_num

end Latency

section Blocks

theorem length_vqeData (d : Device) (s : State) {blockSize syncBufIndex : UInt32}
    (sndCardRecDelay : UInt32) (hblock : blockSize.toNat = d.blockSize)
    (hindex : syncBufIndex.toNat = s.syncBufIndex) (hbuffer : d.audioBuffer = true) :
    (vqeData blockSize syncBufIndex sndCardRecDelay).length = (blocks (deliver d s).2).length := by
  fun_induction vqeData blockSize syncBufIndex sndCardRecDelay generalizing s with
  | case1 index delay h ih =>
    have hpos : 0 < d.blockSize := hblock ▸ UInt32.lt_iff_toNat_lt.mp h.1
    have hle : d.blockSize ≤ s.syncBufIndex := hblock ▸ hindex ▸ UInt32.le_iff_toNat_le.mp h.2
    have hrest : (index - blockSize).toNat = s.syncBufIndex - d.blockSize := by
      rw [UInt32.toNat_sub_of_le _ _ h.2, hblock, hindex]
    rw [deliver, dif_pos ⟨hpos, hle⟩, List.length_cons]
    simp only [hbuffer, if_true, blocks_append, List.length_append]
    rw [ih {s with
      syncBuffer := Splice.moveDown s.syncBuffer d.blockBytes
        ((s.syncBufIndex - d.blockSize) * d.audioFrameSize)
      syncBufIndex := s.syncBufIndex - d.blockSize} hrest]
    exact Nat.add_comm _ 1
  | case2 index delay h =>
    have hnone : ¬(0 < d.blockSize ∧ d.blockSize ≤ s.syncBufIndex) := by
      rw [← hblock, ← hindex]
      exact fun hn => h ⟨UInt32.lt_iff_toNat_lt.mpr hn.1, UInt32.le_iff_toNat_le.mpr hn.2⟩
    rw [deliver, dif_neg hnone]
    rfl

end Blocks

end WeiRtcNative.Audio.RecordingDelay
