import WeiRtcNative.H264.Fragmentation

/-!
# What the start-code scan reads

The indices of `sendBuffer` read by the loop of `OnH264Encoded`, one list for each
iteration. A read outside the vector has no defined outcome, so the list ends with it.
-/

namespace WeiRtcNative.H264.Fragmentation

set_option autoImplicit false

/-- The reads of `allOf` when `ptr[0]` is the byte at `i`: the one that leaves the buffer
is the last. -/
def allOfReads : List (UInt8 → Bool) → Bytes → Nat → List Nat
  | [], _, _ => []
  | _ :: _, [], i => [i]
  | test :: tests, b :: ptr, i => i :: if test b then allOfReads tests ptr (i + 1) else []

/-- The reads of one iteration: the two conditions, then the header of the unit found. -/
def bodyReads (ptr : Bytes) (i : Nat) : List Nat :=
  allOfReads startCode4 ptr i ++
    match allOf startCode4 ptr with
    | .error _ => []
    | .ok true => [i + 4]
    | .ok false =>
      allOfReads startCode3 ptr i ++
        match allOf startCode3 ptr with
        | .ok true => [i + 3]
        | _ => []

def scanReads (sendBuffer : Bytes) : Nat → Nat → List (List Nat)
  | 0, _ => []
  | fuel + 1, i =>
    if i < sub64 sendBuffer.length 5 then
      let ptr := sendBuffer.drop i
      bodyReads ptr i ::
        match prefixLengthFound ptr with
        | .error _ => []
        | .ok 0 => scanReads sendBuffer fuel (i + 1)
        | .ok p => if p < ptr.length then scanReads sendBuffer fuel (i + 6) else []
    else []

theorem allOf_ok_true {tests : List (UInt8 → Bool)} {ptr : Bytes}
    (h : allOf tests ptr = .ok true) : tests.length ≤ ptr.length := by
  induction tests generalizing ptr with
  | nil => exact Nat.zero_le _
  | cons test tests ih =>
    cases ptr with
    | nil => cases h
    | cons b ptr =>
      by_cases hb : test b
      · rw [allOf, if_pos hb] at h
        exact Nat.succ_le_succ (ih h)
      · rw [allOf, if_neg hb] at h
        cases h

theorem allOfReads_lt_iff (tests : List (UInt8 → Bool)) (ptr : Bytes) (i : Nat) :
    (∀ j ∈ allOfReads tests ptr i, j < i + ptr.length) ↔ ∃ b, allOf tests ptr = .ok b := by
  induction tests generalizing ptr i with
  | nil => simp [allOfReads, allOf]
  | cons test tests ih =>
    cases ptr with
    | nil => simp [allOfReads, allOf]
    | cons b ptr =>
      by_cases hb : test b
      · have hrest := ih ptr (i + 1)
        rw [show i + 1 + ptr.length = i + (b :: ptr).length by simp; omega] at hrest
        simp only [allOfReads, allOf, hb, if_true, List.forall_mem_cons, hrest]
        simp
      · simp [allOfReads, allOf, hb]

theorem prefixLengthFound_lt {ptr : Bytes} {p : Nat} (h : prefixLengthFound ptr = .ok (p + 1)) :
    p + 1 < ptr.length := by
  unfold prefixLengthFound at h
  split at h
  · cases h
  · rename_i h4
    cases h
    exact allOf_ok_true h4
  · split at h
    · cases h
    · rename_i h3
      cases h
      exact allOf_ok_true h3
    · cases h

theorem allOf_error {tests : List (UInt8 → Bool)} {ptr : Bytes} {f : Fault}
    (h : allOf tests ptr = .error f) : f = .readOutside := by
  induction tests generalizing ptr with
  | nil => cases h
  | cons test tests ih =>
    cases ptr with
    | nil =>
      cases h
      rfl
    | cons b ptr =>
      by_cases hb : test b
      · rw [allOf, if_pos hb] at h
        exact ih h
      · rw [allOf, if_neg hb] at h
        cases h

theorem prefixLengthFound_error {ptr : Bytes} {f : Fault} (h : prefixLengthFound ptr = .error f) :
    f = .readOutside := by
  unfold prefixLengthFound at h
  split at h
  · rename_i h4
    cases h
    exact allOf_error h4
  · cases h
  · split at h
    · rename_i h3
      cases h
      exact allOf_error h3
    · cases h
    · cases h

/-- The reads of an iteration stay in the buffer just when its conditions are decided. -/
theorem bodyReads_lt_iff (ptr : Bytes) (i : Nat) :
    (∀ j ∈ bodyReads ptr i, j < i + ptr.length) ↔ ∃ p, prefixLengthFound ptr = .ok p := by
  have hlong := allOfReads_lt_iff startCode4 ptr i
  have hshort := allOfReads_lt_iff startCode3 ptr i
  rw [bodyReads, prefixLengthFound, List.forall_mem_append, hlong]
  cases h4 : allOf startCode4 ptr with
  | error f => simp
  | ok found =>
    cases found with
    | true =>
      have hlen := allOf_ok_true h4
      simpa [startCode4] using Nat.lt_of_succ_le hlen
    | false =>
      dsimp only
      rw [List.forall_mem_append, hshort]
      cases h3 : allOf startCode3 ptr with
      | error f => simp
      | ok found =>
        cases found with
        | true =>
          have hlen := allOf_ok_true h3
          simpa [startCode3] using Nat.lt_of_succ_le hlen
        | false => simp

theorem bodyReads_inside_iff (sendBuffer : Bytes) (i : Nat) :
    (∀ j ∈ bodyReads (sendBuffer.drop i) i, j < sendBuffer.length) ↔
      ∃ p, prefixLengthFound (sendBuffer.drop i) = .ok p := by
  by_cases hi : i ≤ sendBuffer.length
  · have hbody := bodyReads_lt_iff (sendBuffer.drop i) i
    rw [List.length_drop, Nat.add_sub_cancel' hi] at hbody
    exact hbody
  · rw [List.drop_eq_nil_of_le (by omega)]
    have hread : bodyReads [] i = [i] := rfl
    have hfault : prefixLengthFound [] = .error .readOutside := rfl
    simp only [hread, hfault, List.mem_singleton, forall_eq]
    simp
    omega

section Loop
variable {resize : Resize}

theorem addFragment_error {s : ScanState} {i prefixLength : Nat} {header : UInt8} {f : Fault}
    (h : addFragment resize s i prefixLength header = .error f) : f = .writeOutside := by
  rcases addFragment_cases resize s i prefixLength header with herror | ⟨t, hok, -⟩
  · rw [herror] at h
    exact (Except.error.inj h).symm
  · rw [hok] at h
    cases h

/-- As long as the header has room the scan reads inside the buffer just when the loop does not
fault on a read. -/
theorem scanReads_inside_iff (sendBuffer : Bytes) (fuel i : Nat) (s : ScanState)
    (hroom : scanLoop resize sendBuffer fuel i s ≠ .error .writeOutside) :
    (∀ reads ∈ scanReads sendBuffer fuel i, ∀ j ∈ reads, j < sendBuffer.length) ↔
      scanLoop resize sendBuffer fuel i s ≠ .error .readOutside := by
  induction fuel generalizing i s with
  | zero => simp [scanReads, scanLoop]
  | succ fuel ih =>
    rw [scanLoop] at hroom
    rw [scanReads, scanLoop]
    by_cases hi : i < sub64 sendBuffer.length 5
    · rw [if_pos hi] at hroom
      rw [if_pos hi, if_pos hi]
      dsimp only at hroom ⊢
      rw [List.forall_mem_cons, bodyReads_inside_iff]
      cases hfound : prefixLengthFound (sendBuffer.drop i) with
      | error f =>
        have hf := prefixLengthFound_error hfound
        simp [hf]
      | ok p =>
        rw [and_iff_right ⟨p, rfl⟩]
        rw [hfound] at hroom
        cases p with
        | zero => exact ih (i + 1) s hroom
        | succ p =>
          have hp := prefixLengthFound_lt hfound
          simp only [List.getElem?_eq_getElem hp, if_pos hp] at hroom ⊢
          cases hadd : addFragment resize s i (p + 1) (sendBuffer.drop i)[p + 1] with
          | error f =>
            rw [hadd, addFragment_error hadd] at hroom
            exact absurd rfl hroom
          | ok t =>
            rw [hadd] at hroom
            exact ih (i + 6) t hroom
    · simp [hi]

end Loop

/-- With five bytes or more the loop bound keeps every iteration inside the buffer. -/
theorem scanReads_inside {sendBuffer : Bytes} (h5 : 5 ≤ sendBuffer.length) (fuel i : Nat) :
    ∀ reads ∈ scanReads sendBuffer fuel i, ∀ j ∈ reads, j < sendBuffer.length := by
  induction fuel generalizing i with
  | zero => simp [scanReads]
  | succ fuel ih =>
    rw [scanReads, sub64_of_le h5]
    by_cases hi : i < sendBuffer.length - 5
    · have hlen : 5 < (sendBuffer.drop i).length := by
        rw [List.length_drop]
        omega
      have hfound := prefixLengthFound_eq hlen
      rw [if_pos hi]
      dsimp only
      rw [List.forall_mem_cons]
      refine ⟨(bodyReads_inside_iff sendBuffer i).mpr ⟨_, hfound⟩, ?_⟩
      split
      · simp
      · exact ih (i + 1)
      · split
        · exact ih (i + 6)
        · simp
    · simp [hi]

theorem scanReads_length (sendBuffer : Bytes) (h5 : 5 ≤ sendBuffer.length) (fuel i : Nat) :
    (scanReads sendBuffer fuel i).length ≤ sendBuffer.length - 5 - i := by
  induction fuel generalizing i with
  | zero => exact Nat.zero_le _
  | succ fuel ih =>
    rw [scanReads, sub64_of_le h5]
    by_cases hi : i < sendBuffer.length - 5
    · rw [if_pos hi]
      dsimp only
      have hmiss := ih (i + 1)
      have hhit := ih (i + 6)
      rw [List.length_cons]
      split
      · simp only [List.length_nil]
        omega
      · omega
      · split
        · omega
        · simp only [List.length_nil]
          omega
    · simp [hi]

/-- Behind the end of the buffer the next read faults. -/
theorem scanLoop_behind {resize : Resize} {sendBuffer : Bytes} {i : Nat}
    (hend : sendBuffer.length ≤ i) (hbound : i < sub64 sendBuffer.length 5) (fuel : Nat)
    (s : ScanState) : scanLoop resize sendBuffer (fuel + 1) i s = .error .readOutside := by
  rw [scanLoop, if_pos hbound, List.drop_eq_nil_of_le hend]
  rfl

/-- Under five bytes the bound wraps, and every path of the loop reads past the end: it finds at
most one start code, for which the header has room. -/
theorem scanLoop_short_outside {resize : Resize} (hresize : Resizes resize) {sendBuffer : Bytes}
    (h5 : sendBuffer.length < 5) (key : Bool) (fuel i : Nat) (hi : i ≤ 4)
    (hfuel : sendBuffer.length - i < fuel) :
    scanLoop resize sendBuffer (fuel + 1) i ⟨.empty, 0, key⟩ = .error .readOutside := by
  have hbound : ∀ j, j ≤ 10 → j < sub64 sendBuffer.length 5 := by
    intro j hj
    unfold sub64
    rw [if_neg (by omega)]
    omega
  induction fuel generalizing i with
  | zero => omega
  | succ fuel ih =>
    by_cases hlt : i < sendBuffer.length
    · rw [scanLoop, if_pos (hbound i (by omega))]
      dsimp only
      cases hfound : prefixLengthFound (sendBuffer.drop i) with
      | error f =>
        rw [prefixLengthFound_error hfound]
      | ok p =>
        cases p with
        | zero => exact ih (i + 1) (by omega) (by omega)
        | succ p =>
          have hp := prefixLengthFound_lt hfound
          obtain ⟨first, hfirst, -⟩ :=
            addHit_first hresize key ⟨i, p + 1, (sendBuffer.drop i)[p + 1]⟩
          simp only [List.getElem?_eq_getElem hp]
          rw [addHit] at hfirst
          rw [hfirst]
          exact scanLoop_behind (by omega) (hbound (i + 6) (by omega)) fuel _
    · exact scanLoop_behind (by omega) (hbound i (by omega)) (fuel + 1) _

/-- Reads and iterations of the scan do not exceed the sample just when it has five bytes or
more. -/
theorem scan_inside_iff (sendBuffer : Bytes) (hpos : 1 ≤ sendBuffer.length) :
    (∀ fuel, (∀ reads ∈ scanReads sendBuffer fuel 0, ∀ j ∈ reads, j < sendBuffer.length) ∧
        (scanReads sendBuffer fuel 0).length ≤ sendBuffer.length) ↔
      5 ≤ sendBuffer.length := by
  constructor
  · intro h
    by_contra h5
    have houtside := scanLoop_short_outside growing_resizes (Nat.lt_of_not_le h5) false
      (sendBuffer.length + 1) 0 (by omega) (by omega)
    refine (scanReads_inside_iff sendBuffer _ 0 _ ?_).mp (h (sendBuffer.length + 1 + 1)).1 houtside
    rw [houtside]
    simp
  · intro h5 fuel
    have hlength := scanReads_length sendBuffer h5 fuel 0
    exact ⟨scanReads_inside h5 fuel 0, by omega⟩

def idrStart : Bytes := [0, 0, 0, 1, 0x65, 0x88, 0x84]

theorem scan_inside_idrStart : 1 ≤ idrStart.length ∧
    ∀ fuel, (∀ reads ∈ scanReads idrStart fuel 0, ∀ j ∈ reads, j < idrStart.length) ∧
      (scanReads idrStart fuel 0).length ≤ idrStart.length :=
  ⟨by decide, (scan_inside_iff idrStart (by decide)).mpr (by decide)⟩

/-- A sample of one zero byte: the second byte is read at once. -/
theorem one_byte_read_outside :
    ¬ ∀ fuel, (∀ reads ∈ scanReads [0] fuel 0, ∀ j ∈ reads, j < [(0 : UInt8)].length) ∧
      (scanReads [0] fuel 0).length ≤ [(0 : UInt8)].length := by
  intro h
  have hfirst := (h 1).1
  revert hfirst
  decide

end WeiRtcNative.H264.Fragmentation
