import Mathlib.Data.List.Chain

/-!
# The start-code scan of OnH264Encoded

`scanLoop` is the loop of the source with its reads bounds-checked: a read outside
`sendBuffer` is a fault, and the loop bound is the unsigned difference
`sendBuffer.size() - 5`. A media buffer holds fewer than 2^32 bytes, so the 32-bit
index itself never wraps. The fragments are written to an `RTPFragmentationHeader`,
which counts its entries in 16 bits: a write behind them is a fault too. `scan` is the
same search as a plain recursion on buffers long enough for the bound; as long as its
hits fit, the fragments are a function of them.
-/

namespace WeiRtcNative.H264.Fragmentation

set_option autoImplicit false

abbrev Bytes := List UInt8

def nalType (header : UInt8) : UInt8 := header &&& 0x1f

structure Fragment where
  offset : Nat
  length : Nat
  deriving DecidableEq, Repr

inductive Fault where
  | readOutside
  | writeOutside
  | outOfFuel
  deriving DecidableEq, Repr

/-- `fragmentationOffset` and `fragmentationLength`; `fragmentationVectorSize` has 16 bits. -/
structure RTPFragmentationHeader where
  fragments : List Fragment
  size_lt : fragments.length < 0x10000
  deriving DecidableEq, Repr

namespace RTPFragmentationHeader

def empty : RTPFragmentationHeader := ⟨[], by decide⟩

def modify (header : RTPFragmentationHeader) (index : Nat) (f : Fragment → Fragment) :
    Except Fault RTPFragmentationHeader :=
  if index < header.fragments.length then
    .ok ⟨header.fragments.modify index f, by simpa using header.size_lt⟩
  else .error .writeOutside

end RTPFragmentationHeader

/-- `VerifyAndAllocateFragmentationHeader`, which calls `Resize`. -/
abbrev Resize := RTPFragmentationHeader → Nat → RTPFragmentationHeader

/-- What the scan relies on: there is room for `size` entries as long as they can be counted, and
the entries written before stay. -/
def Resizes (resize : Resize) : Prop :=
  ∀ header size, header.fragments.length ≤ size → size < 0x10000 →
    ∃ fresh, (resize header size).fragments = header.fragments ++ fresh ∧
      header.fragments.length + fresh.length = size

/-- A `Resize` that takes the size modulo 2^16 and never makes the arrays smaller. -/
def growing : Resize := fun header size =>
  ⟨header.fragments ++
      List.replicate (size % 0x10000 - header.fragments.length) ⟨0, 0⟩, by
    have hsize := header.size_lt
    rw [List.length_append, List.length_replicate]
    omega⟩

theorem growing_resizes : Resizes growing := by
  intro header size hle hlt
  refine ⟨_, rfl, ?_⟩
  rw [List.length_replicate, Nat.mod_eq_of_lt hlt]
  exact Nat.add_sub_cancel' hle

/-- Unsigned 64-bit subtraction of two values below 2^64. -/
def sub64 (a b : Nat) : Nat := if b ≤ a then a - b else a + 0x10000000000000000 - b

theorem sub64_of_le {a b : Nat} (h : b ≤ a) : sub64 a b = a - b := if_pos h

/-- A chain of `&&` over `ptr[0]`, `ptr[1]`, and so on. -/
def allOf : List (UInt8 → Bool) → Bytes → Except Fault Bool
  | [], _ => .ok true
  | _ :: _, [] => .error .readOutside
  | test :: tests, b :: ptr => if test b then allOf tests ptr else .ok false

def isDelimiter (header : UInt8) : Bool := nalType header == 9

def startCode4 : List (UInt8 → Bool) := [(· == 0), (· == 0), (· == 0), (· == 1), (! isDelimiter ·)]

def startCode3 : List (UInt8 → Bool) := [(· == 0), (· == 0), (· == 1), (! isDelimiter ·)]

def prefixLengthFound (ptr : Bytes) : Except Fault Nat :=
  match allOf startCode4 ptr with
  | .error f => .error f
  | .ok true => .ok 4
  | .ok false =>
    match allOf startCode3 ptr with
    | .error f => .error f
    | .ok true => .ok 3
    | .ok false => .ok 0

structure ScanState where
  fragmentationHeader : RTPFragmentationHeader
  fragIdx : Nat
  keyFrame : Bool
  deriving DecidableEq, Repr

/-- Sets the length of the fragment before `fragIdx`, if there is one, so that it ends at `pos`. -/
def closeLast (header : RTPFragmentationHeader) (fragIdx pos : Nat) :
    Except Fault RTPFragmentationHeader :=
  if fragIdx = 0 then .ok header
  else header.modify (fragIdx - 1) fun f => {f with length := sub64 pos f.offset}

section Loop
variable (resize : Resize)

def addFragment (s : ScanState) (i prefixLength : Nat) (header : UInt8) :
    Except Fault ScanState := do
  let allocated := resize s.fragmentationHeader (s.fragIdx + 1)
  let opened ← allocated.modify s.fragIdx fun _ => ⟨i + prefixLength, 0⟩
  let closed ← closeLast opened s.fragIdx i
  return ⟨closed, s.fragIdx + 1, s.keyFrame || nalType header == 5⟩

def scanLoop (sendBuffer : Bytes) : Nat → Nat → ScanState → Except Fault ScanState
  | 0, _, _ => .error .outOfFuel
  | fuel + 1, i, s =>
    if i < sub64 sendBuffer.length 5 then
      let ptr := sendBuffer.drop i
      match prefixLengthFound ptr with
      | .error f => .error f
      | .ok 0 => scanLoop sendBuffer fuel (i + 1) s
      | .ok p =>
        match ptr[p]? with
        | none => .error .readOutside
        | some header => do
          let s ← addFragment resize s i p header
          scanLoop sendBuffer fuel (i + 6) s
    else .ok s

structure EncodedImage where
  keyFrame : Bool
  fragmentationHeader : RTPFragmentationHeader
  deriving DecidableEq, Repr

def EncodedImage.fragments (image : EncodedImage) : List Fragment :=
  image.fragmentationHeader.fragments

/-- The image made of a sample, or `none` for an empty sample. -/
def encodedImage (cleanPoint : Bool) (sendBuffer : Bytes) : Except Fault (Option EncodedImage) :=
  if sendBuffer.length = 0 then .ok none
  else do
    let s ← scanLoop resize sendBuffer (sendBuffer.length + 1) 0 ⟨.empty, 0, cleanPoint⟩
    let header ← closeLast s.fragmentationHeader s.fragIdx sendBuffer.length
    return some ⟨s.keyFrame, header⟩

end Loop

/-- A start code found at `start`, and the header byte after it. -/
structure Hit where
  start : Nat
  prefixLength : Nat
  header : UInt8
  deriving DecidableEq, Repr

/-- The test of the loop body where no read can leave the buffer. -/
def hitAt : Bytes → Option (Nat × UInt8)
  | a :: b :: c :: d :: e :: _ =>
    if a = 0 ∧ b = 0 ∧ c = 0 ∧ d = 1 ∧ isDelimiter e = false then some (4, e)
    else if a = 0 ∧ b = 0 ∧ c = 1 ∧ isDelimiter d = false then some (3, d)
    else none
  | _ => none

def scan (i : Nat) (ptr : Bytes) : List Hit :=
  if _h : 5 < ptr.length then
    match hitAt ptr with
    | none => scan (i + 1) (ptr.drop 1)
    | some (p, header) => ⟨i, p, header⟩ :: scan (i + 6) (ptr.drop 6)
  else []
termination_by ptr.length
decreasing_by all_goals simp only [List.length_drop]; omega

theorem exists_five {ptr : Bytes} (h : 5 < ptr.length) :
    ∃ a b c d e rest, ptr = a :: b :: c :: d :: e :: rest := by
  match ptr, h with
  | a :: b :: c :: d :: e :: rest, _ => exact ⟨a, b, c, d, e, rest, rfl⟩

theorem allOf_eq {tests : List (UInt8 → Bool)} {ptr : Bytes} (h : tests.length ≤ ptr.length) :
    allOf tests ptr = .ok ((tests.zip ptr).all fun t => t.1 t.2) := by
  induction tests generalizing ptr with
  | nil => rfl
  | cons test tests ih =>
    cases ptr with
    | nil => simp at h
    | cons b ptr =>
      have hrest := @ih ptr (by simpa using h)
      cases hb : test b
      · simp [allOf, hb]
      · simpa [allOf, hb] using hrest

theorem prefixLengthFound_eq {ptr : Bytes} (h : 5 < ptr.length) :
    prefixLengthFound ptr = .ok ((hitAt ptr).elim 0 Prod.fst) := by
  obtain ⟨a, b, c, d, e, rest, rfl⟩ := exists_five h
  have h4 : allOf startCode4 (a :: b :: c :: d :: e :: rest) =
      .ok (decide (a = 0 ∧ b = 0 ∧ c = 0 ∧ d = 1 ∧ isDelimiter e = false)) := by
    rw [allOf_eq (by simp [startCode4])]
    simp [startCode4, Bool.decide_and, beq_eq_decide]
  have h3 : allOf startCode3 (a :: b :: c :: d :: e :: rest) =
      .ok (decide (a = 0 ∧ b = 0 ∧ c = 1 ∧ isDelimiter d = false)) := by
    rw [allOf_eq (by simp [startCode3])]
    simp [startCode3, Bool.decide_and, beq_eq_decide]
  simp only [prefixLengthFound, h4, h3, hitAt]
  by_cases hlong : a = 0 ∧ b = 0 ∧ c = 0 ∧ d = 1 ∧ isDelimiter e = false
  · simp only [hlong, and_self, decide_true, if_true, Option.elim]
  · simp only [hlong, decide_false, if_false]
    by_cases hshort : a = 0 ∧ b = 0 ∧ c = 1 ∧ isDelimiter d = false
    · simp only [hshort, and_self, decide_true, if_true, Option.elim]
    · simp only [hshort, decide_false, if_false, Option.elim]

theorem hitAt_some {ptr : Bytes} {p : Nat} {header : UInt8} (h : hitAt ptr = some (p, header)) :
    (p = 3 ∨ p = 4) ∧ ptr[p]? = some header := by
  unfold hitAt at h
  split at h
  · split at h
    · cases h
      exact ⟨Or.inr rfl, rfl⟩
    · split at h
      · cases h
        exact ⟨Or.inl rfl, rfl⟩
      · cases h
  · cases h

def addHit (resize : Resize) (s : ScanState) (h : Hit) : Except Fault ScanState :=
  addFragment resize s h.start h.prefixLength h.header

theorem scan_of_le {ptr : Bytes} (i : Nat) (h : ptr.length ≤ 5) : scan i ptr = [] := by
  rw [scan, dif_neg (by omega)]

theorem scan_miss {ptr : Bytes} (i : Nat) (h : 5 < ptr.length) (hnone : hitAt ptr = none) :
    scan i ptr = scan (i + 1) (ptr.drop 1) := by
  rw [scan, dif_pos h, hnone]

theorem scan_hit {ptr : Bytes} (i : Nat) {p : Nat} {header : UInt8} (h : 5 < ptr.length)
    (hsome : hitAt ptr = some (p, header)) :
    scan i ptr = ⟨i, p, header⟩ :: scan (i + 6) (ptr.drop 6) := by
  rw [scan, dif_pos h, hsome]

section Loop
variable (resize : Resize)

/-- With enough fuel for one step a byte the loop reads nothing outside and adds the hits. -/
theorem scanLoop_eq {sendBuffer : Bytes} (h5 : 5 ≤ sendBuffer.length) (fuel i : Nat)
    (s : ScanState) (hfuel : sendBuffer.length - 5 - i < fuel) :
    scanLoop resize sendBuffer fuel i s =
      (scan i (sendBuffer.drop i)).foldlM (addHit resize) s := by
  induction fuel generalizing i s with
  | zero => omega
  | succ fuel ih =>
    rw [scanLoop, sub64_of_le h5]
    by_cases hi : i < sendBuffer.length - 5
    · have hlen : 5 < (sendBuffer.drop i).length := by
        rw [List.length_drop]
        omega
      simp only [hi, if_true, prefixLengthFound_eq hlen]
      cases hhit : hitAt (sendBuffer.drop i) with
      | none =>
        simp only [Option.elim]
        rw [ih (i + 1) s (by omega), scan_miss i hlen hhit, List.drop_drop]
      | some r =>
        obtain ⟨p, header⟩ := r
        obtain ⟨hp, hread⟩ := hitAt_some hhit
        have hrest : ∀ s, scanLoop resize sendBuffer fuel (i + 6) s =
            (scan (i + 6) (sendBuffer.drop (i + 6))).foldlM (addHit resize) s :=
          fun s => ih (i + 6) s (by omega)
        rw [scan_hit i hlen hhit, List.drop_drop, List.foldlM_cons]
        rcases hp with rfl | rfl
        · simp only [Option.elim, hread, hrest]
          rfl
        · simp only [Option.elim, hread, hrest]
          rfl
    · rw [if_neg hi, scan_of_le i (by rw [List.length_drop]; omega)]
      rfl

/-- A buffer of fewer than five bytes makes the bound wrap, and the loop runs out of it. -/
theorem scanLoop_short {sendBuffer : Bytes} (h5 : sendBuffer.length < 5) (fuel i : Nat)
    (s : ScanState) (hi : i ≤ 10) : ∃ f, scanLoop resize sendBuffer fuel i s = .error f := by
  induction fuel generalizing i s with
  | zero => exact ⟨_, rfl⟩
  | succ fuel ih =>
    have hbound : i < sub64 sendBuffer.length 5 := by
      unfold sub64
      rw [if_neg (by omega)]
      omega
    rw [scanLoop, if_pos hbound]
    cases hptr : sendBuffer.drop i with
    | nil => exact ⟨.readOutside, rfl⟩
    | cons b ptr =>
      have hlt : i < sendBuffer.length := by
        by_contra hle
        rw [List.drop_eq_nil_of_le (by omega)] at hptr
        cases hptr
      dsimp only
      split
      · exact ⟨_, rfl⟩
      · exact ih (i + 1) s (by omega)
      · split
        · exact ⟨_, rfl⟩
        · rename_i header _
          cases addFragment resize s i _ header with
          | error f => exact ⟨f, rfl⟩
          | ok t => exact ih (i + 6) t (by omega)

end Loop

def fragmentsFrom (offset : Nat) : List Hit → Nat → List Fragment
  | [], total => [⟨offset, sub64 total offset⟩]
  | h :: hits, total =>
    ⟨offset, sub64 h.start offset⟩ :: fragmentsFrom (h.start + h.prefixLength) hits total

/-- Each fragment runs from behind its start code to the next hit or to the end. -/
def fragmentsOf : List Hit → Nat → List Fragment
  | [], _ => []
  | h :: hits, total => fragmentsFrom (h.start + h.prefixLength) hits total

theorem modify_append (before after : List Fragment) (g : Fragment) (f : Fragment → Fragment) :
    (before ++ g :: after).modify before.length f = before ++ f g :: after := by
  induction before with
  | nil => rfl
  | cons b before ih => simpa using ih

theorem modify_at {header : RTPFragmentationHeader} {before after : List Fragment} {g : Fragment}
    (h : header.fragments = before ++ g :: after) (f : Fragment → Fragment) :
    ∃ header', header.modify before.length f = .ok header' ∧
      header'.fragments = before ++ f g :: after := by
  refine ⟨_, if_pos (by simp [h]), ?_⟩
  dsimp only
  rw [h, modify_append]

section Header
variable {resize : Resize} (hresize : Resizes resize)

/-- The last of the fragments written so far is closed. -/
theorem closeLast_open {header : RTPFragmentationHeader} {before after : List Fragment}
    {g : Fragment} (h : header.fragments = before ++ g :: after) (pos : Nat) :
    ∃ header', closeLast header (before.length + 1) pos = .ok header' ∧
      header'.fragments = before ++ ⟨g.offset, sub64 pos g.offset⟩ :: after :=
  modify_at h fun f => {f with length := sub64 pos f.offset}

include hresize in
/-- There is room for one more fragment, and it is opened behind those written so far. -/
theorem allocated_opened {header : RTPFragmentationHeader} {n : Nat}
    (hn : header.fragments.length = n) (hroom : n + 1 < 0x10000) (f : Fragment) :
    ∃ opened, (resize header (n + 1)).modify n (fun _ => f) = .ok opened ∧
      opened.fragments = header.fragments ++ [f] := by
  obtain ⟨fresh, hfragments, hlength⟩ := hresize header (n + 1) (by omega) hroom
  subst hn
  obtain ⟨g, hfresh⟩ : ∃ g, fresh = [g] := List.length_eq_one_iff.mp (by omega)
  rw [hfresh] at hfragments
  exact modify_at hfragments fun _ => f

include hresize in
theorem addHit_first (key : Bool) (h : Hit) :
    ∃ header, addHit resize ⟨.empty, 0, key⟩ h =
        .ok ⟨header, 1, key || nalType h.header == 5⟩ ∧
      header.fragments = [⟨h.start + h.prefixLength, 0⟩] := by
  obtain ⟨opened, hmodify, hfragments⟩ := allocated_opened hresize
    (show RTPFragmentationHeader.empty.fragments.length = 0 from rfl) (by decide)
    ⟨h.start + h.prefixLength, 0⟩
  refine ⟨opened, ?_, hfragments⟩
  unfold addHit addFragment
  dsimp only
  rw [hmodify]
  rfl

include hresize in
theorem addHit_next {header : RTPFragmentationHeader} {before : List Fragment} {g : Fragment}
    (hheader : header.fragments = before ++ [g]) (hroom : before.length + 2 < 0x10000) (key : Bool)
    (h : Hit) :
    ∃ header', addHit resize ⟨header, before.length + 1, key⟩ h =
        .ok ⟨header', before.length + 2, key || nalType h.header == 5⟩ ∧
      header'.fragments =
        before ++ [⟨g.offset, sub64 h.start g.offset⟩, ⟨h.start + h.prefixLength, 0⟩] := by
  have hlength : header.fragments.length = before.length + 1 := by simp [hheader]
  obtain ⟨opened, hmodify, hopened⟩ := allocated_opened hresize hlength hroom
    ⟨h.start + h.prefixLength, 0⟩
  rw [hheader, List.append_assoc] at hopened
  obtain ⟨closed, hclose, hclosed⟩ := closeLast_open hopened h.start
  refine ⟨closed, ?_, hclosed⟩
  unfold addHit addFragment
  dsimp only
  rw [hmodify]
  change (closeLast opened (before.length + 1) h.start >>= _) = _
  rw [hclose]
  rfl

include hresize in
/-- As long as the fragments can be counted, the hits after an open one close it and each other. -/
theorem foldlM_addHit_open {header : RTPFragmentationHeader} {before : List Fragment} {g : Fragment}
    (hheader : header.fragments = before ++ [g]) (key : Bool) (total : Nat) (hits : List Hit)
    (hroom : before.length + 1 + hits.length < 0x10000) :
    ∃ last closed, hits.foldlM (addHit resize) ⟨header, before.length + 1, key⟩ =
        .ok ⟨last, before.length + 1 + hits.length,
          key || hits.any fun h => nalType h.header == 5⟩ ∧
      closeLast last (before.length + 1 + hits.length) total = .ok closed ∧
      closed.fragments = before ++ fragmentsFrom g.offset hits total := by
  induction hits generalizing header before g key with
  | nil =>
    obtain ⟨closed, hclose, hclosed⟩ := closeLast_open hheader total
    exact ⟨header, closed, by simp [pure, Except.pure], hclose, hclosed⟩
  | cons h hits ih =>
    rw [List.length_cons] at hroom
    obtain ⟨next, hnext, hfragments⟩ := addHit_next hresize hheader (by omega) key h
    have hsplit : next.fragments = (before ++ [⟨g.offset, sub64 h.start g.offset⟩]) ++
        [⟨h.start + h.prefixLength, 0⟩] := by
      rw [hfragments, List.append_assoc]
      rfl
    have hlength : (before ++ [(⟨g.offset, sub64 h.start g.offset⟩ : Fragment)]).length =
        before.length + 1 := by simp
    obtain ⟨last, closed, hfold, hclose, hclosed⟩ :=
      ih hsplit (key || nalType h.header == 5) (by omega)
    rw [hlength] at hfold hclose
    have hcount : before.length + 1 + (h :: hits).length = before.length + 1 + 1 + hits.length := by
      rw [List.length_cons]
      omega
    refine ⟨last, closed, ?_, ?_, ?_⟩
    · rw [List.foldlM_cons, hnext, hcount, List.any_cons, ← Bool.or_assoc]
      exact hfold
    · rw [hcount]
      exact hclose
    · rw [hclosed, List.append_assoc]
      rfl

include hresize in
theorem foldlM_addHit (key : Bool) (total : Nat) (hits : List Hit)
    (hroom : hits.length < 0x10000) :
    ∃ last closed, hits.foldlM (addHit resize) ⟨.empty, 0, key⟩ =
        .ok ⟨last, hits.length, key || hits.any fun h => nalType h.header == 5⟩ ∧
      closeLast last hits.length total = .ok closed ∧
      closed.fragments = fragmentsOf hits total := by
  cases hits with
  | nil => exact ⟨.empty, .empty, by simp [pure, Except.pure], rfl, rfl⟩
  | cons h hits =>
    rw [List.length_cons] at hroom
    obtain ⟨first, hfirst, hfragments⟩ := addHit_first hresize key h
    have hopen : first.fragments = [] ++ [⟨h.start + h.prefixLength, 0⟩] := hfragments
    obtain ⟨last, closed, hfold, hclose, hclosed⟩ := foldlM_addHit_open hresize
      hopen (key || nalType h.header == 5) total hits (by simpa using by omega)
    have hcount : (h :: hits).length = ([] : List Fragment).length + 1 + hits.length := by
      simp [Nat.add_comm]
    refine ⟨last, closed, ?_, ?_, hclosed⟩
    · rw [List.foldlM_cons, hfirst, hcount, List.any_cons, ← Bool.or_assoc]
      exact hfold
    · rw [hcount]
      exact hclose

/-- Whatever `Resize` does, the header has no entry for the 65536th fragment. -/
theorem addHit_full {s : ScanState} (hfull : s.fragIdx = 0xffff) (h : Hit) :
    addHit resize s h = .error .writeOutside := by
  have hsize := (resize s.fragmentationHeader (s.fragIdx + 1)).size_lt
  unfold addHit addFragment RTPFragmentationHeader.modify
  dsimp only
  rw [if_neg (by omega)]
  rfl

theorem modify_cases (header : RTPFragmentationHeader) (index : Nat) (f : Fragment → Fragment) :
    header.modify index f = .error .writeOutside ∨
      ∃ header', header.modify index f = .ok header' := by
  unfold RTPFragmentationHeader.modify
  split
  · exact .inr ⟨_, rfl⟩
  · exact .inl rfl

theorem closeLast_cases (header : RTPFragmentationHeader) (fragIdx pos : Nat) :
    closeLast header fragIdx pos = .error .writeOutside ∨
      ∃ header', closeLast header fragIdx pos = .ok header' := by
  unfold closeLast
  split
  · exact .inr ⟨_, rfl⟩
  · exact modify_cases _ _ _

variable (resize) in
theorem addFragment_cases (s : ScanState) (i prefixLength : Nat) (header : UInt8) :
    addFragment resize s i prefixLength header = .error .writeOutside ∨
      ∃ t, addFragment resize s i prefixLength header = .ok t ∧ t.fragIdx = s.fragIdx + 1 := by
  unfold addFragment
  dsimp only
  rcases modify_cases (resize s.fragmentationHeader (s.fragIdx + 1)) s.fragIdx
    (fun _ => ⟨i + prefixLength, 0⟩) with hmodify | ⟨opened, hmodify⟩
  · rw [hmodify]
    exact .inl rfl
  · rw [hmodify]
    change (closeLast opened s.fragIdx i >>= _) = _ ∨
      ∃ t, (closeLast opened s.fragIdx i >>= _) = _ ∧ _
    rcases closeLast_cases opened s.fragIdx i with hclose | ⟨closed, hclose⟩
    · rw [hclose]
      exact .inl rfl
    · rw [hclose]
      exact .inr ⟨_, rfl, rfl⟩

theorem foldlM_addHit_full (s : ScanState) (hits : List Hit) (hle : s.fragIdx ≤ 0xffff)
    (hmany : 0x10000 ≤ s.fragIdx + hits.length) :
    hits.foldlM (addHit resize) s = .error .writeOutside := by
  induction hits generalizing s with
  | nil =>
    rw [List.length_nil] at hmany
    omega
  | cons h hits ih =>
    rw [List.length_cons] at hmany
    rw [List.foldlM_cons]
    by_cases hfull : s.fragIdx = 0xffff
    · rw [addHit_full hfull]
      rfl
    · rcases addFragment_cases resize s h.start h.prefixLength h.header with
        herror | ⟨t, hok, hidx⟩
      · rw [addHit, herror]
        rfl
      · rw [addHit, hok]
        exact ih t (by omega) (by omega)

end Header

section Image
variable {resize : Resize}

/-- As long as the header can count the hits, the image has their fragments. -/
theorem encodedImage_eq (hresize : Resizes resize) (cleanPoint : Bool) {sendBuffer : Bytes}
    (h5 : 5 ≤ sendBuffer.length) (hroom : (scan 0 sendBuffer).length < 0x10000) :
    ∃ image, encodedImage resize cleanPoint sendBuffer = .ok (some image) ∧
      image.keyFrame = (cleanPoint || (scan 0 sendBuffer).any fun h => nalType h.header == 5) ∧
      image.fragments = fragmentsOf (scan 0 sendBuffer) sendBuffer.length := by
  have hloop := scanLoop_eq resize h5 (sendBuffer.length + 1) 0
    ⟨.empty, 0, cleanPoint⟩ (by omega)
  obtain ⟨last, closed, hfold, hclose, hclosed⟩ :=
    foldlM_addHit hresize cleanPoint sendBuffer.length (scan 0 sendBuffer) hroom
  rw [List.drop_zero, hfold] at hloop
  refine ⟨⟨_, closed⟩, ?_, rfl, hclosed⟩
  rw [encodedImage, if_neg (by omega), hloop]
  change (closeLast last (scan 0 sendBuffer).length sendBuffer.length >>= _) = _
  rw [hclose]
  rfl

/-- Beyond that it writes behind the arrays. -/
theorem encodedImage_full (cleanPoint : Bool) {sendBuffer : Bytes}
    (hmany : 0x10000 ≤ (scan 0 sendBuffer).length) :
    encodedImage resize cleanPoint sendBuffer = .error .writeOutside := by
  have h5 : 5 ≤ sendBuffer.length := by
    by_contra hshort
    rw [scan_of_le 0 (by omega)] at hmany
    exact absurd hmany (by decide)
  have hloop := scanLoop_eq resize h5 (sendBuffer.length + 1) 0
    ⟨.empty, 0, cleanPoint⟩ (by omega)
  rw [List.drop_zero, foldlM_addHit_full _ _ (Nat.zero_le _) (by simpa using hmany)] at hloop
  rw [encodedImage, if_neg (by omega), hloop]
  rfl

theorem encodedImage_short (cleanPoint : Bool) {sendBuffer : Bytes} (hpos : 0 < sendBuffer.length)
    (h5 : sendBuffer.length < 5) : ∃ f, encodedImage resize cleanPoint sendBuffer = .error f := by
  obtain ⟨f, hf⟩ := scanLoop_short resize h5 (sendBuffer.length + 1) 0
    ⟨.empty, 0, cleanPoint⟩ (by omega)
  refine ⟨f, ?_⟩
  rw [encodedImage, if_neg (by omega), hf]
  rfl

end Image

theorem mem_scan {i : Nat} {ptr : Bytes} {h : Hit} (hm : h ∈ scan i ptr) :
    i ≤ h.start ∧ h.start + 6 ≤ i + ptr.length ∧
      hitAt (ptr.drop (h.start - i)) = some (h.prefixLength, h.header) := by
  fun_induction scan i ptr with
  | case1 i ptr hlen hnone ih =>
    obtain ⟨hle, hend, hhit⟩ := ih hm
    rw [List.length_drop] at hend
    rw [List.drop_drop, show 1 + (h.start - (i + 1)) = h.start - i by omega] at hhit
    exact ⟨by omega, by omega, hhit⟩
  | case2 i ptr hlen p header hsome ih =>
    rcases List.mem_cons.mp hm with rfl | hm
    · refine ⟨Nat.le_refl i, Nat.add_le_add_left hlen i, ?_⟩
      simpa using hsome
    · obtain ⟨hle, hend, hhit⟩ := ih hm
      rw [List.length_drop] at hend
      rw [List.drop_drop, show 6 + (h.start - (i + 6)) = h.start - i by omega] at hhit
      exact ⟨by omega, by omega, hhit⟩
  | case3 i ptr hlen => simp at hm

/-- After a hit the loop skips six bytes. -/
theorem scan_spaced (i : Nat) (ptr : Bytes) :
    (scan i ptr).Pairwise fun h h' => h.start + 6 ≤ h'.start := by
  fun_induction scan i ptr with
  | case1 i ptr hlen hnone ih => exact ih
  | case2 i ptr hlen p header hsome ih =>
    refine List.pairwise_cons.mpr ⟨?_, ih⟩
    intro h' hm
    exact (mem_scan hm).1
  | case3 i ptr hlen => exact .nil

theorem mem_fragmentsOf {hits : List Hit} (hspaced : hits.Pairwise fun h h' => h.start + 6 ≤ h'.start)
    {total : Nat} {f : Fragment} (hf : f ∈ fragmentsOf hits total) :
    ∃ h ∈ hits, f.offset = h.start + h.prefixLength ∧
      (f.length = sub64 total f.offset ∨
        ∃ h' ∈ hits, h.start + 6 ≤ h'.start ∧ f.length = sub64 h'.start f.offset) := by
  induction hits with
  | nil => simp [fragmentsOf] at hf
  | cons h hits ih =>
    obtain ⟨hfirst, hrest⟩ := List.pairwise_cons.mp hspaced
    cases hits with
    | nil =>
      simp only [fragmentsOf, fragmentsFrom, List.mem_singleton] at hf
      subst hf
      exact ⟨h, List.mem_cons_self, rfl, Or.inl rfl⟩
    | cons h' hits =>
      simp only [fragmentsOf, fragmentsFrom, List.mem_cons] at hf
      rcases hf with rfl | hf
      · exact ⟨h, List.mem_cons_self, rfl,
          Or.inr ⟨h', List.mem_cons_of_mem h List.mem_cons_self,
            hfirst h' List.mem_cons_self, rfl⟩⟩
      · obtain ⟨k, hk, hoff, hlen⟩ := ih hrest hf
        refine ⟨k, List.mem_cons_of_mem h hk, hoff, hlen.imp id ?_⟩
        rintro ⟨k', hk', hlt, he⟩
        exact ⟨k', List.mem_cons_of_mem h hk', hlt, he⟩

end WeiRtcNative.H264.Fragmentation
