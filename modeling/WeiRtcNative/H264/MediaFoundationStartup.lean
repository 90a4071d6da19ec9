import WeiRtcNative.Lib.Machine

/-!
# MFStartup and MFShutdown

Encoders and decoders share the process-wide start count of Media Foundation. Each is
started once by its constructor; a decoder gives its start back once, in its destructor,
while an encoder does so in every `Release` and again in its destructor.
-/

namespace WeiRtcNative.H264.MediaFoundationStartup

open Machine
set_option autoImplicit false

inductive Codec where
  | encoder
  | decoder
  deriving DecidableEq, Repr

def mfStartup (count : Int) : Int := count + 1

def mfShutdown (count : Int) : Int := count - 1

-- the effect of the members of `H264EncoderMFImpl` and `H264DecoderMFImpl` on the count

def construct (_ : Codec) (count : Int) : Int := mfStartup count

def init (_ : Codec) (count : Int) : Int := count

def release (codec : Codec) (count : Int) : Int :=
  match codec with
  | .encoder => mfShutdown count
  | .decoder => count

def destroy (codec : Codec) (count : Int) : Int := mfShutdown (release codec count)

/-- Live objects are kept under their addresses. -/
structure State where
  count : Int
  live : List (Nat × Codec)
  deriving DecidableEq, Repr

inductive Call where
  | construct (object : Nat) (codec : Codec)
  | init (object : Nat)
  | release (object : Nat)
  | destroy (object : Nat)
  deriving DecidableEq, Repr

def initial : State := ⟨0, []⟩

def find (s : State) (object : Nat) : Option Codec := s.live.lookup object

def forget (s : State) (object : Nat) : List (Nat × Codec) :=
  s.live.eraseP fun entry => object == entry.1

def next (s : State) : Call → State
  | .construct object codec =>
    match find s object with
    | none => ⟨construct codec s.count, (object, codec) :: s.live⟩
    | some _ => s
  | .init object =>
    match find s object with
    | none => s
    | some codec => {s with count := init codec s.count}
  | .release object =>
    match find s object with
    | none => s
    | some codec => {s with count := release codec s.count}
  | .destroy object =>
    match find s object with
    | none => s
    | some codec => ⟨destroy codec s.count, forget s object⟩

/-- A call, with the state it leaves behind as the entry of the log. -/
def step (s : State) (call : Call) : State × List State := (next s call, [next s call])

/-- Media Foundation is started while a codec lives and stopped when none does. -/
structure Covered (s : State) : Prop where
  started : (s.live.length : Int) ≤ s.count
  stopped : s.live = [] → s.count = 0

/-- The call neither releases nor destroys an encoder. -/
def Condition (s : State) : Call → Prop
  | .release object | .destroy object => find s object ≠ some .encoder
  | _ => True

def Balanced (s : State) : Prop := s.count = s.live.length

theorem length_forget {s : State} {object : Nat} {codec : Codec}
    (h : find s object = some codec) : (forget s object).length + 1 = s.live.length := by
  obtain ⟨l, r, hlive, -⟩ := List.lookup_eq_some_iff.mp h
  have hmem : (object, codec) ∈ s.live := by
    rw [hlive]
    simp
  have hlength := List.length_eraseP_of_mem (p := fun entry => object == entry.1) hmem (by simp)
  have hpos : 0 < s.live.length := List.length_pos_of_mem hmem
  rw [forget, hlength]
  omega

/-- The starts a call gives back that its object does not have. -/
def deficit (s : State) : Call → Nat
  | .release object | .destroy object => if find s object = some .encoder then 1 else 0
  | _ => 0

/-- What a call changes in the count, beside what it changes in the number of live objects. -/
theorem next_deficit (s : State) (call : Call) :
    (next s call).count - (next s call).live.length =
      s.count - s.live.length - deficit s call := by
  cases call with
  | construct object codec =>
    cases hfind : find s object with
    | none =>
      simp only [next, hfind, construct, mfStartup, deficit, List.length_cons]
      omega
    | some _ => simp [next, hfind, deficit]
  | init object => cases hfind : find s object <;> simp [next, hfind, init, deficit]
  | release object =>
    rcases hfind : find s object with _ | _ | _
    · simp [next, hfind, deficit]
    · simp only [next, hfind, release, mfShutdown, deficit, if_true]
      omega
    · simp [next, hfind, release, deficit]
  | destroy object =>
    rcases hfind : find s object with _ | _ | _
    · simp [next, hfind, deficit]
    · have hlength := length_forget hfind
      simp only [next, hfind, destroy, release, mfShutdown, deficit, if_true]
      omega
    · have hlength := length_forget hfind
      have hdeficit : deficit s (.destroy object) = 0 := by simp [deficit, hfind]
      simp only [next, hfind, destroy, release, mfShutdown, hdeficit]
      omega

theorem condition_iff_deficit (s : State) (call : Call) : Condition s call ↔ deficit s call = 0 := by
  cases call <;> simp [Condition, deficit]

theorem covered_iff_of_deficit {s : State} {n : Nat} (h : s.count - s.live.length = -n) :
    Covered s ↔ n = 0 := by
  constructor
  · intro hs
    have hstarted := hs.started
    omega
  · rintro rfl
    refine ⟨by omega, ?_⟩
    intro hlive
    rw [hlive] at h
    simpa using h

theorem next_covered_iff {s : State} (h : Balanced s) (call : Call) :
    Covered (next s call) ↔ Condition s call := by
  have hdeficit : (next s call).count - (next s call).live.length = -(deficit s call : Int) := by
    rw [next_deficit, h]
    omega
  rw [covered_iff_of_deficit hdeficit, condition_iff_deficit]

theorem next_balanced {s : State} (h : Balanced s) {call : Call} (hcall : Condition s call) :
    Balanced (next s call) := by
  have hdeficit := next_deficit s call
  rw [(condition_iff_deficit s call).mp hcall, h] at hdeficit
  unfold Balanced
  omega

/-- Media Foundation is started just as long as it has to be in those runs in which no encoder
is released or destroyed. -/
theorem startup_covers_iff (calls : List Call) :
    (∀ s ∈ (run step initial calls).2, Covered s) ↔
      Along step (fun _ s call => Condition s call) [] initial calls := by
  apply forall_log_iff_along step (fun _ s => Balanced s)
  · intro _ s call h
    simpa [step] using next_covered_iff h call
  · intro _ s call h hcall
    exact next_balanced h hcall
  · rfl

/-- A released encoder takes the start of a decoder that is still in use. -/
theorem released_encoder_stops_decoder :
    ¬ ∀ s ∈ (run step initial [.construct 0 .decoder, .construct 1 .encoder, .init 1, .release 1,
        .destroy 1]).2, Covered s := by
  intro h
  have hstarted := (h ⟨-1, [(0, .decoder)]⟩ (by decide)).started
  exact absurd hstarted (by decide)

end WeiRtcNative.H264.MediaFoundationStartup
