import Mathlib.Logic.Function.Basic
import WeiRtcNative.Lib.Machine
import WeiRtcNative.Resampling

/-!
# VideoSource: sink wants and frames

`AddOrUpdateSink` and `RemoveSink` change the sinks of the broadcaster, read their combined
wants and give these to the video adapter: three steps, each under a lock of its own, with
any number of threads between them. A reading carries the number of changes made before it,
which the source does not keep.

`OnFrame` hands on a frame as it is or, if the adapter wants another size, a new frame that is
put together from a scaled buffer.
-/

namespace WeiRtcNative.VideoSource

open Machine WeiRtcNative.Frame
set_option autoImplicit false

section Steps
variable {Thread Sink Wants : Type}

inductive Change (Sink Wants : Type) where
  | addOrUpdateSink (sink : Sink) (wants : Wants)
  | removeSink (sink : Sink)
  deriving DecidableEq, Repr

/-- How far a thread has come in its call. -/
inductive Phase (Wants : Type) where
  | idle
  | changed
  | read (wants : Wants) (changesSeen : Nat)
  deriving DecidableEq, Repr

inductive Action (Thread Sink Wants : Type) where
  | change (thread : Thread) (change : Change Sink Wants)
  | readWants (thread : Thread)
  | onSinkWants (thread : Thread)
  deriving DecidableEq, Repr

structure State (Thread Sink Wants : Type) where
  sinks : List (Sink × Wants)
  given : Option Wants
  phase : Thread → Phase Wants
  changes : Nat

variable [DecidableEq Thread] [DecidableEq Sink] (aggregate : List (Sink × Wants) → Wants)

def Change.apply (sinks : List (Sink × Wants)) : Change Sink Wants → List (Sink × Wants)
  | .addOrUpdateSink sink wants =>
    if sinks.any (fun entry => entry.1 = sink) then
      sinks.map fun entry => if entry.1 = sink then (sink, wants) else entry
    else sinks ++ [(sink, wants)]
  | .removeSink sink => sinks.filter fun entry => entry.1 ≠ sink

def initial : State Thread Sink Wants := ⟨[], none, fun _ => .idle, 0⟩

/-- A thread goes on with its call; an action it is not ready for changes nothing. -/
def next (s : State Thread Sink Wants) : Action Thread Sink Wants → State Thread Sink Wants
  | .change thread change =>
    match s.phase thread with
    | .idle =>
      {s with
        sinks := change.apply s.sinks
        phase := Function.update s.phase thread .changed
        changes := s.changes + 1}
    | _ => s
  | .readWants thread =>
    match s.phase thread with
    | .changed =>
      {s with phase := Function.update s.phase thread (.read (aggregate s.sinks) s.changes)}
    | _ => s
  | .onSinkWants thread =>
    match s.phase thread with
    | .read wants _ =>
      {s with given := some wants, phase := Function.update s.phase thread .idle}
    | _ => s

def step (s : State Thread Sink Wants) (action : Action Thread Sink Wants) :
    State Thread Sink Wants × List (State Thread Sink Wants) :=
  (next aggregate s action, [next aggregate s action])

def NoCallInProgress (s : State Thread Sink Wants) : Prop := ∀ thread, s.phase thread = .idle

/-- The adapter was last given what the registered sinks want together. -/
def AdapterCurrent (s : State Thread Sink Wants) : Prop :=
  match s.given with
  | some wants => wants = aggregate s.sinks
  | none => s.sinks = []

def NoLostUpdate (s : State Thread Sink Wants) : Prop :=
  NoCallInProgress s → AdapterCurrent aggregate s

/-- A thread that gives its reading while no other call is in progress gives one that no change
of the sinks has followed. -/
def Condition (s : State Thread Sink Wants) : Action Thread Sink Wants → Prop
  | .onSinkWants thread =>
    (∀ other, other ≠ thread → s.phase other = .idle) →
      ∀ wants seen, s.phase thread = .read wants seen → seen = s.changes
  | _ => True

/-- A reading that no change has followed is up to date. -/
def ReadingsTrue (s : State Thread Sink Wants) : Prop :=
  ∀ thread wants seen, s.phase thread = .read wants seen →
    seen ≤ s.changes ∧ (seen = s.changes → wants = aggregate s.sinks)

variable {aggregate} {s : State Thread Sink Wants}

omit [DecidableEq Sink] in
/-- A reading is the one just made, or one of a thread that has not moved. -/
theorem read_of_update {thread other : Thread} {phase : Phase Wants} {wants : Wants} {seen : Nat}
    (h : Function.update s.phase thread phase other = .read wants seen) :
    phase = .read wants seen ∨ s.phase other = .read wants seen := by
  by_cases hthread : other = thread
  · subst hthread
    exact .inl (by simpa using h)
  · exact .inr (by simpa [hthread] using h)

theorem readingsTrue_change (h : ReadingsTrue aggregate s) (thread : Thread)
    (change : Change Sink Wants) :
    ReadingsTrue aggregate (next aggregate s (.change thread change)) := by
  simp only [next]
  split
  · intro other wants seen hread
    rcases read_of_update hread with hnew | hold
    · cases hnew
    · have hseen := (h other wants seen hold).1
      refine ⟨Nat.le_succ_of_le hseen, ?_⟩
      intro heq
      dsimp only at heq
      omega
  · exact h

theorem readingsTrue_readWants (h : ReadingsTrue aggregate s) (thread : Thread) :
    ReadingsTrue aggregate (next aggregate s (.readWants thread)) := by
  simp only [next]
  split
  · intro other wants seen hread
    rcases read_of_update hread with hnew | hold
    · obtain ⟨rfl, rfl⟩ := Phase.read.inj hnew
      exact ⟨Nat.le_refl _, fun _ => rfl⟩
    · exact h other wants seen hold
  · exact h

theorem readingsTrue_onSinkWants (h : ReadingsTrue aggregate s) (thread : Thread) :
    ReadingsTrue aggregate (next aggregate s (.onSinkWants thread)) := by
  simp only [next]
  split
  · intro other wants seen hread
    rcases read_of_update hread with hnew | hold
    · cases hnew
    · exact h other wants seen hold
  · exact h

theorem next_readingsTrue (h : ReadingsTrue aggregate s) (action : Action Thread Sink Wants) :
    ReadingsTrue aggregate (next aggregate s action) := by
  cases action with
  | change thread change => exact readingsTrue_change h thread change
  | readWants thread => exact readingsTrue_readWants h thread
  | onSinkWants thread => exact readingsTrue_onSinkWants h thread

omit [DecidableEq Thread] [DecidableEq Sink] in
/-- A thread in its call keeps the state from being looked at. -/
theorem noLostUpdate_of_busy (thread : Thread) (h : s.phase thread ≠ .idle) :
    NoLostUpdate aggregate s := by
  intro hquiet
  exact absurd (hquiet thread) h

omit [DecidableEq Sink] in
theorem noCallInProgress_update_idle (s : State Thread Sink Wants) (thread : Thread)
    (wants : Wants) :
    NoCallInProgress {s with
        given := some wants, phase := Function.update s.phase thread .idle} ↔
      ∀ other, other ≠ thread → s.phase other = .idle := by
  constructor
  · intro hquiet other hother
    simpa [hother] using hquiet other
  · intro hothers other
    by_cases hother : other = thread
    · simp [hother]
    · simpa [hother] using hothers other hother

theorem onSinkWants_noLostUpdate (hread : ReadingsTrue aggregate s)
    (h : NoLostUpdate aggregate s) {thread : Thread} (hok : Condition s (.onSinkWants thread)) :
    NoLostUpdate aggregate (next aggregate s (.onSinkWants thread)) := by
  cases hphase : s.phase thread with
  | idle => simpa [next, hphase] using h
  | changed => simpa [next, hphase] using h
  | read wants seen =>
    simp only [next, hphase, NoLostUpdate, noCallInProgress_update_idle, AdapterCurrent]
    intro hothers
    exact (hread thread wants seen hphase).2 (hok hothers wants seen hphase)

theorem next_noLostUpdate (hread : ReadingsTrue aggregate s) (h : NoLostUpdate aggregate s)
    {action : Action Thread Sink Wants} (hok : Condition s action) :
    NoLostUpdate aggregate (next aggregate s action) := by
  cases action with
  | change thread change =>
    simp only [next]
    split
    · apply noLostUpdate_of_busy thread
      simp
    · exact h
  | readWants thread =>
    simp only [next]
    split
    · apply noLostUpdate_of_busy thread
      simp
    · exact h
  | onSinkWants thread => exact onSinkWants_noLostUpdate hread h hok

/-- The states reached so far have lost no update, and the readings in progress can be trusted. -/
structure Inv (aggregate : List (Sink × Wants) → Wants) (log : List (State Thread Sink Wants))
    (s : State Thread Sink Wants) : Prop where
  readings : ReadingsTrue aggregate s
  current : NoLostUpdate aggregate s
  before : ∀ t ∈ log, NoLostUpdate aggregate t

theorem step_inv {log : List (State Thread Sink Wants)} (h : Inv aggregate log s)
    {action : Action Thread Sink Wants} (hok : Condition s action) :
    Inv aggregate (log ++ (step aggregate s action).2) (step aggregate s action).1 := by
  have hnext := next_noLostUpdate h.readings h.current hok
  refine ⟨next_readingsTrue h.readings action, hnext, ?_⟩
  intro t ht
  rcases List.mem_append.mp ht with hold | hnew
  · exact h.before t hold
  · rw [List.mem_singleton.mp hnew]
    exact hnext

/-- No update of the wants is lost in an interleaving in which the call that ends last gives a
reading that no later change has outdated. -/
theorem no_lost_update (aggregate : List (Sink × Wants) → Wants)
    (actions : List (Action Thread Sink Wants))
    (h : Along (step aggregate) (fun _ s action => Condition s action) [] initial actions) :
    ∀ s ∈ (run (step aggregate) initial actions).2, NoLostUpdate aggregate s := by
  have hinitial : Inv aggregate [] (initial : State Thread Sink Wants) := by
    refine ⟨?_, fun _ => rfl, by simp⟩
    intro thread wants seen hphase
    cases hphase
  exact (run_invariant (step aggregate) (Inv aggregate) (fun _ _ _ hlog hok => step_inv hlog hok)
    hinitial h).before

end Steps

/-- The lowest frame rate wanted, 60 without sinks. -/
def maxFramerate (sinks : List (Nat × Nat)) : Nat := (sinks.map Prod.snd).foldr min 60

/-- The second thread changes the sinks before the first one reads their wants, and is done first. -/
def interleaved : List (Action Nat Nat Nat) :=
  [.change 0 (.addOrUpdateSink 0 30), .change 1 (.addOrUpdateSink 1 15), .readWants 1,
    .readWants 0, .onSinkWants 1, .onSinkWants 0]

theorem interleaved_current :
    Along (step maxFramerate) (fun _ s action => Condition s action) [] initial interleaved ∧
      ∀ s ∈ (run (step maxFramerate) initial interleaved).2, NoLostUpdate maxFramerate s := by
  have hcondition :
      Along (step maxFramerate) (fun _ s action => Condition s action) [] initial interleaved := by
    refine ⟨trivial, trivial, trivial, trivial, ?_, ?_, trivial⟩
    · intro _ wants seen hread
      exact (Phase.read.inj hread).2.symm
    · intro _ wants seen hread
      exact (Phase.read.inj hread).2.symm
  exact ⟨hcondition, no_lost_update maxFramerate interleaved hcondition⟩

def overtaken : List (Action Nat Nat Nat) :=
  [.change 0 (.addOrUpdateSink 0 30), .readWants 0, .change 1 (.addOrUpdateSink 1 15),
    .readWants 1, .onSinkWants 1, .onSinkWants 0]

theorem overtaken_reading_stays :
    ¬ ∀ s ∈ (run (step maxFramerate) initial overtaken).2, NoLostUpdate maxFramerate s := by
  intro h
  have hlast : (run (step maxFramerate) initial overtaken).1 ∈
      (run (step maxFramerate) initial overtaken).2 := by
    simp [overtaken, step]
  have hquiet : NoCallInProgress (run (step maxFramerate) initial overtaken).1 := by
    rintro (_ | _ | thread) <;> rfl
  have hcurrent : 30 = 15 := h _ hlast hquiet
  omega

section Frames

universe u
variable {Px : Type u}

structure SourceFrame (Px : Type u) extends BufferedFrame Px where
  id : UInt16

/-- The size of the buffer; `width()` and `height()` do not look at the rotation. -/
def SourceFrame.size (f : SourceFrame Px) : Size := f.videoFrameBuffer.size

def OutSize : Type := {size : Size // size.Positive}

def maybePreprocess (preprocessor : Option (SourceFrame Px → SourceFrame Px))
    (frame : SourceFrame Px) : SourceFrame Px :=
  match preprocessor with
  | some preprocess => preprocess frame
  | none => frame

def scaledFrame (r : Resampler Px) (frame : SourceFrame Px) (out : OutSize) : SourceFrame Px where
  videoFrameBuffer := frame.videoFrameBuffer.scaled r out.1
  rotation := .kVideoRotation0
  timestampUs := frame.timestampUs
  id := frame.id
  positive := out.2

/-- The frames that `OnFrame` gives to the broadcaster; the adapter is asked with nanoseconds and
answers `none` to drop the frame. -/
def onFrame (r : Resampler Px) (preprocessor : Option (SourceFrame Px → SourceFrame Px))
    (adaptFrameResolution : Size → Int → Option OutSize) (originalFrame : SourceFrame Px) :
    List (SourceFrame Px) :=
  let frame := maybePreprocess preprocessor originalFrame
  match adaptFrameResolution frame.size (frame.timestampUs * 1000) with
  | none => []
  | some out =>
    if out.1.height ≠ frame.size.height ∨ out.1.width ≠ frame.size.width then
      [scaledFrame r frame out]
    else [frame]

/-- The frame `g` handed on for `f` is the same frame the same way up, scaled if the adapter
asked for another size. -/
structure Presents (r : Resampler Px) (out : OutSize) (f g : SourceFrame Px) : Prop where
  timestampUs : g.timestampUs = f.timestampUs
  id : g.id = f.id
  picture : g.upright.Same (if out.1 = f.size then f.upright else f.upright.scaled r g.upright.size)

theorem resized_iff (s t : Size) : (s.height ≠ t.height ∨ s.width ≠ t.width) ↔ s ≠ t := by
  obtain ⟨w, h⟩ := s
  obtain ⟨w', h'⟩ := t
  simp only [ne_eq, Size.mk.injEq, not_and_or]
  exact or_comm

theorem presents_self {r : Resampler Px} {out : OutSize} {f : SourceFrame Px}
    (hout : out.1 = f.size) : Presents r out f f := by
  refine ⟨rfl, rfl, ?_⟩
  rw [if_pos hout]
  exact .refl _

/-- The scaled frame shows the buffer as it lies. -/
theorem presents_scaledFrame_iff {r : Resampler Px} {out : OutSize} {f : SourceFrame Px}
    (hout : out.1 ≠ f.size) :
    Presents r out f (scaledFrame r f out) ↔
      (f.videoFrameBuffer.scaled r out.1).Same (f.upright.scaled r out.1) := by
  have hupright : (scaledFrame r f out).upright = f.videoFrameBuffer.scaled r out.1 := rfl
  have hsize : (scaledFrame r f out).upright.size = out.1 := rfl
  constructor
  · intro h
    have hpicture := h.picture
    rwa [if_neg hout, hsize, hupright] at hpicture
  · intro h
    refine ⟨rfl, rfl, ?_⟩
    rwa [if_neg hout, hsize, hupright]

/-- Whatever the scaler, the frame handed on shows the picture the same way up just when the
adapter asks for the size that the frame has, or turning the picture cannot be seen. -/
theorem source_presents_iff (preprocessor : Option (SourceFrame Px → SourceFrame Px))
    (adaptFrameResolution : Size → Int → Option OutSize) (originalFrame : SourceFrame Px) :
    let f := maybePreprocess preprocessor originalFrame
    (∀ out ∈ adaptFrameResolution f.size (f.timestampUs * 1000), ∀ r : Resampler Px,
        ∃ g, onFrame r preprocessor adaptFrameResolution originalFrame = [g] ∧
          Presents r out f g) ↔
      ∀ out ∈ adaptFrameResolution f.size (f.timestampUs * 1000),
        out.1 = f.size ∨ f.videoFrameBuffer.LooksUnturned f.rotation := by
  intro f
  apply forall₂_congr
  intro out hanswer
  have hanswer' : adaptFrameResolution f.size (f.timestampUs * 1000) = some out := hanswer
  by_cases hout : out.1 = f.size
  · refine iff_of_true ?_ (.inl hout)
    intro r
    refine ⟨f, ?_, presents_self hout⟩
    simp only [onFrame]
    rw [hanswer']
    exact if_neg fun h => (resized_iff _ _).mp h hout
  · have hrun : ∀ r, onFrame r preprocessor adaptFrameResolution originalFrame =
        [scaledFrame r f out] := by
      intro r
      simp only [onFrame]
      rw [hanswer']
      exact if_pos ((resized_iff _ _).mpr hout)
    rw [or_iff_right hout, ← Picture.scaleAlike_rotate_iff f.positive out.2, ← f.upright_eq]
    apply forall_congr'
    intro r
    rw [hrun r, ← presents_scaledFrame_iff hout]
    simp

/-- Two columns, dark on the left and bright on the right, upside down. -/
def upsideDown : SourceFrame UInt8 where
  videoFrameBuffer := ⟨⟨4, 2⟩, fun x _ => if x < 2 then 16 else 235⟩
  rotation := .kVideoRotation180
  timestampUs := 40000
  id := 7
  positive := by decide

theorem scaled_frame_upside_down :
    ¬ ∀ out ∈ (some ⟨⟨2, 1⟩, by decide⟩ : Option OutSize),
      ∃ g, onFrame Resampler.nearest none (fun _ _ => some ⟨⟨2, 1⟩, by decide⟩) upsideDown = [g] ∧
        Presents Resampler.nearest out upsideDown g := by
  intro h
  obtain ⟨g, hrun, hpresents⟩ := h _ rfl
  obtain rfl : scaledFrame Resampler.nearest upsideDown ⟨⟨2, 1⟩, by decide⟩ = g :=
    (List.cons.inj hrun).1
  have hsame := (presents_scaledFrame_iff (by decide)).mp hpresents
  have hpixel := hsame.pixel 0 0 (by decide)
  revert hpixel
  decide

end Frames

end WeiRtcNative.VideoSource
