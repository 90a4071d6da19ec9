import WeiRtcNative.VideoRender

/-!
# VideoRender: drawing on the surface

`OnFrame` leaves each conversion to a coroutine of its own, which compares and resizes the
surface on a background thread and draws on the UI thread. The coroutines of several frames
share the surface, which one more coroutine makes. A call of the graphics API that throws ends
the coroutine it is made in.
-/

namespace WeiRtcNative.Painting

open WeiRtcNative.Frame WeiRtcNative.VideoRender Machine
set_option autoImplicit false

universe u
variable {Px : Type u}

/-- Where `PaintFrameAsync` is: `resizing` between the comparison of the sizes and `Resize`,
`queued` for the UI thread, `drawing` between `CreateDrawingSession` and `Close`. -/
inductive Phase where
  | posted
  | resizing
  | queued
  | drawing
  | ended
  deriving DecidableEq, Repr

structure Paint (Px : Type u) where
  conversion : ToArgb Px
  phase : Phase

structure Screen (Px : Type u) where
  render : VideoRender.State Px
  surface : Option Size
  paints : List (Paint Px)
  /-- The coroutine in whose drawing session the UI thread is. -/
  session : Option Nat

def create (canvas : Size) : Screen Px := ⟨VideoRender.create canvas, none, [], none⟩

/-- The flags say that the call of the graphics API succeeds: `CreateFromBytes`, `Resize`,
`CreateDrawingSession` and `DrawImage`. -/
inductive Action (Px : Type u) where
  | createSurface
  | onFrame (frame : VideoFrame Px)
  | compare (i : Nat) (bitmap : Bool)
  | resize (i : Nat) (resized : Bool)
  | createDrawingSession (i : Nat) (created : Bool)
  | drawImage (i : Nat) (drawn : Bool)

inductive Event (Px : Type u) where
  | surfaceMissing (i : Nat)
  | resized (i : Nat) (session : Option Nat)
  | drawn (i : Nat) (conversion : ToArgb Px) (surface : Size)

def Screen.setPhase (s : Screen Px) (i : Nat) (p : Phase) : Screen Px :=
  {s with paints := s.paints.modify i fun paint => {paint with phase := p}}

section Coroutine
variable (s : Screen Px) (i : Nat)

/-- `if (_surface.Size() != bitmap.Size())`, once the bitmap is made. -/
def compare (bitmap : Bool) : Screen Px × List (Event Px) :=
  match s.paints[i]? with
  | some ⟨c, .posted⟩ =>
    if bitmap then
      match s.surface with
      | none => (s.setPhase i .ended, [.surfaceMissing i])
      | some surface => (s.setPhase i (if surface = c.size then .queued else .resizing), [])
    else (s.setPhase i .ended, [])
  | _ => (s, [])

def resize (resized : Bool) : Screen Px × List (Event Px) :=
  match s.paints[i]? with
  | some ⟨c, .resizing⟩ =>
    (if resized then {s.setPhase i .queued with surface := some c.size} else s.setPhase i .ended,
      [.resized i s.session])
  | _ => (s, [])

/-- The UI thread does one thing at a time. -/
def createDrawingSession (created : Bool) : Screen Px × List (Event Px) :=
  match s.paints[i]?, s.session with
  | some ⟨_, .queued⟩, none =>
    (if created then {s.setPhase i .drawing with session := some i} else s.setPhase i .ended, [])
  | _, _ => (s, [])

/-- `DrawImage` and the end of the session. -/
def drawImage (drawn : Bool) : Screen Px × List (Event Px) :=
  match s.paints[i]?, s.surface with
  | some ⟨c, .drawing⟩, some surface =>
    ({s.setPhase i .ended with session := none}, if drawn then [.drawn i c surface] else [])
  | _, _ => (s, [])

end Coroutine

/-- The conversion that `OnFrame` makes of `frame`, with the buffer as it is then. -/
def conversion [Inhabited Px] (resample : Picture Px → Size → Nat → Nat → Px) (s : Screen Px)
    (frame : VideoFrame Px) : List (ToArgb Px) :=
  (VideoRender.onFrame resample s.render frame).2

def step [Inhabited Px] (resample : Picture Px → Size → Nat → Nat → Px) (s : Screen Px) :
    Action Px → Screen Px × List (Event Px)
  | .createSurface => ({s with surface := s.surface.or (some ⟨0, 0⟩)}, [])
  | .onFrame frame =>
    ({s with
        render := (VideoRender.onFrame resample s.render frame).1
        paints := s.paints ++ (conversion resample s frame).map fun c => ⟨c, .posted⟩}, [])
  | .compare i bitmap => compare s i bitmap
  | .resize i resized => resize s i resized
  | .createDrawingSession i created => createDrawingSession s i created
  | .drawImage i drawn => drawImage s i drawn

/-- A picture is drawn on a surface of its own size, which nobody resizes meanwhile. -/
def Event.Sound : Event Px → Prop
  | .surfaceMissing _ => False
  | .resized _ session => session = none
  | .drawn _ c surface => surface = c.size

/-- The `i`-th coroutine is in the given phase and has not ended. -/
structure Screen.UnderWay (s : Screen Px) (i : Nat) (p : Paint Px) : Prop where
  paint : s.paints[i]? = some p
  phase : p.phase ≠ .ended

/-- The surface is there and, if any coroutine is under way, has the size of the new picture and
of all pictures under way, so that none of them resizes it. -/
def Settled (s : Screen Px) (c : ToArgb Px) : Prop :=
  ∃ surface, s.surface = some surface ∧
    ((∀ i p, ¬ s.UnderWay i p) ∨
      surface = c.size ∧ ∀ i p, s.UnderWay i p → p.conversion.size = surface ∧ p.phase ≠ .resizing)

def Admits [Inhabited Px] (resample : Picture Px → Size → Nat → Nat → Px) (s : Screen Px) :
    Action Px → Prop
  | .onFrame frame => ∀ c ∈ conversion resample s frame, Settled s c
  | _ => True

/-- A step of the coroutines, not a new frame. -/
def Action.Internal : Action Px → Prop
  | .onFrame _ => False
  | _ => True

theorem setPhase_get {s : Screen Px} {i : Nat} {p : Paint Px} (hp : s.paints[i]? = some p)
    (ph : Phase) (j : Nat) (q : Paint Px) :
    (s.setPhase i ph).paints[j]? = some q ↔
      (j = i ∧ q = {p with phase := ph}) ∨ (j ≠ i ∧ s.paints[j]? = some q) := by
  unfold Screen.setPhase
  rw [List.getElem?_modify]
  by_cases hj : j = i
  · subst hj
    simp [hp, eq_comm]
  · simp [hj, Ne.symm hj]

theorem setPhase_same {s : Screen Px} {i : Nat} {p : Paint Px} (hp : s.paints[i]? = some p)
    (ph : Phase) : (s.setPhase i ph).paints[i]? = some {p with phase := ph} :=
  (setPhase_get hp ph i _).mpr (.inl ⟨rfl, rfl⟩)

theorem setPhase_other {s : Screen Px} {i j : Nat} (hj : j ≠ i) (ph : Phase) :
    (s.setPhase i ph).paints[j]? = s.paints[j]? := by
  unfold Screen.setPhase
  rw [List.getElem?_modify]
  simp [Ne.symm hj]

section Frames
variable [Inhabited Px] (resample : Picture Px → Size → Nat → Nat → Px)

theorem step_onFrame (s : Screen Px) (frame : VideoFrame Px) {c : ToArgb Px}
    (hc : conversion resample s frame = [c]) :
    step resample s (.onFrame frame) =
      ({s with
          render := (VideoRender.onFrame resample s.render frame).1
          paints := s.paints ++ [⟨c, .posted⟩]}, []) := by
  simp only [step, hc, List.map_cons, List.map_nil]

theorem conversion_one (s : Screen Px) (frame : VideoFrame Px) :
    ∃ c, conversion resample s frame = [c] :=
  ⟨_, rfl⟩

theorem appended_get {α : Type u} {l : List α} {a b : α} {j : Nat} (h : (l ++ [a])[j]? = some b) :
    l[j]? = some b ∨ j = l.length ∧ b = a := by
  rw [List.getElem?_append] at h
  split at h
  · exact .inl h
  · obtain ⟨hlt, hb⟩ := List.getElem?_eq_some_iff.mp h
    simp only [List.length_singleton] at hlt
    exact .inr ⟨by omega, by simpa using hb.symm⟩

end Frames

/-- The session is that of the one coroutine which draws. -/
def InSession (s : Screen Px) : Prop :=
  ∀ i, s.session = some i ↔ ∃ p, s.paints[i]? = some p ∧ p.phase = .drawing

section Session
variable {s : Screen Px}

theorem create_session (canvas : Size) : InSession (create canvas : Screen Px) := by
  simp [InSession, create]

theorem InSession.move {s' : Screen Px} (h : InSession s) {i : Nat} {p : Paint Px}
    (hp : s.paints[i]? = some p) (ph : Phase) (hpaints : s'.paints = (s.setPhase i ph).paints)
    (hsession : ∀ j, s'.session = some j ↔ if j = i then ph = .drawing else s.session = some j) :
    InSession s' := by
  intro j
  rw [hsession]
  simp only [hpaints, setPhase_get hp]
  split
  · rename_i hj
    simp [hj]
  · rename_i hj
    rw [h]
    simp [hj]

/-- A coroutine outside of the session moves to a phase outside of the session. -/
theorem InSession.outside {s' : Screen Px} (h : InSession s) {i : Nat} {p : Paint Px}
    (hp : s.paints[i]? = some p) (ph : Phase) (hpaints : s'.paints = (s.setPhase i ph).paints)
    (hsame : s'.session = s.session) (hout : p.phase ≠ .drawing) (hph : ph ≠ .drawing) :
    InSession s' := by
  apply h.move hp ph hpaints
  intro j
  rw [hsame]
  split
  · rename_i hj
    subst hj
    simp only [hph, iff_false]
    intro hsession
    obtain ⟨q, hq, hphase⟩ := (h j).mp hsession
    rw [hp] at hq
    obtain rfl := Option.some.inj hq
    exact hout hphase
  · exact Iff.rfl

theorem compare_session (h : InSession s) (i : Nat) (bitmap : Bool) :
    InSession (compare s i bitmap).1 := by
  unfold compare
  split
  · rename_i c hp
    split
    · split
      · exact h.outside hp _ rfl rfl (by simp) (by simp)
      · rename_i surface _
        refine h.outside hp _ rfl rfl (by simp) ?_
        split <;> simp
    · exact h.outside hp _ rfl rfl (by simp) (by simp)
  · exact h

theorem resize_session (h : InSession s) (i : Nat) (resized : Bool) :
    InSession (resize s i resized).1 := by
  unfold resize
  split
  · rename_i c hp
    cases resized with
    | true => exact h.outside hp .queued rfl rfl (by simp) (by simp)
    | false => exact h.outside hp .ended rfl rfl (by simp) (by simp)
  · exact h

theorem createDrawingSession_session (h : InSession s) (i : Nat) (created : Bool) :
    InSession (createDrawingSession s i created).1 := by
  unfold createDrawingSession
  split
  · rename_i c hp hnone
    cases created with
    | true =>
      refine h.move hp .drawing rfl ?_
      intro j
      simp [hnone, eq_comm]
    | false => exact h.outside hp .ended rfl rfl (by simp) (by simp)
  · exact h

theorem drawImage_session (h : InSession s) (i : Nat) (drawn : Bool) :
    InSession (drawImage s i drawn).1 := by
  unfold drawImage
  split
  · rename_i c surface hp _
    refine h.move hp .ended rfl ?_
    intro j
    have hsession : s.session = some i := (h i).mpr ⟨_, hp, rfl⟩
    simp [hsession, eq_comm]
  · exact h

theorem onFrame_session [Inhabited Px] (resample : Picture Px → Size → Nat → Nat → Px)
    (h : InSession s) (frame : VideoFrame Px) : InSession (step resample s (.onFrame frame)).1 := by
  obtain ⟨c, hc⟩ := conversion_one resample s frame
  rw [step_onFrame resample s frame hc]
  intro j
  rw [h j]
  constructor
  · rintro ⟨q, hq, hphase⟩
    exact ⟨q, by rw [List.getElem?_append_left (List.getElem?_eq_some_iff.mp hq).1, hq], hphase⟩
  · rintro ⟨q, hq, hphase⟩
    rcases appended_get hq with hold | ⟨_, rfl⟩
    · exact ⟨q, hold, hphase⟩
    · simp at hphase

theorem step_session [Inhabited Px] (resample : Picture Px → Size → Nat → Nat → Px)
    (h : InSession s) (a : Action Px) : InSession (step resample s a).1 := by
  cases a with
  | createSurface => exact h
  | onFrame frame => exact onFrame_session resample h frame
  | compare i bitmap => exact compare_session h i bitmap
  | resize i resized => exact resize_session h i resized
  | createDrawingSession i created => exact createDrawingSession_session h i created
  | drawImage i drawn => exact drawImage_session h i drawn

end Session

/-- What is queued or drawn fits the surface; if two coroutines are under way, none of them is
about to resize it. -/
structure Inv (s : Screen Px) : Prop where
  surface : ∀ i p, s.UnderWay i p → s.surface ≠ none
  fits : ∀ (i : Nat) (p : Paint Px), s.paints[i]? = some p →
    p.phase = .queued ∨ p.phase = .drawing → s.surface = some p.conversion.size
  settled : ∀ i j p q, i ≠ j → s.UnderWay i p → s.UnderWay j q →
    s.surface = some p.conversion.size ∧ p.phase ≠ .resizing

theorem create_inv (canvas : Size) : Inv (create canvas : Screen Px) where
  surface := by
    intro i p h
    simpa [create] using h.paint
  fits := by simp [create]
  settled := by
    intro i j p q _ h
    simpa [create] using h.paint

/-- The coroutine `i` goes on to the phase `ph`. It changes the surface, or is about to, only
when it is alone. -/
theorem Inv.move {s s' : Screen Px} (h : Inv s) {i : Nat} {p : Paint Px} (hp : s.UnderWay i p)
    (ph : Phase) (hpaints : s'.paints = (s.setPhase i ph).paints)
    (hsurface : s'.surface = s.surface ∨
      s'.surface = some p.conversion.size ∧ ∀ j q, s.UnderWay j q → j = i)
    (hfits : ph = .queued ∨ ph = .drawing → s'.surface = some p.conversion.size)
    (halone : ph = .resizing → ∀ j q, s.UnderWay j q → j = i) : Inv s' := by
  have hget := setPhase_get hp.paint ph
  have hother : ∀ j q, j ≠ i → s'.UnderWay j q → s.UnderWay j q := by
    intro j q hj hq
    refine ⟨?_, hq.phase⟩
    have hpaint := hq.paint
    rw [hpaints, setPhase_other hj] at hpaint
    exact hpaint
  have hkept : ∀ j q, j ≠ i → s.UnderWay j q → s'.surface = s.surface := by
    intro j q hj hq
    rcases hsurface with hsame | ⟨_, hone⟩
    · exact hsame
    · exact absurd (hone j q hq) hj
  constructor
  · intro j q _
    rcases hsurface with hsame | ⟨hnew, _⟩
    · rw [hsame]
      exact h.surface i p hp
    · simp [hnew]
  · intro j q hq hphase
    rw [hpaints, hget] at hq
    rcases hq with ⟨rfl, rfl⟩ | ⟨hj, hq⟩
    · exact hfits hphase
    · have hunder : s.UnderWay j q := ⟨hq, by rcases hphase with h | h <;> simp [h]⟩
      rw [hkept j q hj hunder]
      exact h.fits j q hq hphase
  · intro j k q r hne hq hr
    by_cases hj : j = i
    · subst hj
      have hk := hother k r (Ne.symm hne) hr
      obtain ⟨hsize, _⟩ := h.settled j k p r hne hp hk
      have hpaint := hq.paint
      rw [hpaints, setPhase_same hp.paint] at hpaint
      obtain rfl := Option.some.inj hpaint
      refine ⟨(hkept k r (Ne.symm hne) hk).trans hsize, ?_⟩
      intro hresizing
      exact hne (halone hresizing k r hk).symm
    · have hq' := hother j q hj hq
      rw [hkept j q hj hq']
      have hi : i ≠ j := Ne.symm hj
      exact h.settled j i q p hj hq' hp

section Invariant
variable [Inhabited Px] (resample : Picture Px → Size → Nat → Nat → Px)

theorem Inv.createSurface {s : Screen Px} (h : Inv s) :
    Inv (step resample s .createSurface).1 := by
  cases hsurface : s.surface with
  | none =>
    have hidle : ∀ i p, ¬ s.UnderWay i p := fun i p hp => h.surface i p hp hsurface
    constructor
    · simp [step]
    · intro i p hp hphase
      exact absurd ⟨hp, by rcases hphase with h | h <;> simp [h]⟩ (hidle i p)
    · intro i j p q _ hp
      exact absurd ⟨hp.paint, hp.phase⟩ (hidle i p)
  | some surface =>
    have hsame : (step resample s .createSurface).1 = s := by
      simp only [step, hsurface, Option.some_or]
      rw [← hsurface]
    rw [hsame]
    exact h

theorem Inv.onFrame {s : Screen Px} (h : Inv s) {frame : VideoFrame Px}
    (hsettled : ∀ c ∈ conversion resample s frame, Settled s c) :
    Inv (step resample s (.onFrame frame)).1 := by
  obtain ⟨c, hc⟩ := conversion_one resample s frame
  obtain ⟨surface, hsurface, hother⟩ := hsettled c (by simp [hc])
  rw [step_onFrame resample s frame hc]
  constructor
  · intro j q _
    simp [hsurface]
  · intro j q hq hphase
    rcases appended_get hq with hold | ⟨_, rfl⟩
    · exact h.fits j q hold hphase
    · simp at hphase
  · intro j k q r hne hq hr
    rcases appended_get hq.paint with hold | ⟨hj, rfl⟩
    · have hq' : s.UnderWay j q := ⟨hold, hq.phase⟩
      rcases hother with hidle | ⟨_, hall⟩
      · exact absurd hq' (hidle j q)
      · obtain ⟨hsize, hphase⟩ := hall j q hq'
        exact ⟨by rw [hsize, hsurface], hphase⟩
    · rcases appended_get hr.paint with hold | ⟨hk, _⟩
      · rcases hother with hidle | ⟨hsize, _⟩
        · exact absurd ⟨hold, hr.phase⟩ (hidle k r)
        · exact ⟨by rw [hsurface, hsize], by simp⟩
      · exact absurd (hj.trans hk.symm) hne

end Invariant

section Steps
variable {s : Screen Px}

theorem Inv.compare (h : Inv s) (i : Nat) (bitmap : Bool) : Inv (compare s i bitmap).1 := by
  unfold Painting.compare
  split
  · rename_i c hpaint
    have hp : s.UnderWay i ⟨c, .posted⟩ := ⟨hpaint, by simp⟩
    split
    · split
      · exact h.move hp _ rfl (.inl rfl) (by simp) (by simp)
      · rename_i surface hsurface
        by_cases hsize : surface = c.size
        · rw [if_pos hsize]
          apply h.move hp _ rfl (.inl rfl) ?_ (by simp)
          intro _
          exact hsurface.trans (congrArg some hsize)
        · rw [if_neg hsize]
          apply h.move hp _ rfl (.inl rfl) (by simp) ?_
          -- of two coroutines under way, both pictures would have the size of the surface
          intro _ j q hq
          by_contra hj
          have hsame := (h.settled i j _ q (Ne.symm hj) hp hq).1
          rw [hsurface] at hsame
          exact hsize (Option.some.inj hsame)
    · exact h.move hp _ rfl (.inl rfl) (by simp) (by simp)
  · exact h

theorem Inv.resizing_alone (h : Inv s) {i : Nat} {c : ToArgb Px}
    (hp : s.paints[i]? = some ⟨c, .resizing⟩) (j : Nat) (q : Paint Px) (hq : s.UnderWay j q) :
    j = i := by
  by_contra hj
  exact (h.settled i j _ q (Ne.symm hj) ⟨hp, by simp⟩ hq).2 rfl

theorem Inv.resize (h : Inv s) (i : Nat) (resized : Bool) : Inv (resize s i resized).1 := by
  unfold Painting.resize
  split
  · rename_i c hpaint
    have hp : s.UnderWay i ⟨c, .resizing⟩ := ⟨hpaint, by simp⟩
    cases resized with
    | true =>
      exact h.move hp _ rfl (.inr ⟨rfl, h.resizing_alone hpaint⟩) (fun _ => rfl) (by simp)
       
    | false => exact h.move hp _ rfl (.inl rfl) (by simp) (by simp)
  · exact h

theorem Inv.createDrawingSession (h : Inv s) (i : Nat) (created : Bool) :
    Inv (createDrawingSession s i created).1 := by
  unfold Painting.createDrawingSession
  split
  · rename_i c hpaint hnone
    have hp : s.UnderWay i ⟨c, .queued⟩ := ⟨hpaint, by simp⟩
    cases created with
    | true =>
      exact h.move hp .drawing rfl (.inl rfl) (fun _ => h.fits i _ hpaint (.inl rfl)) (by simp)
    | false =>
      exact h.move hp _ rfl (.inl rfl) (by simp) (by simp)
  · exact h

theorem Inv.drawImage (h : Inv s) (i : Nat) (drawn : Bool) : Inv (drawImage s i drawn).1 := by
  unfold Painting.drawImage
  split
  · rename_i c surface hpaint _
    have hp : s.UnderWay i ⟨c, .drawing⟩ := ⟨hpaint, by simp⟩
    exact h.move hp .ended rfl (.inl rfl) (by simp) (by simp)
  · exact h

theorem compare_sound (h : Inv s) (i : Nat) (bitmap : Bool) :
    ∀ e ∈ (compare s i bitmap).2, e.Sound := by
  unfold compare
  split
  · rename_i c hpaint
    split
    · split
      · rename_i hnone
        exact absurd hnone (h.surface i _ ⟨hpaint, by simp⟩)
      · simp
    · simp
  · simp

/-- The coroutine in a session would be a second one under way. -/
theorem resize_sound (hs : InSession s) (h : Inv s) (i : Nat) (resized : Bool) :
    ∀ e ∈ (resize s i resized).2, e.Sound := by
  unfold resize
  split
  · rename_i c hpaint
    intro e he
    obtain rfl := List.mem_singleton.mp he
    change s.session = none
    cases hsession : s.session with
    | none => rfl
    | some j =>
      obtain ⟨q, hq, hphase⟩ := (hs j).mp hsession
      have hj : j = i := h.resizing_alone hpaint j q ⟨hq, by simp [hphase]⟩
      subst hj
      rw [hpaint] at hq
      obtain rfl := Option.some.inj hq
      simp at hphase
  · simp

theorem drawImage_sound (h : Inv s) (i : Nat) (drawn : Bool) :
    ∀ e ∈ (drawImage s i drawn).2, e.Sound := by
  unfold drawImage
  split
  · rename_i c surface hpaint hsurface
    cases drawn with
    | true =>
      intro e he
      obtain rfl := List.mem_singleton.mp he
      have hfits := h.fits i _ hpaint (.inr rfl)
      rw [hsurface] at hfits
      exact Option.some.inj hfits
    | false => simp
  · simp

variable [Inhabited Px] (resample : Picture Px → Size → Nat → Nat → Px)

theorem step_inv (h : Inv s) {a : Action Px} (hok : Admits resample s a) :
    Inv (step resample s a).1 := by
  cases a with
  | createSurface => exact h.createSurface resample
  | onFrame frame => exact h.onFrame resample hok
  | compare i bitmap => exact h.compare i bitmap
  | resize i resized => exact h.resize i resized
  | createDrawingSession i created => exact h.createDrawingSession i created
  | drawImage i drawn => exact h.drawImage i drawn

theorem step_sound (hs : InSession s) (h : Inv s) (a : Action Px) :
    ∀ e ∈ (step resample s a).2, e.Sound := by
  cases a with
  | createSurface => simp [step]
  | onFrame frame => simp [step]
  | compare i bitmap => exact compare_sound h i bitmap
  | resize i resized => exact resize_sound hs h i resized
  | createDrawingSession i created =>
    simp only [step, createDrawingSession]
    split <;> simp
  | drawImage i drawn => exact drawImage_sound h i drawn

end Steps

/-- Some order of the steps of the coroutines spoils a drawing. -/
def Exposed [Inhabited Px] (resample : Picture Px → Size → Nat → Nat → Px) (s : Screen Px) :
    Prop :=
  ∃ sched : List (Action Px), (∀ a ∈ sched, a.Internal) ∧
    ∃ e ∈ (run (step resample) s sched).2, ¬ e.Sound

section Exposure
variable [Inhabited Px] (resample : Picture Px → Size → Nat → Nat → Px)
variable {s : Screen Px} {i n : Nat} {c d : ToArgb Px}

theorem exposed_after {a : Action Px} (ha : a.Internal) (h : Exposed resample (step resample s a).1) :
    Exposed resample s := by
  obtain ⟨sched, hsched, e, he, hbad⟩ := h
  refine ⟨a :: sched, List.forall_mem_cons.mpr ⟨ha, hsched⟩, e, ?_, hbad⟩
  rw [run_cons]
  exact List.mem_append_right _ he

theorem exposed_now {a : Action Px} (ha : a.Internal) {e : Event Px}
    (he : e ∈ (step resample s a).2) (hbad : ¬ e.Sound) : Exposed resample s := by
  refine ⟨[a], by simpa using ha, e, ?_, hbad⟩
  simpa [run] using he

theorem exposed_missing (hn : s.paints[n]? = some ⟨c, .posted⟩) (hsurface : s.surface = none) :
    Exposed resample s := by
  apply exposed_now resample (a := .compare n true) trivial (e := .surfaceMissing n)
  · simp [step, compare, hn, hsurface]
  · exact id

theorem exposed_in_session {k : Nat} (hn : s.paints[n]? = some ⟨c, .resizing⟩)
    (hk : s.session = some k) : Exposed resample s := by
  apply exposed_now resample (a := .resize n true) trivial (e := .resized n (some k))
  · simp [step, resize, hn, hk]
  · simp [Event.Sound]

/-- One opens its session, then the other resizes. -/
theorem exposed_queued (hi : s.paints[i]? = some ⟨d, .queued⟩)
    (hn : s.paints[n]? = some ⟨c, .resizing⟩) : Exposed resample s := by
  cases hsession : s.session with
  | some k => exact exposed_in_session resample hn hsession
  | none =>
    have hne : n ≠ i := by
      rintro rfl
      simp [hi] at hn
    have hstep : (step resample s (.createDrawingSession i true)).1 =
        {s.setPhase i .drawing with session := some i} := by
      simp [step, createDrawingSession, hi, hsession]
    apply exposed_after resample (a := .createDrawingSession i true) trivial
    rw [hstep]
    exact exposed_in_session resample ((setPhase_other hne .drawing).trans hn) rfl

theorem exposed_two_resizing (hne : n ≠ i) (hi : s.paints[i]? = some ⟨d, .resizing⟩)
    (hn : s.paints[n]? = some ⟨c, .resizing⟩) : Exposed resample s := by
  have hstep : (step resample s (.resize i true)).1 =
      {s.setPhase i .queued with surface := some d.size} := by
    simp [step, resize, hi]
  apply exposed_after resample (a := .resize i true) trivial
  rw [hstep]
  exact exposed_queued resample (setPhase_same hi .queued) ((setPhase_other hne .queued).trans hn)

theorem step_compare {surface : Size} (hn : s.paints[n]? = some ⟨c, .posted⟩)
    (hsurface : s.surface = some surface) :
    (step resample s (.compare n true)).1 =
      s.setPhase n (if surface = c.size then .queued else .resizing) := by
  simp [step, compare, hn, hsurface]

theorem exposed_resizing (hi : s.paints[i]? = some ⟨d, .resizing⟩)
    (hn : s.paints[n]? = some ⟨c, .posted⟩) : Exposed resample s := by
  have hne : i ≠ n := by
    rintro rfl
    simp [hi] at hn
  cases hsurface : s.surface with
  | none => exact exposed_missing resample hn hsurface
  | some surface =>
    have hstill := fun ph => (setPhase_other hne ph).trans hi
    apply exposed_after resample (a := .compare n true) trivial
    rw [step_compare resample hn hsurface]
    split
    · exact exposed_queued resample (setPhase_same hn .queued) (hstill .queued)
    · exact exposed_two_resizing resample hne (setPhase_same hn .resizing) (hstill .resizing)

theorem exposed_posted (hne : n ≠ i) (hi : s.paints[i]? = some ⟨d, .posted⟩)
    (hn : s.paints[n]? = some ⟨c, .posted⟩) {surface : Size} (hsurface : s.surface = some surface)
    (hsize : surface ≠ d.size) : Exposed resample s := by
  apply exposed_after resample (a := .compare i true) trivial
  rw [step_compare resample hi hsurface, if_neg hsize]
  exact exposed_resizing resample (setPhase_same hi .resizing)
    ((setPhase_other hne .resizing).trans hn)

/-- The other coroutine is ready to draw or draws, while the new one resizes. -/
theorem exposed_new (hne : n ≠ i) (hi : s.paints[i]? = some ⟨d, .queued⟩ ∨ s.session = some i)
    (hn : s.paints[n]? = some ⟨c, .posted⟩) {surface : Size} (hsurface : s.surface = some surface)
    (hsize : surface ≠ c.size) : Exposed resample s := by
  apply exposed_after resample (a := .compare n true) trivial
  rw [step_compare resample hn hsurface, if_neg hsize]
  have hresizing := setPhase_same hn .resizing
  rcases hi with hqueued | hsession
  · exact exposed_queued resample ((setPhase_other (Ne.symm hne) .resizing).trans hqueued) hresizing
  · exact exposed_in_session resample hresizing hsession

theorem exposed_unless_settled (hs : InSession s) (h : Inv s) {frame : VideoFrame Px}
    (hc : conversion resample s frame = [c]) (hnot : ¬ Settled s c) :
    Exposed resample (step resample s (.onFrame frame)).1 := by
  rw [step_onFrame resample s frame hc]
  have hnew : (s.paints ++ [(⟨c, .posted⟩ : Paint Px)])[s.paints.length]? = some ⟨c, .posted⟩ := by
    simp
  have hold : ∀ (i : Nat) (p : Paint Px), s.paints[i]? = some p → s.paints.length ≠ i ∧
      (s.paints ++ [(⟨c, .posted⟩ : Paint Px)])[i]? = some p := by
    intro i p hp
    have hlt := (List.getElem?_eq_some_iff.mp hp).1
    exact ⟨by omega, by rw [List.getElem?_append_left hlt, hp]⟩
  rcases Option.eq_none_or_eq_some s.surface with hsurface | ⟨surface, hsurface⟩
  · exact exposed_missing resample hnew hsurface
  · have hunsettled : ∃ i p, s.UnderWay i p ∧ ¬ (surface = c.size ∧
        p.conversion.size = surface ∧ p.phase ≠ .resizing) := by
      by_contra hall
      push Not at hall
      apply hnot
      refine ⟨surface, hsurface, ?_⟩
      by_cases hidle : ∀ i p, ¬ s.UnderWay i p
      · exact .inl hidle
      · push Not at hidle
        obtain ⟨i, p, hp⟩ := hidle
        exact .inr ⟨(hall i p hp).1, fun j q hq => (hall j q hq).2⟩
    obtain ⟨i, ⟨d, ph⟩, ⟨hp, hphase⟩, hmisfit⟩ := hunsettled
    obtain ⟨hne, hi⟩ := hold i _ hp
    cases ph with
    | posted =>
      by_cases hsize : surface = d.size
      · have hsize' : surface ≠ c.size := fun heq => hmisfit ⟨heq, hsize.symm, by simp⟩
        exact exposed_posted resample (Ne.symm hne) hnew hi hsurface hsize'
      · exact exposed_posted resample hne hi hnew hsurface hsize
    | resizing => exact exposed_resizing resample hi hnew
    | queued =>
      have hfits := h.fits i _ hp (.inl rfl)
      rw [hsurface] at hfits
      refine exposed_new resample hne (.inl hi) hnew hsurface ?_
      exact fun heq => hmisfit ⟨heq, (Option.some.inj hfits).symm, by simp⟩
    | drawing =>
      have hfits := h.fits i _ hp (.inr rfl)
      rw [hsurface] at hfits
      refine exposed_new resample (d := d) hne (.inr ((hs i).mpr ⟨_, hp, rfl⟩)) hnew hsurface ?_
      exact fun heq => hmisfit ⟨heq, (Option.some.inj hfits).symm, by simp⟩
    | ended => exact absurd rfl hphase

end Exposure

section Runs
variable [Inhabited Px] (resample : Picture Px → Size → Nat → Nat → Px)

/-- Conditions on new frames only admit all steps of the coroutines. -/
theorem internal_along {ok : Screen Px → Action Px → Prop}
    (hok : ∀ s (a : Action Px), a.Internal → ok s a) {sched : List (Action Px)}
    (h : ∀ a ∈ sched, a.Internal) (log : List (Event Px)) (s : Screen Px) :
    Along (step resample) (fun _ => ok) log s sched :=
  along_imp (step resample) (fun _ => True) (fun _ _ _ => trivial) (fun _ t a _ ha => hok t a ha)
    trivial (along_of_forall (step resample) h log s)

theorem internal_admits (s : Screen Px) (a : Action Px) (ha : a.Internal) : Admits resample s a := by
  cases a with
  | onFrame frame => exact ha.elim
  | _ => trivial

def Safe (log : List (Event Px)) (s : Screen Px) : Prop :=
  InSession s ∧ Inv s ∧ ∀ e ∈ log, e.Sound

theorem step_safe (log : List (Event Px)) (s : Screen Px) (a : Action Px) (h : Safe log s)
    (hok : Admits resample s a) : Safe (log ++ (step resample s a).2) (step resample s a).1 := by
  obtain ⟨hs, hinv, hlog⟩ := h
  refine ⟨step_session resample hs a, step_inv resample hinv hok, ?_⟩
  exact List.forall_mem_append.mpr ⟨hlog, step_sound resample hs hinv a⟩

/-- The further frame joins the coroutines under way. -/
theorem painting_sound_iff (canvas : Size) (actions : List (Action Px))
    (hok : Along (step resample) (fun _ => Admits resample) [] (create canvas) actions)
    (frame : VideoFrame Px) :
    (∀ sched : List (Action Px), (∀ a ∈ sched, a.Internal) →
        ∀ e ∈ (run (step resample) (create canvas) (actions ++ .onFrame frame :: sched)).2,
          e.Sound) ↔
      Admits resample (run (step resample) (create canvas) actions).1 (.onFrame frame) := by
  have hsafe := run_invariant (step resample) Safe (step_safe resample)
    ⟨create_session canvas, create_inv canvas, by simp⟩ hok
  constructor
  · intro h c hc
    by_contra hnot
    obtain ⟨d, hd⟩ := conversion_one resample (run (step resample) (create canvas) actions).1 frame
    rw [hd, List.mem_singleton] at hc
    subst hc
    obtain ⟨sched, hsched, e, he, hbad⟩ := exposed_unless_settled resample hsafe.1 hsafe.2.1 hd hnot
    refine hbad (h sched hsched e ?_)
    rw [run_append, run_cons]
    exact List.mem_append_right _ (List.mem_append_right _ he)
  · intro hadmits sched hsched
    have hrest : Along (step resample) (fun _ => Admits resample)
        (run (step resample) (create canvas) actions).2
        (run (step resample) (create canvas) actions).1 (.onFrame frame :: sched) :=
      ⟨hadmits, internal_along resample (internal_admits resample) hsched _ _⟩
    rw [run_append]
    exact (run_invariant_from (step resample) Safe (step_safe resample) hsafe hrest).2.2

end Runs

/-- The surface has been resized for the first picture, which waits for the UI thread. -/
def resizedOnce : List (Action UInt8) :=
  [.createSurface, .onFrame (blackFrame ⟨320, 240⟩), .compare 0 true, .resize 0 true]

theorem resizedOnce_admitted :
    Along (step pointSample) (fun _ => Admits pointSample) [] (create ⟨320, 240⟩) resizedOnce := by
  unfold resizedOnce
  refine ⟨trivial, ?_, trivial, trivial, trivial⟩
  intro c _
  refine ⟨⟨0, 0⟩, rfl, .inl ?_⟩
  intro i p hp
  exact absurd hp.paint (by simp [step, create])

/-- A second frame while the first picture waits. -/
theorem painting_sound_when_resized :
    (∀ sched : List (Action UInt8), (∀ a ∈ sched, a.Internal) →
        ∀ e ∈ (run (step pointSample) (create ⟨320, 240⟩)
          (resizedOnce ++ .onFrame (blackFrame ⟨320, 240⟩) :: sched)).2, e.Sound) ↔
      Admits pointSample (run (step pointSample) (create ⟨320, 240⟩) resizedOnce).1
        (.onFrame (blackFrame ⟨320, 240⟩)) :=
  painting_sound_iff pointSample ⟨320, 240⟩ resizedOnce resizedOnce_admitted
    (blackFrame ⟨320, 240⟩)

end WeiRtcNative.Painting
