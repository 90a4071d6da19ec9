import WeiRtcNative.Painting

/-!
# VideoRender: the order of drawing

Each coroutine draws its own conversion, at most once. A coroutine that waits for the
background thread or the UI thread can be overtaken by that of a later frame.
-/

namespace WeiRtcNative.Painting

open WeiRtcNative.Frame WeiRtcNative.VideoRender Machine
set_option autoImplicit false

universe u
variable {Px : Type u}

/-- The numbers of the frames drawn, in the order of drawing. -/
def drawnFrames (log : List (Event Px)) : List Nat :=
  log.filterMap fun
    | .drawn i _ _ => some i
    | _ => none

/-- No picture that is still to be drawn can be overtaken by a new one. -/
def InTurn (s : Screen Px) : Action Px → Prop
  | .onFrame _ => ∀ i p, s.UnderWay i p → p.phase = .drawing
  | _ => True

theorem internal_inTurn (s : Screen Px) (a : Action Px) (ha : a.Internal) : InTurn s a := by
  cases a with
  | onFrame frame => exact ha.elim
  | _ => trivial

structure Turns (log : List (Event Px)) (s : Screen Px) : Prop where
  session : InSession s
  sorted : (drawnFrames log).Pairwise (· < ·)
  taken : ∀ k ∈ drawnFrames log, k < s.paints.length
  ahead : ∀ i p, s.UnderWay i p → ∀ k ∈ drawnFrames log, k < i
  turn : ∀ i j p q, i < j → s.UnderWay i p → s.UnderWay j q → p.phase = .drawing

section Order
variable {s : Screen Px} {log : List (Event Px)}

@[simp] theorem drawnFrames_append (evs evs' : List (Event Px)) :
    drawnFrames (evs ++ evs') = drawnFrames evs ++ drawnFrames evs' :=
  List.filterMap_append ..

/-- What a step of a coroutine does: nothing, or the coroutine goes on. It draws at the end of
its session only. -/
inductive Moves (s s' : Screen Px) (evs : List (Event Px)) : Prop where
  | stays (hpaints : s'.paints = s.paints) (hdrawn : drawnFrames evs = [])
  | goes {i : Nat} {p : Paint Px} (hp : s.UnderWay i p) (ph : Phase)
      (hpaints : s'.paints = (s.setPhase i ph).paints) (hphase : p.phase ≠ .drawing)
      (hdrawn : drawnFrames evs = [])
  | ends {i : Nat} {p : Paint Px} (hp : s.UnderWay i p)
      (hpaints : s'.paints = (s.setPhase i .ended).paints) (hphase : p.phase = .drawing)
      (hdrawn : drawnFrames evs = [] ∨ drawnFrames evs = [i])

theorem compare_moves (s : Screen Px) (i : Nat) (bitmap : Bool) :
    Moves s (compare s i bitmap).1 (compare s i bitmap).2 := by
  unfold compare
  split
  · rename_i c hpaint
    have hp : s.UnderWay i ⟨c, .posted⟩ := ⟨hpaint, by simp⟩
    split
    · split
      · exact .goes hp .ended rfl (by simp) rfl
      · exact .goes hp _ rfl (by simp) rfl
    · exact .goes hp .ended rfl (by simp) rfl
  · exact .stays rfl rfl

theorem resize_moves (s : Screen Px) (i : Nat) (resized : Bool) :
    Moves s (resize s i resized).1 (resize s i resized).2 := by
  unfold resize
  split
  · rename_i c hpaint
    have hp : s.UnderWay i ⟨c, .resizing⟩ := ⟨hpaint, by simp⟩
    cases resized with
    | true => exact .goes hp .queued rfl (by simp) rfl
    | false => exact .goes hp .ended rfl (by simp) rfl
  · exact .stays rfl rfl

theorem createDrawingSession_moves (s : Screen Px) (i : Nat) (created : Bool) :
    Moves s (createDrawingSession s i created).1 (createDrawingSession s i created).2 := by
  unfold createDrawingSession
  split
  · rename_i c hpaint _
    have hp : s.UnderWay i ⟨c, .queued⟩ := ⟨hpaint, by simp⟩
    cases created with
    | true => exact .goes hp .drawing rfl (by simp) rfl
    | false => exact .goes hp .ended rfl (by simp) rfl
  · exact .stays rfl rfl

theorem drawImage_moves (s : Screen Px) (i : Nat) (drawn : Bool) :
    Moves s (drawImage s i drawn).1 (drawImage s i drawn).2 := by
  unfold drawImage
  split
  · rename_i c surface hpaint _
    have hp : s.UnderWay i ⟨c, .drawing⟩ := ⟨hpaint, by simp⟩
    cases drawn with
    | true => exact .ends hp rfl rfl (.inr rfl)
    | false => exact .ends hp rfl rfl (.inl rfl)
  · exact .stays rfl rfl

/-- A coroutine under way after the step was so before it. -/
theorem underWay_of_set {s' : Screen Px} {i : Nat} {p : Paint Px} (hp : s.paints[i]? = some p)
    {ph : Phase} (hpaints : s'.paints = (s.setPhase i ph).paints) {j : Nat} {q : Paint Px}
    (hq : s'.UnderWay j q) :
    (j = i ∧ q = {p with phase := ph} ∧ ph ≠ .ended) ∨ (j ≠ i ∧ s.UnderWay j q) := by
  have hpaint := hq.paint
  rw [hpaints, setPhase_get hp] at hpaint
  rcases hpaint with ⟨hj, rfl⟩ | ⟨hj, hold⟩
  · exact .inl ⟨hj, rfl, hq.phase⟩
  · exact .inr ⟨hj, hold, hq.phase⟩

theorem setPhase_length (s : Screen Px) (i : Nat) (ph : Phase) :
    (s.setPhase i ph).paints.length = s.paints.length :=
  List.length_modify ..

theorem Turns.goes {s' : Screen Px} {evs : List (Event Px)} (h : Turns log s) {i : Nat}
    {p : Paint Px} (hp : s.UnderWay i p) (ph : Phase)
    (hpaints : s'.paints = (s.setPhase i ph).paints) (hphase : p.phase ≠ .drawing)
    (hdrawn : drawnFrames evs = []) (hsession : InSession s') : Turns (log ++ evs) s' := by
  have hlog : drawnFrames (log ++ evs) = drawnFrames log := by simp [hdrawn]
  refine ⟨hsession, by rw [hlog]; exact h.sorted, ?_, ?_, ?_⟩
  · rw [hlog, hpaints, setPhase_length]
    exact h.taken
  · rw [hlog]
    intro j q hq
    rcases underWay_of_set hp.paint hpaints hq with ⟨rfl, _⟩ | ⟨_, hold⟩
    · exact h.ahead j p hp
    · exact h.ahead j q hold
  · intro j k q r hlt hq hr
    rcases underWay_of_set hp.paint hpaints hq with ⟨rfl, _⟩ | ⟨_, hold⟩
    · -- a later coroutine under way would have kept this one out of all other phases
      rcases underWay_of_set hp.paint hpaints hr with ⟨rfl, _⟩ | ⟨_, hold'⟩
      · exact absurd hlt (Nat.lt_irrefl _)
      · exact absurd (h.turn j k p r hlt hp hold') hphase
    · rcases underWay_of_set hp.paint hpaints hr with ⟨rfl, _⟩ | ⟨_, hold'⟩
      · exact h.turn j k q p hlt hold hp
      · exact h.turn j k q r hlt hold hold'

theorem Turns.ends {s' : Screen Px} {evs : List (Event Px)} (h : Turns log s) {i : Nat}
    {p : Paint Px} (hp : s.UnderWay i p) (hpaints : s'.paints = (s.setPhase i .ended).paints)
    (hphase : p.phase = .drawing) (hdrawn : drawnFrames evs = [] ∨ drawnFrames evs = [i])
    (hsession : InSession s') : Turns (log ++ evs) s' := by
  have hmem : ∀ k ∈ drawnFrames (log ++ evs), k ∈ drawnFrames log ∨ k = i := by
    intro k hk
    rcases hdrawn with hnone | hone
    · exact .inl (by simpa [hnone] using hk)
    · simpa [hone] using hk
  have hother : ∀ j q, s'.UnderWay j q → j ≠ i ∧ s.UnderWay j q := by
    intro j q hq
    rcases underWay_of_set hp.paint hpaints hq with ⟨_, _, hended⟩ | hold
    · exact absurd rfl hended
    · exact hold
  refine ⟨hsession, ?_, ?_, ?_, ?_⟩
  · rcases hdrawn with hnone | hone
    · simpa [hnone] using h.sorted
    · rw [drawnFrames_append, hone, List.pairwise_append]
      exact ⟨h.sorted, List.pairwise_singleton _ _, by simpa using h.ahead i p hp⟩
  · intro k hk
    rw [hpaints, setPhase_length]
    rcases hmem k hk with hold | rfl
    · exact h.taken k hold
    · exact (List.getElem?_eq_some_iff.mp hp.paint).1
  · intro j q hq k hk
    obtain ⟨hj, hold⟩ := hother j q hq
    rcases hmem k hk with hk | rfl
    · exact h.ahead j q hold k hk
    · -- an earlier coroutine under way would be in the session as well
      by_contra hlt
      have hdrawing := h.turn j k q p (by omega) hold hp
      have hj' := (h.session j).mpr ⟨q, hold.paint, hdrawing⟩
      rw [(h.session k).mpr ⟨p, hp.paint, hphase⟩] at hj'
      exact hj (Option.some.inj hj').symm
  · intro j k q r hlt hq hr
    exact h.turn j k q r hlt (hother j q hq).2 (hother k r hr).2

theorem Turns.moved {s' : Screen Px} {evs : List (Event Px)} (h : Turns log s)
    (hmoves : Moves s s' evs) (hsession : InSession s') : Turns (log ++ evs) s' := by
  cases hmoves with
  | stays hpaints hdrawn =>
    have hlog : drawnFrames (log ++ evs) = drawnFrames log := by simp [hdrawn]
    have hunder : ∀ j q, s'.UnderWay j q → s.UnderWay j q := by
      intro j q hq
      exact ⟨hpaints ▸ hq.paint, hq.phase⟩
    refine ⟨hsession, by rw [hlog]; exact h.sorted, by rw [hlog, hpaints]; exact h.taken, ?_, ?_⟩
    · rw [hlog]
      exact fun j q hq => h.ahead j q (hunder j q hq)
    · exact fun j k q r hlt hq hr => h.turn j k q r hlt (hunder j q hq) (hunder k r hr)
  | goes hp ph hpaints hphase hdrawn => exact h.goes hp ph hpaints hphase hdrawn hsession
  | ends hp hpaints hphase hdrawn => exact h.ends hp hpaints hphase hdrawn hsession

variable [Inhabited Px] (resample : Picture Px → Size → Nat → Nat → Px)

theorem Turns.onFrame (h : Turns log s) (frame : VideoFrame Px)
    (hturn : ∀ i p, s.UnderWay i p → p.phase = .drawing) :
    Turns log (step resample s (.onFrame frame)).1 := by
  obtain ⟨c, hc⟩ := conversion_one resample s frame
  have hsession := onFrame_session resample h.session frame
  rw [step_onFrame resample s frame hc] at hsession ⊢
  refine ⟨hsession, h.sorted, ?_, ?_, ?_⟩
  · intro k hk
    have hlt := h.taken k hk
    simp only [List.length_append, List.length_singleton]
    omega
  · intro j q hq k hk
    rcases appended_get hq.paint with hold | ⟨rfl, _⟩
    · exact h.ahead j q ⟨hold, hq.phase⟩ k hk
    · exact h.taken k hk
  · intro j k q r hlt hq hr
    rcases appended_get hq.paint with hold | ⟨hj, _⟩
    · exact hturn j q ⟨hold, hq.phase⟩
    · have hk := (List.getElem?_eq_some_iff.mp hr.paint).1
      simp only [List.length_append, List.length_singleton] at hk
      omega

theorem step_turns (log : List (Event Px)) (s : Screen Px) (a : Action Px) (h : Turns log s)
    (hok : InTurn s a) : Turns (log ++ (step resample s a).2) (step resample s a).1 := by
  have hsession := step_session resample h.session a
  cases a with
  | createSurface => exact h.moved (.stays rfl rfl) hsession
  | onFrame frame =>
    have hnext := h.onFrame resample frame hok
    simpa [step] using hnext
  | compare i bitmap => exact h.moved (compare_moves s i bitmap) hsession
  | resize i resized => exact h.moved (resize_moves s i resized) hsession
  | createDrawingSession i created => exact h.moved (createDrawingSession_moves s i created) hsession
  | drawImage i drawn => exact h.moved (drawImage_moves s i drawn) hsession

/-- Steps of the coroutines that draw the picture `n` and leave the others where they are. -/
def Draws (s : Screen Px) (n : Nat) : Prop :=
  ∃ sched : List (Action Px), (∀ a ∈ sched, a.Internal) ∧
    drawnFrames (run (step resample) s sched).2 = [n] ∧
    (run (step resample) s sched).1.surface ≠ none ∧
    (run (step resample) s sched).1.session = none ∧
    ∀ j, j ≠ n → (run (step resample) s sched).1.paints[j]? = s.paints[j]?

theorem draws_after {n : Nat} {a : Action Px} (ha : a.Internal)
    (hquiet : drawnFrames (step resample s a).2 = [])
    (hothers : ∀ j, j ≠ n → (step resample s a).1.paints[j]? = s.paints[j]?)
    (h : Draws resample (step resample s a).1 n) : Draws resample s n := by
  obtain ⟨sched, hsched, hdrawn, hsurface, hsession, hrest⟩ := h
  refine ⟨a :: sched, List.forall_mem_cons.mpr ⟨ha, hsched⟩, ?_, hsurface, hsession, ?_⟩
  · rw [run_cons, drawnFrames_append, hquiet, List.nil_append, hdrawn]
  · intro j hj
    exact (hrest j hj).trans (hothers j hj)

theorem step_drawImage {n : Nat} {c : ToArgb Px} (hn : s.paints[n]? = some ⟨c, .drawing⟩)
    {surface : Size} (hsurface : s.surface = some surface) :
    step resample s (.drawImage n true) =
      ({s.setPhase n .ended with session := none}, [.drawn n c surface]) := by
  simp [step, drawImage, hn, hsurface]

theorem draws_queued {n : Nat} {c : ToArgb Px} (hn : s.paints[n]? = some ⟨c, .queued⟩)
    {surface : Size} (hsurface : s.surface = some surface) (hsession : s.session = none) :
    Draws resample s n := by
  have hopen : (step resample s (.createDrawingSession n true)).1 =
      {s.setPhase n .drawing with session := some n} := by
    simp [step, createDrawingSession, hn, hsession]
  apply draws_after resample (a := .createDrawingSession n true) trivial
  · simp only [step, createDrawingSession]
    split <;> rfl
  · intro j hj
    rw [hopen]
    exact setPhase_other hj .drawing
  · rw [hopen]
    have hdraw := step_drawImage resample (s := {s.setPhase n .drawing with session := some n})
      (setPhase_same hn .drawing) hsurface
    refine ⟨[.drawImage n true], ?_, ?_, ?_, ?_, ?_⟩
    · simp [Action.Internal]
    · simp [run, hdraw, drawnFrames]
    · simp only [run, hdraw]
      exact hsurface ▸ Option.some_ne_none surface
    · simp only [run, hdraw]
    · intro j hj
      simp only [run, hdraw]
      exact setPhase_other hj .ended

theorem draws_resizing {n : Nat} {c : ToArgb Px} (hn : s.paints[n]? = some ⟨c, .resizing⟩)
    (hsession : s.session = none) : Draws resample s n := by
  have hstep : step resample s (.resize n true) =
      ({s.setPhase n .queued with surface := some c.size}, [.resized n s.session]) := by
    simp [step, resize, hn]
  apply draws_after resample (a := .resize n true) trivial
  · rw [hstep]
    rfl
  · intro j hj
    rw [hstep]
    exact setPhase_other hj .queued
  · rw [hstep]
    exact draws_queued resample (setPhase_same hn .queued) rfl hsession

theorem draws_posted {n : Nat} {c : ToArgb Px} (hn : s.paints[n]? = some ⟨c, .posted⟩)
    {surface : Size} (hsurface : s.surface = some surface) (hsession : s.session = none) :
    Draws resample s n := by
  have hstep := step_compare resample hn hsurface
  apply draws_after resample (a := .compare n true) trivial
  · simp [step, compare, hn, hsurface, drawnFrames]
  · intro j hj
    rw [hstep]
    exact setPhase_other hj _
  · rw [hstep]
    split
    · exact draws_queued resample (setPhase_same hn .queued) hsurface hsession
    · exact draws_resizing resample (setPhase_same hn .resizing) hsession

theorem draws_waiting {n : Nat} {p : Paint Px} (hn : s.UnderWay n p) (hout : p.phase ≠ .drawing)
    (hsurface : s.surface ≠ none) (hsession : s.session = none) : Draws resample s n := by
  obtain ⟨surface, hsurface⟩ := Option.ne_none_iff_exists'.mp hsurface
  obtain ⟨hpaint, hphase⟩ := hn
  obtain ⟨c, ph⟩ := p
  cases ph with
  | posted => exact draws_posted resample hpaint hsurface hsession
  | resizing => exact draws_resizing resample hpaint hsession
  | queued => exact draws_queued resample hpaint hsurface hsession
  | drawing => exact absurd rfl hout
  | ended => exact absurd rfl hphase

/-- The later of two waiting pictures can be drawn first. -/
theorem overtaken {i n : Nat} {p q : Paint Px} (hlt : i < n) (hi : s.UnderWay i p)
    (hn : s.UnderWay n q) (hiout : p.phase ≠ .drawing) (hnout : q.phase ≠ .drawing)
    (hsurface : s.surface ≠ none) (hsession : s.session = none) :
    ∃ sched : List (Action Px), (∀ a ∈ sched, a.Internal) ∧
      drawnFrames (run (step resample) s sched).2 = [n, i] := by
  obtain ⟨first, hfirst, hdrawn, hsurface', hsession', hrest⟩ :=
    draws_waiting resample hn hnout hsurface hsession
  have hi' : (run (step resample) s first).1.UnderWay i p :=
    ⟨(hrest i (by omega)).trans hi.paint, hi.phase⟩
  obtain ⟨second, hsecond, hdrawn', -⟩ :=
    draws_waiting resample hi' hiout hsurface' hsession'
  refine ⟨first ++ second, List.forall_mem_append.mpr ⟨hfirst, hsecond⟩, ?_⟩
  rw [run_append, drawnFrames_append, hdrawn, hdrawn']
  rfl

/-- Some steps of the coroutines end the session in progress. -/
theorem session_ends (hs : InSession s) :
    ∃ sched : List (Action Px), (∀ a ∈ sched, a.Internal) ∧
      (run (step resample) s sched).1.surface ≠ none ∧
      (run (step resample) s sched).1.session = none ∧
      ∀ i p, s.UnderWay i p → p.phase ≠ .drawing →
        (run (step resample) s sched).1.UnderWay i p := by
  cases hsession : s.session with
  | none =>
    refine ⟨[.createSurface], by simp [Action.Internal], ?_, hsession, ?_⟩
    · simp [run, step]
    · exact fun i p hp _ => ⟨hp.paint, hp.phase⟩
  | some k =>
    obtain ⟨⟨c, ph⟩, hk, hphase⟩ := (hs k).mp hsession
    simp only at hphase
    subst hphase
    obtain ⟨surface, hsurface⟩ := Option.isSome_iff_exists.mp
      (show (s.surface.or (some ⟨0, 0⟩)).isSome from by simp)
    have hdraw := step_drawImage resample (s := {s with surface := s.surface.or (some ⟨0, 0⟩)})
      hk hsurface
    refine ⟨[.createSurface, .drawImage k true], by simp [Action.Internal], ?_, ?_, ?_⟩
    · simp only [run, step] at hdraw ⊢
      rw [hdraw]
      exact hsurface ▸ Option.some_ne_none surface
    · simp only [run, step] at hdraw ⊢
      rw [hdraw]
    · intro i p hp hout
      refine ⟨?_, hp.phase⟩
      have hne : i ≠ k := by
        rintro rfl
        have hpaint := hp.paint
        rw [hk] at hpaint
        obtain rfl := Option.some.inj hpaint
        exact hout rfl
      simp only [run, step] at hdraw ⊢
      rw [hdraw]
      exact (setPhase_other hne .ended).trans hp.paint

theorem overtaken_by_new (hs : InSession s) {i : Nat} {p : Paint Px} (hp : s.UnderWay i p)
    (hout : p.phase ≠ .drawing) (frame : VideoFrame Px) :
    ∃ sched : List (Action Px), (∀ a ∈ sched, a.Internal) ∧
      ¬ (drawnFrames (run (step resample)
        (step resample s (.onFrame frame)).1 sched).2).Pairwise (· < ·) := by
  obtain ⟨c, hc⟩ := conversion_one resample s frame
  have hsession := onFrame_session resample hs frame
  have hlt := (List.getElem?_eq_some_iff.mp hp.paint).1
  rw [step_onFrame resample s frame hc] at hsession ⊢
  obtain ⟨first, hfirst, hsurface', hsession', hstill⟩ := session_ends resample hsession
  have hi := hstill i p ⟨(List.getElem?_append_left hlt).trans hp.paint, hp.phase⟩ hout
  have hn := hstill s.paints.length ⟨c, .posted⟩ ⟨by simp, by simp⟩ (by simp)
  obtain ⟨second, hsecond, hdrawn⟩ :=
    overtaken resample hlt hi hn hout (by simp) hsurface' hsession'
  refine ⟨first ++ second, List.forall_mem_append.mpr ⟨hfirst, hsecond⟩, ?_⟩
  rw [run_append, drawnFrames_append, hdrawn]
  intro hsorted
  have hpair := (List.pairwise_append.mp hsorted).2.1
  simp only [List.pairwise_cons, List.mem_singleton, forall_eq] at hpair
  omega

/-- The pictures are drawn in the order of their frames, and none twice, just when every coroutine
under way is already in the drawing session. -/
theorem drawnFrames_sorted_iff (canvas : Size) (actions : List (Action Px))
    (hok : Along (step resample) (fun _ => InTurn) [] (create canvas) actions)
    (frame : VideoFrame Px) :
    (∀ sched : List (Action Px), (∀ a ∈ sched, a.Internal) →
        (drawnFrames
          (run (step resample) (create canvas) (actions ++ .onFrame frame :: sched)).2).Pairwise
            (· < ·)) ↔
      InTurn (run (step resample) (create canvas) actions).1 (.onFrame frame) := by
  have hturns := run_invariant (step resample) Turns (step_turns resample)
    ⟨create_session canvas, by simp [drawnFrames], by simp [drawnFrames],
      by simp [drawnFrames], fun i j p q _ hp => by simpa [create] using hp.paint⟩ hok
  constructor
  · intro h i p hp
    by_contra hout
    obtain ⟨sched, hsched, hdrawn⟩ := overtaken_by_new resample hturns.session hp hout frame
    refine hdrawn ((h sched hsched).sublist ?_)
    rw [run_append, run_cons, drawnFrames_append, drawnFrames_append]
    exact (List.sublist_append_right _ _).trans (List.sublist_append_right _ _)
  · intro hturn sched hsched
    have hrest : Along (step resample) (fun _ => InTurn)
        (run (step resample) (create canvas) actions).2
        (run (step resample) (create canvas) actions).1 (.onFrame frame :: sched) :=
      ⟨hturn, internal_along resample internal_inTurn hsched _ _⟩
    rw [run_append]
    exact (run_invariant_from (step resample) Turns (step_turns resample) hturns hrest).sorted

end Order

section Pictures

def framesOf (actions : List (Action Px)) : List (VideoFrame Px) :=
  actions.filterMap fun
    | .onFrame frame => some frame
    | _ => none

theorem framesOf_schedule (actions : List (Action Px)) (frame : VideoFrame Px)
    {sched : List (Action Px)} (h : ∀ a ∈ sched, a.Internal) :
    framesOf (actions ++ .onFrame frame :: sched) = framesOf actions ++ [frame] := by
  have hnone : framesOf sched = [] := by
    apply List.filterMap_eq_nil_iff.mpr
    intro a ha
    cases a with
    | onFrame g => exact (h _ ha).elim
    | _ => rfl
  have hcons : framesOf (.onFrame frame :: sched) = frame :: framesOf sched := rfl
  unfold framesOf at hnone hcons ⊢
  rw [List.filterMap_append, hcons, hnone]

def Screen.conversions (s : Screen Px) : List (ToArgb Px) := s.paints.map (·.conversion)

@[simp] theorem setPhase_conversions (s : Screen Px) (i : Nat) (ph : Phase) :
    (s.setPhase i ph).conversions = s.conversions := by
  apply List.ext_getElem?
  intro j
  simp only [Screen.conversions, Screen.setPhase, List.getElem?_map, List.getElem?_modify]
  cases s.paints[j]? with
  | none => rfl
  | some p =>
    simp only [Option.map_some]
    split <;> rfl

/-- A step of a coroutine: what it draws is the conversion of its frame. -/
structure Keeps (s : Screen Px) (r : Screen Px × List (Event Px)) : Prop where
  render : r.1.render = s.render
  conversions : r.1.conversions = s.conversions
  drawn : ∀ i c surface, .drawn i c surface ∈ r.2 → s.conversions[i]? = some c

theorem compare_keeps (s : Screen Px) (i : Nat) (bitmap : Bool) : Keeps s (compare s i bitmap) := by
  unfold compare
  split
  · split
    · split
      · exact ⟨rfl, setPhase_conversions .., by simp⟩
      · exact ⟨rfl, setPhase_conversions .., by simp⟩
    · exact ⟨rfl, setPhase_conversions .., by simp⟩
  · exact ⟨rfl, rfl, by simp⟩

theorem resize_keeps (s : Screen Px) (i : Nat) (resized : Bool) : Keeps s (resize s i resized) := by
  unfold resize
  split
  · cases resized with
    | true => exact ⟨rfl, setPhase_conversions .., by simp⟩
    | false => exact ⟨rfl, setPhase_conversions .., by simp⟩
  · exact ⟨rfl, rfl, by simp⟩

theorem createDrawingSession_keeps (s : Screen Px) (i : Nat) (created : Bool) :
    Keeps s (createDrawingSession s i created) := by
  unfold createDrawingSession
  split
  · cases created with
    | true => exact ⟨rfl, setPhase_conversions .., by simp⟩
    | false => exact ⟨rfl, setPhase_conversions .., by simp⟩
  · exact ⟨rfl, rfl, by simp⟩

theorem drawImage_keeps (s : Screen Px) (i : Nat) (drawn : Bool) : Keeps s (drawImage s i drawn) := by
  unfold drawImage
  split
  · rename_i d size hpaint _
    refine ⟨rfl, setPhase_conversions .., ?_⟩
    intro j c surface h
    cases drawn with
    | true =>
      obtain ⟨rfl, rfl, rfl⟩ : j = i ∧ c = d ∧ surface = size := by simpa using h
      simp [Screen.conversions, hpaint]
    | false => simp at h
  · exact ⟨rfl, rfl, by simp⟩

variable [Inhabited Px] (resample : Picture Px → Size → Nat → Nat → Px)

theorem step_keeps (s : Screen Px) {a : Action Px} (ha : a.Internal) :
    Keeps s (step resample s a) := by
  cases a with
  | createSurface => exact ⟨rfl, rfl, by simp [step]⟩
  | onFrame frame => exact ha.elim
  | compare i bitmap => exact compare_keeps s i bitmap
  | resize i resized => exact resize_keeps s i resized
  | createDrawingSession i created => exact createDrawingSession_keeps s i created
  | drawImage i drawn => exact drawImage_keeps s i drawn

theorem conversions_onFrame (s : Screen Px) (frame : VideoFrame Px) :
    (step resample s (.onFrame frame)).1.conversions =
      s.conversions ++ conversion resample s frame := by
  obtain ⟨c, hc⟩ := conversion_one resample s frame
  rw [step_onFrame resample s frame hc, hc]
  simp [Screen.conversions]

/-- The coroutines paint what `OnFrame` converts, each conversion under the number of its frame. -/
theorem run_pictures (s : Screen Px) (actions : List (Action Px)) :
    (run (step resample) s actions).1.conversions =
        s.conversions ++ (run (VideoRender.onFrame resample) s.render (framesOf actions)).2 ∧
      ∀ i c surface, .drawn i c surface ∈ (run (step resample) s actions).2 →
        (s.conversions ++
          (run (VideoRender.onFrame resample) s.render (framesOf actions)).2)[i]? = some c := by
  induction actions generalizing s with
  | nil => simp [framesOf]
  | cons a actions ih =>
    obtain ⟨hconversions, hdrawn⟩ := ih (step resample s a).1
    rw [run_cons]
    by_cases ha : a.Internal
    · have hkeeps := step_keeps resample s ha
      have hframes : framesOf (a :: actions) = framesOf actions := by
        cases a with
        | onFrame frame => exact ha.elim
        | _ => rfl
      rw [hkeeps.render, hkeeps.conversions] at hconversions hdrawn
      rw [hframes]
      refine ⟨hconversions, ?_⟩
      intro i c surface hi
      rcases List.mem_append.mp hi with hfirst | hrest
      · have hold := hkeeps.drawn i c surface hfirst
        rw [List.getElem?_append_left (List.getElem?_eq_some_iff.mp hold).1, hold]
      · exact hdrawn i c surface hrest
    · cases a with
      | onFrame frame =>
        have hframes : framesOf (.onFrame frame :: actions) = frame :: framesOf actions := rfl
        rw [conversions_onFrame, List.append_assoc] at hconversions hdrawn
        rw [hframes, run_cons]
        exact ⟨hconversions, fun i c surface hi => hdrawn i c surface (by simpa [step] using hi)⟩
      | _ => exact absurd trivial ha

/-- For one more frame: whatever the order of the remaining steps, what is drawn are conversions of
the frames in their order, each at most once, just when every coroutine under way is already in
the drawing session. `queued` is the phase of a coroutine that has yet to call `RunAsync` and of one
whose handler is already in the dispatcher's queue: handlers are run in any order here. -/
theorem drawn_in_order_iff (canvas : Size) (actions : List (Action Px))
    (hok : Along (step resample) (fun _ => InTurn) [] (create canvas) actions)
    (frame : VideoFrame Px) :
    (∀ sched : List (Action Px), (∀ a ∈ sched, a.Internal) →
        let log := (run (step resample) (create canvas) (actions ++ .onFrame frame :: sched)).2
        (drawnFrames log).Pairwise (· < ·) ∧ ∀ i c surface, .drawn i c surface ∈ log →
          (run (VideoRender.onFrame resample) (VideoRender.create canvas)
            (framesOf actions ++ [frame])).2[i]? = some c) ↔
      InTurn (run (step resample) (create canvas) actions).1 (.onFrame frame) := by
  rw [← drawnFrames_sorted_iff resample canvas actions hok frame]
  constructor
  · intro h sched hsched
    exact (h sched hsched).1
  · intro h sched hsched
    refine ⟨h sched hsched, ?_⟩
    rw [← framesOf_schedule actions frame hsched]
    exact (run_pictures resample (create canvas) (actions ++ .onFrame frame :: sched)).2

theorem resizedOnce_in_turn :
    Along (step pointSample) (fun _ => InTurn) [] (create ⟨320, 240⟩) resizedOnce := by
  unfold resizedOnce
  refine ⟨trivial, ?_, trivial, trivial, trivial⟩
  intro i p hp
  exact absurd hp.paint (by simp [step, create])

/-- A second frame while the first picture waits. -/
theorem drawn_in_order_when_resized :
    (∀ sched : List (Action UInt8), (∀ a ∈ sched, a.Internal) →
        let log := (run (step pointSample) (create ⟨320, 240⟩)
          (resizedOnce ++ .onFrame (blackFrame ⟨320, 240⟩) :: sched)).2
        (drawnFrames log).Pairwise (· < ·) ∧ ∀ i c surface, .drawn i c surface ∈ log →
          (run (VideoRender.onFrame pointSample) (VideoRender.create ⟨320, 240⟩)
            (framesOf resizedOnce ++ [blackFrame ⟨320, 240⟩])).2[i]? = some c) ↔
      InTurn (run (step pointSample) (create ⟨320, 240⟩) resizedOnce).1
        (.onFrame (blackFrame ⟨320, 240⟩)) :=
  drawn_in_order_iff pointSample ⟨320, 240⟩ resizedOnce resizedOnce_in_turn
    (blackFrame ⟨320, 240⟩)

end Pictures

end WeiRtcNative.Painting
