import WeiRtcNative.DesktopCapturer

/-!
# Reading delivered desktop frames later

`OnFrame` hands out a reference. Sinks may read the k-th delivered frame at any
time, also after further captures. What they find depends on whether the next
capture was converted into the same buffer object.
-/

namespace WeiRtcNative.SharedFrames

open WeiRtcNative.Frame Machine ReusedBuffer DesktopCapturer
set_option autoImplicit false

inductive Event where
  | capture (result : Result) (frame : DesktopFrame)
  | read (k : Nat)

structure System where
  capturer : State
  delivered : List Handed

def start : System := ⟨DesktopCapturer.create, []⟩

structure Observed where
  index : Nat
  image : I420Buffer

def step (lib : ConvertToI420) (sys : System) : Event → System × List Observed
  | .capture result frame =>
    let r := onCaptureResult lib sys.capturer (result, frame)
    (⟨r.1, sys.delivered ++ r.2⟩, [])
  | .read k =>
    (sys, (sys.delivered[k]?.map fun d => ⟨k, sys.capturer.heap d.frame.buffer⟩).toList)

def captures (events : List Event) : List DesktopFrame :=
  events.filterMap fun
    | .capture .success f => some f
    | _ => none

/-- The capture after the k-th was too large for the buffer of the k-th. -/
def Outgrown (sizes : List Size) (k : Nat) : Prop :=
  ∀ a b, sizes[k]? = some a → sizes[k + 1]? = some b → a.area < b.area

/-- The buffer in use at the k-th capture had exactly its size. -/
def Fitted (sizes : List Size) (k : Nat) : Prop :=
  (buffers Size.area none sizes)[k]? = sizes[k]?

instance (sizes : List Size) (k : Nat) : Decidable (Fitted sizes k) :=
  inferInstanceAs (Decidable (_ = _))

def sizes (delivered : List Handed) : List Size := delivered.map (·.captured.size)

/-- A frame is read only if it fitted its buffer, and before the next capture unless
that capture outgrew it. -/
def ReadInTime (sys : System) : Event → Prop
  | .capture _ _ => True
  | .read k => Fitted (sizes sys.delivered) k ∧ Outgrown (sizes sys.delivered) k

/-- The capture `f` was converted over `base` into the buffer with handle `h`. -/
structure Wrote (lib : ConvertToI420) (s t : State) (f : DesktopFrame) (d : Handed) (h : Nat)
    (base : I420Buffer) : Prop where
  captured : d.captured = f
  target : d.target = base
  handle : d.frame.buffer = h
  current : t.i420Buffer = some h
  heap : t.heap = Function.update s.heap h (base.convert lib f)

theorem capture_fresh (lib : ConvertToI420) (s : State) (f : DesktopFrame)
    (hsmall : ∀ h, s.i420Buffer = some h → (s.heap h).size.area < f.size.area) :
    ∃ t d, onCaptureResult lib s (.success, f) = (t, [d]) ∧ t.allocated = s.allocated + 1 ∧
      Wrote lib s t f d s.allocated (I420Buffer.create f.size) := by
  rcases i420BufferFor_cases {s with width := f.size.width, height := f.size.height} f.size with
    ⟨_, he⟩ | ⟨h, hb, hlarge, _⟩
  · refine ⟨_, _, rfl, ?_, rfl, ?_, ?_, ?_, ?_⟩
    · rw [he]
    · rw [he]
      exact Function.update_self _ _ _
    · rw [he]
    · rw [he]
    · rw [he]
      simp only [Function.update_self, Function.update_idem]
  · exact absurd (hsmall h hb) hlarge

theorem capture_reuse (lib : ConvertToI420) (s : State) (f : DesktopFrame) {h : Nat}
    (hb : s.i420Buffer = some h) (hlarge : ¬ (s.heap h).size.area < f.size.area) :
    ∃ t d, onCaptureResult lib s (.success, f) = (t, [d]) ∧ t.allocated = s.allocated ∧
      Wrote lib s t f d h (s.heap h) := by
  rcases i420BufferFor_cases {s with width := f.size.width, height := f.size.height} f.size with
    ⟨hsmall, _⟩ | ⟨h', hb', _, he⟩
  · exact absurd (hsmall h hb) hlarge
  · have hh : h' = h := Option.some.inj (hb'.symm.trans hb)
    subst hh
    refine ⟨_, _, rfl, ?_, rfl, ?_, ?_, ?_, ?_⟩
    · rw [he]
    · rw [he]
    · rw [he]
    · rw [he]
      exact hb
    · rw [he]

structure Inv (lib : ConvertToI420) (sys : System) : Prop where
  laid : sys.capturer.Laid
  first : sys.delivered = [] → sys.capturer.i420Buffer = none
  last : ∀ d, sys.delivered.getLast? = some d →
    sys.capturer.i420Buffer = some d.frame.buffer ∧
    d.frame.buffer + 1 = sys.capturer.allocated ∧
    (sys.capturer.heap d.frame.buffer).size = d.target.size
  targets : sys.delivered.map (·.target.size) = buffers Size.area none (sizes sys.delivered)
  shown : ∀ k d, sys.delivered[k]? = some d → d.target.size = d.captured.size →
    Outgrown (sizes sys.delivered) k →
    (sys.capturer.heap d.frame.buffer).Shows lib d.captured ∧
    (k + 1 < sys.delivered.length → d.frame.buffer + 1 < sys.capturer.allocated)

theorem start_inv (lib : ConvertToI420) : Inv lib start where
  laid := create_laid
  first := fun _ => rfl
  last := by simp [start]
  targets := rfl
  shown := by simp [start]

theorem Inv.held {lib : ConvertToI420} {sys : System} (hinv : Inv lib sys) :
    sys.capturer.held = (buffers Size.area none (sizes sys.delivered)).getLast? := by
  rw [← hinv.targets, List.getLast?_map]
  cases hlast : sys.delivered.getLast? with
  | none =>
    have hnil := List.getLast?_eq_none_iff.mp hlast
    simp [State.held, hinv.first hnil]
  | some d =>
    obtain ⟨hcur, _, hsize⟩ := hinv.last d hlast
    simp [State.held, hcur, hsize]

/-- Where a capture goes: a new buffer, or that of the last frame. -/
theorem capture_written {lib : ConvertToI420} {sys : System} (hinv : Inv lib sys)
    (f : DesktopFrame) :
    ∃ t d h base, onCaptureResult lib sys.capturer (.success, f) = (t, [d]) ∧
      Wrote lib sys.capturer t f d h base ∧ base.Laid ∧
      h + 1 = t.allocated ∧ sys.capturer.allocated ≤ t.allocated ∧
      (∀ e, sys.delivered.getLast? = some e → e.target.size.area < f.size.area →
        h = sys.capturer.allocated) := by
  cases hlast : sys.delivered.getLast? with
  | none =>
    have hnil := List.getLast?_eq_none_iff.mp hlast
    obtain ⟨t, d, he, ha, hw⟩ := capture_fresh lib sys.capturer f (by simp [hinv.first hnil])
    exact ⟨t, d, _, _, he, hw, I420Buffer.create_laid _, ha.symm, by omega, by simp⟩
  | some e =>
    obtain ⟨hcur, halloc, hsize⟩ := hinv.last e hlast
    by_cases hlt : e.target.size.area < f.size.area
    · obtain ⟨t, d, he, ha, hw⟩ := capture_fresh lib sys.capturer f (by simpa [hcur, hsize] using hlt)
      exact ⟨t, d, _, _, he, hw, I420Buffer.create_laid _, ha.symm, by omega, fun _ _ _ => rfl⟩
    · obtain ⟨t, d, he, ha, hw⟩ := capture_reuse lib sys.capturer f hcur (by simpa [hsize] using hlt)
      refine ⟨t, d, _, _, he, hw, hinv.laid _, by omega, by omega, ?_⟩
      intro e' he' hlt'
      obtain rfl : e = e' := Option.some.inj he'
      exact absurd hlt' hlt

theorem outgrown_of_append {l : List Handed} {d : Handed} {k : Nat} (hk : k + 1 < l.length)
    (h : Outgrown (sizes (l ++ [d])) k) : Outgrown (sizes l) k := by
  intro a b ha hb
  apply h a b
  · simpa [sizes, List.getElem?_append, show k < l.length by omega] using ha
  · simpa [sizes, List.getElem?_append, hk] using hb

theorem outgrown_last {l : List Handed} {k : Nat} (hk : ¬ k + 1 < l.length) :
    Outgrown (sizes l) k := by
  intro a b _ hb
  simp only [sizes, List.getElem?_map, Option.map_eq_some_iff] at hb
  obtain ⟨x, hx, _⟩ := hb
  exact absurd (List.getElem?_eq_some_iff.mp hx).1 hk

theorem capture_inv {lib : ConvertToI420} {sys : System} (hinv : Inv lib sys)
    (f : DesktopFrame) : Inv lib (step lib sys (.capture .success f)).1 := by
  obtain ⟨t, d, h, base, he, hw, hbl, hh, hmono, hgrow⟩ := capture_written hinv f
  have hother : ∀ i, i ≠ h → t.heap i = sys.capturer.heap i := by
    intro i hi
    rw [hw.heap, Function.update_of_ne hi]
  have htarget : d.target.size = reuse Size.area sys.capturer.held f.size := by
    obtain ⟨d', hd', _, hsize, _⟩ := onCaptureResult_success lib sys.capturer hinv.laid f
    obtain rfl : d = d' := by simpa [he] using hd'
    exact hsize
  simp only [step, he]
  constructor
  · intro i
    by_cases hi : i = h
    · subst hi
      simpa [hw.heap] using hbl.convert lib f
    · rw [hother i hi]
      exact hinv.laid i
  · simp
  · intro d' hd'
    obtain rfl : d = d' := by simpa using hd'
    rw [hw.handle, hw.target]
    refine ⟨hw.current, hh, ?_⟩
    rw [hw.heap, Function.update_self]
    rfl
  · have hsizes : sizes (sys.delivered ++ [d]) = sizes sys.delivered ++ [f.size] := by
      simp [sizes, hw.captured]
    simp only [hsizes, buffers_concat, List.map_append, List.map_cons, List.map_nil, htarget,
      hinv.targets, hinv.held, Option.or_none]
  · intro k e hk hfit hout
    by_cases hkl : k < sys.delivered.length
    · rw [List.getElem?_append_left hkl] at hk
      by_cases hk1 : k + 1 < sys.delivered.length
      · -- an outgrown frame: its buffer is older than the one just written
        obtain ⟨hold, hretired⟩ := hinv.shown k e hk hfit (outgrown_of_append hk1 hout)
        have hlt := hretired hk1
        dsimp only
        rw [hother _ (by omega)]
        exact ⟨hold, fun _ => by omega⟩
      · -- the frame delivered last: this capture outgrew it, so a new buffer was made
        have hlast : sys.delivered.getLast? = some e := by
          rw [List.getLast?_eq_getElem?, show sys.delivered.length - 1 = k by omega]
          exact hk
        have hlt : e.captured.size.area < f.size.area := by
          apply hout
          · simp only [sizes, List.getElem?_map, List.getElem?_append_left hkl, hk, Option.map_some]
          · have hlen : sys.delivered.length = k + 1 := by omega
            simp [sizes, hlen, hw.captured]
        obtain ⟨_, halloc, _⟩ := hinv.last e hlast
        have hfresh := hgrow e hlast (by rwa [hfit])
        obtain ⟨hold, _⟩ := hinv.shown k e hk hfit (outgrown_last hk1)
        dsimp only
        rw [hother _ (by omega)]
        exact ⟨hold, fun _ => by omega⟩
    · have hlt := (List.getElem?_eq_some_iff.mp hk).1
      simp only [List.length_append, List.length_singleton] at hlt
      have hkeq : k = sys.delivered.length := by omega
      subst hkeq
      obtain rfl : d = e := by simpa using hk
      rw [hw.handle, hw.captured]
      rw [hw.target, hw.captured] at hfit
      refine ⟨?_, by simp⟩
      simp only [hw.heap, Function.update_self]
      exact hbl.convert_shows lib f hfit

theorem step_inv {lib : ConvertToI420} {sys : System} (hinv : Inv lib sys) (e : Event) :
    Inv lib (step lib sys e).1 := by
  cases e with
  | capture result f =>
    cases result with
    | success => exact capture_inv hinv f
    | errorTemporary => simpa [step, onCaptureResult] using hinv
    | errorPermanent => simpa [step, onCaptureResult] using hinv
  | read k => exact hinv

/-- Every observation so far shows the capture with its index. -/
def Honest (lib : ConvertToI420) (log : List Observed) (sys : System) : Prop :=
  ∀ o ∈ log, ∃ d, sys.delivered[o.index]? = some d ∧ o.image.Shows lib d.captured

theorem step_honest {lib : ConvertToI420} {log : List Observed} {sys : System}
    (hinv : Inv lib sys) (hlog : Honest lib log sys) {e : Event} (hok : ReadInTime sys e) :
    Honest lib (log ++ (step lib sys e).2) (step lib sys e).1 := by
  intro o ho
  cases e with
  | capture result f =>
    obtain ⟨d, hd, hs⟩ := hlog o (by simpa [step] using ho)
    refine ⟨d, ?_, hs⟩
    have hlt := (List.getElem?_eq_some_iff.mp hd).1
    simpa [step, List.getElem?_append, hlt] using hd
  | read k =>
    rcases List.mem_append.mp ho with ho | ho
    · exact hlog o ho
    · simp only [step, Option.mem_toList, Option.map_eq_some_iff] at ho
      obtain ⟨d, hd, rfl⟩ := ho
      obtain ⟨hfit, hout⟩ := hok
      refine ⟨d, hd, (hinv.shown k d hd ?_ hout).1⟩
      unfold Fitted at hfit
      rw [← hinv.targets] at hfit
      simpa [sizes, hd] using hfit

theorem run_delivered (lib : ConvertToI420) (sys : System) (events : List Event) :
    (run (step lib) sys events).1.delivered.map (·.captured) =
      sys.delivered.map (·.captured) ++ captures events := by
  induction events generalizing sys with
  | nil => simp [captures]
  | cons e events ih =>
    rw [run_cons, ih]
    cases e with
    | capture result f => cases result <;> simp [step, captures, onCaptureResult]
    | read k => simp [step, captures]

/-- While frames are read in time, every reader finds the picture of its capture. -/
theorem readers_see_their_capture (lib : ConvertToI420) (events : List Event)
    (hok : Along (step lib) (fun _ => ReadInTime) [] start events) :
    ∀ o ∈ (run (step lib) start events).2, ∃ f, (captures events)[o.index]? = some f ∧
      o.image.Shows lib f := by
  have hrun := run_invariant (step lib) (fun log sys => Inv lib sys ∧ Honest lib log sys)
    (fun log sys e h hok => ⟨step_inv h.1 e, step_honest h.1 h.2 hok⟩)
    ⟨start_inv lib, by simp [Honest]⟩ hok
  intro o ho
  obtain ⟨d, hd, hs⟩ := hrun.2 o ho
  have hcap : (run (step lib) start events).1.delivered.map (·.captured) = captures events :=
    run_delivered lib start events
  refine ⟨d.captured, ?_, hs⟩
  rw [← hcap, List.getElem?_map, hd]
  rfl

def blackScreen : DesktopFrame := plainScreen 2 2 (by decide) (by decide) 0xff000000

def whiteScreen : DesktopFrame := plainScreen 2 2 (by decide) (by decide) 0xffffffff

def wideScreen : DesktopFrame := plainScreen 4 2 (by decide) (by decide) 0xffffffff

/-- Reading at once, and reading after a capture that needed a larger buffer. -/
theorem readers_see_a_wider_capture :
    (run (step bt601) start [.capture .success blackScreen, .read 0,
      .capture .success wideScreen, .read 0, .read 1]).2.length = 3 ∧
    ∀ o ∈ (run (step bt601) start [.capture .success blackScreen, .read 0,
      .capture .success wideScreen, .read 0, .read 1]).2,
      ∃ f, (captures [.capture .success blackScreen, .read 0, .capture .success wideScreen,
        .read 0, .read 1])[o.index]? = some f ∧ o.image.Shows bt601 f := by
  refine ⟨rfl, readers_see_their_capture bt601 _ ?_⟩
  refine ⟨trivial, ⟨rfl, ?_⟩, trivial, ⟨by decide, ?_⟩, ⟨by decide, ?_⟩, trivial⟩
  · exact outgrown_last (by decide)
  · rintro a b ⟨⟩ ⟨⟩
    decide
  · exact outgrown_last (by decide)

/-- A black screen is delivered; before a sink reads it the screen turns white. -/
theorem overwritten_by_next_capture :
    ¬ ∀ o ∈ (run (step bt601) start
      [.capture .success blackScreen, .capture .success whiteScreen, .read 0]).2,
      ∃ f, (captures [.capture .success blackScreen, .capture .success whiteScreen,
        .read 0])[o.index]? = some f ∧ o.image.Shows bt601 f := by
  intro h
  obtain ⟨f, hf, hs⟩ := h _ (List.mem_singleton.mpr rfl)
  obtain rfl : blackScreen = f := Option.some.inj hf
  exact absurd (hs.luma 0 0 (by decide)) (by decide)

end WeiRtcNative.SharedFrames
