import WeiRtcNative.Lib.Machine
import WeiRtcNative.Lib.ReusedBuffer
import WeiRtcNative.Resampling

/-!
# VideoRender: painting received frames

The renderer keeps one I420 buffer and one desired size. A frame larger than the
canvas overwrites the desired size; the buffer is replaced only when its area is
smaller than the desired area. The two tests look at areas, never at shapes.
-/

namespace WeiRtcNative.VideoRender

open WeiRtcNative.Frame Machine ReusedBuffer
set_option autoImplicit false

universe u
variable {Px : Type u} [Inhabited Px]

structure State (Px : Type u) where
  i420BufferOut : Option (Picture Px)
  /-- `_desiredWidth` and `_desiiredHeight`. -/
  desired : Size
  canvasSize : Int32

/-- One call of `I420ToARGB` on `source`, which reads `size` pixels. -/
structure ToArgb (Px : Type u) where
  source : Picture Px
  size : Size

/-- The constructor, given the rendered size of the canvas. -/
def create (canvas : Size) : State Px := ⟨none, canvas, canvas.area⟩

/-- The buffer to scale into: the one held, unless its area is smaller than desired. -/
def outBuffer (held : Option (Picture Px)) (desired : Size) : Picture Px :=
  match held with
  | none => Picture.create desired
  | some b => if b.size.area < desired.area then Picture.create desired else b

def onFrame (resample : Picture Px → Size → Nat → Nat → Px) (r : State Px)
    (frame : VideoFrame Px) : State Px × List (ToArgb Px) :=
  let buffer := frame.upright
  let desired := if r.canvasSize < buffer.size.area then buffer.size else r.desired
  -- the pixels come from the frame itself, not from the turned buffer
  let out := (outBuffer r.i420BufferOut desired).scaleFrom resample frame.videoFrameBuffer
  (⟨some out, desired, r.canvasSize⟩, [⟨out, desired⟩])

/-- The conversion reads a pixel of every column and row it was told of. -/
def ToArgb.Reads (c : ToArgb Px) (x y : Nat) : Prop := c.size.Contains x y

/-- The buffer has the dimensions given to the conversion, which therefore reads
existing pixels only and all of them. -/
structure ToArgb.Fits (c : ToArgb Px) : Prop where
  width : c.source.size.width = c.size.width
  height : c.source.size.height = c.size.height
  reads : ∀ x y, c.Reads x y ↔ c.source.size.Contains x y

omit [Inhabited Px] in
theorem fits_iff (c : ToArgb Px) : c.Fits ↔ c.source.size = c.size := by
  constructor
  · intro h
    obtain ⟨⟨⟨w, h⟩, _⟩, ⟨w', h'⟩⟩ := c
    simpa using ⟨h.width, h.height⟩
  · intro h
    refine ⟨by rw [h], by rw [h], ?_⟩
    intro x y
    rw [h]
    exact Iff.rfl

/-- The desired sizes while frames of the given upright sizes arrive. -/
def desiredSizes (canvasSize : Int32) : Size → List Size → List Size
  | _, [] => []
  | current, s :: sizes =>
    let d := if canvasSize < s.area then s else current
    d :: desiredSizes canvasSize d sizes

theorem run_sizes (resample : Picture Px → Size → Nat → Nat → Px) (r : State Px)
    (frames : List (VideoFrame Px)) :
    (run (onFrame resample) r frames).2.map (·.size) =
      desiredSizes r.canvasSize r.desired (frames.map (·.upright.size)) := by
  induction frames generalizing r with
  | nil => rfl
  | cons f frames ih =>
    rw [run_cons, List.map_append, ih]
    rfl

theorem outBuffer_size (held : Option (Picture Px)) (desired : Size) :
    (outBuffer held desired).size = reuse Size.area (held.map (·.size)) desired := by
  cases held with
  | none => rfl
  | some b => exact apply_ite Picture.size _ _ _

theorem run_buffers (resample : Picture Px → Size → Nat → Nat → Px) (r : State Px)
    (frames : List (VideoFrame Px)) :
    (run (onFrame resample) r frames).2.map (·.source.size) =
      buffers Size.area (r.i420BufferOut.map (·.size))
        (desiredSizes r.canvasSize r.desired (frames.map (·.upright.size))) := by
  induction frames generalizing r with
  | nil => rfl
  | cons f frames ih =>
    rw [run_cons, List.map_append, ih]
    simp only [onFrame, List.map_cons, List.map_nil, List.singleton_append, Option.map_some,
      Picture.scaleFrom_size, outBuffer_size, desiredSizes, buffers]

/-- A frame that does not exceed the canvas asks for the same size again. -/
theorem desiredSizes_chain_iff (canvasSize : Int32) (current : Size) (sizes : List Size) :
    (current :: desiredSizes canvasSize current sizes).IsChain (Follows Size.area) ↔
      (current :: sizes.filter (fun s => canvasSize < s.area)).IsChain (Follows Size.area) := by
  induction sizes generalizing current with
  | nil => exact Iff.rfl
  | cons s sizes ih =>
    by_cases hs : canvasSize < s.area
    · simp only [desiredSizes, hs, if_true, List.filter_cons, decide_true,
        List.isChain_cons_cons, ih]
    · simp only [desiredSizes, hs, if_false, List.filter_cons, decide_false,
        List.isChain_cons_cons, ih, follows_refl, true_and, Bool.false_eq_true]

theorem canvas_chain_iff (canvas : Size) (needs : List Size)
    (hhead : ∀ s ∈ needs.head?, Follows Size.area canvas s) :
    (canvas :: needs).IsChain (Follows Size.area) ↔ needs.IsChain (Follows Size.area) := by
  cases needs with
  | nil => simp
  | cons s needs =>
    rw [List.isChain_cons_cons]
    exact and_iff_right (hhead s rfl)

theorem desiredSizes_head (canvas : Size) (sizes : List Size) :
    ∀ s ∈ (desiredSizes canvas.area canvas sizes).head?, Follows Size.area canvas s := by
  intro s hs
  cases sizes with
  | nil => simp [desiredSizes] at hs
  | cons t sizes =>
    simp only [desiredSizes, List.head?_cons, Option.mem_def, Option.some.injEq] at hs
    subst hs
    split
    · rename_i hlt
      exact Or.inr hlt
    · exact follows_refl _ _

theorem oversize_head (canvas : Size) (sizes : List Size) :
    ∀ s ∈ (sizes.filter (fun s => canvas.area < s.area)).head?, Follows Size.area canvas s := by
  intro s hs
  have hmem := List.mem_filter.mp (List.mem_of_mem_head? hs)
  exact Or.inr (of_decide_eq_true hmem.2)

/-- The reused buffer fits every conversion exactly when, among the frames larger
than the canvas, each repeats the size of the one before it or has a larger area. -/
theorem conversions_fit_iff (resample : Picture Px → Size → Nat → Nat → Px) (canvas : Size)
    (frames : List (VideoFrame Px)) :
    (∀ c ∈ (run (onFrame resample) (create canvas) frames).2, c.Fits) ↔
      ((frames.map (·.upright.size)).filter (fun s => canvas.area < s.area)).IsChain
        (Follows Size.area) := by
  have hfit : (∀ c ∈ (run (onFrame resample) (create canvas) frames).2, c.Fits) ↔
      (run (onFrame resample) (create canvas) frames).2.map (·.source.size) =
        (run (onFrame resample) (create canvas) frames).2.map (·.size) := by
    simp only [fits_iff]
    exact List.map_inj_left.symm
  rw [hfit, run_buffers, run_sizes]
  simp only [create, Option.map_none]
  rw [buffers_none_eq_iff, ← canvas_chain_iff canvas _ (desiredSizes_head canvas _),
    desiredSizes_chain_iff, canvas_chain_iff canvas _ (oversize_head canvas _)]

def pointSample (src : Picture UInt8) (size : Size) (x y : Nat) : UInt8 :=
  src.pixel (x * src.size.width / size.width) (y * src.size.height / size.height)

/-- A landscape frame followed by the same picture in portrait, both above the canvas. -/
theorem portrait_after_landscape_misfits :
    ¬ ∀ c ∈ (run (onFrame pointSample) (create ⟨640, 360⟩)
      [⟨⟨⟨1280, 720⟩, fun _ _ => 0⟩, .kVideoRotation0, 0⟩,
       ⟨⟨⟨720, 1280⟩, fun _ _ => 0⟩, .kVideoRotation0, 40000⟩]).2, c.Fits := by
  simp only [fits_iff]
  decide

section Memory
variable (resample : Picture Px → Size → Nat → Nat → Px)

/-- The size given to `PaintFrameAsync` for `f` after the frames of `history`. -/
def paintedSize (canvas : Size) (history : List (VideoFrame Px)) (f : VideoFrame Px) : Size :=
  (onFrame resample (run (onFrame resample) (create canvas) history).1 f).1.desired

/-- The size that the canvas and the frame ask for. -/
def fittingSize (canvas : Size) (f : VideoFrame Px) : Size :=
  if canvas.area < f.upright.size.area then f.upright.size else canvas

theorem run_canvasSize (r : State Px) (history : List (VideoFrame Px)) :
    (run (onFrame resample) r history).1.canvasSize = r.canvasSize := by
  induction history generalizing r with
  | nil => rfl
  | cons g history ih =>
    rw [run_cons]
    exact ih (onFrame resample r g).1

/-- Once the desired size exceeds the canvas it does so for ever. -/
theorem run_desired_exceeds (r : State Px) (history : List (VideoFrame Px)) :
    r.canvasSize < (run (onFrame resample) r history).1.desired.area ↔
      r.canvasSize < r.desired.area ∨ ∃ g ∈ history, r.canvasSize < g.upright.size.area := by
  induction history generalizing r with
  | nil => simp
  | cons g history ih =>
    rw [run_cons]
    have hrest := ih (onFrame resample r g).1
    have hsize : (onFrame resample r g).1.canvasSize = r.canvasSize := rfl
    have hdesired : (onFrame resample r g).1.desired =
        if r.canvasSize < g.upright.size.area then g.upright.size else r.desired := rfl
    rw [hsize, hdesired] at hrest
    rw [hrest, List.exists_mem_cons_iff, ← or_assoc]
    apply or_congr_left
    by_cases hg : r.canvasSize < g.upright.size.area
    · simp [hg]
    · simp [hg]

/-- A size that was never exceeded is still that of the canvas. -/
theorem run_desired_canvas {canvas : Size} {history : List (VideoFrame Px)}
    (h : ∀ g ∈ history, ¬ canvas.area < g.upright.size.area) :
    (run (onFrame resample) (create canvas) history).1.desired = canvas := by
  suffices hkeep : ∀ r : State Px, r.canvasSize = canvas.area → r.desired = canvas →
      (run (onFrame resample) r history).1.desired = canvas from hkeep _ rfl rfl
  induction history with
  | nil =>
    intro r _ hdesired
    exact hdesired
  | cons g history ih =>
    intro r hsize hdesired
    rw [run_cons]
    refine ih (fun k hk => h k (List.mem_cons_of_mem g hk)) _ hsize ?_
    have hg := h g List.mem_cons_self
    rw [← hsize] at hg
    exact (if_neg hg).trans hdesired

theorem paintedSize_fitting_iff (canvas : Size) (history : List (VideoFrame Px))
    (f : VideoFrame Px) :
    paintedSize resample canvas history f = fittingSize canvas f ↔
      canvas.area < f.upright.size.area ∨
        ∀ g ∈ history, ¬ canvas.area < g.upright.size.area := by
  have hsize := run_canvasSize resample (create canvas) history
  have hpainted : paintedSize resample canvas history f =
      if canvas.area < f.upright.size.area then f.upright.size
      else (run (onFrame resample) (create canvas) history).1.desired := by
    have hstep : paintedSize resample canvas history f =
        if (run (onFrame resample) (create canvas) history).1.canvasSize < f.upright.size.area
        then f.upright.size else (run (onFrame resample) (create canvas) history).1.desired := rfl
    rw [hstep, hsize]
    rfl
  rw [hpainted, fittingSize]
  by_cases hf : canvas.area < f.upright.size.area
  · simp [hf]
  · rw [if_neg hf, if_neg hf, or_iff_right hf]
    constructor
    · intro hcanvas g hg hlarge
      have hexceeds := (run_desired_exceeds resample (create canvas) history).mpr
        (.inr ⟨g, hg, hlarge⟩)
      rw [hcanvas] at hexceeds
      exact Int32.lt_irrefl hexceeds
    · exact run_desired_canvas resample

/-- Two histories agree on the size painted for `f`, which is the one that frame and canvas ask
for, just when `f` is larger than the canvas or neither history has shown a frame that is. -/
theorem painted_size_iff (canvas : Size) (history history' : List (VideoFrame Px))
    (f : VideoFrame Px) :
    (paintedSize resample canvas history f = paintedSize resample canvas history' f ∧
        paintedSize resample canvas history f = fittingSize canvas f) ↔
      canvas.area < f.upright.size.area ∨
        ∀ g ∈ history ++ history', ¬ canvas.area < g.upright.size.area := by
  have hfirst := paintedSize_fitting_iff resample canvas history f
  have hsecond := paintedSize_fitting_iff resample canvas history' f
  have hboth : (paintedSize resample canvas history f = paintedSize resample canvas history' f ∧
        paintedSize resample canvas history f = fittingSize canvas f) ↔
      paintedSize resample canvas history f = fittingSize canvas f ∧
        paintedSize resample canvas history' f = fittingSize canvas f := by
    constructor
    · rintro ⟨hsame, hfits⟩
      exact ⟨hfits, hsame ▸ hfits⟩
    · rintro ⟨hfits, hfits'⟩
      exact ⟨hfits.trans hfits'.symm, hfits⟩
  rw [hboth, hfirst, hsecond, ← or_and_left, List.forall_mem_append]

end Memory

def blackFrame (size : Size) : VideoFrame UInt8 := ⟨⟨size, fun _ _ => 0⟩, .kVideoRotation0, 0⟩

/-- A small frame alone, and after one that exceeds the canvas. -/
theorem painted_size_remembers :
    paintedSize pointSample ⟨640, 360⟩ [] (blackFrame ⟨320, 240⟩) ≠
      paintedSize pointSample ⟨640, 360⟩ [blackFrame ⟨1280, 720⟩] (blackFrame ⟨320, 240⟩) := by
  decide

section Upright
variable {Argb : Type u}

def ToArgb.painted (convert : Px → Argb) (c : ToArgb Px) : Picture Argb :=
  Picture.map convert ⟨c.size, c.source.pixel⟩

/-- The painted picture is the conversion of the upright frame, scaled to the painted size. -/
def PaintsUpright (r : Resampler Px) (convert : Px → Argb) (canvas : Size)
    (f : VideoFrame Px) : Prop :=
  ∃ c, (onFrame r.sample (create canvas) f).2 = [c] ∧
    (c.painted convert).Same ((f.upright.scaled r c.size).map convert)

/-- A fresh renderer scales the buffer of the frame to the fitting size. -/
theorem paintsUpright_iff (r : Resampler Px) (convert : Px → Argb) (canvas : Size)
    (f : VideoFrame Px) :
    PaintsUpright r convert canvas f ↔
      ((f.videoFrameBuffer.scaled r (fittingSize canvas f)).map convert).Same
        ((f.upright.scaled r (fittingSize canvas f)).map convert) := by
  constructor
  · rintro ⟨c, hrun, hsame⟩
    obtain rfl := (List.cons.inj hrun).1
    exact hsame
  · intro h
    exact ⟨_, rfl, h⟩

omit [Inhabited Px] in
theorem fittingSize_positive_iff {canvas : Size} {f : VideoFrame Px}
    (hf : f.videoFrameBuffer.size.Positive) :
    (fittingSize canvas f).Positive ↔ canvas.area < f.upright.size.area ∨ canvas.Positive := by
  have hupright : f.upright.size.Positive := by
    rw [f.upright_eq]
    exact Picture.rotate_positive hf f.rotation
  unfold fittingSize
  by_cases hlarge : canvas.area < f.upright.size.area
  · simp [hlarge, hupright]
  · simp [hlarge]

/-- Whatever scales and converts the pixels, a fresh renderer paints the upright picture just
when nothing is painted at all or turning the picture cannot be seen. -/
theorem paints_upright_iff (canvas : Size) (f : BufferedFrame Px) :
    (∀ (r : Resampler Px) {Argb : Type u} (convert : Px → Argb),
        PaintsUpright r convert canvas f.toVideoFrame) ↔
      (¬ canvas.Positive ∧ ¬ canvas.area < f.upright.size.area) ∨
        f.videoFrameBuffer.LooksUnturned f.rotation := by
  have hsize : (fittingSize canvas f.toVideoFrame).Positive ↔ _ :=
    fittingSize_positive_iff f.positive
  by_cases hpositive : (fittingSize canvas f.toVideoFrame).Positive
  · have hvisible : ¬(¬ canvas.Positive ∧ ¬ canvas.area < f.upright.size.area) := by
      rintro ⟨hcanvas, hlarge⟩
      exact (hsize.mp hpositive).elim hlarge hcanvas
    rw [or_iff_right hvisible, ← Picture.scaleAlike_rotate_iff f.positive hpositive,
      ← f.upright_eq]
    constructor
    · intro h r
      exact (paintsUpright_iff r id canvas f.toVideoFrame).mp (h r id)
    · intro h r _ convert
      exact (paintsUpright_iff r convert canvas f.toVideoFrame).mpr ((h r).map convert)
  · have hempty := not_or.mp (mt hsize.mpr hpositive)
    refine iff_of_true ?_ (.inl ⟨hempty.2, hempty.1⟩)
    intro r _ convert
    rw [paintsUpright_iff]
    refine ⟨rfl, ?_⟩
    intro x y hxy
    exact absurd ⟨Nat.zero_lt_of_lt hxy.1, Nat.zero_lt_of_lt hxy.2⟩ hpositive

def phoneFrame : VideoFrame UInt8 :=
  ⟨⟨⟨4, 2⟩, fun x _ => if x < 2 then 235 else 16⟩, .kVideoRotation90, 40000⟩

theorem phone_frame_painted_as_it_lies :
    ¬ PaintsUpright Resampler.nearest (fun y : UInt8 => (y, y, y)) ⟨2, 2⟩ phoneFrame := by
  rw [paintsUpright_iff]
  intro h
  have hpixel := h.pixel 1 0 (by decide)
  revert hpixel
  decide

end Upright

end WeiRtcNative.VideoRender
