import Mathlib.Data.List.Perm.Subperm
import WeiRtcNative.H264.Decoder

/-!
# The times of decoded pictures

The transform keeps the images it has accepted and gives out at most one picture for each, in the
call that brought the image or in a later one. In which order it does so is its own affair: every
call comes with the order in which what is inside then comes out. `FlushFrames` stamps every picture
with the times of the image that was decoded last.
-/

namespace WeiRtcNative.H264.DecodedPictures

open Machine Decoder
set_option autoImplicit false

/-- A picture as it is handed on, with the image it was made from. -/
structure Picture where
  timestamp : UInt32
  ntpTimeMs : Int
  size : UInt32 × UInt32
  source : EncodedImage
  deriving DecidableEq, Repr

inductive Entry where
  | called (image : EncodedImage)
  | accepted (image : EncodedImage)
  | picture (p : Picture)
  deriving DecidableEq, Repr

/-- The decoder, and the images inside its transform. -/
structure System where
  decoder : State
  inside : List EncodedImage
  deriving DecidableEq, Repr

def initial : System := ⟨create, []⟩

/-- A call of the decoder. If it comes to draining the transform, `order` are the images inside in
the order in which they come out. -/
structure Input where
  call : Call
  order : List EncodedImage
  deriving DecidableEq, Repr

/-- What the enqueueing does to the transform; `flush` is the answer to the flush. -/
def absorb (flush : HResult) (inside : List EncodedImage) : Event → List EncodedImage
  | .processInput _ image _ hr => if hr.failed then inside else inside ++ [image]
  | .flush _ => if flush.failed then inside else []
  | _ => inside

def acceptedIn (events : List Event) : List EncodedImage :=
  events.filterMap fun
    | .processInput _ image _ hr => if hr.failed then none else some image
    | _ => none

/-- The calls of `FlushFrames` that a `Decode` makes. -/
def rounds (a : DecodeAnswers) : List Outputs :=
  if a.outputs.result = .streamChange then
    let (hr, suitableTypeFound) := configureOutputMediaType a.setOutputType a.outputTypes
    if hr.failed || !suitableTypeFound then [a.outputs] else [a.outputs, a.outputsAgain]
  else [a.outputs]

def Outputs.taken (o : Outputs) : Nat := o.pictures.length + o.lost.toList.length

def takeOut (image : EncodedImage) : List Outputs → List EncodedImage →
    List EncodedImage × List Picture
  | [], inside => (inside, [])
  | o :: os, inside =>
    let r := takeOut image os (inside.drop (Outputs.taken o))
    (r.1, (inside.zip o.pictures).map (fun p => ⟨image.timestamp, image.ntpTimeMs, p.2, p.1⟩) ++ r.2)

/-- A `Decode` that gets as far as the transform. -/
def reaches (s : State) (image : EncodedImage) : Bool :=
  (refused s image).isNone && !(s.requireKeyframe && !image.cleanPoint)

def enqueued (s : System) (image : EncodedImage) (missingFrames : Bool) (a : DecodeAnswers) :
    List EncodedImage :=
  (enqueueOrFlush s.decoder.openGate image missingFrames a).2.1.foldl (absorb a.flush) s.inside

def drains (s : System) (image : EncodedImage) (missingFrames : Bool) (a : DecodeAnswers) : Bool :=
  reaches s.decoder image &&
    !(enqueueOrFlush s.decoder.openGate image missingFrames a).2.2.failed

def decode (s : System) (image : EncodedImage) (missingFrames : Bool) (a : DecodeAnswers)
    (order : List EncodedImage) : List EncodedImage × List Entry :=
  if reaches s.decoder image then
    let events := (enqueueOrFlush s.decoder.openGate image missingFrames a).2.1
    if drains s image missingFrames a then
      let r := takeOut image (rounds a) order
      (r.1, (acceptedIn events).map .accepted ++ r.2.map .picture)
    else (enqueued s image missingFrames a, (acceptedIn events).map .accepted)
  else (s.inside, [])

/-- Where `decoder_` is replaced or released, what is inside goes with it. -/
def step (s : System) (x : Input) : System × List Entry :=
  let next := (Decoder.step s.decoder x.call).1
  if s.decoder.crashed then (s, [])
  else
    match x.call with
    | .initDecode _ _ => (⟨next, []⟩, [])
    | .registerDecodeCompleteCallback _ => (⟨next, s.inside⟩, [])
    | .decode image missingFrames a =>
      let r := decode s image missingFrames a x.order
      (⟨next, r.1⟩, .called image :: r.2)
    | .release _ => (⟨next, []⟩, [])

def accepted (log : List Entry) : List EncodedImage :=
  log.filterMap fun
    | .accepted image => some image
    | _ => none

def pictures (log : List Entry) : List Picture :=
  log.filterMap fun
    | .picture p => some p
    | _ => none

def sources (log : List Entry) : List EncodedImage := (pictures log).map Picture.source

def Entry.OwnTime : Entry → Prop
  | .picture p => p.timestamp = p.source.timestamp ∧ p.ntpTimeMs = p.source.ntpTimeMs
  | _ => True

/-- What is inside comes out in some order, at most one picture for an image, and losing one is not
a change of the stream. -/
def Possible (s : System) (x : Input) : Prop :=
  match x.call with
  | .decode image missingFrames a => drains s image missingFrames a = true →
      x.order.Perm (enqueued s image missingFrames a) ∧
        ((rounds a).map Outputs.taken).sum ≤ x.order.length ∧
        (a.outputs.result = .streamChange → a.outputs.lost = none)
  | _ => True

/-- Every image has a time of its own. -/
def Fresh (log : List Entry) (x : Input) : Prop :=
  match x.call with
  | .decode image _ _ => ∀ earlier, .called earlier ∈ log → earlier.timestamp ≠ image.timestamp
  | _ => True

/-- The transform gives out what it accepted first. -/
def OldestFirst (s : System) (x : Input) : Prop :=
  match x.call with
  | .decode image missingFrames a => drains s image missingFrames a = true →
      x.order = enqueued s image missingFrames a
  | _ => True

/-- A call that hands on a picture has found no earlier image inside. -/
def Prompt (s : System) (x : Input) : Prop :=
  match x.call with
  | .decode image missingFrames a => s.decoder.crashed = false →
      drains s image missingFrames a = true → (rounds a).flatMap Outputs.pictures ≠ [] →
        enqueued s image missingFrames a = [image]
  | _ => True

section Taking
variable (image : EncodedImage)

@[simp] theorem accepted_append (log more : List Entry) :
    accepted (log ++ more) = accepted log ++ accepted more := by
  simp [accepted]

@[simp] theorem sources_append (log more : List Entry) :
    sources (log ++ more) = sources log ++ sources more := by
  simp [sources, pictures]

theorem accepted_accepted (images : List EncodedImage) :
    accepted (images.map .accepted) = images ∧ sources (images.map .accepted) = [] := by
  simp [accepted, sources, pictures, List.filterMap_map]

theorem accepted_picture (ps : List Picture) :
    accepted (ps.map .picture) = [] ∧ sources (ps.map .picture) = ps.map Picture.source := by
  simp [accepted, sources, pictures, List.filterMap_map]

theorem zip_fst (xs : List EncodedImage) (ys : List (UInt32 × UInt32)) :
    (xs.zip ys).map Prod.fst = xs.take ys.length := by
  induction xs generalizing ys with
  | nil => simp
  | cons x xs ih =>
    cases ys with
    | nil => rfl
    | cons y ys => simp [ih]

theorem source_zip (image : EncodedImage) (xs : List EncodedImage) (o : Outputs) :
    ((xs.zip o.pictures).map fun p =>
      (⟨image.timestamp, image.ntpTimeMs, p.2, p.1⟩ : Picture)).map Picture.source =
      xs.take o.pictures.length := by
  rw [List.map_map, ← zip_fst xs o.pictures]
  rfl

/-- Pictures are taken from the front, and those that are lost with them. -/
theorem takeOut_sublist (os : List Outputs) (inside : List EncodedImage) :
    ((takeOut image os inside).2.map Picture.source ++ (takeOut image os inside).1).Sublist
      inside := by
  induction os generalizing inside with
  | nil => exact List.Sublist.refl _
  | cons o os ih =>
    have hrest := ih (inside.drop (Outputs.taken o))
    simp only [takeOut, List.map_append, source_zip, List.append_assoc]
    have hdrop : (inside.drop (Outputs.taken o)).Sublist (inside.drop o.pictures.length) :=
      List.drop_sublist_drop_left inside (Nat.le_add_right _ _)
    calc (inside.take o.pictures.length ++ _).Sublist
          (inside.take o.pictures.length ++ inside.drop o.pictures.length) :=
        List.Sublist.append (List.Sublist.refl _) (hrest.trans hdrop)
      _ = inside := List.take_append_drop _ _

/-- Every picture has the times of the call. -/
theorem takeOut_times (os : List Outputs) (inside : List EncodedImage) :
    ∀ p ∈ (takeOut image os inside).2,
      p.timestamp = image.timestamp ∧ p.ntpTimeMs = image.ntpTimeMs ∧ p.source ∈ inside := by
  induction os generalizing inside with
  | nil => simp [takeOut]
  | cons o os ih =>
    intro p hp
    rcases List.mem_append.mp hp with hfirst | hrest
    · obtain ⟨⟨source, size⟩, hzip, rfl⟩ := List.mem_map.mp hfirst
      exact ⟨rfl, rfl, (List.of_mem_zip hzip).1⟩
    · obtain ⟨htimestamp, hntp, hsource⟩ := ih _ p hrest
      exact ⟨htimestamp, hntp, List.mem_of_mem_drop hsource⟩

end Taking

section Enqueueing
variable (image : EncodedImage) (missingFrames : Bool)

/-- What `EnqueueFrame` does with the image. -/
inductive Enqueues (image : EncodedImage) : List Event × HResult → Prop where
  | refused {events : List Event} {hr : HResult} (failed : hr.failed = true)
      (none_accepted : acceptedIn events = [])
      (same : ∀ flush inside, events.foldl (absorb flush) inside = inside) :
      Enqueues image (events, hr)
  | accepted {events : List Event} (one_accepted : acceptedIn events = [image])
      (added : ∀ flush inside, events.foldl (absorb flush) inside = inside ++ [image]) :
      Enqueues image (events, .ok)

theorem enqueueFrame_enqueues (s : State) (a : EnqueueAnswers) :
    Enqueues image (enqueueFrame s image missingFrames a).2 := by
  cases hdecoder : s.decoder with
  | none =>
    obtain ⟨t, -, h | h⟩ := enqueueFrame_none s image missingFrames a hdecoder
    · rw [h]
      exact .refused rfl rfl fun _ _ => rfl
    · rw [h]
      exact .refused rfl rfl fun _ _ => rfl
  | some i =>
    obtain ⟨t, -, -, -, ⟨-, h⟩ | ⟨sample, h⟩⟩ := enqueueFrame_some s image missingFrames a hdecoder
    · rw [h]
      exact .refused rfl rfl fun _ _ => rfl
    · rw [h]
      cases hfailed : a.result.failed with
      | true =>
        have hne := HResult.failed_eq_true.mp hfailed
        exact .refused hfailed (by simp [acceptedIn, hne]) (by simp [absorb, hne])
      | false =>
        have hok : a.result = .ok := HResult.failed_eq_false.mp hfailed
        rw [hok]
        exact .accepted rfl fun _ _ => rfl

/-- The transform after the enqueueing, and whether the image is in it. -/
inductive Fills (s : System) (image : EncodedImage) (inside : List EncodedImage)
    (taken : List EncodedImage) (hr : HResult) : Prop where
  | refused (failed : hr.failed = true) (kept : inside = s.inside ∨ inside = [])
      (none_accepted : taken = [])
  | accepted (earlier : List EncodedImage) (kept : earlier = s.inside ∨ earlier = [])
      (added : inside = earlier ++ [image]) (one_accepted : taken = [image])

theorem acceptedIn_append (xs ys : List Event) :
    acceptedIn (xs ++ ys) = acceptedIn xs ++ acceptedIn ys := by
  simp [acceptedIn]

theorem flushed_events (decoder : Option Nat) (flush : HResult) (inside : List EncodedImage) :
    acceptedIn (decoder.toList.map Event.flush) = [] ∧
      ((decoder.toList.map Event.flush).foldl (absorb flush) inside = inside ∨
        (decoder.toList.map Event.flush).foldl (absorb flush) inside = []) := by
  cases decoder with
  | none => exact ⟨rfl, .inl rfl⟩
  | some i =>
    refine ⟨rfl, ?_⟩
    simp only [Option.toList, List.map_cons, List.map_nil, List.foldl_cons, List.foldl_nil, absorb]
    split
    · exact .inl rfl
    · exact .inr rfl

theorem enqueued_fills (s : System) (a : DecodeAnswers) :
    Fills s image (enqueued s image missingFrames a)
      (acceptedIn (enqueueOrFlush s.decoder.openGate image missingFrames a).2.1)
      (enqueueOrFlush s.decoder.openGate image missingFrames a).2.2 := by
  unfold enqueued enqueueOrFlush
  have hfirst := enqueueFrame_enqueues image missingFrames s.decoder.openGate a.enqueue
  generalize enqueueFrame s.decoder.openGate image missingFrames a.enqueue = r at hfirst
  obtain ⟨t, events, hr⟩ := r
  dsimp only at hfirst ⊢
  by_cases hfull : hr = .notAccepting
  · rw [if_pos hfull]
    cases hfirst with
    | accepted => cases hfull
    | refused hfailed hnone hsame =>
      obtain ⟨hnoFlush, hflushed⟩ := flushed_events t.decoder a.flush s.inside
      have hinside : (events ++ t.decoder.toList.map Event.flush).foldl (absorb a.flush) s.inside =
          s.inside ∨
          (events ++ t.decoder.toList.map Event.flush).foldl (absorb a.flush) s.inside = [] := by
        rw [List.foldl_append, hsame]
        exact hflushed
      have htaken : acceptedIn (events ++ t.decoder.toList.map Event.flush) = [] := by
        rw [acceptedIn_append, hnone, hnoFlush]
        rfl
      generalize events ++ t.decoder.toList.map Event.flush = earlier at hinside htaken ⊢
      split
      · split
        · rename_i hflush
          exact .refused hflush hinside htaken
        · have hagain := enqueueFrame_enqueues image missingFrames t a.enqueueAgain
          generalize enqueueFrame t image missingFrames a.enqueueAgain = r at hagain
          obtain ⟨t', more, hr'⟩ := r
          dsimp only at hagain ⊢
          rw [List.foldl_append, acceptedIn_append, htaken]
          cases hagain with
          | refused hfailed' hnone' hsame' =>
            rw [hnone', hsame']
            exact .refused hfailed' hinside rfl
          | accepted hone hadded =>
            rw [hone, hadded]
            exact .accepted _ hinside rfl rfl
      · exact .refused rfl hinside htaken
  · rw [if_neg hfull]
    cases hfirst with
    | refused hfailed hnone hsame => exact .refused hfailed (.inl (hsame _ _)) hnone
    | accepted hone hadded => exact .accepted s.inside (.inl rfl) (hadded _ _) hone

end Enqueueing

section Steps

/-- A relation between lists that dropping parts and joining lists respect, such as to be a part in
the same order, or in any order. -/
structure Respects (R : List EncodedImage → List EncodedImage → Prop) : Prop where
  sublist : ∀ {xs ys}, xs.Sublist ys → R xs ys
  trans : ∀ {xs ys zs}, R xs ys → R ys zs → R xs zs
  append : ∀ {xs ys us vs}, R xs ys → R us vs → R (xs ++ us) (ys ++ vs)
  subset : ∀ {xs ys}, R xs ys → xs ⊆ ys

theorem respects_sublist : Respects List.Sublist :=
  ⟨id, List.Sublist.trans, List.Sublist.append, List.Sublist.subset⟩

theorem respects_subperm : Respects List.Subperm :=
  ⟨List.Sublist.subperm, List.Subperm.trans, List.Subperm.append, List.Subperm.subset⟩

variable {R : List EncodedImage → List EncodedImage → Prop} (hR : Respects R)

/-- The order in which the transform gives out what is inside. -/
def Ordered (R : List EncodedImage → List EncodedImage → Prop) (s : System) (x : Input) : Prop :=
  match x.call with
  | .decode image missingFrames a => drains s image missingFrames a = true →
      R x.order (enqueued s image missingFrames a)
  | _ => True

theorem Possible.ordered {s : System} {x : Input} (h : Possible s x) :
    Ordered List.Subperm s x := by
  obtain ⟨c, order⟩ := x
  cases c with
  | decode image missingFrames a => exact fun hdrains => (h hdrains).1.subperm
  | initDecode | registerDecodeCompleteCallback | release => trivial

theorem OldestFirst.ordered {s : System} {x : Input} (h : OldestFirst s x) :
    Ordered List.Sublist s x := by
  obtain ⟨c, order⟩ := x
  cases c with
  | decode image missingFrames a => exact fun hdrains => h hdrains ▸ List.Sublist.refl _
  | initDecode | registerDecodeCompleteCallback | release => trivial

section Decode
variable (image : EncodedImage) (missingFrames : Bool)

/-- What is inside after the enqueueing was there before, or is the image itself. -/
theorem enqueued_grown (s : System) (a : DecodeAnswers) :
    (enqueued s image missingFrames a).Sublist (s.inside ++
        acceptedIn (enqueueOrFlush s.decoder.openGate image missingFrames a).2.1) ∧
      ∀ i ∈ enqueued s image missingFrames a, i ∈ s.inside ∨ i = image := by
  have hfills := enqueued_fills image missingFrames s a
  cases hfills with
  | refused _ hkept hnone =>
    rw [hnone, List.append_nil]
    rcases hkept with hkept | hkept
    · rw [hkept]
      exact ⟨List.Sublist.refl _, fun i hi => .inl hi⟩
    · rw [hkept]
      exact ⟨List.nil_sublist _, by simp⟩
  | accepted earlier hkept hadded hone =>
    rw [hadded, hone]
    rcases hkept with rfl | rfl
    · refine ⟨List.Sublist.refl _, ?_⟩
      intro i hi
      simpa using hi
    · refine ⟨List.sublist_append_right _ _, ?_⟩
      intro i hi
      exact .inr (by simpa using hi)

include hR in
theorem decode_ordered {s : System} {a : DecodeAnswers} {order : List EncodedImage}
    (h : drains s image missingFrames a = true → R order (enqueued s image missingFrames a)) :
    R (sources (decode s image missingFrames a order).2 ++
        (decode s image missingFrames a order).1)
        (s.inside ++ accepted (decode s image missingFrames a order).2) ∧
      ∀ i ∈ (decode s image missingFrames a order).1, i ∈ s.inside ∨ i = image := by
  obtain ⟨hgrown, hinside⟩ := enqueued_grown image missingFrames s a
  unfold decode
  split
  · dsimp only
    split
    · rename_i hdrains
      have htaken := hR.trans (hR.sublist (takeOut_sublist image (rounds a) order)) (h hdrains)
      refine ⟨?_, ?_⟩
      · rw [sources_append, accepted_append, (accepted_accepted _).1, (accepted_accepted _).2,
          (accepted_picture _).1, (accepted_picture _).2, List.nil_append, List.append_nil]
        exact hR.trans htaken (hR.sublist hgrown)
      · intro i hi
        exact hinside i (hR.subset htaken (List.mem_append_right _ hi))
    · refine ⟨?_, hinside⟩
      rw [(accepted_accepted _).1, (accepted_accepted _).2]
      exact hR.sublist hgrown
  · refine ⟨?_, fun i hi => .inl hi⟩
    simpa [sources, pictures, accepted] using hR.sublist (List.Sublist.refl s.inside)

end Decode

/-- The delivered images and those inside are among the accepted images, and the decoder has been
called with each image inside. -/
structure Inv (R : List EncodedImage → List EncodedImage → Prop) (log : List Entry) (s : System) :
    Prop where
  ordered : R (sources log ++ s.inside) (accepted log)
  known : ∀ image ∈ s.inside, .called image ∈ log

include hR in
theorem inv_initial : Inv R [] initial :=
  ⟨hR.sublist (List.Sublist.refl []), by simp [initial]⟩

include hR in
theorem inv_nothing {log : List Entry} {s t : System} (h : Inv R log s)
    (ht : t.inside = s.inside ∨ t.inside = []) : Inv R (log ++ []) t := by
  rw [List.append_nil]
  rcases ht with ht | ht
  · exact ⟨ht ▸ h.ordered, ht ▸ h.known⟩
  · refine ⟨?_, by simp [ht]⟩
    rw [ht, List.append_nil]
    exact hR.trans (hR.sublist (List.sublist_append_left _ _)) h.ordered

include hR in
theorem step_inv {log : List Entry} {s : System} {x : Input} (h : Inv R log s)
    (hx : Ordered R s x) : Inv R (log ++ (step s x).2) (step s x).1 := by
  obtain ⟨c, order⟩ := x
  unfold step
  dsimp only
  split
  · exact inv_nothing hR h (.inl rfl)
  · cases c with
    | initDecode settings a => exact inv_nothing hR h (.inr rfl)
    | registerDecodeCompleteCallback present => exact inv_nothing hR h (.inl rfl)
    | release a => exact inv_nothing hR h (.inr rfl)
    | decode image missingFrames a =>
      obtain ⟨hordered, hknown⟩ := decode_ordered hR image missingFrames hx
      dsimp only
      generalize decode s image missingFrames a order = r at hordered hknown
      have hcalled : sources (.called image :: r.2) = sources r.2 ∧
          accepted (.called image :: r.2) = accepted r.2 := ⟨rfl, rfl⟩
      have hrefl := hR.sublist (List.Sublist.refl (sources log))
      refine ⟨?_, ?_⟩
      · rw [sources_append, accepted_append, hcalled.1, hcalled.2, List.append_assoc]
        refine hR.trans (hR.append hrefl hordered) ?_
        rw [← List.append_assoc]
        exact hR.append h.ordered (hR.sublist (List.Sublist.refl _))
      · intro i hi
        rcases hknown i hi with hold | rfl
        · exact List.mem_append_left _ (h.known i hold)
        · simp

end Steps

section Times
variable (image : EncodedImage)

/-- The oldest image is the first to be given out. -/
theorem oldest_taken (x : EncodedImage) (rest : List EncodedImage) (os : List Outputs)
    (hlost : ∀ o ∈ os.dropLast, o.lost = none) (hsome : os.flatMap Outputs.pictures ≠ []) :
    ∃ p ∈ (takeOut image os (x :: rest)).2, p.source = x := by
  induction os with
  | nil => exact absurd rfl hsome
  | cons o os ih =>
    cases hpictures : o.pictures with
    | cons size sizes =>
      refine ⟨⟨image.timestamp, image.ntpTimeMs, size, x⟩, ?_, rfl⟩
      simp [takeOut, hpictures]
    | nil =>
      rw [List.flatMap_cons, hpictures, List.nil_append] at hsome
      have hmore : os ≠ [] := by
        rintro rfl
        exact hsome rfl
      rw [List.dropLast_cons_of_ne_nil hmore] at hlost
      have hnone : Outputs.taken o = 0 := by
        simp [Outputs.taken, hpictures, hlost o List.mem_cons_self]
      obtain ⟨p, hp, hsource⟩ := ih (fun o' ho' => hlost o' (List.mem_cons_of_mem _ ho')) hsome
      refine ⟨p, ?_, hsource⟩
      simp only [takeOut, hnone, List.drop_zero]
      exact List.mem_append_right _ hp

theorem takeOut_none {os : List Outputs} (h : os.flatMap Outputs.pictures = [])
    (inside : List EncodedImage) : (takeOut image os inside).2 = [] := by
  induction os generalizing inside with
  | nil => rfl
  | cons o os ih =>
    obtain ⟨hfirst, hrest⟩ := List.append_eq_nil_iff.mp (List.flatMap_cons ▸ h)
    simp [takeOut, hfirst, ih hrest]

theorem rounds_lost {a : DecodeAnswers}
    (h : a.outputs.result = .streamChange → a.outputs.lost = none) :
    ∀ o ∈ (rounds a).dropLast, o.lost = none := by
  unfold rounds
  split
  · rename_i hchange
    dsimp only
    split
    · simp
    · simpa using h hchange
  · simp

/-- Among images of different times only the last one's pictures can have its times. -/
theorem takeOut_own_iff {earlier : List EncodedImage} {os : List Outputs}
    (hfresh : ∀ i ∈ earlier, i.timestamp ≠ image.timestamp)
    (hlost : ∀ o ∈ os.dropLast, o.lost = none) :
    (∀ p ∈ (takeOut image os (earlier ++ [image])).2, (Entry.picture p).OwnTime) ↔
      (os.flatMap Outputs.pictures ≠ [] → earlier ++ [image] = [image]) := by
  constructor
  · intro hown hsome
    cases earlier with
    | nil => rfl
    | cons x rest =>
      obtain ⟨p, hp, hsource⟩ := oldest_taken image x (rest ++ [image]) os hlost hsome
      have htime := (takeOut_times image os _ p hp).1
      have hsame := (hown p hp).1
      rw [htime, hsource] at hsame
      exact absurd hsame.symm (hfresh x List.mem_cons_self)
  · intro halone p hp
    by_cases hsome : os.flatMap Outputs.pictures = []
    · rw [takeOut_none image hsome] at hp
      cases hp
    · rw [halone hsome] at hp
      obtain ⟨htimestamp, hntp, hsource⟩ := takeOut_times image os _ p hp
      obtain rfl := List.mem_singleton.mp hsource
      exact ⟨htimestamp, hntp⟩

variable {R : List EncodedImage → List EncodedImage → Prop} {log : List Entry} {s : System}

/-- The times are those of the picture's own image just if that is the image of the call. -/
theorem decode_own_iff (h : Inv R log s) {missingFrames : Bool} {a : DecodeAnswers}
    {order : List EncodedImage} (hpossible : Possible s ⟨.decode image missingFrames a, order⟩)
    (hfresh : Fresh log ⟨.decode image missingFrames a, order⟩) :
    ∀ p ∈ pictures (decode s image missingFrames a order).2,
      (Entry.picture p).OwnTime ↔ p.source = image := by
  unfold decode
  split
  · dsimp only
    split
    · rename_i hdrains
      intro p hp
      have hmem : p ∈ (takeOut image (rounds a) order).2 := by
        simpa [pictures, List.filterMap_map] using hp
      obtain ⟨htimestamp, hntp, hsource⟩ := takeOut_times image (rounds a) order p hmem
      have hinside := (enqueued_grown image missingFrames s a).2 _
        ((hpossible hdrains).1.mem_iff.mp hsource)
      constructor
      · intro hown
        refine hinside.resolve_left ?_
        intro hold
        exact hfresh p.source (h.known _ hold) (hown.1.symm.trans htimestamp)
      · intro hsame
        exact ⟨htimestamp.trans (congrArg EncodedImage.timestamp hsame).symm,
          hntp.trans (congrArg EncodedImage.ntpTimeMs hsame).symm⟩
    · simp [pictures, List.filterMap_map]
  · simp [pictures]

/-- Where the oldest image comes out first, all pictures have their own times just when there is no
image from before. -/
theorem decode_prompt_iff (h : Inv R log s) {missingFrames : Bool} {a : DecodeAnswers}
    {order : List EncodedImage} (hup : s.decoder.crashed = false)
    (hpossible : Possible s ⟨.decode image missingFrames a, order⟩)
    (hfresh : Fresh log ⟨.decode image missingFrames a, order⟩)
    (holdest : OldestFirst s ⟨.decode image missingFrames a, order⟩) :
    (∀ e ∈ (decode s image missingFrames a order).2, e.OwnTime) ↔
      Prompt s ⟨.decode image missingFrames a, order⟩ := by
  unfold decode
  cases hdrains : drains s image missingFrames a with
  | false =>
    have hprompt : Prompt s ⟨.decode image missingFrames a, order⟩ := by
      intro _ hdrains'
      rw [hdrains] at hdrains'
      cases hdrains'
    simp only [hprompt, iff_true]
    split
    · simp [Entry.OwnTime]
    · simp
  | true =>
    obtain ⟨hreaches, hdone⟩ := Bool.and_eq_true_iff.mp hdrains
    rw [if_pos hreaches, if_pos rfl]
    have hfills := enqueued_fills image missingFrames s a
    cases hfills with
    | refused hfailed => simp [hfailed] at hdone
    | accepted earlier hkept hadded =>
      have hearlier : ∀ i ∈ earlier, i.timestamp ≠ image.timestamp := by
        intro i hi
        rcases hkept with rfl | rfl
        · exact hfresh i (h.known i hi)
        · cases hi
      have hown := takeOut_own_iff image hearlier (rounds_lost (hpossible hdrains).2.2)
      rw [← hadded] at hown
      have horder : order = enqueued s image missingFrames a := holdest hdrains
      simp only [Prompt, hup, hdrains, true_implies, horder]
      rw [← hown]
      simp [Entry.OwnTime, or_imp, forall_and]

end Times

section Delivered
variable (image : EncodedImage)

/-- What the callback is given. -/
abbrev Stamp := UInt32 × Int × UInt32 × UInt32

def delivered (log : List Event) : List Stamp :=
  log.filterMap fun
    | .decoded timestamp ntpTimeMs width height => some (timestamp, ntpTimeMs, width, height)
    | _ => none

def Picture.stamp (p : Picture) : Stamp := (p.timestamp, p.ntpTimeMs, p.size.1, p.size.2)

def stamps (log : List Entry) : List Stamp := (pictures log).map Picture.stamp

@[simp] theorem delivered_append (log more : List Event) :
    delivered (log ++ more) = delivered log ++ delivered more := by
  simp [delivered]

@[simp] theorem stamps_append (log more : List Entry) :
    stamps (log ++ more) = stamps log ++ stamps more := by
  simp [stamps, pictures]

theorem delivered_flushFrames (s : State) (o : Outputs) :
    delivered (flushFrames s image.timestamp image.ntpTimeMs o).2.1 =
      o.pictures.map fun p => (image.timestamp, image.ntpTimeMs, p.1, p.2) := by
  simp only [flushFrames, delivered, List.filterMap_map]
  exact congrFun List.filterMap_eq_map _

theorem delivered_drain (s : State) (a : DecodeAnswers) :
    delivered (drain s image a).2.1 =
      ((rounds a).flatMap Outputs.pictures).map fun p =>
        (image.timestamp, image.ntpTimeMs, p.1, p.2) := by
  have hresult : (flushFrames s image.timestamp image.ntpTimeMs a.outputs).2.2 =
      a.outputs.result := rfl
  unfold drain rounds
  dsimp only
  rw [hresult]
  split
  · split
    · simp [delivered_flushFrames]
    · simp [delivered_flushFrames]
  · simp [delivered_flushFrames]

theorem stamps_takeOut {os : List Outputs} {inside : List EncodedImage}
    (h : (os.map Outputs.taken).sum ≤ inside.length) :
    (takeOut image os inside).2.map Picture.stamp =
      (os.flatMap Outputs.pictures).map fun p => (image.timestamp, image.ntpTimeMs, p.1, p.2) := by
  induction os generalizing inside with
  | nil => rfl
  | cons o os ih =>
    rw [List.map_cons, List.sum_cons] at h
    have hfirst : o.pictures.length ≤ inside.length :=
      (Nat.le_add_right _ _).trans ((Nat.le_add_right _ _).trans h)
    have hleft : (os.map Outputs.taken).sum ≤ (inside.drop (Outputs.taken o)).length := by
      rw [List.length_drop]
      omega
    simp only [takeOut, List.map_append, List.flatMap_cons, ih hleft]
    congr 1
    rw [List.map_map]
    have hsnd : (inside.zip o.pictures).map Prod.snd = o.pictures := List.map_snd_zip hfirst
    conv_rhs => rw [← hsnd, List.map_map]
    rfl

theorem delivered_enqueueFrame (s : State) (missingFrames : Bool) (a : EnqueueAnswers) :
    delivered (enqueueFrame s image missingFrames a).2.1 = [] := by
  cases hdecoder : s.decoder with
  | none =>
    obtain ⟨t, -, h | h⟩ := enqueueFrame_none s image missingFrames a hdecoder
    · rw [h]
      rfl
    · rw [h]
      rfl
  | some i =>
    obtain ⟨t, -, -, -, ⟨-, h⟩ | ⟨sample, h⟩⟩ := enqueueFrame_some s image missingFrames a hdecoder
    · rw [h]
      rfl
    · rw [h]
      rfl

theorem delivered_flushes (decoder : Option Nat) :
    delivered (decoder.toList.map Event.flush) = [] := by
  cases decoder with
  | none => rfl
  | some i => rfl

theorem delivered_enqueueOrFlush (s : State) (missingFrames : Bool) (a : DecodeAnswers) :
    delivered (enqueueOrFlush s image missingFrames a).2.1 = [] := by
  unfold enqueueOrFlush
  have hfirst := delivered_enqueueFrame image s missingFrames a.enqueue
  dsimp only
  split
  · split
    · split
      · rw [delivered_append, hfirst, delivered_flushes]
        rfl
      · rw [delivered_append, delivered_append, hfirst, delivered_flushes, delivered_enqueueFrame]
        rfl
    · rw [delivered_append, hfirst, delivered_flushes]
      rfl
  · exact hfirst

theorem delivered_configure (s : State) (i : Nat) (settings : CodecSettings) (a : InitAnswers) :
    delivered (configure s i settings a).2.1 = [] := by
  unfold configure
  dsimp only
  repeat' split
  all_goals rfl

theorem delivered_initDecode (s : State) (settings : CodecSettings) (a : InitAnswers) :
    delivered (initDecode s settings a).2.1 = [] := by
  unfold initDecode
  dsimp only
  split
  · rfl
  · exact delivered_configure _ _ settings a

theorem delivered_release (s : State) (a : ReleaseAnswers) : delivered (release s a).2.1 = [] := by
  unfold release
  dsimp only
  split
  · rfl
  · exact delivered_flushes s.decoder

theorem delivered_decode {s : System} {missingFrames : Bool} {a : DecodeAnswers}
    {order : List EncodedImage} (h : Possible s ⟨.decode image missingFrames a, order⟩) :
    delivered (Decoder.decode s.decoder image missingFrames a).2.1 =
      stamps (decode s image missingFrames a order).2 := by
  have hstamps (images : List EncodedImage) : stamps (images.map .accepted) = [] := by
    simp [stamps, pictures, List.filterMap_map]
  have hpictures (ps : List Picture) : stamps (ps.map .picture) = ps.map Picture.stamp := by
    simp [stamps, pictures, List.filterMap_map]
  have hnone := delivered_enqueueOrFlush image s.decoder.openGate missingFrames a
  unfold Decoder.decode decode
  cases hrefused : refused s.decoder image with
  | some code =>
    have hreaches : reaches s.decoder image = false := by simp [reaches, hrefused]
    rw [hreaches]
    rfl
  | none =>
    cases hgate : s.decoder.requireKeyframe && !image.cleanPoint with
    | true =>
      have hreaches : reaches s.decoder image = false := by simp [reaches, hrefused, hgate]
      rw [hreaches]
      rfl
    | false =>
      have hreaches : reaches s.decoder image = true := by simp [reaches, hrefused, hgate]
      rw [if_pos hreaches]
      dsimp only
      rw [if_neg (by simp)]
      cases hfailed : (enqueueOrFlush s.decoder.openGate image missingFrames a).2.2.failed with
      | true =>
        have hdrains : drains s image missingFrames a = false := by simp only [drains, hfailed]; simp
        rw [if_pos rfl, if_neg (by simp [hdrains]), hstamps]
        exact hnone
      | false =>
        have hdrains : drains s image missingFrames a = true := by
          simp only [drains, hfailed, hreaches]
          rfl
        rw [if_neg (by simp), if_pos hdrains, delivered_append, hnone, delivered_drain,
          stamps_append, hstamps, hpictures, stamps_takeOut image (h hdrains).2.1]

/-- The pictures are those of the decoder. -/
theorem step_delivered {s : System} {x : Input} (h : Possible s x) :
    delivered (Decoder.step s.decoder x.call).2 = stamps (step s x).2 := by
  obtain ⟨c, order⟩ := x
  have hreturned (crashed : Bool) (code : CodecResult) :
      delivered (if crashed then [] else [.returned code]) = [] := by
    cases crashed with
    | false => rfl
    | true => rfl
  unfold Decoder.step step
  dsimp only
  split
  · rfl
  · rw [delivered_append, hreturned, List.append_nil]
    cases c with
    | initDecode settings a => exact delivered_initDecode s.decoder settings a
    | registerDecodeCompleteCallback present => rfl
    | decode image missingFrames a => exact delivered_decode image h
    | release a => exact delivered_release s.decoder a

end Delivered

section Runs

theorem step_decoder (s : System) (x : Input) :
    (step s x).1.decoder = (Decoder.step s.decoder x.call).1 := by
  obtain ⟨c, order⟩ := x
  unfold step
  dsimp only
  split
  · rename_i hcrashed
    simp [Decoder.step, hcrashed]
  · cases c <;> rfl

/-- The run of the decoder that a run of the system contains. -/
theorem run_decoder {log : List Entry} {s : System} {inputs : List Input}
    (h : Along step (fun _ => Possible) log s inputs) :
    stamps (run step s inputs).2 =
      delivered (run Decoder.step s.decoder (inputs.map Input.call)).2 := by
  induction inputs generalizing log s with
  | nil => rfl
  | cons x inputs ih =>
    obtain ⟨hx, hinputs⟩ := h
    have hlog := ih hinputs
    rw [step_decoder] at hlog
    rw [List.map_cons, run_cons, run_cons]
    simp only [stamps_append, delivered_append, hlog, step_delivered hx]

/-- The pictures that a call hands on are made of its own image. -/
def OwnImage (s : System) (x : Input) : Prop :=
  match x.call with
  | .decode image _ _ => ∀ p ∈ pictures (step s x).2, p.source = image
  | _ => True

theorem ownTime_iff_pictures (entries : List Entry) :
    (∀ e ∈ entries, e.OwnTime) ↔ ∀ p ∈ pictures entries, (Entry.picture p).OwnTime := by
  constructor
  · intro h p hp
    obtain ⟨e, he, hpicture⟩ := List.mem_filterMap.mp hp
    cases e with
    | picture q =>
      obtain rfl := Option.some.inj hpicture
      exact h _ he
    | called | accepted => cases hpicture
  · intro h e he
    cases e with
    | picture p => exact h p (List.mem_filterMap.mpr ⟨_, he, rfl⟩)
    | called | accepted => trivial

variable {R : List EncodedImage → List EncodedImage → Prop} {log : List Entry} {s : System}
  {x : Input}

theorem step_own_iff (h : Inv R log s) (hpossible : Possible s x) (hfresh : Fresh log x) :
    Justified (fun _ e => e.OwnTime) (step s x).2 ↔ OwnImage s x := by
  rw [justified_iff_forall, ownTime_iff_pictures]
  obtain ⟨c, order⟩ := x
  unfold OwnImage step
  dsimp only
  cases c with
  | decode image missingFrames a =>
    apply forall₂_congr
    intro p hp
    split at hp
    · cases hp
    · exact decode_own_iff image h hpossible hfresh p hp
  | initDecode | registerDecodeCompleteCallback | release =>
    split <;> simp [pictures]

theorem step_prompt_iff (h : Inv R log s) (hpossible : Possible s x) (hfresh : Fresh log x)
    (holdest : OldestFirst s x) :
    Justified (fun _ e => e.OwnTime) (step s x).2 ↔ Prompt s x := by
  rw [justified_iff_forall]
  obtain ⟨c, order⟩ := x
  unfold step
  dsimp only
  cases hcrashed : s.decoder.crashed with
  | true =>
    rw [if_pos rfl]
    cases c with
    | decode image missingFrames a => simp [Prompt, hcrashed]
    | initDecode | registerDecodeCompleteCallback | release => simp [Prompt]
  | false =>
    rw [if_neg (by simp)]
    cases c with
    | decode image missingFrames a =>
      rw [← decode_prompt_iff image h hcrashed hpossible hfresh holdest]
      simp [Entry.OwnTime]
    | initDecode | registerDecodeCompleteCallback | release => simp [Prompt]

end Runs

/-- With a transform that gives out at most one picture for an image, and images of different
times: the callback gets the pictures of accepted images, each at most once, and they carry the
times of their own images just when no call hands on a picture of another image than its own. If the
transform gives out the oldest image first, they come in the order of the images, and with their own
times just when no call that hands on a picture has found an earlier image inside. -/
theorem decoded_pictures (inputs : List Input)
    (h : Along step (fun log s x => Possible s x ∧ Fresh log x) [] initial inputs) :
    stamps (run step initial inputs).2 =
        delivered (run Decoder.step create (inputs.map Input.call)).2 ∧
      (sources (run step initial inputs).2).Subperm (accepted (run step initial inputs).2) ∧
      ((∀ e ∈ (run step initial inputs).2, e.OwnTime) ↔
        Along step (fun _ => OwnImage) [] initial inputs) ∧
      (Along step (fun _ => OldestFirst) [] initial inputs →
        (sources (run step initial inputs).2).Sublist (accepted (run step initial inputs).2) ∧
        ((∀ e ∈ (run step initial inputs).2, e.OwnTime) ↔
          Along step (fun _ => Prompt) [] initial inputs)) := by
  have hpossible : Along step (fun _ => Possible) [] initial inputs :=
    along_imp step (fun _ => True) (fun _ _ _ => trivial) (fun _ _ _ _ hx => hx.1) trivial h
  have hany : Inv List.Subperm (run step initial inputs).2 (run step initial inputs).1 :=
    run_invariant step (Inv List.Subperm)
      (fun _ _ _ hlog hx => step_inv respects_subperm hlog hx.ordered)
      (inv_initial respects_subperm) hpossible
  refine ⟨run_decoder hpossible,
    (List.sublist_append_left _ _).subperm.trans hany.ordered, ?_, ?_⟩
  · rw [← justified_iff_forall (P := Entry.OwnTime)]
    exact justified_iff_along step (P := fun _ e => e.OwnTime) (Inv List.Subperm)
      (fun _ _ _ hlog hx => step_own_iff hlog hx.1 hx.2)
      (fun _ _ _ hlog hx _ => step_inv respects_subperm hlog hx.1.ordered)
      (inv_initial respects_subperm) h
  · intro holdest
    have hboth := along_and step h holdest
    have hinv : Inv List.Sublist (run step initial inputs).2 (run step initial inputs).1 :=
      run_invariant step (Inv List.Sublist)
        (fun _ _ _ hlog hx => step_inv respects_sublist hlog hx.ordered)
        (inv_initial respects_sublist) holdest
    refine ⟨(List.sublist_append_left _ _).trans hinv.ordered, ?_⟩
    rw [← justified_iff_forall (P := Entry.OwnTime)]
    exact justified_iff_along step (P := fun _ e => e.OwnTime) (Inv List.Sublist)
      (fun _ _ _ hlog hx => step_prompt_iff hlog hx.1.1 hx.1.2 hx.2)
      (fun _ _ _ hlog hx _ => step_inv respects_sublist hlog hx.2.ordered)
      (inv_initial respects_sublist) hboth

def initOk : InitAnswers where
  coCreateInstance := .ok
  createInputMediaType := .ok
  setInputType := .ok
  outputTypes := [⟨.ok, .ok, true⟩]
  setOutputType := .ok
  getInputStatus := .ok
  acceptsData := true
  flush := .ok
  beginStreaming := .ok
  startOfStream := .ok

def decodeGiving (pictures : List (UInt32 × UInt32)) : DecodeAnswers where
  enqueue := ⟨false, false, false, false, false, .ok⟩
  flush := .ok
  enqueueAgain := ⟨false, false, false, false, false, .ok⟩
  outputs := ⟨pictures, none, .needMoreInput⟩
  outputTypes := []
  setOutputType := .ok
  outputsAgain := ⟨[], none, .needMoreInput⟩

def firstImage : EncodedImage := ⟨.bytes [0, 0, 0, 1, 0x65], .key, true, 3000, 0⟩

def secondImage : EncodedImage := ⟨.bytes [0, 0, 0, 1, 0x41], .delta, true, 6000, 33⟩

/-- The transform keeps the first image until it has the second. -/
def heldBack : List Input :=
  [⟨.initDecode ⟨640, 480, 30⟩ initOk, []⟩, ⟨.registerDecodeCompleteCallback true, []⟩,
    ⟨.decode firstImage false (decodeGiving []), [firstImage]⟩,
    ⟨.decode secondImage false (decodeGiving [(640, 480)]), [firstImage, secondImage]⟩]

theorem heldBack_possible :
    Along step (fun log s x => Possible s x ∧ Fresh log x) [] initial heldBack := by
  refine ⟨⟨trivial, trivial⟩, ⟨trivial, trivial⟩, ⟨?_, ?_⟩, ⟨?_, ?_⟩, trivial⟩
  · exact fun _ => ⟨List.Perm.refl _, by decide, fun _ => rfl⟩
  · intro earlier hcalled
    cases hcalled
  · exact fun _ => ⟨List.Perm.refl _, by decide, fun _ => rfl⟩
  · intro earlier hcalled
    have hlog : .called earlier ∈ [Entry.called firstImage, .accepted firstImage] := hcalled
    have hfirst : earlier = firstImage := by simpa using hlog
    subst hfirst
    decide

theorem heldBack_stamped_late : ¬ ∀ e ∈ (run step initial heldBack).2, e.OwnTime := by
  have holdest : Along step (fun _ => OldestFirst) [] initial heldBack :=
    ⟨trivial, trivial, fun _ => rfl, fun _ => rfl, trivial⟩
  rw [((decoded_pictures heldBack heldBack_possible).2.2.2 holdest).2]
  rintro ⟨-, -, -, hprompt, -⟩
  have halone := hprompt rfl rfl (by decide)
  revert halone
  decide

end WeiRtcNative.H264.DecodedPictures
