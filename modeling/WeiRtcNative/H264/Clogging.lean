import WeiRtcNative.H264.InFlight

/-!
# The attribute queue does not clog

`Encode` drops frames while more than two entries are queued, so an entry must not
outlive its sample. The entry is pushed before `WriteSample`, whose failure is not
looked at, and `Flush` and `Stop` forget samples without their entries. As long as no
sample with an entry is lost in one of these ways, the queued entries belong to samples
on their way to `OnH264Encoded`.
-/

namespace WeiRtcNative.H264.Clogging

open Machine SampleAttributeQueue Encoder Pipeline InFlight
set_option autoImplicit false

structure Unclogged (mode : FrameHeightRoundMode) (sys : System) : Prop where
  accepted : held sys.api = [] → sys.encoder.sampleAttributeQueue.Sublist (entries (inUse sys))
  room : inFlight sys = [] → sys.encoder.sampleAttributeQueue = [] ∧
    ∀ frame, (Encoder.takeFrame mode sys.encoder frame none).2.isSome = true

/-- The action loses no sample for which attributes were cached. -/
def Keeps (sys : System) (a : Action) : Prop := entries (discarded sys a) = []

structure Inv (sys : System) : Prop where
  released : Released sys
  belongs : sys.encoder.sampleAttributeQueue.Sublist (awaited sys)

theorem flow_belongs {sys sys' : System} (hbelongs : sys.encoder.sampleAttributeQueue.Sublist (awaited sys))
    (hflow : Flow sys sys' []) : sys'.encoder.sampleAttributeQueue.Sublist (awaited sys') := by
  cases hflow with
  | cached new queue fewer all =>
    rw [queue, all rfl]
    exact hbelongs.append (List.Sublist.refl new)
  | cleared queue none =>
    rw [queue]
    exact List.nil_sublist _

/-- A `pop` takes the entry of its sample, if it takes any entry that is still awaited. -/
theorem popAttributes_belongs {sys : System} {w : Nat}
    (hbelongs : sys.encoder.sampleAttributeQueue.Sublist (awaited sys)) :
    (popAttributes sys w).encoder.sampleAttributeQueue.Sublist (awaited (popAttributes sys w)) := by
  cases hrun : (sys.writers w).running with
  | entered x =>
    obtain ⟨hqueue, hown, hother⟩ := popAttributes_flow hrun
    rw [hqueue]
    by_cases hcur : sys.encoder.sinkWriter = some w
    · rw [hown hcur] at hbelongs
      cases hcached : x.sample.cached with
      | none =>
        rw [hcached, Option.toList_none, List.nil_append] at hbelongs
        exact (pop_suffix _ _).sublist.trans hbelongs
      | some e =>
        rw [hcached, Option.toList_some, List.singleton_append] at hbelongs
        rw [Sample.cached_id hcached]
        exact pop_sublist_of_sublist hbelongs
    · rw [hother hcur]
      exact (pop_suffix _ _).sublist.trans hbelongs
  | idle | taken x | popped x attributes => simpa [popAttributes, hrun] using hbelongs

theorem step_inv {mode : FrameHeightRoundMode} {sys : System} {a : Action} (hinv : Inv sys)
    (hkeeps : Keeps sys a) : Inv (step mode sys a).1 := by
  refine ⟨step_released mode a hinv.released, ?_⟩
  by_cases hpop : ∃ w, a = .popAttributes w
  · obtain ⟨w, rfl⟩ := hpop
    unfold step
    split
    · exact hinv.belongs
    · exact popAttributes_belongs hinv.belongs
  · have hflow := step_flow mode a hinv.released (fun w hw => hpop ⟨w, hw⟩)
    rw [hkeeps] at hflow
    exact flow_belongs hinv.belongs hflow

theorem Inv.unclogged {sys : System} (hinv : Inv sys) (mode : FrameHeightRoundMode) :
    Unclogged mode sys where
  accepted := by
    intro hheld
    have hbelongs := hinv.belongs
    simpa [awaited, inFlight, hheld] using hbelongs
  room := by
    intro hnone
    have hempty : sys.encoder.sampleAttributeQueue = [] := by
      have hbelongs := hinv.belongs
      rw [awaited, hnone] at hbelongs
      exact List.sublist_nil.mp hbelongs
    refine ⟨hempty, ?_⟩
    intro frame
    have hroom : hasRoom sys.encoder = true := by
      rw [hasRoom, hempty]
      decide
    simp [Encoder.takeFrame, hroom, fromVideoFrame]

theorem start_inv (u : Uninitialised) (settings : CodecSettings) (now : Int) :
    Inv (start u settings now) := by
  refine ⟨start_released u settings now, ?_⟩
  rw [start_queue]
  exact List.nil_sublist _

/-- While no sample is lost, every queued entry belongs to a sample of the writer in use, and a
frame that finds nothing in flight is encoded. -/
theorem entries_belong_to_samples (mode : FrameHeightRoundMode) (u : Uninitialised)
    (settings : CodecSettings) (now : Int) (actions : List Action)
    (hok : Along (step mode) (fun _ => Keeps) [] (start u settings now) actions) :
    Unclogged mode (run (step mode) (start u settings now) actions).1 :=
  (run_invariant (step mode) (fun _ => Inv) (fun _ _ _ => step_inv)
    (start_inv u settings now) hok).unclogged mode

def oneFrame : List Action :=
  [.setCurrentMediaType 0 ⟨.video, some 0, []⟩ ⟨.ok, .ok, .ok⟩, .start 0 .ok, .dispatch 0 .ok,
    .encode (frameOf 3000 640 480) none 0, .takeFrame none, .writeSample .ok,
    .output 0 [0, 0, 0, 1, 0x65, 0x88] true .ok, .dispatch 0 .ok, .enterCallback 0,
    .popAttributes 0, .deliver 0 true]

theorem one_frame_leaves_no_entry :
    Unclogged .noChange (run (step .noChange) (start someMemory vga 0) oneFrame).1 := by
  apply entries_belong_to_samples
  refine ⟨rfl, rfl, rfl, rfl, rfl, rfl, rfl, rfl, rfl, rfl, rfl, trivial⟩

def failedWrite (timestamp : UInt32) : List Action :=
  [.encode (frameOf timestamp 640 480) none 0, .takeFrame none, .writeSample .fail]

/-- Three frames that `WriteSample` refuses: their entries stay and the next frame is dropped. -/
theorem failed_writes_clog :
    ¬ Unclogged .noChange (run (step .noChange) (start someMemory vga 0)
      (failedWrite 3000 ++ failedWrite 6000 ++ failedWrite 9000)).1 := by
  intro h
  obtain ⟨-, hroom⟩ := h.room rfl
  exact absurd (hroom (frameOf 12000 640 480)) (by decide)

end WeiRtcNative.H264.Clogging
