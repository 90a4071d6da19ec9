import WeiRtcNative.H264.Pipeline

/-!
# Which rates a reconfiguration gets

`SetRates` passes its own values on when the last rate change is old enough, and keeps
them in `next_target_bps_` and `next_frame_rate_` otherwise. `Encode` always passes the
kept values. They are the ones asked for last as long as `Encode` reconfigures only
when the last `SetRates` was one that had to wait.
-/

namespace WeiRtcNative.H264.LastRates

open Machine Encoder Pipeline
set_option autoImplicit false

def asked : Event → Option (Rates × RatesOutcome)
  | .setRates rates outcome => some (rates, outcome)
  | _ => none

def latest (log : List Event) : Option (Rates × RatesOutcome) := (log.filterMap asked).getLast?

def due (log : List Event) (inForce : Rates) : Rates := ((latest log).map Prod.fst).getD inForce

def LatestAt (pre : List Event) : Event → Prop
  | .reconfigure args inForce => args.rates = due pre inForce
  | _ => True

def LastWins (log : List Event) : Prop := Justified LatestAt log

/-- Each reconfiguration by `Encode` comes after a `SetRates` call, the last of which was
postponed. -/
def WaitedFor (log : List Event) (sys : System) : Action → Prop
  | .encode frame _ now =>
    sys.crashed = false → sys.api = .idle → sys.encoder.inited = true →
      (encodeReconfigures sys.encoder frame now).isSome = true →
      ∃ rates, latest log = some (rates, .postponed)
  | _ => True

def Quiet : Event → Prop
  | .setRates _ _ | .reconfigure _ _ => False
  | _ => True

theorem Quiet.asked {e : Event} (h : Quiet e) : LastRates.asked e = none := by
  cases e <;> first | rfl | exact absurd h id

theorem Quiet.latestAt {e : Event} (h : Quiet e) (pre : List Event) : LatestAt pre e := by
  cases e <;> trivial

structure Inv (log : List Event) (sys : System) : Prop where
  wins : LastWins log
  kept : ∀ rates, latest log = some (rates, .postponed) → sys.encoder.nextRates = rates

theorem latest_append_quiet {log evs : List Event} (h : ∀ e ∈ evs, Quiet e) :
    latest (log ++ evs) = latest log := by
  have hnone : evs.filterMap asked = [] := by
    apply List.filterMap_eq_nil_iff.mpr
    intro e he
    exact (h e he).asked
  simp [latest, List.filterMap_append, hnone]

theorem Inv.append_quiet {log evs : List Event} {sys sys' : System} (hinv : Inv log sys)
    (hnext : sys'.encoder.nextRates = sys.encoder.nextRates) (h : ∀ e ∈ evs, Quiet e) :
    Inv (log ++ evs) sys' where
  wins := by
    refine justified_append.mpr ⟨hinv.wins, ?_⟩
    intro pre e post heq
    exact (h e (by simp [heq])).latestAt _
  kept := by
    rw [latest_append_quiet h, hnext]
    exact hinv.kept

theorem requests_quiet {asked : List Event} (h : KeyFrameRequests asked) :
    ∀ e ∈ asked, Quiet e := by
  intro e he
  obtain ⟨w, rfl⟩ := h e he
  trivial

theorem stepSink_quiet (sys : System) (a : Action) :
    (stepSink sys a).1.encoder.nextRates = sys.encoder.nextRates ∧
      ∀ e ∈ (stepSink sys a).2, Quiet e := by
  have heffect := stepSink_effect sys a
  generalize stepSink sys a = r at heffect ⊢
  cases heffect with
  | none | changes => exact ⟨rfl, by simp⟩
  | pops =>
    refine ⟨?_, by simp⟩
    unfold popAttributes
    split <;> rfl
  | delivers running image =>
    refine ⟨rfl, ?_⟩
    rcases image with rfl | ⟨given, content, -, rfl⟩
    · simp
    · simp [Quiet]

theorem writeSample_quiet {sys : System} {w : Nat} (hw : sys.encoder.sinkWriter = some w)
    (sample : Sample) (hr : HResult) :
    (writeSample sys sample hr).1.encoder.nextRates = sys.encoder.nextRates ∧
      ∀ e ∈ (writeSample sys sample hr).2, Quiet e := by
  rw [writeSample, hw]
  refine ⟨rfl, ?_⟩
  dsimp only
  split <;> simp [Quiet]

@[simp] theorem reconfigureSinkWriter_nextRates (sys : System) (args : ReconfigureArgs)
    (pending : Option Pending) :
    (reconfigureSinkWriter sys args pending).1.encoder.nextRates = sys.encoder.nextRates := by
  rcases reconfigureSinkWriter_cases sys args pending with h | h <;> rw [h] <;> rfl

theorem shutdownSink_nextRates (sys : System) (sink : Option Nat) (callback : Bool)
    (pending : Option Pending) :
    (shutdownSink sys sink callback pending).encoder.nextRates = sys.encoder.nextRates := by
  unfold shutdownSink
  dsimp only
  split <;> rfl

@[simp] theorem latest_append_setRates (log : List Event) (rates : Rates)
    (outcome : RatesOutcome) : latest (log ++ [.setRates rates outcome]) = some (rates, outcome) := by
  simp [latest, asked]

theorem Inv.append_setRates {log : List Event} {sys sys' : System} (hinv : Inv log sys)
    (rates : Rates) (outcome : RatesOutcome)
    (hkept : outcome = .postponed → sys'.encoder.nextRates = rates) :
    Inv (log ++ [.setRates rates outcome]) sys' where
  wins := justified_append.mpr ⟨hinv.wins, by simp [LatestAt]⟩
  kept := by
    intro kept hlatest
    obtain ⟨rfl, rfl⟩ : rates = kept ∧ outcome = .postponed := by simpa using hlatest
    exact hkept rfl

theorem Inv.append_reconfigure {log : List Event} {sys sys' : System} {args : ReconfigureArgs}
    {inForce : Rates} (hinv : Inv log sys)
    (hnext : sys'.encoder.nextRates = sys.encoder.nextRates)
    (hargs : args.rates = due log inForce) :
    Inv (log ++ [.reconfigure args inForce]) sys' where
  wins := justified_append.mpr ⟨hinv.wins, by simpa [LatestAt] using hargs⟩
  kept := by
    rw [hnext]
    simpa [latest, asked] using hinv.kept

theorem encodeReconfigures_rates {e : Encoder.State} {frame : VideoFrame} {now : Int}
    {args : ReconfigureArgs} (h : encodeReconfigures e frame now = some args) :
    args.rates = e.nextRates := by
  unfold encodeReconfigures at h
  split at h
  · obtain rfl := Option.some.inj h
    rfl
  · exact absurd h (by simp)

theorem stepApi_inv {mode : FrameHeightRoundMode} {log : List Event} {sys : System} {a : Action}
    (hinv : Inv log sys) (hcrashed : sys.crashed = false) (hok : WaitedFor log sys a) :
    Inv (log ++ (stepApi mode sys a).2) (stepApi mode sys a).1 := by
  have heffect := stepApi_effect mode sys a
  generalize stepApi mode sys a = r at heffect ⊢
  cases heffect with
  | none => simpa using hinv
  | ratesIgnored => exact hinv.append_setRates _ _ (by simp)
  | ratesPostponed => exact hinv.append_setRates _ _ (fun _ => rfl)
  | @ratesApplied p now args idle rates =>
    have hasked : Inv (log ++ [.setRates p.rates .applied]) sys :=
      hinv.append_setRates _ _ (by simp)
    have hgot := hasked.append_reconfigure (reconfigureSinkWriter_nextRates sys args none)
      (show args.rates = due _ sys.encoder.rates by simp [due, rates])
    simpa using hgot
  | reconfigures idle inited needed =>
    obtain ⟨rates, hlatest⟩ := hok hcrashed idle inited (by simp [needed])
    refine hinv.append_reconfigure ?_ ?_
    · exact reconfigureSinkWriter_nextRates _ _ _
    · rw [encodeReconfigures_rates needed, hinv.kept rates hlatest]
      simp [due, hlatest]
  | encodes | registers => exact hinv.append_quiet rfl (by simp)
  | shutsDown => exact hinv.append_quiet (shutdownSink_nextRates _ _ _ _) (by simp)
  | initializes =>
    exact hinv.append_quiet (initWriter_nextRates sys.encoder _ _)
      (by simp [Pipeline.initWriter, Quiet])
  | samples api takes requests => exact hinv.append_quiet takes.nextRates (requests_quiet requests)
  | crashes requests => exact hinv.append_quiet rfl (requests_quiet requests)
  | drops api takes requests =>
    refine hinv.append_quiet takes.nextRates ?_
    intro e he
    rcases List.mem_append.mp he with he | he
    · exact requests_quiet requests e he
    · obtain rfl := List.mem_singleton.mp he
      trivial
  | writes api current =>
    obtain ⟨hnext, hquiet⟩ := writeSample_quiet current _ _
    exact hinv.append_quiet hnext hquiet

theorem step_inv {mode : FrameHeightRoundMode} {log : List Event} {sys : System} {a : Action}
    (hinv : Inv log sys) (hok : WaitedFor log sys a) :
    Inv (log ++ (step mode sys a).2) (step mode sys a).1 := by
  unfold step
  split
  · simpa using hinv
  · rename_i hcrashed
    split
    · exact stepApi_inv hinv (by simpa using hcrashed) hok
    · obtain ⟨hnext, hquiet⟩ := stepSink_quiet sys a
      exact hinv.append_quiet hnext hquiet

/-- In every run in which `Encode` reconfigures only when the last `SetRates` was postponed,
every reconfiguration gets the rates asked for last. -/
theorem reconfigurations_get_latest (mode : FrameHeightRoundMode) (u : Uninitialised)
    (settings : CodecSettings) (now : Int) (actions : List Action)
    (hok : Along (step mode) WaitedFor [] (start u settings now) actions) :
    LastWins (run (step mode) (start u settings now) actions).2 :=
  (run_invariant (step mode) Inv (fun _ _ _ => step_inv)
    ⟨justified_nil, by simp [latest]⟩ hok).wins

/-- A postponed request, and a frame after the interval that brings it into force. -/
theorem postponed_request_applied :
    LastWins (run (step .noChange) (start someMemory vga 0)
      [.setRates ⟨600000, 15⟩ 1000, .encode (frameOf 3000 640 480) none 6000, .shutdownSink,
        .initWriter none 6001 6002, .takeFrame none, .writeSample .ok]).2 := by
  apply reconfigurations_get_latest
  refine ⟨trivial, ?_, trivial, trivial, trivial, trivial, trivial⟩
  intro _ _ _ _
  exact ⟨⟨600000, 15⟩, by decide +kernel⟩

def overtaken : List Action :=
  [.setRates ⟨600000, 15⟩ 1000, .setRates ⟨1200000, 30⟩ 6000, .shutdownSink,
    .initWriter none 6001 6002, .encode (frameOf 3000 320 240) none 6003]

/-- A request waits, a newer one is applied at once, and the next change of the frame size
brings the older one back. -/
theorem older_request_returns :
    ¬ LastWins (run (step .noChange) (start someMemory vga 0) overtaken).2 := by
  intro h
  have hlast : LatestAt ((run (step .noChange) (start someMemory vga 0) overtaken).2.take 4)
      (.reconfigure ⟨320, 240, ⟨600000, 15⟩⟩ ⟨1200000, 30⟩) :=
    h _ _ [] (by decide +kernel)
  exact absurd hlast (by unfold LatestAt; decide +kernel)

end WeiRtcNative.H264.LastRates
