import WeiRtcNative.Audio.Activation

/-!
# The format of an audio stream

`InitTransport` asks for a format by frequency and then by number of channels, both in order of
priority. It records the parameters of the format that is supported; without one it still calls
`Initialize`, with the candidate tried last, and keeps the parameters it had.
-/

namespace WeiRtcNative.Audio.FormatNegotiation

open Machine Activation
set_option autoImplicit false

inductive FormatTag where
  | extensible
  | pcm
  deriving DecidableEq, Repr

structure WaveFormat where
  wFormatTag : FormatTag
  nChannels : UInt16
  nSamplesPerSec : UInt32
  nAvgBytesPerSec : UInt32
  nBlockAlign : UInt16
  wBitsPerSample : UInt16
  cbSize : UInt16
  deriving DecidableEq, Repr

def freqs : List UInt32 := [48000, 44100, 16000, 96000, 32000, 24000, 8000]

/-- `Wfx` in front of the loops. -/
def baseFormat : Kind → WaveFormat
  | .capture => ⟨.extensible, 0, 0, 0, 0, 16, 22⟩
  | .render => ⟨.pcm, 0, 0, 0, 0, 16, 0⟩

def setFormat (wfx : WaveFormat) (channels : UInt16) (freq : UInt32) : WaveFormat :=
  let nBlockAlign := UInt16.ofNat (channels.toNat * wfx.wBitsPerSample.toNat / 8)
  {wfx with
    nChannels := channels
    nSamplesPerSec := freq
    nBlockAlign := nBlockAlign
    nAvgBytesPerSec := freq * nBlockAlign.toUInt32}

/-- The loop over the channels, and whether `hr` is `S_OK` after it. -/
def channelLoop (supported : WaveFormat → Bool) (freq : UInt32) :
    List UInt16 → WaveFormat → WaveFormat × Bool
  | [], wfx => (wfx, false)
  | channels :: list, wfx =>
    let wfx := setFormat wfx channels freq
    if supported wfx then (wfx, true) else channelLoop supported freq list wfx

def freqLoop (supported : WaveFormat → Bool) (channelsPrioList : List UInt16) :
    List UInt32 → WaveFormat → WaveFormat × Bool
  | [], wfx => (wfx, false)
  | freq :: list, wfx =>
    let (wfx, ok) := channelLoop supported freq channelsPrioList wfx
    if ok then (wfx, true) else freqLoop supported channelsPrioList list wfx

structure Parameters where
  audioFrameSize : UInt32
  sampleRate : UInt32
  blockSize : UInt32
  channels : UInt32
  /-- Only a speaker has `_deviceSampleRate` and `_deviceBlockSize`. -/
  deviceSampleRate : UInt32
  deviceBlockSize : UInt32
  deriving DecidableEq, Repr

def Parameters.record (p : Parameters) (kind : Kind) (wfx : WaveFormat) : Parameters :=
  { audioFrameSize := wfx.nBlockAlign.toUInt32
    sampleRate := wfx.nSamplesPerSec
    blockSize := wfx.nSamplesPerSec / 100
    channels := wfx.nChannels.toUInt32
    deviceSampleRate := if kind = .render then wfx.nSamplesPerSec else p.deviceSampleRate
    deviceBlockSize := if kind = .render then wfx.nSamplesPerSec / 100 else p.deviceBlockSize }

section Calls
variable {Device : Type}

structure Negotiator (Device : Type) extends DeviceInternal Device where
  channelsPrioList : List UInt16
  parameters : Parameters

/-- `deviceSampleRate` and `deviceBlockSize` have no initialiser. -/
def create (kind : Kind) (deviceSampleRate deviceBlockSize : UInt32) : Negotiator Device where
  toDeviceInternal := Activation.create
  channelsPrioList := match kind with
    | .capture => [2, 1, 4]
    | .render => [2, 1]
  parameters := ⟨0, 0, 0, 2, deviceSampleRate, deviceBlockSize⟩

def setStereo (n : Negotiator Device) (enable : Bool) : Negotiator Device :=
  if !n.mixerInitialized then n
  else
    let (first, second) : UInt16 × UInt16 := if enable then (2, 1) else (1, 2)
    {n with
      channelsPrioList := (n.channelsPrioList.set 0 first).set 1 second
      parameters := {n.parameters with channels := first.toUInt32}}

/-- `IAudioClient::Initialize` and the calls after it have succeeded, so that `InitTransport`
returns 0; `wfx` and `hnsBufferDuration` were given to `Initialize`. -/
structure Opened where
  channelsPrioList : List UInt16
  supported : WaveFormat → Bool
  wfx : WaveFormat
  hnsBufferDuration : Nat
  parameters : Parameters

def bufferDuration (kind : Kind) (p : Parameters) : Nat :=
  match kind with
  | .capture => 0
  | .render => if p.deviceSampleRate = 44100 then 30 * 10000 else 0

/-- The loops stand between the first use of the client and `Initialize`. -/
def initTransport (kind : Kind) (n : Negotiator Device) (a : TransportAnswers Device)
    (supported : WaveFormat → Bool) : Negotiator Device × List Opened :=
  let (h, events, code) := Activation.initTransport kind n.toDeviceInternal a
  if events.contains (.usedClient true) then
    let (wfx, ok) := freqLoop supported n.channelsPrioList freqs (baseFormat kind)
    let parameters := if ok then n.parameters.record kind wfx else n.parameters
    ({n with toDeviceInternal := h, parameters := parameters},
      if code = some 0 then
        [⟨n.channelsPrioList, supported, wfx, bufferDuration kind parameters, parameters⟩]
      else [])
  else ({n with toDeviceInternal := h}, [])

/-- `supported` are the formats for which `IsFormatSupported` answers `S_OK`. -/
inductive Call (Device : Type) where
  | setStereo (enable : Bool)
  | activation (c : Activation.Call Device) (supported : WaveFormat → Bool)

def step (kind : Kind) (n : Negotiator Device) (c : Call Device) :
    Negotiator Device × List Opened :=
  if n.crashed then (n, [])
  else
    match c with
    | .setStereo enable => (setStereo n enable, [])
    | .activation (.initTransport a) supported => initTransport kind n a supported
    | .activation c _ =>
      ({n with toDeviceInternal := (Activation.step kind n.toDeviceInternal c).1}, [])

end Calls

def candidates (kind : Kind) (channelsPrioList : List UInt16) : List WaveFormat :=
  freqs.flatMap fun freq => channelsPrioList.map fun channels =>
    setFormat (baseFormat kind) channels freq

/-- The stream has the first supported format, and the parameters are those of it. -/
structure Consistent (kind : Kind) (o : Opened) : Prop where
  first : (candidates kind o.channelsPrioList).find? o.supported = some o.wfx
  sampleRate : o.parameters.sampleRate = o.wfx.nSamplesPerSec
  channels : o.parameters.channels = o.wfx.nChannels.toUInt32
  audioFrameSize : o.parameters.audioFrameSize = o.wfx.nBlockAlign.toUInt32
  blockSize : o.parameters.blockSize = o.wfx.nSamplesPerSec / 100
  blockSize_pos : 0 < o.parameters.blockSize

/-- `InitTransport` comes to an end with 0: it is not yet initialised, `InitMixer` leaves a device
and a client, and no later call fails. -/
def opens {Device : Type} (kind : Kind) (h : DeviceInternal Device) (a : TransportAnswers Device) :
    Bool :=
  attempts kind h a && (initMixer h a.toMixerAnswers).1.deviceInformation.isSome &&
    (initMixer h a.toMixerAnswers).1.audioClient.isSome && served kind a

/-- An `InitTransport` that comes to an end finds a supported format. -/
def Admits {Device : Type} (kind : Kind) (n : Negotiator Device) : Call Device → Prop
  | .activation (.initTransport a) supported =>
    n.crashed = false → opens kind n.toDeviceInternal a = true →
      ∃ wfx ∈ candidates kind n.channelsPrioList, supported wfx = true
  | _ => True

section Loops
variable (supported : WaveFormat → Bool)

/-- The loops end on the first supported candidate, or run to their end. -/
structure Ends (supported : WaveFormat → Bool) (list : List WaveFormat)
    (r : WaveFormat × Bool) : Prop where
  found : ∀ wfx, list.find? supported = some wfx → r = (wfx, true)
  missing : list.find? supported = none → r.2 = false

theorem channelLoop_ends (freq : UInt32) (channelsPrioList : List UInt16) (wfx : WaveFormat) :
    Ends supported (channelsPrioList.map fun channels => setFormat wfx channels freq)
      (channelLoop supported freq channelsPrioList wfx) := by
  induction channelsPrioList generalizing wfx with
  | nil => exact ⟨by simp, fun _ => rfl⟩
  | cons channels list ih =>
    have hrest := ih (setFormat wfx channels freq)
    rw [List.map_cons, channelLoop]
    cases hok : supported (setFormat wfx channels freq) with
    | true =>
      rw [if_pos rfl]
      refine ⟨?_, ?_⟩
      · intro f hf
        rw [List.find?_cons_of_pos hok] at hf
        rw [Option.some.inj hf]
      · intro hnone
        rw [List.find?_cons_of_pos hok] at hnone
        cases hnone
    | false =>
      rw [if_neg Bool.false_ne_true]
      have hskip : ¬ supported (setFormat wfx channels freq) = true := by simp [hok]
      refine ⟨?_, ?_⟩
      · intro f hf
        rw [List.find?_cons_of_neg hskip] at hf
        exact hrest.found f hf
      · intro hnone
        rw [List.find?_cons_of_neg hskip] at hnone
        exact hrest.missing hnone

/-- Whatever was tried before, the next format is the same. -/
theorem channelLoop_base (freq : UInt32) (channelsPrioList : List UInt16) (wfx : WaveFormat)
    (channels : UInt16) (freq' : UInt32) :
    setFormat (channelLoop supported freq channelsPrioList wfx).1 channels freq' =
      setFormat wfx channels freq' := by
  induction channelsPrioList generalizing wfx with
  | nil => rfl
  | cons c list ih =>
    rw [channelLoop]
    split
    · rfl
    · exact ih (setFormat wfx c freq)

theorem freqLoop_ends (channelsPrioList : List UInt16) (list : List UInt32) (wfx : WaveFormat) :
    Ends supported
      (list.flatMap fun freq => channelsPrioList.map fun channels => setFormat wfx channels freq)
      (freqLoop supported channelsPrioList list wfx) := by
  induction list generalizing wfx with
  | nil => exact ⟨by simp, fun _ => rfl⟩
  | cons freq list ih =>
    have hfirst := channelLoop_ends supported freq channelsPrioList wfx
    have hrest := ih (channelLoop supported freq channelsPrioList wfx).1
    simp only [channelLoop_base] at hrest
    rw [List.flatMap_cons, freqLoop]
    cases hfind : (channelsPrioList.map fun channels => setFormat wfx channels freq).find?
      supported with
    | some f =>
      have hloop := hfirst.found f hfind
      refine ⟨?_, ?_⟩
      · intro g hg
        rw [List.find?_append, hfind, Option.some_or] at hg
        rw [hloop, Option.some.inj hg]
        rfl
      · intro hnone
        rw [List.find?_append, hfind, Option.some_or] at hnone
        cases hnone
    | none =>
      have hloop := hfirst.missing hfind
      dsimp only
      rw [if_neg (Bool.eq_false_iff.mp hloop)]
      refine ⟨?_, ?_⟩
      · intro g hg
        rw [List.find?_append, hfind, Option.none_or] at hg
        exact hrest.found g hg
      · intro hnone
        rw [List.find?_append, hfind, Option.none_or] at hnone
        exact hrest.missing hnone

theorem mem_candidates_freq {kind : Kind} {channelsPrioList : List UInt16} {wfx : WaveFormat}
    (h : wfx ∈ candidates kind channelsPrioList) : wfx.nSamplesPerSec ∈ freqs := by
  obtain ⟨freq, hfreq, hchannels⟩ := List.mem_flatMap.mp h
  obtain ⟨channels, -, rfl⟩ := List.mem_map.mp hchannels
  exact hfreq

theorem blockSize_pos_of_mem_freqs : ∀ freq ∈ freqs, 0 < freq / 100 := by
  simp [freqs]

end Loops

section Step
variable {Device : Type} (kind : Kind) (n : Negotiator Device)

def openedWith (supported : WaveFormat → Bool) : Opened :=
  let r := freqLoop supported n.channelsPrioList freqs (baseFormat kind)
  let parameters := if r.2 then n.parameters.record kind r.1 else n.parameters
  ⟨n.channelsPrioList, supported, r.1, bufferDuration kind parameters, parameters⟩

theorem opens_iff (h : DeviceInternal Device) (a : TransportAnswers Device) :
    (Activation.initTransport kind h a).2.1.contains (.usedClient true) = true ∧
        (Activation.initTransport kind h a).2.2 = some 0 ↔ opens kind h a = true := by
  unfold opens
  cases hattempts : attempts kind h a with
  | false =>
    obtain ⟨code, hidle, -⟩ := initTransport_idle hattempts
    rw [hidle]
    simp
  | true =>
    have hresult := initTransport_attempt hattempts
    generalize initMixer h a.toMixerAnswers = mixed at hresult ⊢
    obtain ⟨t, mixer⟩ := mixed
    have hcode := (openStream_opens kind t a).code
    dsimp only at hresult ⊢
    by_cases hdevice : t.deviceInformation.isNone = true
    · rw [if_pos hdevice] at hresult
      rw [hresult, ← Option.not_isNone, hdevice]
      simp
    by_cases hclient : t.audioClient.isNone = true
    · rw [if_neg hdevice, if_pos hclient] at hresult
      rw [hresult, ← Option.not_isNone t.audioClient, hclient]
      simp
    rw [if_neg hdevice, if_neg hclient] at hresult
    rw [hresult, ← Option.not_isNone, ← Option.not_isNone, Bool.eq_false_iff.mpr hdevice,
      Bool.eq_false_iff.mpr hclient, hcode]
    cases served kind a with
    | false => simp
    | true => simp

theorem initTransport_log (a : TransportAnswers Device) (supported : WaveFormat → Bool) :
    (initTransport kind n a supported).2 =
      if opens kind n.toDeviceInternal a then [openedWith kind n supported] else [] := by
  have hunfold : (initTransport kind n a supported).2 =
      if (Activation.initTransport kind n.toDeviceInternal a).2.1.contains (.usedClient true) then
        if (Activation.initTransport kind n.toDeviceInternal a).2.2 = some 0 then
          [openedWith kind n supported]
        else []
      else [] := by
    unfold initTransport
    dsimp only
    split <;> rfl
  have hiff := opens_iff kind n.toDeviceInternal a
  rw [hunfold]
  by_cases hopens : opens kind n.toDeviceInternal a = true
  · obtain ⟨hused, hcode⟩ := hiff.mpr hopens
    rw [if_pos hused, if_pos hcode, if_pos hopens]
  · rw [if_neg hopens]
    split
    · rename_i hused
      exact if_neg fun hcode => hopens (hiff.mp ⟨hused, hcode⟩)
    · rfl

theorem openedWith_eq {supported : WaveFormat → Bool} {wfx : WaveFormat}
    (h : (candidates kind n.channelsPrioList).find? supported = some wfx) :
    openedWith kind n supported = ⟨n.channelsPrioList, supported, wfx,
      bufferDuration kind (n.parameters.record kind wfx), n.parameters.record kind wfx⟩ := by
  have hends := freqLoop_ends supported n.channelsPrioList freqs (baseFormat kind)
  unfold openedWith
  rw [hends.found wfx h]
  rfl

theorem exists_find_candidates {supported : WaveFormat → Bool}
    (h : ∃ wfx ∈ candidates kind n.channelsPrioList, supported wfx = true) :
    ∃ wfx, (candidates kind n.channelsPrioList).find? supported = some wfx := by
  rw [← Option.isSome_iff_exists, List.find?_isSome]
  exact h

theorem openedWith_consistent_iff (supported : WaveFormat → Bool) :
    Consistent kind (openedWith kind n supported) ↔
      ∃ wfx ∈ candidates kind n.channelsPrioList, supported wfx = true := by
  constructor
  · intro h
    have hfirst := h.first
    exact ⟨_, List.mem_of_find?_eq_some hfirst, List.find?_some hfirst⟩
  · intro h
    obtain ⟨wfx, hwfx⟩ := exists_find_candidates kind n h
    have hfreq := mem_candidates_freq (List.mem_of_find?_eq_some hwfx)
    rw [openedWith_eq kind n hwfx]
    exact ⟨hwfx, rfl, rfl, rfl, rfl, blockSize_pos_of_mem_freqs _ hfreq⟩

theorem initTransport_consistent_iff (a : TransportAnswers Device) (supported : WaveFormat → Bool) :
    (∀ o ∈ (initTransport kind n a supported).2, Consistent kind o) ↔
      (opens kind n.toDeviceInternal a = true →
        ∃ wfx ∈ candidates kind n.channelsPrioList, supported wfx = true) := by
  rw [initTransport_log]
  cases opens kind n.toDeviceInternal a with
  | false => simp
  | true => simpa using openedWith_consistent_iff kind n supported

theorem step_consistent_iff (c : Call Device) :
    (∀ o ∈ (step kind n c).2, Consistent kind o) ↔ Admits kind n c := by
  by_cases hcrashed : n.crashed = true
  · have hlog : (step kind n c).2 = [] := by
      unfold step
      rw [if_pos hcrashed]
    refine iff_of_true (by simp [hlog]) ?_
    unfold Admits
    split
    · intro hlive
      exact absurd hcrashed (Bool.eq_false_iff.mp hlive)
    · trivial
  · unfold step
    rw [if_neg hcrashed]
    cases c with
    | setStereo enable => simp [Admits]
    | activation c supported =>
      cases c with
      | initTransport a =>
        have hlive := Bool.eq_false_iff.mpr hcrashed
        refine (initTransport_consistent_iff kind n a supported).trans ?_
        rw [Admits, forall_prop_of_true hlive]
      | _ => simp [Admits]

end Step

/-- In every run the streams opened are consistent just when every `InitTransport` that comes to
an end finds a supported format. -/
theorem streams_consistent_iff {Device : Type} (kind : Kind)
    (deviceSampleRate deviceBlockSize : UInt32) (calls : List (Call Device)) :
    (∀ o ∈ (run (step kind) (create kind deviceSampleRate deviceBlockSize) calls).2,
        Consistent kind o) ↔
      Along (step kind) (fun _ n c => Admits kind n c) []
        (create kind deviceSampleRate deviceBlockSize) calls := by
  refine forall_log_iff_along (step kind) (fun _ _ => True) ?_ ?_ trivial
  · intro _ n c _
    exact step_consistent_iff kind n c
  · intros
    trivial

/-- The device is chosen and all calls succeed, but none of the formats is supported. -/
def unsupported : List (Call Unit) :=
  [.activation (.setDeviceIndex 0 allSucceed.toSelection) fun _ => false,
    .activation (.initTransport allSucceed) fun _ => false]

/-- The stream is opened with the candidate tried last and blocks of no frames. -/
theorem unsupported_inconsistent :
    ¬ ∀ o ∈ (run (step .capture) (create .capture 0 0) unsupported).2, Consistent .capture o := by
  intro h
  have hopened : ∃ o ∈ (run (step .capture) (create .capture 0 0) unsupported).2,
      o.parameters.blockSize = 0 := by
    refine ⟨_, List.mem_singleton.mpr rfl, ?_⟩
    rfl
  obtain ⟨o, ho, hzero⟩ := hopened
  have hpos := (h o ho).blockSize_pos
  rw [hzero] at hpos
  exact absurd hpos (by decide)

end WeiRtcNative.Audio.FormatNegotiation
