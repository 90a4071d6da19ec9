import WeiRtcNative.Lib.Machine
import WeiRtcNative.Signaling.Candidates

/-!
# Messages of a remote peer

Runs of the message handler over any messages, while the connection may move on by itself
between two of them. An event of the handler is safe when no assertion fails, no null
pointer is passed on and no label is out of the range of an `int`.
-/

namespace WeiRtcNative.Signaling.RemoteInput

open Machine Candidates
set_option autoImplicit false

def Safe {Cand Desc : Type} : Event Cand Desc → Prop
  | .convertLabel label => FitsInt label
  | .assertIceCandidate holds => holds = true
  | .instanceAddIceCandidate cand => cand.isSome = true
  | .assertOk holds => holds = true
  | .instanceSetRemoteDescription desc => desc.isSome = true
  | .addIceCandidate _ | .instanceCreateAnswer => True

section Runs
variable {Conn Cand Desc : Type} (json : JsonText) (build : Build)
  (webrtc : WebRtc Conn Cand Desc)

inductive Input (Conn : Type) where
  | message (text : String)
  /-- Work of WebRTC between two messages. -/
  | progress (conn : Conn)
  deriving DecidableEq, Repr

def step (s : App Conn) (input : Input Conn) : App Conn × List (Event Cand Desc) :=
  if s.aborted then (s, [])
  else
    match input with
    | .message text => onTcpMessage build webrtc json s.conn text
    | .progress conn => (⟨conn, false⟩, [])

/-- What a request has to be so that handling it is harmless: an offer whose SDP parses; a
candidate whose label fits an `int`, which parses, and which the connection accepts, having
a remote description. -/
def Harmless (conn : Conn) : Request → Prop
  | .offer sdpString => (webrtc.createSessionDescription .kOffer sdpString).isSome = true
  | .candidate id label text =>
    FitsInt label ∧ webrtc.remoteDescriptionSet conn = true ∧
      ∃ cand, webrtc.createIceCandidate id (build.castToInt label) text = some cand ∧
        (webrtc.addIceCandidate conn (some cand)).2 = true

def HarmlessInput (s : App Conn) : Input Conn → Prop
  | .message text => ∀ request ∈ json.request text, Harmless build webrtc s.conn request
  | .progress _ => True

theorem takeOffer_safe_iff (conn : Conn) (sdpString : String) :
    (∀ e ∈ (takeOffer webrtc conn sdpString).2, Safe e) ↔
      Harmless build webrtc conn (.offer sdpString) := by
  simp [takeOffer, Safe, Harmless, WebRtc.sessionDescription]

theorem accepted_needs_remote {conn : Conn} {cand : Option Cand}
    (h : (webrtc.addIceCandidate conn cand).2 = true) :
    webrtc.remoteDescriptionSet conn = true := by
  rw [← Bool.not_eq_false]
  intro hnone
  rw [webrtc.addIceCandidate_refused conn cand hnone] at h
  exact Bool.noConfusion h

theorem takeCandidate_safe_iff (conn : Conn) (id : String) (label : ℚ) (text : String) :
    (∀ e ∈ (takeCandidate build webrtc conn id label text).2, Safe e) ↔
      Harmless build webrtc conn (.candidate id label text) := by
  cases hcand : webrtc.createIceCandidate id (build.castToInt label) text with
  | none =>
    cases hdebug : build.ndebug
    all_goals simp [takeCandidate, peerAddIceCandidate, Harmless, Safe, hcand, hdebug]
  | some cand =>
    simp only [takeCandidate, peerAddIceCandidate, Harmless, hcand]
    constructor
    · intro h
      have hlabel : FitsInt label := h (.convertLabel label) (by simp)
      have hok := h (.assertOk (webrtc.addIceCandidate conn (some cand)).2) (by simp)
      exact ⟨hlabel, accepted_needs_remote webrtc hok, cand, rfl, hok⟩
    · rintro ⟨hlabel, -, cand', hcand', hok⟩
      obtain rfl := Option.some.inj hcand'
      simp [Safe, hlabel, hok]

theorem onTcpMessage_safe_iff (conn : Conn) (text : String) :
    (∀ e ∈ (onTcpMessage build webrtc json conn text).2, Safe e) ↔
      ∀ request ∈ json.request text, Harmless build webrtc conn request := by
  unfold onTcpMessage
  cases json.request text with
  | none => simp
  | some request =>
    cases request with
    | offer sdpString => simpa using takeOffer_safe_iff build webrtc conn sdpString
    | candidate id label candidate =>
      simpa using takeCandidate_safe_iff build webrtc conn id label candidate

theorem takeCandidate_not_aborted {conn : Conn} {id : String} {label : ℚ} {text : String}
    (h : ∀ e ∈ (takeCandidate build webrtc conn id label text).2, Safe e) :
    (takeCandidate build webrtc conn id label text).1.aborted = false := by
  obtain ⟨-, -, cand, hcand, hok⟩ := (takeCandidate_safe_iff build webrtc conn id label text).mp h
  simp [takeCandidate, peerAddIceCandidate, hcand, hok]

theorem step_safe_iff {s : App Conn} (h : s.aborted = false) (input : Input Conn) :
    (∀ e ∈ (step json build webrtc s input).2, Safe e) ↔
      HarmlessInput json build webrtc s input := by
  cases input with
  | message text =>
    simpa [step, h, HarmlessInput] using onTcpMessage_safe_iff json build webrtc s.conn text
  | progress conn => simp [step, h, HarmlessInput]

theorem step_not_aborted {s : App Conn} (h : s.aborted = false) {input : Input Conn}
    (hok : HarmlessInput json build webrtc s input) :
    (step json build webrtc s input).1.aborted = false := by
  have hsafe := (step_safe_iff json build webrtc h input).mpr hok
  cases input with
  | progress conn => simp [step, h]
  | message text =>
    simp only [step, h, Bool.false_eq_true, if_false] at hsafe ⊢
    unfold onTcpMessage at hsafe ⊢
    split at hsafe
    · rfl
    · rfl
    · exact takeCandidate_not_aborted build webrtc hsafe

/-- Remote messages do no harm, in any order, just when each of them is harmless in the
state that it meets. -/
theorem remote_messages_harmless_iff (conn : Conn) (inputs : List (Input Conn)) :
    ((run (step json build webrtc) ⟨conn, false⟩ inputs).1.aborted = false ∧
        ∀ e ∈ (run (step json build webrtc) ⟨conn, false⟩ inputs).2, Safe e) ↔
      Along (step json build webrtc) (fun _ s input => HarmlessInput json build webrtc s input) []
        ⟨conn, false⟩ inputs := by
  have hlog : (∀ e ∈ (run (step json build webrtc) ⟨conn, false⟩ inputs).2, Safe e) ↔
      Along (step json build webrtc) (fun _ s input => HarmlessInput json build webrtc s input) []
        ⟨conn, false⟩ inputs := by
    apply forall_log_iff_along (step json build webrtc) (fun _ s => s.aborted = false)
    · intro _ s input h
      exact step_safe_iff json build webrtc h input
    · intro _ s input h hok
      exact step_not_aborted json build webrtc h hok
    · rfl
  constructor
  · rintro ⟨-, hsafe⟩
    exact hlog.mp hsafe
  · intro hok
    refine ⟨?_, hlog.mpr hok⟩
    apply run_invariant (step json build webrtc) (fun _ s => s.aborted = false) ?_ rfl hok
    intro _ s input h hinput
    exact step_not_aborted json build webrtc h hinput

end Runs

section EarlyCandidate

/-- A well-formed candidate that arrives before any offer fails `assert(ok)`. -/
theorem early_candidate_aborts :
    ¬ ((run (step hostCandidateJson ⟨false, fun _ => 0⟩ acceptAfterOffer) ⟨false, false⟩
          [.message hostCandidateText]).1.aborted = false ∧
        ∀ e ∈ (run (step hostCandidateJson ⟨false, fun _ => 0⟩ acceptAfterOffer) ⟨false, false⟩
          [.message hostCandidateText]).2, Safe e) := by
  rintro ⟨haborted, -⟩
  exact absurd haborted (by decide)

end EarlyCandidate

end WeiRtcNative.Signaling.RemoteInput
