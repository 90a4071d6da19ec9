import WeiRtcNative.Signaling.SimpleTcpSignaling

/-!
# Candidates on the wire

A local candidate goes from WebRTC through `OnIceCandidate`, `OnIceCandidateGenerated` and
`SendCandidate` to the peer, whose `OnTcpMessage` hands it to `AddIceCandidate`. Only the
text is taken along: the wrapper drops the mid and the index, and the sender writes fixed
ones.
-/

namespace WeiRtcNative.Signaling.Candidates

set_option autoImplicit false

structure IceCandidateInterface where
  sdpMid : String
  sdpMlineIndex : Int32
  toText : String
  deriving DecidableEq, Repr

def onIceCandidate (candidate : IceCandidateInterface) : IceCandidate :=
  .ofCandidate candidate.toText

def onIceCandidateGenerated (json : JsonText) (cnd : IceCandidate) : String :=
  sendCandidate json cnd.candidate

def wireText (json : JsonText) (candidate : IceCandidateInterface) : String :=
  onIceCandidateGenerated json (onIceCandidate candidate)

theorem castToInt_zero (build : Build) : build.castToInt 0 = 0 := by
  have htruncate : Precision.truncate 0 = 0 := by
    simp [Precision.truncate]
  have hfits : FitsInt 0 := by
    rw [FitsInt, htruncate]
    omega
  rw [Build.castToInt, if_pos hfits, htruncate]
  rfl

section Received
variable {Conn Cand Desc : Type} (build : Build) (webrtc : WebRtc Conn Cand Desc)

theorem takeCandidate_adds_iff (conn : Conn) (id : String) (label : ℚ) (text : String)
    (value : IceCandidate) :
    .addIceCandidate value ∈ (takeCandidate build webrtc conn id label text).2 ↔
      value = ⟨id, build.castToInt label, text⟩ := by
  -- whichever assertion fails, the call itself has been made
  cases hcand : webrtc.createIceCandidate id (build.castToInt label) text with
  | none =>
    cases hdebug : build.ndebug
    all_goals simp [takeCandidate, peerAddIceCandidate, hcand, hdebug]
  | some cand => simp [takeCandidate, peerAddIceCandidate, hcand]

theorem wireText_request {json : JsonText} {candidate : IceCandidateInterface}
    (hjson : json.ReadsBack (candidateMessage candidate.toText)) :
    json.request (wireText json candidate) = some (.candidate "0" 0 candidate.toText) := by
  change json.request (json.toString (candidateMessage candidate.toText)) = _
  rw [request_of_readsBack hjson]
  exact candidateMessage_request _

theorem wireText_adds_iff {json : JsonText} {candidate : IceCandidateInterface}
    (hjson : json.ReadsBack (candidateMessage candidate.toText)) (conn : Conn)
    (value : IceCandidate) :
    .addIceCandidate value ∈ (onTcpMessage build webrtc json conn (wireText json candidate)).2 ↔
      value = ⟨"0", 0, candidate.toText⟩ := by
  rw [onTcpMessage, wireText_request hjson]
  dsimp only
  rw [takeCandidate_adds_iff, castToInt_zero]

/-- The peer adds the candidate that WebRTC reported just when that one is for the section
with mid "0" and index 0. -/
theorem candidate_survives_iff (json : JsonText) (candidate : IceCandidateInterface)
    (hjson : json.ReadsBack (candidateMessage candidate.toText)) (conn : Conn) :
    .addIceCandidate ⟨candidate.sdpMid, candidate.sdpMlineIndex, candidate.toText⟩ ∈
        (onTcpMessage build webrtc json conn (wireText json candidate)).2 ↔
      candidate.sdpMid = "0" ∧ candidate.sdpMlineIndex = 0 := by
  rw [wireText_adds_iff build webrtc hjson, IceCandidate.mk.injEq]
  constructor
  · rintro ⟨hmid, hindex, -⟩
    exact ⟨hmid, hindex⟩
  · rintro ⟨hmid, hindex⟩
    exact ⟨hmid, hindex, rfl⟩

end Received

section HostCandidate

def hostCandidate : String := "candidate:1 1 udp 1 10.0.0.1 9 typ host"

def hostCandidateText : String :=
  "\x7b\"type\":\"candidate\",\"label\":0,\"id\":\"0\",\"candidate\":\"" ++ hostCandidate ++ "\"\x7d"

/-- JSON as far as the message with `hostCandidate` needs it. -/
def hostCandidateJson : JsonText where
  tryParse text := if text = hostCandidateText then some (candidateMessage hostCandidate) else none
  toString _ := hostCandidateText

theorem hostCandidateJson_readsBack :
    hostCandidateJson.ReadsBack (candidateMessage hostCandidate) := by
  refine ⟨candidateMessage hostCandidate, ?_, fun _ => rfl⟩
  simp [hostCandidateJson]

/-- A connection that only knows whether it has a remote description. -/
def acceptAfterOffer : WebRtc Bool String (SdpType × String) where
  createIceCandidate _ _ text := if text = hostCandidate then some text else none
  createSessionDescription type sdpString :=
    if sdpString = "" then none else some (type, sdpString)
  getType desc := desc.1
  toText desc := desc.2
  remoteDescriptionSet conn := conn
  addIceCandidate conn cand := (conn, conn && cand.isSome)
  setLocalDescription conn _ := conn
  setRemoteDescription conn desc := conn || desc.isSome
  createOffer conn := conn
  createAnswer conn := conn
  addIceCandidate_refused := by
    intro conn cand h
    simp [h]

theorem first_section_candidate_survives :
    hostCandidateJson.ReadsBack (candidateMessage hostCandidate) ∧
      (.addIceCandidate ⟨"0", 0, hostCandidate⟩ ∈
        (onTcpMessage ⟨false, fun _ => 0⟩ acceptAfterOffer hostCandidateJson true
          (wireText hostCandidateJson ⟨"0", 0, hostCandidate⟩)).2) :=
  ⟨hostCandidateJson_readsBack,
    (candidate_survives_iff ⟨false, fun _ => 0⟩ acceptAfterOffer hostCandidateJson
      ⟨"0", 0, hostCandidate⟩ hostCandidateJson_readsBack true).mpr ⟨rfl, rfl⟩⟩

/-- A candidate for the second section reaches the peer as one for the first. -/
theorem second_section_candidate_changed :
    hostCandidateJson.ReadsBack (candidateMessage hostCandidate) ∧
      ¬ (.addIceCandidate ⟨"video", 1, hostCandidate⟩ ∈
        (onTcpMessage ⟨false, fun _ => 0⟩ acceptAfterOffer hostCandidateJson true
          (wireText hostCandidateJson ⟨"video", 1, hostCandidate⟩)).2) := by
  refine ⟨hostCandidateJson_readsBack, ?_⟩
  rw [wireText_adds_iff _ _ hostCandidateJson_readsBack]
  decide

end HostCandidate

end WeiRtcNative.Signaling.Candidates
