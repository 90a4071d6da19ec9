import WeiRtcNative.Lib.Machine
import WeiRtcNative.Signaling.Candidates

/-!
# Offer and answer between two peers

Two instances of the program, each with its connection, the descriptions it is waiting for
and the description messages on their way to it. A message is kept together with the
description that its sender installed, so that what the receiver does with it can be
compared. Candidate messages have no part in this.
-/

namespace WeiRtcNative.Signaling.OfferAnswer

open Machine
set_option autoImplicit false

inductive Peer where
  | first
  | second
  deriving DecidableEq, Repr

def Peer.other : Peer → Peer
  | .first => .second
  | .second => .first

inductive Side where
  | localSide
  | remoteSide
  deriving DecidableEq, Repr

/-- A call of the underlying setter of one side. -/
abbrev Install (Desc : Type) : Type := Side × Option Desc

structure PeerState (Conn Desc : Type) where
  app : App Conn
  creating : List SdpType
  inbox : List (String × Desc)
  deriving DecidableEq, Repr

abbrev State (Conn Desc : Type) : Type := Peer → PeerState Conn Desc

inductive Action (Conn Desc : Type) where
  | createOffer (peer : Peer)
  | createAnswer (peer : Peer)
  | onSuccess (peer : Peer) (desc : Desc)
  | onFailure (peer : Peer)
  | setLocalDescription (peer : Peer) (type : SdpType) (sdpString : String)
  | setRemoteDescription (peer : Peer) (type : SdpType) (sdpString : String)
  | deliver (peer : Peer)
  | progress (peer : Peer) (conn : Conn)
  deriving DecidableEq, Repr

def Action.peer {Conn Desc : Type} : Action Conn Desc → Peer
  | .createOffer p | .createAnswer p | .onSuccess p _ | .onFailure p
  | .setLocalDescription p _ _ | .setRemoteDescription p _ _ | .deliver p | .progress p _ => p

/-- What happened to a description, with the setters called for it. -/
inductive Event (Desc : Type) where
  | created (desc : Desc) (installed : List (Install Desc))
  | delivered (sent : Desc) (installed : List (Install Desc))
  | passed (side : Side) (sdp : SessionDescription Desc) (installed : List (Install Desc))
  deriving DecidableEq, Repr

section Steps
variable {Conn Cand Desc : Type} (json : JsonText) (build : Build)
  (webrtc : WebRtc Conn Cand Desc)

def update (s : State Conn Desc) (peer : Peer) (p : PeerState Conn Desc) : State Conn Desc :=
  Function.update s peer p

def PeerState.withConn (p : PeerState Conn Desc) (conn : Conn) : PeerState Conn Desc :=
  {p with app := {p.app with conn := conn}}

def peerSetRemoteDescription (conn : Conn) (sdp : SessionDescription Desc) :
    Conn × List (Install Desc) :=
  (webrtc.setRemoteDescription conn sdp.getInstance, [(.remoteSide, sdp.getInstance)])

/-- `PeerConnection::SetLocalDescription`, whose body is the one of the other setter. -/
def peerSetLocalDescription (conn : Conn) (sdp : SessionDescription Desc) :
    Conn × List (Install Desc) :=
  (webrtc.setRemoteDescription conn sdp.getInstance, [(.remoteSide, sdp.getInstance)])

/-- `CreateSessionDescriptionObserver::OnSuccess` with the message it sends. -/
def observerOnSuccess (conn : Conn) (desc : Desc) : Conn × List (Install Desc) × String :=
  let sdpObj := webrtc.sessionDescription (webrtc.getType desc) (webrtc.toText desc)
  (webrtc.setLocalDescription conn (some desc), [(.localSide, some desc)],
    onSdpCreated json sdpObj)

def installs : List (Signaling.Event Cand Desc) → List (Install Desc) :=
  List.filterMap fun
    | .instanceSetRemoteDescription desc => some (.remoteSide, desc)
    | _ => none

def answersAsked : List (Signaling.Event Cand Desc) → List SdpType :=
  List.filterMap fun
    | .instanceCreateAnswer => some .kAnswer
    | _ => none

def deliver (s : State Conn Desc) (peer : Peer) : State Conn Desc × List (Event Desc) :=
  match (s peer).inbox with
  | [] => (s, [])
  | (text, sent) :: inbox =>
    let answer := onTcpMessage build webrtc json (s peer).app.conn text
    (update s peer ⟨answer.1, (s peer).creating ++ answersAsked answer.2, inbox⟩,
      [.delivered sent (installs answer.2)])

/-- The results of the creations come in the order they were asked for. -/
def succeed (s : State Conn Desc) (peer : Peer) (desc : Desc) :
    State Conn Desc × List (Event Desc) :=
  match (s peer).creating with
  | [] => (s, [])
  | type :: creating =>
    if webrtc.getType desc = type then
      let (conn, installed, text) := observerOnSuccess json webrtc (s peer).app.conn desc
      let s := update s peer {(s peer).withConn conn with creating := creating}
      let there := s peer.other
      (update s peer.other {there with inbox := there.inbox ++ [(text, desc)]},
        [.created desc installed])
    else (s, [])

def act (s : State Conn Desc) : Action Conn Desc → State Conn Desc × List (Event Desc)
  | .createOffer peer =>
    (update s peer {(s peer).withConn (webrtc.createOffer (s peer).app.conn) with
      creating := (s peer).creating ++ [.kOffer]}, [])
  | .createAnswer peer =>
    (update s peer {(s peer).withConn (webrtc.createAnswer (s peer).app.conn) with
      creating := (s peer).creating ++ [.kAnswer]}, [])
  | .onSuccess peer desc => succeed json webrtc s peer desc
  | .onFailure peer => (update s peer {s peer with creating := (s peer).creating.tail}, [])
  | .setLocalDescription peer type sdpString =>
    let sdp := webrtc.sessionDescription type sdpString
    let (conn, installed) := peerSetLocalDescription webrtc (s peer).app.conn sdp
    (update s peer ((s peer).withConn conn), [.passed .localSide sdp installed])
  | .setRemoteDescription peer type sdpString =>
    let sdp := webrtc.sessionDescription type sdpString
    let (conn, installed) := peerSetRemoteDescription webrtc (s peer).app.conn sdp
    (update s peer ((s peer).withConn conn), [.passed .remoteSide sdp installed])
  | .deliver peer => deliver json build webrtc s peer
  | .progress peer conn => (update s peer ((s peer).withConn conn), [])

def step (s : State Conn Desc) (action : Action Conn Desc) :
    State Conn Desc × List (Event Desc) :=
  if (s action.peer).app.aborted then (s, []) else act json build webrtc s action

def initial (conns : Peer → Conn) : State Conn Desc :=
  fun peer => ⟨⟨conns peer, false⟩, [], []⟩

/-- The sender installs a description on its local side, the receiver on its remote side
under the same type and with the same text, and a setter on the side it is named after. -/
def Agreed : Event Desc → Prop
  | .created desc installed => installed = [(.localSide, some desc)]
  | .delivered sent installed =>
    ∃ desc, (.remoteSide, some desc) ∈ installed ∧ webrtc.getType desc = webrtc.getType sent ∧
      webrtc.toText desc = webrtc.toText sent
  | .passed side sdp installed => installed = [(side, sdp.getInstance)]

/-- Nothing is delivered to a peer, and `SetLocalDescription` is not called. -/
def Condition (s : State Conn Desc) : Action Conn Desc → Prop
  | .deliver peer => (s peer).inbox = []
  | .setLocalDescription _ _ _ => False
  | _ => True

/-- The program is running and all messages on the way to it were made by `OnSdpCreated`. -/
def PeerState.Running (p : PeerState Conn Desc) : Prop :=
  p.app.aborted = false ∧
    ∀ message ∈ p.inbox, ∃ sdpString, message.1 = json.toString (sdpMessage sdpString)

def Running (s : State Conn Desc) : Prop := ∀ peer, (s peer).Running json

theorem Running.update {json : JsonText} {s : State Conn Desc} (h : Running json s) (peer : Peer)
    {p : PeerState Conn Desc} (hp : p.Running json) : Running json (update s peer p) := by
  intro q
  unfold OfferAnswer.update
  by_cases hq : q = peer
  · subst hq
    simpa using hp
  · simpa [hq] using h q

theorem running_initial (conns : Peer → Conn) :
    Running json (initial conns : State Conn Desc) := by
  intro peer
  refine ⟨rfl, ?_⟩
  intro message hmessage
  cases hmessage

theorem PeerState.Running.receives {json : JsonText} {p : PeerState Conn Desc}
    (h : p.Running json) (sdpString : String) (desc : Desc) :
    PeerState.Running json
      {p with inbox := p.inbox ++ [(json.toString (sdpMessage sdpString), desc)]} := by
  refine ⟨h.1, ?_⟩
  intro message hmessage
  rcases List.mem_append.mp hmessage with hold | hnew
  · exact h.2 message hold
  · obtain rfl := List.mem_singleton.mp hnew
    exact ⟨sdpString, rfl⟩

/-- Whatever description arrives, `OnTcpMessage` reads the type "answer" and does nothing. -/
theorem PeerState.Running.ignores {json : JsonText} {p : PeerState Conn Desc}
    (h : p.Running json) (hjson : ∀ sdpString, json.ReadsBack (sdpMessage sdpString))
    {text : String} {sent : Desc} {inbox : List (String × Desc)}
    (hinbox : p.inbox = (text, sent) :: inbox) (conn : Conn) :
    onTcpMessage build webrtc json conn text = (⟨conn, false⟩, []) := by
  obtain ⟨sdpString, htext⟩ := h.2 (text, sent) (by simp [hinbox])
  obtain rfl : text = json.toString (sdpMessage sdpString) := htext
  rw [onTcpMessage, request_of_readsBack (hjson sdpString), sdpMessage_request]

theorem succeed_running {s : State Conn Desc} (h : Running json s) (peer : Peer) (desc : Desc) :
    Running json (succeed json webrtc s peer desc).1 := by
  unfold succeed
  split
  · exact h
  · rename_i type creating hcreating
    split
    · have hsender : Running json (update s peer
          {(s peer).withConn (webrtc.setLocalDescription (s peer).app.conn (some desc)) with
            creating := creating}) :=
        h.update peer (h peer)
      exact hsender.update peer.other ((hsender peer.other).receives _ desc)
    · exact h

theorem deliver_running (hjson : ∀ sdpString, json.ReadsBack (sdpMessage sdpString))
    {s : State Conn Desc} (h : Running json s) (peer : Peer) :
    Running json (deliver json build webrtc s peer).1 := by
  unfold deliver
  split
  · exact h
  · rename_i text sent inbox hinbox
    rw [(h peer).ignores build webrtc hjson hinbox]
    apply h.update peer
    refine ⟨rfl, ?_⟩
    intro message hmessage
    apply (h peer).2 message
    rw [hinbox]
    exact List.mem_cons_of_mem _ hmessage

theorem step_running (hjson : ∀ sdpString, json.ReadsBack (sdpMessage sdpString))
    {s : State Conn Desc} (h : Running json s) (action : Action Conn Desc) :
    Running json (step json build webrtc s action).1 := by
  rw [step, if_neg (by simp [(h action.peer).1])]
  cases action with
  | createOffer peer | createAnswer peer | onFailure peer | progress peer conn
  | setLocalDescription peer type sdpString | setRemoteDescription peer type sdpString =>
    exact h.update peer (h peer)
  | onSuccess peer desc => exact succeed_running json webrtc h peer desc
  | deliver peer => exact deliver_running json build webrtc hjson h peer

theorem succeed_agreed (s : State Conn Desc) (peer : Peer) (desc : Desc) :
    ∀ e ∈ (succeed json webrtc s peer desc).2, Agreed webrtc e := by
  unfold succeed
  split
  · simp
  · split
    · simp [observerOnSuccess, Agreed]
    · simp

/-- A delivered description is installed nowhere. -/
theorem deliver_agreed_iff (hjson : ∀ sdpString, json.ReadsBack (sdpMessage sdpString))
    {s : State Conn Desc} (h : Running json s) (peer : Peer) :
    (∀ e ∈ (deliver json build webrtc s peer).2, Agreed webrtc e) ↔ (s peer).inbox = [] := by
  unfold deliver
  split
  · rename_i hinbox
    simp [hinbox]
  · rename_i text sent inbox hinbox
    rw [(h peer).ignores build webrtc hjson hinbox, hinbox]
    simp [Agreed, installs]

theorem step_agreed_iff (hjson : ∀ sdpString, json.ReadsBack (sdpMessage sdpString))
    {s : State Conn Desc} (h : Running json s) (action : Action Conn Desc) :
    (∀ e ∈ (step json build webrtc s action).2, Agreed webrtc e) ↔ Condition s action := by
  rw [step, if_neg (by simp [(h action.peer).1])]
  cases action with
  | createOffer peer | createAnswer peer | onFailure peer | progress peer conn =>
    simp [act, Condition]
  | setLocalDescription peer type sdpString =>
    simp [act, Condition, Agreed, peerSetLocalDescription]
  | setRemoteDescription peer type sdpString =>
    simp [act, Condition, Agreed, peerSetRemoteDescription]
  | onSuccess peer desc =>
    exact iff_of_true (succeed_agreed json webrtc s peer desc) trivial
  | deliver peer => exact deliver_agreed_iff json build webrtc hjson h peer

/-- Offer and answer agree in just those runs in which no description reaches the other peer
and no description is passed to `SetLocalDescription`. -/
theorem offer_answer_agree_iff (hjson : ∀ sdpString, json.ReadsBack (sdpMessage sdpString))
    (conns : Peer → Conn) (actions : List (Action Conn Desc)) :
    (∀ e ∈ (run (step json build webrtc) (initial conns) actions).2, Agreed webrtc e) ↔
      Along (step json build webrtc) (fun _ s action => Condition s action) [] (initial conns)
        actions := by
  apply forall_log_iff_along (step json build webrtc) (fun _ s => Running json s)
  · intro _ s action h
    exact step_agreed_iff json build webrtc hjson h action
  · intro _ s action h _
    exact step_running json build webrtc hjson h action
  · exact running_initial json conns

end Steps

section PlainSdp

def answerOpening : List Char := "\x7b\"type\":\"answer\",\"sdp\":\"".toList

def answerClosing : List Char := "\"\x7d".toList

/-- JSON as far as the messages of `OnSdpCreated` need it, for a text without escapes. -/
def plainJson : JsonText where
  tryParse text :=
    if answerOpening <+: text.toList then
      let rest := text.toList.drop answerOpening.length
      some (sdpMessage (String.ofList (rest.take (rest.length - answerClosing.length))))
    else none
  toString o :=
    String.ofList (answerOpening ++ ((o.getNamedString "sdp").getD "").toList ++ answerClosing)

theorem plainJson_readsBack (sdpString : String) : plainJson.ReadsBack (sdpMessage sdpString) := by
  have hsdp : (sdpMessage sdpString).getNamedString "sdp" = some sdpString := rfl
  refine ⟨sdpMessage sdpString, ?_, fun _ => rfl⟩
  simp [plainJson, hsdp, List.append_assoc]

def offer : SdpType × String := (.kOffer, "v=0")

/-- The offer of the first peer on its way. -/
def offerSent : List (Action Bool (SdpType × String)) :=
  [.createOffer .first, .onSuccess .first offer]

theorem unanswered_offer_agrees :
    (∀ sdpString, plainJson.ReadsBack (sdpMessage sdpString)) ∧
      ∀ e ∈ (run (step plainJson ⟨false, fun _ => 0⟩ Candidates.acceptAfterOffer)
        (initial fun _ => false) offerSent).2, Agreed Candidates.acceptAfterOffer e := by
  refine ⟨plainJson_readsBack, ?_⟩
  apply (offer_answer_agree_iff plainJson ⟨false, fun _ => 0⟩ Candidates.acceptAfterOffer
    plainJson_readsBack (fun _ => false) offerSent).mpr
  simp [offerSent, Along, Condition]

/-- An offer passed to `SetLocalDescription` is installed on the remote side, and one that was
sent to the other peer is delivered there but installed nowhere. -/
theorem local_offer_misplaced_and_sent_offer_ignored :
    (∀ sdpString, plainJson.ReadsBack (sdpMessage sdpString)) ∧
      (¬ ∀ e ∈ (run (step plainJson ⟨false, fun _ => 0⟩ Candidates.acceptAfterOffer)
        (initial fun _ => false) [.setLocalDescription .first .kOffer "v=0"]).2,
          Agreed Candidates.acceptAfterOffer e) ∧
      ¬ ∀ e ∈ (run (step plainJson ⟨false, fun _ => 0⟩ Candidates.acceptAfterOffer)
        (initial fun _ => false) (offerSent ++ [.deliver .second])).2,
          Agreed Candidates.acceptAfterOffer e := by
  refine ⟨plainJson_readsBack, ?_, ?_⟩
  · intro h
    have hside : [(Side.remoteSide, some offer)] = [(Side.localSide, some offer)] :=
      h (.passed .localSide ⟨some offer, "v=0"⟩ [(.remoteSide, some offer)]) (by decide)
    exact absurd hside (by decide)
  · intro h
    obtain ⟨desc, hdesc, -⟩ := h (.delivered offer []) (by decide)
    cases hdesc

end PlainSdp

end WeiRtcNative.Signaling.OfferAnswer
