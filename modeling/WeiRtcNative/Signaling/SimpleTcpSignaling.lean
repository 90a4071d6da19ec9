import WeiRtcNative.Lib.Precision

/-!
# SimpleTcpSignaling

The JSON messages two peers exchange, the handler of a received message and the part of
`PeerConnection` it calls. The JSON parser and the underlying WebRTC connection are not
part of the program and are parameters: `JsonText` and `WebRtc`.
-/

namespace WeiRtcNative.Signaling

set_option autoImplicit false

inductive JsonValue where
  | null
  | boolean (value : Bool)
  | number (value : ℚ)
  | string (value : String)
  | array (items : List JsonValue)
  | object (members : List (String × JsonValue))

def JsonObject : Type := List (String × JsonValue)

namespace JsonObject

def empty : JsonObject := []

def getNamedValue (o : JsonObject) (name : String) : Option JsonValue :=
  List.lookup name o

def insert (o : JsonObject) (name : String) (value : JsonValue) : JsonObject :=
  (name, value) :: List.filter (fun entry => entry.1 != name) o

-- a missing or mistyped member throws, which is `none` here

def getNamedString (o : JsonObject) (name : String) : Option String :=
  match o.getNamedValue name with
  | some (.string value) => some value
  | _ => none

def getNamedNumber (o : JsonObject) (name : String) : Option ℚ :=
  match o.getNamedValue name with
  | some (.number value) => some value
  | _ => none

end JsonObject

structure JsonText where
  tryParse : String → Option JsonObject
  toString : JsonObject → String

/-- The text of `o` is parsed to an object with the same members. -/
def JsonText.ReadsBack (json : JsonText) (o : JsonObject) : Prop :=
  ∃ o', json.tryParse (json.toString o) = some o' ∧
    ∀ name, o'.getNamedValue name = o.getNamedValue name

structure IceCandidate where
  mid : String
  midIndex : Int32
  candidate : String
  deriving DecidableEq, Repr

/-- The second constructor of the source. -/
def IceCandidate.ofCandidate (candidate : String) : IceCandidate := ⟨"", 0, candidate⟩

/-- Both enumerations of the source: their members have the same names, and each `switch`
between them takes a member to the one of its name. -/
inductive SdpType where
  | kOffer
  | kPrAnswer
  | kAnswer
  | kRollback
  deriving DecidableEq, Repr

/-- What the program calls of WebRTC. A null pointer is `none`. -/
structure WebRtc (Conn Cand Desc : Type) where
  createIceCandidate : String → Int32 → String → Option Cand
  createSessionDescription : SdpType → String → Option Desc
  getType : Desc → SdpType
  toText : Desc → String
  remoteDescriptionSet : Conn → Bool
  addIceCandidate : Conn → Option Cand → Conn × Bool
  setLocalDescription : Conn → Option Desc → Conn
  setRemoteDescription : Conn → Option Desc → Conn
  createOffer : Conn → Conn
  createAnswer : Conn → Conn
  addIceCandidate_refused : ∀ conn cand,
    remoteDescriptionSet conn = false → (addIceCandidate conn cand).2 = false

/-- The wrapper around a description, with the text it was made from. -/
structure SessionDescription (Desc : Type) where
  getInstance : Option Desc
  sdpString : String
  deriving DecidableEq, Repr

/-- How the program was compiled: with `NDEBUG` an `assert` is not evaluated, and what a
cast of a number outside the range of an `int` gives is up to the compiler. -/
structure Build where
  ndebug : Bool
  castOutOfRange : ℚ → Int32

def FitsInt (label : ℚ) : Prop :=
  -2147483648 ≤ Precision.truncate label ∧ Precision.truncate label ≤ 2147483647

instance (label : ℚ) : Decidable (FitsInt label) := inferInstanceAs (Decidable (_ ∧ _))

/-- `static_cast<int>(label)`. -/
def Build.castToInt (build : Build) (label : ℚ) : Int32 :=
  if FitsInt label then Int32.ofInt (Precision.truncate label) else build.castOutOfRange label

/-- What the handler of a message does, in its order. The three `instance` events are calls
of the underlying connection. -/
inductive Event (Cand Desc : Type) where
  | convertLabel (label : ℚ)
  | addIceCandidate (value : IceCandidate)
  | assertIceCandidate (holds : Bool)
  | instanceAddIceCandidate (cand : Option Cand)
  | assertOk (holds : Bool)
  | instanceSetRemoteDescription (desc : Option Desc)
  | instanceCreateAnswer
  deriving DecidableEq, Repr

structure App (Conn : Type) where
  conn : Conn
  aborted : Bool
  deriving DecidableEq, Repr

section Handler
variable {Conn Cand Desc : Type} (build : Build) (webrtc : WebRtc Conn Cand Desc)

def WebRtc.sessionDescription (type : SdpType) (sdpString : String) : SessionDescription Desc :=
  ⟨webrtc.createSessionDescription type sdpString, sdpString⟩

/-- `PeerConnection::AddIceCandidate`; no result when an assertion stopped it. -/
def peerAddIceCandidate (conn : Conn) (value : IceCandidate) :
    Conn × Option Bool × List (Event Cand Desc) :=
  let iceCandidate := webrtc.createIceCandidate value.mid value.midIndex value.candidate
  if iceCandidate.isSome || build.ndebug then
    let answer := webrtc.addIceCandidate conn iceCandidate
    (answer.1, some answer.2,
      [.assertIceCandidate iceCandidate.isSome, .instanceAddIceCandidate iceCandidate])
  else (conn, none, [.assertIceCandidate false])

def takeCandidate (conn : Conn) (id : String) (label : ℚ) (candidate : String) :
    App Conn × List (Event Cand Desc) :=
  let value : IceCandidate := ⟨id, build.castToInt label, candidate⟩
  let (conn, ok, events) := peerAddIceCandidate build webrtc conn value
  match ok with
  | none => (⟨conn, true⟩, .convertLabel label :: .addIceCandidate value :: events)
  | some ok =>
    (⟨conn, !ok && !build.ndebug⟩,
      .convertLabel label :: .addIceCandidate value :: events ++ [.assertOk ok])

def takeOffer (conn : Conn) (sdpString : String) : App Conn × List (Event Cand Desc) :=
  let sdp := webrtc.sessionDescription .kOffer sdpString
  (⟨webrtc.createAnswer (webrtc.setRemoteDescription conn sdp.getInstance), false⟩,
    [.instanceSetRemoteDescription sdp.getInstance, .instanceCreateAnswer])

/-- What a message asks for. -/
inductive Request where
  | offer (sdpString : String)
  | candidate (id : String) (label : ℚ) (candidate : String)
  deriving DecidableEq, Repr

/-- The members `OnTcpMessage` reads; `none` when it throws or knows no such type. -/
def JsonObject.request (o : JsonObject) : Option Request := do
  let type ← o.getNamedString "type"
  if type = "offer" then
    return .offer (← o.getNamedString "sdp")
  if type = "candidate" then
    let id ← o.getNamedString "id"
    let label ← o.getNamedNumber "label"
    return .candidate id label (← o.getNamedString "candidate")
  none

def JsonText.request (json : JsonText) (message : String) : Option Request :=
  (json.tryParse message).bind JsonObject.request

def onTcpMessage (json : JsonText) (conn : Conn) (message : String) :
    App Conn × List (Event Cand Desc) :=
  match json.request message with
  | none => (⟨conn, false⟩, [])
  | some (.offer sdpString) => takeOffer webrtc conn sdpString
  | some (.candidate id label candidate) => takeCandidate build webrtc conn id label candidate

end Handler

section Sender

def candidateMessage (candidate : String) : JsonObject :=
  ((((JsonObject.empty.insert "type" (.string "candidate")).insert "label" (.number 0)).insert
    "id" (.string "0")).insert "candidate" (.string candidate))

def sdpMessage (sdpString : String) : JsonObject :=
  (JsonObject.empty.insert "sdp" (.string sdpString)).insert "type" (.string "answer")

def sendCandidate (json : JsonText) (candidate : String) : String :=
  json.toString (candidateMessage candidate)

/-- `OnSdpCreated`, which sends the text of the description. -/
def onSdpCreated {Desc : Type} (json : JsonText) (sdp : SessionDescription Desc) : String :=
  json.toString (sdpMessage sdp.sdpString)

end Sender

section Requests

theorem getNamedString_congr {o o' : JsonObject}
    (h : ∀ name, o'.getNamedValue name = o.getNamedValue name) (name : String) :
    o'.getNamedString name = o.getNamedString name := by
  rw [JsonObject.getNamedString, h, JsonObject.getNamedString]

theorem getNamedNumber_congr {o o' : JsonObject}
    (h : ∀ name, o'.getNamedValue name = o.getNamedValue name) (name : String) :
    o'.getNamedNumber name = o.getNamedNumber name := by
  rw [JsonObject.getNamedNumber, h, JsonObject.getNamedNumber]

theorem request_congr {o o' : JsonObject}
    (h : ∀ name, o'.getNamedValue name = o.getNamedValue name) : o'.request = o.request := by
  unfold JsonObject.request
  simp only [getNamedString_congr h, getNamedNumber_congr h]

theorem request_of_readsBack {json : JsonText} {o : JsonObject} (h : json.ReadsBack o) :
    json.request (json.toString o) = o.request := by
  obtain ⟨o', hparse, hmembers⟩ := h
  rw [JsonText.request, hparse, Option.bind_some]
  exact request_congr hmembers

theorem candidateMessage_request (candidate : String) :
    (candidateMessage candidate).request = some (.candidate "0" 0 candidate) := by
  rfl

/-- No message of type "answer" asks the receiver for anything. -/
theorem sdpMessage_request (sdpString : String) : (sdpMessage sdpString).request = none := by
  rfl

end Requests

end WeiRtcNative.Signaling
