import WeiRtcNative.Lib.Lines

/-!
# DirectTcpServer: signalling messages over one TCP connection

`Send` ends each text with a newline because the other side reads lines. The receive
loop of `Start` does not look for that newline: each `recv` result becomes one
message, up to the first NUL found in a buffer that was cleared beforehand. The
search for the NUL leaves the buffer when `recv` filled all of it.
-/

namespace WeiRtcNative.DirectTcpServer

open Lines
set_option autoImplicit false

abbrev Bytes := List UInt8

def defaultBuflen : Nat := 55120

def newline : UInt8 := 10

inductive SocketCall where
  | send (bytes : Bytes)
  | closesocket
  | wsaCleanup
  deriving DecidableEq, Repr

/-- `Send`, where `accepted` says whether the first `send` succeeded. -/
def send (message : Bytes) (accepted : Bool) : List SocketCall :=
  if accepted then [.send message, .send [newline]]
  else [.send message, .closesocket, .wsaCleanup]

def onWire (calls : List SocketCall) : Bytes :=
  calls.flatMap fun
    | .send bytes => bytes
    | _ => []

inductive RecvResult where
  | data (bytes : Bytes)
  | closed
  | error
  deriving DecidableEq, Repr

inductive Exit where
  | waiting
  | overread
  | closed
  | failed
  deriving DecidableEq, Repr

/-- The strings given to `OnTcpMessage` and how the loop stands. -/
structure Received where
  messages : List Bytes
  exit : Exit
  deriving DecidableEq, Repr

/-- `std::string((char *)buf)`, or `none` when no NUL ends the string inside `buf`. -/
def cString (buf : Bytes) : Option Bytes :=
  if 0 ∈ buf then some (buf.takeWhile (· ≠ 0)) else none

def cleared : Bytes := List.replicate defaultBuflen 0

def receiveLoop : Bytes → List RecvResult → Received
  | _, [] => ⟨[], .waiting⟩
  | recvbuf, .data bytes :: rest =>
    match cString (bytes ++ recvbuf.drop bytes.length) with
    | none => ⟨[], .overread⟩
    | some message =>
      let r := receiveLoop cleared rest
      ⟨message :: r.messages, r.exit⟩
  | _, .closed :: _ => ⟨[], .closed⟩
  | _, .error :: _ => ⟨[], .failed⟩

/-- The part of `Start` after `accept`. -/
def start (results : List RecvResult) : Received := receiveLoop cleared results

theorem cString_filled {bytes : Bytes} (hnul : 0 ∉ bytes) (hlt : bytes.length < defaultBuflen) :
    cString (bytes ++ cleared.drop bytes.length) = some bytes := by
  obtain ⟨n, hn⟩ : ∃ n, defaultBuflen - bytes.length = n + 1 :=
    ⟨defaultBuflen - bytes.length - 1, by omega⟩
  have hrest : cleared.drop bytes.length = 0 :: List.replicate n 0 := by
    rw [cleared, List.drop_replicate, hn, List.replicate_succ]
  have hall : ∀ b ∈ bytes, decide (b ≠ 0) = true := by
    intro b hb
    exact decide_eq_true (fun h => hnul (h ▸ hb))
  rw [hrest, cString, if_pos (by simp), List.takeWhile_append_of_pos hall]
  simp

theorem cString_full {bytes : Bytes} (hnul : 0 ∉ bytes) (hle : defaultBuflen ≤ bytes.length) :
    cString (bytes ++ cleared.drop bytes.length) = none := by
  have hrest : cleared.drop bytes.length = [] := by
    rw [cleared, List.drop_replicate, Nat.sub_eq_zero_of_le hle]
    rfl
  rw [hrest, cString, List.append_nil, if_neg hnul]

theorem start_data_of_lt {chunks : List Bytes} (hnul : ∀ c ∈ chunks, 0 ∉ c)
    (hlt : ∀ c ∈ chunks, c.length < defaultBuflen) :
    start (chunks.map .data) = ⟨chunks, .waiting⟩ := by
  induction chunks with
  | nil => rfl
  | cons c chunks ih =>
    have hrest := ih (fun d hd => hnul d (List.mem_cons_of_mem c hd))
      (fun d hd => hlt d (List.mem_cons_of_mem c hd))
    unfold start at hrest ⊢
    simp only [List.map_cons, receiveLoop,
      cString_filled (hnul c List.mem_cons_self) (hlt c List.mem_cons_self), hrest]

theorem start_full {bytes : Bytes} (hnul : 0 ∉ bytes) (hle : defaultBuflen ≤ bytes.length) :
    (start [.data bytes]).exit = .overread := by
  unfold start
  simp only [receiveLoop, cString_full hnul hle]

/-- Data alone end the loop only by a read outside the buffer. -/
theorem start_data_exit {chunks : List Bytes} (h : (start (chunks.map .data)).exit ≠ .overread) :
    (start (chunks.map .data)).exit = .waiting := by
  induction chunks with
  | nil => rfl
  | cons c chunks ih =>
    unfold start at h ih ⊢
    simp only [List.map_cons, receiveLoop] at h ⊢
    split at h
    · exact absurd rfl h
    · exact ih h

/-- The loop survives a run of data exactly when `recv` never filled the buffer. -/
theorem lt_of_start_waiting {chunks : List Bytes} (hnul : ∀ c ∈ chunks, 0 ∉ c)
    (h : (start (chunks.map .data)).exit = .waiting) :
    ∀ c ∈ chunks, c.length < defaultBuflen := by
  induction chunks with
  | nil => simp
  | cons c chunks ih =>
    by_cases hlt : c.length < defaultBuflen
    · have hc := cString_filled (hnul c List.mem_cons_self) hlt
      have hrest : (start (chunks.map .data)).exit = .waiting := by
        simpa only [start, List.map_cons, receiveLoop, hc] using h
      intro d hd
      rcases List.mem_cons.mp hd with rfl | hd
      · exact hlt
      · exact ih (fun e he => hnul e (List.mem_cons_of_mem c he)) hrest d hd
    · have hc := cString_full (hnul c List.mem_cons_self) (Nat.not_lt.mp hlt)
      simp [start, receiveLoop, hc] at h

/-- A JSON text as the signalling layer sends it. -/
structure JsonText where
  bytes : Bytes
  nonempty : bytes ≠ []
  short : bytes.length < 55120
  noNewline : newline ∉ bytes
  noNul : 0 ∉ bytes

def stream (texts : List JsonText) : Bytes := texts.flatMap fun t => onWire (send t.bytes true)

/-- One message for each text, in order; it may keep the trailing newline. -/
structure OnePerText (texts : List JsonText) (r : Received) : Prop where
  exit : r.exit = .waiting
  messages : List.Forall₂ (Carries newline) (texts.map (·.bytes)) r.messages

theorem stream_eq (texts : List JsonText) :
    stream texts = (terminated newline (texts.map (·.bytes))).flatten := by
  induction texts with
  | nil => rfl
  | cons t texts ih =>
    have hcons : stream (t :: texts) = onWire (send t.bytes true) ++ stream texts := rfl
    rw [hcons, ih]
    simp [terminated, onWire, send]

theorem text_words (texts : List JsonText) :
    ∀ w ∈ texts.map (·.bytes), newline ∉ w ∧ w ≠ [] := by
  intro w hw
  obtain ⟨t, _, rfl⟩ := List.mem_map.mp hw
  exact ⟨t.noNewline, t.nonempty⟩

theorem chunks_noNul {texts : List JsonText} {chunks : List Bytes}
    (hstream : chunks.flatten = stream texts) : ∀ c ∈ chunks, 0 ∉ c := by
  intro c hc hzero
  have hmem : 0 ∈ stream texts := hstream ▸ List.mem_flatten.mpr ⟨c, hc, hzero⟩
  obtain ⟨t, _, ht⟩ := List.mem_flatMap.mp hmem
  rcases List.mem_append.mp (show 0 ∈ t.bytes ++ [newline] by simpa [onWire, send] using ht)
    with ht | ht
  · exact t.noNul ht
  · exact absurd (List.mem_singleton.mp ht) (by decide)

/-- However TCP cuts the stream, each text arrives as one message exactly when every
`recv` result is one line and leaves room for the terminating NUL. -/
theorem one_message_per_text_iff (texts : List JsonText) (chunks : List Bytes)
    (hstream : chunks.flatten = stream texts) :
    OnePerText texts (start (chunks.map .data)) ↔
      ∀ c ∈ chunks, IsLine newline c ∧ c.length < defaultBuflen := by
  have hnul := chunks_noNul hstream
  rw [stream_eq] at hstream
  constructor
  · intro h
    have hlt := lt_of_start_waiting hnul h.exit
    have hmessages := h.messages
    rw [start_data_of_lt hnul hlt] at hmessages
    have hlines := carried_eq_terminated (text_words texts) hmessages hstream
    intro c hc
    refine ⟨isLine_of_mem_terminated (fun w hw => (text_words texts w hw).1) ?_, hlt c hc⟩
    rwa [← hlines]
  · intro h
    have hlines := pieces_eq_terminated (fun w hw => (text_words texts w hw).1)
      (fun c hc => (h c hc).1) hstream
    rw [start_data_of_lt hnul (fun c hc => (h c hc).2)]
    refine ⟨rfl, ?_⟩
    rw [hlines, terminated, List.forall₂_map_right_iff]
    exact List.forall₂_same.mpr (fun w _ => Or.inr rfl)

def braces : JsonText := ⟨[123, 125], by decide, by decide, by decide, by decide⟩

theorem braces_received_line_by_line :
    [[123, 125, 10], [123, 125, 10]].flatten = stream [braces, braces] ∧
      OnePerText [braces, braces] (start ([[123, 125, 10], [123, 125, 10]].map .data)) := by
  refine ⟨by decide, (one_message_per_text_iff [braces, braces] _ (by decide)).mpr ?_⟩
  intro c hc
  have hline : c = [123, 125] ++ [newline] := by simpa [newline] using hc
  subst hline
  exact ⟨⟨[123, 125], by decide, rfl⟩, by decide⟩

/-- Two short texts that TCP hands over in one piece become one message. -/
theorem coalesced_texts_lost :
    ¬ ∀ (texts : List JsonText) (chunks : List Bytes),
      (∀ c ∈ chunks, c ≠ [] ∧ c.length ≤ defaultBuflen) → chunks.flatten = stream texts →
      OnePerText texts (start (chunks.map .data)) := by
  intro h
  have hone := (h [braces, braces] [[123, 125, 10, 123, 125, 10]] (by decide) (by decide)).messages
  rw [start_data_of_lt (by decide) (by decide)] at hone
  exact absurd hone.length_eq (by decide)

/-- What one `recv` may put into the buffer, without a NUL. -/
structure Chunk where
  bytes : Bytes
  nonempty : bytes ≠ []
  length_le : bytes.length ≤ defaultBuflen
  noNul : 0 ∉ bytes

/-- Each `recv` result becomes one message, and no string is read past the end of `recvbuf`. -/
structure HandsOver (chunks : List Chunk) (r : Received) : Prop where
  messages : r.messages = chunks.map (·.bytes)
  inside : r.exit ≠ .overread

/-- The loop hands over what it received just when `recv` never filled the buffer. -/
theorem hands_over_iff (chunks : List Chunk) :
    HandsOver chunks (start (chunks.map fun c => .data c.bytes)) ↔
      ∀ c ∈ chunks, c.bytes.length < defaultBuflen := by
  have hnul : ∀ b ∈ chunks.map (·.bytes), 0 ∉ b := by
    intro b hb
    obtain ⟨c, -, rfl⟩ := List.mem_map.mp hb
    exact c.noNul
  have hdata : (chunks.map fun c => RecvResult.data c.bytes) =
      (chunks.map (·.bytes)).map .data := List.map_map.symm
  have hlengths : (∀ b ∈ chunks.map (·.bytes), b.length < defaultBuflen) ↔
      ∀ c ∈ chunks, c.bytes.length < defaultBuflen := List.forall_mem_map
  rw [hdata, ← hlengths]
  constructor
  · intro h
    exact lt_of_start_waiting hnul (start_data_exit h.inside)
  · intro hlt
    rw [start_data_of_lt hnul hlt]
    exact ⟨rfl, nofun⟩

def fullChunk : Chunk where
  bytes := List.replicate defaultBuflen 65
  nonempty := mt (List.replicate_eq_nil_iff 65).mp (by decide)
  length_le := Nat.le_of_eq List.length_replicate
  noNul := fun h => absurd (List.eq_of_mem_replicate h) (by decide)

theorem full_chunk_overread :
    (start [.data fullChunk.bytes]).exit = .overread ∧
      ¬ HandsOver [fullChunk] (start [.data fullChunk.bytes]) := by
  have hlength : defaultBuflen ≤ fullChunk.bytes.length := by
    unfold fullChunk
    exact Nat.le_of_eq List.length_replicate.symm
  have hexit := start_full fullChunk.noNul hlength
  exact ⟨hexit, fun h => h.inside hexit⟩

end WeiRtcNative.DirectTcpServer
