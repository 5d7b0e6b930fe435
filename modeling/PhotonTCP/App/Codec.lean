import PhotonTCP.App.Json
import PhotonTCP.Foundation.ByteRecord
import PhotonTCP.Foundation.Framing
import PhotonTCP.Reliability.Rto

/-!
# The chat codec

A chat message travels as a 4-byte big-endian length and a JSON body of that length.

* `ChatMessage`, `encodeMessage`, `decodeBody`.
* `chatFraming`, `StreamReassembler` — messages from the bytes of a stream.
* **`spells_of_encodeMessage`** — an encoded message is read back.

Two different limits meet here.  The encoder refuses a body that is too long, and the reassembler
refuses a length prefix beyond the same bound, so what one endpoint can send the other can read.
The prefix has four bytes and could say more, and a peer that says so makes `feed` raise.

A body that is no message raises as well, and with an error of the same type.  What arrives is not
checked field by field: a mapping that has the three keys is a message, whatever is under them.
-/

namespace PhotonTCP

/-- Width of the length prefix. -/
def LENGTH_SIZE : ℕ := 4

lemma LENGTH_SIZE_pos : 0 < LENGTH_SIZE := by decide

/-- Limit on a message body. -/
def MAX_MESSAGE_BYTES : ℕ := 1 <<< 20

/-- A chat message.  What arrives is not checked for the types of its fields. -/
structure ChatMessage where
  msgId : JsonValue
  timestamp : JsonValue
  text : JsonValue
deriving DecidableEq

/-- The length-prefixed frame of a message. -/
def encodeMessage (msg : ChatMessage) : Except ValueError Bytes :=
  let body := jsonDumps (((Dict.empty.set "msg_id" msg.msgId).set "timestamp" msg.timestamp).set
    "text" msg.text)
  if MAX_MESSAGE_BYTES < body.length then
    .error s!"encoded message body of {body.length} bytes exceeds MAX_MESSAGE_BYTES ({MAX_MESSAGE_BYTES})"
  else .ok (ByteRecord.encode LENGTH_SIZE body.length ++ body)

variable (loads : JsonLoads)

/-- A body's message. -/
def decodeBody (body : Bytes) : Except ValueError ChatMessage :=
  match loads body with
  | .error exc => .error s!"failed to parse message body: {exc}"
  | .ok (.other obj) => .error s!"message body is not a JSON object: <class '{obj.typeName}'>"
  | .ok (.mapping obj) =>
      match obj.get? "msg_id", obj.get? "timestamp", obj.get? "text" with
      | none, _, _ => .error "message body missing field: 'msg_id'"
      | some _, none, _ => .error "message body missing field: 'timestamp'"
      | some _, some _, none => .error "message body missing field: 'text'"
      | some msgId, some timestamp, some text => .ok { msgId, timestamp, text }

/-- How `StreamReassembler.feed` takes a frame off its buffer. -/
def chatFraming : Framing UInt8 ChatMessage ValueError where
  width := LENGTH_SIZE
  size header :=
    let length := ByteRecord.decode header
    if MAX_MESSAGE_BYTES < length then
      .error s!"declared message length {length} exceeds MAX_MESSAGE_BYTES ({MAX_MESSAGE_BYTES})"
    else .ok length
  decode := decodeBody loads
  width_pos := LENGTH_SIZE_pos

/-- The bytes that have not become a message. -/
structure StreamReassembler where
  buf : Bytes := []

namespace StreamReassembler

/-- Append `data` and return the messages that are complete. -/
def feed (r : StreamReassembler) (data : Bytes) :
    Except ValueError (List ChatMessage) × StreamReassembler :=
  let (result, buf) := (chatFraming loads).feed r.buf data
  (result, { buf })

/-- Successive calls of `feed`. -/
def feeds : StreamReassembler → List Bytes →
    List (Except ValueError (List ChatMessage)) × StreamReassembler := Mealy.run (feed loads)

lemma feeds_eq (r : StreamReassembler) (pieces : List Bytes) :
    r.feeds loads pieces = (((chatFraming loads).feeds r.buf pieces).1,
      { buf := ((chatFraming loads).feeds r.buf pieces).2 }) := by
  induction pieces generalizing r with
  | nil => rfl
  | cons data pieces ih =>
      rw [feeds, Mealy.run_cons, ← feeds, ih]
      rfl

end StreamReassembler

/-! ## One message

In the terms of the framing, an encoded message spells itself.
-/

variable {loads} {msg : ChatMessage} {frame : Bytes}

/-- The mapping that is dumped. -/
def ChatMessage.fields (msg : ChatMessage) : Dict String JsonValue :=
  ((Dict.empty.set "msg_id" msg.msgId).set "timestamp" msg.timestamp).set "text" msg.text

lemma encodeMessage_eq_ok_iff : encodeMessage msg = .ok frame ↔
    (jsonDumps msg.fields).length ≤ MAX_MESSAGE_BYTES ∧
      frame = ByteRecord.encode LENGTH_SIZE (jsonDumps msg.fields).length ++ jsonDumps msg.fields := by
  rw [encodeMessage, ← ChatMessage.fields]
  split_ifs with hlong
  · simp [Nat.not_le.mpr hlong]
  · simp [Nat.not_lt.mp hlong, eq_comm]

lemma decodeBody_fields {body : Bytes} (h : loads body = .ok (.mapping msg.fields)) :
    decodeBody loads body = .ok msg := by
  simp [decodeBody, h, ChatMessage.fields, Dict.get?_set]

/-- **An encoded message is read back**, if `json.loads` reads its body back. -/
theorem spells_of_encodeMessage (h : encodeMessage msg = .ok frame)
    (hloads : loads (jsonDumps msg.fields) = .ok (.mapping msg.fields)) :
    (chatFraming loads).Spells frame msg := by
  obtain ⟨hle, rfl⟩ := encodeMessage_eq_ok_iff.mp h
  refine Framing.spells_of_header (ByteRecord.length_encode ..) ?_ (decodeBody_fields hloads)
  have hdecode := ByteRecord.decode_encode (lt_of_le_of_lt hle
    (show MAX_MESSAGE_BYTES < 256 ^ LENGTH_SIZE by decide))
  simp only [chatFraming, hdecode]
  rw [if_neg (by omega)]

end PhotonTCP
