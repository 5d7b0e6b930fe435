import PhotonTCP.App.Chat
import PhotonTCP.Foundation.Batches
import PhotonTCP.Packet.Corruption

/-!
# What a chat endpoint has received

A cycle takes all that is buffered on the stream off the session, feeds it chunk by chunk, and adds
to `received` when the last chunk has been fed.  If a chunk shows that the stream is malformed, the
messages of the cycle are lost, those of the chunks before it as well.

* `ChatInput`, `next`, `drained` — what is done to an endpoint, which may raise, and the chunks that
  it takes off the session.
* `reader_run` — an endpoint reads in batches, one for each cycle.
* **`received_iff`** — messages stay exactly if the cycle that takes their last byte takes no more
  than shows no error.
* **`message_lost`** — a message that is lost.

The batches are not visible in the bytes.  They are the cycles of the session, and a cycle takes
whatever the channel has; two chunks that were sent far apart may be taken together when the
receiver is late.  So the condition is about the run, and it names the one batch that matters.

Everything else that happens to an endpoint, sending and connecting and the passing of time, commits
an empty batch.  This makes a run of an endpoint a run of the reader of the library, and the theorem
there decides.
-/

namespace PhotonTCP

open Raising

/-- What is done to an endpoint, or happens around it. -/
inductive ChatInput where
  | connect
  | close
  | sendMessage (text : String)
  | pump (frames : List Bytes)
  /-- The clock moves. -/
  | clock (now : ℚ)
  /-- The owner of the session uses it for something else. -/
  | owner (session : Session)

namespace ChatSession

variable (zlib : Bytes → ℕ) (loads : JsonLoads) (floatText : ℚ → String)

/-- The endpoint after an input, also if it has raised. -/
def next (c : ChatSession) : ChatInput → ChatSession
  | .connect => after (connect zlib) c
  | .close => after (close zlib) c
  | .sendMessage text => after (sendMessage zlib floatText text) c
  | .pump frames => after (pump zlib loads frames) c
  | .clock now => { c with now }
  | .owner session => { c with session }

/-- The chunks that an input takes off the session: in a cycle, all that is buffered on the stream
after the session's own, unless that raises. -/
def drained (c : ChatSession) : ChatInput → List Bytes
  | .pump frames =>
      match Session.pump zlib none (frames.map fun frame => (frame, c.now)) c.now c.now c.session with
      | .ok _ session => (session.recvBuffers.get? c.streamId).getD []
      | .error _ _ => []
  | _ => []

/-- The chunks that the inputs take off the session, one batch each, and the last endpoint. -/
def run : ChatSession → List ChatInput → List (List Bytes) × ChatSession :=
  Mealy.run fun c input => (drained zlib c input, next zlib loads floatText c input)

/-- The endpoint as a reader. -/
def reader (c : ChatSession) : Framing.Batched UInt8 ChatMessage :=
  { buf := c.reassembler.buf, kept := c.received }

variable {zlib loads floatText} {c : ChatSession}

/-! ## An endpoint reads in batches

Only `pump` touches the reassembler, at its end.
-/

/-- What the session does is none of the reader's business. -/
lemma reader_onSession {α : Type} (x : SessionM α) : (after (onSession x) c).reader = c.reader := by
  rw [onSession_eq_zoom, after_zoom]
  rfl

lemma reader_sendMessage (text : String) :
    (after (sendMessage zlib floatText text) c).reader = c.reader := by
  rw [sendMessage, after_get_bind]
  cases encodeMessage (c.message floatText text) with
  | error error => rfl
  | ok frame =>
      have hreader := reader_onSession (c := c) (Session.sendOn zlib c.streamId frame c.now)
      cases hsend : onSession (Session.sendOn zlib c.streamId frame c.now) c with
      | ok a c' =>
          rw [after_ok hsend] at hreader
          exact (congrArg reader (after_bind_ok hsend)).trans hreader
      | error e c' =>
          rw [after_error hsend] at hreader
          exact (congrArg reader (after_bind_error hsend)).trans hreader

/-- Feeding the chunks is reading a batch. -/
lemma feedChunks_eq : ∀ (chunks : List Bytes) (c : ChatSession), feedChunks loads chunks c =
    match (chatFraming loads).readBatch c.reassembler.buf chunks with
    | (.error text, buf) => .error (.ValueError text) { c with reassembler := ⟨buf⟩ }
    | (.ok messages, buf) => .ok messages { c with reassembler := ⟨buf⟩ }
  | [], c => rfl
  | chunk :: chunks, c => by
      have hstep : (modifyGet fun c : ChatSession => ((c.reassembler.feed loads chunk).1,
          { c with reassembler := (c.reassembler.feed loads chunk).2 }) : ChatM _) c
          = .ok ((chatFraming loads).feed c.reassembler.buf chunk).1
              { c with reassembler := ⟨((chatFraming loads).feed c.reassembler.buf chunk).2⟩ } := rfl
      rw [feedChunks, bind_ok hstep, Framing.readBatch]
      rcases (chatFraming loads).feed c.reassembler.buf chunk with ⟨text | messages, buf⟩
      · rfl
      · have ih := feedChunks_eq chunks { c with reassembler := ⟨buf⟩ }
        dsimp only
        rcases hbatch : (chatFraming loads).readBatch buf chunks with ⟨text | more, buf'⟩
        · rw [hbatch] at ih
          exact bind_error ih
        · rw [hbatch] at ih
          exact bind_ok ih

/-- What a cycle does with the chunks is committing a batch. -/
lemma reader_feedChunks (chunks : List Bytes) (c : ChatSession) :
    (after (do
      let messages ← feedChunks loads chunks
      modify fun c => { c with received := c.received ++ messages }
      return messages : ChatM (List ChatMessage)) c).reader =
        (chatFraming loads).commit c.reader chunks := by
  have hfeed : feedChunks loads chunks c = _ := feedChunks_eq chunks c
  rw [Framing.commit, show c.reader.buf = c.reassembler.buf from rfl]
  rcases hbatch : (chatFraming loads).readBatch c.reassembler.buf chunks with ⟨text | messages, buf⟩
  · rw [hbatch] at hfeed
    rw [after_bind_error hfeed]
    rfl
  · rw [hbatch] at hfeed
    rw [after_bind_ok hfeed]
    rfl

/-- **A cycle commits one batch.** -/
theorem reader_pump (frames : List Bytes) : (after (pump zlib loads frames) c).reader =
    (chatFraming loads).commit c.reader (drained zlib c (.pump frames)) := by
  rw [pump, after_get_bind, drained]
  cases hpump : Session.pump zlib none (frames.map fun frame => (frame, c.now)) c.now c.now
      c.session with
  | error e session =>
      rw [after_bind_error (onSession_error hpump)]
      exact (Framing.commit_nil _).symm
  | ok events session =>
      rw [after_bind_ok (onSession_ok hpump)]
      exact reader_feedChunks _ { c with session := { session with
        recvBuffers := session.recvBuffers.erase c.streamId } }

/-- **Every input commits what it takes off the session**: one batch, which only a cycle fills. -/
theorem reader_next (input : ChatInput) : (next zlib loads floatText c input).reader =
    (chatFraming loads).commit c.reader (drained zlib c input) := by
  cases input with
  | pump frames => exact reader_pump frames
  | connect => exact (reader_onSession _).trans (Framing.commit_nil _).symm
  | close => exact (reader_onSession _).trans (Framing.commit_nil _).symm
  | sendMessage text => exact (reader_sendMessage text).trans (Framing.commit_nil _).symm
  | clock now => exact (Framing.commit_nil _).symm
  | owner session => exact (Framing.commit_nil _).symm

/-- **An endpoint reads in batches.** -/
theorem reader_run (inputs : List ChatInput) : (run zlib loads floatText c inputs).2.reader =
    (chatFraming loads).commits c.reader (run zlib loads floatText c inputs).1 := by
  induction inputs generalizing c with
  | nil => rfl
  | cons input inputs ih =>
      rw [run, Mealy.run_cons, ← run, Framing.commits, List.foldl_cons, ← reader_next]
      exact ih

/-! ## What stays

The bytes that have been taken begin with encodings of the messages.
-/

/-- An endpoint that has read nothing. -/
structure Unread (c : ChatSession) : Prop where
  reassembler : c.reassembler = {}
  received : c.received = []

/-- **Which messages stay.**  The stream is the encodings of some messages and what follows them;
the inputs have taken at least the encodings off the session.  Then all the messages are in
`received`, in order and before everything else, exactly if the cycle that takes their last byte
does not go on to bytes that show an error. -/
theorem received_iff {encoded : List (Bytes × ChatMessage)}
    (hencoded : ∀ p ∈ encoded, encodeMessage p.2 = .ok p.1)
    (hloads : ∀ p ∈ encoded, loads (jsonDumps p.2.fields) = .ok (.mapping p.2.fields))
    (hnew : Unread c) (inputs : List ChatInput) {rest : Bytes}
    (htaken : Framing.bytes (run zlib loads floatText c inputs).1
      = (encoded.map Prod.fst).flatten ++ rest) :
    encoded.map Prod.snd <+: (run zlib loads floatText c inputs).2.received ↔
      (chatFraming loads).CleanAt (encoded.map Prod.fst).flatten.length
        (run zlib loads floatText c inputs).1 := by
  have hspells : ∀ p ∈ encoded, (chatFraming loads).Spells p.1 p.2 := fun p hp =>
    spells_of_encodeMessage (hencoded p hp) (hloads p hp)
  have hreader : c.reader = {} := by rw [reader, hnew.reassembler, hnew.received]
  have hrun : (run zlib loads floatText c inputs).2.reader = _ := reader_run inputs
  rw [hreader] at hrun
  rw [← Framing.kept_iff hspells htaken, ← hrun]
  rfl

/-! ## A message that is lost

A responder receives a message and a bad length prefix.  In one cycle the two are taken together,
and in the other run one after the other.
-/

/-- A message, its frame, and a decoder that knows only its body. -/
def hi : ChatMessage := ⟨.int 1, .float "0.5", .str "hi"⟩
/-- Its frame. -/
def hiFrame : Bytes := (encodeMessage hi).toOption.getD []
/-- It reads the body of this message, and no other. -/
def hiLoads (body : Bytes) : Except String JsonDocument :=
  if body = jsonDumps hi.fields then .ok (.mapping hi.fields)
  else .error "Expecting value: line 1 column 1 (char 0)"

/-- A length prefix beyond the limit. -/
def noFrame : Bytes := [255, 255, 255, 255]

/-- What the other endpoint's session sends: the handshake, and DATA packets. -/
def peerFrame (type : PacketType) (streamId seq ack : ℤ) (flags : ℕ) (payload : Bytes) : Bytes :=
  packed zlibCrc32 { type, sessionId := 7, streamId, seq, ack, window := 0, flags, payload }
/-- The handshake. -/
def hello : List Bytes :=
  [peerFrame .Syn 0 1000 0 Flags.syn [], peerFrame .Ack 0 1001 5001 Flags.ack []]
/-- A chunk on the stream of the chat. -/
def dataFrame (seq : ℤ) (payload : Bytes) : Bytes :=
  peerFrame .Data DEFAULT_STREAM_ID seq 0 Flags.none payload

/-- A new endpoint of a responder, the packets in one cycle and in two. -/
def listener : ChatSession := { session := Session.create false 0 5000 }
/-- Both chunks in one cycle. -/
def oneCycle : List ChatInput := [.pump hello, .pump [dataFrame 0 hiFrame, dataFrame 1 noFrame]]
/-- Each in a cycle of its own. -/
def twoCycles : List ChatInput :=
  [.pump hello, .pump [dataFrame 0 hiFrame], .pump [dataFrame 1 noFrame]]

/-- The run of the listener. -/
def listen : List ChatInput → List (List Bytes) × ChatSession :=
  listener.run zlibCrc32 hiLoads fun _ => "0.5"

lemma encodeMessage_hi : encodeMessage hi = .ok hiFrame := by decide +kernel

lemma hiLoads_hi : hiLoads (jsonDumps hi.fields) = .ok (.mapping hi.fields) := if_pos rfl

lemma taken_oneCycle : Framing.bytes (listen oneCycle).1 = hiFrame ++ noFrame := by decide +kernel

lemma taken_twoCycles : Framing.bytes (listen twoCycles).1 = hiFrame ++ noFrame := by decide +kernel

/-- **A message is lost with the bytes behind it**, unless they are taken in a later cycle. -/
theorem message_lost : encodeMessage hi = .ok hiFrame ∧
    hiLoads (jsonDumps hi.fields) = .ok (.mapping hi.fields) ∧
    Framing.bytes (listen oneCycle).1 = hiFrame ++ noFrame ∧ (listen oneCycle).2.received = [] ∧
    Framing.bytes (listen twoCycles).1 = hiFrame ++ noFrame ∧ (listen twoCycles).2.received = [hi] :=
  ⟨encodeMessage_hi, hiLoads_hi, taken_oneCycle, by decide +kernel, taken_twoCycles,
    by decide +kernel⟩

/-- The condition in either run. -/
theorem received_iff_hi :
    (chatFraming hiLoads).CleanAt hiFrame.length (listen twoCycles).1 ∧
      ¬ (chatFraming hiLoads).CleanAt hiFrame.length (listen oneCycle).1 := by
  have hencoded : ∀ p ∈ [(hiFrame, hi)], encodeMessage p.2 = .ok p.1 := by
    simp [encodeMessage_hi]
  have hloads : ∀ p ∈ [(hiFrame, hi)],
      hiLoads (jsonDumps p.2.fields) = .ok (.mapping p.2.fields) := by
    simp [hiLoads_hi]
  have hflat : ([(hiFrame, hi)].map Prod.fst).flatten = hiFrame := by simp
  have hiff : ∀ inputs, Framing.bytes (listen inputs).1 = hiFrame ++ noFrame →
      ([hi] <+: (listen inputs).2.received ↔
        (chatFraming hiLoads).CleanAt hiFrame.length (listen inputs).1) := fun inputs htaken => by
    have hreceived := received_iff hencoded hloads ⟨rfl, rfl⟩ inputs (by rwa [hflat])
    rwa [hflat] at hreceived
  rw [← hiff twoCycles taken_twoCycles, ← hiff oneCycle taken_oneCycle]
  decide +kernel

end ChatSession

end PhotonTCP
