import PhotonTCP.App.Codec
import PhotonTCP.Session.Sound

/-!
# Chat over a session

A message-oriented endpoint over one stream of a session: outgoing text is framed and sent,
incoming chunks are reassembled.  Time is read from the clock that the session uses.

How a time is written into a message (the text of a `float`) is a parameter, as `json.loads` is.

* `ChatSession` — the endpoint; `connect`, `close`, `sendMessage`, `pump`.
* `Chatting` — the invariant: the session is sound, and what was taken off it has been read.
* **`Chatting.pump`** — a cycle with frames of a conforming peer raises nothing.
* **`Chatting.sendMessage_ok`**, `Chatting.sendMessage_error` — a message is sent exactly when the
  session is `ESTABLISHED` and the message can be encoded.

An endpoint adds three things to a session: it numbers messages, frames them, and reads what comes
in.  Its invariant has a part for each end of the stream.  What it sends goes through the session,
and sending a message can fail for one of two reasons only, which are known beforehand.  What it
reads is the log of its peer, of which the session has taken some chunks; the reassembler has made
messages of the whole ones, and keeps the rest.

A peer that conforms sends a log in which every part can be read.  A peer that does not can make
`feed` raise, and what is lost then is the subject of another module.
-/

namespace PhotonTCP

open Raising

/-- A chat endpoint. -/
structure ChatSession where
  session : Session
  now : ℚ := 0
  streamId : ℤ := DEFAULT_STREAM_ID
  nextMsgId : ℕ := 1
  reassembler : StreamReassembler := {}
  received : List ChatMessage := []

/-- Computations on an endpoint. -/
abbrev ChatM := EStateM SessionError ChatSession

namespace ChatSession

variable (zlib : Bytes → ℕ) (loads : JsonLoads) (floatText : ℚ → String)

/-- The connection is up. -/
def isEstablished (c : ChatSession) : Bool := c.session.machine.isEstablished
/-- There is no connection. -/
def isClosed (c : ChatSession) : Bool := c.session.machine.isClosed

/-- Let the session work. -/
def onSession {α : Type} (x : SessionM α) : ChatM α := fun c =>
  match x c.session with
  | .ok a session => .ok a { c with session }
  | .error e session => .error e { c with session }

/-- Begin the handshake. -/
def connect : ChatM (List SessionEvent) := do
  onSession (Session.connect zlib (← get).now)

/-- Begin a graceful close. -/
def close : ChatM (List SessionEvent) := do
  onSession (Session.close zlib (← get).now)

/-- The next message. -/
def message (c : ChatSession) (text : String) : ChatMessage where
  msgId := .int c.nextMsgId
  timestamp := .float (floatText c.now)
  text := .str text

/-- Frame a message and queue it; a send that fails does not use up the id. -/
def sendMessage (text : String) : ChatM ℕ := do
  let c ← get
  match encodeMessage (c.message floatText text) with
  | .error error => throw (.ValueError error)
  | .ok frame =>
      onSession (Session.sendOn zlib c.streamId frame c.now)
      modify fun c => { c with nextMsgId := c.nextMsgId + 1 }
      return c.nextMsgId

/-- Give the reassembler what has arrived. -/
def feedChunks : List Bytes → ChatM (List ChatMessage)
  | [] => pure []
  | chunk :: chunks => do
      let result ← modifyGet fun c =>
        ((c.reassembler.feed loads chunk).1,
          { c with reassembler := (c.reassembler.feed loads chunk).2 })
      match result with
      | .error text => throw (.ValueError text)
      | .ok messages => do
          let more ← feedChunks chunks
          return messages ++ more

/-- One cycle, with the frames that arrive in it. -/
def pump (frames : List Bytes) : ChatM (List ChatMessage) := do
  let c ← get
  let _ ← onSession (Session.pump zlib none (frames.map fun frame => (frame, c.now)) c.now c.now)
  let chunks ← onSession (Session.recvOn c.streamId)
  let messages ← feedChunks loads chunks
  modify fun c => { c with received := c.received ++ messages }
  return messages

/-! ## The invariant

Over the log of the peer, which is a parameter.
-/

variable {zlib loads floatText} {log taken : List Bytes} {c c' : ChatSession}

/-- Every part of the stream can be read. -/
def Readable (loads : JsonLoads) (log : List Bytes) : Prop :=
  ∀ taken, taken <+: log → ((chatFraming loads).scan taken.flatten).error = none

/-- The reassembler has what was taken off the stream and is not a whole message. -/
def Follows (loads : JsonLoads) (taken : List Bytes) (r : StreamReassembler) : Prop :=
  r.buf = ((chatFraming loads).scan taken.flatten).rest

/-- The session is sound, and all that was taken off it is in the reassembler. -/
structure Chatting (loads : JsonLoads) (log : List Bytes) (c : ChatSession) : Prop where
  sound : Session.Sound (· ≤ c.now) c.session
  stream : c.streamId ≠ 0
  streamWire : WireStream c.streamId
  hears : ∃ taken, Session.Hears log c.streamId taken c.session ∧ Follows loads taken c.reassembler

/-- The session and the message are such that it can be sent. -/
def CanSend (floatText : ℚ → String) (c : ChatSession) (text : String) : Prop :=
  c.session.machine.state = .Established ∧
    ∃ frame, encodeMessage (c.message floatText text) = .ok frame

lemma onSession_eq_zoom {α : Type} (x : SessionM α) :
    onSession x = zoom session (fun c session => { c with session }) id x := by
  funext c
  rw [onSession, zoom]
  cases x c.session <;> rfl

lemma onSession_ok {α : Type} {x : SessionM α} {a : α} {session : Session}
    (h : x c.session = .ok a session) : onSession x c = .ok a { c with session } := by
  rw [onSession_eq_zoom, zoom_ok h]

lemma onSession_error {α : Type} {x : SessionM α} {e : SessionError} {session : Session}
    (h : x c.session = .error e session) : onSession x c = .error e { c with session } := by
  rw [onSession_eq_zoom, zoom_error h, id]

/-! ## Reading

Chunk by chunk, since the session hands out a list of chunks.
-/

/-- One more chunk. -/
lemma Follows.feed (hreadable : Readable loads log) {r : StreamReassembler}
    (h : Follows loads taken r) {chunk : Bytes} (htake : taken ++ [chunk] <+: log) :
    ∃ messages r', r.feed loads chunk = (.ok messages, r') ∧
      Follows loads (taken ++ [chunk]) r' := by
  have hscan : (taken ++ [chunk]).flatten = taken.flatten ++ chunk := by simp
  have hnone := hreadable _ htake
  rw [hscan, Framing.scan_append, ← h] at hnone
  refine ⟨((chatFraming loads).scan (r.buf ++ chunk)).frames,
    ⟨((chatFraming loads).scan (r.buf ++ chunk)).rest⟩, ?_, ?_⟩
  · rw [StreamReassembler.feed, Framing.feed_of_none hnone]
  · rw [Follows, hscan, Framing.scan_append taken.flatten, ← h]

/-- **Reading what was taken raises nothing.** -/
theorem feedChunks_ok (hreadable : Readable loads log) : ∀ {chunks taken : List Bytes}
    {c : ChatSession}, Follows loads taken c.reassembler → taken ++ chunks <+: log →
      ∃ messages reassembler, feedChunks loads chunks c = .ok messages { c with reassembler } ∧
        Follows loads (taken ++ chunks) reassembler := by
  intro chunks
  induction chunks with
  | nil =>
      intro taken c h _
      exact ⟨[], c.reassembler, rfl, by simpa using h⟩
  | cons chunk chunks ih =>
      intro taken c h htake
      rw [List.append_cons] at htake
      obtain ⟨messages, r', hfeed, hnext⟩ :=
        h.feed hreadable ((List.prefix_append _ _).trans htake)
      obtain ⟨more, reassembler, hmore, hfollows⟩ :=
        ih (c := { c with reassembler := r' }) hnext htake
      refine ⟨messages ++ more, reassembler, ?_, by rwa [List.append_cons]⟩
      have hstep : (modifyGet fun c : ChatSession => ((c.reassembler.feed loads chunk).1,
          { c with reassembler := (c.reassembler.feed loads chunk).2 }) : ChatM _) c
          = .ok (.ok messages) { c with reassembler := r' } := by
        show EStateM.Result.ok _ _ = _
        rw [hfeed]
      rw [feedChunks]
      exact (bind_ok hstep).trans ((bind_ok hmore).trans rfl)

namespace Chatting

/-- Taking what is buffered leaves nothing behind. -/
lemma recvOn (h : Session.Hears log c.streamId taken c.session) :
    ∃ chunks session, Session.recvOn c.streamId c.session = .ok chunks session ∧
      session.machine = c.session.machine ∧ session.mux = c.session.mux ∧
      Session.Hears log c.streamId (taken ++ chunks) session ∧ taken ++ chunks <+: log := by
  obtain ⟨received, ep, hprojects, hreceiver, hstamped, htaken⟩ := h
  refine ⟨_, _, rfl, rfl, rfl, ⟨received, ep, hprojects, hreceiver, hstamped, ?_⟩, ?_⟩
  · simp [Dict.get?_erase_self, htaken]
  · rw [htaken]
    exact List.take_prefix received log

/-- **A cycle with frames of a conforming peer raises nothing.** -/
theorem pump (h : Chatting loads log c) (hreadable : Readable loads log)
    (hlog : log.length < 2 ^ 31) {frames : List Bytes}
    (hframes : ∀ frame ∈ frames, Session.FrameConforms zlib log c.streamId frame) :
    ∃ messages c', ChatSession.pump zlib loads frames c = .ok messages c' ∧
      Chatting loads log c' ∧ c'.now = c.now ∧ c'.streamId = c.streamId := by
  obtain ⟨taken, hears, hfollows⟩ := h.hears
  obtain ⟨events, session, hpump, hsound, hears⟩ :=
    Session.pump_sound h.sound hears h.stream hlog hframes
  obtain ⟨chunks, session', hrecv, hmachine, hmux, hears', htake⟩ :=
    recvOn (c := { c with session }) hears
  obtain ⟨messages, reassembler, hfeed, hfollows'⟩ :=
    feedChunks_ok (c := { c with session := session' }) hreadable hfollows htake
  have hsound' : Session.Sound (· ≤ c.now) session' := hsound.congr hmachine hmux
  refine ⟨messages, { c with session := session', reassembler, received := c.received ++ messages },
    ?_, ⟨hsound', h.stream, h.streamWire, _, hears', hfollows'⟩, rfl, rfl⟩
  rw [ChatSession.pump]
  exact (bind_ok rfl).trans ((bind_ok (onSession_ok hpump)).trans
    ((bind_ok (onSession_ok hrecv)).trans ((bind_ok hfeed).trans rfl)))

/-- Time passes. -/
lemma advance (h : Chatting loads log c) {now : ℚ} (hnow : c.now ≤ now) :
    Chatting loads log { c with now } :=
  ⟨h.sound.mono fun _ ht => ht.trans hnow, h.stream, h.streamWire, h.hears⟩

/-- **A message that can be sent is sent.** -/
theorem sendMessage_ok (h : Chatting loads log c) (hlog : log.length < 2 ^ 31) {text : String}
    (hcan : CanSend floatText c text) :
    ∃ c', sendMessage zlib floatText text c = .ok c.nextMsgId c' ∧ Chatting loads log c' ∧
      c'.now = c.now ∧ c'.streamId = c.streamId := by
  obtain ⟨hstate, frame, hframe⟩ := hcan
  obtain ⟨taken, hears, hfollows⟩ := h.hears
  obtain ⟨session, hsend, hsound, hears'⟩ :=
    Session.sendOn_sound h.sound hears h.stream hlog hstate h.streamWire frame
  refine ⟨{ c with session, nextMsgId := c.nextMsgId + 1 }, ?_,
    ⟨hsound, h.stream, h.streamWire, taken, hears', hfollows⟩, rfl, rfl⟩
  rw [sendMessage, get_bind, hframe]
  exact (bind_ok (onSession_ok hsend)).trans rfl

/-- **Any other message makes it raise.** -/
theorem sendMessage_error {text : String} (hcan : ¬ CanSend floatText c text) :
    ∃ e c', sendMessage zlib floatText text c = .error e c' := by
  rw [sendMessage, get_bind]
  cases hframe : encodeMessage (c.message floatText text) with
  | error error => exact ⟨_, _, rfl⟩
  | ok frame =>
      have hstate : c.session.machine.state ≠ .Established := fun hs => hcan ⟨hs, frame, hframe⟩
      exact ⟨_, _, bind_error (onSession_error (Session.sendOn_error hstate))⟩

/-! ## The lifecycle

Connecting and closing are the session's own.
-/

lemma connect (h : Chatting loads log c) :
    ∃ events c', ChatSession.connect zlib c = .ok events c' ∧ Chatting loads log c' ∧
      c'.now = c.now ∧ c'.streamId = c.streamId := by
  obtain ⟨taken, hears, hfollows⟩ := h.hears
  obtain ⟨events, session, hconnect, hsound, hears'⟩ := Session.connect_sound h.sound hears c.now
  exact ⟨events, { c with session }, onSession_ok hconnect,
    ⟨hsound, h.stream, h.streamWire, taken, hears', hfollows⟩, rfl, rfl⟩

lemma close (h : Chatting loads log c) :
    ∃ events c', ChatSession.close zlib c = .ok events c' ∧ Chatting loads log c' ∧
      c'.now = c.now ∧ c'.streamId = c.streamId := by
  obtain ⟨taken, hears, hfollows⟩ := h.hears
  obtain ⟨events, session, hclose, hsound, hears'⟩ := Session.close_sound h.sound hears c.now
  exact ⟨events, { c with session }, onSession_ok hclose,
    ⟨hsound, h.stream, h.streamWire, taken, hears', hfollows⟩, rfl, rfl⟩

/-- A new endpoint over a new session. -/
lemma start {session : Session} (hsound : Session.Sound (· ≤ 0) session)
    (hears : Session.Hears log DEFAULT_STREAM_ID [] session) : Chatting loads log { session } where
  sound := hsound
  stream := by simp [DEFAULT_STREAM_ID]
  streamWire := by simp [WireStream, DEFAULT_STREAM_ID]
  hears := by
    have hnil : (chatFraming loads).scan [] = ⟨[], [], none⟩ :=
      Framing.scan_of_stopped none (if_pos (chatFraming loads).width_pos)
    exact ⟨[], hears, by rw [Follows, List.flatten_nil, hnil]⟩

end Chatting

end ChatSession

end PhotonTCP
