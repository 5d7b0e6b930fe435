import PhotonTCP.App.Received
import PhotonTCP.Session.Refusing

/-!
# A chat endpoint whose channel may raise

A chat endpoint over a session whose `send_frame` may raise.  `send_message` counts the id up when
`send_on` has returned; by then the multiplexer has the bytes, whether or not they could be written.

* `WiredChat`, `connect`, `close`, `sendMessage`, `pump` — the endpoint on such a channel.
* **`tracks_pump`** — unless the channel raises, it is a chat endpoint.
* `after_sendMessage`, **`after_pump`** — what is left behind when it does.

The endpoint believes that a send which raises has sent nothing, and keeps the id for the next
message.  This is true of a message that is too long and of a session that is not connected; it is
not true of a channel that refuses a frame.  The model keeps these cases apart by what is raised:
errors of the session and the codec on the one hand, and the error of the channel on the other.
-/

namespace PhotonTCP

open Raising

/-- A chat endpoint, and how often its session has called `send_frame`. -/
structure WiredChat where
  chat : ChatSession
  sendCalls : ℕ := 0

/-- Computations on such an endpoint. -/
abbrev WiredChatM := EStateM WiredError WiredChat

namespace WiredChat

/-! ## The operations

As those of the endpoint, over a session on a channel that may raise.
-/

/-- The session of the endpoint. -/
def wired (w : WiredChat) : WiredSession := { session := w.chat.session, sendCalls := w.sendCalls }

/-- Its session has worked. -/
def withWired (w : WiredChat) (s : WiredSession) : WiredChat :=
  { chat := { w.chat with session := s.session }, sendCalls := s.sendCalls }

/-- Let the session work. -/
def onWired {α : Type} (x : WiredM α) : WiredChatM α := zoom wired withWired id x

/-- Let the endpoint work, without the channel. -/
def onChat {α : Type} (x : ChatM α) : WiredChatM α :=
  zoom chat (fun w chat => { w with chat }) .session x

section Wire

variable (zlib : Bytes → ℕ) (refuses : ℕ → Bytes → Bool) (loads : JsonLoads) (floatText : ℚ → String)

/-- Begin the handshake. -/
def connect : WiredChatM (List SessionEvent) := do
  onWired (WiredSession.connect zlib refuses (← get).chat.now)

/-- Begin a graceful close. -/
def close : WiredChatM (List SessionEvent) := do
  onWired (WiredSession.close zlib refuses (← get).chat.now)

/-- Frame a message and queue it; a send that fails does not use up the id. -/
def sendMessage (text : String) : WiredChatM ℕ := do
  let w ← get
  match encodeMessage (w.chat.message floatText text) with
  | .error error => throw (.session (.ValueError error))
  | .ok frame =>
      onWired (WiredSession.sendOn zlib refuses w.chat.streamId frame w.chat.now)
      onChat (modify fun c => { c with nextMsgId := c.nextMsgId + 1 })
      return w.chat.nextMsgId

/-- What a cycle does when the session's own is over: read what has been delivered. -/
def read (streamId : ℤ) : ChatM (List ChatMessage) := do
  let chunks ← ChatSession.onSession (Session.recvOn streamId)
  let messages ← ChatSession.feedChunks loads chunks
  modify fun c => { c with received := c.received ++ messages }
  return messages

/-- One cycle, with the frames that arrive in it. -/
def pump (frames : List Bytes) : WiredChatM (List ChatMessage) := do
  let w ← get
  let _ ← onWired (WiredSession.pump zlib refuses none
    (frames.map fun frame => (frame, w.chat.now)) w.chat.now w.chat.now)
  onChat (read loads w.chat.streamId)

end Wire

variable {zlib : Bytes → ℕ} {refuses : ℕ → Bytes → Bool} {loads : JsonLoads} {floatText : ℚ → String}
  {α : Type} {w : WiredChat} {frame : Bytes} {frames : List Bytes} {text : String}

/-! ## The operations of the endpoint

Unless the channel raises, there is no difference.
-/

lemma tracks_onChat (x : ChatM α) : Tracks chat .session (onChat x) x :=
  tracks_zoom (fun _ _ => rfl) WiredSession.session_injective

lemma tracks_onWired {x : WiredM α} {y : SessionM α}
    (h : Tracks WiredSession.session .session x y) :
    Tracks chat .session (onWired x) (ChatSession.onSession y) := by
  rw [ChatSession.onSession_eq_zoom]
  exact h.zoom (fun _ => rfl) fun _ _ => rfl

/-- **A cycle in which the channel raises nothing** is a cycle of the endpoint. -/
theorem tracks_pump (frames : List Bytes) : Tracks chat .session (pump zlib refuses loads frames)
    (ChatSession.pump zlib loads frames) :=
  tracks_get_bind fun _ => (tracks_onWired (WiredSession.tracks_pump _ _ _ _)).bind fun _ =>
    tracks_onChat _

/-! ## What is left behind

In particular when an operation raises: then the id is as it was, and the session is what `send_on`
has left.
-/

lemma onWired_ok {x : WiredM α} {a : α} {s : WiredSession} (h : x w.wired = .ok a s) :
    onWired x w = .ok a (w.withWired s) := zoom_ok h

lemma onWired_error {x : WiredM α} {e : WiredError} {s : WiredSession} (h : x w.wired = .error e s) :
    onWired x w = .error e (w.withWired s) := zoom_error h

lemma after_onWired (x : WiredM α) : after (onWired x) w = w.withWired (after x w.wired) := after_zoom

lemma after_onChat (x : ChatM α) : after (onChat x) w = { w with chat := after x w.chat } := after_zoom

lemma after_connect : after (connect zlib refuses) w
    = w.withWired (after (WiredSession.connect zlib refuses w.chat.now) w.wired) := by
  rw [connect, after_get_bind, after_onWired]

lemma after_close : after (close zlib refuses) w
    = w.withWired (after (WiredSession.close zlib refuses w.chat.now) w.wired) := by
  rw [close, after_get_bind, after_onWired]

/-- A message that could not be encoded. -/
lemma sendMessage_unencoded {error : ValueError}
    (h : encodeMessage (w.chat.message floatText text) = .error error) :
    sendMessage zlib refuses floatText text w = .error (.session (.ValueError error)) w := by
  rw [sendMessage, get_bind, h]
  rfl

/-- A message that could be encoded: what `send_on` has done, and the id. -/
lemma sendMessage_encoded (h : encodeMessage (w.chat.message floatText text) = .ok frame) :
    sendMessage zlib refuses floatText text w =
      match WiredSession.sendOn zlib refuses w.chat.streamId frame w.chat.now w.wired with
      | .ok _ s => .ok w.chat.nextMsgId { w.withWired s with
          chat := { (w.withWired s).chat with nextMsgId := w.chat.nextMsgId + 1 } }
      | .error e s => .error e (w.withWired s) := by
  rw [sendMessage, get_bind, h]
  dsimp only
  cases hsend : WiredSession.sendOn zlib refuses w.chat.streamId frame w.chat.now w.wired with
  | ok u s => exact bind_ok (onWired_ok hsend)
  | error e s => exact bind_error (onWired_error hsend)

variable (zlib refuses floatText) in
/-- A message, also if it raises: what `send_on` leaves behind, if it is called, and the id. -/
lemma after_sendMessage (text : String) (w : WiredChat) :
    (after (sendMessage zlib refuses floatText text) w).chat = w.chat ∨
      ∃ frame nextMsgId, (after (sendMessage zlib refuses floatText text) w).chat = { w.chat with
        session := (after (WiredSession.sendOn zlib refuses w.chat.streamId frame w.chat.now)
          w.wired).session
        nextMsgId } := by
  cases hencode : encodeMessage (w.chat.message floatText text) with
  | error error => exact .inl (by rw [after_error (sendMessage_unencoded hencode)])
  | ok frame =>
      refine .inr ⟨frame, ?_⟩
      have hsend : sendMessage zlib refuses floatText text w = _ := sendMessage_encoded hencode
      cases hrun : WiredSession.sendOn zlib refuses w.chat.streamId frame w.chat.now w.wired with
      | ok u s =>
          rw [hrun] at hsend
          exact ⟨_, by rw [after_ok hsend, after_ok hrun]; rfl⟩
      | error e s =>
          rw [hrun] at hsend
          exact ⟨_, by rw [after_error hsend, after_error hrun]; rfl⟩

variable (loads) in
/-- Reading takes what is buffered, and concerns the reassembler and what was received. -/
lemma after_read (c : ChatSession) : ∃ reassembler received,
    after (read loads c.streamId) c = { c with
      session := { c.session with recvBuffers := c.session.recvBuffers.erase c.streamId }
      reassembler, received } := by
  have hrecv : ChatSession.onSession (Session.recvOn c.streamId) c
      = .ok ((c.session.recvBuffers.get? c.streamId).getD []) { c with
        session := { c.session with recvBuffers := c.session.recvBuffers.erase c.streamId } } := rfl
  rw [read, after_bind_ok hrecv]
  have hfeed : ∀ chunks c', ChatSession.feedChunks loads chunks c' = _ := ChatSession.feedChunks_eq
  rcases hbatch : (chatFraming loads).readBatch c.reassembler.buf
    ((c.session.recvBuffers.get? c.streamId).getD []) with ⟨error | messages, buf⟩
  · refine ⟨⟨buf⟩, c.received, after_bind_error (e := .ValueError error) ?_⟩
    rw [hfeed, hbatch]
  · refine ⟨⟨buf⟩, c.received ++ messages, ?_⟩
    have hread := (hfeed ((c.session.recvBuffers.get? c.streamId).getD []) { c with
      session := { c.session with recvBuffers := c.session.recvBuffers.erase c.streamId } })
    rw [hbatch] at hread
    rw [after_bind_ok hread]
    rfl

variable (zlib loads) in
/-- A cycle of the endpoint, also if it raises: what is left of its session. -/
lemma after_pump_chat (frames : List Bytes) (c : ChatSession) : ∃ reassembler received,
    after (ChatSession.pump zlib loads frames) c = { c with
      session :=
        match Session.pump zlib none (frames.map fun frame => (frame, c.now)) c.now c.now
            c.session with
        | .ok _ s => { s with recvBuffers := s.recvBuffers.erase c.streamId }
        | .error _ s => s
      reassembler, received } := by
  have hread : ChatSession.pump zlib loads frames = (do
      let c ← get
      let _ ← ChatSession.onSession (Session.pump zlib none
        (frames.map fun frame => (frame, c.now)) c.now c.now)
      read loads c.streamId) := rfl
  rw [hread, after_get_bind]
  cases hpump : Session.pump zlib none (frames.map fun frame => (frame, c.now)) c.now c.now
      c.session with
  | error e s =>
      rw [after_bind_error (ChatSession.onSession_error hpump)]
      exact ⟨_, _, rfl⟩
  | ok events s =>
      rw [after_bind_ok (ChatSession.onSession_ok hpump)]
      exact after_read loads { c with session := s }

variable (zlib refuses loads) in
/-- **A cycle, also if it raises**: the session's, and then at most reading. -/
theorem after_pump (frames : List Bytes) (w : WiredChat) :
    let s := (after (WiredSession.pump zlib refuses none
      (frames.map fun frame => (frame, w.chat.now)) w.chat.now w.chat.now) w.wired).session
    ∃ recvBuffers reassembler received, (after (pump zlib refuses loads frames) w).chat
      = { w.chat with session := { s with recvBuffers }, reassembler, received } := by
  intro s
  rw [pump, after_get_bind]
  cases hpump : WiredSession.pump zlib refuses none (frames.map fun frame => (frame, w.chat.now))
      w.chat.now w.chat.now w.wired with
  | error e s' =>
      have hs : s = s'.session := congrArg WiredSession.session (after_error hpump)
      rw [after_bind_error (onWired_error hpump), hs]
      exact ⟨_, _, _, rfl⟩
  | ok events s' =>
      have hs : s = s'.session := congrArg WiredSession.session (after_ok hpump)
      obtain ⟨reassembler, received, hread⟩ :=
        after_read loads (w.withWired s').chat
      rw [after_bind_ok (onWired_ok hpump), after_onChat, hs]
      exact ⟨_, reassembler, received, hread⟩

end WiredChat

end PhotonTCP
