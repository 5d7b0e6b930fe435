import PhotonTCP.App.Refusing
import PhotonTCP.Session.Reconnection

/-!
# The messages of an endpoint that cannot always write

A chat endpoint whose channel may raise at any call of `send_frame`, and its peer.  A message whose
`send_on` has raised on the channel is in the multiplexer: it is transmitted again later, and its id
is given to the next message.

* `Conversation` — the two endpoints, and the messages that were sent or not.
* `Orderly` — no message that is sent is refused, and none is sent past a queue.
* `Talks`, **`Talks.next`** — the invariant, and that every step keeps it.
* **`received_in_order`** — what the peer receives; `refused_and_received` is a message that was
  refused.

Both channels may raise at any call, and the two endpoints suffer differently.  When a cycle of the
far endpoint raises after its multiplexer has delivered, the bytes are acknowledged and gone; so its
own channel is asked to take what it writes.  When the near endpoint cannot write, frames are lost
as on any network, with one exception: a message whose own `send_on` raised is not counted as sent,
and will arrive all the same.  The condition is about this case and is stated with the state before
the send, as whether the channel takes the packets that would be emitted.

What holds under the condition is an agreement in both directions.  What the far endpoint has
received are the messages whose `send_message` has returned, the first so many of them, and their
ids count up from one without a gap.
-/

namespace PhotonTCP

open Raising

/-! ## The system

Only the direction from near to far is followed.  The near endpoint may receive what it likes.
-/

/-- The endpoint whose messages are looked at, and its peer. -/
inductive ChatEnd where
  | near
  | far
deriving DecidableEq

/-- What is done to an endpoint, or happens around it. -/
inductive ChatCall where
  | connect
  | close
  | sendMessage (text : String)
  | pump (frames : List Bytes)
  /-- The clock moves. -/
  | clock (now : ℚ)

/-- The endpoint after a call, also if it has raised. -/
def WiredChat.called (zlib : Bytes → ℕ) (refuses : ℕ → Bytes → Bool) (loads : JsonLoads)
    (floatText : ℚ → String) (w : WiredChat) : ChatCall → WiredChat
  | .connect => after (connect zlib refuses) w
  | .close => after (close zlib refuses) w
  | .sendMessage text => after (sendMessage zlib refuses floatText text) w
  | .pump frames => after (pump zlib refuses loads frames) w
  | .clock now => { w with chat := { w.chat with now } }

/-- The frame of the next message, if it can be encoded. -/
def WiredChat.frame (floatText : ℚ → String) (w : WiredChat) (text : String) : Option Bytes :=
  (encodeMessage (w.chat.message floatText text)).toOption

/-- The number of chunks of a frame. -/
def WiredChat.chunkCount (w : WiredChat) (frame : Bytes) : ℕ :=
  (ArqEndpoint.chunks w.chat.session.mux.maxPayload.toNat frame).length

/-- Two endpoints; the messages of the near one whose `send_message` has returned, with their
frames, and those for which it has raised; and the number of chunks of the former. -/
structure Conversation where
  near : WiredChat
  far : WiredChat
  accepted : List (Bytes × ChatMessage) := []
  failed : List ChatMessage := []
  chunksSent : ℕ := 0

namespace Conversation

/-- Whether a computation has raised what the channel raises. -/
def channelRaised {α : Type} : EStateM.Result WiredError WiredChat α → Bool
  | .error .channel _ => true
  | _ => false

/-- New endpoints over two sessions. -/
def start (k : ℤ) (near far : Session) : Conversation where
  near := { chat := { session := near, streamId := k } }
  far := { chat := { session := far, streamId := k } }

variable (zlib : Bytes → ℕ) (refuses : ChatEnd → ℕ → Bytes → Bool) (loads : JsonLoads)
  (floatText : ℚ → String)

/-- The frames of a cycle are frames that the other endpoint has transmitted. -/
def enabled (c : Conversation) : ChatEnd × ChatCall → Prop
  | (.near, .pump frames) => ∀ frame ∈ frames, frame ∈ c.far.chat.session.transmitted
  | (.far, .pump frames) => ∀ frame ∈ frames, frame ∈ c.near.chat.session.transmitted
  | _ => True

/-- One step; a message is accepted if `send_message` returns. -/
def next (c : Conversation) : ChatEnd × ChatCall → Conversation
  | (.near, .sendMessage text) =>
      match WiredChat.sendMessage zlib (refuses .near) floatText text c.near with
      | .ok _ near =>
          let frames := (c.near.frame floatText text).toList
          { c with
            near
            accepted := c.accepted ++
              frames.map fun frame => (frame, c.near.chat.message floatText text)
            chunksSent := c.chunksSent + (frames.map c.near.chunkCount).sum }
      | .error _ near =>
          { c with near, failed := c.failed ++ [c.near.chat.message floatText text] }
  | (.near, call) => { c with near := c.near.called zlib (refuses .near) loads floatText call }
  | (.far, call) => { c with far := c.far.called zlib (refuses .far) loads floatText call }

/-- The two endpoints, and a channel that loses, duplicates, delays and reorders frames. -/
def system : Transition Conversation (ChatEnd × ChatCall) :=
  ⟨enabled, next zlib refuses loads floatText⟩

/-- When a message can be encoded and the session is `ESTABLISHED`, the channel takes the packets
that are emitted for it, which fit the header; it is not sent past a queue; and fewer than `2 ^ 31`
chunks are sent.  In the peer's cycles its own channel raises nothing. -/
def Orderly (c : Conversation) : ChatEnd × ChatCall → Prop
  | (.near, .sendMessage text) => ∀ frame ∈ c.near.frame floatText text,
      c.near.chat.session.machine.state = .Established →
        let k := c.near.chat.streamId
        let now := c.near.chat.now
        WiredSession.Takes zlib (refuses .near) c.near.sendCalls
            (WiredSession.emitted c.near.chat.session k frame now) ∧
          c.near.chat.session.InTurn k (.sendOn k frame now) ∧
          c.chunksSent + c.near.chunkCount frame < 2 ^ 31
  | (.far, .pump frames) =>
      channelRaised (WiredChat.pump zlib (refuses .far) loads frames c.far) = false
  | _ => True

instance (c : Conversation) : (act : ChatEnd × ChatCall) → Decidable (c.enabled act)
  | (.near, .pump frames) =>
      inferInstanceAs (Decidable (∀ frame ∈ frames, frame ∈ c.far.chat.session.transmitted))
  | (.far, .pump frames) =>
      inferInstanceAs (Decidable (∀ frame ∈ frames, frame ∈ c.near.chat.session.transmitted))
  | (.near, .connect) | (.near, .close) | (.near, .sendMessage _) | (.near, .clock _)
  | (.far, .connect) | (.far, .close) | (.far, .sendMessage _) | (.far, .clock _) => isTrue trivial

instance (c : Conversation) (act : ChatEnd × ChatCall) :
    Decidable ((system zlib refuses loads floatText).enabled c act) :=
  inferInstanceAs (Decidable (c.enabled act))

instance (c : Conversation) :
    (act : ChatEnd × ChatCall) → Decidable (c.Orderly zlib refuses loads floatText act)
  | (.near, .sendMessage text) => inferInstanceAs (Decidable (∀ frame ∈ c.near.frame floatText text, _))
  | (.far, .pump _) => inferInstanceAs (Decidable (_ = false))
  | (.near, .connect) | (.near, .close) | (.near, .pump _) | (.near, .clock _)
  | (.far, .connect) | (.far, .close) | (.far, .sendMessage _) | (.far, .clock _) => isTrue trivial

/-- The two sessions, the near one in the initiator's place, and what was taken off the far one. -/
def wire (c : Conversation) (taken : List Bytes) : Reconnection where
  initiator := c.near.chat.session
  responder := c.far.chat.session
  sent := c.accepted.map Prod.fst
  chunksSent := c.chunksSent
  taken

end Conversation

open Conversation

/-! ## Lost frames

Frames that were never written are frames that did not arrive.
-/

variable {zlib : Bytes → ℕ} {refuses : ChatEnd → ℕ → Bytes → Bool} {loads : JsonLoads}
  {floatText : ℚ → String} {k : ℤ} {old : List Bytes} {r : Reconnection} {net : ArqNetwork}
  {t : Transfer}

lemma Mirrored.loses {s : Session} {ep : ArqEndpoint} {emitted : List Packet}
    (h : Mirrored zlib k s ep emitted) {transmitted : List Bytes} (hsub : transmitted ⊆ s.transmitted) :
    Mirrored zlib k { s with transmitted } ep emitted :=
  ⟨h.projects, h.configured, h.control, fun frame hframe => h.transmitted frame (hsub hframe)⟩

/-- A frame that the initiator could not write is as good as lost. -/
lemma losingA : WiredSession.Losing fun s =>
    ∃ net t, Conveys zlib k old { r with initiator := s } net t := by
  rintro s transmitted hsub ⟨net, t, h⟩
  exact ⟨net, t, { h with initiator := h.initiator.loses hsub }⟩

/-- What it receives is not looked at. -/
lemma unbufferedA : WiredSession.Unbuffered fun s =>
    ∃ net t, Conveys zlib k old { r with initiator := s } net t := by
  rintro s recvBuffers ⟨net, t, h⟩
  exact ⟨net, t, { h with initiator := h.initiator.congr rfl rfl rfl }⟩

lemma losingB : WiredSession.Losing fun s =>
    ∃ net t, Conveys zlib k old { r with responder := s } net t := by
  rintro s transmitted hsub ⟨net, t, h⟩
  exact ⟨net, t, { h with responder := h.responder.loses hsub }⟩

/-! ## The invariant

The accepted messages, their frames as what was sent on the stream, and the far endpoint as a reader
of it.
-/

/-- `json.loads` reads the bodies of the messages back. -/
def Readable (loads : JsonLoads) (accepted : List (Bytes × ChatMessage)) : Prop :=
  ∀ p ∈ accepted, loads (jsonDumps p.2.fields) = .ok (.mapping p.2.fields)

/-- The stream carries the frames of the accepted messages, which are numbered, and the far endpoint
has read what it has taken off it. -/
structure Talks (zlib : Bytes → ℕ) (loads : JsonLoads) (k : ℤ) (c : Conversation) (taken : List Bytes)
    (net : ArqNetwork) (t : Transfer) : Prop where
  conveys : Conveys zlib k [] (c.wire taken) net t
  nearStream : c.near.chat.streamId = k
  farStream : c.far.chat.streamId = k
  encoded : ∀ p ∈ c.accepted, encodeMessage p.2 = .ok p.1
  ids : c.accepted.map (fun p => p.2.msgId) = (List.range c.accepted.length).map fun i => .int (i + 1)
  nextMsgId : c.near.chat.nextMsgId = c.accepted.length + 1
  reads : Readable loads c.accepted → (chatFraming loads).Follows taken.flatten c.far.chat.reader

namespace Talks

variable {c : Conversation} {taken : List Bytes} {call : ChatCall}

/-- The near endpoint has worked, and sent no message. -/
lemma near_session (h : Talks zlib loads k c taken net t) (near : WiredChat)
    (hconveys : ∃ net t, Conveys zlib k []
      { c.wire taken with initiator := near.chat.session } net t)
    (hstream : near.chat.streamId = c.near.chat.streamId)
    (hid : near.chat.nextMsgId = c.near.chat.nextMsgId) (failed : List ChatMessage) :
    ∃ taken net t, Talks zlib loads k { c with near, failed } taken net t := by
  obtain ⟨net', t', hconveys⟩ := hconveys
  exact ⟨taken, net', t', hconveys, hstream.trans h.nearStream, h.farStream, h.encoded, h.ids,
    hid.trans h.nextMsgId, h.reads⟩

/-- The far endpoint has worked, and taken nothing off the stream. -/
lemma far_session (h : Talks zlib loads k c taken net t) (far : WiredChat)
    (hconveys : ∃ net t, Conveys zlib k []
      { c.wire taken with responder := far.chat.session } net t)
    (hstream : far.chat.streamId = c.far.chat.streamId)
    (hreader : far.chat.reader = c.far.chat.reader) :
    ∃ taken net t, Talks zlib loads k { c with far } taken net t := by
  obtain ⟨net', t', hconveys⟩ := hconveys
  exact ⟨taken, net', t', hconveys, h.nearStream, hstream.trans h.farStream, h.encoded, h.ids,
    h.nextMsgId, fun hloads => hreader ▸ h.reads hloads⟩

/-! ## The near endpoint

It works, or it sends.
-/

/-- What the near endpoint does, but for sending messages. -/
lemma near_called (h : Talks zlib loads k c taken net t) (hk : k ≠ 0)
    (hsend : ∀ text, call ≠ .sendMessage text) (he : c.enabled (.near, call)) :
    ∃ taken net t, Talks zlib loads k
      { c with near := c.near.called zlib (refuses .near) loads floatText call } taken net t := by
  have hsteady : Session.Steady zlib (Conveys.Heard zlib c.far.chat.session) fun s =>
      ∃ net t, Conveys zlib k [] { c.wire taken with initiator := s } net t :=
    Conveys.steadyA (c := c.wire taken) hk
  have hstart : ∃ net t, Conveys zlib k []
      { c.wire taken with initiator := c.near.wired.session } net t := ⟨net, t, h.conveys⟩
  cases call with
  | connect =>
      rw [WiredChat.called, WiredChat.after_connect]
      refine h.near_session _ ?_ ?_ ?_ c.failed
      · exact WiredSession.preserves_connect hsteady losingA _ _ hstart
      · rfl
      · rfl
  | close =>
      rw [WiredChat.called, WiredChat.after_close]
      refine h.near_session _ ?_ ?_ ?_ c.failed
      · exact WiredSession.preserves_close hsteady losingA _ _ hstart
      · rfl
      · rfl
  | sendMessage text => exact absurd rfl (hsend text)
  | clock now => exact h.near_session { c.near with chat := { c.near.chat with now } } hstart rfl rfl c.failed
  | pump frames =>
      rw [WiredChat.called]
      obtain ⟨recvBuffers, reassembler, received, hpump⟩ :=
        WiredChat.after_pump zlib (refuses .near) loads frames c.near
      have hheard : ∀ f ∈ frames.map fun frame => (frame, c.near.chat.now), ∀ pkt,
          Packet.unpack zlib f.1 = .ok pkt → Conveys.Heard zlib c.far.chat.session pkt := by
        intro f hf pkt hunpack
        obtain ⟨frame, hframe, rfl⟩ := List.mem_map.mp hf
        exact ⟨frame, he frame hframe, hunpack⟩
      refine h.near_session _ ?_ ?_ ?_ c.failed
      · rw [hpump]
        exact unbufferedA _ recvBuffers
          (WiredSession.preserves_pump hsteady losingA unbufferedA none hheard _ _ _ hstart)
      · rw [hpump]
      · rw [hpump]

/-- **The near endpoint sends a message**, which is accepted, or has no effect. -/
theorem near_sendMessage (h : Talks zlib loads k c taken net t) (hk : k ≠ 0) {text : String}
    (hok : c.Orderly zlib refuses loads floatText (.near, .sendMessage text)) :
    ∃ taken net t, Talks zlib loads k
      (c.next zlib refuses loads floatText (.near, .sendMessage text)) taken net t := by
  have hsame : ∀ failed, ∃ taken net t, Talks zlib loads k { c with failed } taken net t :=
    fun failed => h.near_session c.near ⟨net, t, h.conveys⟩ rfl rfl failed
  rw [Conversation.next]
  cases hencode : encodeMessage (c.near.chat.message floatText text) with
  | error error =>
      rw [WiredChat.sendMessage_unencoded hencode]
      exact hsame _
  | ok frame =>
      have hframe : c.near.frame floatText text = some frame := by
        rw [WiredChat.frame, hencode]
        rfl
      rw [WiredChat.sendMessage_encoded hencode, hframe]
      by_cases hstate : c.near.chat.session.machine.state = .Established
      · obtain ⟨htakes, hturn, hbound⟩ := hok frame hframe hstate
        have husable : c.near.chat.session.mux.Usable :=
          ⟨h.conveys.initiator.projects.windowSize_pos, h.conveys.initiator.projects.maxPayload_pos⟩
        obtain ⟨w, hsend⟩ := WiredSession.sendOn_ok (w := c.near.wired) hstate husable htakes
        rw [hsend]
        have hsent : Session.sendOn zlib c.near.chat.streamId frame c.near.chat.now
            c.near.chat.session = .ok () w.session :=
          (WiredSession.tracks_sendOn _ _ _).1 _ _ _ hsend
        have hsends : c.near.chat.session.sends k (.sendOn k frame c.near.chat.now) = [frame] := by
          rw [Session.sends, if_pos ⟨hstate, rfl⟩]
        have hcount : c.near.chat.session.chunkCount k (.sendOn k frame c.near.chat.now)
            = c.near.chunkCount frame := by
          rw [Session.chunkCount, hsends]
          exact List.sum_singleton
        rw [h.nearStream] at hturn hsent
        obtain ⟨net', t', hconveys⟩ : ∃ net t, Conveys zlib k []
            ((c.wire taken).next zlib k (.Initiator, .sendOn k frame c.near.chat.now)) net t :=
          h.conveys.sendOn hk ⟨hturn, by rw [← hcount] at hbound; exact hbound⟩
        have hwire : (c.wire taken).next zlib k (.Initiator, .sendOn k frame c.near.chat.now)
            = { c.wire taken with
                initiator := w.session
                sent := c.accepted.map Prod.fst ++ [frame]
                chunksSent := c.chunksSent + c.near.chunkCount frame } := by
          rw [Reconnection.next, ← hcount, ← hsends]
          congr 1
          exact after_ok hsent
        rw [hwire] at hconveys
        refine ⟨taken, net', t', ?_, h.nearStream, h.farStream, ?_, ?_, ?_, ?_⟩
        · show Conveys zlib k [] { c.wire taken with
              initiator := w.session
              sent := (c.accepted ++ [(frame, c.near.chat.message floatText text)]).map Prod.fst
              chunksSent := c.chunksSent + c.near.chunkCount frame } net' t'
          rw [List.map_append]
          exact hconveys
        · intro p hp
          rcases List.mem_append.mp hp with hold | hnew
          · exact h.encoded p hold
          · obtain rfl := List.mem_singleton.mp hnew
            exact hencode
        · show (c.accepted ++ [(frame, c.near.chat.message floatText text)]).map
              (fun p => p.2.msgId)
            = (List.range (c.accepted ++ [(frame, c.near.chat.message floatText text)]).length).map _
          rw [List.map_append, h.ids, List.length_append, List.length_singleton, List.range_succ,
            List.map_append, List.map_singleton, List.map_singleton, ChatSession.message, h.nextMsgId]
          rfl
        · show c.near.chat.nextMsgId + 1
            = (c.accepted ++ [(frame, c.near.chat.message floatText text)]).length + 1
          rw [h.nextMsgId, List.length_append, List.length_singleton]
        · intro hloads
          exact h.reads fun p hp => hloads p (List.mem_append_left _ hp)
      · rw [WiredSession.sendOn_error hstate]
        exact hsame _

/-! ## The far endpoint

What it takes is a prefix of encoded frames, so reading it does not raise.
-/

/-- What has been taken off the stream is the beginning of the accepted frames. -/
lemma taken_prefix {taken : List Bytes} (h : Conveys zlib k [] (c.wire taken) net t) :
    taken.flatten <+: (c.accepted.map Prod.fst).flatten := by
  have hdelivered : taken ++ c.far.chat.session.buffered k = net.delivered := h.delivered
  have hsent : net.sent = c.accepted.map Prod.fst := h.sent
  have hprefix := h.carrying.delivered_prefix_sent h.inOrder
  rw [← hdelivered, hsent, List.flatten_append] at hprefix
  exact (List.prefix_append _ _).trans hprefix

/-- The beginning of the accepted frames is read without an error. -/
lemma scan_taken {taken : List Bytes} (hconveys : Conveys zlib k [] (c.wire taken) net t)
    (hencoded : ∀ p ∈ c.accepted, encodeMessage p.2 = .ok p.1) (hloads : Readable loads c.accepted) :
    ∃ n, ((chatFraming loads).scan taken.flatten).frames = (c.accepted.take n).map Prod.snd ∧
      ((chatFraming loads).scan taken.flatten).error = none := by
  obtain ⟨more, hmore⟩ := taken_prefix hconveys
  obtain ⟨n, rest, hscan, -⟩ := Framing.scan_encoded more
    (fun p hp => spells_of_encodeMessage (hencoded p hp) (hloads p hp)) hmore
  exact ⟨n, by rw [hscan], by rw [hscan]⟩

/-- What the far endpoint does, but for its cycles. -/
lemma far_called (h : Talks zlib loads k c taken net t) (hk : k ≠ 0)
    (hpump : ∀ frames, call ≠ .pump frames) :
    ∃ taken net t, Talks zlib loads k
      { c with far := c.far.called zlib (refuses .far) loads floatText call } taken net t := by
  have hsteady : Session.Steady zlib (Conveys.Heard zlib c.near.chat.session) fun s =>
      ∃ net t, Conveys zlib k [] { c.wire taken with responder := s } net t :=
    Conveys.steadyB (c := c.wire taken) hk
  have hstart : ∃ net t, Conveys zlib k []
      { c.wire taken with responder := c.far.wired.session } net t := ⟨net, t, h.conveys⟩
  cases call with
  | connect =>
      rw [WiredChat.called, WiredChat.after_connect]
      refine h.far_session _ ?_ ?_ ?_
      · exact WiredSession.preserves_connect hsteady losingB _ _ hstart
      · rfl
      · rfl
  | close =>
      rw [WiredChat.called, WiredChat.after_close]
      refine h.far_session _ ?_ ?_ ?_
      · exact WiredSession.preserves_close hsteady losingB _ _ hstart
      · rfl
      · rfl
  | clock now => exact h.far_session { c.far with chat := { c.far.chat with now } } hstart rfl rfl
  | pump frames => exact absurd rfl (hpump frames)
  | sendMessage text =>
      rw [WiredChat.called]
      rcases WiredChat.after_sendMessage zlib (refuses .far) floatText text c.far with
        hchat | ⟨frame, nextMsgId, hchat⟩
      · refine h.far_session _ ?_ ?_ ?_ <;> rw [hchat]
        exact hstart
      · refine h.far_session _ ?_ ?_ ?_
        · rw [hchat]
          rcases WiredSession.session_sendOn c.far.chat.streamId frame c.far.chat.now c.far.wired with
            hsame | ⟨transmitted, hsub, hlost⟩
          · rw [hsame]
            exact hstart
          · rw [hlost]
            refine losingB _ transmitted hsub ?_
            obtain ⟨net₁, t₁, h₁⟩ :=
              h.conveys.worksB hk (.setSessionId c.far.chat.session.machine.sessionId) (by simp)
            exact h₁.worksB hk (.send c.far.chat.streamId frame c.far.chat.now) (by simp)
        · rw [hchat]
        · rw [ChatSession.reader, hchat]
          rfl

/-- **A cycle of the far endpoint**: it reads what has been delivered. -/
theorem far_pump (h : Talks zlib loads k c taken net t) (hk : k ≠ 0) {frames : List Bytes}
    (he : c.enabled (.far, .pump frames))
    (hok : c.Orderly zlib refuses loads floatText (.far, .pump frames)) :
    ∃ taken net t, Talks zlib loads k
      { c with far := c.far.called zlib (refuses .far) loads floatText (.pump frames) } taken net t := by
  have hown : ∀ e w, WiredChat.pump zlib (refuses .far) loads frames c.far = .error e w →
      ∃ e', e = .session e' := by
    intro e w hraise
    cases e with
    | session e' => exact ⟨e', rfl⟩
    | channel =>
        rw [Conversation.Orderly, hraise] at hok
        cases hok
  have hchat := (WiredChat.tracks_pump frames).after hown
  have hsteady : Session.Steady zlib (Conveys.Heard zlib c.near.chat.session) fun s =>
      ∃ net t, Conveys zlib k [] { c.wire taken with responder := s } net t :=
    Conveys.steadyB (c := c.wire taken) hk
  have hheard : ∀ f ∈ frames.map fun frame => (frame, c.far.chat.now), ∀ pkt,
      Packet.unpack zlib f.1 = .ok pkt → Conveys.Heard zlib c.near.chat.session pkt := by
    intro f hf pkt hunpack
    obtain ⟨frame, hframe, rfl⟩ := List.mem_map.mp hf
    exact ⟨frame, he frame hframe, hunpack⟩
  have hleft := hsteady.pump none hheard c.far.chat.now c.far.chat.now c.far.chat.session
    ⟨net, t, h.conveys⟩
  obtain ⟨reassembler, received, hafter⟩ :=
    WiredChat.after_pump_chat zlib loads frames c.far.chat
  have hreader : (after (ChatSession.pump zlib loads frames) c.far.chat).reader = _ :=
    ChatSession.reader_pump frames
  rw [WiredChat.called]
  obtain ⟨net', t', hconveys⟩ : ∃ net t, Conveys zlib k []
      ({ c with far := after (WiredChat.pump zlib (refuses .far) loads frames) c.far }.wire
        (taken ++ ChatSession.drained zlib c.far.chat (.pump frames))) net t := by
    show ∃ net t, Conveys zlib k [] { c.wire taken with
      responder := (after (WiredChat.pump zlib (refuses .far) loads frames) c.far).chat.session
      taken := taken ++ ChatSession.drained zlib c.far.chat (.pump frames) } net t
    rw [hchat, hafter, ChatSession.drained]
    cases hpump : Session.pump zlib none (frames.map fun frame => (frame, c.far.chat.now))
        c.far.chat.now c.far.chat.now c.far.chat.session with
    | error e s =>
        rw [after_error hpump] at hleft
        rw [List.append_nil]
        exact hleft
    | ok events s =>
        rw [after_ok hpump] at hleft
        obtain ⟨net', t', h'⟩ := hleft
        refine h'.takes ?_
        rw [h.farStream, Dict.get?_erase_self, Option.getD_none, List.append_nil]
        rfl
  refine ⟨_, net', t', hconveys, h.nearStream, ?_, h.encoded, h.ids, h.nextMsgId, fun hloads => ?_⟩
  · show (after (WiredChat.pump zlib (refuses .far) loads frames) c.far).chat.streamId = k
    rw [hchat, hafter]
    exact h.farStream
  · show (chatFraming loads).Follows _
      (after (WiredChat.pump zlib (refuses .far) loads frames) c.far).chat.reader
    obtain ⟨n, -, hnone⟩ := scan_taken hconveys h.encoded hloads
    rw [hchat, hreader, List.flatten_append]
    rw [List.flatten_append] at hnone
    exact (h.reads hloads).commit hnone

/-! ## Runs

From two new endpoints, along a run that meets the condition.
-/

/-- **Every step keeps the invariant.** -/
theorem next (h : Talks zlib loads k c taken net t) (hk : k ≠ 0) {act : ChatEnd × ChatCall}
    (he : c.enabled act) (hok : c.Orderly zlib refuses loads floatText act) :
    ∃ taken net t, Talks zlib loads k (c.next zlib refuses loads floatText act) taken net t := by
  obtain ⟨side, call⟩ := act
  cases side with
  | near =>
      cases call with
      | sendMessage text => exact h.near_sendMessage hk hok
      | _ => exact h.near_called hk (by simp) he
  | far =>
      cases call with
      | pump frames => exact h.far_pump hk he hok
      | _ => exact h.far_called hk (by simp)

/-- Two new endpoints. -/
theorem start {near far : Session} {isInitiator isInitiator' : Bool} (hnear : near.New isInitiator)
    (hfar : far.New isInitiator') (hwindow : far.mux.windowSize < 65536) :
    ∃ taken net t, Talks zlib loads k (Conversation.start k near far) taken net t := by
  obtain ⟨ep, -, hmirrored⟩ : ∃ ep, far.mux.newEndpoint k = .ok ep ∧ Mirrored zlib k far ep [] :=
    Mirrored.new hfar
  obtain ⟨-, _, _, _, _, _, _, _, _, _, rfl⟩ := hfar
  obtain ⟨net, t, hconveys⟩ := Conveys.start hnear ⟨ep, [], hmirrored⟩ hwindow fun _ h => by cases h
  exact ⟨[], net, t, hconveys, rfl, rfl, by simp [Conversation.start], rfl, rfl,
    fun _ => Framing.follows_new⟩

end Talks

/-- **The messages that the peer receives are those whose `send_message` has returned**, in their
order and without a gap: the first of them, numbered from `1`.  An id is used up by such a message
only. -/
theorem received_in_order {near far : Session} {isInitiator isInitiator' : Bool}
    (hnear : near.New isInitiator) (hfar : far.New isInitiator') (hwindow : far.mux.windowSize < 65536)
    (hk : k ≠ 0) {c : Conversation}
    (h : (system zlib refuses loads floatText).Reach (Orderly zlib refuses loads floatText)
      (Conversation.start k near far) c) (hloads : Readable loads c.accepted) :
    c.far.chat.received <+: c.accepted.map Prod.snd ∧
      c.far.chat.received.map ChatMessage.msgId
        = (List.range c.far.chat.received.length).map (fun i => .int (i + 1)) ∧
      c.near.chat.nextMsgId = c.accepted.length + 1 := by
  obtain ⟨taken, net, t, htalks⟩ : ∃ taken net t, Talks zlib loads k c taken net t :=
    h.invariant (I := fun c => ∃ taken net t, Talks zlib loads k c taken net t)
      (Talks.start hnear hfar hwindow)
      fun _ _ ⟨_, _, _, htalks⟩ he hok => htalks.next hk he hok
  obtain ⟨n, hframes, -⟩ := Talks.scan_taken htalks.conveys htalks.encoded hloads
  have hreceived : c.far.chat.received = (c.accepted.take n).map Prod.snd :=
    (htalks.reads hloads).kept.trans hframes
  refine ⟨?_, ?_, htalks.nextMsgId⟩
  · rw [hreceived]
    exact (List.take_prefix n c.accepted).map _
  · rw [hreceived, List.map_map, List.length_map, List.length_take, List.map_take,
      show c.accepted.map (ChatMessage.msgId ∘ Prod.snd) = _ from htalks.ids, ← List.map_take,
      List.take_range]

/-! ## A message that is refused and received

The same two messages in two runs.  In the second one the channel raises once, at the call that
writes the first message.
-/

namespace Conversation

/-- The initiator's. -/
def nearSession : Session := Session.create true 7 1000
/-- The responder's. -/
def farSession : Session := Session.create false 0 5000

/-- Two messages, of which the second is sent two seconds later. -/
def first (id : ℕ) : ChatMessage := ⟨.int id, .float "0.0", .str "a"⟩
/-- The second one. -/
def second (id : ℕ) : ChatMessage := ⟨.int id, .float "2.0", .str "b"⟩

/-- The texts of the two times, and a decoder that knows the bodies of the messages. -/
def timeText (time : ℚ) : String := if time = 0 then "0.0" else "2.0"
/-- It reads the bodies of these messages, and no others. -/
def knownLoads (body : Bytes) : Except String JsonDocument :=
  match [first 1, second 1, second 2].find? fun m => jsonDumps m.fields = body with
  | some m => .ok (.mapping m.fields)
  | none => .error "Expecting value: line 1 column 1 (char 0)"

/-- The frame of a message. -/
def encoding (m : ChatMessage) : Bytes := (encodeMessage m).toOption.getD []

/-- The handshake. -/
def handshakeCalls : List (ChatEnd × ChatCall) :=
  [(.near, .connect), (.far, .pump [Reconnection.frame .Syn 7 0 1000 0 0 Flags.syn []]),
    (.near, .pump [Reconnection.frame .SynAck 7 0 5000 1001 0 (Flags.syn ||| Flags.ack) []]),
    (.far, .pump [Reconnection.frame .Ack 7 0 1001 5001 0 Flags.ack []])]

/-- The near endpoint sends two messages, with a cycle between them. -/
def sendCalls : List (ChatEnd × ChatCall) :=
  [(.near, .sendMessage "a"), (.near, .clock 2), (.near, .pump []), (.near, .sendMessage "b")]

/-- The far endpoint gets the packets of two messages. -/
def readCalls (messages : List ChatMessage) : List (ChatEnd × ChatCall) :=
  messages.zipIdx.map fun m =>
    (.far, .pump [Reconnection.frame .Data 7 1 m.2 0 32 Flags.none (encoding m.1)])

/-- A channel that raises when the near endpoint calls `send_frame` for the third time, to write the
first message. -/
def raisesOnce : ChatEnd → ℕ → Bytes → Bool
  | .near, n, _ => n = 2
  | .far, _, _ => false

lemma knownLoads_known {m : ChatMessage} (h : m = first 1 ∨ m = second 2) :
    knownLoads (jsonDumps m.fields) = .ok (.mapping m.fields) := by
  have hfind : [first 1, second 1, second 2].find?
      (fun known => jsonDumps known.fields = jsonDumps m.fields) = some m := by
    rcases h with rfl | rfl <;> decide +kernel
  rw [knownLoads, hfind]

/-- It is new. -/
lemma new_nearSession : nearSession.New true :=
  ⟨⟨by decide, by decide⟩, 7, 1000, _, _, _, _, _, _, _, rfl⟩

/-- It is new. -/
lemma new_farSession : farSession.New false :=
  ⟨⟨by decide, by decide⟩, 0, 5000, _, _, _, _, _, _, _, rfl⟩

end Conversation

/-- Both messages are accepted and received. -/
theorem received_in_order_bothMessages : ∃ c : Conversation,
    c.accepted.map Prod.snd = [first 1, second 2] ∧ c.far.chat.received = [first 1, second 2] ∧
    (c.far.chat.received <+: c.accepted.map Prod.snd ∧
      c.far.chat.received.map ChatMessage.msgId
        = (List.range c.far.chat.received.length).map (fun i => .int (i + 1)) ∧
      c.near.chat.nextMsgId = c.accepted.length + 1) := by
  obtain ⟨c, hreach, haccepted, hreceived⟩ :=
    (system zlibCrc32 (fun _ _ _ => false) knownLoads timeText).exists_reach_of_exec
      (Orderly zlibCrc32 (fun _ _ _ => false) knownLoads timeText)
      (handshakeCalls ++ sendCalls ++ readCalls [first 1, second 2])
      (Conversation.start 1 nearSession farSession)
      (fun c => c.accepted.map Prod.snd = [first 1, second 2] ∧
        c.far.chat.received = [first 1, second 2]) (by decide +kernel)
  have hloads : Readable knownLoads c.accepted := by
    intro p hp
    have hmem : p.2 ∈ [first 1, second 2] := haccepted ▸ List.mem_map_of_mem hp
    exact knownLoads_known (by simpa using hmem)
  exact ⟨c, haccepted, hreceived, received_in_order new_nearSession new_farSession (by decide)
    (by decide) hreach hloads⟩

/-- **A message that was refused is received**, and the next one has its id. -/
theorem refused_and_received : nearSession.New true ∧ farSession.New false ∧
    ∃ c : Conversation, (system zlibCrc32 raisesOnce knownLoads timeText).Reach Transition.free
        (Conversation.start 1 nearSession farSession) c ∧
      c.failed = [first 1] ∧ c.accepted.map Prod.snd = [second 1] ∧
      c.far.chat.received = [first 1, second 1] := by
  refine ⟨new_nearSession, new_farSession, ?_⟩
  exact (system zlibCrc32 raisesOnce knownLoads timeText).exists_reach_of_exec Transition.free
    (handshakeCalls ++ sendCalls ++ readCalls [first 1, second 1])
    (Conversation.start 1 nearSession farSession)
    (fun c => c.failed = [first 1] ∧ c.accepted.map Prod.snd = [second 1] ∧
      c.far.chat.received = [first 1, second 1]) (by decide +kernel)

end PhotonTCP
