import PhotonTCP.App.Transfer
import PhotonTCP.Foundation.Mealy
import PhotonTCP.Packet.Corruption
import PhotonTCP.Session.Refusing
import PhotonTCP.Session.Sound

/-!
# A file sender and its session

`FileSender` with the session that it sends on and pumps.  A frame that cannot be encoded, that the
session does not take or that its channel refuses makes the operation raise, and what was done
before is not undone: a sender that has been told to go ahead is `SENDING` until it has queued the
last frame.  The session is one whose `send_frame` may raise, at any call; which of the calls raise
is a parameter.

* `SessionSender` — the sender; `start`, `handleFrame`, `pump`.
* `Ready` — everything the file needs can be queued: the session is `ESTABLISHED`, the chunks fit
  the limit of a frame, the multiplexer takes them, and the channel takes what it emits for them.
* **`settled_iff`** — no operation leaves a sender half done exactly if, whenever a cycle hears that
  the offer is accepted, the sender is ready after the session's own cycle.
* **`stuck`** — a sender that is half done stays so.
* **`pump_refines`** — a cycle that raises nothing is one of the sender without a session.

Accepting an offer is one operation of the receiver and many of the sender: the state is set to
`SENDING` first, and then every chunk is handed to `send_on`.  If one of these calls raises, the
exception passes through `pump`, the state stays, and the chunks before it have been sent.  A second
ACCEPT is ignored then, because the sender is not `OFFERED`, and `start` is refused because it is
not `IDLE`; nothing that is done to the sender will finish the transfer.

Three things can go wrong in these calls.  The session may have left `ESTABLISHED` in the very cycle
that brought the ACCEPT, when the peer's FIN came with it.  The multiplexer may refuse a chunk, or
write a packet that does not fit its header.  And the channel may refuse a frame, as an image
channel does with a frame that no symbol can hold.  The condition names all of them, in the state
after the session's own cycle and before the frames are handled.
-/

namespace PhotonTCP

open Raising

/-- The stream of a file transfer. -/
def FILE_STREAM_ID : ℤ := 2

/-- What a sender's own code raises. -/
def SessionError.ofFile : FileError → SessionError
  | .ValueError text => .ValueError text
  | .RuntimeError text => .RuntimeError text

/-- A file sender, with its session, how often the session has called `send_frame`, and the time
that its clock shows. -/
structure SessionSender where
  session : Session
  sendCalls : ℕ := 0
  now : ℚ := 0
  streamId : ℤ := FILE_STREAM_ID
  sender : FileSender

/-- Computations on a sender with its session. -/
abbrev SenderM := EStateM WiredError SessionSender

namespace SessionSender

/-- The session of the sender. -/
def wired (d : SessionSender) : WiredSession := { session := d.session, sendCalls := d.sendCalls }

/-- Its session has worked. -/
def withWired (d : SessionSender) (w : WiredSession) : SessionSender :=
  { d with session := w.session, sendCalls := w.sendCalls }

section Wire

variable (zlib : Bytes → ℕ) (refuses : ℕ → Bytes → Bool) (sha256Hex : Bytes → String)

/-- Let the session work. -/
def onSession {α : Type} (x : WiredM α) : SenderM α := zoom wired withWired id x

/-- What needs no session. -/
def onSender {α : Type} (x : FileM OutgoingFile α) : SenderM α :=
  zoom sender (fun d sender => { d with sender }) (fun e => .session (.ofFile e)) x

/-- Hand a frame to the session, and keep a record of it. -/
def sendOn (frame : Except ValueError Bytes) : SenderM Unit := do
  match frame with
  | .error text => throw (.session (.ValueError text))
  | .ok bytes =>
      let d ← get
      onSession (WiredSession.sendOn zlib refuses d.streamId bytes d.now)
      onSender (FileEnd.sendOn (.ok bytes))

/-- Queue the OFFER. -/
def start : SenderM Unit := do
  let d ← get
  if d.sender.state = .Idle then
    sendOn zlib refuses (encodeControl .Offer (d.sender.role.offer sha256Hex))
    onSender (FileEnd.setState .Offered)
  else throw (.session (.ofFile (.alreadyStarted d.sender.state)))

/-- Queue every CHUNK, then the DONE. -/
def sendAllChunksAndDone : SenderM Unit := do
  let d ← get
  (FileSender.slices d.sender.role.chunkSize_pos d.sender.role.data).forM fun piece =>
    sendOn zlib refuses (encodeFrame .Chunk piece)
  sendOn zlib refuses (encodeControl .Done Dict.empty)
  onSender (FileEnd.setState .DoneSent)

/-- Apply one frame; only an ACCEPT needs the session. -/
def handleFrame (frame : FileFrame) : SenderM Unit := do
  let d ← get
  match frame.type with
  | .Accept =>
      if d.sender.state = .Offered then
        onSender (FileEnd.setState .Sending)
        sendAllChunksAndDone zlib refuses
  | .Reject | .Ack | .Nack | .Offer | .Chunk | .Done => onSender (FileSender.handleFrame frame)

/-- Read the chunks that the session has delivered. -/
def readChunks (chunks : List Bytes) : SenderM Unit :=
  chunks.forM fun chunk => do
    let frames ← onSender (FileEnd.feed chunk)
    frames.forM (handleFrame zlib refuses)

/-- One cycle, with the frames that arrive in it. -/
def pump (frames : List Bytes) : SenderM FileTransferState := do
  let d ← get
  let _ ← onSession (WiredSession.pump zlib refuses none (frames.map fun frame => (frame, d.now))
    d.now d.now)
  let chunks ← onSession (WiredSession.onSession (Session.recvOn d.streamId))
  readChunks zlib refuses chunks
  return (← get).sender.state

end Wire

end SessionSender

/-- What is done to a sender, or happens around it. -/
inductive SenderInput where
  | start
  | pump (frames : List Bytes)
  /-- The clock moves. -/
  | clock (now : ℚ)
  /-- The owner of the session uses it. -/
  | owner (session : WiredSession)

namespace SessionSender

variable (zlib : Bytes → ℕ) (refuses : ℕ → Bytes → Bool) (sha256Hex : Bytes → String)

/-- The sender after an input, also if it has raised. -/
def next (d : SessionSender) : SenderInput → SessionSender
  | .start => after (start zlib refuses sha256Hex) d
  | .pump frames => after (pump zlib refuses frames) d
  | .clock now => { d with now }
  | .owner session => d.withWired session

end SessionSender

/-! ## What a sender needs

Each part is stated with the functions of the layer that decides it: the encoder, the multiplexer
and the channel.  None of them looks at what the sender does with the answer.
-/

/-- The frames of a file: its chunks, and DONE. -/
def OutgoingFile.frames (file : OutgoingFile) : List FileFrame :=
  (FileSender.slices file.chunkSize_pos file.data).map chunkFrame ++ [doneFrame]

/-- The multiplexer takes the pieces of data, one after the other, for a session with this id; what
it emits for them fits the header, and the channel takes it, from the `n`-th call of `send_frame`
on. -/
def StreamMux.TakesAll (zlib : Bytes → ℕ) (refuses : ℕ → Bytes → Bool) (sessionId streamId : ℤ)
    (now : ℚ) : StreamMux → ℕ → List Bytes → Prop
  | _, _, [] => True
  | mux, n, data :: pieces =>
      ∃ out, ((mux.setSessionId sessionId).send streamId data now).1 = .ok out ∧
        WiredSession.Takes zlib refuses n out.packets ∧
        TakesAll zlib refuses sessionId streamId now
          ((mux.setSessionId sessionId).send streamId data now).2 (n + out.packets.length) pieces

/-- Nothing is half done: a sender whose DONE is sent has sent the frames of its file before it. -/
def FileSender.Settled (s : FileSender) : Prop :=
  match s.state with
  | .Idle | .Offered | .Complete | .Failed => True
  | .DoneSent => ∃ encs, encodeFrames s.role.frames = .ok encs ∧ encs.flatten <:+ s.written
  | .Sending | .Receiving => False

instance (s : FileSender) : Decidable s.Settled :=
  have hiff : (match s.state, encodeFrames s.role.frames with
      | .Idle, _ | .Offered, _ | .Complete, _ | .Failed, _ => true
      | .DoneSent, .ok encs => decide (encs.flatten <:+ s.written)
      | _, _ => false) = true ↔ s.Settled := by
    rw [FileSender.Settled]
    cases s.state <;> cases encodeFrames s.role.frames <;> simp
  decidable_of_iff _ hiff

namespace SessionSender

/-- Everything the file needs can be queued, and the channel takes it. -/
structure Ready (zlib : Bytes → ℕ) (refuses : ℕ → Bytes → Bool) (d : SessionSender) : Prop where
  established : d.session.machine.state = .Established
  fits : min d.sender.role.chunkSize d.sender.role.data.length < MAX_FRAME_BYTES
  takes : ∀ encs, encodeFrames d.sender.role.frames = .ok encs →
    d.session.mux.TakesAll zlib refuses d.session.machine.sessionId d.streamId d.now d.sendCalls encs

/-- The frames that a reassembler returns for the chunks, until one of them is malformed. -/
def heard (r : FileFrameReassembler) (chunks : List Bytes) : List FileFrame :=
  Framing.untilError (r.feeds chunks).1

/-- The first frame that answers an offer. -/
def answer (frames : List FileFrame) : Option FileFrame :=
  frames.find? fun f => f.type = .Accept ∨ f.type = .Reject

/-- The chunks tell a sender that waits for it that its offer is accepted. -/
def HearsAccept (d : SessionSender) (chunks : List Bytes) : Prop :=
  d.sender.state = .Offered ∧
    ∃ f, answer (heard d.sender.reassembler chunks) = some f ∧ f.type = .Accept

/-- If the cycle hears that the offer is accepted, the sender is ready after the session's own
cycle. -/
def Delivers (zlib : Bytes → ℕ) (refuses : ℕ → Bytes → Bool) (d : SessionSender) :
    SenderInput → Prop
  | .pump frames => ∀ events w,
      WiredSession.pump zlib refuses none (frames.map fun frame => (frame, d.now)) d.now d.now d.wired
        = .ok events w →
      HearsAccept d ((w.session.recvBuffers.get? d.streamId).getD []) →
        Ready zlib refuses (d.withWired w)
  | _ => True

end SessionSender

/-! ## Queueing frames

A list of frames is queued or not queued as a whole: if one of them is refused the loop raises.
-/

namespace SessionSender

variable (zlib : Bytes → ℕ) (refuses : ℕ → Bytes → Bool) {sha256Hex : Bytes → String}
  {d d' : SessionSender} {f : FileFrame} {enc : Bytes} {encs : List Bytes} {chunks : List Bytes}
  {frames : List FileFrame}

lemma onSession_ok {α : Type} {x : WiredM α} {a : α} {w : WiredSession} (h : x d.wired = .ok a w) :
    onSession x d = .ok a (d.withWired w) := zoom_ok h

lemma onSession_error {α : Type} {x : WiredM α} {e : WiredError} {w : WiredSession}
    (h : x d.wired = .error e w) : onSession x d = .error e (d.withWired w) := zoom_error h

lemma onSender_ok {α : Type} {x : FileM OutgoingFile α} {a : α} {sender : FileSender}
    (h : x d.sender = .ok a sender) : onSender x d = .ok a { d with sender } := zoom_ok h

lemma onSender_error {α : Type} {x : FileM OutgoingFile α} {e : FileError} {sender : FileSender}
    (h : x d.sender = .error e sender) :
    onSender x d = .error (.session (.ofFile e)) { d with sender } := zoom_error h

/-- The multiplexer takes one piece of data, and the channel what it emits. -/
def Takes (zlib : Bytes → ℕ) (refuses : ℕ → Bytes → Bool) (d : SessionSender) (data : Bytes) : Prop :=
  ∃ out, ((d.session.mux.setSessionId d.session.machine.sessionId).send d.streamId data d.now).1
    = .ok out ∧ WiredSession.Takes zlib refuses d.sendCalls out.packets

variable {zlib refuses} in
/-- **A frame that can be sent** is handed to the session. -/
lemma sendOn_ok {out : MuxOutput} (henc : f.encode = .ok enc)
    (hstate : d.session.machine.state = .Established)
    (hout : ((d.session.mux.setSessionId d.session.machine.sessionId).send d.streamId enc d.now).1
      = .ok out) (htakes : WiredSession.Takes zlib refuses d.sendCalls out.packets) :
    ∃ session, sendOn zlib refuses (encodeFrame f.type f.body) d = .ok () { d with
        session
        sendCalls := d.sendCalls + out.packets.length
        sender := { d.sender with written := d.sender.written ++ enc } } ∧
      session.machine = d.session.machine ∧ session.mux =
        ((d.session.mux.setSessionId d.session.machine.sessionId).send d.streamId enc d.now).2 := by
  obtain ⟨session, hsend, hmachine, hmux⟩ := WiredSession.sendOn_taken (w := d.wired) hstate hout htakes
  rw [show encodeFrame f.type f.body = .ok enc from henc]
  exact ⟨session, (bind_ok rfl).trans ((bind_ok (onSession_ok hsend)).trans rfl), hmachine, hmux⟩

/-- **A frame that cannot** raises, and nothing changes but the session. -/
lemma sendOn_error (h : ¬ (d.session.machine.state = .Established ∧
      ∃ enc, f.encode = .ok enc ∧ d.Takes zlib refuses enc)) :
    ∃ e d', sendOn zlib refuses (encodeFrame f.type f.body) d = .error e d' ∧
      d'.sender = d.sender := by
  cases henc : f.encode with
  | error text =>
      rw [show encodeFrame f.type f.body = .error text from henc]
      exact ⟨_, d, rfl, rfl⟩
  | ok enc =>
      obtain ⟨e, w, hsend⟩ : ∃ e w,
          WiredSession.sendOn zlib refuses d.streamId enc d.now d.wired = .error e w := by
        by_cases hstate : d.session.machine.state = .Established
        · exact WiredSession.sendOn_refused hstate fun htakes => h ⟨hstate, enc, henc, htakes⟩
        · exact ⟨_, _, WiredSession.sendOn_error hstate⟩
      rw [show encodeFrame f.type f.body = .ok enc from henc]
      exact ⟨e, d.withWired w, (bind_ok rfl).trans (bind_error (onSession_error hsend)), rfl⟩

/-- The frames of a list, in order. -/
def queue (zlib : Bytes → ℕ) (refuses : ℕ → Bytes → Bool) (frames : List FileFrame) : SenderM Unit :=
  frames.forM fun f => sendOn zlib refuses (encodeFrame f.type f.body)

/-- The frames can be encoded and are taken. -/
def Queues (zlib : Bytes → ℕ) (refuses : ℕ → Bytes → Bool) (d : SessionSender)
    (frames : List FileFrame) : Prop :=
  ∃ encs, encodeFrames frames = .ok encs ∧ d.session.mux.TakesAll zlib refuses
    d.session.machine.sessionId d.streamId d.now d.sendCalls encs

/-- **Queueing frames that are taken.** -/
theorem queue_ok : ∀ {frames : List FileFrame} {encs : List Bytes} {d : SessionSender},
    d.session.machine.state = .Established → encodeFrames frames = .ok encs →
    d.session.mux.TakesAll zlib refuses d.session.machine.sessionId d.streamId d.now d.sendCalls encs →
    ∃ session sendCalls, queue zlib refuses frames d = .ok () { d with
      session, sendCalls, sender := { d.sender with written := d.sender.written ++ encs.flatten } }
  | [], encs, d, _, hencs, _ => by
      obtain rfl : encs = [] := by simpa [encodeFrames_nil, eq_comm] using hencs
      exact ⟨d.session, d.sendCalls, by rw [List.flatten_nil, List.append_nil]; rfl⟩
  | f :: frames, encs, d, hstate, hencs, htakes => by
      obtain ⟨enc, encs', henc, hencs', rfl⟩ := encodeFrames_cons.mp hencs
      obtain ⟨out, hout, hfirst, hrest⟩ := htakes
      obtain ⟨session, hsend, hmachine, hmux⟩ := sendOn_ok henc hstate hout hfirst
      obtain ⟨session', sendCalls, hqueue⟩ := queue_ok (d := { d with
          session
          sendCalls := d.sendCalls + out.packets.length
          sender := { d.sender with written := d.sender.written ++ enc } })
        (by rw [hmachine]; exact hstate) hencs' (by rw [hmachine, hmux]; exact hrest)
      refine ⟨session', sendCalls, (bind_ok hsend).trans (hqueue.trans ?_)⟩
      rw [List.flatten_cons, List.append_assoc]

/-- **Queueing frames that are not** raises, and leaves the sender in its state. -/
theorem queue_error : ∀ {frames : List FileFrame} {d : SessionSender}, frames ≠ [] →
    ¬ (d.session.machine.state = .Established ∧ d.Queues zlib refuses frames) →
    ∃ e d', queue zlib refuses frames d = .error e d' ∧ d'.sender.state = d.sender.state
  | [], d, hne, _ => absurd rfl hne
  | f :: frames, d, _, h => by
      by_cases hfirst : d.session.machine.state = .Established ∧
          ∃ enc, f.encode = .ok enc ∧ d.Takes zlib refuses enc
      · obtain ⟨hstate, enc, henc, out, hout, htakes⟩ := hfirst
        obtain ⟨session, hsend, hmachine, hmux⟩ := sendOn_ok henc hstate hout htakes
        have hrest : ¬ Queues zlib refuses { d with
            session
            sendCalls := d.sendCalls + out.packets.length
            sender := { d.sender with written := d.sender.written ++ enc } } frames := by
          rintro ⟨encs, hencs, hall⟩
          rw [hmachine, hmux] at hall
          exact h ⟨hstate, enc :: encs, encodeFrames_cons.mpr ⟨enc, encs, henc, hencs, rfl⟩,
            out, hout, htakes, hall⟩
        have hne : frames ≠ [] := by
          rintro rfl
          exact hrest ⟨[], rfl, trivial⟩
        obtain ⟨e, d', hqueue, hkept⟩ := queue_error hne fun hboth => hrest hboth.2
        exact ⟨e, d', (bind_ok hsend).trans hqueue, hkept⟩
      · obtain ⟨e, d', hsend, hkept⟩ := sendOn_error zlib refuses hfirst
        exact ⟨e, d', bind_error hsend, by rw [hkept]⟩

/-! ## The frames of a file

Two loops of the source, over slices and over what the slices are sent as, are one list of frames
here.
-/

lemma encodable_iff {file : OutgoingFile} : (∃ encs, encodeFrames file.frames = .ok encs) ↔
    min file.chunkSize file.data.length < MAX_FRAME_BYTES := by
  constructor
  · rintro ⟨encs, hencs⟩
    by_contra hlarge
    rw [OutgoingFile.frames, FileSender.slices] at hencs
    split_ifs at hencs with hempty
    · rw [hempty, List.length_nil, Nat.min_zero] at hlarge
      exact hlarge (by decide)
    · obtain ⟨enc, encs', henc, -⟩ := encodeFrames_cons.mp hencs
      have hfits := (encode_eq_ok_iff.mp henc).1
      simp only [chunkFrame, List.length_take] at hfits
      omega
  · intro hsmall
    refine encodeFrames_of_fits fun f hf => ?_
    rcases List.mem_append.mp hf with hchunk | hdone
    · obtain ⟨piece, hpiece, rfl⟩ := List.mem_map.mp hchunk
      have hsize := FileSender.length_le_of_mem_slices file.chunkSize_pos file.data hpiece
      have hdata := (List.sublist_flatten_of_mem hpiece).length_le
      rw [FileSender.flatten_slices] at hdata
      show 1 + piece.length ≤ _
      omega
    · rw [List.mem_singleton.mp hdone]
      decide +kernel

lemma frames_ne_nil (file : OutgoingFile) : file.frames ≠ [] := by simp [OutgoingFile.frames]

/-- A sender is ready when the session is established and its frames queue. -/
theorem ready_iff :
    d.Ready zlib refuses ↔
      d.session.machine.state = .Established ∧ d.Queues zlib refuses d.sender.role.frames := by
  constructor
  · rintro ⟨hstate, hfits, htakes⟩
    obtain ⟨encs, hencs⟩ := encodable_iff.mpr hfits
    exact ⟨hstate, encs, hencs, htakes encs hencs⟩
  · rintro ⟨hstate, encs, hencs, htakes⟩
    refine ⟨hstate, encodable_iff.mp ⟨encs, hencs⟩, fun encs' hencs' => ?_⟩
    rw [hencs, Except.ok.injEq] at hencs'
    exact hencs' ▸ htakes

/-- The loop over the slices and the DONE are the frames of the file. -/
lemma sendAllChunksAndDone_eq : sendAllChunksAndDone zlib refuses d =
    (queue zlib refuses d.sender.role.frames >>= fun _ => onSender (FileEnd.setState .DoneSent)) d := by
  simp only [sendAllChunksAndDone, get_bind, queue, OutgoingFile.frames, List.forM_eq_forM,
    List.forM_append, List.forM_map, List.forM_cons, List.forM_nil, bind_assoc, pure_bind]
  rfl

/-- **A sender that is ready** sends all its frames. -/
theorem sendAllChunksAndDone_ok (h : d.Ready zlib refuses) : ∃ d',
    sendAllChunksAndDone zlib refuses d = .ok () d' ∧ d'.sender.state = .DoneSent ∧ d'.sender.Settled ∧
      d'.sender.reassembler = d.sender.reassembler := by
  obtain ⟨hstate, encs, hencs, htakes⟩ := (ready_iff zlib refuses).mp h
  obtain ⟨session, sendCalls, hqueue⟩ := queue_ok zlib refuses hstate hencs htakes
  rw [sendAllChunksAndDone_eq zlib refuses]
  exact ⟨_, (bind_ok hqueue).trans rfl, rfl, ⟨encs, hencs, List.suffix_append _ _⟩, rfl⟩

/-- **A sender that is not** raises, and stays in its state. -/
theorem sendAllChunksAndDone_error (h : ¬ d.Ready zlib refuses) : ∃ e d',
    sendAllChunksAndDone zlib refuses d = .error e d' ∧ d'.sender.state = d.sender.state := by
  rw [ready_iff] at h
  obtain ⟨e, d', hqueue, hkept⟩ := queue_error zlib refuses (frames_ne_nil _) h
  rw [sendAllChunksAndDone_eq zlib refuses]
  exact ⟨e, d', bind_error hqueue, hkept⟩

/-! ## Handling frames

A cycle can bring any number of frames, and only the first ACCEPT or REJECT of an open offer
matters.  Before it frames are ignored, and after it they are those of a transfer under way.
-/

/-- The sender has had its answer, or has not asked; nothing is half done. -/
def Past (s : FileSender) : Prop := s.state ≠ .Offered ∧ s.Settled

/-- Without a session: what comes after the answer, or before the offer. -/
lemma senderHandleFrame_past {s : FileSender} (h : Past s) (f : FileFrame) : ∃ s',
    FileSender.handleFrame f s = .ok () s' ∧ Past s' ∧ s'.reassembler = s.reassembler := by
  rw [FileSender.handleFrame, get_bind]
  cases f.type with
  | Accept =>
      dsimp only
      rw [if_neg h.1]
      exact ⟨s, rfl, h, rfl⟩
  | Reject =>
      dsimp only
      rw [if_neg h.1]
      exact ⟨s, rfl, h, rfl⟩
  | Ack =>
      dsimp only
      split_ifs
      · exact ⟨{ s with state := .Complete }, rfl, ⟨by simp, trivial⟩, rfl⟩
      · exact ⟨s, rfl, h, rfl⟩
  | Nack =>
      dsimp only
      split_ifs
      · exact ⟨{ s with state := .Failed }, rfl, ⟨by simp, trivial⟩, rfl⟩
      · exact ⟨s, rfl, h, rfl⟩
  | _ => exact ⟨s, rfl, h, rfl⟩

/-- A sender that is not waiting for an answer does what it would without a session. -/
lemma handleFrame_of_ne (hstate : d.sender.state ≠ .Offered) :
    handleFrame zlib refuses f d = onSender (FileSender.handleFrame f) d := by
  rw [handleFrame, get_bind]
  cases htype : f.type with
  | Accept =>
      have hignored : FileSender.handleFrame f d.sender = .ok () d.sender := by
        rw [FileSender.handleFrame, get_bind, htype]
        dsimp only
        rw [if_neg hstate]
        rfl
      rw [if_neg hstate, onSender_ok hignored]
      rfl
  | _ => rfl

/-- **Frames after the answer, or before the offer.** -/
lemma handleFrames_past : ∀ {frames : List FileFrame} {d : SessionSender}, Past d.sender →
    ∃ d', frames.forM (handleFrame zlib refuses) d = .ok () d' ∧ Past d'.sender ∧
      d'.sender.reassembler = d.sender.reassembler
  | [], d, h => ⟨d, rfl, h, rfl⟩
  | f :: frames, d, h => by
      obtain ⟨s', hrun, hpast, hkept⟩ := senderHandleFrame_past h f
      have hfirst : handleFrame zlib refuses f d = .ok () { d with sender := s' } := by
        rw [handleFrame_of_ne zlib refuses h.1, onSender_ok hrun]
      obtain ⟨d', hrest, hpast', hkept'⟩ := handleFrames_past (d := { d with sender := s' }) hpast
      exact ⟨d', (bind_ok hfirst).trans hrest, hpast', hkept'.trans hkept⟩

/-- **Frames that do not answer the offer** are ignored while it is open. -/
lemma handleFrames_ignored (hstate : d.sender.state = .Offered) :
    ∀ {frames : List FileFrame}, (∀ f ∈ frames, ¬ (f.type = .Accept ∨ f.type = .Reject)) →
      frames.forM (handleFrame zlib refuses) d = .ok () d
  | [], _ => rfl
  | f :: frames, h => by
      obtain ⟨hf, hframes⟩ := List.forall_mem_cons.mp h
      have hfirst : handleFrame zlib refuses f d = .ok () d := by
        rw [handleFrame, get_bind]
        cases htype : f.type with
        | Accept => exact absurd (.inl htype) hf
        | Reject => exact absurd (.inr htype) hf
        | Ack =>
            refine onSender_ok ?_
            rw [FileSender.handleFrame, get_bind, htype]
            simp [hstate]
            rfl
        | Nack =>
            refine onSender_ok ?_
            rw [FileSender.handleFrame, get_bind, htype]
            simp [hstate]
            rfl
        | _ =>
            refine onSender_ok ?_
            rw [FileSender.handleFrame, get_bind, htype]
            rfl
      exact (bind_ok hfirst).trans (handleFrames_ignored hstate hframes)

/-- **The answer**, when the sender is ready for it. -/
lemma handleFrame_answer (hstate : d.sender.state = .Offered)
    (hf : f.type = .Accept ∨ f.type = .Reject) (hready : f.type = .Accept → d.Ready zlib refuses) :
    ∃ d', handleFrame zlib refuses f d = .ok () d' ∧ Past d'.sender ∧
      d'.sender.reassembler = d.sender.reassembler := by
  rw [handleFrame, get_bind]
  rcases hf with htype | htype
  · obtain ⟨hestablished, hfits, htakes⟩ := hready htype
    obtain ⟨d', hrun, hdone, hsettled, hkept⟩ := sendAllChunksAndDone_ok zlib refuses
      (d := { d with sender := { d.sender with state := .Sending } }) ⟨hestablished, hfits, htakes⟩
    rw [htype]
    dsimp only
    rw [if_pos hstate]
    exact ⟨d', (bind_ok rfl).trans hrun, ⟨by simp [hdone], hsettled⟩, hkept⟩
  · rw [htype]
    refine ⟨{ d with sender := { d.sender with state := .Failed } }, onSender_ok ?_,
      ⟨by simp, trivial⟩, rfl⟩
    rw [FileSender.handleFrame, get_bind, htype]
    dsimp only
    rw [if_pos hstate]
    rfl

/-- **An acceptance that finds the sender not ready** raises, and leaves it half done. -/
lemma handleFrame_accept_error (hstate : d.sender.state = .Offered) (htype : f.type = .Accept)
    (hready : ¬ d.Ready zlib refuses) :
    ∃ e d', handleFrame zlib refuses f d = .error e d' ∧ d'.sender.state = .Sending := by
  have hready' : ¬ Ready zlib refuses { d with sender := { d.sender with state := .Sending } } :=
    fun h => hready ⟨h.established, h.fits, h.takes⟩
  obtain ⟨e, d', hrun, hkept⟩ := sendAllChunksAndDone_error zlib refuses hready'
  rw [handleFrame, get_bind, htype]
  dsimp only
  rw [if_pos hstate]
  exact ⟨e, d', (bind_ok rfl).trans hrun, hkept⟩

/-- The frames up to the answer, and the rest of them. -/
lemma forM_of_answer (hstate : d.sender.state = .Offered) (hanswer : answer frames = some f) :
    (f.type = .Accept ∨ f.type = .Reject) ∧ ∃ behind : List FileFrame,
      frames.forM (handleFrame zlib refuses) d =
      (handleFrame zlib refuses f >>= fun _ => behind.forM (handleFrame zlib refuses)) d := by
  obtain ⟨hf, before, behind, rfl, hbefore⟩ := List.find?_eq_some_iff_append.mp hanswer
  refine ⟨by simpa using hf, behind, ?_⟩
  rw [List.forM_eq_forM, List.forM_append, List.forM_cons]
  exact bind_ok (handleFrames_ignored zlib refuses hstate fun g hg => by simpa using hbefore g hg)

/-- **Frames with an answer**, when the sender is ready for it. -/
lemma handleFrames_answer (hstate : d.sender.state = .Offered) (hanswer : answer frames = some f)
    (hready : f.type = .Accept → d.Ready zlib refuses) :
    ∃ d', frames.forM (handleFrame zlib refuses) d = .ok () d' ∧ Past d'.sender := by
  obtain ⟨hf, behind, hforM⟩ := forM_of_answer zlib refuses hstate hanswer
  obtain ⟨d₁, hfirst, hpast, -⟩ := handleFrame_answer zlib refuses hstate hf hready
  obtain ⟨d₂, hrest, hpast', -⟩ : ∃ d₂, behind.forM (handleFrame zlib refuses) d₁ = .ok () d₂ ∧ _ :=
    handleFrames_past zlib refuses hpast
  exact ⟨d₂, hforM.trans ((bind_ok hfirst).trans hrest), hpast'⟩

/-- **Frames with an acceptance** that finds it not ready. -/
lemma handleFrames_error (hstate : d.sender.state = .Offered) (hanswer : answer frames = some f)
    (htype : f.type = .Accept) (hready : ¬ d.Ready zlib refuses) :
    ∃ e d', frames.forM (handleFrame zlib refuses) d = .error e d' ∧ d'.sender.state = .Sending := by
  obtain ⟨-, behind, hforM⟩ := forM_of_answer zlib refuses hstate hanswer
  obtain ⟨e, d', hfirst, hsending⟩ := handleFrame_accept_error zlib refuses hstate htype hready
  exact ⟨e, d', hforM.trans (bind_error hfirst), hsending⟩

/-! ## A cycle

The session's cycle comes first and may itself raise; then nothing is read, and nothing is half
done.
-/

lemma answer_append (frames behind : List FileFrame) :
    answer (frames ++ behind) = (answer frames).or (answer behind) := List.find?_append

lemma ready_withReassembler {r : FileFrameReassembler} :
    Ready zlib refuses { d with sender := { d.sender with reassembler := r } } ↔ d.Ready zlib refuses :=
  ⟨fun h => ⟨h.established, h.fits, h.takes⟩, fun h => ⟨h.established, h.fits, h.takes⟩⟩

lemma heard_of_error {r r' : FileFrameReassembler} {chunk : Bytes} {text : ValueError}
    (h : r.feed chunk = (.error text, r')) : heard r (chunk :: chunks) = [] := by
  rw [heard, FileFrameReassembler.feeds, Mealy.run_cons, h]
  rfl

lemma heard_of_ok {r r' : FileFrameReassembler} {chunk : Bytes}
    (h : r.feed chunk = (.ok frames, r')) : heard r (chunk :: chunks) = frames ++ heard r' chunks := by
  rw [heard, FileFrameReassembler.feeds, Mealy.run_cons, h]
  rfl

/-- A chunk that cannot be read raises, and only the reassembler changes. -/
lemma readChunks_of_error {chunk : Bytes} {text : ValueError} {r : FileFrameReassembler}
    (h : d.sender.reassembler.feed chunk = (.error text, r)) :
    readChunks zlib refuses (chunk :: chunks) d =
      .error (.session (.ValueError text)) { d with sender := { d.sender with reassembler := r } } := by
  rw [readChunks, List.forM_eq_forM, List.forM_cons]
  exact bind_error (bind_error (onSender_error (FileEnd.feed_error h)))

/-- The frames of a chunk are handled before the next chunk is read. -/
lemma readChunks_of_ok {chunk : Bytes} {r : FileFrameReassembler}
    (h : d.sender.reassembler.feed chunk = (.ok frames, r)) :
    readChunks zlib refuses (chunk :: chunks) d = (frames.forM (handleFrame zlib refuses) >>= fun _ =>
      readChunks zlib refuses chunks) { d with sender := { d.sender with reassembler := r } } := by
  rw [readChunks, List.forM_eq_forM, List.forM_cons, bind_assoc]
  exact bind_ok (onSender_ok (FileEnd.feed_ok h))

/-- **The chunks of a sender that waits for no answer.** -/
theorem readChunks_past (h : Past d.sender) :
    Past (after (readChunks zlib refuses chunks) d).sender := by
  induction chunks generalizing d with
  | nil => exact h
  | cons chunk chunks ih =>
      rcases hfeed : d.sender.reassembler.feed chunk with ⟨text | frames, r⟩
      · rw [after_error (readChunks_of_error zlib refuses hfeed)]
        exact h
      · obtain ⟨d', hrun, hpast, -⟩ : ∃ d', frames.forM (handleFrame zlib refuses)
            { d with sender := { d.sender with reassembler := r } } = .ok () d' ∧ _ :=
          handleFrames_past zlib refuses h
        have hrest : readChunks zlib refuses (chunk :: chunks) d = readChunks zlib refuses chunks d' :=
          (readChunks_of_ok zlib refuses hfeed).trans (bind_ok hrun)
        rw [after, hrest]
        exact ih hpast

/-- **The chunks of a cycle** leave nothing half done exactly if an acceptance finds the sender
ready. -/
theorem settled_readChunks_iff (h : d.sender.Settled) :
    (after (readChunks zlib refuses chunks) d).sender.Settled ↔
      (d.HearsAccept chunks → d.Ready zlib refuses) := by
  by_cases hstate : d.sender.state = .Offered
  · induction chunks generalizing d with
    | nil =>
        refine iff_of_true h ?_
        rintro ⟨-, f, hf, -⟩
        simp [heard, answer, FileFrameReassembler.feeds, Framing.untilError] at hf
    | cons chunk chunks ih =>
        rcases hfeed : d.sender.reassembler.feed chunk with ⟨text | frames, r⟩
        · rw [after_error (readChunks_of_error zlib refuses hfeed)]
          refine iff_of_true h ?_
          rintro ⟨-, f, hf, -⟩
          simp [heard_of_error hfeed, answer] at hf
        · have hrun : readChunks zlib refuses (chunk :: chunks) d = _ :=
            readChunks_of_ok zlib refuses hfeed
          cases hanswer : answer frames with
          | none =>
              -- the offer is still open, and the next chunks decide
              have hnone : ∀ f ∈ frames, ¬ (f.type = .Accept ∨ f.type = .Reject) := fun f hf => by
                simpa using List.find?_eq_none.mp hanswer f hf
              have hignored := handleFrames_ignored zlib refuses
                (d := { d with sender := { d.sender with reassembler := r } }) hstate hnone
              have hrest := ih (d := { d with sender := { d.sender with reassembler := r } }) h hstate
              rw [after, hrun, bind_ok hignored, ← after, hrest, ready_withReassembler, HearsAccept,
                HearsAccept, heard_of_ok hfeed, answer_append, hanswer, Option.none_or]
          | some f =>
              have hhears : d.HearsAccept (chunk :: chunks) ↔ f.type = .Accept := by
                simp [HearsAccept, heard_of_ok hfeed, answer_append, hanswer, hstate]
              rw [hhears]
              by_cases hready : f.type = .Accept → d.Ready zlib refuses
              · obtain ⟨d', hanswered, hpast⟩ := handleFrames_answer zlib refuses
                  (d := { d with sender := { d.sender with reassembler := r } }) hstate hanswer
                  fun htype => (ready_withReassembler zlib refuses).mpr (hready htype)
                rw [after, hrun, bind_ok hanswered, ← after]
                exact iff_of_true (readChunks_past zlib refuses hpast).2 hready
              · obtain ⟨htype, hnot⟩ := Classical.not_imp.mp hready
                obtain ⟨e, d', herror, hsending⟩ := handleFrames_error zlib refuses
                  (d := { d with sender := { d.sender with reassembler := r } }) hstate hanswer htype
                  fun hboth => hnot ((ready_withReassembler zlib refuses).mp hboth)
                rw [after, hrun, bind_error herror]
                refine iff_of_false ?_ hready
                simp [FileSender.Settled, hsending]
  · exact iff_of_true (readChunks_past zlib refuses ⟨hstate, h⟩).2 fun hhears => absurd hhears.1 hstate

/-- A cycle whose session raises. -/
lemma after_pump_error {arrived : List Bytes} {e : WiredError} {w : WiredSession}
    (h : WiredSession.pump zlib refuses none (arrived.map fun frame => (frame, d.now)) d.now d.now
      d.wired = .error e w) : after (pump zlib refuses arrived) d = d.withWired w := by
  rw [pump, after_get_bind, after_bind_error (onSession_error h)]

/-- A cycle whose session does not: it reads what is buffered on the stream. -/
lemma after_pump_ok {arrived : List Bytes} {events : List SessionEvent} {w : WiredSession}
    (h : WiredSession.pump zlib refuses none (arrived.map fun frame => (frame, d.now)) d.now d.now
      d.wired = .ok events w) :
    after (pump zlib refuses arrived) d =
      after (readChunks zlib refuses ((w.session.recvBuffers.get? d.streamId).getD []))
        { d.withWired w with
          session := { w.session with recvBuffers := w.session.recvBuffers.erase d.streamId } } := by
  have hrecv : onSession (WiredSession.onSession (Session.recvOn d.streamId)) (d.withWired w) = .ok
      ((w.session.recvBuffers.get? d.streamId).getD []) { d.withWired w with session := {
        w.session with recvBuffers := w.session.recvBuffers.erase d.streamId } } := rfl
  rw [pump, after_get_bind, after_bind_ok (onSession_ok h), after_bind_ok hrecv,
    after_bind fun _ _ => rfl]

/-- **A cycle leaves nothing half done exactly if it delivers.** -/
theorem settled_pump_iff (h : d.sender.Settled) (arrived : List Bytes) :
    (after (pump zlib refuses arrived) d).sender.Settled ↔
      Delivers zlib refuses d (.pump arrived) := by
  rw [Delivers]
  cases hpump : WiredSession.pump zlib refuses none (arrived.map fun frame => (frame, d.now)) d.now
      d.now d.wired with
  | error e w =>
      rw [after_pump_error zlib refuses hpump]
      refine iff_of_true h ?_
      rintro events w' h'
      cases h'
  | ok events w =>
      rw [after_pump_ok zlib refuses hpump]
      refine (settled_readChunks_iff zlib refuses ?_).trans ⟨?_, ?_⟩
      · exact h
      · rintro hready events' w' h' hhears
        obtain ⟨rfl, rfl⟩ := EStateM.Result.ok.inj h'
        obtain ⟨hestablished, hfits, htakes⟩ := hready hhears
        exact ⟨hestablished, hfits, htakes⟩
      · intro hdelivers hhears
        obtain ⟨hestablished, hfits, htakes⟩ := hdelivers events w rfl hhears
        exact ⟨hestablished, hfits, htakes⟩

/-- `start` leaves nothing half done. -/
lemma settled_start (h : d.sender.Settled) :
    (after (start zlib refuses sha256Hex) d).sender.Settled := by
  rw [start, after_get_bind]
  split_ifs with hidle
  · let offer : FileFrame := offerFrame sha256Hex d.sender.role
    by_cases hsend : d.session.machine.state = .Established ∧
        ∃ enc, offer.encode = .ok enc ∧ d.Takes zlib refuses enc
    · obtain ⟨hstate, enc, henc, out, hout, htakes⟩ := hsend
      obtain ⟨session, hrun, -, -⟩ := sendOn_ok henc hstate hout htakes
      rw [show encodeControl .Offer (d.sender.role.offer sha256Hex) = encodeFrame offer.type offer.body
        from rfl, after_bind_ok hrun]
      trivial
    · obtain ⟨e, d', hrun, hkept⟩ := sendOn_error zlib refuses hsend
      rw [show encodeControl .Offer (d.sender.role.offer sha256Hex) = encodeFrame offer.type offer.body
        from rfl, after_bind_error hrun, hkept]
      exact h
  · exact h

/-! ## Runs

The condition is on each input, in the state it finds, so that the equivalence for a cycle becomes
one for runs by the rule for conditions along a run.
-/

variable (sha256Hex) in
/-- One input; there is nothing to see but the sender. -/
def step (d : SessionSender) (input : SenderInput) : Unit × SessionSender :=
  ((), next zlib refuses sha256Hex d input)

lemma settled_next_iff (h : d.sender.Settled) (input : SenderInput) :
    (next zlib refuses sha256Hex d input).sender.Settled ↔ Delivers zlib refuses d input := by
  cases input with
  | start => exact iff_of_true (settled_start zlib refuses h) trivial
  | pump arrived => exact settled_pump_iff zlib refuses h arrived
  | clock now => exact iff_of_true h trivial
  | owner session => exact iff_of_true h trivial

/-- **When a sender is never half done.**  After every operation of a run, whether it has returned
or raised, nothing is half done — exactly if every cycle that hears that the offer is accepted
delivers: after the session's own cycle the session is `ESTABLISHED`, the largest chunk fits a
frame, the multiplexer takes what it is given, and the channel takes what the multiplexer emits. -/
theorem settled_iff (hnew : d.sender.state = .Idle) (inputs : List SenderInput) :
    (∀ t ∈ Mealy.states (step zlib refuses sha256Hex) d inputs, t.sender.Settled) ↔
      Mealy.Along (step zlib refuses sha256Hex) (Delivers zlib refuses) d inputs :=
  Mealy.forall_states_iff_along (J := fun _ => True) (Q := fun _ => True) (fun _ _ _ => trivial)
    (fun t input _ _ ht => settled_next_iff zlib refuses ht input) (fun _ _ => trivial) trivial
    (by rw [FileSender.Settled, hnew]; trivial)

/-- A packet of the peer. -/
def wirePacket (type : PacketType) (streamId seq ack : ℤ) (flags : ℕ) (payload : Bytes) : Bytes :=
  packed zlibCrc32 { type, sessionId := 9, streamId, seq, ack, window := 0, flags, payload }

/-- A sender of three bytes, over a responder's session. -/
def threeBytesSender : SessionSender where
  session := Session.create false 0 700
  sender := { role := threeBytes }

/-- The peer completes the handshake, and accepts the offer. -/
def handshake : List Bytes :=
  [wirePacket .Syn 0 300 0 Flags.syn [], wirePacket .Ack 0 301 701 Flags.ack []]
/-- The peer accepts the offer. -/
def acceptance : Bytes := wirePacket .Data FILE_STREAM_ID 0 0 Flags.none (frameBytes acceptFrame)

/-- The acceptance in a cycle of its own, and in one with the peer's FIN. -/
def acceptedAlone : List SenderInput := [.pump handshake, .start, .pump [acceptance]]
/-- The acceptance and the FIN together. -/
def acceptedWithFin : List SenderInput :=
  [.pump handshake, .start, .pump [acceptance, wirePacket .Fin 0 301 0 Flags.fin []]]

/-- A channel that takes every frame, and one that refuses the fourth: the first chunk, after the
SYN_ACK, the OFFER and the ACK of the acceptance. -/
def takesAll (_ : ℕ) (_ : Bytes) : Bool := false
/-- It raises at the call with this number, and at no other. -/
def refusesFourth (n : ℕ) (_ : Bytes) : Bool := decide (n = 3)

/-- The states that the sender goes through on a channel. -/
def threeBytesStates (refuses : ℕ → Bytes → Bool) : List SenderInput → List SessionSender :=
  Mealy.states (step zlibCrc32 refuses threeBytesDigest) threeBytesSender

/-- **A sender that hears of the acceptance together with the peer's FIN is left `SENDING`**, with
nothing of the file queued, and so is one whose first chunk the channel refuses. -/
theorem half_queued :
    (threeBytesStates takesAll acceptedAlone).map (fun d => d.sender.state)
      = [.Idle, .Idle, .Offered, .DoneSent] ∧
    (threeBytesStates takesAll acceptedWithFin).map (fun d => d.sender.state)
      = [.Idle, .Idle, .Offered, .Sending] ∧
    (threeBytesStates refusesFourth acceptedAlone).map (fun d => d.sender.state)
      = [.Idle, .Idle, .Offered, .Sending] ∧
    (threeBytesStates takesAll acceptedWithFin ++ threeBytesStates refusesFourth acceptedAlone).all
      (fun d => d.sender.written.length ≤
        (frameBytes (offerFrame threeBytesDigest threeBytes)).length) = true := by
  decide +kernel

/-- The condition holds when the acceptance comes alone, and not when the FIN comes with it. -/
theorem settled_iff_threeBytes :
    Mealy.Along (step zlibCrc32 takesAll threeBytesDigest) (Delivers zlibCrc32 takesAll)
      threeBytesSender acceptedAlone ∧
    ¬ Mealy.Along (step zlibCrc32 takesAll threeBytesDigest) (Delivers zlibCrc32 takesAll)
      threeBytesSender acceptedWithFin ∧
    ¬ Mealy.Along (step zlibCrc32 refusesFourth threeBytesDigest) (Delivers zlibCrc32 refusesFourth)
      threeBytesSender acceptedAlone := by
  rw [← settled_iff zlibCrc32 takesAll rfl acceptedAlone,
    ← settled_iff zlibCrc32 takesAll rfl acceptedWithFin,
    ← settled_iff zlibCrc32 refusesFourth rfl acceptedAlone]
  decide +kernel

/-- Without a session: frames that come when the sender is half done. -/
lemma senderHandleFrame_sending {s : FileSender} (h : s.state = .Sending) (f : FileFrame) :
    FileSender.handleFrame f s = .ok () s := by
  rw [FileSender.handleFrame, get_bind]
  cases f.type with
  | Offer => rfl
  | Chunk => rfl
  | Done => rfl
  | _ =>
      dsimp only
      rw [if_neg (by simp [h])]
      rfl

lemma handleFrames_sending (h : d.sender.state = .Sending) :
    ∀ frames : List FileFrame, frames.forM (handleFrame zlib refuses) d = .ok () d
  | [] => rfl
  | f :: frames => by
      have hfirst : handleFrame zlib refuses f d = .ok () d := by
        rw [handleFrame_of_ne zlib refuses (by simp [h]), onSender_ok (senderHandleFrame_sending h f)]
      exact (bind_ok hfirst).trans (handleFrames_sending h frames)

lemma readChunks_sending (h : d.sender.state = .Sending) :
    (after (readChunks zlib refuses chunks) d).sender.state = .Sending := by
  induction chunks generalizing d with
  | nil => exact h
  | cons chunk chunks ih =>
      rcases hfeed : d.sender.reassembler.feed chunk with ⟨text | frames, r⟩
      · rw [after_error (readChunks_of_error zlib refuses hfeed)]
        exact h
      · have hrun := handleFrames_sending zlib refuses
          (d := { d with sender := { d.sender with reassembler := r } }) h frames
        rw [after, readChunks_of_ok zlib refuses hfeed, bind_ok hrun]
        exact ih h

/-- **A sender that is half done stays so**, whatever is done to it. -/
theorem stuck (h : d.sender.state = .Sending) (input : SenderInput) :
    (next zlib refuses sha256Hex d input).sender.state = .Sending := by
  cases input with
  | start =>
      rw [next, start, after_get_bind, if_neg (by simp [h])]
      exact h
  | pump arrived =>
      rw [next]
      cases hpump : WiredSession.pump zlib refuses none (arrived.map fun frame => (frame, d.now)) d.now
          d.now d.wired with
      | error e w =>
          rw [after_pump_error zlib refuses hpump]
          exact h
      | ok events w =>
          rw [after_pump_ok zlib refuses hpump]
          exact readChunks_sending zlib refuses h
  | clock now => exact h
  | owner session => exact h

/-! ## Parameters that fit the header

When does a sender have nothing to fear but the peer's FIN?  When its parameters fit the header and
its channel takes every frame.
-/

/-- A channel that refuses no frame takes packets that fit the header. -/
lemma takes_of_fits (htakes : ∀ n frame, refuses n frame = false) :
    ∀ {pkts : List Packet} {n : ℕ}, (∀ pkt ∈ pkts, pkt.FitsHeader) →
      WiredSession.Takes zlib refuses n pkts
  | [], _, _ => trivial
  | pkt :: pkts, n, h => by
      obtain ⟨hfits, hrest⟩ := List.forall_mem_cons.mp h
      exact ⟨hfits, htakes n _, takes_of_fits htakes hrest⟩

/-- With such a channel, a multiplexer whose parameters fit takes everything. -/
lemma takesAll_of_packable (htakes : ∀ n frame, refuses n frame = false) {past : ℚ → Prop}
    {sessionId streamId : ℤ} {now : ℚ} (hnow : past now) (hid : 0 ≤ sessionId ∧ sessionId < 65536)
    (hstream : WireStream streamId) : ∀ {pieces : List Bytes} {mux : StreamMux} {n : ℕ},
      MuxPackable past mux → mux.Usable →
        mux.TakesAll zlib refuses sessionId streamId now n pieces := by
  intro pieces
  induction pieces with
  | nil => exact fun _ _ => trivial
  | cons data pieces ih =>
      intro mux n hpackable husable
      have hsync := hpackable.setSessionId hid
      have husable' : (mux.setSessionId sessionId).Usable := husable
      obtain ⟨hnext, hfits⟩ := hsync.send hnow data
      obtain ⟨out, hout⟩ := husable'.send_ok streamId data now
      have hfits' := hfits hstream
      rw [hout] at hfits'
      refine ⟨out, hout, takes_of_fits zlib refuses htakes hfits', ih hnext ?_⟩
      exact (StreamMux.usable_apply (.send streamId data now)).mpr husable'

/-- **For a session whose parameters fit the header**, and a channel that refuses nothing, a sender
is ready as soon as the session is `ESTABLISHED` and the chunks fit a frame. -/
theorem ready_of_sound (htakes : ∀ n frame, refuses n frame = false)
    (hsound : Session.Sound (· ≤ d.now) d.session)
    (hstream : WireStream d.streamId) (hestablished : d.session.machine.state = .Established)
    (hfits : min d.sender.role.chunkSize d.sender.role.data.length < MAX_FRAME_BYTES) :
    d.Ready zlib refuses where
  established := hestablished
  fits := hfits
  takes := fun _ _ => by
    refine takesAll_of_packable zlib refuses htakes ?_ hsound.numbered.sessionId hstream
      hsound.packable hsound.usable
    exact le_rfl

/-! ## The sender without its session

What joins this model to the one of `PhotonTCP.App.File`.
-/

lemma refines_onSender {α : Type} (x : FileM OutgoingFile α) : Refines sender (onSender x) x := by
  exact refines_zoom fun _ _ => rfl

lemma sender_of_onSession {α : Type} {x : WiredM α} {a : α} (h : onSession x d = .ok a d') :
    d'.sender = d.sender := by
  obtain ⟨w, -, rfl⟩ := zoom_eq_ok h
  rfl

lemma refines_sendOn (frame : Except ValueError Bytes) :
    Refines sender (sendOn zlib refuses frame) (FileEnd.sendOn frame) := by
  rintro d a d' h
  cases frame with
  | error text => cases h
  | ok bytes =>
      rw [sendOn, get_bind] at h
      obtain ⟨u, d₁, hsend, h⟩ := bind_eq_ok h
      rw [← sender_of_onSession hsend]
      exact refines_onSender _ d₁ a d' h

lemma refines_sendAllChunksAndDone :
    Refines sender (sendAllChunksAndDone zlib refuses) FileSender.sendAllChunksAndDone := by
  rintro d a d' h
  have hchunks := refines_forM (fun piece => refines_sendOn zlib refuses (encodeFrame .Chunk piece))
    (FileSender.slices d.sender.role.chunkSize_pos d.sender.role.data)
  exact (hchunks.bind fun _ => (refines_sendOn zlib refuses _).bind fun _ => refines_onSender _)
    d a d' h

lemma refines_handleFrame (f : FileFrame) :
    Refines sender (handleFrame zlib refuses f) (FileSender.handleFrame f) := by
  rintro d a d' h
  by_cases hoffered : d.sender.state = .Offered ∧ f.type = .Accept
  · obtain ⟨hstate, htype⟩ := hoffered
    rw [handleFrame, get_bind, htype] at h
    rw [FileSender.handleFrame, get_bind, htype]
    dsimp only at h ⊢
    rw [if_pos hstate] at h ⊢
    exact ((refines_onSender _).bind fun _ => refines_sendAllChunksAndDone zlib refuses) d a d' h
  · have hsame : handleFrame zlib refuses f d = onSender (FileSender.handleFrame f) d := by
      by_cases hstate : d.sender.state = .Offered
      · rw [handleFrame, get_bind]
        cases htype : f.type with
        | Accept => exact absurd ⟨hstate, htype⟩ hoffered
        | _ => rfl
      · exact handleFrame_of_ne zlib refuses hstate
    rw [hsame] at h
    exact refines_onSender _ d a d' h

/-- **A cycle that raises nothing is one of the sender without a session**, with the chunks that it
has taken off the session. -/
theorem pump_refines {arrived : List Bytes} {state : FileTransferState}
    (h : pump zlib refuses arrived d = .ok state d') :
    ∃ chunks, FileSender.pump chunks d.sender = .ok state d'.sender := by
  rw [pump, get_bind] at h
  obtain ⟨events, d₁, hpump, h⟩ := bind_eq_ok h
  obtain ⟨chunks, d₂, hrecv, h⟩ := bind_eq_ok h
  refine ⟨chunks, ?_⟩
  rw [← sender_of_onSession hpump, ← sender_of_onSession hrecv]
  have hread : Refines sender (readChunks zlib refuses chunks) _ :=
    refines_forM (fun chunk => (refines_onSender (FileEnd.feed chunk)).bind fun got =>
      refines_forM (refines_handleFrame zlib refuses) got) chunks
  refine (hread.bind fun _ => ?_) d₂ state d' h
  rintro e a e' he
  obtain ⟨rfl, rfl⟩ := EStateM.Result.ok.inj he
  rfl

end SessionSender

end PhotonTCP
