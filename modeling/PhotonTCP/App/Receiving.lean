import PhotonTCP.App.Sending

/-!
# A file receiver and its session

`FileReceiver` with the session that it answers on and pumps, and with a record of the frames that
it was handed.  An answer that the session does not take makes the operation raise, and the receiver
stays in its state.

* `SessionReceiver` — the receiver; `handleFrame`, `pump`.
* `Declares`, `Malformed` — what an OFFER says, and an OFFER that says nothing.
* `Course` — how a receiver has come to its state; `Course.handleFrame` — one frame.
* **`complete_file`** — a complete file has the digest that its OFFER declared; no malformed OFFER
  is accepted.
* **`wrong_size`** — but a complete file need not have the declared size.

An OFFER declares a name, a size and a digest.  The receiver compares the digest when the DONE
arrives, and that is the whole of the verification; the size is for `progress`.  The documentation
says as much, and so a file can be complete while `progress` says that it is not: the last theorem
is about a peer that declares a size of its own choice.

What a receiver has become is explained by what it was handed.  `Course` has a constructor for each
way of coming to a state, with the frames that have led there; that a receiver is in course is kept
by every frame, whether the session takes the answer or not, and so also by every cycle that raises
half way.
-/

namespace PhotonTCP

open Raising

/-! ## The receiver and its session

The operations of the receiver without a session, with an answer that can be refused.
-/

/-- A file receiver, with its session, the time that its clock shows and the frames it was handed.
-/
structure SessionReceiver where
  session : Session
  now : ℚ := 0
  streamId : ℤ := FILE_STREAM_ID
  receiver : FileReceiver
  handled : List FileFrame := []

/-- Computations on a receiver with its session. -/
abbrev ReceiverM := EStateM SessionError SessionReceiver

/-- Fraction of the file received so far. -/
def FileReceiver.progress (r : FileReceiver) : ℚ :=
  match r.role.expectedSize with
  | none => 0
  | some size => if size = 0 then 1 else min (r.role.buffer.length / size) 1

namespace SessionReceiver

/-- The constructor. -/
def create (session : Session) (now : ℚ) (streamId : ℤ) (autoAccept : Bool) : SessionReceiver where
  session := session
  now := now
  streamId := streamId
  receiver := { role := { autoAccept } }

variable (zlib : Bytes → ℕ) (sha256Hex : Bytes → String) (loads : JsonLoads)

/-- Let the session work. -/
def onSession {α : Type} (x : SessionM α) : ReceiverM α := fun d =>
  match x d.session with
  | .ok a session => .ok a { d with session }
  | .error e session => .error e { d with session }

/-- What needs no session. -/
def onReceiver {α : Type} (x : FileM IncomingFile α) : ReceiverM α := fun d =>
  match x d.receiver with
  | .ok a receiver => .ok a { d with receiver }
  | .error e receiver => .error (.ofFile e) { d with receiver }

/-- Hand a frame to the session, and keep a record of it. -/
def sendOn (frame : Except ValueError Bytes) : ReceiverM Unit := do
  match frame with
  | .error text => throw (.ValueError text)
  | .ok bytes =>
      let d ← get
      onSession (Session.sendOn zlib d.streamId bytes d.now)
      onReceiver (FileEnd.sendOn (.ok bytes))

/-- Answer with REJECT; the receiver has failed. -/
def rejectOffer : ReceiverM Unit := do
  sendOn zlib (encodeControl .Reject Dict.empty)
  onReceiver (FileEnd.setState .Failed)

/-- Accept the offer or reject it; what it says is kept before the answer is sent. -/
def handleOffer (body : Bytes) : ReceiverM Unit := do
  if ← onReceiver (FileReceiver.offerIsValid loads body) then
    if (← get).receiver.role.autoAccept then
      sendOn zlib (encodeControl .Accept Dict.empty)
      onReceiver (FileEnd.setState .Receiving)
  else rejectOffer zlib

/-- Verify the file and say so. -/
def handleDone : ReceiverM Unit := do
  let d ← get
  if some (sha256Hex d.receiver.role.buffer) = d.receiver.role.expectedSha then
    onReceiver (FileReceiver.modifyFile fun file => { file with verified := true })
    sendOn zlib (encodeControl .Ack (Dict.empty.set "ok" (.bool true)))
    onReceiver (FileEnd.setState .Complete)
  else
    onReceiver (FileReceiver.modifyFile fun file => { file with verified := false })
    sendOn zlib (encodeControl .Nack (Dict.empty.set "ok" (.bool false)))
    onReceiver (FileEnd.setState .Failed)

/-- Apply one frame, and keep a record of it; what is out of place is ignored. -/
def handleFrame (frame : FileFrame) : ReceiverM Unit := do
  modify fun d => { d with handled := d.handled ++ [frame] }
  let d ← get
  match frame.type with
  | .Offer => if d.receiver.state = .Idle then handleOffer zlib loads frame.body
  | .Chunk =>
      if d.receiver.state = .Receiving then
        onReceiver (FileReceiver.modifyFile fun file => { file with buffer := file.buffer ++ frame.body })
  | .Done => if d.receiver.state = .Receiving then handleDone zlib sha256Hex
  | .Accept | .Reject | .Ack | .Nack => pure ()

/-- Read the chunks that the session has delivered. -/
def readChunks (chunks : List Bytes) : ReceiverM Unit :=
  chunks.forM fun chunk => do
    let frames ← onReceiver (FileEnd.feed chunk)
    frames.forM (handleFrame zlib sha256Hex loads)

/-- One cycle, with the frames that arrive in it. -/
def pump (frames : List Bytes) : ReceiverM FileTransferState := do
  let d ← get
  let _ ← onSession (Session.pump zlib none (frames.map fun frame => (frame, d.now)) d.now d.now)
  let chunks ← onSession (Session.recvOn d.streamId)
  readChunks zlib sha256Hex loads chunks
  return (← get).receiver.state

end SessionReceiver

/-- What is done to a receiver, or happens around it. -/
inductive ReceiverInput where
  | pump (frames : List Bytes)
  /-- The clock moves. -/
  | clock (now : ℚ)
  /-- The owner of the session uses it. -/
  | owner (session : Session)

/-- The receiver after an input, also if it has raised. -/
def SessionReceiver.next (zlib : Bytes → ℕ) (sha256Hex : Bytes → String) (loads : JsonLoads)
    (d : SessionReceiver) : ReceiverInput → SessionReceiver
  | .pump frames => after (pump zlib sha256Hex loads frames) d
  | .clock now => { d with now }
  | .owner session => { d with session }

/-! ## Offers

The source checks the fields one after the other with `isinstance`; a `bool` is an `int` in Python,
and is refused in a line of its own.
-/

/-- What a well-formed OFFER says. -/
structure Offer where
  name : String
  size : ℤ
  sha256 : String

/-- The body is a mapping with a name, a size that is not negative and a digest. -/
structure Declares (loads : JsonLoads) (body : Bytes) (offer : Offer) : Prop where
  fields : ∃ obj, decodeControl loads body = .ok obj ∧ obj.get? "name" = some (.str offer.name) ∧
    obj.get? "size" = some (.int offer.size) ∧ obj.get? "sha256" = some (.str offer.sha256)
  size : 0 ≤ offer.size

/-- A field is missing, or is not what it has to be. -/
def Malformed (loads : JsonLoads) (body : Bytes) : Prop := ∀ offer, ¬ Declares loads body offer

/-- What the receiver keeps of an offer. -/
def IncomingFile.capture (file : IncomingFile) (offer : Offer) : IncomingFile :=
  { file with
    name := some offer.name, expectedSize := some offer.size, expectedSha := some offer.sha256 }

/-- A well-formed offer is kept. -/
lemma offerIsValid_of_declares {loads : JsonLoads} {body : Bytes} {offer : Offer}
    (h : Declares loads body offer) (r : FileReceiver) :
    FileReceiver.offerIsValid loads body r = .ok true { r with role := r.role.capture offer } := by
  obtain ⟨⟨obj, hobj, hname, hsize, hsha⟩, hpos⟩ := h
  rw [FileReceiver.offerIsValid, hobj]
  simp only [hname, hsize, hsha]
  rw [if_neg (not_lt.mpr hpos)]
  rfl

/-- A malformed one is not. -/
lemma offerIsValid_of_malformed {loads : JsonLoads} {body : Bytes} (h : Malformed loads body)
    (r : FileReceiver) : FileReceiver.offerIsValid loads body r = .ok false r := by
  suffices hfalse : FileReceiver.offerIsValid loads body = pure false by
    rw [hfalse]
    rfl
  rw [FileReceiver.offerIsValid]
  rcases hobj : decodeControl loads body with text | obj
  · rfl
  · dsimp only
    split
    · rename_i name size sha hname hsize hsha
      by_cases hnegative : size < 0
      · rw [if_pos hnegative]
      · exact absurd ⟨⟨obj, hobj, hname, hsize, hsha⟩, not_lt.mp hnegative⟩ (h ⟨name, size, sha⟩)
    · rfl

/-! ## Answers

The state is set when `send_on` has returned, so an answer that is refused leaves the state as it
was.
-/

/-- The answer to an offer that is not accepted. -/
def rejectFrame : FileFrame := ⟨.Reject, jsonDumps Dict.empty⟩

lemma encode_reject : encodeControl .Reject Dict.empty = .ok (frameBytes rejectFrame) := by
  decide +kernel

namespace SessionReceiver

variable {zlib : Bytes → ℕ} {sha256Hex : Bytes → String} {loads : JsonLoads} {d : SessionReceiver}

lemma onSession_eq_zoom {α : Type} (x : SessionM α) :
    onSession x = zoom session (fun d session => { d with session }) id x := by
  funext d
  rw [onSession, zoom]
  cases x d.session <;> rfl

lemma onReceiver_eq_zoom {α : Type} (x : FileM IncomingFile α) :
    onReceiver x = zoom receiver (fun d receiver => { d with receiver }) .ofFile x := by
  funext d
  rw [onReceiver, zoom]
  cases x d.receiver <;> rfl

lemma onReceiver_ok {α : Type} {x : FileM IncomingFile α} {a : α} {receiver : FileReceiver}
    (h : x d.receiver = .ok a receiver) : onReceiver x d = .ok a { d with receiver } := by
  rw [onReceiver_eq_zoom, zoom_ok h]

lemma onReceiver_error {α : Type} {x : FileM IncomingFile α} {e : FileError}
    {receiver : FileReceiver} (h : x d.receiver = .error e receiver) :
    onReceiver x d = .error (.ofFile e) { d with receiver } := by
  rw [onReceiver_eq_zoom, zoom_error h]

/-- An answer is taken by the session, or raises. -/
lemma sendOn_cases (zlib : Bytes → ℕ) (bytes : Bytes) (d : SessionReceiver) :
    (∃ session, sendOn zlib (.ok bytes) d = .ok () { d with
      session, receiver := { d.receiver with written := d.receiver.written ++ bytes } }) ∨
    ∃ e session, sendOn zlib (.ok bytes) d = .error e { d with session } := by
  cases hsend : Session.sendOn zlib d.streamId bytes d.now d.session with
  | ok a session =>
      refine .inl ⟨session, ?_⟩
      have hsession : onSession (Session.sendOn zlib d.streamId bytes d.now) d
          = .ok () { d with session } := by rw [onSession, hsend]
      exact (bind_ok rfl).trans ((bind_ok hsession).trans rfl)
  | error e session =>
      refine .inr ⟨e, session, ?_⟩
      have hsession : onSession (Session.sendOn zlib d.streamId bytes d.now) d
          = .error e { d with session } := by rw [onSession, hsend]
      exact (bind_ok rfl).trans (bind_error hsession)

/-- **An answer and the state behind it.**  If the session does not take the answer, only the
session has changed. -/
lemma after_answer (zlib : Bytes → ℕ) (frame : Except ValueError Bytes) (state : FileTransferState)
    (d : SessionReceiver) :
    (∃ session bytes, frame = .ok bytes ∧
      after (sendOn zlib frame >>= fun _ => onReceiver (FileEnd.setState state)) d = { d with
        session, receiver := { d.receiver with state, written := d.receiver.written ++ bytes } }) ∨
    ∃ session, after (sendOn zlib frame >>= fun _ => onReceiver (FileEnd.setState state)) d
      = { d with session } := by
  cases frame with
  | error text => exact .inr ⟨d.session, rfl⟩
  | ok bytes =>
      rcases sendOn_cases zlib bytes d with ⟨session, hok⟩ | ⟨e, session, herror⟩
      · refine .inl ⟨session, bytes, rfl, ?_⟩
        rw [after_bind_ok hok]
        rfl
      · refine .inr ⟨session, ?_⟩
        rw [after_bind_error herror]

lemma after_handleOffer_of_malformed {body : Bytes} (h : Malformed loads body) :
    after (handleOffer zlib loads body) d = after (rejectOffer zlib) d := by
  rw [handleOffer, after_bind_ok (onReceiver_ok (offerIsValid_of_malformed h d.receiver))]
  rfl

lemma after_handleOffer_of_declares {body : Bytes} {offer : Offer} (h : Declares loads body offer) :
    after (handleOffer zlib loads body) d =
      let kept := { d with receiver := { d.receiver with role := d.receiver.role.capture offer } }
      if d.receiver.role.autoAccept then
        after (sendOn zlib (encodeControl .Accept Dict.empty) >>= fun _ =>
          onReceiver (FileEnd.setState .Receiving)) kept
      else kept := by
  rw [handleOffer, after_bind_ok (onReceiver_ok (offerIsValid_of_declares h d.receiver)), if_pos rfl,
    after_get_bind]
  show after (if d.receiver.role.autoAccept then _ else _) _ = _
  split_ifs <;> rfl

/-- The verdict: the digest is compared, and the answer decides the state. -/
lemma after_handleDone : after (handleDone zlib sha256Hex) d =
    let verified := decide (some (sha256Hex d.receiver.role.buffer) = d.receiver.role.expectedSha)
    let judged := { d with receiver := { d.receiver with role := { d.receiver.role with verified } } }
    let answer := if verified then FileFrameType.Ack else .Nack
    after (sendOn zlib (encodeControl answer (Dict.empty.set "ok" (.bool verified))) >>= fun _ =>
      onReceiver (FileEnd.setState (if verified then .Complete else .Failed))) judged := by
  rw [handleDone, after_get_bind]
  by_cases hverified : some (sha256Hex d.receiver.role.buffer) = d.receiver.role.expectedSha
  · simp only [hverified, decide_true]
    rfl
  · simp only [hverified, decide_false]
    rfl

end SessionReceiver

/-! ## The course of a transfer

The frames that were handed to the receiver, cut at those that mattered: the OFFER it accepted, and
the DONE.
-/

/-- The bodies of the chunks. -/
def contents (frames : List FileFrame) : Bytes :=
  frames.flatMap fun f => if f.type = .Chunk then f.body else []

lemma contents_concat (frames : List FileFrame) (f : FileFrame) :
    contents (frames ++ [f]) = contents frames ++ if f.type = .Chunk then f.body else [] := by
  simp [contents]

/-- The receiver goes by what the offer declares. -/
structure IncomingFile.Captured (file : IncomingFile) (offer : Offer) : Prop where
  name : file.name = some offer.name
  expectedSize : file.expectedSize = some offer.size
  expectedSha : file.expectedSha = some offer.sha256

/-- How a receiver that was handed these frames has come to its state. -/
inductive Course (sha256Hex : Bytes → String) (loads : JsonLoads) (handled : List FileFrame)
    (r : FileReceiver) : Prop where
  | idle (hstate : r.state = .Idle) (hbuffer : r.role.buffer = []) (hwritten : r.written = [])
  | rejected {pre post : List FileFrame} {body : Bytes}
      (hhandled : handled = pre ++ ⟨.Offer, body⟩ :: post) (hmalformed : Malformed loads body)
      (hstate : r.state = .Failed) (hwritten : r.written = frameBytes rejectFrame)
  | receiving {pre mid : List FileFrame} {body : Bytes} {offer : Offer}
      (hhandled : handled = pre ++ ⟨.Offer, body⟩ :: mid) (hdeclares : Declares loads body offer)
      (hcaptured : r.role.Captured offer) (hbuffer : r.role.buffer = contents mid)
      (hstate : r.state = .Receiving)
  | decided {pre mid post : List FileFrame} {body done : Bytes} {offer : Offer}
      (hhandled : handled = pre ++ ⟨.Offer, body⟩ :: (mid ++ ⟨.Done, done⟩ :: post))
      (hdeclares : Declares loads body offer) (hcaptured : r.role.Captured offer)
      (hbuffer : r.role.buffer = contents mid)
      (hstate : r.state = if sha256Hex r.role.buffer = offer.sha256 then .Complete else .Failed)

namespace Course

variable {zlib : Bytes → ℕ} {sha256Hex : Bytes → String} {loads : JsonLoads} {d : SessionReceiver}
  {handled : List FileFrame} {r : FileReceiver} {f : FileFrame}

open SessionReceiver

/-- A frame that is ignored. -/
lemma ignore (h : Course sha256Hex loads handled r)
    (hf : r.state = .Receiving → f.type ≠ .Chunk) : Course sha256Hex loads (handled ++ [f]) r := by
  cases h with
  | idle hstate hbuffer hwritten => exact .idle hstate hbuffer hwritten
  | @rejected pre post body hhandled hmalformed hstate hwritten =>
      have hhandled' : handled ++ [f] = pre ++ ⟨.Offer, body⟩ :: (post ++ [f]) := by simp [hhandled]
      exact .rejected hhandled' hmalformed hstate hwritten
  | @receiving pre mid body offer hhandled hdeclares hcaptured hbuffer hstate =>
      have hhandled' : handled ++ [f] = pre ++ ⟨.Offer, body⟩ :: (mid ++ [f]) := by simp [hhandled]
      refine .receiving hhandled' hdeclares hcaptured ?_ hstate
      rw [contents_concat, if_neg (hf hstate), List.append_nil]
      exact hbuffer
  | @decided pre mid post body done offer hhandled hdeclares hcaptured hbuffer hstate =>
      have hhandled' : handled ++ [f] =
          pre ++ ⟨.Offer, body⟩ :: (mid ++ ⟨.Done, done⟩ :: (post ++ [f])) := by simp [hhandled]
      exact .decided hhandled' hdeclares hcaptured hbuffer hstate

/-- What touches neither the state, the file nor what was written. -/
lemma congr {r' : FileReceiver} (h : Course sha256Hex loads handled r) (hrole : r'.role = r.role)
    (hstate : r'.state = r.state) (hwritten : r'.written = r.written) : Course sha256Hex loads handled r' := by
  cases h with
  | idle h₁ h₂ h₃ => exact .idle (hstate ▸ h₁) (hrole ▸ h₂) (hwritten ▸ h₃)
  | rejected h₁ h₂ h₃ h₄ => exact .rejected h₁ h₂ (hstate ▸ h₃) (hwritten ▸ h₄)
  | receiving h₁ h₂ h₃ h₄ h₅ => exact .receiving h₁ h₂ (hrole ▸ h₃) (hrole ▸ h₄) (hstate ▸ h₅)
  | decided h₁ h₂ h₃ h₄ h₅ =>
      exact .decided h₁ h₂ (hrole ▸ h₃) (hrole ▸ h₄) (by rw [hstate, h₅, hrole])

/-- A receiver that is still idle. -/
lemma of_idle (h : Course sha256Hex loads handled r) (hidle : r.state = .Idle) :
    r.role.buffer = [] ∧ r.written = [] := by
  cases h with
  | idle _ hbuffer hwritten => exact ⟨hbuffer, hwritten⟩
  | rejected _ _ hstate _ => simp [hstate] at hidle
  | receiving _ _ _ _ hstate => simp [hstate] at hidle
  | decided _ _ _ _ hstate =>
      rw [hstate] at hidle
      split_ifs at hidle

/-- A receiver that collects chunks. -/
lemma of_receiving (h : Course sha256Hex loads handled r) (hreceiving : r.state = .Receiving) :
    ∃ pre mid body offer, handled = pre ++ ⟨.Offer, body⟩ :: mid ∧ Declares loads body offer ∧
      r.role.Captured offer ∧ r.role.buffer = contents mid := by
  cases h with
  | idle hstate _ _ => simp [hstate] at hreceiving
  | rejected _ _ hstate _ => simp [hstate] at hreceiving
  | receiving hhandled hdeclares hcaptured hbuffer _ =>
      exact ⟨_, _, _, _, hhandled, hdeclares, hcaptured, hbuffer⟩
  | decided _ _ _ _ hstate =>
      rw [hstate] at hreceiving
      split_ifs at hreceiving

/-- An idle receiver is offered a file. -/
lemma handleOffer {body : Bytes} (hstate : d.receiver.state = .Idle)
    (hbuffer : d.receiver.role.buffer = []) (hwritten : d.receiver.written = [])
    (hhandled : d.handled = handled ++ [⟨.Offer, body⟩]) :
    Course sha256Hex loads (after (SessionReceiver.handleOffer zlib loads body) d).handled
      (after (SessionReceiver.handleOffer zlib loads body) d).receiver := by
  by_cases hmalformed : Malformed loads body
  · rw [after_handleOffer_of_malformed hmalformed, rejectOffer]
    rcases after_answer zlib (encodeControl .Reject Dict.empty) .Failed d with
      ⟨session, bytes, hframe, hafter⟩ | ⟨session, hafter⟩
    · obtain rfl : frameBytes rejectFrame = bytes := Except.ok.inj (encode_reject.symm.trans hframe)
      rw [hafter]
      exact .rejected hhandled hmalformed rfl (by simp [hwritten])
    · rw [hafter]
      exact .idle hstate hbuffer hwritten
  · obtain ⟨offer, hdeclares⟩ := not_forall_not.mp hmalformed
    rw [after_handleOffer_of_declares hdeclares]
    dsimp only
    split_ifs
    · rcases after_answer zlib (encodeControl .Accept Dict.empty) .Receiving
          { d with receiver := { d.receiver with role := d.receiver.role.capture offer } } with
        ⟨session, bytes, -, hafter⟩ | ⟨session, hafter⟩
      · rw [hafter]
        exact .receiving hhandled hdeclares ⟨rfl, rfl, rfl⟩ hbuffer rfl
      · rw [hafter]
        exact .idle hstate hbuffer hwritten
    · exact .idle hstate hbuffer hwritten

/-- The sender says that all chunks are sent. -/
lemma handleDone {pre mid : List FileFrame} {body done : Bytes} {offer : Offer}
    (hhandled : d.handled = pre ++ ⟨.Offer, body⟩ :: (mid ++ [⟨.Done, done⟩]))
    (hdeclares : Declares loads body offer) (hcaptured : d.receiver.role.Captured offer)
    (hbuffer : d.receiver.role.buffer = contents mid) (hstate : d.receiver.state = .Receiving) :
    Course sha256Hex loads (after (SessionReceiver.handleDone zlib sha256Hex) d).handled
      (after (SessionReceiver.handleDone zlib sha256Hex) d).receiver := by
  have hcaptured' : ∀ verified, { d.receiver.role with verified := verified }.Captured offer :=
    fun _ => ⟨hcaptured.name, hcaptured.expectedSize, hcaptured.expectedSha⟩
  have hverified : some (sha256Hex d.receiver.role.buffer) = d.receiver.role.expectedSha ↔
      sha256Hex d.receiver.role.buffer = offer.sha256 := by
    rw [hcaptured.expectedSha, Option.some.injEq]
  rw [after_handleDone]
  dsimp only
  rcases after_answer zlib _ _ _ with ⟨session, bytes, -, hafter⟩ | ⟨session, hafter⟩
  · rw [hafter]
    refine .decided hhandled hdeclares (hcaptured' _) hbuffer ?_
    simp only [decide_eq_true_eq, hverified]
  · rw [hafter]
    refine .receiving hhandled hdeclares (hcaptured' _) ?_ hstate
    rw [contents_concat]
    simpa using hbuffer

/-- **One frame.** -/
theorem handleFrame (h : Course sha256Hex loads d.handled d.receiver) (f : FileFrame) :
    Course sha256Hex loads (after (SessionReceiver.handleFrame zlib sha256Hex loads f) d).handled
      (after (SessionReceiver.handleFrame zlib sha256Hex loads f) d).receiver := by
  obtain ⟨type, body⟩ := f
  rw [SessionReceiver.handleFrame, after_modify_bind, after_get_bind]
  cases type with
  | Offer =>
      dsimp only
      split_ifs with hidle
      · obtain ⟨hbuffer, hwritten⟩ := h.of_idle hidle
        exact handleOffer hidle hbuffer hwritten rfl
      · exact h.ignore (by simp)
  | Chunk =>
      dsimp only
      split_ifs with hreceiving
      · obtain ⟨pre, mid, offerBody, offer, hhandled, hdeclares, hcaptured, hbuffer⟩ :=
          h.of_receiving hreceiving
        have hhandled' : d.handled ++ [⟨.Chunk, body⟩] =
            pre ++ ⟨.Offer, offerBody⟩ :: (mid ++ [⟨.Chunk, body⟩]) := by simp [hhandled]
        refine .receiving hhandled' hdeclares
          ⟨hcaptured.name, hcaptured.expectedSize, hcaptured.expectedSha⟩ ?_ hreceiving
        rw [contents_concat, if_pos rfl, ← hbuffer]
        rfl
      · exact h.ignore fun hreceiving' => absurd hreceiving' hreceiving
  | Done =>
      dsimp only
      split_ifs with hreceiving
      · obtain ⟨pre, mid, offerBody, offer, hhandled, hdeclares, hcaptured, hbuffer⟩ :=
          h.of_receiving hreceiving
        have hhandled' : d.handled ++ [⟨.Done, body⟩] =
            pre ++ ⟨.Offer, offerBody⟩ :: (mid ++ [⟨.Done, body⟩]) := by simp [hhandled]
        exact handleDone hhandled' hdeclares hcaptured hbuffer hreceiving
      · exact h.ignore (by simp)
  | _ => exact h.ignore (by simp)

end Course

/-! ## Cycles and runs

A session's own work does not touch the course, and neither does a reassembler; frames keep it.
-/

namespace SessionReceiver

variable (zlib : Bytes → ℕ) (sha256Hex : Bytes → String) (loads : JsonLoads)

/-- The receiver has come to its state in order. -/
def InCourse (d : SessionReceiver) : Prop := Course sha256Hex loads d.handled d.receiver

variable {zlib sha256Hex loads} {d : SessionReceiver}

lemma preserves_onSession {α : Type} (x : SessionM α) :
    Preserves (InCourse sha256Hex loads) (onSession x) := by
  rw [onSession_eq_zoom]
  exact preserves_zoom fun _ h => h

lemma preserves_feed (chunk : Bytes) :
    Preserves (InCourse sha256Hex loads) (onReceiver (FileEnd.feed chunk)) := by
  rintro d (h : Course sha256Hex loads d.handled d.receiver)
  rcases hfeed : d.receiver.reassembler.feed chunk with ⟨text | frames, r⟩
  · rw [after_error (onReceiver_error (FileEnd.feed_error hfeed))]
    exact h.congr rfl rfl rfl
  · rw [after_ok (onReceiver_ok (FileEnd.feed_ok hfeed))]
    exact h.congr rfl rfl rfl

/-- **One cycle.** -/
theorem preserves_pump (frames : List Bytes) :
    Preserves (InCourse sha256Hex loads) (pump zlib sha256Hex loads frames) := by
  refine preserves_get_bind fun d => ?_
  refine (preserves_onSession _).bind fun _ => (preserves_onSession _).bind fun chunks => ?_
  refine (preserves_forM (fun chunk => ?_) chunks).bind fun _ => ?_
  · exact (preserves_feed chunk).bind fun got => preserves_forM (fun f d h => h.handleFrame f) got
  · exact preserves_get_bind fun _ => preserves_pure _

variable (zlib sha256Hex loads) in
/-- One input; there is nothing to see but the receiver. -/
def step (d : SessionReceiver) (input : ReceiverInput) : Unit × SessionReceiver :=
  ((), next zlib sha256Hex loads d input)

lemma inCourse_next (h : InCourse sha256Hex loads d) (input : ReceiverInput) :
    InCourse sha256Hex loads (next zlib sha256Hex loads d input) := by
  cases input with
  | pump frames => exact preserves_pump frames d h
  | clock now => exact h
  | owner session => exact h

/-- The whole file, and nothing more. -/
lemma progress_eq_one_iff {r : FileReceiver} {offer : Offer} (h : r.role.Captured offer)
    (hsize : 0 ≤ offer.size) : r.progress = 1 ↔ offer.size ≤ r.role.buffer.length := by
  rw [FileReceiver.progress, h.expectedSize]
  dsimp only
  split_ifs with hzero
  · exact iff_of_true rfl (by omega)
  · have hpos : (0 : ℚ) < offer.size := by
      have hlt : 0 < offer.size := by omega
      exact_mod_cast hlt
    rw [min_eq_right_iff, one_le_div hpos]
    exact_mod_cast Iff.rfl

/-- An idle receiver that is handed a malformed offer rejects it, or stays as it is. -/
lemma after_malformed {body : Bytes} (hidle : d.receiver.state = .Idle) (h : Malformed loads body) :
    let d' := after (handleFrame zlib sha256Hex loads ⟨.Offer, body⟩) d
    (d'.receiver.state = .Idle ∧ d'.receiver.written = d.receiver.written) ∨
      d'.receiver.state = .Failed ∧
        d'.receiver.written = d.receiver.written ++ frameBytes rejectFrame := by
  intro d'
  have hd' : d' = after (rejectOffer zlib) { d with handled := d.handled ++ [⟨.Offer, body⟩] } := by
    show after (handleFrame zlib sha256Hex loads ⟨.Offer, body⟩) d = _
    rw [handleFrame, after_modify_bind, after_get_bind, ← after_handleOffer_of_malformed h]
    dsimp only
    rw [if_pos hidle]
  rw [hd', rejectOffer]
  rcases after_answer zlib (encodeControl .Reject Dict.empty) .Failed
      { d with handled := d.handled ++ [⟨.Offer, body⟩] } with
    ⟨session, bytes, hframe, hafter⟩ | ⟨session, hafter⟩
  · obtain rfl : frameBytes rejectFrame = bytes := Except.ok.inj (encode_reject.symm.trans hframe)
    rw [hafter]
    exact .inr ⟨rfl, rfl⟩
  · rw [hafter]
    exact .inl ⟨hidle, rfl⟩

/-- **A complete file has the digest of its offer.**  It consists of the chunks between the offer
and the DONE.  The declared size is never checked: the file has it, and the progress is 1, if no
data of another size has the digest.  And a malformed offer is never accepted: a receiver that has
been handed no other offer is idle, or it has failed and sent the rejection and nothing else. -/
theorem complete_file {session : Session} {now : ℚ} {streamId : ℤ} {autoAccept : Bool}
    {inputs : List ReceiverInput} {t : SessionReceiver}
    (ht : t ∈ Mealy.states (step zlib sha256Hex loads) (create session now streamId autoAccept) inputs) :
    (t.receiver.state = .Complete → ∃ pre mid post body done offer,
      t.handled = pre ++ ⟨.Offer, body⟩ :: (mid ++ ⟨.Done, done⟩ :: post) ∧
      Declares loads body offer ∧ t.receiver.role.Captured offer ∧
      t.receiver.fileBytes = some (contents mid) ∧ sha256Hex (contents mid) = offer.sha256 ∧
      ((∀ data, sha256Hex data = offer.sha256 → data.length = offer.size) →
        (contents mid).length = offer.size ∧ t.receiver.progress = 1)) ∧
    ((∀ f ∈ t.handled, f.type = .Offer → Malformed loads f.body) →
      (t.receiver.state = .Idle ∧ t.receiver.written = []) ∨
        t.receiver.state = .Failed ∧ t.receiver.written = frameBytes rejectFrame) ∧
    ∀ body, t.receiver.state = .Idle → Malformed loads body →
      let t' := after (handleFrame zlib sha256Hex loads ⟨.Offer, body⟩) t
      (t'.receiver.state = .Idle ∧ t'.receiver.written = t.receiver.written) ∨
        t'.receiver.state = .Failed ∧
          t'.receiver.written = t.receiver.written ++ frameBytes rejectFrame := by
  have hcourse : Course sha256Hex loads t.handled t.receiver :=
    (Mealy.forall_states_iff_along (J := fun _ => True) (Q := fun _ => True)
      (C := InCourse sha256Hex loads) (P := fun _ _ => True) (fun _ _ _ => trivial)
      (fun _ input _ _ h => iff_of_true (inCourse_next h input) trivial) (fun _ _ => trivial) trivial
      (.idle rfl rfl rfl)).mpr (Mealy.along_of_forall (fun _ _ => trivial) inputs _) t ht
  refine ⟨fun hcomplete => ?_, fun hmalformed => ?_, fun body hidle hbody => after_malformed hidle hbody⟩
  · cases hcourse with
    | idle hstate _ _ => simp [hstate] at hcomplete
    | rejected _ _ hstate _ => simp [hstate] at hcomplete
    | receiving _ _ _ _ hstate => simp [hstate] at hcomplete
    | @decided pre mid post body done offer hhandled hdeclares hcaptured hbuffer hstate =>
        have hdigest : sha256Hex (contents mid) = offer.sha256 := by
          rw [← hbuffer]
          by_contra hne
          rw [hstate, if_neg hne] at hcomplete
          cases hcomplete
        refine ⟨pre, mid, post, body, done, offer, hhandled, hdeclares, hcaptured, ?_, hdigest, ?_⟩
        · rw [FileReceiver.fileBytes, if_pos hcomplete, hbuffer]
        · intro hsizes
          have hsize := hsizes _ hdigest
          refine ⟨hsize, (progress_eq_one_iff hcaptured hdeclares.size).mpr ?_⟩
          rw [hbuffer, hsize]
  · cases hcourse with
    | idle hstate _ hwritten => exact .inl ⟨hstate, hwritten⟩
    | rejected _ _ hstate hwritten => exact .inr ⟨hstate, hwritten⟩
    | @receiving pre mid body offer hhandled hdeclares _ _ _ =>
        exact absurd hdeclares (hmalformed ⟨.Offer, body⟩ (by simp [hhandled]) rfl offer)
    | @decided pre mid post body done offer hhandled hdeclares _ _ _ =>
        exact absurd hdeclares (hmalformed ⟨.Offer, body⟩ (by simp [hhandled]) rfl offer)

/-- An offer of two bytes, with a size of the peer's choice. -/
def twoBytesOffer (size : ℤ) : Dict String JsonValue :=
  ((Dict.empty.set "name" (.str "a")).set "size" (.int size)).set "sha256"
    (.str "fb8e20fc2e4c3f248c60c39bd652f3c1347298bb977b8b4d5903b85055620603")

/-- The digest of these two bytes, and a decoder of these offers. -/
def twoBytesDigest (data : Bytes) : String :=
  if data = [97, 98] then "fb8e20fc2e4c3f248c60c39bd652f3c1347298bb977b8b4d5903b85055620603" else ""
/-- It reads this offer, whatever its size. -/
def twoBytesLoads (body : Bytes) : Except String JsonDocument :=
  if body = jsonDumps (twoBytesOffer 2) then .ok (.mapping (twoBytesOffer 2))
  else if body = jsonDumps (twoBytesOffer 5) then .ok (.mapping (twoBytesOffer 5))
  else .error "Expecting value: line 1 column 1 (char 0)"

/-- The peer completes the handshake, offers the file in four packets, sends it in one chunk and
says so. -/
def twoBytesRun (size : ℤ) : List ReceiverInput :=
  let data (seq : ℕ) (payload : Bytes) :=
    SessionSender.wirePacket .Data FILE_STREAM_ID seq 0 Flags.none payload
  let offer := frameBytes ⟨.Offer, jsonDumps (twoBytesOffer size)⟩
  [.pump SessionSender.handshake,
    .pump ((List.range 4).map fun i => data i ((offer.drop (30 * i)).take 30)),
    .pump [data 4 (frameBytes (chunkFrame [97, 98])), data 5 (frameBytes doneFrame)]]

/-- The states that the receiver goes through. -/
def twoBytesStates (size : ℤ) : List SessionReceiver :=
  Mealy.states (step zlibCrc32 twoBytesDigest twoBytesLoads)
    (create (Session.create false 0 700) 0 FILE_STREAM_ID true) (twoBytesRun size)

/-- With the size that is right, the run ends with a complete file. -/
theorem complete_file_twoBytes : ∃ t ∈ twoBytesStates 2, ∃ mid offer,
    t.receiver.fileBytes = some (contents mid) ∧ twoBytesDigest (contents mid) = offer.sha256 ∧
      t.receiver.role.Captured offer := by
  have hcomplete : ∃ t ∈ twoBytesStates 2, t.receiver.state = .Complete := by decide +kernel
  obtain ⟨t, ht, hstate⟩ := hcomplete
  obtain ⟨pre, mid, post, body, done, offer, -, -, hcaptured, hbytes, hdigest, -⟩ :=
    (complete_file ht).1 hstate
  exact ⟨t, ht, mid, offer, hbytes, hdigest, hcaptured⟩

/-- **A complete file of the wrong size.** -/
theorem wrong_size : ∃ t ∈ twoBytesStates 5, t.receiver.state = .Complete ∧
    t.receiver.fileBytes = some [97, 98] ∧ t.receiver.role.expectedSize = some 5 ∧
    t.receiver.progress = 2 / 5 := by
  decide +kernel

/-! ## The receiver without its session

As for the sender.
-/

lemma refines_onReceiver {α : Type} (x : FileM IncomingFile α) :
    Refines receiver (onReceiver x) x := by
  rw [onReceiver_eq_zoom]
  exact refines_zoom fun _ _ => rfl

lemma receiver_of_onSession {α : Type} {x : SessionM α} {a : α} {d' : SessionReceiver}
    (h : onSession x d = .ok a d') : d'.receiver = d.receiver := by
  rw [onSession_eq_zoom] at h
  obtain ⟨session, -, rfl⟩ := zoom_eq_ok h
  rfl

lemma refines_sendOn (zlib : Bytes → ℕ) (frame : Except ValueError Bytes) :
    Refines receiver (sendOn zlib frame) (FileEnd.sendOn frame) := by
  rintro d a d' h
  cases frame with
  | error text => cases h
  | ok bytes =>
      rcases sendOn_cases zlib bytes d with ⟨session, hok⟩ | ⟨e, session, herror⟩
      · rw [hok] at h
        obtain ⟨rfl, rfl⟩ := EStateM.Result.ok.inj h
        rfl
      · rw [herror] at h
        cases h

/-- An answer and the state behind it. -/
lemma refines_answer (zlib : Bytes → ℕ) (frame : Except ValueError Bytes)
    (state : FileTransferState) :
    Refines receiver (sendOn zlib frame >>= fun _ => onReceiver (FileEnd.setState state))
      (FileEnd.sendOn frame >>= fun _ => FileEnd.setState state) :=
  (refines_sendOn zlib frame).bind fun _ => refines_onReceiver _

lemma refines_handleOffer (body : Bytes) :
    Refines receiver (handleOffer zlib loads body) (FileReceiver.handleOffer loads body) := by
  refine (refines_onReceiver _).bind fun valid => ?_
  cases valid with
  | true =>
      rintro d a d' h
      rw [if_pos rfl, get_bind] at h ⊢
      split_ifs at h ⊢
      · exact refines_answer zlib _ _ d a d' h
      · exact refines_pure _ d a d' h
  | false => exact refines_answer zlib _ _

lemma refines_handleDone :
    Refines receiver (handleDone zlib sha256Hex) (FileReceiver.handleDone sha256Hex) := by
  rintro d a d' h
  rw [handleDone, get_bind] at h
  rw [FileReceiver.handleDone, get_bind]
  split_ifs at h ⊢
  · exact ((refines_onReceiver _).bind fun _ => refines_answer zlib _ _) d a d' h
  · exact ((refines_onReceiver _).bind fun _ => refines_answer zlib _ _) d a d' h

lemma refines_handleFrame (f : FileFrame) : Refines receiver (handleFrame zlib sha256Hex loads f)
    (FileReceiver.handleFrame sha256Hex loads f) := by
  rintro d a d' h
  rw [handleFrame, modify_bind, get_bind] at h
  rw [FileReceiver.handleFrame, get_bind]
  let recorded : SessionReceiver := { d with handled := d.handled ++ [f] }
  have hignored : (pure () : ReceiverM Unit) recorded = .ok a d' →
      (pure () : FileM IncomingFile Unit) d.receiver = .ok a d'.receiver := by
    intro h
    obtain ⟨rfl, rfl⟩ := EStateM.Result.ok.inj h
    rfl
  cases htype : f.type with
  | Offer =>
      simp only [htype] at h ⊢
      split_ifs at h ⊢
      · exact refines_handleOffer f.body recorded a d' h
      · exact hignored h
  | Chunk =>
      simp only [htype] at h ⊢
      split_ifs at h ⊢
      · exact refines_onReceiver _ recorded a d' h
      · exact hignored h
  | Done =>
      simp only [htype] at h ⊢
      split_ifs at h ⊢
      · exact refines_handleDone recorded a d' h
      · exact hignored h
  | _ =>
      simp only [htype] at h ⊢
      exact hignored h

/-- **A cycle that raises nothing is one of the receiver without a session**, with the chunks that
it has taken off the session. -/
theorem pump_refines {arrived : List Bytes} {state : FileTransferState} {d' : SessionReceiver}
    (h : pump zlib sha256Hex loads arrived d = .ok state d') :
    ∃ chunks, FileReceiver.pump sha256Hex loads chunks d.receiver = .ok state d'.receiver := by
  rw [pump, get_bind] at h
  obtain ⟨events, d₁, hpump, h⟩ := bind_eq_ok h
  obtain ⟨chunks, d₂, hrecv, h⟩ := bind_eq_ok h
  refine ⟨chunks, ?_⟩
  rw [← receiver_of_onSession hpump, ← receiver_of_onSession hrecv]
  have hread : Refines receiver (readChunks zlib sha256Hex loads chunks) _ :=
    refines_forM (fun chunk => (refines_onReceiver (FileEnd.feed chunk)).bind fun got =>
      refines_forM refines_handleFrame got) chunks
  refine (hread.bind fun _ => ?_) d₂ state d' h
  rintro e a e' he
  obtain ⟨rfl, rfl⟩ := EStateM.Result.ok.inj he
  rfl

end SessionReceiver

end PhotonTCP
