import PhotonTCP.App.FileCodec
import PhotonTCP.Foundation.Raising

/-!
# File transfer: the two ends

The sender offers a file, sends it in chunks once the offer is accepted, and is complete when the
receiver has acknowledged it; the receiver collects the chunks and verifies their digest.  Neither
closes the session.

What the session does is the stream between the two, so an end keeps what it has handed to
`send_on`, and a pump is given the chunks that `recv_on` returns.  Operations are computations that
can raise, and what was done before an exception is not undone.

* `FileEnd` — what both ends have: a state, a reassembler, and the same `pump`.
* `FileSender` — `start`, `sendAllChunksAndDone`, `handleFrame`.
* `FileReceiver` — `handleOffer`, `handleDone`, `handleFrame`.
* **`FileEnd.pump_spec`** — the rule for pumps: they handle exactly the frames that arrive.

The completion handshake is what makes it safe to close the session.  The receiver acknowledges when
it has every chunk and the digest agrees, and the acknowledgement comes on the same reliable stream
as everything else; so a sender that is complete has nothing in flight.  That the file is complete
is said by the state alone, and whether the session is ever closed is up to the caller.

In this module there is no session.  An end that cannot be told what its session does can still be
told what it writes, and when the sessions work this is all that matters: the ends with their
sessions are modelled elsewhere, and what they do when nothing raises is what the ends here do.
-/

namespace PhotonTCP

/-- The states of both ends. -/
inductive FileTransferState where
  | Idle
  | Offered
  | Sending
  | DoneSent
  | Receiving
  | Complete
  | Failed
deriving DecidableEq

/-- The names of the states. -/
def FileTransferState.name : FileTransferState → String
  | Idle => "IDLE"
  | Offered => "OFFERED"
  | Sending => "SENDING"
  | DoneSent => "DONE_SENT"
  | Receiving => "RECEIVING"
  | Complete => "COMPLETE"
  | Failed => "FAILED"

/-- What an operation can raise. -/
inductive FileError where
  | ValueError (text : String)
  | RuntimeError (text : String)
deriving DecidableEq

/-- `start` can be called once, whatever has become of the transfer. -/
def FileError.alreadyStarted (state : FileTransferState) : FileError :=
  .RuntimeError s!"start() already called (state=FileTransferState.{state.name})"

/-! ## What both ends have

The two classes of the source share the fields and the loop of `pump`, and differ in
`_handle_frame`.  So a pump takes the handler as an argument.
-/

/-- One end, with what is particular to its role. -/
structure FileEnd (R : Type) where
  role : R
  state : FileTransferState := .Idle
  reassembler : FileFrameReassembler := {}
  written : Bytes := []

/-- Computations on an end. -/
abbrev FileM (R : Type) := EStateM FileError (FileEnd R)

namespace FileEnd

variable {R : Type}

/-- Hand a frame to the stream; what its encoder raises is raised here. -/
def sendOn (frame : Except ValueError Bytes) : FileM R Unit :=
  match frame with
  | .error text => throw (.ValueError text)
  | .ok bytes => modify fun e => { e with written := e.written ++ bytes }

/-- The new state of an end. -/
def setState (state : FileTransferState) : FileM R Unit := modify fun e => { e with state }

/-- Give the reassembler what has arrived. -/
def feed (chunk : Bytes) : FileM R (List FileFrame) := do
  let result ← modifyGet fun e =>
    ((e.reassembler.feed chunk).1, { e with reassembler := (e.reassembler.feed chunk).2 })
  match result with
  | .error text => throw (.ValueError text)
  | .ok frames => return frames

/-- One cycle, with the chunks that the session delivers in it. -/
def pump (handleFrame : FileFrame → FileM R Unit) (chunks : List Bytes) :
    FileM R FileTransferState := do
  chunks.forM fun chunk => do
    let frames ← feed chunk
    frames.forM handleFrame
  return (← get).state

end FileEnd

variable (sha256Hex : Bytes → String)

open FileEnd

/-! ## The sender

All chunks are queued at once, and the reliable stream paces them.
-/

/-- The file to send; the constructor refuses a chunk size that is not positive. -/
structure OutgoingFile where
  name : String
  data : Bytes
  chunkSize : ℕ := 1024
  chunkSize_pos : 0 < chunkSize := by decide

/-- The mapping of the OFFER. -/
def OutgoingFile.offer (file : OutgoingFile) : Dict String JsonValue :=
  ((Dict.empty.set "name" (.str file.name)).set "size" (.int file.data.length)).set "sha256"
    (.str (sha256Hex file.data))

/-- The sender. -/
abbrev FileSender := FileEnd OutgoingFile

namespace FileSender

/-- Queue the OFFER. -/
def start : FileM OutgoingFile Unit := do
  let s ← get
  if s.state = .Idle then
    sendOn (encodeControl .Offer (s.role.offer sha256Hex))
    setState .Offered
  else throw (.alreadyStarted s.state)

/-- The slices of the file, each of `chunkSize` bytes but the last. -/
def slices {chunkSize : ℕ} (hpos : 0 < chunkSize) (data : Bytes) : List Bytes :=
  if _h : data = [] then []
  else data.take chunkSize :: slices hpos (data.drop chunkSize)
termination_by data.length
decreasing_by
  have := List.length_pos_iff.mpr _h
  rw [List.length_drop]
  omega

/-- Queue every CHUNK, then the DONE. -/
def sendAllChunksAndDone : FileM OutgoingFile Unit := do
  let s ← get
  (slices s.role.chunkSize_pos s.role.data).forM fun piece => sendOn (encodeFrame .Chunk piece)
  sendOn (encodeControl .Done Dict.empty)
  setState .DoneSent

/-- Apply one frame; what is out of place is ignored. -/
def handleFrame (frame : FileFrame) : FileM OutgoingFile Unit := do
  let s ← get
  match frame.type with
  | .Accept =>
      if s.state = .Offered then
        setState .Sending
        sendAllChunksAndDone
  | .Reject => if s.state = .Offered then setState .Failed
  | .Ack => if s.state = .DoneSent then setState .Complete
  | .Nack => if s.state = .DoneSent then setState .Failed
  | .Offer | .Chunk | .Done => pure ()

/-- One cycle. -/
def pump : List Bytes → FileM OutgoingFile FileTransferState := FileEnd.pump handleFrame

end FileSender

/-! ## The receiver

An offer is taken when the receiver is idle, and a second one is ignored.  The size of an offer is
kept and is never looked at again, except by `progress`.
-/

/-- What has been received, and what was offered. -/
structure IncomingFile where
  autoAccept : Bool := true
  buffer : Bytes := []
  name : Option String := none
  expectedSize : Option ℤ := none
  expectedSha : Option String := none
  verified : Bool := false

/-- The receiver. -/
abbrev FileReceiver := FileEnd IncomingFile

namespace FileReceiver

/-- The file, once it is complete. -/
def fileBytes (r : FileReceiver) : Option Bytes :=
  if r.state = .Complete then some r.role.buffer else none

/-- Change what the receiver knows of the file. -/
def modifyFile (f : IncomingFile → IncomingFile) : FileM IncomingFile Unit :=
  modify fun r => { r with role := f r.role }

variable (loads : JsonLoads)

/-- Whether the body is an OFFER; if so, keep what it says.  A `bool` is no size. -/
def offerIsValid (body : Bytes) : FileM IncomingFile Bool :=
  match decodeControl loads body with
  | .error _ => return false
  | .ok offered =>
      match offered.get? "name", offered.get? "size", offered.get? "sha256" with
      | some (.str name), some (.int size), some (.str sha) =>
          if size < 0 then return false
          else do
            modifyFile fun file => { file with
              name := some name, expectedSize := some size, expectedSha := some sha }
            return true
      | _, _, _ => return false

/-- Answer with REJECT; the receiver has failed. -/
def rejectOffer : FileM IncomingFile Unit := do
  sendOn (encodeControl .Reject Dict.empty)
  setState .Failed

/-- Accept the offer or reject it, as the receiver was told to and if it says anything at all. -/
def handleOffer (body : Bytes) : FileM IncomingFile Unit := do
  if ← offerIsValid loads body then
    if (← get).role.autoAccept then
      sendOn (encodeControl .Accept Dict.empty)
      setState .Receiving
  else rejectOffer

/-- Verify the file and say so. -/
def handleDone : FileM IncomingFile Unit := do
  let r ← get
  if some (sha256Hex r.role.buffer) = r.role.expectedSha then
    modifyFile fun file => { file with verified := true }
    sendOn (encodeControl .Ack (Dict.empty.set "ok" (.bool true)))
    setState .Complete
  else
    modifyFile fun file => { file with verified := false }
    sendOn (encodeControl .Nack (Dict.empty.set "ok" (.bool false)))
    setState .Failed

/-- Apply one frame; what is out of place is ignored. -/
def handleFrame (frame : FileFrame) : FileM IncomingFile Unit := do
  let r ← get
  match frame.type with
  | .Offer => if r.state = .Idle then handleOffer loads frame.body
  | .Chunk =>
      if r.state = .Receiving then
        modifyFile fun file => { file with buffer := file.buffer ++ frame.body }
  | .Done => if r.state = .Receiving then handleDone sha256Hex
  | .Accept | .Reject | .Ack | .Nack => pure ()

/-- One cycle. -/
def pump : List Bytes → FileM IncomingFile FileTransferState :=
  FileEnd.pump (handleFrame sha256Hex loads)

end FileReceiver

/-! ## Pumps

A pump is given bytes, and what they mean is a list of frames.  The rule turns a statement about one
frame into a statement about any cutting of the bytes, so that the proofs about transfers are about
frames.
-/

/-- `bytes` are the encodings of `frames`. -/
def Encodes (bytes : Bytes) (frames : List FileFrame) : Prop :=
  ∃ encs, encodeFrames frames = .ok encs ∧ encs.flatten = bytes

lemma Encodes.nil : Encodes [] [] := ⟨[], rfl, rfl⟩

lemma Encodes.append {bytes bytes' : Bytes} {frames frames' : List FileFrame}
    (h : Encodes bytes frames) (h' : Encodes bytes' frames') :
    Encodes (bytes ++ bytes') (frames ++ frames') := by
  obtain ⟨encs, hencs, rfl⟩ := h
  obtain ⟨encs', hencs', rfl⟩ := h'
  refine ⟨encs ++ encs', ?_, List.flatten_append⟩
  induction frames generalizing encs with
  | nil =>
      obtain rfl : encs = [] := by simpa [encodeFrames_nil, eq_comm] using hencs
      exact hencs'
  | cons f frames ih =>
      obtain ⟨enc, rest, hf, hrest, rfl⟩ := encodeFrames_cons.mp hencs
      exact encodeFrames_cons.mpr ⟨enc, rest ++ encs', hf, ih rest hrest, rfl⟩

/-- What a call of `feed` returns of the frames that are on their way. -/
lemma Encodes.feed {r : FileFrameReassembler} {data more : Bytes} {frames : List FileFrame}
    (h : Encodes (r.buf ++ (data ++ more)) frames) :
    ∃ got rest r', frames = got ++ rest ∧ r.feed data = (.ok got, r') ∧
      Encodes (r'.buf ++ more) rest := by
  obtain ⟨encs, hencs, hbytes⟩ := h
  obtain ⟨hfst, hsnd, hspells⟩ := encodeFrames_spells hencs
  obtain ⟨n, rest, hscan, hrest, -⟩ := Framing.scan_encoded more hspells
    (show r.buf ++ data ++ more = _ by rw [hfst, hbytes, List.append_assoc])
  rw [List.map_take, hsnd] at hscan
  rw [List.map_drop, hfst] at hrest
  refine ⟨frames.take n, frames.drop n, ⟨rest⟩, (List.take_append_drop n frames).symm, ?_,
    encs.drop n, encodeFrames_drop hencs n, hrest.symm⟩
  rw [FileFrameReassembler.feed, Framing.feed_of_none (by rw [hscan]), hscan]

open Raising

namespace FileEnd

variable {R : Type} {handle : FileFrame → FileM R Unit} {P : FileEnd R → List FileFrame → Prop}

/-- What handling a frame has to do for the rule: it succeeds, uses the frame up and leaves the
reassembler alone. -/
def Handles (handle : FileFrame → FileM R Unit) (P : FileEnd R → List FileFrame → Prop) : Prop :=
  ∀ e f fs, P e (f :: fs) →
    ∃ e', handle f e = .ok () e' ∧ P e' fs ∧ e'.reassembler = e.reassembler

lemma forM_handle (h : Handles handle P) : ∀ {fs rest : List FileFrame} {e : FileEnd R},
    P e (fs ++ rest) → ∃ e', fs.forM handle e = .ok () e' ∧ P e' rest ∧
      e'.reassembler = e.reassembler
  | [], rest, e, hP => ⟨e, rfl, hP, rfl⟩
  | f :: fs, rest, e, hP => by
      obtain ⟨e₁, hrun₁, hP₁, hr₁⟩ := h e f (fs ++ rest) hP
      obtain ⟨e₂, hrun₂, hP₂, hr₂⟩ := forM_handle h hP₁
      exact ⟨e₂, (bind_ok hrun₁).trans hrun₂, hP₂, hr₂.trans hr₁⟩

lemma feed_ok {e : FileEnd R} {chunk : Bytes} {frames : List FileFrame} {r : FileFrameReassembler}
    (h : e.reassembler.feed chunk = (.ok frames, r)) :
    feed chunk e = .ok frames { e with reassembler := r } := by
  have hmodify : (modifyGet fun e : FileEnd R => ((e.reassembler.feed chunk).1,
      { e with reassembler := (e.reassembler.feed chunk).2 }) : FileM R _) e
        = .ok (.ok frames) { e with reassembler := r } := by
    show EStateM.Result.ok _ _ = _
    rw [h]
  exact bind_ok hmodify

lemma feed_error {e : FileEnd R} {chunk : Bytes} {text : ValueError} {r : FileFrameReassembler}
    (h : e.reassembler.feed chunk = (.error text, r)) :
    feed chunk e = .error (.ValueError text) { e with reassembler := r } := by
  have hmodify : (modifyGet fun e : FileEnd R => ((e.reassembler.feed chunk).1,
      { e with reassembler := (e.reassembler.feed chunk).2 }) : FileM R _) e
        = .ok (.error text) { e with reassembler := r } := by
    show EStateM.Result.ok _ _ = _
    rw [h]
  exact bind_ok hmodify

lemma pump_cons (handle : FileFrame → FileM R Unit) (chunk : Bytes) (chunks : List Bytes) :
    pump handle (chunk :: chunks) =
      (feed chunk >>= fun frames => frames.forM handle) >>= fun _ => pump handle chunks := by
  simp only [pump, List.forM_eq_forM, List.forM_cons, bind_assoc]

/-- **The rule for pumps**: a pump handles exactly the frames that the chunks complete, in order. -/
theorem pump_spec (h : Handles handle P)
    (hP : ∀ e r fs, P e fs → P { e with reassembler := r } fs) {chunks : List Bytes} {more : Bytes} :
    ∀ {e : FileEnd R} {fs : List FileFrame}, P e fs →
      Encodes (e.reassembler.buf ++ (chunks.flatten ++ more)) fs →
      ∃ e' rest, pump handle chunks e = .ok e'.state e' ∧ P e' rest ∧
        Encodes (e'.reassembler.buf ++ more) rest := by
  induction chunks with
  | nil => exact fun {e fs} hfs hencodes => ⟨e, fs, rfl, hfs, hencodes⟩
  | cons chunk chunks ih =>
      intro e fs hfs hencodes
      rw [List.flatten_cons, List.append_assoc] at hencodes
      obtain ⟨got, rest, r, rfl, hfeed, hencodes₁⟩ := hencodes.feed
      obtain ⟨e₁, hrun₁, hP₁, hr₁⟩ := forM_handle h (hP e r _ hfs)
      rw [← show e₁.reassembler = r from hr₁] at hencodes₁
      obtain ⟨e₂, last, hrun₂, hP₂, hencodes₂⟩ := ih hP₁ hencodes₁
      refine ⟨e₂, last, ?_, hP₂, hencodes₂⟩
      have hchunk : (feed chunk >>= fun frames => frames.forM handle : FileM R Unit) e
          = .ok () e₁ := (bind_ok (feed_ok hfeed)).trans hrun₁
      rw [pump_cons, bind_ok hchunk, hrun₂]

end FileEnd

end PhotonTCP
