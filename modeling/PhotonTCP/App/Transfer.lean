import PhotonTCP.App.File
import PhotonTCP.Foundation.Transition

/-!
# File transfer: both ends together

Two reliable streams connect a sender and a receiver; each pump is given some of the bytes that are
on their way, cut into chunks in any way.

* `FileLink`, `FileLink.system` — the ends, and how much of either stream has been delivered.
* `Phase` — how far the transfer is: the states of both ends, and the frames that are on their way.
* `Joint` — the invariant: the bytes on their way spell the frames of some phase.
* **`file_transfer`** — the ends agree on the outcome, and a complete file is the one that was sent.

The streams are reliable here: they deliver what was written, in order and once.  They may be slow,
and a pump gets any amount of what is there in pieces of any size.  What is proved for such streams
holds over two sessions as well, since what comes through them is a state of this link.

The protocol runs in a straight line, and frames are on their way to one end at a time.  So there
are six phases and a phase determines the frames.  A pump uses up a prefix of the bytes; either they
complete frames, and the phase moves on, or the reassembler keeps them.
-/

namespace PhotonTCP

open FileEnd
open Raising (bind_ok get_bind)

/-! ## The link

A pump that raises leaves the end as it was when the exception was raised, and takes its bytes all
the same.
-/

/-- Both ends, and the number of bytes that the stream to either has delivered. -/
structure FileLink where
  sender : FileSender
  receiver : FileReceiver
  senderRead : ℕ := 0
  receiverRead : ℕ := 0

/-- What is done to either end; a pump is given the chunks that its session would deliver. -/
inductive FileAction where
  | start
  | senderPump (chunks : List Bytes)
  | receiverPump (chunks : List Bytes)
deriving DecidableEq

/-- The end after an operation, which may have raised. -/
def FileEnd.after {R α : Type} (x : FileM R α) (e : FileEnd R) : FileEnd R :=
  match x e with
  | .ok _ e' => e'
  | .error _ e' => e'

lemma FileEnd.after_of_ok {R α : Type} {x : FileM R α} {e e' : FileEnd R} {a : α}
    (h : x e = .ok a e') : after x e = e' := by
  rw [after, h]

variable (sha256Hex : Bytes → String) (loads : JsonLoads)

namespace FileLink

/-- What is on its way to the receiver. -/
def toReceiver (link : FileLink) : Bytes := link.sender.written.drop link.receiverRead

/-- What is on its way to the sender. -/
def toSender (link : FileLink) : Bytes := link.receiver.written.drop link.senderRead

/-- A pump gets the next bytes of its stream. -/
def enabled (link : FileLink) : FileAction → Prop
  | .start => True
  | .senderPump chunks => chunks.flatten <+: link.toSender
  | .receiverPump chunks => chunks.flatten <+: link.toReceiver

instance (link : FileLink) : (act : FileAction) → Decidable (link.enabled act)
  | .start => isTrue trivial
  | .senderPump _ | .receiverPump _ => inferInstanceAs (Decidable (_ <+: _))

/-- The bytes count as taken whether the pump returns or raises. -/
def next (link : FileLink) : FileAction → FileLink
  | .start => { link with sender := after (FileSender.start sha256Hex) link.sender }
  | .senderPump chunks => { link with
      sender := after (FileSender.pump chunks) link.sender
      senderRead := link.senderRead + chunks.flatten.length }
  | .receiverPump chunks => { link with
      receiver := after (FileReceiver.pump sha256Hex loads chunks) link.receiver
      receiverRead := link.receiverRead + chunks.flatten.length }

/-- The link as a transition system. -/
def system : Transition FileLink FileAction := ⟨enabled, next sha256Hex loads⟩

instance (link : FileLink) (act : FileAction) :
    Decidable ((system sha256Hex loads).enabled link act) :=
  inferInstanceAs (Decidable (link.enabled act))

end FileLink

/-! ## The frames of a transfer

Only the OFFER and the chunks depend on the file.  An OFFER can be too long, since the name is in
it, and a chunk can; what the codecs have to do is to fit them, and to read the OFFER as it was
written.
-/

/-- The OFFER of the file. -/
def offerFrame (file : OutgoingFile) : FileFrame := ⟨.Offer, jsonDumps (file.offer sha256Hex)⟩
/-- The answer to it. -/
def acceptFrame : FileFrame := ⟨.Accept, jsonDumps Dict.empty⟩
/-- A slice of the file, as it is. -/
def chunkFrame (piece : Bytes) : FileFrame := ⟨.Chunk, piece⟩
/-- All chunks have been sent. -/
def doneFrame : FileFrame := ⟨.Done, jsonDumps Dict.empty⟩
/-- The receiver has the file. -/
def ackFrame : FileFrame := ⟨.Ack, jsonDumps (Dict.empty.set "ok" (.bool true))⟩

/-- What the codecs have to do for this file. -/
structure Offerable (file : OutgoingFile) : Prop where
  chunkSize : file.chunkSize < 2 ^ 24
  fits : 1 + (jsonDumps (file.offer sha256Hex)).length ≤ MAX_FRAME_BYTES
  roundTrip : loads (jsonDumps (file.offer sha256Hex)) = .ok (.mapping (file.offer sha256Hex))

lemma encodes_of_fits (f : FileFrame) (h : 1 + f.body.length ≤ MAX_FRAME_BYTES) :
    ∃ enc, f.encode = .ok enc ∧ Encodes enc [f] :=
  ⟨_, encode_eq_ok_iff.mpr ⟨h, rfl⟩, _, encodeFrames_cons.mpr
    ⟨_, [], encode_eq_ok_iff.mpr ⟨h, rfl⟩, rfl, rfl⟩, by simp⟩

/-- Sending a frame that fits. -/
lemma sendOn_ok {R : Type} {f : FileFrame} {enc : Bytes} (h : f.encode = .ok enc) (e : FileEnd R) :
    sendOn (encodeFrame f.type f.body) e = .ok () { e with written := e.written ++ enc } := by
  rw [show encodeFrame f.type f.body = .ok enc from h]
  rfl

/-! ### The slices of the file

The loop `for i in range(0, len(data), chunk_size)`.
-/

namespace FileSender

variable {chunkSize : ℕ}

/-- The slices are the file. -/
lemma flatten_slices (hpos : 0 < chunkSize) (data : Bytes) : (slices hpos data).flatten = data := by
  induction hn : data.length using Nat.strongRecOn generalizing data with
  | ind n ih =>
    rw [slices]
    split_ifs with hempty
    · rw [hempty]
      rfl
    · have hlen := List.length_pos_iff.mpr hempty
      rw [List.flatten_cons, ih (data.drop chunkSize).length (by rw [List.length_drop]; omega) _ rfl,
        List.take_append_drop]

/-- No slice is longer than a chunk. -/
lemma length_le_of_mem_slices (hpos : 0 < chunkSize) {piece : Bytes} (data : Bytes) :
    piece ∈ slices hpos data → piece.length ≤ chunkSize := by
  induction hn : data.length using Nat.strongRecOn generalizing data with
  | ind n ih =>
    rw [slices]
    split_ifs with hempty
    · simp
    · have hlen := List.length_pos_iff.mpr hempty
      rw [List.mem_cons]
      rintro (rfl | hmem)
      · rw [List.length_take]
        omega
      · exact ih (data.drop chunkSize).length (by rw [List.length_drop]; omega) _ rfl hmem

/-- Queueing chunks that fit. -/
lemma forM_sendOn_chunk : ∀ (pieces : List Bytes) (s : FileSender),
    (∀ piece ∈ pieces, 1 + piece.length ≤ MAX_FRAME_BYTES) →
    ∃ sent, (pieces.forM fun piece => sendOn (encodeFrame .Chunk piece)) s
        = .ok () { s with written := s.written ++ sent } ∧ Encodes sent (pieces.map chunkFrame)
  | [], s, _ => ⟨[], by rw [List.append_nil]; rfl, Encodes.nil⟩
  | piece :: pieces, s, h => by
      obtain ⟨enc, henc, hencodes⟩ := encodes_of_fits (chunkFrame piece) (h piece (by simp))
      obtain ⟨sent, hrun, hencodes'⟩ := forM_sendOn_chunk pieces
        { s with written := s.written ++ enc } fun p hp => h p (by simp [hp])
      refine ⟨enc ++ sent, ?_, hencodes.append hencodes'⟩
      refine (bind_ok (sendOn_ok henc s)).trans (hrun.trans ?_)
      rw [List.append_assoc]

/-- Queueing the whole file. -/
lemma sendAllChunksAndDone_ok {s : FileSender} (h : s.role.chunkSize < 2 ^ 24) :
    ∃ (pieces : List Bytes) (sent : Bytes), sendAllChunksAndDone s
        = .ok () { s with written := s.written ++ sent, state := .DoneSent } ∧
      pieces.flatten = s.role.data ∧ Encodes sent (pieces.map chunkFrame ++ [doneFrame]) := by
  obtain ⟨sent, hrun, hencodes⟩ := forM_sendOn_chunk
    (slices s.role.chunkSize_pos s.role.data) s fun piece hp => by
      have hle := length_le_of_mem_slices _ _ hp
      have hmax : MAX_FRAME_BYTES = 2 ^ 24 := rfl
      omega
  obtain ⟨enc, henc, hencodes'⟩ := encodes_of_fits doneFrame (by decide +kernel)
  refine ⟨_, sent ++ enc, ?_, flatten_slices _ _, hencodes.append hencodes'⟩
  rw [sendAllChunksAndDone, get_bind]
  refine (bind_ok hrun).trans ((bind_ok (sendOn_ok henc _)).trans ?_)
  rw [← List.append_assoc]
  rfl

end FileSender

/-! ## The phases of a transfer

The phase of a transfer says nothing about bytes; frames are all there is.  It says what the
receiver has collected, and that this and the chunks on their way are the file.
-/

/-- The receiver is collecting: `got` has arrived. -/
structure Collecting (file : OutgoingFile) (r : FileReceiver) (got : Bytes) : Prop where
  state : r.state = .Receiving
  buffer : r.role.buffer = got
  sha : r.role.expectedSha = some (sha256Hex file.data)
  name : r.role.name = some file.name

/-- The receiver has the file. -/
structure Verified (file : OutgoingFile) (r : FileReceiver) : Prop where
  state : r.state = .Complete
  buffer : r.role.buffer = file.data
  name : r.role.name = some file.name

/-- How far the transfer is: the frames on their way to the receiver, and those to the sender. -/
inductive Phase (file : OutgoingFile) (s : FileSender) (r : FileReceiver) :
    List FileFrame → List FileFrame → Prop where
  | idle (sender : s.state = .Idle) (receiver : r.state = .Idle) (empty : r.role.buffer = []) :
      Phase file s r [] []
  | offered (sender : s.state = .Offered) (receiver : r.state = .Idle)
      (empty : r.role.buffer = []) : Phase file s r [offerFrame sha256Hex file] []
  | accepted (sender : s.state = .Offered) (receiver : Collecting sha256Hex file r []) :
      Phase file s r [] [acceptFrame]
  | sending {got : Bytes} {pieces : List Bytes} (sender : s.state = .DoneSent)
      (receiver : Collecting sha256Hex file r got) (data : got ++ pieces.flatten = file.data) :
      Phase file s r (pieces.map chunkFrame ++ [doneFrame]) []
  | verified (sender : s.state = .DoneSent) (receiver : Verified file r) :
      Phase file s r [] [ackFrame]
  | complete (sender : s.state = .Complete) (receiver : Verified file r) : Phase file s r [] []

variable {sha256Hex loads} {file : OutgoingFile} {s : FileSender} {r : FileReceiver}
  {pendR pendS : List FileFrame}

/-- Only the sender's state counts. -/
lemma Phase.of_sender {s' : FileSender} (h : Phase sha256Hex file s r pendR pendS)
    (hstate : s'.state = s.state) : Phase sha256Hex file s' r pendR pendS := by
  cases h with
  | idle hs hr hempty => exact .idle (hstate.trans hs) hr hempty
  | offered hs hr hempty => exact .offered (hstate.trans hs) hr hempty
  | accepted hs hr => exact .accepted (hstate.trans hs) hr
  | sending hs hr hdata => exact .sending (hstate.trans hs) hr hdata
  | verified hs hr => exact .verified (hstate.trans hs) hr
  | complete hs hr => exact .complete (hstate.trans hs) hr

/-- Only the receiver's state and file count. -/
lemma Phase.of_receiver {r' : FileReceiver} (h : Phase sha256Hex file s r pendR pendS)
    (hstate : r'.state = r.state) (hrole : r'.role = r.role) :
    Phase sha256Hex file s r' pendR pendS := by
  have hcollecting : ∀ {got : Bytes}, Collecting sha256Hex file r got →
      Collecting sha256Hex file r' got := fun hr =>
    ⟨hstate.trans hr.state, hrole ▸ hr.buffer, hrole ▸ hr.sha, hrole ▸ hr.name⟩
  have hverified : Verified file r → Verified file r' := fun hr =>
    ⟨hstate.trans hr.state, hrole ▸ hr.buffer, hrole ▸ hr.name⟩
  cases h with
  | idle hs hr hempty => exact .idle hs (hstate.trans hr) (hrole ▸ hempty)
  | offered hs hr hempty => exact .offered hs (hstate.trans hr) (hrole ▸ hempty)
  | accepted hs hr => exact .accepted hs (hcollecting hr)
  | sending hs hr hdata => exact .sending hs (hcollecting hr) hdata
  | verified hs hr => exact .verified hs (hverified hr)
  | complete hs hr => exact .complete hs (hverified hr)

/-! ### One frame for the receiver

By the phases in which a frame is on its way to the receiver: the OFFER, a chunk, the DONE.
-/

namespace FileReceiver

lemma get?_offer (sha256Hex : Bytes → String) (file : OutgoingFile) :
    (file.offer sha256Hex).get? "name" = some (.str file.name) ∧
    (file.offer sha256Hex).get? "size" = some (.int file.data.length) ∧
    (file.offer sha256Hex).get? "sha256" = some (.str (sha256Hex file.data)) := by
  simp [OutgoingFile.offer, Dict.get?_set]

/-- The offer is accepted. -/
lemma handleFrame_offer (hfile : Offerable sha256Hex loads file) {enc : Bytes}
    (henc : acceptFrame.encode = .ok enc) (hstate : r.state = .Idle)
    (hauto : r.role.autoAccept = true) :
    handleFrame sha256Hex loads (offerFrame sha256Hex file) r = .ok ()
      { r with
        role := { r.role with
          name := some file.name
          expectedSize := some file.data.length
          expectedSha := some (sha256Hex file.data) }
        written := r.written ++ enc
        state := .Receiving } := by
  obtain ⟨hname, hsize, hsha⟩ := get?_offer sha256Hex file
  have hvalid : offerIsValid loads (jsonDumps (file.offer sha256Hex)) r = .ok true { r with
      role := { r.role with
        name := some file.name
        expectedSize := some file.data.length
        expectedSha := some (sha256Hex file.data) } } := by
    rw [offerIsValid, decodeControl, hfile.roundTrip]
    dsimp only
    rw [hname, hsize, hsha]
    dsimp only
    rw [if_neg (by omega)]
    rfl
  rw [handleFrame, get_bind]
  dsimp only [offerFrame]
  rw [if_pos hstate, handleOffer, bind_ok hvalid, if_pos rfl, get_bind, if_pos hauto]
  exact bind_ok (sendOn_ok henc _)

/-- A chunk is appended. -/
lemma handleFrame_chunk (piece : Bytes) (hstate : r.state = .Receiving) :
    handleFrame sha256Hex loads (chunkFrame piece) r = .ok ()
      { r with role := { r.role with buffer := r.role.buffer ++ piece } } := by
  rw [handleFrame, get_bind]
  dsimp only [chunkFrame]
  rw [if_pos hstate]
  rfl

/-- The file is verified. -/
lemma handleFrame_done {enc : Bytes} (henc : ackFrame.encode = .ok enc)
    (hstate : r.state = .Receiving) (hsha : some (sha256Hex r.role.buffer) = r.role.expectedSha) :
    handleFrame sha256Hex loads doneFrame r = .ok ()
      { r with
        role := { r.role with verified := true }
        written := r.written ++ enc
        state := .Complete } := by
  rw [handleFrame, get_bind]
  dsimp only [doneFrame]
  rw [if_pos hstate, handleDone, get_bind, if_pos hsha]
  exact bind_ok (sendOn_ok henc _)

/-- What the receiver has written since some moment, and the phase it has brought the transfer to.
-/
def Answers (sha256Hex : Bytes → String) (file : OutgoingFile) (s : FileSender) (written : Bytes)
    (pendS : List FileFrame) (r : FileReceiver) (pendR : List FileFrame) : Prop :=
  r.role.autoAccept = true ∧ ∃ sent frames, r.written = written ++ sent ∧ Encodes sent frames ∧
    Phase sha256Hex file s r pendR (pendS ++ frames)

lemma Answers.withReassembler {written : Bytes}
    (h : Answers sha256Hex file s written pendS r pendR) (reassembler : FileFrameReassembler) :
    Answers sha256Hex file s written pendS { r with reassembler } pendR := by
  obtain ⟨hauto, sent, frames, hwritten, hencodes, hphase⟩ := h
  exact ⟨hauto, sent, frames, hwritten, hencodes, hphase.of_receiver rfl rfl⟩

/-- **The receiver handles the frames of a transfer**: every frame on its way to it takes the
transfer to its next phase. -/
theorem handles (hfile : Offerable sha256Hex loads file) (s : FileSender) (written : Bytes)
    (pendS : List FileFrame) :
    Handles (handleFrame sha256Hex loads) (Answers sha256Hex file s written pendS) := by
  rintro r f fs ⟨hauto, sent, frames, hwritten, hencodes, hphase⟩
  generalize hpend : f :: fs = pendR at hphase
  generalize hback : pendS ++ frames = back at hphase
  cases hphase with
  | idle => simp at hpend
  | accepted => simp at hpend
  | verified => simp at hpend
  | complete => simp at hpend
  | offered hs hr hempty =>
      obtain ⟨rfl, rfl⟩ := List.cons.inj hpend
      obtain ⟨enc, henc, hencodes'⟩ := encodes_of_fits acceptFrame (by decide +kernel)
      refine ⟨_, handleFrame_offer hfile henc hr hauto, ⟨hauto, sent ++ enc, frames ++ [acceptFrame],
        ?_, hencodes.append hencodes', ?_⟩, rfl⟩
      · rw [hwritten, List.append_assoc]
      · rw [← List.append_assoc, hback]
        exact .accepted hs ⟨rfl, hempty, rfl, rfl⟩
  | @sending got pieces hs hr hdata =>
      cases pieces with
      | nil =>
          obtain ⟨rfl, rfl⟩ := List.cons.inj hpend
          have hgot : r.role.buffer = file.data := by
            rw [hr.buffer, ← hdata, List.flatten_nil, List.append_nil]
          obtain ⟨enc, henc, hencodes'⟩ := encodes_of_fits ackFrame (by decide +kernel)
          refine ⟨_, handleFrame_done henc hr.state (by rw [hgot, hr.sha]),
            ⟨hauto, sent ++ enc, frames ++ [ackFrame], ?_, hencodes.append hencodes', ?_⟩, rfl⟩
          · rw [hwritten, List.append_assoc]
          · rw [← List.append_assoc, hback]
            exact .verified hs ⟨rfl, hgot, hr.name⟩
      | cons piece pieces =>
          obtain ⟨rfl, rfl⟩ := List.cons.inj hpend
          refine ⟨_, handleFrame_chunk piece hr.state, ⟨hauto, sent, frames, hwritten, hencodes, ?_⟩,
            rfl⟩
          rw [hback]
          have hr' : Collecting sha256Hex file
              { r with role := { r.role with buffer := r.role.buffer ++ piece } } (got ++ piece) :=
            ⟨hr.state, by rw [hr.buffer], hr.sha, hr.name⟩
          refine .sending hs hr' ?_
          rw [← hdata, List.flatten_cons, List.append_assoc]

end FileReceiver

/-! ### One frame for the sender

By the others: the ACCEPT, for which the sender queues the whole file, and the ACK.
-/

namespace FileSender

/-- What the sender has written since some moment, and the phase it has brought the transfer to. -/
def Answers (sha256Hex : Bytes → String) (file : OutgoingFile) (r : FileReceiver) (written : Bytes)
    (pendR : List FileFrame) (s : FileSender) (pendS : List FileFrame) : Prop :=
  s.role = file ∧ ∃ sent frames, s.written = written ++ sent ∧ Encodes sent frames ∧
    Phase sha256Hex file s r (pendR ++ frames) pendS

lemma Answers.withReassembler {written : Bytes}
    (h : Answers sha256Hex file r written pendR s pendS) (reassembler : FileFrameReassembler) :
    Answers sha256Hex file r written pendR { s with reassembler } pendS := by
  obtain ⟨hrole, sent, frames, hwritten, hencodes, hphase⟩ := h
  exact ⟨hrole, sent, frames, hwritten, hencodes, hphase.of_sender rfl⟩

/-- **The sender handles the frames of a transfer.** -/
theorem handles (hsize : file.chunkSize < 2 ^ 24) (r : FileReceiver) (written : Bytes)
    (pendR : List FileFrame) :
    Handles handleFrame (Answers sha256Hex file r written pendR) := by
  rintro s f fs ⟨hrole, sent, frames, hwritten, hencodes, hphase⟩
  generalize hpend : f :: fs = pendS at hphase
  generalize hback : pendR ++ frames = back at hphase
  cases hphase with
  | idle => simp at hpend
  | offered => simp at hpend
  | sending => simp at hpend
  | complete => simp at hpend
  | accepted hs hr =>
      obtain ⟨rfl, rfl⟩ := List.cons.inj hpend
      obtain ⟨pieces, sent', hrun, hdata, hencodes'⟩ :=
        sendAllChunksAndDone_ok (s := { s with state := .Sending }) (by rwa [hrole])
      refine ⟨{ s with written := s.written ++ sent', state := .DoneSent }, ?_,
        ⟨hrole, sent ++ sent', frames ++ (pieces.map chunkFrame ++ [doneFrame]), ?_,
          hencodes.append hencodes', ?_⟩, rfl⟩
      · rw [handleFrame, get_bind]
        dsimp only [acceptFrame]
        rw [if_pos hs]
        exact (bind_ok rfl).trans hrun
      · rw [hwritten, List.append_assoc]
      · rw [← List.append_assoc, hback]
        exact .sending rfl hr (by rw [List.nil_append, hdata, hrole])
  | verified hs hr =>
      obtain ⟨rfl, rfl⟩ := List.cons.inj hpend
      refine ⟨{ s with state := .Complete }, ?_, ⟨hrole, sent, frames, hwritten, hencodes, ?_⟩, rfl⟩
      · rw [handleFrame, get_bind]
        dsimp only [ackFrame]
        rw [if_pos hs]
        rfl
      · rw [hback]
        exact .complete rfl hr

end FileSender

/-! ## The invariant

The bytes that an end has not taken and the bytes in its reassembler spell the frames of the phase.
-/

/-- The bytes on their way spell the frames of some phase. -/
structure Joint (sha256Hex : Bytes → String) (file : OutgoingFile) (link : FileLink) : Prop where
  role : link.sender.role = file
  autoAccept : link.receiver.role.autoAccept = true
  receiverRead : link.receiverRead ≤ link.sender.written.length
  senderRead : link.senderRead ≤ link.receiver.written.length
  phase : ∃ pendR pendS, Phase sha256Hex file link.sender link.receiver pendR pendS ∧
    Encodes (link.receiver.reassembler.buf ++ link.toReceiver) pendR ∧
    Encodes (link.sender.reassembler.buf ++ link.toSender) pendS

namespace Joint

variable {link : FileLink}

/-- Bytes that were written last are on their way. -/
lemma drop_written {written sent : Bytes} {read : ℕ} (h : read ≤ written.length) :
    (written ++ sent).drop read = written.drop read ++ sent :=
  List.drop_append_of_le_length h

/-- Bytes that have been delivered no longer are. -/
lemma drop_delivered {written delivered more : Bytes} {read : ℕ}
    (h : delivered ++ more = written.drop read) :
    written.drop (read + delivered.length) = more ∧
      (read ≤ written.length → read + delivered.length ≤ written.length) := by
  refine ⟨?_, fun hle => ?_⟩
  · rw [← List.drop_drop, ← h, List.drop_left]
  · have := congrArg List.length h
    rw [List.length_append, List.length_drop] at this
    omega

lemma start (hfile : Offerable sha256Hex loads file) (h : Joint sha256Hex file link) :
    Joint sha256Hex file (link.next sha256Hex loads .start) := by
  obtain ⟨hrole, hauto, hreadR, hreadS, pendR, pendS, hphase, hencR, hencS⟩ := h
  obtain ⟨enc, henc, hencodes⟩ := encodes_of_fits (offerFrame sha256Hex file) hfile.fits
  by_cases hidle : link.sender.state = .Idle
  · have hnext : link.next sha256Hex loads .start = { link with sender := { link.sender with
        written := link.sender.written ++ enc, state := .Offered } } := by
      rw [FileLink.next, after_of_ok (a := ())]
      rw [FileSender.start, get_bind, if_pos hidle, hrole]
      exact bind_ok (sendOn_ok henc _)
    rw [hnext]
    refine ⟨hrole, hauto, ?_, hreadS, pendR ++ [offerFrame sha256Hex file], pendS, ?_, ?_, hencS⟩
    · show link.receiverRead ≤ (link.sender.written ++ enc).length
      rw [List.length_append]
      omega
    · cases hphase with
      | idle hs hr hempty => exact .offered rfl hr hempty
      | offered hs => simp [hs] at hidle
      | accepted hs => simp [hs] at hidle
      | sending hs => simp [hs] at hidle
      | verified hs => simp [hs] at hidle
      | complete hs => simp [hs] at hidle
    · rw [FileLink.toReceiver, drop_written hreadR, ← List.append_assoc]
      exact hencR.append hencodes
  · have hnext : link.next sha256Hex loads .start = link := by
      rw [FileLink.next, after, FileSender.start, get_bind, if_neg hidle]
      rfl
    rw [hnext]
    exact ⟨hrole, hauto, hreadR, hreadS, pendR, pendS, hphase, hencR, hencS⟩

lemma receiverPump (hfile : Offerable sha256Hex loads file) (h : Joint sha256Hex file link)
    {chunks : List Bytes} (he : chunks.flatten <+: link.toReceiver) :
    Joint sha256Hex file (link.next sha256Hex loads (.receiverPump chunks)) := by
  obtain ⟨hrole, hauto, hreadR, hreadS, pendR, pendS, hphase, hencR, hencS⟩ := h
  obtain ⟨more, hmore⟩ := he
  obtain ⟨hdrop, hread⟩ := drop_delivered hmore
  rw [← hmore] at hencR
  obtain ⟨r', rest, hrun, ⟨hauto', sent, frames, hwritten, hencodes, hphase'⟩, hencR'⟩ :=
    pump_spec (FileReceiver.handles hfile link.sender link.receiver.written pendS)
      (fun _ reassembler _ h => h.withReassembler reassembler)
      ⟨hauto, [], [], by rw [List.append_nil], Encodes.nil, by rwa [List.append_nil]⟩ hencR
  have hnext : link.next sha256Hex loads (.receiverPump chunks) = { link with
      receiver := r', receiverRead := link.receiverRead + chunks.flatten.length } := by
    rw [FileLink.next, FileReceiver.pump, after_of_ok hrun]
  rw [hnext]
  refine ⟨hrole, hauto', hread hreadR, ?_, rest, pendS ++ frames, hphase', ?_, ?_⟩
  · show link.senderRead ≤ r'.written.length
    rw [hwritten, List.length_append]
    omega
  · rwa [FileLink.toReceiver, hdrop]
  · show Encodes (_ ++ r'.written.drop link.senderRead) _
    rw [hwritten, drop_written hreadS, ← List.append_assoc]
    exact hencS.append hencodes

lemma senderPump (hfile : Offerable sha256Hex loads file) (h : Joint sha256Hex file link)
    {chunks : List Bytes} (he : chunks.flatten <+: link.toSender) :
    Joint sha256Hex file (link.next sha256Hex loads (.senderPump chunks)) := by
  obtain ⟨hrole, hauto, hreadR, hreadS, pendR, pendS, hphase, hencR, hencS⟩ := h
  obtain ⟨more, hmore⟩ := he
  obtain ⟨hdrop, hread⟩ := drop_delivered hmore
  rw [← hmore] at hencS
  obtain ⟨s', rest, hrun, ⟨hrole', sent, frames, hwritten, hencodes, hphase'⟩, hencS'⟩ :=
    pump_spec (FileSender.handles hfile.chunkSize link.receiver link.sender.written pendR)
      (fun _ reassembler _ h => h.withReassembler reassembler)
      ⟨hrole, [], [], by rw [List.append_nil], Encodes.nil, by rwa [List.append_nil]⟩ hencS
  have hnext : link.next sha256Hex loads (.senderPump chunks) = { link with
      sender := s', senderRead := link.senderRead + chunks.flatten.length } := by
    rw [FileLink.next, FileSender.pump, after_of_ok hrun]
  rw [hnext]
  refine ⟨hrole', hauto, ?_, hread hreadS, pendR ++ frames, rest, hphase', ?_, ?_⟩
  · show link.receiverRead ≤ s'.written.length
    rw [hwritten, List.length_append]
    omega
  · show Encodes (_ ++ s'.written.drop link.receiverRead) _
    rw [hwritten, drop_written hreadR, ← List.append_assoc]
    exact hencR.append hencodes
  · rwa [FileLink.toSender, hdrop]

/-- **The step.** -/
theorem next (hfile : Offerable sha256Hex loads file) (h : Joint sha256Hex file link)
    {act : FileAction} (he : link.enabled act) :
    Joint sha256Hex file (link.next sha256Hex loads act) := by
  cases act with
  | start => exact h.start hfile
  | senderPump chunks => exact h.senderPump hfile he
  | receiverPump chunks => exact h.receiverPump hfile he

end Joint

/-! ## Whole runs

From two new ends, along any run.  The receiver is one that accepts offers.
-/

/-- Two new ends, and nothing on its way. -/
structure NewTransfer (file : OutgoingFile) (link : FileLink) : Prop where
  sender : link.sender = { role := file }
  receiver : link.receiver = { role := {} }
  read : link.senderRead = 0 ∧ link.receiverRead = 0

lemma NewTransfer.joint {link : FileLink} (h : NewTransfer file link) :
    Joint sha256Hex file link := by
  obtain ⟨hsender, hreceiver, hreadS, hreadR⟩ := h
  refine ⟨by rw [hsender], by rw [hreceiver], by simp [hreadR], by simp [hreadS], [], [],
    .idle (by rw [hsender]) (by rw [hreceiver]) (by rw [hreceiver]), ?_, ?_⟩
  · simpa [FileLink.toReceiver, hsender, hreceiver] using Encodes.nil
  · simpa [FileLink.toSender, hsender, hreceiver] using Encodes.nil

/-- **The two ends agree, and the file is intact.**  A complete sender has a complete receiver with
the same name; a complete receiver has the file that was sent; neither end is ever complete while
the other has failed. -/
theorem file_transfer (hfile : Offerable sha256Hex loads file) {start link : FileLink}
    (hnew : NewTransfer file start)
    (hrun : (FileLink.system sha256Hex loads).Reach Transition.free start link) :
    (link.sender.state = .Complete → link.receiver.state = .Complete ∧
      link.receiver.fileBytes = some file.data ∧ link.receiver.role.name = some file.name) ∧
    (link.receiver.state = .Complete → link.receiver.fileBytes = some file.data) ∧
    ¬ (link.sender.state = .Complete ∧ link.receiver.state = .Failed) ∧
    ¬ (link.sender.state = .Failed ∧ link.receiver.state = .Complete) := by
  have h := hrun.invariant (I := Joint sha256Hex file) hnew.joint fun _ _ h he _ => h.next hfile he
  obtain ⟨pendR, pendS, hphase, -⟩ := h.phase
  have hbytes : Verified file link.receiver → link.receiver.fileBytes = some file.data := fun hr => by
    rw [FileReceiver.fileBytes, if_pos hr.state, hr.buffer]
  cases hphase with
  | idle hs hr => simp [hs, hr]
  | offered hs hr => simp [hs, hr]
  | accepted hs hr => simp [hs, hr.state]
  | sending hs hr => simp [hs, hr.state]
  | verified hs hr => simp [hs, hr.state, hbytes hr]
  | complete hs hr => simp [hs, hr.state, hbytes hr, hr.name]

/-- Three bytes in two chunks. -/
def threeBytes : OutgoingFile := { name := "a", data := [1, 2, 3], chunkSize := 2 }

/-- A digest, and a decoder that knows the one mapping it is given. -/
def threeBytesDigest (data : Bytes) : String := toString data.length

/-- It reads the OFFER, and the mapping without keys. -/
def threeBytesLoads (body : Bytes) : Except String JsonDocument :=
  if body = jsonDumps (threeBytes.offer threeBytesDigest) then
    .ok (.mapping (threeBytes.offer threeBytesDigest))
  else .error "Expecting value: line 1 column 1 (char 0)"

/-- The OFFER fits a frame and can be read. -/
theorem threeBytes_offerable : Offerable threeBytesDigest threeBytesLoads threeBytes where
  chunkSize := by decide
  fits := by decide +kernel
  roundTrip := if_pos rfl

/-- Two new ends. -/
def threeBytesLink : FileLink where
  sender := { role := threeBytes }
  receiver := { role := {} }

/-- A frame's bytes. -/
def frameBytes (f : FileFrame) : Bytes := f.encode.toOption.getD []

/-- The whole transfer; the chunks arrive cut inside a length prefix. -/
def threeBytesRun : List FileAction :=
  let file := frameBytes (chunkFrame [1, 2]) ++ frameBytes (chunkFrame [3]) ++ frameBytes doneFrame
  [.start, .receiverPump [frameBytes (offerFrame threeBytesDigest threeBytes)],
    .senderPump [frameBytes acceptFrame], .receiverPump [file.take 9], .receiverPump [file.drop 9],
    .senderPump [frameBytes ackFrame]]

/-- Both ends are complete, and the receiver has the file. -/
theorem file_transfer_threeBytes : ∃ link : FileLink, link.sender.state = .Complete ∧
    link.receiver.fileBytes = some [1, 2, 3] ∧ link.receiver.role.name = some "a" := by
  obtain ⟨link, hrun, hcomplete⟩ :=
    (FileLink.system threeBytesDigest threeBytesLoads).exists_reach_of_exec Transition.free
      threeBytesRun threeBytesLink (fun link : FileLink => link.sender.state = .Complete)
      (by decide +kernel)
  obtain ⟨-, hbytes, hname⟩ :=
    (file_transfer threeBytes_offerable ⟨rfl, rfl, rfl, rfl⟩ hrun).1 hcomplete
  exact ⟨link, hcomplete, hbytes, hname⟩

end PhotonTCP
