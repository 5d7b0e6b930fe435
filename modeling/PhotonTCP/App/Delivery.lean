import PhotonTCP.App.Writing
import PhotonTCP.Session.Duplex

/-!
# A file over two sessions

A file sender and a file receiver, each with its session, and a channel that loses, duplicates,
delays and reorders what the sessions transmit, and that may refuse a frame of the sender's.  Their
owners may use the sessions beside them, and the clocks move as they like.

* `FileDelivery` — the two ends; `FileDelivery.system`, `FileDelivery.Orderly`.
* `Encodes.eq_nil`, `Phase.oneSided` — bytes are on their way to one end at most.
* `Delivering` — the invariant: the sessions carry both streams, and what has come through them is a
  state of the link without sessions.
* **`Delivering.next`** — every step keeps it.
* **`file_delivered`** — the file arrives as it was sent, and both ends know.

Two results meet.  One is about sessions: what has come through is the beginning of what was sent,
whatever the channel does.  The other is about file ends on reliable streams.  The second needs to
be told what was written before it can say what will be read, and the first must know what is
written next; so neither can be used by itself, and the invariant has both.

That there are bytes on the way to one end at most is what keeps the two apart.  A cycle of an end
takes something only if the other end has nothing left to take, and what it writes can be counted
from there.
-/

namespace PhotonTCP

open Raising

/-! ## The system

The owner of a session may send on its other streams and may open and close it.  What the channel
holds is what either session has transmitted, and any of it can be delivered at any time and any
number of times.
-/

/-- A file sender and a file receiver. -/
structure FileDelivery where
  sender : SessionSender
  receiver : SessionReceiver

/-- What is done to either end, or happens around it. -/
inductive DeliveryAction where
  | start
  | senderPump (frames : List Bytes)
  | receiverPump (frames : List Bytes)
  | senderClock (now : ℚ)
  | receiverClock (now : ℚ)
  /-- The owner of the session uses it. -/
  | senderOwner (call : SessionCall)
  | receiverOwner (call : SessionCall)

/-- The sender's session after a call of its owner, whose frames the channel takes. -/
def SessionSender.called (zlib : Bytes → ℕ) (d : SessionSender) (call : SessionCall) :
    WiredSession where
  session := d.session.called zlib call
  sendCalls := d.sendCalls
    + ((d.session.called zlib call).transmitted.length - d.session.transmitted.length)

/-- Whether a computation has returned. -/
def returned {ε σ α : Type} : EStateM.Result ε σ α → Bool
  | .ok _ _ => true
  | .error _ _ => false

lemma eq_ok_of_returned {ε σ α : Type} {x : EStateM.Result ε σ α} (h : returned x = true) :
    ∃ a s, x = .ok a s := by
  cases x with
  | ok a s => exact ⟨a, s, rfl⟩
  | error e s => cases h

namespace FileDelivery

variable (zlib : Bytes → ℕ) (refuses : ℕ → Bytes → Bool) (sha256Hex : Bytes → String)
  (loads : JsonLoads)

/-- A sender and a receiver over two sessions, with a stream for the transfer. -/
def new (k : ℤ) (file : OutgoingFile) (sending receiving : Session) : FileDelivery where
  sender := { session := sending, streamId := k, sender := { role := file } }
  receiver := { session := receiving, streamId := k, receiver := { role := {} } }

/-- The frames of a cycle are frames that the other session has transmitted. -/
def enabled (c : FileDelivery) : DeliveryAction → Prop
  | .senderPump frames => ∀ frame ∈ frames, frame ∈ c.receiver.session.transmitted
  | .receiverPump frames => ∀ frame ∈ frames, frame ∈ c.sender.session.transmitted
  | .senderOwner call => call.Hears c.receiver.session
  | .receiverOwner call => call.Hears c.sender.session
  | .start | .senderClock _ | .receiverClock _ => True

/-- What an action does to the end it is for. -/
def next (c : FileDelivery) : DeliveryAction → FileDelivery
  | .start => { c with sender := c.sender.next zlib refuses sha256Hex .start }
  | .senderPump frames => { c with sender := c.sender.next zlib refuses sha256Hex (.pump frames) }
  | .receiverPump frames =>
      { c with receiver := c.receiver.next zlib sha256Hex loads (.pump frames) }
  | .senderClock now => { c with sender := c.sender.next zlib refuses sha256Hex (.clock now) }
  | .receiverClock now => { c with receiver := c.receiver.next zlib sha256Hex loads (.clock now) }
  | .senderOwner call =>
      { c with sender := c.sender.next zlib refuses sha256Hex (.owner (c.sender.called zlib call)) }
  | .receiverOwner call =>
      { c with
        receiver :=
          c.receiver.next zlib sha256Hex loads (.owner (c.receiver.session.called zlib call)) }

/-- The two ends, and a channel that loses, duplicates, delays and reorders frames. -/
def system : Transition FileDelivery DeliveryAction := ⟨enabled, next zlib refuses sha256Hex loads⟩

/-- The operations of the transfer return, and neither end writes `2 ^ 31` bytes; the owners leave
the stream alone. -/
def Orderly (c : FileDelivery) : DeliveryAction → Prop
  | .start => returned (SessionSender.start zlib refuses sha256Hex c.sender) = true ∧
      (c.sender.next zlib refuses sha256Hex .start).sender.written.length < 2 ^ 31
  | .senderPump frames => returned (SessionSender.pump zlib refuses frames c.sender) = true ∧
      (c.sender.next zlib refuses sha256Hex (.pump frames)).sender.written.length < 2 ^ 31
  | .receiverPump frames =>
      returned (SessionReceiver.pump zlib sha256Hex loads frames c.receiver) = true ∧
        (c.receiver.next zlib sha256Hex loads (.pump frames)).receiver.written.length < 2 ^ 31
  | .senderOwner call => call.LeavesAlone c.sender.streamId
  | .receiverOwner call => call.LeavesAlone c.receiver.streamId
  | .senderClock _ | .receiverClock _ => True

instance (c : FileDelivery) : (act : DeliveryAction) → Decidable (c.enabled act)
  | .senderPump frames =>
      inferInstanceAs (Decidable (∀ frame ∈ frames, frame ∈ c.receiver.session.transmitted))
  | .receiverPump frames =>
      inferInstanceAs (Decidable (∀ frame ∈ frames, frame ∈ c.sender.session.transmitted))
  | .senderOwner call => inferInstanceAs (Decidable (call.Hears c.receiver.session))
  | .receiverOwner call => inferInstanceAs (Decidable (call.Hears c.sender.session))
  | .start | .senderClock _ | .receiverClock _ => isTrue trivial

instance (c : FileDelivery) (act : DeliveryAction) :
    Decidable ((system zlib refuses sha256Hex loads).enabled c act) :=
  inferInstanceAs (Decidable (c.enabled act))

instance (c : FileDelivery) :
    (act : DeliveryAction) → Decidable (c.Orderly zlib refuses sha256Hex loads act)
  | .start | .senderPump _ | .receiverPump _ => inferInstanceAs (Decidable (_ ∧ _))
  | .senderOwner call => inferInstanceAs (Decidable (call.LeavesAlone c.sender.streamId))
  | .receiverOwner call => inferInstanceAs (Decidable (call.LeavesAlone c.receiver.streamId))
  | .senderClock _ | .receiverClock _ => isTrue trivial

end FileDelivery

/-! ## Nothing on the way

From the phases.
-/

/-- No frames take no bytes. -/
lemma Encodes.eq_nil {bytes : Bytes} (h : Encodes bytes []) : bytes = [] := by
  obtain ⟨encs, hencs, rfl⟩ := h
  obtain rfl : encs = [] := by simpa [encodeFrames_nil, eq_comm] using hencs
  rfl

/-- Frames are on their way to one end at most. -/
lemma Phase.oneSided {sha256Hex : Bytes → String} {file : OutgoingFile} {s : FileSender}
    {r : FileReceiver} {pendR pendS : List FileFrame} (h : Phase sha256Hex file s r pendR pendS) :
    pendR = [] ∨ pendS = [] := by
  cases h with
  | idle | offered | sending | complete => exact .inr rfl
  | accepted | verified => exact .inl rfl

/-- A pump to which no frames are on their way writes nothing. -/
lemma FileEnd.written_of_encodes_nil {R : Type} {handle : FileFrame → FileM R Unit}
    {e e' : FileEnd R} {chunks : List Bytes} {more : Bytes} {state : FileTransferState}
    (h : Encodes (e.reassembler.buf ++ (chunks.flatten ++ more)) [])
    (hrun : FileEnd.pump handle chunks e = .ok state e') : e'.written = e.written := by
  obtain ⟨e'', rest, hpump, ⟨-, hwritten⟩, -⟩ := FileEnd.pump_spec
    (P := fun last fs => fs = [] ∧ last.written = e.written)
    (fun _ _ _ hP => absurd hP.1 (List.cons_ne_nil _ _)) (fun _ _ _ hP => hP) ⟨rfl, rfl⟩ h
  rw [hpump] at hrun
  obtain ⟨-, rfl⟩ := EStateM.Result.ok.inj hrun
  exact hwritten

/-- What is next on a stream of which a part was taken. -/
lemma prefix_drop_of_append {taken chunks written : Bytes} (h : taken ++ chunks <+: written) :
    chunks <+: written.drop taken.length := by
  obtain ⟨rest, rfl⟩ := h
  rw [List.append_assoc, List.drop_left]
  exact List.prefix_append _ _

/-! ## The invariant

The sessions with their streams, and the link without sessions, side by side.
-/

variable {zlib : Bytes → ℕ} {refuses : ℕ → Bytes → Bool} {sha256Hex : Bytes → String}
  {loads : JsonLoads} {k : ℤ} {file : OutgoingFile} {c : FileDelivery} {x y : StreamEnd}

/-- The end of the stream belongs to this writer. -/
structure StreamEnd.Of (x : StreamEnd) (k : ℤ) (w : StreamWriter) : Prop where
  session : x.session = w.session
  streamId : w.streamId = k
  sent : x.sent.flatten = w.written
  bounded : w.written.length < 2 ^ 31

/-- The link without sessions, when so much was taken off the two streams. -/
def FileDelivery.link (c : FileDelivery) (x y : StreamEnd) : FileLink where
  sender := c.sender.sender
  receiver := c.receiver.receiver
  senderRead := x.taken.flatten.length
  receiverRead := y.taken.flatten.length

/-- The sessions carry both streams, and the ends have come as far as they would without sessions.
-/
structure Delivering (zlib : Bytes → ℕ) (sha256Hex : Bytes → String) (k : ℤ) (file : OutgoingFile)
    (c : FileDelivery) (x y : StreamEnd) : Prop where
  sender : x.Of k c.sender.writer
  receiver : y.Of k c.receiver.writer
  duplex : Duplex zlib k x y
  joint : Joint sha256Hex file (c.link x y)

namespace Delivering

/-- **A writer's cycle**, up to what it sends: what it has taken is the beginning of what the other
end has written. -/
lemma takes {w : StreamWriter} (hx : x.Of k w) (hduplex : Duplex zlib k x y) (hk : k ≠ 0)
    {arrived : List Bytes} (harrived : ∀ frame ∈ arrived, frame ∈ y.session.transmitted)
    {events : List SessionEvent} {s : Session}
    (hpump : Session.pump zlib none (arrived.map fun frame => (frame, w.now)) w.now w.now w.session
      = .ok events s) :
    ∃ x' : StreamEnd, x'.Of k { w with session := { s with recvBuffers := s.recvBuffers.erase k } } ∧
      x'.taken = x.taken ++ s.buffered k ∧ Duplex zlib k x' y ∧
      (s.buffered k).flatten <+: y.sent.flatten.drop x.taken.flatten.length := by
  obtain ⟨hsession, hstream, hsent, hbound⟩ := hx
  obtain ⟨hnext, hprefix⟩ := hduplex.takes hk harrived (by rw [hsession]; exact hpump)
    (by rw [hsent]; exact hbound)
  rw [List.flatten_append] at hprefix
  exact ⟨{ x with
      session := { s with recvBuffers := s.recvBuffers.erase k }
      taken := x.taken ++ s.buffered k },
    ⟨rfl, hstream, hsent, hbound⟩, rfl, hnext, prefix_drop_of_append hprefix⟩

/-- **What it sends**, when the other end has taken all that was written before. -/
lemma sends {w w' : StreamWriter} (hduplex : Duplex zlib k x y) (hk : k ≠ 0) {datas : List Bytes}
    (hx : x.Of k w) (hsends : w.Sends zlib w' datas)
    (hwaits : w.written.length ≤ y.taken.flatten.length ∨ w'.written = w.written)
    (hbound : w'.written.length < 2 ^ 31) :
    ∃ x' : StreamEnd, x'.Of k w' ∧ x'.taken = x.taken ∧ Duplex zlib k x' y := by
  obtain ⟨hsession, hstream, hsent, -⟩ := hx
  obtain ⟨hrun, hwritten, hstream', -⟩ := hsends
  rw [← hsession, hstream] at hrun
  rw [← hsent] at hwritten hwaits
  have hturn : x.session.Turn zlib k ∨ datas.flatten = [] := by
    refine hwaits.imp (fun hle => hduplex.turn_of_taken hle) fun hsame => ?_
    simpa [hwritten] using hsame
  have hlen := congrArg List.length hwritten
  rw [List.length_append] at hlen
  obtain ⟨chunksSent, hnext⟩ := hduplex.sends hk hrun hturn (by omega)
  refine ⟨{ x with session := w'.session, sent := x.sent ++ datas, chunksSent },
    ⟨rfl, hstream'.trans hstream, ?_, hbound⟩, rfl, hnext⟩
  rw [List.flatten_append, hwritten]

/-- **A cycle of the sender.** -/
lemma senderPump (h : Delivering zlib sha256Hex k file c x y) (hk : k ≠ 0)
    (hfile : Offerable sha256Hex loads file) {frames : List Bytes}
    (he : c.enabled (.senderPump frames))
    (hok : c.Orderly zlib refuses sha256Hex loads (.senderPump frames)) :
    ∃ x' y', Delivering zlib sha256Hex k file
      (c.next zlib refuses sha256Hex loads (.senderPump frames)) x' y' := by
  obtain ⟨hx, hy, hduplex, hjoint⟩ := h
  obtain ⟨hreturned, hbound⟩ := hok
  obtain ⟨state, d', hpump⟩ := eq_ok_of_returned hreturned
  rw [SessionSender.next, after_ok hpump] at hbound
  rw [FileDelivery.next, SessionSender.next, after_ok hpump]
  obtain ⟨events, session, datas, hsession, hplain, hsends⟩ := SessionSender.pump_writes hpump
  have hstream : c.sender.streamId = k := hx.streamId
  rw [hstream] at hplain hsends
  obtain ⟨x₁, hx₁, htaken₁, hduplex₁, hchunks⟩ :=
    takes hx hduplex hk (by rw [hy.session]; exact he) hsession
  rw [hy.sent] at hchunks
  have hwaits : c.sender.sender.written.length ≤ y.taken.flatten.length ∨
      d'.sender.written = c.sender.sender.written := by
    obtain ⟨pendR, pendS, hphase, hencR, hencS⟩ := hjoint.phase
    rcases hphase.oneSided with rfl | rfl
    · -- nothing is on its way to the receiver, which has taken everything
      exact .inl (List.drop_eq_nil_iff.mp (List.append_eq_nil_iff.mp hencR.eq_nil).2)
    · -- nothing is on its way to the sender, which handles nothing
      obtain ⟨more, hmore⟩ := hchunks
      have hempty : Encodes (c.sender.sender.reassembler.buf
          ++ ((session.buffered k).flatten ++ more)) [] := hmore ▸ hencS
      exact .inr (FileEnd.written_of_encodes_nil hempty hplain)
  obtain ⟨x', hx', htaken', hduplex'⟩ := sends hduplex₁ hk hx₁ hsends hwaits hbound
  refine ⟨x', y, hx', hy, hduplex', ?_⟩
  have hnext := hjoint.senderPump hfile hchunks
  have hsame : FileEnd.after (FileSender.pump (session.buffered k)) (c.link x y).sender = d'.sender :=
    FileEnd.after_of_ok hplain
  rw [FileLink.next, hsame] at hnext
  rw [FileDelivery.link, htaken', htaken₁, List.flatten_append, List.length_append]
  exact hnext

/-- **A cycle of the receiver.** -/
lemma receiverPump (h : Delivering zlib sha256Hex k file c x y) (hk : k ≠ 0)
    (hfile : Offerable sha256Hex loads file) {frames : List Bytes}
    (he : c.enabled (.receiverPump frames))
    (hok : c.Orderly zlib refuses sha256Hex loads (.receiverPump frames)) :
    ∃ x' y', Delivering zlib sha256Hex k file
      (c.next zlib refuses sha256Hex loads (.receiverPump frames)) x' y' := by
  obtain ⟨hx, hy, hduplex, hjoint⟩ := h
  obtain ⟨hreturned, hbound⟩ := hok
  obtain ⟨state, d', hpump⟩ := eq_ok_of_returned hreturned
  rw [SessionReceiver.next, after_ok hpump] at hbound
  rw [FileDelivery.next, SessionReceiver.next, after_ok hpump]
  obtain ⟨events, session, datas, hsession, hplain, hsends⟩ := SessionReceiver.pump_writes hpump
  have hstream : c.receiver.streamId = k := hy.streamId
  rw [hstream] at hplain hsends
  obtain ⟨y₁, hy₁, htaken₁, hduplex₁, hchunks⟩ :=
    takes hy hduplex.symm hk (by rw [hx.session]; exact he) hsession
  rw [hx.sent] at hchunks
  have hwaits : c.receiver.receiver.written.length ≤ x.taken.flatten.length ∨
      d'.receiver.written = c.receiver.receiver.written := by
    obtain ⟨pendR, pendS, hphase, hencR, hencS⟩ := hjoint.phase
    rcases hphase.oneSided with rfl | rfl
    · -- nothing is on its way to the receiver, which handles nothing
      obtain ⟨more, hmore⟩ := hchunks
      have hempty : Encodes (c.receiver.receiver.reassembler.buf
          ++ ((session.buffered k).flatten ++ more)) [] := hmore ▸ hencR
      exact .inr (FileEnd.written_of_encodes_nil hempty hplain)
    · -- nothing is on its way to the sender, which has taken everything
      exact .inl (List.drop_eq_nil_iff.mp (List.append_eq_nil_iff.mp hencS.eq_nil).2)
  obtain ⟨y', hy', htaken', hduplex'⟩ := sends hduplex₁ hk hy₁ hsends hwaits hbound
  refine ⟨x, y', hx, hy', hduplex'.symm, ?_⟩
  have hnext := hjoint.receiverPump hfile hchunks
  have hsame : FileEnd.after (FileReceiver.pump sha256Hex loads (session.buffered k))
      (c.link x y).receiver = d'.receiver := FileEnd.after_of_ok hplain
  rw [FileLink.next, hsame] at hnext
  rw [FileDelivery.link, htaken', htaken₁, List.flatten_append, List.length_append]
  exact hnext

/-- **The offer is made**, and nothing was written before. -/
lemma start (h : Delivering zlib sha256Hex k file c x y) (hk : k ≠ 0)
    (hfile : Offerable sha256Hex loads file) (hok : c.Orderly zlib refuses sha256Hex loads .start) :
    ∃ x' y', Delivering zlib sha256Hex k file (c.next zlib refuses sha256Hex loads .start) x' y' := by
  obtain ⟨hx, hy, hduplex, hjoint⟩ := h
  obtain ⟨hreturned, hbound⟩ := hok
  obtain ⟨_, d', hstart⟩ := eq_ok_of_returned hreturned
  rw [SessionSender.next, after_ok hstart] at hbound
  rw [FileDelivery.next, SessionSender.next, after_ok hstart]
  obtain ⟨hplain, hidle, datas, hsends⟩ := SessionSender.start_writes hstart
  have hwaits : c.sender.sender.written.length ≤ y.taken.flatten.length := by
    obtain ⟨pendR, pendS, hphase, hencR, -⟩ := hjoint.phase
    have hnone : pendR = [] := by
      cases hphase with
      | idle | accepted | verified | complete => rfl
      | offered hs => exact absurd (hs.symm.trans hidle) (by decide)
      | sending hs => exact absurd (hs.symm.trans hidle) (by decide)
    rw [hnone] at hencR
    exact List.drop_eq_nil_iff.mp (List.append_eq_nil_iff.mp hencR.eq_nil).2
  obtain ⟨x', hx', htaken', hduplex'⟩ := sends hduplex hk hx hsends (.inl hwaits) hbound
  refine ⟨x', y, hx', hy, hduplex', ?_⟩
  have hnext := hjoint.start hfile
  have hsame : FileEnd.after (FileSender.start sha256Hex) (c.link x y).sender = d'.sender :=
    FileEnd.after_of_ok hplain
  rw [FileLink.next, hsame] at hnext
  rw [FileDelivery.link, htaken']
  exact hnext

/-- **Every step keeps the invariant.** -/
theorem next (h : Delivering zlib sha256Hex k file c x y) (hk : k ≠ 0)
    (hfile : Offerable sha256Hex loads file) {act : DeliveryAction} (he : c.enabled act)
    (hok : c.Orderly zlib refuses sha256Hex loads act) :
    ∃ x' y', Delivering zlib sha256Hex k file (c.next zlib refuses sha256Hex loads act) x' y' := by
  cases act with
  | start => exact h.start hk hfile hok
  | senderPump frames => exact h.senderPump hk hfile he hok
  | receiverPump frames => exact h.receiverPump hk hfile he hok
  | senderClock now =>
      exact ⟨x, y, ⟨h.sender.session, h.sender.streamId, h.sender.sent, h.sender.bounded⟩, h.receiver,
        h.duplex, h.joint⟩
  | receiverClock now =>
      exact ⟨x, y, h.sender, ⟨h.receiver.session, h.receiver.streamId, h.receiver.sent,
        h.receiver.bounded⟩, h.duplex, h.joint⟩
  | senderOwner call =>
      obtain ⟨hx, hy, hduplex, hjoint⟩ := h
      have hstream : c.sender.streamId = k := hx.streamId
      have halone : call.LeavesAlone k := hstream ▸ hok
      have hnext := hduplex.leftAlone hk (by rw [hy.session]; exact he) halone
        (by rw [hx.sent]; exact hx.bounded)
      refine ⟨{ x with session := x.session.called zlib call }, y,
        ⟨?_, hx.streamId, hx.sent, hx.bounded⟩, hy, hnext, hjoint⟩
      show x.session.called zlib call = _
      rw [hx.session]
      rfl
  | receiverOwner call =>
      obtain ⟨hx, hy, hduplex, hjoint⟩ := h
      have hstream : c.receiver.streamId = k := hy.streamId
      have halone : call.LeavesAlone k := hstream ▸ hok
      have hnext := hduplex.symm.leftAlone hk (by rw [hx.session]; exact he) halone
        (by rw [hy.sent]; exact hy.bounded)
      refine ⟨x, { y with session := y.session.called zlib call }, hx,
        ⟨?_, hy.streamId, hy.sent, hy.bounded⟩, hnext.symm, hjoint⟩
      show y.session.called zlib call = _
      rw [hy.session]
      rfl

/-- Two new sessions. -/
theorem new {sending receiving : Session} {isInitiator isInitiator' : Bool}
    (hsending : sending.New isInitiator) (hreceiving : receiving.New isInitiator')
    (hwindow : sending.mux.windowSize < 65536) (hwindow' : receiving.mux.windowSize < 65536) :
    Delivering zlib sha256Hex k file (.new k file sending receiving) { session := sending }
      { session := receiving } :=
  ⟨⟨rfl, rfl, rfl, Nat.two_pow_pos 31⟩, ⟨rfl, rfl, rfl, Nat.two_pow_pos 31⟩,
    Duplex.start hsending hreceiving hwindow hwindow', NewTransfer.joint ⟨rfl, rfl, rfl, rfl⟩⟩

end Delivering

/-! ## The file arrives

What is said about a run is read off the phase in which it ends.
-/

/-- What a phase says about the file. -/
lemma Phase.outcome {s : FileSender} {r : FileReceiver} {pendR pendS : List FileFrame}
    (h : Phase sha256Hex file s r pendR pendS) :
    (s.state = .Complete → r.state = .Complete) ∧
      (r.state = .Complete → r.fileBytes = some file.data ∧ r.role.name = some file.name) ∧
      r.role.buffer <+: file.data ∧ s.state ≠ .Failed ∧ r.state ≠ .Failed := by
  have hbytes : Verified file r → r.fileBytes = some file.data := fun hr => by
    rw [FileReceiver.fileBytes, if_pos hr.state, hr.buffer]
  cases h with
  | idle hs hr hempty => simp [hs, hr, hempty]
  | offered hs hr hempty => simp [hs, hr, hempty]
  | accepted hs hr => simp [hs, hr.state, hr.buffer]
  | sending hs hr hdata => simp [hs, hr.state, hr.buffer, ← hdata]
  | verified hs hr => simp [hs, hr.state, hbytes hr, hr.name, hr.buffer]
  | complete hs hr => simp [hs, hr.state, hbytes hr, hr.name, hr.buffer]

/-- **A file arrives as it was sent.**  Two new sessions, and a channel that loses, duplicates,
delays and reorders what they transmit; the owners may use the sessions beside the transfer.  As
long as the operations of the transfer return: what the receiver has collected is the beginning of
the file; a complete receiver has the file and its name; a complete sender has a complete receiver;
and neither end fails. -/
theorem file_delivered (hk : k ≠ 0) (hfile : Offerable sha256Hex loads file)
    {sending receiving : Session} {isInitiator isInitiator' : Bool}
    (hsending : sending.New isInitiator) (hreceiving : receiving.New isInitiator')
    (hwindow : sending.mux.windowSize < 65536) (hwindow' : receiving.mux.windowSize < 65536)
    (h : (FileDelivery.system zlib refuses sha256Hex loads).Reach
      (FileDelivery.Orderly zlib refuses sha256Hex loads) (.new k file sending receiving) c) :
    (c.sender.sender.state = .Complete → c.receiver.receiver.state = .Complete) ∧
      (c.receiver.receiver.state = .Complete → c.receiver.receiver.fileBytes = some file.data ∧
        c.receiver.receiver.role.name = some file.name) ∧
      c.receiver.receiver.role.buffer <+: file.data ∧
      c.sender.sender.state ≠ .Failed ∧ c.receiver.receiver.state ≠ .Failed := by
  obtain ⟨x, y, hdelivering⟩ := h.invariant
    (I := fun c => ∃ x y, Delivering zlib sha256Hex k file c x y)
    ⟨_, _, Delivering.new hsending hreceiving hwindow hwindow'⟩
    fun _ _ ⟨_, _, h⟩ he hok => h.next hk hfile he hok
  obtain ⟨pendR, pendS, hphase, -⟩ := hdelivering.joint.phase
  exact hphase.outcome

/-! ### Three bytes over two sessions

Every packet of a transfer, by hand.
-/

open Reconnection (frame)
open SessionSender (takesAll)

/-- A DATA packet of the transfer. -/
def transferData (seq ack : ℤ) (payload : Bytes) : Bytes :=
  frame .Data 7 FILE_STREAM_ID seq ack 32 Flags.none payload

/-- The handshake and the transfer; the chunks change places, and one of them arrives twice. -/
def threeBytesDelivery : List DeliveryAction :=
  [.senderOwner (.connect 0), .receiverPump [frame .Syn 7 0 1000 0 0 Flags.syn []],
    .senderPump [frame .SynAck 7 0 5000 1001 0 (Flags.syn ||| Flags.ack) []],
    .receiverPump [frame .Ack 7 0 1001 5001 0 Flags.ack []], .start,
    .receiverPump [transferData 0 0 (frameBytes (offerFrame threeBytesDigest threeBytes))],
    .senderPump [transferData 0 1 (frameBytes acceptFrame)],
    .receiverPump [transferData 2 1 (frameBytes (chunkFrame [3])),
      transferData 1 1 (frameBytes (chunkFrame [1, 2])),
      transferData 1 1 (frameBytes (chunkFrame [1, 2]))],
    .receiverPump [transferData 3 1 (frameBytes doneFrame)],
    .senderPump [transferData 1 4 (frameBytes ackFrame)]]

/-- The run is one of the system, and the file is there. -/
theorem file_delivered_threeBytes : ∃ c : FileDelivery, c.sender.sender.state = .Complete ∧
    c.receiver.receiver.fileBytes = some [1, 2, 3] := by
  obtain ⟨c, hrun, hcomplete⟩ :=
    (FileDelivery.system zlibCrc32 takesAll threeBytesDigest threeBytesLoads).exists_reach_of_exec
      (FileDelivery.Orderly zlibCrc32 takesAll threeBytesDigest threeBytesLoads) threeBytesDelivery
      (.new FILE_STREAM_ID threeBytes (Session.create true 7 1000) (Session.create false 0 5000))
      (fun c => c.sender.sender.state = .Complete) (by decide +kernel)
  obtain ⟨hboth, hfile, -⟩ := file_delivered (by decide) threeBytes_offerable
    ⟨⟨by decide, by decide⟩, 7, 1000, _, _, _, _, _, _, _, rfl⟩
    ⟨⟨by decide, by decide⟩, 0, 5000, _, _, _, _, _, _, _, rfl⟩ (by decide) (by decide) hrun
  exact ⟨c, hcomplete, (hfile (hboth hcomplete)).1⟩

end PhotonTCP
