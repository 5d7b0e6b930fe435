import PhotonTCP.Reliability.History
import PhotonTCP.Reliability.Network
import PhotonTCP.Stream.StreamIds

/-!
# Two multiplexers and one stream

What the operations of two multiplexers do to the pair of endpoints that belong to one stream.

* `Configured` — what an endpoint has from its multiplexer.
* **`Carrying.operateA`**, **`Carrying.operateB`**, `Carrying.sends` — whatever the two multiplexers
  are asked to do, the pair of endpoints carries its transfer on.
* `Projects.fits_of_delivers` — with what is delivered the answers can be transmitted.

A session is not a pair of endpoints.  Its multiplexer serves many streams, is told its session id
in the course of the handshake, and is given packets that have nothing to do with the stream in
question.  Isolation says that none of this reaches the endpoint of the stream but through the
operations of its own, and so every step of the two multiplexers is, to the pair of endpoints of one
stream, one step of the network of two endpoints, or none.  These theorems do the translation, and
the results on two endpoints apply to sessions.
-/

namespace PhotonTCP

open ArqEndpoint

/-! ## What an endpoint has from its multiplexer

Window, payload limit, ids and the number it starts with.  They are the same for every endpoint that
a multiplexer makes.
-/

/-- The parameters, and a sequence number that fits the header. -/
structure Configured (mux : StreamMux) (ep : ArqEndpoint) : Prop where
  windowSize : ep.windowSize = mux.windowSize
  maxPayload : ep.maxPayload = mux.maxPayload
  nextSeq : 0 ≤ ep.nextSeq ∧ ep.nextSeq < 2 ^ 32

/-- Small steps leave the parameters alone, and number modulo `2 ^ 32`. -/
lemma ArqHistory.parameters_move (h : ArqHistory) (m : Move) :
    (h.move m).ep.windowSize = h.ep.windowSize ∧ (h.move m).ep.maxPayload = h.ep.maxPayload ∧
      (0 ≤ h.ep.nextSeq ∧ h.ep.nextSeq < 2 ^ 32 →
        0 ≤ (h.move m).ep.nextSeq ∧ (h.move m).ep.nextSeq < 2 ^ 32) := by
  cases m with
  | emit chunk => exact ⟨rfl, rfl, fun _ => seqAdd_bounds _ _⟩
  | flush chunk => exact ⟨rfl, rfl, fun _ => seqAdd_bounds _ _⟩
  | data pkt =>
      obtain ⟨rcvBase, reorder, nacked, hframe⟩ := h.ep.onData_frame pkt
      show (h.ep.onData pkt).2.windowSize = _ ∧ (h.ep.onData pkt).2.maxPayload = _ ∧
        (_ → 0 ≤ (h.ep.onData pkt).2.nextSeq ∧ (h.ep.onData pkt).2.nextSeq < 2 ^ 32)
      rw [hframe]
      exact ⟨rfl, rfl, id⟩
  | _ => exact ⟨rfl, rfl, id⟩

/-- An endpoint of its own is given an input, or a session id. -/
lemma ArqEndpoint.applyFor_cases (k : ℤ) (ep : ArqEndpoint) (op : MuxOp) :
    (∃ i, ep.applyFor k op = ep.apply i) ∨
      ∃ sid, ep.applyFor k op = ({}, { ep with sessionId := sid }) := by
  cases op with
  | send streamId data now =>
      rw [applyFor]
      split_ifs
      · exact .inl ⟨.send data now, rfl⟩
      · exact .inr ⟨ep.sessionId, rfl⟩
  | onPacket pkt now =>
      rw [applyFor]
      split_ifs
      · exact .inl ⟨.packet pkt now, rfl⟩
      · exact .inr ⟨ep.sessionId, rfl⟩
  | onTick now => exact .inl ⟨.tick now, rfl⟩
  | setSessionId sid => exact .inr ⟨sid, rfl⟩
  | openStream => exact .inr ⟨ep.sessionId, rfl⟩

namespace Configured

variable {mux : StreamMux} {ep : ArqEndpoint} {k : ℤ}

lemma create (h : mux.newEndpoint k = .ok ep) : Configured mux ep := by
  obtain ⟨-, -, -, rfl⟩ := create_eq_ok_iff.mp h
  exact ⟨rfl, rfl, by simp⟩

/-- Operations keep what the multiplexer has given. -/
theorem apply (h : Configured mux ep) (op : MuxOp) :
    Configured (mux.apply op).2 (ep.applyFor k op).2 := by
  obtain ⟨sessionId, endpoints, hframe⟩ := mux.apply_frame op
  rw [hframe]
  rcases ep.applyFor_cases k op with ⟨i, hi⟩ | ⟨sid, hsid⟩
  · have hrun := ArqHistory.next_run (ArqHistory.start ep i.now) i
    obtain ⟨hwindow, hpayload, hnext⟩ := hrun.invariant
      (I := fun g => g.ep.windowSize = mux.windowSize ∧ g.ep.maxPayload = mux.maxPayload ∧
        0 ≤ g.ep.nextSeq ∧ g.ep.nextSeq < 2 ^ 32)
      ⟨h.windowSize, h.maxPayload, h.nextSeq⟩ fun g m hg _ _ => by
        obtain ⟨hwindow, hpayload, hnext⟩ := g.parameters_move m
        exact ⟨hwindow.trans hg.1, hpayload.trans hg.2.1, hnext hg.2.2⟩
    rw [hi]
    exact ⟨hwindow, hpayload, hnext⟩
  · rw [hsid]
    exact ⟨h.windowSize, h.maxPayload, h.nextSeq⟩

end Configured

/-! ## The pair

The clock of the pair is moved to whatever time the operation brings, since each side reads its own.
-/

namespace ArqNetwork

/-- The sender's multiplexer has been asked to do something. -/
def operateA (net : ArqNetwork) (k : ℤ) (op : MuxOp) (clock : ℚ) : ArqNetwork :=
  { net with
    a := (net.a.applyFor k op).2
    clock
    emittedA := net.emittedA ++ (net.a.applyFor k op).1.packets }

/-- The receiver's multiplexer has. -/
def operateB (net : ArqNetwork) (k : ℤ) (op : MuxOp) (clock : ℚ) : ArqNetwork :=
  { net with
    b := (net.b.applyFor k op).2
    clock
    emittedB := net.emittedB ++ (net.b.applyFor k op).1.packets
    delivered := net.delivered ++ (net.b.applyFor k op).1.delivered }

end ArqNetwork

namespace Carrying

variable {isn k : ℤ} {net : ArqNetwork} {t : Transfer}

lemma at_time (h : Carrying isn net t) (clock : ℚ) : Carrying isn { net with clock } t :=
  ⟨h.sender, h.receiver, h.stamped, h.fromA, h.fromB, h.delivered, h.chunkCount, h.bounded, h.bytes⟩

/-- A step of the pair, at any time. -/
lemma follow (h : Carrying isn net t) (horder : InOrder net t) (act : ArqAction) (clock : ℚ)
    (he : ({ net with clock } : ArqNetwork).enabled act) (hpast : NotPastQueue net act) :
    ∃ t', Carrying isn (net.next act) t' ∧ InOrder (net.next act) t' := by
  obtain ⟨t', -, ht', horder'⟩ := (h.at_time clock).step he
  have hnext : ({ net with clock } : ArqNetwork).next act = net.next act := by cases act <;> rfl
  rw [hnext] at ht' horder'
  refine ⟨t', ht', horder' ?_ horder⟩
  cases act <;> exact hpast

/-- Whatever the sender's multiplexer is asked to do, but for sending on this stream. -/
theorem operateA (h : Carrying isn net t) (horder : InOrder net t) {op : MuxOp}
    (hheard : ∀ pkt now, op = .onPacket pkt now → pkt.streamId = k → pkt ∈ net.emittedB)
    (hsend : ∀ streamId data now, op = .send streamId data now → streamId ≠ k) :
    ∃ clock t', Carrying isn (net.operateA k op clock) t' ∧ InOrder (net.operateA k op clock) t' := by
  simp only [ArqNetwork.operateA]
  cases op with
  | send streamId data now =>
      refine ⟨net.clock, t, ?_⟩
      simpa [applyFor, hsend streamId data now rfl] using ⟨h, horder⟩
  | onPacket pkt now =>
      rw [applyFor]
      split_ifs with hk
      · exact ⟨now, h.follow horder (.deliverA pkt now) now ⟨le_rfl, hheard pkt now rfl hk⟩ trivial⟩
      · refine ⟨net.clock, t, ?_⟩
        simpa using ⟨h, horder⟩
  | onTick now => exact ⟨now, h.follow horder (.tickA now) now le_rfl trivial⟩
  | setSessionId sid =>
      refine ⟨net.clock, t, ?_, horder⟩
      simp only [applyFor, List.append_nil]
      exact ⟨h.sender.congr rfl rfl rfl, h.receiver, h.stamped, h.fromA, h.fromB, h.delivered,
        h.chunkCount, h.bounded, h.bytes⟩
  | openStream =>
      refine ⟨net.clock, t, ?_⟩
      simpa [applyFor] using ⟨h, horder⟩

/-- Whatever the receiver's multiplexer is asked to do. -/
theorem operateB (h : Carrying isn net t) (horder : InOrder net t) {op : MuxOp}
    (hheard : ∀ pkt now, op = .onPacket pkt now → pkt.streamId = k → pkt ∈ net.emittedA) :
    ∃ clock t', Carrying isn (net.operateB k op clock) t' ∧ InOrder (net.operateB k op clock) t' := by
  simp only [ArqNetwork.operateB]
  cases op with
  | send streamId data now =>
      rw [applyFor]
      split_ifs with hk
      · rw [delivered_send, List.append_nil]
        exact ⟨now, h.follow horder (.sendB data now) now le_rfl trivial⟩
      · refine ⟨net.clock, t, ?_⟩
        simpa using ⟨h, horder⟩
  | onPacket pkt now =>
      rw [applyFor]
      split_ifs with hk
      · exact ⟨now, h.follow horder (.deliverB pkt now) now ⟨le_rfl, hheard pkt now rfl hk⟩ trivial⟩
      · refine ⟨net.clock, t, ?_⟩
        simpa using ⟨h, horder⟩
  | onTick now =>
      simp only [applyFor, delivered_onTick, List.append_nil]
      exact ⟨now, h.follow horder (.tickB now) now le_rfl trivial⟩
  | setSessionId sid =>
      refine ⟨net.clock, t, ?_, horder⟩
      simp only [applyFor, List.append_nil]
      exact ⟨h.sender, h.receiver.congr rfl rfl, h.stamped.congr rfl rfl, h.fromA, h.fromB,
        h.delivered, h.chunkCount, h.bounded, h.bytes⟩
  | openStream =>
      refine ⟨net.clock, t, ?_⟩
      simpa [applyFor] using ⟨h, horder⟩

/-- The sender sends on the stream, and not past its queue. -/
theorem sends (h : Carrying isn net t) (horder : InOrder net t) (data : Bytes) (now : ℚ)
    (hbound : net.chunksSent + net.chunkCount data < 2 ^ 31)
    (hpast : data ≠ [] → net.a.pending = [] ∨ ¬ net.a.canSend) :
    ∃ t', Carrying isn (net.next (.sendA data now)) t' ∧ InOrder (net.next (.sendA data now)) t' :=
  h.follow horder (.sendA data now) now ⟨le_rfl, hbound⟩ hpast

end Carrying

/-! ## Answers to what is delivered

An application that has received something wants to be sure that the sender will learn of it.  The
packets that acknowledge it fit the header, so sending them does not raise.
-/

/-- An endpoint that delivers is given a DATA packet of its session and its stream. -/
lemma ArqEndpoint.of_delivers {ep : ArqEndpoint} {k : ℤ} {op : MuxOp}
    (h : (ep.applyFor k op).1.delivered ≠ []) :
    ∃ pkt now, op = .onPacket pkt now ∧ pkt.streamId = k ∧ pkt.sessionId = ep.sessionId ∧
      ep.onPacket pkt now = (.ok (ep.onData pkt).1, (ep.onData pkt).2) := by
  cases op with
  | send streamId data now =>
      rw [applyFor] at h
      split_ifs at h
      · exact absurd (delivered_send ep data now) h
      · exact absurd rfl h
  | onPacket pkt now =>
      rw [applyFor] at h
      split_ifs at h with hk
      · by_cases hsession : pkt.sessionId = ep.sessionId
        · rcases ep.onPacket_cases pkt now with heq | ⟨-, heq⟩ | ⟨-, heq⟩ | ⟨-, heq⟩
          · rw [heq] at h
            exact absurd rfl h
          · exact ⟨pkt, now, rfl, hk, hsession, heq⟩
          · rw [heq] at h
            exact absurd (ArqHistory.delivered_onAck ep pkt now) h
          · rw [heq] at h
            exact absurd (ArqHistory.delivered_onNack ep pkt now) h
        · rw [onPacket, if_pos hsession] at h
          exact absurd rfl h
      · exact absurd rfl h
  | onTick now => exact absurd (delivered_onTick ep now) h
  | setSessionId sid => exact absurd rfl h
  | openStream => exact absurd rfl h

/-- **With what is delivered the answers can be transmitted**, if the window fits the header. -/
theorem Projects.fits_of_delivers {mux : StreamMux} {ep : ArqEndpoint} {k : ℤ}
    (h : Projects k mux ep) (hk : k ≠ 0) (hconfigured : Configured mux ep)
    (hwindow : mux.windowSize < 65536) {op : MuxOp}
    (hbase : 0 ≤ (ep.applyFor k op).2.rcvBase ∧ (ep.applyFor k op).2.rcvBase < 2 ^ 32)
    (hop : ∀ pkt now, op = .onPacket pkt now → pkt.FitsHeader)
    (hdelivers : (ep.applyFor k op).1.delivered ≠ []) :
    ∀ p ∈ (mux.apply op).1.packets, p.FitsHeader := by
  obtain ⟨pkt, now, rfl, hstream, hsession, heq⟩ := ArqEndpoint.of_delivers hdelivers
  have hpkt := hop pkt now rfl
  obtain ⟨e, hopen, -, hid, hsame⟩ := h.endpoint pkt.streamId
  obtain rfl := hsame hstream
  have hcontrol : pkt.streamId ≠ CONTROL_STREAM_ID := by
    rw [hstream]
    exact hk
  obtain ⟨-, hpackets, -⟩ := Projects.onPacket_eq (s := k) hcontrol hopen now
  rw [applyFor, if_pos hstream, heq] at hbase
  rw [StreamMux.apply, hpackets, heq]
  refine Packable.fitsHeader_onData ?_ ?_ ?_ hconfigured.nextSeq hbase
  · rw [← hsession]
    exact hpkt.sessionId
  · rw [hid]
    exact hpkt.streamId
  · rw [hconfigured.windowSize]
    exact hwindow

end PhotonTCP
