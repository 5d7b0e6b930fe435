import PhotonTCP.Reliability.Emission
import PhotonTCP.Reliability.Sender

/-!
# What a receiver has done

The receiving half of an endpoint, against the log of the sender it listens to.  `received` counts
the chunks delivered so far; `Receiver` says that the endpoint stands there and that whatever it
has buffered is a chunk of the log under its own number.

* `Receiver` — the relation.
* `Receiver.drainLoop` — delivering buffered chunks moves along the log.
* **`Receiver.onPacket`** — a packet from the sender makes the endpoint deliver the next chunks of
  the log, and never acknowledge more than it has delivered.
* `Receiver.send`, `Receiver.onTick` — the other two operations do not touch this half.

The log is the list of chunks in the order of their numbers; it belongs to the sender, and may grow
while packets of it are still on their way.  A packet of the log carries a chunk under its own
number, so it does not matter which of them arrive, how often, and in what order: a buffered chunk
is always the right one for its number, and once its turn has come it is the next of the log.

Sequence numbers wrap, so "its own number" only identifies a chunk as long as the log is shorter
than half of the space; this is where the bound on the log is used.
-/

namespace PhotonTCP

open ArqEndpoint

/-- The endpoint has delivered the first `received` chunks of `log`, and buffers chunks of it. -/
structure Receiver (isn : ℤ) (log : List Bytes) (received : ℕ) (ep : ArqEndpoint) : Prop where
  received_le : received ≤ log.length
  rcvBase : ep.rcvBase = seqOf isn received
  buffered : ∀ e ∈ ep.reorder.entries, ∃ i, log[i]? = some e.2 ∧ e.1 = seqOf isn i

namespace Receiver

variable {isn : ℤ} {log : List Bytes} {received : ℕ} {ep ep' : ArqEndpoint}

/-- A fresh endpoint that expects the sender's first number has delivered nothing. -/
lemma create {sessionId sendIsn windowSize maxPayload streamId maxRetx : ℤ} {rto : RtoEstimator}
    (h₀ : 0 ≤ isn) (h₁ : isn < SEQ_MOD)
    (h : ArqEndpoint.create sessionId sendIsn windowSize rto maxPayload isn streamId maxRetx
      = .ok ep) : Receiver isn [] 0 ep := by
  obtain ⟨-, -, -, rfl⟩ := create_eq_ok_iff.mp h
  exact ⟨le_rfl, (seqOf_zero h₀ h₁).symm, fun e he => absurd he List.not_mem_nil⟩

lemma congr (h : Receiver isn log received ep) (hbase : ep'.rcvBase = ep.rcvBase)
    (hreorder : ep'.reorder = ep.reorder) : Receiver isn log received ep' :=
  ⟨h.received_le, by rw [hbase, h.rcvBase], by rw [hreorder]; exact h.buffered⟩

/-- The sender may emit more in the meantime. -/
lemma append (h : Receiver isn log received ep) (new : List Bytes) :
    Receiver isn (log ++ new) received ep := by
  refine ⟨?_, h.rcvBase, ?_⟩
  · rw [List.length_append]
    exact h.received_le.trans (Nat.le_add_right _ _)
  · intro e he
    obtain ⟨i, hi, hkey⟩ := h.buffered e he
    have hlt : i < log.length := (List.getElem?_eq_some_iff.mp hi).1
    exact ⟨i, by rw [List.getElem?_append_left hlt, hi], hkey⟩

/-- What it acknowledges it has delivered. -/
lemma ackUpTo (h : Receiver isn log received ep) {pkt : Packet} (hown : Own ep pkt) :
    AckUpTo isn received pkt :=
  fun ht => ⟨received, le_rfl, by rw [hown.ack ht, h.rcvBase]⟩

/-- The number the endpoint expects is that of the next chunk only. -/
lemma index_eq (h : Receiver isn log received ep) (hb : log.length < 2 ^ 31) {i : ℕ} {c : Bytes}
    (hi : log[i]? = some c) (hbase : seqOf isn i = ep.rcvBase) : i = received := by
  have hlt : i < log.length := (List.getElem?_eq_some_iff.mp hi).1
  have hle := h.received_le
  rw [h.rcvBase] at hbase
  exact seqOf_inj (by omega) (by omega) hbase

/-- Delivering buffered chunks moves along the log. -/
theorem drainLoop (hb : log.length < 2 ^ 31) : ∀ (fuel received : ℕ) (ep : ArqEndpoint),
    Receiver isn log received ep →
    ∃ received', received ≤ received' ∧ Receiver isn log received' (drainLoop fuel ep).2 ∧
      log.take received' = log.take received ++ (drainLoop fuel ep).1 := by
  intro fuel
  induction fuel with
  | zero =>
      intro received ep h
      exact ⟨received, le_rfl, h, (List.append_nil _).symm⟩
  | succ fuel ih =>
      intro received ep h
      rw [ArqEndpoint.drainLoop]
      cases hget : ep.reorder.get? ep.rcvBase with
      | none => exact ⟨received, le_rfl, h, (List.append_nil _).symm⟩
      | some payload =>
          obtain ⟨i, hi, hkey⟩ := h.buffered (ep.rcvBase, payload) (Dict.mem_entries_iff.mpr hget)
          obtain rfl := h.index_eq hb hi hkey.symm
          have hlt : i < log.length := (List.getElem?_eq_some_iff.mp hi).1
          have hnext : Receiver isn log (i + 1)
              { ep with reorder := ep.reorder.erase ep.rcvBase
                        rcvBase := seqAdd ep.rcvBase 1 } := by
            refine ⟨hlt, ?_, ?_⟩
            · show seqAdd ep.rcvBase 1 = _
              rw [h.rcvBase, seqAdd_seqOf]
            · intro e he
              exact h.buffered e (Dict.mem_entries_erase.mp he).1
          obtain ⟨received', hle, hr, htake⟩ := ih (i + 1) _ hnext
          refine ⟨received', by omega, hr, ?_⟩
          rw [htake, List.take_add_one, hi, List.append_assoc]
          rfl

/-- Accepting a payload delivers the next chunks of the log, or none. -/
theorem acceptData (h : Receiver isn log received ep) (hb : log.length < 2 ^ 31) {pkt : Packet}
    (hpkt : ∃ i, log[i]? = some pkt.payload ∧ pkt.seq = seqOf isn i) :
    ∃ received', received ≤ received' ∧ Receiver isn log received' (ep.acceptData pkt).2 ∧
      log.take received' = log.take received ++ (ep.acceptData pkt).1 := by
  obtain ⟨i, hi, hseq⟩ := hpkt
  rw [ArqEndpoint.acceptData]
  split_ifs with hbase hahead hroom
  · -- the expected chunk
    obtain rfl := h.index_eq hb hi (hseq.symm.trans hbase)
    have hlt : i < log.length := (List.getElem?_eq_some_iff.mp hi).1
    have hnext : Receiver isn log (i + 1) { ep with rcvBase := seqAdd ep.rcvBase 1 } := by
      refine ⟨hlt, ?_, h.buffered⟩
      show seqAdd ep.rcvBase 1 = _
      rw [h.rcvBase, seqAdd_seqOf]
    obtain ⟨received', hle, hr, htake⟩ := Receiver.drainLoop hb ep.reorder.size (i + 1) _ hnext
    refine ⟨received', by omega, hr.congr rfl rfl, ?_⟩
    show log.take received' = log.take i ++ pkt.payload :: (ArqEndpoint.drainLoop _ _).1
    rw [htake, List.take_add_one, hi, List.append_assoc]
    rfl
  · -- a later chunk, to be kept
    refine ⟨received, le_rfl, ⟨h.received_le, h.rcvBase, ?_⟩, (List.append_nil _).symm⟩
    rintro ⟨s, payload⟩ he
    replace he : (s, payload) ∈ (ep.reorder.set pkt.seq pkt.payload).entries := he
    rw [Dict.mem_entries_iff, Dict.get?_set] at he
    split_ifs at he with hs
    · cases he
      exact ⟨i, hi, hs.trans hseq⟩
    · exact h.buffered (s, payload) (Dict.mem_entries_iff.mpr he)
  · exact ⟨received, le_rfl, h, (List.append_nil _).symm⟩
  · exact ⟨received, le_rfl, h, (List.append_nil _).symm⟩

/-! ## The operations

Only DATA moves this half, and `onData` is accepting and answering.
-/

/-- **`onPacket`**: the endpoint delivers the next chunks of the log, and what it acknowledges it
has delivered. -/
theorem onPacket (h : Receiver isn log received ep) (hstamped : Stamped ep)
    (hb : log.length < 2 ^ 31) {pkt : Packet} (hpkt : DataFrom isn log pkt) (now : ℚ) :
    ∃ received', received ≤ received' ∧ Receiver isn log received' (ep.onPacket pkt now).2 ∧
      log.take received' = log.take received ++ (observed (ep.onPacket pkt now).1).delivered ∧
      ∀ p ∈ (observed (ep.onPacket pkt now).1).packets, AckUpTo isn received' p := by
  obtain ⟨received', hle, hr, htake⟩ : ∃ received', received ≤ received' ∧
      Receiver isn log received' (ep.onPacket pkt now).2 ∧
      log.take received' = log.take received ++ (observed (ep.onPacket pkt now).1).delivered := by
    rcases ep.onPacket_cases pkt now with heq | ⟨htype, heq⟩ | ⟨-, heq⟩ | ⟨-, heq⟩
    · rw [heq]
      exact ⟨received, le_rfl, h, (List.append_nil _).symm⟩
    · rw [heq]
      obtain ⟨received', hle, hr, htake⟩ := h.acceptData hb (hpkt htype)
      obtain ⟨nacked, hanswer⟩ := (ep.acceptData pkt).2.answerData_frame
      refine ⟨received', hle, ?_, htake⟩
      show Receiver isn log received' (ep.acceptData pkt).2.answerData.2
      rw [hanswer]
      exact hr.congr rfl rfl
    · -- ACK: the sending half only
      rw [heq]
      obtain ⟨outstanding, ackedBytes, rto, hframe⟩ :=
        ackLoop_frame now (ep.covered pkt.ack) { ep with peerWindow := pkt.window }
      rcases ep.onAck_cases pkt now with ⟨e, hraise⟩ | hflush
      · rw [hraise, hframe]
        exact ⟨received, le_rfl, h.congr rfl rfl, (List.append_nil _).symm⟩
      · obtain ⟨nextSeq, outstanding', pending, hframe'⟩ := flushLoop_frame now
          (ackLoop now (ep.covered pkt.ack) { ep with peerWindow := pkt.window }).2.pending
          (ackLoop now (ep.covered pkt.ack) { ep with peerWindow := pkt.window }).2
        rw [hflush, flushPending, hframe', hframe]
        exact ⟨received, le_rfl, h.congr rfl rfl, (List.append_nil _).symm⟩
    · -- NACK: likewise
      rw [heq, onNack]
      dsimp only
      cases ep.outstanding.get? pkt.ack with
      | none => exact ⟨received, le_rfl, h.congr rfl rfl, (List.append_nil _).symm⟩
      | some o => exact ⟨received, le_rfl, h.congr rfl rfl, (List.append_nil _).symm⟩
  refine ⟨received', hle, hr, htake, ?_⟩
  intro p hp
  obtain ⟨-, -, hown⟩ := hstamped.onPacket pkt now
  exact hr.ackUpTo (hown p hp)

/-- **`send`** does not touch this half. -/
theorem send (h : Receiver isn log received ep) (data : Bytes) (now : ℚ) :
    Receiver isn log received (ep.send data now).2 := by
  rw [ArqEndpoint.send]
  split_ifs
  · exact h
  · obtain ⟨nextSeq, outstanding, pending, hframe⟩ :=
      sendLoop_frame now (chunks ep.maxPayload.toNat data) ep
    show Receiver isn log received (sendLoop now (chunks ep.maxPayload.toNat data) ep).2
    rw [hframe]
    exact h.congr rfl rfl

/-- Nor does **`onTick`**. -/
theorem onTick (h : Receiver isn log received ep) (now : ℚ) :
    Receiver isn log received (ep.onTick now).2 := by
  rw [ArqEndpoint.onTick]
  split_ifs
  · exact h
  · exact h
  · obtain ⟨outstanding, rto, failed, hframe⟩ := tickLoop_frame now (ep.timedOut now) ep
    rw [hframe]
    exact h.congr rfl rfl

end Receiver

end PhotonTCP
