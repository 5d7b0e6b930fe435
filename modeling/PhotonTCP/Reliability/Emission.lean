import PhotonTCP.Reliability.Arq

/-!
# What an endpoint emits

Whatever an endpoint is asked to do, the packets it hands out bear its own stream id, and its ACKs
acknowledge up to where its receiver stands.  The invariant behind it is about retransmissions:
everything it keeps outstanding is a DATA packet of its stream.

* `Stamped` — the invariant.
* `Own` — what it makes of an emitted packet.
* `Stamped.send`, `Stamped.onPacket`, `Stamped.onTick` — every operation preserves the one and
  emits the other.

Stream ids matter because packets of all streams share one channel, and the session sorts them by
this field.  An endpoint of one stream that emitted a packet of another would disturb that one.
That an ACK carries the receiver's own position, and no older one, is used by the sender at the
other side, and by it alone: an acknowledgement that arrives late is stale, but it was true when it
was emitted.
-/

namespace PhotonTCP

open ArqEndpoint

/-- Everything outstanding is a DATA packet of the endpoint's stream. -/
def Stamped (ep : ArqEndpoint) : Prop :=
  ∀ e ∈ ep.inFlight.entries, e.2.type = .Data ∧ e.2.streamId = ep.streamId

/-- The packet belongs to the endpoint's stream, and if it is an ACK it says where the endpoint's
receiver stands. -/
structure Own (ep : ArqEndpoint) (pkt : Packet) : Prop where
  streamId : pkt.streamId = ep.streamId
  ack : pkt.type = .Ack → pkt.ack = ep.rcvBase

lemma Own.of_data {ep : ArqEndpoint} {pkt : Packet}
    (h : pkt.type = .Data ∧ pkt.streamId = ep.streamId) : Own ep pkt :=
  ⟨h.2, fun ht => by rw [h.1] at ht; cases ht⟩

namespace Stamped

variable {ep ep' : ArqEndpoint}

lemma create {sessionId sendIsn windowSize maxPayload recvIsn streamId maxRetx : ℤ}
    {rto : RtoEstimator} (h : ArqEndpoint.create sessionId sendIsn windowSize rto maxPayload recvIsn
      streamId maxRetx = .ok ep) : Stamped ep := by
  obtain ⟨-, -, -, rfl⟩ := create_eq_ok_iff.mp h
  intro e he
  exact absurd he List.not_mem_nil

lemma congr (h : Stamped ep) (hflight : ep'.inFlight = ep.inFlight)
    (hstream : ep'.streamId = ep.streamId) : Stamped ep' := by
  intro e he
  rw [hflight] at he
  rw [hstream]
  exact h e he

lemma of_get? (h : Stamped ep) {s : ℤ} {pkt : Packet} (hget : ep.inFlight.get? s = some pkt) :
    pkt.type = .Data ∧ pkt.streamId = ep.streamId :=
  h (s, pkt) (Dict.mem_entries_iff.mpr hget)

lemma emitData (h : Stamped ep) (chunk : Bytes) (now : ℚ) :
    Stamped (ep.emitData chunk now).2 := by
  rintro ⟨s, pkt⟩ he
  rw [Dict.mem_entries_iff, inFlight_emitData, Dict.get?_set] at he
  split_ifs at he
  · cases he
    exact ⟨rfl, rfl⟩
  · exact h.of_get? he

/-- Flushing emits DATA packets of the stream. -/
theorem flushLoop (now : ℚ) : ∀ (cs : List Bytes) (ep : ArqEndpoint), Stamped ep →
    Stamped (flushLoop now cs ep).2 ∧
      ∀ pkt ∈ (flushLoop now cs ep).1, pkt.type = .Data ∧ pkt.streamId = ep.streamId := by
  intro cs
  induction cs with
  | nil =>
      intro ep h
      exact ⟨h.congr rfl rfl, fun pkt hp => absurd hp List.not_mem_nil⟩
  | cons c cs ih =>
      intro ep h
      rw [ArqEndpoint.flushLoop]
      split_ifs
      · obtain ⟨hs, hout⟩ := ih _ (h.emitData c now)
        refine ⟨hs, ?_⟩
        intro pkt hmem
        rcases List.mem_cons.mp hmem with rfl | htail
        · exact ⟨rfl, rfl⟩
        · exact hout pkt htail
      · exact ⟨h.congr rfl rfl, fun pkt hp => absurd hp List.not_mem_nil⟩

/-- So does sending. -/
theorem sendLoop (now : ℚ) : ∀ (cs : List Bytes) (ep : ArqEndpoint), Stamped ep →
    Stamped (sendLoop now cs ep).2 ∧
      ∀ pkt ∈ (sendLoop now cs ep).1, pkt.type = .Data ∧ pkt.streamId = ep.streamId := by
  intro cs
  induction cs with
  | nil =>
      intro ep h
      exact ⟨h, fun pkt hp => absurd hp List.not_mem_nil⟩
  | cons c cs ih =>
      intro ep h
      rw [ArqEndpoint.sendLoop]
      split_ifs
      · obtain ⟨hs, hout⟩ := ih _ (h.emitData c now)
        refine ⟨hs, ?_⟩
        intro pkt hmem
        rcases List.mem_cons.mp hmem with rfl | htail
        · exact ⟨rfl, rfl⟩
        · exact hout pkt htail
      · exact ih _ (h.congr rfl rfl)

/-- Removing packets keeps the invariant. -/
theorem ackLoop (now : ℚ) : ∀ (es : List (ℤ × Outstanding)) (ep : ArqEndpoint), Stamped ep →
    Stamped (ackLoop now es ep).2 := by
  intro es
  induction es with
  | nil => intro ep h; exact h
  | cons e es ih =>
      intro ep h
      have herase : ∀ rto ackedBytes, Stamped
          { ep with outstanding := ep.outstanding.erase e.1, rto, ackedBytes } := by
        intro rto ackedBytes x hx
        replace hx : x ∈ ((ep.outstanding.erase e.1).mapValues Outstanding.packet).entries := hx
        rw [mapValues_erase_packet, Dict.mem_entries_erase] at hx
        exact h x hx.1
      rw [ArqEndpoint.ackLoop]
      split_ifs
      · cases RtoEstimator.onSample ep.rto (now - e.2.sendTime) with
        | error text => exact herase _ _
        | ok rto => exact ih _ (herase _ _)
      · exact ih _ (herase _ _)

/-- What is repeated was outstanding, and so is a DATA packet of the stream. -/
theorem tickLoop (now : ℚ) : ∀ (es : List (ℤ × Outstanding)) (ep : ArqEndpoint), Stamped ep →
    (∀ e ∈ es, ep.inFlight.get? e.1 = some e.2.packet) →
    Stamped (tickLoop now es ep).2 ∧
      ∀ pkt ∈ (tickLoop now es ep).1.packets, pkt.type = .Data ∧ pkt.streamId = ep.streamId := by
  intro es
  induction es with
  | nil =>
      intro ep h _
      exact ⟨h.congr rfl rfl, fun pkt hp => absurd hp List.not_mem_nil⟩
  | cons e es ih =>
      intro ep h hes
      have he : ep.inFlight.get? e.1 = some e.2.packet := hes e (List.mem_cons_self ..)
      rw [ArqEndpoint.tickLoop]
      split_ifs
      · exact ⟨h.congr rfl rfl, fun pkt hp => absurd hp List.not_mem_nil⟩
      · have hflight : (ep.outstanding.set e.1 ⟨e.2.packet, now, e.2.retxCount + 1⟩).mapValues
            Outstanding.packet = ep.inFlight := mapValues_set_packet he
        obtain ⟨hs, hout⟩ := ih
          { ep with outstanding := ep.outstanding.set e.1 ⟨e.2.packet, now, e.2.retxCount + 1⟩ }
          (h.congr hflight rfl)
          (fun x hx => (congrArg (fun d => Dict.get? d x.1) hflight).trans
            (hes x (List.mem_cons_of_mem _ hx)))
        refine ⟨hs, ?_⟩
        intro pkt hmem
        rcases List.mem_cons.mp hmem with rfl | htail
        · exact h.of_get? he
        · exact hout pkt htail

/-! ## The operations

The loops before say what is preserved; an operation is one or two of them.
-/

/-- **`send`** emits packets of the stream. -/
theorem send (h : Stamped ep) (data : Bytes) (now : ℚ) :
    Stamped (ep.send data now).2 ∧ (ep.send data now).2.streamId = ep.streamId ∧
      ∀ pkt ∈ (ep.send data now).1.packets, Own (ep.send data now).2 pkt := by
  rw [ArqEndpoint.send]
  split_ifs
  · exact ⟨h, rfl, fun pkt hp => absurd hp List.not_mem_nil⟩
  · obtain ⟨hs, hout⟩ := h.sendLoop now (chunks ep.maxPayload.toNat data) ep
    obtain ⟨nextSeq, outstanding, pending, hframe⟩ :=
      sendLoop_frame now (chunks ep.maxPayload.toNat data) ep
    have hstream : (ArqEndpoint.sendLoop now (chunks ep.maxPayload.toNat data) ep).2.streamId
        = ep.streamId := by rw [hframe]
    exact ⟨hs, hstream, fun pkt hp => Own.of_data (hstream ▸ hout pkt hp)⟩

/-- **`onTick`** repeats packets of the stream. -/
theorem onTick (h : Stamped ep) (now : ℚ) :
    Stamped (ep.onTick now).2 ∧ (ep.onTick now).2.streamId = ep.streamId ∧
      ∀ pkt ∈ (ep.onTick now).1.packets, Own (ep.onTick now).2 pkt := by
  rw [ArqEndpoint.onTick]
  split_ifs
  · exact ⟨h, rfl, fun pkt hp => absurd hp List.not_mem_nil⟩
  · exact ⟨h, rfl, fun pkt hp => absurd hp List.not_mem_nil⟩
  · obtain ⟨outstanding, rto, failed, hframe⟩ := tickLoop_frame now (ep.timedOut now) ep
    obtain ⟨hs, hout⟩ := h.tickLoop now (ep.timedOut now) ep
      (fun e he => get?_inFlight (List.mem_filter.mp he).1)
    have hstream : (ArqEndpoint.tickLoop now (ep.timedOut now) ep).2.streamId = ep.streamId := by
      rw [hframe]
    exact ⟨hs, hstream, fun pkt hp => Own.of_data (hstream ▸ hout pkt hp)⟩

/-- **`onPacket`** answers on the stream, and its ACK says where the receiver stands. -/
theorem onPacket (h : Stamped ep) (pkt : Packet) (now : ℚ) :
    Stamped (ep.onPacket pkt now).2 ∧ (ep.onPacket pkt now).2.streamId = ep.streamId ∧
      ∀ p ∈ (observed (ep.onPacket pkt now).1).packets, Own (ep.onPacket pkt now).2 p := by
  rcases ep.onPacket_cases pkt now with heq | ⟨-, heq⟩ | ⟨-, heq⟩ | ⟨-, heq⟩
  · rw [heq]
    exact ⟨h, rfl, fun p hp => absurd hp List.not_mem_nil⟩
  · -- DATA: the answers are made on the spot, after the payload was accepted
    rw [heq]
    obtain ⟨rcvBase, reorder, nacked, hframe⟩ := ep.onData_frame pkt
    obtain ⟨nacked', hanswer⟩ := (ep.acceptData pkt).2.answerData_frame
    obtain ⟨rcvBase', reorder', nacked'', haccept⟩ := ep.acceptData_frame pkt
    have hafter : (ep.onData pkt).2 = { (ep.acceptData pkt).2 with nacked := nacked' } := hanswer
    refine ⟨?_, ?_, ?_⟩
    · rw [hframe]
      exact h.congr rfl rfl
    · rw [hframe]
    · intro p hp
      rw [hafter]
      rcases mem_answerData _ hp with rfl | ⟨missing, rfl⟩
      · exact ⟨rfl, fun _ => rfl⟩
      · exact ⟨rfl, fun ht => by cases ht⟩
  · -- ACK
    rw [heq]
    obtain ⟨outstanding, ackedBytes, rto, hframe⟩ :=
      ackLoop_frame now (ep.covered pkt.ack) { ep with peerWindow := pkt.window }
    have hremoved := ackLoop now (ep.covered pkt.ack) { ep with peerWindow := pkt.window }
      (h.congr rfl rfl)
    rcases ep.onAck_cases pkt now with ⟨e, hraise⟩ | hflush
    · rw [hraise]
      refine ⟨hremoved, by rw [hframe], fun p hp => absurd hp List.not_mem_nil⟩
    · rw [hflush, flushPending]
      obtain ⟨hs, hout⟩ := flushLoop now _ _ hremoved
      obtain ⟨nextSeq, outstanding', pending, hframe'⟩ := flushLoop_frame now
        (ArqEndpoint.ackLoop now (ep.covered pkt.ack) { ep with peerWindow := pkt.window }).2.pending
        (ArqEndpoint.ackLoop now (ep.covered pkt.ack) { ep with peerWindow := pkt.window }).2
      refine ⟨hs, by rw [hframe', hframe], ?_⟩
      intro p hp
      refine Own.of_data ?_
      rw [hframe']
      exact hout p hp
  · -- NACK
    rw [heq, onNack]
    dsimp only
    cases hget : ep.outstanding.get? pkt.ack with
    | none => exact ⟨h.congr rfl rfl, rfl, fun p hp => absurd hp List.not_mem_nil⟩
    | some o =>
        have hflight : ep.inFlight.get? pkt.ack = some o.packet :=
          get?_inFlight (Dict.mem_entries_iff.mpr hget)
        refine ⟨h.congr (mapValues_set_packet hflight) rfl, rfl, ?_⟩
        intro p hp
        rw [List.mem_singleton.mp hp]
        exact Own.of_data (h.of_get? hflight)

end Stamped

end PhotonTCP
