import PhotonTCP.Reliability.Packable

/-!
# How much a packet carries

No packet of an endpoint carries more than the payload limit, however often it is retransmitted.

* `Limited limit` — the invariant: nothing that is queued or outstanding is longer.
* **`Limited.send`**, **`Limited.onPacket`**, **`Limited.onTick`** — every operation preserves it
  and emits packets that carry no more.

A channel with frames of bounded size needs this: the longest frame a session can produce is a
header and one payload.  The bound has to be on what is queued and outstanding, and not on what is
emitted now, because a chunk may wait in the queue for long and be repeated long after that.
-/

namespace PhotonTCP

open ArqEndpoint

/-- Nothing that the endpoint has yet to send, or may have to send again, is longer. -/
structure Limited (limit : ℕ) (ep : ArqEndpoint) : Prop where
  maxPayload : ep.maxPayload.toNat ≤ limit
  pending : ∀ chunk ∈ ep.pending, chunk.length ≤ limit
  outstanding : ∀ e ∈ ep.outstanding.entries, e.2.packet.payload.length ≤ limit

namespace Limited

variable {limit : ℕ} {ep : ArqEndpoint}

lemma mono {limit' : ℕ} (h : Limited limit ep) (hle : limit ≤ limit') : Limited limit' ep where
  maxPayload := h.maxPayload.trans hle
  pending chunk hchunk := (h.pending chunk hchunk).trans hle
  outstanding e he := (h.outstanding e he).trans hle

/-- A new endpoint. -/
lemma create {sessionId sendIsn windowSize maxPayload recvIsn streamId maxRetx : ℤ}
    {rto : RtoEstimator} (h : ArqEndpoint.create sessionId sendIsn windowSize rto maxPayload recvIsn
      streamId maxRetx = .ok ep) (hpayload : maxPayload.toNat ≤ limit) : Limited limit ep := by
  obtain ⟨-, -, -, rfl⟩ := create_eq_ok_iff.mp h
  exact ⟨hpayload, by simp, by simp⟩

/-! ## Sending

Slices are as long as the limit of the endpoint, at most.
-/

/-- One entry of the table. -/
lemma outstanding_set (h : Limited limit ep) (s : ℤ) (o : Outstanding)
    (ho : o.packet.payload.length ≤ limit) :
    ∀ e ∈ (ep.outstanding.set s o).entries, e.2.packet.payload.length ≤ limit := by
  intro e he
  rcases Dict.mem_entries_set.mp he with rfl | ⟨hold, -⟩
  · exact ho
  · exact h.outstanding e hold

lemma emitData (h : Limited limit ep) {chunk : Bytes} (hchunk : chunk.length ≤ limit) (now : ℚ) :
    Limited limit (ep.emitData chunk now).2 :=
  { h with outstanding := h.outstanding_set _ _ hchunk }

/-- Flushing emits what was queued. -/
theorem flushLoop (now : ℚ) : ∀ (cs : List Bytes) (ep : ArqEndpoint), Limited limit ep →
    (∀ chunk ∈ cs, chunk.length ≤ limit) → Limited limit (flushLoop now cs ep).2 ∧
      ∀ p ∈ (flushLoop now cs ep).1, p.payload.length ≤ limit := by
  intro cs
  induction cs with
  | nil => exact fun ep h _ => ⟨{ h with pending := by simp [ArqEndpoint.flushLoop] },
      by simp [ArqEndpoint.flushLoop]⟩
  | cons chunk cs ih =>
      intro ep h hcs
      obtain ⟨hchunk, hrest⟩ := List.forall_mem_cons.mp hcs
      rw [ArqEndpoint.flushLoop]
      split_ifs
      · obtain ⟨hs, hout⟩ := ih _ (h.emitData hchunk now) hrest
        exact ⟨hs, List.forall_mem_cons.mpr ⟨hchunk, hout⟩⟩
      · exact ⟨{ h with pending := hcs }, by simp⟩

/-- Sending emits or queues chunks. -/
theorem sendLoop (now : ℚ) : ∀ (cs : List Bytes) (ep : ArqEndpoint), Limited limit ep →
    (∀ chunk ∈ cs, chunk.length ≤ limit) → Limited limit (sendLoop now cs ep).2 ∧
      ∀ p ∈ (sendLoop now cs ep).1, p.payload.length ≤ limit := by
  intro cs
  induction cs with
  | nil => exact fun ep h _ => ⟨h, by simp [ArqEndpoint.sendLoop]⟩
  | cons chunk cs ih =>
      intro ep h hcs
      obtain ⟨hchunk, hrest⟩ := List.forall_mem_cons.mp hcs
      rw [ArqEndpoint.sendLoop]
      split_ifs
      · obtain ⟨hs, hout⟩ := ih _ (h.emitData hchunk now) hrest
        exact ⟨hs, List.forall_mem_cons.mpr ⟨hchunk, hout⟩⟩
      · refine ih _ { h with pending := ?_ } hrest
        rw [List.forall_mem_append]
        exact ⟨h.pending, by simpa using hchunk⟩

/-- **`send`** emits packets within the limit. -/
theorem send (h : Limited limit ep) (data : Bytes) (now : ℚ) : Limited limit (ep.send data now).2 ∧
    ∀ p ∈ (ep.send data now).1.packets, p.payload.length ≤ limit := by
  rw [ArqEndpoint.send]
  split_ifs
  · exact ⟨h, by simp⟩
  · exact sendLoop now _ _ h fun chunk hchunk =>
      (Packable.length_le_of_mem_chunks hchunk).trans h.maxPayload

/-! ## Receiving

ACKs and NACKs have no payload; what an ACK lets out of the queue was limited before.
-/

/-- The answers to a DATA packet carry nothing. -/
lemma onData (h : Limited limit ep) (pkt : Packet) : Limited limit (ep.onData pkt).2 ∧
    ∀ p ∈ (ep.onData pkt).1.packets, p.payload.length ≤ limit := by
  obtain ⟨rcvBase, reorder, nacked, hframe⟩ := ep.onData_frame pkt
  refine ⟨by rw [hframe]; exact { h with }, fun p hp => ?_⟩
  rcases mem_answerData _ hp with rfl | ⟨missing, rfl⟩
  · exact Nat.zero_le _
  · exact Nat.zero_le _

/-- Removing packets keeps the invariant. -/
theorem ackLoop (now : ℚ) : ∀ (es : List (ℤ × Outstanding)) (ep : ArqEndpoint), Limited limit ep →
    Limited limit (ackLoop now es ep).2 := by
  intro es
  induction es with
  | nil => exact fun ep h => h
  | cons e es ih =>
      intro ep h
      have herase : ∀ rto ackedBytes, Limited limit
          { ep with outstanding := ep.outstanding.erase e.1, rto, ackedBytes } := fun rto ackedBytes =>
        { h with outstanding := fun x hx => h.outstanding x (Dict.mem_entries_erase.mp hx).1 }
      rw [ArqEndpoint.ackLoop]
      split_ifs
      · cases RtoEstimator.onSample ep.rto (now - e.2.sendTime) with
        | error text => exact herase _ _
        | ok rto => exact ih _ (herase _ _)
      · exact ih _ (herase _ _)

lemma onAck (h : Limited limit ep) (pkt : Packet) (now : ℚ) : Limited limit (ep.onAck pkt now).2 ∧
    ∀ p ∈ (observed (ep.onAck pkt now).1).packets, p.payload.length ≤ limit := by
  have hremoved : Limited limit (ArqEndpoint.ackLoop now (ep.covered pkt.ack)
      { ep with peerWindow := pkt.window }).2 := ackLoop now _ _ { h with }
  rcases ep.onAck_cases pkt now with ⟨e, hraise⟩ | hflush
  · rw [hraise]
    exact ⟨hremoved, by simp [observed]⟩
  · rw [hflush, flushPending]
    exact flushLoop now _ _ hremoved hremoved.pending

lemma onNack (h : Limited limit ep) (pkt : Packet) (now : ℚ) : Limited limit (ep.onNack pkt now).2 ∧
    ∀ p ∈ (ep.onNack pkt now).1.packets, p.payload.length ≤ limit := by
  rw [ArqEndpoint.onNack]
  dsimp only
  cases hget : ep.outstanding.get? pkt.ack with
  | none => exact ⟨{ h with }, by simp⟩
  | some o =>
      have ho := h.outstanding _ (Dict.mem_entries_iff.mpr hget)
      exact ⟨{ h with outstanding := h.outstanding_set _ _ ho }, by simpa using ho⟩

/-- **`onPacket`** emits packets within the limit. -/
theorem onPacket (h : Limited limit ep) (pkt : Packet) (now : ℚ) :
    Limited limit (ep.onPacket pkt now).2 ∧
      ∀ p ∈ (observed (ep.onPacket pkt now).1).packets, p.payload.length ≤ limit := by
  rcases ep.onPacket_cases pkt now with heq | ⟨-, heq⟩ | ⟨-, heq⟩ | ⟨-, heq⟩
  · rw [heq]
    exact ⟨h, by simp [observed]⟩
  · rw [heq]
    exact h.onData pkt
  · rw [heq]
    exact h.onAck pkt now
  · rw [heq]
    exact h.onNack pkt now

/-! ## Timeouts

What is sent again was outstanding.
-/

/-- What is sent again is within the limit. -/
theorem tickLoop (now : ℚ) : ∀ (es : List (ℤ × Outstanding)) (ep : ArqEndpoint), Limited limit ep →
    (∀ e ∈ es, e.2.packet.payload.length ≤ limit) → Limited limit (tickLoop now es ep).2 ∧
      ∀ p ∈ (tickLoop now es ep).1.packets, p.payload.length ≤ limit := by
  intro es
  induction es with
  | nil => exact fun ep h _ => ⟨{ h with }, by simp [ArqEndpoint.tickLoop]⟩
  | cons e es ih =>
      intro ep h hes
      obtain ⟨he, hrest⟩ := List.forall_mem_cons.mp hes
      rw [ArqEndpoint.tickLoop]
      split_ifs
      · exact ⟨{ h with }, by simp⟩
      · have hset : Limited limit
            { ep with outstanding := ep.outstanding.set e.1 ⟨e.2.packet, now, e.2.retxCount + 1⟩ } :=
          { h with outstanding := h.outstanding_set _ _ he }
        obtain ⟨hs, hout⟩ := ih _ hset hrest
        exact ⟨hs, List.forall_mem_cons.mpr ⟨he, hout⟩⟩

/-- **`onTick`** emits packets within the limit. -/
theorem onTick (h : Limited limit ep) (now : ℚ) : Limited limit (ep.onTick now).2 ∧
    ∀ p ∈ (ep.onTick now).1.packets, p.payload.length ≤ limit := by
  rw [ArqEndpoint.onTick]
  split_ifs
  · exact ⟨h, by simp⟩
  · exact ⟨h, by simp⟩
  · exact tickLoop now _ _ h fun e he => h.outstanding e (List.mem_filter.mp he).1

end Limited

end PhotonTCP
