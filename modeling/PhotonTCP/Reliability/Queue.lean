import PhotonTCP.Reliability.Sender
import PhotonTCP.Stream.Isolation

/-!
# The queue of a sender

What the queue behind the window holds, and when a sender can send without passing it.

* `ne_nil_of_mem_chunks`, `length_chunks_le` — no chunk is empty, so there are no more chunks than
  bytes.
* `Whole` — no queued chunk is empty; **`Whole.applyFor`** — no operation queues one.
* `InTurn` — nothing that is sent now would pass the queue; **`InTurn.send`** — a sender that starts
  in turn stays in turn however much it sends.

Results about order assume that nothing is sent past a queue.  A caller can guarantee this by
looking before it sends, as the definition of `InTurn` says; but a caller who hands over several
pieces of data in a row does not look in between.  It need not: a piece leaves the queue empty or
the window full, so the next piece is in turn as well.

That chunks are not empty is what connects the two ways of counting.  Bytes can be observed from
outside and chunks have numbers; there are no more numbers than bytes, and no bytes in the queue
means no queue.
-/

namespace PhotonTCP

namespace ArqEndpoint

variable {ep : ArqEndpoint} {now : ℚ}

/-! ## Chunks

Empty data is not sent at all, and a slice begins before the end of the data.
-/

lemma ne_nil_of_mem_chunks {maxPayload : ℕ} (hpos : 0 < maxPayload) {data chunk : Bytes}
    (h : chunk ∈ chunks maxPayload data) : chunk ≠ [] := by
  obtain ⟨k, hk, rfl⟩ := List.mem_map.mp h
  have hlt : k * maxPayload < data.length := by
    have hround := (Nat.le_div_iff_mul_le hpos).mp (List.mem_range.mp hk)
    rw [Nat.succ_mul] at hround
    omega
  intro hnil
  have hlen := congrArg List.length hnil
  rw [List.length_take, List.length_drop, List.length_nil] at hlen
  omega

/-- There are no more chunks than bytes. -/
lemma length_chunks_le {maxPayload : ℕ} (hpos : 0 < maxPayload) (data : Bytes) :
    (chunks maxPayload data).length ≤ data.length := by
  have hcount : ∀ cs : List Bytes, (∀ c ∈ cs, c ≠ []) → cs.length ≤ cs.flatten.length := by
    intro cs
    induction cs with
    | nil => simp
    | cons c cs ih =>
        intro h
        obtain ⟨hc, hcs⟩ := List.forall_mem_cons.mp h
        have hhead := List.length_pos_iff.mpr hc
        have htail := ih hcs
        rw [List.flatten_cons, List.length_append, List.length_cons]
        omega
  have hle := hcount (chunks maxPayload data) fun c hc => ne_nil_of_mem_chunks hpos hc
  rwa [chunks_flatten hpos] at hle

/-! ## What is queued

The queue is filled by `send` only, with chunks.
-/

/-- No queued chunk is empty. -/
def Whole (ep : ArqEndpoint) : Prop := ∀ c ∈ ep.pending, c ≠ []

lemma Whole.eq_nil (h : ep.Whole) (hbytes : ep.pending.flatten.length = 0) : ep.pending = [] := by
  cases hpending : ep.pending with
  | nil => rfl
  | cons c cs =>
      rw [hpending, List.flatten_cons, List.length_append] at hbytes
      have hc : c = [] := List.eq_nil_of_length_eq_zero (by omega)
      exact absurd hc (h c (by simp [hpending]))

/-- Sending queues what was queued and what is sent. -/
lemma mem_pending_sendLoop {c : Bytes} : ∀ {cs : List Bytes} {ep : ArqEndpoint},
    c ∈ (sendLoop now cs ep).2.pending → c ∈ ep.pending ∨ c ∈ cs := by
  intro cs
  induction cs with
  | nil => exact fun h => .inl h
  | cons chunk cs ih =>
      intro ep h
      rw [sendLoop] at h
      split_ifs at h
      · exact (ih h).imp id (List.mem_cons_of_mem _)
      · rcases ih h with hold | hnew
        · rcases List.mem_append.mp hold with hold | hchunk
          · exact .inl hold
          · exact .inr (List.mem_cons.mpr (.inl (List.mem_singleton.mp hchunk)))
        · exact .inr (List.mem_cons_of_mem _ hnew)

/-- Flushing leaves a part of the queue. -/
lemma mem_pending_flushLoop {c : Bytes} : ∀ {cs : List Bytes} {ep : ArqEndpoint},
    c ∈ (flushLoop now cs ep).2.pending → c ∈ cs := by
  intro cs
  induction cs with
  | nil =>
      intro ep h
      exact absurd h List.not_mem_nil
  | cons chunk cs ih =>
      intro ep h
      rw [flushLoop] at h
      split_ifs at h
      · exact List.mem_cons_of_mem _ (ih h)
      · exact h

namespace Whole

lemma create {mux : StreamMux} {k : ℤ} (h : mux.newEndpoint k = .ok ep) : ep.Whole := by
  obtain ⟨_, _, _, rfl⟩ := create_eq_ok_iff.mp h
  exact fun c hc => absurd hc List.not_mem_nil

lemma send (h : ep.Whole) (data : Bytes) (now : ℚ) : (ep.send data now).2.Whole := by
  rw [ArqEndpoint.send]
  split_ifs
  · exact h
  · intro c hc
    rcases mem_pending_sendLoop hc with hold | hnew
    · exact h c hold
    · exact ne_nil_of_mem_chunks ep.maxPayload_toNat_pos hnew

lemma onPacket (h : ep.Whole) (pkt : Packet) (now : ℚ) : (ep.onPacket pkt now).2.Whole := by
  rcases ep.onPacket_cases pkt now with heq | ⟨-, heq⟩ | ⟨-, heq⟩ | ⟨-, heq⟩
  · rwa [heq]
  · obtain ⟨rcvBase, reorder, nacked, hframe⟩ := ep.onData_frame pkt
    rw [heq, hframe]
    exact h
  · obtain ⟨outstanding, ackedBytes, rto, hframe⟩ :=
      ackLoop_frame now (ep.covered pkt.ack) { ep with peerWindow := pkt.window }
    rcases ep.onAck_cases pkt now with ⟨e, hraise⟩ | hflush
    · rw [heq, hraise]
      show ArqEndpoint.Whole (ackLoop _ _ _).2
      rw [hframe]
      exact h
    · rw [heq, hflush, hframe]
      exact fun c hc => h c (mem_pending_flushLoop hc)
  · rw [heq, onNack]
    dsimp only
    split
    · exact h
    · exact h

lemma onTick (h : ep.Whole) (now : ℚ) : (ep.onTick now).2.Whole := by
  rw [ArqEndpoint.onTick]
  split_ifs
  · exact h
  · exact h
  · obtain ⟨outstanding, rto, failed, hframe⟩ := tickLoop_frame now (ep.timedOut now) ep
    rw [hframe]
    exact h

/-- **No operation queues an empty chunk.** -/
theorem applyFor (h : ep.Whole) (k : ℤ) (op : MuxOp) : (ep.applyFor k op).2.Whole := by
  cases op with
  | send streamId data now =>
      rw [ArqEndpoint.applyFor]
      split_ifs
      · exact h.send data now
      · exact h
  | onPacket pkt now =>
      rw [ArqEndpoint.applyFor]
      split_ifs
      · exact h.onPacket pkt now
      · exact h
  | onTick now => exact h.onTick now
  | setSessionId sid => exact h
  | openStream => exact h

end Whole

/-! ## Sending in turn

The loop of `send` queues only when there is no room, and then there is none for the rest either.
-/

/-- Nothing that is sent now passes the queue: it is empty, or the window has no room. -/
def InTurn (ep : ArqEndpoint) : Prop := ep.pending = [] ∨ ¬ ep.canSend

lemma InTurn.sendLoop (now : ℚ) : ∀ {cs : List Bytes} {ep : ArqEndpoint}, ep.InTurn →
    (sendLoop now cs ep).2.InTurn := by
  intro cs
  induction cs with
  | nil => exact fun h => h
  | cons chunk cs ih =>
      intro ep h
      rw [ArqEndpoint.sendLoop]
      split_ifs with hroom
      · -- there is room, so the queue is empty, and emitting leaves it so
        exact ih (.inl (h.resolve_right (not_not_intro hroom)))
      · -- there is none, and queueing makes none
        exact ih (.inr hroom)

/-- **A sender that is in turn stays so.** -/
theorem InTurn.send (h : ep.InTurn) (data : Bytes) (now : ℚ) : (ep.send data now).2.InTurn := by
  rw [ArqEndpoint.send]
  split_ifs
  · exact h
  · exact h.sendLoop now

end ArqEndpoint

end PhotonTCP
