import PhotonTCP.Reliability.Emission

/-!
# What a sender has done

A sender numbers the chunks it emits.  `log` is the list of their payloads, in the order of their
numbers, and `acked` says how many of them, from the front, have left the window.  Neither is in the
code; `Sender` says how the code's state depends on them, and each operation gets one lemma that
says how they move.

* `chunks_flatten` — splitting loses nothing.
* `Sender` — the relation, and `DataFrom`: what it makes of the emitted packets.
* `Sender.send`, `Sender.onPacket`, `Sender.onTick` — the three operations.  An acknowledgement may
  be stale, but it never covers more than the receiver has (`AckUpTo`).

The relation is tight.  What is outstanding is exactly the part of the log behind the acknowledged
one, entry by entry and in order, so all that the code computes from its dictionary, its size, its
keys, the bytes in flight, is known in terms of two numbers and the log.  The cumulative
acknowledgement is where this pays: the code goes through the dictionary and asks of each entry
whether it is before the acknowledged number, in serial arithmetic, and the relation says that the
answer is yes for a front part and no for the rest.

An acknowledgement need not be the newest one.  A stale one covers nothing that is still
outstanding, or less than what is; the assumption on it is only that it does not go beyond what the
receiver has.
-/

namespace PhotonTCP

namespace ArqEndpoint

/-! ## Chunks

Slicing in the code is by offsets, and the last slice may be short.
-/

/-- The first `j` chunks are the first `j * maxPayload` bytes. -/
lemma flatten_chunks_range (maxPayload : ℕ) (data : Bytes) : ∀ j : ℕ,
    ((List.range j).map fun k => (data.drop (k * maxPayload)).take maxPayload).flatten
      = data.take (j * maxPayload) := by
  intro j
  induction j with
  | zero => simp
  | succ j ih =>
      rw [List.range_succ, List.map_append, List.flatten_append, ih, Nat.succ_mul, List.take_add]
      simp

/-- **Splitting loses nothing.** -/
theorem chunks_flatten {maxPayload : ℕ} (h : 0 < maxPayload) (data : Bytes) :
    (chunks maxPayload data).flatten = data := by
  rw [chunks, flatten_chunks_range]
  have hround : data.length + maxPayload - 1 <
      maxPayload * ((data.length + maxPayload - 1) / maxPayload + 1) := Nat.lt_mul_div_succ _ h
  refine List.take_of_length_le ?_
  rw [Nat.mul_succ, Nat.mul_comm] at hround
  omega

lemma chunks_nil {maxPayload : ℕ} (h : 0 < maxPayload) : chunks maxPayload [] = [] := by
  rw [chunks, List.length_nil, Nat.div_eq_of_lt (by omega)]
  rfl

lemma maxPayload_toNat_pos (ep : ArqEndpoint) : 0 < ep.maxPayload.toNat := by
  have := ep.maxPayload_pos
  omega

end ArqEndpoint

open ArqEndpoint

/-! ## The relation

Whether the entries of the dictionary are the chunks of the log is a statement about two lists of
equal length, position by position.
-/

/-- `packet`, recorded under its key, carries the item at the given index of a log. -/
structure Carries (isn : ℤ) (item : Bytes × ℕ) (entry : ℤ × Packet) : Prop where
  key : entry.1 = seqOf isn item.2
  seq : entry.2.seq = seqOf isn item.2
  payload : entry.2.payload = item.1

/-- The endpoint has emitted the chunks of `log`, and the first `acked` of them are acknowledged:
the others are exactly what is outstanding, in order. -/
structure Sender (isn : ℤ) (log : List Bytes) (acked : ℕ) (ep : ArqEndpoint) : Prop where
  acked_le : acked ≤ log.length
  bounded : log.length < 2 ^ 31
  nextSeq : ep.nextSeq = seqOf isn log.length
  window : List.Forall₂ (Carries isn) ((log.drop acked).zipIdx acked) ep.inFlight.entries
  ackedBytes : ep.ackedBytes = (log.take acked).flatten.length

/-- A DATA packet carries a chunk of the log under its number. -/
def DataFrom (isn : ℤ) (log : List Bytes) (pkt : Packet) : Prop :=
  pkt.type = .Data → ∃ i, log[i]? = some pkt.payload ∧ pkt.seq = seqOf isn i

/-- An ACK acknowledges at most the first `received` chunks. -/
def AckUpTo (isn : ℤ) (received : ℕ) (pkt : Packet) : Prop :=
  pkt.type = .Ack → ∃ k ≤ received, pkt.ack = seqOf isn k

lemma DataFrom.append {isn : ℤ} {log : List Bytes} {pkt : Packet} (h : DataFrom isn log pkt)
    (new : List Bytes) : DataFrom isn (log ++ new) pkt := by
  intro ht
  obtain ⟨i, hi, hseq⟩ := h ht
  have hlt : i < log.length := (List.getElem?_eq_some_iff.mp hi).1
  exact ⟨i, by rw [List.getElem?_append_left hlt, hi], hseq⟩

lemma AckUpTo.mono {isn : ℤ} {received received' : ℕ} {pkt : Packet}
    (h : AckUpTo isn received pkt) (hle : received ≤ received') : AckUpTo isn received' pkt := by
  intro ht
  obtain ⟨k, hk, hack⟩ := h ht
  exact ⟨k, hk.trans hle, hack⟩

namespace Sender

variable {isn : ℤ} {log : List Bytes} {acked : ℕ} {ep ep' : ArqEndpoint}

/-- A fresh endpoint has emitted nothing. -/
lemma create {sessionId windowSize maxPayload recvIsn streamId maxRetx : ℤ} {rto : RtoEstimator}
    (h₀ : 0 ≤ isn) (h₁ : isn < SEQ_MOD)
    (h : ArqEndpoint.create sessionId isn windowSize rto maxPayload recvIsn streamId maxRetx
      = .ok ep) : Sender isn [] 0 ep := by
  obtain ⟨-, -, -, rfl⟩ := create_eq_ok_iff.mp h
  exact ⟨le_rfl, by decide, (seqOf_zero h₀ h₁).symm, List.Forall₂.nil, rfl⟩

/-- The relation sees three things of the endpoint. -/
lemma congr (h : Sender isn log acked ep) (hseq : ep'.nextSeq = ep.nextSeq)
    (hflight : ep'.inFlight = ep.inFlight) (hbytes : ep'.ackedBytes = ep.ackedBytes) :
    Sender isn log acked ep' :=
  ⟨h.acked_le, h.bounded, by rw [hseq, h.nextSeq], by rw [hflight]; exact h.window,
    by rw [hbytes, h.ackedBytes]⟩

/-- Every packet in flight carries a chunk of the log. -/
lemma mem_inFlight (h : Sender isn log acked ep) {s : ℤ} {pkt : Packet}
    (hmem : (s, pkt) ∈ ep.inFlight.entries) :
    ∃ i, acked ≤ i ∧ log[i]? = some pkt.payload ∧ pkt.seq = seqOf isn i ∧ s = seqOf isn i := by
  obtain ⟨j, hj, hget⟩ := List.getElem_of_mem hmem
  have hlen := h.window.length_eq
  have hcarry := (List.forall₂_iff_get.mp h.window).2 j (by omega) hj
  rw [List.get_eq_getElem, List.get_eq_getElem, hget, List.getElem_zipIdx] at hcarry
  rw [List.length_zipIdx, List.length_drop] at hlen
  refine ⟨acked + j, Nat.le_add_right _ _, ?_, hcarry.seq, hcarry.key⟩
  rw [List.getElem?_eq_getElem (by omega), hcarry.payload, List.getElem_drop]

lemma dataFrom_of_get? (h : Sender isn log acked ep) {s : ℤ} {pkt : Packet}
    (hget : ep.inFlight.get? s = some pkt) : DataFrom isn log pkt := by
  intro _
  obtain ⟨i, -, hi, hseq, -⟩ := h.mem_inFlight (Dict.mem_entries_iff.mpr hget)
  exact ⟨i, hi, hseq⟩

/-- Every unacknowledged number is the key of an outstanding packet. -/
lemma mem_keys (h : Sender isn log acked ep) {i : ℕ} (hge : acked ≤ i) (hlt : i < log.length) :
    seqOf isn i ∈ ep.outstanding.keys := by
  have hlen := h.window.length_eq
  rw [List.length_zipIdx, List.length_drop] at hlen
  have hj : i - acked < ((log.drop acked).zipIdx acked).length := by
    rw [List.length_zipIdx, List.length_drop]
    omega
  have hj' : i - acked < ep.inFlight.entries.length := by omega
  have hcarry := (List.forall₂_iff_get.mp h.window).2 (i - acked) hj hj'
  rw [List.get_eq_getElem, List.get_eq_getElem, List.getElem_zipIdx] at hcarry
  rw [← keys_inFlight, Dict.keys, List.mem_map]
  refine ⟨_, List.getElem_mem hj', ?_⟩
  rw [hcarry.key]
  show seqOf isn (acked + (i - acked)) = seqOf isn i
  rw [Nat.add_sub_cancel' hge]

/-- The outstanding numbers are those of the unacknowledged chunks, in order. -/
lemma keys_eq (h : Sender isn log acked ep) :
    ep.outstanding.keys = (List.range' acked (log.length - acked)).map (seqOf isn) := by
  have hkeys : ∀ {items : List (Bytes × ℕ)} {entries : List (ℤ × Packet)},
      List.Forall₂ (Carries isn) items entries →
      entries.map Prod.fst = (items.map Prod.snd).map (seqOf isn) := by
    intro items entries hall
    induction hall with
    | nil => rfl
    | cons hcarry _ ih => rw [List.map_cons, List.map_cons, List.map_cons, hcarry.key, ih]
  rw [← keys_inFlight, Dict.keys, hkeys h.window, List.zipIdx_map_snd, List.length_drop]

/-- The bytes outstanding are those of the unacknowledged chunks. -/
lemma bytesInFlight (h : Sender isn log acked ep) :
    ep.bytesInFlight = (log.drop acked).flatten.length := by
  rw [bytesInFlight_eq, List.length_flatten]
  have hsum : ∀ {items : List (Bytes × ℕ)} {entries : List (ℤ × Packet)},
      List.Forall₂ (Carries isn) items entries →
      (entries.map fun e => e.2.payload.length).sum = (items.map fun i => i.1.length).sum := by
    intro items entries hall
    induction hall with
    | nil => rfl
    | cons hcarry _ ih => rw [List.map_cons, List.map_cons, List.sum_cons, List.sum_cons, ih,
        hcarry.payload]
  have hfst : (((log.drop acked).zipIdx acked).map fun i => i.1.length)
      = (((log.drop acked).zipIdx acked).map Prod.fst).map List.length := by
    rw [List.map_map]
    rfl
  rw [hsum h.window, hfst, List.zipIdx_map_fst]

/-! ## Emitting

Both loops emit from the front of some list of chunks for as long as there is room.  The queue is
what they differ in: flushing leaves the rest where it is, and sending puts it behind what is queued
already.
-/

/-- Emitting a chunk appends it to the log. -/
lemma emitData (h : Sender isn log acked ep) (hb : log.length + 1 < 2 ^ 31) (chunk : Bytes)
    (now : ℚ) : Sender isn (log ++ [chunk]) acked (ep.emitData chunk now).2 ∧
      DataFrom isn (log ++ [chunk]) (ep.emitData chunk now).1 := by
  have hlast : (log ++ [chunk])[log.length]? = some chunk := by
    rw [List.getElem?_append_right le_rfl, Nat.sub_self, List.getElem?_singleton, if_pos rfl]
  have hnew : ep.nextSeq ∉ ep.inFlight.keys := by
    intro hmem
    obtain ⟨pkt, hpkt⟩ := Dict.mem_keys_iff.mp hmem
    obtain ⟨i, -, hi, -, hs⟩ := h.mem_inFlight hpkt
    have hlt : i < log.length := (List.getElem?_eq_some_iff.mp hi).1
    rw [h.nextSeq] at hs
    have := seqOf_inj (by omega) (by omega) hs
    omega
  constructor
  · refine ⟨?_, ?_, ?_, ?_, ?_⟩
    · rw [List.length_append]
      exact h.acked_le.trans (Nat.le_add_right _ _)
    · rw [List.length_append, List.length_singleton]
      exact hb
    · show seqAdd ep.nextSeq 1 = _
      rw [h.nextSeq, seqAdd_seqOf, List.length_append, List.length_singleton]
    · rw [inFlight_emitData, Dict.entries_set_of_notMem _ hnew,
        List.drop_append_of_le_length h.acked_le, List.zipIdx_append]
      refine List.rel_append h.window (List.Forall₂.cons ?_ List.Forall₂.nil)
      have hidx : (log.drop acked).length + acked = log.length := by
        rw [List.length_drop, Nat.sub_add_cancel h.acked_le]
      refine ⟨?_, ?_, rfl⟩
      · show ep.nextSeq = seqOf isn _
        rw [h.nextSeq, Nat.add_comm, hidx]
      · show ep.nextSeq = seqOf isn _
        rw [h.nextSeq, Nat.add_comm, hidx]
    · show ep.ackedBytes = _
      rw [h.ackedBytes, List.take_append_of_le_length h.acked_le]
  · intro _
    exact ⟨log.length, hlast, h.nextSeq⟩

/-- Flushing emits a front part of the queue, and keeps the rest queued. -/
theorem flushLoop (now : ℚ) : ∀ (cs : List Bytes) (log : List Bytes) (ep : ArqEndpoint),
    Sender isn log acked ep → log.length + cs.length < 2 ^ 31 →
    ∃ m, Sender isn (log ++ cs.take m) acked (flushLoop now cs ep).2 ∧
      (flushLoop now cs ep).2.pending = cs.drop m ∧
      ∀ pkt ∈ (flushLoop now cs ep).1, DataFrom isn (log ++ cs.take m) pkt := by
  intro cs
  induction cs with
  | nil =>
      intro log ep h _
      refine ⟨0, ?_, rfl, fun pkt hp => absurd hp List.not_mem_nil⟩
      rw [List.take_zero, List.append_nil]
      exact h.congr rfl rfl rfl
  | cons c cs ih =>
      intro log ep h hb
      rw [List.length_cons] at hb
      rw [ArqEndpoint.flushLoop]
      split_ifs
      · obtain ⟨hstep, hpkt⟩ := h.emitData (by omega) c now
        obtain ⟨m, hrest, hpending, hout⟩ := ih (log ++ [c]) _ hstep
          (by rw [List.length_append, List.length_singleton]; omega)
        have hlog : log ++ [c] ++ cs.take m = log ++ (c :: cs).take (m + 1) := by
          rw [List.take_succ_cons, List.append_assoc, List.singleton_append]
        rw [hlog] at hrest hout
        refine ⟨m + 1, hrest, hpending, ?_⟩
        intro pkt hmem
        rcases List.mem_cons.mp hmem with rfl | htail
        · rw [← hlog]
          exact hpkt.append _
        · exact hout pkt htail
      · refine ⟨0, ?_, rfl, fun pkt hp => absurd hp List.not_mem_nil⟩
        rw [List.take_zero, List.append_nil]
        exact h.congr rfl rfl rfl

/-- Without room in the window everything is queued. -/
lemma sendLoop_of_not_canSend (now : ℚ) : ∀ (cs : List Bytes) (ep : ArqEndpoint), ¬ ep.canSend →
    sendLoop now cs ep = ([], { ep with pending := ep.pending ++ cs }) := by
  intro cs
  induction cs with
  | nil =>
      intro ep _
      rw [List.append_nil]
      rfl
  | cons c cs ih =>
      intro ep hfull
      rw [sendLoop, if_neg hfull]
      refine (ih { ep with pending := ep.pending ++ [c] } hfull).trans ?_
      dsimp only
      rw [List.append_assoc, List.singleton_append]

/-- Sending emits a front part of the new chunks and queues the rest behind what was queued. -/
theorem sendLoop (now : ℚ) : ∀ (cs : List Bytes) (log : List Bytes) (ep : ArqEndpoint),
    Sender isn log acked ep → log.length + cs.length < 2 ^ 31 →
    ∃ m, Sender isn (log ++ cs.take m) acked (sendLoop now cs ep).2 ∧
      (sendLoop now cs ep).2.pending = ep.pending ++ cs.drop m ∧
      (¬ ep.canSend → m = 0) ∧
      ∀ pkt ∈ (sendLoop now cs ep).1, DataFrom isn (log ++ cs.take m) pkt := by
  intro cs
  induction cs with
  | nil =>
      intro log ep h _
      refine ⟨0, ?_, (List.append_nil _).symm, fun _ => rfl,
        fun pkt hp => absurd hp List.not_mem_nil⟩
      rw [List.take_zero, List.append_nil]
      exact h
  | cons c cs ih =>
      intro log ep h hb
      by_cases hroom : ep.canSend
      · rw [List.length_cons] at hb
        rw [ArqEndpoint.sendLoop, if_pos hroom]
        obtain ⟨hstep, hpkt⟩ := h.emitData (by omega) c now
        obtain ⟨m, hrest, hpending, -, hout⟩ := ih (log ++ [c]) _ hstep
          (by rw [List.length_append, List.length_singleton]; omega)
        have hlog : log ++ [c] ++ cs.take m = log ++ (c :: cs).take (m + 1) := by
          rw [List.take_succ_cons, List.append_assoc, List.singleton_append]
        rw [hlog] at hrest hout
        refine ⟨m + 1, hrest, hpending, fun hfull => absurd hroom hfull, ?_⟩
        intro pkt hmem
        rcases List.mem_cons.mp hmem with rfl | htail
        · rw [← hlog]
          exact hpkt.append _
        · exact hout pkt htail
      · rw [sendLoop_of_not_canSend now _ ep hroom]
        refine ⟨0, ?_, rfl, fun _ => rfl, fun pkt hp => absurd hp List.not_mem_nil⟩
        rw [List.take_zero, List.append_nil]
        exact h.congr rfl rfl rfl

/-! ## Acknowledgements

What is covered is a front part, and the loop removes its entries one by one.  If the estimator
refuses a measurement, the loop has removed some of them and stops; the relation holds there as
well.
-/

/-- A cumulative acknowledgement of `k` chunks covers a front part of the window. -/
lemma covered (h : Sender isn log acked ep) {k : ℕ} (hk : k ≤ log.length) :
    ep.covered (seqOf isn k) = ep.outstanding.entries.take (k - acked) := by
  have hwindow : List.Forall₂ (fun item (e : ℤ × Outstanding) => Carries isn item (e.1, e.2.packet))
      ((log.drop acked).zipIdx acked) ep.outstanding.entries :=
    List.forall₂_map_right_iff.mp h.window
  have hbound : acked + (log.drop acked).length < 2 ^ 31 := by
    rw [List.length_drop, Nat.add_sub_cancel' h.acked_le]
    exact h.bounded
  have hk' : k < 2 ^ 31 := lt_of_le_of_lt hk h.bounded
  rw [ArqEndpoint.covered]
  generalize ep.outstanding.entries = es at hwindow ⊢
  clear h
  generalize log.drop acked = items at hwindow hbound
  induction items generalizing acked es with
  | nil =>
      rw [List.zipIdx_nil, List.forall₂_nil_left_iff] at hwindow
      rw [hwindow, List.take_nil]
      rfl
  | cons c items ih =>
      rw [List.zipIdx_cons, List.forall₂_cons_left_iff] at hwindow
      obtain ⟨e, es, hcarry, hrest, rfl⟩ := hwindow
      rw [List.length_cons] at hbound
      have htest : seqLt e.1 (seqOf isn k) ↔ acked < k := by
        rw [hcarry.key]
        exact seqLt_seqOf (by omega) hk'
      have hih : es.filter (fun e => seqLt e.1 (seqOf isn k)) = es.take (k - (acked + 1)) :=
        ih es hrest (by omega)
      by_cases hlt : acked < k
      · rw [List.filter_cons_of_pos (by simpa using htest.mpr hlt), hih,
          show k - acked = k - (acked + 1) + 1 by omega, List.take_succ_cons]
      · rw [List.filter_cons_of_neg (by simpa using fun hc => hlt (htest.mp hc)), hih,
          show k - acked = 0 by omega, show k - (acked + 1) = 0 by omega, List.take_zero,
          List.take_zero]

/-- Removing the oldest outstanding packet moves the acknowledged part on by one. -/
lemma pop (h : Sender isn log acked ep) {s : ℤ} {o : Outstanding} {t : List (ℤ × Outstanding)}
    (hes : ep.outstanding.entries = (s, o) :: t) :
    Sender isn log (acked + 1)
      { ep with outstanding := ep.outstanding.erase s
                ackedBytes := ep.ackedBytes + o.packet.payload.length } := by
  have hflight : ep.inFlight.entries = (s, o.packet) :: t.map fun e => (e.1, e.2.packet) := by
    rw [inFlight, Dict.entries_mapValues, hes, List.map_cons]
  have hlen := h.window.length_eq
  rw [List.length_zipIdx, List.length_drop, hflight, List.length_cons] at hlen
  have hlt : acked < log.length := by omega
  have hwindow := h.window
  rw [List.drop_eq_getElem_cons hlt, List.zipIdx_cons, hflight, List.forall₂_cons] at hwindow
  obtain ⟨hcarry, hrest⟩ := hwindow
  refine ⟨hlt, h.bounded, h.nextSeq, ?_, ?_⟩
  · show List.Forall₂ _ _ ((ep.outstanding.erase s).mapValues Outstanding.packet).entries
    rw [mapValues_erase_packet, Dict.entries_erase_cons hflight]
    exact hrest
  · show ep.ackedBytes + o.packet.payload.length = _
    rw [h.ackedBytes, ← List.take_append_getElem hlt, List.flatten_append, List.length_append,
      List.flatten_singleton, hcarry.payload]

/-- Removing a front part of the window, up to where the estimator raises. -/
theorem ackLoop (now : ℚ) : ∀ (es : List (ℤ × Outstanding)) (acked : ℕ) (ep : ArqEndpoint),
    Sender isn log acked ep → es <+: ep.outstanding.entries →
    ∃ acked', acked ≤ acked' ∧ acked' ≤ acked + es.length ∧
      Sender isn log acked' (ackLoop now es ep).2 := by
  intro es
  induction es with
  | nil =>
      intro acked ep h _
      exact ⟨acked, le_rfl, le_rfl, h⟩
  | cons e es ih =>
      intro acked ep h hprefix
      obtain ⟨s, o⟩ := e
      obtain ⟨t, ht⟩ := hprefix
      rw [List.cons_append] at ht
      have hpop := h.pop ht.symm
      have htail : (ep.outstanding.erase s).entries = es ++ t := Dict.entries_erase_cons ht.symm
      have hrec : ∀ rto, ∃ acked', acked ≤ acked' ∧ acked' ≤ acked + (es.length + 1) ∧
          Sender isn log acked' (ArqEndpoint.ackLoop now es
            { ep with outstanding := ep.outstanding.erase s
                      ackedBytes := ep.ackedBytes + o.packet.payload.length
                      rto }).2 := by
        intro rto
        obtain ⟨acked', hle, hle', hs⟩ := ih (acked + 1)
          { ep with outstanding := ep.outstanding.erase s
                    ackedBytes := ep.ackedBytes + o.packet.payload.length
                    rto } (hpop.congr rfl rfl rfl) ⟨t, htail.symm⟩
        exact ⟨acked', by omega, by omega, hs⟩
      rw [ArqEndpoint.ackLoop, List.length_cons]
      split_ifs
      · -- a sample is taken, and may be refused
        cases RtoEstimator.onSample ep.rto (now - o.sendTime) with
        | error text => exact ⟨acked + 1, by omega, by omega, hpop⟩
        | ok rto => exact hrec rto
      · exact hrec ep.rto

/-! ## Retransmissions

The timers change, and what is in flight does not.
-/

/-- Retransmitting leaves everything in flight as it is. -/
theorem tickLoop (now : ℚ) : ∀ (es : List (ℤ × Outstanding)) (ep : ArqEndpoint),
    Sender isn log acked ep → (∀ e ∈ es, ep.inFlight.get? e.1 = some e.2.packet) →
    Sender isn log acked (tickLoop now es ep).2 ∧
      ∀ pkt ∈ (tickLoop now es ep).1.packets, DataFrom isn log pkt := by
  intro es
  induction es with
  | nil =>
      intro ep h _
      exact ⟨h.congr rfl rfl rfl, fun pkt hp => absurd hp List.not_mem_nil⟩
  | cons e es ih =>
      intro ep h hes
      obtain ⟨s, o⟩ := e
      have hso : ep.inFlight.get? s = some o.packet := hes (s, o) (List.mem_cons_self ..)
      rw [ArqEndpoint.tickLoop]
      split_ifs
      · exact ⟨h.congr rfl rfl rfl, fun pkt hp => absurd hp List.not_mem_nil⟩
      · have hflight : (ep.outstanding.set s ⟨o.packet, now, o.retxCount + 1⟩).mapValues
            Outstanding.packet = ep.inFlight := mapValues_set_packet hso
        obtain ⟨hs, hout⟩ := ih
          { ep with outstanding := ep.outstanding.set s ⟨o.packet, now, o.retxCount + 1⟩ }
          (h.congr rfl hflight rfl)
          (fun e he => (congrArg (fun d => Dict.get? d e.1) hflight).trans
            (hes e (List.mem_cons_of_mem _ he)))
        refine ⟨hs, ?_⟩
        intro pkt hmem
        rcases List.mem_cons.mp hmem with rfl | htail
        · exact h.dataFrom_of_get? hso
        · exact hout pkt htail

/-! ## The operations

Each says how the log and the acknowledged part move.  A caller who knows these three lemmas never
looks at an endpoint again.
-/

/-- **`send`**: a front part of the new chunks enters the log, the rest is queued behind what was
queued; with a full window all of them are queued. -/
theorem send (h : Sender isn log acked ep) (data : Bytes) (now : ℚ)
    (hb : log.length + (chunks ep.maxPayload.toNat data).length < 2 ^ 31) :
    ∃ m, Sender isn (log ++ (chunks ep.maxPayload.toNat data).take m) acked (ep.send data now).2 ∧
      (ep.send data now).2.pending
        = ep.pending ++ (chunks ep.maxPayload.toNat data).drop m ∧
      (¬ ep.canSend → m = 0) ∧
      ∀ pkt ∈ (ep.send data now).1.packets,
        DataFrom isn (log ++ (chunks ep.maxPayload.toNat data).take m) pkt := by
  rw [ArqEndpoint.send]
  split_ifs with hdata
  · have hnone : chunks ep.maxPayload.toNat data = [] := by
      rw [hdata, chunks_nil ep.maxPayload_toNat_pos]
    refine ⟨0, ?_, ?_, fun _ => rfl, fun pkt hp => absurd hp List.not_mem_nil⟩
    · rw [List.take_zero, List.append_nil]
      exact h
    · rw [hnone, List.drop_nil, List.append_nil]
  · exact h.sendLoop now _ log ep hb

/-- **`onPacket`**: an acknowledgement moves the acknowledged part on, at most to where the
receiver is, and lets a front part of the queue into the log. -/
theorem onPacket (h : Sender isn log acked ep) {pkt : Packet} {received : ℕ}
    (hack : AckUpTo isn received pkt) (hreceived : received ≤ log.length) (now : ℚ)
    (hb : log.length + ep.pending.length < 2 ^ 31) :
    ∃ m acked', acked ≤ acked' ∧ acked' ≤ max acked received ∧
      Sender isn (log ++ ep.pending.take m) acked' (ep.onPacket pkt now).2 ∧
      (ep.onPacket pkt now).2.pending = ep.pending.drop m ∧
      ∀ p ∈ (observed (ep.onPacket pkt now).1).packets,
        DataFrom isn (log ++ ep.pending.take m) p := by
  have hkeep : Sender isn (log ++ ep.pending.take 0) acked ep := by
    rw [List.take_zero, List.append_nil]
    exact h
  rcases ep.onPacket_cases pkt now with heq | ⟨-, heq⟩ | ⟨htype, heq⟩ | ⟨-, heq⟩
  · -- ignored
    rw [heq]
    refine ⟨0, acked, le_rfl, le_max_left _ _, hkeep, rfl, ?_⟩
    intro p hp
    exact absurd hp List.not_mem_nil
  · -- DATA: the receiver's affair
    rw [heq]
    obtain ⟨rcvBase, reorder, nacked, hframe⟩ := ep.onData_frame pkt
    rw [hframe]
    refine ⟨0, acked, le_rfl, le_max_left _ _, hkeep.congr rfl rfl rfl, rfl, ?_⟩
    intro p hp htype
    rcases mem_answerData _ hp with rfl | ⟨missing, rfl⟩
    · cases htype
    · cases htype
  · -- ACK
    obtain ⟨k, hk, hseq⟩ := hack htype
    have hcovered : ep.covered pkt.ack <+: ep.outstanding.entries := by
      rw [hseq, h.covered (hk.trans hreceived)]
      exact List.take_prefix _ _
    have hlen : (ep.covered pkt.ack).length ≤ k - acked := by
      rw [hseq, h.covered (hk.trans hreceived)]
      exact List.length_take_le _ _
    obtain ⟨acked', hle, hle', hremoved⟩ := Sender.ackLoop now (ep.covered pkt.ack) acked
      { ep with peerWindow := pkt.window } (h.congr rfl rfl rfl) hcovered
    obtain ⟨outstanding, ackedBytes, rto, hframe⟩ :=
      ackLoop_frame now (ep.covered pkt.ack) { ep with peerWindow := pkt.window }
    rcases ep.onAck_cases pkt now with ⟨e, hraise⟩ | hflush
    · rw [heq, hraise]
      refine ⟨0, acked', hle, by omega, ?_, by rw [hframe]; rfl, ?_⟩
      · rw [List.take_zero, List.append_nil]
        exact hremoved
      · intro p hp
        exact absurd hp List.not_mem_nil
    · rw [heq, hflush]
      obtain ⟨m, hs, hpending, hout⟩ := hremoved.flushLoop now ep.pending log _ hb
      have hqueue : (ArqEndpoint.ackLoop now (ep.covered pkt.ack)
          { ep with peerWindow := pkt.window }).2.pending = ep.pending := by rw [hframe]
      rw [flushPending, hqueue]
      refine ⟨m, acked', hle, by omega, hs, hpending, ?_⟩
      intro p hp
      exact hout p hp
  · -- NACK: one retransmission
    rw [heq, onNack]
    dsimp only
    cases hget : ep.outstanding.get? pkt.ack with
    | none =>
        refine ⟨0, acked, le_rfl, le_max_left _ _, hkeep.congr rfl rfl rfl, rfl, ?_⟩
        intro p hp
        exact absurd hp List.not_mem_nil
    | some o =>
        have hflight : ep.inFlight.get? pkt.ack = some o.packet :=
          get?_inFlight (Dict.mem_entries_iff.mpr hget)
        refine ⟨0, acked, le_rfl, le_max_left _ _,
          hkeep.congr rfl (mapValues_set_packet hflight) rfl, rfl, ?_⟩
        intro p hp
        rw [List.mem_singleton.mp hp]
        exact hkeep.dataFrom_of_get? hflight

/-- **`onTick`** retransmits, and changes nothing in flight, nor the queue. -/
theorem onTick (h : Sender isn log acked ep) (now : ℚ) :
    Sender isn log acked (ep.onTick now).2 ∧ (ep.onTick now).2.pending = ep.pending ∧
      ∀ pkt ∈ (ep.onTick now).1.packets, DataFrom isn log pkt := by
  rw [ArqEndpoint.onTick]
  split_ifs
  · exact ⟨h, rfl, fun pkt hp => absurd hp List.not_mem_nil⟩
  · exact ⟨h, rfl, fun pkt hp => absurd hp List.not_mem_nil⟩
  · obtain ⟨outstanding, rto, failed, hframe⟩ := tickLoop_frame now (ep.timedOut now) ep
    obtain ⟨hs, hout⟩ := h.tickLoop now (ep.timedOut now) ep
      (fun e he => get?_inFlight (List.mem_filter.mp he).1)
    exact ⟨hs, by rw [hframe], hout⟩

end Sender

end PhotonTCP
