import PhotonTCP.Reliability.Emission

/-!
# Everything an endpoint emits can be packed

An endpoint whose ids, window and payload limit fit the header never makes a packet that does not.
The same invariant says when its packets were sent, which is what an ACK is measured against.

* `Packable past` — the invariant; `past` holds of the times at which something was sent.
* `Packable.send`, `Packable.onPacket`, `Packable.onTick` — every operation preserves it and emits
  packets that fit.
* `Packable.onPacket_ok` — no measurement is refused as long as time does not go backwards.

`struct.pack` refuses a field that is out of range, and it does so wherever the packet is sent,
after the endpoint has changed its state.  So an endpoint must not make such a packet in the first
place.  Most fields are bounded by parameters; sequence numbers come out of `seq_add`, the window is
at most the configured one, and a number that is reported missing lies between two numbers of the
space.  Flags and version are constants.

The times are in the same invariant because of the estimator.  A round trip is measured from the
time at which a packet was sent, and a negative one raises.  Which times can have been recorded is
left to the predicate `past`: those up to now where measurements matter, and all times where nothing
is asked but that packets fit.
-/

namespace PhotonTCP

open ArqEndpoint

/-! ## Measurements

An ACK is the only input that can raise, and only by the estimator.
-/

namespace ArqEndpoint

variable {now : ℚ}

/-- No measurement is refused. -/
theorem ackLoop_ok : ∀ (es : List (ℤ × Outstanding)) (ep : ArqEndpoint),
    (∀ e ∈ es, e.2.sendTime ≤ now) → (ackLoop now es ep).1.2 = .ok () := by
  intro es
  induction es with
  | nil => intro ep _; rfl
  | cons e es ih =>
      intro ep hes
      have hsample : ¬ now - e.2.sendTime < 0 := by
        have := hes e (by simp)
        linarith
      have hrest : ∀ x ∈ es, x.2.sendTime ≤ now := fun x hx => hes x (by simp [hx])
      rw [ackLoop]
      split_ifs
      · simp only [RtoEstimator.onSample, if_neg hsample]
        exact ih _ hrest
      · exact ih _ hrest

/-- No packet makes an endpoint raise, if everything was sent by now. -/
theorem onPacket_ok {ep : ArqEndpoint} (h : ∀ e ∈ ep.outstanding.entries, e.2.sendTime ≤ now)
    (pkt : Packet) : ∃ out, (ep.onPacket pkt now).1 = .ok out := by
  rcases ep.onPacket_cases pkt now with heq | ⟨-, heq⟩ | ⟨-, heq⟩ | ⟨-, heq⟩
  · exact ⟨_, by rw [heq]⟩
  · exact ⟨_, by rw [heq]⟩
  · rw [heq, ep.onAck_of_ok (ackLoop_ok _ _ fun e he => h e (List.mem_filter.mp he).1)]
    exact ⟨_, rfl⟩
  · exact ⟨_, by rw [heq]⟩

end ArqEndpoint

/-- What an endpoint needs so that everything it emits fits the header. -/
structure Packable (past : ℚ → Prop) (ep : ArqEndpoint) : Prop where
  sessionId : 0 ≤ ep.sessionId ∧ ep.sessionId < 65536
  streamId : 0 ≤ ep.streamId ∧ ep.streamId < 256
  windowSize : ep.windowSize < 65536
  maxPayload : ep.maxPayload ≤ 65535
  nextSeq : 0 ≤ ep.nextSeq ∧ ep.nextSeq < 2 ^ 32
  rcvBase : 0 ≤ ep.rcvBase ∧ ep.rcvBase < 2 ^ 32
  pending : ∀ chunk ∈ ep.pending, chunk.length ≤ 65535
  outstanding : ∀ e ∈ ep.outstanding.entries, e.2.packet.FitsHeader ∧ past e.2.sendTime

namespace Packable

variable {past past' : ℚ → Prop} {ep : ArqEndpoint} {now : ℚ}

lemma mono (h : Packable past ep) (hpast : ∀ t, past t → past' t) : Packable past' ep :=
  { h with outstanding := fun e he => ⟨(h.outstanding e he).1, hpast _ (h.outstanding e he).2⟩ }

lemma window_bounds (h : Packable past ep) :
    0 ≤ ep.recvAdvertisedWindow ∧ ep.recvAdvertisedWindow < 65536 := by
  have hwindow := h.windowSize
  rw [recvAdvertisedWindow]
  split_ifs <;> omega

lemma dataPacket (h : Packable past ep) {chunk : Bytes} (hchunk : chunk.length ≤ 65535) :
    (ep.dataPacket chunk).FitsHeader :=
  ⟨by simp [ArqEndpoint.dataPacket, PROTOCOL_VERSION],
    by simp [ArqEndpoint.dataPacket, Flags.none], h.sessionId, h.streamId, h.nextSeq, h.rcvBase,
    h.window_bounds, hchunk⟩

lemma ackPacket (h : Packable past ep) : ep.ackPacket.FitsHeader :=
  ⟨by simp [ArqEndpoint.ackPacket, PROTOCOL_VERSION],
    by simp [ArqEndpoint.ackPacket, Flags.none], h.sessionId, h.streamId, h.nextSeq, h.rcvBase,
    h.window_bounds, by simp [ArqEndpoint.ackPacket]⟩

lemma nackPacket (h : Packable past ep) {missing : ℤ} (hmissing : 0 ≤ missing ∧ missing < 2 ^ 32) :
    (ep.nackPacket missing).FitsHeader :=
  ⟨by simp [ArqEndpoint.nackPacket, PROTOCOL_VERSION],
    by simp [ArqEndpoint.nackPacket, Flags.nack], h.sessionId, h.streamId, h.nextSeq, hmissing,
    h.window_bounds, by simp [ArqEndpoint.nackPacket]⟩

/-- A new endpoint. -/
lemma create {sessionId sendIsn windowSize maxPayload recvIsn streamId maxRetx : ℤ}
    {rto : RtoEstimator} (h : ArqEndpoint.create sessionId sendIsn windowSize rto maxPayload recvIsn
      streamId maxRetx = .ok ep) (hsession : 0 ≤ sessionId ∧ sessionId < 65536)
    (hstream : 0 ≤ streamId ∧ streamId < 256) (hwindow : windowSize < 65536)
    (hpayload : maxPayload ≤ 65535) (hisn : 0 ≤ sendIsn ∧ sendIsn < 2 ^ 32)
    (hrecv : 0 ≤ recvIsn ∧ recvIsn < 2 ^ 32) : Packable past ep := by
  obtain ⟨-, -, -, rfl⟩ := create_eq_ok_iff.mp h
  exact ⟨hsession, hstream, hwindow, hpayload, hisn, hrecv, by simp, by simp⟩

lemma setSessionId (h : Packable past ep) {sid : ℤ} (hsid : 0 ≤ sid ∧ sid < 65536) :
    Packable past { ep with sessionId := sid } := { h with sessionId := hsid }

/-! ## Sending

Chunks are bounded by the payload limit, which is at most what the length field can say.
-/

/-- What one entry of the table of outstanding packets adds. -/
lemma outstanding_set (h : Packable past ep) {s : ℤ} {o : Outstanding} (ho : o.packet.FitsHeader)
    (htime : past o.sendTime) :
    ∀ e ∈ (ep.outstanding.set s o).entries, e.2.packet.FitsHeader ∧ past e.2.sendTime := by
  rintro ⟨k, v⟩ he
  rw [Dict.mem_entries_iff, Dict.get?_set] at he
  split_ifs at he with hk
  · obtain rfl := Option.some.inj he
    exact ⟨ho, htime⟩
  · exact h.outstanding (k, v) (Dict.mem_entries_iff.mpr he)

lemma emitData (h : Packable past ep) (hnow : past now) {chunk : Bytes}
    (hchunk : chunk.length ≤ 65535) : Packable past (ep.emitData chunk now).2 :=
  { h with
    nextSeq := seqAdd_bounds _ _
    outstanding := h.outstanding_set (h.dataPacket hchunk) hnow }

/-- Flushing emits packets that fit. -/
theorem flushLoop (hnow : past now) : ∀ (cs : List Bytes) (ep : ArqEndpoint), Packable past ep →
    (∀ chunk ∈ cs, chunk.length ≤ 65535) →
    Packable past (flushLoop now cs ep).2 ∧ ∀ pkt ∈ (flushLoop now cs ep).1, pkt.FitsHeader := by
  intro cs
  induction cs with
  | nil =>
      intro ep h _
      exact ⟨{ h with pending := by simp [ArqEndpoint.flushLoop] }, by simp [ArqEndpoint.flushLoop]⟩
  | cons chunk cs ih =>
      intro ep h hcs
      have hchunk := hcs chunk (by simp)
      rw [ArqEndpoint.flushLoop]
      split_ifs
      · obtain ⟨hs, hout⟩ := ih _ (h.emitData hnow hchunk) fun c hc => hcs c (by simp [hc])
        refine ⟨hs, ?_⟩
        intro pkt hmem
        rcases List.mem_cons.mp hmem with rfl | htail
        · exact h.dataPacket hchunk
        · exact hout pkt htail
      · exact ⟨{ h with pending := hcs }, by simp⟩

/-- So does sending. -/
theorem sendLoop (hnow : past now) : ∀ (cs : List Bytes) (ep : ArqEndpoint), Packable past ep →
    (∀ chunk ∈ cs, chunk.length ≤ 65535) →
    Packable past (sendLoop now cs ep).2 ∧ ∀ pkt ∈ (sendLoop now cs ep).1, pkt.FitsHeader := by
  intro cs
  induction cs with
  | nil =>
      intro ep h _
      exact ⟨h, by simp [ArqEndpoint.sendLoop]⟩
  | cons chunk cs ih =>
      intro ep h hcs
      have hchunk := hcs chunk (by simp)
      have hrest : ∀ c ∈ cs, c.length ≤ 65535 := fun c hc => hcs c (by simp [hc])
      rw [ArqEndpoint.sendLoop]
      split_ifs
      · obtain ⟨hs, hout⟩ := ih _ (h.emitData hnow hchunk) hrest
        refine ⟨hs, ?_⟩
        intro pkt hmem
        rcases List.mem_cons.mp hmem with rfl | htail
        · exact h.dataPacket hchunk
        · exact hout pkt htail
      · refine ih _ { h with pending := ?_ } hrest
        intro c hc
        rcases List.mem_append.mp hc with hmem | hmem
        · exact h.pending c hmem
        · rwa [List.mem_singleton.mp hmem]

lemma length_le_of_mem_chunks {maxPayload : ℕ} {data chunk : Bytes}
    (h : chunk ∈ chunks maxPayload data) : chunk.length ≤ maxPayload := by
  obtain ⟨k, -, rfl⟩ := List.mem_map.mp h
  rw [List.length_take]
  omega

/-- **`send`** emits packets that fit. -/
theorem send (h : Packable past ep) (hnow : past now) (data : Bytes) :
    Packable past (ep.send data now).2 ∧ ∀ pkt ∈ (ep.send data now).1.packets, pkt.FitsHeader := by
  rw [ArqEndpoint.send]
  split_ifs
  · exact ⟨h, by simp⟩
  · refine sendLoop hnow _ _ h fun chunk hchunk => ?_
    have hle := length_le_of_mem_chunks hchunk
    have hmax := h.maxPayload
    omega

/-! ## Receiving

Buffered numbers play no role here; the number in a NACK is one that the walk has reached by adding.
-/

/-- Draining moves on within the space. -/
theorem drainLoop : ∀ (fuel : ℕ) (ep : ArqEndpoint), Packable past ep →
    Packable past (drainLoop fuel ep).2 := by
  intro fuel
  induction fuel with
  | zero => intro ep h; exact h
  | succ fuel ih =>
      intro ep h
      rw [ArqEndpoint.drainLoop]
      cases ep.reorder.get? ep.rcvBase with
      | none => exact h
      | some payload => exact ih _ { h with rcvBase := seqAdd_bounds _ _ }

lemma acceptData (h : Packable past ep) (pkt : Packet) : Packable past (ep.acceptData pkt).2 := by
  rw [ArqEndpoint.acceptData]
  split_ifs
  · have hdrain : Packable past (ArqEndpoint.drainLoop ep.reorder.size
        { ep with rcvBase := seqAdd ep.rcvBase 1 }).2 :=
      drainLoop _ _ { h with rcvBase := seqAdd_bounds _ _ }
    exact ⟨hdrain.sessionId, hdrain.streamId, hdrain.windowSize, hdrain.maxPayload, hdrain.nextSeq,
      hdrain.rcvBase, hdrain.pending, hdrain.outstanding⟩
  · exact { h with }
  · exact h
  · exact h

lemma walk_bounds {reorder : Dict ℤ Bytes} {highest : ℤ} : ∀ {fuel : ℕ} {seq missing : ℤ},
    0 ≤ seq ∧ seq < 2 ^ 32 → walk reorder highest fuel seq = some missing →
      0 ≤ missing ∧ missing < 2 ^ 32
  | 0, seq, missing, _, h => by simp [walk] at h
  | fuel + 1, seq, missing, hseq, h => by
      rw [walk] at h
      split_ifs at h
      · exact walk_bounds (seqAdd_bounds seq 1) h
      · rwa [← Option.some.inj h]

lemma lowestMissingSeq_bounds (h : Packable past ep) {missing : ℤ}
    (hmissing : ep.lowestMissingSeq = some missing) : 0 ≤ missing ∧ missing < 2 ^ 32 := by
  rw [lowestMissingSeq] at hmissing
  cases hhighest : highestKey ep.rcvBase ep.reorder.keys with
  | none => simp [hhighest] at hmissing
  | some highest =>
      rw [hhighest] at hmissing
      exact walk_bounds h.rcvBase hmissing

variable (ep) in
/-- The answers fit the header, whatever the endpoint has sent. -/
lemma fitsHeader_answerData (hsession : 0 ≤ ep.sessionId ∧ ep.sessionId < 65536)
    (hstream : 0 ≤ ep.streamId ∧ ep.streamId < 256) (hwindow : ep.windowSize < 65536)
    (hnext : 0 ≤ ep.nextSeq ∧ ep.nextSeq < 2 ^ 32) (hbase : 0 ≤ ep.rcvBase ∧ ep.rcvBase < 2 ^ 32) :
    ∀ pkt ∈ ep.answerData.1, pkt.FitsHeader := by
  -- to the answers this endpoint is as good as the other
  have h : Packable (fun _ => True)
      { ep with maxPayload := 1, maxPayload_pos := le_rfl, outstanding := Dict.empty, pending := [] } :=
    ⟨hsession, hstream, hwindow, by simp, hnext, hbase, by simp, by simp⟩
  intro pkt hmem
  rw [ArqEndpoint.answerData] at hmem
  cases hmissing : ep.lowestMissingSeq with
  | none =>
      rw [hmissing] at hmem
      rw [List.mem_singleton.mp hmem]
      exact h.ackPacket
  | some missing =>
      rw [hmissing] at hmem
      dsimp only at hmem
      split_ifs at hmem
      · rw [List.mem_singleton.mp hmem]
        exact h.ackPacket
      · rcases List.mem_cons.mp hmem with rfl | htail
        · exact h.ackPacket
        · rw [List.mem_singleton.mp htail]
          exact h.nackPacket (h.lowestMissingSeq_bounds hmissing)

lemma fitsHeader_onData (hsession : 0 ≤ ep.sessionId ∧ ep.sessionId < 65536)
    (hstream : 0 ≤ ep.streamId ∧ ep.streamId < 256) (hwindow : ep.windowSize < 65536)
    (hnext : 0 ≤ ep.nextSeq ∧ ep.nextSeq < 2 ^ 32) {pkt : Packet}
    (hbase : 0 ≤ (ep.onData pkt).2.rcvBase ∧ (ep.onData pkt).2.rcvBase < 2 ^ 32) :
    ∀ p ∈ (ep.onData pkt).1.packets, p.FitsHeader := by
  obtain ⟨rcvBase, reorder, nacked, haccept⟩ := ep.acceptData_frame pkt
  obtain ⟨nacked', hanswer⟩ := (ep.acceptData pkt).2.answerData_frame
  have hafter : (ep.onData pkt).2.rcvBase = (ep.acceptData pkt).2.rcvBase := by
    show (ep.acceptData pkt).2.answerData.2.rcvBase = _
    rw [hanswer]
  rw [hafter] at hbase
  have hfits := fitsHeader_answerData (ep.acceptData pkt).2
  rw [haccept] at hfits hbase
  have houts := hfits hsession hstream hwindow hnext hbase
  rw [← haccept] at houts
  exact houts

lemma answerData (h : Packable past ep) :
    Packable past ep.answerData.2 ∧ ∀ pkt ∈ ep.answerData.1, pkt.FitsHeader := by
  obtain ⟨nacked, hframe⟩ := ep.answerData_frame
  refine ⟨?_, fitsHeader_answerData ep h.sessionId h.streamId h.windowSize h.nextSeq h.rcvBase⟩
  rw [hframe]
  exact { h with }

/-- Removing what an ACK covers. -/
theorem ackLoop : ∀ (es : List (ℤ × Outstanding)) (ep : ArqEndpoint), Packable past ep →
    Packable past (ackLoop now es ep).2 := by
  intro es
  induction es with
  | nil => intro ep h; exact h
  | cons e es ih =>
      intro ep h
      have herase : ∀ rto ackedBytes, Packable past
          { ep with outstanding := ep.outstanding.erase e.1, rto, ackedBytes } := fun rto ackedBytes =>
        { h with outstanding := fun x hx => h.outstanding x (Dict.mem_entries_erase.mp hx).1 }
      rw [ArqEndpoint.ackLoop]
      split_ifs
      · cases RtoEstimator.onSample ep.rto (now - e.2.sendTime) with
        | error text => exact herase _ _
        | ok rto => exact ih _ (herase _ _)
      · exact ih _ (herase _ _)

lemma onAck (h : Packable past ep) (hnow : past now) (pkt : Packet) :
    Packable past (ep.onAck pkt now).2 ∧
      ∀ p ∈ (observed (ep.onAck pkt now).1).packets, p.FitsHeader := by
  have hremoved : Packable past (ArqEndpoint.ackLoop now (ep.covered pkt.ack)
      { ep with peerWindow := pkt.window }).2 := ackLoop _ _ { h with }
  rcases ep.onAck_cases pkt now with ⟨e, hraise⟩ | hflush
  · rw [hraise]
    exact ⟨hremoved, by simp [observed]⟩
  · rw [hflush, flushPending]
    exact flushLoop hnow _ _ hremoved hremoved.pending

lemma onNack (h : Packable past ep) (hnow : past now) (pkt : Packet) :
    Packable past (ep.onNack pkt now).2 ∧ ∀ p ∈ (ep.onNack pkt now).1.packets, p.FitsHeader := by
  rw [ArqEndpoint.onNack]
  dsimp only
  cases hget : ep.outstanding.get? pkt.ack with
  | none => exact ⟨{ h with }, by simp⟩
  | some o =>
      have ho := (h.outstanding _ (Dict.mem_entries_iff.mpr hget)).1
      exact ⟨{ h with outstanding := h.outstanding_set ho hnow }, by simpa using ho⟩

/-- **`onPacket`** answers with packets that fit. -/
theorem onPacket (h : Packable past ep) (hnow : past now) (pkt : Packet) :
    Packable past (ep.onPacket pkt now).2 ∧
      ∀ p ∈ (observed (ep.onPacket pkt now).1).packets, p.FitsHeader := by
  rcases ep.onPacket_cases pkt now with heq | ⟨-, heq⟩ | ⟨-, heq⟩ | ⟨-, heq⟩
  · rw [heq]
    exact ⟨h, by simp [observed]⟩
  · rw [heq]
    exact (h.acceptData pkt).answerData
  · rw [heq]
    exact h.onAck hnow pkt
  · rw [heq]
    exact h.onNack hnow pkt

/-- **No packet makes an endpoint raise**, if everything was sent by now. -/
theorem onPacket_ok (h : Packable past ep) (hpast : ∀ t, past t → t ≤ now) (pkt : Packet) :
    ∃ out, (ep.onPacket pkt now).1 = .ok out :=
  ArqEndpoint.onPacket_ok (fun e he => hpast _ (h.outstanding e he).2) pkt

/-! ## Timeouts

What is sent again did fit before.
-/

/-- What is sent again fits. -/
theorem tickLoop (hnow : past now) : ∀ (es : List (ℤ × Outstanding)) (ep : ArqEndpoint),
    Packable past ep → (∀ e ∈ es, e.2.packet.FitsHeader) →
    Packable past (tickLoop now es ep).2 ∧ ∀ pkt ∈ (tickLoop now es ep).1.packets, pkt.FitsHeader := by
  intro es
  induction es with
  | nil =>
      intro ep h _
      exact ⟨{ h with }, by simp [ArqEndpoint.tickLoop]⟩
  | cons e es ih =>
      intro ep h hes
      have he := hes e (by simp)
      rw [ArqEndpoint.tickLoop]
      split_ifs
      · exact ⟨{ h with }, by simp⟩
      · have hset : Packable past
            { ep with outstanding := ep.outstanding.set e.1 ⟨e.2.packet, now, e.2.retxCount + 1⟩ } :=
          { h with outstanding := h.outstanding_set he hnow }
        obtain ⟨hs, hout⟩ := ih _ hset fun x hx => hes x (by simp [hx])
        refine ⟨hs, ?_⟩
        intro pkt hmem
        rcases List.mem_cons.mp hmem with rfl | htail
        · exact he
        · exact hout pkt htail

/-- **`onTick`** emits packets that fit. -/
theorem onTick (h : Packable past ep) (hnow : past now) :
    Packable past (ep.onTick now).2 ∧ ∀ pkt ∈ (ep.onTick now).1.packets, pkt.FitsHeader := by
  rw [ArqEndpoint.onTick]
  split_ifs
  · exact ⟨h, by simp⟩
  · exact ⟨h, by simp⟩
  · exact tickLoop hnow _ _ h fun e he => (h.outstanding e (List.mem_filter.mp he).1).1

end Packable

end PhotonTCP
