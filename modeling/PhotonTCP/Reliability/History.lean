import PhotonTCP.Foundation.Transition
import PhotonTCP.Reliability.Envelope
import PhotonTCP.Reliability.Sender

/-!
# The history of an endpoint

One endpoint and any peer: the application sends, timers run, and packets come in, whatever they
are.  Beside the endpoint the history keeps what it received, emitted and delivered, and what its
estimator was told.

* `ArqInput`, `ArqHistory` — the inputs, and the endpoint with its past; `ArqHistory.next`.
* `Move`, `ArqHistory.move` — the small steps: a first transmission, a retransmission, a removal
  with its measurement, a DATA packet.
* **`ArqHistory.next_run`** — every input is a run of small steps.  Whatever each of them preserves
  is an invariant of every history (`invariant_of_moves`).
* `Filed`, `move_receiver` — what the steps leave alone.

An operation does many things, and an invariant would have to be carried through every loop of every
operation.  The small steps are the way around this: each loop is shown once to be a run of them,
under whatever is then to be proved, and after that an invariant has to be checked for four kinds of
step only, none of which loops.

The past is kept in the form in which the results ask for it.  An emission is noted with its time
and with what had happened until then, so that a statement such as that nothing is sent after a
failure can be read off the list; a measurement is noted by the loop that takes it, at the place
where it is passed to the estimator.
-/

namespace PhotonTCP

open ArqEndpoint

/-! ## The inputs

There is no assumption about what is given: packets may be forged, sequence numbers arbitrary, and
time is only asked not to go back where a result needs it.
-/

/-- What an endpoint is given. -/
inductive ArqInput where
  | send (data : Bytes) (now : ℚ)
  | packet (pkt : Packet) (now : ℚ)
  | tick (now : ℚ)

/-- When it is given. -/
def ArqInput.now : ArqInput → ℚ
  | .send _ now | .packet _ now | .tick now => now

namespace ArqEndpoint

/-- One input.  What an operation that raises would have returned is lost. -/
def apply (ep : ArqEndpoint) : ArqInput → ArqOutput × ArqEndpoint
  | .send data now => ep.send data now
  | .packet pkt now => (observed (ep.onPacket pkt now).1, (ep.onPacket pkt now).2)
  | .tick now => ep.onTick now

/-- The number of chunks that an input hands over. -/
def chunkCount (ep : ArqEndpoint) : ArqInput → ℕ
  | .send data _ => (chunks ep.maxPayload.toNat data).length
  | _ => 0

/-- The DATA packet that an input brings. -/
def dataOf (ep : ArqEndpoint) : ArqInput → List Packet
  | .packet pkt _ => if pkt.sessionId = ep.sessionId ∧ pkt.type = .Data then [pkt] else []
  | _ => []

/-- What an input passes to the estimator: what the loop of `onAck` has recorded. -/
def samples (ep : ArqEndpoint) : ArqInput → List Sample
  | .packet pkt now =>
      if pkt.sessionId = ep.sessionId ∧ pkt.type = .Ack then
        (ackLoop now (ep.covered pkt.ack) { ep with peerWindow := pkt.window }).1.1
      else []
  | _ => []

end ArqEndpoint

/-! ## The history

The log grows at its end.  An input appends what its operation emits, in order.
-/

/-- A packet on the wire: when it was emitted, whether the endpoint had failed before, and how many
chunks it had delivered by then. -/
structure Emission where
  packet : Packet
  time : ℚ
  failed : Bool
  delivered : ℕ
deriving DecidableEq

/-- What an operation emits. -/
def emissions (time : ℚ) (failed : Bool) (delivered : ℕ) (packets : List Packet) : List Emission :=
  packets.map fun packet => { packet, time, failed, delivered }

@[simp] lemma emissions_nil (time : ℚ) (failed : Bool) (delivered : ℕ) :
    emissions time failed delivered [] = [] := rfl

@[simp] lemma emissions_cons (time : ℚ) (failed : Bool) (delivered : ℕ) (packet : Packet)
    (packets : List Packet) : emissions time failed delivered (packet :: packets) =
      { packet, time, failed, delivered } :: emissions time failed delivered packets := rfl

@[simp] lemma mem_emissions {time : ℚ} {failed : Bool} {delivered : ℕ} {packets : List Packet}
    {e : Emission} : e ∈ emissions time failed delivered packets ↔
      ∃ packet ∈ packets, { packet, time, failed, delivered } = e := List.mem_map

@[simp] lemma map_packet_emissions (time : ℚ) (failed : Bool) (delivered : ℕ)
    (packets : List Packet) : (emissions time failed delivered packets).map Emission.packet = packets := by
  rw [emissions, List.map_map]
  exact List.map_id _

/-- An endpoint and its past: the DATA packets it received, what it emitted, delivered and
measured, and how many chunks it was given to send. -/
structure ArqHistory where
  ep : ArqEndpoint
  clock : ℚ
  received : List Packet := []
  emitted : List Emission := []
  delivered : List Bytes := []
  samples : List Sample := []
  chunksSent : ℕ := 0

namespace ArqHistory

/-- No past. -/
def start (ep : ArqEndpoint) (clock : ℚ) : ArqHistory := { ep, clock }

/-- One input. -/
def next (h : ArqHistory) (i : ArqInput) : ArqHistory :=
  let (out, ep) := h.ep.apply i
  { ep
    clock := i.now
    received := h.received ++ h.ep.dataOf i
    emitted := h.emitted ++
      emissions i.now h.ep.failed (h.delivered ++ out.delivered).length out.packets
    delivered := h.delivered ++ out.delivered
    samples := h.samples ++ h.ep.samples i
    chunksSent := h.chunksSent + h.ep.chunkCount i }

/-- The histories: any input may come at any time. -/
def system : Transition ArqHistory ArqInput := ⟨fun _ _ => True, next⟩

/-- Time does not go back. -/
def InTime (h : ArqHistory) (i : ArqInput) : Prop := h.clock ≤ i.now

instance (h : ArqHistory) (i : ArqInput) : Decidable (system.enabled h i) := isTrue trivial
instance (h : ArqHistory) (i : ArqInput) : Decidable (h.InTime i) :=
  inferInstanceAs (Decidable (_ ≤ _))

/-! ## The small steps

Each has a guard, which says what the loops know when they do it: that a packet which is repeated or
removed is outstanding, for instance.  Invariants may use it.
-/

/-- What happens inside an operation. -/
inductive Move where
  | emit (chunk : Bytes)
  | queue (chunk : Bytes)
  | flush (chunk : Bytes)
  | again (seq : ℤ) (o : Outstanding)
  | remove (seq : ℤ) (o : Outstanding)
  | retune (peerWindow : ℤ) (rto : RtoEstimator) (failed : Bool)
  | data (pkt : Packet)

/-- When it can happen. -/
def Movable (h : ArqHistory) : Move → Prop
  | .emit _ => h.ep.canSend
  | .queue _ => ¬ h.ep.canSend
  | .flush chunk => h.ep.canSend ∧ h.ep.pending.head? = some chunk
  | .again s o => h.ep.outstanding.get? s = some o
  | .remove s o => h.ep.outstanding.get? s = some o
  | .retune _ rto failed =>
      (rto = h.ep.rto ∨ rto = h.ep.rto.onTimeout) ∧ (h.ep.failed = true → failed = true)
  | .data pkt => pkt.type = .Data

/-- The history with more on the wire. -/
def record (h : ArqHistory) (ep : ArqEndpoint) (packets : List Packet) : ArqHistory :=
  { h with
    ep
    emitted := h.emitted ++ emissions h.clock h.ep.failed h.delivered.length packets }

/-- The removal of one packet from the window, and the measurement taken of it. -/
def removed (h : ArqHistory) (s : ℤ) (o : Outstanding) : ArqHistory :=
  { h with
    ep := { h.ep with
      outstanding := h.ep.outstanding.erase s
      ackedBytes := h.ep.ackedBytes + o.packet.payload.length
      rto := if o.retxCount = 0 then h.ep.rto.called (.onSample (h.clock - o.sendTime))
        else h.ep.rto }
    samples := h.samples ++
      if o.retxCount = 0 then [⟨s, h.clock, h.clock - o.sendTime⟩] else [] }

/-- A packet that is retransmitted. -/
def repeated (h : ArqHistory) (s : ℤ) (o : Outstanding) : ArqHistory :=
  h.record
    { h.ep with outstanding := h.ep.outstanding.set s ⟨o.packet, h.clock, o.retxCount + 1⟩ }
    [o.packet]

/-- A DATA packet that is received. -/
def heard (h : ArqHistory) (pkt : Packet) : ArqHistory :=
  { h with
    ep := (h.ep.onData pkt).2
    received := h.received ++ [pkt]
    emitted := h.emitted ++ emissions h.clock h.ep.failed
      (h.delivered ++ (h.ep.onData pkt).1.delivered).length (h.ep.onData pkt).1.packets
    delivered := h.delivered ++ (h.ep.onData pkt).1.delivered }

/-- One small step. -/
def move (h : ArqHistory) : Move → ArqHistory
  | .emit chunk =>
      { h.record (h.ep.emitData chunk h.clock).2 [h.ep.dataPacket chunk] with
        chunksSent := h.chunksSent + 1 }
  | .queue chunk =>
      { h with
        ep := { h.ep with pending := h.ep.pending ++ [chunk] }
        chunksSent := h.chunksSent + 1 }
  | .flush chunk =>
      h.record { (h.ep.emitData chunk h.clock).2 with pending := h.ep.pending.tail }
        [h.ep.dataPacket chunk]
  | .again s o => h.repeated s o
  | .remove s o => h.removed s o
  | .retune peerWindow rto failed => { h with ep := { h.ep with peerWindow, rto, failed } }
  | .data pkt => h.heard pkt

/-- The moves as a system. -/
def moves : Transition ArqHistory Move := ⟨Movable, move⟩

/-- Retransmissions are left, and the endpoint has not failed. -/
def Spare (h : ArqHistory) : Move → Prop
  | .again _ o => h.ep.failed = false ∧ (o.retxCount : ℤ) < h.ep.maxRetx
  | _ => True

/-- A NACK finds retransmissions left, if it finds a packet. -/
def NackWithin (h : ArqHistory) : ArqInput → Prop
  | .packet pkt _ => pkt.sessionId = h.ep.sessionId → pkt.type = .Nack →
      ∀ o, h.ep.outstanding.get? pkt.ack = some o → h.Spare (.again pkt.ack o)
  | _ => True

/-- Small steps; if `strict`, retransmissions only where some are left. -/
def Moves (strict : Prop) : ArqHistory → ArqHistory → Prop :=
  moves.Reach fun h m => strict → h.Spare m

variable {strict : Prop} {h h' : ArqHistory}

lemma Moves.step (h : ArqHistory) (m : Move) (he : h.Movable m) (hs : strict → h.Spare m) :
    Moves strict h (h.move m) :=
  Transition.Reach.refl.tail he hs

/-! ## Operations as small steps

The loops run over a list that was made before they started, while the dictionary they change is the
one the list was made from.  The lemmas keep that the entries still to come stand as they were
listed.
-/

lemma flushLoop_run (h : ArqHistory) : ∀ (cs : List Bytes) (ep : ArqEndpoint)
    (emitted : List Emission),
    Moves strict { h with ep := { ep with pending := cs }, emitted }
      { h with
        ep := (flushLoop h.clock cs ep).2
        emitted := emitted ++
          emissions h.clock ep.failed h.delivered.length (flushLoop h.clock cs ep).1 } := by
  intro cs
  induction cs with
  | nil =>
      intro ep emitted
      rw [flushLoop, emissions_nil, List.append_nil]
      exact Transition.Reach.refl
  | cons chunk cs ih =>
      intro ep emitted
      rw [flushLoop]
      split_ifs with hroom
      · have hrest := ih (ep.emitData chunk h.clock).2 (emitted ++
          emissions h.clock ep.failed h.delivered.length [ep.dataPacket chunk])
        rw [List.append_assoc] at hrest
        refine Transition.Reach.trans (Moves.step _ (.flush chunk) ⟨hroom, rfl⟩ fun _ => trivial) ?_
        exact hrest
      · rw [emissions_nil, List.append_nil]
        exact Transition.Reach.refl

lemma sendLoop_run (h : ArqHistory) : ∀ (cs : List Bytes) (ep : ArqEndpoint)
    (emitted : List Emission) (chunksSent : ℕ),
    Moves strict { h with ep, emitted, chunksSent }
      { h with
        ep := (sendLoop h.clock cs ep).2
        emitted := emitted ++
          emissions h.clock ep.failed h.delivered.length (sendLoop h.clock cs ep).1
        chunksSent := chunksSent + cs.length } := by
  intro cs
  induction cs with
  | nil =>
      intro ep emitted chunksSent
      rw [sendLoop, emissions_nil, List.append_nil]
      exact Transition.Reach.refl
  | cons chunk cs ih =>
      intro ep emitted chunksSent
      have hlen : chunksSent + (chunk :: cs).length = chunksSent + 1 + cs.length := by
        rw [List.length_cons]
        omega
      rw [sendLoop, hlen]
      split_ifs with hroom
      · have hrest := ih (ep.emitData chunk h.clock).2 (emitted ++
          emissions h.clock ep.failed h.delivered.length [ep.dataPacket chunk]) (chunksSent + 1)
        rw [List.append_assoc] at hrest
        refine Transition.Reach.trans (Moves.step _ (.emit chunk) hroom fun _ => trivial) ?_
        exact hrest
      · refine Transition.Reach.trans (Moves.step _ (.queue chunk) hroom fun _ => trivial) ?_
        exact ih { ep with pending := ep.pending ++ [chunk] } emitted (chunksSent + 1)

/-- Entries that are still to be handled stand as they were listed. -/
lemma get?_of_erase {d : Dict ℤ Outstanding} {s : ℤ} {o : Outstanding}
    {es : List (ℤ × Outstanding)} (hnodup : (((s, o) :: es).map Prod.fst).Nodup)
    (hes : ∀ e ∈ (s, o) :: es, d.get? e.1 = some e.2) :
    ∀ e ∈ es, (d.erase s).get? e.1 = some e.2 := by
  intro e he
  rw [List.map_cons, List.nodup_cons] at hnodup
  have hne : e.1 ≠ s := fun heq => hnodup.1 (heq ▸ List.mem_map.mpr ⟨e, he, rfl⟩)
  rw [Dict.get?_erase_ne hne]
  exact hes e (List.mem_cons_of_mem _ he)

lemma get?_of_set {d : Dict ℤ Outstanding} {s : ℤ} {o o' : Outstanding}
    {es : List (ℤ × Outstanding)} (hnodup : (((s, o) :: es).map Prod.fst).Nodup)
    (hes : ∀ e ∈ (s, o) :: es, d.get? e.1 = some e.2) :
    ∀ e ∈ es, (d.set s o').get? e.1 = some e.2 := by
  intro e he
  rw [List.map_cons, List.nodup_cons] at hnodup
  have hne : e.1 ≠ s := fun heq => hnodup.1 (heq ▸ List.mem_map.mpr ⟨e, he, rfl⟩)
  rw [Dict.get?_set_ne _ _ hne]
  exact hes e (List.mem_cons_of_mem _ he)

lemma ackLoop_run (h : ArqHistory) : ∀ (es : List (ℤ × Outstanding)) (ep : ArqEndpoint)
    (samples : List Sample), (es.map Prod.fst).Nodup →
    (∀ e ∈ es, ep.outstanding.get? e.1 = some e.2) →
    Moves strict { h with ep, samples }
      { h with
        ep := (ackLoop h.clock es ep).2
        samples := samples ++ (ackLoop h.clock es ep).1.1 } := by
  intro es
  induction es with
  | nil =>
      intro ep samples _ _
      rw [ackLoop, List.append_nil]
      exact Transition.Reach.refl
  | cons e es ih =>
      intro ep samples hnodup hes
      obtain ⟨s, o⟩ := e
      have hmove : Moves strict { h with ep, samples }
          (ArqHistory.removed { h with ep, samples } s o) :=
        Moves.step _ (.remove s o) (hes (s, o) List.mem_cons_self) fun _ => trivial
      refine hmove.trans ?_
      have hrest := get?_of_erase hnodup hes
      rw [ackLoop, removed]
      rw [List.map_cons, List.nodup_cons] at hnodup
      split_ifs with hfirst
      · -- a measurement is taken, and may be refused
        simp only [RtoEstimator.called]
        cases ep.rto.onSample (h.clock - o.sendTime) with
        | error text => exact Transition.Reach.refl
        | ok rto =>
            have htail := ih
              { ep with
                outstanding := ep.outstanding.erase s
                ackedBytes := ep.ackedBytes + o.packet.payload.length
                rto } (samples ++ [⟨s, h.clock, h.clock - o.sendTime⟩]) hnodup.2 hrest
            rw [List.append_assoc] at htail
            exact htail
      · rw [List.append_nil]
        exact ih _ samples hnodup.2 hrest

lemma tickLoop_run (h : ArqHistory) : ∀ (es : List (ℤ × Outstanding)) (ep : ArqEndpoint)
    (emitted : List Emission), ep.failed = false → (es.map Prod.fst).Nodup →
    (∀ e ∈ es, ep.outstanding.get? e.1 = some e.2) →
    Moves strict { h with ep, emitted }
      { h with
        ep := (tickLoop h.clock es ep).2
        emitted := emitted ++
          emissions h.clock ep.failed h.delivered.length (tickLoop h.clock es ep).1.packets } := by
  intro es
  induction es with
  | nil =>
      intro ep emitted hactive _ _
      rw [tickLoop, emissions_nil, List.append_nil]
      exact Moves.step _ (.retune ep.peerWindow ep.rto.onTimeout ep.failed) ⟨.inr rfl, id⟩
        fun _ => trivial
  | cons e es ih =>
      intro ep emitted hactive hnodup hes
      obtain ⟨s, o⟩ := e
      rw [tickLoop]
      split_ifs with hspent
      · rw [emissions_nil, List.append_nil]
        exact Moves.step _ (.retune ep.peerWindow ep.rto true) ⟨.inl rfl, fun _ => rfl⟩
          fun _ => trivial
      · have hmove : Moves strict { h with ep, emitted }
            (ArqHistory.repeated { h with ep, emitted } s o) :=
          Moves.step _ (.again s o) (hes (s, o) List.mem_cons_self)
            fun _ => ⟨hactive, not_le.mp hspent⟩
        refine hmove.trans ?_
        have hrest : ∀ e ∈ es, (ep.outstanding.set s ⟨o.packet, h.clock, o.retxCount + 1⟩).get? e.1
            = some e.2 := get?_of_set hnodup hes
        rw [List.map_cons, List.nodup_cons] at hnodup
        have htail := ih
          { ep with outstanding := ep.outstanding.set s ⟨o.packet, h.clock, o.retxCount + 1⟩ }
          (emitted ++ emissions h.clock ep.failed h.delivered.length [o.packet]) hactive hnodup.2 hrest
        rw [List.append_assoc] at htail
        exact htail

/-! ## One input

A NACK repeats a packet without asking how often that has happened already, which a timer does ask.
The flag `strict` of `Moves` records the difference: the run of an input respects the bound on
retransmissions, unless the input is a NACK for a packet that has used up its own.
-/

lemma keys_nodup_filter (d : Dict ℤ Outstanding) (p : ℤ × Outstanding → Bool) :
    ((d.entries.filter p).map Prod.fst).Nodup :=
  d.nodup.sublist (List.filter_sublist.map _)

lemma delivered_onAck (ep : ArqEndpoint) (pkt : Packet) (now : ℚ) :
    (observed (ep.onAck pkt now).1).delivered = [] := by
  rcases ep.onAck_cases pkt now with ⟨e, hraise⟩ | hflush
  · rw [hraise, observed]
  · rw [hflush, observed]

lemma delivered_onNack (ep : ArqEndpoint) (pkt : Packet) (now : ℚ) :
    (ep.onNack pkt now).1.delivered = [] := by
  rw [onNack]
  dsimp only
  cases ep.outstanding.get? pkt.ack <;> rfl

/-- An ACK. -/
lemma onAck_run (h : ArqHistory) (pkt : Packet) :
    Moves strict h
      { h with
        ep := (h.ep.onAck pkt h.clock).2
        emitted := h.emitted ++ emissions h.clock h.ep.failed h.delivered.length
          (observed (h.ep.onAck pkt h.clock).1).packets
        samples := h.samples ++ (ackLoop h.clock (h.ep.covered pkt.ack)
          { h.ep with peerWindow := pkt.window }).1.1 } := by
  have hwindow : Moves strict h { h with ep := { h.ep with peerWindow := pkt.window } } :=
    Moves.step h (.retune pkt.window h.ep.rto h.ep.failed) ⟨.inl rfl, id⟩ fun _ => trivial
  have hremove : Moves strict _ _ := ackLoop_run h (h.ep.covered pkt.ack)
    { h.ep with peerWindow := pkt.window } h.samples (keys_nodup_filter _ _)
    fun e he => Dict.mem_entries_iff.mp (List.mem_filter.mp he).1
  have hcases := h.ep.onAck_cases pkt h.clock
  have hfailed : (ackLoop h.clock (h.ep.covered pkt.ack)
      { h.ep with peerWindow := pkt.window }).2.failed = h.ep.failed := by
    obtain ⟨outstanding, ackedBytes, rto, hframe⟩ :=
      ackLoop_frame h.clock (h.ep.covered pkt.ack) { h.ep with peerWindow := pkt.window }
    rw [hframe]
  refine hwindow.trans (hremove.trans ?_)
  dsimp only at hcases
  generalize ackLoop h.clock (h.ep.covered pkt.ack) { h.ep with peerWindow := pkt.window } = removed
    at hcases hfailed
  rcases hcases with ⟨e, hraise⟩ | hflush
  · rw [hraise, observed, emissions_nil, List.append_nil]
    exact Transition.Reach.refl
  · rw [hflush, ← hfailed]
    exact flushLoop_run
      { h with samples := h.samples ++ removed.1.1 }
      removed.2.pending removed.2 h.emitted

/-- A NACK. -/
lemma onNack_run (h : ArqHistory) (pkt : Packet)
    (hwithin : strict → ∀ o, h.ep.outstanding.get? pkt.ack = some o → h.Spare (.again pkt.ack o)) :
    Moves strict h
      { h with
        ep := (h.ep.onNack pkt h.clock).2
        emitted := h.emitted ++ emissions h.clock h.ep.failed h.delivered.length
          (h.ep.onNack pkt h.clock).1.packets } := by
  have hwindow : Moves strict h { h with ep := { h.ep with peerWindow := pkt.window } } :=
    Moves.step h (.retune pkt.window h.ep.rto h.ep.failed) ⟨.inl rfl, id⟩ fun _ => trivial
  refine hwindow.trans ?_
  rw [onNack]
  dsimp only
  cases hget : h.ep.outstanding.get? pkt.ack with
  | none =>
      rw [emissions_nil, List.append_nil]
      exact Transition.Reach.refl
  | some o => exact Moves.step _ (.again pkt.ack o) hget fun hs => hwithin hs o hget

/-- A timer. -/
lemma onTick_run (h : ArqHistory) :
    Moves strict h
      { h with
        ep := (h.ep.onTick h.clock).2
        emitted := h.emitted ++ emissions h.clock h.ep.failed h.delivered.length
          (h.ep.onTick h.clock).1.packets } := by
  rw [onTick]
  split_ifs with hfailed hnone
  · rw [emissions_nil, List.append_nil]
    exact Transition.Reach.refl
  · rw [emissions_nil, List.append_nil]
    exact Transition.Reach.refl
  · exact tickLoop_run h (h.ep.timedOut h.clock) h.ep h.emitted (Bool.eq_false_iff.mpr hfailed)
      (keys_nodup_filter _ _) fun e he => Dict.mem_entries_iff.mp (List.mem_filter.mp he).1

/-- The application. -/
lemma send_run (h : ArqHistory) (data : Bytes) :
    Moves strict h
      { h with
        ep := (h.ep.send data h.clock).2
        emitted := h.emitted ++ emissions h.clock h.ep.failed h.delivered.length
          (h.ep.send data h.clock).1.packets
        chunksSent := h.chunksSent + (chunks h.ep.maxPayload.toNat data).length } := by
  rw [send]
  split_ifs with hdata
  · rw [hdata, chunks_nil h.ep.maxPayload_toNat_pos, emissions_nil, List.append_nil]
    exact Transition.Reach.refl
  · exact sendLoop_run h (chunks h.ep.maxPayload.toNat data) h.ep h.emitted h.chunksSent

/-- **Every input is a run of small steps.**  The retransmissions of a timer respect the bound; that
of a NACK does if the input is within it. -/
theorem next_run (h : ArqHistory) (i : ArqInput) :
    Moves (h.NackWithin i) { h with clock := i.now } (h.next i) := by
  have hidle : Moves (h.NackWithin i) { h with clock := i.now } { h with clock := i.now } :=
    Transition.Reach.refl
  cases i with
  | send data now =>
      have hrun : Moves (h.NackWithin (.send data now)) _ _ := send_run { h with clock := now } data
      simpa [next, apply, dataOf, ArqEndpoint.samples, chunkCount, ArqInput.now,
        delivered_send] using hrun
  | tick now =>
      have hrun : Moves (h.NackWithin (.tick now)) _ _ := onTick_run { h with clock := now }
      simpa [next, apply, dataOf, ArqEndpoint.samples, chunkCount, ArqInput.now,
        delivered_onTick] using hrun
  | packet pkt now =>
      by_cases hsession : pkt.sessionId = h.ep.sessionId
      · cases htype : pkt.type with
        | Data =>
            have hrun : Moves (h.NackWithin (.packet pkt now)) _ _ :=
              Moves.step { h with clock := now } (.data pkt) htype fun _ => trivial
            simpa [next, apply, dataOf, ArqEndpoint.samples, chunkCount, ArqInput.now, onPacket,
              hsession, htype, observed, move, heard] using hrun
        | Ack =>
            have hrun : Moves (h.NackWithin (.packet pkt now)) _ _ :=
              onAck_run { h with clock := now } pkt
            simpa [next, apply, dataOf, ArqEndpoint.samples, chunkCount, ArqInput.now, onPacket,
              hsession, htype, delivered_onAck] using hrun
        | Nack =>
            have hrun : Moves (h.NackWithin (.packet pkt now)) _ _ :=
              onNack_run { h with clock := now } pkt fun hwithin o ho => hwithin hsession htype o ho
            simpa [next, apply, dataOf, ArqEndpoint.samples, chunkCount, ArqInput.now, onPacket,
              hsession, htype, observed, delivered_onNack] using hrun
        | _ =>
            simpa [next, apply, dataOf, ArqEndpoint.samples, chunkCount, ArqInput.now, onPacket,
              hsession, htype, observed] using hidle
      · simpa [next, apply, dataOf, ArqEndpoint.samples, chunkCount, ArqInput.now, onPacket, hsession,
          observed] using hidle

/-- **What every small step preserves holds in every history.** -/
theorem invariant_of_moves {I : ArqHistory → Prop} {ok : ArqHistory → ArqInput → Prop}
    (hreach : system.Reach ok h h') (h₀ : I h)
    (hclock : ∀ h i, I h → ok h i → I { h with clock := i.now })
    (hmove : ∀ h m, I h → h.Movable m → I (h.move m)) : I h' := by
  refine hreach.invariant h₀ ?_
  intro g i hg _ hok
  exact (next_run g i).invariant (hclock g i hg hok) fun g m hg he _ => hmove g m hg he

/-! ## What every history keeps

Facts about single fields, for which one look at each small step suffices.
-/

/-- Everything outstanding is a DATA packet, recorded under its own number. -/
def Filed (ep : ArqEndpoint) : Prop :=
  ∀ e ∈ ep.outstanding.entries, e.2.packet.type = .Data ∧ e.2.packet.seq = e.1

lemma Filed.move (hfiled : Filed h.ep) {m : Move} (hm : h.Movable m) : Filed (h.move m).ep := by
  have hemit : ∀ chunk, Filed (h.ep.emitData chunk h.clock).2 := by
    intro chunk e he
    rcases Dict.mem_entries_set.mp he with rfl | ⟨hold, -⟩
    · exact ⟨rfl, rfl⟩
    · exact hfiled e hold
  cases m with
  | emit chunk => exact hemit chunk
  | flush chunk => exact hemit chunk
  | queue chunk => exact hfiled
  | retune peerWindow rto failed => exact hfiled
  | again s o =>
      intro e he
      rcases Dict.mem_entries_set.mp he with rfl | ⟨hold, -⟩
      · exact hfiled (s, o) (Dict.mem_entries_iff.mpr hm)
      · exact hfiled e hold
  | remove s o => exact fun e he => hfiled e (Dict.mem_entries_erase.mp he).1
  | data pkt =>
      obtain ⟨rcvBase, reorder, nacked, hframe⟩ := h.ep.onData_frame pkt
      show Filed (h.ep.onData pkt).2
      rw [hframe]
      exact hfiled

/-- A new endpoint has nothing outstanding. -/
lemma Filed.start {sessionId sendIsn windowSize maxPayload recvIsn streamId maxRetx : ℤ}
    {rto : RtoEstimator} {ep : ArqEndpoint} (hcreate : create sessionId sendIsn windowSize rto
      maxPayload recvIsn streamId maxRetx = .ok ep) : Filed ep := by
  obtain ⟨-, -, -, rfl⟩ := create_eq_ok_iff.mp hcreate
  exact fun e he => absurd he List.not_mem_nil

/-- Only DATA packets change what the receiving half is about. -/
lemma move_receiver (h : ArqHistory) (m : Move) : (∃ pkt, m = .data pkt) ∨
    (h.move m).ep.rcvBase = h.ep.rcvBase ∧ (h.move m).ep.reorder = h.ep.reorder ∧
      (h.move m).ep.nacked = h.ep.nacked ∧ (h.move m).delivered = h.delivered ∧
      (h.move m).received = h.received := by
  cases m with
  | data pkt => exact .inl ⟨pkt, rfl⟩
  | _ => exact .inr ⟨rfl, rfl, rfl, rfl, rfl⟩

lemma received_move (h : ArqHistory) (m : Move) : h.received <+: (h.move m).received := by
  cases m with
  | data pkt => exact List.prefix_append _ _
  | _ => exact List.prefix_rfl

/-- No step changes the parameters. -/
lemma config_move (h : ArqHistory) (m : Move) :
    (h.move m).ep.windowSize = h.ep.windowSize ∧ (h.move m).ep.maxRetx = h.ep.maxRetx := by
  cases m with
  | data pkt =>
      obtain ⟨rcvBase, reorder, nacked, hframe⟩ := h.ep.onData_frame pkt
      show (h.ep.onData pkt).2.windowSize = _ ∧ (h.ep.onData pkt).2.maxRetx = _
      rw [hframe]
      exact ⟨rfl, rfl⟩
  | _ => exact ⟨rfl, rfl⟩

lemma windowSize_of_reach {ok : ArqHistory → ArqInput → Prop} (hreach : system.Reach ok h h') :
    h'.ep.windowSize = h.ep.windowSize :=
  invariant_of_moves (I := fun g => g.ep.windowSize = h.ep.windowSize) hreach rfl
    (fun _ _ hg _ => hg) fun g m hg _ => (g.config_move m).1.trans hg

/-- Only the small steps of `send` are given chunks. -/
lemma chunksSent_move (h : ArqHistory) (m : Move) : h.chunksSent ≤ (h.move m).chunksSent := by
  cases m with
  | emit chunk => exact Nat.le_succ _
  | queue chunk => exact Nat.le_succ _
  | _ => exact le_rfl

end ArqHistory

end PhotonTCP
