import PhotonTCP.Reliability.Packable
import PhotonTCP.Reliability.Window

/-!
# What has arrived when everything has arrived

The network keeps every packet it was ever given.  When each of them has reached the other side at
least once, however late and in whatever order, the transfer is complete: nothing is left for the
timers.

* `Signed` — what an endpoint keeps outstanding it has emitted, under its session id.
* `drainLoop_keeps`, `acceptData_keeps` — a chunk that was buffered stays so until it is delivered.
* `Sender.onAck` — an acknowledgement that is not refused moves the acknowledged part to where it
  says.
* `HeardNetwork` — the pair, with what each side has been given; `Settling`, its invariant.
* **`quiescent_complete`** — when nothing is on its way, everything has been delivered and
  acknowledged.

The result has no timer in it.  It says that everything a packet has to achieve it achieves when it
arrives for the first time, so that retransmissions are needed for packets that are lost and for
nothing else.  The order of arrivals does not matter, although an endpoint treats a packet
differently each time: a chunk may be delivered or buffered, an acknowledgement may be new or stale.
What can be said after a packet has been heard, whatever has happened since, is the invariant
`Settling`: its chunk has been delivered or is buffered, and what it acknowledges is acknowledged.

Two things keep the invariant from being about the wrong packets.  What is outstanding has been
emitted, so if everything emitted has been heard, everything outstanding has been; and the last
chunk to arrive is answered with an acknowledgement of all of them, which was emitted and so has
been heard too.
-/

namespace PhotonTCP

open ArqEndpoint SerialSpace

/-! ## What an endpoint has emitted

A retransmission is the packet that was emitted first, unchanged, so the set of packets on the wire
does not grow by it.
-/

namespace ArqHistory

variable {h : ArqHistory}

/-- The packet is on the wire. -/
def Emitted (h : ArqHistory) (pkt : Packet) : Prop := pkt ∈ h.emitted.map Emission.packet

/-- Everything outstanding has been emitted, and everything emitted bears the session id. -/
structure Signed (sessionId : ℤ) (h : ArqHistory) : Prop where
  own : h.ep.sessionId = sessionId
  outstanding : ∀ e ∈ h.ep.outstanding.entries, h.Emitted e.2.packet
  emitted : ∀ pkt, h.Emitted pkt → pkt.sessionId = sessionId

namespace Signed

variable {sessionId : ℤ}

/-- More is emitted; what is outstanding was so before, or has just been emitted. -/
lemma extend (hs : Signed sessionId h) {h' : ArqHistory} {packets : List Packet}
    (hown : h'.ep.sessionId = h.ep.sessionId)
    (hemitted : h'.emitted.map Emission.packet = h.emitted.map Emission.packet ++ packets)
    (houtstanding : ∀ e ∈ h'.ep.outstanding.entries,
      e.2.packet ∈ packets ∨ ∃ e' ∈ h.ep.outstanding.entries, e'.2.packet = e.2.packet)
    (hpackets : ∀ pkt ∈ packets, pkt.sessionId = sessionId) : Signed sessionId h' where
  own := hown.trans hs.own
  outstanding := by
    intro e he
    rw [Emitted, hemitted, List.mem_append]
    rcases houtstanding e he with hnew | ⟨e', he', hsame⟩
    · exact Or.inr hnew
    · exact Or.inl (hsame ▸ hs.outstanding e' he')
  emitted := by
    intro pkt hp
    rw [Emitted, hemitted, List.mem_append] at hp
    rcases hp with hold | hnew
    · exact hs.emitted pkt hold
    · exact hpackets pkt hnew

/-- Nothing is emitted, and nothing new is outstanding. -/
lemma congr (hs : Signed sessionId h) {h' : ArqHistory} (hown : h'.ep.sessionId = h.ep.sessionId)
    (hemitted : h'.emitted = h.emitted)
    (houtstanding : ∀ e ∈ h'.ep.outstanding.entries, e ∈ h.ep.outstanding.entries) :
    Signed sessionId h' :=
  hs.extend hown (by rw [hemitted, List.append_nil]) (fun e he => Or.inr ⟨e, houtstanding e he, rfl⟩)
    fun pkt hp => absurd hp List.not_mem_nil

/-- **One small step.** -/
theorem move (hs : Signed sessionId h) {m : Move} (hm : h.Movable m) : Signed sessionId (h.move m) := by
  have hdata : ∀ chunk, ∀ pkt ∈ [h.ep.dataPacket chunk], pkt.sessionId = sessionId := by
    intro chunk pkt hp
    rw [List.mem_singleton.mp hp]
    exact hs.own
  have hset : ∀ (s : ℤ) (o : Outstanding), ∀ e ∈ (h.ep.outstanding.set s o).entries,
      e.2.packet ∈ [o.packet] ∨ ∃ e' ∈ h.ep.outstanding.entries, e'.2.packet = e.2.packet := by
    intro s o e he
    rcases Dict.mem_entries_set.mp he with rfl | ⟨hold, -⟩
    · exact Or.inl (List.mem_singleton_self _)
    · exact Or.inr ⟨e, hold, rfl⟩
  have hrecord : ∀ (ep : ArqEndpoint) (packets : List Packet), (h.record ep packets).emitted.map
      Emission.packet = h.emitted.map Emission.packet ++ packets := by
    intro ep packets
    rw [record, List.map_append, map_packet_emissions]
  cases m with
  | emit chunk =>
      exact hs.extend rfl (hrecord (h.ep.emitData chunk h.clock).2 _) (hset _ _) (hdata chunk)
  | flush chunk => exact hs.extend rfl (hrecord _ _) (hset _ _) (hdata chunk)
  | queue chunk => exact hs.congr rfl rfl fun _ he => he
  | retune peerWindow rto failed => exact hs.congr rfl rfl fun _ he => he
  | remove s o => exact hs.congr rfl rfl fun _ he => (Dict.mem_entries_erase.mp he).1
  | again s o =>
      refine hs.extend rfl (hrecord _ _) (hset s ⟨o.packet, h.clock, o.retxCount + 1⟩) ?_
      intro pkt hp
      rw [List.mem_singleton.mp hp]
      exact hs.emitted _ (hs.outstanding (s, o) (Dict.mem_entries_iff.mpr hm))
  | data pkt =>
      obtain ⟨rcvBase, reorder, nacked, hframe⟩ := h.ep.onData_frame pkt
      obtain ⟨rcvBase', reorder', nacked', haccept⟩ := h.ep.acceptData_frame pkt
      have hep : (h.move (.data pkt)).ep = { h.ep with rcvBase, reorder, nacked } := hframe
      have hemitted : (h.move (.data pkt)).emitted.map Emission.packet
          = h.emitted.map Emission.packet ++ (h.ep.onData pkt).1.packets := by
        show (h.emitted ++ emissions _ _ _ _).map Emission.packet = _
        rw [List.map_append, map_packet_emissions]
      refine hs.extend ?_ hemitted ?_ ?_
      · rw [hep]
      · rw [hep]
        exact fun e he => Or.inr ⟨e, he, rfl⟩
      · intro p hp
        rcases mem_answerData _ hp with rfl | ⟨missing, rfl⟩
        · show (h.ep.acceptData pkt).2.sessionId = _
          rw [haccept]
          exact hs.own
        · show (h.ep.acceptData pkt).2.sessionId = _
          rw [haccept]
          exact hs.own

/-- Every history of a new endpoint. -/
lemma of_reach {sessionId' sendIsn windowSize maxPayload recvIsn streamId maxRetx : ℤ}
    {rto : RtoEstimator} {ep : ArqEndpoint} {clock : ℚ} {ok : ArqHistory → ArqInput → Prop}
    (hcreate : create sessionId' sendIsn windowSize rto maxPayload recvIsn streamId maxRetx = .ok ep)
    (hreach : ArqHistory.system.Reach ok (ArqHistory.start ep clock) h) : Signed ep.sessionId h := by
  refine invariant_of_moves (I := Signed ep.sessionId) hreach ?_
    (fun _ _ hs _ => hs.congr rfl rfl fun _ he => he) fun _ _ hs hm => hs.move hm
  obtain ⟨-, -, -, rfl⟩ := create_eq_ok_iff.mp hcreate
  exact ⟨rfl, fun _ he => absurd he List.not_mem_nil, fun _ hp => absurd hp List.not_mem_nil⟩

end Signed

end ArqHistory

/-! ## What a receiver keeps

Nothing is thrown out of the reorder buffer.  A packet beyond the window would be refused, but the
sender's window does not let it go out.
-/

/-- A buffered chunk stays, or is delivered. -/
theorem drainLoop_keeps {isn : ℤ} : ∀ (fuel n : ℕ) (ep : ArqEndpoint), ep.rcvBase = seqOf isn n →
    ∀ s ∈ ep.reorder.keys, s ∈ (drainLoop fuel ep).2.reorder.keys ∨
      ∃ j < (drainLoop fuel ep).1.length, s = seqOf isn (n + j) := by
  intro fuel
  induction fuel with
  | zero => exact fun n ep _ s hs => Or.inl hs
  | succ fuel ih =>
      intro n ep hbase s hs
      rw [drainLoop]
      cases ep.reorder.get? ep.rcvBase with
      | none => exact Or.inl hs
      | some payload =>
          by_cases hnext : s = ep.rcvBase
          · exact Or.inr ⟨0, Nat.succ_pos _, hnext.trans hbase⟩
          · have hbase' : seqAdd ep.rcvBase 1 = seqOf isn (n + 1) := by rw [hbase, seqAdd_seqOf]
            rcases ih (n + 1) { ep with
              reorder := ep.reorder.erase ep.rcvBase
              rcvBase := seqAdd ep.rcvBase 1 } hbase' s (Dict.mem_keys_erase.mpr ⟨hs, hnext⟩)
              with hkept | ⟨j, hj, hout⟩
            · exact Or.inl hkept
            · refine Or.inr ⟨j + 1, Nat.succ_lt_succ hj, ?_⟩
              rw [hout, Nat.add_assoc, Nat.add_comm 1]

/-- The same of a DATA packet; its own chunk is delivered or buffered too, if it lies within the
window and has not been delivered. -/
theorem acceptData_keeps {isn : ℤ} {n : ℕ} {ep : ArqEndpoint} {pkt : Packet}
    (hbase : ep.rcvBase = seqOf isn n) : ∀ s, s ∈ ep.reorder.keys ∨ (s = pkt.seq ∧
      (s = ep.rcvBase ∨ seqLt ep.rcvBase s ∧ seqDiff s ep.rcvBase < ep.windowSize)) →
    s ∈ (ep.acceptData pkt).2.reorder.keys ∨
      ∃ j < (ep.acceptData pkt).1.length, s = seqOf isn (n + j) := by
  intro s hs
  rw [acceptData]
  split_ifs with hnext hahead hroom
  · -- the next expected chunk
    rcases hs with hbuffered | ⟨rfl, -⟩
    · have hbase' : seqAdd ep.rcvBase 1 = seqOf isn (n + 1) := by rw [hbase, seqAdd_seqOf]
      rcases drainLoop_keeps ep.reorder.size (n + 1) { ep with rcvBase := seqAdd ep.rcvBase 1 } hbase'
        s hbuffered with hkept | ⟨j, hj, hout⟩
      · exact Or.inl hkept
      · refine Or.inr ⟨j + 1, Nat.succ_lt_succ hj, ?_⟩
        rw [hout, Nat.add_assoc, Nat.add_comm 1]
    · exact Or.inr ⟨0, Nat.succ_pos _, hnext.trans hbase⟩
  · -- ahead, within the window, and new
    left
    rcases hs with hbuffered | ⟨rfl, -⟩
    · exact Dict.mem_keys_set.mpr (Or.inr hbuffered)
    · exact Dict.mem_keys_set.mpr (Or.inl rfl)
  · left
    rcases hs with hbuffered | ⟨rfl, hbase' | ⟨-, hlt⟩⟩
    · exact hbuffered
    · exact absurd hbase' hnext
    · by_contra hnew
      exact hroom ⟨hlt, hnew⟩
  · left
    rcases hs with hbuffered | ⟨rfl, hbase' | ⟨hlt, -⟩⟩
    · exact hbuffered
    · exact absurd hbase' hnext
    · exact absurd hlt hahead

/-! ## What an acknowledgement does

It covers a front part of the window.  If that is all of it, the window is empty afterwards, and the
queue moves up.
-/

namespace Sender

variable {isn : ℤ} {log log' : List Bytes} {acked acked' : ℕ} {ep : ArqEndpoint}

/-- The endpoint says how much is acknowledged. -/
lemma acked_unique (h : Sender isn log acked ep) (h' : Sender isn log' acked' ep) :
    acked = acked' := by
  have hlog := h.bounded
  have hlog' := h'.bounded
  have hnext : seqOf isn log.length = seqOf isn log'.length := h.nextSeq.symm.trans h'.nextSeq
  have hlength : log.length = log'.length := seqOf_inj (by omega) (by omega) hnext
  have hkeys := congrArg List.length (h.keys_eq.symm.trans h'.keys_eq)
  rw [List.length_map, List.length_map, List.length_range', List.length_range'] at hkeys
  have hle := h.acked_le
  have hle' := h'.acked_le
  omega

/-- Removing a front part of the window, when no measurement is refused. -/
theorem ackLoop_all (now : ℚ) : ∀ (es : List (ℤ × Outstanding)) (acked : ℕ) (ep : ArqEndpoint),
    Sender isn log acked ep → es <+: ep.outstanding.entries →
    (ArqEndpoint.ackLoop now es ep).1.2 = .ok () →
    Sender isn log (acked + es.length) (ArqEndpoint.ackLoop now es ep).2 := by
  intro es
  induction es with
  | nil => exact fun acked ep h _ _ => h
  | cons e es ih =>
      intro acked ep h hprefix hok
      obtain ⟨s, o⟩ := e
      obtain ⟨t, ht⟩ := hprefix
      rw [List.cons_append] at ht
      have hpop := h.pop ht.symm
      have htail : (ep.outstanding.erase s).entries = es ++ t := Dict.entries_erase_cons ht.symm
      have hcount : acked + (es.length + 1) = acked + 1 + es.length := by omega
      rw [List.length_cons, hcount]
      rw [ArqEndpoint.ackLoop] at hok ⊢
      split_ifs at hok ⊢ with hfirst
      · cases hsample : RtoEstimator.onSample ep.rto (now - o.sendTime) with
        | error text =>
            simp only [hsample] at hok
            cases hok
        | ok rto =>
            simp only [hsample] at hok ⊢
            exact ih (acked + 1) _ (hpop.congr rfl rfl rfl) ⟨t, htail.symm⟩ hok
      · exact ih (acked + 1) _ hpop ⟨t, htail.symm⟩ hok

/-- **An acknowledgement that is not refused** moves the acknowledged part to where it says, unless
it is there already. -/
theorem onAck (h : Sender isn log acked ep) {pkt : Packet} {k : ℕ} (hk : k ≤ log.length)
    (hack : pkt.ack = seqOf isn k) (now : ℚ) (hb : log.length + ep.pending.length < 2 ^ 31)
    (hsent : ∀ e ∈ ep.outstanding.entries, e.2.sendTime ≤ now) :
    ∃ log', Sender isn log' (max acked k) (ep.onAck pkt now).2 := by
  have hcovered := h.covered hk
  rw [← hack] at hcovered
  have hok : (ArqEndpoint.ackLoop now (ep.covered pkt.ack) { ep with peerWindow := pkt.window }).1.2
      = .ok () := ackLoop_ok _ _ fun e he => hsent e (List.mem_filter.mp he).1
  have hall := ackLoop_all now (ep.covered pkt.ack) acked { ep with peerWindow := pkt.window }
    (h.congr rfl rfl rfl) (hcovered ▸ List.take_prefix _ _) hok
  have hlength : acked + (ep.covered pkt.ack).length = max acked k := by
    have hsize : ep.outstanding.entries.length = log.length - acked := by
      have hkeys := congrArg List.length h.keys_eq
      rwa [Dict.keys, List.length_map, List.length_map, List.length_range'] at hkeys
    have hle := h.acked_le
    rw [hcovered, List.length_take, hsize]
    omega
  rw [hlength] at hall
  obtain ⟨outstanding, ackedBytes, rto, hframe⟩ :=
    ackLoop_frame now (ep.covered pkt.ack) { ep with peerWindow := pkt.window }
  rcases ep.onAck_cases pkt now with ⟨e, hraise⟩ | hflush
  · rw [hraise]
    exact ⟨log, hall⟩
  · obtain ⟨m, hs, -, -⟩ := hall.flushLoop now ep.pending log _ hb
    have hqueue : (ArqEndpoint.ackLoop now (ep.covered pkt.ack)
        { ep with peerWindow := pkt.window }).2.pending = ep.pending := by rw [hframe]
    rw [hflush, flushPending, hqueue]
    exact ⟨_, hs⟩

end Sender

/-! ## The pair, and what each side has been given

The steps are those of the network; only a record is kept beside it of what has been handed to whom.
-/

/-- What an action hands to either side. -/
def ArqAction.toA : ArqAction → List Packet
  | .deliverA pkt _ => [pkt]
  | _ => []

/-- What it hands to `b`. -/
def ArqAction.toB : ArqAction → List Packet
  | .deliverB pkt _ => [pkt]
  | _ => []

/-- The pair, with the packets that have reached either side. -/
structure HeardNetwork where
  net : ArqNetwork
  heardA : List Packet := []
  heardB : List Packet := []

namespace HeardNetwork

/-- One step, and what it has handed over. -/
def next (c : HeardNetwork) (act : ArqAction) : HeardNetwork where
  net := c.net.next act
  heardA := c.heardA ++ act.toA
  heardB := c.heardB ++ act.toB

/-- The network as before. -/
def system : Transition HeardNetwork ArqAction := ⟨fun c act => c.net.enabled act, next⟩

instance (c : HeardNetwork) (act : ArqAction) : Decidable (system.enabled c act) :=
  inferInstanceAs (Decidable (c.net.enabled act))

/-- Nothing has been handed over. -/
def start (a b : ArqEndpoint) (clock : ℚ) : HeardNetwork := { net := .start a b clock }

/-- Nothing is sent past a queue. -/
def Orderly (c : HeardNetwork) (act : ArqAction) : Prop := NotPastQueue c.net act

instance (c : HeardNetwork) (act : ArqAction) : Decidable (c.Orderly act) :=
  inferInstanceAs (Decidable (NotPastQueue c.net act))

/-- Every packet that was emitted has reached the other side. -/
def Quiescent (c : HeardNetwork) : Prop :=
  (∀ pkt ∈ c.net.emittedA, pkt ∈ c.heardB) ∧ ∀ pkt ∈ c.net.emittedB, pkt ∈ c.heardA

instance (c : HeardNetwork) : Decidable c.Quiescent := inferInstanceAs (Decidable (_ ∧ _))

end HeardNetwork

/-! ## What holds of the pair

The results on single histories apply to both endpoints.
-/

namespace ArqNetwork

/-- Each endpoint has a history of its own, in which it emitted what the pair keeps. -/
structure Traced (a b : ArqEndpoint) (clock : ℚ) (net : ArqNetwork) : Prop where
  traceA : ∃ h, ArqHistory.system.Reach Transition.free (ArqHistory.start a clock) h ∧ h.ep = net.a ∧
    h.emitted.map Emission.packet = net.emittedA
  traceB : ∃ h, ArqHistory.system.Reach Transition.free (ArqHistory.start b clock) h ∧ h.ep = net.b ∧
    h.emitted.map Emission.packet = net.emittedB

variable {isn : ℤ} {a b ep : ArqEndpoint} {clock : ℚ} {net : ArqNetwork} {t : Transfer}

/-- One input more. -/
lemma trace_next {emitted : List Packet} (h : ∃ h, ArqHistory.system.Reach Transition.free
      (ArqHistory.start a clock) h ∧ h.ep = ep ∧ h.emitted.map Emission.packet = emitted)
    (i : ArqInput) : ∃ h, ArqHistory.system.Reach Transition.free (ArqHistory.start a clock) h ∧
      h.ep = (ep.apply i).2 ∧ h.emitted.map Emission.packet = emitted ++ (ep.apply i).1.packets := by
  obtain ⟨h, hreach, rfl, rfl⟩ := h
  refine ⟨h.next i, hreach.tail trivial trivial, rfl, ?_⟩
  show (h.emitted ++ emissions _ _ _ _).map Emission.packet = _
  rw [List.map_append, map_packet_emissions]
  rfl

lemma Traced.next (h : Traced a b clock net) (act : ArqAction) : Traced a b clock (net.next act) := by
  obtain ⟨hA, hB⟩ := h
  cases act with
  | sendA data now => exact ⟨trace_next hA (.send data now), hB⟩
  | tickA now => exact ⟨trace_next hA (.tick now), hB⟩
  | deliverA pkt now => exact ⟨trace_next hA (.packet pkt now), hB⟩
  | sendB data now => exact ⟨hA, trace_next hB (.send data now)⟩
  | tickB now => exact ⟨hA, trace_next hB (.tick now)⟩
  | deliverB pkt now => exact ⟨hA, trace_next hB (.packet pkt now)⟩

/-- What the pair keeps. -/
structure Parties (isn : ℤ) (net : ArqNetwork) : Prop where
  flowing : Flowing net.a
  sentBy : ∀ e ∈ net.a.outstanding.entries, e.2.sendTime ≤ net.clock
  fits : (net.a.outstanding.size : ℤ) ≤ net.b.windowSize
  buffering : Buffering net.b
  filed : ArqHistory.Filed net.a
  session : net.a.sessionId = net.b.sessionId
  outstanding : ∀ e ∈ net.a.outstanding.entries, e.2.packet ∈ net.emittedA
  outstandingB : ∀ e ∈ net.b.outstanding.entries, e.2.packet ∈ net.emittedB
  fromA : ∀ pkt ∈ net.emittedA, pkt.sessionId = net.a.sessionId
  fromB : ∀ pkt ∈ net.emittedB, pkt.sessionId = net.b.sessionId

/-- **Every reachable pair.** -/
theorem Parties.of_reach (hf : Facing isn a b)
    (hreach : system.Reach Transition.free (ArqNetwork.start a b clock) net) : Parties isn net := by
  obtain ⟨t, hc, hv⟩ := Viewed.of_reach hf hreach
  obtain ⟨htraceA, htraceB⟩ : Traced a b clock net := by
    refine hreach.invariant (I := fun net => Traced a b clock net)
      ⟨⟨_, .refl, rfl, rfl⟩, ⟨_, .refl, rfl, rfl⟩⟩ fun _ act h _ _ => h.next act
  obtain ⟨_, _, _, _, _, _, _, ha⟩ := hf.createdA
  obtain ⟨_, _, _, _, _, _, _, hb⟩ := hf.createdB
  obtain ⟨g, hgreach, hgep, hgclock⟩ := hv.viewA
  obtain ⟨g', hgreach', hgep', hgreceived, -⟩ := hv.viewB
  obtain ⟨h, hhreach, hhep, hhemitted⟩ := htraceA
  obtain ⟨h', hhreach', hhep', hhemitted'⟩ := htraceB
  have hsteady := flowing_of_reach ha hgreach
  have hsigned := ArqHistory.Signed.of_reach ha hhreach
  have hsigned' := ArqHistory.Signed.of_reach hb hhreach'
  have hownA : net.a.sessionId = a.sessionId := hhep ▸ hsigned.own
  have hownB : net.b.sessionId = b.sessionId := hhep' ▸ hsigned'.own
  obtain ⟨hstanding, -⟩ := standing_of_reach hb hgreach' fun pkt hp => by
    obtain ⟨hmem, htype⟩ := hgreceived pkt hp
    obtain ⟨i, -, hseq⟩ := hc.fromA pkt hmem htype
    rw [hseq]
    exact seqAdd_bounds _ _
  refine ⟨hgep ▸ hsteady.flowing, fun e he => ?_, ?_, hgep' ▸ hstanding.buffering, ?_, ?_, ?_, ?_, ?_, ?_⟩
  · exact (hsteady.punctual.outstanding e (hgep ▸ he)).trans hgclock
  · have hfit := hsteady.fitting
    rw [ArqHistory.Fitting, hgep] at hfit
    refine hfit.trans ?_
    rw [← hgep, ← hgep', ArqHistory.windowSize_of_reach hgreach,
      ArqHistory.windowSize_of_reach hgreach']
    exact hf.windowSize
  · rw [← hhep]
    exact ArqHistory.invariant_of_moves (I := fun h => ArqHistory.Filed h.ep) hhreach (.start ha)
      (fun _ _ h _ => h) fun _ _ h hm => h.move hm
  · rw [hownA, hownB, hf.sessionId]
  · intro e he
    rw [← hhemitted]
    exact hsigned.outstanding e (hhep ▸ he)
  · intro e he
    rw [← hhemitted']
    exact hsigned'.outstanding e (hhep' ▸ he)
  · intro pkt hp
    rw [← hhemitted] at hp
    rw [hownA]
    exact hsigned.emitted pkt hp
  · intro pkt hp
    rw [← hhemitted'] at hp
    rw [hownB]
    exact hsigned'.emitted pkt hp

end ArqNetwork

/-! ## What has been heard

The invariant, its step, and what it means once there is nothing left to hear.
-/

/-- The chunk of a DATA packet has been delivered, or is buffered. -/
def Arrived (isn : ℤ) (received : ℕ) (ep : ArqEndpoint) (pkt : Packet) : Prop :=
  pkt.type = .Data → ∃ i < 2 ^ 31, pkt.seq = seqOf isn i ∧
    (i < received ∨ pkt.seq ∈ ep.reorder.keys)

/-- What has been heard has had its effect. -/
structure Settling (isn : ℤ) (c : HeardNetwork) (t : Transfer) : Prop where
  carrying : Carrying isn c.net t
  arrived : ∀ pkt ∈ c.heardB, Arrived isn t.received c.net.b pkt
  answered : t.received = 0 ∨ ∃ pkt ∈ c.net.emittedB, pkt.type = .Ack ∧ pkt.ack = c.net.b.rcvBase
  confirmed : ∀ pkt ∈ c.heardA, AckUpTo isn t.acked pkt

/-- The first answer is the acknowledgement. -/
lemma ArqEndpoint.ackPacket_mem_answerData (ep : ArqEndpoint) : ep.ackPacket ∈ ep.answerData.1 := by
  rw [answerData]
  split
  · split_ifs
    · exact List.mem_cons_self ..
    · exact List.mem_cons_self ..
  · exact List.mem_cons_self ..

/-- Apart from DATA, nothing moves the receiving half. -/
lemma ArqEndpoint.onPacket_receiving {ep : ArqEndpoint} {pkt : Packet} (h : pkt.type ≠ .Data) (now : ℚ) :
    (ep.onPacket pkt now).2.reorder = ep.reorder ∧ (ep.onPacket pkt now).2.rcvBase = ep.rcvBase ∧
      (observed (ep.onPacket pkt now).1).delivered = [] := by
  rcases ep.onPacket_cases pkt now with heq | ⟨htype, -⟩ | ⟨-, heq⟩ | ⟨-, heq⟩
  · rw [heq]
    exact ⟨rfl, rfl, rfl⟩
  · exact absurd htype h
  · rw [heq]
    obtain ⟨outstanding, ackedBytes, rto, hframe⟩ :=
      ackLoop_frame now (ep.covered pkt.ack) { ep with peerWindow := pkt.window }
    rcases ep.onAck_cases pkt now with ⟨e, hraise⟩ | hflush
    · rw [hraise, hframe]
      exact ⟨rfl, rfl, rfl⟩
    · obtain ⟨nextSeq, outstanding', pending, hframe'⟩ := flushLoop_frame now
        (ackLoop now (ep.covered pkt.ack) { ep with peerWindow := pkt.window }).2.pending
        (ackLoop now (ep.covered pkt.ack) { ep with peerWindow := pkt.window }).2
      rw [hflush, flushPending, hframe', hframe]
      exact ⟨rfl, rfl, rfl⟩
  · rw [heq, onNack]
    dsimp only
    cases ep.outstanding.get? pkt.ack with
    | none => exact ⟨rfl, rfl, rfl⟩
    | some o => exact ⟨rfl, rfl, rfl⟩

/-- Neither do `send` and `on_tick`. -/
lemma ArqEndpoint.send_receiving (ep : ArqEndpoint) (data : Bytes) (now : ℚ) :
    (ep.send data now).2.reorder = ep.reorder ∧ (ep.send data now).2.rcvBase = ep.rcvBase := by
  rw [ArqEndpoint.send]
  split_ifs
  · exact ⟨rfl, rfl⟩
  · obtain ⟨nextSeq, outstanding, pending, hframe⟩ :=
      sendLoop_frame now (chunks ep.maxPayload.toNat data) ep
    show (sendLoop _ _ _).2.reorder = _ ∧ (sendLoop _ _ _).2.rcvBase = _
    rw [hframe]
    exact ⟨rfl, rfl⟩

lemma ArqEndpoint.onTick_receiving (ep : ArqEndpoint) (now : ℚ) :
    (ep.onTick now).2.reorder = ep.reorder ∧ (ep.onTick now).2.rcvBase = ep.rcvBase := by
  rw [ArqEndpoint.onTick]
  split_ifs
  · exact ⟨rfl, rfl⟩
  · exact ⟨rfl, rfl⟩
  · obtain ⟨outstanding, rto, failed, hframe⟩ := tickLoop_frame now (ep.timedOut now) ep
    rw [hframe]
    exact ⟨rfl, rfl⟩

/-- Everything that was received has been delivered. -/
lemma Carrying.length_delivered {isn : ℤ} {net : ArqNetwork} {t : Transfer} (h : Carrying isn net t) :
    net.delivered.length = t.received := by
  rw [h.delivered, Transfer.delivered, List.length_take]
  exact Nat.min_eq_left t.received_le

namespace Settling

variable {isn : ℤ} {c : HeardNetwork} {t t' : Transfer} {act : ArqAction}

/-- A step in which nothing is handed to `b` that is DATA. -/
lemma undisturbed (h : Settling isn c t) (hgrows : t.Grows t')
    (hcarrying : Carrying isn (c.net.next act) t') (hreceived : t'.received = t.received)
    (hb : (c.net.next act).b.reorder = c.net.b.reorder)
    (hbase : (c.net.next act).b.rcvBase = c.net.b.rcvBase)
    (hemitted : c.net.emittedB ⊆ (c.net.next act).emittedB)
    (htoB : ∀ pkt ∈ act.toB, pkt.type ≠ .Data) (htoA : ∀ pkt ∈ act.toA, AckUpTo isn t'.acked pkt) :
    Settling isn (c.next act) t' where
  carrying := hcarrying
  arrived := by
    intro pkt hp htype
    rcases List.mem_append.mp hp with hold | hnew
    · obtain ⟨i, hi, hseq, hin⟩ := h.arrived pkt hold htype
      refine ⟨i, hi, hseq, ?_⟩
      rw [hreceived]
      show _ ∨ pkt.seq ∈ (c.net.next act).b.reorder.keys
      rwa [hb]
    · exact absurd htype (htoB pkt hnew)
  answered := by
    show _ ∨ ∃ pkt ∈ (c.net.next act).emittedB, _ ∧ pkt.ack = (c.net.next act).b.rcvBase
    rw [hreceived, hbase]
    exact h.answered.imp_right fun ⟨pkt, hp, hack⟩ => ⟨pkt, hemitted hp, hack⟩
  confirmed := by
    intro pkt hp
    rcases List.mem_append.mp hp with hold | hnew
    · exact (h.confirmed pkt hold).mono hgrows.acked
    · exact htoA pkt hnew

/-- An acknowledgement has taken effect. -/
lemma acknowledged (h : Settling isn c t) (hp : ArqNetwork.Parties isn c.net) {pkt : Packet} {now : ℚ}
    (he : c.net.enabled (.deliverA pkt now))
    (hcarrying : Carrying isn (c.net.next (.deliverA pkt now)) t') : AckUpTo isn t'.acked pkt := by
  intro htype
  obtain ⟨hnow, hmem⟩ := he
  obtain ⟨k, hk, hack⟩ := h.carrying.fromB pkt hmem htype
  have hchunks := h.carrying.chunkCount
  have hbounded := h.carrying.bounded
  have hsession : ¬ pkt.sessionId ≠ c.net.a.sessionId := by
    rw [hp.fromB pkt hmem, hp.session]
    exact not_not.mpr rfl
  obtain ⟨log', hsender⟩ := h.carrying.sender.onAck (hk.trans t.received_le) hack now (by omega)
    fun e he => (hp.sentBy e he).trans hnow
  have hafter : (c.net.next (.deliverA pkt now)).a = (c.net.a.onAck pkt now).2 := by
    show (c.net.a.onPacket pkt now).2 = _
    rw [onPacket, if_neg hsession]
    simp only [htype]
  have hacked := hcarrying.sender.acked_unique (hafter ▸ hsender)
  exact ⟨k, by omega, hack⟩

/-- **A DATA packet has taken effect.** -/
lemma accepted (h : Settling isn c t) (hp : ArqNetwork.Parties isn c.net) {pkt : Packet} {now : ℚ}
    (hmem : pkt ∈ c.net.emittedA) (htype : pkt.type = .Data)
    (hcarrying : Carrying isn (c.net.next (.deliverB pkt now)) t') (hacked : t.acked ≤ t'.acked) :
    Settling isn (c.next (.deliverB pkt now)) t' := by
  have hsession : ¬ pkt.sessionId ≠ c.net.b.sessionId := by
    rw [hp.fromA pkt hmem, hp.session]
    exact not_not.mpr rfl
  have hresult : c.net.b.onPacket pkt now
      = (.ok (c.net.b.onData pkt).1, (c.net.b.onData pkt).2) := by
    rw [onPacket, if_neg hsession]
    simp only [htype]
  obtain ⟨nacked, hanswer⟩ := (c.net.b.acceptData pkt).2.answerData_frame
  have hafter : (c.net.next (.deliverB pkt now)).b = { (c.net.b.acceptData pkt).2 with nacked } := by
    show (c.net.b.onPacket pkt now).2 = _
    rw [hresult]
    exact hanswer
  have hpackets : (c.net.next (.deliverB pkt now)).emittedB
      = c.net.emittedB ++ (c.net.b.acceptData pkt).2.answerData.1 := by
    show c.net.emittedB ++ (observed (c.net.b.onPacket pkt now).1).packets = _
    rw [hresult]
    rfl
  have hreceived : t'.received = t.received + (c.net.b.acceptData pkt).1.length := by
    rw [← hcarrying.length_delivered, ← h.carrying.length_delivered]
    show (c.net.delivered ++ (observed (c.net.b.onPacket pkt now).1).delivered).length = _
    rw [hresult, List.length_append]
    rfl
  have hbound : t'.received < 2 ^ 31 :=
    hcarrying.receiver.received_le.trans_lt hcarrying.sender.bounded
  -- what stays or is delivered
  have hkeeps : ∀ s i, i < 2 ^ 31 → s = seqOf isn i → (s ∈ c.net.b.reorder.keys ∨ (s = pkt.seq ∧
      (s = c.net.b.rcvBase ∨ seqLt c.net.b.rcvBase s ∧
        seqDiff s c.net.b.rcvBase < c.net.b.windowSize))) →
      ∃ i < 2 ^ 31, s = seqOf isn i ∧
        (i < t'.received ∨ s ∈ (c.net.next (.deliverB pkt now)).b.reorder.keys) := by
    intro s i hi hseq hs
    rw [hafter]
    rcases acceptData_keeps h.carrying.receiver.rcvBase s hs with hkept | ⟨j, hj, hout⟩
    · exact ⟨i, hi, hseq, Or.inr hkept⟩
    · exact ⟨t.received + j, by omega, hout, Or.inl (by omega)⟩
  refine ⟨hcarrying, ?_, ?_, ?_⟩
  · intro p hheard hdata
    rcases List.mem_append.mp hheard with hold | hnew
    · obtain ⟨i, hi, hseq, hin⟩ := h.arrived p hold hdata
      rcases hin with hpast | hkey
      · exact ⟨i, hi, hseq, Or.inl (by omega)⟩
      · exact hkeeps p.seq i hi hseq (Or.inl hkey)
    · obtain rfl := List.mem_singleton.mp hnew
      obtain ⟨i, hget, hseq⟩ := h.carrying.fromA p hmem hdata
      have hlt : i < t.log.length := (List.getElem?_eq_some_iff.mp hget).1
      have hlog := h.carrying.sender.bounded
      rcases Nat.lt_or_ge i t.received with hpast | hahead
      · exact ⟨i, by omega, hseq, Or.inl (by omega)⟩
      · refine hkeeps p.seq i (by omega) hseq (Or.inr ⟨rfl, ?_⟩)
        rw [hseq, h.carrying.receiver.rcvBase]
        rcases hahead.eq_or_lt with rfl | hlater
        · exact Or.inl rfl
        · have hreceived := t.received_le
          rw [seqLt_seqOf (by omega) (by omega), seqDiff_seqOf (by omega) (by omega)]
          refine Or.inr ⟨hlater, ?_⟩
          have hsize := hp.fits
          have hacked := t.acked_le
          rw [Dict.size_eq_length_keys, h.carrying.sender.keys_eq, List.length_map,
            List.length_range'] at hsize
          omega
  · refine Or.inr ⟨(c.net.b.acceptData pkt).2.ackPacket, ?_, rfl, ?_⟩
    · show _ ∈ (c.net.next (.deliverB pkt now)).emittedB
      rw [hpackets]
      exact List.mem_append_right _ (ackPacket_mem_answerData _)
    · show _ = (c.net.next (.deliverB pkt now)).b.rcvBase
      rw [hafter]
      rfl
  · intro p hheard
    have hold : p ∈ c.heardA := by simpa [HeardNetwork.next, ArqAction.toA] using hheard
    exact (h.confirmed p hold).mono hacked

/-- **One step.** -/
theorem step (h : Settling isn c t) (hp : ArqNetwork.Parties isn c.net) (he : c.net.enabled act) :
    ∃ t', Settling isn (c.next act) t' ∧
      (NotPastQueue c.net act → InOrder c.net t → InOrder (c.next act).net t') := by
  obtain ⟨t', hgrows, hcarrying, horder⟩ := h.carrying.step he
  refine ⟨t', ?_, horder⟩
  have hdelivered := h.carrying.length_delivered
  have hdelivered' := hcarrying.length_delivered
  cases act with
  | sendA data now =>
      exact h.undisturbed hgrows hcarrying (hdelivered'.symm.trans hdelivered) rfl rfl
        (List.Subset.refl _) (by simp [ArqAction.toB]) (by simp [ArqAction.toA])
  | tickA now =>
      exact h.undisturbed hgrows hcarrying (hdelivered'.symm.trans hdelivered) rfl rfl
        (List.Subset.refl _) (by simp [ArqAction.toB]) (by simp [ArqAction.toA])
  | deliverA pkt now =>
      refine h.undisturbed hgrows hcarrying (hdelivered'.symm.trans hdelivered) rfl rfl
        (List.Subset.refl _) (by simp [ArqAction.toB]) ?_
      intro p hmem
      obtain rfl := List.mem_singleton.mp hmem
      exact h.acknowledged hp he hcarrying
  | sendB data now =>
      obtain ⟨hreorder, hbase⟩ := c.net.b.send_receiving data now
      exact h.undisturbed hgrows hcarrying (hdelivered'.symm.trans hdelivered) hreorder hbase
        (List.subset_append_left _ _) (by simp [ArqAction.toB]) (by simp [ArqAction.toA])
  | tickB now =>
      obtain ⟨hreorder, hbase⟩ := c.net.b.onTick_receiving now
      exact h.undisturbed hgrows hcarrying (hdelivered'.symm.trans hdelivered) hreorder hbase
        (List.subset_append_left _ _) (by simp [ArqAction.toB]) (by simp [ArqAction.toA])
  | deliverB pkt now =>
      by_cases htype : pkt.type = .Data
      · exact h.accepted hp he.2 htype hcarrying hgrows.acked
      · obtain ⟨hreorder, hbase, hnothing⟩ := onPacket_receiving htype now
        refine h.undisturbed hgrows hcarrying ?_ hreorder hbase (List.subset_append_left _ _) ?_
          (by simp [ArqAction.toA])
        · have hsame : (c.net.next (.deliverB pkt now)).delivered = c.net.delivered := by
            show c.net.delivered ++ (observed (c.net.b.onPacket pkt now).1).delivered = _
            rw [hnothing, List.append_nil]
          rw [← hdelivered', hsame, hdelivered]
        · intro p hmem
          rwa [List.mem_singleton.mp hmem]

/-- Every reachable state. -/
theorem of_reach {a b : ArqEndpoint} {clock : ℚ} (hf : Facing isn a b)
    (h : HeardNetwork.system.Reach HeardNetwork.Orderly (.start a b clock) c) :
    ArqNetwork.Parties isn c.net ∧ ∃ t, Settling isn c t ∧ InOrder c.net t := by
  have hstart := hf.carrying clock
  have hkept : ArqNetwork.system.Reach Transition.free (ArqNetwork.start a b clock) c.net ∧
      ∃ t, Settling isn c t ∧ InOrder c.net t := by
    refine h.invariant (I := fun c =>
        ArqNetwork.system.Reach Transition.free (ArqNetwork.start a b clock) c.net ∧
        ∃ t, Settling isn c t ∧ InOrder c.net t)
      ⟨.refl, _, ⟨hstart, fun _ hp => absurd hp List.not_mem_nil, Or.inl rfl,
        fun _ hp => absurd hp List.not_mem_nil⟩, hstart.inOrder_start⟩ ?_
    rintro c act ⟨hreach, t, hsettling, horder⟩ he hok
    obtain ⟨t', hsettling', horder'⟩ := hsettling.step (.of_reach hf hreach) he
    exact ⟨hreach.tail he trivial, t', hsettling', horder' hok horder⟩
  exact ⟨.of_reach hf hkept.1, hkept.2⟩

/-- When nothing is on its way, everything that was emitted is delivered and acknowledged. -/
lemma settled (h : Settling isn c t) (hp : ArqNetwork.Parties isn c.net) (hquiet : c.Quiescent) :
    t.received = t.log.length ∧ t.acked = t.log.length := by
  have hlog := h.carrying.sender.bounded
  have hreceived : t.received = t.log.length := by
    refine t.received_le.antisymm (not_lt.mp fun hlt => ?_)
    -- the next expected chunk is outstanding, so it was emitted and heard
    obtain ⟨o, hmem⟩ := Dict.mem_keys_iff.mp (h.carrying.sender.mem_keys t.acked_le hlt)
    obtain ⟨htype, hseq⟩ := hp.filed _ hmem
    obtain ⟨i, hi, hnumber, hin⟩ := h.arrived _ (hquiet.1 _ (hp.outstanding _ hmem)) htype
    rw [hseq] at hnumber hin
    have hindex : t.received = i := seqOf_inj (by omega) (by omega) hnumber
    refine hin.elim (fun hpast => by omega) fun hbuffered => hp.buffering.rcvBase_notMem ?_
    rwa [h.carrying.receiver.rcvBase]
  refine ⟨hreceived, ?_⟩
  have hacked := t.acked_le
  rcases h.answered with hnone | ⟨pkt, hmem, htype, hack⟩
  · omega
  · obtain ⟨k, hk, hnumber⟩ := h.confirmed pkt (hquiet.2 pkt hmem) htype
    rw [hack, h.carrying.receiver.rcvBase] at hnumber
    have hindex : t.received = k := seqOf_inj (by omega) (by omega) hnumber
    omega

end Settling

/-- **When everything has arrived, the transfer is complete.**  Over a network that delays, reorders
and duplicates, and may still lose what is sent again: in every reachable state in which each packet
that was emitted has reached the other side at least once, what was sent has been delivered, all of
it and in order, its sender knows it, and nothing is outstanding or queued. -/
theorem quiescent_complete {isn : ℤ} {a b : ArqEndpoint} (hf : Facing isn a b) {clock : ℚ}
    {c : HeardNetwork}
    (h : HeardNetwork.system.Reach HeardNetwork.Orderly (.start a b clock) c)
    (hquiet : c.Quiescent) :
    c.net.delivered.flatten = c.net.sent.flatten ∧
      c.net.a.ackedBytes = c.net.sent.flatten.length ∧
      c.net.a.outstanding.keys = [] ∧ c.net.a.pending = [] := by
  obtain ⟨hp, t, hsettling, horder⟩ := Settling.of_reach hf h
  obtain ⟨hreceived, hacked⟩ := hsettling.settled hp hquiet
  have hkeys : c.net.a.outstanding.keys = [] := by
    rw [hsettling.carrying.sender.keys_eq, hacked, Nat.sub_self]
    rfl
  have hpending : c.net.a.pending = [] := by
    by_contra hsome
    refine hp.flowing.busy hsome ?_
    rw [Dict.size_eq_length_keys, hkeys, List.length_nil]
  rw [InOrder, hpending, List.append_nil] at horder
  refine ⟨?_, ?_, hkeys, hpending⟩
  · rw [hsettling.carrying.delivered, Transfer.delivered, hreceived, List.take_length, horder]
  · rw [hsettling.carrying.sender.ackedBytes, hacked, List.take_length, horder]

end PhotonTCP
