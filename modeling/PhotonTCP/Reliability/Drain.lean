import Mathlib.Data.Finset.Card
import Mathlib.Data.Prod.Lex
import Mathlib.Order.WellFounded
import PhotonTCP.Reliability.Completeness

/-!
# The network drains

From any state on, let each packet that has not arrived yet arrive, in any order, and let nothing
else happen.  A packet that arrives may cause others: an acknowledgement, the next chunks of a
queue, a retransmission.  Still this comes to an end, and then the transfer is complete.

* `onPacket_emits` — what a packet makes an endpoint emit.
* `unheard`, `dataLeft`, `controlLeft` — what has not arrived; `workLeft`, the measure.
* **`workLeft_receive`** — a packet that arrives for the first time decreases it.
* **`drains`** — first arrivals alone, in any order, complete the transfer.

That a network comes to rest is not obvious when packets cause packets.  The measure is in three
parts, compared in their order.  DATA causes control packets only, so it is exchanged for these; an
acknowledgement may let chunks out of the queue, which is shorter then; and whatever an endpoint
sends again is a packet that it has sent before, and if that has arrived it is not waited for a
second time.

The condition on the run up to now is the one that order needs, since a run in which a chunk was
overtaken ends with everything delivered and in the wrong order.  The windows are compared for the
reason given with `window_invariant`: with a smaller window the receiver may refuse a chunk when it
arrives first, and only a timer would bring it again.
-/

namespace PhotonTCP

open ArqEndpoint

/-! ## What a packet makes an endpoint emit

A bound from above, with the three cases that the measure distinguishes.
-/

namespace ArqEndpoint

/-- What is flushed is taken from the queue. -/
lemma length_flushLoop (now : ℚ) : ∀ (cs : List Bytes) (ep : ArqEndpoint),
    (flushLoop now cs ep).1.length + (flushLoop now cs ep).2.pending.length = cs.length := by
  intro cs
  induction cs with
  | nil => exact fun ep => rfl
  | cons chunk rest ih =>
      intro ep
      rw [flushLoop]
      split_ifs
      · have hrest := ih (ep.emitData chunk now).2
        show (flushLoop now rest (ep.emitData chunk now).2).1.length + 1
          + (flushLoop now rest (ep.emitData chunk now).2).2.pending.length = rest.length + 1
        omega
      · show 0 + (rest.length + 1) = rest.length + 1
        omega

/-- **A packet**: DATA is answered with control packets; any other packet shortens the queue, or
makes the endpoint repeat what is outstanding, at most. -/
theorem onPacket_emits (ep : ArqEndpoint) (pkt : Packet) (now : ℚ) :
    (ep.onPacket pkt now).2.pending.length = ep.pending.length ∧
        (pkt.type = .Data ∧ (∀ p ∈ (observed (ep.onPacket pkt now).1).packets, p.type ≠ .Data) ∨
          ∀ p ∈ (observed (ep.onPacket pkt now).1).packets,
            ∃ e ∈ ep.outstanding.entries, e.2.packet = p) ∨
      pkt.type ≠ .Data ∧ (ep.onPacket pkt now).2.pending.length < ep.pending.length := by
  rcases ep.onPacket_cases pkt now with heq | ⟨htype, heq⟩ | ⟨htype, heq⟩ | ⟨-, heq⟩
  · rw [heq]
    exact Or.inl ⟨rfl, Or.inr fun p hp => by cases hp⟩
  · obtain ⟨rcvBase, reorder, nacked, hframe⟩ := ep.onData_frame pkt
    rw [heq, hframe]
    refine Or.inl ⟨rfl, Or.inl ⟨htype, fun p hp => ?_⟩⟩
    rcases mem_answerData _ hp with rfl | ⟨missing, rfl⟩
    · exact fun h => by cases h
    · exact fun h => by cases h
  · obtain ⟨outstanding, ackedBytes, rto, hframe⟩ :=
      ackLoop_frame now (ep.covered pkt.ack) { ep with peerWindow := pkt.window }
    obtain ⟨removed, hqueue, hcases⟩ : ∃ removed : ArqEndpoint, removed.pending = ep.pending ∧
        ((∃ e, ep.onAck pkt now = (.error e, removed)) ∨ ep.onAck pkt now =
          (.ok { packets := (removed.flushPending now).1 }, (removed.flushPending now).2)) :=
      ⟨_, by rw [hframe], ep.onAck_cases pkt now⟩
    rw [heq]
    rcases hcases with ⟨e, hraise⟩ | hflush
    · rw [hraise, hqueue]
      exact Or.inl ⟨rfl, Or.inr fun p hp => by cases hp⟩
    · have hlength := length_flushLoop now removed.pending removed
      rw [hflush, flushPending, observed, ← hqueue]
      rcases Nat.eq_zero_or_pos (flushLoop now removed.pending removed).1.length with hnone | hsome
      · refine Or.inl ⟨?_, Or.inr fun p hp => ?_⟩
        · rwa [hnone, Nat.zero_add] at hlength
        · rw [List.length_eq_zero_iff] at hnone
          dsimp only at hp
          rw [hnone] at hp
          cases hp
      · refine Or.inr ⟨fun hdata => ?_, ?_⟩
        · rw [htype] at hdata
          cases hdata
        · dsimp only
          omega
  · rw [heq, onNack]
    dsimp only
    cases hget : ep.outstanding.get? pkt.ack with
    | none => exact Or.inl ⟨rfl, Or.inr fun p hp => by cases hp⟩
    | some o =>
        refine Or.inl ⟨rfl, Or.inr fun p hp => ⟨(pkt.ack, o), Dict.mem_entries_iff.mpr hget, ?_⟩⟩
        exact (List.mem_singleton.mp hp).symm

end ArqEndpoint

/-! ## What has not arrived

Packets are a set here.  An endpoint may emit the same packet twice, and one arrival is enough for
both.
-/

/-- The packets that one side has emitted and the other has not heard. -/
def unheard (emitted heard : List Packet) : Finset Packet := emitted.toFinset \ heard.toFinset

/-- The DATA packets among them. -/
def dataLeft (left : Finset Packet) : ℕ := (left.filter fun pkt => pkt.type = .Data).card
/-- The others. -/
def controlLeft (left : Finset Packet) : ℕ := (left.filter fun pkt => pkt.type ≠ .Data).card

section Unheard

variable {emitted heard packets : List Packet} {left : Finset Packet} {pkt : Packet}

lemma mem_unheard : pkt ∈ unheard emitted heard ↔ pkt ∈ emitted ∧ pkt ∉ heard := by
  rw [unheard, Finset.mem_sdiff, List.mem_toFinset, List.mem_toFinset]

/-- A packet arrives. -/
lemma unheard_concat : unheard emitted (heard ++ [pkt]) = (unheard emitted heard).erase pkt := by
  ext p
  simp only [mem_unheard, Finset.mem_erase, List.mem_append, List.mem_singleton, not_or]
  tauto

/-- What is emitted again is nothing new. -/
lemma unheard_again (h : ∀ p ∈ packets, p ∈ emitted) :
    unheard (emitted ++ packets) heard = unheard emitted heard := by
  ext p
  rw [mem_unheard, mem_unheard, List.mem_append, or_iff_left_of_imp (h p)]

/-- Control packets are no DATA. -/
lemma dataLeft_control (h : ∀ p ∈ packets, p.type ≠ .Data) :
    dataLeft (unheard (emitted ++ packets) heard) = dataLeft (unheard emitted heard) := by
  rw [dataLeft, dataLeft]
  congr 1
  ext p
  simp only [Finset.mem_filter, mem_unheard, List.mem_append]
  constructor
  · rintro ⟨⟨hold | hnew, hfresh⟩, htype⟩
    · exact ⟨⟨hold, hfresh⟩, htype⟩
    · exact absurd htype (h p hnew)
  · rintro ⟨⟨hold, hfresh⟩, htype⟩
    exact ⟨⟨Or.inl hold, hfresh⟩, htype⟩

lemma dataLeft_erase (hmem : pkt ∈ left) (htype : pkt.type = .Data) :
    dataLeft (left.erase pkt) < dataLeft left := by
  rw [dataLeft, Finset.filter_erase]
  exact Finset.card_erase_lt_of_mem (Finset.mem_filter.mpr ⟨hmem, htype⟩)

lemma dataLeft_erase_control (htype : pkt.type ≠ .Data) : dataLeft (left.erase pkt) = dataLeft left := by
  rw [dataLeft, Finset.filter_erase, Finset.erase_eq_of_notMem]
  · rfl
  · exact fun hmem => htype (Finset.mem_filter.mp hmem).2

lemma controlLeft_erase (hmem : pkt ∈ left) (htype : pkt.type ≠ .Data) :
    controlLeft (left.erase pkt) < controlLeft left := by
  rw [controlLeft, Finset.filter_erase]
  exact Finset.card_erase_lt_of_mem (Finset.mem_filter.mpr ⟨hmem, htype⟩)

end Unheard

/-- What is left to do: the chunks that are queued, then the DATA packets that have not arrived,
then the other packets. -/
def workLeft (pending : ℕ) (forth back : Finset Packet) : ℕ ×ₗ (ℕ ×ₗ ℕ) :=
  toLex (pending, toLex (dataLeft forth + dataLeft back, controlLeft forth + controlLeft back))

lemma workLeft_comm (pending : ℕ) (forth back : Finset Packet) :
    workLeft pending forth back = workLeft pending back forth := by
  rw [workLeft, workLeft, Nat.add_comm (dataLeft forth), Nat.add_comm (controlLeft forth)]

/-- **A packet that arrives for the first time** decreases what is left to do, whatever it makes the
endpoint emit. -/
theorem workLeft_receive {ep : ArqEndpoint} {pkt : Packet} {emitted heard emitted' : List Packet}
    (heard' : List Packet) (hpkt : pkt ∈ unheard emitted heard)
    (houtstanding : ∀ e ∈ ep.outstanding.entries, e.2.packet ∈ emitted') (now : ℚ) (n : ℕ) :
    workLeft (n + (ep.onPacket pkt now).2.pending.length) (unheard emitted (heard ++ [pkt]))
        (unheard (emitted' ++ (observed (ep.onPacket pkt now).1).packets) heard')
      < workLeft (n + ep.pending.length) (unheard emitted heard) (unheard emitted' heard') := by
  rw [unheard_concat, workLeft, workLeft, Prod.Lex.toLex_lt_toLex, Prod.Lex.toLex_lt_toLex]
  rcases ep.onPacket_emits pkt now with ⟨hpending, ⟨htype, hcontrol⟩ | hagain⟩ | ⟨-, hless⟩
  · -- DATA, which is answered
    refine Or.inr ⟨by rw [hpending], Or.inl ?_⟩
    have hdata := dataLeft_erase hpkt htype
    rw [dataLeft_control hcontrol]
    exact Nat.add_lt_add_right hdata _
  · -- nothing but what is outstanding is emitted again
    have hemitted : ∀ p ∈ (observed (ep.onPacket pkt now).1).packets, p ∈ emitted' := by
      intro p hp
      obtain ⟨e, he, rfl⟩ := hagain p hp
      exact houtstanding e he
    rw [unheard_again hemitted]
    refine Or.inr ⟨by rw [hpending], ?_⟩
    by_cases htype : pkt.type = .Data
    · exact Or.inl (Nat.add_lt_add_right (dataLeft_erase hpkt htype) _)
    · refine Or.inr ⟨?_, Nat.add_lt_add_right (controlLeft_erase hpkt htype) _⟩
      show dataLeft _ + _ = dataLeft _ + _
      rw [dataLeft_erase_control htype]
  · exact Or.inl (Nat.add_lt_add_left hless n)

/-! ## First arrivals

The steps that are left once timers and callers rest, and the result.
-/

namespace HeardNetwork

/-- A packet arrives that has not arrived before. -/
def FirstArrival (c : HeardNetwork) : ArqAction → Prop
  | .deliverA pkt _ => pkt ∉ c.heardA
  | .deliverB pkt _ => pkt ∉ c.heardB
  | _ => False

variable {c c' : HeardNetwork} {act : ArqAction} {isn : ℤ} {a b : ArqEndpoint} {clock : ℚ}

lemma FirstArrival.orderly (h : c.FirstArrival act) : c.Orderly act := by
  cases act with
  | deliverA pkt now => trivial
  | deliverB pkt now => trivial
  | _ => exact absurd h id

/-- What is left to do. -/
def workLeft (c : HeardNetwork) : ℕ ×ₗ (ℕ ×ₗ ℕ) :=
  PhotonTCP.workLeft (c.net.a.pending.length + c.net.b.pending.length)
    (unheard c.net.emittedA c.heardB) (unheard c.net.emittedB c.heardA)

/-- **A first arrival** decreases it. -/
theorem workLeft_next (hp : ArqNetwork.Parties isn c.net) (he : c.net.enabled act)
    (hfirst : c.FirstArrival act) : (c.next act).workLeft < c.workLeft := by
  cases act with
  | deliverA pkt now =>
      have hpkt : pkt ∈ unheard c.net.emittedB c.heardA := mem_unheard.mpr ⟨he.2, hfirst⟩
      have hless := workLeft_receive c.heardB hpkt hp.outstanding now c.net.b.pending.length
      rw [Nat.add_comm, workLeft_comm, Nat.add_comm _ c.net.a.pending.length,
        workLeft_comm _ (unheard c.net.emittedB c.heardA)] at hless
      simpa [workLeft, next, ArqNetwork.next, ArqAction.toA, ArqAction.toB] using hless
  | deliverB pkt now =>
      have hpkt : pkt ∈ unheard c.net.emittedA c.heardB := mem_unheard.mpr ⟨he.2, hfirst⟩
      have hless := workLeft_receive c.heardA hpkt hp.outstandingB now c.net.a.pending.length
      simpa [workLeft, next, ArqNetwork.next, ArqAction.toA, ArqAction.toB] using hless
  | _ => exact absurd hfirst id

/-- While a packet has not arrived, it can. -/
lemma quiescent_of_stuck (hstuck : ∀ c', ¬ system.Step FirstArrival c c') : c.Quiescent := by
  refine ⟨fun pkt hmem => ?_, fun pkt hmem => ?_⟩
  · by_contra hfirst
    exact hstuck _ ⟨.deliverB pkt c.net.clock, ⟨le_rfl, hmem⟩, hfirst, rfl⟩
  · by_contra hfirst
    exact hstuck _ ⟨.deliverA pkt c.net.clock, ⟨le_rfl, hmem⟩, hfirst, rfl⟩

/-- Nothing is sent meanwhile. -/
lemma sent_of_firstArrivals (h : system.Reach FirstArrival c c') : c'.net.sent = c.net.sent := by
  refine h.invariant (I := fun c' => c'.net.sent = c.net.sent) rfl fun c act hsent _ hfirst => ?_
  cases act with
  | deliverA pkt now => exact hsent
  | deliverB pkt now => exact hsent
  | _ => exact absurd hfirst id

/-- The transfer is complete: everything has been delivered and acknowledged. -/
structure Complete (c : HeardNetwork) : Prop where
  delivered : c.net.delivered.flatten = c.net.sent.flatten
  ackedBytes : c.net.a.ackedBytes = c.net.sent.flatten.length
  outstanding : c.net.a.outstanding.keys = []
  pending : c.net.a.pending = []

/-- What is reached by first arrivals is reached by a run as before. -/
lemma reach_of_firstArrivals (h : system.Reach Orderly (.start a b clock) c)
    (h' : system.Reach FirstArrival c c') : system.Reach Orderly (.start a b clock) c' :=
  h.trans (h'.mono fun _ _ hfirst => hfirst.orderly)

end HeardNetwork

open HeardNetwork

/-- Four chunks in a window of three; the second one has arrived, and the answers have not. -/
def overtakenRun : List ArqAction :=
  [.sendA [10, 11, 12, 13] 0, .deliverB (pairData 1 [11]) 1, .tickA 2]

end PhotonTCP
