import PhotonTCP.Foundation.Transition
import PhotonTCP.Reliability.Receiver

/-!
# Two endpoints over an unreliable network

Endpoint `a` talks to endpoint `b` over a network that loses, duplicates, delays and reorders: any
packet either side has ever emitted may be handed to the other side at any time, any number of
times, or never.

* `Transfer` — what the pair is for, without packets: a log that grows, a received part of it, and
  an acknowledged part of that.
* `ArqNetwork`, `ArqNetwork.system` — the pair, what it has emitted, and its steps.
* `Carrying` — how the pair's state depends on the transfer, and **`Carrying.step`**: every step
  carries the transfer on.
* **`nothing_forgotten`** — in every reachable state each number is outstanding or delivered, no
  byte is unaccounted for, and progress never runs ahead of delivery.
* **`delivered_prefix`** — what has been delivered is a prefix of what was sent, along every run in
  which nothing is sent past a queue (`NotPastQueue`); `overtaking` is a run in which something is.

The endpoints are those of one stream, each with its sending and its receiving half; what is
followed is the direction from `a` to `b`, and what `b` sends may be anything.  The network is a set
of packets that only grows, which covers every kind of loss, duplication, delay and reordering at
once.  Time is one clock that does not go back.

The transfer is the abstract view: three numbers on a log.  `Carrying` connects it with the state
through the relations of `Sender` and `Receiver`, and every step of the network moves the transfer
in one of two ways, or not at all.  What holds of runs is then read off the transfer, where it
is obvious, since what has been received is a prefix of the log by construction.

One thing is not obvious.  The log is what went out, in the order of numbers, and this need not be
the order in which it was sent: a chunk that is queued can be overtaken by one that is sent later
and finds room.  The condition `NotPastQueue` excludes just these steps.  It is about the state
before the send and nothing else, and `overtakingRun` shows that it cannot be dropped.  Nothing is
lost in such a run, so `nothing_forgotten` does without it, and it does without any agreement
between the two ends besides the session and the first number (`Matching`).
-/

namespace PhotonTCP

open ArqEndpoint

/-! ## What the pair is for

A structure whose fields say that acknowledged is at most received, and received at most what there
is.  So there is nothing to prove later about a transfer itself.
-/

/-- One direction of a reliable transfer: the chunks in the order of their numbers, how many of
them have been received, and how many of these are known to have been. -/
structure Transfer where
  log : List Bytes
  received : ℕ
  acked : ℕ
  acked_le : acked ≤ received
  received_le : received ≤ log.length

namespace Transfer

/-- Nothing has happened. -/
def empty : Transfer := ⟨[], 0, 0, le_rfl, le_rfl⟩

/-- The later transfer continues the earlier one. -/
structure Grows (t t' : Transfer) : Prop where
  log : t.log <+: t'.log
  received : t.received ≤ t'.received
  acked : t.acked ≤ t'.acked

/-- What has been received. -/
def delivered (t : Transfer) : List Bytes := t.log.take t.received

lemma acked_prefix (t : Transfer) : t.log.take t.acked <+: t.delivered :=
  (List.take_prefix_take_left (l := t.log) t.acked_le)

lemma delivered_prefix_log (t : Transfer) : t.delivered <+: t.log := List.take_prefix _ _

/-- More is sent and more is known to have arrived. -/
def emit (t : Transfer) (new : List Bytes) (acked : ℕ) (h : acked ≤ t.received) : Transfer where
  log := t.log ++ new
  received := t.received
  acked := acked
  acked_le := h
  received_le := by
    rw [List.length_append]
    exact t.received_le.trans (Nat.le_add_right _ _)

/-- More arrives. -/
def receive (t : Transfer) (received : ℕ) (h : t.received ≤ received)
    (h' : received ≤ t.log.length) : Transfer where
  log := t.log
  received := received
  acked := t.acked
  acked_le := t.acked_le.trans h
  received_le := h'

lemma grows_emit (t : Transfer) (new : List Bytes) {acked : ℕ} (h : acked ≤ t.received)
    (hle : t.acked ≤ acked) : t.Grows (t.emit new acked h) :=
  ⟨List.prefix_append _ _, le_rfl, hle⟩

lemma grows_receive (t : Transfer) {received : ℕ} (h : t.received ≤ received)
    (h' : received ≤ t.log.length) : t.Grows (t.receive received h h') :=
  ⟨List.prefix_rfl, h, le_rfl⟩

lemma Grows.refl (t : Transfer) : t.Grows t := ⟨List.prefix_rfl, le_rfl, le_rfl⟩

end Transfer

/-! ## The pair

What has been put in and taken out is kept beside the endpoints, because the code forgets it.
-/

/-- Two endpoints, everything they have emitted, and what has been put in and taken out. -/
structure ArqNetwork where
  a : ArqEndpoint
  b : ArqEndpoint
  clock : ℚ
  emittedA : List Packet := []
  emittedB : List Packet := []
  sent : List Bytes := []
  chunksSent : ℕ := 0
  delivered : List Bytes := []

/-- The steps: the applications send, the timers run, the network delivers. -/
inductive ArqAction where
  | sendA (data : Bytes) (now : ℚ)
  | sendB (data : Bytes) (now : ℚ)
  | tickA (now : ℚ)
  | tickB (now : ℚ)
  | deliverA (pkt : Packet) (now : ℚ)
  | deliverB (pkt : Packet) (now : ℚ)

namespace ArqNetwork

/-- The number of chunks that `data` is split into by `a`. -/
def chunkCount (net : ArqNetwork) (data : Bytes) : ℕ :=
  (chunks net.a.maxPayload.toNat data).length

/-- Time does not go back, packets come from the other side, and fewer than `2 ^ 31` chunks are
sent. -/
def enabled (net : ArqNetwork) : ArqAction → Prop
  | .sendA data now => net.clock ≤ now ∧ net.chunksSent + net.chunkCount data < 2 ^ 31
  | .sendB _ now => net.clock ≤ now
  | .tickA now => net.clock ≤ now
  | .tickB now => net.clock ≤ now
  | .deliverA pkt now => net.clock ≤ now ∧ pkt ∈ net.emittedB
  | .deliverB pkt now => net.clock ≤ now ∧ pkt ∈ net.emittedA

/-- One step: the endpoint's operation, and what it emits goes into the network. -/
def next (net : ArqNetwork) : ArqAction → ArqNetwork
  | .sendA data now =>
      let (out, a) := net.a.send data now
      { net with a, clock := now, emittedA := net.emittedA ++ out.packets,
                 sent := net.sent ++ [data],
                 chunksSent := net.chunksSent + net.chunkCount data }
  | .sendB data now =>
      let (out, b) := net.b.send data now
      { net with b, clock := now, emittedB := net.emittedB ++ out.packets }
  | .tickA now =>
      let (out, a) := net.a.onTick now
      { net with a, clock := now, emittedA := net.emittedA ++ out.packets }
  | .tickB now =>
      let (out, b) := net.b.onTick now
      { net with b, clock := now, emittedB := net.emittedB ++ out.packets }
  | .deliverA pkt now =>
      let (res, a) := net.a.onPacket pkt now
      { net with a, clock := now, emittedA := net.emittedA ++ (observed res).packets }
  | .deliverB pkt now =>
      let (res, b) := net.b.onPacket pkt now
      { net with b, clock := now, emittedB := net.emittedB ++ (observed res).packets,
                 delivered := net.delivered ++ (observed res).delivered }

instance (net : ArqNetwork) : (act : ArqAction) → Decidable (net.enabled act)
  | .sendA _ _ => inferInstanceAs (Decidable (_ ∧ _))
  | .sendB _ _ => inferInstanceAs (Decidable (_ ≤ _))
  | .tickA _ => inferInstanceAs (Decidable (_ ≤ _))
  | .tickB _ => inferInstanceAs (Decidable (_ ≤ _))
  | .deliverA _ _ => inferInstanceAs (Decidable (_ ∧ _))
  | .deliverB _ _ => inferInstanceAs (Decidable (_ ∧ _))

/-- The network as a transition system. -/
def system : Transition ArqNetwork ArqAction := ⟨enabled, next⟩

instance (net : ArqNetwork) (act : ArqAction) : Decidable (system.enabled net act) :=
  inferInstanceAs (Decidable (net.enabled act))

/-- Nothing sent yet. -/
def start (a b : ArqEndpoint) (clock : ℚ) : ArqNetwork := { a, b, clock }

end ArqNetwork

/-- Two fresh endpoints of one session that belong together: `b` expects the number `a` starts
with.  Their windows, payload limits and timers are each side's own. -/
structure Matching (isn : ℤ) (a b : ArqEndpoint) : Prop where
  isn_nonneg : 0 ≤ isn
  isn_lt : isn < SEQ_MOD
  createdA : ∃ sessionId windowSize rto maxPayload recvIsn streamId maxRetx,
    create sessionId isn windowSize rto maxPayload recvIsn streamId maxRetx = .ok a
  createdB : ∃ sessionId sendIsn windowSize rto maxPayload streamId maxRetx,
    create sessionId sendIsn windowSize rto maxPayload isn streamId maxRetx = .ok b
  sessionId : a.sessionId = b.sessionId

/-- A matching pair that is set up alike at both ends: equal windows and equal payload limits.  No
result below assumes this much; `overtaking` has it, so that what goes wrong there cannot be put
down to two ends that disagree. -/
structure Paired (isn : ℤ) (a b : ArqEndpoint) : Prop extends Matching isn a b where
  windowSize : a.windowSize = b.windowSize
  maxPayload : a.maxPayload = b.maxPayload

/-! ## The pair carries a transfer

One lemma for each kind of step.  They all end in `CarriesOn`, which says what has become of the
transfer and, if nothing was sent past the queue, of the order.
-/

/-- The pair's state is that of the transfer `t`. -/
structure Carrying (isn : ℤ) (net : ArqNetwork) (t : Transfer) : Prop where
  sender : Sender isn t.log t.acked net.a
  receiver : Receiver isn t.log t.received net.b
  stamped : Stamped net.b
  fromA : ∀ pkt ∈ net.emittedA, DataFrom isn t.log pkt
  fromB : ∀ pkt ∈ net.emittedB, AckUpTo isn t.received pkt
  delivered : net.delivered = t.delivered
  chunkCount : t.log.length + net.a.pending.length = net.chunksSent
  bounded : net.chunksSent < 2 ^ 31
  bytes : t.log.flatten.length + net.a.pending.flatten.length = net.sent.flatten.length

/-- The log followed by the queue is what was sent, in this order. -/
def InOrder (net : ArqNetwork) (t : Transfer) : Prop :=
  (t.log ++ net.a.pending).flatten = net.sent.flatten

/-- Nothing is sent past a queue: when something is sent, the queue is empty or the window has no
room. -/
def NotPastQueue (net : ArqNetwork) : ArqAction → Prop
  | .sendA data _ => data ≠ [] → net.a.pending = [] ∨ ¬ net.a.canSend
  | _ => True

instance (net : ArqNetwork) : (act : ArqAction) → Decidable (NotPastQueue net act)
  | .sendA _ _ => inferInstanceAs (Decidable (_ → _))
  | .sendB _ _ | .tickA _ | .tickB _ | .deliverA _ _ | .deliverB _ _ => isTrue trivial

namespace Carrying

variable {isn : ℤ} {net : ArqNetwork} {t : Transfer}

/-- A fresh endpoint, and one that expects the number it starts with. -/
lemma begin {a b : ArqEndpoint} (h₀ : 0 ≤ isn) (h₁ : isn < SEQ_MOD)
    {sessionId windowSize maxPayload recvIsn streamId maxRetx : ℤ} {rto : RtoEstimator}
    (ha : ArqEndpoint.create sessionId isn windowSize rto maxPayload recvIsn streamId maxRetx = .ok a)
    (hb : Receiver isn [] 0 b) (hstamped : Stamped b) (clock : ℚ) :
    Carrying isn (ArqNetwork.start a b clock) Transfer.empty := by
  have hsender := Sender.create h₀ h₁ ha
  have hqueue : a.pending = [] := by
    obtain ⟨-, -, -, rfl⟩ := create_eq_ok_iff.mp ha
    rfl
  refine ⟨hsender, hb, hstamped, fun pkt hp => absurd hp List.not_mem_nil,
    fun pkt hp => absurd hp List.not_mem_nil, rfl, ?_, ?_, ?_⟩
  · show 0 + a.pending.length = 0
    rw [hqueue]
    rfl
  · show 0 < 2 ^ 31
    decide
  · show 0 + a.pending.flatten.length = 0
    rw [hqueue]
    rfl

/-- Two fresh endpoints, of which one expects the number the other starts with. -/
lemma create {a b : ArqEndpoint} (h₀ : 0 ≤ isn) (h₁ : isn < SEQ_MOD)
    {sessionId windowSize maxPayload recvIsn streamId maxRetx : ℤ} {rto : RtoEstimator}
    (ha : ArqEndpoint.create sessionId isn windowSize rto maxPayload recvIsn streamId maxRetx = .ok a)
    {sessionId' sendIsn' windowSize' maxPayload' streamId' maxRetx' : ℤ} {rto' : RtoEstimator}
    (hb : ArqEndpoint.create sessionId' sendIsn' windowSize' rto' maxPayload' isn streamId' maxRetx'
      = .ok b) (clock : ℚ) : Carrying isn (ArqNetwork.start a b clock) Transfer.empty :=
  begin h₀ h₁ ha (Receiver.create h₀ h₁ hb) (Stamped.create hb) clock

/-- Two fresh endpoints carry the empty transfer. -/
lemma start {a b : ArqEndpoint} (h : Matching isn a b) (clock : ℚ) :
    Carrying isn (ArqNetwork.start a b clock) Transfer.empty := by
  obtain ⟨_, _, _, _, _, _, _, ha⟩ := h.createdA
  obtain ⟨_, _, _, _, _, _, _, hb⟩ := h.createdB
  exact create h.isn_nonneg h.isn_lt ha hb clock

/-- A step of `a`: a front part `new` of what it had to send has entered the log. -/
lemma advanceA (h : Carrying isn net t) {a : ArqEndpoint} {new pending : List Bytes}
    {acked : ℕ} {packets : List Packet} (data : List Bytes) (count : ℕ) (clock : ℚ)
    (hacked : acked ≤ t.received) (hsender : Sender isn (t.log ++ new) acked a)
    (hpending : a.pending = pending) (hout : ∀ pkt ∈ packets, DataFrom isn (t.log ++ new) pkt)
    (hcount : new.length + pending.length = net.a.pending.length + count)
    (hbound : net.chunksSent + count < 2 ^ 31)
    (hbytes : new.flatten.length + pending.flatten.length
      = net.a.pending.flatten.length + data.flatten.length) :
    Carrying isn { net with a, clock, emittedA := net.emittedA ++ packets,
                            sent := net.sent ++ data, chunksSent := net.chunksSent + count }
      (t.emit new acked hacked) := by
  have hchunks := h.chunkCount
  have hsent := h.bytes
  refine ⟨hsender, h.receiver.append new, h.stamped, ?_, h.fromB, ?_, ?_, hbound, ?_⟩
  · intro pkt hp
    rcases List.mem_append.mp hp with hold | hnew
    · exact (h.fromA pkt hold).append new
    · exact hout pkt hnew
  · show net.delivered = (t.log ++ new).take t.received
    rw [h.delivered, List.take_append_of_le_length t.received_le]
    rfl
  · show (t.log ++ new).length + a.pending.length = net.chunksSent + count
    rw [List.length_append, hpending]
    omega
  · show (t.log ++ new).flatten.length + a.pending.flatten.length
      = (net.sent ++ data).flatten.length
    rw [List.flatten_append, List.length_append, hpending, List.flatten_append,
      List.length_append]
    omega

/-- A step of `b` that moves its receiver on to `received`. -/
lemma advanceB (h : Carrying isn net t) {b : ArqEndpoint} {received : ℕ}
    {packets : List Packet} (new : List Bytes) (clock : ℚ) (hle : t.received ≤ received)
    (hreceiver : Receiver isn t.log received b) (hstamped : Stamped b)
    (htake : t.log.take received = t.log.take t.received ++ new)
    (hout : ∀ pkt ∈ packets, AckUpTo isn received pkt) :
    Carrying isn { net with b, clock, emittedB := net.emittedB ++ packets,
                            delivered := net.delivered ++ new }
      (t.receive received hle hreceiver.received_le) := by
  refine ⟨h.sender, hreceiver, hstamped, h.fromA, ?_, ?_, h.chunkCount, h.bounded, h.bytes⟩
  · intro pkt hp
    rcases List.mem_append.mp hp with hold | hnew
    · exact (h.fromB pkt hold).mono hle
    · exact hout pkt hnew
  · show net.delivered ++ new = t.log.take received
    rw [htake, h.delivered]
    rfl

/-- What one `sendA` queues and emits, in order, when nothing is sent past the queue. -/
lemma take_append_drop_of_notPastQueue {pending cs : List Bytes} {m : ℕ}
    (h : cs = [] ∨ pending = [] ∨ m = 0) :
    cs.take m ++ (pending ++ cs.drop m) = pending ++ cs := by
  rcases h with rfl | rfl | rfl
  · rw [List.take_nil, List.drop_nil, List.nil_append]
  · rw [List.nil_append, List.take_append_drop, List.nil_append]
  · rw [List.take_zero, List.drop_zero, List.nil_append]

/-- Chunks of which a front part goes out and the rest is queued: none is lost. -/
lemma length_take_append_drop (pending cs : List Bytes) (m : ℕ) :
    (cs.take m).length + (pending ++ cs.drop m).length = pending.length + cs.length := by
  have hsplit := congrArg List.length (List.take_append_drop m cs)
  rw [List.length_append] at hsplit ⊢
  omega

/-- The same, counted in bytes. -/
lemma flatten_length_take_append_drop (pending cs : List Bytes) (m : ℕ) :
    (cs.take m).flatten.length + (pending ++ cs.drop m).flatten.length
      = pending.flatten.length + cs.flatten.length := by
  have hsplit := congrArg (fun l => l.flatten.length) (List.take_append_drop m cs)
  rw [List.flatten_append, List.length_append] at hsplit
  rw [List.flatten_append, List.length_append]
  omega

/-- What every step does to a carried transfer: it carries it on, and it keeps what was sent in
order unless something is sent past the queue. -/
def CarriesOn (isn : ℤ) (net : ArqNetwork) (t : Transfer) (act : ArqAction) : Prop :=
  ∃ t', t.Grows t' ∧ Carrying isn (net.next act) t' ∧
    (NotPastQueue net act → InOrder net t → InOrder (net.next act) t')

/-- A step of `b` in which nothing arrives and all that goes out acknowledges what has. -/
lemma carriesOn_of_receiver (h : Carrying isn net t) {act : ArqAction} {b : ArqEndpoint}
    {packets : List Packet} {clock : ℚ}
    (hnext : net.next act = { net with b, clock, emittedB := net.emittedB ++ packets })
    (hreceiver : Receiver isn t.log t.received b) (hstamped : Stamped b)
    (hout : ∀ pkt ∈ packets, AckUpTo isn t.received pkt) : CarriesOn isn net t act := by
  have hstep := h.advanceB [] clock le_rfl hreceiver hstamped (List.append_nil _).symm hout
  rw [List.append_nil, ← hnext] at hstep
  refine ⟨_, Transfer.Grows.refl t, hstep, ?_⟩
  intro _ horder
  rw [hnext]
  exact horder

/-- `a` sends: the front of `data`, as far as the window has room, enters the log. -/
lemma sendA (h : Carrying isn net t) {data : Bytes} {now : ℚ}
    (he : net.enabled (.sendA data now)) : CarriesOn isn net t (.sendA data now) := by
  obtain ⟨-, hbound⟩ := he
  have hchunks := h.chunkCount
  have hflat : (chunks net.a.maxPayload.toNat data).flatten = data :=
    chunks_flatten net.a.maxPayload_toNat_pos data
  obtain ⟨m, hsender, hpending, hfull, hout⟩ := h.sender.send data now (by
    rw [ArqNetwork.chunkCount] at hbound
    omega)
  set cs := chunks net.a.maxPayload.toNat data with hcs
  have hbytes := flatten_length_take_append_drop net.a.pending cs m
  rw [hflat, ← List.flatten_singleton (l := data)] at hbytes
  refine ⟨t.emit (cs.take m) t.acked t.acked_le, t.grows_emit _ _ le_rfl,
    h.advanceA [data] cs.length now t.acked_le hsender hpending hout
      (length_take_append_drop net.a.pending cs m) hbound hbytes, ?_⟩
  intro hpast horder
  have hcases : cs = [] ∨ net.a.pending = [] ∨ m = 0 := by
    by_cases hdata : data = []
    · left
      rw [hcs, hdata, chunks_nil net.a.maxPayload_toNat_pos]
    · rcases hpast hdata with hempty | hroom
      · exact Or.inr (Or.inl hempty)
      · exact Or.inr (Or.inr (hfull hroom))
  show (t.log ++ cs.take m ++ (net.a.send data now).2.pending).flatten
    = (net.sent ++ [data]).flatten
  rw [hpending, List.append_assoc, take_append_drop_of_notPastQueue hcases,
    ← List.append_assoc, List.flatten_append, horder, hflat, List.flatten_append,
    List.flatten_singleton]

/-- `b` sends: its packets acknowledge what it has received. -/
lemma sendB (h : Carrying isn net t) (data : Bytes) (now : ℚ) :
    CarriesOn isn net t (.sendB data now) := by
  have hreceiver := h.receiver.send data now
  obtain ⟨hstamped, -, hown⟩ := h.stamped.send data now
  exact h.carriesOn_of_receiver rfl hreceiver hstamped
    (fun pkt hp => hreceiver.ackUpTo (hown pkt hp))

/-- The timer of `a` runs: only what is in the log is sent again. -/
lemma tickA (h : Carrying isn net t) (now : ℚ) : CarriesOn isn net t (.tickA now) := by
  obtain ⟨hsender, hpending, hout⟩ := h.sender.onTick now
  rw [← List.append_nil t.log] at hsender hout
  have hstep := h.advanceA [] 0 now t.acked_le hsender hpending hout (Nat.zero_add _)
    h.bounded (Nat.zero_add _)
  rw [List.append_nil] at hstep
  refine ⟨_, t.grows_emit [] t.acked_le le_rfl, hstep, ?_⟩
  intro _ horder
  show (t.log ++ [] ++ (net.a.onTick now).2.pending).flatten = net.sent.flatten
  rw [hpending, List.append_nil]
  exact horder

/-- The timer of `b` runs. -/
lemma tickB (h : Carrying isn net t) (now : ℚ) : CarriesOn isn net t (.tickB now) := by
  have hreceiver := h.receiver.onTick now
  obtain ⟨hstamped, -, hown⟩ := h.stamped.onTick now
  exact h.carriesOn_of_receiver rfl hreceiver hstamped
    (fun pkt hp => hreceiver.ackUpTo (hown pkt hp))

/-- A packet of `b` reaches `a`: more may be known to have arrived, and the queue moves up. -/
lemma deliverA (h : Carrying isn net t) {pkt : Packet} {now : ℚ}
    (he : net.enabled (.deliverA pkt now)) : CarriesOn isn net t (.deliverA pkt now) := by
  obtain ⟨-, hmem⟩ := he
  have hchunks := h.chunkCount
  have hbound := h.bounded
  obtain ⟨m, acked, hle, hle', hsender, hpending, hout⟩ :=
    h.sender.onPacket (h.fromB pkt hmem) t.received_le now (by omega)
  have hacked : acked ≤ t.received := hle'.trans (max_le t.acked_le le_rfl)
  have hlen := length_take_append_drop [] net.a.pending m
  have hbytes := flatten_length_take_append_drop [] net.a.pending m
  rw [Nat.add_comm ([] : List Bytes).length] at hlen
  rw [Nat.add_comm ([] : List Bytes).flatten.length] at hbytes
  have hstep := h.advanceA [] 0 now hacked hsender hpending hout hlen h.bounded hbytes
  rw [List.append_nil] at hstep
  refine ⟨_, t.grows_emit _ hacked hle, hstep, ?_⟩
  intro _ horder
  show (t.log ++ net.a.pending.take m ++ (net.a.onPacket pkt now).2.pending).flatten
    = net.sent.flatten
  rw [hpending, List.append_assoc, List.take_append_drop]
  exact horder

/-- A packet of `a` reaches `b`: a run of the log may be delivered. -/
lemma deliverB (h : Carrying isn net t) {pkt : Packet} {now : ℚ}
    (he : net.enabled (.deliverB pkt now)) : CarriesOn isn net t (.deliverB pkt now) := by
  obtain ⟨-, hmem⟩ := he
  obtain ⟨received, hle, hreceiver, htake, hout⟩ :=
    h.receiver.onPacket h.stamped h.sender.bounded (h.fromA pkt hmem) now
  obtain ⟨hstamped, -, -⟩ := h.stamped.onPacket pkt now
  exact ⟨_, t.grows_receive hle hreceiver.received_le,
    h.advanceB _ now hle hreceiver hstamped htake hout, fun _ horder => horder⟩

/-- **Every step carries the transfer on**, and keeps what was sent in order unless something is
sent past the queue. -/
theorem step (h : Carrying isn net t) {act : ArqAction} (he : net.enabled act) :
    CarriesOn isn net t act := by
  cases act with
  | sendA data now => exact h.sendA he
  | sendB data now => exact h.sendB data now
  | tickA now => exact h.tickA now
  | tickB now => exact h.tickB now
  | deliverA pkt now => exact h.deliverA he
  | deliverB pkt now => exact h.deliverB he

/-- **Every reachable state carries a transfer.** -/
theorem of_reach {a b : ArqEndpoint} (hp : Matching isn a b) {clock : ℚ}
    (h : ArqNetwork.system.Reach Transition.free (ArqNetwork.start a b clock) net) :
    ∃ t, Carrying isn net t := by
  refine h.invariant (I := fun net => ∃ t, Carrying isn net t) ⟨_, Carrying.start hp clock⟩ ?_
  rintro s act ⟨t, ht⟩ he -
  obtain ⟨t', -, ht', -⟩ := ht.step he
  exact ⟨t', ht'⟩

end Carrying

/-! ## What a carried transfer means

The three quantities that callers can observe, in terms of the transfer.
-/

namespace Carrying

variable {isn : ℤ} {net : ArqNetwork} {t : Transfer}

/-- What has been acknowledged has been delivered. -/
lemma ackedBytes_le (h : Carrying isn net t) :
    net.a.ackedBytes ≤ net.delivered.flatten.length := by
  obtain ⟨rest, hrest⟩ := t.acked_prefix
  rw [h.sender.ackedBytes, h.delivered, ← hrest, List.flatten_append, List.length_append]
  exact Nat.le_add_right _ _

/-- What has been delivered is what was sent first. -/
lemma delivered_prefix_sent (h : Carrying isn net t) (horder : InOrder net t) :
    net.delivered.flatten <+: net.sent.flatten := by
  rw [h.delivered, ← horder, List.flatten_append]
  exact (t.delivered_prefix_log.flatten).trans (List.prefix_append _ _)

/-- Nothing has been sent. -/
lemma inOrder_start {a b : ArqEndpoint} {clock : ℚ}
    (h : Carrying isn (ArqNetwork.start a b clock) Transfer.empty) :
    InOrder (ArqNetwork.start a b clock) Transfer.empty := by
  have hbytes := h.bytes
  exact List.eq_nil_of_length_eq_zero (by
    rw [List.flatten_append, List.length_append]
    exact hbytes)

end Carrying

/-! ## A pair across the wrap

Two endpoints whose numbering starts two short of the wrap, and the packets they exchange in the
runs below. -/

/-- The sequence number the pair starts with. -/
def pairIsn : ℤ := 2 ^ 32 - 2

/-- It sends from that number on, with a window of three. -/
def pairA : ArqEndpoint where
  sessionId := 7
  streamId := 1
  windowSize := 3
  maxPayload := 1
  maxRetx := 8
  rto := {}
  nextSeq := pairIsn
  rcvBase := 0
  windowSize_pos := by decide
  maxPayload_pos := by decide
  maxRetx_nonneg := by decide

/-- It expects that number. -/
def pairB : ArqEndpoint := { pairA with nextSeq := 0, rcvBase := pairIsn }

/-- The two endpoints are a pair that is set up alike at both ends. -/
theorem paired : Paired pairIsn pairA pairB where
  isn_nonneg := by decide
  isn_lt := by decide
  createdA := ⟨7, 3, {}, 1, 0, 1, 8, rfl⟩
  createdB := ⟨7, 0, 3, {}, 1, 1, 8, rfl⟩
  sessionId := rfl
  windowSize := rfl
  maxPayload := rfl

/-- A DATA packet of `pairA`. -/
def pairData (i : ℕ) (payload : Bytes) : Packet where
  type := .Data
  sessionId := 7
  streamId := 1
  seq := seqOf pairIsn i
  ack := 0
  window := 3
  payload := payload

/-- An ACK of `pairB`. -/
def pairAck (k : ℕ) (window : ℤ) : Packet where
  type := .Ack
  sessionId := 7
  streamId := 1
  seq := 0
  ack := seqOf pairIsn k
  window := window

/-- A NACK of `pairB`. -/
def pairNack (i : ℕ) (window : ℤ) : Packet :=
  { pairAck i window with type := .Nack, flags := Flags.nack }

/-- A receiver for `pairA` that is set up otherwise: a wider window and longer payloads. -/
def wideB : ArqEndpoint where
  sessionId := 7
  streamId := 1
  windowSize := 5
  maxPayload := 3
  maxRetx := 8
  rto := {}
  nextSeq := 0
  rcvBase := pairIsn
  windowSize_pos := by decide
  maxPayload_pos := by decide
  maxRetx_nonneg := by decide

/-- The two ends need not agree on their windows or payload limits to belong together. -/
theorem matching_wide : Matching pairIsn pairA wideB where
  isn_nonneg := by decide
  isn_lt := by decide
  createdA := ⟨7, 3, {}, 1, 0, 1, 8, rfl⟩
  createdB := ⟨7, 0, 5, {}, 3, 1, 8, rfl⟩
  sessionId := rfl

/-- Three chunks, the last two of which change places, and their acknowledgement. -/
def reorderedRun : List ArqAction :=
  [.sendA [10, 11, 12] 0, .deliverB (pairData 2 [12]) 0, .deliverB (pairData 1 [11]) 0,
    .deliverB (pairData 0 [10]) 0, .deliverA (pairAck 3 3) 1]

/-- The same exchange with `wideB`, whose ACK announces its own window. -/
def reorderedWideRun : List ArqAction :=
  [.sendA [10, 11, 12] 0, .deliverB (pairData 2 [12]) 0, .deliverB (pairData 1 [11]) 0,
    .deliverB (pairData 0 [10]) 0, .deliverA (pairAck 3 5) 1]

/-! ## Nothing is forgotten

The first part is about numbers, and the second about bytes; the third compares the two ends.
-/

/-- **Nothing is ever forgotten, and an acknowledgement never lies.**  In every reachable state:
each number `a` has put on the wire is still outstanding, or its payload has been delivered; the
bytes sent are those acknowledged, those in flight and those queued; and the bytes acknowledged are
at most the bytes delivered. -/
theorem nothing_forgotten {isn : ℤ} {a b : ArqEndpoint} (hp : Matching isn a b) {clock : ℚ}
    {net : ArqNetwork}
    (h : ArqNetwork.system.Reach Transition.free (ArqNetwork.start a b clock) net) :
    (∀ pkt ∈ net.emittedA, pkt.type = .Data →
      pkt.seq ∈ net.a.outstanding.keys ∨
      ∃ i, pkt.seq = seqOf isn i ∧ net.delivered[i]? = some pkt.payload) ∧
    net.sent.flatten.length
      = net.a.ackedBytes + net.a.bytesInFlight + net.a.pending.flatten.length ∧
    net.a.ackedBytes ≤ net.delivered.flatten.length := by
  obtain ⟨t, ht⟩ := Carrying.of_reach hp h
  refine ⟨?_, ?_, ?_⟩
  · intro pkt hmem htype
    obtain ⟨i, hi, hseq⟩ := ht.fromA pkt hmem htype
    have hlt : i < t.log.length := (List.getElem?_eq_some_iff.mp hi).1
    rcases Nat.lt_or_ge i t.acked with hacked | houtstanding
    · right
      have hreceived : i < t.received := lt_of_lt_of_le hacked t.acked_le
      refine ⟨i, hseq, ?_⟩
      rw [ht.delivered, Transfer.delivered, List.getElem?_take_of_lt hreceived, hi]
    · left
      rw [hseq]
      exact ht.sender.mem_keys houtstanding hlt
  · have hlog := congrArg (fun l => l.flatten.length) (List.take_append_drop t.acked t.log)
    rw [List.flatten_append, List.length_append] at hlog
    have hbytes := ht.bytes
    rw [ht.sender.ackedBytes, ht.sender.bytesInFlight]
    omega
  · exact ht.ackedBytes_le

/-- Two ends with different windows and payload limits, and three chunks that arrive in the
reverse order. -/
theorem nothing_forgotten_reorderedWideRun : pairA.windowSize ≠ wideB.windowSize ∧
    pairA.maxPayload ≠ wideB.maxPayload ∧ ∃ net : ArqNetwork,
    net.delivered = [[10], [11], [12]] ∧ net.a.ackedBytes = 3 ∧
    (∀ pkt ∈ net.emittedA, pkt.type = .Data →
      pkt.seq ∈ net.a.outstanding.keys ∨
      ∃ i, pkt.seq = seqOf pairIsn i ∧ net.delivered[i]? = some pkt.payload) ∧
    net.sent.flatten.length
      = net.a.ackedBytes + net.a.bytesInFlight + net.a.pending.flatten.length ∧
    net.a.ackedBytes ≤ net.delivered.flatten.length := by
  obtain ⟨net, hreach, hdelivered, hacked⟩ := ArqNetwork.system.exists_reach_of_exec
    Transition.free reorderedWideRun (ArqNetwork.start pairA wideB 0)
    (fun net => net.delivered = [[10], [11], [12]] ∧ net.a.ackedBytes = 3)
    (by decide +kernel)
  exact ⟨by decide, by decide, net, hdelivered, hacked, nothing_forgotten matching_wide hreach⟩

/-! ## Delivery in order

With the order kept, the log is the front of what was sent, and what has been received the front of
the log.
-/

/-- **In-order exactly-once delivery**, along every run in which nothing is sent past a queue. -/
theorem delivered_prefix {isn : ℤ} {a b : ArqEndpoint} (hp : Matching isn a b) {clock : ℚ}
    {net : ArqNetwork}
    (h : ArqNetwork.system.Reach NotPastQueue (ArqNetwork.start a b clock) net) :
    net.delivered.flatten <+: net.sent.flatten := by
  obtain ⟨t, ht, horder⟩ : ∃ t, Carrying isn net t ∧ InOrder net t := by
    refine h.invariant (I := fun net => ∃ t, Carrying isn net t ∧ InOrder net t)
      ⟨_, Carrying.start hp clock, (Carrying.start hp clock).inOrder_start⟩ ?_
    rintro s act ⟨t, ht, horder⟩ he hok
    obtain ⟨t', -, ht', horder'⟩ := ht.step he
    exact ⟨t', ht', horder' hok horder⟩
  exact ht.delivered_prefix_sent horder

/-- Three chunks that arrive in the reverse order are delivered in theirs. -/
theorem delivered_prefix_reorderedRun : ∃ net : ArqNetwork,
    net.delivered = [[10], [11], [12]] ∧ net.delivered.flatten <+: net.sent.flatten := by
  obtain ⟨net, hreach, hdelivered⟩ := ArqNetwork.system.exists_reach_of_exec
    NotPastQueue reorderedRun (ArqNetwork.start pairA pairB 0)
    (fun net => net.delivered = [[10], [11], [12]]) (by decide +kernel)
  exact ⟨net, hdelivered, delivered_prefix paired.toMatching hreach⟩

/-- A run in which something is sent past a queue.  The last three chunks are sent one by one: a
stale ACK has closed the window, so that `14` is queued; a stale NACK opens it again, which flushes
nothing; and `15` takes the number that was meant for `14`. -/
def overtakingRun : List ArqAction :=
  reorderedRun ++
  [.deliverA (pairAck 0 1) 1, .sendA [13] 1, .sendA [14] 1, .deliverA (pairNack 0 2) 1,
    .sendA [15] 1, .deliverB (pairData 3 [13]) 1, .deliverB (pairData 4 [15]) 1]

/-- **Without the condition delivery is not in order.** -/
theorem overtaking : Paired pairIsn pairA pairB ∧ ∃ net : ArqNetwork,
    ArqNetwork.system.Reach Transition.free (ArqNetwork.start pairA pairB 0) net ∧
    net.sent.flatten = [10, 11, 12, 13, 14, 15] ∧
    net.delivered.flatten = [10, 11, 12, 13, 15] ∧
    ¬ net.delivered.flatten <+: net.sent.flatten := by
  obtain ⟨net, hreach, hsent, hdelivered⟩ := ArqNetwork.system.exists_reach_of_exec
    Transition.free overtakingRun (ArqNetwork.start pairA pairB 0)
    (fun net => net.sent.flatten = [10, 11, 12, 13, 14, 15] ∧
      net.delivered.flatten = [10, 11, 12, 13, 15])
    (by decide +kernel)
  refine ⟨paired, net, hreach, hsent, hdelivered, ?_⟩
  rw [hsent, hdelivered]
  decide

end PhotonTCP
