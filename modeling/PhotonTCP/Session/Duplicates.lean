import Mathlib.Data.List.Count
import PhotonTCP.Foundation.Transition
import PhotonTCP.Session.ControlLink

/-!
# The handshake when packets are duplicated

The network loses, duplicates, delays and reorders control packets: whatever a side has ever
transmitted may arrive at the other at any time, any number of times.

* `HandshakeMove` — what one input can do to the handshake.
* `Peer`, `ControlNetwork` — both machines, everything they have transmitted and surfaced.
* `Consistent` — the invariant: the responder has connected only if the initiator has, and in its
  session.
* `NoLateSyn` — what a network has to promise: a SYN does not outlive the connection it opened.
* **`no_ghost_connection`** — the responder reports no connection that the initiator did not open;
  and where no SYN is late, it reports at most as many as the initiator.
* **`ghost_connection`** — a late SYN and the old ACK after it complete a second handshake.

Here the network is as hostile as that of the data plane, while numbers protect nothing: the
machines compare neither the sequence number of a SYN nor the acknowledgement number of the packet
that completes a handshake.  The session id is all there is.  So the invariant is about who has
transmitted what: an ACK in the initiator's session exists only once the initiator has been
connected, and a responder that is connected has adopted that session from a SYN of this initiator.

That far there is no condition.  Two packets of the first connection suffice for a second one, a SYN
that arrives late and an ACK after it, since nothing tells them from new ones; and then the
responder reports a connection of which the initiator knows nothing.  It can happen only to a
responder that is in `CLOSED` again when the SYN arrives.  `NoLateSyn` excludes this, in terms of
the network and the state before the step, and that the responder has only one handshake in its life
then is derived (`OneHandshake`).
-/

namespace PhotonTCP

/-! ## One machine

Of all transitions only a few matter for the handshake.  One lemma for each kind of input shows
which.
-/

namespace SessionStateMachine

/-- What awaits a reply is a packet of this session, and no ACK. -/
def OwnPending (m : SessionStateMachine) : Prop :=
  ∀ pkt ∈ m.pendingCtrl, pkt.sessionId = m.sessionId ∧ pkt.type ≠ .Ack

/-- What one input can do to the handshake. -/
inductive HandshakeMove (m m' : SessionStateMachine) (out : Output) : MachineInput → Prop where
  | calls {now : ℚ} (state : m.state = .Closed) (state' : m'.state = .SynSent)
      (sessionId : m'.sessionId = m.sessionId)
      (own : ∀ pkt ∈ out.packets, pkt.sessionId = m.sessionId ∧ pkt.type ≠ .Ack)
      (sent : out.packets ≠ []) (events : out.events = []) :
      HandshakeMove m m' out (.connect now)
  | accepts {pkt : Packet} {now : ℚ} (initial : m.responderInitial pkt) (state' : m'.state = .SynRcvd)
      (sessionId : m'.sessionId = pkt.sessionId) (events : out.events = []) :
      HandshakeMove m m' out (.packet pkt now)
  | connects {pkt : Packet} {now : ℚ} (state : m.state = .SynSent) (state' : m'.state = .Established)
      (sessionId : m'.sessionId = m.sessionId) (own : ∀ q ∈ out.packets, q.sessionId = m.sessionId)
      (events : out.events = [.Established]) : HandshakeMove m m' out (.packet pkt now)
  | completes {pkt : Packet} {now : ℚ} (state : m.state = .SynRcvd) (type : pkt.type = .Ack)
      (id : pkt.sessionId = m.sessionId) (state' : m'.state = .Established)
      (sessionId : m'.sessionId = m.sessionId) (packets : out.packets = [])
      (events : out.events = [.Established]) : HandshakeMove m m' out (.packet pkt now)
  | other {i : MachineInput} (state : m'.state = m.state ∨ m'.state = .Closed ∨
        m.state = .Established ∧ (m'.state = .FinWait ∨ m'.state = .CloseWait))
      (sessionId : m'.sessionId = m.sessionId)
      (own : ∀ pkt ∈ out.packets, pkt.sessionId = m.sessionId ∧
        (pkt.type = .Ack → m.state = .Established))
      (events : .Established ∉ out.events) : HandshakeMove m m' out i

variable {m : SessionStateMachine}

namespace HandshakeMove

/-- Nothing is transmitted or surfaced. -/
lemma silent {m' : SessionStateMachine} {i : MachineInput} (hstate : m'.state = m.state)
    (hsession : m'.sessionId = m.sessionId) : HandshakeMove m m' {} i :=
  .other (Or.inl hstate) hsession (by simp) (by simp)

lemma connect (h : m.OwnPending) (now : ℚ) :
    HandshakeMove m (m.connect now).2 (m.connect now).1 (.connect now) ∧
      (m.connect now).2.OwnPending := by
  rw [SessionStateMachine.connect]
  split_ifs with hnot
  · exact ⟨.silent rfl rfl, h⟩
  · simp only [not_or, not_not] at hnot
    refine ⟨.calls hnot.2 rfl rfl (by simp [synPacket, make]) (by simp) rfl, ?_⟩
    simp [OwnPending, armPending, synPacket, make]

lemma close (h : m.OwnPending) (now : ℚ) :
    HandshakeMove m (m.close now).2 (m.close now).1 (.close now) ∧ (m.close now).2.OwnPending := by
  rw [SessionStateMachine.close]
  split_ifs with hnot
  · exact ⟨.silent rfl rfl, h⟩
  · refine ⟨.other (Or.inr (Or.inr ⟨not_not.mp hnot, Or.inl rfl⟩)) rfl (by simp [finPacket, make])
      (by simp), ?_⟩
    simp [OwnPending, armPending, finPacket, make]

lemma noteDataActivity (h : m.OwnPending) (now : ℚ) :
    HandshakeMove m (m.noteDataActivity now) {} (.noteDataActivity now) ∧
      (m.noteDataActivity now).OwnPending := by
  rw [SessionStateMachine.noteDataActivity]
  split_ifs
  · exact ⟨.silent rfl rfl, h⟩
  · exact ⟨.silent rfl rfl, h⟩

lemma heartbeat (h : m.OwnPending) (now : ℚ) {i : MachineInput} :
    HandshakeMove m (m.heartbeat now).2 (m.heartbeat now).1 i ∧ (m.heartbeat now).2.OwnPending := by
  rw [SessionStateMachine.heartbeat]
  split_ifs
  · exact ⟨.other (Or.inl rfl) rfl (by simp [make]) (by simp), h⟩
  · exact ⟨.silent rfl rfl, h⟩

lemma onTick (h : m.OwnPending) (now : ℚ) :
    HandshakeMove m (m.onTick now).2 (m.onTick now).1 (.tick now) ∧ (m.onTick now).2.OwnPending := by
  rw [SessionStateMachine.onTick]
  by_cases hidle : m.state ≠ .Closed ∧ m.idleExpired now
  · rw [if_pos hidle]
    refine ⟨.other (Or.inr (Or.inl rfl)) rfl (by simp [idleOut]) ?_, by
      simp [OwnPending, idleOut, clearPending]⟩
    simp only [idleOut]
    split_ifs <;> simp
  · rw [if_neg hidle]
    cases hp : m.pendingCtrl with
    | none => exact heartbeat h now
    | some pkt =>
        obtain ⟨hid, htype⟩ := h pkt hp
        dsimp only
        split_ifs
        · refine ⟨.other (Or.inr (Or.inl rfl)) rfl (by simp [giveUp]) ?_, by
            simp [OwnPending, giveUp, clearPending]⟩
          simp only [giveUp]
          split_ifs <;> simp
        · exact ⟨.other (Or.inl rfl) rfl (by simp [retransmit, hid, htype]) (by simp [retransmit]), h⟩
        · exact heartbeat h now

lemma dispatch (h : m.OwnPending) {pkt : Packet} (hid : pkt.sessionId = m.sessionId) (now : ℚ) :
    HandshakeMove m (m.dispatch pkt now).2 (m.dispatch pkt now).1 (.packet pkt now) ∧
      (m.dispatch pkt now).2.OwnPending := by
  rw [SessionStateMachine.dispatch]
  split
  case h_1 hstate _ =>
      exact ⟨.connects hstate rfl rfl (by simp [acceptSynAck, ackPacket, make, clearPending]) rfl,
        by simp [OwnPending, acceptSynAck, clearPending]⟩
  case h_2 hstate htype =>
      exact ⟨.completes hstate htype hid rfl rfl rfl rfl,
        by simp [OwnPending, acceptAck, clearPending]⟩
  case h_3 hstate _ =>
      exact ⟨.other (Or.inl rfl) rfl (by simp [repeatAck, ackPacket, make, hstate])
        (by simp [repeatAck]), h⟩
  case h_4 hstate _ =>
      exact ⟨.other (Or.inr (Or.inr ⟨hstate, Or.inr rfl⟩)) rfl
        (by simp [autoClose, finAckPacket, finPacket, make]) (by simp [autoClose]),
        by simp [OwnPending, autoClose, armPending, finPacket, make]⟩
  case h_5 hstate _ =>
      rw [finWaitFinAck]
      dsimp only
      split_ifs
      · exact ⟨.other (Or.inr (Or.inl rfl)) rfl (by simp) (by simp), by simp [OwnPending, clearPending]⟩
      · exact ⟨.other (Or.inl rfl) rfl (by simp) (by simp), by simp [OwnPending, clearPending]⟩
  case h_6 hstate _ =>
      rw [finWaitFin]
      dsimp only
      split_ifs
      · exact ⟨.other (Or.inr (Or.inl rfl)) rfl (by simp [finAckPacket, make]) (by simp), h⟩
      · exact ⟨.other (Or.inl rfl) rfl (by simp [finAckPacket, make]) (by simp), h⟩
  case h_7 hstate _ =>
      exact ⟨.other (Or.inr (Or.inl rfl)) rfl (by simp [closeWaitFinAck])
        (by simp [closeWaitFinAck]), by simp [OwnPending, closeWaitFinAck, clearPending]⟩
  case h_8 => exact ⟨.silent rfl rfl, h⟩

lemma onPacket (h : m.OwnPending) (pkt : Packet) (now : ℚ) :
    HandshakeMove m (m.onPacket pkt now).2 (m.onPacket pkt now).1 (.packet pkt now) ∧
      (m.onPacket pkt now).2.OwnPending := by
  rw [SessionStateMachine.onPacket]
  split_ifs with hforeign hinitial
  · exact ⟨.silent rfl rfl, h⟩
  · exact ⟨.accepts hinitial rfl rfl rfl, by simp [OwnPending, acceptSyn, armPending, synAckPacket, make]⟩
  · have hid : pkt.sessionId = m.sessionId := by
      by_contra hne
      exact hforeign ⟨hinitial, hne⟩
    obtain ⟨hmove, hpending⟩ := dispatch (m := { m with lastRecv := some now }) h hid now
    refine ⟨?_, hpending⟩
    -- the idle timer does not matter
    generalize { m with lastRecv := some now }.dispatch pkt now = answer at hmove
    cases hmove with
    | accepts h₁ h₂ h₃ h₄ => exact .accepts h₁ h₂ h₃ h₄
    | connects h₁ h₂ h₃ h₄ h₅ => exact .connects h₁ h₂ h₃ h₄ h₅
    | completes h₁ h₂ h₃ h₄ h₅ h₆ h₇ => exact .completes h₁ h₂ h₃ h₄ h₅ h₆ h₇
    | other h₁ h₂ h₃ h₄ => exact .other h₁ h₂ h₃ h₄

/-- **An input can do no more.** -/
theorem apply (h : m.OwnPending) (i : MachineInput) :
    HandshakeMove m (m.apply i).2 (m.apply i).1 i ∧ (m.apply i).2.OwnPending := by
  cases i with
  | connect now => exact connect h now
  | close now => exact close h now
  | noteDataActivity now => exact noteDataActivity h now
  | packet pkt now => exact onPacket h pkt now
  | tick now => exact onTick h now

end HandshakeMove

end SessionStateMachine

open SessionStateMachine

/-! ## The network

Everything that was ever transmitted may arrive at any time.
-/

/-- One side: its machine, and everything it has transmitted and surfaced. -/
structure Peer where
  machine : SessionStateMachine
  sent : List Packet := []
  surfaced : List SessionEvent := []

/-- Feed the machine one input. -/
def Peer.step (p : Peer) (i : MachineInput) : Peer where
  machine := (p.machine.apply i).2
  sent := p.sent ++ (p.machine.apply i).1.packets
  surfaced := p.surfaced ++ (p.machine.apply i).1.events

/-- Both sides. -/
structure ControlNetwork where
  initiator : Peer
  responder : Peer

namespace ControlNetwork

/-- The initiator calls `connect()` once; what arrives has been transmitted by the other side. -/
def guard (net : ControlNetwork) : Side × MachineInput → Prop
  | (.Initiator, .connect _) => net.initiator.sent = []
  | (.Responder, .connect _) => False
  | (.Initiator, .packet pkt _) => pkt ∈ net.responder.sent
  | (.Responder, .packet pkt _) => pkt ∈ net.initiator.sent
  | _ => True

instance (net : ControlNetwork) : (act : Side × MachineInput) → Decidable (net.guard act)
  | (.Initiator, .connect _) => inferInstanceAs (Decidable (_ = _))
  | (.Responder, .connect _) => isFalse id
  | (.Initiator, .packet _ _) | (.Responder, .packet _ _) => inferInstanceAs (Decidable (_ ∈ _))
  | (.Initiator, .close _) | (.Responder, .close _) | (.Initiator, .tick _) | (.Responder, .tick _)
  | (.Initiator, .noteDataActivity _) | (.Responder, .noteDataActivity _) => isTrue trivial

/-- One step of either side. -/
def next (net : ControlNetwork) : Side × MachineInput → ControlNetwork
  | (.Initiator, i) => { net with initiator := net.initiator.step i }
  | (.Responder, i) => { net with responder := net.responder.step i }

/-- The network as a transition system. -/
def system : Transition ControlNetwork (Side × MachineInput) := ⟨guard, next⟩

instance (net : ControlNetwork) (act : Side × MachineInput) : Decidable (system.enabled net act) :=
  inferInstanceAs (Decidable (net.guard act))

/-- No SYN is so late that it reaches the responder after its connection is over: one that arrives
in `CLOSED` arrives before any connection was reported.  Nothing is asked of the other packets, of
SYNs that arrive in any other state, or of what the initiator receives. -/
def NoLateSyn (net : ControlNetwork) : Side × MachineInput → Prop
  | (.Responder, .packet pkt _) => net.responder.machine.state = .Closed → pkt.type = .Syn →
      .Established ∉ net.responder.surfaced
  | _ => True

instance (net : ControlNetwork) : (act : Side × MachineInput) → Decidable (NoLateSyn net act)
  | (.Responder, .packet _ _) => inferInstanceAs (Decidable (_ → _ → ¬ _))
  | (.Initiator, _) | (.Responder, .connect _) | (.Responder, .close _) | (.Responder, .tick _)
  | (.Responder, .noteDataActivity _) => isTrue trivial

/-! ## The invariant

First of the initiator alone, which nothing that it hears can connect twice; then of both sides.
-/

/-- The initiator's side. -/
structure Caller (sid : ℤ) (p : Peer) : Prop where
  initiator : p.machine.isInitiator = true
  sessionId : p.machine.sessionId = sid
  pending : p.machine.OwnPending
  own : ∀ pkt ∈ p.sent, pkt.sessionId = sid
  unborn : p.sent = [] → p.machine.state ≠ .SynSent ∧ .Established ∉ p.surfaced
  calling : p.machine.state = .SynSent → .Established ∉ p.surfaced
  synRcvd : p.machine.state ≠ .SynRcvd
  connected : p.machine.state = .Established → .Established ∈ p.surfaced
  acked : ∀ pkt ∈ p.sent, pkt.type = .Ack → .Established ∈ p.surfaced
  once : p.surfaced.count .Established ≤ 1

/-- Both sides. -/
structure Consistent (sid : ℤ) (net : ControlNetwork) : Prop where
  caller : Caller sid net.initiator
  responder : net.responder.machine.isInitiator = false
  pending : net.responder.machine.OwnPending
  synSent : net.responder.machine.state ≠ .SynSent
  adopted : net.responder.machine.state ≠ .Closed → net.responder.machine.sessionId = sid
  follows : .Established ∈ net.responder.surfaced → .Established ∈ net.initiator.surfaced

variable {sid : ℤ} {p : Peer} {net : ControlNetwork} {i : MachineInput}

lemma isInitiator_apply (m : SessionStateMachine) (i : MachineInput) :
    (m.apply i).2.isInitiator = m.isInitiator :=
  congrArg Config.isInitiator (apply_frame m i).1

/-- What a machine's input adds to what it has transmitted. -/
lemma forall_sent_step {P : Packet → Prop} (hold : ∀ pkt ∈ p.sent, P pkt)
    (hnew : ∀ pkt ∈ (p.machine.apply i).1.packets, P pkt) : ∀ pkt ∈ (p.step i).sent, P pkt := by
  intro pkt hp
  rcases List.mem_append.mp hp with hmem | hmem
  · exact hold pkt hmem
  · exact hnew pkt hmem

/-- The initiator acts; it connects only as its first action. -/
lemma Caller.step (h : Caller sid p) (hconnect : ∀ now, i = .connect now → p.sent = []) :
    Caller sid (p.step i) := by
  obtain ⟨hmove, hpending⟩ := HandshakeMove.apply h.pending i
  have hinitiator := (isInitiator_apply p.machine i).trans h.initiator
  have hsurfaced : (p.step i).surfaced = p.surfaced ++ (p.machine.apply i).1.events := rfl
  have hnil : (p.step i).sent = [] → p.sent = [] ∧ (p.machine.apply i).1.packets = [] :=
    List.append_eq_nil_iff.mp
  cases hmove with
  | calls hstate hstate' hid hown hsent hevents =>
      have hunconnected := (h.unborn (hconnect _ rfl)).2
      rw [hevents, List.append_nil] at hsurfaced
      refine ⟨hinitiator, hid.trans h.sessionId, hpending, ?_, fun hs => absurd (hnil hs).2 hsent, ?_,
        ?_, ?_, ?_, ?_⟩
      · exact forall_sent_step h.own fun pkt hp => (hown pkt hp).1.trans h.sessionId
      · exact fun _ => hsurfaced ▸ hunconnected
      · simp [Peer.step, hstate']
      · simp [Peer.step, hstate']
      · rw [hsurfaced]
        exact forall_sent_step h.acked fun pkt hp hack => absurd hack (hown pkt hp).2
      · rw [hsurfaced]
        exact h.once
  | accepts hinitial => exact absurd (h.initiator.symm.trans hinitial.2.1) (by simp)
  | @connects pkt now hstate hstate' hid hown hevents =>
      have hunconnected := h.calling hstate
      have hconnected : .Established ∈ (p.step (.packet pkt now)).surfaced := by
        simp [hsurfaced, hevents]
      refine ⟨hinitiator, hid.trans h.sessionId, hpending, ?_, ?_, ?_, ?_, fun _ => hconnected,
        fun _ _ _ => hconnected, ?_⟩
      · exact forall_sent_step h.own fun pkt hp => (hown pkt hp).trans h.sessionId
      · exact fun hs => absurd hstate (h.unborn (hnil hs).1).1
      · simp [Peer.step, hstate']
      · simp [Peer.step, hstate']
      · rw [hsurfaced, hevents, List.count_append, List.count_eq_zero.mpr hunconnected]
        rfl
  | completes hstate => exact absurd hstate h.synRcvd
  | other hstate hid hown hevents =>
      have hmem : .Established ∈ (p.step i).surfaced ↔ .Established ∈ p.surfaced := by
        rw [hsurfaced, List.mem_append, or_iff_left hevents]
      have hback : ∀ state, state = .SynSent ∨ state = .SynRcvd ∨ state = .Established →
          (p.machine.apply i).2.state = state → p.machine.state = state := by
        rintro state hs rfl
        rcases hstate with hsame | hclosed | ⟨-, hclosing⟩
        · exact hsame.symm
        · simp [hclosed] at hs
        · rcases hclosing with hclosing | hclosing <;> simp [hclosing] at hs
      refine ⟨hinitiator, hid.trans h.sessionId, hpending, ?_, ?_, ?_, ?_, ?_, ?_, ?_⟩
      · exact forall_sent_step h.own fun pkt hp => (hown pkt hp).1.trans h.sessionId
      · intro hs
        obtain ⟨hcalling, hunconnected⟩ := h.unborn (hnil hs).1
        exact ⟨mt (hback _ (by simp)) hcalling, mt hmem.mp hunconnected⟩
      · exact fun hs => mt hmem.mp (h.calling (hback _ (by simp) hs))
      · exact mt (hback _ (by simp)) h.synRcvd
      · exact fun hs => hmem.mpr (h.connected (hback _ (by simp) hs))
      · refine forall_sent_step (fun pkt hp hack => hmem.mpr (h.acked pkt hp hack)) ?_
        exact fun pkt hp hack => hmem.mpr (h.connected ((hown pkt hp).2 hack))
      · rw [hsurfaced, List.count_append, List.count_eq_zero.mpr hevents]
        exact h.once

/-- What the initiator has surfaced stays surfaced. -/
lemma mem_surfaced_step {event : SessionEvent} (h : event ∈ p.surfaced) :
    event ∈ (p.step i).surfaced := List.mem_append_left _ h

/-- **The step.** -/
theorem Consistent.next (h : Consistent sid net) {act : Side × MachineInput}
    (he : system.enabled net act) : Consistent sid (net.next act) := by
  obtain ⟨x, i⟩ := act
  cases x with
  | Initiator =>
      refine ⟨h.caller.step ?_, h.responder, h.pending, h.synSent, h.adopted,
        fun hconnected => mem_surfaced_step (h.follows hconnected)⟩
      rintro now rfl
      exact he
  | Responder =>
      obtain ⟨hmove, hpending⟩ := HandshakeMove.apply h.pending i
      have hresponder := (isInitiator_apply net.responder.machine i).trans h.responder
      have hsurfaced : (net.responder.step i).surfaced
          = net.responder.surfaced ++ (net.responder.machine.apply i).1.events := rfl
      cases hmove with
      | calls => exact absurd he id
      | accepts hinitial hstate' hid hevents =>
          -- the SYN has the initiator's session id
          refine ⟨h.caller, hresponder, hpending, ?_, ?_, ?_⟩
          · simp [ControlNetwork.next, Peer.step, hstate']
          · exact fun _ => hid.trans (h.caller.own _ he)
          · intro hconnected
            rw [show (net.next _).responder = net.responder.step _ from rfl, hsurfaced, hevents,
              List.append_nil] at hconnected
            exact h.follows hconnected
      | connects hstate => exact absurd hstate h.synSent
      | completes hstate htype hid hstate' hsession hpackets hevents =>
          refine ⟨h.caller, hresponder, hpending, ?_, ?_, ?_⟩
          · simp [ControlNetwork.next, Peer.step, hstate']
          · exact fun _ => hsession.trans (h.adopted (by simp [hstate]))
          · exact fun _ => h.caller.acked _ he htype
      | other hstate hid hown hevents =>
          refine ⟨h.caller, hresponder, hpending, ?_, ?_, ?_⟩
          · show (net.responder.machine.apply i).2.state ≠ .SynSent
            rcases hstate with hsame | hclosed | ⟨-, hclosing⟩
            · rw [hsame]
              exact h.synSent
            · simp [hclosed]
            · rcases hclosing with hclosing | hclosing <;> simp [hclosing]
          · intro hopen
            refine hid.trans (h.adopted ?_)
            rcases hstate with hsame | hclosed | ⟨hestablished, -⟩
            · exact hsame ▸ hopen
            · exact absurd hclosed hopen
            · simp [hestablished]
          · intro hconnected
            rw [show (net.next _).responder = net.responder.step _ from rfl, hsurfaced,
              List.mem_append, or_iff_left hevents] at hconnected
            exact h.follows hconnected

/-- The responder has one handshake: while it waits for the ACK of one it has reported no
connection, and it has never reported two. -/
structure OneHandshake (p : Peer) : Prop where
  waiting : p.machine.state = .SynRcvd → .Established ∉ p.surfaced
  once : p.surfaced.count .Established ≤ 1

/-- **Without late SYNs the responder has one handshake.**  It enters `SYN_RCVD` by a SYN in
`CLOSED` only, and leaves it for `ESTABLISHED` with the one connection it reports. -/
lemma OneHandshake.next (h : Consistent sid net) {act : Side × MachineInput}
    (he : system.enabled net act) (hok : NoLateSyn net act) (hone : OneHandshake net.responder) :
    OneHandshake (net.next act).responder := by
  obtain ⟨x, i⟩ := act
  cases x with
  | Initiator => exact hone
  | Responder =>
      obtain ⟨hmove, -⟩ := HandshakeMove.apply h.pending i
      have hsurfaced : (net.responder.step i).surfaced
          = net.responder.surfaced ++ (net.responder.machine.apply i).1.events := rfl
      show OneHandshake (net.responder.step i)
      cases hmove with
      | calls => exact absurd he id
      | accepts hinitial _ _ hevents =>
          have hunconnected := hok hinitial.1 hinitial.2.2
          rw [hevents, List.append_nil] at hsurfaced
          exact ⟨fun _ => hsurfaced ▸ hunconnected, hsurfaced ▸ hone.once⟩
      | connects hstate => exact absurd hstate h.synSent
      | completes hstate _ _ hstate' _ _ hevents =>
          refine ⟨fun hwait => absurd (hstate'.symm.trans hwait) (by decide), ?_⟩
          rw [hsurfaced, hevents, List.count_append, List.count_eq_zero.mpr (hone.waiting hstate)]
          rfl
      | other hstate _ _ hevents =>
          refine ⟨fun hwait => ?_, ?_⟩
          · have hsame : net.responder.machine.state = .SynRcvd := by
              have hwait' : (net.responder.machine.apply i).2.state = .SynRcvd := hwait
              rcases hstate with hsame | hclosed | ⟨-, hclosing⟩
              · exact hsame.symm.trans hwait'
              · simp [hclosed] at hwait'
              · rcases hclosing with hclosing | hclosing <;> simp [hclosing] at hwait'
            rw [hsurfaced, List.mem_append, or_iff_left hevents]
            exact hone.waiting hsame
          · rw [hsurfaced, List.count_append, List.count_eq_zero.mpr hevents]
            exact hone.once

end ControlNetwork

/-! ## Whole runs

From two new machines, and two runs: one in which a duplicate is harmless, and one in which it is
not.
-/

/-- Two new machines. -/
structure NewPeers (net : ControlNetwork) : Prop where
  initiator : net.initiator.machine.isInitiator = true
  responder : net.responder.machine.isInitiator = false
  new : net.initiator.machine = net.initiator.machine.fresh ∧
    net.responder.machine = net.responder.machine.fresh
  sent : net.initiator.sent = [] ∧ net.responder.sent = []
  surfaced : net.initiator.surfaced = [] ∧ net.responder.surfaced = []

open ControlNetwork

lemma NewPeers.consistent {net : ControlNetwork} (h : NewPeers net) :
    Consistent net.initiator.machine.sessionId net := by
  have hcaller : net.initiator.machine.state = .Closed ∧
      net.initiator.machine.pendingCtrl = none := by
    rw [h.new.1]
    exact ⟨rfl, rfl⟩
  have hlistener : net.responder.machine.state = .Closed ∧
      net.responder.machine.pendingCtrl = none := by
    rw [h.new.2]
    exact ⟨rfl, rfl⟩
  refine ⟨⟨h.initiator, rfl, ?_, ?_, ?_, ?_, ?_, ?_, ?_, ?_⟩, h.responder, ?_, ?_, ?_, ?_⟩
  all_goals simp [OwnPending, hcaller, hlistener, h.sent, h.surfaced]

/-- **The responder reports no connection that the initiator did not open.**  In every reachable
state the two machines, when both are `ESTABLISHED`, are in the same session, and the responder has
reported a connection only if the initiator has; and along every run in which no SYN reaches the
responder in `CLOSED` after it has reported a connection, it has reported at most as many as the
initiator. -/
theorem no_ghost_connection {start net : ControlNetwork} (hnew : NewPeers start) :
    (system.Reach Transition.free start net →
      (net.initiator.machine.state = .Established → net.responder.machine.state = .Established →
        net.initiator.machine.sessionId = net.responder.machine.sessionId) ∧
      (.Established ∈ net.responder.surfaced → .Established ∈ net.initiator.surfaced)) ∧
    (system.Reach NoLateSyn start net →
      net.responder.surfaced.count .Established ≤ net.initiator.surfaced.count .Established) := by
  constructor
  · intro hrun
    have h := hrun.invariant (I := Consistent start.initiator.machine.sessionId) hnew.consistent
      fun _ _ h he _ => h.next he
    refine ⟨fun _ hresponder => ?_, h.follows⟩
    rw [h.caller.sessionId, h.adopted (by simp [hresponder])]
  · intro hrun
    obtain ⟨h, hone⟩ := hrun.invariant
      (I := fun net => Consistent start.initiator.machine.sessionId net ∧
        OneHandshake net.responder)
      ⟨hnew.consistent, ⟨by simp [hnew.surfaced], by simp [hnew.surfaced]⟩⟩
      fun _ _ h he hok => ⟨h.1.next he, OneHandshake.next h.1 he hok h.2⟩
    rcases Nat.eq_zero_or_pos (net.responder.surfaced.count .Established) with hzero | hpos
    · omega
    · exact hone.once.trans (List.count_pos_iff.mpr (h.follows (List.count_pos_iff.mp hpos)))

/-- Two new machines. -/
def newPeers : ControlNetwork where
  initiator := { machine := { isInitiator := true, sessionId := 7, isn := 100 } }
  responder := { machine := { isInitiator := false, sessionId := 0, isn := 500 } }

/-- They are new. -/
theorem newPeers_newPeers : NewPeers newPeers where
  initiator := rfl
  responder := rfl
  new := by decide +kernel
  sent := by decide
  surfaced := by decide

/-- A control packet of session 7. -/
def sevenPacket (type : PacketType) (seq ack : ℤ) (flags : ℕ) : Packet :=
  { type, sessionId := 7, streamId := 0, seq, ack, window := 0, flags }

/-- The initiator's SYN. -/
def sevenSyn : Packet := sevenPacket .Syn 100 0 Flags.syn
/-- The responder's answer. -/
def sevenSynAck : Packet := sevenPacket .SynAck 500 101 (Flags.syn ||| Flags.ack)
/-- The ACK that completes the handshake. -/
def sevenAck : Packet := sevenPacket .Ack 101 501 Flags.ack
/-- The initiator's FIN. -/
def sevenFin : Packet := sevenPacket .Fin 101 0 Flags.fin
/-- The responder's FIN. -/
def sevenPeerFin : Packet := sevenPacket .Fin 501 0 Flags.fin
/-- The initiator's answer to it. -/
def sevenFinAck : Packet := sevenPacket .FinAck 101 502 (Flags.fin ||| Flags.ack)

/-- A handshake, the initiator's close, and the duplicates of a SYN and an ACK. -/
def duplicatedRun : List (Side × MachineInput) :=
  [(.Initiator, .connect 0), (.Responder, .packet sevenSyn 0), (.Initiator, .packet sevenSynAck 0),
    (.Responder, .packet sevenSyn 0), (.Responder, .packet sevenAck 0), (.Initiator, .close 1),
    (.Responder, .packet sevenFin 1), (.Initiator, .packet sevenPeerFin 1),
    (.Responder, .packet sevenFinAck 1), (.Responder, .packet sevenSyn 2),
    (.Responder, .packet sevenAck 2)]

/-- The handshake of that run, in which the SYN is duplicated while the responder still waits: the
duplicate is not late. -/
theorem no_ghost_connection_duplicatedRun : ∃ net : ControlNetwork,
    net.responder.machine.state = .Established ∧
    net.responder.surfaced.count .Established ≤ net.initiator.surfaced.count .Established ∧
    net.initiator.machine.sessionId = net.responder.machine.sessionId := by
  obtain ⟨net, hrun, hinitiator, hresponder⟩ :=
    system.exists_reach_of_exec NoLateSyn (duplicatedRun.take 5) newPeers
      (fun net : ControlNetwork => net.initiator.machine.state = .Established ∧
        net.responder.machine.state = .Established)
      (by decide +kernel)
  have hfree := hrun.mono fun _ _ _ => trivial
  exact ⟨net, hresponder, (no_ghost_connection newPeers_newPeers).2 hrun,
    ((no_ghost_connection newPeers_newPeers).1 hfree).1 hinitiator hresponder⟩

/-- **Old duplicates of a SYN and an ACK complete a second handshake**, after the responder has
closed. -/
theorem ghost_connection : NewPeers newPeers ∧ ∃ net : ControlNetwork,
    system.Reach Transition.free newPeers net ∧
    net.initiator.surfaced.count .Established = 1 ∧
    net.responder.surfaced.count .Established = 2 := by
  refine ⟨newPeers_newPeers, ?_⟩
  exact system.exists_reach_of_exec Transition.free duplicatedRun newPeers
    (fun net : ControlNetwork => net.initiator.surfaced.count .Established = 1 ∧
      net.responder.surfaced.count .Established = 2)
    (by decide +kernel)

end PhotonTCP
