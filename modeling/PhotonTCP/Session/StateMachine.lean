import PhotonTCP.Packet.Header

/-!
# The session state machine

The lifecycle of a connection: the three-way handshake, heartbeats and the idle timeout, and a
symmetric close in which either side's FIN makes the other send its own.  The last control packet
that awaits a reply (SYN, SYN_ACK or FIN) is kept and retransmitted on a fixed timer.

* `SessionState`, `SessionEvent` — the states and what is surfaced to the application.
* `SessionStateMachine` — the state; its defaults are those of a new machine.
* `connect`, `close`, `noteDataActivity`, `onPacket`, `onTick` — the inputs.
* `MachineInput`, `SessionStateMachine.apply` — the same as one function.

The transitions are written once each, under a name for what they mean, and `dispatch` chooses
between them by state and type as the source does by a chain of conditions.  Everything else that
arrives only refreshes the idle timer, which includes packets that one might expect to be answered:
a SYN_ACK is answered again in `ESTABLISHED` and in no later state, and a FIN in `ESTABLISHED` and
`FIN_WAIT` only.  Whoever has left these states does not help a peer whose last reply was lost.

A machine lives on after its connection.  `connect` and the arrival of a SYN start the next one on
the same object, and they reset the state, the pending packet and the times they set, but neither
the two flags of the close nor, on the calling side, the time of the last reception.

The retry budget is tested before the counter is increased, so a packet is sent again once more than
the parameter says.
-/

namespace PhotonTCP

/-! ## States, events, defaults

The names of the source.
-/

/-- Lifecycle states. -/
inductive SessionState where
  | Closed
  | SynSent
  | SynRcvd
  | Established
  | FinWait
  | CloseWait
deriving DecidableEq

/-- Events surfaced to the application. -/
inductive SessionEvent where
  | Established
  | PeerClosed
  | Closed
  | TimedOut
  | ConnectFailed
deriving DecidableEq

/-- Seconds without a transmission before a heartbeat. -/
def DEFAULT_HEARTBEAT_INTERVAL : ℚ := 1
/-- Seconds without a reception before the peer counts as gone. -/
def DEFAULT_IDLE_TIMEOUT : ℚ := 3
/-- Seconds before a control packet is sent again. -/
def DEFAULT_CONTROL_RTO : ℚ := 1 / 2
/-- The retry budget of a control packet. -/
def DEFAULT_MAX_CONTROL_RETRIES : ℤ := 5

/-- The result of one input: packets to transmit and events to surface, in order. -/
structure Output where
  packets : List Packet := []
  events : List SessionEvent := []
deriving DecidableEq

/-- The state of a machine.  `sessionId` is the proposed id of an initiator and is adopted from the
SYN by a responder. -/
structure SessionStateMachine where
  isInitiator : Bool
  sessionId : ℤ
  isn : ℤ
  heartbeatInterval : ℚ := DEFAULT_HEARTBEAT_INTERVAL
  idleTimeout : ℚ := DEFAULT_IDLE_TIMEOUT
  controlRto : ℚ := DEFAULT_CONTROL_RTO
  maxControlRetries : ℤ := DEFAULT_MAX_CONTROL_RETRIES
  seq : ℤ := isn
  state : SessionState := .Closed
  lastSend : Option ℚ := none
  lastRecv : Option ℚ := none
  finAcked : Bool := false
  peerFinAcked : Bool := false
  pendingCtrl : Option Packet := none
  pendingCtrlSince : ℚ := 0
  ctrlRetries : ℕ := 0
deriving DecidableEq

namespace SessionStateMachine

/-- A freshly constructed machine with the parameters and the session id of another. -/
def fresh (m : SessionStateMachine) : SessionStateMachine where
  isInitiator := m.isInitiator
  sessionId := m.sessionId
  isn := m.isn
  heartbeatInterval := m.heartbeatInterval
  idleTimeout := m.idleTimeout
  controlRto := m.controlRto
  maxControlRetries := m.maxControlRetries

variable (m : SessionStateMachine)

/-- The connection is up. -/
def isEstablished : Bool := m.state = .Established
/-- There is no connection. -/
def isClosed : Bool := m.state = .Closed

/-! ## Packets and the pending control packet

One packet at most awaits a reply.  It is kept as it was sent, and sent again unchanged.
-/

/-- A control packet of this session. -/
def make (ptype : PacketType) (seq ack : ℤ) (flags : ℕ) : Packet where
  type := ptype
  sessionId := m.sessionId
  streamId := 0
  seq := seq
  ack := ack
  window := 0
  flags := flags

/-- Record the control packet that awaits a reply. -/
def armPending (pkt : Packet) (now : ℚ) : SessionStateMachine :=
  { m with pendingCtrl := some pkt, pendingCtrlSince := now, ctrlRetries := 0 }

/-- Drop it. -/
def clearPending : SessionStateMachine :=
  { m with pendingCtrl := none, pendingCtrlSince := 0, ctrlRetries := 0 }

/-- Our SYN. -/
def synPacket : Packet := m.make .Syn m.isn 0 Flags.syn

/-- Our FIN. -/
def finPacket : Packet := m.make .Fin m.seq 0 Flags.fin

/-- The reply to a SYN. -/
def synAckPacket (pkt : Packet) : Packet :=
  m.make .SynAck m.isn (pkt.seq + 1) (Flags.syn ||| Flags.ack)

/-- The reply to a SYN_ACK. -/
def ackPacket (pkt : Packet) : Packet := m.make .Ack m.seq (pkt.seq + 1) Flags.ack

/-- The reply to a FIN. -/
def finAckPacket (pkt : Packet) : Packet :=
  m.make .FinAck m.seq (pkt.seq + 1) (Flags.fin ||| Flags.ack)

/-! ## Inputs

Each takes the time and returns packets and events, besides the next state.
-/

/-- Begin the handshake; for an initiator that is `CLOSED`. -/
def connect (now : ℚ) : Output × SessionStateMachine :=
  if !m.isInitiator ∨ m.state ≠ .Closed then ({}, m)
  else
    let m := { m with state := .SynSent, lastSend := some now }
    ({ packets := [m.synPacket] }, m.armPending m.synPacket now)

/-- Begin to close; anywhere but in `ESTABLISHED` it does nothing. -/
def close (now : ℚ) : Output × SessionStateMachine :=
  if m.state ≠ .Established then ({}, m)
  else
    let m := { m with state := .FinWait, lastSend := some now }
    ({ packets := [m.finPacket] }, m.armPending m.finPacket now)

/-- Data-plane traffic refreshes the idle timer of an active session. -/
def noteDataActivity (now : ℚ) : SessionStateMachine :=
  if m.state = .Established ∨ m.state = .FinWait ∨ m.state = .CloseWait then
    { m with lastRecv := some now }
  else m

/-- A SYN that a responder accepts while `CLOSED`, whatever its session id. -/
def responderInitial (pkt : Packet) : Prop :=
  m.state = .Closed ∧ m.isInitiator = false ∧ pkt.type = .Syn

instance (pkt : Packet) : Decidable (m.responderInitial pkt) :=
  inferInstanceAs (Decidable (_ ∧ _ ∧ _))

/-- `CLOSED`, a SYN arrives at a responder: adopt the session id and reply SYN_ACK. -/
def acceptSyn (pkt : Packet) (now : ℚ) : Output × SessionStateMachine :=
  let m := { m with sessionId := pkt.sessionId, state := .SynRcvd, lastSend := some now }
  ({ packets := [m.synAckPacket pkt] }, m.armPending (m.synAckPacket pkt) now)

/-- `SYN_SENT`, a SYN_ACK arrives: acknowledge it. -/
def acceptSynAck (pkt : Packet) (now : ℚ) : Output × SessionStateMachine :=
  let m := { m.clearPending with state := .Established, seq := m.isn + 1, lastSend := some now }
  ({ packets := [m.ackPacket pkt], events := [.Established] }, m)

/-- `SYN_RCVD`, the final ACK arrives. -/
def acceptAck : Output × SessionStateMachine :=
  ({ events := [.Established] }, { m.clearPending with state := .Established, seq := m.isn + 1 })

/-- `ESTABLISHED`, a duplicate SYN_ACK arrives: our ACK was lost, so send it again. -/
def repeatAck (pkt : Packet) (now : ℚ) : Output × SessionStateMachine :=
  ({ packets := [m.ackPacket pkt] }, { m with lastSend := some now })

/-- `ESTABLISHED`, a FIN arrives: acknowledge it and send our own. -/
def autoClose (pkt : Packet) (now : ℚ) : Output × SessionStateMachine :=
  let m := { m with state := .CloseWait, peerFinAcked := true, lastSend := some now }
  ({ packets := [m.finAckPacket pkt, m.finPacket], events := [.PeerClosed] },
    m.armPending m.finPacket now)

/-- `FIN_WAIT`, our FIN is acknowledged. -/
def finWaitFinAck : Output × SessionStateMachine :=
  let m := { m.clearPending with finAcked := true }
  if m.peerFinAcked then ({ events := [.Closed] }, { m with state := .Closed }) else ({}, m)

/-- `FIN_WAIT`, the peer's FIN arrives: acknowledge it. -/
def finWaitFin (pkt : Packet) (now : ℚ) : Output × SessionStateMachine :=
  let m := { m with peerFinAcked := true, lastSend := some now }
  if m.finAcked then
    ({ packets := [m.finAckPacket pkt], events := [.Closed] }, { m with state := .Closed })
  else ({ packets := [m.finAckPacket pkt] }, m)

/-- `CLOSE_WAIT`, our FIN is acknowledged. -/
def closeWaitFinAck : Output × SessionStateMachine :=
  ({ events := [.Closed] }, { m.clearPending with finAcked := true, state := .Closed })

/-- What an accepted packet does, by state and type; anything else only refreshes the idle timer. -/
def dispatch (pkt : Packet) (now : ℚ) : Output × SessionStateMachine :=
  match m.state, pkt.type with
  | .SynSent, .SynAck => m.acceptSynAck pkt now
  | .SynRcvd, .Ack => m.acceptAck
  | .Established, .SynAck => m.repeatAck pkt now
  | .Established, .Fin => m.autoClose pkt now
  | .FinWait, .FinAck => m.finWaitFinAck
  | .FinWait, .Fin => m.finWaitFin pkt now
  | .CloseWait, .FinAck => m.closeWaitFinAck
  | _, _ => ({}, m)

/-- Process an arriving packet. -/
def onPacket (pkt : Packet) (now : ℚ) : Output × SessionStateMachine :=
  if ¬ m.responderInitial pkt ∧ pkt.sessionId ≠ m.sessionId then ({}, m)
  else
    let m' := { m with lastRecv := some now }
    if m.responderInitial pkt then m'.acceptSyn pkt now else m'.dispatch pkt now

/-- A packet of this session that does not open a connection. -/
lemma onPacket_eq_dispatch {m : SessionStateMachine} {pkt : Packet}
    (hinitial : ¬ m.responderInitial pkt) (hid : pkt.sessionId = m.sessionId) (now : ℚ) :
    m.onPacket pkt now = { m with lastRecv := some now }.dispatch pkt now := by
  rw [onPacket, if_neg fun h => h.2 hid, if_neg hinitial]

/-- The idle timeout has passed since the last reception. -/
def idleExpired (now : ℚ) : Bool := m.lastRecv.any fun t => m.idleTimeout ≤ now - t

/-- The heartbeat interval has passed since the last transmission. -/
def heartbeatDue (now : ℚ) : Bool := m.lastSend.all fun t => m.heartbeatInterval ≤ now - t

/-- A control packet awaits its reply, and the retransmission timer has run out. -/
def timerDue (now : ℚ) : Bool :=
  m.pendingCtrl.isSome && decide (m.controlRto ≤ now - m.pendingCtrlSince)

/-- The idle timeout: a close in progress counts as completed. -/
def idleOut : Output × SessionStateMachine :=
  let closing := m.state = .FinWait ∨ m.state = .CloseWait
  ({ events := [if closing then .Closed else .TimedOut] },
    { m.clearPending with state := .Closed })

/-- The retry budget is exhausted. -/
def giveUp : Output × SessionStateMachine :=
  let establishing := m.state = .SynSent ∨ m.state = .SynRcvd
  ({ events := [if establishing then .ConnectFailed else .TimedOut] },
    { m.clearPending with state := .Closed })

/-- Retransmit the pending control packet. -/
def retransmit (pkt : Packet) (now : ℚ) : Output × SessionStateMachine :=
  ({ packets := [pkt] },
    { m with ctrlRetries := m.ctrlRetries + 1, pendingCtrlSince := now, lastSend := some now })

/-- A heartbeat, when one is due. -/
def heartbeat (now : ℚ) : Output × SessionStateMachine :=
  if m.state = .Established ∧ m.heartbeatDue now then
    ({ packets := [m.make .Heartbeat m.seq 0 Flags.none] }, { m with lastSend := some now })
  else ({}, m)

/-- Evaluate the timers: the idle timeout, the control retransmission, the heartbeat. -/
def onTick (now : ℚ) : Output × SessionStateMachine :=
  if m.state ≠ .Closed ∧ m.idleExpired now then m.idleOut
  else
    match m.pendingCtrl with
    | none => m.heartbeat now
    | some pkt =>
        if m.controlRto ≤ now - m.pendingCtrlSince then
          if m.maxControlRetries < m.ctrlRetries then m.giveUp else m.retransmit pkt now
        else m.heartbeat now

end SessionStateMachine

/-! ## Inputs as data

For statements about every sequence of inputs.
-/

/-- The inputs of a machine. -/
inductive MachineInput where
  | connect (now : ℚ)
  | close (now : ℚ)
  | noteDataActivity (now : ℚ)
  | packet (pkt : Packet) (now : ℚ)
  | tick (now : ℚ)

/-- When the input happens. -/
def MachineInput.now : MachineInput → ℚ
  | .connect now => now
  | .close now => now
  | .noteDataActivity now => now
  | .packet _ now => now
  | .tick now => now

/-- Feed one input. -/
def SessionStateMachine.apply (m : SessionStateMachine) :
    MachineInput → Output × SessionStateMachine
  | .connect now => m.connect now
  | .close now => m.close now
  | .noteDataActivity now => ({}, m.noteDataActivity now)
  | .packet pkt now => m.onPacket pkt now
  | .tick now => m.onTick now

/-! ## What no input changes

A frame lemma for the parameters, and with it what can become of the pending packet, since timers
depend on little else.
-/

namespace SessionStateMachine

/-- The constructor's parameters, except the session id that a responder adopts. -/
structure Config where
  isInitiator : Bool
  isn : ℤ
  heartbeatInterval : ℚ
  idleTimeout : ℚ
  controlRto : ℚ
  maxControlRetries : ℤ

/-- The parameters of a machine. -/
def config (m : SessionStateMachine) : Config where
  isInitiator := m.isInitiator
  isn := m.isn
  heartbeatInterval := m.heartbeatInterval
  idleTimeout := m.idleTimeout
  controlRto := m.controlRto
  maxControlRetries := m.maxControlRetries

/-- What can happen to the pending control packet: it is dropped, sent now, or left alone. -/
def TimerStep (m m' : SessionStateMachine) (now : ℚ) : Prop :=
  m'.pendingCtrl = none ∨ m'.pendingCtrlSince = now ∨
    m'.pendingCtrl = m.pendingCtrl ∧ m'.pendingCtrlSince = m.pendingCtrlSince

lemma dispatch_frame (m : SessionStateMachine) (pkt : Packet) (now : ℚ) :
    (m.dispatch pkt now).2.config = m.config ∧ m.TimerStep (m.dispatch pkt now).2 now := by
  rw [dispatch]
  split
  · exact ⟨rfl, Or.inl rfl⟩
  · exact ⟨rfl, Or.inl rfl⟩
  · exact ⟨rfl, Or.inr (Or.inr ⟨rfl, rfl⟩)⟩
  · exact ⟨rfl, Or.inr (Or.inl rfl)⟩
  · rw [finWaitFinAck]
    dsimp only
    split_ifs <;> exact ⟨rfl, Or.inl rfl⟩
  · rw [finWaitFin]
    dsimp only
    split_ifs <;> exact ⟨rfl, Or.inr (Or.inr ⟨rfl, rfl⟩)⟩
  · exact ⟨rfl, Or.inl rfl⟩
  · exact ⟨rfl, Or.inr (Or.inr ⟨rfl, rfl⟩)⟩

lemma onTick_frame (m : SessionStateMachine) (now : ℚ) :
    (m.onTick now).2.config = m.config ∧ m.TimerStep (m.onTick now).2 now := by
  simp only [onTick, heartbeat]
  rcases hp : m.pendingCtrl with _ | pkt <;> dsimp only <;> split_ifs
  · exact ⟨rfl, Or.inl rfl⟩
  · exact ⟨rfl, Or.inl rfl⟩
  · exact ⟨rfl, Or.inl hp⟩
  · exact ⟨rfl, Or.inl rfl⟩
  · exact ⟨rfl, Or.inl rfl⟩
  · exact ⟨rfl, Or.inr (Or.inl rfl)⟩
  · exact ⟨rfl, Or.inr (Or.inr ⟨hp.symm, rfl⟩)⟩
  · exact ⟨rfl, Or.inr (Or.inr ⟨rfl, rfl⟩)⟩

/-- **No input changes the parameters, and the pending packet is dropped, sent now or left
alone.** -/
theorem apply_frame (m : SessionStateMachine) (i : MachineInput) :
    (m.apply i).2.config = m.config ∧ m.TimerStep (m.apply i).2 i.now := by
  have hsame : m.TimerStep m i.now := Or.inr (Or.inr ⟨rfl, rfl⟩)
  cases i with
  | connect now =>
      simp only [apply, connect]
      split_ifs
      · exact ⟨rfl, hsame⟩
      · exact ⟨rfl, Or.inr (Or.inl rfl)⟩
  | close now =>
      simp only [apply, close]
      split_ifs
      · exact ⟨rfl, hsame⟩
      · exact ⟨rfl, Or.inr (Or.inl rfl)⟩
  | noteDataActivity now =>
      simp only [apply, noteDataActivity]
      split_ifs <;> exact ⟨rfl, hsame⟩
  | packet pkt now =>
      simp only [apply, onPacket]
      split_ifs
      · exact ⟨rfl, hsame⟩
      · exact ⟨rfl, Or.inr (Or.inl rfl)⟩
      · exact dispatch_frame { m with lastRecv := some now } pkt now
  | tick now => exact m.onTick_frame now

/-- After a tick the timer of what is still pending has time left. -/
lemma onTick_timer {m : SessionStateMachine} {now : ℚ} (hrto : 0 < m.controlRto)
    (hpending : (m.onTick now).2.pendingCtrl ≠ none) :
    now - (m.onTick now).2.pendingCtrlSince < m.controlRto := by
  simp only [onTick, heartbeat] at hpending ⊢
  rcases hp : m.pendingCtrl with _ | pkt <;> rw [hp] at hpending <;> dsimp only at hpending ⊢ <;>
    split_ifs at hpending ⊢
  all_goals first
    | exact absurd rfl hpending
    | exact absurd hp hpending
    | skip
  · show now - now < m.controlRto
    linarith
  · exact not_le.mp ‹_›
  · exact not_le.mp ‹_›

end SessionStateMachine

end PhotonTCP
