import PhotonTCP.Session.ControlLink

/-!
# The handshake over a lossy link

A responder repeats its SYN_ACK until an ACK is heard.  The ACK is not repeated: it is sent again
only when the SYN_ACK comes again, and only by an initiator that is still `ESTABLISHED`.

* `HandshakeOver`, `AwaitsSynAck`, `AwaitsAck`, `Listening` — where a machine can be, each with what
  one step does to it.
* `Opening`, `Exchanging`, `Completed`, `Abandoned` — where the link can be; while it exchanges, the
  SYN_ACKs and the ACKs are an `Exchange`.
* **`handshake_completes`** — the responder is `ESTABLISHED` in time and its connection does not
  fail, as long as no SYN_ACK is ignored while the responder waits.
* **`close_strands_responder`** — a SYN_ACK is ignored, and the connection fails.

The responder depends on the initiator here, and not the other way round.  Once the initiator has
heard a SYN_ACK it is connected, and nothing more can keep it from being told so; whether the
responder gets its ACK depends on what the initiator does meanwhile.  An initiator that has gone on
to close is in another state, and there a SYN_ACK is not answered.  The condition `SynAcksAnswered`
says that this does not happen while the responder waits.

The state of the link is described by where each side is: the responder has not heard of the
initiator, waits for an ACK, or has heard one; or else the initiator has given up, and nothing is
said any more.  In the second of these the SYN_ACKs and ACKs are an exchange, in which the responder
asks.  The initiator's own waiting for the first SYN_ACK is a part of the same phase, and it may end
in giving up, because only the losses of SYN_ACKs and ACKs are bounded and not those of SYNs.

A schedule says when the responder is done: it began to wait before the initiator connected, and
repeats its SYN_ACK at most every second tick.
-/

namespace PhotonTCP

open LossWindow ControlLink

/-! ## One machine

For each place where a machine can be, what one input can do to it; other inputs do nothing that
matters here.
-/

namespace SessionStateMachine

/-- The handshake is behind this machine, or it has given up. -/
structure HandshakeOver (m : SessionStateMachine) : Prop where
  synSent : m.state ≠ .SynSent
  synRcvd : m.state ≠ .SynRcvd
  pending : ∀ pkt ∈ m.pendingCtrl, pkt.type = .Fin ∧ pkt.sessionId = m.sessionId

/-- An initiator whose SYN awaits its SYN_ACK. -/
structure AwaitsSynAck (m : SessionStateMachine) : Prop where
  state : m.state = .SynSent
  pending : ∃ pkt, m.pendingCtrl = some pkt ∧ pkt.type = .Syn ∧ pkt.sessionId = m.sessionId

/-- A responder whose SYN_ACK awaits its ACK. -/
structure AwaitsAck (m : SessionStateMachine) : Prop where
  state : m.state = .SynRcvd
  pending : ∃ pkt, m.pendingCtrl = some pkt ∧ pkt.type = .SynAck ∧ pkt.sessionId = m.sessionId

/-- A machine that waits for nothing. -/
structure Listening (m : SessionStateMachine) : Prop where
  state : m.state = .Closed
  pending : m.pendingCtrl = none

/-- One step of a machine whose handshake is over. -/
structure OverStep (m m' : SessionStateMachine) (out : Output) : Prop where
  past : m'.HandshakeOver
  sessionId : m'.sessionId = m.sessionId
  own : ∀ pkt ∈ out.packets, pkt.sessionId = m.sessionId ∧ pkt.type ≠ .Syn
  established : .Established ∉ out.events
  connectFailed : .ConnectFailed ∉ out.events

/-- A machine acknowledges a SYN_ACK in `SYN_SENT` and in `ESTABLISHED`, and sends no other ACK. -/
def AckStep (m : SessionStateMachine) (out : Output) (heard : Stimulus) : Prop :=
  out.transmits .Ack =
    if heard = .packet .SynAck ∧ (m.state = .SynSent ∨ m.state = .Established) then 1 else 0

variable {m : SessionStateMachine}

/-- Nothing is pending, in another state. -/
lemma HandshakeOver.of_state (state : SessionState) (hstate : m.state = state)
    (hother : state ≠ .SynSent ∧ state ≠ .SynRcvd) (hpending : m.pendingCtrl = none) :
    m.HandshakeOver := by
  refine ⟨?_, ?_, ?_⟩
  · rw [hstate]
    exact hother.1
  · rw [hstate]
    exact hother.2
  · simp [hpending]

/-- A FIN is pending. -/
lemma HandshakeOver.of_fin (state : SessionState) {pkt : Packet} (hstate : m.state = state)
    (hother : state ≠ .SynSent ∧ state ≠ .SynRcvd) (hpending : m.pendingCtrl = some pkt)
    (htype : pkt.type = .Fin) (hid : pkt.sessionId = m.sessionId) : m.HandshakeOver := by
  refine ⟨?_, ?_, ?_⟩
  · rw [hstate]
    exact hother.1
  · rw [hstate]
    exact hother.2
  · simp [hpending, htype, hid]

lemma HandshakeOver.refresh (h : m.HandshakeOver) (lastRecv : Option ℚ) :
    HandshakeOver { m with lastRecv } := ⟨h.synSent, h.synRcvd, h.pending⟩

namespace OverStep

/-- Nothing happens. -/
lemma unchanged (h : m.HandshakeOver) : OverStep m m {} :=
  ⟨h, rfl, by simp, by simp, by simp⟩

lemma close (h : m.HandshakeOver) (now : ℚ) :
    OverStep m (m.close now).2 (m.close now).1 := by
  rw [SessionStateMachine.close]
  split_ifs
  · exact .unchanged h
  · exact ⟨.of_fin .FinWait rfl (by decide) rfl rfl rfl, rfl,
      by simp [finPacket, make], by simp, by simp⟩

lemma heartbeat (h : m.HandshakeOver) (now : ℚ) :
    OverStep m (m.heartbeat now).2 (m.heartbeat now).1 := by
  rw [SessionStateMachine.heartbeat]
  split_ifs
  · exact ⟨⟨h.synSent, h.synRcvd, h.pending⟩, rfl, by simp [make], by simp, by simp⟩
  · exact .unchanged h

lemma onTick (h : m.HandshakeOver) {now : ℚ} (hidle : m.idleExpired now = false) :
    OverStep m (m.onTick now).2 (m.onTick now).1 := by
  rw [SessionStateMachine.onTick, if_neg (by simp [hidle])]
  cases hp : m.pendingCtrl with
  | none => exact .heartbeat h now
  | some pkt =>
      obtain ⟨htype, hid⟩ := h.pending pkt hp
      dsimp only
      split_ifs
      · refine ⟨.of_state .Closed rfl (by decide) rfl, rfl, by simp [giveUp], ?_, ?_⟩
        · simp [giveUp, h.synSent, h.synRcvd]
        · simp [giveUp, h.synSent, h.synRcvd]
      · exact ⟨⟨h.synSent, h.synRcvd, h.pending⟩, rfl, by simp [retransmit, htype, hid],
          by simp [retransmit], by simp [retransmit]⟩
      · exact .heartbeat h now

lemma dispatch (h : m.HandshakeOver) (pkt : Packet) (now : ℚ) :
    OverStep m (m.dispatch pkt now).2 (m.dispatch pkt now).1 := by
  rw [SessionStateMachine.dispatch]
  split
  case h_1 hstate _ => exact absurd hstate h.synSent
  case h_2 hstate _ => exact absurd hstate h.synRcvd
  case h_3 =>
      exact ⟨⟨h.synSent, h.synRcvd, h.pending⟩, rfl, by simp [repeatAck, ackPacket, make],
        by simp [repeatAck], by simp [repeatAck]⟩
  case h_4 =>
      exact ⟨.of_fin .CloseWait rfl (by decide) rfl rfl rfl, rfl,
        by simp [autoClose, finPacket, finAckPacket, make], by simp [autoClose],
        by simp [autoClose]⟩
  case h_5 hstate _ =>
      rw [finWaitFinAck]
      dsimp only
      split_ifs
      · exact ⟨.of_state .Closed rfl (by decide) rfl, rfl, by simp, by simp, by simp⟩
      · exact ⟨⟨h.synSent, h.synRcvd, by simp [clearPending]⟩, rfl, by simp, by simp, by simp⟩
  case h_6 hstate _ =>
      rw [finWaitFin]
      dsimp only
      split_ifs
      · exact ⟨⟨by simp, by simp, h.pending⟩, rfl, by simp [finAckPacket, make], by simp, by simp⟩
      · exact ⟨⟨h.synSent, h.synRcvd, h.pending⟩, rfl, by simp [finAckPacket, make], by simp,
          by simp⟩
  case h_7 =>
      exact ⟨.of_state .Closed rfl (by decide) rfl, rfl, by simp [closeWaitFinAck],
        by simp [closeWaitFinAck], by simp [closeWaitFinAck]⟩
  case h_8 => exact .unchanged h

/-- Any packet that does not open a connection, of this session or another. -/
lemma onPacket (h : m.HandshakeOver) {pkt : Packet} (hinitial : ¬ m.responderInitial pkt)
    (now : ℚ) : OverStep m (m.onPacket pkt now).2 (m.onPacket pkt now).1 := by
  by_cases hid : pkt.sessionId = m.sessionId
  · rw [onPacket_eq_dispatch hinitial hid]
    obtain ⟨hover, hsession, hown, hestablished, hfailed⟩ := dispatch (h.refresh (some now)) pkt now
    exact ⟨hover, hsession, hown, hestablished, hfailed⟩
  · rw [SessionStateMachine.onPacket, if_pos ⟨hinitial, hid⟩]
    exact .unchanged h

end OverStep

namespace AckStep

lemma close (m : SessionStateMachine) (now : ℚ) : AckStep m (m.close now).1 .call := by
  rw [SessionStateMachine.close]
  split_ifs <;> rfl

lemma heartbeat (m : SessionStateMachine) (now : ℚ) : AckStep m (m.heartbeat now).1 .tick := by
  rw [SessionStateMachine.heartbeat]
  split_ifs <;> rfl

lemma onTick (h : m.HandshakeOver) {now : ℚ} (hidle : m.idleExpired now = false) :
    AckStep m (m.onTick now).1 .tick := by
  rw [SessionStateMachine.onTick, if_neg (by simp [hidle])]
  cases hp : m.pendingCtrl with
  | none => exact .heartbeat m now
  | some pkt =>
      obtain ⟨htype, -⟩ := h.pending pkt hp
      dsimp only
      split_ifs
      · rfl
      · simp [AckStep, retransmit, Output.transmits, htype]
      · exact .heartbeat m now

lemma dispatch (h : m.HandshakeOver) (pkt : Packet) (now : ℚ) :
    AckStep m (m.dispatch pkt now).1 (.packet pkt.type) := by
  rw [SessionStateMachine.dispatch]
  split
  case h_1 hstate _ => exact absurd hstate h.synSent
  case h_2 hstate _ => exact absurd hstate h.synRcvd
  case h_3 hstate htype => simp [AckStep, hstate, htype]; rfl
  case h_4 htype => simp [AckStep, htype]; rfl
  case h_5 htype =>
      rw [finWaitFinAck]
      dsimp only
      split_ifs <;> simp [AckStep, htype, Output.transmits]
  case h_6 htype =>
      rw [finWaitFin]
      dsimp only
      split_ifs <;> simp [AckStep, htype, Output.transmits, finAckPacket, make]
  case h_7 htype => simp [AckStep, htype]; rfl
  case h_8 =>
      rw [AckStep, if_neg]
      · rfl
      · rintro ⟨htype, hsent | hestablished⟩
        · exact absurd hsent h.synSent
        · simp_all

lemma onPacket (h : m.HandshakeOver) {pkt : Packet} (hinitial : ¬ m.responderInitial pkt)
    (hid : pkt.sessionId = m.sessionId) (now : ℚ) :
    AckStep m (m.onPacket pkt now).1 (.packet pkt.type) := by
  rw [onPacket_eq_dispatch hinitial hid]
  exact dispatch (h.refresh (some now)) pkt now

end AckStep

/-- What one step can do to a machine in `SYN_SENT`. -/
inductive SynSentStep (m m' : SessionStateMachine) (out : Output) : Stimulus → Prop where
  /-- It keeps waiting. -/
  | waits {heard : Stimulus} (waits : m'.AwaitsSynAck) (sessionId : m'.sessionId = m.sessionId)
      (own : ∀ pkt ∈ out.packets, pkt.sessionId = m.sessionId ∧ pkt.type = .Syn)
      (events : out.events = []) (other : heard ≠ .packet .SynAck) : SynSentStep m m' out heard
  /-- It is `ESTABLISHED`. -/
  | connects (past : m'.HandshakeOver) (sessionId : m'.sessionId = m.sessionId)
      (own : ∀ pkt ∈ out.packets, pkt.sessionId = m.sessionId ∧ pkt.type ≠ .Syn)
      (events : out.events = [.Established]) (acks : out.transmits .Ack = 1) :
      SynSentStep m m' out (.packet .SynAck)
  /-- It gives up. -/
  | givesUp (past : m'.HandshakeOver) (sessionId : m'.sessionId = m.sessionId)
      (packets : out.packets = []) (events : out.events = [.ConnectFailed]) :
      SynSentStep m m' out .tick

/-- What one step can do to a machine in `SYN_RCVD` that has retries left. -/
inductive SynRcvdStep (m m' : SessionStateMachine) (out : Output) (now : ℚ) : Stimulus → Prop where
  /-- It keeps waiting. -/
  | waits {heard : Stimulus} (waits : m'.AwaitsAck) (sessionId : m'.sessionId = m.sessionId)
      (since : m'.pendingCtrlSince = m.pendingCtrlSince) (retries : m'.ctrlRetries = m.ctrlRetries)
      (packets : out.packets = []) (events : out.events = []) (other : heard ≠ .packet .Ack) :
      SynRcvdStep m m' out now heard
  /-- It transmits the SYN_ACK again. -/
  | again (waits : m'.AwaitsAck) (sessionId : m'.sessionId = m.sessionId)
      (due : m.timerDue now = true) (since : m'.pendingCtrlSince = now)
      (retries : m'.ctrlRetries = m.ctrlRetries + 1)
      (own : ∀ pkt ∈ out.packets, pkt.sessionId = m.sessionId)
      (synAcks : out.transmits .SynAck = 1) (events : out.events = []) :
      SynRcvdStep m m' out now .tick
  /-- It is `ESTABLISHED`. -/
  | connects (past : m'.HandshakeOver) (sessionId : m'.sessionId = m.sessionId)
      (packets : out.packets = []) (events : out.events = [.Established]) :
      SynRcvdStep m m' out now (.packet .Ack)

/-- What one step can do to a machine that listens; `sid` is the session of what it hears. -/
inductive ListeningStep (sid : ℤ) (m m' : SessionStateMachine) (out : Output) (now : ℚ) :
    Stimulus → Prop where
  /-- It keeps listening. -/
  | waits {heard : Stimulus} (waits : m'.Listening) (packets : out.packets = [])
      (events : out.events = []) (other : heard ≠ .packet .Syn) : ListeningStep sid m m' out now heard
  /-- It accepts the session. -/
  | accepts (waits : m'.AwaitsAck) (sessionId : m'.sessionId = sid)
      (since : m'.pendingCtrlSince = now) (retries : m'.ctrlRetries = 0)
      (own : ∀ pkt ∈ out.packets, pkt.sessionId = sid) (synAcks : out.transmits .SynAck = 1)
      (events : out.events = []) : ListeningStep sid m m' out now (.packet .Syn)

lemma AwaitsSynAck.refresh (h : m.AwaitsSynAck) (lastRecv : Option ℚ) :
    AwaitsSynAck { m with lastRecv } := ⟨h.state, h.pending⟩

lemma AwaitsAck.refresh (h : m.AwaitsAck) (lastRecv : Option ℚ) :
    AwaitsAck { m with lastRecv } := ⟨h.state, h.pending⟩

namespace SynSentStep

/-- Nothing happens. -/
lemma unchanged (h : m.AwaitsSynAck) {heard : Stimulus} (hother : heard ≠ .packet .SynAck) :
    SynSentStep m m {} heard :=
  .waits h rfl (by simp) rfl hother

lemma close (h : m.AwaitsSynAck) (now : ℚ) :
    SynSentStep m (m.close now).2 (m.close now).1 .call := by
  rw [SessionStateMachine.close, if_pos (by simp [h.state])]
  exact .unchanged h (by simp)

lemma heartbeat (h : m.AwaitsSynAck) (now : ℚ) :
    SynSentStep m (m.heartbeat now).2 (m.heartbeat now).1 .tick := by
  rw [SessionStateMachine.heartbeat, if_neg (by simp [h.state])]
  exact .unchanged h (by simp)

lemma onTick (h : m.AwaitsSynAck) {now : ℚ} (hidle : m.idleExpired now = false) :
    SynSentStep m (m.onTick now).2 (m.onTick now).1 .tick := by
  obtain ⟨pkt, hp, htype, hid⟩ := h.pending
  rw [SessionStateMachine.onTick, if_neg (by simp [hidle]), hp]
  dsimp only
  split_ifs
  · exact .givesUp (.of_state .Closed rfl (by decide) rfl) rfl rfl (by simp [giveUp, h.state])
  · exact .waits ⟨h.state, pkt, hp, htype, hid⟩ rfl (by simp [retransmit, htype, hid]) rfl (by simp)
  · exact .heartbeat h now

lemma onPacket (h : m.AwaitsSynAck) {pkt : Packet} (hid : pkt.sessionId = m.sessionId) (now : ℚ) :
    SynSentStep m (m.onPacket pkt now).2 (m.onPacket pkt now).1 (.packet pkt.type) := by
  have hinitial : ¬ m.responderInitial pkt := by
    rintro ⟨hclosed, -⟩
    simp [h.state] at hclosed
  rw [onPacket_eq_dispatch hinitial hid]
  by_cases htype : pkt.type = .SynAck
  · have hdispatch : { m with lastRecv := some now }.dispatch pkt now
        = { m with lastRecv := some now }.acceptSynAck pkt now := by
      simp [SessionStateMachine.dispatch, h.state, htype]
    rw [hdispatch, htype]
    refine .connects (.of_state .Established rfl (by decide) rfl) rfl ?_ rfl rfl
    simp [acceptSynAck, ackPacket, make, clearPending]
  · have hdispatch : { m with lastRecv := some now }.dispatch pkt now
        = ({}, { m with lastRecv := some now }) := by
      simp [SessionStateMachine.dispatch, h.state, htype]
    rw [hdispatch]
    exact .waits (h.refresh _) rfl (by simp) rfl (by simpa using htype)

/-- What an initiator in `SYN_SENT` acknowledges. -/
lemma ackStep {m' : SessionStateMachine} {out : Output} {heard : Stimulus}
    (h : SynSentStep m m' out heard) (hstate : m.state = .SynSent) : AckStep m out heard := by
  cases h with
  | waits _ _ hown _ hother =>
      rw [AckStep, if_neg (by simp [hother]), Output.transmits]
      exact List.countP_eq_zero.mpr fun pkt hp => by simp [(hown pkt hp).2]
  | connects _ _ _ _ hacks => rw [AckStep, if_pos ⟨rfl, Or.inl hstate⟩, hacks]
  | givesUp _ _ hpackets _ =>
      rw [AckStep, if_neg (by simp), Output.transmits, hpackets]
      rfl

end SynSentStep

namespace SynRcvdStep

/-- Nothing happens. -/
lemma unchanged (h : m.AwaitsAck) {now : ℚ} {heard : Stimulus} (hother : heard ≠ .packet .Ack) :
    SynRcvdStep m m {} now heard :=
  .waits h rfl rfl rfl rfl rfl hother

lemma connect (h : m.AwaitsAck) (now : ℚ) :
    SynRcvdStep m (m.connect now).2 (m.connect now).1 now .call := by
  rw [SessionStateMachine.connect, if_pos (by simp [h.state])]
  exact .unchanged h (by simp)

lemma close (h : m.AwaitsAck) (now : ℚ) :
    SynRcvdStep m (m.close now).2 (m.close now).1 now .call := by
  rw [SessionStateMachine.close, if_pos (by simp [h.state])]
  exact .unchanged h (by simp)

lemma heartbeat (h : m.AwaitsAck) (now : ℚ) :
    SynRcvdStep m (m.heartbeat now).2 (m.heartbeat now).1 now .tick := by
  rw [SessionStateMachine.heartbeat, if_neg (by simp [h.state])]
  exact .unchanged h (by simp)

/-- A tick retransmits the SYN_ACK when its time has come, as long as there are retries left. -/
lemma onTick (h : m.AwaitsAck) {now : ℚ} (hidle : m.idleExpired now = false)
    (hleft : m.timerDue now = true → (m.ctrlRetries : ℤ) ≤ m.maxControlRetries) :
    SynRcvdStep m (m.onTick now).2 (m.onTick now).1 now .tick := by
  obtain ⟨pkt, hp, htype, hid⟩ := h.pending
  rw [SessionStateMachine.onTick, if_neg (by simp [hidle]), hp]
  dsimp only
  split_ifs with hdue hgiveUp
  · exact absurd (hleft (by simp [timerDue, hp, hdue])) (not_le.mpr hgiveUp)
  · exact .again ⟨h.state, pkt, hp, htype, hid⟩ rfl (by simp [timerDue, hp, hdue]) rfl rfl
      (by simp [retransmit, hid]) (by simp [retransmit, Output.transmits, htype]) rfl
  · exact .heartbeat h now

lemma onPacket (h : m.AwaitsAck) {pkt : Packet} (hid : pkt.sessionId = m.sessionId) (now : ℚ) :
    SynRcvdStep m (m.onPacket pkt now).2 (m.onPacket pkt now).1 now (.packet pkt.type) := by
  have hinitial : ¬ m.responderInitial pkt := by
    rintro ⟨hclosed, -⟩
    simp [h.state] at hclosed
  rw [onPacket_eq_dispatch hinitial hid]
  by_cases htype : pkt.type = .Ack
  · have hdispatch : { m with lastRecv := some now }.dispatch pkt now
        = { m with lastRecv := some now }.acceptAck := by
      simp [SessionStateMachine.dispatch, h.state, htype]
    rw [hdispatch, htype]
    exact .connects (.of_state .Established rfl (by decide) rfl) rfl rfl rfl
  · have hdispatch : { m with lastRecv := some now }.dispatch pkt now
        = ({}, { m with lastRecv := some now }) := by
      simp [SessionStateMachine.dispatch, h.state, htype]
    rw [hdispatch]
    exact .waits (h.refresh _) rfl rfl rfl rfl rfl (by simpa using htype)

end SynRcvdStep

namespace ListeningStep

variable {sid : ℤ}

/-- Nothing happens. -/
lemma unchanged (h : m.Listening) {now : ℚ} {heard : Stimulus} (hother : heard ≠ .packet .Syn) :
    ListeningStep sid m m {} now heard :=
  .waits h rfl rfl hother

lemma close (h : m.Listening) (now : ℚ) :
    ListeningStep sid m (m.close now).2 (m.close now).1 now .call := by
  rw [SessionStateMachine.close, if_pos (by simp [h.state])]
  exact .unchanged h (by simp)

lemma onTick (h : m.Listening) (now : ℚ) :
    ListeningStep sid m (m.onTick now).2 (m.onTick now).1 now .tick := by
  have htick : m.onTick now = ({}, m) := by
    simp [SessionStateMachine.onTick, SessionStateMachine.heartbeat, h.state, h.pending]
  rw [htick]
  exact .unchanged h (by simp)

lemma onPacket (h : m.Listening) (hresponder : m.isInitiator = false) (pkt : Packet) (now : ℚ) :
    ListeningStep pkt.sessionId m (m.onPacket pkt now).2 (m.onPacket pkt now).1 now
      (.packet pkt.type) := by
  by_cases htype : pkt.type = .Syn
  · have hinitial : m.responderInitial pkt := ⟨h.state, hresponder, htype⟩
    rw [SessionStateMachine.onPacket, if_neg (fun hne => hne.1 hinitial), if_pos hinitial, htype]
    exact .accepts ⟨rfl, _, rfl, rfl, rfl⟩ rfl rfl rfl
      (by simp [acceptSyn, synAckPacket, make]) rfl rfl
  · have hinitial : ¬ m.responderInitial pkt := fun hsyn => htype hsyn.2.2
    have hother : Stimulus.packet pkt.type ≠ .packet .Syn := by simpa using htype
    by_cases hid : pkt.sessionId = m.sessionId
    · have hdispatch : { m with lastRecv := some now }.dispatch pkt now
          = ({}, { m with lastRecv := some now }) := by
        simp [SessionStateMachine.dispatch, h.state]
      rw [onPacket_eq_dispatch hinitial hid, hdispatch]
      exact .waits ⟨h.state, h.pending⟩ rfl rfl hother
    · rw [SessionStateMachine.onPacket, if_pos ⟨hinitial, hid⟩]
      exact .unchanged h hother

end ListeningStep

end SessionStateMachine

/-! ## The side that acts

The same for a side of the link, with what the guard of an action gives.
-/

open SessionStateMachine

section Acting

variable {link : ControlLink} {act : LinkAction} {sid : ℤ}

/-- An initiator whose handshake is over. -/
lemma overStep_initiator (h : (link.party act.side).machine.HandshakeOver)
    (hinitiator : (link.party act.side).machine.isInitiator = true)
    (hsent : (link.party act.side).sent ≠ []) (he : link.enabled act) :
    OverStep (link.party act.side).machine (link.answer act).2 (link.answer act).1 := by
  refine answer_cases (P := fun answer _ =>
    OverStep (link.party act.side).machine answer.2 answer.1) he ?_ ?_ ?_ ?_
  · exact fun hnil => absurd hnil hsent
  · exact .close h _
  · exact fun hidle _ => .onTick h hidle
  · intro pkt _
    refine .onPacket h ?_ _
    rintro ⟨-, hresponder, -⟩
    simp [hinitiator] at hresponder

/-- What it acknowledges. -/
lemma ackStep_initiator (h : (link.party act.side).machine.HandshakeOver)
    (hinitiator : (link.party act.side).machine.isInitiator = true)
    (hsent : (link.party act.side).sent ≠ [])
    (hids : ∀ pkt ∈ (link.party act.side).inbox,
      pkt.sessionId = (link.party act.side).machine.sessionId) (he : link.enabled act) :
    AckStep (link.party act.side).machine (link.answer act).1 (link.stimulus act) := by
  refine answer_cases (P := fun answer heard =>
    AckStep (link.party act.side).machine answer.1 heard) he ?_ ?_ ?_ ?_
  · exact fun hnil => absurd hnil hsent
  · exact .close _ _
  · exact fun hidle _ => .onTick h hidle
  · intro pkt hpkt
    refine .onPacket h ?_ (hids pkt hpkt) _
    rintro ⟨-, hresponder, -⟩
    simp [hinitiator] at hresponder

/-- A responder whose handshake is over, when no SYN can reach it. -/
lemma overStep_responder (h : (link.party act.side).machine.HandshakeOver)
    (hresponder : (link.party act.side).machine.isInitiator = false)
    (hsyn : ∀ pkt ∈ (link.party act.side).inbox, pkt.type ≠ .Syn) (he : link.enabled act) :
    OverStep (link.party act.side).machine (link.answer act).2 (link.answer act).1 := by
  refine answer_cases (P := fun answer _ =>
    OverStep (link.party act.side).machine answer.2 answer.1) he ?_ ?_ ?_ ?_
  · intro _
    rw [SessionStateMachine.connect, if_pos (by simp [hresponder])]
    exact .unchanged h
  · exact .close h _
  · exact fun hidle _ => .onTick h hidle
  · exact fun pkt hpkt => .onPacket h (fun hinitial => hsyn pkt hpkt hinitial.2.2) _

lemma synSentStep (h : (link.party act.side).machine.AwaitsSynAck)
    (hsent : (link.party act.side).sent ≠ [])
    (hids : ∀ pkt ∈ (link.party act.side).inbox,
      pkt.sessionId = (link.party act.side).machine.sessionId) (he : link.enabled act) :
    SynSentStep (link.party act.side).machine (link.answer act).2 (link.answer act).1
      (link.stimulus act) := by
  refine answer_cases (P := fun answer heard =>
    SynSentStep (link.party act.side).machine answer.2 answer.1 heard) he ?_ ?_ ?_ ?_
  · exact fun hnil => absurd hnil hsent
  · exact .close h _
  · exact fun hidle _ => .onTick h hidle
  · exact fun pkt hpkt => .onPacket h (hids pkt hpkt) _

lemma synRcvdStep (h : (link.party act.side).machine.AwaitsAck)
    (hids : ∀ pkt ∈ (link.party act.side).inbox,
      pkt.sessionId = (link.party act.side).machine.sessionId) (he : link.enabled act)
    (hleft : ∀ pkt, (link.party act.side).machine.pendingCtrl = some pkt →
      link.Settled act.side pkt → ((link.party act.side).machine.ctrlRetries : ℤ)
        ≤ (link.party act.side).machine.maxControlRetries) :
    SynRcvdStep (link.party act.side).machine (link.answer act).2 (link.answer act).1
      (link.time act) (link.stimulus act) := by
  refine answer_cases (P := fun answer heard =>
    SynRcvdStep (link.party act.side).machine answer.2 answer.1 (link.time act) heard) he ?_ ?_ ?_ ?_
  · exact fun _ => .connect h _
  · exact .close h _
  · intro hidle hsettled
    refine .onTick h hidle fun hdue => ?_
    obtain ⟨pkt, hpkt, -⟩ := h.pending
    exact hleft pkt hpkt (hsettled hdue pkt hpkt)
  · exact fun pkt hpkt => .onPacket h (hids pkt hpkt) _

lemma listeningStep (h : (link.party act.side).machine.Listening)
    (hresponder : (link.party act.side).machine.isInitiator = false)
    (hids : ∀ pkt ∈ (link.party act.side).inbox, pkt.sessionId = sid) (he : link.enabled act) :
    ListeningStep sid (link.party act.side).machine (link.answer act).2 (link.answer act).1
      (link.time act) (link.stimulus act) := by
  refine answer_cases (P := fun answer heard =>
    ListeningStep sid (link.party act.side).machine answer.2 answer.1 (link.time act) heard)
    he ?_ ?_ ?_ ?_
  · intro _
    rw [SessionStateMachine.connect, if_pos (by simp [hresponder])]
    exact .unchanged h (by simp)
  · exact .close h _
  · exact fun _ _ => .onTick h _
  · intro pkt hpkt
    rw [← hids pkt hpkt]
    exact .onPacket h hresponder pkt _

/-- The step of an initiator to which nothing is on its way: it connects, or nothing happens. -/
lemma unbornStep (h : (link.party act.side).machine.Listening)
    (hinbox : (link.party act.side).inbox = []) (he : link.enabled act) :
    (link.answer act).2 = (link.party act.side).machine ∧ (link.answer act).1 = {} ∨
      (link.answer act).2.AwaitsSynAck ∧
        (link.answer act).2.sessionId = (link.party act.side).machine.sessionId ∧
        (∀ pkt ∈ (link.answer act).1.packets,
          pkt.sessionId = (link.party act.side).machine.sessionId ∧ pkt.type = .Syn) ∧
        (link.answer act).1.packets ≠ [] ∧ (link.answer act).1.events = [] := by
  refine answer_cases (P := fun answer _ =>
    answer.2 = (link.party act.side).machine ∧ answer.1 = {} ∨
      answer.2.AwaitsSynAck ∧ answer.2.sessionId = (link.party act.side).machine.sessionId ∧
      (∀ pkt ∈ answer.1.packets,
        pkt.sessionId = (link.party act.side).machine.sessionId ∧ pkt.type = .Syn) ∧
      answer.1.packets ≠ [] ∧ answer.1.events = []) he ?_ ?_ ?_ ?_
  · intro _
    rw [SessionStateMachine.connect]
    split_ifs
    · exact Or.inl ⟨rfl, rfl⟩
    · exact Or.inr ⟨⟨rfl, _, rfl, rfl, rfl⟩, rfl, by simp [synPacket, make], by simp, rfl⟩
  · rw [SessionStateMachine.close, if_pos (by simp [h.state])]
    exact Or.inl ⟨rfl, rfl⟩
  · intro _ _
    simp [SessionStateMachine.onTick, SessionStateMachine.heartbeat, h.state, h.pending]
  · intro pkt hpkt
    rw [hinbox] at hpkt
    cases hpkt

end Acting

/-! ## Where the link can be

The phases, as structures with all that is known in them.
-/

/-- The branches that do not answer a SYN_ACK are not taken by a connected initiator while the
responder waits. -/
def SynAcksAnswered (link : ControlLink) (act : LinkAction) : Prop :=
  act.side = .Initiator → link.stimulus act = .packet .SynAck →
    (link.party .Responder).machine.state = .SynRcvd →
    (link.party .Initiator).Surfaced .Established →
    (link.party .Initiator).machine.state = .Established

instance (link : ControlLink) (act : LinkAction) : Decidable (SynAcksAnswered link act) :=
  inferInstanceAs (Decidable (_ → _ → _ → _ → _))

/-- What holds of the two sides until the initiator gives up. -/
structure Shared (sid maxRetries : ℤ) (caller listener : Party) : Prop where
  initiator : caller.machine.isInitiator = true
  responder : listener.machine.isInitiator = false
  sessionId : caller.machine.sessionId = sid
  maxControlRetries : listener.machine.maxControlRetries = maxRetries
  callerInbox : ∀ pkt ∈ caller.inbox, pkt.sessionId = sid
  listenerInbox : ∀ pkt ∈ listener.inbox, pkt.sessionId = sid
  alive : ¬ listener.Surfaced .ConnectFailed

/-- The responder has not heard of the initiator. -/
structure Opening (caller listener : Party) : Prop where
  listening : listener.machine.Listening
  calling : caller.machine.Listening ∧ caller.sent = [] ∧ listener.inbox = [] ∨
    caller.machine.AwaitsSynAck ∧ caller.sent ≠ []
  inbox : caller.inbox = []
  acks : caller.fates .Ack = []
  synAcks : listener.fates .SynAck = []
  syns : ∀ pkt ∈ listener.inbox, pkt.type = .Syn
  unconnected : ¬ caller.Surfaced .Established

/-- The initiator waits for the SYN_ACK, or has heard it. -/
inductive Called (caller : Party) : Prop where
  | waits (machine : caller.machine.AwaitsSynAck) (acks : caller.fates .Ack = [])
      (unconnected : ¬ caller.Surfaced .Established)
  | connected (machine : caller.machine.HandshakeOver) (surfaced : caller.Surfaced .Established)

/-- The responder waits for an ACK.  It began to wait at a time `s`, before the initiator connected,
and its timer is on schedule. -/
structure Exchanging (sid : ℤ) (rto : ℚ) (N : ℕ) (caller listener : Party) (clock : ℚ) : Prop where
  waits : listener.machine.AwaitsAck
  sessionId : listener.machine.sessionId = sid
  called : Called caller
  sent : caller.sent ≠ []
  account : Exchange.Open (listener.fates .SynAck) (caller.fates .Ack) (caller.arriving .SynAck)
    (listener.arriving .Ack)
  retries : (listener.fates .SynAck).length = listener.machine.ctrlRetries + 1
  budget : listener.machine.ctrlRetries + 1 ≤ N
  order : listener.inbox.Pairwise fun p q => p.type = .Ack → q.type ≠ .Syn
  begun : ∃ s ≤ clock,
    listener.machine.pendingCtrlSince ≤ s + 2 * rto * listener.machine.ctrlRetries ∧
    ∀ t, (SessionEvent.Established, t) ∈ caller.surfaced → s ≤ t

/-- The responder has heard an ACK. -/
structure Completed (sid : ℤ) (caller listener : Party) : Prop where
  callerOver : caller.machine.HandshakeOver
  sent : caller.sent ≠ []
  listenerOver : listener.machine.HandshakeOver
  sessionId : listener.machine.sessionId = sid
  connected : listener.Surfaced .Established
  syns : ∀ pkt ∈ listener.inbox, pkt.type ≠ .Syn

/-- The initiator has given up. -/
structure Abandoned (caller : Party) : Prop where
  initiator : caller.machine.isInitiator = true
  callerOver : caller.machine.HandshakeOver
  sent : caller.sent ≠ []
  unconnected : ¬ caller.Surfaced .Established

/-- Where the link can be. -/
inductive Handshake (sid maxRetries : ℤ) (rto : ℚ) (N : ℕ) (caller listener : Party) (clock : ℚ) :
    Prop where
  | opening (shared : Shared sid maxRetries caller listener) (link : Opening caller listener)
  | exchanging (shared : Shared sid maxRetries caller listener)
      (link : Exchanging sid rto N caller listener clock)
  | completed (shared : Shared sid maxRetries caller listener)
      (link : Completed sid caller listener)
  | abandoned (link : Abandoned caller)

section Steps

variable {sid maxRetries : ℤ} {rto : ℚ} {N j k : ℕ} {link : ControlLink} {act : LinkAction}

lemma isInitiator_next (x : Side) :
    ((link.next act).party x).machine.isInitiator = (link.party x).machine.isInitiator :=
  congrArg Config.isInitiator (config_next x)

/-- What has been transmitted stays transmitted. -/
lemma sent_next_self (h : (link.party act.side).sent ≠ []) :
    ((link.next act).party act.side).sent ≠ [] := by
  rw [next_self]
  exact fun hnil => h (List.append_eq_nil_iff.mp hnil).1

/-- The initiator acts. -/
lemma Shared.next_caller (h : Shared sid maxRetries (link.party act.side) (link.party act.side.peer))
    (hid : (link.answer act).2.sessionId = (link.party act.side).machine.sessionId)
    (hown : ∀ pkt ∈ (link.answer act).1.packets,
      pkt.sessionId = (link.party act.side).machine.sessionId) :
    Shared sid maxRetries ((link.next act).party act.side) ((link.next act).party act.side.peer) := by
  refine ⟨(isInitiator_next _).trans h.initiator, (isInitiator_next _).trans h.responder, ?_,
    (congrArg Config.maxControlRetries (config_next _)).trans h.maxControlRetries, ?_, ?_, ?_⟩
  · rw [machine_next_self, hid, h.sessionId]
  · intro pkt hp
    rw [next_self] at hp
    exact h.callerInbox pkt (mem_inbox_taken hp)
  · intro pkt hp
    rw [next_peer] at hp
    rcases List.mem_append.mp hp with hold | hnew
    · exact h.listenerInbox pkt hold
    · exact (hown pkt (mem_arrivals hnew)).trans h.sessionId
  · rw [surfaced_next_peer]
    exact h.alive

/-- The responder acts. -/
lemma Shared.next_listener
    (h : Shared sid maxRetries (link.party act.side.peer) (link.party act.side))
    (hown : ∀ pkt ∈ (link.answer act).1.packets, pkt.sessionId = sid)
    (halive : .ConnectFailed ∉ (link.answer act).1.events) :
    Shared sid maxRetries ((link.next act).party act.side.peer) ((link.next act).party act.side) := by
  refine ⟨(isInitiator_next _).trans h.initiator, (isInitiator_next _).trans h.responder, ?_,
    (congrArg Config.maxControlRetries (config_next _)).trans h.maxControlRetries, ?_, ?_, ?_⟩
  · rw [machine_next_peer, h.sessionId]
  · intro pkt hp
    rw [next_peer] at hp
    rcases List.mem_append.mp hp with hold | hnew
    · exact h.callerInbox pkt hold
    · exact hown pkt (mem_arrivals hnew)
  · intro pkt hp
    rw [next_self] at hp
    exact h.listenerInbox pkt (mem_inbox_taken hp)
  · rw [surfaced_next_self]
    rintro (hold | hnew)
    · exact h.alive hold
    · exact halive hnew

/-! ### Before the SYN arrives

The initiator may repeat its SYN or give up; the responder hears nothing, or the SYN.
-/

/-- An initiator that gives up. -/
lemma Abandoned.begin (hinitiator : (link.party act.side).machine.isInitiator = true)
    (hover : (link.answer act).2.HandshakeOver) (hsent : (link.party act.side).sent ≠ [])
    (hunconnected : ¬ (link.party act.side).Surfaced .Established)
    (hevents : (link.answer act).1.events = [.ConnectFailed]) :
    Abandoned ((link.next act).party act.side) := by
  refine ⟨(isInitiator_next _).trans hinitiator, ?_, sent_next_self hsent, ?_⟩
  · rw [machine_next_self]
    exact hover
  · rw [surfaced_next_self, hevents]
    simpa using hunconnected

/-- The initiator puts SYNs on the link. -/
lemma Opening.call (h : Opening (link.party act.side) (link.party act.side.peer))
    (he : link.enabled act) (hsyn : ∀ pkt ∈ (link.answer act).1.packets, pkt.type = .Syn)
    (hevents : (link.answer act).1.events = [])
    (hcalling : (link.answer act).2.Listening ∧ ((link.next act).party act.side).sent = [] ∧
        ((link.next act).party act.side.peer).inbox = [] ∨
      (link.answer act).2.AwaitsSynAck ∧ ((link.next act).party act.side).sent ≠ []) :
    Opening ((link.next act).party act.side) ((link.next act).party act.side.peer) := by
  refine ⟨?_, ?_, ?_, ?_, ?_, ?_, ?_⟩
  · rw [machine_next_peer]
    exact h.listening
  · rw [machine_next_self]
    exact hcalling
  · rw [next_self]
    refine List.eq_nil_iff_forall_not_mem.mpr fun pkt hp => ?_
    have hold := mem_inbox_taken hp
    rw [h.inbox] at hold
    cases hold
  · rw [fates_next_self, h.acks, fatesOf_transmitted_eq_nil he fun pkt hp => by simp [hsyn pkt hp]]
    rfl
  · rw [fates_next_peer, h.synAcks]
  · intro pkt hp
    rw [next_peer] at hp
    rcases List.mem_append.mp hp with hold | hnew
    · exact h.syns pkt hold
    · exact hsyn pkt (mem_arrivals hnew)
  · rw [surfaced_next_self, hevents]
    simpa using h.unconnected

/-- The initiator acts. -/
lemma Opening.next_caller (h : Opening (link.party act.side) (link.party act.side.peer))
    (hs : Shared sid maxRetries (link.party act.side) (link.party act.side.peer))
    (he : link.enabled act) :
    Handshake sid maxRetries rto N ((link.next act).party act.side)
      ((link.next act).party act.side.peer) (link.next act).clock := by
  rcases h.calling with ⟨hlistening, hsent, hbox⟩ | ⟨hwaits, hsent⟩
  · rcases unbornStep hlistening h.inbox he with
      ⟨hsame, hout⟩ | ⟨hwaits', hid, hsyn, hne, hevents⟩
    · -- nothing happens
      have hpackets : (link.answer act).1.packets = [] := by rw [hout]
      refine .opening (hs.next_caller (by rw [hsame]) (by simp [hpackets]))
        (h.call he (by simp [hpackets]) (by rw [hout]) (Or.inl ⟨hsame ▸ hlistening, ?_, ?_⟩))
      · rw [next_self, transmitted_eq_nil hpackets, hsent]
        rfl
      · rw [next_peer, transmitted_eq_nil hpackets, hbox]
        rfl
    · refine .opening (hs.next_caller hid fun pkt hp => (hsyn pkt hp).1)
        (h.call he (fun pkt hp => (hsyn pkt hp).2) hevents (Or.inr ⟨hwaits', ?_⟩))
      rw [next_self]
      exact fun hnil => transmitted_ne_nil he hne (List.append_eq_nil_iff.mp hnil).2
  · have hstep := synSentStep hwaits hsent (by simp [h.inbox]) he
    generalize hheard : link.stimulus act = heard at hstep
    cases hstep with
    | waits hwaits' hid hown hevents _ =>
        exact .opening (hs.next_caller hid fun pkt hp => (hown pkt hp).1)
          (h.call he (fun pkt hp => (hown pkt hp).2) hevents
            (Or.inr ⟨hwaits', sent_next_self hsent⟩))
    | connects =>
        obtain ⟨pkt, hbox, -⟩ := inbox_eq_of_heard hheard
        rw [h.inbox] at hbox
        cases hbox
    | givesUp hover _ _ hevents =>
        exact .abandoned (.begin hs.initiator hover hsent h.unconnected hevents)

/-- The responder acts. -/
lemma Opening.next_listener (h : Opening (link.party act.side.peer) (link.party act.side))
    (hs : Shared sid maxRetries (link.party act.side.peer) (link.party act.side))
    (he : link.enabled act) (hN : 0 < N) :
    Handshake sid maxRetries rto N ((link.next act).party act.side.peer)
      ((link.next act).party act.side) (link.next act).clock := by
  have hstep := listeningStep h.listening hs.responder hs.listenerInbox he
  have htaken : ∀ pkt ∈ (link.taken act).inbox, pkt.type = .Syn := fun pkt hp =>
    h.syns pkt (mem_inbox_taken hp)
  generalize hheard : link.stimulus act = heard at hstep
  cases hstep with
  | waits hwaits hpackets hevents _ =>
      refine .opening (hs.next_listener (by simp [hpackets]) (by simp [hevents])) ?_
      refine ⟨?_, ?_, ?_, ?_, ?_, ?_, ?_⟩
      · rw [machine_next_self]
        exact hwaits
      · rw [machine_next_peer, next_self, next_peer]
        rcases h.calling with ⟨hlistening, hsent, hbox⟩ | hwaits
        · refine Or.inl ⟨hlistening, hsent, List.eq_nil_iff_forall_not_mem.mpr fun pkt hp => ?_⟩
          have hold := mem_inbox_taken hp
          rw [hbox] at hold
          cases hold
        · exact Or.inr hwaits
      · rw [next_peer, transmitted_eq_nil hpackets, h.inbox]
        rfl
      · rw [fates_next_peer, h.acks]
      · rw [fates_next_self, h.synAcks, transmitted_eq_nil hpackets]
        rfl
      · rw [next_self]
        exact htaken
      · rw [surfaced_next_peer]
        exact h.unconnected
  | accepts hwaits hid hsince hretries hown hsynAcks hevents =>
      have hcalling : (link.party act.side.peer).machine.AwaitsSynAck ∧
          (link.party act.side.peer).sent ≠ [] := by
        rcases h.calling with ⟨-, -, hbox⟩ | hwaits
        · obtain ⟨pkt, hcons, -⟩ := inbox_eq_of_heard hheard
          rw [hbox] at hcons
          cases hcons
        · exact hwaits
      have hnone : (link.taken act).arriving .Ack = 0 :=
        List.countP_eq_zero.mpr fun pkt hp => by simp [htaken pkt hp]
      have hempty : (link.party act.side.peer).arriving .SynAck = 0 := by
        rw [Party.arriving, h.inbox]
        rfl
      have hlength := length_transmitted he .SynAck
      refine .exchanging (hs.next_listener hown (by simp [hevents])) ?_
      refine ⟨?_, ?_, ?_, ?_, ?_, ?_, ?_, ?_, link.time act, ?_, ?_, ?_⟩
      · rw [machine_next_self]
        exact hwaits
      · rw [machine_next_self]
        exact hid
      · refine .waits ?_ ?_ ?_
        · rw [machine_next_peer]
          exact hcalling.1
        · rw [fates_next_peer, h.acks]
        · rw [surfaced_next_peer]
          exact h.unconnected
      · rw [next_peer]
        exact hcalling.2
      · rw [fates_next_self, fates_next_peer, arriving_next_peer, arriving_next_self, h.synAcks,
          h.acks, hnone, hempty]
        exact Exchange.Open.start.ask _
      · rw [fates_next_self, h.synAcks, List.nil_append, hlength, hsynAcks, machine_next_self,
          hretries]
      · rw [machine_next_self, hretries]
        exact hN
      · rw [next_self]
        exact List.pairwise_of_forall_mem_list fun p hp q _ hack => by simp [htaken p hp] at hack
      · rw [clock_next]
      · rw [machine_next_self, hsince, hretries]
        simp
      · intro t ht
        rw [next_peer] at ht
        exact absurd (List.mem_map.mpr ⟨_, ht, rfl⟩) h.unconnected

/-! ### While the responder waits

Each step keeps the account of the exchange, completes the handshake, or is the initiator's giving
up.
-/

/-- The account when the initiator acts: it answers every SYN_ACK. -/
lemma Exchanging.account_caller
    (h : Exchanging sid rto N (link.party act.side) (link.party act.side.peer) link.clock)
    (he : link.enabled act)
    (hack : AckStep (link.party act.side).machine (link.answer act).1 (link.stimulus act))
    (hanswers : link.stimulus act = .packet .SynAck → (link.party act.side).machine.state = .SynSent ∨
      (link.party act.side).machine.state = .Established) :
    Exchange.Open ((link.party act.side.peer).fates .SynAck)
      ((link.party act.side).fates .Ack ++ fatesOf .Ack (link.transmitted act))
      ((link.taken act).arriving .SynAck)
      ((link.party act.side.peer).arriving .Ack
        + (fatesOf .Ack (link.transmitted act)).count true) := by
  have haccount := h.account
  have hlength := length_transmitted he .Ack
  have htaken := arriving_taken link act .SynAck
  rw [hack] at hlength
  by_cases hheard : link.stimulus act = .packet .SynAck
  · rw [if_pos hheard] at htaken
    rw [if_pos ⟨hheard, hanswers hheard⟩] at hlength
    rw [← htaken] at haccount
    exact haccount.answer hlength
  · rw [if_neg hheard, Nat.add_zero] at htaken
    rw [if_neg fun hand => hheard hand.1] at hlength
    rw [List.eq_nil_of_length_eq_zero hlength, htaken, List.append_nil]
    exact haccount

/-- The initiator acts, and does not give up. -/
lemma Exchanging.call
    (h : Exchanging sid rto N (link.party act.side) (link.party act.side.peer) link.clock)
    (he : link.enabled act) (hcalled : Called ((link.next act).party act.side))
    (hack : AckStep (link.party act.side).machine (link.answer act).1 (link.stimulus act))
    (hanswers : link.stimulus act = .packet .SynAck → (link.party act.side).machine.state = .SynSent ∨
      (link.party act.side).machine.state = .Established)
    (hsyn : (∀ pkt ∈ (link.answer act).1.packets, pkt.type ≠ .Syn) ∨
      (link.party act.side).fates .Ack = [] ∧ ∀ pkt ∈ (link.answer act).1.packets, pkt.type = .Syn) :
    Exchanging sid rto N ((link.next act).party act.side) ((link.next act).party act.side.peer)
      (link.next act).clock := by
  have hclock : link.clock ≤ link.time act := he.1
  refine ⟨?_, ?_, hcalled, sent_next_self h.sent, ?_, ?_, ?_, ?_, ?_⟩
  · rw [machine_next_peer]
    exact h.waits
  · rw [machine_next_peer]
    exact h.sessionId
  · rw [fates_next_peer, fates_next_self, arriving_next_self, arriving_next_peer]
    exact h.account_caller he hack hanswers
  · rw [fates_next_peer, machine_next_peer]
    exact h.retries
  · rw [machine_next_peer]
    exact h.budget
  · rw [next_peer]
    refine List.pairwise_append.mpr ⟨h.order, ?_, ?_⟩
    · refine List.pairwise_of_forall_mem_list fun p hp q hq hack => ?_
      rcases hsyn with hnone | ⟨-, hall⟩
      · exact hnone q (mem_arrivals hq)
      · simp [hall p (mem_arrivals hp)] at hack
    · intro p hp q hq hack
      rcases hsyn with hnone | ⟨hacks, -⟩
      · exact hnone q (mem_arrivals hq)
      · -- no ACK has been transmitted
        have hzero := h.account.unheard
        rw [hacks, List.count_nil, eq_comm, Party.arriving, List.countP_eq_zero] at hzero
        exact absurd hack (by simpa using hzero p hp)
  · obtain ⟨s, hs, hsince, hafter⟩ := h.begun
    refine ⟨s, ?_, ?_, ?_⟩
    · rw [clock_next]
      exact hs.trans hclock
    · rw [machine_next_peer]
      exact hsince
    · intro t ht
      rw [next_self] at ht
      rcases List.mem_append.mp ht with hold | hnew
      · exact hafter t hold
      · obtain ⟨event, -, heq⟩ := List.mem_map.mp hnew
        cases heq
        exact hs.trans hclock

/-- The initiator acts. -/
lemma Exchanging.next_caller
    (h : Exchanging sid rto N (link.party act.side) (link.party act.side.peer) link.clock)
    (hs : Shared sid maxRetries (link.party act.side) (link.party act.side.peer))
    (he : link.enabled act)
    (hok : link.stimulus act = .packet .SynAck → (link.party act.side).Surfaced .Established →
      (link.party act.side).machine.state = .Established) :
    Handshake sid maxRetries rto N ((link.next act).party act.side)
      ((link.next act).party act.side.peer) (link.next act).clock := by
  have hids : ∀ pkt ∈ (link.party act.side).inbox,
      pkt.sessionId = (link.party act.side).machine.sessionId := fun pkt hp =>
    (hs.callerInbox pkt hp).trans hs.sessionId.symm
  cases h.called with
  | waits hwaits hacks hunconnected =>
      have hstep := synSentStep hwaits h.sent hids he
      have hack := hstep.ackStep hwaits.state
      have hanswers : link.stimulus act = .packet .SynAck →
          (link.party act.side).machine.state = .SynSent ∨
            (link.party act.side).machine.state = .Established :=
        fun _ => Or.inl hwaits.state
      generalize link.stimulus act = heard at hstep
      cases hstep with
      | waits hwaits' hid hown hevents _ =>
          refine .exchanging (hs.next_caller hid fun pkt hp => (hown pkt hp).1)
            (h.call he (.waits ?_ ?_ ?_) hack hanswers
              (Or.inr ⟨hacks, fun pkt hp => (hown pkt hp).2⟩))
          · rw [machine_next_self]
            exact hwaits'
          · rw [fates_next_self, hacks, fatesOf_transmitted_eq_nil he fun pkt hp => by
              simp [(hown pkt hp).2]]
            rfl
          · rw [surfaced_next_self, hevents]
            simpa using hunconnected
      | connects hover hid hown hevents _ =>
          refine .exchanging (hs.next_caller hid fun pkt hp => (hown pkt hp).1)
            (h.call he (.connected ?_ ?_) hack hanswers (Or.inl fun pkt hp => (hown pkt hp).2))
          · rw [machine_next_self]
            exact hover
          · rw [surfaced_next_self, hevents]
            exact Or.inr (List.mem_singleton_self _)
      | givesUp hover _ _ hevents =>
          exact .abandoned (.begin hs.initiator hover h.sent hunconnected hevents)
  | connected hover hsurfaced =>
      have hstep := overStep_initiator hover hs.initiator h.sent he
      have hack := ackStep_initiator hover hs.initiator h.sent hids he
      refine .exchanging (hs.next_caller hstep.sessionId fun pkt hp => (hstep.own pkt hp).1)
        (h.call he (.connected ?_ ?_) hack (fun hheard => Or.inr (hok hheard hsurfaced))
          (Or.inl fun pkt hp => (hstep.own pkt hp).2))
      · rw [machine_next_self]
        exact hstep.past
      · rw [surfaced_next_self]
        exact Or.inl hsurfaced

/-- **When the SYN_ACK's timer runs out, there are retries left.** -/
lemma Exchanging.left_of_due
    (h : Exchanging sid rto (j * k) (link.party act.side.peer) (link.party act.side) link.clock)
    (hj : 0 < j) (hk : 0 < k) (hloss : LossBounded .SynAck j k link) {pkt : Packet}
    (hpending : (link.party act.side).machine.pendingCtrl = some pkt)
    (hsettled : link.Settled act.side pkt) :
    (link.party act.side).machine.ctrlRetries + 1 < j * k := by
  obtain ⟨synAck, hsynAck, htype, -⟩ := h.waits.pending
  obtain rfl : pkt = synAck := Option.some.inj (hpending.symm.trans hsynAck)
  have haccount := h.account
  rw [Settled, htype] at hsettled
  rw [hsettled.1, show (link.party act.side).arriving .Ack = 0 from hsettled.2] at haccount
  have hlt := haccount.length_lt hj hk (hloss act.side).1 (hloss act.side.peer).2
  rwa [h.retries] at hlt

/-- What is said of the initiator does not change when the responder acts. -/
lemma Called.next_peer (h : Called (link.party act.side.peer)) :
    Called ((link.next act).party act.side.peer) := by
  cases h with
  | waits hwaits hacks hunconnected =>
      refine .waits ?_ ?_ ?_
      · rw [machine_next_peer]
        exact hwaits
      · rw [fates_next_peer]
        exact hacks
      · rw [surfaced_next_peer]
        exact hunconnected
  | connected hover hsurfaced =>
      refine .connected ?_ ?_
      · rw [machine_next_peer]
        exact hover
      · rw [surfaced_next_peer]
        exact hsurfaced

/-- The responder acts and waits on; its SYN_ACK and its timer are accounted for. -/
lemma Exchanging.listens
    (h : Exchanging sid rto N (link.party act.side.peer) (link.party act.side) link.clock)
    (he : link.enabled act) (hwaits : (link.answer act).2.AwaitsAck)
    (hid : (link.answer act).2.sessionId = (link.party act.side).machine.sessionId)
    (haccount : Exchange.Open (((link.next act).party act.side).fates .SynAck)
      (((link.next act).party act.side.peer).fates .Ack)
      (((link.next act).party act.side.peer).arriving .SynAck)
      (((link.next act).party act.side).arriving .Ack))
    (hretries : (((link.next act).party act.side).fates .SynAck).length
      = (link.answer act).2.ctrlRetries + 1)
    (hbudget : (link.answer act).2.ctrlRetries + 1 ≤ N)
    (hsince : ∀ s, (link.party act.side).machine.pendingCtrlSince ≤
        s + 2 * rto * (link.party act.side).machine.ctrlRetries →
      (link.answer act).2.pendingCtrlSince ≤ s + 2 * rto * (link.answer act).2.ctrlRetries) :
    Exchanging sid rto N ((link.next act).party act.side.peer) ((link.next act).party act.side)
      (link.next act).clock := by
  have hclock : link.clock ≤ link.time act := he.1
  obtain ⟨s, hs₀, hsince₀, hafter⟩ := h.begun
  refine ⟨?_, ?_, h.called.next_peer, ?_, haccount, ?_, ?_, ?_, s, ?_, ?_, ?_⟩
  · rw [machine_next_self]
    exact hwaits
  · rw [machine_next_self, hid]
    exact h.sessionId
  · rw [next_peer]
    exact h.sent
  · rw [machine_next_self]
    exact hretries
  · rw [machine_next_self]
    exact hbudget
  · rw [next_self]
    exact h.order.sublist (inbox_taken_sublist link act)
  · rw [clock_next]
    exact hs₀.trans hclock
  · rw [machine_next_self]
    exact hsince s hsince₀
  · rw [next_peer]
    exact hafter

/-- The responder hears an ACK, and the initiator has connected before. -/
lemma Exchanging.completes
    (h : Exchanging sid rto N (link.party act.side.peer) (link.party act.side) link.clock)
    (hheard : link.stimulus act = .packet .Ack) (hover : (link.answer act).2.HandshakeOver)
    (hid : (link.answer act).2.sessionId = (link.party act.side).machine.sessionId)
    (hevents : (link.answer act).1.events = [.Established]) :
    Completed sid ((link.next act).party act.side.peer) ((link.next act).party act.side) := by
  have htaken := arriving_taken link act .Ack
  rw [if_pos hheard] at htaken
  obtain ⟨ack, hbox, htype⟩ := inbox_eq_of_heard hheard
  have hcallerOver : (link.party act.side.peer).machine.HandshakeOver := by
    cases h.called with
    | waits _ hacks _ =>
        -- it has not acknowledged anything yet
        have hzero := h.account.unheard
        rw [hacks, List.count_nil] at hzero
        omega
    | connected hover _ => exact hover
  refine ⟨?_, ?_, ?_, ?_, ?_, ?_⟩
  · rw [machine_next_peer]
    exact hcallerOver
  · rw [next_peer]
    exact h.sent
  · rw [machine_next_self]
    exact hover
  · rw [machine_next_self, hid]
    exact h.sessionId
  · rw [surfaced_next_self, hevents]
    exact Or.inr (List.mem_singleton_self _)
  · intro pkt hp
    have horder₀ := h.order
    rw [hbox, List.pairwise_cons] at horder₀
    rw [next_self] at hp
    exact horder₀.1 pkt hp htype

/-- The responder acts. -/
lemma Exchanging.next_listener
    (h : Exchanging sid rto (j * k) (link.party act.side.peer) (link.party act.side) link.clock)
    (hs : Shared sid maxRetries (link.party act.side.peer) (link.party act.side))
    (htime : link.OnTime rto) (hj : 0 < j) (hk : 0 < k) (hmax : (j * k : ℤ) ≤ maxRetries + 2)
    (hloss : LossBounded .SynAck j k link) (he : link.enabled act) :
    Handshake sid maxRetries rto (j * k) ((link.next act).party act.side.peer)
      ((link.next act).party act.side) (link.next act).clock := by
  have hids : ∀ pkt ∈ (link.party act.side).inbox,
      pkt.sessionId = (link.party act.side).machine.sessionId := fun pkt hp =>
    (hs.listenerInbox pkt hp).trans h.sessionId.symm
  have hstep := synRcvdStep h.waits hids he fun pkt hpkt hsettled => by
    have hlt := h.left_of_due hj hk hloss hpkt hsettled
    rw [hs.maxControlRetries]
    have : ((link.party act.side).machine.ctrlRetries : ℤ) + 1 < j * k := by exact_mod_cast hlt
    omega
  have htaken := arriving_taken link act .Ack
  generalize hheard : link.stimulus act = heard at hstep htaken
  cases hstep with
  | waits hwaits hid hsince hretries hpackets hevents hother =>
      rw [if_neg hother, Nat.add_zero] at htaken
      have hnone := transmitted_eq_nil hpackets
      refine .exchanging (hs.next_listener (by simp [hpackets]) (by simp [hevents]))
        (h.listens he hwaits hid ?_ ?_ ?_ ?_)
      · rw [fates_next_self, fates_next_peer, arriving_next_peer, arriving_next_self, htaken,
          hnone]
        simpa [fatesOf] using h.account
      · rw [fates_next_self, hnone, hretries]
        simpa [fatesOf] using h.retries
      · rw [hretries]
        exact h.budget
      · rw [hsince, hretries]
        exact fun s => id
  | again hwaits hid hdue hsince hretries hown hsynAcks hevents =>
      rw [if_neg (by simp), Nat.add_zero] at htaken
      obtain ⟨pkt, hpkt, -⟩ := h.waits.pending
      have hlt := h.left_of_due hj hk hloss hpkt (settled_of_tick he hheard hdue pkt hpkt)
      have hlength := length_transmitted he .SynAck
      refine .exchanging
        (hs.next_listener (fun pkt hp => (hown pkt hp).trans h.sessionId) (by simp [hevents]))
        (h.listens he hwaits hid ?_ ?_ ?_ fun s hsince₀ => ?_)
      · rw [fates_next_self, fates_next_peer, arriving_next_peer, arriving_next_self, htaken]
        exact h.account.ask _
      · rw [fates_next_self, List.length_append, h.retries, hlength, hsynAcks, hretries]
      · rw [hretries]
        exact hlt
      · have htimer := htime.timer act.side (by rw [hpkt]; simp)
        have hnow := he.2.1 act.side
        rw [hsince, hretries]
        push_cast
        linarith
  | connects hover hid hpackets hevents =>
      exact .completed (hs.next_listener (by simp [hpackets]) (by simp [hevents]))
        (h.completes hheard hover hid hevents)

/-! ### Afterwards

Nothing that either side does later takes back what has been surfaced.
-/

/-- The initiator acts. -/
lemma Completed.next_caller (h : Completed sid (link.party act.side) (link.party act.side.peer))
    (hs : Shared sid maxRetries (link.party act.side) (link.party act.side.peer))
    (he : link.enabled act) :
    Handshake sid maxRetries rto N ((link.next act).party act.side)
      ((link.next act).party act.side.peer) (link.next act).clock := by
  have hstep := overStep_initiator h.callerOver hs.initiator h.sent he
  refine .completed (hs.next_caller hstep.sessionId fun pkt hp => (hstep.own pkt hp).1)
    ⟨?_, sent_next_self h.sent, ?_, ?_, ?_, ?_⟩
  · rw [machine_next_self]
    exact hstep.past
  · rw [machine_next_peer]
    exact h.listenerOver
  · rw [machine_next_peer]
    exact h.sessionId
  · rw [surfaced_next_peer]
    exact h.connected
  · intro pkt hp
    rw [next_peer] at hp
    rcases List.mem_append.mp hp with hold | hnew
    · exact h.syns pkt hold
    · exact (hstep.own pkt (mem_arrivals hnew)).2

/-- The responder acts. -/
lemma Completed.next_listener (h : Completed sid (link.party act.side.peer) (link.party act.side))
    (hs : Shared sid maxRetries (link.party act.side.peer) (link.party act.side))
    (he : link.enabled act) :
    Handshake sid maxRetries rto N ((link.next act).party act.side.peer)
      ((link.next act).party act.side) (link.next act).clock := by
  have hstep := overStep_responder h.listenerOver hs.responder h.syns he
  refine .completed
    (hs.next_listener (fun pkt hp => ((hstep.own pkt hp).1).trans h.sessionId) hstep.connectFailed)
    ⟨?_, ?_, ?_, ?_, ?_, ?_⟩
  · rw [machine_next_peer]
    exact h.callerOver
  · rw [next_peer]
    exact h.sent
  · rw [machine_next_self]
    exact hstep.past
  · rw [machine_next_self, hstep.sessionId]
    exact h.sessionId
  · rw [surfaced_next_self]
    exact Or.inl h.connected
  · intro pkt hp
    rw [next_self] at hp
    exact h.syns pkt (mem_inbox_taken hp)

/-- Giving up is for good. -/
lemma Abandoned.next {x : Side} (h : Abandoned (link.party x)) (he : link.enabled act) :
    Abandoned ((link.next act).party x) := by
  refine ⟨(isInitiator_next _).trans h.initiator, ?_, ?_, ?_⟩ <;>
    rcases act.side.eq_or_eq_peer x with rfl | rfl
  · rw [machine_next_self]
    exact (overStep_initiator h.callerOver h.initiator h.sent he).past
  · rw [machine_next_peer]
    exact h.callerOver
  · exact sent_next_self h.sent
  · rw [next_peer]
    exact h.sent
  · rw [surfaced_next_self]
    rintro (hold | hnew)
    · exact h.unconnected hold
    · exact (overStep_initiator h.callerOver h.initiator h.sent he).established hnew
  · rw [surfaced_next_peer]
    exact h.unconnected

/-- **The step.** -/
theorem Handshake.next {x : Side}
    (h : Handshake sid maxRetries rto (j * k) (link.party x) (link.party x.peer) link.clock)
    (htime : link.OnTime rto) (hj : 0 < j) (hk : 0 < k) (hmax : (j * k : ℤ) ≤ maxRetries + 2)
    (hloss : LossBounded .SynAck j k link) (he : link.enabled act)
    (hok : act.side = x → link.stimulus act = .packet .SynAck →
      (link.party x.peer).machine.state = .SynRcvd → (link.party x).Surfaced .Established →
      (link.party x).machine.state = .Established) :
    Handshake sid maxRetries rto (j * k) ((link.next act).party x) ((link.next act).party x.peer)
      (link.next act).clock := by
  cases h with
  | abandoned h => exact .abandoned (h.next he)
  | opening hs h =>
      rcases act.side.eq_or_eq_peer x with rfl | rfl
      · exact h.next_caller hs he
      · rw [Side.peer_peer] at h hs ⊢
        exact h.next_listener hs he (Nat.mul_pos hj hk)
  | exchanging hs h =>
      rcases act.side.eq_or_eq_peer x with rfl | rfl
      · exact h.next_caller hs he fun hheard => hok rfl hheard h.waits.state
      · rw [Side.peer_peer] at h hs ⊢
        exact h.next_listener hs htime hj hk hmax hloss he
  | completed hs h =>
      rcases act.side.eq_or_eq_peer x with rfl | rfl
      · exact h.next_caller hs he
      · rw [Side.peer_peer] at h hs ⊢
        exact h.next_listener hs he

end Steps

/-! ## Whole runs

From two new machines, along a run in which the initiator answers.
-/

/-- Two new machines, with nothing on its way. -/
structure NewPair (rto : ℚ) (maxRetries : ℤ) (link : ControlLink) : Prop where
  initiator : (link.party .Initiator).machine.isInitiator = true
  responder : (link.party .Responder).machine.isInitiator = false
  new : ∀ x, (link.party x).machine = (link.party x).machine.fresh
  controlRto : ∀ x, (link.party x).machine.controlRto = rto
  maxControlRetries : ∀ x, (link.party x).machine.maxControlRetries = maxRetries
  inbox : ∀ x, (link.party x).inbox = []
  sent : ∀ x, (link.party x).sent = []
  surfaced : ∀ x, (link.party x).surfaced = []
  nextTick : ∀ x, link.clock ≤ (link.party x).nextTick ∧ (link.party x).nextTick ≤ link.clock + rto

namespace NewPair

variable {rto : ℚ} {maxRetries : ℤ} {N : ℕ} {link : ControlLink}

lemma listening (h : NewPair rto maxRetries link) (x : Side) :
    (link.party x).machine.Listening := by
  rw [h.new x]
  exact ⟨rfl, rfl⟩

lemma handshake (h : NewPair rto maxRetries link) :
    Handshake (link.party .Initiator).machine.sessionId maxRetries rto N (link.party .Initiator)
      (link.party .Responder) link.clock := by
  have hfates : ∀ x kind, (link.party x).fates kind = [] := by
    intro x kind
    rw [Party.fates, h.sent x]
    rfl
  have hsurfaced : ∀ x event, ¬ (link.party x).Surfaced event := by
    intro x event
    simp [Party.Surfaced, h.surfaced x]
  refine .opening
    ⟨h.initiator, h.responder, rfl, h.maxControlRetries _, ?_, ?_, hsurfaced _ _⟩
    ⟨h.listening _, Or.inl ⟨h.listening _, h.sent _, h.inbox _⟩, h.inbox _, hfates _ _, hfates _ _,
      ?_, hsurfaced _ _⟩
  all_goals simp [h.inbox]

lemma onTime (h : NewPair rto maxRetries link) : link.OnTime rto :=
  ⟨h.controlRto, fun x => (h.nextTick x).1, fun x => (h.nextTick x).2,
    fun x hp => absurd (h.listening x).pending hp⟩

end NewPair

/-- **The handshake survives bounded loss**, along every run in which a connected initiator answers
every SYN_ACK that reaches it while the responder waits (`SynAcksAnswered`).  Let `j * k` be at most
two more than the retries: among any `j` consecutive SYN_ACKs one is delivered, and among any `k`
consecutive ACKs.  Then, if the initiator is told at `t` that it is connected, the responder's
connection never fails, and `2 * j * k` retransmission times after `t` the responder has been told
too. -/
theorem handshake_completes {rto : ℚ} {maxRetries : ℤ} {start link : ControlLink} {j k : ℕ}
    (hstart : NewPair rto maxRetries start) (hrto : 0 < rto) (hj : 0 < j) (hk : 0 < k)
    (hmax : (j * k : ℤ) ≤ maxRetries + 2) (hrun : system.Reach SynAcksAnswered start link)
    (hloss : LossBounded .SynAck j k link) :
    ∀ t, (SessionEvent.Established, t) ∈ (link.party .Initiator).surfaced →
      ¬ (link.party .Responder).Surfaced .ConnectFailed ∧
      (t + 2 * rto * (j * k : ℕ) < link.clock → (link.party .Responder).Surfaced .Established) := by
  obtain ⟨hhandshake, htime⟩ :
      Handshake (start.party .Initiator).machine.sessionId maxRetries rto (j * k)
        (link.party .Initiator) (link.party .Responder) link.clock ∧ link.OnTime rto := by
    refine hrun.invariant (I := fun link => LossBounded .SynAck j k link →
      Handshake (start.party .Initiator).machine.sessionId maxRetries rto (j * k)
        (link.party .Initiator) (link.party .Responder) link.clock ∧ link.OnTime rto)
      (fun _ => ⟨hstart.handshake, hstart.onTime⟩) ?_ hloss
    intro s act hs he hok hlossNext
    have hlossNow := LossBounded.of_next hlossNext
    obtain ⟨hhandshake, htime⟩ := hs hlossNow
    exact ⟨Handshake.next (x := .Initiator) hhandshake htime hj hk hmax hlossNow he hok,
      htime.next hrto he⟩
  intro t ht
  have hsurfaced : (link.party .Initiator).Surfaced .Established :=
    List.mem_map.mpr ⟨_, ht, rfl⟩
  cases hhandshake with
  | opening _ h => exact absurd hsurfaced h.unconnected
  | abandoned h => exact absurd hsurfaced h.unconnected
  | completed hs h => exact ⟨hs.alive, fun _ => h.connected⟩
  | exchanging hs h =>
      refine ⟨hs.alive, fun hlate => ?_⟩
      -- the SYN_ACK's timer is on schedule, so it is not that late
      exfalso
      obtain ⟨pkt, hpkt, -⟩ := h.waits.pending
      obtain ⟨s, -, hsince, hafter⟩ := h.begun
      have htimer := htime.timer .Responder (by rw [hpkt]; simp)
      have hbudget := retransmission_le hrto h.budget
      have hfirst := hafter t ht
      have hclock := htime.ahead .Responder
      linarith

/-! ## Two runs

In both of them the first ACK is lost; they differ in what the initiator's application does
afterwards.
-/

/-- A new machine, with two retries. -/
def newMachine (isInitiator : Bool) (isn : ℤ) : SessionStateMachine where
  isInitiator := isInitiator
  sessionId := if isInitiator then 7 else 0
  isn := isn
  idleTimeout := 100
  maxControlRetries := 2

/-- Two of them. -/
def newLink : ControlLink where
  initiator := { machine := newMachine true 100, nextTick := 1 / 2 }
  responder := { machine := newMachine false 500, nextTick := 1 / 2 }
  clock := 0

/-- They are new. -/
theorem newPair_newLink : NewPair (1 / 2) 2 newLink where
  initiator := rfl
  responder := rfl
  new := by decide +kernel
  controlRto := by decide +kernel
  maxControlRetries := by decide +kernel
  inbox := by decide
  sent := by decide
  surfaced := by decide
  nextTick := by decide +kernel

/-- The first ACK is lost; the next SYN_ACK is answered. -/
def lostAckRun : List LinkAction :=
  [.connect 0 [true], .deliver .Responder 0 [true], .deliver .Initiator 0 [false],
    .tick .Initiator [], .tick .Responder [true], .deliver .Initiator (1 / 2) [true],
    .deliver .Responder (1 / 2) []] ++
  [.tick .Initiator [], .tick .Responder [], .tick .Initiator [true], .tick .Responder [true],
    .tick .Initiator [], .tick .Responder [], .tick .Initiator [true], .tick .Responder [true]]

/-- The responder is connected, by the second ACK. -/
theorem handshake_completes_lostAckRun : ∃ link : ControlLink,
    ¬ (link.party .Responder).Surfaced .ConnectFailed ∧
    (link.party .Responder).Surfaced .Established := by
  obtain ⟨link, hreach, hloss, hlate, hsurfaced⟩ := system.exists_reach_of_exec
    SynAcksAnswered lostAckRun newLink
    (fun link : ControlLink => LossBounded .SynAck 1 2 link ∧ 2 < link.clock ∧
      (SessionEvent.Established, 0) ∈ (link.party .Initiator).surfaced)
    (by decide +kernel)
  obtain ⟨halive, hconnected⟩ := handshake_completes newPair_newLink (by norm_num) (by decide)
    (by decide) (by decide) hreach hloss 0 hsurfaced
  refine ⟨link, halive, hconnected ?_⟩
  norm_num
  exact hlate

/-- The ACK is lost, and the initiator's application closes. -/
def lostAckThenCloseRun : List LinkAction :=
  [.connect 0 [true], .deliver .Responder 0 [true], .deliver .Initiator 0 [false],
    .close .Initiator 0 [true], .deliver .Responder 0 [],
    .tick .Initiator [true], .tick .Responder [true], .deliver .Responder (1 / 2) [],
    .deliver .Initiator (1 / 2) [],
    .tick .Initiator [true], .tick .Responder [true], .deliver .Responder 1 [],
    .deliver .Initiator 1 [],
    .tick .Initiator [true], .tick .Responder [true], .deliver .Responder (3 / 2) [],
    .deliver .Initiator (3 / 2) [], .tick .Initiator [], .tick .Responder []]

/-- **One lost ACK and a `close()` make the responder's connection fail**: in `FIN_WAIT` the
initiator answers no SYN_ACK.  Of any two consecutive transmissions of a side one is delivered. -/
theorem close_strands_responder : NewPair (1 / 2) 2 newLink ∧
    ∃ link : ControlLink, system.Reach Transition.free newLink link ∧
      (∀ x, EveryWindow 2 ((link.party x).sent.map Transmission.delivered)) ∧
      (link.party .Initiator).Surfaced .Established ∧
      (link.party .Responder).Surfaced .ConnectFailed := by
  refine ⟨newPair_newLink, ?_⟩
  exact system.exists_reach_of_exec Transition.free lostAckThenCloseRun newLink
    (fun link : ControlLink =>
      (∀ x, EveryWindow 2 ((link.party x).sent.map Transmission.delivered)) ∧
      (link.party .Initiator).Surfaced .Established ∧
      (link.party .Responder).Surfaced .ConnectFailed)
    (by decide +kernel)

end PhotonTCP
