import PhotonTCP.Session.ControlLink

/-!
# Graceful close over a lossy link

A FIN is retransmitted until its FIN_ACK is heard.  A FIN_ACK is not: it is sent again only when the
FIN comes again, and a machine in `CLOSE_WAIT` or `CLOSED` does not answer a FIN that comes again.

* `ClosePhase`, `CloseStep` — where a machine can be, and what one step does, as the side that asks
  and as the side that answers.
* `Direction` — the account of one FIN and its FIN_ACKs; it is an `Exchange`, and a side never runs
  out of retries because of `Exchange.Open.length_lt`.
* `Closing`, `Deadline` — the invariants: nobody times out; the close is on schedule.
* **`graceful_close`** — both sides are `CLOSED` in time, as long as no FIN is ignored while its
  sender waits.
* **`lost_finAck`** — a FIN is ignored, and the side that sent it times out.

A close consists of two directions, one for each FIN, and a machine takes part in both.  The two
interact: acknowledging the peer's FIN may complete the close of this side, and then it answers no
more.  The invariants are therefore about one direction at a time, given the states that both
machines can be in, and the condition `FinsAnswered` is the only place where one direction depends
on what the other one has done.

Under the condition a direction is an exchange in the general sense: the FIN is asked over and over,
each one that arrives is answered, and the first answer that is heard ends it.  While it is open and
nothing is on its way, every FIN and every answer to one has been lost or has led to a loss, and
with bounded losses fewer than `j * k` FINs were sent.  As the budget allows that many, no side
gives up.

The bound is on the losses of each of the two types and not on the losses of a side in total.  A
window over all packets of a side would not do, since FINs and FIN_ACKs can be lost in turn such
that every such window has a packet that got through.
-/

namespace PhotonTCP

open LossWindow ControlLink

/-! ## One machine

A machine that closes plays two roles: it asks, with its FIN, and it answers the peer's.  What a
step can do is said once for each role, and for each kind of input there is a lemma that a machine
in one of the phases does just that.
-/

namespace SessionStateMachine

/-- Our FIN awaits its FIN_ACK. -/
def AwaitsFinAck (m : SessionStateMachine) : Prop :=
  ∃ pkt, m.pendingCtrl = some pkt ∧ pkt.type = .Fin ∧ pkt.sessionId = m.sessionId

/-- Where a machine can be, from `ESTABLISHED` to `CLOSED`. -/
inductive ClosePhase (m : SessionStateMachine) : Prop where
  | established (state : m.state = .Established) (finAcked : m.finAcked = false)
      (peerFinAcked : m.peerFinAcked = false) (pending : m.pendingCtrl = none)
  | finWait (state : m.state = .FinWait) (finAcked : m.finAcked = false)
      (pending : m.AwaitsFinAck)
  | halfClosed (state : m.state = .FinWait) (finAcked : m.finAcked = true)
      (peerFinAcked : m.peerFinAcked = false) (pending : m.pendingCtrl = none)
  | closeWait (state : m.state = .CloseWait) (finAcked : m.finAcked = false)
      (peerFinAcked : m.peerFinAcked = true) (pending : m.AwaitsFinAck)
  | closed (state : m.state = .Closed) (finAcked : m.finAcked = true)
      (peerFinAcked : m.peerFinAcked = true) (pending : m.pendingCtrl = none)

/-- What one step can do for our own FIN. -/
inductive AskStep (m m' : SessionStateMachine) (out : Output) (now : ℚ) :
    Stimulus → Prop where
  /-- Nothing; a FIN_ACK is ignored when it is not awaited. -/
  | quiet {heard : Stimulus} (state : m'.state = .Established ↔ m.state = .Established)
      (finAcked : m'.finAcked = m.finAcked) (pending : m'.pendingCtrl = m.pendingCtrl)
      (timer : m.pendingCtrl = none ∨
        m'.pendingCtrlSince = m.pendingCtrlSince ∧ m'.ctrlRetries = m.ctrlRetries)
      (unawaited : heard = .packet .FinAck → m.state = .Established ∨ m.finAcked = true)
      (fins : out.transmits .Fin = 0) : AskStep m m' out now heard
  /-- It is transmitted. -/
  | first {heard : Stimulus} (state : m.state = .Established)
      (state' : m'.state ≠ .Established) (finAcked : m'.finAcked = m.finAcked)
      (pending : m'.AwaitsFinAck) (since : m'.pendingCtrlSince = now)
      (retries : m'.ctrlRetries = 0) (other : heard ≠ .packet .FinAck)
      (fins : out.transmits .Fin = 1) : AskStep m m' out now heard
  /-- It is transmitted again. -/
  | again (state : m'.state = m.state) (finAcked : m'.finAcked = m.finAcked)
      (pending : m'.pendingCtrl = m.pendingCtrl) (due : m.timerDue now = true)
      (since : m'.pendingCtrlSince = now) (retries : m'.ctrlRetries = m.ctrlRetries + 1)
      (fins : out.transmits .Fin = 1) : AskStep m m' out now .tick
  /-- It is acknowledged. -/
  | acked (state : m.state ≠ .Established) (state' : m'.state ≠ .Established)
      (finAcked : m'.finAcked = true) (pending : m'.pendingCtrl = none)
      (fins : out.transmits .Fin = 0) : AskStep m m' out now (.packet .FinAck)

/-- Closing is for good. -/
lemma AskStep.state_ne {m m' : SessionStateMachine} {out : Output} {now : ℚ} {heard : Stimulus}
    (h : AskStep m m' out now heard) (hstate : m.state ≠ .Established) :
    m'.state ≠ .Established := by
  cases h with
  | quiet hiff _ _ _ _ _ => exact mt hiff.mp hstate
  | first hwas _ _ _ _ _ _ _ => exact absurd hwas hstate
  | again hsame _ _ _ _ _ _ => exact hsame ▸ hstate
  | acked _ hstate' _ _ _ => exact hstate'

/-- What one step can do for the peer's FIN. -/
inductive AnswerStep (m m' : SessionStateMachine) (out : Output) : Stimulus → Prop where
  /-- Nothing; in `CLOSE_WAIT` and `CLOSED` a FIN is not answered. -/
  | quiet {heard : Stimulus} (peerFinAcked : m'.peerFinAcked = m.peerFinAcked)
      (ignored : heard = .packet .Fin → m.state = .CloseWait ∨ m.state = .Closed)
      (finAcks : out.transmits .FinAck = 0) : AnswerStep m m' out heard
  /-- It is acknowledged. -/
  | acks (peerFinAcked : m'.peerFinAcked = true) (finAcks : out.transmits .FinAck = 1) :
      AnswerStep m m' out (.packet .Fin)

/-- One step of a machine that closes. -/
structure CloseStep (m m' : SessionStateMachine) (out : Output) (now : ℚ)
    (heard : Stimulus) : Prop where
  phase : ClosePhase m'
  sessionId : m'.sessionId = m.sessionId
  ask : AskStep m m' out now heard
  answer : AnswerStep m m' out heard
  own : ∀ pkt ∈ out.packets, pkt.sessionId = m.sessionId ∧ pkt.type ≠ .Syn
  timedOut : .TimedOut ∉ out.events
  closed : m'.state = .Closed → m.state = .Closed ∨ .Closed ∈ out.events

variable {m : SessionStateMachine}

/-- A step that changes nothing that matters for the close. -/
lemma CloseStep.unchanged {m' : SessionStateMachine} {out : Output} {now : ℚ}
    {heard : Stimulus} (h : ClosePhase m) (hstate : m'.state = m.state)
    (hsession : m'.sessionId = m.sessionId) (hfinAcked : m'.finAcked = m.finAcked)
    (hpeer : m'.peerFinAcked = m.peerFinAcked) (hpending : m'.pendingCtrl = m.pendingCtrl)
    (htimer : m.pendingCtrl = none ∨
      m'.pendingCtrlSince = m.pendingCtrlSince ∧ m'.ctrlRetries = m.ctrlRetries)
    (hunawaited : heard = .packet .FinAck → m.state = .Established ∨ m.finAcked = true)
    (hignored : heard = .packet .Fin → m.state = .CloseWait ∨ m.state = .Closed)
    (hpackets : ∀ pkt ∈ out.packets, pkt.sessionId = m.sessionId ∧
      pkt.type ≠ .Syn ∧ pkt.type ≠ .Fin ∧ pkt.type ≠ .FinAck)
    (hevents : out.events = []) : CloseStep m m' out now heard := by
  have hnone : ∀ kind, kind = .Fin ∨ kind = .FinAck → out.transmits kind = 0 := by
    intro kind hkind
    refine List.countP_eq_zero.mpr fun pkt hp => ?_
    rw [decide_eq_true_iff]
    rintro rfl
    rcases hkind with h | h
    · exact (hpackets pkt hp).2.2.1 h
    · exact (hpackets pkt hp).2.2.2 h
  have hawaits : m.AwaitsFinAck → m'.AwaitsFinAck := by
    rintro ⟨pkt, hp, htype, hid⟩
    exact ⟨pkt, hpending.trans hp, htype, hid.trans hsession.symm⟩
  refine ⟨?_, hsession, ?_, ?_, ?_, ?_, ?_⟩
  · cases h with
    | established h₁ h₂ h₃ h₄ =>
        exact .established (hstate.trans h₁) (hfinAcked.trans h₂) (hpeer.trans h₃)
          (hpending.trans h₄)
    | finWait h₁ h₂ h₃ => exact .finWait (hstate.trans h₁) (hfinAcked.trans h₂) (hawaits h₃)
    | halfClosed h₁ h₂ h₃ h₄ =>
        exact .halfClosed (hstate.trans h₁) (hfinAcked.trans h₂) (hpeer.trans h₃)
          (hpending.trans h₄)
    | closeWait h₁ h₂ h₃ h₄ =>
        exact .closeWait (hstate.trans h₁) (hfinAcked.trans h₂) (hpeer.trans h₃) (hawaits h₄)
    | closed h₁ h₂ h₃ h₄ =>
        exact .closed (hstate.trans h₁) (hfinAcked.trans h₂) (hpeer.trans h₃) (hpending.trans h₄)
  · exact .quiet (by rw [hstate]) hfinAcked hpending htimer hunawaited (hnone _ (Or.inl rfl))
  · exact .quiet hpeer hignored (hnone _ (Or.inr rfl))
  · intro pkt hp
    exact ⟨(hpackets pkt hp).1, (hpackets pkt hp).2.1⟩
  · rw [hevents]
    exact List.not_mem_nil
  · intro hclosed
    exact Or.inl (hstate ▸ hclosed)

/-- `close()` transmits our FIN, in `ESTABLISHED`. -/
lemma CloseStep.close (h : ClosePhase m) (now : ℚ) :
    CloseStep m (m.close now).2 (m.close now).1 now .call := by
  by_cases hstate : m.state = .Established
  · have hclose : m.close now =
        ({ packets := [m.finPacket] },
          ({ m with state := .FinWait, lastSend := some now }).armPending m.finPacket now) := by
      rw [SessionStateMachine.close, if_neg (not_not.mpr hstate)]
      rfl
    have hawaits : AwaitsFinAck
        (({ m with state := .FinWait, lastSend := some now }).armPending m.finPacket now) :=
      ⟨m.finPacket, rfl, rfl, rfl⟩
    obtain ⟨-, hfinAcked, hpeer, -⟩ : m.state = .Established ∧ m.finAcked = false ∧
        m.peerFinAcked = false ∧ m.pendingCtrl = none := by
      cases h <;> simp_all
    rw [hclose]
    refine ⟨.finWait rfl hfinAcked hawaits, rfl,
      .first hstate (by exact SessionState.noConfusion) rfl hawaits rfl rfl (by simp) rfl,
      .quiet rfl (by simp) rfl, ?_, List.not_mem_nil, ?_⟩
    · intro pkt hp
      rw [List.mem_singleton.mp hp]
      exact ⟨rfl, by exact PacketType.noConfusion⟩
    · intro hclosed
      cases hclosed
  · have hclose : m.close now = ({}, m) := by rw [SessionStateMachine.close, if_pos hstate]
    rw [hclose]
    exact .unchanged h rfl rfl rfl rfl rfl (Or.inr ⟨rfl, rfl⟩) (by simp) (by simp)
      (by simp) rfl

/-- A heartbeat means nothing to the close. -/
lemma CloseStep.heartbeat (h : ClosePhase m) (now : ℚ) :
    CloseStep m (m.heartbeat now).2 (m.heartbeat now).1 now .tick := by
  rw [SessionStateMachine.heartbeat]
  split_ifs
  · refine .unchanged h rfl rfl rfl rfl rfl (Or.inr ⟨rfl, rfl⟩) (by simp) (by simp) ?_ rfl
    intro pkt hp
    rw [List.mem_singleton.mp hp]
    exact ⟨rfl, by exact PacketType.noConfusion, by exact PacketType.noConfusion,
      by exact PacketType.noConfusion⟩
  · exact .unchanged h rfl rfl rfl rfl rfl (Or.inr ⟨rfl, rfl⟩) (by simp) (by simp)
      (by simp) rfl

/-- What is pending is our FIN. -/
lemma ClosePhase.awaits_of_pending (h : ClosePhase m) {pkt : Packet}
    (hp : m.pendingCtrl = some pkt) :
    m.AwaitsFinAck ∧ m.finAcked = false ∧ m.state ≠ .Established := by
  cases h <;> simp_all

/-- A tick retransmits our FIN when its time has come, as long as there are retries left. -/
lemma CloseStep.onTick (h : ClosePhase m) {now : ℚ} (hidle : m.idleExpired now = false)
    (hleft : m.timerDue now = true → (m.ctrlRetries : ℤ) ≤ m.maxControlRetries) :
    CloseStep m (m.onTick now).2 (m.onTick now).1 now .tick := by
  have hbeat := CloseStep.heartbeat h now
  rw [SessionStateMachine.onTick, if_neg (by simp [hidle])]
  cases hp : m.pendingCtrl with
  | none => exact hbeat
  | some pkt =>
      dsimp only
      split_ifs with hdue hgiveUp
      · exact absurd (hleft (by simp [timerDue, hp, hdue])) (not_le.mpr hgiveUp)
      · obtain ⟨⟨pkt', hp', htype, hid⟩, hfinAcked, hstate⟩ := h.awaits_of_pending hp
        obtain rfl : pkt = pkt' := Option.some.inj (hp.symm.trans hp')
        have hfin : Output.transmits { packets := [pkt] } .Fin = 1 := by
          simp [Output.transmits, htype]
        have hnoFinAck : Output.transmits { packets := [pkt] } .FinAck = 0 := by
          simp [Output.transmits, htype]
        refine ⟨?_, rfl, .again rfl rfl rfl (by simp [timerDue, hp, hdue]) rfl rfl hfin,
          .quiet rfl (by simp) hnoFinAck, ?_, List.not_mem_nil, fun hclosed => Or.inl hclosed⟩
        · have hawaits : AwaitsFinAck (m.retransmit pkt now).2 := ⟨pkt, hp, htype, hid⟩
          cases h with
          | established _ _ _ hnone => exact absurd (hnone.symm.trans hp) (by simp)
          | finWait h₁ h₂ _ => exact .finWait h₁ h₂ hawaits
          | halfClosed _ _ _ hnone => exact absurd (hnone.symm.trans hp) (by simp)
          | closeWait h₁ h₂ h₃ _ => exact .closeWait h₁ h₂ h₃ hawaits
          | closed _ _ _ hnone => exact absurd (hnone.symm.trans hp) (by simp)
        · intro q hq
          rw [List.mem_singleton.mp hq, htype]
          exact ⟨hid, by exact PacketType.noConfusion⟩
      · exact hbeat

/-- In `ESTABLISHED` a FIN makes the machine close too. -/
lemma CloseStep.autoClose (hstate : m.state = .Established) (hfinAcked : m.finAcked = false)
    (pkt : Packet) (now : ℚ) :
    CloseStep m (m.autoClose pkt now).2 (m.autoClose pkt now).1 now (.packet .Fin) := by
  have hawaits : AwaitsFinAck (m.autoClose pkt now).2 := ⟨_, rfl, rfl, rfl⟩
  refine ⟨.closeWait rfl hfinAcked rfl hawaits, rfl,
    .first hstate (by exact SessionState.noConfusion) rfl hawaits rfl rfl (by simp) rfl,
    .acks rfl rfl, ?_, by simp [SessionStateMachine.autoClose], ?_⟩
  · intro q hq
    rcases List.mem_pair.mp hq with rfl | rfl
    · exact ⟨rfl, by exact PacketType.noConfusion⟩
    · exact ⟨rfl, by exact PacketType.noConfusion⟩
  · intro hclosed
    cases hclosed

/-- In `FIN_WAIT` a FIN is acknowledged. -/
lemma CloseStep.finWaitFin (hstate : m.state = .FinWait)
    (h : m.finAcked = false ∧ m.AwaitsFinAck ∨ m.finAcked = true ∧ m.pendingCtrl = none)
    (pkt : Packet) (now : ℚ) :
    CloseStep m (m.finWaitFin pkt now).2 (m.finWaitFin pkt now).1 now (.packet .Fin) := by
  have hown : ∀ q ∈ [m.finAckPacket pkt], q.sessionId = m.sessionId ∧ q.type ≠ .Syn := by
    intro q hq
    rw [List.mem_singleton.mp hq]
    exact ⟨rfl, by exact PacketType.noConfusion⟩
  rcases h with ⟨hfinAcked, hpending⟩ | ⟨hfinAcked, hnone⟩
  · have hstep : m.finWaitFin pkt now = ({ packets := [m.finAckPacket pkt] },
        { m with peerFinAcked := true, lastSend := some now }) := by
      simp [SessionStateMachine.finWaitFin, hfinAcked]
      rfl
    rw [hstep]
    exact ⟨.finWait hstate hfinAcked hpending, rfl,
      .quiet Iff.rfl rfl rfl (Or.inr ⟨rfl, rfl⟩) (by simp) rfl, .acks rfl rfl, hown,
      List.not_mem_nil, fun hclosed => Or.inl hclosed⟩
  · -- both directions are done
    have hstep : m.finWaitFin pkt now =
        ({ packets := [m.finAckPacket pkt], events := [.Closed] },
          { m with peerFinAcked := true, lastSend := some now, state := .Closed }) := by
      simp [SessionStateMachine.finWaitFin, hfinAcked]
      rfl
    rw [hstep]
    exact ⟨.closed rfl hfinAcked rfl hnone, rfl,
      .quiet (by simp [hstate]) rfl rfl (Or.inr ⟨rfl, rfl⟩) (by simp) rfl, .acks rfl rfl, hown,
      by simp, fun _ => Or.inr (List.mem_singleton_self _)⟩

/-- In `FIN_WAIT` a FIN_ACK is remembered, and completes the close if the peer has closed. -/
lemma CloseStep.finWaitFinAck (hstate : m.state = .FinWait)
    (h : m.finAcked = false ∨ m.finAcked = true ∧ m.peerFinAcked = false ∧ m.pendingCtrl = none)
    (now : ℚ) :
    CloseStep m m.finWaitFinAck.2 m.finWaitFinAck.1 now (.packet .FinAck) := by
  cases hpeer : m.peerFinAcked with
  | false =>
      have hstep : m.finWaitFinAck = ({}, { m.clearPending with finAcked := true }) := by
        show (if m.peerFinAcked = true then _ else _ : Output × SessionStateMachine) = _
        rw [hpeer]
        rfl
      rw [hstep]
      refine ⟨.halfClosed hstate rfl hpeer rfl, rfl, ?_,
        .quiet rfl (by simp) rfl, by simp, List.not_mem_nil, fun hclosed => Or.inl hclosed⟩
      rcases h with _ | ⟨hfinAcked, -, hnone⟩
      · exact .acked (by simp [hstate]) (by simp [clearPending, hstate]) rfl rfl rfl
      · exact .quiet Iff.rfl hfinAcked.symm hnone.symm (Or.inl hnone)
          (fun _ => Or.inr hfinAcked) rfl
  | true =>
      have hstep : m.finWaitFinAck = ({ events := [.Closed] },
          { m.clearPending with finAcked := true, state := .Closed }) := by
        show (if m.peerFinAcked = true then _ else _ : Output × SessionStateMachine) = _
        rw [hpeer]
        rfl
      rw [hstep]
      exact ⟨.closed rfl rfl hpeer rfl, rfl,
        .acked (by simp [hstate]) (by exact SessionState.noConfusion) rfl rfl rfl,
        .quiet rfl (by simp) rfl, by simp, by simp, fun _ => Or.inr (List.mem_singleton_self _)⟩

/-- In `CLOSE_WAIT` a FIN_ACK completes the close. -/
lemma CloseStep.closeWaitFinAck (hstate : m.state = .CloseWait) (hpeer : m.peerFinAcked = true)
    (now : ℚ) :
    CloseStep m m.closeWaitFinAck.2 m.closeWaitFinAck.1 now (.packet .FinAck) :=
  ⟨.closed rfl rfl hpeer rfl, rfl,
    .acked (by simp [hstate]) (by exact SessionState.noConfusion) rfl rfl rfl,
    .quiet rfl (by simp) rfl, by simp [SessionStateMachine.closeWaitFinAck],
    by simp [SessionStateMachine.closeWaitFinAck], fun _ => Or.inr (List.mem_singleton_self _)⟩

/-- A duplicate SYN_ACK means nothing to the close. -/
lemma CloseStep.repeatAck (h : ClosePhase m) (pkt : Packet) (now : ℚ) :
    CloseStep m (m.repeatAck pkt now).2 (m.repeatAck pkt now).1 now (.packet .SynAck) := by
  refine .unchanged h rfl rfl rfl rfl rfl (Or.inr ⟨rfl, rfl⟩) (by simp) (by simp) ?_ rfl
  intro q hq
  rw [List.mem_singleton.mp hq]
  exact ⟨rfl, by exact PacketType.noConfusion, by exact PacketType.noConfusion,
    by exact PacketType.noConfusion⟩

/-- What a packet does, phase by phase. -/
lemma CloseStep.dispatch (h : ClosePhase m) (pkt : Packet) (now : ℚ) :
    CloseStep m (m.dispatch pkt now).2 (m.dispatch pkt now).1 now (.packet pkt.type) := by
  rw [SessionStateMachine.dispatch]
  split
  case h_1 hstate _ => exact absurd hstate (by cases h <;> simp_all)
  case h_2 hstate _ => exact absurd hstate (by cases h <;> simp_all)
  case h_3 htype =>
      rw [htype]
      exact .repeatAck h pkt now
  case h_4 hstate htype =>
      rw [htype]
      exact .autoClose hstate (by cases h <;> simp_all) pkt now
  case h_5 hstate htype =>
      rw [htype]
      exact .finWaitFinAck hstate (by cases h <;> simp_all) now
  case h_6 hstate htype =>
      rw [htype]
      exact .finWaitFin hstate (by cases h <;> simp_all) pkt now
  case h_7 hstate htype =>
      rw [htype]
      exact .closeWaitFinAck hstate (by cases h <;> simp_all) now
  case h_8 hother =>
      refine .unchanged h rfl rfl rfl rfl rfl (Or.inr ⟨rfl, rfl⟩) ?_ ?_ (by simp) rfl
      · intro htype
        cases h <;> simp_all
      · intro htype
        cases h <;> simp_all

/-- The idle timer means nothing to the close. -/
lemma CloseStep.refresh {m' : SessionStateMachine} {out : Output} {now : ℚ}
    {heard : Stimulus} {lastRecv : Option ℚ}
    (h : CloseStep { m with lastRecv } m' out now heard) : CloseStep m m' out now heard := by
  obtain ⟨h₁, h₂, hask, hanswer, h₃, h₄, h₅⟩ := h
  refine ⟨h₁, h₂, ?_, ?_, h₃, h₄, h₅⟩
  · cases hask with
    | quiet g₁ g₂ g₃ g₄ g₅ g₆ => exact .quiet g₁ g₂ g₃ g₄ g₅ g₆
    | first g₁ g₂ g₃ g₄ g₅ g₆ g₇ g₈ => exact .first g₁ g₂ g₃ g₄ g₅ g₆ g₇ g₈
    | again g₁ g₂ g₃ g₄ g₅ g₆ g₇ => exact .again g₁ g₂ g₃ g₄ g₅ g₆ g₇
    | acked g₁ g₂ g₃ g₄ g₅ => exact .acked g₁ g₂ g₃ g₄ g₅
  · cases hanswer with
    | quiet g₁ g₂ g₃ => exact .quiet g₁ g₂ g₃
    | acks g₁ g₂ => exact .acks g₁ g₂

lemma ClosePhase.refresh (h : ClosePhase m) (lastRecv : Option ℚ) :
    ClosePhase { m with lastRecv } := by
  cases h with
  | established h₁ h₂ h₃ h₄ => exact .established h₁ h₂ h₃ h₄
  | finWait h₁ h₂ h₃ => exact .finWait h₁ h₂ h₃
  | halfClosed h₁ h₂ h₃ h₄ => exact .halfClosed h₁ h₂ h₃ h₄
  | closeWait h₁ h₂ h₃ h₄ => exact .closeWait h₁ h₂ h₃ h₄
  | closed h₁ h₂ h₃ h₄ => exact .closed h₁ h₂ h₃ h₄

/-- **What a packet of the session does.** -/
theorem CloseStep.onPacket (h : ClosePhase m) {pkt : Packet} (hid : pkt.sessionId = m.sessionId)
    (hsyn : pkt.type ≠ .Syn) (now : ℚ) :
    CloseStep m (m.onPacket pkt now).2 (m.onPacket pkt now).1 now (.packet pkt.type) := by
  rw [onPacket_eq_dispatch (fun hinitial => hsyn hinitial.2.2) hid]
  exact (CloseStep.dispatch (h.refresh _) pkt now).refresh

end SessionStateMachine

/-! ## One direction

The FIN of `mx`, the FIN_ACKs of `my`, and what the link does to them.  Every FIN that has arrived
was answered; the answers have been lost or are on their way, unless one was heard.
-/

open SessionStateMachine

/-- The account of one direction. -/
structure Direction (mx my : SessionStateMachine) (asks answers : List Bool)
    (asking answering : ℕ) : Prop where
  account : mx.finAcked = false → Exchange.Open asks answers asking answering
  retries : mx.pendingCtrl ≠ none → asks.length = mx.ctrlRetries + 1
  unasked : mx.state = .Established → asks = []
  asked : mx.state ≠ .Established → asks ≠ []
  acked : 0 < answering ∨ mx.finAcked = true → my.peerFinAcked = true

namespace Direction

variable {mx mx' my my' : SessionStateMachine} {asks answers new : List Bool}
  {asking answering asking' answering' : ℕ} {out : Output} {now : ℚ} {heard : Stimulus}

/-- A machine that has not closed hears no FIN_ACK. -/
lemma answering_eq_zero (h : Direction mx my asks answers asking answering)
    (hstate : mx.state = .Established) (hfinAcked : mx.finAcked = false) : answering = 0 := by
  have hopen := h.account hfinAcked
  have hanswered := hopen.answered
  rw [h.unasked hstate, List.count_nil] at hanswered
  have hnil : answers = [] := List.eq_nil_of_length_eq_zero (by omega)
  rw [← hopen.unheard, hnil, List.count_nil]

/-- A step of the machine that asks. -/
lemma ask (h : Direction mx my asks answers asking answering) (hphase : ClosePhase mx)
    (hstep : AskStep mx mx' out now heard) (hnew : new.length = out.transmits .Fin)
    (htake : answering' + (if heard = .packet .FinAck then 1 else 0) = answering) :
    Direction mx' my (asks ++ new) answers (asking + new.count true) answering' := by
  cases hstep with
  | quiet hstate hfinAcked hpending htimer hunawaited hfins =>
      obtain rfl : new = [] := List.eq_nil_of_length_eq_zero (hnew.trans hfins)
      rw [List.append_nil, List.count_nil, Nat.add_zero]
      refine ⟨?_, ?_, fun hs => h.unasked (hstate.mp hs), fun hs => h.asked (mt hstate.mpr hs), ?_⟩
      · intro hopen
        rw [hfinAcked] at hopen
        split_ifs at htake with hheard
        · -- a FIN_ACK that is heard before the FIN is sent does not exist
          rcases hunawaited hheard with hs | hacked
          · have := h.answering_eq_zero hs hopen
            omega
          · rw [hopen] at hacked
            cases hacked
        · obtain rfl : answering' = answering := htake
          exact h.account hopen
      · intro hp
        rw [hpending] at hp
        rcases htimer with hnone | ⟨-, hretries⟩
        · exact absurd hnone hp
        · rw [hretries, h.retries hp]
      · rintro (hpos | hacked)
        · exact h.acked (Or.inl (by omega))
        · exact h.acked (Or.inr (hfinAcked ▸ hacked))
  | first hstate hstate' hfinAcked hpending hsince hretries hother hfins =>
      rw [if_neg hother, Nat.add_zero] at htake
      subst htake
      refine ⟨fun hopen => (h.account (hfinAcked ▸ hopen)).ask new, ?_, fun hs => absurd hs hstate',
        ?_, ?_⟩
      · intro _
        rw [h.unasked hstate, List.nil_append, hnew, hfins, hretries]
      · intro _ hnil
        rw [(List.append_eq_nil_iff.mp hnil).2, hfins] at hnew
        cases hnew
      · rintro (hpos | hacked)
        · exact h.acked (Or.inl hpos)
        · exact h.acked (Or.inr (hfinAcked ▸ hacked))
  | again hstate hfinAcked hpending hdue hsince hretries hfins =>
      rw [if_neg (by simp), Nat.add_zero] at htake
      subst htake
      refine ⟨fun hopen => (h.account (hfinAcked ▸ hopen)).ask new, ?_, ?_, ?_, ?_⟩
      · intro hp
        rw [hpending] at hp
        rw [List.length_append, h.retries hp, hnew, hfins, hretries]
      · intro hs
        rw [hstate] at hs
        have hnone : mx.pendingCtrl = none := by cases hphase <;> simp_all
        simp [timerDue, hnone] at hdue
      · intro hs hnil
        exact h.asked (hstate ▸ hs) (List.append_eq_nil_iff.mp hnil).1
      · rintro (hpos | hacked)
        · exact h.acked (Or.inl hpos)
        · exact h.acked (Or.inr (hfinAcked ▸ hacked))
  | acked hstate hstate' hfinAcked hpending hfins =>
      rw [if_pos rfl] at htake
      obtain rfl : new = [] := List.eq_nil_of_length_eq_zero (hnew.trans hfins)
      rw [List.append_nil, List.count_nil, Nat.add_zero]
      refine ⟨fun hopen => absurd (hfinAcked.symm.trans hopen) (by simp),
        fun hp => absurd hpending hp, fun hs => absurd hs hstate', fun _ => h.asked hstate,
        fun _ => h.acked (Or.inl (by omega))⟩

/-- A step of the machine that answers.  A FIN that it ignores must have been acknowledged. -/
lemma answer (h : Direction mx my asks answers asking answering)
    (hstep : AnswerStep my my' out heard) (hnew : new.length = out.transmits .FinAck)
    (htake : asking' + (if heard = .packet .Fin then 1 else 0) = asking)
    (hignored : heard = .packet .Fin → my.state = .CloseWait ∨ my.state = .Closed →
      mx.finAcked = true) :
    Direction mx my' asks (answers ++ new) asking' (answering + new.count true) := by
  cases hstep with
  | quiet hpeer hign hfinAcks =>
      obtain rfl : new = [] := List.eq_nil_of_length_eq_zero (hnew.trans hfinAcks)
      rw [List.append_nil, List.count_nil, Nat.add_zero]
      refine ⟨?_, h.retries, h.unasked, h.asked, fun hacked => hpeer.trans (h.acked hacked)⟩
      intro hopen
      split_ifs at htake with hheard
      · have hacked := hignored hheard (hign hheard)
        rw [hopen] at hacked
        cases hacked
      · obtain rfl : asking' = asking := htake
        exact h.account hopen
  | acks hpeer hfinAcks =>
      rw [if_pos rfl] at htake
      subst htake
      exact ⟨fun hopen => (h.account hopen).answer (hnew.trans hfinAcks), h.retries, h.unasked,
        h.asked, fun _ => hpeer⟩

end Direction

/-! ## The link

Both directions hold at once, with the two sides in either role.
-/

/-- The branch that does not answer a FIN is not taken while the FIN's sender still waits. -/
def FinsAnswered (link : ControlLink) (act : LinkAction) : Prop :=
  link.stimulus act = .packet .Fin →
    (link.party act.side).machine.state = .CloseWait ∨
      (link.party act.side).machine.state = .Closed →
    (link.party act.side.peer).machine.finAcked = true

instance (link : ControlLink) (act : LinkAction) : Decidable (FinsAnswered link act) :=
  inferInstanceAs (Decidable (_ → _ → _))

/-- The state of a link whose machines close, with at most `N` FINs from each. -/
structure Closing (sid : ℤ) (maxRetries : ℤ) (N : ℕ) (link : ControlLink) : Prop where
  phase : ∀ x, ClosePhase (link.party x).machine
  sessionId : ∀ x, (link.party x).machine.sessionId = sid
  maxControlRetries : ∀ x, (link.party x).machine.maxControlRetries = maxRetries
  inbox : ∀ x, ∀ pkt ∈ (link.party x).inbox, pkt.sessionId = sid ∧ pkt.type ≠ .Syn
  direction : ∀ x, Direction (link.party x).machine (link.party x.peer).machine
    ((link.party x).fates .Fin) ((link.party x.peer).fates .FinAck)
    ((link.party x.peer).arriving .Fin) ((link.party x).arriving .FinAck)
  budget : ∀ x, (link.party x).machine.pendingCtrl ≠ none →
    (link.party x).machine.ctrlRetries + 1 ≤ N
  timedOut : ∀ x t, (SessionEvent.TimedOut, t) ∉ (link.party x).surfaced
  closed : ∀ x, (link.party x).machine.state = .Closed →
    ∃ t, (SessionEvent.Closed, t) ∈ (link.party x).surfaced

namespace Closing

variable {sid : ℤ} {maxRetries : ℤ} {j k : ℕ} {link : ControlLink} {act : LinkAction}

/-- **When a FIN's timer runs out, there are retries left**: every FIN that was not lost has been
answered, and every answer was lost. -/
lemma left_of_due (h : Closing sid maxRetries (j * k) link) (hj : 0 < j) (hk : 0 < k)
    (hloss : LossBounded .Fin j k link) {x : Side} {pkt : Packet}
    (hpending : (link.party x).machine.pendingCtrl = some pkt) (hsettled : link.Settled x pkt) :
    (link.party x).machine.ctrlRetries + 1 < j * k := by
  obtain ⟨⟨fin, hfin, htype, -⟩, hfinAcked, -⟩ := (h.phase x).awaits_of_pending hpending
  obtain rfl : pkt = fin := Option.some.inj (hpending.symm.trans hfin)
  have haccount := (h.direction x).account hfinAcked
  rw [Settled, htype] at hsettled
  rw [hsettled.1, show (link.party x).arriving .FinAck = 0 from hsettled.2] at haccount
  have hlt := haccount.length_lt hj hk (hloss x).1 (hloss x.peer).2
  rwa [(h.direction x).retries (by rw [hpending]; simp)] at hlt

/-- The step of the machine that acts. -/
lemma closeStep (h : Closing sid maxRetries (j * k) link) (hj : 0 < j) (hk : 0 < k)
    (hmax : (j * k : ℤ) ≤ maxRetries + 2) (hloss : LossBounded .Fin j k link)
    (he : link.enabled act) :
    CloseStep (link.party act.side).machine (link.answer act).2 (link.answer act).1
      (link.time act) (link.stimulus act) := by
  refine answer_cases (P := fun answer heard =>
    CloseStep (link.party act.side).machine answer.2 answer.1 (link.time act) heard) he ?_ ?_ ?_ ?_
  · -- nothing has been transmitted, so this side is in ESTABLISHED
    intro hsent
    have hstate : (link.party act.side).machine.state = .Established := by
      by_contra hne
      refine (h.direction act.side).asked hne ?_
      rw [Party.fates, hsent]
      rfl
    rw [SessionStateMachine.connect, if_pos (by simp [hstate])]
    exact .unchanged (h.phase _) rfl rfl rfl rfl rfl (Or.inr ⟨rfl, rfl⟩) (by simp)
      (by simp) (by simp) rfl
  · exact .close (h.phase _) _
  · intro hidle hsettled
    refine .onTick (h.phase _) hidle fun hdue => ?_
    obtain ⟨pkt, hpkt⟩ : ∃ pkt, (link.party act.side).machine.pendingCtrl = some pkt := by
      rw [timerDue, Bool.and_eq_true] at hdue
      exact Option.isSome_iff_exists.mp hdue.1
    have hlt := h.left_of_due hj hk hloss hpkt (hsettled hdue pkt hpkt)
    rw [h.maxControlRetries]
    have : ((link.party act.side).machine.ctrlRetries : ℤ) + 1 < j * k := by exact_mod_cast hlt
    omega
  · intro pkt hpkt
    obtain ⟨hid, hsyn⟩ := h.inbox _ pkt hpkt
    exact .onPacket (h.phase _) (hid.trans (h.sessionId _).symm) hsyn _

/-- A step leaves at most `j * k` FINs. -/
lemma budget_next (h : Closing sid maxRetries (j * k) link) (hj : 0 < j) (hk : 0 < k)
    (hloss : LossBounded .Fin j k link) (he : link.enabled act) {m' : SessionStateMachine}
    {out : Output}
    (hask : AskStep (link.party act.side).machine m' out (link.time act) (link.stimulus act))
    (hpending : m'.pendingCtrl ≠ none) : m'.ctrlRetries + 1 ≤ j * k := by
  generalize hstimulus : link.stimulus act = stimulus at hask
  cases hask with
  | quiet _ _ hsame htimer _ _ =>
      rw [hsame] at hpending
      rcases htimer with hnone | ⟨-, hretries⟩
      · exact absurd hnone hpending
      · rw [hretries]
        exact h.budget _ hpending
  | first _ _ _ _ _ hretries _ _ =>
      rw [hretries]
      exact Nat.mul_pos hj hk
  | again _ _ hsame hdue _ hretries _ =>
      rw [hsame] at hpending
      obtain ⟨pkt, hpkt⟩ := Option.ne_none_iff_exists'.mp hpending
      have hlt := h.left_of_due hj hk hloss hpkt (settled_of_tick he hstimulus hdue pkt hpkt)
      rw [hretries]
      exact hlt
  | acked _ _ _ hnone _ => exact absurd hnone hpending

/-- **The step.** -/
theorem next (h : Closing sid maxRetries (j * k) link) (hj : 0 < j) (hk : 0 < k)
    (hmax : (j * k : ℤ) ≤ maxRetries + 2) (hloss : LossBounded .Fin j k link)
    (he : link.enabled act) (hok : FinsAnswered link act) :
    Closing sid maxRetries (j * k) (link.next act) := by
  have hstep := h.closeStep hj hk hmax hloss he
  refine ⟨?_, ?_, ?_, ?_, ?_, ?_, ?_, ?_⟩
  · refine act.side.forall_of ?_ ?_
    · rw [machine_next_self]
      exact hstep.phase
    · rw [machine_next_peer]
      exact h.phase _
  · refine act.side.forall_of ?_ ?_
    · rw [machine_next_self, hstep.sessionId]
      exact h.sessionId _
    · rw [machine_next_peer]
      exact h.sessionId _
  · intro x
    exact (congrArg Config.maxControlRetries (config_next x)).trans (h.maxControlRetries x)
  · refine act.side.forall_of ?_ ?_
    · intro pkt hp
      rw [next_self] at hp
      exact h.inbox _ pkt (mem_inbox_taken hp)
    · intro pkt hp
      rw [next_peer] at hp
      rcases List.mem_append.mp hp with hold | hnew
      · exact h.inbox _ pkt hold
      · obtain ⟨hid, hsyn⟩ := hstep.own pkt (mem_arrivals hnew)
        exact ⟨hid.trans (h.sessionId _), hsyn⟩
  · refine act.side.forall_of ?_ ?_
    · rw [machine_next_self, machine_next_peer,
        fates_next_self, fates_next_peer, arriving_next_peer,
        arriving_next_self]
      exact (h.direction _).ask (h.phase _) hstep.ask (length_transmitted he _)
        (arriving_taken _ _ _)
    · rw [Side.peer_peer, machine_next_self, machine_next_peer,
        fates_next_self, fates_next_peer, arriving_next_peer,
        arriving_next_self]
      have hpeer := h.direction act.side.peer
      rw [Side.peer_peer] at hpeer
      exact hpeer.answer hstep.answer (length_transmitted he _)
        (arriving_taken _ _ _) hok
  · refine act.side.forall_of ?_ ?_
    · rw [machine_next_self]
      exact h.budget_next hj hk hloss he hstep.ask
    · rw [machine_next_peer]
      exact h.budget _
  · refine act.side.forall_of ?_ ?_
    · intro t ht
      rw [next_self] at ht
      rcases List.mem_append.mp ht with hold | hnew
      · exact h.timedOut _ t hold
      · obtain ⟨event, hevent, heq⟩ := List.mem_map.mp hnew
        cases heq
        exact hstep.timedOut hevent
    · rw [next_peer]
      exact h.timedOut _
  · refine act.side.forall_of ?_ ?_
    · intro hclosed
      rw [machine_next_self] at hclosed
      rw [next_self]
      rcases hstep.closed hclosed with hwas | hnow
      · obtain ⟨t, ht⟩ := h.closed _ hwas
        exact ⟨t, List.mem_append_left _ ht⟩
      · exact ⟨link.time act, List.mem_append_right _ (List.mem_map_of_mem hnow)⟩
    · rw [next_peer]
      exact h.closed _

/-! ## How long it takes

A close that has begun at `t₀` is over after as many rounds as there can be FINs on either side,
since each round repeats whatever is still pending.
-/

/-- A side that has closed while the other has not is still waiting. -/
lemma pending_of_peer (h : Closing sid maxRetries (j * k) link) {x : Side}
    (hstate : (link.party x).machine.state = .Established)
    (hpeer : (link.party x.peer).machine.state ≠ .Established) :
    (link.party x.peer).machine.pendingCtrl ≠ none := by
  have hunacked : (link.party x).machine.peerFinAcked = false := by
    have hphase := h.phase x
    cases hphase <;> simp_all
  have hopen : (link.party x.peer).machine.finAcked = false := by
    by_contra hne
    have hacked := (h.direction x.peer).acked (Or.inr (Bool.eq_true_of_not_eq_false hne))
    rw [Side.peer_peer, hunacked] at hacked
    cases hacked
  have hphase := h.phase x.peer
  cases hphase with
  | established hs _ _ _ => exact absurd hs hpeer
  | finWait _ _ hp =>
      obtain ⟨pkt, hpkt, -⟩ := hp
      simp [hpkt]
  | halfClosed _ hacked _ _ => exact absurd (hopen.symm.trans hacked) (by simp)
  | closeWait _ _ _ hp =>
      obtain ⟨pkt, hpkt, -⟩ := hp
      simp [hpkt]
  | closed _ hacked _ _ => exact absurd (hopen.symm.trans hacked) (by simp)

end Closing

/-- The close began at `t₀`, and the timers are on schedule: the side that closed first began then,
and the other at most `N` retransmissions later. -/
structure Deadline (rto : ℚ) (N : ℕ) (t₀ : ℚ) (link : ControlLink) : Prop where
  begun : ∃ x, (link.party x).machine.state ≠ .Established
  begun_le : t₀ ≤ link.clock
  fins : ∀ x, ∀ t ∈ (link.party x).sent, t.packet.type = .Fin → t₀ ≤ t.time
  early : ∀ x, (link.party x).machine.pendingCtrl ≠ none →
    (link.party x.peer).machine.state = .Established →
    (link.party x).machine.pendingCtrlSince ≤ t₀ + 2 * rto * (link.party x).machine.ctrlRetries
  late : ∀ x, (link.party x).machine.pendingCtrl ≠ none →
    (link.party x).machine.pendingCtrlSince
      ≤ t₀ + 2 * rto * N + 2 * rto * (link.party x).machine.ctrlRetries

/-- Nobody has closed, or the close is on schedule. -/
def OnSchedule (rto : ℚ) (N : ℕ) (link : ControlLink) : Prop :=
  (∀ x, (link.party x).machine.state = .Established) ∨ ∃ t₀, Deadline rto N t₀ link

section Schedule

variable {sid : ℤ} {maxRetries : ℤ} {rto t₀ : ℚ} {j k : ℕ} {link : ControlLink} {act : LinkAction}

/-- What is pending is retransmitted in time. -/
lemma Deadline.nextTick_le (h : Deadline rto (j * k) t₀ link)
    (hclosing : Closing sid maxRetries (j * k) link) (htime : link.OnTime rto) (hrto : 0 < rto)
    {x : Side} (hpending : (link.party x).machine.pendingCtrl ≠ none) :
    (link.party x).nextTick ≤ t₀ + 4 * rto * (j * k : ℕ) := by
  have hlate := h.late x hpending
  have htimer := htime.timer x hpending
  have hbudget := retransmission_le hrto (hclosing.budget x hpending)
  linarith

/-- As long as one side has not closed, the other is in its first round. -/
lemma Deadline.nextTick_le_early (h : Deadline rto (j * k) t₀ link)
    (hclosing : Closing sid maxRetries (j * k) link) (htime : link.OnTime rto) (hrto : 0 < rto)
    {x : Side} (hstate : (link.party x).machine.state = .Established) :
    (link.party x.peer).nextTick ≤ t₀ + 2 * rto * (j * k : ℕ) := by
  have hpeer : (link.party x.peer).machine.state ≠ .Established := by
    obtain ⟨y, hy⟩ := h.begun
    rcases x.eq_or_eq_peer y with rfl | rfl
    · exact absurd hstate hy
    · exact hy
  have hpending := hclosing.pending_of_peer hstate hpeer
  have hearly := h.early x.peer hpending (by rw [Side.peer_peer]; exact hstate)
  have htimer := htime.timer x.peer hpending
  have hbudget := retransmission_le hrto (hclosing.budget x.peer hpending)
  linarith

/-- A FIN that has just been transmitted bears the time of the step. -/
lemma fins_next (hfins : ∀ x, ∀ t ∈ (link.party x).sent, t.packet.type = .Fin → t₀ ≤ t.time)
    (ht₀ : t₀ ≤ link.time act) :
    ∀ x, ∀ t ∈ ((link.next act).party x).sent, t.packet.type = .Fin → t₀ ≤ t.time := by
  refine act.side.forall_of ?_ ?_
  · intro t ht htype
    rw [next_self] at ht
    rcases List.mem_append.mp ht with hold | hnew
    · exact hfins _ t hold htype
    · rw [(mem_of_mem_stamp hnew).2]
      exact ht₀
  · rw [next_peer]
    exact hfins _

/-- The schedule of a close that has begun. -/
lemma Deadline.next (h : Deadline rto (j * k) t₀ link)
    (hclosing : Closing sid maxRetries (j * k) link) (htime : link.OnTime rto) (hrto : 0 < rto)
    (he : link.enabled act)
    (hask : AskStep (link.party act.side).machine (link.answer act).2 (link.answer act).1
      (link.time act) (link.stimulus act)) :
    Deadline rto (j * k) t₀ (link.next act) := by
  have hclock : link.clock ≤ link.time act := he.1
  have hahead := he.2.1
  refine ⟨?_, ?_, fins_next h.fins (h.begun_le.trans hclock), ?_, ?_⟩
  · obtain ⟨x, hx⟩ := h.begun
    refine ⟨x, ?_⟩
    rcases act.side.eq_or_eq_peer x with rfl | rfl
    · rw [machine_next_self]
      exact hask.state_ne hx
    · rw [machine_next_peer]
      exact hx
  · rw [clock_next]
    exact h.begun_le.trans hclock
  · refine act.side.forall_of ?_ ?_
    · rw [machine_next_self, machine_next_peer]
      intro hpending hpeer
      generalize link.stimulus act = heard at hask
      cases hask with
      | quiet _ _ hsame htimer _ _ =>
          rw [hsame] at hpending
          rcases htimer with hnone | ⟨hsince, hretries⟩
          · exact absurd hnone hpending
          · rw [hsince, hretries]
            exact h.early _ hpending hpeer
      | first hstate _ _ _ _ _ _ _ =>
          obtain ⟨y, hy⟩ := h.begun
          rcases act.side.eq_or_eq_peer y with rfl | rfl
          · exact absurd hstate hy
          · exact absurd hpeer hy
      | again _ _ hsame _ hsince hretries _ =>
          rw [hsame] at hpending
          have hearly := h.early _ hpending hpeer
          have htimer := htime.timer _ hpending
          have hnow := hahead act.side
          rw [hsince, hretries]
          push_cast
          linarith
      | acked _ _ _ hnone _ => exact absurd hnone hpending
    · rw [Side.peer_peer, machine_next_self, machine_next_peer]
      intro hpending hstate
      refine h.early _ hpending ?_
      rw [Side.peer_peer]
      by_contra hne
      exact hask.state_ne hne hstate
  · refine act.side.forall_of ?_ ?_
    · rw [machine_next_self]
      intro hpending
      generalize link.stimulus act = heard at hask
      cases hask with
      | quiet _ _ hsame htimer _ _ =>
          rw [hsame] at hpending
          rcases htimer with hnone | ⟨hsince, hretries⟩
          · exact absurd hnone hpending
          · rw [hsince, hretries]
            exact h.late _ hpending
      | first hstate _ _ _ hsince hretries _ _ =>
          have hfirst := h.nextTick_le_early hclosing htime hrto hstate
          have hnow := hahead act.side.peer
          rw [hsince, hretries]
          push_cast at hfirst ⊢
          linarith
      | again _ _ hsame _ hsince hretries _ =>
          rw [hsame] at hpending
          have hlate := h.late _ hpending
          have htimer := htime.timer _ hpending
          have hnow := hahead act.side
          rw [hsince, hretries]
          push_cast at hlate ⊢
          linarith
      | acked _ _ _ hnone _ => exact absurd hnone hpending
    · rw [machine_next_peer]
      exact h.late _

/-- The schedule begins with the first FIN. -/
lemma Deadline.begin (hstates : ∀ x, (link.party x).machine.state = .Established)
    (hclosing : Closing sid maxRetries (j * k) link) (hrto : 0 < rto)
    (hask : AskStep (link.party act.side).machine (link.answer act).2 (link.answer act).1
      (link.time act) (link.stimulus act))
    (hstate' : (link.answer act).2.state ≠ .Established) :
    Deadline rto (j * k) (link.time act) (link.next act) := by
  have hnone : ∀ x, (link.party x).machine.pendingCtrl = none := by
    intro x
    have hphase := hclosing.phase x
    have hs := hstates x
    cases hphase <;> simp_all
  have hfins : ∀ x, ∀ t ∈ (link.party x).sent, t.packet.type = .Fin → link.time act ≤ t.time := by
    intro x t ht htype
    have hmem : t.delivered ∈ (link.party x).fates .Fin :=
      List.mem_map_of_mem (List.mem_filter.mpr ⟨ht, decide_eq_true htype⟩)
    rw [(hclosing.direction x).unasked (hstates x)] at hmem
    exact absurd hmem List.not_mem_nil
  have hstart : (link.answer act).2.pendingCtrlSince = link.time act ∧
      (link.answer act).2.ctrlRetries = 0 := by
    generalize link.stimulus act = heard at hask
    cases hask with
    | quiet hiff _ _ _ _ _ => exact absurd (hiff.mpr (hstates _)) hstate'
    | first _ _ _ _ hsince hretries _ _ => exact ⟨hsince, hretries⟩
    | again hsame _ _ _ _ _ _ => exact absurd (hsame.trans (hstates _)) hstate'
    | acked hne _ _ _ _ => exact absurd (hstates _) hne
  have hnonneg : 0 ≤ 2 * rto * ((j * k : ℕ) : ℚ) := by positivity
  refine ⟨⟨act.side, ?_⟩, ?_, fins_next hfins le_rfl, ?_, ?_⟩
  · rw [machine_next_self]
    exact hstate'
  · rw [clock_next]
  · refine act.side.forall_of ?_ ?_
    · rw [machine_next_self]
      intro _ _
      rw [hstart.1, hstart.2]
      push_cast
      linarith
    · rw [machine_next_peer]
      exact fun hpending => absurd (hnone _) hpending
  · refine act.side.forall_of ?_ ?_
    · rw [machine_next_self]
      intro _
      rw [hstart.1, hstart.2]
      push_cast at hnonneg ⊢
      linarith
    · rw [machine_next_peer]
      exact fun hpending => absurd (hnone _) hpending

/-- **The schedule is kept.** -/
theorem OnSchedule.next (h : OnSchedule rto (j * k) link)
    (hclosing : Closing sid maxRetries (j * k) link) (htime : link.OnTime rto) (hrto : 0 < rto)
    (he : link.enabled act)
    (hask : AskStep (link.party act.side).machine (link.answer act).2 (link.answer act).1
      (link.time act) (link.stimulus act)) : OnSchedule rto (j * k) (link.next act) := by
  rcases h with hstates | ⟨t₀, ht₀⟩
  · by_cases hstate' : (link.answer act).2.state = .Established
    · left
      refine act.side.forall_of ?_ ?_
      · rw [machine_next_self]
        exact hstate'
      · rw [machine_next_peer]
        exact hstates _
    · exact Or.inr ⟨_, Deadline.begin hstates hclosing hrto hask hstate'⟩
  · exact Or.inr ⟨t₀, ht₀.next hclosing htime hrto he hask⟩

end Schedule

/-! ## Whole runs

The step lemmas along a run, from two machines that are connected.
-/

/-- Two machines that are `ESTABLISHED` in one session, with nothing on its way. -/
structure EstablishedPair (sid : ℤ) (rto : ℚ) (maxRetries : ℤ) (link : ControlLink) : Prop where
  state : ∀ x, (link.party x).machine.state = .Established
  finAcked : ∀ x, (link.party x).machine.finAcked = false
  peerFinAcked : ∀ x, (link.party x).machine.peerFinAcked = false
  pending : ∀ x, (link.party x).machine.pendingCtrl = none
  sessionId : ∀ x, (link.party x).machine.sessionId = sid
  controlRto : ∀ x, (link.party x).machine.controlRto = rto
  maxControlRetries : ∀ x, (link.party x).machine.maxControlRetries = maxRetries
  inbox : ∀ x, (link.party x).inbox = []
  sent : ∀ x, (link.party x).sent = []
  timedOut : ∀ x t, (SessionEvent.TimedOut, t) ∉ (link.party x).surfaced
  nextTick : ∀ x, link.clock ≤ (link.party x).nextTick ∧ (link.party x).nextTick ≤ link.clock + rto

namespace EstablishedPair

variable {sid : ℤ} {rto : ℚ} {maxRetries : ℤ} {N : ℕ} {link : ControlLink}

lemma closing (h : EstablishedPair sid rto maxRetries link) : Closing sid maxRetries N link := by
  have hfates : ∀ x kind, (link.party x).fates kind = [] := by
    intro x kind
    rw [Party.fates, h.sent x]
    rfl
  have harriving : ∀ x kind, (link.party x).arriving kind = 0 := by
    intro x kind
    rw [Party.arriving, h.inbox x]
    rfl
  refine ⟨fun x => .established (h.state x) (h.finAcked x) (h.peerFinAcked x) (h.pending x),
    h.sessionId, h.maxControlRetries, ?_, ?_, fun x hp => absurd (h.pending x) hp, h.timedOut, ?_⟩
  · intro x pkt hp
    rw [h.inbox x] at hp
    exact absurd hp List.not_mem_nil
  · intro x
    rw [hfates, hfates, harriving, harriving]
    refine ⟨fun _ => .start, fun hp => absurd (h.pending x) hp, fun _ => rfl,
      fun hne => absurd (h.state x) hne, ?_⟩
    rintro (hpos | hacked)
    · exact absurd hpos (lt_irrefl 0)
    · rw [h.finAcked x] at hacked
      cases hacked
  · intro x hclosed
    rw [h.state x] at hclosed
    cases hclosed

lemma onTime (h : EstablishedPair sid rto maxRetries link) : link.OnTime rto :=
  ⟨h.controlRto, fun x => (h.nextTick x).1, fun x => (h.nextTick x).2,
    fun x hp => absurd (h.pending x) hp⟩

end EstablishedPair

/-- **Graceful close survives bounded loss**, along every run in which no FIN is ignored while its
sender waits (`FinsAnswered`).  Let `j * k` be at most two more than the retries: among any `j`
consecutive FINs of a side one is delivered, and among any `k` consecutive FIN_ACKs.  Then nobody
ever times out, and once a FIN has been transmitted — the first goes out with the first `close()` —
both machines are `CLOSED`, and have said so, `4 * j * k` retransmission times later. -/
theorem graceful_close {sid : ℤ} {rto : ℚ} {maxRetries : ℤ} {start link : ControlLink} {j k : ℕ}
    (hstart : EstablishedPair sid rto maxRetries start) (hrto : 0 < rto) (hj : 0 < j) (hk : 0 < k)
    (hmax : (j * k : ℤ) ≤ maxRetries + 2) (hrun : system.Reach FinsAnswered start link)
    (hloss : LossBounded .Fin j k link) :
    (∀ x t, (SessionEvent.TimedOut, t) ∉ (link.party x).surfaced) ∧
    ∀ x, ∀ fin ∈ (link.party x).sent, fin.packet.type = .Fin →
      fin.time + 4 * rto * (j * k : ℕ) < link.clock →
      ∀ y, (link.party y).machine.state = .Closed ∧
        ∃ t, (SessionEvent.Closed, t) ∈ (link.party y).surfaced := by
  obtain ⟨hclosing, htime, hschedule⟩ : Closing sid maxRetries (j * k) link ∧ link.OnTime rto ∧
      OnSchedule rto (j * k) link := by
    refine hrun.invariant (I := fun link => LossBounded .Fin j k link →
      Closing sid maxRetries (j * k) link ∧ link.OnTime rto ∧ OnSchedule rto (j * k) link)
      (fun _ => ⟨hstart.closing, hstart.onTime, Or.inl hstart.state⟩) ?_ hloss
    intro s act hs he hok hlossNext
    have hlossNow := LossBounded.of_next hlossNext
    obtain ⟨hclosing, htime, hschedule⟩ := hs hlossNow
    have hask := (hclosing.closeStep hj hk hmax hlossNow he).ask
    exact ⟨hclosing.next hj hk hmax hlossNow he hok, htime.next hrto he,
      hschedule.next hclosing htime hrto he hask⟩
  refine ⟨hclosing.timedOut, ?_⟩
  intro x fin hfin htype hlate y
  rcases hschedule with hstates | ⟨t₀, ht₀⟩
  · -- a FIN was transmitted, so its side has closed
    refine absurd ((hclosing.direction x).unasked (hstates x)) ?_
    exact List.ne_nil_of_mem
      (List.mem_map_of_mem (List.mem_filter.mpr ⟨hfin, decide_eq_true htype⟩))
  · have hfirst := ht₀.fins x fin hfin htype
    have hdone : ∀ y, (link.party y).machine.pendingCtrl = none := by
      intro y
      by_contra hpending
      have := ht₀.nextTick_le hclosing htime hrto hpending
      have := htime.ahead y
      linarith
    have hclosedOrHalf : ∀ y, (link.party y).machine.finAcked = true := by
      intro y
      have hphase := hclosing.phase y
      have hnone := hdone y
      cases hphase with
      | established hs _ _ _ =>
          exfalso
          have hearly := ht₀.nextTick_le_early hclosing htime hrto hs
          have := htime.ahead y.peer
          have hpos : 0 ≤ 2 * rto * ((j * k : ℕ) : ℚ) := by positivity
          linarith
      | finWait _ _ hp =>
          obtain ⟨pkt, hpkt, -⟩ := hp
          rw [hnone] at hpkt
          cases hpkt
      | halfClosed _ hacked _ _ => exact hacked
      | closeWait _ _ _ hp =>
          obtain ⟨pkt, hpkt, -⟩ := hp
          rw [hnone] at hpkt
          cases hpkt
      | closed _ hacked _ _ => exact hacked
    have hclosed : (link.party y).machine.state = .Closed := by
      have hphase := hclosing.phase y
      have hacked := (hclosing.direction y.peer).acked (Or.inr (hclosedOrHalf y.peer))
      rw [Side.peer_peer] at hacked
      have := hdone y
      have := hclosedOrHalf y
      cases hphase <;> simp_all
    exact ⟨hclosed, hclosing.closed y hclosed⟩

/-! ## Two runs

One in which a FIN is lost and sent again, and one in which a FIN_ACK is lost and nothing is of any
help.
-/

/-- A machine in `ESTABLISHED`, with two retries. -/
def establishedMachine (isInitiator : Bool) (isn : ℤ) : SessionStateMachine where
  isInitiator := isInitiator
  sessionId := 7
  isn := isn
  idleTimeout := 100
  maxControlRetries := 2
  seq := isn + 1
  state := .Established
  lastSend := some 0
  lastRecv := some 0

/-- Two of them. -/
def establishedLink : ControlLink where
  initiator := { machine := establishedMachine true 100, nextTick := 1 / 2 }
  responder := { machine := establishedMachine false 500, nextTick := 1 / 2 }
  clock := 0

/-- They are connected. -/
theorem establishedPair_establishedLink : EstablishedPair 7 (1 / 2) 2 establishedLink where
  state := by decide
  finAcked := by decide
  peerFinAcked := by decide
  pending := by decide
  sessionId := by decide
  controlRto := by decide +kernel
  maxControlRetries := by decide
  inbox := by decide
  sent := by decide
  timedOut := fun x t => by cases x <;> exact List.not_mem_nil
  nextTick := by decide +kernel

/-- A tick on either side, with nothing to send. -/
def quietTicks : List LinkAction := [.tick .Initiator [], .tick .Responder []]

/-- The first FIN is lost. -/
def lostFinRun : List LinkAction :=
  [.close .Initiator 0 [false], .tick .Responder [], .tick .Initiator [true],
    .deliver .Responder (1 / 2) [true, true], .deliver .Initiator (1 / 2) [],
    .deliver .Initiator (1 / 2) [true], .deliver .Responder (1 / 2) []] ++
  (List.replicate 8 quietTicks).flatten

/-- Both sides close, and nobody times out. -/
theorem graceful_close_lostFinRun : ∃ link : ControlLink,
    (∀ x t, (SessionEvent.TimedOut, t) ∉ (link.party x).surfaced) ∧
    ∀ y, (link.party y).machine.state = .Closed ∧
      ∃ t, (SessionEvent.Closed, t) ∈ (link.party y).surfaced := by
  obtain ⟨link, hreach, hloss, hlate, fin, hfin, htype, htime⟩ := system.exists_reach_of_exec
    FinsAnswered lostFinRun establishedLink
    (fun link : ControlLink => LossBounded .Fin 2 1 link ∧ 4 < link.clock ∧
      ∃ fin ∈ (link.party .Initiator).sent, fin.packet.type = .Fin ∧ fin.time = 0)
    (by decide +kernel)
  obtain ⟨htimedOut, hclosed⟩ := graceful_close establishedPair_establishedLink (by norm_num)
    (by decide) (by decide) (by decide) hreach hloss
  refine ⟨link, htimedOut, hclosed .Initiator fin hfin htype ?_⟩
  rw [htime]
  norm_num
  exact hlate

/-- The responder's FIN_ACK is lost, and everything else is delivered. -/
def lostFinAckRun : List LinkAction :=
  [.close .Initiator 0 [true], .deliver .Responder 0 [false, true], .deliver .Initiator 0 [true],
    .deliver .Responder 0 [],
    .tick .Initiator [true], .deliver .Responder (1 / 2) [], .tick .Responder [],
    .tick .Initiator [true], .deliver .Responder 1 [], .tick .Responder [],
    .tick .Initiator [true], .deliver .Responder (3 / 2) [], .tick .Responder [],
    .tick .Initiator []]

/-- **One lost FIN_ACK makes the initiator time out**: the responder is `CLOSED` by then and answers
no FIN any more.  Of any two consecutive transmissions of a side one is delivered. -/
theorem lost_finAck : EstablishedPair 7 (1 / 2) 2 establishedLink ∧
    ∃ link : ControlLink, system.Reach Transition.free establishedLink link ∧
    (∀ x, EveryWindow 2 ((link.party x).sent.map Transmission.delivered)) ∧
    (link.party .Responder).machine.state = .Closed ∧
    (SessionEvent.TimedOut, 2) ∈ (link.party .Initiator).surfaced := by
  refine ⟨establishedPair_establishedLink, ?_⟩
  exact system.exists_reach_of_exec Transition.free lostFinAckRun establishedLink
    (fun link : ControlLink =>
      (∀ x, EveryWindow 2 ((link.party x).sent.map Transmission.delivered)) ∧
      (link.party .Responder).machine.state = .Closed ∧
      (SessionEvent.TimedOut, 2) ∈ (link.party .Initiator).surfaced)
    (by decide +kernel)

end PhotonTCP
