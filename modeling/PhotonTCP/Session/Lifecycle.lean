import PhotonTCP.Foundation.Transition
import PhotonTCP.Session.StateMachine

/-!
# The life of one connection

A new machine is followed until an input first brings it back to `CLOSED`.

* `Awaits`, `InOrder` — the states in which a control packet awaits its reply; the bookkeeping
  agrees with the state.
* `Move` — what one input can do to the connection, and `Move.apply`, that it can do no more.
* `Life` — the machine with everything it has surfaced and transmitted.
* **`lifecycle`** — what is surfaced, when, and what is pending, after any inputs.

What an application sees of a connection is its events, and they should tell a story: it is
established once or fails, the peer may close, and one event ends it.  Nothing is assumed of the
packets; any of them may come in any state, forged or not.  The proof goes through the moves rather
than the transitions, as several of the latter look the same from outside.  The invariant says, for
each state, which events have been surfaced by then, and that what awaits a reply is the packet of
that state.

A connection that has ended is not followed further.  The machine may be used again, and what it
does then is another question, since not everything of the first connection is forgotten.
-/

namespace PhotonTCP

/-! ## One input

What can be seen of one input from outside: the change of state, the events, and whether a FIN goes
out.
-/

/-- The events that report the end of a connection. -/
def SessionEvent.Terminal : SessionEvent → Prop
  | .Closed | .TimedOut | .ConnectFailed => True
  | _ => False

instance : DecidablePred SessionEvent.Terminal
  | .Established | .PeerClosed => isFalse id
  | .Closed | .TimedOut | .ConnectFailed => isTrue trivial

namespace SessionStateMachine

/-- A control packet awaits its reply. -/
def Awaits (m : SessionStateMachine) : Prop :=
  m.state = .SynSent ∨ m.state = .SynRcvd ∨ m.state = .CloseWait ∨
    m.state = .FinWait ∧ m.finAcked = false

/-- The bookkeeping agrees with the state. -/
structure InOrder (m : SessionStateMachine) : Prop where
  pending : m.pendingCtrl.isSome = true ↔ m.Awaits
  finAcked : m.finAcked = true → m.state = .FinWait ∨ m.state = .Closed

/-- What one input can do to the connection. -/
inductive Move (m m' : SessionStateMachine) (out : Output) : Prop where
  | stays (state : m'.state = m.state) (finAcked : m'.finAcked = m.finAcked)
      (pending : m'.pendingCtrl.isSome = m.pendingCtrl.isSome) (events : out.events = [])
  | opens (state : m.state = .Closed) (state' : m'.state = .SynSent ∨ m'.state = .SynRcvd)
      (finAcked : m'.finAcked = m.finAcked) (pending : m'.pendingCtrl.isSome = true)
      (events : out.events = [])
  | establishes (state : m.state = .SynSent ∨ m.state = .SynRcvd) (state' : m'.state = .Established)
      (finAcked : m'.finAcked = m.finAcked) (pending : m'.pendingCtrl = none)
      (events : out.events = [.Established])
  | closes (state : m.state = .Established) (state' : m'.state = .FinWait)
      (finAcked : m'.finAcked = m.finAcked) (pending : m'.pendingCtrl.isSome = true)
      (fin : ∃ pkt ∈ out.packets, pkt.type = .Fin) (events : out.events = [])
  | peerCloses (state : m.state = .Established) (state' : m'.state = .CloseWait)
      (finAcked : m'.finAcked = m.finAcked) (pending : m'.pendingCtrl.isSome = true)
      (fin : ∃ pkt ∈ out.packets, pkt.type = .Fin) (events : out.events = [.PeerClosed])
  | halfCloses (state : m.state = .FinWait) (state' : m'.state = .FinWait)
      (finAcked : m'.finAcked = true) (pending : m'.pendingCtrl = none) (events : out.events = [])
  | completes (state : m.state = .FinWait ∨ m.state = .CloseWait) (state' : m'.state = .Closed)
      (pending : m'.pendingCtrl = none) (events : out.events = [.Closed])
  | timesOut (state : m.state ≠ .Closed) (state' : m'.state = .Closed)
      (pending : m'.pendingCtrl = none) (events : out.events = [.TimedOut])
  | fails (state : m.state = .SynSent ∨ m.state = .SynRcvd) (state' : m'.state = .Closed)
      (pending : m'.pendingCtrl = none) (events : out.events = [.ConnectFailed])

variable {m : SessionStateMachine}

namespace Move

/-- Nothing happens, or only the timers move. -/
lemma same {m' : SessionStateMachine} {out : Output} (hstate : m'.state = m.state)
    (hfinAcked : m'.finAcked = m.finAcked) (hpending : m'.pendingCtrl = m.pendingCtrl)
    (hevents : out.events = []) : Move m m' out :=
  .stays hstate hfinAcked (by rw [hpending]) hevents

lemma connect (m : SessionStateMachine) (now : ℚ) :
    Move m (m.connect now).2 (m.connect now).1 := by
  rw [SessionStateMachine.connect]
  split_ifs with hnot
  · exact .same rfl rfl rfl rfl
  · simp only [not_or, not_not] at hnot
    exact .opens hnot.2 (Or.inl rfl) rfl rfl rfl

lemma close (m : SessionStateMachine) (now : ℚ) :
    Move m (m.close now).2 (m.close now).1 := by
  rw [SessionStateMachine.close]
  split_ifs with hnot
  · exact .same rfl rfl rfl rfl
  · exact .closes (not_not.mp hnot) rfl rfl rfl ⟨_, List.mem_singleton_self _, rfl⟩ rfl

lemma noteDataActivity (m : SessionStateMachine) (now : ℚ) :
    Move m (m.noteDataActivity now) {} := by
  rw [SessionStateMachine.noteDataActivity]
  split_ifs
  · exact .same rfl rfl rfl rfl
  · exact .same rfl rfl rfl rfl

lemma heartbeat (m : SessionStateMachine) (now : ℚ) :
    Move m (m.heartbeat now).2 (m.heartbeat now).1 := by
  rw [SessionStateMachine.heartbeat]
  split_ifs
  · exact .same rfl rfl rfl rfl
  · exact .same rfl rfl rfl rfl

/-- An idle connection: a close in progress counts as completed. -/
lemma idleOut (hstate : m.state ≠ .Closed) : Move m m.idleOut.2 m.idleOut.1 := by
  by_cases hclosing : m.state = .FinWait ∨ m.state = .CloseWait
  · exact .completes hclosing rfl rfl (by simp [SessionStateMachine.idleOut, hclosing])
  · exact .timesOut hstate rfl rfl (by simp [SessionStateMachine.idleOut, hclosing])

/-- The retry budget is exhausted. -/
lemma giveUp (hstate : m.state ≠ .Closed) : Move m m.giveUp.2 m.giveUp.1 := by
  by_cases hestablishing : m.state = .SynSent ∨ m.state = .SynRcvd
  · exact .fails hestablishing rfl rfl (by simp [SessionStateMachine.giveUp, hestablishing])
  · exact .timesOut hstate rfl rfl (by simp [SessionStateMachine.giveUp, hestablishing])

lemma onTick (h : m.InOrder) (now : ℚ) : Move m (m.onTick now).2 (m.onTick now).1 := by
  rw [SessionStateMachine.onTick]
  by_cases hidle : m.state ≠ .Closed ∧ m.idleExpired now
  · rw [if_pos hidle]
    exact .idleOut hidle.1
  · rw [if_neg hidle]
    cases hp : m.pendingCtrl with
    | none => exact .heartbeat m now
    | some pkt =>
        have hstate : m.state ≠ .Closed := by
          intro hclosed
          have hawaits := h.pending.mp (by simp [hp])
          simp [Awaits, hclosed] at hawaits
        dsimp only
        split_ifs
        · exact .giveUp hstate
        · exact .same rfl rfl rfl rfl
        · exact .heartbeat m now

/-- A packet of the session, by state and type. -/
lemma dispatch (h : m.InOrder) (pkt : Packet) (now : ℚ) :
    Move m (m.dispatch pkt now).2 (m.dispatch pkt now).1 := by
  rw [SessionStateMachine.dispatch]
  split
  case h_1 hstate _ => exact .establishes (Or.inl hstate) rfl rfl rfl rfl
  case h_2 hstate _ => exact .establishes (Or.inr hstate) rfl rfl rfl rfl
  case h_3 => exact .same rfl rfl rfl rfl
  case h_4 hstate _ =>
      exact .peerCloses hstate rfl rfl rfl ⟨_, List.mem_cons_of_mem _ (List.mem_singleton_self _), rfl⟩
        rfl
  case h_5 hstate _ =>
      rw [finWaitFinAck]
      dsimp only
      split_ifs
      · exact .completes (Or.inl hstate) rfl rfl rfl
      · exact .halfCloses hstate hstate rfl rfl rfl
  case h_6 hstate _ =>
      rw [finWaitFin]
      dsimp only
      split_ifs with hfinAcked
      · -- our FIN is acknowledged, so nothing is pending any more
        refine .completes (Or.inl hstate) rfl (Option.not_isSome_iff_eq_none.mp fun hp => ?_) rfl
        have hawaits := h.pending.mp hp
        simp [Awaits, hstate, hfinAcked] at hawaits
      · exact .same rfl rfl rfl rfl
  case h_7 hstate _ => exact .completes (Or.inr hstate) rfl rfl rfl
  case h_8 => exact .same rfl rfl rfl rfl

lemma onPacket (h : m.InOrder) (pkt : Packet) (now : ℚ) :
    Move m (m.onPacket pkt now).2 (m.onPacket pkt now).1 := by
  rw [SessionStateMachine.onPacket]
  split_ifs with hforeign hinitial
  · exact .same rfl rfl rfl rfl
  · exact .opens hinitial.1 (Or.inr rfl) rfl rfl rfl
  · -- the idle timer does not matter
    cases dispatch (m := { m with lastRecv := some now }) ⟨h.pending, h.finAcked⟩ pkt now with
    | stays h₁ h₂ h₃ h₄ => exact .stays h₁ h₂ h₃ h₄
    | opens h₁ h₂ h₃ h₄ h₅ => exact .opens h₁ h₂ h₃ h₄ h₅
    | establishes h₁ h₂ h₃ h₄ h₅ => exact .establishes h₁ h₂ h₃ h₄ h₅
    | closes h₁ h₂ h₃ h₄ h₅ h₆ => exact .closes h₁ h₂ h₃ h₄ h₅ h₆
    | peerCloses h₁ h₂ h₃ h₄ h₅ h₆ => exact .peerCloses h₁ h₂ h₃ h₄ h₅ h₆
    | halfCloses h₁ h₂ h₃ h₄ h₅ => exact .halfCloses h₁ h₂ h₃ h₄ h₅
    | completes h₁ h₂ h₃ h₄ => exact .completes h₁ h₂ h₃ h₄
    | timesOut h₁ h₂ h₃ h₄ => exact .timesOut h₁ h₂ h₃ h₄
    | fails h₁ h₂ h₃ h₄ => exact .fails h₁ h₂ h₃ h₄

/-- **An input can do no more.** -/
theorem apply (h : m.InOrder) (i : MachineInput) : Move m (m.apply i).2 (m.apply i).1 := by
  cases i with
  | connect now => exact .connect m now
  | close now => exact .close m now
  | noteDataActivity now => exact .noteDataActivity m now
  | packet pkt now => exact .onPacket h pkt now
  | tick now => exact .onTick h now

end Move

lemma inOrder_fresh (m : SessionStateMachine) : m.fresh.InOrder :=
  ⟨by simp [fresh, Awaits], by simp [fresh]⟩

end SessionStateMachine

/-! ## The whole connection

The history of an open connection is a function of its state, and the end adds one event.
-/

/-- A machine with everything it has surfaced and transmitted so far, and whether it has returned to
`CLOSED`. -/
structure Life where
  machine : SessionStateMachine
  events : List SessionEvent := []
  packets : List Packet := []
  returned : Bool := false

namespace Life

open SessionStateMachine

/-- The next input. -/
def next (life : Life) (i : MachineInput) : Life where
  machine := (life.machine.apply i).2
  events := life.events ++ (life.machine.apply i).1.events
  packets := life.packets ++ (life.machine.apply i).1.packets
  returned := life.machine.state ≠ .Closed ∧ (life.machine.apply i).2.state = .Closed

/-- Any input, until the machine has returned. -/
def system : Transition Life MachineInput := ⟨fun life _ => life.returned = false, next⟩

instance (life : Life) (i : MachineInput) : Decidable (system.enabled life i) :=
  inferInstanceAs (Decidable (_ = _))

/-- A machine has transmitted its FIN. -/
def FinSent (life : Life) : Prop := ∃ pkt ∈ life.packets, pkt.type = .Fin

/-- What a connection that has not ended has surfaced. -/
def history : SessionState → List SessionEvent
  | .Closed | .SynSent | .SynRcvd => []
  | .Established | .FinWait => [.Established]
  | .CloseWait => [.Established, .PeerClosed]

/-- The connection has not ended. -/
structure Alive (life : Life) : Prop where
  inOrder : life.machine.InOrder
  returned : life.returned = false
  events : life.events = history life.machine.state
  finAcked : life.machine.finAcked = true → life.machine.state = .FinWait
  finSent : life.machine.state = .FinWait ∨ life.machine.state = .CloseWait → life.FinSent

/-- It has ended from the state `last`. -/
structure Ended (last : SessionState) (terminal : SessionEvent) (life : Life) : Prop where
  returned : life.returned = true
  state : life.machine.state = .Closed
  pending : life.machine.pendingCtrl = none
  events : life.events = history last ++ [terminal]
  isTerminal : terminal.Terminal
  failed : terminal = .ConnectFailed → last = .SynSent ∨ last = .SynRcvd
  closed : terminal = .Closed → life.FinSent

variable {life : Life} {i : MachineInput}

lemma FinSent.next (h : life.FinSent) (i : MachineInput) : (life.next i).FinSent := by
  obtain ⟨pkt, hp, htype⟩ := h
  exact ⟨pkt, List.mem_append_left _ hp, htype⟩

lemma finSent_of_packets (h : ∃ pkt ∈ (life.machine.apply i).1.packets, pkt.type = .Fin) :
    (life.next i).FinSent := by
  obtain ⟨pkt, hp, htype⟩ := h
  exact ⟨pkt, List.mem_append_right _ hp, htype⟩

/-- An input after which the machine is not `CLOSED`. -/
lemma Alive.of_state (h : life.Alive) (hstate : (life.machine.apply i).2.state ≠ .Closed)
    (hpending : (life.machine.apply i).2.pendingCtrl.isSome = true ↔
      (life.machine.apply i).2.Awaits)
    (hfinAcked : (life.machine.apply i).2.finAcked = true →
      (life.machine.apply i).2.state = .FinWait)
    (hevents : history life.machine.state ++ (life.machine.apply i).1.events
      = history (life.machine.apply i).2.state)
    (hfin : (life.machine.apply i).2.state = .FinWait ∨
      (life.machine.apply i).2.state = .CloseWait → (life.next i).FinSent) :
    (life.next i).Alive := by
  refine ⟨⟨hpending, fun hacked => Or.inl (hfinAcked hacked)⟩, ?_, ?_, hfinAcked, hfin⟩
  · simp [next, hstate]
  · rw [next, h.events]
    exact hevents

/-- An input that ends the connection. -/
lemma Alive.ended (h : life.Alive) {terminal : SessionEvent} (hstate : life.machine.state ≠ .Closed)
    (hstate' : (life.machine.apply i).2.state = .Closed)
    (hpending : (life.machine.apply i).2.pendingCtrl = none)
    (hevents : (life.machine.apply i).1.events = [terminal]) (hterminal : terminal.Terminal)
    (hfailed : terminal = .ConnectFailed →
      life.machine.state = .SynSent ∨ life.machine.state = .SynRcvd)
    (hclosed : terminal = .Closed → life.FinSent) :
    (life.next i).Ended life.machine.state terminal := by
  refine ⟨?_, hstate', hpending, ?_, hterminal, hfailed, fun heq => (hclosed heq).next i⟩
  · simp [next, hstate, hstate']
  · rw [next, h.events, hevents]

/-- **The step.** -/
theorem Alive.next (h : life.Alive) (i : MachineInput) :
    (life.next i).Alive ∨ ∃ terminal, (life.next i).Ended life.machine.state terminal := by
  have hacked := h.finAcked
  cases Move.apply h.inOrder i with
  | stays hstate hfinAcked hpending hevents =>
      left
      refine ⟨⟨?_, ?_⟩, ?_, ?_, ?_, ?_⟩
      · show (life.machine.apply i).2.pendingCtrl.isSome = true ↔ _
        rw [hpending, h.inOrder.pending, Life.next, Awaits, Awaits, hstate, hfinAcked]
      · intro hacked'
        exact Or.inl (hstate.trans (hacked (hfinAcked ▸ hacked')))
      · simp [Life.next, hstate]
      · rw [Life.next, h.events, hevents, hstate, List.append_nil]
      · intro hacked'
        exact hstate.trans (hacked (hfinAcked ▸ hacked'))
      · intro hclosing
        refine (h.finSent ?_).next i
        rw [← hstate]
        exact hclosing
  | opens hstate hstate' hfinAcked hpending hevents =>
      left
      refine h.of_state ?_ ?_ ?_ ?_ ?_ <;> rcases hstate' with hs | hs <;>
        simp_all [Awaits, history]
  | establishes hstate hstate' hfinAcked hpending hevents =>
      left
      refine h.of_state ?_ ?_ ?_ ?_ ?_ <;> rcases hstate with hs | hs <;>
        simp_all [Awaits, history]
  | closes hstate hstate' hfinAcked hpending hfin hevents =>
      left
      refine h.of_state ?_ ?_ ?_ ?_ fun _ => finSent_of_packets hfin <;>
        simp_all [Awaits, history]
  | peerCloses hstate hstate' hfinAcked hpending hfin hevents =>
      left
      refine h.of_state ?_ ?_ ?_ ?_ fun _ => finSent_of_packets hfin <;>
        simp_all [Awaits, history]
  | halfCloses hstate hstate' hfinAcked hpending hevents =>
      left
      refine h.of_state ?_ ?_ ?_ ?_ fun _ => (h.finSent (Or.inl hstate)).next i <;>
        simp_all [Awaits, history]
  | completes hstate hstate' hpending hevents =>
      refine Or.inr ⟨_, h.ended ?_ hstate' hpending hevents trivial (by simp) fun _ =>
        h.finSent hstate⟩
      rcases hstate with hs | hs <;> simp [hs]
  | timesOut hstate hstate' hpending hevents =>
      exact Or.inr ⟨_, h.ended hstate hstate' hpending hevents trivial (by simp) (by simp)⟩
  | fails hstate hstate' hpending hevents =>
      refine Or.inr ⟨_, h.ended ?_ hstate' hpending hevents trivial (fun _ => hstate) (by simp)⟩
      rcases hstate with hs | hs <;> simp [hs]

lemma alive_new (m : SessionStateMachine) : Alive { machine := m.fresh } :=
  ⟨inOrder_fresh m, rfl, rfl, by simp [fresh], by simp [fresh]⟩

/-- Where a connection can be. -/
lemma alive_or_ended {m : SessionStateMachine} {life : Life}
    (h : system.Reach Transition.free { machine := m.fresh } life) :
    life.Alive ∨ ∃ last terminal, life.Ended last terminal := by
  refine h.invariant (I := fun life => life.Alive ∨ ∃ last terminal, life.Ended last terminal)
    (Or.inl (alive_new m)) ?_
  rintro life i (halive | ⟨_, _, hended⟩) he -
  · rcases halive.next i with halive' | ⟨terminal, hended⟩
    · exact Or.inl halive'
    · exact Or.inr ⟨_, terminal, hended⟩
  · exact absurd (hended.returned.symm.trans he) (by simp)

/-- What has been surfaced before the end is no terminal event. -/
lemma not_terminal_of_mem_history {state : SessionState} {event : SessionEvent}
    (h : event ∈ history state) : ¬ event.Terminal := by
  cases state <;> simp [history] at h <;> rcases h with rfl | rfl <;> exact id

/-- `CLOSED` is surfaced when our FIN has been transmitted. -/
lemma Alive.finSent_of_closed (h : life.Alive)
    (hclosed : .Closed ∈ (life.machine.apply i).1.events) : life.FinSent := by
  cases Move.apply h.inOrder i with
  | completes hstate _ _ _ => exact h.finSent hstate
  | stays _ _ _ hevents => simp [hevents] at hclosed
  | opens _ _ _ _ hevents => simp [hevents] at hclosed
  | establishes _ _ _ _ hevents => simp [hevents] at hclosed
  | closes _ _ _ _ _ hevents => simp [hevents] at hclosed
  | peerCloses _ _ _ _ _ hevents => simp [hevents] at hclosed
  | halfCloses _ _ _ _ hevents => simp [hevents] at hclosed
  | timesOut _ _ _ hevents => simp [hevents] at hclosed
  | fails _ _ _ hevents => simp [hevents] at hclosed

/-- The machine has returned when the end has been surfaced. -/
lemma returned_iff {m : SessionStateMachine}
    (h : system.Reach Transition.free { machine := m.fresh } life) :
    life.returned = true ↔ ∃ event ∈ life.events, event.Terminal := by
  rcases alive_or_ended h with halive | ⟨last, terminal, hended⟩
  · rw [halive.returned, halive.events]
    simp only [Bool.false_eq_true, false_iff]
    rintro ⟨event, hmem, hterminal⟩
    exact not_terminal_of_mem_history hmem hterminal
  · rw [hended.events]
    exact iff_of_true hended.returned ⟨terminal, by simp, hended.isTerminal⟩

/-- What has been surfaced at the end, or before it. -/
lemma prefix_of_history (state : SessionState) (terminal : SessionEvent) :
    history state ++ [terminal] <+: [.Established, .PeerClosed, terminal] ∨
      history state ++ [terminal] <+: [.Established, terminal] ∨
      history state ++ [terminal] <+: [terminal] := by
  cases state <;> simp [history]

end Life

open Life in
/-- **The life of one connection.**  For every new machine and every sequence of inputs, up to the
first that brings the machine back to `CLOSED`: the events are a prefix of one of the three lists; a
terminal event is surfaced by an input exactly when that input brings the machine back; a connection
that was established does not fail to connect; `CLOSED` is surfaced only after our FIN; and a
control packet is pending exactly in the states that await a reply. -/
theorem lifecycle (m : SessionStateMachine) {life : Life}
    (h : Life.system.Reach Transition.free { machine := m.fresh } life) :
    (∃ terminal : SessionEvent, terminal.Terminal ∧
      (life.events <+: [.Established, .PeerClosed, terminal] ∨
        life.events <+: [.Established, terminal] ∨ life.events <+: [terminal])) ∧
    (life.returned = true ↔ ∃ event ∈ life.events, event.Terminal) ∧
    (life.returned = false → ∀ i, (∃ event ∈ (life.machine.apply i).1.events, event.Terminal) ↔
      life.machine.state ≠ .Closed ∧ (life.machine.apply i).2.state = .Closed) ∧
    (.Established ∈ life.events → .ConnectFailed ∉ life.events) ∧
    (life.returned = false → ∀ i, .Closed ∈ (life.machine.apply i).1.events →
      ∃ pkt ∈ life.packets, pkt.type = .Fin) ∧
    (life.machine.pendingCtrl.isSome = true ↔ life.machine.Awaits) := by
  have hwhere := alive_or_ended h
  refine ⟨?_, returned_iff h, ?_, ?_, ?_, ?_⟩
  · rcases hwhere with halive | ⟨last, terminal, hended⟩
    · refine ⟨.Closed, trivial, ?_⟩
      have hprefix : history life.machine.state <+: history life.machine.state ++ [.Closed] :=
        List.prefix_append _ _
      rw [halive.events]
      exact (prefix_of_history _ _).imp hprefix.trans (Or.imp hprefix.trans hprefix.trans)
    · refine ⟨terminal, hended.isTerminal, ?_⟩
      rw [hended.events]
      exact prefix_of_history last terminal
  · intro hreturned i
    have hnow := returned_iff h
    have hnext := returned_iff (h.tail (a := i) hreturned trivial)
    simp only [hreturned, Bool.false_eq_true, false_iff, not_exists, not_and] at hnow
    have hsplit : (life.next i).events = life.events ++ (life.machine.apply i).1.events := rfl
    have hback : (life.next i).returned = true ↔
        life.machine.state ≠ .Closed ∧ (life.machine.apply i).2.state = .Closed := by
      simp [Life.next]
    rw [← hback]
    refine Iff.trans ?_ hnext.symm
    show _ ↔ ∃ event ∈ (life.next i).events, event.Terminal
    rw [hsplit]
    constructor
    · rintro ⟨event, hmem, hterminal⟩
      exact ⟨event, List.mem_append_right _ hmem, hterminal⟩
    · rintro ⟨event, hmem, hterminal⟩
      rcases List.mem_append.mp hmem with hold | hnew
      · exact absurd hterminal (hnow event hold)
      · exact ⟨event, hnew, hterminal⟩
  · intro hestablished hfailed
    rcases hwhere with halive | ⟨last, terminal, hended⟩
    · rw [halive.events] at hfailed
      exact not_terminal_of_mem_history hfailed trivial
    · rw [hended.events, List.mem_append, List.mem_singleton] at hestablished hfailed
      rcases hfailed with hold | rfl
      · exact not_terminal_of_mem_history hold trivial
      · rcases hended.failed rfl with rfl | rfl <;> simp [history] at hestablished
  · intro hreturned i hclosed
    rcases hwhere with halive | ⟨_, _, hended⟩
    · exact halive.finSent_of_closed hclosed
    · exact absurd (hended.returned.symm.trans hreturned) (by simp)
  · rcases hwhere with halive | ⟨_, _, hended⟩
    · exact halive.inOrder.pending
    · simp [hended.pending, SessionStateMachine.Awaits, hended.state]

/-- A responder whose peer connects and closes. -/
def closedByPeer : List MachineInput :=
  let packet (type : PacketType) (flags : ℕ) : Packet :=
    { type, sessionId := 7, streamId := 0, seq := 100, ack := 501, window := 0, flags }
  [.packet (packet .Syn Flags.syn) 0, .tick (1 / 2), .packet (packet .Ack Flags.ack) 1,
    .packet (packet .Fin Flags.fin) 2, .packet (packet .FinAck (Flags.fin ||| Flags.ack)) 3]

/-- It is told so, and then that the connection is closed. -/
theorem lifecycle_closedByPeer : ∃ life : Life,
    life.events = [.Established, .PeerClosed, .Closed] ∧ life.returned = true := by
  obtain ⟨life, hreach, hevents⟩ := Life.system.exists_reach_of_exec Transition.free closedByPeer
    { machine := SessionStateMachine.fresh { isInitiator := false, sessionId := 0, isn := 500 } }
    (fun life : Life => life.events = [.Established, .PeerClosed, .Closed]) (by decide +kernel)
  exact ⟨life, hevents, (lifecycle _ hreach).2.1.mpr ⟨.Closed, by simp [hevents], trivial⟩⟩

end PhotonTCP
