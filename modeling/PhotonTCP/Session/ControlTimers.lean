import PhotonTCP.Foundation.Mealy
import PhotonTCP.Session.StateMachine

/-!
# What the timers guarantee

A control packet that awaits its reply is retransmitted every `control_rto`; when too many of these
were in vain, or nothing has been received for `idle_timeout`, the session ends.

* `Armed` — one of the two timers is running in every state but `CLOSED`; `Armed.apply`, its step.
* `ends_by_retries`, `ends_by_idling` — the two ways a silent session ends; **`silence_ends`** — it
  ends.
* `Retrying` — a machine, and how often its timer has repeated the control packet that was armed
  last.
* **`repeats_le_iff`** — the packet is repeated at most `max_control_retries` times exactly if the
  timer never runs out when it has been repeated so often; `oneTooMany` is a run in which it does.

Ending is a progress property, and the invariant behind it is that something is always running: in a
state that waits for a reply the retransmission timer, and in any state but `CLOSED` the idle timer
once something has been received.  A machine that waits has never gone without one of the two, so
ticks alone bring it to its end.  How many ticks are enough depends on the retries that are left;
that ticks come too early does no harm, and an ending by one timer is as good as by the other.

The budget is a question of counting.  The machine has a counter of its own, and a bound on it would
say little about what goes out.  So the repetitions are counted where they can be seen, in the
outputs of `on_tick`, and that the counter agrees with them is a theorem.  The exact condition is
then one on the state before a tick, and it can fail: the counter is compared with the maximum
before it is increased.
-/

namespace PhotonTCP

namespace SessionStateMachine

variable {m : SessionStateMachine} {now : ℚ}

/-! ## The timers that are running

The cases of a tick are said once, and the results below only choose among them.
-/

/-- The timers at the time `now`. -/
structure Armed (now : ℚ) (m : SessionStateMachine) : Prop where
  running : m.state ≠ .Closed → m.pendingCtrl.isSome ∨ m.lastRecv.isSome
  since : m.pendingCtrl.isSome → m.pendingCtrlSince ≤ now
  retries : (m.ctrlRetries : ℤ) ≤ m.maxControlRetries + 1

/-- The session ends, with nothing pending. -/
def ended (m : SessionStateMachine) : SessionStateMachine := { m.clearPending with state := .Closed }

/-- **The cases of a tick**: the session ends; the pending packet is retransmitted; or, with no
timer out, there may be a heartbeat. -/
theorem onTick_cases (m : SessionStateMachine) (now : ℚ) :
    (m.onTick now).1.packets = [] ∧ (m.onTick now).2 = m.ended ∨
    (m.state = .Closed ∨ m.idleExpired now = false) ∧
      ((∃ pkt, m.pendingCtrl = some pkt ∧ m.timerDue now = true ∧
          (m.ctrlRetries : ℤ) ≤ m.maxControlRetries ∧ m.onTick now = m.retransmit pkt now) ∨
        m.timerDue now = false ∧ m.onTick now = m.heartbeat now) := by
  rw [onTick]
  by_cases hidle : m.state ≠ .Closed ∧ m.idleExpired now
  · rw [if_pos hidle]
    exact .inl ⟨rfl, rfl⟩
  · rw [if_neg hidle]
    have hactive : m.state = .Closed ∨ m.idleExpired now = false := by
      rw [not_and_or, not_not] at hidle
      simpa using hidle
    cases hp : m.pendingCtrl with
    | none => exact .inr ⟨hactive, .inr ⟨by simp [timerDue, hp], rfl⟩⟩
    | some pkt =>
        dsimp only
        split_ifs with hdue hbudget
        · exact .inl ⟨rfl, rfl⟩
        · exact .inr ⟨hactive, .inl ⟨pkt, rfl, by simp [timerDue, hp, hdue], not_lt.mp hbudget, rfl⟩⟩
        · exact .inr ⟨hactive, .inr ⟨by simp [timerDue, hp, hdue], rfl⟩⟩

/-- A timer that has run out, with retries left. -/
lemma onTick_due (hactive : m.state = .Closed ∨ m.idleExpired now = false)
    (hdue : m.timerDue now = true) (hwithin : (m.ctrlRetries : ℤ) ≤ m.maxControlRetries) :
    ∃ pkt, m.pendingCtrl = some pkt ∧ m.onTick now = m.retransmit pkt now := by
  have hidle : ¬ (m.state ≠ .Closed ∧ m.idleExpired now = true) := by
    rintro ⟨hstate, hexpired⟩
    rcases hactive with hclosed | hrunning
    · exact hstate hclosed
    · simp [hrunning] at hexpired
  rw [timerDue, Bool.and_eq_true, decide_eq_true_eq] at hdue
  obtain ⟨pkt, hp⟩ := Option.isSome_iff_exists.mp hdue.1
  refine ⟨pkt, hp, ?_⟩
  rw [onTick, if_neg hidle, hp]
  dsimp only
  rw [if_pos hdue.2, if_neg (not_lt.mpr hwithin)]

/-- A heartbeat only moves the send timer. -/
lemma heartbeat_frame (m : SessionStateMachine) (now : ℚ) :
    ∃ lastSend, (m.heartbeat now).2 = { m with lastSend } := by
  rw [heartbeat]
  split_ifs
  · exact ⟨some now, rfl⟩
  · exact ⟨m.lastSend, rfl⟩

/-- A machine that is `CLOSED` with nothing pending lets the time pass. -/
lemma onTick_closed (hstate : m.state = .Closed) (hpending : m.pendingCtrl = none) (now : ℚ) :
    m.onTick now = ({}, m) := by
  simp [onTick, hstate, hpending, heartbeat]

/-- What an accepted packet does not touch: the idle timer, and the counter unless it is cleared. -/
lemma dispatch_counter (m : SessionStateMachine) (pkt : Packet) (now : ℚ) :
    (m.dispatch pkt now).2.lastRecv = m.lastRecv ∧
      ((m.dispatch pkt now).2.ctrlRetries = m.ctrlRetries ∨
        (m.dispatch pkt now).2.ctrlRetries = 0) := by
  rw [dispatch]
  split
  case h_1 => exact ⟨rfl, .inr rfl⟩
  case h_2 => exact ⟨rfl, .inr rfl⟩
  case h_3 => exact ⟨rfl, .inl rfl⟩
  case h_4 => exact ⟨rfl, .inr rfl⟩
  case h_5 =>
      rw [finWaitFinAck]
      dsimp only
      split_ifs <;> exact ⟨rfl, .inr rfl⟩
  case h_6 =>
      rw [finWaitFin]
      dsimp only
      split_ifs <;> exact ⟨rfl, .inl rfl⟩
  case h_7 => exact ⟨rfl, .inr rfl⟩
  case h_8 => exact ⟨rfl, .inl rfl⟩

/-! ## Every input keeps a timer running

An input either arms a timer, at the time at which it happens, or leaves the timers alone.
-/

/-- What the parts of the invariant need to know of one input. -/
lemma Armed.of_frame (h : Armed now m) (hretries : 0 ≤ m.maxControlRetries + 1)
    {m' : SessionStateMachine} {now' : ℚ} (hle : now ≤ now')
    (hframe : m'.config = m.config ∧ m.TimerStep m' now')
    (hrunning : m'.state ≠ .Closed → m'.pendingCtrl.isSome ∨ m'.lastRecv.isSome)
    (hcount : m'.ctrlRetries = m.ctrlRetries ∨ m'.ctrlRetries = 0) : Armed now' m' := by
  obtain ⟨hconfig, htimer⟩ := hframe
  have hmax : m'.maxControlRetries = m.maxControlRetries := congrArg Config.maxControlRetries hconfig
  refine ⟨hrunning, fun hsome => ?_, ?_⟩
  · rcases htimer with hnone | hnow | ⟨hsame, hsince⟩
    · simp [hnone] at hsome
    · exact hnow.le
    · rw [hsince]
      exact (h.since (hsame ▸ hsome)).trans hle
  · rw [hmax]
    rcases hcount with hsame | hzero
    · rw [hsame]
      exact h.retries
    · rw [hzero]
      exact_mod_cast hretries

/-- A tick does. -/
theorem Armed.onTick (h : Armed now m) {now' : ℚ} (hle : now ≤ now') :
    Armed now' (m.onTick now').2 := by
  have hretries : 0 ≤ m.maxControlRetries + 1 := le_trans (Int.natCast_nonneg _) h.retries
  rcases m.onTick_cases now' with ⟨-, hends⟩ |
    ⟨-, ⟨pkt, hp, -, hwithin, hrepeats⟩ | ⟨-, hwaits⟩⟩
  · rw [hends]
    exact ⟨by simp [ended], by simp [ended, clearPending], by simpa [ended, clearPending]⟩
  · rw [hrepeats]
    exact ⟨h.running, fun _ => le_rfl, by simpa [retransmit] using hwithin⟩
  · obtain ⟨lastSend, hframe⟩ := m.heartbeat_frame now'
    rw [hwaits, hframe]
    exact ⟨h.running, fun hsome => (h.since hsome).trans hle, h.retries⟩

/-- **Every input keeps a timer running.** -/
theorem Armed.apply (h : Armed now m) (i : MachineInput) (hle : now ≤ i.now) :
    Armed i.now (m.apply i).2 := by
  have hretries : 0 ≤ m.maxControlRetries + 1 := le_trans (Int.natCast_nonneg _) h.retries
  have hframe := m.apply_frame i
  cases i with
  | tick now' => exact h.onTick hle
  | connect now' =>
      refine h.of_frame hretries hle hframe ?_ ?_ <;> simp only [SessionStateMachine.apply, connect]
      · split_ifs with hnot
        · exact h.running
        · simp [armPending]
      · split_ifs with hnot
        · simp
        · simp [armPending]
  | close now' =>
      refine h.of_frame hretries hle hframe ?_ ?_ <;> simp only [SessionStateMachine.apply, close]
      · split_ifs with hnot
        · exact h.running
        · simp [armPending]
      · split_ifs with hnot
        · simp
        · simp [armPending]
  | noteDataActivity now' =>
      refine h.of_frame hretries hle hframe ?_ ?_ <;>
        simp only [SessionStateMachine.apply, noteDataActivity]
      · split_ifs
        · simp
        · exact h.running
      · split_ifs <;> simp
  | packet pkt now' =>
      refine h.of_frame hretries hle hframe ?_ ?_ <;> simp only [SessionStateMachine.apply, onPacket]
      · split_ifs
        · exact h.running
        · simp [acceptSyn, armPending]
        · simp [(dispatch_counter { m with lastRecv := some now' } pkt now').1]
      · split_ifs
        · simp
        · simp [acceptSyn, armPending]
        · exact (dispatch_counter { m with lastRecv := some now' } pkt now').2

lemma Armed.mono (h : Armed now m) {now' : ℚ} (hle : now ≤ now') : Armed now' m :=
  { h with since := fun hsome => (h.since hsome).trans hle }

lemma armed_fresh (h : 0 ≤ m.maxControlRetries) (now : ℚ) : Armed now m.fresh :=
  ⟨by simp [fresh], by simp [fresh], by show (0 : ℤ) ≤ m.maxControlRetries + 1; omega⟩

/-- Inputs in order of time keep a timer running. -/
theorem Armed.run {later : ℚ} : ∀ {inputs : List MachineInput} {m : SessionStateMachine} {now : ℚ},
    Armed now m → (now :: (inputs.map MachineInput.now ++ [later])).Pairwise (· ≤ ·) →
      Armed later (Mealy.run SessionStateMachine.apply m inputs).2
  | [], m, now, h, hsorted => h.mono (by simpa using hsorted)
  | i :: inputs, m, now, h, hsorted => by
      obtain ⟨hfirst, hrest⟩ := List.pairwise_cons.mp hsorted
      exact (h.apply i (hfirst _ (by simp))).run hrest

/-- A new machine, after any inputs in order of time. -/
lemma armed_of_fresh (hmax : 0 ≤ m.maxControlRetries) {inputs : List MachineInput} {later : ℚ}
    (hsorted : (inputs.map MachineInput.now ++ [later]).Pairwise (· ≤ ·)) :
    Armed later (Mealy.run SessionStateMachine.apply m.fresh inputs).2 := by
  cases inputs with
  | nil => exact armed_fresh hmax later
  | cons i inputs =>
      obtain ⟨hfirst, -⟩ := List.pairwise_cons.mp hsorted
      refine (armed_fresh hmax i.now).run (List.pairwise_cons.mpr ⟨?_, hsorted⟩)
      rintro t ht
      rcases List.mem_cons.mp ht with rfl | hrest
      · exact le_rfl
      · exact hfirst t hrest

/-- No input changes the parameters. -/
lemma config_run (m : SessionStateMachine) (inputs : List MachineInput) :
    (Mealy.run SessionStateMachine.apply m inputs).2.config = m.config := by
  induction inputs generalizing m with
  | nil => rfl
  | cons i inputs ih => exact (ih _).trans (m.apply_frame i).1

/-! ## Silence

From a state with the invariant on there is nothing but ticks.
-/

/-- Ticks, and nothing else. -/
def ticking (m : SessionStateMachine) (ticks : List ℚ) : SessionStateMachine :=
  (Mealy.run SessionStateMachine.apply m (ticks.map MachineInput.tick)).2

lemma ticking_cons (m : SessionStateMachine) (t : ℚ) (ticks : List ℚ) :
    m.ticking (t :: ticks) = (m.onTick t).2.ticking ticks := rfl

lemma ticking_concat (m : SessionStateMachine) (ticks : List ℚ) (t : ℚ) :
    m.ticking (ticks ++ [t]) = ((m.ticking ticks).onTick t).2 := by
  rw [ticking, List.map_append, Mealy.run_append]
  rfl

/-- What has ended stays so. -/
lemma ticking_closed (hstate : m.state = .Closed) (hpending : m.pendingCtrl = none) (ticks : List ℚ) :
    m.ticking ticks = m := by
  induction ticks with
  | nil => rfl
  | cons t ticks ih => rw [ticking_cons, onTick_closed hstate hpending, ih]

/-- Ticks leave the idle timer alone, and nothing pending in a session that has ended. -/
lemma ticking_frame (h : m.state = .Closed → m.pendingCtrl = none) (ticks : List ℚ) :
    (m.ticking ticks).lastRecv = m.lastRecv ∧ (m.ticking ticks).idleTimeout = m.idleTimeout ∧
      ((m.ticking ticks).state = .Closed → (m.ticking ticks).pendingCtrl = none) := by
  induction ticks generalizing m with
  | nil => exact ⟨rfl, rfl, h⟩
  | cons t ticks ih =>
      rw [ticking_cons]
      rcases m.onTick_cases t with ⟨-, hends⟩ | ⟨-, ⟨pkt, -, -, -, hrepeats⟩ | ⟨-, hwaits⟩⟩
      · rw [hends, ticking_closed rfl rfl]
        exact ⟨rfl, rfl, fun _ => rfl⟩
      · rw [hrepeats]
        exact ih (m := (m.retransmit pkt t).2) h
      · obtain ⟨lastSend, hframe⟩ := m.heartbeat_frame t
        rw [hwaits, hframe]
        exact ih (m := { m with lastSend }) h

/-- A tick `idle_timeout` after the last reception ends the session. -/
theorem ends_by_idling {r : ℚ} (h : m.state = .Closed → m.pendingCtrl = none)
    (hrecv : m.lastRecv = some r) {ticks : List ℚ} {t : ℚ} (ht : r + m.idleTimeout ≤ t) :
    (m.ticking (ticks ++ [t])).state = .Closed := by
  obtain ⟨hsame, htimeout, hclosed⟩ := ticking_frame h ticks
  rw [ticking_concat]
  by_cases hstate : (m.ticking ticks).state = .Closed
  · rw [onTick_closed hstate (hclosed hstate)]
    exact hstate
  · have hexpired : (m.ticking ticks).idleExpired t = true := by
      rw [idleExpired, hsame, htimeout, hrecv]
      simpa using le_sub_iff_add_le'.mpr ht
    rw [onTick, if_pos ⟨hstate, hexpired⟩]
    rfl

/-- So do ticks that are `control_rto` apart, if there are enough of them: each finds the packet
due, or it was retransmitted since the one before. -/
theorem ends_by_retries (hrto : 0 < m.controlRto) : ∀ {ticks spaced : List ℚ},
    m.state ≠ .Closed → m.pendingCtrl.isSome → ticks.Pairwise (· ≤ ·) → spaced.Sublist ticks →
      (m.pendingCtrlSince :: spaced).IsChain (fun t t' => t + m.controlRto ≤ t') →
      (m.ctrlRetries : ℤ) ≤ m.maxControlRetries + 1 →
      m.maxControlRetries + 2 ≤ m.ctrlRetries + spaced.length →
      (m.ticking ticks).state = .Closed := by
  intro ticks
  induction ticks generalizing m with
  | nil =>
      intro spaced _ _ _ hsub _ hleft hmany
      rw [List.sublist_nil.mp hsub] at hmany
      simp only [List.length_nil, Nat.cast_zero, add_zero] at hmany
      omega
  | cons t ticks ih =>
      intro spaced hstate hpending hsorted hsub hchain hleft hmany
      obtain ⟨hfirst, hrest⟩ := List.pairwise_cons.mp hsorted
      rw [ticking_cons]
      rcases m.onTick_cases t with ⟨-, hends⟩ | ⟨-, ⟨pkt, hp, -, hwithin, hrepeats⟩ | ⟨hearly, hwaits⟩⟩
      · rw [hends, ticking_closed rfl rfl]
        rfl
      · -- the next of the spaced ticks has its purpose fulfilled
        cases spaced with
        | nil =>
            simp only [List.length_nil, Nat.cast_zero, add_zero] at hmany
            omega
        | cons u us =>
            have hlater : t ≤ u ∧ us.Sublist ticks := by
              cases hsub with
              | cons _ h => exact ⟨hfirst u (h.subset (by simp)), (List.sublist_cons_self _ _).trans h⟩
              | cons_cons _ h => exact ⟨le_rfl, h⟩
            rw [hrepeats]
            refine ih (m := (m.retransmit pkt t).2) hrto hstate (by simp [retransmit, hp]) hrest
              hlater.2 ?_ (by simpa [retransmit] using hwithin) ?_
            · cases us with
              | nil => simp
              | cons v vs =>
                  simp only [List.isChain_cons_cons] at hchain ⊢
                  refine ⟨le_trans ?_ hchain.2.1, hchain.2.2⟩
                  exact add_le_add_left hlater.1 m.controlRto
            · simp only [List.length_cons, Nat.cast_add, Nat.cast_one] at hmany
              show m.maxControlRetries + 2 ≤ ((m.ctrlRetries + 1 : ℕ) : ℤ) + us.length
              push_cast
              omega
      · obtain ⟨lastSend, hframe⟩ := m.heartbeat_frame t
        have hsub' : spaced.Sublist ticks := by
          cases hsub with
          | cons _ h => exact h
          | cons_cons _ h =>
              -- the packet would be due at such a tick
              simp only [List.isChain_cons_cons] at hchain
              have hdue : m.timerDue t = true := by
                simp [timerDue, hpending, le_sub_iff_add_le', hchain.1]
              simp [hearly] at hdue
        rw [hwaits, hframe]
        exact ih (m := { m with lastSend }) hrto hstate hpending hrest hsub' hchain hleft hmany

/-- **Silence always ends a session.**  Whatever has happened to a machine, in order of time, if it
is not `CLOSED` then ticks end it: enough of them that are `control_rto` apart, the last of them
`idle_timeout` after the last reception. -/
theorem silence_ends (hrto : 0 < m.controlRto) (hmax : 0 ≤ m.maxControlRetries)
    {inputs : List MachineInput} {ticks spaced : List ℚ}
    (hsorted : (inputs.map MachineInput.now ++ ticks).Pairwise (· ≤ ·))
    (hstate : (Mealy.run SessionStateMachine.apply m.fresh inputs).2.state ≠ .Closed)
    (hsub : spaced.Sublist ticks) (hspaced : spaced.IsChain (fun t t' => t + m.controlRto ≤ t'))
    (hmany : m.maxControlRetries + 3 ≤ spaced.length)
    (hlast : ∀ t ∈ ticks.getLast?, ∀ r ∈ (Mealy.run SessionStateMachine.apply m.fresh inputs).2.lastRecv,
      r + m.idleTimeout ≤ t) :
    ((Mealy.run SessionStateMachine.apply m.fresh inputs).2.ticking ticks).state = .Closed := by
  have hconfig := config_run m.fresh inputs
  have harmed : ∀ later ∈ ticks.head?, Armed later
      (Mealy.run SessionStateMachine.apply m.fresh inputs).2 := by
    intro later hlater
    refine armed_of_fresh hmax (hsorted.sublist ?_)
    cases ticks with
    | nil => cases hlater
    | cons t rest =>
        cases hlater
        exact List.Sublist.append_left (by simp) _
  generalize (Mealy.run SessionStateMachine.apply m.fresh inputs).2 = m' at *
  have hrto' : m'.controlRto = m.controlRto := congrArg Config.controlRto hconfig
  have hidle' : m'.idleTimeout = m.idleTimeout := congrArg Config.idleTimeout hconfig
  have hmax' : m'.maxControlRetries = m.maxControlRetries :=
    congrArg Config.maxControlRetries hconfig
  cases spaced with
  | nil =>
      simp only [List.length_nil, Nat.cast_zero] at hmany
      omega
  | cons u us =>
      have hu : u ∈ ticks := hsub.subset (by simp)
      obtain ⟨t₀, rest, rfl⟩ := List.exists_cons_of_ne_nil (List.ne_nil_of_mem hu)
      have h := harmed t₀ rfl
      have horder := (List.pairwise_append.mp hsorted).2.1
      rcases h.running hstate with hpending | hrecv
      · -- the first of the spaced ticks comes after the packet was sent
        refine ends_by_retries (by rwa [hrto']) hstate hpending horder
          ((List.sublist_cons_self u us).trans hsub) ?_ h.retries ?_
        · cases us with
          | nil => simp
          | cons v vs =>
              simp only [List.isChain_cons_cons, hrto'] at hspaced ⊢
              refine ⟨le_trans ?_ hspaced.1, hspaced.2⟩
              refine add_le_add_left ((h.since hpending).trans ?_) m.controlRto
              rcases List.mem_cons.mp hu with rfl | hrest
              · exact le_rfl
              · exact (List.pairwise_cons.mp horder).1 u hrest
        · rw [hmax']
          simp only [List.length_cons, Nat.cast_add, Nat.cast_one] at hmany
          omega
      · obtain ⟨r, hr⟩ := Option.isSome_iff_exists.mp hrecv
        obtain ⟨init, t, hinit⟩ : ∃ init t, t₀ :: rest = init ++ [t] :=
          ⟨_, _, (List.dropLast_append_getLast (List.cons_ne_nil t₀ rest)).symm⟩
        have ht := hlast t (by rw [hinit]; simp) r hr
        rw [hinit]
        exact ends_by_idling (fun hclosed => absurd hclosed hstate) hr (by rwa [hidle'])

/-- A machine that is never answered. -/
def silentMachine : SessionStateMachine :=
  { isInitiator := true, sessionId := 7, isn := 0, maxControlRetries := 0 }

/-- Ticks end it. -/
theorem silence_ends_silentMachine :
    ((Mealy.run SessionStateMachine.apply silentMachine.fresh [.connect 0]).2.ticking
      [0, 1, 2]).state = .Closed :=
  silence_ends (by decide +kernel) (by decide) (by decide +kernel) (by decide)
    (List.Sublist.refl [0, 1, 2]) (by simp only [List.isChain_cons_cons]; decide +kernel) (by decide)
    (by intro t _ r hr; cases hr)

end SessionStateMachine

/-! ## The retransmission budget

A heartbeat awaits no reply and does not count.  A packet that is armed anew starts from zero.
-/

/-- The control packets that await a reply. -/
def Packet.AwaitsReply (pkt : Packet) : Prop := pkt.type = .Syn ∨ pkt.type = .SynAck ∨ pkt.type = .Fin

instance (pkt : Packet) : Decidable pkt.AwaitsReply := inferInstanceAs (Decidable (_ ∨ _))

/-- How many of them an output transmits. -/
def Output.awaiting (out : Output) : ℕ := out.packets.countP fun pkt => pkt.AwaitsReply

/-- A machine, and how often `on_tick` has emitted the control packet that was armed last. -/
structure Retrying where
  machine : SessionStateMachine
  repeats : ℕ := 0

namespace Retrying

open SessionStateMachine

/-- Outside `on_tick`, a packet that awaits a reply is a new one. -/
def heard (r : Retrying) (result : Output × SessionStateMachine) : Retrying where
  machine := result.2
  repeats := if result.1.awaiting = 0 then r.repeats else 0

/-- In `on_tick` it is the one that was armed last. -/
def ticked (r : Retrying) (result : Output × SessionStateMachine) : Retrying where
  machine := result.2
  repeats := r.repeats + result.1.awaiting

/-- One input. -/
def step (r : Retrying) (i : MachineInput) : Output × Retrying :=
  ((r.machine.apply i).1,
    match i with
    | .tick _ => r.ticked (r.machine.apply i)
    | _ => r.heard (r.machine.apply i))

/-- The timer of a packet that has been repeated `max_control_retries` times does not run out. -/
def InBudget (r : Retrying) : MachineInput → Prop
  | .tick now => (r.machine.state = .Closed ∨ r.machine.idleExpired now = false) →
      r.machine.timerDue now = true → (r.machine.ctrlRetries : ℤ) ≠ r.machine.maxControlRetries
  | _ => True

/-- The machine counts what its timer emits. -/
structure Counts (r : Retrying) : Prop where
  pending : ∀ pkt ∈ r.machine.pendingCtrl, pkt.AwaitsReply
  repeats : r.machine.pendingCtrl.isSome → r.repeats = r.machine.ctrlRetries

variable {r : Retrying}

/-- The pending packet is as it was, and nothing that awaits a reply was transmitted. -/
lemma Counts.same (h : r.Counts) {m : SessionStateMachine} {out : Output}
    (hpending : m.pendingCtrl = none ∨
      m.pendingCtrl = r.machine.pendingCtrl ∧ m.ctrlRetries = r.machine.ctrlRetries)
    (hout : out.awaiting = 0) : (r.heard (out, m)).Counts := by
  rw [heard, if_pos hout]
  rcases hpending with hnone | ⟨hsame, hretries⟩
  · exact ⟨by simp [hnone], by simp [hnone]⟩
  · exact ⟨by simpa [hsame] using h.pending, by simpa [hsame, hretries] using h.repeats⟩

/-- A packet was armed, and transmitted for the first time. -/
lemma Counts.arm {m : SessionStateMachine} {out : Output} {pkt : Packet}
    (hpending : m.pendingCtrl = some pkt) (hretries : m.ctrlRetries = 0) (hpkt : pkt.AwaitsReply)
    (hout : pkt ∈ out.packets) : (r.heard (out, m)).Counts := by
  have hsent : out.awaiting ≠ 0 := by
    rw [Output.awaiting, Ne, List.countP_eq_zero]
    exact fun hnone => hnone pkt hout (by simpa using hpkt)
  rw [heard, if_neg hsent]
  exact ⟨by simp [hpending, hpkt], by simp [hretries]⟩

lemma awaiting_heartbeat (m : SessionStateMachine) (now : ℚ) : (m.heartbeat now).1.awaiting = 0 := by
  rw [heartbeat]
  split_ifs <;> rfl

lemma Counts.onTick (h : r.Counts) (now : ℚ) : (r.ticked (r.machine.onTick now)).Counts := by
  rw [ticked]
  rcases r.machine.onTick_cases now with ⟨-, hends⟩ |
    ⟨-, ⟨pkt, hp, -, -, hrepeats⟩ | ⟨-, hwaits⟩⟩
  · rw [hends]
    exact ⟨by simp [ended, clearPending], by simp [ended, clearPending]⟩
  · have hpkt := h.pending pkt hp
    have hcount := h.repeats (by simp [hp])
    rw [hrepeats]
    exact ⟨h.pending, by simp [retransmit, Output.awaiting, hpkt, hcount]⟩
  · obtain ⟨lastSend, hframe⟩ := r.machine.heartbeat_frame now
    rw [hwaits, hframe, awaiting_heartbeat]
    exact ⟨h.pending, h.repeats⟩

lemma Counts.dispatch (h : r.Counts) (pkt : Packet) (now : ℚ) :
    (r.heard (r.machine.dispatch pkt now)).Counts := by
  rw [SessionStateMachine.dispatch]
  split
  case h_1 => exact h.same (.inl rfl) rfl
  case h_2 => exact h.same (.inl rfl) rfl
  case h_3 => exact h.same (.inr ⟨rfl, rfl⟩) rfl
  case h_4 => exact Counts.arm rfl rfl (.inr (.inr rfl)) (by simp)
  case h_5 =>
      rw [finWaitFinAck]
      dsimp only
      split_ifs
      · exact h.same (.inl rfl) rfl
      · exact h.same (.inl rfl) rfl
  case h_6 =>
      rw [finWaitFin]
      dsimp only
      split_ifs
      · exact h.same (.inr ⟨rfl, rfl⟩) rfl
      · exact h.same (.inr ⟨rfl, rfl⟩) rfl
  case h_7 => exact h.same (.inl rfl) rfl
  case h_8 => exact h.same (.inr ⟨rfl, rfl⟩) rfl

/-- **The machine's counter is the number of repetitions**, whatever it is given. -/
theorem Counts.step (h : r.Counts) (i : MachineInput) : (r.step i).2.Counts := by
  cases i with
  | tick now => exact h.onTick now
  | connect now =>
      simp only [Retrying.step, apply, connect]
      split_ifs
      · exact h.same (.inr ⟨rfl, rfl⟩) rfl
      · exact Counts.arm rfl rfl (.inl rfl) (by simp)
  | close now =>
      simp only [Retrying.step, apply, close]
      split_ifs
      · exact h.same (.inr ⟨rfl, rfl⟩) rfl
      · exact Counts.arm rfl rfl (.inr (.inr rfl)) (by simp)
  | noteDataActivity now =>
      simp only [Retrying.step, apply, noteDataActivity]
      split_ifs
      · exact h.same (.inr ⟨rfl, rfl⟩) rfl
      · exact h.same (.inr ⟨rfl, rfl⟩) rfl
  | packet pkt now =>
      simp only [Retrying.step, apply, onPacket]
      split_ifs
      · exact h.same (.inr ⟨rfl, rfl⟩) rfl
      · exact Counts.arm rfl rfl (.inr (.inl rfl)) (by simp)
      · exact Counts.dispatch (r := { r with machine := { r.machine with lastRecv := some now } })
          ⟨h.pending, h.repeats⟩ pkt now

/-- Only the timer repeats. -/
lemma repeats_heard_le (r : Retrying) (result : Output × SessionStateMachine) :
    (r.heard result).repeats ≤ r.repeats := by
  rw [heard]
  dsimp only
  split_ifs
  · exact le_rfl
  · exact Nat.zero_le _

/-- One step leaves the budget exactly if the timer runs out once too often. -/
lemma step_le_iff {n : ℕ} (h : r.Counts) (hmax : r.machine.maxControlRetries = n)
    (hle : r.repeats ≤ n) (i : MachineInput) : (r.step i).2.repeats ≤ n ↔ r.InBudget i := by
  cases i with
  | tick now =>
      have hrepeated : ∀ pkt, r.machine.pendingCtrl = some pkt →
          (r.ticked (r.machine.retransmit pkt now)).repeats = r.machine.ctrlRetries + 1 := by
        intro pkt hp
        have hpkt := h.pending pkt hp
        have hcount := h.repeats (by simp [hp])
        simp [ticked, retransmit, Output.awaiting, hpkt, hcount]
      show (r.ticked (r.machine.onTick now)).repeats ≤ n ↔ _
      constructor
      · intro hbudget hactive hdue hlast
        obtain ⟨pkt, hp, hretransmit⟩ := onTick_due hactive hdue hlast.le
        have hmany := hrepeated pkt hp
        rw [← hretransmit] at hmany
        omega
      · intro hbudget
        rcases r.machine.onTick_cases now with ⟨hquiet, hends⟩ |
          ⟨hactive, ⟨pkt, hp, hdue, hwithin, hrepeats⟩ | ⟨-, hwaits⟩⟩
        · simpa [ticked, Output.awaiting, hquiet] using hle
        · have hmany := hrepeated pkt hp
          have hnot := hbudget hactive hdue
          rw [hrepeats]
          omega
        · rw [hwaits, ticked, awaiting_heartbeat]
          exact hle
  | connect now => exact iff_of_true ((r.repeats_heard_le _).trans hle) trivial
  | close now => exact iff_of_true ((r.repeats_heard_le _).trans hle) trivial
  | noteDataActivity now => exact iff_of_true ((r.repeats_heard_le _).trans hle) trivial
  | packet pkt now => exact iff_of_true ((r.repeats_heard_le _).trans hle) trivial

/-- No step changes the parameters. -/
lemma config_step (r : Retrying) (i : MachineInput) :
    (r.step i).2.machine.config = r.machine.config := by
  have hmachine : (r.step i).2.machine = (r.machine.apply i).2 := by cases i <;> rfl
  rw [hmachine]
  exact (r.machine.apply_frame i).1

/-- **A control packet is repeated at most `max_control_retries` times exactly if its timer never
runs out when it has been repeated so often.** -/
theorem repeats_le_iff {m : SessionStateMachine} {n : ℕ} (hmax : m.maxControlRetries = n)
    (inputs : List MachineInput) :
    (∀ r ∈ Mealy.states step { machine := m.fresh } inputs, r.repeats ≤ n) ↔
      Mealy.Along step InBudget { machine := m.fresh } inputs := by
  refine Mealy.forall_states_iff_along (Q := fun _ => True)
    (J := fun r => r.Counts ∧ r.machine.maxControlRetries = (n : ℤ)) ?_ ?_ (fun _ _ => trivial)
    ⟨⟨by simp [fresh], by simp [fresh]⟩, hmax⟩ (Nat.zero_le n)
  · rintro r i ⟨hcounts, hr⟩
    exact ⟨hcounts.step i, (congrArg Config.maxControlRetries (r.config_step i)).trans hr⟩
  · rintro r i ⟨hcounts, hr⟩ - hle
    exact step_le_iff hcounts hr hle i

/-- A machine that may repeat a control packet once. -/
def patientMachine : SessionStateMachine := { silentMachine with maxControlRetries := 1 }

/-- One retransmission, and its timer has not yet run out again. -/
theorem repeats_le_iff_patientMachine :
    ((Mealy.states step { machine := patientMachine.fresh }
      [.connect 0, .tick 1, .tick (5 / 4)]).all fun r => r.repeats ≤ 1) = true := by
  have hbudget : Mealy.Along step InBudget { machine := patientMachine.fresh }
      [.connect 0, .tick 1, .tick (5 / 4)] := by
    simp only [Mealy.Along, InBudget]
    decide +kernel
  simpa using (repeats_le_iff (m := patientMachine) (n := 1) (by rfl) _).mpr hbudget

/-- **The SYN is repeated although it must not be.** -/
theorem oneTooMany :
    (Mealy.run SessionStateMachine.apply silentMachine.fresh [.connect 0, .tick 1]).1 =
      [{ packets := [silentMachine.synPacket] }, { packets := [silentMachine.synPacket] }] ∧
    ¬ ∀ inputs, ∀ r ∈ Mealy.states step { machine := silentMachine.fresh } inputs,
      (r.repeats : ℤ) ≤ silentMachine.maxControlRetries := by
  refine ⟨by decide +kernel, fun h => ?_⟩
  have hlast := h [.connect 0, .tick 1]
    (Mealy.run step { machine := silentMachine.fresh } [.connect 0, .tick 1]).2
    (by simp [Mealy.states, Mealy.run])
  revert hlast
  decide +kernel

end Retrying

end PhotonTCP
