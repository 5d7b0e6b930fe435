import PhotonTCP.Foundation.Mealy
import PhotonTCP.Session.StateMachine

/-!
# A machine that is used again

A machine that has returned to `CLOSED` can be used for another connection.  It then behaves like a
new one exactly when the last connection left no FIN bookkeeping behind, and — for an initiator —
when nothing had ever been received: `connect` and an incoming SYN set everything else anew.

* `Continuation` — the inputs of the next connection.
* `LikeNew` — the condition on what is left behind.
* `SameButSeq` — the relation to a new machine, and `SameButSeq.apply`, its step.
* **`outputs_eq_fresh_iff`** — the exact condition; `likeNew_of_run` says which connections meet it
  and `stale_close` is one that does not.

A condition that is exact has two halves.  That it is enough is a simulation: the next connection of
a used machine is compared with the first one of a new machine, input by input, and they differ at
most in a number which is not looked at before it is set.  That it is needed means that each of the
leftovers can be seen, by some continuation, and the proof constructs one for each: a close in which
one of the two halves is already taken for done, and a tick that comes before anything was received.

For a responder the time of the last reception does not matter, because the SYN that opens the next
connection sets it.
-/

namespace PhotonTCP

namespace SessionStateMachine

/-- The outputs of a list of inputs. -/
def outputs (m : SessionStateMachine) (inputs : List MachineInput) : List Output :=
  (Mealy.run apply m inputs).1

/-- The input that opens the next connection: `connect()` for an initiator, a SYN for a
responder. -/
def Opens (m : SessionStateMachine) : MachineInput → Prop
  | .connect _ => m.isInitiator = true
  | .packet pkt _ => m.isInitiator = false ∧ pkt.type = .Syn
  | _ => False

/-- Packets, ticks and calls of `close()`. -/
def Later : MachineInput → Prop
  | .packet _ _ => True
  | .tick _ => True
  | .close _ => True
  | _ => False

/-- The inputs of the next connection, from time `t₀` on and in order of time. -/
def Continuation (m : SessionStateMachine) (t₀ : ℚ) : List MachineInput → Prop
  | [] => True
  | first :: rest =>
      m.Opens first ∧ (∀ i ∈ rest, Later i) ∧
        (t₀ :: (first :: rest).map MachineInput.now).Pairwise (· ≤ ·)

/-- Nothing that matters is left behind. -/
structure LikeNew (m : SessionStateMachine) : Prop where
  finAcked : m.finAcked = false
  peerFinAcked : m.peerFinAcked = false
  lastRecv : m.isInitiator = true → m.lastRecv = none

/-! ## The relation to a new machine

Whatever happens before the connection is established does not read `seq`.
-/

/-- The states in which `seq` is not looked at: it is set when the connection is established. -/
def Establishing : SessionState → Prop
  | .Closed | .SynSent | .SynRcvd => True
  | _ => False

/-- The same machine with another sequence number. -/
@[simps!]
def withSeq (m : SessionStateMachine) (seq : ℤ) : SessionStateMachine := { m with seq }

/-- The machines agree, except that `seq` may differ while it is not looked at. -/
def SameButSeq (m f : SessionStateMachine) : Prop :=
  m = f ∨ Establishing f.state ∧ ∃ seq, m = f.withSeq seq

variable {f : SessionStateMachine}

lemma connect_withSeq (h : Establishing f.state) (seq now) :
    ((f.withSeq seq).connect now).1 = (f.connect now).1 ∧
      SameButSeq ((f.withSeq seq).connect now).2 (f.connect now).2 := by
  simp only [connect, withSeq_isInitiator, withSeq_state]
  split_ifs
  · exact ⟨rfl, Or.inr ⟨h, seq, rfl⟩⟩
  · exact ⟨rfl, Or.inr ⟨trivial, seq, rfl⟩⟩

lemma close_of_establishing (h : Establishing f.state) (now : ℚ) : f.close now = ({}, f) := by
  rw [close, if_pos]
  intro he
  rw [he] at h
  exact h

lemma noteDataActivity_of_establishing (h : Establishing f.state) (now : ℚ) :
    f.noteDataActivity now = f := by
  rw [noteDataActivity, if_neg]
  rintro (he | he | he) <;> rw [he] at h <;> exact h

lemma heartbeat_of_establishing (h : Establishing f.state) (now : ℚ) :
    f.heartbeat now = ({}, f) := by
  rw [heartbeat, if_neg]
  rintro ⟨he, -⟩
  rw [he] at h
  exact h

/-- A packet that is accepted either leaves `seq` unseen or sets it. -/
lemma dispatch_withSeq (h : Establishing f.state) (seq pkt now) :
    ((f.withSeq seq).dispatch pkt now).1 = (f.dispatch pkt now).1 ∧
      SameButSeq ((f.withSeq seq).dispatch pkt now).2 (f.dispatch pkt now).2 := by
  have hunseen : SameButSeq (f.withSeq seq) f := Or.inr ⟨h, seq, rfl⟩
  simp only [dispatch, withSeq_state]
  split
  -- the two branches that establish the connection set `seq` from the initial number
  · exact ⟨rfl, Or.inl rfl⟩
  · exact ⟨rfl, Or.inl rfl⟩
  all_goals first
    | exact ⟨rfl, hunseen⟩
    | (rename_i hstate _; rw [hstate] at h; exact h.elim)

lemma onPacket_withSeq (h : Establishing f.state) (seq pkt now) :
    ((f.withSeq seq).onPacket pkt now).1 = (f.onPacket pkt now).1 ∧
      SameButSeq ((f.withSeq seq).onPacket pkt now).2 (f.onPacket pkt now).2 := by
  have hinitial : (f.withSeq seq).responderInitial pkt ↔ f.responderInitial pkt := Iff.rfl
  simp only [onPacket, hinitial, withSeq_sessionId]
  split_ifs
  · exact ⟨rfl, Or.inr ⟨h, seq, rfl⟩⟩
  · exact ⟨rfl, Or.inr ⟨trivial, seq, rfl⟩⟩
  · exact dispatch_withSeq (f := { f with lastRecv := some now }) h seq pkt now

lemma onTick_withSeq (h : Establishing f.state) (seq now) :
    ((f.withSeq seq).onTick now).1 = (f.onTick now).1 ∧
      SameButSeq ((f.withSeq seq).onTick now).2 (f.onTick now).2 := by
  have hidle : (f.withSeq seq).idleExpired now = f.idleExpired now := rfl
  have hquiet : ((f.withSeq seq).heartbeat now).1 = (f.heartbeat now).1 ∧
      SameButSeq ((f.withSeq seq).heartbeat now).2 (f.heartbeat now).2 := by
    rw [heartbeat_of_establishing h, heartbeat_of_establishing (f := f.withSeq seq) h]
    exact ⟨rfl, Or.inr ⟨h, seq, rfl⟩⟩
  simp only [onTick, hidle, withSeq_state, withSeq_pendingCtrl, withSeq_controlRto,
    withSeq_pendingCtrlSince, withSeq_maxControlRetries, withSeq_ctrlRetries]
  rcases hpending : f.pendingCtrl with _ | pkt <;> dsimp only <;> split_ifs
  · exact ⟨rfl, Or.inr ⟨trivial, seq, rfl⟩⟩
  · exact hquiet
  · exact ⟨rfl, Or.inr ⟨trivial, seq, rfl⟩⟩
  · exact ⟨rfl, Or.inr ⟨trivial, seq, rfl⟩⟩
  · exact ⟨rfl, Or.inr ⟨h, seq, rfl⟩⟩
  · exact hquiet

/-- The step of the relation. -/
lemma SameButSeq.apply {m f : SessionStateMachine} (h : SameButSeq m f) (i : MachineInput) :
    (m.apply i).1 = (f.apply i).1 ∧ SameButSeq (m.apply i).2 (f.apply i).2 := by
  rcases h with rfl | ⟨h, seq, rfl⟩
  · exact ⟨rfl, Or.inl rfl⟩
  · cases i with
    | connect now => exact connect_withSeq h seq now
    | close now =>
        show (close _ now).1 = (close _ now).1 ∧ SameButSeq (close _ now).2 (close _ now).2
        rw [close_of_establishing h, close_of_establishing (f := f.withSeq seq) h]
        exact ⟨rfl, Or.inr ⟨h, seq, rfl⟩⟩
    | noteDataActivity now =>
        show _ ∧ SameButSeq (noteDataActivity _ now) (noteDataActivity _ now)
        rw [noteDataActivity_of_establishing h,
          noteDataActivity_of_establishing (f := f.withSeq seq) h]
        exact ⟨rfl, Or.inr ⟨h, seq, rfl⟩⟩
    | packet pkt now => exact onPacket_withSeq h seq pkt now
    | tick now => exact onTick_withSeq h seq now

/-- Hence related machines answer every list of inputs alike. -/
lemma SameButSeq.outputs {m f : SessionStateMachine} (h : SameButSeq m f)
    (inputs : List MachineInput) : m.outputs inputs = f.outputs inputs := by
  have hstep : ∀ (m f : SessionStateMachine) (i : MachineInput), SameButSeq m f →
      id (m.apply i).1 = id (f.apply i).1 ∧ SameButSeq (m.apply i).2 (f.apply i).2 :=
    fun m f i h => h.apply i
  have hrun := (Mealy.run_simulation hstep h inputs).1
  rwa [List.map_id, List.map_id] at hrun

/-- The opening input relates what nothing was left behind in to a new machine. -/
lemma LikeNew.apply {m : SessionStateMachine} (h : m.LikeNew) (hclosed : m.state = .Closed)
    {i : MachineInput} (hi : m.Opens i) :
    (m.apply i).1 = (m.fresh.apply i).1 ∧ SameButSeq (m.apply i).2 (m.fresh.apply i).2 := by
  obtain ⟨hfin, hpeer, hrecv⟩ := h
  obtain ⟨isInitiator, sessionId, isn, hb, idle, rto, retries, seq, state, lastSend, lastRecv,
    finAcked, peerFinAcked, pending, since, count⟩ := m
  obtain rfl : finAcked = false := hfin
  obtain rfl : peerFinAcked = false := hpeer
  obtain rfl : state = .Closed := hclosed
  cases i with
  | connect now =>
      obtain rfl : isInitiator = true := hi
      obtain rfl : lastRecv = none := hrecv rfl
      exact ⟨rfl, Or.inr ⟨trivial, seq, rfl⟩⟩
  | packet pkt now =>
      obtain ⟨rfl, htype⟩ : isInitiator = false ∧ pkt.type = .Syn := hi
      simp only [SessionStateMachine.apply, onPacket, responderInitial, fresh, htype]
      exact ⟨rfl, Or.inr ⟨trivial, seq, rfl⟩⟩
  | close now => exact hi.elim
  | noteDataActivity now => exact hi.elim
  | tick now => exact hi.elim

/-! ## What a stale machine gives away

The continuations that show a difference.  The handshake and the application's close come first, and
the last input makes the difference.
-/

/-- The answer to one more input. -/
def answer (m : SessionStateMachine) (inputs : List MachineInput) (i : MachineInput) : Output :=
  ((Mealy.run apply m inputs).2.apply i).1

lemma answer_eq {m f : SessionStateMachine} {inputs : List MachineInput} {i : MachineInput}
    (h : m.outputs (inputs ++ [i]) = f.outputs (inputs ++ [i])) :
    m.answer inputs i = f.answer inputs i := by
  simp only [outputs, Mealy.run_append] at h
  have hlast := List.append_inj_right' h rfl
  exact List.head_eq_of_cons_eq hlast

/-- Open the connection, establish it and close it. -/
def reclose (m : SessionStateMachine) (t₀ : ℚ) : List MachineInput :=
  [if m.isInitiator then .connect t₀ else .packet (m.make .Syn 0 0 0) t₀,
    .packet (m.make (if m.isInitiator then .SynAck else .Ack) 0 0 0) t₀, .close t₀]

/-- The FIN bookkeeping is carried through the next handshake. -/
lemma run_reclose {m : SessionStateMachine} (hclosed : m.state = .Closed) (t₀ : ℚ) :
    (Mealy.run apply m (m.reclose t₀)).2.state = .FinWait ∧
      (Mealy.run apply m (m.reclose t₀)).2.sessionId = m.sessionId ∧
      (Mealy.run apply m (m.reclose t₀)).2.finAcked = m.finAcked ∧
      (Mealy.run apply m (m.reclose t₀)).2.peerFinAcked = m.peerFinAcked := by
  cases hside : m.isInitiator <;>
    simp [reclose, hside, Mealy.run_cons, SessionStateMachine.apply, connect, close, onPacket,
      responderInitial, hclosed, make, armPending, acceptSyn, acceptSynAck, acceptAck, dispatch,
      clearPending]

lemma continuation_reclose (m : SessionStateMachine) (t₀ : ℚ) (ptype : PacketType) :
    m.Continuation t₀ (m.reclose t₀ ++ [.packet (m.make ptype 0 0 0) t₀]) := by
  cases hside : m.isInitiator <;>
    simp [reclose, hside, Continuation, Opens, Later, MachineInput.now, make]

lemma events_fin {e : SessionStateMachine} (pkt : Packet) (h : e.state = .FinWait)
    (hid : pkt.sessionId = e.sessionId) (htype : pkt.type = .Fin) (now : ℚ) :
    (e.onPacket pkt now).1.events = if e.finAcked then [.Closed] else [] := by
  rw [onPacket_eq_dispatch (by simp [responderInitial, h]) hid]
  simp only [dispatch, h, htype, finWaitFin]
  cases e.finAcked <;> rfl

lemma events_finAck {e : SessionStateMachine} (pkt : Packet) (h : e.state = .FinWait)
    (hid : pkt.sessionId = e.sessionId) (htype : pkt.type = .FinAck) (now : ℚ) :
    (e.onPacket pkt now).1.events = if e.peerFinAcked then [.Closed] else [] := by
  rw [onPacket_eq_dispatch (by simp [responderInitial, h]) hid]
  simp only [dispatch, h, htype, finWaitFinAck]
  show (if e.peerFinAcked = true then _ else _ : Output × SessionStateMachine).1.events = _
  cases e.peerFinAcked <;> rfl

/-- A single FIN shows a stale `finAcked`. -/
lemma finAcked_visible {m : SessionStateMachine} (hclosed : m.state = .Closed) (t₀ : ℚ)
    (h : ∀ inputs, m.Continuation t₀ inputs → m.outputs inputs = m.fresh.outputs inputs) :
    m.finAcked = false := by
  obtain ⟨hstate, hid, hfin, -⟩ := run_reclose hclosed t₀
  obtain ⟨hstate', hid', hfin', -⟩ := run_reclose (m := m.fresh) rfl t₀
  have hanswer := congrArg Output.events (answer_eq (h _ (m.continuation_reclose t₀ .Fin)))
  have hstale := events_fin (m.make .Fin 0 0 0) hstate hid.symm rfl t₀
  have hnew := events_fin (m.make .Fin 0 0 0) hstate' hid'.symm rfl t₀
  have heq : (if m.finAcked then [SessionEvent.Closed] else []) = [] := by
    rw [← hfin, ← hstale]
    exact hanswer.trans (hnew.trans (by rw [hfin']; rfl))
  cases hm : m.finAcked with
  | false => rfl
  | true =>
      rw [hm] at heq
      exact absurd heq (by simp)

/-- A single FIN_ACK shows a stale `peerFinAcked`. -/
lemma peerFinAcked_visible {m : SessionStateMachine} (hclosed : m.state = .Closed) (t₀ : ℚ)
    (h : ∀ inputs, m.Continuation t₀ inputs → m.outputs inputs = m.fresh.outputs inputs) :
    m.peerFinAcked = false := by
  obtain ⟨hstate, hid, -, hpeer⟩ := run_reclose hclosed t₀
  obtain ⟨hstate', hid', -, hpeer'⟩ := run_reclose (m := m.fresh) rfl t₀
  have hanswer := congrArg Output.events (answer_eq (h _ (m.continuation_reclose t₀ .FinAck)))
  have hstale := events_finAck (m.make .FinAck 0 0 0) hstate hid.symm rfl t₀
  have hnew := events_finAck (m.make .FinAck 0 0 0) hstate' hid'.symm rfl t₀
  have heq : (if m.peerFinAcked then [SessionEvent.Closed] else []) = [] := by
    rw [← hpeer, ← hstale]
    exact hanswer.trans (hnew.trans (by rw [hpeer']; rfl))
  cases hm : m.peerFinAcked with
  | false => rfl
  | true =>
      rw [hm] at heq
      exact absurd heq (by simp)

/-- An initiator that has received nothing does not time out while it waits for the SYN_ACK. -/
lemma onTick_ne_timedOut {e : SessionStateMachine} (h : e.state = .SynSent)
    (hrecv : e.lastRecv = none) (now : ℚ) : (e.onTick now).1.events ≠ [.TimedOut] := by
  have hidle : ¬ (e.state ≠ .Closed ∧ e.idleExpired now = true) := by
    simp [idleExpired, hrecv]
  have hquiet : e.heartbeat now = ({}, e) :=
    heartbeat_of_establishing (by rw [h]; exact trivial) now
  rw [onTick, if_neg hidle, hquiet]
  rcases e.pendingCtrl with _ | pkt <;> dsimp only
  · simp
  · split_ifs <;> simp [giveUp, retransmit, h]

/-- A tick, late enough, shows a stale `lastRecv`. -/
lemma lastRecv_visible {m : SessionStateMachine} (hclosed : m.state = .Closed) (t₀ : ℚ)
    (h : ∀ inputs, m.Continuation t₀ inputs → m.outputs inputs = m.fresh.outputs inputs)
    (hside : m.isInitiator = true) : m.lastRecv = none := by
  cases hrecv : m.lastRecv with
  | none => rfl
  | some t =>
      exfalso
      let late := max t₀ (t + m.idleTimeout)
      have hlate : m.idleTimeout ≤ late - t := by
        have := le_max_right t₀ (t + m.idleTimeout)
        linarith
      have hcont : m.Continuation t₀ ([.connect late] ++ [.tick late]) := by
        simp [Continuation, Opens, Later, MachineInput.now, hside, late]
      have hanswer := congrArg Output.events (answer_eq (h _ hcont))
      have hstale : (m.answer [.connect late] (.tick late)).events = [.TimedOut] := by
        simp [answer, Mealy.run_cons, SessionStateMachine.apply, connect, hside, hclosed, onTick,
          idleExpired, armPending, hrecv, hlate, idleOut]
      have hnew : (m.fresh.answer [.connect late] (.tick late)).events ≠ [.TimedOut] := by
        have hconnect : (m.fresh.connect late).2.state = .SynSent ∧
            (m.fresh.connect late).2.lastRecv = none := by
          simp [connect, fresh, hside, armPending]
        exact onTick_ne_timedOut hconnect.1 hconnect.2 late
      exact hnew (hanswer.symm.trans hstale)

/-! ## The exact condition

The opening input puts the used machine into the relation, or one of the continuations tells it from
a new one.
-/

/-- **A machine that is `CLOSED` answers every next connection like a new machine with its
parameters and session id exactly when no FIN bookkeeping is left over and, for an initiator,
nothing was ever received.** -/
theorem outputs_eq_fresh_iff (m : SessionStateMachine) (hclosed : m.state = .Closed) (t₀ : ℚ) :
    (∀ inputs, m.Continuation t₀ inputs → m.outputs inputs = m.fresh.outputs inputs) ↔
      m.LikeNew := by
  constructor
  · intro h
    exact ⟨finAcked_visible hclosed t₀ h, peerFinAcked_visible hclosed t₀ h,
      lastRecv_visible hclosed t₀ h⟩
  · intro h inputs hcont
    cases inputs with
    | nil => rfl
    | cons first rest =>
        obtain ⟨hanswer, hrel⟩ := h.apply hclosed hcont.1
        have hrest := hrel.outputs rest
        simp only [outputs, Mealy.run_cons] at hrest ⊢
        rw [hanswer, hrest]

/-! ## Which connections leave nothing behind

The flags are set by FINs and FIN_ACKs and by nothing else.
-/

lemma dispatch_flags {m : SessionStateMachine} {pkt : Packet} (hfin : pkt.type ≠ .Fin)
    (hfinAck : pkt.type ≠ .FinAck) (now : ℚ) :
    (m.dispatch pkt now).2.finAcked = m.finAcked ∧
      (m.dispatch pkt now).2.peerFinAcked = m.peerFinAcked ∧
      (m.dispatch pkt now).2.isInitiator = m.isInitiator := by
  rw [dispatch]
  split
  -- the branches of the close are the ones ruled out
  all_goals first
    | exact ⟨rfl, rfl, rfl⟩
    | (rename_i htype; exact absurd htype hfin)
    | (rename_i htype; exact absurd htype hfinAck)

lemma onTick_flags (m : SessionStateMachine) (now : ℚ) :
    (m.onTick now).2.finAcked = m.finAcked ∧
      (m.onTick now).2.peerFinAcked = m.peerFinAcked ∧
      (m.onTick now).2.isInitiator = m.isInitiator := by
  simp only [onTick, heartbeat]
  rcases m.pendingCtrl with _ | pkt <;> dsimp only <;> split_ifs <;> exact ⟨rfl, rfl, rfl⟩

/-- The input is not part of a close. -/
def NotClosing : MachineInput → Prop
  | .packet pkt _ => pkt.type ≠ .Fin ∧ pkt.type ≠ .FinAck
  | _ => True

/-- Outside a close a step leaves the FIN bookkeeping alone. -/
lemma apply_flags {m : SessionStateMachine} {i : MachineInput} (hi : NotClosing i) :
    (m.apply i).2.finAcked = m.finAcked ∧ (m.apply i).2.peerFinAcked = m.peerFinAcked ∧
      (m.apply i).2.isInitiator = m.isInitiator := by
  cases i with
  | connect now =>
      simp only [SessionStateMachine.apply, connect]
      split_ifs <;> exact ⟨rfl, rfl, rfl⟩
  | close now =>
      simp only [SessionStateMachine.apply, close]
      split_ifs <;> exact ⟨rfl, rfl, rfl⟩
  | noteDataActivity now =>
      simp only [SessionStateMachine.apply, noteDataActivity]
      split_ifs <;> exact ⟨rfl, rfl, rfl⟩
  | packet pkt now =>
      simp only [SessionStateMachine.apply, onPacket]
      split_ifs
      · exact ⟨rfl, rfl, rfl⟩
      · exact ⟨rfl, rfl, rfl⟩
      · exact dispatch_flags hi.1 hi.2 now
  | tick now => exact m.onTick_flags now

/-- **A responder whose connections all ended without a FIN or a FIN_ACK — in a timeout or a failed
handshake — is like new.** -/
theorem likeNew_of_run {m : SessionStateMachine} (h : m.LikeNew) (hside : m.isInitiator = false)
    {past : List MachineInput} (hpast : ∀ i ∈ past, NotClosing i) :
    (Mealy.run apply m past).2.LikeNew := by
  induction past generalizing m with
  | nil => exact h
  | cons i past ih =>
      obtain ⟨hi, hpast⟩ := List.forall_mem_cons.1 hpast
      obtain ⟨hfin, hpeer, hinit⟩ := m.apply_flags hi
      rw [← hinit] at hside
      refine ih ⟨hfin.trans h.finAcked, hpeer.trans h.peerFinAcked, ?_⟩ hside hpast
      intro hinitiator
      rw [hside] at hinitiator
      exact absurd hinitiator (by simp)

/-- The life of a responder that is called in session 7 and never hears the ACK: it repeats its
SYN_ACK until it gives up. -/
def unanswered : SessionStateMachine × List MachineInput :=
  let m : SessionStateMachine :=
    { isInitiator := false, sessionId := 0, isn := 500, idleTimeout := 30 }
  (m, [.packet { type := .Syn, sessionId := 7, streamId := 0, seq := 100, ack := 0, window := 0 } 0,
    .tick 1, .tick 2, .tick 3, .tick 4, .tick 5, .tick 6, .tick 7])

/-- The machine of `unanswered` has gone through a connection that failed and is `CLOSED` again.  It
is not what a constructor makes, and answers every next connection as if it were. -/
theorem outputs_eq_fresh_iff_unanswered :
    (unanswered.1.outputs unanswered.2).flatMap Output.events = [.ConnectFailed] ∧
    (Mealy.run apply unanswered.1 unanswered.2).2.state = .Closed ∧
    (Mealy.run apply unanswered.1 unanswered.2).2.lastRecv = some 0 ∧
    (Mealy.run apply unanswered.1 unanswered.2).2 ≠
      (Mealy.run apply unanswered.1 unanswered.2).2.fresh ∧
    ∀ inputs, (Mealy.run apply unanswered.1 unanswered.2).2.Continuation 9 inputs →
      (Mealy.run apply unanswered.1 unanswered.2).2.outputs inputs =
        (Mealy.run apply unanswered.1 unanswered.2).2.fresh.outputs inputs := by
  have hclosed : (Mealy.run apply unanswered.1 unanswered.2).2.state = .Closed := by decide +kernel
  have hnew : unanswered.1.LikeNew := ⟨rfl, rfl, fun _ => rfl⟩
  have hpast : ∀ i ∈ unanswered.2, NotClosing i := by
    simp [unanswered, NotClosing]
  refine ⟨by decide +kernel, hclosed, by decide +kernel, by decide +kernel, ?_⟩
  exact (outputs_eq_fresh_iff _ hclosed 9).mpr (likeNew_of_run hnew rfl hpast)

/-! ## A close left over from the last connection

A graceful close sets both flags, so it is just the connections that end well that leave something
behind.
-/

/-- The first connection of an initiator, closed gracefully. -/
def firstLife : SessionStateMachine × List MachineInput :=
  let m : SessionStateMachine := { isInitiator := true, sessionId := 7, isn := 100 }
  (m, [.connect 0, .packet (m.make .SynAck 500 101 3) 0, .close 1,
    .packet (m.make .FinAck 501 102 6) 1, .packet (m.make .Fin 501 0 4) 1])

/-- **The machine of `firstLife` surfaces `CLOSED` in its next connection on the peer's FIN alone,
before its own FIN is acknowledged; a new machine waits for the FIN_ACK.** -/
theorem stale_close :
    ¬ ∀ (m : SessionStateMachine) (past : List MachineInput), m = m.fresh →
      (Mealy.run apply m past).2.state = .Closed → ∀ (t₀ : ℚ) (inputs : List MachineInput),
        (Mealy.run apply m past).2.Continuation t₀ inputs →
          (Mealy.run apply m past).2.outputs inputs =
            (Mealy.run apply m past).2.fresh.outputs inputs := by
  intro h
  have hlife := h firstLife.1 firstLife.2 rfl (by decide +kernel) 2
    (firstLife.1.reclose 2 ++ [.packet (firstLife.1.make .Fin 501 0 4) 2])
  have hcont : (Mealy.run apply firstLife.1 firstLife.2).2.Continuation 2
      (firstLife.1.reclose 2 ++ [.packet (firstLife.1.make .Fin 501 0 4) 2]) :=
    ⟨show true = true from rfl, by simp [firstLife, Later], by simp [firstLife, MachineInput.now]⟩
  exact absurd (hlife hcont) (by decide +kernel)

end SessionStateMachine

end PhotonTCP
