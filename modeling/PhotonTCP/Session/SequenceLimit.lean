import PhotonTCP.Foundation.Mealy
import PhotonTCP.Packet.WireFormat
import PhotonTCP.Session.Session

/-!
# Control packets at the limit of the header

Sequence and acknowledgement numbers of control packets are plain increments: `isn + 1` once the
connection is established, and `seq + 1` of what is acknowledged.  The header has 32 bits for each.

* `Acknowledges`, `Beats` — the inputs that make a machine transmit a packet with such a number.
* `StepFits`, `FitsAlong` — those numbers are below `2 ^ 32`.
* `Numbered` — what holds of a machine whose packets have fitted so far.
* **`packets_fit_iff`** — every packet can be encoded exactly when the numbers are below the limit.

The data plane counts modulo `2 ^ 32`; the control plane does not.  Its numbers are increased at
most once, so they can exceed the limit only by one, and only if they start at the largest number.
A responder has no influence on this: the number is its peer's.  `struct.pack` raises then, in the
middle of a pump, and the machine has changed its state before.

The condition is stated for each input in the state in which it comes, because whether an increment
is used depends on the state: a SYN that is not accepted is not acknowledged, and a tick that
retransmits sends no heartbeat.
-/

namespace PhotonTCP

namespace SessionStateMachine

/-! ## Which inputs use an increment

By the guards of the transitions, without running them.
-/

/-- A packet that is acknowledged with our number `isn + 1`. -/
def Acknowledges (m : SessionStateMachine) (pkt : Packet) : Prop :=
  pkt.sessionId = m.sessionId ∧
    (m.state = .SynSent ∧ pkt.type = .SynAck ∨
      m.state = .Established ∧ (pkt.type = .SynAck ∨ pkt.type = .Fin) ∨
      m.state = .FinWait ∧ pkt.type = .Fin)

/-- A tick that transmits a heartbeat. -/
def Beats (m : SessionStateMachine) (now : ℚ) : Prop :=
  m.idleExpired now = false ∧ m.timerDue now = false ∧
    m.state = .Established ∧ m.heartbeatDue now = true

/-- The numbers that an input puts into packets are below the limit. -/
def StepFits (m : SessionStateMachine) : MachineInput → Prop
  | .connect _ | .noteDataActivity _ => True
  | .close _ => m.state = .Established → m.isn + 1 < 2 ^ 32
  | .tick now => m.Beats now → m.isn + 1 < 2 ^ 32
  | .packet pkt _ =>
      (m.responderInitial pkt → pkt.seq + 1 < 2 ^ 32) ∧
        (m.Acknowledges pkt → m.isn + 1 < 2 ^ 32 ∧ pkt.seq + 1 < 2 ^ 32)

instance : (m : SessionStateMachine) → (i : MachineInput) → Decidable (m.StepFits i)
  | _, .connect _ | _, .noteDataActivity _ => isTrue trivial
  | _, .close _ => inferInstanceAs (Decidable (_ → _))
  | _, .tick _ => inferInstanceAs (Decidable (_ ∧ _ ∧ _ ∧ _ → _))
  | _, .packet _ _ => inferInstanceAs (Decidable ((_ → _) ∧ (_ ∧ (_ ∨ _ ∨ _) → _)))

/-- The same for every input of a run. -/
def FitsAlong : SessionStateMachine → List MachineInput → Prop
  | _, [] => True
  | m, i :: is => m.StepFits i ∧ FitsAlong (m.apply i).2 is

instance : (inputs : List MachineInput) → (m : SessionStateMachine) → Decidable (m.FitsAlong inputs)
  | [], _ => isTrue trivial
  | _ :: is, _ => @instDecidableAnd _ _ _ (instDecidableFitsAlong is _)

/-! ## One input

That the packets fit and that the machine stays in order is one statement, an equivalence with the
condition, for each kind of input.
-/

/-- The session id and the initial number fit the header, what is pending does, and the number of an
established connection is the one after the initial one. -/
structure Numbered (m : SessionStateMachine) : Prop where
  sessionId : 0 ≤ m.sessionId ∧ m.sessionId < 65536
  isn : 0 ≤ m.isn ∧ m.isn < 2 ^ 32
  pending : ∀ pkt ∈ m.pendingCtrl, pkt.FitsHeader
  seq : m.state = .Established ∨ m.state = .FinWait ∨ m.state = .CloseWait → m.seq = m.isn + 1

variable {m : SessionStateMachine}

/-- A control packet fits the header exactly when its two numbers do. -/
lemma fitsHeader_make (h : 0 ≤ m.sessionId ∧ m.sessionId < 65536) {ptype : PacketType} {seq ack : ℤ}
    {flags : ℕ} (hflags : flags < 256) :
    (m.make ptype seq ack flags).FitsHeader ↔
      (0 ≤ seq ∧ seq < 2 ^ 32) ∧ 0 ≤ ack ∧ ack < 2 ^ 32 := by
  constructor
  · intro hfits
    exact ⟨hfits.seq, hfits.ack⟩
  · rintro ⟨hseq, hack⟩
    exact ⟨by simp [make, PROTOCOL_VERSION], hflags, h, by simp [make], hseq, hack, by simp [make],
      by simp [make]⟩

/-- What one input does: its packets fit exactly when `fits`, and then the machine stays
`Numbered`. -/
structure FitsStep (m' : SessionStateMachine) (out : Output) (fits : Prop) : Prop where
  packets : (∀ pkt ∈ out.packets, pkt.FitsHeader) ↔ fits
  numbered : fits → m'.Numbered

namespace FitsStep

/-- Nothing is transmitted. -/
lemma silent {m' : SessionStateMachine} {out : Output} {fits : Prop} (hpackets : out.packets = [])
    (hfits : fits) (hnumbered : m'.Numbered) : FitsStep m' out fits :=
  ⟨by simp [hpackets, hfits], fun _ => hnumbered⟩

/-- One packet is transmitted. -/
lemma single {m' : SessionStateMachine} {out : Output} {fits : Prop} {pkt : Packet}
    (hpackets : out.packets = [pkt]) (hpkt : pkt.FitsHeader ↔ fits)
    (hnumbered : fits → m'.Numbered) : FitsStep m' out fits :=
  ⟨by simp [hpackets, hpkt], hnumbered⟩

lemma connect (h : m.Numbered) (now : ℚ) :
    FitsStep (m.connect now).2 (m.connect now).1 True := by
  rw [SessionStateMachine.connect]
  split_ifs
  · exact .silent rfl trivial h
  · have hsyn : m.synPacket.FitsHeader :=
      (fitsHeader_make h.sessionId (by decide)).mpr ⟨h.isn, by decide⟩
    refine .single rfl (iff_true_intro hsyn) fun _ => ⟨h.sessionId, h.isn, ?_, by simp [armPending]⟩
    rintro pkt ⟨⟩
    exact hsyn

/-- Our FIN fits when our number does. -/
lemma fitsHeader_finPacket (h : m.Numbered) (hseq : m.seq = m.isn + 1) :
    m.finPacket.FitsHeader ↔ m.isn + 1 < 2 ^ 32 := by
  rw [finPacket, fitsHeader_make h.sessionId (by decide), hseq]
  have := h.isn
  constructor
  · exact fun hfits => hfits.1.2
  · exact fun hlt => ⟨⟨by omega, hlt⟩, by decide⟩

lemma close (h : m.Numbered) (now : ℚ) :
    FitsStep (m.close now).2 (m.close now).1 (m.state = .Established → m.isn + 1 < 2 ^ 32) := by
  rw [SessionStateMachine.close]
  split_ifs with hstate
  · exact .silent rfl (fun hs => absurd hs hstate) h
  · have hs : m.state = .Established := not_not.mp hstate
    have hseq := h.seq (Or.inl hs)
    have hfin := fitsHeader_finPacket h hseq
    refine .single rfl (hfin.trans (by simp [hs])) fun hfits => ⟨h.sessionId, h.isn, ?_, fun _ => hseq⟩
    rintro pkt ⟨⟩
    exact hfin.mpr (hfits hs)

lemma noteDataActivity (h : m.Numbered) (now : ℚ) :
    FitsStep (m.noteDataActivity now) {} True := by
  rw [SessionStateMachine.noteDataActivity]
  split_ifs
  · exact .silent rfl trivial ⟨h.sessionId, h.isn, h.pending, h.seq⟩
  · exact .silent rfl trivial h

lemma heartbeat (h : m.Numbered) {now : ℚ} (hidle : m.state ≠ .Closed → m.idleExpired now = false)
    (hdue : m.timerDue now = false) :
    FitsStep (m.heartbeat now).2 (m.heartbeat now).1 (m.Beats now → m.isn + 1 < 2 ^ 32) := by
  rw [SessionStateMachine.heartbeat]
  split_ifs with hbeat
  · have hseq := h.seq (Or.inl hbeat.1)
    have hbeats : m.Beats now := ⟨hidle (by simp [hbeat.1]), hdue, hbeat⟩
    refine .single rfl ?_ fun _ => ⟨h.sessionId, h.isn, h.pending, h.seq⟩
    rw [fitsHeader_make h.sessionId (by decide), hseq]
    have := h.isn
    constructor
    · exact fun hfits _ => hfits.1.2
    · exact fun hlt => ⟨⟨by omega, hlt hbeats⟩, by decide⟩
  · exact .silent rfl (fun hbeats => absurd ⟨hbeats.2.2.1, hbeats.2.2.2⟩ hbeat) h

/-- A machine that closes. -/
lemma numbered_closed (h : m.Numbered) :
    Numbered { m.clearPending with state := .Closed } :=
  ⟨h.sessionId, h.isn, by simp [clearPending], by simp⟩

lemma onTick (h : m.Numbered) (now : ℚ) :
    FitsStep (m.onTick now).2 (m.onTick now).1 (m.Beats now → m.isn + 1 < 2 ^ 32) := by
  rw [SessionStateMachine.onTick]
  by_cases hidle : m.state ≠ .Closed ∧ m.idleExpired now
  · rw [if_pos hidle]
    exact .silent rfl (fun hbeats => absurd (hbeats.1.symm.trans hidle.2) (by simp))
      (numbered_closed h)
  · rw [if_neg hidle]
    have hidle' : m.state ≠ .Closed → m.idleExpired now = false := fun hs =>
      Bool.eq_false_of_not_eq_true fun htrue => hidle ⟨hs, htrue⟩
    cases hp : m.pendingCtrl with
    | none => exact .heartbeat h hidle' (by simp [timerDue, hp])
    | some pkt =>
        dsimp only
        split_ifs with hdue
        · exact .silent rfl (fun hbeats => absurd hbeats.2.1 (by simp [timerDue, hp, hdue]))
            (numbered_closed h)
        · -- what is pending has been transmitted before
          have hfits := h.pending pkt hp
          refine .single rfl (iff_of_true hfits fun hbeats => ?_) fun _ =>
            ⟨h.sessionId, h.isn, h.pending, h.seq⟩
          exact absurd hbeats.2.1 (by simp [timerDue, hp, hdue])
        · exact .heartbeat h hidle' (by simp [timerDue, hp, hdue])

/-- An acknowledgement fits when both numbers do. -/
lemma fitsHeader_reply (h : m.Numbered) {pkt : Packet} (hpkt : pkt.FitsHeader) {ptype : PacketType}
    {flags : ℕ} (hflags : flags < 256) :
    (m.make ptype (m.isn + 1) (pkt.seq + 1) flags).FitsHeader ↔
      m.isn + 1 < 2 ^ 32 ∧ pkt.seq + 1 < 2 ^ 32 := by
  rw [fitsHeader_make h.sessionId hflags]
  have := h.isn
  have := hpkt.seq
  constructor
  · exact fun hfits => ⟨hfits.1.2, hfits.2.2⟩
  · exact fun hlt => ⟨⟨by omega, hlt.1⟩, by omega, hlt.2⟩

lemma dispatch (h : m.Numbered) {pkt : Packet} (hpkt : pkt.FitsHeader)
    (hid : pkt.sessionId = m.sessionId) (now : ℚ) :
    FitsStep (m.dispatch pkt now).2 (m.dispatch pkt now).1
      (m.Acknowledges pkt → m.isn + 1 < 2 ^ 32 ∧ pkt.seq + 1 < 2 ^ 32) := by
  rw [SessionStateMachine.dispatch]
  split
  case h_1 hstate htype =>
      have hack : m.Acknowledges pkt := ⟨hid, Or.inl ⟨hstate, htype⟩⟩
      refine .single rfl ?_ fun _ =>
        ⟨h.sessionId, h.isn, by simp [acceptSynAck, clearPending], fun _ => rfl⟩
      rw [ackPacket]
      exact (fitsHeader_reply h hpkt (by decide)).trans (by simp [hack])
  case h_2 hstate htype =>
      refine .silent rfl ?_ ⟨h.sessionId, h.isn, by simp [acceptAck, clearPending], fun _ => rfl⟩
      rintro ⟨-, hack⟩
      simp [hstate] at hack
  case h_3 hstate htype =>
      have hack : m.Acknowledges pkt := ⟨hid, Or.inr (Or.inl ⟨hstate, Or.inl htype⟩)⟩
      have hseq := h.seq (Or.inl hstate)
      refine .single rfl ?_ fun _ => ⟨h.sessionId, h.isn, h.pending, h.seq⟩
      rw [ackPacket, hseq]
      exact (fitsHeader_reply h hpkt (by decide)).trans (by simp [hack])
  case h_4 hstate htype =>
      have hack : m.Acknowledges pkt := ⟨hid, Or.inr (Or.inl ⟨hstate, Or.inr htype⟩)⟩
      have hseq := h.seq (Or.inl hstate)
      have hfinAck : (m.finAckPacket pkt).FitsHeader ↔
          m.isn + 1 < 2 ^ 32 ∧ pkt.seq + 1 < 2 ^ 32 := by
        rw [finAckPacket, hseq]
        exact fitsHeader_reply h hpkt (by decide)
      have hfin := fitsHeader_finPacket h hseq
      have hpackets : (∀ q ∈ (m.autoClose pkt now).1.packets, q.FitsHeader) ↔
          m.isn + 1 < 2 ^ 32 ∧ pkt.seq + 1 < 2 ^ 32 := by
        rw [show (m.autoClose pkt now).1.packets = [m.finAckPacket pkt, m.finPacket] from rfl]
        rw [List.forall_mem_cons, List.forall_mem_singleton]
        exact ⟨fun hfits => hfinAck.mp hfits.1, fun hfits => ⟨hfinAck.mpr hfits, hfin.mpr hfits.1⟩⟩
      refine ⟨hpackets.trans (by simp [hack]), fun hfits => ⟨h.sessionId, h.isn, ?_, fun _ => hseq⟩⟩
      rintro q ⟨⟩
      exact hfin.mpr (hfits hack).1
  case h_5 hstate htype =>
      have hnot : m.Acknowledges pkt → m.isn + 1 < 2 ^ 32 ∧ pkt.seq + 1 < 2 ^ 32 := by
        rintro ⟨-, hack⟩
        simp [hstate, htype] at hack
      rw [finWaitFinAck]
      dsimp only
      split_ifs
      · exact .silent rfl hnot ⟨h.sessionId, h.isn, by simp [clearPending], by simp⟩
      · exact .silent rfl hnot ⟨h.sessionId, h.isn, by simp [clearPending], h.seq⟩
  case h_6 hstate htype =>
      have hack : m.Acknowledges pkt := ⟨hid, Or.inr (Or.inr ⟨hstate, htype⟩)⟩
      have hseq := h.seq (Or.inr (Or.inl hstate))
      have hreply : (m.finAckPacket pkt).FitsHeader ↔
          (m.Acknowledges pkt → m.isn + 1 < 2 ^ 32 ∧ pkt.seq + 1 < 2 ^ 32) := by
        rw [finAckPacket, hseq]
        exact (fitsHeader_reply h hpkt (by decide)).trans (by simp [hack])
      rw [finWaitFin]
      dsimp only
      split_ifs
      · exact .single rfl hreply fun _ => ⟨h.sessionId, h.isn, h.pending, by simp⟩
      · exact .single rfl hreply fun _ => ⟨h.sessionId, h.isn, h.pending, h.seq⟩
  case h_7 hstate htype =>
      refine .silent rfl ?_ ⟨h.sessionId, h.isn, by simp [closeWaitFinAck, clearPending],
        by simp [closeWaitFinAck]⟩
      rintro ⟨-, hack⟩
      simp [hstate] at hack
  case h_8 =>
      refine .silent rfl ?_ h
      rintro ⟨-, ⟨hstate, htype⟩ | ⟨hstate, htype | htype⟩ | ⟨hstate, htype⟩⟩ <;> simp_all

/-- The adopted session id fits the header, as the packet does. -/
lemma acceptSyn (hisn : 0 ≤ m.isn ∧ m.isn < 2 ^ 32) {pkt : Packet} (hpkt : pkt.FitsHeader)
    (now : ℚ) :
    FitsStep (m.acceptSyn pkt now).2 (m.acceptSyn pkt now).1 (pkt.seq + 1 < 2 ^ 32) := by
  obtain ⟨m', haccept, hid, hisn', hstate⟩ : ∃ m' : SessionStateMachine,
      m.acceptSyn pkt now = ({ packets := [m'.synAckPacket pkt] },
        m'.armPending (m'.synAckPacket pkt) now) ∧
      m'.sessionId = pkt.sessionId ∧ m'.isn = m.isn ∧ m'.state = .SynRcvd :=
    ⟨_, rfl, rfl, rfl, rfl⟩
  have hsid : 0 ≤ m'.sessionId ∧ m'.sessionId < 65536 := hid ▸ hpkt.sessionId
  have hseq := hpkt.seq
  have hsynAck : (m'.synAckPacket pkt).FitsHeader ↔ pkt.seq + 1 < 2 ^ 32 := by
    rw [synAckPacket, fitsHeader_make hsid (by decide), hisn']
    exact ⟨fun hfits => hfits.2.2, fun hlt => ⟨hisn, by omega, hlt⟩⟩
  rw [haccept]
  refine .single rfl hsynAck fun hfits => ⟨hsid, hisn' ▸ hisn, ?_, by simp [armPending, hstate]⟩
  rintro q ⟨⟩
  exact hsynAck.mpr hfits

lemma onPacket (h : m.Numbered) {pkt : Packet} (hpkt : pkt.FitsHeader) (now : ℚ) :
    FitsStep (m.onPacket pkt now).2 (m.onPacket pkt now).1
      ((m.responderInitial pkt → pkt.seq + 1 < 2 ^ 32) ∧
        (m.Acknowledges pkt → m.isn + 1 < 2 ^ 32 ∧ pkt.seq + 1 < 2 ^ 32)) := by
  rw [SessionStateMachine.onPacket]
  split_ifs with hforeign hinitial
  · exact .silent rfl ⟨fun hinitial => absurd hinitial hforeign.1,
      fun hack => absurd hack.1 hforeign.2⟩ h
  · -- the session id is adopted, and with it the machine stays within the header
    have hnot : m.Acknowledges pkt → m.isn + 1 < 2 ^ 32 ∧ pkt.seq + 1 < 2 ^ 32 := by
      rintro ⟨-, hack⟩
      simp [hinitial.1, hinitial.2.2] at hack
    obtain ⟨hpackets, hnumbered⟩ :=
      acceptSyn (m := { m with lastRecv := some now }) h.isn hpkt now
    exact ⟨hpackets.trans ⟨fun hlt => ⟨fun _ => hlt, hnot⟩, fun hfits => hfits.1 hinitial⟩,
      fun hfits => hnumbered (hfits.1 hinitial)⟩
  · have hid : pkt.sessionId = m.sessionId := by
      by_contra hne
      exact hforeign ⟨hinitial, hne⟩
    obtain ⟨hpackets, hnumbered⟩ := dispatch (m := { m with lastRecv := some now })
      ⟨h.sessionId, h.isn, h.pending, h.seq⟩ hpkt hid now
    exact ⟨hpackets.trans ⟨fun hfits => ⟨fun hi => absurd hi hinitial, hfits⟩, fun hfits => hfits.2⟩,
      fun hfits => hnumbered hfits.2⟩

/-- **The step.** -/
theorem apply (h : m.Numbered) {i : MachineInput}
    (hi : ∀ pkt now, i = .packet pkt now → pkt.FitsHeader) :
    FitsStep (m.apply i).2 (m.apply i).1 (m.StepFits i) := by
  cases i with
  | connect now => exact .connect h now
  | close now => exact .close h now
  | noteDataActivity now => exact .noteDataActivity h now
  | packet pkt now => exact .onPacket h (hi pkt now rfl) now
  | tick now => exact .onTick h now

end FitsStep

/-! ## Runs

All packets of a run fit exactly if those of each step do.
-/

/-- **The run.** -/
theorem Numbered.run_fits : ∀ {inputs : List MachineInput} {m : SessionStateMachine}, m.Numbered →
    (∀ i ∈ inputs, ∀ pkt now, i = .packet pkt now → pkt.FitsHeader) →
    ((∀ out ∈ (Mealy.run apply m inputs).1, ∀ pkt ∈ out.packets, pkt.FitsHeader) ↔
      m.FitsAlong inputs) := by
  intro inputs
  induction inputs with
  | nil => exact fun _ _ => by simp [FitsAlong]
  | cons i is ih =>
      intro m h hdecodable
      obtain ⟨hpackets, hnumbered⟩ := FitsStep.apply h (hdecodable i (List.mem_cons_self ..))
      rw [Mealy.run_cons, List.forall_mem_cons, FitsAlong, hpackets]
      exact and_congr_right fun hfits =>
        ih (hnumbered hfits) fun j hj => hdecodable j (List.mem_cons_of_mem _ hj)

/-- A new machine whose session id and initial number fit the header. -/
lemma numbered_fresh (hsid : 0 ≤ m.sessionId ∧ m.sessionId < 65536)
    (hisn : 0 ≤ m.isn ∧ m.isn < 2 ^ 32) : m.fresh.Numbered :=
  ⟨hsid, hisn, by simp [fresh], by simp [fresh]⟩

end SessionStateMachine

open SessionStateMachine

/-- **Every control packet can be encoded exactly when the numbers stay below the limit**, for every
new machine and every sequence of inputs with packets that fit the header themselves, as everything
does that was decoded. -/
theorem packets_fit_iff (zlib : Bytes → ℕ) (m : SessionStateMachine) (inputs : List MachineInput)
    (hsid : 0 ≤ m.sessionId ∧ m.sessionId < 65536) (hisn : 0 ≤ m.isn ∧ m.isn < 2 ^ 32)
    (hdecodable : ∀ i ∈ inputs, ∀ pkt now, i = .packet pkt now → pkt.FitsHeader) :
    (∀ out ∈ (Mealy.run SessionStateMachine.apply m.fresh inputs).1, ∀ pkt ∈ out.packets,
      ∃ raw, pkt.pack zlib = some raw) ↔ m.fresh.FitsAlong inputs := by
  simp only [exists_pack_iff]
  exact (numbered_fresh hsid hisn).run_fits hdecodable

/-- A SYN with the largest number there is. -/
def lastSyn : Packet where
  type := .Syn
  sessionId := 7
  streamId := 0
  seq := 2 ^ 32 - 1
  ack := 0
  window := 0
  flags := Flags.syn

/-- Its encoding. -/
def lastSynFrame : Bytes := (lastSyn.pack zlibCrc32).getD []

/-- A packet could not be encoded, and the machine is left in a state. -/
def abortedIn {α : Type} (state : SessionState) : EStateM.Result SessionError Session α → Bool
  | .error .StructError session => session.machine.state = state
  | _ => false

lemma exists_of_abortedIn {α : Type} {state : SessionState}
    {result : EStateM.Result SessionError Session α} (h : abortedIn state result = true) :
    ∃ session, result = .error .StructError session ∧ session.machine.state = state := by
  cases result with
  | ok _ _ => cases h
  | error error session =>
      cases error with
      | StructError => exact ⟨session, rfl, of_decide_eq_true h⟩
      | _ => cases h

/-- **A SYN that fits the header makes the responder transmit a packet that does not**: it is in
`SYN_RCVD` by then, and the pump that received the SYN is aborted.  So does the initial number
`2 ^ 32 - 1` of an initiator. -/
theorem synAck_overflow :
    lastSyn.FitsHeader ∧
    (∃ out ∈ (Mealy.run SessionStateMachine.apply
        (fresh { isInitiator := false, sessionId := 0, isn := 500 }) [.packet lastSyn 0]).1,
      ∃ pkt ∈ out.packets, pkt.pack zlibCrc32 = none) ∧
    (∃ session, Session.pump zlibCrc32 none [(lastSynFrame, 0)] 0 0 (Session.create false 0 500)
      = .error .StructError session ∧ session.machine.state = .SynRcvd) ∧
    ∃ out ∈ (Mealy.run SessionStateMachine.apply
        (fresh { isInitiator := true, sessionId := 7, isn := 2 ^ 32 - 1 })
        [.connect 0, .packet { lastSyn with type := .SynAck, seq := 500 } 0]).1,
      ∃ pkt ∈ out.packets, pkt.pack zlibCrc32 = none := by
  have haborted : abortedIn .SynRcvd (Session.pump zlibCrc32 none [(lastSynFrame, 0)] 0 0
      (Session.create false 0 500)) = true := by decide +kernel
  exact ⟨(exists_pack_iff zlibCrc32).mp ⟨lastSynFrame, by decide +kernel⟩, by decide +kernel,
    exists_of_abortedIn haborted, by decide +kernel⟩

/-- A responder that is connected, sends a heartbeat and is closed by its peer. -/
def connectBeatClose : List MachineInput :=
  [.packet { lastSyn with seq := 100 } 0, .packet { lastSyn with type := .Ack, seq := 101 } 0,
    .tick 1, .packet { lastSyn with type := .Fin, seq := 101 } 2]

/-- Its numbers are small, so everything it transmits can be encoded. -/
theorem packets_fit_iff_connectBeatClose :
    (fresh { isInitiator := false, sessionId := 0, isn := 500 }).FitsAlong connectBeatClose ∧
    ∀ out ∈ (Mealy.run SessionStateMachine.apply
        (fresh { isInitiator := false, sessionId := 0, isn := 500 }) connectBeatClose).1,
      ∀ pkt ∈ out.packets, ∃ raw, pkt.pack zlibCrc32 = some raw := by
  have hfits : (fresh { isInitiator := false, sessionId := 0, isn := 500 }).FitsAlong
      connectBeatClose := by decide +kernel
  refine ⟨hfits, (packets_fit_iff zlibCrc32 { isInitiator := false, sessionId := 0, isn := 500 }
    connectBeatClose (by decide) (by decide) ?_).mpr hfits⟩
  intro i hi pkt now hpkt
  simp only [connectBeatClose, List.mem_cons, List.not_mem_nil, or_false] at hi
  rcases hi with rfl | rfl | rfl | rfl <;> cases hpkt <;> constructor <;> decide

end PhotonTCP
