import PhotonTCP.Foundation.Mealy
import PhotonTCP.Session.Calls

/-!
# What a cycle does to the machine

The machine of a session takes the packets that arrive in a cycle one after the other, then the
tick; in one cycle it can pass through several states.

* `SessionStateMachine.hear` — what one packet does; `parsed` — the packets among the frames.
* **`drain_hear`**, **`pump_hear`** — the loop and the whole cycle.
* `Completes`, `Ends` — the packet that completes the handshake, and the one that ends the
  connection.
* `Reaches`, `Lasts` — the packets complete the handshake, and no FIN follows.
* **`pump_established`** — a cycle surfaces the establishment if its packets reach it, and leaves
  the session `ESTABLISHED` if that lasts.

A caller sees the machine only between cycles.  In one cycle a session may be established and lose
the connection again, so that the caller who asks afterwards whether it is established is told that
it is not, although the event is among those that the cycle has returned.  Both questions are
answered here in terms of the packets of the cycle, by going through them in order.
-/

namespace PhotonTCP

open Raising

/-! ## The packets of a cycle

The data plane works in between and touches the machine only by refreshing its idle timer.
-/

/-- What a packet that arrives does to the machine. -/
def SessionStateMachine.hear (m : SessionStateMachine) (pkt : Packet) (now : ℚ) :
    Output × SessionStateMachine :=
  if pkt.streamId = CONTROL_STREAM_ID then
    if pkt.type ∈ CONTROL_TYPES ∨ pkt.type = .Ack ∧ m.state = .SynRcvd then m.onPacket pkt now
    else ({}, m)
  else ({}, m.noteDataActivity now)

/-- The same, with the events as the output. -/
def hearing (m : SessionStateMachine) (i : Packet × ℚ) : List SessionEvent × SessionStateMachine :=
  ((m.hear i.1 i.2).1.events, (m.hear i.1 i.2).2)

/-- The packets among the frames. -/
def parsed (zlib : Bytes → ℕ) (frames : List (Bytes × ℚ)) : List (Packet × ℚ) :=
  frames.filterMap fun f => (Packet.unpack zlib f.1).toOption.map fun pkt => (pkt, f.2)

variable {zlib : Bytes → ℕ} {s s' : Session} {m : SessionStateMachine} {pkt : Packet} {now now' : ℚ}
  {events : List SessionEvent} {frames : List (Bytes × ℚ)}

namespace Session

lemma machine_transmit {pkts : List Packet} {u : Unit} (h : transmit zlib pkts s = .ok u s') :
    s'.machine = s.machine := by
  rw [← after_ok h, after_transmit]
  rfl

/-- The machine works, and what it transmits is taken. -/
lemma machine_onMachine_emit {f : SessionStateMachine → Output × SessionStateMachine}
    (h : (onMachine f >>= emit zlib) s = .ok events s') :
    events = (f s.machine).1.events ∧ s'.machine = (f s.machine).2 := by
  obtain ⟨out, s₁, hmachine, hemit⟩ := bind_eq_ok h
  obtain ⟨rfl, rfl⟩ := EStateM.Result.ok.inj hmachine
  obtain ⟨u, s₂, htransmit, hreturn⟩ := bind_eq_ok hemit
  obtain ⟨rfl, rfl⟩ := EStateM.Result.ok.inj hreturn
  exact ⟨rfl, machine_transmit htransmit⟩

lemma machine_emitMux {out : MuxOutput} {u : Unit} (h : emitMux zlib out s = .ok u s') :
    s'.machine = s.machine := by
  obtain ⟨v, s₁, htransmit, hbuffer⟩ := bind_eq_ok h
  obtain ⟨-, rfl⟩ := EStateM.Result.ok.inj hbuffer
  exact (machine_transmit htransmit :)

lemma machine_onMux {α : Type} {f : StreamMux → Except ValueError α × StreamMux} {a : α}
    (h : onMux f s = .ok a s') : s'.machine = s.machine := by
  cases hf : (f s.mux).1 with
  | ok b =>
      rw [onMux_ok hf] at h
      obtain ⟨-, rfl⟩ := EStateM.Result.ok.inj h
      rfl
  | error text =>
      rw [onMux_error hf] at h
      cases h

/-- One packet. -/
lemma routePacket_hear (h : routePacket zlib pkt now s = .ok events s') :
    events = (s.machine.hear pkt now).1.events ∧ s'.machine = (s.machine.hear pkt now).2 := by
  rw [routePacket, get_bind] at h
  rw [SessionStateMachine.hear]
  by_cases hstream : pkt.streamId = CONTROL_STREAM_ID
  · rw [if_pos hstream] at h ⊢
    by_cases hcontrol : pkt.type ∈ CONTROL_TYPES
    · rw [if_pos hcontrol] at h
      rw [if_pos (.inl hcontrol)]
      exact machine_onMachine_emit h
    · rw [if_neg hcontrol] at h
      by_cases hack : pkt.type = .Ack ∧ s.machine.state = .SynRcvd
      · rw [if_pos hack.1, if_pos hack.2] at h
        rw [if_pos (.inr hack)]
        exact machine_onMachine_emit h
      · have hignored : (pure [] : SessionM (List SessionEvent)) s = .ok events s' := by
          split_ifs at h with htype hstate
          · exact absurd ⟨htype, hstate⟩ hack
          · exact h
          · exact h
        obtain ⟨rfl, rfl⟩ := EStateM.Result.ok.inj hignored
        rw [if_neg (not_or.mpr ⟨hcontrol, hack⟩)]
        exact ⟨rfl, rfl⟩
  · rw [if_neg hstream] at h ⊢
    obtain ⟨u, s₁, hnote, h⟩ := bind_eq_ok h
    obtain ⟨-, rfl⟩ := EStateM.Result.ok.inj hnote
    obtain ⟨out, s₂, hmux, h⟩ := bind_eq_ok h
    obtain ⟨v, s₃, hemit, hreturn⟩ := bind_eq_ok h
    obtain ⟨rfl, rfl⟩ := EStateM.Result.ok.inj hreturn
    exact ⟨rfl, (machine_emitMux hemit).trans (machine_onMux hmux)⟩

/-- **The loop over the frames.** -/
theorem drain_hear : ∀ {frames : List (Bytes × ℚ)} {processed : ℤ} {s s' : Session}
    {events : List SessionEvent}, drain zlib none processed frames s = .ok events s' →
    events = (Mealy.run hearing s.machine (parsed zlib frames)).1.flatten ∧
      s'.machine = (Mealy.run hearing s.machine (parsed zlib frames)).2
  | [], _, s, s', events, h => by
      obtain ⟨rfl, rfl⟩ := EStateM.Result.ok.inj h
      exact ⟨rfl, rfl⟩
  | (frame, now) :: frames, processed, s, s', events, h => by
      rw [drain, Option.all_none, if_pos rfl] at h
      rcases hunpack : Packet.unpack zlib frame with e | pkt <;> rw [hunpack] at h
      · have hparsed : parsed zlib ((frame, now) :: frames) = parsed zlib frames := by
          rw [parsed, List.filterMap_cons, hunpack]
          rfl
        rw [hparsed]
        cases e with
        | PacketError error => exact drain_hear h
        | ValueError text => cases h
        | StructError => cases h
      · have hparsed : parsed zlib ((frame, now) :: frames) = (pkt, now) :: parsed zlib frames := by
          rw [parsed, List.filterMap_cons, hunpack]
          rfl
        obtain ⟨first, s₁, hroute, h⟩ := bind_eq_ok h
        obtain ⟨more, s₂, hdrain, hreturn⟩ := bind_eq_ok h
        obtain ⟨rfl, rfl⟩ := EStateM.Result.ok.inj hreturn
        obtain ⟨hfirst, hmachine⟩ := routePacket_hear hroute
        obtain ⟨hmore, hlast⟩ := drain_hear hdrain
        rw [hmachine] at hmore hlast
        rw [hparsed, Mealy.run_cons, List.flatten_cons]
        exact ⟨by rw [hfirst, hmore]; rfl, hlast⟩

/-- **The whole cycle**: the packets, then the tick. -/
theorem pump_hear (h : pump zlib none frames now now' s = .ok events s') :
    let heard := Mealy.run hearing s.machine (parsed zlib frames)
    events = heard.1.flatten ++ (heard.2.onTick now).1.events ∧
      s'.machine = (heard.2.onTick now).2 := by
  obtain ⟨u, s₁, hsync, h⟩ := bind_eq_ok h
  obtain ⟨-, rfl⟩ := EStateM.Result.ok.inj hsync
  obtain ⟨first, s₂, hdrain, h⟩ := bind_eq_ok h
  obtain ⟨hfirst, hmachine⟩ := drain_hear hdrain
  rw [← bind_assoc] at h
  obtain ⟨timed, s₃, htick, h⟩ := bind_eq_ok h
  obtain ⟨htimed, hticked⟩ := machine_onMachine_emit htick
  rw [hmachine] at htimed hticked
  rw [← bind_assoc] at h
  obtain ⟨v, s₄, hmux, hreturn⟩ := bind_eq_ok h
  obtain ⟨w, s₅, hwork, hemit⟩ := bind_eq_ok hmux
  obtain ⟨rfl, rfl⟩ := EStateM.Result.ok.inj hreturn
  exact ⟨by rw [hfirst, htimed], (machine_emitMux hemit).trans ((machine_onMux hwork).trans hticked)⟩

end Session

/-! ## Establishing and ending

The two roles complete the handshake with different packets, and a FIN ends an established
connection in either role.
-/

namespace SessionStateMachine

/-- The packet completes the handshake. -/
def Completes (m : SessionStateMachine) (pkt : Packet) : Prop :=
  pkt.streamId = CONTROL_STREAM_ID ∧ pkt.sessionId = m.sessionId ∧
    (m.state = .SynSent ∧ pkt.type = .SynAck ∨ m.state = .SynRcvd ∧ pkt.type = .Ack)

/-- The packet is a FIN of the session. -/
def Ends (sessionId : ℤ) (pkt : Packet) : Prop :=
  pkt.streamId = CONTROL_STREAM_ID ∧ pkt.sessionId = sessionId ∧ pkt.type = .Fin

instance (m : SessionStateMachine) (pkt : Packet) : Decidable (m.Completes pkt) :=
  inferInstanceAs (Decidable (_ ∧ _))

instance (sessionId : ℤ) (pkt : Packet) : Decidable (Ends sessionId pkt) :=
  inferInstanceAs (Decidable (_ ∧ _))

/-- The packets complete a handshake. -/
def Reaches : SessionStateMachine → List (Packet × ℚ) → Prop
  | _, [] => False
  | m, (pkt, now) :: pkts => m.Completes pkt ∨ Reaches (m.hear pkt now).2 pkts

/-- The packets complete a handshake, and no FIN of that session follows. -/
def Lasts : SessionStateMachine → List (Packet × ℚ) → Prop
  | _, [] => False
  | m, (pkt, now) :: pkts =>
      (m.Completes pkt ∧ ∀ p ∈ pkts, ¬ Ends pkt.sessionId p.1) ∨ Lasts (m.hear pkt now).2 pkts

instance : (m : SessionStateMachine) → (pkts : List (Packet × ℚ)) → Decidable (m.Reaches pkts)
  | _, [] => isFalse id
  | m, (pkt, now) :: pkts =>
      have := instDecidableReaches (m.hear pkt now).2 pkts
      inferInstanceAs (Decidable (_ ∨ _))

instance : (m : SessionStateMachine) → (pkts : List (Packet × ℚ)) → Decidable (m.Lasts pkts)
  | _, [] => isFalse id
  | m, (pkt, now) :: pkts =>
      have := instDecidableLasts (m.hear pkt now).2 pkts
      inferInstanceAs (Decidable (_ ∨ _))

lemma hear_of_completes (h : m.Completes pkt) (now : ℚ) :
    m.hear pkt now = { m with lastRecv := some now }.dispatch pkt now := by
  obtain ⟨hstream, hid, hstate⟩ := h
  have hgives : pkt.type ∈ CONTROL_TYPES ∨ pkt.type = .Ack ∧ m.state = .SynRcvd := by
    rcases hstate with ⟨-, htype⟩ | ⟨hstate, htype⟩
    · exact .inl (by simp [htype, CONTROL_TYPES])
    · exact .inr ⟨htype, hstate⟩
  have hinitial : ¬ m.responderInitial pkt := by
    rintro ⟨hclosed, -, -⟩
    rw [hclosed] at hstate
    simp at hstate
  rw [hear, if_pos hstream, if_pos hgives, onPacket_eq_dispatch hinitial hid]

/-- **The packet that completes the handshake.** -/
lemma hear_completes (h : m.Completes pkt) (now : ℚ) :
    (m.hear pkt now).1.events = [.Established] ∧ (m.hear pkt now).2.state = .Established ∧
      (m.hear pkt now).2.sessionId = pkt.sessionId ∧ (m.hear pkt now).2.pendingCtrl = none ∧
      (m.hear pkt now).2.lastRecv = some now := by
  rw [hear_of_completes h, h.2.1]
  rcases h.2.2 with ⟨hstate, htype⟩ | ⟨hstate, htype⟩
  · simp [dispatch, hstate, htype, acceptSynAck, clearPending]
  · simp [dispatch, hstate, htype, acceptAck, clearPending]

lemma dispatch_of_not_completes (hstate : m.state ≠ .Established)
    (h : ¬ (m.state = .SynSent ∧ pkt.type = .SynAck ∨ m.state = .SynRcvd ∧ pkt.type = .Ack))
    (now : ℚ) : (m.dispatch pkt now).2.state ≠ .Established ∧
      .Established ∉ (m.dispatch pkt now).1.events := by
  rw [dispatch]
  split
  case h_1 hsent htype => exact absurd (.inl ⟨hsent, htype⟩) h
  case h_2 hrcvd htype => exact absurd (.inr ⟨hrcvd, htype⟩) h
  case h_3 hestablished _ => exact absurd hestablished hstate
  case h_4 hestablished _ => exact absurd hestablished hstate
  case h_5 hwait _ =>
      rw [finWaitFinAck]
      dsimp only
      split_ifs <;> simp [clearPending, hwait]
  case h_6 hwait _ =>
      rw [finWaitFin]
      dsimp only
      split_ifs <;> simp [hwait]
  case h_7 => simp [closeWaitFinAck]
  case h_8 => exact ⟨hstate, by simp⟩

/-- Any other packet of a session that is not established. -/
lemma hear_of_not_completes (hstate : m.state ≠ .Established) (h : ¬ m.Completes pkt) (now : ℚ) :
    (m.hear pkt now).2.state ≠ .Established ∧ .Established ∉ (m.hear pkt now).1.events := by
  rw [hear]
  split_ifs with hstream hgives
  · rw [onPacket]
    split_ifs with hforeign hinitial
    · exact ⟨hstate, by simp⟩
    · simp [acceptSyn, armPending]
    · have hid : pkt.sessionId = m.sessionId := by
        by_contra hne
        exact hforeign ⟨hinitial, hne⟩
      exact dispatch_of_not_completes (m := { m with lastRecv := some now }) hstate
        (fun htypes => h ⟨hstream, hid, htypes⟩) now
  · exact ⟨hstate, by simp⟩
  · refine ⟨?_, by simp⟩
    rw [noteDataActivity]
    split_ifs <;> exact hstate

/-- A packet of an established session. -/
lemma hear_of_established (hstate : m.state = .Established) (pkt : Packet) (now : ℚ) :
    ((m.hear pkt now).2.state = .Established ↔ ¬ Ends m.sessionId pkt) ∧
      .Established ∉ (m.hear pkt now).1.events ∧
      (¬ Ends m.sessionId pkt → (m.hear pkt now).2.sessionId = m.sessionId ∧
        (m.hear pkt now).2.pendingCtrl = m.pendingCtrl ∧
        ((m.hear pkt now).2.lastRecv = m.lastRecv ∨ (m.hear pkt now).2.lastRecv = some now)) := by
  have hinitial : ¬ m.responderInitial pkt := by simp [responderInitial, hstate]
  by_cases hends : Ends m.sessionId pkt
  · obtain ⟨hstream, hid, htype⟩ := hends
    have hfin : m.hear pkt now = { m with lastRecv := some now }.autoClose pkt now := by
      rw [hear, if_pos hstream, if_pos (.inl (by simp [htype, CONTROL_TYPES])),
        onPacket_eq_dispatch hinitial hid, dispatch, htype, hstate]
    rw [hfin]
    simp [autoClose, armPending, Ends, hstream, hid, htype]
  · rw [hear]
    split_ifs with hstream hgives
    · rw [onPacket]
      split_ifs with hforeign
      · simp [hstate, hends]
      · have hid : pkt.sessionId = m.sessionId := by
          by_contra hne
          exact hforeign ⟨hinitial, hne⟩
        have htype : pkt.type ≠ .Fin := fun htype => hends ⟨hstream, hid, htype⟩
        cases htype' : pkt.type <;> simp_all [dispatch, repeatAck]
    · simp [hstate, hends]
    · simp [noteDataActivity, hstate, hends]

/-- What is known of an established session during a cycle. -/
def Live (now : ℚ) (m : SessionStateMachine) : Prop :=
  m.state = .Established → m.pendingCtrl = none ∧ m.lastRecv = some now

lemma Live.hear (h : Live now m) (pkt : Packet) : Live now (m.hear pkt now).2 := by
  intro hstate
  by_cases hestablished : m.state = .Established
  · obtain ⟨hiff, -, hkept⟩ := hear_of_established hestablished pkt now
    obtain ⟨hpending, hrecv⟩ := h hestablished
    obtain ⟨-, hpending', hrecv'⟩ := hkept (hiff.mp hstate)
    refine ⟨hpending'.trans hpending, ?_⟩
    rcases hrecv' with hsame | hnow
    · exact hsame.trans hrecv
    · exact hnow
  · by_cases hcompletes : m.Completes pkt
    · exact (hear_completes hcompletes now).2.2.2
    · exact absurd hstate (hear_of_not_completes hestablished hcompletes now).1

lemma config_hear (m : SessionStateMachine) (pkt : Packet) (now : ℚ) :
    (m.hear pkt now).2.config = m.config := by
  rw [hear]
  split_ifs
  · exact (m.apply_frame (.packet pkt now)).1
  · rfl
  · exact (m.apply_frame (.noteDataActivity now)).1

/-- What the packets of a cycle keep. -/
lemma run_hearing : ∀ {pkts : List (Packet × ℚ)} {m : SessionStateMachine} {now : ℚ},
    (∀ p ∈ pkts, p.2 = now) → Live now m →
    Live now (Mealy.run hearing m pkts).2 ∧ (Mealy.run hearing m pkts).2.config = m.config
  | [], _, _, _, h => ⟨h, rfl⟩
  | (pkt, t) :: pkts, m, now, htimes, h => by
      obtain ⟨rfl, htimes'⟩ := List.forall_mem_cons.mp htimes
      obtain ⟨hlive, hconfig⟩ := run_hearing htimes' (h.hear pkt)
      exact ⟨hlive, hconfig.trans (config_hear m pkt _)⟩

/-- **The packets surface the establishment exactly if they complete a handshake.** -/
theorem established_mem_iff : ∀ {pkts : List (Packet × ℚ)} {m : SessionStateMachine},
    .Established ∈ (Mealy.run hearing m pkts).1.flatten ↔ m.Reaches pkts
  | [], _ => by simp [Reaches]
  | (pkt, t) :: pkts, m => by
      rw [Mealy.run_cons, List.flatten_cons, List.mem_append, established_mem_iff, Reaches]
      refine or_congr ?_ Iff.rfl
      by_cases hcompletes : m.Completes pkt
      · refine iff_of_true ?_ hcompletes
        show _ ∈ (m.hear pkt t).1.events
        rw [(hear_completes hcompletes t).1]
        exact List.mem_singleton_self _
      · refine iff_of_false ?_ hcompletes
        by_cases hstate : m.state = .Established
        · exact (hear_of_established hstate pkt t).2.1
        · exact (hear_of_not_completes hstate hcompletes t).2

/-- **They leave it established exactly if a FIN follows neither the handshake they complete nor, if
it was established before, in the cycle.** -/
theorem state_run_iff : ∀ {pkts : List (Packet × ℚ)} {m : SessionStateMachine},
    (Mealy.run hearing m pkts).2.state = .Established ↔
      (m.state = .Established ∧ ∀ p ∈ pkts, ¬ Ends m.sessionId p.1) ∨ m.Lasts pkts
  | [], m => by simp [Lasts]
  | (pkt, t) :: pkts, m => by
      rw [Mealy.run_cons]
      refine (state_run_iff (m := (m.hear pkt t).2)).trans ?_
      rw [Lasts, List.forall_mem_cons, ← or_assoc]
      refine or_congr ?_ Iff.rfl
      by_cases hstate : m.state = .Established
      · obtain ⟨hiff, -, hkept⟩ := hear_of_established hstate pkt t
        have hnot : ¬ m.Completes pkt := by simp [Completes, hstate]
        rw [hiff]
        constructor
        · rintro ⟨hends, hrest⟩
          rw [(hkept hends).1] at hrest
          exact .inl ⟨hstate, hends, hrest⟩
        · rintro (⟨-, hends, hrest⟩ | ⟨hcompletes, -⟩)
          · exact ⟨hends, by rwa [(hkept hends).1]⟩
          · exact absurd hcompletes hnot
      · by_cases hcompletes : m.Completes pkt
        · obtain ⟨-, hestablished, hid, -, -⟩ := hear_completes hcompletes t
          simp [hestablished, hid, hstate, hcompletes]
        · simp [(hear_of_not_completes hstate hcompletes t).1, hstate, hcompletes]

/-! ### The tick -/

lemma onTick_not_established (m : SessionStateMachine) (now : ℚ) :
    .Established ∉ (m.onTick now).1.events ∧
      ((m.onTick now).2.state = .Established → m.state = .Established) := by
  simp only [onTick, idleOut, giveUp, retransmit, heartbeat]
  rcases m.pendingCtrl with _ | pkt <;> dsimp only <;> split_ifs <;> simp

/-- The session stays established at the end of the cycle. -/
lemma onTick_established (hlive : Live now m) (hidle : 0 < m.idleTimeout)
    (hstate : m.state = .Established) : (m.onTick now).2.state = .Established := by
  obtain ⟨hpending, hrecv⟩ := hlive hstate
  have hnot : ¬ (m.state ≠ .Closed ∧ m.idleExpired now) := by
    simp [idleExpired, hrecv, hidle]
  rw [onTick, if_neg hnot, hpending, heartbeat]
  dsimp only
  split_ifs <;> exact hstate

end SessionStateMachine

open SessionStateMachine (Live run_hearing established_mem_iff state_run_iff onTick_not_established
  onTick_established)

/-- **A cycle of a session that is not established**: it surfaces the establishment exactly if its
packets reach it, and leaves the session established exactly if that lasts. -/
theorem Session.pump_established {arrived : List Bytes}
    (h : Session.pump zlib none (arrived.map fun frame => (frame, now)) now now s = .ok events s')
    (hstate : s.machine.state ≠ .Established) (hidle : 0 < s.machine.idleTimeout) :
    let pkts := parsed zlib (arrived.map fun frame => (frame, now))
    (.Established ∈ events ↔ s.machine.Reaches pkts) ∧
      (s'.machine.state = .Established ↔ s.machine.Lasts pkts) ∧
      s'.machine.config = s.machine.config := by
  intro pkts
  obtain ⟨hevents, hmachine⟩ := Session.pump_hear h
  have htimes : ∀ p ∈ pkts, p.2 = now := by
    intro p hp
    obtain ⟨f, hf, hsome⟩ := List.mem_filterMap.mp hp
    obtain ⟨frame, -, rfl⟩ := List.mem_map.mp hf
    obtain ⟨pkt, -, rfl⟩ := Option.map_eq_some_iff.mp hsome
    rfl
  obtain ⟨hlive, hconfig⟩ := run_hearing htimes fun h => absurd h hstate
  obtain ⟨hnot, hback⟩ := onTick_not_established (Mealy.run hearing s.machine pkts).2 now
  have hlasts : (Mealy.run hearing s.machine pkts).2.state = .Established ↔ s.machine.Lasts pkts := by
    rw [state_run_iff]
    exact or_iff_right fun h => hstate h.1
  refine ⟨?_, ?_, ?_⟩
  · rw [hevents, List.mem_append, or_iff_left hnot]
    exact established_mem_iff
  · rw [hmachine, ← hlasts]
    refine ⟨hback, onTick_established hlive ?_⟩
    rwa [show (Mealy.run hearing s.machine pkts).2.idleTimeout = s.machine.idleTimeout from
      congrArg SessionStateMachine.Config.idleTimeout hconfig]
  · rw [hmachine]
    exact (((Mealy.run hearing s.machine pkts).2.apply_frame (.tick now)).1).trans hconfig

end PhotonTCP
