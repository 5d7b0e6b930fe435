import PhotonTCP.Foundation.Raising
import PhotonTCP.Packet.WireFormat
import PhotonTCP.Session.Session

/-!
# What a session does when everything fits

As long as the packets to transmit fit the header, the session's operations do to the two engines
what the engines do by themselves, and append the packets to what was transmitted.

* `packed` — a packet on the wire.
* `emit_ok`, `emitMux_ok` — output.
* `routePacket_machine`, `routePacket_ignored`, `routePacket_stream` — the three ways of a packet.
* **`drain_rule`** — the rule for the loop over the frames; `pump_ok` — for the whole cycle.

This is the case in which nothing raises.  The equations here run an operation to its end, so
whoever knows that all packets fit can forget about exceptions, about packing and about the order of
writes, and reason with the two engines alone.  For the rest there is the module on calls.
-/

namespace PhotonTCP

open Raising

variable (zlib : Bytes → ℕ)

/-- A packet on the wire. -/
def packed (p : Packet) : Bytes := (p.pack zlib).getD []

variable {zlib} {pkts : List Packet} {pkt : Packet} {s s' : Session} {now now' : ℚ}

lemma pack_eq_packed (h : pkt.FitsHeader) : pkt.pack zlib = some (packed zlib pkt) := by
  obtain ⟨raw, hraw⟩ := (exists_pack_iff zlib).mpr h
  rw [packed, hraw, Option.getD_some]

lemma unpack_packed (h : pkt.FitsHeader) : Packet.unpack zlib (packed zlib pkt) = .ok pkt :=
  unpack_of_pack zlib (pack_eq_packed h)

namespace Session

/-! ## Output

Packing cannot fail for packets that fit, and the channel takes every frame.
-/

/-- The session after it has transmitted packets. -/
def transmits (zlib : Bytes → ℕ) (s : Session) (pkts : List Packet) : Session :=
  { s with transmitted := s.transmitted ++ pkts.map (packed zlib) }

@[simp] lemma machine_transmits : (s.transmits zlib pkts).machine = s.machine := rfl
@[simp] lemma mux_transmits : (s.transmits zlib pkts).mux = s.mux := rfl
@[simp] lemma recvBuffers_transmits : (s.transmits zlib pkts).recvBuffers = s.recvBuffers := rfl
@[simp] lemma transmitted_transmits :
    (s.transmits zlib pkts).transmitted = s.transmitted ++ pkts.map (packed zlib) := rfl

/-- Packets that fit are transmitted. -/
theorem transmit_ok : ∀ {pkts : List Packet} {s : Session}, (∀ p ∈ pkts, p.FitsHeader) →
    transmit zlib pkts s = .ok () (s.transmits zlib pkts) := by
  intro pkts
  induction pkts with
  | nil =>
      intro s _
      simp [transmits, transmit, pure, EStateM.pure]
  | cons p pkts ih =>
      intro s h
      obtain ⟨hp, hpkts⟩ := List.forall_mem_cons.mp h
      rw [transmit, pack_eq_packed hp]
      refine (bind_ok rfl).trans ((ih hpkts).trans ?_)
      simp [transmits]

lemma emit_ok {out : Output} (h : ∀ p ∈ out.packets, p.FitsHeader) :
    emit zlib out s = .ok out.events (s.transmits zlib out.packets) := by
  rw [emit]
  exact bind_ok (transmit_ok h)

lemma emitMux_ok {out : MuxOutput} (h : ∀ p ∈ out.packets, p.FitsHeader) :
    emitMux zlib out s = .ok ()
      { s.transmits zlib out.packets with recvBuffers := extend s.recvBuffers out.delivered } := by
  rw [emitMux]
  exact bind_ok (transmit_ok h)

/-! ## The application's operations

The session id is handed on before the multiplexer works.
-/

/-- The machine works and transmits. -/
lemma onMachine_emit {f : SessionStateMachine → Output × SessionStateMachine}
    (h : ∀ p ∈ (f s.machine).1.packets, p.FitsHeader) :
    (onMachine f >>= emit zlib) s = .ok (f s.machine).1.events
      ({ s with machine := (f s.machine).2 }.transmits zlib (f s.machine).1.packets) :=
  (bind_ok rfl).trans (emit_ok h)

/-- The multiplexer works. -/
lemma onMux_ok {α : Type} {f : StreamMux → Except ValueError α × StreamMux} {a : α}
    (hf : (f s.mux).1 = .ok a) : onMux f s = .ok a { s with mux := (f s.mux).2 } := by
  rw [onMux]
  refine (bind_ok (show _ = EStateM.Result.ok (Except.ok a) { s with mux := (f s.mux).2 } from ?_)).trans
    rfl
  show EStateM.Result.ok (f s.mux).1 { s with mux := (f s.mux).2 } = _
  rw [hf]

/-- The multiplexer raises. -/
lemma onMux_error {α : Type} {f : StreamMux → Except ValueError α × StreamMux} {text : ValueError}
    (hf : (f s.mux).1 = .error text) :
    onMux f s = .error (.ValueError text) { s with mux := (f s.mux).2 } := by
  rw [onMux]
  refine (bind_ok (show _ = EStateM.Result.ok (Except.error text) { s with mux := (f s.mux).2 }
    from ?_)).trans rfl
  show EStateM.Result.ok (f s.mux).1 { s with mux := (f s.mux).2 } = _
  rw [hf]

/-- The multiplexer works and transmits. -/
lemma onMux_emit {f : StreamMux → Except ValueError MuxOutput × StreamMux} {out : MuxOutput}
    {mux : StreamMux} (hf : f s.mux = (.ok out, mux)) (h : ∀ p ∈ out.packets, p.FitsHeader) :
    (onMux f >>= emitMux zlib) s = .ok ()
      { { s with mux }.transmits zlib out.packets with
        recvBuffers := extend s.recvBuffers out.delivered } := by
  have hmux : onMux f s = .ok out { s with mux } := by
    rw [onMux_ok (by rw [hf]), hf]
  exact (bind_ok hmux).trans (emitMux_ok h)

lemma sendOn_ok {streamId : ℤ} {data : Bytes} {out : MuxOutput} {mux : StreamMux}
    (hstate : s.machine.state = .Established)
    (hsend : (s.mux.setSessionId s.machine.sessionId).send streamId data now = (.ok out, mux))
    (h : ∀ p ∈ out.packets, p.FitsHeader) :
    sendOn zlib streamId data now s = .ok ()
      { { s with mux }.transmits zlib out.packets with
        recvBuffers := extend s.recvBuffers out.delivered } := by
  have hestablished : s.machine.isEstablished = true := decide_eq_true hstate
  rw [sendOn, get_bind, if_pos hestablished]
  exact (bind_ok rfl).trans (onMux_emit (s := { s with mux := _ }) hsend h)

lemma sendOn_error {streamId : ℤ} {data : Bytes} (hstate : s.machine.state ≠ .Established) :
    sendOn zlib streamId data now s = .error (.notEstablished s.machine.state) s := by
  have hnot : ¬ s.machine.isEstablished = true := by simpa [SessionStateMachine.isEstablished]
  rw [sendOn, get_bind, if_neg hnot]
  rfl

/-- A packet that does not fit the header makes the transmission raise. -/
lemma transmit_error : ∀ {pkts : List Packet} {s : Session}, (¬ ∀ p ∈ pkts, p.FitsHeader) →
    ∃ e s', transmit zlib pkts s = .error e s' := by
  intro pkts
  induction pkts with
  | nil => simp
  | cons p pkts ih =>
      intro s h
      rw [transmit]
      by_cases hp : p.FitsHeader
      · rw [pack_eq_packed hp]
        exact ih fun hpkts => h (List.forall_mem_cons.mpr ⟨hp, hpkts⟩)
      · have hnone : p.pack zlib = none := by
          rw [Option.eq_none_iff_forall_ne_some]
          exact fun raw hraw => hp ((exists_pack_iff zlib).mp ⟨raw, hraw⟩)
        rw [hnone]
        exact ⟨_, _, rfl⟩

/-! ## Routing a packet

Whether the machine is given a packet depends on the type, and for an ACK on the state.
-/

/-- The session gives a packet of the control stream to its machine. -/
def GivesMachine (s : Session) (pkt : Packet) : Prop :=
  pkt.type ∈ CONTROL_TYPES ∨ pkt.type = .Ack ∧ s.machine.state = .SynRcvd

lemma routePacket_machine (hstream : pkt.streamId = CONTROL_STREAM_ID) (hgives : s.GivesMachine pkt)
    (h : ∀ p ∈ (s.machine.onPacket pkt now).1.packets, p.FitsHeader) :
    routePacket zlib pkt now s = .ok (s.machine.onPacket pkt now).1.events
      ({ s with machine := (s.machine.onPacket pkt now).2 }.transmits zlib
        (s.machine.onPacket pkt now).1.packets) := by
  rw [routePacket, get_bind, if_pos hstream]
  by_cases hcontrol : pkt.type ∈ CONTROL_TYPES
  · rw [if_pos hcontrol]
    exact onMachine_emit h
  · obtain ⟨hack, hstate⟩ := hgives.resolve_left hcontrol
    rw [if_neg hcontrol, if_pos hack, if_pos hstate]
    exact onMachine_emit h

lemma routePacket_ignored (hstream : pkt.streamId = CONTROL_STREAM_ID)
    (hgives : ¬ s.GivesMachine pkt) : routePacket zlib pkt now s = .ok [] s := by
  obtain ⟨hcontrol, hack⟩ := not_or.mp hgives
  rw [routePacket, get_bind, if_pos hstream, if_neg hcontrol]
  split_ifs with htype hstate
  · exact absurd ⟨htype, hstate⟩ hack
  · rfl
  · rfl

lemma routePacket_stream (hstream : pkt.streamId ≠ CONTROL_STREAM_ID) {out : MuxOutput}
    {mux : StreamMux} (hmux : s.mux.onPacket pkt now = (.ok out, mux))
    (h : ∀ p ∈ out.packets, p.FitsHeader) :
    routePacket zlib pkt now s = .ok []
      { { s with machine := s.machine.noteDataActivity now, mux }.transmits zlib out.packets with
        recvBuffers := extend s.recvBuffers out.delivered } := by
  rw [routePacket, get_bind, if_neg hstream]
  refine (bind_ok rfl).trans ?_
  rw [← bind_assoc]
  exact bind_ok (onMux_emit (s := { s with machine := _ }) hmux h)

/-! ## The loop and the cycle

The loop is over frames of which some may not parse; an invariant of the loop has to survive those
as well.
-/

/-- What the loop has to keep: `I s frames` holds with the frames that are still to come. -/
def Routes (zlib : Bytes → ℕ) (I : Session → List (Bytes × ℚ) → Prop) : Prop :=
  ∀ s frame now frames, I s ((frame, now) :: frames) →
    (∃ pkt events s', Packet.unpack zlib frame = .ok pkt ∧
        routePacket zlib pkt now s = .ok events s' ∧ I s' frames) ∨
      (∃ e, Packet.unpack zlib frame = .error (.PacketError e)) ∧ I s frames

/-- **The rule for the loop.** -/
theorem drain_rule {I : Session → List (Bytes × ℚ) → Prop} (hI : Routes zlib I) :
    ∀ {frames : List (Bytes × ℚ)} {processed : ℤ} {s : Session}, I s frames →
      ∃ events s', drain zlib none processed frames s = .ok events s' ∧ I s' [] := by
  intro frames
  induction frames with
  | nil => exact fun h => ⟨[], _, rfl, h⟩
  | cons f frames ih =>
      obtain ⟨frame, now⟩ := f
      intro processed s h
      rw [drain, Option.all_none, if_pos rfl]
      rcases hI s frame now frames h with ⟨pkt, events, s', hunpack, hroute, hI'⟩ |
        ⟨⟨e, hunpack⟩, hI'⟩
      · obtain ⟨more, last, hdrain, hlast⟩ := ih hI'
        refine ⟨events ++ more, last, ?_, hlast⟩
        rw [hunpack]
        exact (bind_ok hroute).trans ((bind_ok hdrain).trans rfl)
      · rw [hunpack]
        exact ih hI'

/-- **The whole cycle**, from what the loop leaves. -/
theorem pump_ok {frames : List (Bytes × ℚ)} {events : List SessionEvent}
    (hdrain : drain zlib none 0 frames { s with mux := s.mux.setSessionId s.machine.sessionId }
      = .ok events s')
    (hmachine : ∀ p ∈ (s'.machine.onTick now).1.packets, p.FitsHeader)
    (hmux : ∀ p ∈ (s'.mux.onTick now').1.packets, p.FitsHeader) :
    pump zlib none frames now now' s = .ok (events ++ (s'.machine.onTick now).1.events)
      ({ s' with machine := (s'.machine.onTick now).2
                 mux := (s'.mux.onTick now').2 }.transmits zlib
        ((s'.machine.onTick now).1.packets ++ (s'.mux.onTick now').1.packets)) := by
  rw [pump]
  refine (bind_ok rfl).trans ((bind_ok hdrain).trans ((bind_ok rfl).trans
    ((bind_ok (emit_ok hmachine)).trans ((bind_ok rfl).trans ((bind_ok (emitMux_ok hmux)).trans ?_)))))
  simp [transmits, extend, StreamMux.onTick, pure, EStateM.pure]

end Session

end PhotonTCP
