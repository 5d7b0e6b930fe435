import Mathlib.Data.List.TakeWhile
import PhotonTCP.Session.Routing
import PhotonTCP.Stream.Isolation

/-!
# What a session's operations leave behind

An operation of a session makes its engines work, once or many times, and what they have made is
transmitted each time.  If a packet does not fit the header the operation raises there, and the
engine has worked all the same.

* `fitting` — the packets that are transmitted; `after_transmit`.
* `reacts`, `works` — the session after its machine, or its multiplexer, has worked.
* `SessionCall`, `called` — the operations as data.
* `Steady` — an invariant of the engines' work; **`Steady.pump`** and its like — whatever is called,
  such an invariant is left behind.

Invariants of sessions have to hold when operations raise as well, because the session lives on.  A
packet that does not fit the header ends an operation halfway: the engine is in its new state, the
packets before the offending one are on the channel, and what was delivered in the same step is not
buffered.  So the unit of reasoning is one piece of work of one engine with what came of it, and a
call is some of these in a row, however many there were before it raised or returned.

An invariant in this sense is checked against two kinds of work, of the machine and of the
multiplexer, and that every call preserves it follows.
-/

namespace PhotonTCP

open Raising

/-- What an application can call.  The frames of a cycle are those that `recv_frame` returns. -/
inductive SessionCall where
  | connect (now : ℚ)
  | close (now : ℚ)
  | openStream
  | sendOn (streamId : ℤ) (data : Bytes) (now : ℚ)
  | recvOn (streamId : ℤ)
  | recvAll
  | pump (maxFrames : Option ℤ) (frames : List (Bytes × ℚ)) (now now' : ℚ)

namespace Session

variable (zlib : Bytes → ℕ)

/-! ## The engines

Work, and the transmission of what came out, up to the first packet that does not fit.
-/

/-- The packets that are transmitted: those before the first that does not fit the header. -/
def fitting (pkts : List Packet) : List Packet := pkts.takeWhile fun p => p.FitsHeader

/-- The machine has worked. -/
def reacts (s : Session) (i : MachineInput) : Session :=
  { s with machine := (s.machine.apply i).2 }.transmits zlib (fitting (s.machine.apply i).1.packets)

/-- The multiplexer has worked.  What it delivers is buffered once its packets are transmitted. -/
def works (s : Session) (op : MuxOp) : Session :=
  { { s with mux := (s.mux.apply op).2 }.transmits zlib (fitting (s.mux.apply op).1.packets) with
    recvBuffers :=
      if ∀ p ∈ (s.mux.apply op).1.packets, p.FitsHeader then
        extend s.recvBuffers (s.mux.apply op).1.delivered
      else s.recvBuffers }

/-- The session after a call, also if it has raised. -/
def called (s : Session) : SessionCall → Session
  | .connect now => after (connect zlib now) s
  | .close now => after (close zlib now) s
  | .openStream => after openStream s
  | .sendOn streamId data now => after (sendOn zlib streamId data now) s
  | .recvOn streamId => after (recvOn streamId) s
  | .recvAll => after recvAll s
  | .pump maxFrames frames now now' => after (pump zlib maxFrames frames now now') s

variable {zlib} {s : Session} {now : ℚ} {pkt : Packet} {pkts : List Packet}

@[simp] lemma fitting_nil : fitting [] = [] := rfl

lemma fitting_cons (p : Packet) (pkts : List Packet) :
    fitting (p :: pkts) = if p.FitsHeader then p :: fitting pkts else [] := by
  simp [fitting, List.takeWhile_cons]

lemma mem_fitting (h : pkt ∈ fitting pkts) : pkt ∈ pkts ∧ pkt.FitsHeader :=
  ⟨(List.takeWhile_prefix _).subset h, by simpa using List.mem_takeWhile_imp h⟩

lemma fitting_eq_self (h : ∀ p ∈ pkts, p.FitsHeader) : fitting pkts = pkts :=
  List.takeWhile_eq_self_iff.mpr fun p hp => decide_eq_true (h p hp)

/-- **What a transmission leaves behind.** -/
theorem after_transmit : ∀ {pkts : List Packet} {s : Session},
    after (transmit zlib pkts) s = s.transmits zlib (fitting pkts) := by
  intro pkts
  induction pkts with
  | nil => simp [transmits, transmit, after, pure, EStateM.pure]
  | cons p pkts ih =>
      intro s
      rw [transmit, fitting_cons]
      split_ifs with hp
      · rw [pack_eq_packed hp]
        refine (after_bind_ok rfl).trans (ih.trans ?_)
        simp [transmits]
      · have hnone : p.pack zlib = none := by
          rw [Option.eq_none_iff_forall_ne_some]
          exact fun raw hraw => hp ((exists_pack_iff zlib).mp ⟨raw, hraw⟩)
        rw [hnone]
        refine (after_bind_error rfl).trans ?_
        simp [transmits]

lemma after_onMachine_emit {f : SessionStateMachine → Output × SessionStateMachine} :
    after (onMachine f >>= emit zlib) s =
      { s with machine := (f s.machine).2 }.transmits zlib (fitting (f s.machine).1.packets) := by
  refine (after_bind_ok rfl).trans ?_
  rw [emit, after_bind fun _ _ => rfl, after_transmit]

lemma after_emitMux {out : MuxOutput} : after (emitMux zlib out) s =
    { s.transmits zlib (fitting out.packets) with
      recvBuffers := if ∀ p ∈ out.packets, p.FitsHeader then extend s.recvBuffers out.delivered
        else s.recvBuffers } := by
  split_ifs with hfits
  · rw [after_ok (emitMux_ok hfits), fitting_eq_self hfits]
  · obtain ⟨e, s', herror⟩ : ∃ e s', transmit zlib out.packets s = .error e s' :=
      transmit_error hfits
    have hleft : after (transmit zlib out.packets) s = _ := after_transmit
    rw [after_error herror] at hleft
    rw [emitMux, after_bind_error herror, hleft]
    rfl

lemma after_onMux_emitMux {f : StreamMux → Except ValueError MuxOutput × StreamMux} :
    after (onMux f >>= emitMux zlib) s =
      { { s with mux := (f s.mux).2 }.transmits zlib
          (fitting (StreamMux.observed (f s.mux).1).packets) with
        recvBuffers :=
          if ∀ p ∈ (StreamMux.observed (f s.mux).1).packets, p.FitsHeader then
            extend s.recvBuffers (StreamMux.observed (f s.mux).1).delivered
          else s.recvBuffers } := by
  cases hf : (f s.mux).1 with
  | ok out =>
      rw [after_bind_ok (onMux_ok hf), after_emitMux]
      rfl
  | error text =>
      rw [after_bind_error (onMux_error hf)]
      simp [StreamMux.observed, transmits, extend]

/-- A machine that has nothing to transmit. -/
lemma reacts_of_silent {i : MachineInput} (h : (s.machine.apply i).1.packets = []) :
    s.reacts zlib i = { s with machine := (s.machine.apply i).2 } := by
  simp [reacts, h, transmits]

/-- A multiplexer that has nothing to transmit and nothing to deliver. -/
lemma works_of_silent (op : MuxOp) (h : (s.mux.apply op).1 = {}) :
    s.works zlib op = { s with mux := (s.mux.apply op).2 } := by
  simp [works, h, transmits, extend]

/-! ## Invariants of the engines' work

The two hypotheses say which packets are heard and exclude sends.  Sending is left to the results
that use this, because what they say about sent data changes with it.
-/

/-- The engines' work preserves the invariant, as long as only these packets are heard and nothing
is sent. -/
structure Steady (zlib : Bytes → ℕ) (heard : Packet → Prop) (I : Session → Prop) : Prop where
  reacts : ∀ s i, I s → (∀ pkt now, i = .packet pkt now → heard pkt) → I (s.reacts zlib i)
  works : ∀ s op, I s → (∀ pkt now, op = .onPacket pkt now → heard pkt) →
    (∀ streamId data now, op ≠ .send streamId data now) → I (s.works zlib op)

namespace Steady

variable {heard : Packet → Prop} {I : Session → Prop}

lemma onMachine_emit (h : Steady zlib heard I)
    {f : SessionStateMachine → Output × SessionStateMachine} (i : MachineInput)
    (hf : ∀ m, f m = m.apply i) (hi : ∀ pkt now, i = .packet pkt now → heard pkt) :
    Preserves I (onMachine f >>= emit zlib) := by
  intro s hs
  rw [after_onMachine_emit, hf]
  exact h.reacts s i hs hi

lemma onMux_emitMux (h : Steady zlib heard I)
    {f : StreamMux → Except ValueError MuxOutput × StreamMux} (op : MuxOp)
    (hf : ∀ mux : StreamMux, (StreamMux.observed (f mux).1, (f mux).2) = mux.apply op)
    (hop : ∀ pkt now, op = .onPacket pkt now → heard pkt)
    (hsend : ∀ streamId data now, op ≠ .send streamId data now) :
    Preserves I (onMux f >>= emitMux zlib) := by
  intro s hs
  have hwork := h.works s op hs hop hsend
  rw [Session.works, ← hf] at hwork
  rwa [after_onMux_emitMux]

lemma syncSessionId (h : Steady zlib heard I) : Preserves I syncSessionId := by
  intro s hs
  have hwork := h.works s (.setSessionId s.machine.sessionId) hs (by simp) (by simp)
  rwa [works_of_silent _ rfl] at hwork

lemma noteDataActivity (h : Steady zlib heard I) (now : ℚ) :
    Preserves I (modify fun s => { s with machine := s.machine.noteDataActivity now } : SessionM Unit) := by
  refine preserves_modify fun s hs => ?_
  have hwork := h.reacts s (.noteDataActivity now) hs (by simp)
  rwa [reacts_of_silent rfl] at hwork

/-! ## The calls

Each call is taken apart with the rules for computations that can raise.
-/

/-- **Beginning the handshake.** -/
theorem connect (h : Steady zlib heard I) (now : ℚ) : Preserves I (connect zlib now) :=
  h.onMachine_emit (.connect now) (fun _ => rfl) (by simp)

/-- **Beginning to close.** -/
theorem close (h : Steady zlib heard I) (now : ℚ) : Preserves I (close zlib now) :=
  h.onMachine_emit (.close now) (fun _ => rfl) (by simp)

/-- **Opening a stream.** -/
theorem openStream (h : Steady zlib heard I) : Preserves I openStream := by
  intro s hs
  have hwork := h.works s .openStream hs (by simp) (by simp)
  rw [works_of_silent _ rfl] at hwork
  cases hopen : s.mux.openStream.1 with
  | ok sid =>
      rw [Session.openStream, after_ok (onMux_ok hopen)]
      exact hwork
  | error text =>
      rw [Session.openStream, after_error (onMux_error hopen)]
      exact hwork

/-- **A packet that is routed.** -/
theorem routePacket (h : Steady zlib heard I) (hpkt : heard pkt) (now : ℚ) :
    Preserves I (routePacket zlib pkt now) := by
  have hmachine : Preserves I (onMachine (fun m => m.onPacket pkt now) >>= emit zlib) :=
    h.onMachine_emit (.packet pkt now) (fun _ => rfl) (by rintro _ _ ⟨⟩; exact hpkt)
  have hmux : Preserves I (onMux (fun mux => mux.onPacket pkt now) >>= emitMux zlib) :=
    h.onMux_emitMux (.onPacket pkt now) (fun _ => rfl) (by rintro _ _ ⟨⟩; exact hpkt) (by simp)
  rw [Session.routePacket]
  refine preserves_get_bind fun t => ?_
  split_ifs
  · exact hmachine
  · exact hmachine
  · exact preserves_pure _
  · exact preserves_pure _
  · exact (h.noteDataActivity now).bind fun _ => hmux.bind_bind fun _ => preserves_pure _

/-- **The frames of a cycle.** -/
theorem drain (h : Steady zlib heard I) (maxFrames : Option ℤ) : ∀ {frames : List (Bytes × ℚ)}
    {processed : ℤ}, (∀ f ∈ frames, ∀ pkt, Packet.unpack zlib f.1 = .ok pkt → heard pkt) →
      Preserves I (drain zlib maxFrames processed frames) := by
  intro frames
  induction frames with
  | nil => exact fun _ => preserves_pure _
  | cons f frames ih =>
      obtain ⟨frame, now⟩ := f
      intro processed hframes
      obtain ⟨hframe, hrest⟩ := List.forall_mem_cons.mp hframes
      rw [Session.drain]
      split_ifs
      · cases hunpack : Packet.unpack zlib frame with
        | error e =>
            cases e with
            | PacketError e => exact ih hrest
            | ValueError text => exact preserves_throw _
            | StructError => exact preserves_throw _
        | ok pkt =>
            exact (h.routePacket (hframe pkt hunpack) now).bind fun _ =>
              (ih hrest).bind fun _ => preserves_pure _
      · exact preserves_pure _

/-- **A whole cycle.** -/
theorem pump (h : Steady zlib heard I) (maxFrames : Option ℤ) {frames : List (Bytes × ℚ)}
    (hframes : ∀ f ∈ frames, ∀ pkt, Packet.unpack zlib f.1 = .ok pkt → heard pkt) (now now' : ℚ) :
    Preserves I (pump zlib maxFrames frames now now') := by
  have hmachine : Preserves I (onMachine (fun m => m.onTick now) >>= emit zlib) :=
    h.onMachine_emit (.tick now) (fun _ => rfl) (by simp)
  have hmux : Preserves I (onMux (fun mux => ((.ok (mux.onTick now').1 : Except ValueError MuxOutput),
      (mux.onTick now').2)) >>= emitMux zlib) :=
    h.onMux_emitMux (.onTick now') (fun _ => rfl) (by simp) (by simp)
  rw [Session.pump]
  exact h.syncSessionId.bind fun _ => (h.drain maxFrames hframes).bind fun _ =>
    hmachine.bind_bind fun _ => hmux.bind_bind fun _ => preserves_pure _

end Steady

/-- **What a send leaves behind.** -/
theorem after_sendOn (s : Session) (streamId : ℤ) (data : Bytes) (now : ℚ) :
    after (sendOn zlib streamId data now) s =
      if s.machine.state = .Established then
        (s.works zlib (.setSessionId s.machine.sessionId)).works zlib (.send streamId data now)
      else s := by
  have hiff : s.machine.isEstablished = true ↔ s.machine.state = .Established := decide_eq_true_iff
  rw [sendOn, after_get_bind]
  split_ifs with hestablished hstate hstate
  · rw [works_of_silent (.setSessionId s.machine.sessionId) rfl]
    refine (after_bind_ok rfl).trans ?_
    rw [after_onMux_emitMux]
    rfl
  · exact absurd (hiff.mp hestablished) hstate
  · exact absurd (hiff.mpr hstate) hestablished
  · rfl

/-- **What the engines' work preserves, every call preserves.** -/
theorem called_invariant {I : Session → Prop} (hreacts : ∀ s i, I s → I (s.reacts zlib i))
    (hworks : ∀ s op, I s → I (s.works zlib op))
    (hrecv : ∀ s recvBuffers, I s → I { s with recvBuffers }) (hs : I s) (call : SessionCall) :
    I (s.called zlib call) := by
  have h : Steady zlib (fun _ => True) I :=
    ⟨fun s i hs _ => hreacts s i hs, fun s op hs _ _ => hworks s op hs⟩
  cases call with
  | connect now => exact h.connect now s hs
  | close now => exact h.close now s hs
  | openStream => exact h.openStream s hs
  | sendOn streamId data now =>
      rw [called, after_sendOn]
      split_ifs
      · exact hworks _ _ (hworks _ _ hs)
      · exact hs
  | recvOn streamId => exact hrecv s _ hs
  | recvAll => exact hrecv s _ hs
  | pump maxFrames frames now now' => exact h.pump maxFrames (by simp) now now' s hs

end Session

end PhotonTCP
