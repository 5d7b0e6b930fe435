import PhotonTCP.Reliability.PayloadLimit
import PhotonTCP.Session.Calls
import PhotonTCP.Session.Reconnection

/-!
# How long a frame is

A control packet carries nothing and a data packet no more than the payload limit, so no frame that
a session transmits is longer than a header with so much behind it.

* `SessionStateMachine.Bare` — the control packet that awaits its reply carries nothing.
* `MuxLimited` — no stream's endpoint has more to send in one packet.
* `Session.Brief`, **`Session.Brief.called`** — so have all frames been, whatever the session is
  called to do and whatever it receives.

A channel with a largest frame does not know of packets, and a session does not know of the
channel's limit.  Between the two stands this bound.  It holds of the frames of a whole run,
whatever is received and whenever operations raise, because the payload of a packet is fixed when
its chunk is cut off, and nothing is appended to it afterwards.
-/

namespace PhotonTCP

/-! ## Control packets

The machine makes all of its packets by one function, and gives none of them a payload.
-/

namespace SessionStateMachine

/-- What awaits a reply carries nothing. -/
def Bare (m : SessionStateMachine) : Prop := ∀ pkt ∈ m.pendingCtrl, pkt.payload = []

/-- What one operation leaves behind and emits. -/
def BareStep (step : Output × SessionStateMachine) : Prop :=
  step.2.Bare ∧ ∀ pkt ∈ step.1.packets, pkt.payload = []

namespace Bare

variable {m : SessionStateMachine}

lemma silent (h : m.Bare) : BareStep ({}, m) := ⟨h, by simp⟩

lemma heartbeat (h : m.Bare) (now : ℚ) : BareStep (m.heartbeat now) := by
  rw [SessionStateMachine.heartbeat]
  split_ifs
  · exact ⟨h, by simp [make]⟩
  · exact h.silent

lemma onTick (h : m.Bare) (now : ℚ) : BareStep (m.onTick now) := by
  rw [SessionStateMachine.onTick]
  by_cases hidle : m.state ≠ .Closed ∧ m.idleExpired now
  · rw [if_pos hidle]
    exact ⟨by simp [Bare, idleOut, clearPending], by simp [idleOut]⟩
  · rw [if_neg hidle]
    cases hpending : m.pendingCtrl with
    | none => exact h.heartbeat now
    | some pkt =>
        dsimp only
        split_ifs
        · exact ⟨by simp [Bare, giveUp, clearPending], by simp [giveUp]⟩
        · -- the packet that is sent again
          exact ⟨h, by simpa [retransmit] using h pkt hpending⟩
        · exact h.heartbeat now

lemma dispatch (h : m.Bare) (pkt : Packet) (now : ℚ) : BareStep (m.dispatch pkt now) := by
  rw [SessionStateMachine.dispatch]
  split
  case h_1 =>
      exact ⟨by simp [Bare, acceptSynAck, clearPending], by simp [acceptSynAck, ackPacket, make]⟩
  case h_2 => exact ⟨by simp [Bare, acceptAck, clearPending], by simp [acceptAck]⟩
  case h_3 => exact ⟨h, by simp [repeatAck, ackPacket, make]⟩
  case h_4 =>
      exact ⟨by simp [Bare, autoClose, armPending, finPacket, make],
        by simp [autoClose, finAckPacket, finPacket, make]⟩
  case h_5 =>
      rw [finWaitFinAck]
      dsimp only
      split_ifs
      · exact ⟨by simp [Bare, clearPending], by simp⟩
      · exact ⟨by simp [Bare, clearPending], by simp⟩
  case h_6 =>
      rw [finWaitFin]
      dsimp only
      split_ifs
      · exact ⟨h, by simp [finAckPacket, make]⟩
      · exact ⟨h, by simp [finAckPacket, make]⟩
  case h_7 => exact ⟨by simp [Bare, closeWaitFinAck, clearPending], by simp [closeWaitFinAck]⟩
  case h_8 => exact h.silent

lemma onPacket (h : m.Bare) (pkt : Packet) (now : ℚ) : BareStep (m.onPacket pkt now) := by
  rw [SessionStateMachine.onPacket]
  split_ifs
  · exact h.silent
  · exact ⟨by simp [Bare, acceptSyn, armPending, synAckPacket, make],
      by simp [acceptSyn, synAckPacket, make]⟩
  · exact dispatch (m := { m with lastRecv := some now }) h pkt now

/-- **No control packet carries anything.** -/
theorem apply (h : m.Bare) (i : MachineInput) : BareStep (m.apply i) := by
  cases i with
  | connect now =>
      rw [SessionStateMachine.apply, SessionStateMachine.connect]
      split_ifs
      · exact h.silent
      · exact ⟨by simp [Bare, armPending, synPacket, make], by simp [synPacket, make]⟩
  | close now =>
      rw [SessionStateMachine.apply, SessionStateMachine.close]
      split_ifs
      · exact h.silent
      · exact ⟨by simp [Bare, armPending, finPacket, make], by simp [finPacket, make]⟩
  | noteDataActivity now =>
      rw [SessionStateMachine.apply, SessionStateMachine.noteDataActivity]
      split_ifs
      · exact ⟨h, by simp⟩
      · exact h.silent
  | packet pkt now => exact h.onPacket pkt now
  | tick now => exact h.onTick now

end Bare

end SessionStateMachine

/-! ## Data packets

The limit of the multiplexer is that of every endpoint it makes.
-/

/-- No endpoint has more to send in one packet. -/
structure MuxLimited (limit : ℕ) (mux : StreamMux) : Prop where
  maxPayload : mux.maxPayload.toNat ≤ limit
  endpoints : ∀ k ep, mux.endpoints.get? k = some ep → Limited limit ep

namespace MuxLimited

variable {limit : ℕ} {mux : StreamMux} {k : ℤ} {ep : ArqEndpoint}

lemma update (h : MuxLimited limit mux) (hep : Limited limit ep) (k : ℤ) :
    MuxLimited limit (mux.update k ep) := by
  refine ⟨h.maxPayload, fun k' ep' hget => ?_⟩
  rw [StreamMux.update, Dict.get?_set] at hget
  split_ifs at hget
  · rwa [← Option.some.inj hget]
  · exact h.endpoints k' ep' hget

lemma mapValues (h : MuxLimited limit mux) {f : ArqEndpoint → ArqEndpoint} (sid : ℤ)
    (hf : ∀ ep, Limited limit ep → Limited limit (f ep)) :
    MuxLimited limit { mux with sessionId := sid, endpoints := mux.endpoints.mapValues f } := by
  refine ⟨h.maxPayload, fun k ep hget => ?_⟩
  rw [Dict.get?_mapValues] at hget
  obtain ⟨ep₀, hget₀, rfl⟩ := Option.map_eq_some_iff.mp hget
  exact hf ep₀ (h.endpoints k ep₀ hget₀)

/-- The endpoint that an operation works on. -/
lemma of_endpoint (h : MuxLimited limit mux) (hget : mux.endpoints.get? k = some ep ∨
    k ∉ mux.endpoints.keys ∧ mux.Usable ∧ mux.newEndpoint k = .ok ep) : Limited limit ep := by
  rcases hget with hget | ⟨-, -, hnew⟩
  · exact h.endpoints k ep hget
  · exact Limited.create hnew h.maxPayload

lemma send (h : MuxLimited limit mux) (k : ℤ) (data : Bytes) (now : ℚ) :
    MuxLimited limit (mux.send k data now).2 ∧
      ∀ p ∈ (StreamMux.observed (mux.send k data now).1).packets, p.payload.length ≤ limit := by
  rw [StreamMux.send]
  rcases mux.endpoint_cases k with ⟨ep, hopen, hget⟩ | ⟨e, hopen, -, -⟩
  · have hep := h.of_endpoint hget
    obtain ⟨hwork, hpackets⟩ := hep.send data now
    rw [hopen]
    exact ⟨(h.update hep k).update hwork k, hpackets⟩
  · rw [hopen]
    exact ⟨h, by simp [StreamMux.observed]⟩

lemma onPacket (h : MuxLimited limit mux) (pkt : Packet) (now : ℚ) :
    MuxLimited limit (mux.onPacket pkt now).2 ∧
      ∀ p ∈ (StreamMux.observed (mux.onPacket pkt now).1).packets, p.payload.length ≤ limit := by
  rw [StreamMux.onPacket]
  split_ifs
  · exact ⟨h, by simp [StreamMux.observed]⟩
  · rcases mux.endpoint_cases pkt.streamId with ⟨ep, hopen, hget⟩ | ⟨e, hopen, -, -⟩
    · have hep := h.of_endpoint hget
      obtain ⟨hwork, hpackets⟩ := hep.onPacket pkt now
      have hmux := (h.update hep pkt.streamId).update hwork pkt.streamId
      rw [hopen]
      dsimp only
      rcases hres : ep.onPacket pkt now with ⟨result, ep'⟩
      rw [hres] at hpackets hmux
      cases result with
      | ok out => exact ⟨hmux, hpackets⟩
      | error text => exact ⟨hmux, by simp [StreamMux.observed]⟩
    · rw [hopen]
      exact ⟨h, by simp [StreamMux.observed]⟩

/-- **No data packet carries more than the limit.** -/
theorem apply (h : MuxLimited limit mux) (op : MuxOp) : MuxLimited limit (mux.apply op).2 ∧
    ∀ p ∈ (mux.apply op).1.packets, p.payload.length ≤ limit := by
  cases op with
  | send k data now => exact h.send k data now
  | onPacket pkt now => exact h.onPacket pkt now
  | onTick now =>
      refine ⟨h.mapValues mux.sessionId fun ep hep => (hep.onTick now).1, fun p hp => ?_⟩
      obtain ⟨e, he, hpkt⟩ := List.mem_flatMap.mp hp
      exact ((h.endpoints e.1 e.2 (Dict.mem_entries_iff.mp he)).onTick now).2 p hpkt
  | setSessionId sid =>
      exact ⟨h.mapValues sid fun ep hep => { hep with }, by simp [StreamMux.apply]⟩
  | openStream =>
      refine ⟨?_, by simp [StreamMux.apply]⟩
      rw [StreamMux.apply, StreamMux.openStream]
      rcases mux.endpoint_cases (StreamMux.freeId mux.endpoints.keys mux.endpoints.size mux.nextOpenId)
        with ⟨ep, hopen, hget⟩ | ⟨e, hopen, -, -⟩
      · rw [hopen]
        exact { h.update (h.of_endpoint hget) _ with }
      · rw [hopen]
        exact h

end MuxLimited

/-! ## Frames

A header has a fixed length, so a bound on payloads is one on frames.
-/

/-- The length of a frame. -/
lemma length_of_pack {zlib : Bytes → ℕ} {p : Packet} {raw : Bytes} (h : p.pack zlib = some raw) :
    raw.length = HEADER_SIZE + p.payload.length := by
  obtain ⟨hintact, type, -, rfl⟩ := (unpack_eq_ok_iff zlib).mp (unpack_of_pack zlib h)
  have hlength := hintact.length
  show raw.length = HEADER_SIZE + (raw.drop HEADER_SIZE).length
  rw [List.length_drop]
  omega

namespace Session

variable {zlib : Bytes → ℕ} {limit : ℕ} {s : Session}

/-- Every frame has been a header with no more than so much behind it, and every one will be. -/
structure Brief (limit : ℕ) (s : Session) : Prop where
  machine : s.machine.Bare
  mux : MuxLimited limit s.mux
  transmitted : ∀ frame ∈ s.transmitted,
    HEADER_SIZE ≤ frame.length ∧ frame.length ≤ HEADER_SIZE + limit

lemma Brief.mono {limit' : ℕ} (h : s.Brief limit) (hle : limit ≤ limit') : s.Brief limit' where
  machine := h.machine
  mux := ⟨h.mux.maxPayload.trans hle, fun k ep hget => (h.mux.endpoints k ep hget).mono hle⟩
  transmitted frame hframe :=
    (h.transmitted frame hframe).imp_right fun hlength => hlength.trans (Nat.add_le_add_left hle _)

lemma Brief.transmits (h : s.Brief limit) {pkts : List Packet}
    (hpkts : ∀ p ∈ pkts, p.payload.length ≤ limit) :
    (s.transmits zlib (fitting pkts)).Brief limit := by
  refine ⟨h.machine, h.mux, fun frame hframe => ?_⟩
  rcases List.mem_append.mp hframe with hold | hnew
  · exact h.transmitted frame hold
  · obtain ⟨p, hp, rfl⟩ := List.mem_map.mp hnew
    obtain ⟨hmem, hfits⟩ := mem_fitting hp
    rw [length_of_pack (pack_eq_packed hfits)]
    exact ⟨Nat.le_add_right _ _, Nat.add_le_add_left (hpkts p hmem) _⟩

/-- **Whatever a session is called to do and whatever it receives**, no frame that it transmits is
longer. -/
theorem Brief.called (h : s.Brief limit) (call : SessionCall) : (s.called zlib call).Brief limit := by
  refine called_invariant (I := Brief limit) ?_ ?_ ?_ h call
  · intro s i hs
    obtain ⟨hmachine, hpackets⟩ := hs.machine.apply i
    refine Brief.transmits (s := { s with machine := (s.machine.apply i).2 })
      ⟨hmachine, hs.mux, hs.transmitted⟩ fun p hp => ?_
    rw [hpackets p hp]
    exact Nat.zero_le _
  · intro s op hs
    obtain ⟨hmux, hpackets⟩ := hs.mux.apply op
    have hworked : Session.Brief limit ({ s with mux := (s.mux.apply op).2 }.transmits zlib
        (fitting (s.mux.apply op).1.packets)) :=
      Brief.transmits (s := { s with mux := (s.mux.apply op).2 })
        ⟨hs.machine, hmux, hs.transmitted⟩ hpackets
    exact ⟨hworked.machine, hworked.mux, hworked.transmitted⟩
  · exact fun s recvBuffers hs => ⟨hs.machine, hs.mux, hs.transmitted⟩

lemma Brief.new {isInitiator : Bool} (h : s.New isInitiator) : s.Brief s.mux.maxPayload.toNat := by
  obtain ⟨-, _, _, _, _, _, _, _, _, _, rfl⟩ := h
  exact ⟨by simp [SessionStateMachine.Bare, create], ⟨le_rfl, by simp [create]⟩, by simp [create]⟩

end Session

end PhotonTCP
