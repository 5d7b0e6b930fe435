import PhotonTCP.Reliability.Packable
import PhotonTCP.Stream.Mux

/-!
# Everything a multiplexer emits can be packed

The same for all streams at once: a multiplexer whose session id, window and payload limit fit the
header emits packets that fit, on every stream whose id does.

* `MuxPackable past` — the invariant.
* `MuxPackable.send`, `MuxPackable.onPacket`, `MuxPackable.onTick`, `MuxPackable.openStream` — every
  operation preserves it and emits packets that fit.
* `MuxPackable.onPacket_ok` — no packet makes it raise as long as time does not go backwards.

Stream ids are the one field that a caller chooses freely.  The invariant is about the endpoints
whose id fits a byte, and about no others: a stream with another id can be made, and what it emits
cannot be packed, without any effect on the streams that are in order.
-/

namespace PhotonTCP

/-- The stream id fits the header. -/
def WireStream (k : ℤ) : Prop := 0 ≤ k ∧ k < 256

/-- What a multiplexer needs so that everything it emits on these streams fits the header. -/
structure MuxPackable (past : ℚ → Prop) (mux : StreamMux) : Prop where
  sessionId : 0 ≤ mux.sessionId ∧ mux.sessionId < 65536
  windowSize : mux.windowSize < 65536
  maxPayload : mux.maxPayload ≤ 65535
  endpoints : ∀ k ep, WireStream k → mux.endpoints.get? k = some ep → Packable past ep

namespace MuxPackable

variable {past past' : ℚ → Prop} {mux : StreamMux} {now : ℚ} {k : ℤ} {ep ep' : ArqEndpoint}

/-- A multiplexer without endpoints. -/
lemma start (hsession : 0 ≤ mux.sessionId ∧ mux.sessionId < 65536)
    (hwindow : mux.windowSize < 65536) (hpayload : mux.maxPayload ≤ 65535)
    (hempty : mux.endpoints = Dict.empty) : MuxPackable past mux :=
  ⟨hsession, hwindow, hpayload, by simp [hempty]⟩

lemma mono (h : MuxPackable past mux) (hpast : ∀ t, past t → past' t) : MuxPackable past' mux :=
  { h with endpoints := fun k ep hk hget => (h.endpoints k ep hk hget).mono hpast }

lemma update (h : MuxPackable past mux) (hep : WireStream k → Packable past ep) :
    MuxPackable past (mux.update k ep) := by
  refine { h with endpoints := fun k' ep' hk' hget => ?_ }
  rw [StreamMux.update, Dict.get?_set] at hget
  split_ifs at hget with hk
  · rw [← Option.some.inj hget]
    exact hep (hk ▸ hk')
  · exact h.endpoints k' ep' hk' hget

lemma mapValues (h : MuxPackable past mux) {f : ArqEndpoint → ArqEndpoint} {sid : ℤ}
    (hsid : 0 ≤ sid ∧ sid < 65536) (hf : ∀ ep, Packable past ep → Packable past (f ep)) :
    MuxPackable past
      { mux with sessionId := sid, endpoints := mux.endpoints.mapValues f } := by
  refine { h with sessionId := hsid, endpoints := fun k ep hk hget => ?_ }
  rw [Dict.get?_mapValues] at hget
  obtain ⟨ep₀, hget₀, rfl⟩ := Option.map_eq_some_iff.mp hget
  exact hf ep₀ (h.endpoints k ep₀ hk hget₀)

/-- The endpoint that an operation works on. -/
lemma of_endpoint (h : MuxPackable past mux) (hk : WireStream k)
    (hget : mux.endpoints.get? k = some ep ∨
      k ∉ mux.endpoints.keys ∧ mux.Usable ∧ mux.newEndpoint k = .ok ep) : Packable past ep := by
  rcases hget with hget | ⟨-, -, hnew⟩
  · exact h.endpoints k ep hk hget
  · exact Packable.create hnew h.sessionId hk h.windowSize h.maxPayload (by simp) (by simp)

/-! ## The operations

Each reduces to the operation of an endpoint; a tick does so for every endpoint in the table.
-/

lemma setSessionId (h : MuxPackable past mux) {sid : ℤ} (hsid : 0 ≤ sid ∧ sid < 65536) :
    MuxPackable past (mux.setSessionId sid) :=
  h.mapValues hsid fun _ hep => hep.setSessionId hsid

/-- **`send`** emits packets that fit, if the stream id does. -/
theorem send (h : MuxPackable past mux) (hnow : past now) (data : Bytes) :
    MuxPackable past (mux.send k data now).2 ∧ (WireStream k →
      ∀ pkt ∈ (StreamMux.observed (mux.send k data now).1).packets, pkt.FitsHeader) := by
  rw [StreamMux.send]
  rcases mux.endpoint_cases k with ⟨ep, hopen, hget⟩ | ⟨e, hopen, -, -⟩
  · have hep := fun hk => h.of_endpoint hk hget
    have hwork := fun hk => (hep hk).send hnow data
    rw [hopen]
    exact ⟨(h.update hep).update fun hk => (hwork hk).1, fun hk => (hwork hk).2⟩
  · rw [hopen]
    exact ⟨h, by simp [StreamMux.observed]⟩

/-- **`onPacket`** answers with packets that fit. -/
theorem onPacket (h : MuxPackable past mux) {pkt : Packet} (hstream : WireStream pkt.streamId)
    (hnow : past now) : MuxPackable past (mux.onPacket pkt now).2 ∧
      ∀ p ∈ (StreamMux.observed (mux.onPacket pkt now).1).packets, p.FitsHeader := by
  rw [StreamMux.onPacket]
  split_ifs
  · exact ⟨h, by simp [StreamMux.observed]⟩
  · rcases mux.endpoint_cases pkt.streamId with ⟨ep, hopen, hget⟩ | ⟨e, hopen, -, -⟩
    · have hep := h.of_endpoint hstream hget
      have hwork := hep.onPacket hnow pkt
      have hmux := (h.update (k := pkt.streamId) fun _ => hep).update (k := pkt.streamId)
        fun _ => hwork.1
      rw [hopen]
      dsimp only
      rcases hres : ep.onPacket pkt now with ⟨result, ep'⟩
      rw [hres] at hwork hmux
      cases result with
      | ok out => exact ⟨hmux, hwork.2⟩
      | error text => exact ⟨hmux, by simp [StreamMux.observed]⟩
    · rw [hopen]
      exact ⟨h, by simp [StreamMux.observed]⟩

/-- **No packet makes a multiplexer raise**, if everything was sent by now. -/
theorem onPacket_ok (h : MuxPackable past mux) (husable : mux.Usable) {pkt : Packet}
    (hstream : WireStream pkt.streamId) (hpast : ∀ t, past t → t ≤ now) :
    ∃ out, (mux.onPacket pkt now).1 = .ok out := by
  rw [StreamMux.onPacket]
  split_ifs
  · exact ⟨_, rfl⟩
  · rcases mux.endpoint_cases pkt.streamId with ⟨ep, hopen, hget⟩ | ⟨e, -, -, hunusable⟩
    · obtain ⟨out, hout⟩ := (h.of_endpoint hstream hget).onPacket_ok hpast pkt
      rw [hopen]
      dsimp only
      rcases hres : ep.onPacket pkt now with ⟨result, ep'⟩
      rw [hres] at hout
      obtain rfl : result = .ok out := hout
      exact ⟨_, rfl⟩
    · exact absurd husable hunusable

/-- **`onTick`** emits packets that fit, if all stream ids do. -/
theorem onTick (h : MuxPackable past mux) (hnow : past now) :
    MuxPackable past (mux.onTick now).2 ∧ ((∀ k ∈ mux.endpoints.keys, WireStream k) →
      ∀ pkt ∈ (mux.onTick now).1.packets, pkt.FitsHeader) := by
  refine ⟨h.mapValues h.sessionId fun ep hep => (hep.onTick hnow).1, ?_⟩
  intro hkeys pkt hmem
  obtain ⟨e, he, hpkt⟩ := List.mem_flatMap.mp hmem
  have hep := h.endpoints e.1 e.2 (hkeys _ (Dict.mem_keys_of_mem he)) (Dict.mem_entries_iff.mp he)
  exact (hep.onTick hnow).2 pkt hpkt

lemma openStream (h : MuxPackable past mux) : MuxPackable past mux.openStream.2 := by
  rw [StreamMux.openStream]
  rcases mux.endpoint_cases (StreamMux.freeId mux.endpoints.keys mux.endpoints.size mux.nextOpenId)
    with ⟨ep, hopen, hget⟩ | ⟨e, hopen, -, -⟩
  · rw [hopen]
    exact { h.update fun hk => h.of_endpoint hk hget with }
  · rw [hopen]
    exact h

end MuxPackable

end PhotonTCP
