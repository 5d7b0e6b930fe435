import PhotonTCP.Foundation.Mealy
import PhotonTCP.Reliability.Emission
import PhotonTCP.Stream.Mux

/-!
# Streams do not see each other

To a stream, the multiplexer is an endpoint of its own: one that is given the stream's sends, the
packets that bear the stream's id, every tick and every change of the session id, and nothing else.
That the multiplexer makes endpoints only when they are first needed makes no difference, because a
fresh endpoint has nothing to retransmit.

* `MuxOp`, `StreamMux.apply` — the operations; `ArqEndpoint.applyFor` — what an endpoint for one
  stream is given of them.
* `Projects` — the simulation relation, and `Projects.apply`, its step.
* **`stream_isolation`** — the refinement, for all sequences of operations.

The endpoint on the other side of the refinement exists from the start.  The one in the multiplexer
is made later, possibly after many ticks and changes of the session id, so the relation has two
cases, and in the second one the endpoint is the one that would be made now.

What a stream sees of the output is a filter on it: packets by their stream id, deliveries by their
key, failures by membership.  Filtering is only right because no endpoint emits packets of another
stream, which is an invariant of endpoints and has to be carried for all of them, including those
the stream knows nothing about.
-/

namespace PhotonTCP

/-- The operations of a multiplexer. -/
inductive MuxOp where
  | send (streamId : ℤ) (data : Bytes) (now : ℚ)
  | onPacket (pkt : Packet) (now : ℚ)
  | onTick (now : ℚ)
  | setSessionId (sid : ℤ)
  | openStream

/-- What the multiplexer does. -/
def StreamMux.apply (mux : StreamMux) : MuxOp → MuxOutput × StreamMux
  | .send streamId data now =>
      (StreamMux.observed (mux.send streamId data now).1, (mux.send streamId data now).2)
  | .onPacket pkt now =>
      (StreamMux.observed (mux.onPacket pkt now).1, (mux.onPacket pkt now).2)
  | .onTick now => mux.onTick now
  | .setSessionId sid => ({}, mux.setSessionId sid)
  | .openStream => ({}, mux.openStream.2)

/-- What an endpoint for stream `s` alone does. -/
def ArqEndpoint.applyFor (s : ℤ) (ep : ArqEndpoint) : MuxOp → ArqOutput × ArqEndpoint
  | .send streamId data now => if streamId = s then ep.send data now else ({}, ep)
  | .onPacket pkt now =>
      if pkt.streamId = s then
        (ArqEndpoint.observed (ep.onPacket pkt now).1, (ep.onPacket pkt now).2)
      else ({}, ep)
  | .onTick now => ep.onTick now
  | .setSessionId sid => ({}, { ep with sessionId := sid })
  | .openStream => ({}, ep)

/-- What stream `s` sees of the multiplexer's output: its packets, its chunks, and whether it is
reported as failed. -/
def MuxOutput.view (s : ℤ) (out : MuxOutput) : List Packet × List Bytes × Bool :=
  (out.packets.filter fun p => p.streamId = s, (out.delivered.get? s).getD [],
    decide (s ∈ out.failedStreams))

/-- The same of an endpoint's. -/
def ArqOutput.view (out : ArqOutput) : List Packet × List Bytes × Bool :=
  (out.packets, out.delivered, decide (ArqEvent.SendFailed ∈ out.events))

open ArqEndpoint

/-! ## Fresh endpoints

Why it makes no difference when an endpoint is made.
-/

section Fresh

variable {mux : StreamMux} {s : ℤ} {ep : ArqEndpoint}

/-- A fresh endpoint bears its stream's id, has acknowledged nothing and has not failed. -/
lemma fresh_spec (h : mux.newEndpoint s = .ok ep) :
    ep.streamId = s ∧ ep.ackedBytes = 0 ∧ ep.failed = false ∧ ep.outstanding = Dict.empty := by
  obtain ⟨-, -, -, rfl⟩ := create_eq_ok_iff.mp h
  exact ⟨rfl, rfl, rfl, rfl⟩

/-- A fresh endpoint has nothing to retransmit. -/
lemma onTick_fresh (h : mux.newEndpoint s = .ok ep) (now : ℚ) : ep.onTick now = ({}, ep) := by
  obtain ⟨-, -, hfailed, houtstanding⟩ := fresh_spec h
  have hnone : ep.timedOut now = [] := by
    rw [timedOut, houtstanding]
    rfl
  rw [ArqEndpoint.onTick, hfailed, if_neg Bool.false_ne_true, if_pos hnone]

/-- A fresh endpoint takes its session id from the multiplexer. -/
lemma newEndpoint_setSessionId (h : mux.newEndpoint s = .ok ep) (sid : ℤ) :
    (mux.setSessionId sid).newEndpoint s = .ok { ep with sessionId := sid } := by
  obtain ⟨hw, hp, hr, rfl⟩ := create_eq_ok_iff.mp h
  exact create_eq_ok_iff.mpr ⟨hw, hp, hr, rfl⟩

end Fresh

/-! ## The simulation relation

An update at another key leaves alone what the stream sees, and an update at its own key is what the
endpoint does.
-/

/-- The multiplexer's endpoint for stream `s` is `ep`, or would be if the stream were opened now;
and every endpoint it has emits packets of its own stream only. -/
structure Projects (s : ℤ) (mux : StreamMux) (ep : ArqEndpoint) : Prop where
  windowSize_pos : 1 ≤ mux.windowSize
  maxPayload_pos : 1 ≤ mux.maxPayload
  stamped : ∀ k e, mux.endpoints.get? k = some e → Stamped e ∧ e.streamId = k
  known : ∀ e, mux.endpoints.get? s = some e → e = ep
  unknown : mux.endpoints.get? s = none → mux.newEndpoint s = .ok ep

namespace Projects

variable {s : ℤ} {mux : StreamMux} {ep : ArqEndpoint}

/-- A multiplexer without endpoints. -/
lemma start (h : mux.newEndpoint s = .ok ep) (hempty : mux.endpoints = Dict.empty) :
    Projects s mux ep := by
  obtain ⟨hw, hp, -, -⟩ := create_eq_ok_iff.mp h
  refine ⟨hw, hp, ?_, ?_, fun _ => h⟩
  · intro k e he
    rw [hempty, Dict.get?_empty] at he
    cases he
  · intro e he
    rw [hempty, Dict.get?_empty] at he
    cases he

/-- Opening a stream puts its endpoint into the table. -/
lemma endpoint (h : Projects s mux ep) (k : ℤ) :
    ∃ e, mux.endpoint k = .ok (e, mux.update k e) ∧ Stamped e ∧ e.streamId = k ∧
      (k = s → e = ep) := by
  rw [StreamMux.endpoint]
  cases hget : mux.endpoints.get? k with
  | some e =>
      have hsame : mux.update k e = mux := StreamMux.update_eq_self hget
      obtain ⟨hstamped, hstream⟩ := h.stamped k e hget
      refine ⟨e, by rw [hsame], hstamped, hstream, ?_⟩
      rintro rfl
      exact h.known e hget
  | none =>
      obtain ⟨e, he⟩ : ∃ e, mux.newEndpoint k = .ok e :=
        StreamMux.newEndpoint_eq_ok_iff.mpr ⟨h.windowSize_pos, h.maxPayload_pos⟩
      refine ⟨e, by rw [he], Stamped.create he, (fresh_spec he).1, ?_⟩
      rintro rfl
      rw [h.unknown hget] at he
      exact (Except.ok.inj he).symm

/-- Changing the endpoint of a stream changes what that stream sees, and no other. -/
lemma update (h : Projects s mux ep) {k : ℤ} {e : ArqEndpoint} (hstamped : Stamped e)
    (hstream : e.streamId = k) : Projects s (mux.update k e) (if k = s then e else ep) := by
  refine ⟨h.windowSize_pos, h.maxPayload_pos, ?_, ?_, ?_⟩
  · intro k' e' he'
    rw [StreamMux.update, Dict.get?_set] at he'
    split_ifs at he' with hk
    · cases he'
      exact ⟨hstamped, hstream.trans hk.symm⟩
    · exact h.stamped k' e' he'
  · intro e' he'
    rw [StreamMux.update, Dict.get?_set] at he'
    by_cases hk : k = s
    · rw [if_pos hk.symm, Option.some.injEq] at he'
      rw [if_pos hk, he']
    · rw [if_neg (Ne.symm hk)] at he'
      rw [if_neg hk]
      exact h.known e' he'
  · intro hnone
    rw [StreamMux.update, Dict.get?_set] at hnone
    by_cases hk : k = s
    · rw [if_pos hk.symm] at hnone
      cases hnone
    · rw [if_neg (Ne.symm hk)] at hnone
      rw [if_neg hk]
      exact h.unknown hnone

/-- Its operation on one stream: open the stream, let its endpoint work, and put it back. -/
lemma update_endpoint (h : Projects s mux ep) {k : ℤ} {e e' : ArqEndpoint} (he : Stamped e)
    (hek : e.streamId = k) (he' : Stamped e') (hek' : e'.streamId = k) :
    Projects s ((mux.update k e).update k e') (if k = s then e' else ep) := by
  have hopen := h.update he hek
  have hwork := hopen.update he' hek'
  by_cases hks : k = s
  · rw [if_pos hks] at hwork ⊢
    exact hwork
  · rw [if_neg hks] at hopen hwork ⊢
    rw [if_neg hks] at hwork
    exact hwork

/-- Packets of one stream, as another stream sees them. -/
lemma filter_packets {packets : List Packet} {k : ℤ} (h : ∀ p ∈ packets, p.streamId = k) (s : ℤ) :
    packets.filter (fun p => p.streamId = s) = if k = s then packets else [] := by
  split_ifs with hks
  · refine List.filter_eq_self.mpr fun p hp => ?_
    rw [h p hp, decide_eq_true hks]
  · refine List.filter_eq_nil_iff.mpr fun p hp hps => ?_
    rw [h p hp] at hps
    exact hks (of_decide_eq_true hps)

/-- Deliveries of one stream, as another stream sees them. -/
lemma delivered_collect (k s : ℤ) (result : ArqOutput) :
    ((StreamMux.collect k result).delivered.get? s).getD []
      = if k = s then result.delivered else [] := by
  rw [StreamMux.collect]
  dsimp only
  split_ifs with hnone hks hks
  · exact hnone.symm
  · rfl
  · rw [hks, Dict.get?_set_self, Option.getD_some]
  · rw [Dict.get?_set_ne _ _ (fun h => hks h.symm)]
    rfl

/-- Failures of one stream, as another stream sees them. -/
lemma mem_failedStreams_collect {k s : ℤ} {result : ArqOutput} :
    s ∈ (StreamMux.collect k result).failedStreams ↔
      k = s ∧ ArqEvent.SendFailed ∈ result.events := by
  rw [StreamMux.collect]
  dsimp only
  split_ifs with hfail
  · rw [List.mem_singleton, and_iff_left hfail, eq_comm]
  · exact ⟨fun hnil => absurd hnil List.not_mem_nil, fun h => absurd h.2 hfail⟩

/-- Changing all endpoints alike changes what the stream sees in the same way. -/
lemma mapValues (h : Projects s mux ep) {f : ArqEndpoint → ArqEndpoint} {mux' : StreamMux}
    (hf : ∀ e, Stamped e → Stamped (f e) ∧ (f e).streamId = e.streamId)
    (hmux : mux'.endpoints = mux.endpoints.mapValues f)
    (hw : mux'.windowSize = mux.windowSize) (hp : mux'.maxPayload = mux.maxPayload)
    (hfresh : mux.newEndpoint s = .ok ep → mux'.newEndpoint s = .ok (f ep)) :
    Projects s mux' (f ep) := by
  have hget : ∀ k, mux'.endpoints.get? k = (mux.endpoints.get? k).map f := fun k => by
    rw [hmux, Dict.get?_mapValues]
  refine ⟨hw ▸ h.windowSize_pos, hp ▸ h.maxPayload_pos, ?_, ?_, ?_⟩
  · intro k e he
    rw [hget] at he
    obtain ⟨e₀, he₀, rfl⟩ := Option.map_eq_some_iff.mp he
    obtain ⟨hstamped, hstream⟩ := h.stamped k e₀ he₀
    obtain ⟨hstamped', hstream'⟩ := hf e₀ hstamped
    exact ⟨hstamped', hstream'.trans hstream⟩
  · intro e he
    rw [hget] at he
    obtain ⟨e₀, he₀, rfl⟩ := Option.map_eq_some_iff.mp he
    rw [h.known e₀ he₀]
  · intro hnone
    rw [hget] at hnone
    exact hfresh (h.unknown (Option.map_eq_none_iff.mp hnone))

/-! ## The step

One lemma for each operation.
-/

lemma apply_send (h : Projects s mux ep) (k : ℤ) (data : Bytes) (now : ℚ) :
    (mux.apply (.send k data now)).1.view s = (ep.applyFor s (.send k data now)).1.view ∧
      Projects s (mux.apply (.send k data now)).2 (ep.applyFor s (.send k data now)).2 := by
  obtain ⟨e, hopen, hstamped, hstream, hsame⟩ := h.endpoint k
  obtain ⟨hstamped', hstream', hown⟩ := hstamped.send data now
  have hwork := h.update_endpoint hstamped hstream hstamped' (hstream'.trans hstream)
  have hpackets := filter_packets
    (fun p hp => (hown p hp).streamId.trans (hstream'.trans hstream)) s
  have hsend : mux.send k data now = (.ok { packets := (e.send data now).1.packets },
      (mux.update k e).update k (e.send data now).2) := by
    rw [StreamMux.send, hopen]
  simp only [StreamMux.apply, ArqEndpoint.applyFor, hsend, StreamMux.observed]
  by_cases hk : k = s
  · obtain rfl := hsame hk
    rw [if_pos hk] at hwork hpackets ⊢
    refine ⟨Prod.ext hpackets (Prod.ext (delivered_send e data now).symm ?_), hwork⟩
    show false = decide (ArqEvent.SendFailed ∈ (e.send data now).1.events)
    rw [events_send]
    rfl
  · rw [if_neg hk] at hwork hpackets ⊢
    exact ⟨Prod.ext hpackets rfl, hwork⟩

/-- What `onPacket` does to an open stream. -/
lemma onPacket_eq {pkt : Packet} {e : ArqEndpoint} (hcontrol : pkt.streamId ≠ CONTROL_STREAM_ID)
    (hopen : mux.endpoint pkt.streamId = .ok (e, mux.update pkt.streamId e)) (now : ℚ) :
    (mux.onPacket pkt now).2
      = (mux.update pkt.streamId e).update pkt.streamId (e.onPacket pkt now).2 ∧
    (StreamMux.observed (mux.onPacket pkt now).1).packets
      = (ArqEndpoint.observed (e.onPacket pkt now).1).packets ∧
    ((StreamMux.observed (mux.onPacket pkt now).1).delivered.get? s).getD []
      = (if pkt.streamId = s then (ArqEndpoint.observed (e.onPacket pkt now).1).delivered
        else []) ∧
    (s ∈ (StreamMux.observed (mux.onPacket pkt now).1).failedStreams ↔ pkt.streamId = s ∧
      ArqEvent.SendFailed ∈ (ArqEndpoint.observed (e.onPacket pkt now).1).events) := by
  rw [StreamMux.onPacket, if_neg hcontrol, hopen]
  dsimp only
  rcases hres : e.onPacket pkt now with ⟨res, e'⟩
  cases res with
  | ok out =>
      exact ⟨rfl, rfl, delivered_collect pkt.streamId s out, mem_failedStreams_collect⟩
  | error text =>
      exact ⟨rfl, rfl, (ite_self _).symm, fun hnil => absurd hnil List.not_mem_nil,
        fun h => absurd h.2 List.not_mem_nil⟩

lemma apply_onPacket (h : Projects s mux ep) (hs : s ≠ 0) (pkt : Packet) (now : ℚ) :
    (mux.apply (.onPacket pkt now)).1.view s = (ep.applyFor s (.onPacket pkt now)).1.view ∧
      Projects s (mux.apply (.onPacket pkt now)).2 (ep.applyFor s (.onPacket pkt now)).2 := by
  by_cases hcontrol : pkt.streamId = CONTROL_STREAM_ID
  · -- the control plane's packets reach no stream
    have hne : pkt.streamId ≠ s := by
      rw [hcontrol]
      exact Ne.symm hs
    simp only [StreamMux.apply, ArqEndpoint.applyFor, StreamMux.onPacket, if_pos hcontrol,
      if_neg hne]
    exact ⟨rfl, h⟩
  · obtain ⟨e, hopen, hstamped, hstream, hsame⟩ := h.endpoint pkt.streamId
    obtain ⟨hstamped', hstream', hown⟩ := hstamped.onPacket pkt now
    have hwork := h.update_endpoint hstamped hstream hstamped' (hstream'.trans hstream)
    have hfilter := filter_packets
      (fun p hp => (hown p hp).streamId.trans (hstream'.trans hstream)) s
    obtain ⟨hstate, hpackets, hdelivered, hfailed⟩ := onPacket_eq (s := s) hcontrol hopen now
    simp only [StreamMux.apply, ArqEndpoint.applyFor, hstate]
    rw [← hpackets] at hfilter
    by_cases hk : pkt.streamId = s
    · obtain rfl := hsame hk
      rw [if_pos hk] at hwork hfilter hdelivered ⊢
      rw [and_iff_right hk] at hfailed
      rw [hpackets] at hfilter
      refine ⟨Prod.ext ?_ (Prod.ext hdelivered (decide_eq_decide.mpr hfailed)), hwork⟩
      show List.filter _ (StreamMux.observed (mux.onPacket pkt now).1).packets = _
      rw [hpackets, hfilter]
      rfl
    · rw [if_neg hk] at hwork hfilter hdelivered ⊢
      have hother : s ∉ (StreamMux.observed (mux.onPacket pkt now).1).failedStreams :=
        fun hmem => hk (hfailed.mp hmem).1
      exact ⟨Prod.ext hfilter (Prod.ext hdelivered (decide_eq_false hother)), hwork⟩

lemma apply_onTick (h : Projects s mux ep) (now : ℚ) :
    (mux.apply (.onTick now)).1.view s = (ep.applyFor s (.onTick now)).1.view ∧
      Projects s (mux.apply (.onTick now)).2 (ep.applyFor s (.onTick now)).2 := by
  have hown : ∀ e ∈ mux.endpoints.entries, ∀ p ∈ (e.2.onTick now).1.packets,
      decide (p.streamId = s) = true ↔ e.1 = s := by
    intro e he p hp
    obtain ⟨hstamped, hstream⟩ := h.stamped e.1 e.2 (Dict.mem_entries_iff.mp he)
    obtain ⟨-, hstream', hpackets⟩ := hstamped.onTick now
    rw [decide_eq_true_iff, (hpackets p hp).streamId, hstream', hstream]
  have hview : ((mux.apply (.onTick now)).1.packets.filter fun p => p.streamId = s)
      = (ep.onTick now).1.packets := by
    refine (Dict.filter_flatMap_entries hown).trans ?_
    cases hget : mux.endpoints.get? s with
    | some e =>
        obtain rfl := h.known e hget
        rfl
    | none =>
        rw [onTick_fresh (h.unknown hget)]
        rfl
  have hfailed : s ∈ (mux.apply (.onTick now)).1.failedStreams ↔
      ArqEvent.SendFailed ∈ (ep.onTick now).1.events := by
    show s ∈ (mux.endpoints.entries.filter _).map Prod.fst ↔ _
    rw [Dict.mem_map_fst_filter_iff]
    cases hget : mux.endpoints.get? s with
    | some e =>
        obtain rfl := h.known e hget
        simp
    | none =>
        rw [onTick_fresh (h.unknown hget)]
        simp
  refine ⟨Prod.ext hview (Prod.ext (delivered_onTick ep now).symm (decide_eq_decide.mpr hfailed)), ?_⟩
  refine h.mapValues (f := fun e => (e.onTick now).2) ?_ rfl rfl rfl ?_
  · intro e hstamped
    obtain ⟨hstamped', hstream', -⟩ := hstamped.onTick now
    exact ⟨hstamped', hstream'⟩
  · intro hfresh
    rw [onTick_fresh hfresh]
    exact hfresh

lemma apply_setSessionId (h : Projects s mux ep) (sid : ℤ) :
    (mux.apply (.setSessionId sid)).1.view s = (ep.applyFor s (.setSessionId sid)).1.view ∧
      Projects s (mux.apply (.setSessionId sid)).2 (ep.applyFor s (.setSessionId sid)).2 := by
  refine ⟨rfl, h.mapValues (f := fun e => { e with sessionId := sid }) ?_ rfl rfl rfl ?_⟩
  · intro e hstamped
    exact ⟨hstamped.congr rfl rfl, rfl⟩
  · intro hfresh
    exact newEndpoint_setSessionId hfresh sid

lemma apply_openStream (h : Projects s mux ep) :
    (mux.apply .openStream).1.view s = (ep.applyFor s .openStream).1.view ∧
      Projects s (mux.apply .openStream).2 (ep.applyFor s .openStream).2 := by
  obtain ⟨e, hopen, hstamped, hstream, hsame⟩ := h.endpoint
    (StreamMux.freeId mux.endpoints.keys mux.endpoints.size mux.nextOpenId)
  have hwork := h.update hstamped hstream
  have hep : (if StreamMux.freeId mux.endpoints.keys mux.endpoints.size mux.nextOpenId = s
      then e else ep) = ep := by
    split_ifs with hk
    · exact hsame hk
    · rfl
  rw [hep] at hwork
  simp only [StreamMux.apply, StreamMux.openStream, hopen]
  exact ⟨rfl, hwork.windowSize_pos, hwork.maxPayload_pos, hwork.stamped, hwork.known,
    hwork.unknown⟩

/-- **Every operation does to a stream what it would do to an endpoint of its own.** -/
theorem apply (h : Projects s mux ep) (hs : s ≠ 0) (op : MuxOp) :
    MuxOutput.view s (StreamMux.apply mux op).1 = ArqOutput.view (applyFor s ep op).1 ∧
      Projects s (StreamMux.apply mux op).2 (applyFor s ep op).2 := by
  cases op with
  | send k data now => exact h.apply_send k data now
  | onPacket pkt now => exact h.apply_onPacket hs pkt now
  | onTick now => exact h.apply_onTick now
  | setSessionId sid => exact h.apply_setSessionId sid
  | openStream => exact h.apply_openStream

/-! ## What the multiplexer reports

Both reports agree as well; a stream that has not been made reports what a fresh endpoint would.
-/

lemma ackedBytes (h : Projects s mux ep) : mux.ackedBytes s = ep.ackedBytes := by
  rw [StreamMux.ackedBytes]
  cases hget : mux.endpoints.get? s with
  | some e => rw [h.known e hget]
  | none => rw [(fresh_spec (h.unknown hget)).2.1]

lemma mem_failedStreamIds (h : Projects s mux ep) :
    s ∈ mux.failedStreamIds ↔ ep.failed = true := by
  rw [StreamMux.failedStreamIds, List.mem_mergeSort, Dict.mem_map_fst_filter_iff]
  cases hget : mux.endpoints.get? s with
  | some e =>
      rw [h.known e hget]
      simp
  | none =>
      rw [(fresh_spec (h.unknown hget)).2.2.1]
      simp

end Projects

/-! ## The refinement

The simulation rule for machines with outputs does the induction.
-/

/-- **Stream isolation.**  Over any sequence of operations on a new multiplexer, the packets that
bear stream `s`, the chunks delivered under it, the report that it fails, its acknowledged bytes and
whether it has failed are those of an endpoint for `s` that is given exactly the sends on `s`, the
packets that bear `s`, every tick and every session id. -/
theorem stream_isolation (sessionId : ℤ) (isInitiator : Bool) (windowSize maxPayload : ℤ)
    (freshRto : RtoEstimator) {s : ℤ} (hs : s ≠ 0) {ep : ArqEndpoint}
    (hep : ArqEndpoint.create sessionId 0 windowSize freshRto maxPayload 0 s = .ok ep)
    (ops : List MuxOp) :
    let mux : StreamMux := { sessionId, isInitiator, windowSize, maxPayload, freshRto }
    let whole := Mealy.run StreamMux.apply mux ops
    let alone := Mealy.run (ArqEndpoint.applyFor s) ep ops
    whole.1.map (fun out => out.packets.filter fun p => p.streamId = s)
        = alone.1.map (fun out => out.packets) ∧
      whole.1.map (fun out => (out.delivered.get? s).getD [])
        = alone.1.map (fun out => out.delivered) ∧
      whole.1.map (fun out => decide (s ∈ out.failedStreams))
        = alone.1.map (fun out => decide (ArqEvent.SendFailed ∈ out.events)) ∧
      whole.2.ackedBytes s = alone.2.ackedBytes ∧
      (s ∈ whole.2.failedStreamIds ↔ alone.2.failed = true) := by
  intro mux whole alone
  have hstart : Projects s mux ep := Projects.start hep rfl
  have hstep : ∀ mux ep op, Projects s mux ep →
      MuxOutput.view s (StreamMux.apply mux op).1 = ArqOutput.view (applyFor s ep op).1 ∧
        Projects s (StreamMux.apply mux op).2 (applyFor s ep op).2 :=
    fun mux ep op h => h.apply hs op
  obtain ⟨hviews, hfinal⟩ := Mealy.run_simulation hstep hstart ops
  have hpackets := congrArg (List.map Prod.fst) hviews
  have hdelivered := congrArg (List.map fun view => view.2.1) hviews
  have hfailed := congrArg (List.map fun view => view.2.2) hviews
  rw [List.map_map, List.map_map] at hpackets hdelivered hfailed
  exact ⟨hpackets, hdelivered, hfailed, hfinal.ackedBytes, hfinal.mem_failedStreamIds⟩

/-- Two streams in use, and an acknowledgement on the second. -/
def twoStreams : List MuxOp :=
  [.send 1 [10, 11] 0, .send 2 [20] 0,
    .onPacket { type := .Ack, sessionId := 7, streamId := 2, seq := 0, ack := 1, window := 3 } 1,
    .onTick 5]

/-- What the first of them sees. -/
theorem stream_isolation_twoStreams :
    ∃ ep, ArqEndpoint.create 7 0 3 {} 1 0 1 = .ok ep ∧
      let whole := Mealy.run StreamMux.apply
        { sessionId := 7, isInitiator := true, windowSize := 3, maxPayload := 1 } twoStreams
      let alone := Mealy.run (ArqEndpoint.applyFor 1) ep twoStreams
      whole.1.map (fun out => out.packets.filter fun p => p.streamId = 1)
          = alone.1.map (fun out => out.packets) ∧
        whole.1.map (fun out => (out.delivered.get? 1).getD [])
          = alone.1.map (fun out => out.delivered) ∧
        whole.1.map (fun out => decide (1 ∈ out.failedStreams))
          = alone.1.map (fun out => decide (ArqEvent.SendFailed ∈ out.events)) ∧
        whole.2.ackedBytes 1 = alone.2.ackedBytes ∧
        (1 ∈ whole.2.failedStreamIds ↔ alone.2.failed = true) := by
  obtain ⟨ep, hep⟩ : ∃ ep, ArqEndpoint.create 7 0 3 {} 1 0 1 = .ok ep :=
    ⟨_, create_eq_ok_iff.mpr ⟨by decide, by decide, by decide, rfl⟩⟩
  exact ⟨ep, hep, stream_isolation 7 true 3 1 {} (by decide) hep twoStreams⟩

end PhotonTCP
