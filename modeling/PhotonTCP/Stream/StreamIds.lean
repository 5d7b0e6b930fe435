import PhotonTCP.Packet.WireFormat
import PhotonTCP.Stream.Isolation
import PhotonTCP.Stream.Packable

/-!
# The ids of the streams

Streams enter the table by three routes: they are opened, sent on, or named by a packet.  Only the
first chooses the id itself, and it does not look at the end of the header's one byte; only the
third leaves out the control stream.

* `touched` — the stream an operation works on; **`mem_keys_apply`** — the table grows by that.
* `freeId_le_iff` — when the search for a free id stays within a bound.
* `LegalStep` — the condition on an operation under which the table keeps to `1..255`.
* `opened` — the ids that a sequence of operations returns.
* **`stream_ids_legal_iff`** — the table, the packets and the ids, over any sequence of operations.

What a table may contain is a question about each way into it.  The search for a free id goes up in
steps of two and stops at the first one that is not taken, wherever that is; with a hundred and
twenty-eight streams of one parity in use it is beyond the header's byte, and the endpoint is made
there all the same.  `LegalStep` says what the caller would have to check.

The condition is exact, operation by operation, in the state in which the operation is called.  It
is void where the window or the payload limit is unusable, because nothing is ever made then.
-/

namespace PhotonTCP

namespace StreamMux

variable (mux : StreamMux)

/-! ## The table

It only grows, and by one stream at a time.
-/

/-- The stream that an operation works on. -/
def touched : MuxOp → Option ℤ
  | .send streamId _ _ => some streamId
  | .onPacket pkt _ => if pkt.streamId = CONTROL_STREAM_ID then none else some pkt.streamId
  | .onTick _ => none
  | .setSessionId _ => none
  | .openStream => some (freeId mux.endpoints.keys mux.endpoints.size mux.nextOpenId)

variable {mux} {k : ℤ} {ep : ArqEndpoint}

lemma mem_keys_update {streamId : ℤ} :
    k ∈ (mux.update streamId ep).endpoints.keys ↔ k ∈ mux.endpoints.keys ∨ k = streamId := by
  rw [update, Dict.mem_keys_set, or_comm]

/-- What is in the table after its endpoint for a stream was asked for. -/
lemma mem_keys_touch {streamId : ℤ} (h : mux.endpoints.get? streamId = some ep ∨
    streamId ∉ mux.endpoints.keys ∧ mux.Usable ∧ mux.newEndpoint streamId = .ok ep) :
    k ∈ mux.endpoints.keys ∨ k = streamId ↔
      k ∈ mux.endpoints.keys ∨ mux.Usable ∧ some streamId = some k := by
  rcases h with hget | ⟨-, husable, -⟩
  · have hknown : streamId ∈ mux.endpoints.keys := Dict.get?_isSome_iff.mp (by rw [hget]; rfl)
    constructor
    · rintro (hmem | rfl)
      · exact .inl hmem
      · exact .inl hknown
    · rintro (hmem | ⟨-, hk⟩)
      · exact .inl hmem
      · exact .inr (Option.some.inj hk).symm
  · simp [husable, eq_comm]

/-- **What an operation adds to the table**: the stream it works on. -/
theorem mem_keys_apply (op : MuxOp) : k ∈ (mux.apply op).2.endpoints.keys ↔
    k ∈ mux.endpoints.keys ∨ mux.Usable ∧ mux.touched op = some k := by
  cases op with
  | send streamId data now =>
      rw [apply, send, touched]
      rcases mux.endpoint_cases streamId with ⟨ep, hopen, hget⟩ | ⟨e, hopen, -, hunusable⟩
      · simp only [hopen, mem_keys_update, or_assoc, or_self]
        exact mem_keys_touch hget
      · simp [hopen, hunusable]
  | onPacket pkt now =>
      rw [apply, onPacket, touched]
      split_ifs
      · simp
      · rcases mux.endpoint_cases pkt.streamId with ⟨ep, hopen, hget⟩ | ⟨e, hopen, -, hunusable⟩
        · rw [hopen]
          dsimp only
          rcases ep.onPacket pkt now with ⟨_ | _, ep'⟩
          all_goals
            simp only [mem_keys_update, or_assoc, or_self]
            exact mem_keys_touch hget
        · simp [hopen, hunusable]
  | onTick now => simp [apply, onTick, touched]
  | setSessionId sid => simp [apply, setSessionId, touched]
  | openStream =>
      rw [apply, openStream, touched]
      rcases mux.endpoint_cases (freeId mux.endpoints.keys mux.endpoints.size mux.nextOpenId)
        with ⟨ep, hopen, hget⟩ | ⟨e, hopen, -, hunusable⟩
      · simp only [hopen, mem_keys_update]
        exact mem_keys_touch hget
      · simp [hopen, hunusable]

/-! ## The search for a free id

The ids that are passed are taken, so the one that is found is the lowest.
-/

/-- The search passes taken ids only. -/
theorem freeId_spec (taken : List ℤ) : ∀ (fuel : ℕ) (sid : ℤ),
    ∃ n : ℕ, freeId taken fuel sid = sid + 2 * n ∧ ∀ j < n, sid + 2 * (j : ℤ) ∈ taken
  | 0, sid => ⟨0, by simp [freeId], by simp⟩
  | fuel + 1, sid => by
      rw [freeId]
      split_ifs with htaken
      · obtain ⟨n, hfree, hpassed⟩ := freeId_spec taken fuel (sid + 2)
        refine ⟨n + 1, by rw [hfree]; push_cast; ring, ?_⟩
        rintro (_ | j) hj
        · simpa using htaken
        · have := hpassed j (by omega)
          rwa [show sid + 2 * ((j + 1 : ℕ) : ℤ) = sid + 2 + 2 * j by push_cast; ring]
      · exact ⟨0, by simp, by simp⟩

variable (mux) in
/-- The id that `openStream` allocates, and where it lies. -/
lemma openStream_bounds :
    mux.nextOpenId ≤ freeId mux.endpoints.keys mux.endpoints.size mux.nextOpenId ∧
      freeId mux.endpoints.keys mux.endpoints.size mux.nextOpenId % 2 = mux.nextOpenId % 2 := by
  obtain ⟨n, hfree, -⟩ := freeId_spec mux.endpoints.keys mux.endpoints.size mux.nextOpenId
  omega

/-- It is the lowest: it stays within a bound exactly when a free id of its parity does. -/
theorem freeId_le_iff {bound : ℤ} :
    freeId mux.endpoints.keys mux.endpoints.size mux.nextOpenId ≤ bound ↔
      ∃ k, k ∉ mux.endpoints.keys ∧ mux.nextOpenId ≤ k ∧ k ≤ bound ∧
        k % 2 = mux.nextOpenId % 2 := by
  have hbounds := mux.openStream_bounds
  constructor
  · intro h
    exact ⟨_, mux.openStream_free, hbounds.1, h, hbounds.2⟩
  · rintro ⟨k, hfree, hle, hbound, hparity⟩
    by_contra hlt
    obtain ⟨n, hn, hpassed⟩ := freeId_spec mux.endpoints.keys mux.endpoints.size mux.nextOpenId
    obtain ⟨j, hj⟩ : ∃ j : ℕ, k = mux.nextOpenId + 2 * j :=
      ⟨((k - mux.nextOpenId) / 2).toNat, by omega⟩
    rw [hj] at hfree
    exact hfree (hpassed j (by omega))

/-! ## Legal operations

In terms of the arguments and the table, without running the operation.
-/

variable (mux) in
/-- What the caller of an operation has to see to: it names an application stream that fits the
header, or there is still a free one to open.  Where the endpoint's constructor refuses the
parameters no stream is made at all. -/
def LegalStep (op : MuxOp) : Prop :=
  mux.Usable → match op with
    | .send streamId _ _ => 1 ≤ streamId ∧ streamId ≤ 255
    | .onPacket pkt _ => 0 ≤ pkt.streamId ∧ pkt.streamId ≤ 255
    | .openStream => ∃ k, k ∉ mux.endpoints.keys ∧ mux.nextOpenId ≤ k ∧ k ≤ 255 ∧
        k % 2 = mux.nextOpenId % 2
    | .onTick _ => True
    | .setSessionId _ => True

/-- A legal operation works on a legal stream. -/
lemma legalStep_iff (hnext : 1 ≤ mux.nextOpenId) (op : MuxOp) :
    mux.LegalStep op ↔ ∀ k, mux.Usable ∧ mux.touched op = some k → 1 ≤ k ∧ k ≤ 255 := by
  have hbounds := mux.openStream_bounds
  cases op with
  | send streamId data now => simp [LegalStep, touched]
  | onPacket pkt now =>
      by_cases hcontrol : pkt.streamId = CONTROL_STREAM_ID
      · simp [LegalStep, touched, CONTROL_STREAM_ID, hcontrol]
      · have htouched : mux.touched (.onPacket pkt now) = some pkt.streamId := if_neg hcontrol
        simp only [LegalStep, htouched, Option.some.injEq]
        rw [CONTROL_STREAM_ID] at hcontrol
        constructor
        · rintro h k ⟨husable, rfl⟩
          have := h husable
          omega
        · intro h husable
          have := h _ ⟨husable, rfl⟩
          omega
  | onTick now => simp [LegalStep, touched]
  | setSessionId sid => simp [LegalStep, touched]
  | openStream =>
      simp only [LegalStep, touched, Option.some.injEq, ← freeId_le_iff]
      constructor
      · rintro h k ⟨husable, rfl⟩
        have := h husable
        omega
      · intro h husable
        exact (h _ ⟨husable, rfl⟩).2

/-! ## The ids that are handed out

Ids are not reused: the next search starts behind the last id that was returned.
-/

variable (mux) in
/-- The id that an operation returns. -/
def openedId : MuxOp → Option ℤ
  | .openStream => mux.openStream.1.toOption
  | _ => none

/-- All ids that operations return, in order. -/
def opened : StreamMux → List MuxOp → List ℤ
  | _, [] => []
  | mux, op :: ops => (mux.openedId op).toList ++ opened (mux.apply op).2 ops

/-- What an operation leaves alone: the parameters, and the next id unless a stream is opened. -/
lemma apply_frame (op : MuxOp) : ∃ sessionId endpoints, (mux.apply op).2 =
    { mux with sessionId, endpoints,
               nextOpenId := ((mux.openedId op).map (· + 2)).getD mux.nextOpenId } := by
  cases op with
  | send streamId data now =>
      rw [apply, send]
      rcases mux.endpoint_cases streamId with ⟨ep, hopen, -⟩ | ⟨e, hopen, -, -⟩
      all_goals
        rw [hopen]
        exact ⟨_, _, rfl⟩
  | onPacket pkt now =>
      rw [apply, onPacket]
      split_ifs
      · exact ⟨_, _, rfl⟩
      · rcases mux.endpoint_cases pkt.streamId with ⟨ep, hopen, -⟩ | ⟨e, hopen, -, -⟩
        · rw [hopen]
          dsimp only
          rcases ep.onPacket pkt now with ⟨_ | _, ep'⟩ <;> exact ⟨_, _, rfl⟩
        · rw [hopen]
          exact ⟨_, _, rfl⟩
  | onTick now => exact ⟨_, _, rfl⟩
  | setSessionId sid => exact ⟨_, _, rfl⟩
  | openStream =>
      rw [apply, openedId, openStream]
      rcases mux.endpoint_cases (freeId mux.endpoints.keys mux.endpoints.size mux.nextOpenId)
        with ⟨ep, hopen, -⟩ | ⟨e, hopen, -, -⟩
      all_goals
        rw [hopen]
        exact ⟨_, _, rfl⟩

lemma usable_apply (op : MuxOp) : (mux.apply op).2.Usable ↔ mux.Usable := by
  obtain ⟨sessionId, endpoints, hframe⟩ := mux.apply_frame op
  rw [hframe]
  exact Iff.rfl

/-- The next id to consider moves past the ids that are returned, and by nothing else. -/
lemma nextOpenId_apply (op : MuxOp) :
    (mux.apply op).2.nextOpenId = ((mux.openedId op).map (· + 2)).getD mux.nextOpenId := by
  obtain ⟨sessionId, endpoints, hframe⟩ := mux.apply_frame op
  rw [hframe]

/-- An id that is returned is new, and of the parity of the role. -/
lemma openedId_spec {op : MuxOp} {sid : ℤ} (h : mux.openedId op = some sid) :
    sid ∉ mux.endpoints.keys ∧ mux.nextOpenId ≤ sid ∧ sid % 2 = mux.nextOpenId % 2 := by
  cases op with
  | openStream =>
      rw [openedId, openStream] at h
      rcases mux.endpoint_cases (freeId mux.endpoints.keys mux.endpoints.size mux.nextOpenId)
        with ⟨ep, hopen, -⟩ | ⟨e, hopen, -, -⟩
      · rw [hopen] at h
        obtain rfl := Option.some.inj h
        exact ⟨mux.openStream_free, mux.openStream_bounds⟩
      · rw [hopen] at h
        cases h
  | _ => cases h

/-- **The ids that are returned ascend**, from the next one on and by its parity. -/
theorem opened_spec : ∀ (ops : List MuxOp) (mux : StreamMux),
    (opened mux ops).Pairwise (· < ·) ∧
      ∀ sid ∈ opened mux ops, mux.nextOpenId ≤ sid ∧ sid % 2 = mux.nextOpenId % 2 := by
  intro ops
  induction ops with
  | nil => intro mux; simp [opened]
  | cons op ops ih =>
      intro mux
      obtain ⟨hpairwise, hlater⟩ := ih (mux.apply op).2
      rw [nextOpenId_apply] at hlater
      rw [opened]
      cases hopened : mux.openedId op with
      | none =>
          rw [hopened] at hlater
          exact ⟨by simpa using hpairwise, by simpa using hlater⟩
      | some sid =>
          obtain ⟨-, hle, hparity⟩ := openedId_spec hopened
          rw [hopened] at hlater
          simp only [Option.map_some, Option.getD_some] at hlater
          simp only [Option.toList_some, List.singleton_append, List.pairwise_cons,
            List.forall_mem_cons]
          refine ⟨⟨fun later hmem => ?_, hpairwise⟩, ⟨hle, hparity⟩, fun later hmem => ?_⟩
          · have := hlater later hmem
            omega
          · have := hlater later hmem
            omega

/-! ## Packets

A packet bears the id of a stream in the table, so a legal table makes for packets that can be
encoded.
-/

variable (mux) in
/-- What else the packets carry: the session id, the window and a chunk fit the header. -/
def WireParams : Prop :=
  (0 ≤ mux.sessionId ∧ mux.sessionId < 65536) ∧ mux.windowSize < 65536 ∧ mux.maxPayload ≤ 65535

/-- A session id that is adopted fits the header. -/
def WireId : MuxOp → Prop
  | .setSessionId sid => 0 ≤ sid ∧ sid < 65536
  | _ => True

/-- A stream that may be used fits the header, unless it cannot be made. -/
lemma wireStream_or_error (hkeys : ∀ k ∈ mux.endpoints.keys, 1 ≤ k ∧ k ≤ 255)
    (hk : mux.Usable → 0 ≤ k ∧ k ≤ 255) : WireStream k ∨ ∃ e, mux.endpoint k = .error e := by
  rcases mux.endpoint_cases k with ⟨ep, -, hget | hnew⟩ | ⟨e, hopen, -, -⟩
  · have := hkeys k (Dict.get?_isSome_iff.mp (by rw [hget]; rfl))
    exact .inl ⟨by omega, by omega⟩
  · have := hk hnew.2.1
    exact .inl ⟨by omega, by omega⟩
  · exact .inr ⟨e, hopen⟩

/-- A legal operation emits packets that fit. -/
lemma fitsHeader_apply {past : ℚ → Prop} (hpast : ∀ t, past t) (h : MuxPackable past mux)
    (hkeys : ∀ k ∈ mux.endpoints.keys, 1 ≤ k ∧ k ≤ 255) {op : MuxOp} (hid : WireId op)
    (hlegal : mux.LegalStep op) :
    MuxPackable past (mux.apply op).2 ∧ ∀ pkt ∈ (mux.apply op).1.packets, pkt.FitsHeader := by
  cases op with
  | send streamId data now =>
      obtain ⟨hmux, hfits⟩ := h.send (k := streamId) (hpast now) data
      have hk : mux.Usable → 0 ≤ streamId ∧ streamId ≤ 255 := by
        intro husable
        have := hlegal husable
        omega
      rcases wireStream_or_error hkeys hk with hwire | ⟨e, hopen⟩
      · exact ⟨hmux, hfits hwire⟩
      · exact ⟨hmux, by simp [apply, send, hopen, observed]⟩
  | onPacket pkt now =>
      rcases wireStream_or_error hkeys hlegal with hwire | ⟨e, hopen⟩
      · exact h.onPacket hwire (hpast now)
      · rw [apply, onPacket]
        split_ifs
        · exact ⟨h, by simp [observed]⟩
        · rw [hopen]
          exact ⟨h, by simp [observed]⟩
  | onTick now =>
      obtain ⟨hmux, hfits⟩ := h.onTick (hpast now)
      refine ⟨hmux, hfits fun k hk => ?_⟩
      have := hkeys k hk
      exact ⟨by omega, by omega⟩
  | setSessionId sid => exact ⟨h.setSessionId hid, by simp [apply]⟩
  | openStream => exact ⟨h.openStream, by simp [apply]⟩

end StreamMux

/-! ## Over any sequence of operations

The step lemmas, put together along a run.
-/

section Run

open StreamMux

variable {mux : StreamMux} {ops : List MuxOp}

lemma nextOpenId_pos_apply (h : 1 ≤ mux.nextOpenId) (op : MuxOp) :
    1 ≤ (mux.apply op).2.nextOpenId := by
  rw [nextOpenId_apply]
  cases hopened : mux.openedId op with
  | none => exact h
  | some sid =>
      have := (openedId_spec hopened).2.1
      simp only [Option.map_some, Option.getD_some]
      omega

/-- A legal operation keeps the table legal, and only a legal one does. -/
lemma keys_apply_iff (hnext : 1 ≤ mux.nextOpenId)
    (hkeys : ∀ k ∈ mux.endpoints.keys, 1 ≤ k ∧ k ≤ 255) (op : MuxOp) :
    (∀ k ∈ (mux.apply op).2.endpoints.keys, 1 ≤ k ∧ k ≤ 255) ↔ mux.LegalStep op := by
  simp only [legalStep_iff hnext, mem_keys_apply, or_imp]
  exact ⟨fun h k => (h k).2, fun h k => ⟨hkeys k, h k⟩⟩

/-- The table keeps to `1..255` as long as the operations do. -/
theorem keys_legal_iff (hnext : 1 ≤ mux.nextOpenId) (hempty : mux.endpoints = Dict.empty) :
    (∀ t ∈ Mealy.states StreamMux.apply mux ops, ∀ k ∈ t.endpoints.keys, 1 ≤ k ∧ k ≤ 255) ↔
      Mealy.Along StreamMux.apply LegalStep mux ops := by
  refine Mealy.forall_states_iff_along (J := fun mux => 1 ≤ mux.nextOpenId) (Q := fun _ => True)
    (fun mux op h => nextOpenId_pos_apply h op) ?_ (by simp) hnext (by simp [hempty])
  intro mux op hnext _ hkeys
  exact keys_apply_iff hnext hkeys op

/-- Legal operations emit packets that can be encoded. -/
theorem packets_fit (hnext : 1 ≤ mux.nextOpenId) (hempty : mux.endpoints = Dict.empty)
    (hparams : mux.WireParams) (hids : ∀ op ∈ ops, WireId op)
    (hlegal : Mealy.Along StreamMux.apply LegalStep mux ops) :
    ∀ out ∈ (Mealy.run StreamMux.apply mux ops).1, ∀ pkt ∈ out.packets, pkt.FitsHeader := by
  obtain ⟨hsession, hwindow, hpayload⟩ := hparams
  refine (Mealy.forall_outputs_of_along (R := fun out => ∀ pkt ∈ out.packets, pkt.FitsHeader)
    (J := fun mux => 1 ≤ mux.nextOpenId ∧ (∀ k ∈ mux.endpoints.keys, 1 ≤ k ∧ k ≤ 255) ∧
      MuxPackable (fun _ => True) mux) ?_ hids
    ⟨hnext, by simp [hempty], MuxPackable.start hsession hwindow hpayload hempty⟩ hlegal).1
  rintro mux op ⟨hnext, hkeys, hpackable⟩ hid hstep
  obtain ⟨hpackable', hfits⟩ := fitsHeader_apply (fun _ => trivial) hpackable hkeys hid hstep
  exact ⟨hfits, nextOpenId_pos_apply hnext op, (keys_apply_iff hnext hkeys op).mpr hstep, hpackable'⟩

end Run

variable (zlib : Bytes → ℕ)

/-- **The streams of a multiplexer.**  Over any sequence of operations on a new multiplexer:

* the table keeps to `1..255` exactly when every send names one of these, every packet's stream
  fits the header, and every stream is opened while one of its parity is free;
* every packet can then be encoded, if the session ids, the window and the payload limit fit;
* the ids that are returned are distinct, new, and not those of the peer. -/
theorem stream_ids_legal_iff (sessionId : ℤ) (isInitiator : Bool) (windowSize maxPayload : ℤ)
    (freshRto : RtoEstimator) (ops : List MuxOp) (sessionId' windowSize' maxPayload' : ℤ)
    (freshRto' : RtoEstimator) (peerOps : List MuxOp) :
    let mux : StreamMux := { sessionId, isInitiator, windowSize, maxPayload, freshRto }
    let peer : StreamMux :=
      { sessionId := sessionId', isInitiator := !isInitiator, windowSize := windowSize',
        maxPayload := maxPayload', freshRto := freshRto' }
    ((∀ t ∈ Mealy.states StreamMux.apply mux ops, ∀ k ∈ t.endpoints.keys, 1 ≤ k ∧ k ≤ 255) ↔
      Mealy.Along StreamMux.apply StreamMux.LegalStep mux ops) ∧
    (Mealy.Along StreamMux.apply StreamMux.LegalStep mux ops → mux.WireParams →
      (∀ op ∈ ops, StreamMux.WireId op) →
      ∀ out ∈ (Mealy.run StreamMux.apply mux ops).1, ∀ pkt ∈ out.packets,
        ∃ raw, pkt.pack zlib = some raw) ∧
    (StreamMux.opened mux ops).Nodup ∧
    Mealy.Along StreamMux.apply
      (fun mux op => ∀ sid, mux.openedId op = some sid → sid ∉ mux.endpoints.keys) mux ops ∧
    (StreamMux.opened mux ops).Disjoint (StreamMux.opened peer peerOps) := by
  intro mux peer
  have hnext : 1 ≤ mux.nextOpenId := by
    cases isInitiator <;> simp [mux]
  obtain ⟨hpairwise, hids⟩ := StreamMux.opened_spec ops mux
  obtain ⟨-, hpeerIds⟩ := StreamMux.opened_spec peerOps peer
  refine ⟨keys_legal_iff hnext rfl, ?_, hpairwise.imp fun h => ne_of_lt h, ?_, ?_⟩
  · intro hlegal hparams hwire out hout pkt hpkt
    exact (exists_pack_iff zlib).mpr (packets_fit hnext rfl hparams hwire hlegal out hout pkt hpkt)
  · exact Mealy.along_of_forall (fun mux op sid h => (StreamMux.openedId_spec h).1) ops mux
  · intro sid hmem hpeer
    have hparity := (hids sid hmem).2
    have hpeerParity := (hpeerIds sid hpeer).2
    rw [hparity] at hpeerParity
    cases isInitiator <;> simp [mux, peer] at hpeerParity

/-- A message on the control stream, and more streams than there are odd numbers in a byte. -/
theorem stream_ids_not_legal :
    let mux : StreamMux := { sessionId := 7, isInitiator := true }
    let control : List MuxOp := [.send 0 [104, 105] 0]
    let many : List MuxOp := List.replicate 128 .openStream ++ [.send 257 [104, 105] 0]
    (∃ t ∈ Mealy.states StreamMux.apply mux control, 0 ∈ t.endpoints.keys) ∧
      257 ∈ StreamMux.opened mux many ∧
      ∃ out ∈ (Mealy.run StreamMux.apply mux many).1, ∃ pkt ∈ out.packets,
        pkt.pack zlibCrc32 = none := by
  intro mux control many
  have hcontrol : 0 ∈ (mux.apply (.send 0 [104, 105] 0)).2.endpoints.keys := by
    decide +kernel
  have hlast : (((Mealy.run StreamMux.apply mux many).1.flatMap fun out => out.packets).any
      fun pkt => 256 ≤ pkt.streamId) = true := by
    decide +kernel
  refine ⟨⟨_, by simp [Mealy.states, control], hcontrol⟩, by decide +kernel, ?_⟩
  obtain ⟨pkt, hmem, hlarge⟩ := List.any_eq_true.mp hlast
  obtain ⟨out, hout, hpkt⟩ := List.mem_flatMap.mp hmem
  refine ⟨out, hout, pkt, hpkt, ?_⟩
  by_contra hpack
  obtain ⟨raw, hraw⟩ := Option.ne_none_iff_exists'.mp hpack
  have hfits := (exists_pack_iff zlibCrc32).mp ⟨raw, hraw⟩
  have := of_decide_eq_true hlarge
  have := hfits.streamId
  omega

end PhotonTCP
