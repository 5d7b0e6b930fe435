import PhotonTCP.Reliability.Arq

/-!
# The stream multiplexer

One endpoint for each application stream, made the first time the stream is used.  Stream `0`
belongs to the control plane and is never routed here.

* `StreamMux` — the table of endpoints.  `freshRto` is what `rto_factory` returns: a new estimator
  with the same configuration each time.
* `endpoint` — the implicit open; it raises what the endpoint's constructor raises.
* `openStream`, `send`, `onPacket`, `onTick`, `setSessionId` — the operations.
* `freeId_not_mem` — the search for a free id ends before its bound.

An endpoint is made by the first operation on its stream, whichever that is.  A packet for a stream
that nobody has opened makes one too, unless it is for stream `0`, so the table is filled by the
peer as well as by the application; the two parities of `open_stream` keep the ids apart that both
sides choose, and nothing else does.  An operation may raise even so, namely when the window or the
payload limit is not positive: the constructor of the multiplexer does not look at these, and the
constructor of the endpoint does.

The estimator of a new endpoint comes from a factory.  The one that a session passes returns a fresh
copy of a template at every call, so it is modelled by what it returns.
-/

namespace PhotonTCP

open ArqEndpoint

/-- Control-plane stream. -/
def CONTROL_STREAM_ID : ℤ := 0

/-- Stream of the legacy `send()` / `recv()` path. -/
def DEFAULT_STREAM_ID : ℤ := 1

/-- The result of an operation.  A stream is a key of `delivered` only when it delivered
something. -/
structure MuxOutput where
  packets : List Packet := []
  delivered : Dict ℤ (List Bytes) := Dict.empty
  failedStreams : List ℤ := []

/-- The endpoints of a session. -/
structure StreamMux where
  sessionId : ℤ
  isInitiator : Bool
  windowSize : ℤ := 32
  maxPayload : ℤ := 200
  freshRto : RtoEstimator := {}
  endpoints : Dict ℤ ArqEndpoint := Dict.empty
  nextOpenId : ℤ := if isInitiator then 3 else 2

namespace StreamMux

variable (mux : StreamMux)

/-! ## Introspection

What callers may ask without changing anything.
-/

/-- Acknowledged bytes of a stream; `0` if it is unknown. -/
def ackedBytes (streamId : ℤ) : ℕ :=
  match mux.endpoints.get? streamId with
  | some ep => ep.ackedBytes
  | none => 0

/-- Ids of the streams whose endpoint has failed, in ascending order. -/
def failedStreamIds : List ℤ :=
  ((mux.endpoints.entries.filter fun e => e.2.failed).map Prod.fst).mergeSort (· ≤ ·)

/-! ## Endpoints

Numbering starts at `0` in both directions on every stream, since no handshake negotiates a number
for it.
-/

/-- A new endpoint for a stream. -/
def newEndpoint (streamId : ℤ) : Except ValueError ArqEndpoint :=
  ArqEndpoint.create mux.sessionId 0 mux.windowSize mux.freshRto mux.maxPayload 0 streamId

/-- The table after the endpoint of a stream has changed. -/
def update (streamId : ℤ) (ep : ArqEndpoint) : StreamMux :=
  { mux with endpoints := mux.endpoints.set streamId ep }

lemma update_eq_self {mux : StreamMux} {streamId : ℤ} {ep : ArqEndpoint}
    (h : mux.endpoints.get? streamId = some ep) : mux.update streamId ep = mux := by
  rw [update, Dict.set_eq_self h]

/-- The endpoint of a stream, made on first use. -/
def endpoint (streamId : ℤ) : Except ValueError (ArqEndpoint × StreamMux) :=
  match mux.endpoints.get? streamId with
  | some ep => .ok (ep, mux)
  | none =>
      match mux.newEndpoint streamId with
      | .error e => .error e
      | .ok ep => .ok (ep, mux.update streamId ep)

/-- What the endpoint's constructor checks of the parameters. -/
def Usable : Prop := 1 ≤ mux.windowSize ∧ 1 ≤ mux.maxPayload

variable {mux} in
lemma newEndpoint_eq_ok_iff {streamId : ℤ} :
    (∃ ep, mux.newEndpoint streamId = .ok ep) ↔ mux.Usable := by
  constructor
  · rintro ⟨ep, h⟩
    obtain ⟨hw, hp, -, -⟩ := create_eq_ok_iff.mp h
    exact ⟨hw, hp⟩
  · rintro ⟨hw, hp⟩
    exact ⟨_, create_eq_ok_iff.mpr ⟨hw, hp, by decide, rfl⟩⟩

/-- The endpoint of a stream is there, or is made, or cannot be made. -/
theorem endpoint_cases (streamId : ℤ) :
    (∃ ep, mux.endpoint streamId = .ok (ep, mux.update streamId ep) ∧
      (mux.endpoints.get? streamId = some ep ∨
        streamId ∉ mux.endpoints.keys ∧ mux.Usable ∧ mux.newEndpoint streamId = .ok ep)) ∨
    (∃ e, mux.endpoint streamId = .error e ∧ streamId ∉ mux.endpoints.keys ∧ ¬ mux.Usable) := by
  rw [endpoint]
  cases hget : mux.endpoints.get? streamId with
  | some ep => exact .inl ⟨ep, by rw [update_eq_self hget], .inl rfl⟩
  | none =>
      have hnew := Dict.get?_eq_none_iff.mp hget
      cases hmake : mux.newEndpoint streamId with
      | ok ep => exact .inl ⟨ep, rfl, .inr ⟨hnew, newEndpoint_eq_ok_iff.mp ⟨ep, hmake⟩, rfl⟩⟩
      | error e =>
          refine .inr ⟨e, rfl, hnew, fun husable => ?_⟩
          obtain ⟨ep, hep⟩ := newEndpoint_eq_ok_iff.mpr husable
          rw [hmake] at hep
          cases hep

/-! ## Operations

Each of them asks for the endpoint, lets it work, and puts it back; a tick goes through all
endpoints in the order in which they were made.
-/

/-- The first id from `sid` on, in steps of two, that is not taken. -/
def freeId (taken : List ℤ) : ℕ → ℤ → ℤ
  | 0, sid => sid
  | fuel + 1, sid => if sid ∈ taken then freeId taken fuel (sid + 2) else sid

/-- Allocate a stream. -/
def openStream : Except ValueError ℤ × StreamMux :=
  let sid := freeId mux.endpoints.keys mux.endpoints.size mux.nextOpenId
  match mux.endpoint sid with
  | .error e => (.error e, mux)
  | .ok (_, mux) => (.ok sid, { mux with nextOpenId := sid + 2 })

/-- Queue `data` on a stream. -/
def send (streamId : ℤ) (data : Bytes) (now : ℚ) : Except ValueError MuxOutput × StreamMux :=
  match mux.endpoint streamId with
  | .error e => (.error e, mux)
  | .ok (ep, mux) =>
      let (result, ep) := ep.send data now
      (.ok { packets := result.packets }, mux.update streamId ep)

/-- With usable parameters no send raises. -/
lemma Usable.send_ok {mux : StreamMux} (h : mux.Usable) (streamId : ℤ) (data : Bytes) (now : ℚ) :
    ∃ out, (mux.send streamId data now).1 = .ok out := by
  rw [send]
  rcases mux.endpoint_cases streamId with ⟨ep, hopen, -⟩ | ⟨e, -, -, hunusable⟩
  · rw [hopen]
    exact ⟨_, rfl⟩
  · exact absurd h hunusable

/-- What a stream's result adds to the multiplexer's. -/
def collect (streamId : ℤ) (result : ArqOutput) : MuxOutput where
  packets := result.packets
  delivered :=
    if result.delivered = [] then Dict.empty else Dict.empty.set streamId result.delivered
  failedStreams := if ArqEvent.SendFailed ∈ result.events then [streamId] else []

/-- Route a packet to its stream's endpoint. -/
def onPacket (pkt : Packet) (now : ℚ) : Except ValueError MuxOutput × StreamMux :=
  if pkt.streamId = CONTROL_STREAM_ID then (.ok {}, mux)
  else
    match mux.endpoint pkt.streamId with
    | .error e => (.error e, mux)
    | .ok (ep, mux) =>
        match ep.onPacket pkt now with
        | (.error e, ep) => (.error e, mux.update pkt.streamId ep)
        | (.ok result, ep) => (.ok (collect pkt.streamId result), mux.update pkt.streamId ep)

/-- Run every stream's timers. -/
def onTick (now : ℚ) : MuxOutput × StreamMux :=
  ({ packets := mux.endpoints.entries.flatMap fun e => (e.2.onTick now).1.packets
     failedStreams := (mux.endpoints.entries.filter fun e =>
       ArqEvent.SendFailed ∈ (e.2.onTick now).1.events).map Prod.fst },
    { mux with endpoints := mux.endpoints.mapValues fun ep => (ep.onTick now).2 })

/-- Adopt a session id, and hand it to all endpoints. -/
def setSessionId (sid : ℤ) : StreamMux :=
  { mux with
    sessionId := sid
    endpoints := mux.endpoints.mapValues fun ep => { ep with sessionId := sid } }

/-- What the caller sees: nothing, when the operation raises. -/
def observed : Except ValueError MuxOutput → MuxOutput
  | .ok out => out
  | .error _ => {}

/-! ## The bound of the search

The loop of `open_stream` runs until it finds an id that is not taken.  As many rounds as there are
streams suffice.
-/

/-- **The search for a free id finds one**: each taken id it passes is one fewer ahead of it. -/
theorem freeId_not_mem {taken : List ℤ} : ∀ {fuel : ℕ} {sid : ℤ},
    (taken.toFinset.filter fun k => sid ≤ k).card ≤ fuel → freeId taken fuel sid ∉ taken := by
  intro fuel
  induction fuel with
  | zero =>
      intro sid h hmem
      have hpos : 0 < (taken.toFinset.filter fun k => sid ≤ k).card :=
        Finset.card_pos.mpr ⟨sid, Finset.mem_filter.mpr ⟨List.mem_toFinset.mpr hmem, le_rfl⟩⟩
      omega
  | succ fuel ih =>
      intro sid h
      rw [freeId]
      split_ifs with htaken
      · refine ih (Nat.le_of_lt_succ (lt_of_lt_of_le (Finset.card_lt_card ?_) h))
        refine (Finset.ssubset_iff_of_subset ?_).mpr ⟨sid, ?_, ?_⟩
        · intro k hk
          rw [Finset.mem_filter] at hk ⊢
          exact ⟨hk.1, by omega⟩
        · exact Finset.mem_filter.mpr ⟨List.mem_toFinset.mpr htaken, le_rfl⟩
        · intro hk
          have := (Finset.mem_filter.mp hk).2
          omega
      · exact htaken

/-- The id that `openStream` allocates is new. -/
theorem openStream_free :
    freeId mux.endpoints.keys mux.endpoints.size mux.nextOpenId ∉ mux.endpoints.keys := by
  refine freeId_not_mem ?_
  calc (mux.endpoints.keys.toFinset.filter fun k => mux.nextOpenId ≤ k).card
      ≤ mux.endpoints.keys.toFinset.card := Finset.card_filter_le ..
    _ ≤ mux.endpoints.keys.length := List.toFinset_card_le _
    _ = mux.endpoints.size := List.length_map ..

end StreamMux

end PhotonTCP
