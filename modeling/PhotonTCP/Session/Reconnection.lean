import PhotonTCP.Session.Calls
import PhotonTCP.Session.ControlLink
import PhotonTCP.Session.Sound
import PhotonTCP.Stream.Pair

/-!
# A responder that is used again

A responder that has returned to `CLOSED` accepts the SYN of another initiator.  Its machine begins
anew, but its multiplexer keeps the endpoints of the last connection, and a new initiator numbers
its chunks from `0`.

* `Reconnection` — a new initiator and a used responder, with what was sent and taken on a stream.
* `Mirrored` — a session and its endpoint for the stream.
* `Conveys`, **`Conveys.next`** — whatever the two sessions are called to do, the two endpoints
  carry a transfer on.
* **`reconnected`** — what was delivered and acknowledged, if the responder had received nothing on
  the stream before; `discarded` is a run in which it had.

Everything a responder has been through is arbitrary here, including operations that raised.  Only
two things of its past matter on a stream: what it still buffers for its application, and where its
endpoint stands.  If the endpoint has never received anything it stands at the number with which the
new initiator begins, whatever it may have sent or acknowledged itself, and the two are a matching
pair.  If it has received something it expects a later number, takes the first chunks for
duplicates, and acknowledges them.

A session mirrors an endpoint.  What the session does on the stream is what the endpoint would do by
itself, and what it transmits on the stream the endpoint has emitted; the transport from one to the
other passes through packing and unpacking, and through the frames of the run.  Frames of earlier
connections are not among these: of the responder's frames those count that it transmits from now
on.
-/

namespace PhotonTCP

open ArqEndpoint Raising

/-! ## Packets of the machine

So no control packet is ever mistaken for one of the stream.
-/

namespace SessionStateMachine

variable {m : SessionStateMachine}

/-- The machine keeps to the control stream. -/
theorem streamId_apply (h : ∀ p ∈ m.pendingCtrl, p.streamId = CONTROL_STREAM_ID) (i : MachineInput) :
    (∀ p ∈ (m.apply i).1.packets, p.streamId = CONTROL_STREAM_ID) ∧
      ∀ p ∈ (m.apply i).2.pendingCtrl, p.streamId = CONTROL_STREAM_ID := by
  cases i with
  | connect now =>
      simp only [apply, connect]
      split_ifs
      · exact ⟨by simp, h⟩
      · simp [armPending, synPacket, make, CONTROL_STREAM_ID]
  | close now =>
      simp only [apply, close]
      split_ifs
      · exact ⟨by simp, h⟩
      · simp [armPending, finPacket, make, CONTROL_STREAM_ID]
  | noteDataActivity now =>
      simp only [apply, noteDataActivity]
      split_ifs <;> exact ⟨by simp, h⟩
  | packet pkt now =>
      simp only [apply, onPacket]
      split_ifs
      · exact ⟨by simp, h⟩
      · simp [acceptSyn, armPending, synAckPacket, make, CONTROL_STREAM_ID]
      · simp only [dispatch]
        split
        · simp [acceptSynAck, clearPending, ackPacket, make, CONTROL_STREAM_ID]
        · simp [acceptAck, clearPending]
        · exact ⟨by simp [repeatAck, ackPacket, make, CONTROL_STREAM_ID], h⟩
        · simp [autoClose, armPending, finAckPacket, finPacket, make, CONTROL_STREAM_ID]
        · simp only [finWaitFinAck]
          split_ifs <;> simp [clearPending]
        · simp only [finWaitFin]
          split_ifs <;> exact ⟨by simp [finAckPacket, make, CONTROL_STREAM_ID], h⟩
        · simp [closeWaitFinAck, clearPending]
        · exact ⟨by simp, h⟩
  | tick now =>
      simp only [apply, onTick, heartbeat]
      cases hp : m.pendingCtrl with
      | none =>
          dsimp only
          split_ifs <;> simp [idleOut, clearPending, hp, make, CONTROL_STREAM_ID]
      | some pkt =>
          have hpkt := h pkt hp
          dsimp only
          split_ifs <;> simp [idleOut, giveUp, retransmit, clearPending, hp, hpkt, make,
            CONTROL_STREAM_ID]

end SessionStateMachine

/-! ## Sessions, and what they do on one stream

What a call has to do with one stream: what it sends there, what it takes from there, and whether
what it sends is in turn.
-/

namespace Session

/-- A session as it is constructed, with parameters that its endpoints accept. -/
def New (isInitiator : Bool) (s : Session) : Prop :=
  s.mux.Usable ∧ ∃ sessionId isn heartbeatInterval idleTimeout arqWindowSize arqMaxPayload rto
    controlRto maxControlRetries, s = create isInitiator sessionId isn heartbeatInterval idleTimeout
      arqWindowSize arqMaxPayload rto controlRto maxControlRetries

/-- A responder that has been used, whatever it was called to do and whatever it has heard. -/
def Used (zlib : Bytes → ℕ) (s : Session) : Prop :=
  ∃ new : Session, new.New false ∧ ∃ calls : List SessionCall, calls.foldl (called zlib) new = s

variable (s : Session) (k : ℤ)

/-- What waits to be taken. -/
def buffered : List Bytes := (s.recvBuffers.get? k).getD []

/-- Nothing has been received: there is no endpoint, or it expects number `0` and holds nothing. -/
def Unheard : Prop :=
  ∀ ep ∈ s.mux.endpoints.get? k, ep.rcvBase = 0 ∧ ep.reorder = Dict.empty

/-- What a call sends. -/
def sends : SessionCall → List Bytes
  | .sendOn streamId data _ =>
      if s.machine.state = .Established ∧ streamId = k then [data] else []
  | _ => []

/-- Its chunks. -/
def chunkCount (call : SessionCall) : ℕ :=
  ((s.sends k call).map fun data => (chunks s.mux.maxPayload.toNat data).length).sum

/-- What a call takes. -/
def takes : SessionCall → List Bytes
  | .recvOn streamId => if streamId = k then s.buffered k else []
  | .recvAll => s.buffered k
  | _ => []

/-- What is sent is not sent past a queue. -/
def InTurn (call : SessionCall) : Prop :=
  ∀ data ∈ s.sends k call, data ≠ [] →
    ∀ ep ∈ s.mux.endpoints.get? k, ep.pending = [] ∨ ¬ ep.canSend

instance : Decidable (s.Unheard k) := inferInstanceAs (Decidable (∀ ep ∈ _, _))

instance (call : SessionCall) : Decidable (s.InTurn k call) :=
  inferInstanceAs (Decidable (∀ data ∈ _, _))

end Session

/-! ## The system

Two sessions and the frames that each has transmitted.
-/

/-- An initiator and a responder, what the initiator has sent on a stream and in how many chunks,
and what was taken off it at the other end. -/
structure Reconnection where
  initiator : Session
  responder : Session
  sent : List Bytes := []
  chunksSent : ℕ := 0
  taken : List Bytes := []

namespace Reconnection

variable (zlib : Bytes → ℕ) (k : ℤ)

/-- The session of a side. -/
def session (c : Reconnection) : Side → Session
  | .Initiator => c.initiator
  | .Responder => c.responder

/-- The frames of a cycle are frames that the other side has transmitted. -/
def enabled (c : Reconnection) : Side × SessionCall → Prop
  | (side, .pump _ frames _ _) => ∀ f ∈ frames, f.1 ∈ (c.session side.peer).transmitted
  | _ => True

/-- One call of either side. -/
def next (c : Reconnection) : Side × SessionCall → Reconnection
  | (.Initiator, call) =>
      { c with
        initiator := c.initiator.called zlib call
        sent := c.sent ++ c.initiator.sends k call
        chunksSent := c.chunksSent + c.initiator.chunkCount k call }
  | (.Responder, call) =>
      { c with
        responder := c.responder.called zlib call
        taken := c.taken ++ c.responder.takes k call }

/-- The two sessions, and a channel that loses, duplicates, delays and reorders frames. -/
def system : Transition Reconnection (Side × SessionCall) := ⟨enabled, next zlib k⟩

/-- Nothing is sent past a queue, and fewer than `2 ^ 31` chunks are sent. -/
def Orderly (c : Reconnection) : Side × SessionCall → Prop
  | (.Initiator, call) =>
      c.initiator.InTurn k call ∧ c.chunksSent + c.initiator.chunkCount k call < 2 ^ 31
  | (.Responder, _) => True

instance (c : Reconnection) : (act : Side × SessionCall) → Decidable (c.enabled act)
  | (side, .pump _ frames _ _) =>
      inferInstanceAs (Decidable (∀ f ∈ frames, f.1 ∈ (c.session side.peer).transmitted))
  | (_, .connect _) | (_, .close _) | (_, .openStream) | (_, .sendOn _ _ _) | (_, .recvOn _)
  | (_, .recvAll) => isTrue trivial

instance (c : Reconnection) (act : Side × SessionCall) : Decidable ((system zlib k).enabled c act) :=
  inferInstanceAs (Decidable (c.enabled act))

instance (c : Reconnection) : (act : Side × SessionCall) → Decidable (c.Orderly k act)
  | (.Initiator, _) => inferInstanceAs (Decidable (_ ∧ _))
  | (.Responder, _) => isTrue trivial

/-- The initiator is new.  Of the responder's frames those of earlier connections do not count. -/
def start (initiator responder : Session) : Reconnection where
  initiator := initiator
  responder := { responder with transmitted := [] }

/-- What the responder has delivered: what was taken and what waits. -/
def delivered (c : Reconnection) : List Bytes := c.taken ++ c.responder.buffered k

end Reconnection

/-! ## A session and its endpoint

One lemma for each kind of work of the engines.
-/

section Mirrored

variable {zlib : Bytes → ℕ} {k : ℤ} {s s' : Session} {ep : ArqEndpoint} {emitted : List Packet}

/-- The session's endpoint for the stream is `ep`, and what the session has transmitted on the
stream was emitted by it. -/
structure Mirrored (zlib : Bytes → ℕ) (k : ℤ) (s : Session) (ep : ArqEndpoint)
    (emitted : List Packet) : Prop where
  projects : Projects k s.mux ep
  configured : Configured s.mux ep
  control : ∀ p ∈ s.machine.pendingCtrl, p.streamId = CONTROL_STREAM_ID
  transmitted : ∀ frame ∈ s.transmitted, ∀ pkt, Packet.unpack zlib frame = .ok pkt →
    pkt.streamId = k → pkt ∈ emitted

namespace Mirrored

lemma congr (h : Mirrored zlib k s ep emitted) (hmachine : s'.machine = s.machine)
    (hmux : s'.mux = s.mux) (htransmitted : s'.transmitted = s.transmitted) :
    Mirrored zlib k s' ep emitted :=
  ⟨hmux ▸ h.projects, hmux ▸ h.configured, hmachine ▸ h.control, htransmitted ▸ h.transmitted⟩

/-- A frame that has been transmitted. -/
lemma transmits (h : Mirrored zlib k s ep emitted) {pkts : List Packet} {emitted' : List Packet}
    (hold : emitted ⊆ emitted') (hnew : ∀ p ∈ pkts, p.streamId = k → p ∈ emitted')
    {frame : Bytes} (hframe : frame ∈ (s.transmits zlib (Session.fitting pkts)).transmitted)
    {pkt : Packet} (hunpack : Packet.unpack zlib frame = .ok pkt) (hstream : pkt.streamId = k) :
    pkt ∈ emitted' := by
  rcases List.mem_append.mp hframe with hmem | hmem
  · exact hold (h.transmitted frame hmem pkt hunpack hstream)
  · obtain ⟨p, hp, rfl⟩ := List.mem_map.mp hmem
    obtain ⟨hp, hfits⟩ := Session.mem_fitting hp
    rw [unpack_packed hfits] at hunpack
    obtain rfl := Except.ok.inj hunpack
    exact hnew p hp hstream

/-- The machine does nothing on the stream. -/
theorem reacts (h : Mirrored zlib k s ep emitted) (hk : k ≠ 0) (i : MachineInput) :
    Mirrored zlib k (s.reacts zlib i) ep emitted := by
  obtain ⟨hpackets, hpending⟩ := SessionStateMachine.streamId_apply h.control i
  refine ⟨h.projects, h.configured, hpending, fun frame hframe pkt hunpack hstream => ?_⟩
  refine h.transmits (List.Subset.refl _) (fun p hp hpk => ?_) hframe hunpack hstream
  exact absurd (hpk.symm.trans (hpackets p hp)) hk

/-- **The multiplexer does what the endpoint does.** -/
theorem works (h : Mirrored zlib k s ep emitted) (hk : k ≠ 0) (op : MuxOp) :
    Mirrored zlib k (s.works zlib op) (ep.applyFor k op).2
      (emitted ++ (ep.applyFor k op).1.packets) := by
  obtain ⟨hview, hprojects⟩ := h.projects.apply hk op
  refine ⟨hprojects, h.configured.apply op, h.control, fun frame hframe pkt hunpack hstream => ?_⟩
  refine h.transmits (List.subset_append_left _ _) (fun p hp hpk => ?_) hframe hunpack hstream
  have hpackets : (s.mux.apply op).1.packets.filter (fun p => p.streamId = k)
      = (ep.applyFor k op).1.packets := congrArg Prod.fst hview
  rw [← hpackets]
  exact List.mem_append_right _ (List.mem_filter.mpr ⟨hp, decide_eq_true hpk⟩)

/-- **What the endpoint delivers is buffered.** -/
theorem buffered_works (h : Mirrored zlib k s ep emitted) (hk : k ≠ 0)
    (hwindow : s.mux.windowSize < 65536) {op : MuxOp}
    (hbase : 0 ≤ (ep.applyFor k op).2.rcvBase ∧ (ep.applyFor k op).2.rcvBase < 2 ^ 32)
    (hop : ∀ pkt now, op = .onPacket pkt now → pkt.FitsHeader) :
    (s.works zlib op).buffered k = s.buffered k ++ (ep.applyFor k op).1.delivered := by
  have hdelivered : ((s.mux.apply op).1.delivered.get? k).getD [] = (ep.applyFor k op).1.delivered :=
    congrArg (fun view => view.2.1) (h.projects.apply hk op).1
  rw [Session.buffered, Session.works]
  dsimp only
  split_ifs with hfits
  · rw [Session.get?_extend, hdelivered]
    rfl
  · have hnone : (ep.applyFor k op).1.delivered = [] := by
      by_contra hdelivers
      exact hfits (h.projects.fits_of_delivers hk h.configured hwindow hbase hop hdelivers)
    rw [hnone, List.append_nil]
    rfl

/-- A new session. -/
lemma new {isInitiator : Bool} (h : s.New isInitiator) :
    ∃ ep, s.mux.newEndpoint k = .ok ep ∧ Mirrored zlib k s ep [] := by
  obtain ⟨ep, hep⟩ : ∃ ep, s.mux.newEndpoint k = .ok ep :=
    StreamMux.newEndpoint_eq_ok_iff.mpr h.1
  obtain ⟨-, _, _, _, _, _, _, _, _, _, rfl⟩ := h
  exact ⟨ep, hep, Projects.start hep rfl, Configured.create hep, by simp [Session.create],
    by simp [Session.create]⟩

/-- **A used session has an endpoint for the stream, whatever it was used for.** -/
theorem used (h : s.Used zlib) (hk : k ≠ 0) : ∃ ep emitted, Mirrored zlib k s ep emitted := by
  obtain ⟨new, hnew, calls, rfl⟩ := h
  have hstart : ∃ ep emitted, Mirrored zlib k new ep emitted := by
    obtain ⟨ep, -, h⟩ : ∃ ep, new.mux.newEndpoint k = .ok ep ∧ Mirrored zlib k new ep [] :=
      Mirrored.new hnew
    exact ⟨ep, [], h⟩
  clear hnew
  induction calls generalizing new with
  | nil => exact hstart
  | cons call calls ih =>
      refine ih (new.called zlib call) (Session.called_invariant
        (I := fun s => ∃ ep emitted, Mirrored zlib k s ep emitted) ?_ ?_ ?_ hstart call)
      · rintro s i ⟨ep, emitted, h⟩
        exact ⟨ep, emitted, h.reacts hk i⟩
      · rintro s op ⟨ep, emitted, h⟩
        exact ⟨_, _, h.works hk op⟩
      · rintro s recvBuffers ⟨ep, emitted, h⟩
        exact ⟨ep, emitted, h.congr rfl rfl rfl⟩

end Mirrored

end Mirrored

/-! ## The two sessions carry a transfer

As the network of two endpoints does, of which every step of the two sessions is one step or none.
-/

/-- The two endpoints of the stream carry the transfer `t`, and the responder has delivered it
behind what it had delivered before. -/
structure Conveys (zlib : Bytes → ℕ) (k : ℤ) (old : List Bytes) (c : Reconnection) (net : ArqNetwork)
    (t : Transfer) : Prop where
  initiator : Mirrored zlib k c.initiator net.a net.emittedA
  responder : Mirrored zlib k c.responder net.b net.emittedB
  carrying : Carrying 0 net t
  inOrder : InOrder net t
  window : c.responder.mux.windowSize < 65536
  sent : net.sent = c.sent
  chunksSent : net.chunksSent = c.chunksSent
  delivered : c.delivered k = old ++ net.delivered

namespace Conveys

variable {zlib : Bytes → ℕ} {k : ℤ} {old : List Bytes} {c : Reconnection} {net : ArqNetwork}
  {t : Transfer} {call : SessionCall}

/-- The packet is on the wire. -/
def Heard (zlib : Bytes → ℕ) (s : Session) (pkt : Packet) : Prop :=
  ∃ frame ∈ s.transmitted, Packet.unpack zlib frame = .ok pkt

/-- The initiator's multiplexer works, but does not send on the stream. -/
lemma worksA (h : Conveys zlib k old c net t) (hk : k ≠ 0) (op : MuxOp)
    (hheard : ∀ pkt now, op = .onPacket pkt now → Heard zlib c.responder pkt)
    (hsend : ∀ streamId data now, op = .send streamId data now → streamId ≠ k) :
    ∃ net' t', Conveys zlib k old { c with initiator := c.initiator.works zlib op } net' t' ∧
      net'.a = (net.a.applyFor k op).2 := by
  obtain ⟨clock, t', hcarrying, horder⟩ := h.carrying.operateA h.inOrder (fun pkt now hop hstream => by
    obtain ⟨frame, hmem, hunpack⟩ := hheard pkt now hop
    exact h.responder.transmitted frame hmem pkt hunpack hstream) hsend
  exact ⟨net.operateA k op clock, t', ⟨h.initiator.works hk op, h.responder, hcarrying, horder,
    h.window, h.sent, h.chunksSent, h.delivered⟩, rfl⟩

/-- The responder's multiplexer works. -/
lemma worksB (h : Conveys zlib k old c net t) (hk : k ≠ 0) (op : MuxOp)
    (hheard : ∀ pkt now, op = .onPacket pkt now → Heard zlib c.initiator pkt) :
    ∃ net' t', Conveys zlib k old { c with responder := c.responder.works zlib op } net' t' := by
  obtain ⟨clock, t', hcarrying, horder⟩ := h.carrying.operateB h.inOrder (fun pkt now hop hstream => by
    obtain ⟨frame, hmem, hunpack⟩ := hheard pkt now hop
    exact h.initiator.transmitted frame hmem pkt hunpack hstream)
  have hbase : 0 ≤ (net.b.applyFor k op).2.rcvBase ∧ (net.b.applyFor k op).2.rcvBase < 2 ^ 32 := by
    have hreceiver : (net.b.applyFor k op).2.rcvBase = seqOf 0 t'.received := hcarrying.receiver.rcvBase
    rw [hreceiver]
    exact seqOf_bounds _ _
  have hbuffered := h.responder.buffered_works hk h.window hbase fun pkt now hop => by
    obtain ⟨frame, -, hunpack⟩ := hheard pkt now hop
    exact Session.fitsHeader_of_unpack hunpack
  have hwindow : (c.responder.mux.apply op).2.windowSize = c.responder.mux.windowSize := by
    obtain ⟨sessionId, endpoints, hframe⟩ := c.responder.mux.apply_frame op
    rw [hframe]
  refine ⟨net.operateB k op clock, t', ⟨h.initiator, h.responder.works hk op, hcarrying, horder, ?_,
    h.sent, h.chunksSent, ?_⟩⟩
  · show (c.responder.mux.apply op).2.windowSize < 65536
    rw [hwindow]
    exact h.window
  · show c.taken ++ (c.responder.works zlib op).buffered k
      = old ++ (net.delivered ++ (net.b.applyFor k op).1.delivered)
    rw [hbuffered, ← List.append_assoc, ← List.append_assoc, ← h.delivered, Reconnection.delivered]

/-- **What the initiator does when it does not send keeps the transfer.** -/
theorem steadyA (hk : k ≠ 0) : Session.Steady zlib (Heard zlib c.responder) fun s =>
    ∃ net t, Conveys zlib k old { c with initiator := s } net t where
  reacts := by
    rintro s i ⟨net, t, h⟩ -
    exact ⟨net, t, { h with initiator := h.initiator.reacts hk i }⟩
  works := by
    rintro s op ⟨net, t, h⟩ hheard hsend
    obtain ⟨net', t', h', -⟩ := h.worksA hk op hheard fun streamId data now hop =>
      absurd hop (hsend streamId data now)
    exact ⟨net', t', h'⟩

/-- **What the responder does keeps the transfer.** -/
theorem steadyB (hk : k ≠ 0) : Session.Steady zlib (Heard zlib c.initiator) fun s =>
    ∃ net t, Conveys zlib k old { c with responder := s } net t where
  reacts := by
    rintro s i ⟨net, t, h⟩ -
    exact ⟨net, t, { h with responder := h.responder.reacts hk i }⟩
  works := by
    rintro s op ⟨net, t, h⟩ hheard -
    exact h.worksB hk op hheard

/-- The initiator's endpoint does not send past its queue. -/
lemma inTurn (h : Conveys zlib k old c net t) {data : Bytes}
    (hturn : data ≠ [] → ∀ ep ∈ c.initiator.mux.endpoints.get? k, ep.pending = [] ∨ ¬ ep.canSend)
    (hdata : data ≠ []) : net.a.pending = [] ∨ ¬ net.a.canSend := by
  cases hget : c.initiator.mux.endpoints.get? k with
  | some ep =>
      rw [← h.initiator.projects.known ep hget]
      exact hturn hdata ep hget
  | none =>
      obtain ⟨_, _, _, hfresh⟩ := create_eq_ok_iff.mp (h.initiator.projects.unknown hget)
      rw [hfresh]
      exact .inl rfl

/-- **The initiator sends.** -/
theorem sendOn (h : Conveys zlib k old c net t) (hk : k ≠ 0) {streamId : ℤ} {data : Bytes} {now : ℚ}
    (hok : c.Orderly k (.Initiator, .sendOn streamId data now)) :
    ∃ net t, Conveys zlib k old (c.next zlib k (.Initiator, .sendOn streamId data now)) net t := by
  obtain ⟨hturn, hbound⟩ := hok
  simp only [Reconnection.next, Session.called, Session.after_sendOn, Session.chunkCount,
    Session.sends, Session.InTurn] at hturn hbound ⊢
  by_cases hstate : c.initiator.machine.state = .Established
  · -- the session id is handed on, and the data is sent
    obtain ⟨net₁, t₁, h₁, ha⟩ := h.worksA hk (.setSessionId c.initiator.machine.sessionId)
      (by simp) (by simp)
    by_cases hstream : streamId = k
    · subst hstream
      simp only [hstate, and_self, if_true, List.mem_singleton, forall_eq, List.map_cons, List.map_nil,
        List.sum_singleton] at hturn hbound ⊢
      have hpast : data ≠ [] → net₁.a.pending = [] ∨ ¬ net₁.a.canSend := by
        rw [ha]
        exact h.inTurn hturn
      have hcount : net₁.chunkCount data
          = (chunks c.initiator.mux.maxPayload.toNat data).length := by
        rw [ArqNetwork.chunkCount, h₁.initiator.configured.maxPayload]
        rfl
      obtain ⟨t', hcarrying, horder⟩ := h₁.carrying.sends h₁.inOrder data now
        (by rw [h₁.chunksSent, hcount]; exact hbound) hpast
      have hsends := h₁.initiator.works hk (.send streamId data now)
      rw [applyFor, if_pos rfl] at hsends
      refine ⟨net₁.next (.sendA data now), t',
        ⟨hsends, h₁.responder, hcarrying, horder, h₁.window, ?_, ?_, h₁.delivered⟩⟩
      · show net₁.sent ++ [data] = c.sent ++ [data]
        rw [h₁.sent]
      · show net₁.chunksSent + net₁.chunkCount data = _
        rw [h₁.chunksSent, hcount]
    · obtain ⟨net₂, t₂, h₂, -⟩ := h₁.worksA hk (.send streamId data now) (by simp) (by
        rintro _ _ _ ⟨⟩
        exact hstream)
      simp only [hstate, hstream, and_false, if_true, if_false, List.append_nil, List.map_nil,
        List.sum_nil, Nat.add_zero]
      exact ⟨net₂, t₂, h₂⟩
  · simp only [hstate, false_and, if_false, List.append_nil, List.map_nil, List.sum_nil, Nat.add_zero]
    exact ⟨net, t, h⟩

/-- The initiator is called, but not to send on the stream. -/
lemma called_initiator (h : ∃ net t, Conveys zlib k old
      { c with initiator := c.initiator.called zlib call } net t)
    (hsends : c.initiator.sends k call = []) :
    ∃ net t, Conveys zlib k old (c.next zlib k (.Initiator, call)) net t := by
  rw [Reconnection.next, Session.chunkCount, hsends, List.append_nil]
  exact h

/-- The responder is called, but not to hand out what waits on the stream. -/
lemma called_responder (h : ∃ net t, Conveys zlib k old
      { c with responder := c.responder.called zlib call } net t)
    (htakes : c.responder.takes k call = []) :
    ∃ net t, Conveys zlib k old (c.next zlib k (.Responder, call)) net t := by
  rw [Reconnection.next, htakes, List.append_nil]
  exact h

/-- The responder hands something out. -/
lemma takes (h : Conveys zlib k old c net t) {recvBuffers : Dict ℤ (List Bytes)} {taken : List Bytes}
    (htaken : taken ++ (recvBuffers.get? k).getD [] = c.responder.buffered k) :
    ∃ net t, Conveys zlib k old
      { c with responder := { c.responder with recvBuffers }, taken := c.taken ++ taken } net t := by
  refine ⟨net, t, { h with responder := h.responder.congr rfl rfl rfl, delivered := ?_ }⟩
  show c.taken ++ taken ++ (recvBuffers.get? k).getD [] = _
  rw [List.append_assoc, htaken]
  exact h.delivered

/-- **Every step carries the transfer on.** -/
theorem next (h : Conveys zlib k old c net t) (hk : k ≠ 0) {act : Side × SessionCall}
    (he : c.enabled act) (hok : c.Orderly k act) :
    ∃ net t, Conveys zlib k old (c.next zlib k act) net t := by
  have hA : Session.Steady zlib (Heard zlib c.responder) fun s =>
      ∃ net t, Conveys zlib k old { c with initiator := s } net t := steadyA hk
  have hB : Session.Steady zlib (Heard zlib c.initiator) fun s =>
      ∃ net t, Conveys zlib k old { c with responder := s } net t := steadyB hk
  obtain ⟨side, call⟩ := act
  cases side with
  | Initiator =>
      cases call with
      | sendOn streamId data now => exact h.sendOn hk hok
      | connect now => exact called_initiator (hA.connect now _ ⟨net, t, h⟩) rfl
      | close now => exact called_initiator (hA.close now _ ⟨net, t, h⟩) rfl
      | openStream => exact called_initiator (hA.openStream _ ⟨net, t, h⟩) rfl
      | recvOn streamId =>
          exact called_initiator
            ⟨net, t, { h with initiator := h.initiator.congr rfl rfl rfl }⟩ rfl
      | recvAll =>
          exact called_initiator
            ⟨net, t, { h with initiator := h.initiator.congr rfl rfl rfl }⟩ rfl
      | pump maxFrames frames now now' =>
          exact called_initiator (hA.pump maxFrames
            (fun f hf pkt hunpack => ⟨f.1, he f hf, hunpack⟩) now now' _ ⟨net, t, h⟩) rfl
  | Responder =>
      cases call with
      | connect now => exact called_responder (hB.connect now _ ⟨net, t, h⟩) rfl
      | close now => exact called_responder (hB.close now _ ⟨net, t, h⟩) rfl
      | openStream => exact called_responder (hB.openStream _ ⟨net, t, h⟩) rfl
      | sendOn streamId data now =>
          refine called_responder ?_ rfl
          rw [Session.called, Session.after_sendOn]
          split_ifs
          · obtain ⟨net₁, t₁, h₁⟩ := h.worksB hk (.setSessionId c.responder.machine.sessionId)
              (by simp)
            exact h₁.worksB hk (.send streamId data now) (by simp)
          · exact ⟨net, t, h⟩
      | recvOn streamId =>
          refine h.takes ?_
          rw [Session.takes, Session.buffered]
          split_ifs with hstream
          · rw [hstream, Dict.get?_erase_self, Option.getD_none, List.append_nil]
          · rw [Dict.get?_erase_ne (Ne.symm hstream), List.nil_append]
      | recvAll =>
          refine h.takes ?_
          rw [Session.takes, Dict.get?_empty, Option.getD_none, List.append_nil]
      | pump maxFrames frames now now' =>
          exact called_responder (hB.pump maxFrames
            (fun f hf pkt hunpack => ⟨f.1, he f hf, hunpack⟩) now now' _ ⟨net, t, h⟩) rfl

/-- **A connection with a new initiator, on a stream on which nothing was received before.** -/
theorem start {initiator responder : Session} {isInitiator : Bool} (hnew : initiator.New isInitiator)
    (hused : ∃ ep emitted, Mirrored zlib k responder ep emitted)
    (hwindow : responder.mux.windowSize < 65536) (hunheard : responder.Unheard k) :
    ∃ net t, Conveys zlib k (responder.buffered k) (Reconnection.start initiator responder) net t := by
  obtain ⟨a, ha, hmirroredA⟩ : ∃ ep, initiator.mux.newEndpoint k = .ok ep ∧
    Mirrored zlib k initiator ep [] := Mirrored.new hnew
  obtain ⟨b, emitted, hmirroredB⟩ := hused
  have hbase : b.rcvBase = 0 ∧ b.reorder = Dict.empty := by
    cases hget : responder.mux.endpoints.get? k with
    | some ep =>
        rw [← hmirroredB.projects.known ep hget]
        exact hunheard ep hget
    | none =>
        obtain ⟨_, _, _, hfresh⟩ := create_eq_ok_iff.mp (hmirroredB.projects.unknown hget)
        rw [hfresh]
        exact ⟨rfl, rfl⟩
  have hstamped : Stamped b := by
    cases hget : responder.mux.endpoints.get? k with
    | some ep =>
        rw [← hmirroredB.projects.known ep hget]
        exact (hmirroredB.projects.stamped k ep hget).1
    | none => exact Stamped.create (hmirroredB.projects.unknown hget)
  have hreceiver : Receiver 0 [] 0 b :=
    ⟨le_rfl, hbase.1.trans (seqOf_zero le_rfl (by decide)).symm, by simp [hbase.2]⟩
  have hcarrying : Carrying 0 (ArqNetwork.start a b 0) Transfer.empty :=
    Carrying.begin le_rfl (by decide) ha hreceiver hstamped 0
  exact ⟨ArqNetwork.start a b 0, Transfer.empty, hmirroredA,
    ⟨hmirroredB.projects, hmirroredB.configured, hmirroredB.control, by simp [Reconnection.start]⟩,
    hcarrying, hcarrying.inOrder_start, hwindow, rfl, rfl, (List.append_nil _).symm⟩

end Conveys

/-! ## The new connection

From the used responder and the new initiator on.
-/

/-- **The data plane of a new connection.**  A responder, used in any way, meets a new initiator.
On a stream on which the responder has received nothing before, along every run in which the
initiator sends nothing past a queue: what the responder delivers from then on is a prefix of what
the initiator has sent, and no more is acknowledged than was delivered. -/
theorem reconnected {zlib : Bytes → ℕ} {k : ℤ} (hk : k ≠ 0) {initiator responder : Session}
    (hnew : initiator.New true) (hused : responder.Used zlib)
    (hwindow : responder.mux.windowSize < 65536) (hunheard : responder.Unheard k) {c : Reconnection}
    (h : (Reconnection.system zlib k).Reach (Reconnection.Orderly k)
      (Reconnection.start initiator responder) c) :
    ∃ new, c.delivered k = responder.buffered k ++ new ∧ new.flatten <+: c.sent.flatten ∧
      c.initiator.ackedBytes k ≤ new.flatten.length := by
  obtain ⟨net, t, hconveys⟩ : ∃ net t, Conveys zlib k (responder.buffered k) c net t :=
    h.invariant (I := fun c => ∃ net t, Conveys zlib k (responder.buffered k) c net t)
      (Conveys.start hnew (Mirrored.used hused hk) hwindow hunheard)
      fun _ _ ⟨_, _, hconveys⟩ he hok => hconveys.next hk he hok
  refine ⟨net.delivered, hconveys.delivered, ?_, ?_⟩
  · rw [← hconveys.sent]
    exact hconveys.carrying.delivered_prefix_sent hconveys.inOrder
  · rw [Session.ackedBytes, hconveys.initiator.projects.ackedBytes]
    exact hconveys.carrying.ackedBytes_le

/-! ## A connection before, and one after

The same two connections twice.  In the first run no data was sent in the former one, and in the
second a byte was.
-/

namespace Reconnection

/-- A frame that one of the two initiators transmits, or the responder. -/
def frame (type : PacketType) (sessionId streamId seq ack window : ℤ) (flags : ℕ)
    (payload : Bytes) : Bytes :=
  packed zlibCrc32 { type, sessionId, streamId, seq, ack, window, flags, payload }

/-- A DATA packet that was transmitted in the connection before. -/
def formerData : Bytes := frame .Data 7 1 0 0 32 Flags.none [7]

/-- A connection that the first initiator opens and closes, with its data frames in between. -/
def formerCalls (data : List Bytes) : List SessionCall :=
  [.pump none
      [(frame .Syn 7 0 1000 0 0 Flags.syn [], 0), (frame .Ack 7 0 1001 5001 0 Flags.ack [], 0)] 0 0,
    .pump none
      (data.map (fun f => (f, 0)) ++
        [(frame .Fin 7 0 1001 0 0 Flags.fin [], 0),
          (frame .FinAck 7 0 1001 5002 0 (Flags.fin ||| Flags.ack) [], 0)]) 0 0]

/-- A responder before its first connection. -/
def newResponder : Session := Session.create false 0 5000

/-- The responder after the connection. -/
def formerResponder (data : List Bytes) : Session :=
  (formerCalls data).foldl (Session.called zlibCrc32) newResponder

/-- The initiator of the connection that follows. -/
def latterInitiator : Session := Session.create true 8 2000

/-- It connects and sends a byte, which the responder acknowledges. -/
def latterRun : List (Side × SessionCall) :=
  [(.Initiator, .connect 1),
    (.Responder, .pump none [(frame .Syn 8 0 2000 0 0 Flags.syn [], 1)] 1 1),
    (.Initiator, .pump none [(frame .SynAck 8 0 5000 2001 0 (Flags.syn ||| Flags.ack) [], 1)] 1 1),
    (.Responder, .pump none [(frame .Ack 8 0 2001 5001 0 Flags.ack [], 1)] 1 1),
    (.Initiator, .sendOn 1 [42] 1),
    (.Responder, .pump none [(frame .Data 8 1 0 0 32 Flags.none [42], 1)] 1 1),
    (.Initiator, .pump none [(frame .Ack 8 1 0 1 32 Flags.none [], 1)] 1 1)]

/-- It is new. -/
lemma new_latterInitiator : latterInitiator.New true :=
  ⟨⟨by decide, by decide⟩, 8, 2000, _, _, _, _, _, _, _, rfl⟩

/-- It has been used. -/
lemma used_formerResponder (data : List Bytes) : (formerResponder data).Used zlibCrc32 :=
  ⟨newResponder, ⟨⟨by decide, by decide⟩, 0, 5000, _, _, _, _, _, _, _, rfl⟩, formerCalls data, rfl⟩

end Reconnection

open Reconnection

/-- The byte arrives, and is acknowledged. -/
theorem reconnected_latterRun : ∃ c : Reconnection, c.sent = [[42]] ∧
    c.initiator.ackedBytes 1 = 1 ∧
    ∃ new, c.delivered 1 = (formerResponder []).buffered 1 ++ new ∧
      new.flatten <+: c.sent.flatten ∧ c.initiator.ackedBytes 1 ≤ new.flatten.length := by
  obtain ⟨c, hreach, hsent, hacked⟩ := (system zlibCrc32 1).exists_reach_of_exec (Orderly 1) latterRun
    (start latterInitiator (formerResponder []))
    (fun c => c.sent = [[42]] ∧ c.initiator.ackedBytes 1 = 1) (by decide +kernel)
  exact ⟨c, hsent, hacked, reconnected (by decide) new_latterInitiator (used_formerResponder [])
    (by decide +kernel) (by decide +kernel) hreach⟩

/-- **A byte that is acknowledged and discarded**, because a byte was received before. -/
theorem discarded : latterInitiator.New true ∧ (formerResponder [formerData]).Used zlibCrc32 ∧
    (((formerCalls [formerData]).take 1).foldl (Session.called zlibCrc32) newResponder).machine.state
      = .Established ∧
    (formerResponder [formerData]).machine.state = .Closed ∧
    ∃ c : Reconnection, (system zlibCrc32 1).Reach (Orderly 1)
        (start latterInitiator (formerResponder [formerData])) c ∧
      c.responder.machine.state = .Established ∧ c.sent = [[42]] ∧
      c.delivered 1 = (formerResponder [formerData]).buffered 1 ∧
      c.initiator.ackedBytes 1 = 1 := by
  refine ⟨new_latterInitiator, used_formerResponder _, by decide +kernel, by decide +kernel, ?_⟩
  exact (system zlibCrc32 1).exists_reach_of_exec (Orderly 1) latterRun
    (start latterInitiator (formerResponder [formerData]))
    (fun c => c.responder.machine.state = .Established ∧ c.sent = [[42]] ∧
      c.delivered 1 = (formerResponder [formerData]).buffered 1 ∧ c.initiator.ackedBytes 1 = 1)
    (by decide +kernel)

end PhotonTCP
