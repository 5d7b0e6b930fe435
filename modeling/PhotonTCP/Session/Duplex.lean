import PhotonTCP.Reliability.Queue
import PhotonTCP.Session.Reconnection

/-!
# A stream between two sessions, both ways

Either session sends on the stream and takes what the other has sent.  A direction is a
`Reconnection` of which the receiving session is the responder, whatever the roles of the handshake
are.

* `StreamEnd` — a session, with what it has sent on the stream and what was taken off it.
* `Flows` — one direction carries a transfer; `Duplex` — both do, and no queued chunk is empty.
* **`Duplex.called`**, **`Duplex.pumped`** — whatever either session is called to do, if it sends
  nothing past its queue.
* **`Duplex.turn_of_taken`** — when the other end has taken all that was sent, the queue is empty.
* **`Duplex.sends`** — data that is sent in turn, or that is empty.
* **`Duplex.takes`** — an application pumps its session and takes what waits on the stream.
* **`Duplex.received_prefix`**, `Duplex.ackedBytes_le` — what a direction guarantees.

An application uses a stream in both directions, and the result it wants is one about what it has
sent and what it has been given, with no word about endpoints.  Each direction is known already: the
receiving session is treated as the responder of a connection, which for a new session means that it
has been used for nothing.  Both directions at once are more than the two of them, because a call
that sends in one direction is, for the other, a call like any other, and the same frames carry data
one way and acknowledgements the other.

What an application must not do is send past its own queue.  `turn_of_taken` is how applications
come to know that they do not: in a dialogue an end speaks after it has heard the answer to what it
said before, so what it said has been taken, and the queue is empty then.
-/

namespace PhotonTCP

open Raising

variable {zlib : Bytes → ℕ} {k : ℤ}

/-! ## The queue of a session

Through the mirrored endpoint, whose queue the session has.
-/

namespace Mirrored

variable {s : Session} {ep ep' : ArqEndpoint} {emitted emitted' : List Packet}

/-- A session has one endpoint for the stream. -/
lemma unique (h : Mirrored zlib k s ep emitted) (h' : Mirrored zlib k s ep' emitted') : ep = ep' := by
  cases hget : s.mux.endpoints.get? k with
  | some e => rw [← h.projects.known e hget, ← h'.projects.known e hget]
  | none => exact Except.ok.inj ((h.projects.unknown hget).symm.trans (h'.projects.unknown hget))

/-- The endpoint that the session sends with. -/
lemma inTurn (h : Mirrored zlib k s ep emitted) (hturn : ep.InTurn) (call : SessionCall) :
    s.InTurn k call := by
  intro data _ _ e he
  rw [h.projects.known e he]
  exact hturn

end Mirrored

namespace Session

variable {s s' : Session}

/-- The session's endpoint for the stream queues no empty chunk. -/
def Queues (zlib : Bytes → ℕ) (k : ℤ) (s : Session) : Prop :=
  ∃ ep emitted, Mirrored zlib k s ep emitted ∧ ep.Whole

/-- What is sent on the stream now passes no queue. -/
def Turn (zlib : Bytes → ℕ) (k : ℤ) (s : Session) : Prop :=
  ∃ ep emitted, Mirrored zlib k s ep emitted ∧ ep.InTurn

lemma Queues.new {isInitiator : Bool} (h : s.New isInitiator) : s.Queues zlib k := by
  obtain ⟨ep, hep, hmirrored⟩ : ∃ ep, s.mux.newEndpoint k = .ok ep ∧ Mirrored zlib k s ep [] :=
    Mirrored.new h
  exact ⟨ep, [], hmirrored, ArqEndpoint.Whole.create hep⟩

/-- **No call queues an empty chunk.** -/
theorem Queues.called (h : s.Queues zlib k) (hk : k ≠ 0) (call : SessionCall) :
    (s.called zlib call).Queues zlib k := by
  refine called_invariant (I := Queues zlib k) ?_ ?_ ?_ h call
  · rintro s i ⟨ep, emitted, hmirrored, hwhole⟩
    exact ⟨ep, emitted, hmirrored.reacts hk i, hwhole⟩
  · rintro s op ⟨ep, emitted, hmirrored, hwhole⟩
    exact ⟨_, _, hmirrored.works hk op, hwhole.applyFor k op⟩
  · rintro s recvBuffers ⟨ep, emitted, hmirrored, hwhole⟩
    exact ⟨ep, emitted, hmirrored.congr rfl rfl rfl, hwhole⟩

/-- **A session that sends in turn stays in turn.** -/
theorem Turn.sendOn (h : s.Turn zlib k) (hk : k ≠ 0) (data : Bytes) (now : ℚ) :
    (s.called zlib (.sendOn k data now)).Turn zlib k := by
  obtain ⟨ep, emitted, hmirrored, hturn⟩ := h
  rw [called, after_sendOn]
  split_ifs
  · have hsync := hmirrored.works hk (.setSessionId s.machine.sessionId)
    have hturn' : ArqEndpoint.InTurn (ep.applyFor k (.setSessionId s.machine.sessionId)).2 := hturn
    refine ⟨_, _, hsync.works hk (.send k data now), ?_⟩
    rw [ArqEndpoint.applyFor, if_pos rfl]
    exact hturn'.send data now
  · exact ⟨ep, emitted, hmirrored, hturn⟩

/-- A send that returns finds the session established. -/
lemma established_of_sendOn {data : Bytes} {now : ℚ} (h : sendOn zlib k data now s = .ok () s') :
    s.machine.state = .Established := by
  by_contra hstate
  have herror : sendOn zlib k data now s = .error _ s := Session.sendOn_error hstate
  rw [herror] at h
  cases h

/-- There are no more chunks than bytes. -/
lemma chunkCount_le (hpos : 1 ≤ s.mux.maxPayload) (call : SessionCall) :
    s.chunkCount k call ≤ (s.sends k call).flatten.length := by
  have hchunks : ∀ data, (ArqEndpoint.chunks s.mux.maxPayload.toNat data).length ≤ data.length :=
    ArqEndpoint.length_chunks_le (by omega)
  rw [chunkCount]
  induction s.sends k call with
  | nil => simp
  | cons data rest ih =>
      rw [List.map_cons, List.sum_cons, List.flatten_cons, List.length_append]
      exact Nat.add_le_add (hchunks data) ih

end Session

/-! ## The ends of a stream

Each end keeps account of its own, and a direction is put together from two of them.
-/

/-- A session, what it has sent on the stream and in how many chunks, and what was taken off it. -/
structure StreamEnd where
  session : Session
  sent : List Bytes := []
  chunksSent : ℕ := 0
  taken : List Bytes := []

namespace StreamEnd

/-- What has come in on the stream: what was taken, and what waits to be. -/
def received (k : ℤ) (x : StreamEnd) : List Bytes := x.taken ++ x.session.buffered k

/-- The session is called. -/
def called (zlib : Bytes → ℕ) (k : ℤ) (x : StreamEnd) (call : SessionCall) : StreamEnd where
  session := x.session.called zlib call
  sent := x.sent ++ x.session.sends k call
  chunksSent := x.chunksSent + x.session.chunkCount k call
  taken := x.taken ++ x.session.takes k call

/-- One direction. -/
def oneWay (x y : StreamEnd) : Reconnection where
  initiator := x.session
  responder := y.session
  sent := x.sent
  chunksSent := x.chunksSent
  taken := y.taken

end StreamEnd

open StreamEnd

/-- The frames of a cycle have been transmitted by the other session. -/
def SessionCall.Hears (s : Session) : SessionCall → Prop
  | .pump _ frames _ _ => ∀ f ∈ frames, f.1 ∈ s.transmitted
  | _ => True

instance (s : Session) : (call : SessionCall) → Decidable (call.Hears s)
  | .pump _ frames _ _ => inferInstanceAs (Decidable (∀ f ∈ frames, f.1 ∈ s.transmitted))
  | .connect _ | .close _ | .openStream | .sendOn _ _ _ | .recvOn _ | .recvAll => isTrue trivial

/-- The call neither sends on the stream nor takes anything off it. -/
def SessionCall.LeavesAlone (k : ℤ) : SessionCall → Prop
  | .sendOn streamId _ _ | .recvOn streamId => streamId ≠ k
  | .recvAll => False
  | _ => True

instance (k : ℤ) : (call : SessionCall) → Decidable (call.LeavesAlone k)
  | .sendOn _ _ _ | .recvOn _ => inferInstanceAs (Decidable (_ ≠ k))
  | .recvAll => isFalse id
  | .connect _ | .close _ | .openStream | .pump _ _ _ _ => isTrue trivial

/-- The direction from `x` to `y` carries a transfer. -/
def Flows (zlib : Bytes → ℕ) (k : ℤ) (x y : StreamEnd) : Prop :=
  ∃ net t, Conveys zlib k [] (oneWay x y) net t

/-- Both directions do. -/
structure Duplex (zlib : Bytes → ℕ) (k : ℤ) (x y : StreamEnd) : Prop where
  forth : Flows zlib k x y
  back : Flows zlib k y x
  queues : x.session.Queues zlib k ∧ y.session.Queues zlib k
  chunksSent : x.chunksSent ≤ x.sent.flatten.length ∧ y.chunksSent ≤ y.sent.flatten.length

namespace Flows

variable {x y : StreamEnd} {call : SessionCall}

lemma enabled_initiator (h : call.Hears y.session) : (oneWay x y).enabled (.Initiator, call) := by
  cases call with
  | pump maxFrames frames now now' => exact h
  | _ => trivial

lemma enabled_responder (h : call.Hears x.session) : (oneWay x y).enabled (.Responder, call) := by
  cases call with
  | pump maxFrames frames now now' => exact h
  | _ => trivial

/-- The sending end is called. -/
lemma called_source (h : Flows zlib k x y) (hk : k ≠ 0) (hears : call.Hears y.session)
    (hturn : x.session.InTurn k call)
    (hbound : x.chunksSent + x.session.chunkCount k call < 2 ^ 31) :
    Flows zlib k (x.called zlib k call) y := by
  obtain ⟨net, t, hconveys⟩ := h
  have hok : (oneWay x y).Orderly k (.Initiator, call) := ⟨hturn, hbound⟩
  exact hconveys.next hk (enabled_initiator hears) hok

/-- The receiving end is called. -/
lemma called_sink (h : Flows zlib k x y) (hk : k ≠ 0) (hears : call.Hears x.session) :
    Flows zlib k x (y.called zlib k call) := by
  obtain ⟨net, t, hconveys⟩ := h
  have hok : (oneWay x y).Orderly k (.Responder, call) := trivial
  exact hconveys.next hk (enabled_responder hears) hok

/-- The sending end has a cycle; of the frames that arrive only those that parse count. -/
lemma pumped_source (h : Flows zlib k x y) (hk : k ≠ 0) (maxFrames : Option ℤ)
    {frames : List (Bytes × ℚ)} (hheard : ∀ f ∈ frames, ∀ pkt, Packet.unpack zlib f.1 = .ok pkt →
      Conveys.Heard zlib y.session pkt) (now now' : ℚ) :
    Flows zlib k (x.called zlib k (.pump maxFrames frames now now')) y := by
  have hsteady : Session.Steady zlib (Conveys.Heard zlib y.session) fun s =>
      ∃ net t, Conveys zlib k [] { oneWay x y with initiator := s } net t :=
    Conveys.steadyA (c := oneWay x y) hk
  have hsends : x.session.sends k (.pump maxFrames frames now now') = [] := rfl
  exact Conveys.called_initiator (c := oneWay x y) (hsteady.pump maxFrames hheard now now' _ h) hsends

/-- The receiving end has. -/
lemma pumped_sink (h : Flows zlib k x y) (hk : k ≠ 0) (maxFrames : Option ℤ)
    {frames : List (Bytes × ℚ)} (hheard : ∀ f ∈ frames, ∀ pkt, Packet.unpack zlib f.1 = .ok pkt →
      Conveys.Heard zlib x.session pkt) (now now' : ℚ) :
    Flows zlib k x (y.called zlib k (.pump maxFrames frames now now')) := by
  have hsteady : Session.Steady zlib (Conveys.Heard zlib x.session) fun s =>
      ∃ net t, Conveys zlib k [] { oneWay x y with responder := s } net t :=
    Conveys.steadyB (c := oneWay x y) hk
  have htakes : y.session.takes k (.pump maxFrames frames now now') = [] := rfl
  exact Conveys.called_responder (c := oneWay x y) (hsteady.pump maxFrames hheard now now' _ h) htakes

/-- Two new sessions. -/
lemma start {s s' : Session} {isInitiator isInitiator' : Bool} (h : s.New isInitiator)
    (h' : s'.New isInitiator') (hwindow : s'.mux.windowSize < 65536) :
    Flows zlib k { session := s } { session := s' } := by
  obtain ⟨ep, -, hmirrored⟩ : ∃ ep, s'.mux.newEndpoint k = .ok ep ∧ Mirrored zlib k s' ep [] :=
    Mirrored.new h'
  obtain ⟨-, _, _, _, _, _, _, _, _, _, rfl⟩ := h'
  exact Conveys.start h ⟨ep, [], hmirrored⟩ hwindow fun _ hget => by cases hget

/-- What has come in is the beginning of what was sent. -/
lemma received_prefix (h : Flows zlib k x y) : (y.received k).flatten <+: x.sent.flatten := by
  obtain ⟨net, t, hconveys⟩ := h
  have hdelivered : y.received k = net.delivered := hconveys.delivered
  have hsent : net.sent = x.sent := hconveys.sent
  rw [hdelivered, ← hsent]
  exact hconveys.carrying.delivered_prefix_sent hconveys.inOrder

/-- Nothing is acknowledged that has not come in. -/
lemma ackedBytes_le (h : Flows zlib k x y) :
    x.session.ackedBytes k ≤ (y.received k).flatten.length := by
  obtain ⟨net, t, hconveys⟩ := h
  have hdelivered : y.received k = net.delivered := hconveys.delivered
  have hacked : x.session.ackedBytes k = net.a.ackedBytes := hconveys.initiator.projects.ackedBytes
  rw [hdelivered, hacked]
  exact hconveys.carrying.ackedBytes_le

end Flows

namespace Duplex

variable {x y : StreamEnd} {call : SessionCall}

lemma symm (h : Duplex zlib k x y) : Duplex zlib k y x :=
  ⟨h.back, h.forth, h.queues.symm, h.chunksSent.symm⟩

lemma maxPayload_pos (h : Duplex zlib k x y) : 1 ≤ x.session.mux.maxPayload := by
  obtain ⟨net, t, hconveys⟩ := h.forth
  exact hconveys.initiator.projects.maxPayload_pos

/-- Two new sessions. -/
theorem start {s s' : Session} {isInitiator isInitiator' : Bool} (h : s.New isInitiator)
    (h' : s'.New isInitiator') (hwindow : s.mux.windowSize < 65536)
    (hwindow' : s'.mux.windowSize < 65536) :
    Duplex zlib k { session := s } { session := s' } :=
  ⟨Flows.start h h' hwindow', Flows.start h' h hwindow, ⟨.new h, .new h'⟩, le_rfl, le_rfl⟩

/-- **An end is called**, and sends nothing past its queue. -/
theorem called (h : Duplex zlib k x y) (hk : k ≠ 0) (hears : call.Hears y.session)
    (hturn : x.session.InTurn k call)
    (hbound : (x.called zlib k call).sent.flatten.length < 2 ^ 31) :
    Duplex zlib k (x.called zlib k call) y := by
  have hcount : x.session.chunkCount k call ≤ (x.session.sends k call).flatten.length :=
    Session.chunkCount_le h.maxPayload_pos call
  have hsent : (x.called zlib k call).sent.flatten.length
      = x.sent.flatten.length + (x.session.sends k call).flatten.length := by
    rw [StreamEnd.called, List.flatten_append, List.length_append]
  have hchunks := h.chunksSent.1
  refine ⟨h.forth.called_source hk hears hturn (by omega), h.back.called_sink hk hears,
    ⟨h.queues.1.called hk call, h.queues.2⟩, ?_, h.chunksSent.2⟩
  show x.chunksSent + x.session.chunkCount k call ≤ _
  omega

/-- **An end has a cycle**, in which frames may arrive that do not parse. -/
theorem pumped (h : Duplex zlib k x y) (hk : k ≠ 0) (maxFrames : Option ℤ)
    {frames : List (Bytes × ℚ)} (hheard : ∀ f ∈ frames, ∀ pkt, Packet.unpack zlib f.1 = .ok pkt →
      Conveys.Heard zlib y.session pkt) (now now' : ℚ) :
    Duplex zlib k (x.called zlib k (.pump maxFrames frames now now')) y := by
  refine ⟨h.forth.pumped_source hk maxFrames hheard now now',
    h.back.pumped_sink hk maxFrames hheard now now',
    ⟨h.queues.1.called hk (.pump maxFrames frames now now'), h.queues.2⟩, ?_, h.chunksSent.2⟩
  show x.chunksSent + 0 ≤ (x.sent ++ []).flatten.length
  rw [List.append_nil]
  exact h.chunksSent.1

/-- **When the other end has taken everything, nothing is queued.** -/
theorem turn_of_taken (h : Duplex zlib k x y)
    (htaken : x.sent.flatten.length ≤ y.taken.flatten.length) : x.session.Turn zlib k := by
  obtain ⟨net, t, hconveys⟩ := h.forth
  obtain ⟨ep, emitted, hmirrored, hwhole⟩ := h.queues.1
  have hsame : net.a = ep := hconveys.initiator.unique hmirrored
  have hdelivered : y.taken ++ y.session.buffered k = t.delivered :=
    hconveys.delivered.trans hconveys.carrying.delivered
  have hlog := t.delivered_prefix_log.flatten.length_le
  have hbytes := hconveys.carrying.bytes
  have hsent : net.sent = x.sent := hconveys.sent
  rw [← hdelivered, List.flatten_append, List.length_append] at hlog
  rw [hsent, hsame] at hbytes
  exact ⟨ep, emitted, hmirrored, .inl (hwhole.eq_nil (by omega))⟩

/-- One piece of data is sent. -/
lemma sendOn (h : Duplex zlib k x y) (hk : k ≠ 0) {data : Bytes} {now : ℚ} {s : Session}
    (hsend : Session.sendOn zlib k data now x.session = .ok () s)
    (hturn : x.session.Turn zlib k ∨ data = [])
    (hbound : x.sent.flatten.length + data.length < 2 ^ 31) :
    ∃ chunksSent, Duplex zlib k { x with session := s, sent := x.sent ++ [data], chunksSent } y := by
  have hsends : x.session.sends k (.sendOn k data now) = [data] :=
    if_pos ⟨Session.established_of_sendOn hsend, rfl⟩
  have hcalled : x.called zlib k (.sendOn k data now) = { x with
      session := s
      sent := x.sent ++ [data]
      chunksSent := x.chunksSent + x.session.chunkCount k (.sendOn k data now) } := by
    have htakes : x.session.takes k (.sendOn k data now) = [] := rfl
    rw [StreamEnd.called, hsends, htakes, Session.called, after_ok hsend, List.append_nil]
  have hinTurn : x.session.InTurn k (.sendOn k data now) := by
    rcases hturn with ⟨ep, emitted, hmirrored, hturn⟩ | hempty
    · exact hmirrored.inTurn hturn _
    · intro data' hdata' hne
      rw [hsends, List.mem_singleton] at hdata'
      exact absurd (hdata'.trans hempty) hne
  have hears : (SessionCall.sendOn k data now).Hears y.session := trivial
  have hnext := h.called hk hears hinTurn (by
    rw [hcalled, List.flatten_append, List.length_append, List.flatten_singleton]
    exact hbound)
  rw [hcalled] at hnext
  exact ⟨_, hnext⟩

/-- **Data that is sent in turn**, or that is empty. -/
theorem sends (hk : k ≠ 0) {now : ℚ} {s : Session} : ∀ {datas : List Bytes} {x : StreamEnd},
    Duplex zlib k x y →
    (datas.forM fun data => Session.sendOn zlib k data now) x.session = .ok () s →
    x.session.Turn zlib k ∨ datas.flatten = [] →
    x.sent.flatten.length + datas.flatten.length < 2 ^ 31 →
    ∃ chunksSent, Duplex zlib k { x with session := s, sent := x.sent ++ datas, chunksSent } y := by
  intro datas
  induction datas with
  | nil =>
      intro x h hrun _ _
      obtain ⟨-, rfl⟩ := EStateM.Result.ok.inj hrun
      refine ⟨x.chunksSent, ?_⟩
      rw [List.append_nil]
      exact h
  | cons data datas ih =>
      intro x h hrun hturn hbound
      rw [List.forM_eq_forM, List.forM_cons] at hrun
      obtain ⟨_, s₁, hsend, hrest⟩ := bind_eq_ok hrun
      rw [List.flatten_cons, List.length_append] at hbound
      rw [List.flatten_cons, List.append_eq_nil_iff] at hturn
      obtain ⟨chunks₁, h₁⟩ := h.sendOn hk hsend (hturn.imp id And.left) (by omega)
      have hturn₁ : s₁.Turn zlib k ∨ datas.flatten = [] := by
        refine hturn.imp (fun hturn => ?_) And.right
        have hnext := hturn.sendOn hk data now
        rwa [Session.called, after_ok hsend] at hnext
      obtain ⟨chunks₂, h₂⟩ := ih h₁ hrest hturn₁ (by
        rw [List.flatten_append, List.length_append, List.flatten_singleton]
        omega)
      refine ⟨chunks₂, ?_⟩
      rw [List.append_assoc, List.singleton_append] at h₂
      exact h₂

/-- **What an end receives is the beginning of what the other one sent.** -/
theorem received_prefix (h : Duplex zlib k x y) : (y.received k).flatten <+: x.sent.flatten :=
  h.forth.received_prefix

/-- Nothing is acknowledged that has not come in. -/
theorem ackedBytes_le (h : Duplex zlib k x y) :
    x.session.ackedBytes k ≤ (y.received k).flatten.length :=
  h.forth.ackedBytes_le

/-! ## Applications

What the programs above this layer do, in terms of `Duplex`.
-/

/-- Somebody else uses the session. -/
theorem leftAlone (h : Duplex zlib k x y) (hk : k ≠ 0) (hears : call.Hears y.session)
    (halone : call.LeavesAlone k) (hbound : x.sent.flatten.length < 2 ^ 31) :
    Duplex zlib k { x with session := x.session.called zlib call } y := by
  have hsends : x.session.sends k call = [] := by
    cases call with
    | sendOn streamId data now => exact if_neg fun hsend => halone hsend.2
    | _ => rfl
  have htakes : x.session.takes k call = [] := by
    cases call with
    | recvOn streamId => exact if_neg halone
    | recvAll => exact absurd halone id
    | _ => rfl
  have hcalled : x.called zlib k call = { x with session := x.session.called zlib call } := by
    rw [StreamEnd.called, hsends, htakes, Session.chunkCount, hsends, List.append_nil, List.append_nil]
    rfl
  have hnext := h.called hk hears (fun data hdata => by rw [hsends] at hdata; cases hdata) (by
    rw [hcalled]
    exact hbound)
  rwa [hcalled] at hnext

/-- **A cycle of an application**: it pumps its session and takes what waits on the stream. -/
theorem takes (h : Duplex zlib k x y) (hk : k ≠ 0) {arrived : List Bytes} {now : ℚ}
    (harrived : ∀ frame ∈ arrived, frame ∈ y.session.transmitted) {events : List SessionEvent}
    {s : Session} (hpump : Session.pump zlib none (arrived.map fun frame => (frame, now)) now now
      x.session = .ok events s) (hbound : x.sent.flatten.length < 2 ^ 31) :
    Duplex zlib k
      { x with
        session := { s with recvBuffers := s.recvBuffers.erase k }
        taken := x.taken ++ s.buffered k } y ∧
      (x.taken ++ s.buffered k).flatten <+: y.sent.flatten := by
  have hears : SessionCall.Hears y.session
      (.pump none (arrived.map fun frame => (frame, now)) now now) := by
    intro f hf
    obtain ⟨frame, hframe, rfl⟩ := List.mem_map.mp hf
    exact harrived frame hframe
  have hpumped : Duplex zlib k { x with session := s } y := by
    have hnext := h.leftAlone hk hears trivial hbound
    rwa [Session.called, after_ok hpump] at hnext
  have hleft : (SessionCall.recvOn k).Hears y.session := trivial
  have hturn : s.InTurn k (.recvOn k) := fun data hdata => by cases hdata
  have htaken := hpumped.called hk hleft hturn (by
    simpa only [StreamEnd.called, Session.sends, List.append_nil] using hbound)
  have htakes : s.takes k (.recvOn k) = s.buffered k := if_pos rfl
  simp only [StreamEnd.called, Session.sends, Session.chunkCount, htakes, List.append_nil,
    List.map_nil, List.sum_nil, Nat.add_zero] at htaken
  refine ⟨htaken, ?_⟩
  have hprefix := htaken.symm.received_prefix
  rw [StreamEnd.received, List.flatten_append] at hprefix
  exact (List.prefix_append _ _).trans hprefix

end Duplex

end PhotonTCP
