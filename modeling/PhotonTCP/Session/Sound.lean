import PhotonTCP.Reliability.Receiver
import PhotonTCP.Session.Routing
import PhotonTCP.Session.SequenceLimit
import PhotonTCP.Stream.StreamIds

/-!
# A session that never raises

If everything a session may have to transmit fits the header, no packet and no tick makes it raise.
What it delivers on a stream meanwhile is what the peer has sent on it.

* `Sound past` — the invariant; `past` holds of the times at which data was sent.
* `Hears log streamId taken` — what was taken off a stream and what is buffered for it are the
  first chunks of `log`.
* `Conforms` — what a packet needs.
* `routePacket_sound`, **`pump_sound`** — nothing is raised, and both are kept.

That an application receives what its peer has sent requires that the pump gets so far.  Three
things could keep it from it: a packet that does not fit the header, a round trip that is measured
as negative, and a frame that names no packet type.  The first is excluded by bounds on the
parameters, the second by a clock that does not go back, and the third by what the frames are:
packets of a peer that conforms, or damaged copies of them.

The invariant about the delivered data comes along, since both are kept by the same steps.  The log
is that of the peer's endpoint on the stream; only DATA with a chunk of it under its own number is
assumed to arrive, and anything at all on the other streams.
-/

namespace PhotonTCP

open ArqEndpoint

/-- What an endpoint delivers, whatever it is given: the next chunks of the log. -/
theorem Receiver.applyFor {log : List Bytes} {received : ℕ} {ep : ArqEndpoint} {streamId : ℤ}
    (h : Receiver 0 log received ep) (hstamped : Stamped ep) (hlog : log.length < 2 ^ 31)
    {op : MuxOp} (hop : ∀ p t, op = .onPacket p t → p.streamId = streamId → DataFrom 0 log p) :
    ∃ received', Receiver 0 log received' (ep.applyFor streamId op).2 ∧
      Stamped (ep.applyFor streamId op).2 ∧
      log.take received' = log.take received ++ (ep.applyFor streamId op).1.delivered := by
  have hidle : ∃ received', Receiver 0 log received' ep ∧ Stamped ep ∧
      log.take received' = log.take received ++ ({} : ArqOutput).delivered :=
    ⟨received, h, hstamped, by simp⟩
  cases op with
  | send k data now =>
      rw [ArqEndpoint.applyFor]
      split_ifs
      · exact ⟨received, h.send data now, (hstamped.send data now).1, by simp [delivered_send]⟩
      · exact hidle
  | onPacket p now =>
      rw [ArqEndpoint.applyFor]
      split_ifs with hk
      · obtain ⟨received', -, hreceiver, htake, -⟩ := h.onPacket hstamped hlog (hop p now rfl hk) now
        exact ⟨received', hreceiver, (hstamped.onPacket p now).1, htake⟩
      · exact hidle
  | onTick now =>
      exact ⟨received, h.onTick now, (hstamped.onTick now).1,
        by simp [ArqEndpoint.applyFor, delivered_onTick]⟩
  | setSessionId sid =>
      exact ⟨received, h.congr rfl rfl, hstamped.congr rfl rfl, by simp [ArqEndpoint.applyFor]⟩
  | openStream => exact hidle

namespace Session

variable {zlib : Bytes → ℕ} {s s' : Session} {pkt : Packet} {now : ℚ}

/-! ## The invariants

Bounds on what will be transmitted, and the position of the stream in the log.
-/

/-- What a session needs so that everything it transmits fits the header. -/
structure Sound (past : ℚ → Prop) (s : Session) : Prop where
  numbered : s.machine.Numbered
  isn : s.machine.isn + 1 < 2 ^ 32
  usable : s.mux.Usable
  packable : MuxPackable past s.mux
  keys : ∀ k ∈ s.mux.endpoints.keys, WireStream k

/-- The chunks taken off a stream, and those that wait to be taken, are the first ones of `log`. -/
def Hears (log : List Bytes) (streamId : ℤ) (taken : List Bytes) (s : Session) : Prop :=
  ∃ received ep, Projects streamId s.mux ep ∧ Receiver 0 log received ep ∧ Stamped ep ∧
    taken ++ (s.recvBuffers.get? streamId).getD [] = log.take received

/-- A packet of a peer that sends `log` on the stream. -/
structure Conforms (log : List Bytes) (streamId : ℤ) (pkt : Packet) : Prop where
  seq : pkt.streamId = CONTROL_STREAM_ID → pkt.seq + 1 < 2 ^ 32
  data : pkt.streamId = streamId → DataFrom 0 log pkt

variable {past past' : ℚ → Prop}

lemma Sound.mono (h : Sound past s) (hpast : ∀ t, past t → past' t) : Sound past' s :=
  { h with packable := h.packable.mono hpast }

lemma Sound.congr (h : Sound past s) (hmachine : s'.machine = s.machine) (hmux : s'.mux = s.mux) :
    Sound past s' :=
  ⟨hmachine ▸ h.numbered, hmachine ▸ h.isn, hmux ▸ h.usable, hmux ▸ h.packable, hmux ▸ h.keys⟩

variable {log taken : List Bytes} {streamId : ℤ}

lemma Hears.congr (h : Hears log streamId taken s) (hmux : s'.mux = s.mux)
    (hbuffers : s'.recvBuffers = s.recvBuffers) : Hears log streamId taken s' := by
  rw [Hears, hmux, hbuffers]
  exact h

/-! ## A new session

With parameters within the bounds of the header.
-/

section Create

variable {isInitiator : Bool} {sessionId isn arqWindowSize arqMaxPayload maxControlRetries : ℤ}
  {heartbeatInterval idleTimeout controlRto : ℚ} {rto : RtoEstimator}

lemma Sound.create (hid : 0 ≤ sessionId ∧ sessionId < 65536) (hisn : 0 ≤ isn ∧ isn + 1 < 2 ^ 32)
    (hwindow : 1 ≤ arqWindowSize ∧ arqWindowSize < 65536)
    (hpayload : 1 ≤ arqMaxPayload ∧ arqMaxPayload ≤ 65535) :
    Sound past (Session.create isInitiator sessionId isn heartbeatInterval idleTimeout arqWindowSize
      arqMaxPayload rto controlRto maxControlRetries) where
  numbered := ⟨hid, ⟨hisn.1, by show isn < _; omega⟩, by simp [Session.create],
    by simp [Session.create]⟩
  isn := hisn.2
  usable := ⟨hwindow.1, hpayload.1⟩
  packable := MuxPackable.start hid hwindow.2 hpayload.2 rfl
  keys := by simp [Session.create]

lemma Hears.create (hwindow : 1 ≤ arqWindowSize) (hpayload : 1 ≤ arqMaxPayload) :
    Hears log streamId [] (Session.create isInitiator sessionId isn heartbeatInterval idleTimeout
      arqWindowSize arqMaxPayload rto controlRto maxControlRetries) := by
  obtain ⟨ep, hep⟩ : ∃ ep, (Session.create isInitiator sessionId isn heartbeatInterval idleTimeout
      arqWindowSize arqMaxPayload rto controlRto maxControlRetries).mux.newEndpoint streamId = .ok ep :=
    StreamMux.newEndpoint_eq_ok_iff.mpr ⟨hwindow, hpayload⟩
  have hreceiver := (Receiver.create le_rfl (by decide) hep).append log
  exact ⟨0, ep, Projects.start hep rfl, hreceiver, Stamped.create hep, by simp [Session.create]⟩

end Create

/-! ## The machine

Control packets carry the session id and numbers that are one above others, which is where an upper
bound on the peer's numbers is needed.
-/

lemma Sound.withMachine (h : Sound past s) {m : SessionStateMachine} (hm : m.Numbered)
    (hconfig : m.config = s.machine.config) : Sound past { s with machine := m } := by
  have hisn : m.isn = s.machine.isn := congrArg SessionStateMachine.Config.isn hconfig
  exact { h with numbered := hm, isn := by rw [hisn]; exact h.isn }

lemma Sound.machine_onPacket (h : Sound past s) (hpkt : pkt.FitsHeader)
    (hseq : pkt.seq + 1 < 2 ^ 32) (now : ℚ) :
    (∀ p ∈ (s.machine.onPacket pkt now).1.packets, p.FitsHeader) ∧
      Sound past { s with machine := (s.machine.onPacket pkt now).2 } := by
  obtain ⟨hpackets, hnumbered⟩ := SessionStateMachine.FitsStep.onPacket h.numbered hpkt now
  have hfits : (s.machine.responderInitial pkt → pkt.seq + 1 < 2 ^ 32) ∧
      (s.machine.Acknowledges pkt → s.machine.isn + 1 < 2 ^ 32 ∧ pkt.seq + 1 < 2 ^ 32) :=
    ⟨fun _ => hseq, fun _ => ⟨h.isn, hseq⟩⟩
  exact ⟨hpackets.mpr hfits,
    h.withMachine (hnumbered hfits) (s.machine.apply_frame (.packet pkt now)).1⟩

lemma Sound.machine_onTick (h : Sound past s) (now : ℚ) :
    (∀ p ∈ (s.machine.onTick now).1.packets, p.FitsHeader) ∧
      Sound past { s with machine := (s.machine.onTick now).2 } := by
  obtain ⟨hpackets, hnumbered⟩ := SessionStateMachine.FitsStep.onTick h.numbered now
  exact ⟨hpackets.mpr fun _ => h.isn,
    h.withMachine (hnumbered fun _ => h.isn) (s.machine.apply_frame (.tick now)).1⟩

lemma Sound.noteDataActivity (h : Sound past s) (now : ℚ) :
    Sound past { s with machine := s.machine.noteDataActivity now } :=
  h.withMachine ((SessionStateMachine.FitsStep.noteDataActivity h.numbered now).numbered trivial)
    (s.machine.apply_frame (.noteDataActivity now)).1

/-! ## The multiplexer

Isolation gives what its endpoint delivers on the stream.
-/

/-- The multiplexer does an operation on streams that fit the header. -/
lemma Sound.withMux (h : Sound past s) (op : MuxOp)
    (htouched : ∀ k, s.mux.touched op = some k → WireStream k)
    (hpackable : MuxPackable past (s.mux.apply op).2) :
    Sound past { s with mux := (s.mux.apply op).2 } := by
  refine { h with usable := (StreamMux.usable_apply op).mpr h.usable, packable := hpackable,
                  keys := fun k hk => ?_ }
  rcases (StreamMux.mem_keys_apply op).mp hk with hmem | ⟨-, hk⟩
  · exact h.keys k hmem
  · exact htouched k hk

lemma Sound.sync (h : Sound past s) :
    Sound past { s with mux := s.mux.setSessionId s.machine.sessionId } :=
  h.withMux (.setSessionId s.machine.sessionId) (by simp [StreamMux.touched])
    (h.packable.setSessionId h.numbered.sessionId)

/-- What is delivered is appended to what is buffered. -/
lemma get?_extend (buffers delivered : Dict ℤ (List Bytes)) (k : ℤ) :
    ((extend buffers delivered).get? k).getD [] =
      (buffers.get? k).getD [] ++ (delivered.get? k).getD [] := by
  rw [extend]
  show _ = (buffers.get? k).getD [] ++ (Dict.getEntries k delivered.entries).getD []
  have hnodup := delivered.nodup
  generalize delivered.entries = entries at hnodup ⊢
  induction entries generalizing buffers with
  | nil => simp [Dict.getEntries]
  | cons e entries ih =>
      obtain ⟨k', chunks⟩ := e
      rw [List.map_cons, List.nodup_cons] at hnodup
      rw [List.foldl_cons, ih _ hnodup.2]
      by_cases hk : k' = k
      · -- a key is stored once, so the rest says nothing about it
        have hrest : Dict.getEntries k entries = none := by
          rw [← hk]
          exact (Dict.get?_eq_none_iff (d := ⟨entries, hnodup.2⟩)).mpr hnodup.1
        simp only [Dict.getEntries, if_pos hk, hrest]
        split_ifs with hempty
        · simp [hempty]
        · simp [hk]
      · simp only [Dict.getEntries, if_neg hk]
        split_ifs
        · rfl
        · rw [Dict.get?_set_ne _ _ (Ne.symm hk)]

/-- An operation on the multiplexer that delivers what the stream's own endpoint would. -/
lemma Hears.withMux (h : Hears log streamId taken s) (hstream : streamId ≠ 0) (op : MuxOp)
    (hop : ∀ p t, op = .onPacket p t → p.streamId = streamId → DataFrom 0 log p)
    (hlog : log.length < 2 ^ 31) :
    Hears log streamId taken { s with
      mux := (s.mux.apply op).2
      recvBuffers := extend s.recvBuffers (s.mux.apply op).1.delivered } := by
  obtain ⟨received, ep, hprojects, hreceiver, hstamped, htaken⟩ := h
  obtain ⟨hview, hprojects'⟩ := hprojects.apply hstream op
  have hdelivered : ((s.mux.apply op).1.delivered.get? streamId).getD []
      = (ep.applyFor streamId op).1.delivered := congrArg (fun view => view.2.1) hview
  obtain ⟨received', hreceiver', hstamped', htake⟩ : ∃ received',
      Receiver 0 log received' (ep.applyFor streamId op).2 ∧ Stamped (ep.applyFor streamId op).2 ∧
        log.take received' = log.take received ++ (ep.applyFor streamId op).1.delivered := by
    exact hreceiver.applyFor hstamped hlog hop
  refine ⟨received', _, hprojects', hreceiver', hstamped', ?_⟩
  rw [get?_extend, hdelivered, htake, ← htaken, List.append_assoc]

/-! ## The application's operations

None raises, but for a send before the connection is up.
-/

/-- **The handshake can be begun.** -/
theorem connect_sound (h : Sound past s) (hears : Hears log streamId taken s) (now : ℚ) :
    ∃ events s', connect zlib now s = .ok events s' ∧ Sound past s' ∧
      Hears log streamId taken s' := by
  obtain ⟨hpackets, hnumbered⟩ := SessionStateMachine.FitsStep.connect h.numbered now
  have hsound := h.withMachine (hnumbered trivial) (s.machine.apply_frame (.connect now)).1
  exact ⟨_, _, onMachine_emit (hpackets.mpr trivial), hsound.congr rfl rfl, hears.congr rfl rfl⟩

/-- **The session can be closed.** -/
theorem close_sound (h : Sound past s) (hears : Hears log streamId taken s) (now : ℚ) :
    ∃ events s', close zlib now s = .ok events s' ∧ Sound past s' ∧
      Hears log streamId taken s' := by
  obtain ⟨hpackets, hnumbered⟩ := SessionStateMachine.FitsStep.close h.numbered now
  have hsound := h.withMachine (hnumbered fun _ => h.isn) (s.machine.apply_frame (.close now)).1
  exact ⟨_, _, onMachine_emit (hpackets.mpr fun _ => h.isn), hsound.congr rfl rfl,
    hears.congr rfl rfl⟩

/-- **Data can be sent while the session is `ESTABLISHED`.** -/
theorem sendOn_sound (h : Sound (· ≤ now) s) (hears : Hears log streamId taken s)
    (hstream : streamId ≠ 0) (hlog : log.length < 2 ^ 31) (hstate : s.machine.state = .Established)
    {k : ℤ} (hk : WireStream k) (data : Bytes) :
    ∃ s', sendOn zlib k data now s = .ok () s' ∧ Sound (· ≤ now) s' ∧
      Hears log streamId taken s' := by
  have hsync := h.sync
  have hears₁ : Hears log streamId taken
      { s with mux := s.mux.setSessionId s.machine.sessionId } :=
    (hears.withMux hstream (.setSessionId s.machine.sessionId) (by simp) hlog).congr rfl rfl
  obtain ⟨hpackable, hfits⟩ := hsync.packable.send (k := k) (le_refl now) data
  have hsound := hsync.withMux (.send k data now) (by simp [StreamMux.touched, hk]) hpackable
  have hears₂ := hears₁.withMux hstream (.send k data now) (by simp) hlog
  obtain ⟨out, hout⟩ := hsync.usable.send_ok k data now
  have hsend : (s.mux.setSessionId s.machine.sessionId).send k data now =
      (.ok out, ((s.mux.setSessionId s.machine.sessionId).send k data now).2) := Prod.ext hout rfl
  simp only [StreamMux.apply, hout, StreamMux.observed] at hfits hsound hears₂
  exact ⟨_, sendOn_ok hstate hsend (hfits hk), hsound.congr rfl rfl, hears₂.congr rfl rfl⟩

/-! ## Packets and frames

A frame is routed or dropped; a cycle is some of these and the timers.
-/

lemma fitsHeader_of_unpack {frame : Bytes} (h : Packet.unpack zlib frame = .ok pkt) :
    pkt.FitsHeader :=
  (exists_pack_iff zlib).mp ⟨frame, pack_of_unpack zlib h⟩

/-- **A packet of a conforming peer raises nothing.** -/
theorem routePacket_sound (h : Sound (· ≤ now) s) (hears : Hears log streamId taken s)
    (hstream : streamId ≠ 0) (hlog : log.length < 2 ^ 31) (hpkt : pkt.FitsHeader)
    (hconforms : Conforms log streamId pkt) :
    ∃ events s', routePacket zlib pkt now s = .ok events s' ∧ Sound (· ≤ now) s' ∧
      Hears log streamId taken s' := by
  by_cases hcontrol : pkt.streamId = CONTROL_STREAM_ID
  · by_cases hgives : s.GivesMachine pkt
    · obtain ⟨hfits, hsound⟩ := h.machine_onPacket hpkt (hconforms.seq hcontrol) now
      exact ⟨_, _, routePacket_machine hcontrol hgives hfits, hsound.congr rfl rfl,
        hears.congr rfl rfl⟩
    · exact ⟨_, _, routePacket_ignored hcontrol hgives, h, hears⟩
  · obtain ⟨hpackable, hfits⟩ := h.packable.onPacket hpkt.streamId (le_refl now)
    have hsound := h.withMux (.onPacket pkt now)
      (fun k hk => by
        rw [StreamMux.touched, if_neg hcontrol] at hk
        exact Option.some.inj hk ▸ hpkt.streamId) hpackable
    have hears' := hears.withMux hstream (.onPacket pkt now)
      (fun p t hp hk => by
        obtain ⟨rfl, rfl⟩ := MuxOp.onPacket.inj hp
        exact hconforms.data hk) hlog
    obtain ⟨out, hout⟩ := h.packable.onPacket_ok h.usable hpkt.streamId fun t ht => ht
    have hmux : s.mux.onPacket pkt now = (.ok out, (s.mux.onPacket pkt now).2) :=
      Prod.ext hout rfl
    simp only [StreamMux.apply, hout, StreamMux.observed] at hfits hsound hears'
    exact ⟨_, _, routePacket_stream hcontrol hmux hfits,
      (hsound.noteDataActivity now).congr rfl rfl, hears'.congr rfl rfl⟩

/-- A frame of a peer that sends `log` on the stream, or a frame that was damaged on the way. -/
def FrameConforms (zlib : Bytes → ℕ) (log : List Bytes) (streamId : ℤ) (frame : Bytes) : Prop :=
  (∃ e, Packet.unpack zlib frame = .error (.PacketError e)) ∨
    ∃ pkt, Packet.unpack zlib frame = .ok pkt ∧ Conforms log streamId pkt

lemma Sound.mux_onTick (h : Sound (· ≤ now) s) :
    (∀ p ∈ (s.mux.onTick now).1.packets, p.FitsHeader) ∧
      Sound (· ≤ now) { s with mux := (s.mux.onTick now).2 } := by
  obtain ⟨hpackable, hfits⟩ := h.packable.onTick (le_refl now)
  exact ⟨hfits h.keys, h.withMux (.onTick now) (by simp [StreamMux.touched]) hpackable⟩

/-- **A cycle with frames of a conforming peer raises nothing.** -/
theorem pump_sound (h : Sound (· ≤ now) s) (hears : Hears log streamId taken s)
    (hstream : streamId ≠ 0) (hlog : log.length < 2 ^ 31) {frames : List Bytes}
    (hframes : ∀ frame ∈ frames, FrameConforms zlib log streamId frame) :
    ∃ events s', pump zlib none (frames.map fun frame => (frame, now)) now now s = .ok events s' ∧
      Sound (· ≤ now) s' ∧ Hears log streamId taken s' := by
  have hrule : Routes zlib fun s frames => Sound (· ≤ now) s ∧ Hears log streamId taken s ∧
      ∀ f ∈ frames, f.2 = now ∧ FrameConforms zlib log streamId f.1 := by
    rintro s frame t frames ⟨h, hears, hall⟩
    obtain ⟨⟨rfl, hconforms⟩, hrest⟩ := List.forall_mem_cons.mp hall
    rcases hconforms with ⟨e, herror⟩ | ⟨pkt, hunpack, hconforms⟩
    · exact .inr ⟨⟨e, herror⟩, h, hears, hrest⟩
    · obtain ⟨events, s', hroute, hsound, hears'⟩ := routePacket_sound h hears hstream hlog
        (fitsHeader_of_unpack hunpack) hconforms
      exact .inl ⟨pkt, events, s', hunpack, hroute, hsound, hears', hrest⟩
  have hsync : Hears log streamId taken
      { s with mux := s.mux.setSessionId s.machine.sessionId } :=
    (hears.withMux hstream (.setSessionId s.machine.sessionId) (by simp) hlog).congr rfl rfl
  obtain ⟨events, s₁, hdrain, h₁, hears₁, -⟩ := drain_rule hrule
    (show _ ∧ _ ∧ ∀ f ∈ frames.map fun frame => (frame, now), _ from
      ⟨h.sync, hsync, by simpa using hframes⟩)
  obtain ⟨hfits, h₂⟩ := h₁.machine_onTick now
  obtain ⟨hfits', h₃⟩ := h₂.mux_onTick
  have hears₃ := hears₁.withMux hstream (.onTick now) (by simp) hlog
  refine ⟨_, _, pump_ok hdrain hfits hfits', h₃.congr rfl rfl, hears₃.congr rfl rfl⟩

end Session

end PhotonTCP
