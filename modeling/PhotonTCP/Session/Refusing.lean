import PhotonTCP.Session.Calls

/-!
# A session whose channel may raise

`send_frame` may raise, at any call.  What an operation has done before that stays done: the engines
have worked, and the frames before the refused one are transmitted.

* `WiredSession`, `WiredM` — a session with the number of its calls of `send_frame`.  Which of them
  raise is a parameter.
* `sendFrame`, `transmit`, `pump` — the operations of a session, on such a channel.
* **`tracks_pump`** and its like — when the channel takes what is written, they are the operations
  of the session.
* `Losing` — an invariant that lost frames do not disturb; **`preserves_pump`** and its like — such
  an invariant of the engines' work is left behind whatever is refused.

The session proper writes to a list, which never fails.  This module writes the same operations once
more over a channel that may, line by line as in the source, with the one difference that a frame
goes through `sendFrame`.  The calls are counted, and `refuses` says of each call and frame whether
it raises, so any pattern of failures is a value of the parameter; a limit on the length of frames
is one, which looks at the frame and not at the count.

Two theorems connect the two versions.  If no call raises, the operations are those of the session.
If one does, the operation stops there; the engines have worked, some frames are missing from what
was transmitted, and what was delivered in this step is not buffered.  Invariants that do not mind
frames that are missing survive this, and most do, as the network may lose frames anyway.

That a send has raised does not mean that its data is gone.  The multiplexer has queued the data
before its packets are written, and will transmit it again by timer; `sendOn_refused` and
`transmit_error` are about exactly this case.
-/

namespace PhotonTCP

open Raising

/-- What an operation can raise: what the session raises, and what the channel raises. -/
inductive WiredError where
  | session (error : SessionError)
  | channel
deriving DecidableEq

/-- A session, and how often it has called `send_frame`. -/
structure WiredSession where
  session : Session
  sendCalls : ℕ := 0

/-- Computations on such a session. -/
abbrev WiredM := EStateM WiredError WiredSession

namespace WiredSession

/-! ## The operations

Under the names of the session, in a namespace of their own.
-/

/-- Let the session work, without its channel. -/
def onSession {α : Type} (x : SessionM α) : WiredM α :=
  zoom session (fun w session => { w with session }) .session x

/-- Write a frame to the channel. -/
def sendFrame (refuses : ℕ → Bytes → Bool) (frame : Bytes) : WiredM Unit := do
  let w ← get
  modify fun w => { w with sendCalls := w.sendCalls + 1 }
  if refuses w.sendCalls frame then throw .channel
  else onSession (modify fun s => { s with transmitted := s.transmitted ++ [frame] })

section Wire

variable (zlib : Bytes → ℕ) (refuses : ℕ → Bytes → Bool)

/-- Write packets to the channel, in order. -/
def transmit : List Packet → WiredM Unit
  | [] => pure ()
  | pkt :: pkts => do
      match pkt.pack zlib with
      | none => throw (.session .StructError)
      | some frame => sendFrame refuses frame
      transmit pkts

/-- Transmit the machine's packets and return its events. -/
def emit (out : Output) : WiredM (List SessionEvent) := do
  transmit zlib refuses out.packets
  return out.events

/-- Transmit the multiplexer's packets, and buffer what it delivers if all of them are taken. -/
def emitMux (out : MuxOutput) : WiredM Unit := do
  transmit zlib refuses out.packets
  onSession (modify fun s => { s with recvBuffers := Session.extend s.recvBuffers out.delivered })

/-- Begin the handshake. -/
def connect (now : ℚ) : WiredM (List SessionEvent) := do
  emit zlib refuses (← onSession (Session.onMachine fun m => m.connect now))

/-- Begin a graceful close. -/
def close (now : ℚ) : WiredM (List SessionEvent) := do
  emit zlib refuses (← onSession (Session.onMachine fun m => m.close now))

/-- Queue `data` on a stream. -/
def sendOn (streamId : ℤ) (data : Bytes) (now : ℚ) : WiredM Unit := do
  let w ← get
  if w.session.machine.isEstablished then
    onSession Session.syncSessionId
    emitMux zlib refuses (← onSession (Session.onMux fun mux => mux.send streamId data now))
  else
    throw (.session (.notEstablished w.session.machine.state))

/-- Route one parsed packet. -/
def routePacket (pkt : Packet) (now : ℚ) : WiredM (List SessionEvent) := do
  let w ← get
  if pkt.streamId = CONTROL_STREAM_ID then
    if pkt.type ∈ CONTROL_TYPES then
      emit zlib refuses (← onSession (Session.onMachine fun m => m.onPacket pkt now))
    else if pkt.type = .Ack then
      if w.session.machine.state = .SynRcvd then
        emit zlib refuses (← onSession (Session.onMachine fun m => m.onPacket pkt now))
      else return []
    else return []
  else
    onSession (modify fun s => { s with machine := s.machine.noteDataActivity now })
    emitMux zlib refuses (← onSession (Session.onMux fun mux => mux.onPacket pkt now))
    return []

/-- Take frames until there are none or `maxFrames` have been taken. -/
def drain (maxFrames : Option ℤ) : ℤ → List (Bytes × ℚ) → WiredM (List SessionEvent)
  | _, [] => pure []
  | processed, (frame, now) :: frames =>
      if maxFrames.all fun n => processed < n then
        match Packet.unpack zlib frame with
        | .error (.PacketError _) => drain maxFrames (processed + 1) frames
        | .error e => throw (.session (.ofUnpack e))
        | .ok pkt => do
            let events ← routePacket zlib refuses pkt now
            let more ← drain maxFrames (processed + 1) frames
            return events ++ more
      else pure []

/-- One cycle. -/
def pump (maxFrames : Option ℤ) (frames : List (Bytes × ℚ)) (now now' : ℚ) :
    WiredM (List SessionEvent) := do
  onSession Session.syncSessionId
  let events ← drain zlib refuses maxFrames 0 frames
  let timed ← emit zlib refuses (← onSession (Session.onMachine fun m => m.onTick now))
  emitMux zlib refuses
    (← onSession (Session.onMux fun mux => (.ok (mux.onTick now').1, (mux.onTick now').2)))
  return events ++ timed

end Wire

/-! ## The operations of the session -/

section Tracks

variable {zlib : Bytes → ℕ} {refuses : ℕ → Bytes → Bool} {α : Type}

lemma session_injective : WiredError.session.Injective := fun _ _ => WiredError.session.inj

lemma tracks_onSession (x : SessionM α) : Tracks session .session (onSession x) x :=
  tracks_zoom (fun _ _ => rfl) session_injective

lemma tracks_sendFrame (frame : Bytes) : Tracks session .session (sendFrame refuses frame)
    (modify fun s => { s with transmitted := s.transmitted ++ [frame] }) := by
  have hcount : ∀ w : WiredSession, Tracks session .session
      (if refuses w.sendCalls frame then throw .channel
        else onSession (modify fun s => { s with transmitted := s.transmitted ++ [frame] }))
      (modify fun s => { s with transmitted := s.transmitted ++ [frame] }) := by
    intro w
    split_ifs
    · exact tracks_throw_own fun e => by simp
    · exact tracks_onSession _
  exact ⟨fun w a w' h => (hcount w).1 { w with sendCalls := w.sendCalls + 1 } a w' h,
    fun w e w' h => (hcount w).2 { w with sendCalls := w.sendCalls + 1 } e w' h⟩

/-- **Packets that are written.** -/
theorem tracks_transmit : ∀ pkts : List Packet,
    Tracks session .session (transmit zlib refuses pkts) (Session.transmit zlib pkts)
  | [] => tracks_pure ()
  | pkt :: pkts => by
      rw [transmit, Session.transmit]
      cases pkt.pack zlib with
      | none => exact (tracks_throw session_injective _).bind fun _ => tracks_transmit pkts
      | some frame => exact (tracks_sendFrame frame).bind fun _ => tracks_transmit pkts

lemma tracks_emit (out : Output) :
    Tracks session .session (emit zlib refuses out) (Session.emit zlib out) :=
  (tracks_transmit out.packets).bind fun _ => tracks_pure out.events

lemma tracks_emitMux (out : MuxOutput) :
    Tracks session .session (emitMux zlib refuses out) (Session.emitMux zlib out) :=
  (tracks_transmit out.packets).bind fun _ => tracks_onSession _

lemma tracks_sendOn (streamId : ℤ) (data : Bytes) (now : ℚ) : Tracks session .session
    (sendOn zlib refuses streamId data now) (Session.sendOn zlib streamId data now) := by
  refine tracks_get_bind fun w => tracks_ite ?_ (tracks_throw session_injective _)
  exact (tracks_onSession _).bind fun _ => (tracks_onSession _).bind tracks_emitMux

lemma tracks_routePacket (pkt : Packet) (now : ℚ) : Tracks session .session
    (routePacket zlib refuses pkt now) (Session.routePacket zlib pkt now) := by
  refine tracks_get_bind fun w => tracks_ite (tracks_ite ?_ (tracks_ite (tracks_ite ?_ ?_) ?_)) ?_
  · exact (tracks_onSession _).bind tracks_emit
  · exact (tracks_onSession _).bind tracks_emit
  · exact tracks_pure []
  · exact tracks_pure []
  · exact (tracks_onSession _).bind fun _ => (tracks_onSession _).bind fun out =>
      (tracks_emitMux out).bind fun _ => tracks_pure []

lemma tracks_drain (maxFrames : Option ℤ) : ∀ (frames : List (Bytes × ℚ)) (processed : ℤ),
    Tracks session .session (drain zlib refuses maxFrames processed frames)
      (Session.drain zlib maxFrames processed frames)
  | [], _ => tracks_pure []
  | (frame, now) :: frames, processed => by
      rw [drain, Session.drain]
      refine tracks_ite ?_ (tracks_pure [])
      cases Packet.unpack zlib frame with
      | error e =>
          cases e with
          | PacketError error => exact tracks_drain maxFrames frames (processed + 1)
          | ValueError text => exact tracks_throw session_injective _
          | StructError => exact tracks_throw session_injective _
      | ok pkt =>
          exact (tracks_routePacket pkt now).bind fun _ =>
            (tracks_drain maxFrames frames (processed + 1)).bind fun _ => tracks_pure _

/-- **A cycle in which the channel raises nothing** is a cycle of the session. -/
theorem tracks_pump (maxFrames : Option ℤ) (frames : List (Bytes × ℚ)) (now now' : ℚ) :
    Tracks session .session (pump zlib refuses maxFrames frames now now')
      (Session.pump zlib maxFrames frames now now') :=
  (tracks_onSession _).bind fun _ => (tracks_drain maxFrames frames 0).bind fun _ =>
    (tracks_onSession _).bind fun out => (tracks_emit out).bind fun _ =>
      (tracks_onSession _).bind fun out => (tracks_emitMux out).bind fun _ => tracks_pure _

end Tracks

/-! ## What is left behind

The rules for invariants, one for each operation.
-/

variable {zlib : Bytes → ℕ} {refuses : ℕ → Bytes → Bool} {w w' : WiredSession} {α : Type}

/-- Frames that were not transmitted do not disturb the invariant. -/
def Losing (I : Session → Prop) : Prop :=
  ∀ s transmitted, transmitted ⊆ s.transmitted → I s → I { s with transmitted }

/-- Nor do bytes that were not buffered. -/
def Unbuffered (I : Session → Prop) : Prop := ∀ s recvBuffers, I s → I { s with recvBuffers }

/-- A frame that the channel takes. -/
lemma sendFrame_ok {frame : Bytes} (h : refuses w.sendCalls frame = false) :
    sendFrame refuses frame w = .ok () { w with
      sendCalls := w.sendCalls + 1
      session := { w.session with transmitted := w.session.transmitted ++ [frame] } } := by
  rw [sendFrame, get_bind, modify_bind, h, if_neg (by simp)]
  rfl

/-- A frame that it refuses; the call counts. -/
lemma sendFrame_error {frame : Bytes} (h : refuses w.sendCalls frame = true) :
    sendFrame refuses frame w = .error .channel { w with sendCalls := w.sendCalls + 1 } := by
  rw [sendFrame, get_bind, modify_bind, h, if_pos rfl]
  rfl

/-- A packet that does not fit the header cannot be packed. -/
lemma pack_eq_none {pkt : Packet} (h : ¬ pkt.FitsHeader) : pkt.pack zlib = none := by
  rw [Option.eq_none_iff_forall_ne_some]
  exact fun raw hraw => h ((exists_pack_iff zlib).mp ⟨raw, hraw⟩)

variable (zlib refuses) in
/-- **What a transmission leaves behind**: some of the frames. -/
theorem session_transmit : ∀ (pkts : List Packet) (w : WiredSession), ∃ frames,
    frames ⊆ (Session.fitting pkts).map (packed zlib) ∧
    (after (transmit zlib refuses pkts) w).session
      = { w.session with transmitted := w.session.transmitted ++ frames }
  | [], w => ⟨[], List.nil_subset _, by simp [transmit, after, pure, EStateM.pure]⟩
  | p :: pkts, w => by
      rw [transmit, Session.fitting_cons]
      by_cases hp : p.FitsHeader
      · rw [if_pos hp, pack_eq_packed hp]
        dsimp only
        cases hrefuses : refuses w.sendCalls (packed zlib p) with
        | true =>
            rw [after_bind_error (sendFrame_error hrefuses)]
            exact ⟨[], List.nil_subset _, by simp⟩
        | false =>
            rw [after_bind_ok (sendFrame_ok hrefuses)]
            obtain ⟨frames, hsub, hsession⟩ := session_transmit pkts { w with
              sendCalls := w.sendCalls + 1
              session := { w.session with
                transmitted := w.session.transmitted ++ [packed zlib p] } }
            refine ⟨packed zlib p :: frames, ?_, hsession.trans (by simp)⟩
            exact List.cons_subset_cons _ hsub
      · rw [if_neg hp, pack_eq_none hp]
        exact ⟨[], List.nil_subset _,
          (congrArg WiredSession.session (after_bind_error rfl)).trans (by simp)⟩

lemma onSession_ok {x : SessionM α} {a : α} {s : Session} (h : x w.session = .ok a s) :
    onSession x w = .ok a { w with session := s } := zoom_ok h

lemma onSession_error {x : SessionM α} {e : SessionError} {s : Session}
    (h : x w.session = .error e s) : onSession x w = .error (.session e) { w with session := s } :=
  zoom_error h

lemma preserves_onSession {I : Session → Prop} {x : SessionM α} (h : Preserves I x) :
    Preserves (fun w => I w.session) (onSession x) :=
  preserves_zoom fun w hw => h w.session hw

variable (zlib refuses) in
/-- The machine has worked. -/
lemma session_onMachine_emit (f : SessionStateMachine → Output × SessionStateMachine)
    (w : WiredSession) : ∃ frames,
      frames ⊆ (Session.fitting (f w.session.machine).1.packets).map (packed zlib) ∧
      (after (onSession (Session.onMachine f) >>= emit zlib refuses) w).session
        = { w.session with
            machine := (f w.session.machine).2
            transmitted := w.session.transmitted ++ frames } := by
  obtain ⟨frames, hsub, hsession⟩ := session_transmit zlib refuses
    (f w.session.machine).1.packets
    { w with session := { w.session with machine := (f w.session.machine).2 } }
  have hwork : onSession (Session.onMachine f) w = .ok (f w.session.machine).1
      { w with session := { w.session with machine := (f w.session.machine).2 } } := rfl
  refine ⟨frames, hsub, ?_⟩
  rw [after_bind_ok hwork, emit, after_bind fun _ _ => rfl]
  exact hsession

variable (zlib refuses) in
/-- The multiplexer has worked. -/
lemma session_onMux_emitMux (f : StreamMux → Except ValueError MuxOutput × StreamMux)
    (w : WiredSession) : ∃ frames recvBuffers,
      frames ⊆ (Session.fitting (StreamMux.observed (f w.session.mux).1).packets).map (packed zlib) ∧
      (recvBuffers = w.session.recvBuffers ∨ recvBuffers = Session.extend w.session.recvBuffers
        (StreamMux.observed (f w.session.mux).1).delivered) ∧
      (after (onSession (Session.onMux f) >>= emitMux zlib refuses) w).session
        = { w.session with
            mux := (f w.session.mux).2
            transmitted := w.session.transmitted ++ frames
            recvBuffers } := by
  cases hf : (f w.session.mux).1 with
  | error text =>
      refine ⟨[], _, List.nil_subset _, .inl rfl, ?_⟩
      rw [after_bind_error (onSession_error (Session.onMux_error hf)), List.append_nil]
  | ok out =>
      obtain ⟨frames, hsub, hsession⟩ := session_transmit zlib refuses
        out.packets { w with session := { w.session with mux := (f w.session.mux).2 } }
      rw [after_bind_ok (onSession_ok (Session.onMux_ok hf)), emitMux]
      cases htransmit : transmit zlib refuses out.packets
          { w with session := { w.session with mux := (f w.session.mux).2 } } with
      | error e w' =>
          rw [after_error htransmit] at hsession
          rw [after_bind_error htransmit, hsession]
          exact ⟨frames, _, hsub, .inl rfl, rfl⟩
      | ok u w' =>
          rw [after_ok htransmit] at hsession
          rw [after_bind_ok htransmit]
          refine ⟨frames, _, hsub, .inr rfl, ?_⟩
          refine Eq.trans (b := { w'.session with
            recvBuffers := Session.extend w'.session.recvBuffers out.delivered }) rfl ?_
          rw [hsession]
          rfl

lemma transmits_subset {s : Session} {pkts : List Packet} {frames : List Bytes}
    (h : frames ⊆ (Session.fitting pkts).map (packed zlib)) :
    s.transmitted ++ frames ⊆ (s.transmits zlib (Session.fitting pkts)).transmitted :=
  List.append_subset.mpr ⟨List.subset_append_left _ _, List.Subset.trans h (List.subset_append_right _ _)⟩

section Preserves

variable {heard : Packet → Prop} {I : Session → Prop}

lemma preserves_onMachine_emit (h : Session.Steady zlib heard I) (hlosing : Losing I)
    {f : SessionStateMachine → Output × SessionStateMachine} (i : MachineInput)
    (hf : ∀ m, f m = m.apply i) (hi : ∀ pkt now, i = .packet pkt now → heard pkt) :
    Preserves (fun w => I w.session) (onSession (Session.onMachine f) >>= emit zlib refuses) := by
  intro w hw
  obtain ⟨frames, hsub, hsession⟩ := session_onMachine_emit zlib refuses f w
  rw [hf] at hsub hsession
  have hwork := h.reacts w.session i hw hi
  show I (after _ w).session
  rw [hsession]
  exact hlosing _ _ (transmits_subset hsub) hwork

lemma preserves_onMux_emitMux (h : Session.Steady zlib heard I) (hlosing : Losing I)
    (hunbuffered : Unbuffered I) {f : StreamMux → Except ValueError MuxOutput × StreamMux}
    (op : MuxOp) (hf : ∀ mux : StreamMux, (StreamMux.observed (f mux).1, (f mux).2) = mux.apply op)
    (hop : ∀ pkt now, op = .onPacket pkt now → heard pkt)
    (hsend : ∀ streamId data now, op ≠ .send streamId data now) :
    Preserves (fun w => I w.session) (onSession (Session.onMux f) >>= emitMux zlib refuses) := by
  intro w hw
  obtain ⟨frames, recvBuffers, hsub, -, hsession⟩ :=
    session_onMux_emitMux zlib refuses f w
  have hwork := h.works w.session op hw hop hsend
  rw [Session.works, ← hf] at hwork
  show I (after _ w).session
  rw [hsession]
  refine hunbuffered _ recvBuffers (hlosing _ (w.session.transmitted ++ frames) ?_ hwork)
  exact transmits_subset hsub

/-- **Beginning the handshake.** -/
theorem preserves_connect (h : Session.Steady zlib heard I) (hlosing : Losing I) (now : ℚ) :
    Preserves (fun w => I w.session) (connect zlib refuses now) :=
  preserves_onMachine_emit h hlosing (.connect now) (fun _ => rfl) (by simp)

/-- **Beginning to close.** -/
theorem preserves_close (h : Session.Steady zlib heard I) (hlosing : Losing I) (now : ℚ) :
    Preserves (fun w => I w.session) (close zlib refuses now) :=
  preserves_onMachine_emit h hlosing (.close now) (fun _ => rfl) (by simp)

/-- **A packet that is routed.** -/
theorem preserves_routePacket (h : Session.Steady zlib heard I) (hlosing : Losing I)
    (hunbuffered : Unbuffered I) {pkt : Packet} (hpkt : heard pkt) (now : ℚ) :
    Preserves (fun w => I w.session) (routePacket zlib refuses pkt now) := by
  have hmachine : Preserves (fun w => I w.session)
      (onSession (Session.onMachine fun m => m.onPacket pkt now) >>= emit zlib refuses) :=
    preserves_onMachine_emit h hlosing (.packet pkt now) (fun _ => rfl) (by rintro _ _ ⟨⟩; exact hpkt)
  have hmux : Preserves (fun w => I w.session)
      (onSession (Session.onMux fun mux => mux.onPacket pkt now) >>= emitMux zlib refuses) :=
    preserves_onMux_emitMux h hlosing hunbuffered (.onPacket pkt now) (fun _ => rfl)
      (by rintro _ _ ⟨⟩; exact hpkt) (by simp)
  refine preserves_get_bind fun w => preserves_ite
    (preserves_ite hmachine (preserves_ite (preserves_ite hmachine ?_) ?_)) ?_
  · exact preserves_pure []
  · exact preserves_pure []
  · exact (preserves_onSession (h.noteDataActivity now)).bind fun _ =>
      hmux.bind_bind fun _ => preserves_pure []

/-- **The frames of a cycle.** -/
theorem preserves_drain (h : Session.Steady zlib heard I) (hlosing : Losing I)
    (hunbuffered : Unbuffered I) (maxFrames : Option ℤ) : ∀ {frames : List (Bytes × ℚ)}
    {processed : ℤ}, (∀ f ∈ frames, ∀ pkt, Packet.unpack zlib f.1 = .ok pkt → heard pkt) →
      Preserves (fun w => I w.session) (drain zlib refuses maxFrames processed frames)
  | [], _, _ => preserves_pure []
  | (frame, now) :: frames, processed, hframes => by
      obtain ⟨hframe, hrest⟩ := List.forall_mem_cons.mp hframes
      rw [drain]
      refine preserves_ite ?_ (preserves_pure [])
      cases hunpack : Packet.unpack zlib frame with
      | error e =>
          cases e with
          | PacketError e => exact preserves_drain h hlosing hunbuffered maxFrames hrest
          | ValueError text => exact preserves_throw _
          | StructError => exact preserves_throw _
      | ok pkt =>
          exact (preserves_routePacket h hlosing hunbuffered (hframe pkt hunpack) now).bind fun _ =>
            (preserves_drain h hlosing hunbuffered maxFrames hrest).bind fun _ => preserves_pure _

/-- **A whole cycle.** -/
theorem preserves_pump (h : Session.Steady zlib heard I) (hlosing : Losing I)
    (hunbuffered : Unbuffered I) (maxFrames : Option ℤ) {frames : List (Bytes × ℚ)}
    (hframes : ∀ f ∈ frames, ∀ pkt, Packet.unpack zlib f.1 = .ok pkt → heard pkt) (now now' : ℚ) :
    Preserves (fun w => I w.session) (pump zlib refuses maxFrames frames now now') := by
  have hmachine : Preserves (fun w => I w.session)
      (onSession (Session.onMachine fun m => m.onTick now) >>= emit zlib refuses) :=
    preserves_onMachine_emit h hlosing (.tick now) (fun _ => rfl) (by simp)
  have hmux : Preserves (fun w => I w.session) (onSession (Session.onMux fun mux =>
      ((.ok (mux.onTick now').1 : Except ValueError MuxOutput), (mux.onTick now').2))
        >>= emitMux zlib refuses) :=
    preserves_onMux_emitMux h hlosing hunbuffered (.onTick now') (fun _ => rfl) (by simp) (by simp)
  exact (preserves_onSession h.syncSessionId).bind fun _ =>
    (preserves_drain h hlosing hunbuffered maxFrames hframes).bind fun _ =>
      hmachine.bind_bind fun _ => hmux.bind_bind fun _ => preserves_pure _

end Preserves

/-- A send delivers nothing. -/
lemma delivered_send (mux : StreamMux) (streamId : ℤ) (data : Bytes) (now : ℚ) :
    (StreamMux.observed (mux.send streamId data now).1).delivered = Dict.empty := by
  rw [StreamMux.send]
  cases mux.endpoint streamId <;> rfl

lemma recvBuffers_works_send (s : Session) (streamId : ℤ) (data : Bytes) (now : ℚ) :
    (s.works zlib (.send streamId data now)).recvBuffers = s.recvBuffers := by
  have hnone : (s.mux.apply (.send streamId data now)).1.delivered = Dict.empty :=
    delivered_send s.mux streamId data now
  rw [Session.works, hnone]
  dsimp only
  split_ifs <;> rfl

/-- **What a send leaves behind**: nothing, or the whole work but for some of the frames. -/
theorem session_sendOn (streamId : ℤ) (data : Bytes) (now : ℚ) (w : WiredSession) :
    let s := (w.session.works zlib (.setSessionId w.session.machine.sessionId)).works zlib
      (.send streamId data now)
    (after (sendOn zlib refuses streamId data now) w).session = w.session ∨
      ∃ transmitted, transmitted ⊆ s.transmitted ∧
        (after (sendOn zlib refuses streamId data now) w).session = { s with transmitted } := by
  rw [Session.works_of_silent (.setSessionId w.session.machine.sessionId) rfl]
  intro s
  rw [sendOn, after_get_bind]
  split_ifs with hestablished
  · have hsync : onSession Session.syncSessionId w = .ok () { w with session := { w.session with
        mux := w.session.mux.setSessionId w.session.machine.sessionId } } := rfl
    obtain ⟨frames, recvBuffers, hsub, hbuffers, hsession⟩ :=
      session_onMux_emitMux zlib refuses
        (fun mux => mux.send streamId data now)
        { w with session := { w.session with
            mux := w.session.mux.setSessionId w.session.machine.sessionId } }
    have hsame : recvBuffers = w.session.recvBuffers := by
      rcases hbuffers with hbuffers | hbuffers
      · exact hbuffers
      · rw [hbuffers, delivered_send]
        rfl
    have hkept : s.recvBuffers = w.session.recvBuffers := recvBuffers_works_send ..
    refine .inr ⟨w.session.transmitted ++ frames, transmits_subset hsub, ?_⟩
    rw [after_bind_ok hsync, hsession, hsame, ← hkept]
    rfl
  · exact .inl rfl

/-! ## A channel that takes what is written

The condition for a send to return, on the packets and on the calls they will need, from the count
at which it starts.
-/

variable (zlib refuses) in
/-- The packets fit the header, and the channel takes their frames when `send_frame` is called for
the `n`-th time and on. -/
def Takes : ℕ → List Packet → Prop
  | _, [] => True
  | n, pkt :: pkts => pkt.FitsHeader ∧ refuses n (packed zlib pkt) = false ∧ Takes (n + 1) pkts

instance : (n : ℕ) → (pkts : List Packet) → Decidable (Takes zlib refuses n pkts)
  | _, [] => isTrue trivial
  | n, _ :: pkts =>
      have := instDecidableTakes (n + 1) pkts
      inferInstanceAs (Decidable (_ ∧ _ ∧ _))

/-- The channel has taken the frames of packets. -/
def transmits (zlib : Bytes → ℕ) (w : WiredSession) (pkts : List Packet) : WiredSession where
  session := w.session.transmits zlib pkts
  sendCalls := w.sendCalls + pkts.length

/-- **A transmission that the channel takes**: every frame is written, and counted. -/
theorem transmit_ok : ∀ {pkts : List Packet} {w : WiredSession},
    Takes zlib refuses w.sendCalls pkts →
      transmit zlib refuses pkts w = .ok () (w.transmits zlib pkts)
  | [], w, _ => by
      simp [transmits, Session.transmits, transmit, pure, EStateM.pure]
  | pkt :: pkts, w, h => by
      obtain ⟨hfits, htaken, hrest⟩ := h
      rw [transmit, pack_eq_packed hfits]
      refine (bind_ok (sendFrame_ok htaken)).trans ((transmit_ok hrest).trans ?_)
      simp [transmits, Session.transmits, Nat.add_comm, Nat.add_left_comm]

/-- **One that it does not take** raises: a packet does not fit, or its frame is refused. -/
theorem transmit_error : ∀ {pkts : List Packet} {w : WiredSession},
    ¬ Takes zlib refuses w.sendCalls pkts → ∃ e w', transmit zlib refuses pkts w = .error e w'
  | [], _, h => absurd trivial h
  | pkt :: pkts, w, h => by
      by_cases hfits : pkt.FitsHeader
      · rw [transmit, pack_eq_packed hfits]
        cases hrefuses : refuses w.sendCalls (packed zlib pkt) with
        | true => exact ⟨_, _, bind_error (sendFrame_error hrefuses)⟩
        | false =>
            have hrest : ¬ Takes zlib refuses (w.sendCalls + 1) pkts := fun hpkts =>
              h ⟨hfits, hrefuses, hpkts⟩
            obtain ⟨e, w', htransmit⟩ : ∃ e w', transmit zlib refuses pkts { w with
                sendCalls := w.sendCalls + 1
                session := { w.session with
                  transmitted := w.session.transmitted ++ [packed zlib pkt] } } = .error e w' :=
              transmit_error hrest
            exact ⟨e, w', (bind_ok (sendFrame_ok hrefuses)).trans htransmit⟩
      · rw [transmit, pack_eq_none hfits]
        exact ⟨_, _, rfl⟩

/-- The packets that the multiplexer of a session emits for some data. -/
def emitted (s : Session) (streamId : ℤ) (data : Bytes) (now : ℚ) : List Packet :=
  (StreamMux.observed ((s.mux.setSessionId s.machine.sessionId).send streamId data now).1).packets

/-- A send on a session that is not established has no effect. -/
lemma sendOn_error {streamId : ℤ} {data : Bytes} {now : ℚ}
    (hstate : w.session.machine.state ≠ .Established) : sendOn zlib refuses streamId data now w
      = .error (.session (.notEstablished w.session.machine.state)) w := by
  have hnot : ¬ w.session.machine.isEstablished = true := fun h => hstate (of_decide_eq_true h)
  rw [sendOn, get_bind, if_neg hnot]
  rfl

/-- A send on an established session is the work of its multiplexer. -/
lemma sendOn_established {streamId : ℤ} {data : Bytes} {now : ℚ}
    (hestablished : w.session.machine.state = .Established) :
    sendOn zlib refuses streamId data now w =
      (onSession (Session.onMux fun mux => mux.send streamId data now) >>= emitMux zlib refuses)
        { w with session := { w.session with
            mux := w.session.mux.setSessionId w.session.machine.sessionId } } := by
  have hiff : w.session.machine.isEstablished = true := decide_eq_true hestablished
  rw [sendOn, get_bind, if_pos hiff]
  exact bind_ok rfl

/-- **What a send leaves** when the multiplexer takes the data and the channel the frames. -/
theorem sendOn_taken {streamId : ℤ} {data : Bytes} {now : ℚ} {out : MuxOutput}
    (hestablished : w.session.machine.state = .Established)
    (hsend : ((w.session.mux.setSessionId w.session.machine.sessionId).send streamId data now).1
      = .ok out)
    (htakes : Takes zlib refuses w.sendCalls out.packets) :
    ∃ session, sendOn zlib refuses streamId data now w
        = .ok () { session, sendCalls := w.sendCalls + out.packets.length } ∧
      session.machine = w.session.machine ∧ session.mux =
        ((w.session.mux.setSessionId w.session.machine.sessionId).send streamId data now).2 := by
  rw [sendOn_established hestablished, bind_ok (onSession_ok (Session.onMux_ok hsend)), emitMux]
  have htransmit := transmit_ok (w := { w with session := { w.session with
    mux := ((w.session.mux.setSessionId w.session.machine.sessionId).send streamId data now).2 } })
    htakes
  refine ⟨_, (bind_ok htransmit).trans rfl, ?_, ?_⟩
  · rfl
  · rfl

/-- **A send that one of them does not take** raises. -/
theorem sendOn_refused {streamId : ℤ} {data : Bytes} {now : ℚ}
    (hestablished : w.session.machine.state = .Established)
    (h : ¬ ∃ out, ((w.session.mux.setSessionId w.session.machine.sessionId).send streamId data
      now).1 = .ok out ∧ Takes zlib refuses w.sendCalls out.packets) :
    ∃ e w', sendOn zlib refuses streamId data now w = .error e w' := by
  rw [sendOn_established hestablished]
  cases hsend : ((w.session.mux.setSessionId w.session.machine.sessionId).send streamId data now).1 with
  | error text => exact ⟨_, _, bind_error (onSession_error (Session.onMux_error hsend))⟩
  | ok out =>
      have hnot : ¬ Takes zlib refuses w.sendCalls out.packets := fun htakes =>
        h ⟨out, hsend, htakes⟩
      rw [bind_ok (onSession_ok (Session.onMux_ok hsend)), emitMux]
      obtain ⟨e, w', htransmit⟩ := transmit_error (w := { w with session := { w.session with
        mux := ((w.session.mux.setSessionId w.session.machine.sessionId).send streamId data
          now).2 } }) hnot
      exact ⟨e, w', bind_error htransmit⟩

/-- **A send that the channel takes**, when the parameters of the multiplexer are usable. -/
theorem sendOn_ok {streamId : ℤ} {data : Bytes} {now : ℚ}
    (hestablished : w.session.machine.state = .Established) (husable : w.session.mux.Usable)
    (htakes : Takes zlib refuses w.sendCalls (emitted w.session streamId data now)) :
    ∃ w', sendOn zlib refuses streamId data now w = .ok () w' := by
  have hsynced : (w.session.mux.setSessionId w.session.machine.sessionId).Usable := husable
  obtain ⟨out, hout⟩ := hsynced.send_ok streamId data now
  have hpackets : emitted w.session streamId data now = out.packets := by rw [emitted, hout]; rfl
  rw [hpackets] at htakes
  obtain ⟨session, hsent, -⟩ := sendOn_taken hestablished hout htakes
  exact ⟨_, hsent⟩

end WiredSession

end PhotonTCP
