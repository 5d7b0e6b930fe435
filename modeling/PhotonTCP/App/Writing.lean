import PhotonTCP.App.Receiving
import PhotonTCP.Session.Reconnection

/-!
# What an end of a file transfer writes

A cycle of either end pumps the session, takes what waits on the stream, and handles the frames in
it; what it does to the session from there on is to send.

* `StreamWriter` — a session and what was written on a stream of it; `StreamWriter.Sends`.
* `Writes` — a computation that does nothing to the session but send; such computations compose.
* `Silent` — a computation of an end that writes nothing.
* **`SessionSender.pump_writes`**, **`SessionReceiver.pump_writes`** — the cycles of both ends.

An invariant of two sessions says what a `send_on` does to them and what a cycle does.  An operation
of the file transfer is a cycle and then any number of calls of `send_on`, decided by frames that
have just arrived.  To use the invariant one has to know that there is nothing else; and this is
what is proved here, by going through the computations once, with a lemma for each way of putting
computations together.
-/

namespace PhotonTCP

open Raising

/-! ## Writers

What the two ends have in common, seen from the session.
-/

/-- A session, a stream, the time that the clock shows, and what was written on the stream. -/
structure StreamWriter where
  session : Session
  streamId : ℤ
  now : ℚ
  written : Bytes

/-- The writer has sent pieces of data, one after the other. -/
structure StreamWriter.Sends (zlib : Bytes → ℕ) (w w' : StreamWriter) (datas : List Bytes) :
    Prop where
  session : (datas.forM fun data => Session.sendOn zlib w.streamId data w.now) w.session
    = .ok () w'.session
  written : w'.written = w.written ++ datas.flatten
  streamId : w'.streamId = w.streamId
  now : w'.now = w.now

namespace StreamWriter.Sends

variable {zlib : Bytes → ℕ} {w w' w'' : StreamWriter} {datas datas' : List Bytes}

lemma refl (w : StreamWriter) : Sends zlib w w [] := ⟨rfl, (List.append_nil _).symm, rfl, rfl⟩

lemma trans (h : Sends zlib w w' datas) (h' : Sends zlib w' w'' datas') :
    Sends zlib w w'' (datas ++ datas') := by
  refine ⟨?_, ?_, h'.streamId.trans h.streamId, h'.now.trans h.now⟩
  · have hrest := h'.session
    rw [h.streamId, h.now] at hrest
    rw [List.forM_eq_forM, List.forM_append]
    exact (bind_ok h.session).trans hrest
  · rw [h'.written, h.written, List.flatten_append, List.append_assoc]

/-- A writer whose session and record are the same has sent nothing. -/
lemma of_eq (h : w' = w) : Sends zlib w w' [] := by
  rw [h]
  exact refl w

end StreamWriter.Sends

/-! ## Computations that only send

The rules of a small program logic: for `pure`, for `>>=`, for reading and changing the state, for
`if` and for loops.
-/

section Writes

variable {ε σ α β : Type} {zlib : Bytes → ℕ} {view : σ → StreamWriter} {x : EStateM ε σ α}
  {f : α → EStateM ε σ β}

/-- When the computation succeeds, it has done nothing to the session but send. -/
def Writes (zlib : Bytes → ℕ) (view : σ → StreamWriter) (x : EStateM ε σ α) : Prop :=
  ∀ s a s', x s = .ok a s' → ∃ datas, (view s).Sends zlib (view s') datas

/-- What does not touch the writer sends nothing. -/
lemma writes_of_view (h : ∀ s a s', x s = .ok a s' → view s' = view s) : Writes zlib view x :=
  fun s a s' hrun => ⟨[], .of_eq (h s a s' hrun)⟩

lemma writes_pure (a : α) : Writes zlib view (pure a : EStateM ε σ α) := by
  refine writes_of_view fun s b s' h => ?_
  obtain ⟨-, rfl⟩ := EStateM.Result.ok.inj h
  rfl

/-- One after the other. -/
lemma Writes.bind (hx : Writes zlib view x) (hf : ∀ a, Writes zlib view (f a)) :
    Writes zlib view (x >>= f) := by
  intro s b s'' h
  obtain ⟨a, s', hrun, hrest⟩ := bind_eq_ok h
  obtain ⟨datas, hsends⟩ := hx s a s' hrun
  obtain ⟨datas', hsends'⟩ := hf a s' b s'' hrest
  exact ⟨datas ++ datas', hsends.trans hsends'⟩

lemma writes_get_bind {f : σ → EStateM ε σ β} (h : ∀ t, Writes zlib view (f t)) :
    Writes zlib view (get >>= f) := fun s b s' hrun => h s s b s' hrun

lemma writes_modify {g : σ → σ} (h : ∀ s, view (g s) = view s) :
    Writes zlib view (modify g : EStateM ε σ Unit) := by
  refine writes_of_view fun s b s' hrun => ?_
  obtain ⟨-, rfl⟩ := EStateM.Result.ok.inj hrun
  exact h s

lemma writes_ite {y : EStateM ε σ α} {p : Prop} [Decidable p] (hx : Writes zlib view x)
    (hy : Writes zlib view y) : Writes zlib view (if p then x else y) := by
  split_ifs
  · exact hx
  · exact hy

lemma writes_forM {γ : Type} {g : γ → EStateM ε σ PUnit} (h : ∀ c, Writes zlib view (g c)) :
    ∀ cs : List γ, Writes zlib view (cs.forM g)
  | [] => writes_pure _
  | c :: cs => (h c).bind fun _ => writes_forM h cs

end Writes

/-! ## Ends that write nothing

These are the parts of an operation that do not touch the session.
-/

/-- When the computation succeeds, nothing was written. -/
def Silent {R α : Type} (x : FileM R α) : Prop := ∀ e a e', x e = .ok a e' → e'.written = e.written

lemma silent_modify {R : Type} {g : FileEnd R → FileEnd R} (h : ∀ e, (g e).written = e.written) :
    Silent (modify g : FileM R Unit) := by
  rintro e a e' hrun
  obtain ⟨-, rfl⟩ := EStateM.Result.ok.inj hrun
  exact h e

lemma silent_setState {R : Type} (state : FileTransferState) :
    Silent (FileEnd.setState (R := R) state) := silent_modify fun _ => rfl

lemma silent_modifyFile (f : IncomingFile → IncomingFile) : Silent (FileReceiver.modifyFile f) :=
  silent_modify fun _ => rfl

lemma silent_feed {R : Type} (chunk : Bytes) : Silent (FileEnd.feed (R := R) chunk) := by
  rintro e frames e' hrun
  rcases hfeed : e.reassembler.feed chunk with ⟨text | got, r⟩
  · rw [FileEnd.feed_error hfeed] at hrun
    cases hrun
  · rw [FileEnd.feed_ok hfeed] at hrun
    obtain ⟨-, rfl⟩ := EStateM.Result.ok.inj hrun
    rfl

/-- A sender writes when its offer is accepted. -/
lemma FileSender.silent_handleFrame {f : FileFrame} (h : f.type ≠ .Accept) :
    Silent (FileSender.handleFrame f) := by
  rintro s a s' hrun
  rw [FileSender.handleFrame, get_bind] at hrun
  cases htype : f.type with
  | Accept => exact absurd htype h
  | Offer | Chunk | Done =>
      simp only [htype] at hrun
      obtain ⟨-, rfl⟩ := EStateM.Result.ok.inj hrun
      rfl
  | Reject | Ack | Nack =>
      simp only [htype] at hrun
      split_ifs at hrun
      · exact silent_setState _ s a s' hrun
      · obtain ⟨-, rfl⟩ := EStateM.Result.ok.inj hrun
        rfl

lemma FileReceiver.silent_offerIsValid (loads : JsonLoads) (body : Bytes) :
    Silent (FileReceiver.offerIsValid loads body) := by
  rintro r a r' hrun
  by_cases hmalformed : Malformed loads body
  · rw [offerIsValid_of_malformed hmalformed] at hrun
    obtain ⟨-, rfl⟩ := EStateM.Result.ok.inj hrun
    rfl
  · obtain ⟨offer, hdeclares⟩ := not_forall_not.mp hmalformed
    rw [offerIsValid_of_declares hdeclares] at hrun
    obtain ⟨-, rfl⟩ := EStateM.Result.ok.inj hrun
    rfl

/-! ## The sender

Each of its functions, by the rules.
-/

namespace SessionSender

variable {zlib : Bytes → ℕ} {refuses : ℕ → Bytes → Bool} {sha256Hex : Bytes → String}
  {d d' : SessionSender}

/-- The sender, as a writer. -/
def writer (d : SessionSender) : StreamWriter where
  session := d.session
  streamId := d.streamId
  now := d.now
  written := d.sender.written

lemma writes_onSender {α : Type} {x : FileM OutgoingFile α} (h : Silent x) :
    Writes zlib writer (onSender x) := by
  refine writes_of_view fun d a d' hrun => ?_
  obtain ⟨s, hx, rfl⟩ := zoom_eq_ok hrun
  rw [writer, writer, h _ _ _ hx]

lemma writes_sendOn (frame : Except ValueError Bytes) :
    Writes zlib writer (sendOn zlib refuses frame) := by
  rintro d a d' h
  cases frame with
  | error text => cases h
  | ok bytes =>
      rw [sendOn, get_bind] at h
      obtain ⟨_, d₁, hsend, h⟩ := bind_eq_ok h
      obtain ⟨w, hwired, rfl⟩ := zoom_eq_ok hsend
      obtain ⟨-, rfl⟩ := EStateM.Result.ok.inj h
      have hsession := (WiredSession.tracks_sendOn d.streamId bytes d.now).1 d.wired () w hwired
      refine ⟨[bytes], ?_, ?_, rfl, rfl⟩
      · rw [List.forM_eq_forM, List.forM_cons]
        exact bind_ok hsession
      · rw [List.flatten_singleton]
        rfl

lemma writes_sendAllChunksAndDone : Writes zlib writer (sendAllChunksAndDone zlib refuses) :=
  writes_get_bind fun _ => (writes_forM (fun _ => writes_sendOn _) _).bind fun _ =>
    (writes_sendOn _).bind fun _ => writes_onSender (silent_setState _)

lemma writes_handleFrame (f : FileFrame) : Writes zlib writer (handleFrame zlib refuses f) := by
  refine writes_get_bind fun d => ?_
  by_cases htype : f.type = .Accept
  · simp only [htype]
    exact writes_ite ((writes_onSender (silent_setState _)).bind fun _ =>
      writes_sendAllChunksAndDone) (writes_pure _)
  · have hsilent : Writes zlib writer (onSender (FileSender.handleFrame f)) :=
      writes_onSender (FileSender.silent_handleFrame htype)
    cases htype' : f.type with
    | Accept => exact absurd htype' htype
    | _ => exact hsilent

lemma writes_readChunks (chunks : List Bytes) : Writes zlib writer (readChunks zlib refuses chunks) :=
  writes_forM (fun chunk => (writes_onSender (silent_feed chunk)).bind fun _ =>
    writes_forM writes_handleFrame _) chunks

lemma refines_readChunks (chunks : List Bytes) :
    Refines sender (readChunks zlib refuses chunks >>= fun _ => do return (← get).sender.state)
      (FileSender.pump chunks) := by
  have hread : Refines sender (readChunks zlib refuses chunks) _ :=
    refines_forM (fun chunk => (refines_onSender (FileEnd.feed chunk)).bind fun got =>
      refines_forM (refines_handleFrame zlib refuses) got) chunks
  refine hread.bind fun _ => ?_
  rintro e a e' he
  obtain ⟨rfl, rfl⟩ := EStateM.Result.ok.inj he
  rfl

/-- **A cycle that raises nothing**: the session's own cycle, the frames in what waits on the
stream, and what is sent for them. -/
theorem pump_writes {arrived : List Bytes} {state : FileTransferState}
    (h : pump zlib refuses arrived d = .ok state d') :
    ∃ events session datas,
      Session.pump zlib none (arrived.map fun frame => (frame, d.now)) d.now d.now d.session
        = .ok events session ∧
      FileSender.pump (session.buffered d.streamId) d.sender = .ok state d'.sender ∧
      StreamWriter.Sends zlib
        { d.writer with
          session := { session with recvBuffers := session.recvBuffers.erase d.streamId } }
        d'.writer datas := by
  rw [pump, get_bind] at h
  obtain ⟨events, d₁, hpump, h⟩ := bind_eq_ok h
  obtain ⟨w, hwired, rfl⟩ := zoom_eq_ok hpump
  have hsession := (WiredSession.tracks_pump none (arrived.map fun frame => (frame, d.now)) d.now
    d.now).1 d.wired events w hwired
  obtain ⟨chunks, d₂, hrecv, h⟩ := bind_eq_ok h
  obtain ⟨rfl, rfl⟩ := EStateM.Result.ok.inj hrecv
  have hread := refines_readChunks _ _ _ _ h
  obtain ⟨_, d₃, hwrite, hlast⟩ := bind_eq_ok h
  obtain ⟨-, rfl⟩ := EStateM.Result.ok.inj hlast
  obtain ⟨datas, hsends⟩ := writes_readChunks _ _ _ _ hwrite
  exact ⟨events, w.session, datas, hsession, hread, hsends⟩

/-- **The offer is queued**, if nothing is raised. -/
theorem start_writes (h : start zlib refuses sha256Hex d = .ok () d') :
    FileSender.start sha256Hex d.sender = .ok () d'.sender ∧ d.sender.state = .Idle ∧
      ∃ datas, d.writer.Sends zlib d'.writer datas := by
  rw [start, get_bind] at h
  rw [FileSender.start, get_bind]
  split_ifs at h ⊢ with hidle
  · exact ⟨((refines_sendOn zlib refuses _).bind fun _ => refines_onSender _) d () d' h, hidle,
      ((writes_sendOn _).bind fun _ => writes_onSender (silent_setState _)) d () d' h⟩
  · cases h

end SessionSender

/-! ## The receiver

As the sender; its channel refuses nothing.
-/

namespace SessionReceiver

variable {zlib : Bytes → ℕ} {sha256Hex : Bytes → String} {loads : JsonLoads} {d d' : SessionReceiver}

/-- The receiver, as a writer. -/
def writer (d : SessionReceiver) : StreamWriter where
  session := d.session
  streamId := d.streamId
  now := d.now
  written := d.receiver.written

lemma writes_onReceiver {α : Type} {x : FileM IncomingFile α} (h : Silent x) :
    Writes zlib writer (onReceiver x) := by
  refine writes_of_view fun d a d' hrun => ?_
  rw [onReceiver_eq_zoom] at hrun
  obtain ⟨r, hx, rfl⟩ := zoom_eq_ok hrun
  rw [writer, writer, h _ _ _ hx]

lemma writes_sendOn (frame : Except ValueError Bytes) : Writes zlib writer (sendOn zlib frame) := by
  rintro d a d' h
  cases frame with
  | error text => cases h
  | ok bytes =>
      rw [sendOn, get_bind] at h
      obtain ⟨_, d₁, hsend, h⟩ := bind_eq_ok h
      rw [onSession_eq_zoom] at hsend
      obtain ⟨session, hsession, rfl⟩ := zoom_eq_ok hsend
      obtain ⟨-, rfl⟩ := EStateM.Result.ok.inj h
      refine ⟨[bytes], ?_, ?_, rfl, rfl⟩
      · rw [List.forM_eq_forM, List.forM_cons]
        exact bind_ok hsession
      · rw [List.flatten_singleton]
        rfl

/-- An answer and the state behind it. -/
lemma writes_answer (frame : Except ValueError Bytes) (state : FileTransferState) :
    Writes zlib writer (sendOn zlib frame >>= fun _ => onReceiver (FileEnd.setState state)) :=
  (writes_sendOn frame).bind fun _ => writes_onReceiver (silent_setState _)

lemma writes_handleOffer (body : Bytes) : Writes zlib writer (handleOffer zlib loads body) := by
  refine (writes_onReceiver (FileReceiver.silent_offerIsValid loads body)).bind fun valid => ?_
  exact writes_ite (writes_get_bind fun d => writes_ite (writes_answer _ _) (writes_pure _))
    (writes_answer _ _)

lemma writes_handleDone : Writes zlib writer (handleDone zlib sha256Hex) :=
  writes_get_bind fun _ => writes_ite
    ((writes_onReceiver (silent_modifyFile _)).bind fun _ => writes_answer _ _)
    ((writes_onReceiver (silent_modifyFile _)).bind fun _ => writes_answer _ _)

lemma writes_handleFrame (f : FileFrame) :
    Writes zlib writer (handleFrame zlib sha256Hex loads f) := by
  refine Writes.bind (writes_modify fun _ => rfl) fun _ => writes_get_bind fun d => ?_
  cases f.type with
  | Offer => exact writes_ite (writes_handleOffer _) (writes_pure _)
  | Chunk =>
      exact writes_ite (writes_onReceiver (silent_modifyFile _)) (writes_pure _)
  | Done => exact writes_ite writes_handleDone (writes_pure _)
  | _ => exact writes_pure _

lemma writes_readChunks (chunks : List Bytes) :
    Writes zlib writer (readChunks zlib sha256Hex loads chunks) :=
  writes_forM (fun chunk => (writes_onReceiver (silent_feed chunk)).bind fun _ =>
    writes_forM writes_handleFrame _) chunks

lemma refines_readChunks (chunks : List Bytes) : Refines receiver
    (readChunks zlib sha256Hex loads chunks >>= fun _ => do return (← get).receiver.state)
      (FileReceiver.pump sha256Hex loads chunks) := by
  have hread : Refines receiver (readChunks zlib sha256Hex loads chunks) _ :=
    refines_forM (fun chunk => (refines_onReceiver (FileEnd.feed chunk)).bind fun got =>
      refines_forM refines_handleFrame got) chunks
  refine hread.bind fun _ => ?_
  rintro e a e' he
  obtain ⟨rfl, rfl⟩ := EStateM.Result.ok.inj he
  rfl

/-- **A cycle that raises nothing.** -/
theorem pump_writes {arrived : List Bytes} {state : FileTransferState}
    (h : pump zlib sha256Hex loads arrived d = .ok state d') :
    ∃ events session datas,
      Session.pump zlib none (arrived.map fun frame => (frame, d.now)) d.now d.now d.session
        = .ok events session ∧
      FileReceiver.pump sha256Hex loads (session.buffered d.streamId) d.receiver
        = .ok state d'.receiver ∧
      StreamWriter.Sends zlib
        { d.writer with
          session := { session with recvBuffers := session.recvBuffers.erase d.streamId } }
        d'.writer datas := by
  rw [pump, get_bind] at h
  obtain ⟨events, d₁, hpump, h⟩ := bind_eq_ok h
  rw [onSession_eq_zoom] at hpump
  obtain ⟨session, hsession, rfl⟩ := zoom_eq_ok hpump
  obtain ⟨chunks, d₂, hrecv, h⟩ := bind_eq_ok h
  obtain ⟨rfl, rfl⟩ := EStateM.Result.ok.inj hrecv
  have hread := refines_readChunks _ _ _ _ h
  obtain ⟨_, d₃, hwrite, hlast⟩ := bind_eq_ok h
  obtain ⟨-, rfl⟩ := EStateM.Result.ok.inj hlast
  obtain ⟨datas, hsends⟩ := writes_readChunks _ _ _ _ hwrite
  exact ⟨events, session, datas, hsession, hread, hsends⟩

end SessionReceiver

end PhotonTCP
