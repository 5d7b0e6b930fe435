import PhotonTCP.App.Received
import PhotonTCP.Optical.Peer
import PhotonTCP.Session.Hearing

/-!
# Whether a drive notices that it was established

The drive looks at its session after every pump, and throws away the events that the pump returns.
A session that is established and closed by its peer in one pump is never seen `ESTABLISHED`.

* `stage` — the states in which the pumps of the handshake begin.
* `surfaced` — the events of such a pump.
* `pumpUntil_established` — the loop of the handshake; `reports_afterHandshake` — what follows it.
* **`established_iff`** — an establishment that was surfaced is reported exactly if some round of
  the handshake completes it and brings no FIN behind it.
* **`establishment_missed`** — two drives of which one misses it.

When this happens the drive goes on as if there were no connection, pumps until its rounds are used
up, and reports that it was never established, although its session has surfaced the event.  Which
packets come together depends on how often the drive polls.

The condition is about the rounds of the handshake, each with its state before the pump and the
packets that arrive in it.  It does not mention what the pump returns: that the packets take the
session to `ESTABLISHED`, and that no FIN comes behind the one that does, is said with the packets
and the state machine.
-/

namespace PhotonTCP.Optical

open Raising

variable (zlib : Bytes → ℕ) (loads : JsonLoads) (floatText : ℚ → String) (env : PeerEnv)
  (hold : PyFloat)

/-! ## The rounds of the handshake

The loop of the source has no record of its rounds.  `stage` follows it and lists them, and stops
where it stops.
-/

/-- The states in which the pumps of the loop begin. -/
def stage (deadline : ℚ) : ℕ → PeerState → List PeerState
  | 0, _ => []
  | rounds + 1, s =>
      match round env hold deadline s with
      | .ok true t => t ::
          match pumpChat zlib loads env t with
          | .ok _ s' => if s'.chat.isEstablished then [] else stage deadline rounds s'
          | .error _ _ => []
      | _ => []

/-- What comes before the loop. -/
def beforeHandshake (role : PeerRole) : PeerM ℚ := do
  let started ← readCounter env
  emit (.start role.name role.isInitiator)
  asInitiator role (ChatSession.connect zlib)
  emit (.connect role.isInitiator)
  return started

/-- The states in which the pumps of the handshake begin. -/
def handshakeRounds (role : PeerRole) (messages : List PyStr × List PyStr) (timeout : ℚ) :
    List PeerState :=
  match beforeHandshake zlib env role (PeerState.new role messages) with
  | .ok started s => stage zlib loads env hold (started + timeout) MAX_HANDSHAKE_ROUNDS s
  | .error _ _ => []

/-- The frames of the pump that begins now. -/
def arriving (t : PeerState) : List (Bytes × ℚ) :=
  (env.frames t.pumps).map fun frame => (frame, t.chat.now)

/-- The events that the pump that begins now surfaces. -/
def surfaced (t : PeerState) : List SessionEvent :=
  match Session.pump zlib none (arriving env t) t.chat.now t.chat.now t.chat.session with
  | .ok events _ => events
  | .error _ _ => []

/-- The packets of the pump that begins now complete the handshake. -/
def Reaches (t : PeerState) : Prop := t.chat.session.machine.Reaches (parsed zlib (arriving env t))

/-- They do, and no FIN of the session comes behind the one that completes it. -/
def Lasts (t : PeerState) : Prop := t.chat.session.machine.Lasts (parsed zlib (arriving env t))

instance (t : PeerState) : Decidable (Reaches zlib env t) :=
  inferInstanceAs (Decidable (SessionStateMachine.Reaches _ _))

instance (t : PeerState) : Decidable (Lasts zlib env t) :=
  inferInstanceAs (Decidable (SessionStateMachine.Lasts _ _))

variable {zlib loads floatText env hold} {s s' t : PeerState} {deadline : ℚ}

/-- The machine of a drive. -/
def machine (s : PeerState) : SessionStateMachine := s.chat.session.machine

/-- Reading the chunks leaves the session alone. -/
lemma session_feedChunks {chunks : List Bytes} {c c' : ChatSession} {messages : List ChatMessage}
    (h : ChatSession.feedChunks loads chunks c = .ok messages c') : c'.session = c.session := by
  rw [ChatSession.feedChunks_eq] at h
  rcases hbatch : (chatFraming loads).readBatch c.reassembler.buf chunks with ⟨text | got, buf⟩
  · rw [hbatch] at h
    cases h
  · rw [hbatch] at h
    obtain ⟨-, rfl⟩ := EStateM.Result.ok.inj h
    rfl

lemma onChat_eq_zoom {α : Type} (x : ChatM α) :
    onChat x = zoom PeerState.chat (fun s chat => { s with chat }) PeerError.session x := by
  funext s
  rw [onChat, zoom]
  cases x s.chat <;> rfl

lemma onChat_eq_ok {α : Type} {x : ChatM α} {a : α} (h : onChat x s = .ok a s') :
    ∃ chat, x s.chat = .ok a chat ∧ s' = { s with chat } := by
  rw [onChat_eq_zoom] at h
  exact zoom_eq_ok h

lemma onSession_eq_ok {α : Type} {x : SessionM α} {a : α} {c c' : ChatSession}
    (h : ChatSession.onSession x c = .ok a c') :
    ∃ session, x c.session = .ok a session ∧ c' = { c with session } := by
  rw [ChatSession.onSession_eq_zoom] at h
  exact zoom_eq_ok h

/-- A pump of the endpoint, and that of its session. -/
lemma pump_eq_ok {frames : List Bytes} {messages : List ChatMessage} {c c' : ChatSession}
    (h : ChatSession.pump zlib loads frames c = .ok messages c') :
    ∃ events session, Session.pump zlib none (frames.map fun frame => (frame, c.now)) c.now c.now
      c.session = .ok events session ∧ c'.session.machine = session.machine := by
  rw [ChatSession.pump, get_bind] at h
  obtain ⟨events, c₁, hrun, h⟩ := bind_eq_ok h
  obtain ⟨session, hsession, rfl⟩ := onSession_eq_ok hrun
  obtain ⟨chunks, c₂, hrecv, h⟩ := bind_eq_ok h
  obtain ⟨session', htake, hc₂⟩ := onSession_eq_ok hrecv
  have hsame : session'.machine = session.machine :=
    (congrArg Session.machine (EStateM.Result.ok.inj htake).2).symm
  obtain ⟨got, c₃, hfeed, h⟩ := bind_eq_ok h
  obtain ⟨u, c₄, hmodify, hreturn⟩ := bind_eq_ok h
  obtain ⟨-, rfl⟩ := EStateM.Result.ok.inj hmodify
  obtain ⟨-, rfl⟩ := EStateM.Result.ok.inj hreturn
  refine ⟨events, session, hsession, ?_⟩
  show c₃.session.machine = session.machine
  rw [session_feedChunks hfeed, hc₂, hsame]

/-- The same, for a pump of the drive. -/
lemma pumpChat_eq_ok {messages : List ChatMessage} (h : pumpChat zlib loads env t = .ok messages s') :
    ∃ events session, Session.pump zlib none (arriving env t) t.chat.now t.chat.now t.chat.session
      = .ok events session ∧ machine s' = session.machine ∧ s'.result = t.result := by
  obtain ⟨frames, t₁, hframes, h⟩ := bind_eq_ok h
  obtain ⟨rfl, rfl⟩ := EStateM.Result.ok.inj hframes
  obtain ⟨chat, hpump, rfl⟩ := onChat_eq_ok h
  obtain ⟨events, session, hsession, hmachine⟩ := pump_eq_ok hpump
  exact ⟨events, session, hsession, hmachine, rfl⟩

/-! ## The loop of the handshake

By induction on the rounds that are left; until one of them completes the handshake the session
waits.
-/

/-- The session of the drive is not established yet. -/
structure Waiting (s : PeerState) : Prop where
  state : (machine s).state ≠ .Established
  idleTimeout : 0 < (machine s).idleTimeout
  established : s.result.established = false

/-- One pump of the loop. -/
lemma Waiting.pumpChat {messages : List ChatMessage} (h : Waiting t)
    (hpump : pumpChat zlib loads env t = .ok messages s') :
    (.Established ∈ surfaced zlib env t ↔ Reaches zlib env t) ∧
      (s'.chat.isEstablished = true ↔ Lasts zlib env t) ∧
      (s'.chat.isEstablished = false → Waiting s') := by
  obtain ⟨events, session, hsession, hmachine, hresult⟩ := pumpChat_eq_ok hpump
  obtain ⟨hevents, hstate, hconfig⟩ := Session.pump_established hsession h.state h.idleTimeout
  have hestablished : s'.chat.isEstablished = true ↔ (machine s').state = .Established :=
    decide_eq_true_iff
  refine ⟨?_, ?_, fun hnot => ⟨?_, ?_, hresult ▸ h.established⟩⟩
  · rw [surfaced, hsession]
    exact hevents
  · rw [hestablished, hmachine]
    exact hstate
  · intro hstate'
    rw [hestablished.mpr hstate'] at hnot
    cases hnot
  · rw [hmachine, show session.machine.idleTimeout = _ from
      congrArg SessionStateMachine.Config.idleTimeout hconfig]
    exact h.idleTimeout

/-- Neither a pause, nor the search for an encoding, nor the check of the pause changes anything. -/
lemma after_sleep (hold : PyFloat) (s : PeerState) : after (sleep hold) s = s := by
  cases hold with
  | finite value =>
      rw [sleep]
      split_ifs <;> rfl
  | _ => rfl

lemma after_encodable (text : PyStr) (s : PeerState) : after (encodable text) s = s := by
  rw [encodable]
  cases text.toString? <;> rfl

lemma after_checkHold (s : PeerState) : after (checkHold floatText hold) s = s := by
  rw [checkHold]
  split_ifs <;> rfl

/-- A round leaves the session alone. -/
lemma Waiting.round {inBudget : Bool} (h : Waiting s)
    (hround : Optical.round env hold deadline s = .ok inBudget t) : Waiting t := by
  obtain ⟨reading, s₁, hread, hround⟩ := bind_eq_ok hround
  obtain ⟨-, rfl⟩ := EStateM.Result.ok.inj hread
  split_ifs at hround
  · obtain ⟨u, s₂, hmodify, hreturn⟩ := bind_eq_ok hround
    obtain ⟨-, rfl⟩ := EStateM.Result.ok.inj hmodify
    obtain ⟨-, rfl⟩ := EStateM.Result.ok.inj hreturn
    exact ⟨h.state, h.idleTimeout, h.established⟩
  · obtain ⟨u, s₂, hmodify, hreturn⟩ := bind_eq_ok hround
    obtain ⟨-, rfl⟩ := EStateM.Result.ok.inj hmodify
    obtain ⟨v, s₃, hsleep, hreturn⟩ := bind_eq_ok hreturn
    obtain ⟨-, rfl⟩ := EStateM.Result.ok.inj hreturn
    rw [← after_ok hsleep, after_sleep]
    exact ⟨h.state, h.idleTimeout, h.established⟩

/-- **The loop of the handshake** reports the establishment exactly if one of its rounds completes
it for good; its pumps surface it exactly if one of them completes it at all. -/
theorem pumpUntil_established : ∀ (rounds rnd : ℕ) {s s' : PeerState}, Waiting s →
    pumpUntil zlib loads env hold deadline ChatSession.isEstablished
      (fun rnd r => { r with established := true, handshakeRounds := some rnd }) rounds rnd s
        = .ok () s' →
    (s'.result.established = true ↔ ∃ t ∈ stage zlib loads env hold deadline rounds s, Lasts zlib env t) ∧
      ∀ t ∈ stage zlib loads env hold deadline rounds s,
        (.Established ∈ surfaced zlib env t ↔ Reaches zlib env t)
  | 0, _, s, s', h, hrun => by
      obtain ⟨-, rfl⟩ := EStateM.Result.ok.inj hrun
      simp [stage, h.established]
  | rounds + 1, rnd, s, s', h, hrun => by
      obtain ⟨inBudget, t, hround, hrun⟩ := bind_eq_ok hrun
      have ht := h.round hround
      rw [stage, hround]
      cases inBudget with
      | false =>
          rw [if_neg (by simp)] at hrun
          obtain ⟨-, rfl⟩ := EStateM.Result.ok.inj hrun
          simp [ht.established]
      | true =>
          rw [if_pos rfl] at hrun
          obtain ⟨messages, s₁, hpump, hrun⟩ := bind_eq_ok hrun
          obtain ⟨hsurfaced, hlasts, hwaiting⟩ := ht.pumpChat hpump
          rw [get_bind] at hrun
          dsimp only
          rw [hpump]
          dsimp only
          cases hestablished : s₁.chat.isEstablished with
          | true =>
              rw [hestablished, if_pos rfl] at hrun
              obtain ⟨-, rfl⟩ := EStateM.Result.ok.inj hrun
              simp [hsurfaced, hlasts.mp hestablished]
          | false =>
              rw [hestablished, if_neg (by simp)] at hrun
              obtain ⟨hresult, hevents⟩ := pumpUntil_established rounds (rnd + 1)
                (hwaiting hestablished) hrun
              have hnot : ¬ Lasts zlib env t := by
                rw [← hlasts, hestablished]
                simp
              rw [if_neg (by simp), hresult]
              exact ⟨by simp [hnot], List.forall_mem_cons.mpr ⟨hsurfaced, hevents⟩⟩

/-! ## What follows the handshake

The field of the result that says whether the peer was established is written in one place, and this
section says that it is not written in another.
-/

/-- Whether the drive reports the establishment. -/
def Reports (b : Bool) (s : PeerState) : Prop := s.result.established = b

variable {b : Bool}

lemma reports_emit (event : PeerEvent) : Preserves (Reports b) (emit event) :=
  preserves_modify fun _ h => h

lemma reports_modifyResult {f : PeerResult → PeerResult}
    (hf : ∀ r, (f r).established = r.established) : Preserves (Reports b) (modifyResult f) :=
  preserves_modify fun s h => (hf s.result).trans h

lemma reports_onChat {α : Type} (x : ChatM α) : Preserves (Reports b) (onChat x) := by
  rw [onChat_eq_zoom]
  exact preserves_zoom fun _ h => h

lemma reports_readCounter : Preserves (Reports b) (readCounter env) := fun _ h => h

lemma reports_round : Preserves (Reports b) (round env hold deadline) := by
  refine reports_readCounter.bind fun reading => preserves_ite ?_ ?_
  · refine Preserves.bind (reports_modifyResult ?_) fun _ => preserves_pure _
    exact fun _ => rfl
  · refine Preserves.bind (preserves_modify ?_) fun _ => Preserves.bind ?_ fun _ => preserves_pure _
    · exact fun _ h => h
    · exact fun s h => by rwa [after_sleep]

lemma reports_pumpChat : Preserves (Reports b) (pumpChat zlib loads env) := by
  refine Preserves.bind (x := modifyGet _) ?_ fun frames => reports_onChat _
  exact fun _ h => h

lemma reports_pumpUntil {reached : ChatSession → Bool} {record : ℕ → PeerResult → PeerResult}
    (hrecord : ∀ rnd r, (record rnd r).established = r.established) : ∀ rounds rnd,
    Preserves (Reports b) (pumpUntil zlib loads env hold deadline reached record rounds rnd)
  | 0, _ => preserves_pure ()
  | rounds + 1, rnd => by
      refine reports_round.bind fun inBudget => preserves_ite ?_ (preserves_pure ())
      refine reports_pumpChat.bind fun _ => preserves_get_bind fun s => preserves_ite ?_ ?_
      · exact reports_modifyResult (hrecord rnd)
      · exact reports_pumpUntil hrecord rounds (rnd + 1)

lemma reports_asInitiator (role : PeerRole) (x : ChatM (List SessionEvent)) :
    Preserves (Reports b) (asInitiator role x) :=
  preserves_ite ((reports_onChat x).bind fun _ => preserves_pure ()) (preserves_pure ())

lemma reports_sendNext : ∀ out : List PyStr, Preserves (Reports b) (sendNext zlib floatText out)
  | [] => preserves_pure _
  | text :: rest => by
      refine Preserves.bind (fun s h => by rwa [after_encodable]) fun chars =>
        (reports_onChat _).bind fun msgId => Preserves.bind (reports_modifyResult ?_) fun _ => ?_
      · exact fun _ => rfl
      · exact (reports_emit _).bind fun _ => preserves_pure _

lemma reports_exchange : ∀ (rounds : ℕ) (out : List PyStr),
    Preserves (Reports b) (exchange zlib loads floatText env hold deadline rounds out)
  | 0, _ => preserves_pure ()
  | rounds + 1, out => by
      refine reports_round.bind fun inBudget => preserves_ite ?_ (preserves_pure ())
      refine Preserves.bind ?_ fun left => ?_
      · refine (reports_sendNext out).bind fun rest => reports_pumpChat.bind fun messages => ?_
        refine (preserves_forM (fun _ => reports_emit _) messages).bind fun _ => ?_
        exact preserves_get_bind fun _ => preserves_pure _
      · cases left with
        | none => exact preserves_pure ()
        | some rest => exact reports_exchange rounds rest

/-- **What follows the handshake** leaves the report as it is. -/
lemma reports_afterHandshake (role : PeerRole) (out : List PyStr) (established : Bool) :
    Preserves (Reports b) (afterHandshake zlib loads floatText env hold role out deadline established) := by
  refine preserves_ite ?_ (preserves_pure ())
  refine (reports_exchange _ out).bind fun _ => Preserves.bind ?_ fun _ => ?_
  · refine Preserves.bind (preserves_modify ?_) fun _ => preserves_get_bind fun _ => reports_emit _
    exact fun _ h => h
  · refine (reports_asInitiator role _).bind fun _ => (reports_emit _).bind fun _ => ?_
    refine Preserves.bind (reports_pumpUntil ?_ _ _) fun _ => preserves_get_bind fun _ => ?_
    · exact fun _ _ => rfl
    · exact (reports_emit _).bind fun _ => preserves_ite (preserves_pure ()) (reports_emit _)

/-! ## The whole drive

What comes before the loop, the loop, and what comes behind it.
-/

variable {role : PeerRole} {messages : List PyStr × List PyStr} {timeout : ℚ}

lemma opening_eq (role : PeerRole) (timeout : ℚ) : opening zlib loads env hold role timeout = (do
    let started ← beforeHandshake zlib env role
    pumpUntil zlib loads env hold (started + timeout) ChatSession.isEstablished
      (fun rnd r => { r with established := true, handshakeRounds := some rnd })
      MAX_HANDSHAKE_ROUNDS 1
    let established ← afterLoop
    return (started, established)) := by
  have hhandshake : ∀ deadline, handshake zlib loads env hold role deadline = (do
      asInitiator role (ChatSession.connect zlib)
      emit (.connect role.isInitiator)
      pumpUntil zlib loads env hold deadline ChatSession.isEstablished
        (fun rnd r => { r with established := true, handshakeRounds := some rnd })
        MAX_HANDSHAKE_ROUNDS 1
      afterLoop) := fun _ => rfl
  simp only [opening, hhandshake, beforeHandshake, bind_assoc, pure_bind]

lemma reports_afterLoop : Preserves (Reports b) afterLoop := by
  refine preserves_get_bind fun s => (reports_emit _).bind fun _ => ?_
  refine preserves_ite (preserves_pure true) ?_
  exact (reports_emit _).bind fun _ => preserves_pure false

/-- Beginning the handshake establishes nothing. -/
lemma Waiting.connect {u : Unit} (h : Waiting s)
    (hrun : asInitiator role (ChatSession.connect zlib) s = .ok u s') : Waiting s' := by
  rw [asInitiator] at hrun
  split_ifs at hrun
  · obtain ⟨events, s₁, hchat, hreturn⟩ := bind_eq_ok hrun
    obtain ⟨-, rfl⟩ := EStateM.Result.ok.inj hreturn
    obtain ⟨chat, hconnect, rfl⟩ := onChat_eq_ok hchat
    rw [ChatSession.connect, get_bind] at hconnect
    obtain ⟨session, hsession, rfl⟩ := onSession_eq_ok hconnect
    obtain ⟨-, hmachine⟩ := Session.machine_onMachine_emit hsession
    refine ⟨?_, ?_, h.established⟩
    · show session.machine.state ≠ _
      rw [hmachine, SessionStateMachine.connect]
      split_ifs
      · exact h.state
      · simp [SessionStateMachine.armPending]
    · show 0 < session.machine.idleTimeout
      rw [hmachine, show (s.chat.session.machine.connect s.chat.now).2.idleTimeout = _ from
        congrArg SessionStateMachine.Config.idleTimeout
          (s.chat.session.machine.apply_frame (.connect s.chat.now)).1]
      exact h.idleTimeout
  · obtain ⟨-, rfl⟩ := EStateM.Result.ok.inj hrun
    exact h

lemma waiting_beforeHandshake {started : ℚ}
    (h : beforeHandshake zlib env role (PeerState.new role messages) = .ok started s) : Waiting s := by
  obtain ⟨reading, s₁, hread, h⟩ := bind_eq_ok h
  obtain ⟨-, rfl⟩ := EStateM.Result.ok.inj hread
  obtain ⟨u, s₂, hstart, h⟩ := bind_eq_ok h
  obtain ⟨-, rfl⟩ := EStateM.Result.ok.inj hstart
  obtain ⟨v, s₃, hconnect, h⟩ := bind_eq_ok h
  obtain ⟨w, s₄, hemit, hreturn⟩ := bind_eq_ok h
  obtain ⟨-, rfl⟩ := EStateM.Result.ok.inj hemit
  obtain ⟨-, rfl⟩ := EStateM.Result.ok.inj hreturn
  have hnew : ∀ readings emitted, Waiting { PeerState.new role messages with readings, emitted } :=
    fun readings emitted =>
      { state := by simp [machine, PeerState.new, Session.create]
        idleTimeout := (by norm_num [IDLE_TIMEOUT] : (0 : ℚ) < IDLE_TIMEOUT)
        established := rfl }
  have hwaiting : Waiting s₃ := (hnew _ _).connect hconnect
  exact ⟨hwaiting.state, hwaiting.idleTimeout, hwaiting.established⟩

/-- What the drive reports, and what the pumps of its handshake surface. -/
theorem runPeer_established {result : PeerResult}
    (h : runPeer zlib loads floatText env hold role messages timeout = .ok result s) :
    (result.established = true ↔
      ∃ t ∈ handshakeRounds zlib loads env hold role messages timeout, Lasts zlib env t) ∧
    ∀ t ∈ handshakeRounds zlib loads env hold role messages timeout,
      (.Established ∈ surfaced zlib env t ↔ Reaches zlib env t) := by
  obtain ⟨w, s₀, hcheck, h⟩ := bind_eq_ok h
  obtain rfl : s₀ = PeerState.new role messages := by
    rw [← after_ok hcheck, after_checkHold]
  obtain ⟨⟨started, established⟩, s₁, hopening, h⟩ := bind_eq_ok h
  obtain ⟨u, s₂, hafter, hfinish⟩ := bind_eq_ok h
  rw [opening_eq] at hopening
  obtain ⟨started', s₃, hbefore, hopening⟩ := bind_eq_ok hopening
  obtain ⟨v, s₄, hloop, hrest⟩ := bind_eq_ok hopening
  have hreport : result.established = s₄.result.established := by
    have hs₁ : Reports s₄.result.established s₁ := by
      rw [← after_ok hrest]
      exact Preserves.bind reports_afterLoop (fun _ => preserves_pure _) s₄ rfl
    have hs₂ : Reports s₄.result.established s₂ := by
      rw [← after_ok hafter]
      exact reports_afterHandshake role _ established s₁ hs₁
    obtain ⟨rfl, -⟩ := EStateM.Result.ok.inj hfinish
    exact hs₂
  rw [handshakeRounds, hbefore, hreport]
  exact pumpUntil_established MAX_HANDSHAKE_ROUNDS 1 (waiting_beforeHandshake hbefore) hloop

/-- **The establishment is not missed exactly if no round of the handshake completes it, or some
round completes it and no FIN of that session follows in the same round.** -/
theorem established_iff (zlib : Bytes → ℕ) (loads : JsonLoads) (floatText : ℚ → String) (env : PeerEnv)
    (hold : PyFloat) (role : PeerRole) (messages : List PyStr × List PyStr) (timeout : ℚ)
    (result : PeerResult)
    (s : PeerState) (h : runPeer zlib loads floatText env hold role messages timeout = .ok result s) :
    ((∃ t ∈ handshakeRounds zlib loads env hold role messages timeout, .Established ∈ surfaced zlib env t) →
      result.established = true) ↔
    (∀ t ∈ handshakeRounds zlib loads env hold role messages timeout, ¬ Reaches zlib env t) ∨
      ∃ t ∈ handshakeRounds zlib loads env hold role messages timeout, Lasts zlib env t := by
  obtain ⟨hestablished, hsurfaced⟩ := runPeer_established h
  rw [hestablished]
  constructor
  · intro hnever
    by_cases hreaches : ∃ t ∈ handshakeRounds zlib loads env hold role messages timeout, Reaches zlib env t
    · obtain ⟨t, ht, hreach⟩ := hreaches
      exact .inr (hnever ⟨t, ht, (hsurfaced t ht).mpr hreach⟩)
    · push Not at hreaches
      exact .inl hreaches
  · rintro (hnone | hlasts) ⟨t, ht, hmem⟩
    · exact absurd ((hsurfaced t ht).mp hmem) (hnone t ht)
    · exact hlasts

/-- The frames that a drive has written. -/
def written : EStateM.Result PeerError PeerState PeerResult → List Bytes
  | .ok _ s => s.chat.session.transmitted
  | .error _ s => s.chat.session.transmitted

/-- Whether a drive reports the establishment. -/
def noticed : EStateM.Result PeerError PeerState PeerResult → Option Bool
  | .ok result _ => some result.established
  | .error _ _ => none

lemma exists_of_noticed {outcome : EStateM.Result PeerError PeerState PeerResult} {b : Bool}
    (h : noticed outcome = some b) : ∃ result s, outcome = .ok result s ∧ result.established = b := by
  cases outcome with
  | ok result s => exact ⟨result, s, rfl, Option.some.inj h⟩
  | error e s => cases h

/-- The establishment is noticed, and some round completes the handshake with nothing behind it. -/
theorem established_iff_stays :
    noticed (runPeer zlibCrc32 (fun _ => .error "") (fun _ => "0.0") stays (.finite (2 / 5)) .sender
      ([], []) 60) = some true ∧
    ((∀ t ∈ handshakeRounds zlibCrc32 (fun _ => .error "") stays (.finite (2 / 5)) .sender ([], []) 60,
        ¬ Reaches zlibCrc32 stays t) ∨
      ∃ t ∈ handshakeRounds zlibCrc32 (fun _ => .error "") stays (.finite (2 / 5)) .sender ([], []) 60,
        Lasts zlibCrc32 stays t) := by
  have hnoticed : noticed (runPeer zlibCrc32 (fun _ => .error "") (fun _ => "0.0") stays
      (.finite (2 / 5)) .sender ([], []) 60) = some true := by decide +kernel
  obtain ⟨result, s, hrun, hestablished⟩ := exists_of_noticed hnoticed
  exact ⟨hnoticed, (established_iff zlibCrc32 (fun _ => .error "") (fun _ => "0.0") stays
    (.finite (2 / 5)) .sender ([], []) 60 result s hrun).mp fun _ => hestablished⟩

/-- A peer that is polled slowly: its second and third frame arrive together. -/
def polledSlowly (frames : List Bytes) : PeerEnv where
  perfCounter := fun _ => 0
  frames
    | 0 => frames.take 1
    | 1 => (frames.drop 1).take 2
    | 2 => frames.drop 3
    | _ => []

set_option maxRecDepth 20000 in
/-- **A drive that misses its establishment.**  Each of the two peers gets the frames of the other
one, in their order; the receiver gets the ACK of the handshake and the FIN in one pump. -/
theorem establishment_missed :
    let sender := runPeer zlibCrc32 (fun _ => .error "") (fun _ => "0.0") stays (.finite (2 / 5))
      .sender ([], []) 60
    let env := polledSlowly (written sender)
    let receiver :=
      runPeer zlibCrc32 (fun _ => .error "") (fun _ => "0.0") env (.finite (2 / 5)) .receiver ([], []) 60
    (env.frames 0 ++ env.frames 1 ++ env.frames 2 = written sender ∧
      stays.frames 0 ++ stays.frames 2 = written receiver) ∧
    noticed sender = some true ∧ noticed receiver = some false ∧
    ∃ t ∈ handshakeRounds zlibCrc32 (fun _ => .error "") env (.finite (2 / 5)) .receiver ([], []) 60,
      .Established ∈ surfaced zlibCrc32 env t := by
  decide +kernel

end PhotonTCP.Optical
