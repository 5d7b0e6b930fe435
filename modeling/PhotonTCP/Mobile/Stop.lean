import PhotonTCP.Mobile.OneSession

/-!
# The stop button

The button cancels the channel of the session that is on.  The worker looks at the switch before
each operation, so one that it has just looked at it for still gets through.

* `Adds` — what does not touch a session; `sessions_sessionStep` — what a worker does to its own.
* `Stopped`, `Fresh` — the invariants after the button was pressed.
* **`stop_stops`** — nothing but that operation gets through, and later sessions are not cancelled.

Cancelling is a flag that is checked at each operation of the channel, so it takes effect at the
next check.  The operation that has passed its check when the button is pressed cannot be called
back: it is one frame at most, since a drive does one thing at a time.  The counter of the channel
makes this a statement about numbers.

The switch belongs to a channel and a channel to a session.  A session that is launched later has a
channel of its own, and pressing the button while nothing is on does nothing.
-/

namespace PhotonTCP.Mobile

open Optical PhotonTCPApp AppThreads

/-! ## What happens to a session

Most steps add a session or leave them all alone; a worker changes its own.
-/

namespace PhotonTCPApp

variable {conv : Conversions} {app app' : PhotonTCPApp} {r : ℕ}

/-- The sessions stay, and a new one may be added; its channel is not cancelled. -/
def Adds (app app' : PhotonTCPApp) : Prop :=
  ∃ new : List PeerSession, app'.sessions = app.sessions ++ new ∧
    ∀ s ∈ new, s.channel.cancelled = false

lemma Adds.same (h : app'.sessions = app.sessions) : Adds app app' :=
  ⟨[], by rw [h, List.append_nil], fun _ hs => by cases hs⟩

lemma adds_launchSession (app : PhotonTCPApp) (reply : CameraReply) :
    Adds app (app.launchSession conv reply) := by
  rw [launchSession]
  split_ifs
  · exact .same rfl
  · cases reply with
    | connected =>
        refine ⟨[_], rfl, fun s hs => ?_⟩
        rw [List.mem_singleton.mp hs]
    | _ => exact .same rfl

lemma adds_onStartPressed (app : PhotonTCPApp) (permission : PermissionReply) (camera : CameraReply) :
    Adds app (app.onStartPressed conv permission camera) := by
  rw [onStartPressed]
  split_ifs
  · exact .same rfl
  · unfold ensurePermission
    split_ifs
    · exact adds_launchSession (app.setStatus "starting...") camera
    · cases permission with
      | granted =>
          exact adds_launchSession { app.setStatus "starting..." with permissionGranted := true } camera
      | _ => exact .same rfl

lemma adds_mainStep {action : AppAction} (h : app.mainStep conv action = some app')
    (hstop : action ≠ .stopPressed) : Adds app app' := by
  cases action with
  | startPressed permission camera =>
      obtain rfl := Option.some.inj h
      exact adds_onStartPressed app permission camera
  | stopPressed => exact absurd rfl hstop
  | editSettings role scaleInput holdInput facing =>
      rw [mainStep] at h
      split_ifs at h
      obtain rfl := Option.some.inj h
      exact .same rfl
  | runScheduled i camera =>
      obtain ⟨callback, -, rfl⟩ := Option.map_eq_some_iff.mp h
      cases callback with
      | launchSession =>
          exact adds_launchSession { app with scheduled := app.scheduled.eraseIdx i } camera
      | _ => exact .same rfl
  | _ => cases h

lemma adds_permissionStep {n : ℕ} {stage stage' : AppStage} {action : AppAction}
    (h : app.permissionStep n stage action = some (stage', app')) : Adds app app' := by
  cases stage with
  | idle =>
      cases action with
      | answer granted =>
          rw [permissionStep] at h
          split_ifs at h
          · obtain ⟨-, rfl⟩ := Prod.mk.inj (Option.some.inj h)
            exact .same rfl
          · obtain ⟨-, rfl⟩ := Prod.mk.inj (Option.some.inj h)
            exact .same rfl
      | _ => cases h
  | granted =>
      cases action with
      | proceed =>
          obtain ⟨-, rfl⟩ := Prod.mk.inj (Option.some.inj h)
          exact .same rfl
      | _ => cases h
  | _ => cases h

lemma sessions_onEvent (app : PhotonTCPApp) (conv : Conversions) (event : PeerEvent) :
    (app.onEvent conv event).sessions = app.sessions := by
  cases event <;> rfl

/-- A session's thread passes on an operation that it has checked, closes its channel, or touches no
session; it checks no operation on a cancelled channel. -/
lemma sessions_sessionStep {stage stage' : AppStage} {action : AppAction}
    (h : app.sessionStep conv r stage action = some (stage', app')) :
    stage = .checked ∧ stage' = .driving ∧ app'.sessions = app.sessions.modify r PeerSession.transport ∨
    stage' ≠ .checked ∧ app'.sessions = app.sessions.modify r PeerSession.close ∨
    app'.sessions = app.sessions ∧ ∀ s : PeerSession, app.sessions[r]? = some s →
      s.channel.cancelled = true → stage' ≠ .checked := by
  cases stage with
  | idle =>
      cases action with
      | begin =>
          rw [sessionStep] at h
          split_ifs at h
          obtain ⟨rfl, rfl⟩ := Prod.mk.inj (Option.some.inj h)
          exact Or.inr (Or.inr ⟨rfl, by simp⟩)
      | _ => cases h
  | driving =>
      refine Or.inr (Or.inr ?_)
      cases action with
      | transport =>
          obtain ⟨s, hs, hpair⟩ := Option.map_eq_some_iff.mp h
          obtain ⟨rfl, rfl⟩ := Prod.mk.inj hpair
          refine ⟨rfl, fun s' hs' hcancelled => ?_⟩
          obtain rfl := Option.some.inj (hs'.symm.trans hs)
          rw [if_pos hcancelled]
          simp
      | progress event =>
          obtain ⟨rfl, rfl⟩ := Prod.mk.inj (Option.some.inj h)
          exact ⟨sessions_onEvent app conv event, by simp⟩
      | finish result =>
          obtain ⟨rfl, rfl⟩ := Prod.mk.inj (Option.some.inj h)
          exact ⟨rfl, by simp⟩
      | fail exc =>
          obtain ⟨rfl, rfl⟩ := Prod.mk.inj (Option.some.inj h)
          exact ⟨rfl, by simp⟩
      | _ => cases h
  | checked =>
      cases action with
      | proceed =>
          obtain ⟨rfl, rfl⟩ := Prod.mk.inj (Option.some.inj h)
          exact Or.inl ⟨rfl, rfl, rfl⟩
      | _ => cases h
  | unwinding outcome =>
      cases action with
      | proceed =>
          obtain ⟨rfl, rfl⟩ := Prod.mk.inj (Option.some.inj h)
          exact Or.inr (Or.inl ⟨by simp, rfl⟩)
      | _ => cases h
  | reporting outcome =>
      cases action with
      | proceed =>
          obtain ⟨rfl, rfl⟩ := Prod.mk.inj (Option.some.inj h)
          refine Or.inr (Or.inr ⟨?_, by simp⟩)
          cases outcome with
          | returned result => exact sessions_onEvent app conv (.done result)
          | _ => rfl
      | _ => cases h
  | leaving =>
      cases action with
      | proceed =>
          obtain ⟨rfl, rfl⟩ := Prod.mk.inj (Option.some.inj h)
          exact Or.inr (Or.inr ⟨rfl, by simp⟩)
      | _ => cases h
  | _ => cases h

end PhotonTCPApp

namespace AppThreads

variable {conv : Conversions} {t : AppThreads} {r n : ℕ}

/-- The session has been stopped, and at most `n` of its operations have been passed on, with the
one that has already been checked. -/
def Stopped (r n : ℕ) (t : AppThreads) : Prop :=
  ∃ s : PeerSession, t.shared.sessions[r]? = some s ∧ s.channel.cancelled = true ∧
    s.channel.transported + (if t.stage (.session r) = .checked then 1 else 0) ≤ n

/-- The sessions after the session `r` are not cancelled. -/
def Fresh (r : ℕ) (t : AppThreads) : Prop :=
  ∀ (i : ℕ) (s : PeerSession), r < i → t.shared.sessions[i]? = some s → s.channel.cancelled = false

/-- Sessions are added, or one is touched in such a way that its channel stays cancelled and no
operation is passed on. -/
lemma Stopped.congr (h : Stopped r n t) {t' : AppThreads}
    (hstage : t'.stage (.session r) = .checked → t.stage (.session r) = .checked)
    (hsessions : ∀ s : PeerSession, t.shared.sessions[r]? = some s → ∃ s' : PeerSession,
      t'.shared.sessions[r]? = some s' ∧ s.Becomes s' ∧
        s'.channel.transported = s.channel.transported) : Stopped r n t' := by
  obtain ⟨s, hs, hcancelled, hn⟩ := h
  obtain ⟨s', hs', hbecomes, htransported⟩ := hsessions s hs
  refine ⟨s', hs', hbecomes.cancelled hcancelled, ?_⟩
  rw [htransported]
  split_ifs at hn ⊢ with hafter hbefore
  · exact hn
  · exact absurd (hstage hafter) hbefore
  · omega
  · exact hn

/-- What is added does not touch the session. -/
lemma Stopped.adds (h : Stopped r n t) {t' : AppThreads} (hadds : Adds t.shared t'.shared)
    (hstage : t'.stage (.session r) = t.stage (.session r)) : Stopped r n t' := by
  obtain ⟨new, hnew, -⟩ := hadds
  refine h.congr (fun hchecked => hstage.symm.trans hchecked) fun s hs => ⟨s, ?_, .refl s, rfl⟩
  rw [hnew, List.getElem?_append_left (List.getElem?_eq_some_iff.mp hs).1, hs]

/-- One session is touched. -/
lemma Stopped.modify (h : Stopped r n t) {t' : AppThreads} {i : ℕ} {f : PeerSession → PeerSession}
    (hsessions : t'.shared.sessions = t.shared.sessions.modify i f)
    (hstage : t'.stage (.session r) = .checked → t.stage (.session r) = .checked)
    (hf : i = r → ∀ s : PeerSession, s.Becomes (f s) ∧
      (f s).channel.transported = s.channel.transported) : Stopped r n t' := by
  refine h.congr hstage fun s hs => ?_
  rw [hsessions, List.getElem?_modify, hs]
  by_cases hi : i = r
  · exact ⟨f s, by simp [hi], (hf hi s).1, (hf hi s).2⟩
  · exact ⟨s, by simp [hi], .refl s, rfl⟩

/-- **A session that is stopped stays so.** -/
theorem Stopped.step (h : Stopped r n t) {i : AppThread} {a : AppAction} {l : AppStage}
    {app' : PhotonTCPApp} (hstep : PhotonTCPApp.step conv i (t.stage i) a t.shared = some (l, app')) :
    Stopped r n (t.move i l app') := by
  cases i with
  | main =>
      have hstage : (t.move .main l app').stage (.session r) = t.stage (.session r) :=
        Threads.stage_move_of_ne (by simp)
      obtain ⟨app'', hmain, hpair⟩ := Option.map_eq_some_iff.mp hstep
      obtain ⟨-, rfl⟩ := Prod.mk.inj hpair
      by_cases hstop : a = .stopPressed
      · subst hstop
        obtain rfl := Option.some.inj hmain
        cases hchannel : t.shared.channel with
        | none =>
            refine h.adds (.same ?_) hstage
            simp only [Threads.shared_move, onStop, hchannel]
        | some i =>
            refine h.modify (i := i) ?_ (fun hchecked => hstage.symm.trans hchecked)
              fun _ s => ⟨s.becomes_cancel, rfl⟩
            simp only [Threads.shared_move, onStop, hchannel]
      · exact h.adds (adds_mainStep hmain hstop) hstage
  | permission k =>
      exact h.adds (adds_permissionStep hstep) (Threads.stage_move_of_ne (by simp))
  | session i =>
      by_cases hi : i = r
      · subst hi
        have hself : (t.move (.session i) l app').stage (.session i) = l := Threads.stage_move_self
        rcases sessions_sessionStep hstep with ⟨hchecked, rfl, hpass⟩ | ⟨hl, hclose⟩ | ⟨hsame, hl⟩
        · -- the operation that was checked is passed on
          obtain ⟨s, hs, hcancelled, hn⟩ := h
          refine ⟨s.transport, ?_, hcancelled, ?_⟩
          · rw [Threads.shared_move, hpass, List.getElem?_modify_eq, hs]
            rfl
          · rw [hself, if_neg (by simp)]
            rwa [if_pos hchecked] at hn
        · exact h.modify hclose (fun hchecked => absurd (hself.symm.trans hchecked) hl)
            fun _ s => ⟨s.becomes_close, rfl⟩
        · have hne : l ≠ .checked := by
            obtain ⟨s, hs, hcancelled, -⟩ := h
            exact hl s hs hcancelled
          refine h.congr (fun hchecked => absurd (hself.symm.trans hchecked) hne) fun s hs =>
            ⟨s, ?_, .refl s, rfl⟩
          rw [Threads.shared_move, hsame, hs]
      · have hstage : (t.move (.session i) l app').stage (.session r) = t.stage (.session r) :=
          Threads.stage_move_of_ne (by simpa using Ne.symm hi)
        have hchecked : (t.move (.session i) l app').stage (.session r) = .checked →
            t.stage (.session r) = .checked := fun hchecked => hstage.symm.trans hchecked
        rcases sessions_sessionStep hstep with ⟨-, -, hpass⟩ | ⟨-, hclose⟩ | ⟨hsame, -⟩
        · exact h.modify hpass hchecked fun heq => absurd heq hi
        · exact h.modify hclose hchecked fun heq => absurd heq hi
        · exact h.adds (.same hsame) hstage

/-- **A later session is cancelled by the stop button only.** -/
theorem Fresh.step (h : Fresh r t) {i : AppThread} {a : AppAction} {l : AppStage} {app' : PhotonTCPApp}
    (hstep : PhotonTCPApp.step conv i (t.stage i) a t.shared = some (l, app'))
    (hstop : a ≠ .stopPressed) : Fresh r (t.move i l app') := by
  have hadds : Adds t.shared app' → Fresh r (t.move i l app') := by
    rintro ⟨new, hnew, hfresh⟩ i s hi hs
    rw [Threads.shared_move, hnew] at hs
    rcases Nat.lt_or_ge i t.shared.sessions.length with hold | hge
    · rw [List.getElem?_append_left hold] at hs
      exact h i s hi hs
    · rw [List.getElem?_append_right hge] at hs
      exact hfresh s (List.mem_of_getElem? hs)
  have hmodify : ∀ (k : ℕ) (f : PeerSession → PeerSession),
      app'.sessions = t.shared.sessions.modify k f →
      (∀ s : PeerSession, (f s).channel.cancelled = s.channel.cancelled) →
      Fresh r (t.move i l app') := by
    intro k f hsessions hf i s' hi hs'
    rw [Threads.shared_move, hsessions, List.getElem?_modify] at hs'
    obtain ⟨s, hs, rfl⟩ := Option.map_eq_some_iff.mp hs'
    have hfresh := h i s hi hs
    split_ifs
    · exact (hf s).trans hfresh
    · exact hfresh
  cases i with
  | main =>
      obtain ⟨app'', hmain, hpair⟩ := Option.map_eq_some_iff.mp hstep
      obtain ⟨-, rfl⟩ := Prod.mk.inj hpair
      exact hadds (adds_mainStep hmain hstop)
  | permission k => exact hadds (adds_permissionStep hstep)
  | session i =>
      rcases sessions_sessionStep hstep with ⟨-, -, hpass⟩ | ⟨-, hclose⟩ | ⟨hsame, -⟩
      · exact hmodify _ _ hpass fun _ => rfl
      · exact hmodify _ _ hclose fun _ => rfl
      · exact hadds (.same hsame)

/-- The stop button is not pressed. -/
def NotStopped (_ : AppThreads) (act : AppThread × AppAction) : Prop := act.2 ≠ .stopPressed

instance (t : AppThreads) (act : AppThread × AppAction) : Decidable (NotStopped t act) :=
  inferInstanceAs (Decidable (_ ≠ _))

end AppThreads

/-- **Stop stops this session, and no other.**  When the button is pressed while the session `r` is
on: whatever follows, its channel stays cancelled, and no operation is passed on except for one that
had checked the switch before; and as long as the button is not pressed again, no later session is
cancelled. -/
theorem stop_stops {conv : Conversions} {granted : Bool} {t : AppThreads}
    (h : (system conv).Reach Transition.free (PhotonTCPApp.start granted) t) {r : ℕ}
    (hr : t.shared.channel = some r) :
    ∃ s : PeerSession, t.shared.sessions[r]? = some s ∧
      (∀ t', (system conv).Reach Transition.free ((system conv).next t (.main, .stopPressed)) t' →
        ∃ s' : PeerSession, t'.shared.sessions[r]? = some s' ∧ s'.channel.cancelled = true ∧
          s'.channel.transported ≤
            s.channel.transported + if t.stage (.session r) = .checked then 1 else 0) ∧
      ∀ t', (system conv).Reach NotStopped ((system conv).next t (.main, .stopPressed)) t' →
        ∀ (i : ℕ) (s' : PeerSession), r < i → t'.shared.sessions[i]? = some s' →
          s'.channel.cancelled = false := by
  obtain ⟨r', hrunning⟩ : ∃ r, Running t r := by
    refine (Tidy.of_reach h).phase.resolve_right fun hidle => ?_
    rw [show t.shared.channel = none from congrArg Attributes.channel hidle.attributes] at hr
    cases hr
  obtain rfl : r' = r :=
    Option.some.inj ((congrArg Attributes.channel hrunning.attributes).symm.trans hr)
  have hlength := hrunning.length
  obtain ⟨s, hs⟩ : ∃ s : PeerSession, t.shared.sessions[r']? = some s :=
    ⟨_, List.getElem?_eq_getElem (by omega)⟩
  have hnext : (system conv).next t (.main, .stopPressed)
      = t.move .main (t.stage .main) t.shared.onStop := rfl
  have hsessions : t.shared.onStop.sessions = t.shared.sessions.modify r' PeerSession.cancel := by
    simp only [onStop, hr]
  rw [hnext]
  refine ⟨s, hs, fun t' h' => ?_, fun t' h' => ?_⟩
  · have hstopped : Stopped r'
        (s.channel.transported + if t.stage (.session r') = .checked then 1 else 0)
        (t.move .main (t.stage .main) t.shared.onStop) := by
      refine ⟨s.cancel, ?_, rfl, ?_⟩
      · rw [Threads.shared_move, hsessions, List.getElem?_modify_eq, hs]
        rfl
      · rw [Threads.stage_move_of_ne (by simp)]
        exact le_rfl
    obtain ⟨s', hs', hcancelled, hn⟩ := Threads.invariant h' hstopped
      fun _ _ _ _ _ hstopped _ hstep => hstopped.step hstep
    exact ⟨s', hs', hcancelled, (Nat.le_add_right _ _).trans hn⟩
  · have hfresh : Fresh r' (t.move .main (t.stage .main) t.shared.onStop) := by
      intro i s hi hs
      rw [Threads.shared_move, hsessions] at hs
      have hlt := (List.getElem?_eq_some_iff.mp hs).1
      rw [List.length_modify] at hlt
      omega
    exact Threads.invariant h' hfresh fun _ _ _ _ _ hfresh hstop hstep => hfresh.step hstep hstop

/-- When the button is pressed, the session has just checked the switch. -/
theorem stop_stops_twoStarts : ∃ t : AppThreads, t.stage (.session 0) = .checked ∧
    ∃ s : PeerSession, t.shared.sessions[0]? = some s ∧
      (∀ t', (system fewTexts).Reach Transition.free
          ((system fewTexts).next t (.main, .stopPressed)) t' →
        ∃ s' : PeerSession, t'.shared.sessions[0]? = some s' ∧ s'.channel.cancelled = true ∧
          s'.channel.transported ≤
            s.channel.transported + if t.stage (.session 0) = .checked then 1 else 0) ∧
      ∀ t', (system fewTexts).Reach NotStopped ((system fewTexts).next t (.main, .stopPressed)) t' →
        ∀ (i : ℕ) (s' : PeerSession), 0 < i → t'.shared.sessions[i]? = some s' →
          s'.channel.cancelled = false := by
  obtain ⟨t, hreach, hchecked, hchannel⟩ := (system fewTexts).exists_reach_of_exec Transition.free
    twoStarts (PhotonTCPApp.start false)
    (fun t => t.stage (.session 0) = .checked ∧ t.shared.channel = some 0) (by decide +kernel)
  exact ⟨t, hchecked, stop_stops hreach hchannel⟩

end PhotonTCP.Mobile
