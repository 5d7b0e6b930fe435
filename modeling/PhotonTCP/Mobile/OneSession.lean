import PhotonTCP.Mobile.App

/-!
# One session at a time

The start button can be pressed while the permission is being asked for, and what it schedules may
run later; a worker ends before its devices are released.  Still there is never a second session.

* `Continues`, `Opens`, `Releases` — all that a step can do to the sessions and to what belongs to
  them.
* **`mainStep_cases`**, **`sessionStep_cases`** — what the main thread and a worker do.
* `Running`, `Idle`, `Tidy` — the invariant; **`Tidy.step`** — one step of one thread keeps it.
* **`one_session`** — there is one session at most, and the controls and the devices belong to it.

The proof does not follow the steps one by one through the invariant.  A step of any thread is one
of four kinds, seen from the sessions: they go on, one is launched, one ends, or the devices are
released.  Which steps are of which kind is proved once, and the invariant is a matter of the kinds.

A session is on from its launch to the teardown of its devices.  In this time the attributes are its
own, the start button does nothing, and what is scheduled contains one teardown at most, and this
only when its worker has ended.  Otherwise there is no session, and nothing but a launch changes
that.
-/

namespace PhotonTCP.Mobile

open Optical

namespace PeerSession

/-- The settings are such that `run_peer` and `encode_frame` accept them. -/
def Accepted (s : PeerSession) : Prop :=
  1 ≤ s.channel.scale ∧ 0 < s.hold ∧ s.channel.hold = s.hold

/-- The same session later: a channel stays cancelled and stays closed. -/
structure Becomes (s s' : PeerSession) : Prop where
  hold : s'.hold = s.hold
  scale : s'.channel.scale = s.channel.scale
  channelHold : s'.channel.hold = s.channel.hold
  cancelled : s.channel.cancelled = true → s'.channel.cancelled = true
  closed : s.channel.closed = true → s'.channel.closed = true

variable {s s' : PeerSession}

lemma Becomes.refl (s : PeerSession) : s.Becomes s := ⟨rfl, rfl, rfl, id, id⟩

lemma Becomes.accepted (h : s.Becomes s') (hs : s.Accepted) : s'.Accepted := by
  rw [Accepted, h.hold, h.scale, h.channelHold]
  exact hs

/-- A channel that is cancelled. -/
lemma becomes_cancel (s : PeerSession) : s.Becomes s.cancel := ⟨rfl, rfl, rfl, fun _ => rfl, id⟩
/-- One that is closed. -/
lemma becomes_close (s : PeerSession) : s.Becomes s.close := ⟨rfl, rfl, rfl, id, fun _ => rfl⟩
/-- One that has passed an operation on. -/
lemma becomes_transport (s : PeerSession) : s.Becomes s.transport := ⟨rfl, rfl, rfl, id, id⟩

end PeerSession

/-! ## What a step does to the application

For each method, which kind of step it is.
-/

namespace PhotonTCPApp

/-- The attributes that belong to a session, and the controls. -/
structure Attributes where
  worker : Option ℕ
  channel : Option ℕ
  display : Option ℕ
  camera : Option ℕ
  preview : Option ℕ
  previewSlot : Option ℕ
  running : Bool
  settingsDisabled : Bool
  startDisabled : Bool
  stopDisabled : Bool

/-- All of them belong to the session `r`. -/
def Attributes.on (r : ℕ) : Attributes :=
  ⟨some r, some r, some r, some r, some r, some r, true, true, true, false⟩

/-- There is no session. -/
def Attributes.off : Attributes := ⟨none, none, none, none, none, none, false, false, false, true⟩

/-- As they are now. -/
def attributes (app : PhotonTCPApp) : Attributes where
  worker := app.worker
  channel := app.channel
  display := app.display
  camera := app.camera
  preview := app.preview
  previewSlot := app.previewSlot
  running := app.running
  settingsDisabled := app.settingsDisabled
  startDisabled := app.startDisabled
  stopDisabled := app.stopDisabled

variable {conv} {app app' app'' : PhotonTCPApp} {r : ℕ}

/-- The sessions go on as they were. -/
structure Continues (app app' : PhotonTCPApp) : Prop where
  attributes : app'.attributes = app.attributes
  length : app'.sessions.length = app.sessions.length
  sessions : ∀ (r : ℕ) (s' : PeerSession), app'.sessions[r]? = some s' →
    ∃ s : PeerSession, app.sessions[r]? = some s ∧ s.Becomes s'
  teardowns : app'.scheduled.count .teardown = app.scheduled.count .teardown

/-- A session is launched. -/
structure Opens (app app' : PhotonTCPApp) : Prop where
  attributes : app'.attributes = .on app.sessions.length
  sessions : ∃ s : PeerSession, app'.sessions = app.sessions ++ [s] ∧ s.Accepted ∧
    s.channel.cancelled = false
  teardowns : app'.scheduled.count .teardown = app.scheduled.count .teardown

namespace Continues

lemma refl (app : PhotonTCPApp) : Continues app app :=
  ⟨rfl, rfl, fun _ s h => ⟨s, h, .refl s⟩, rfl⟩

/-- The sessions are the same. -/
lemma same (hattributes : app'.attributes = app.attributes) (hsessions : app'.sessions = app.sessions)
    (hteardowns : app'.scheduled.count .teardown = app.scheduled.count .teardown) :
    Continues app app' := by
  refine ⟨hattributes, congrArg _ hsessions, fun r s h => ⟨s, ?_, .refl s⟩, hteardowns⟩
  rwa [← hsessions]

lemma ui (app : PhotonTCPApp) {callback : Callback} (h : callback ≠ .teardown) :
    Continues app (app.ui callback) := by
  refine same rfl rfl ?_
  rw [PhotonTCPApp.ui, List.count_append, List.count_singleton, if_neg (by simpa using h)]
  rfl

lemma setStatus (app : PhotonTCPApp) (text : String) : Continues app (app.setStatus text) :=
  ui app (by simp)

/-- One session goes on. -/
lemma modify (app : PhotonTCPApp) (r : ℕ) {f : PeerSession → PeerSession}
    (hf : ∀ s, PeerSession.Becomes s (f s)) :
    Continues app { app with sessions := app.sessions.modify r f } := by
  refine ⟨rfl, List.length_modify .., fun i s' h => ?_, rfl⟩
  rw [List.getElem?_modify] at h
  obtain ⟨s, hs, rfl⟩ := Option.map_eq_some_iff.mp h
  refine ⟨s, hs, ?_⟩
  split_ifs
  · exact hf s
  · exact .refl s

/-- A status is shown as well. -/
lemma trans_setStatus (h : Continues app app') (text : String) :
    Continues app (app'.setStatus text) := by
  have hstatus := setStatus app' text
  exact ⟨hstatus.attributes.trans h.attributes, hstatus.length.trans h.length, h.sessions,
    hstatus.teardowns.trans h.teardowns⟩

lemma onEvent (app : PhotonTCPApp) (conv : Conversions) (event : PeerEvent) :
    Continues app (app.onEvent conv event) := by
  cases event <;> exact setStatus app _

lemma report (app : PhotonTCPApp) (conv : Conversions) (outcome : Outcome) :
    Continues app (app.report conv outcome) := by
  cases outcome with
  | returned result => exact onEvent app conv (.done result)
  | cancelled => exact setStatus app _
  | failed exc => exact setStatus app _

end Continues

/-- The settings that are read are accepted. -/
lemma readSettings_accepted (conv : Conversions) (app : PhotonTCPApp) :
    1 ≤ (app.readSettings conv).2.1 ∧ 0 < (app.readSettings conv).2.2.1 := by
  rw [readSettings]
  constructor
  · cases conv.int app.scaleInput with
    | none => norm_num [DEFAULT_SCALE]
    | some scale => exact le_max_left _ _
  · cases conv.float app.holdInput with
    | none => norm_num [DEFAULT_HOLD]
    | some hold => exact lt_max_of_lt_left (by norm_num [MIN_HOLD])

/-- While a session runs, none is launched. -/
lemma launchSession_on (h : app.attributes = .on r) (reply : CameraReply) :
    app.launchSession conv reply = app :=
  if_pos (congrArg Attributes.running h)

/-- **A launch** with no session running. -/
lemma launchSession_off (conv : Conversions) (h : app.attributes = .off) (reply : CameraReply) :
    Continues app (app.launchSession conv reply) ∨ Opens app (app.launchSession conv reply) := by
  have hrunning : ¬ app.running = true := by
    rw [show app.running = false from congrArg Attributes.running h]
    exact Bool.false_ne_true
  obtain ⟨hscale, hhold⟩ := app.readSettings_accepted conv
  rw [launchSession, if_neg hrunning]
  cases reply with
  | noPreview error => exact Or.inl (.setStatus app _)
  | unavailable exc =>
      have hslot : ({ app with previewSlot := none } : PhotonTCPApp).attributes = app.attributes := by
        rw [attributes, ← show app.previewSlot = none from congrArg Attributes.previewSlot h]
        rfl
      exact Or.inl ((Continues.same hslot rfl rfl).trans_setStatus _)
  | connected =>
      have hstatus := Continues.setStatus app
      exact Or.inr ⟨rfl, ⟨_, rfl, ⟨hscale, hhold, rfl⟩, rfl⟩, (hstatus _).teardowns⟩

/-- A launch is preceded by something that changes neither the attributes nor the sessions. -/
lemma launches_of_same (h : Continues app' app'' ∨ Opens app' app'')
    (hattributes : app'.attributes = app.attributes) (hsessions : app'.sessions = app.sessions)
    (hteardowns : app'.scheduled.count .teardown = app.scheduled.count .teardown) :
    Continues app app'' ∨ Opens app app'' := by
  refine h.imp (fun h => ⟨h.attributes.trans hattributes, ?_, ?_, h.teardowns.trans hteardowns⟩)
    fun h => ⟨?_, ?_, h.teardowns.trans hteardowns⟩
  · rw [h.length, hsessions]
  · rw [← hsessions]
    exact h.sessions
  · rw [h.attributes, hsessions]
  · rw [← hsessions]
    exact h.sessions

lemma ensurePermission_off (h : app.attributes = .off) (permission : PermissionReply)
    (camera : CameraReply) : Continues app (app.ensurePermission conv permission camera) ∨
      Opens app (app.ensurePermission conv permission camera) := by
  unfold ensurePermission
  split_ifs
  · exact launchSession_off conv h camera
  · cases permission with
    | unavailable exc => exact Or.inl (.setStatus app _)
    | granted =>
        have hgranted : ({ app with permissionGranted := true } : PhotonTCPApp).attributes = .off := h
        exact launches_of_same (launchSession_off conv hgranted camera) rfl rfl rfl
    | requested => exact Or.inl (.same rfl rfl (Continues.setStatus app _).teardowns)
    | refused exc => exact Or.inl ((Continues.setStatus app _).trans_setStatus _)

lemma onStartPressed_on (h : app.attributes = .on r) (permission : PermissionReply)
    (camera : CameraReply) : app.onStartPressed conv permission camera = app :=
  if_pos (congrArg Attributes.running h)

/-- **The start button** with no session running. -/
lemma onStartPressed_off (h : app.attributes = .off) (permission : PermissionReply)
    (camera : CameraReply) : Continues app (app.onStartPressed conv permission camera) ∨
      Opens app (app.onStartPressed conv permission camera) := by
  have hrunning : ¬ app.running = true := by
    rw [show app.running = false from congrArg Attributes.running h]
    exact Bool.false_ne_true
  have hstatus := Continues.setStatus app "starting..."
  rw [onStartPressed, if_neg hrunning]
  exact launches_of_same (ensurePermission_off (hstatus.attributes.trans h) permission camera)
    hstatus.attributes rfl hstatus.teardowns

lemma continues_onStop (app : PhotonTCPApp) : Continues app app.onStop := by
  rw [onStop]
  cases app.channel with
  | none => exact .refl app
  | some r =>
      have hcancel := Continues.modify app r PeerSession.becomes_cancel
      exact hcancel.trans_setStatus "stopping..."

/-- The session has ended and the devices are released. -/
structure Releases (app app' : PhotonTCPApp) : Prop where
  attributes : app'.attributes = .off
  sessions : app'.sessions = app.sessions
  teardowns : app.scheduled.count .teardown = app'.scheduled.count .teardown + 1

lemma attributes_teardown (h : app.attributes = .off ∨ ∃ r, app.attributes = .on r) :
    app.teardown.attributes = .off := by
  have hslot : (if app.preview.isSome then none else app.previewSlot) = none := by
    rcases h with hoff | ⟨r, hon⟩
    · rw [show app.previewSlot = none from congrArg Attributes.previewSlot hoff, ite_self]
    · rw [show app.preview = some r from congrArg Attributes.preview hon]
      rfl
  rw [attributes, teardown, setRunning, hslot]
  rfl

/-- **What the main thread does**: the sessions go on, one is launched while there is none, or the
devices are released. -/
theorem mainStep_cases {action : AppAction} (h : app.mainStep conv action = some app')
    (hattributes : app.attributes = .off ∨ ∃ r, app.attributes = .on r) :
    Continues app app' ∨ app.attributes = .off ∧ Opens app app' ∨ Releases app app' := by
  cases action with
  | startPressed permission camera =>
      obtain rfl := Option.some.inj h
      rcases hattributes with hoff | ⟨r, hon⟩
      · exact (onStartPressed_off hoff permission camera).imp_right fun hopens => Or.inl ⟨hoff, hopens⟩
      · rw [onStartPressed_on hon]
        exact Or.inl (.refl app)
  | stopPressed =>
      obtain rfl := Option.some.inj h
      exact Or.inl (continues_onStop app)
  | editSettings role scaleInput holdInput facing =>
      rw [mainStep] at h
      split_ifs at h
      obtain rfl := Option.some.inj h
      exact Or.inl (.same rfl rfl rfl)
  | runScheduled i camera =>
      obtain ⟨callback, hcallback, rfl⟩ := Option.map_eq_some_iff.mp h
      obtain ⟨hi, hget⟩ := List.getElem?_eq_some_iff.mp hcallback
      have hcount : app.scheduled.count .teardown = (app.scheduled.eraseIdx i).count .teardown
          + if callback = .teardown then 1 else 0 := by
        have hperm := (List.getElem_cons_eraseIdx_perm hi).count_eq Callback.teardown
        rw [hget, List.count_cons] at hperm
        rw [← hperm]
        simp
      cases callback with
      | setStatus text =>
          have hsame : (app.scheduled.eraseIdx i).count .teardown = app.scheduled.count .teardown := by
            simpa using hcount.symm
          exact Or.inl (.same rfl rfl hsame)
      | launchSession =>
          have hsame : (app.scheduled.eraseIdx i).count .teardown = app.scheduled.count .teardown := by
            simpa using hcount.symm
          rcases hattributes with hoff | ⟨r, hon⟩
          · have herased : ({ app with scheduled := app.scheduled.eraseIdx i } : PhotonTCPApp).attributes
                = .off := hoff
            have hlaunch : Continues app _ ∨ Opens app _ :=
              launches_of_same (launchSession_off conv herased camera) rfl rfl hsame
            exact hlaunch.imp_right fun hopens => Or.inl ⟨hoff, hopens⟩
          · have herased : ({ app with scheduled := app.scheduled.eraseIdx i } : PhotonTCPApp).attributes
                = .on r := hon
            rw [run, launchSession_on herased]
            exact Or.inl (.same rfl rfl hsame)
      | teardown =>
          have hmore : app.scheduled.count .teardown
              = (app.scheduled.eraseIdx i).count .teardown + 1 := by
            simpa using hcount
          exact Or.inr (Or.inr ⟨attributes_teardown hattributes, rfl, hmore⟩)
  | _ => cases h

/-- The callback of a permission request leaves the sessions alone. -/
lemma continues_permissionStep {n : ℕ} {stage stage' : AppStage} {action : AppAction}
    (h : app.permissionStep n stage action = some (stage', app')) : Continues app app' := by
  cases stage with
  | idle =>
      cases action with
      | answer granted =>
          rw [permissionStep] at h
          split_ifs at h
          · obtain ⟨rfl, rfl⟩ := Prod.mk.inj (Option.some.inj h)
            exact .same rfl rfl rfl
          · obtain ⟨rfl, rfl⟩ := Prod.mk.inj (Option.some.inj h)
            exact .setStatus app _
      | _ => cases h
  | granted =>
      cases action with
      | proceed =>
          obtain ⟨rfl, rfl⟩ := Prod.mk.inj (Option.some.inj h)
          exact .ui app (by simp)
      | _ => cases h
  | _ => cases h

/-- **What a session's thread does**: it ends and schedules the teardown, or the sessions go on. -/
theorem sessionStep_cases {stage stage' : AppStage} {action : AppAction}
    (h : app.sessionStep conv r stage action = some (stage', app')) :
    stage = .leaving ∧ stage' = .ended ∧ app' = app.ui .teardown ∨
    Continues app app' ∧ stage ≠ .ended ∧ stage' ≠ .ended ∧ stage' ≠ .idle ∧
      (stage = .idle → r < app.sessions.length) ∧
      (stage'.Closed → stage.Closed ∨ app'.sessions = app.sessions.modify r PeerSession.close) := by
  cases stage with
  | idle =>
      cases action with
      | begin =>
          rw [sessionStep] at h
          split_ifs at h with hr
          obtain ⟨rfl, rfl⟩ := Prod.mk.inj (Option.some.inj h)
          exact Or.inr ⟨.refl app, by simp, by simp, by simp, fun _ => hr, False.elim⟩
      | _ => cases h
  | driving =>
      refine Or.inr ?_
      cases action with
      | transport =>
          obtain ⟨s, -, hs⟩ := Option.map_eq_some_iff.mp h
          obtain ⟨rfl, rfl⟩ := Prod.mk.inj hs
          split_ifs
          · exact ⟨.refl app, by simp, by simp, by simp, by simp, False.elim⟩
          · exact ⟨.refl app, by simp, by simp, by simp, by simp, False.elim⟩
      | progress event =>
          obtain ⟨rfl, rfl⟩ := Prod.mk.inj (Option.some.inj h)
          exact ⟨.onEvent app conv event, by simp, by simp, by simp, by simp, False.elim⟩
      | finish result =>
          obtain ⟨rfl, rfl⟩ := Prod.mk.inj (Option.some.inj h)
          exact ⟨.refl app, by simp, by simp, by simp, by simp, False.elim⟩
      | fail exc =>
          obtain ⟨rfl, rfl⟩ := Prod.mk.inj (Option.some.inj h)
          exact ⟨.refl app, by simp, by simp, by simp, by simp, False.elim⟩
      | _ => cases h
  | checked =>
      cases action with
      | proceed =>
          obtain ⟨rfl, rfl⟩ := Prod.mk.inj (Option.some.inj h)
          exact Or.inr ⟨.modify app r PeerSession.becomes_transport, by simp, by simp, by simp, by simp,
            False.elim⟩
      | _ => cases h
  | unwinding outcome =>
      cases action with
      | proceed =>
          obtain ⟨rfl, rfl⟩ := Prod.mk.inj (Option.some.inj h)
          exact Or.inr ⟨.modify app r PeerSession.becomes_close, by simp, by simp, by simp, by simp,
            fun _ => Or.inr rfl⟩
      | _ => cases h
  | reporting outcome =>
      cases action with
      | proceed =>
          obtain ⟨rfl, rfl⟩ := Prod.mk.inj (Option.some.inj h)
          exact Or.inr ⟨.report app conv outcome, by simp, by simp, by simp, by simp,
            fun _ => Or.inl trivial⟩
      | _ => cases h
  | leaving =>
      cases action with
      | proceed =>
          obtain ⟨rfl, rfl⟩ := Prod.mk.inj (Option.some.inj h)
          exact Or.inl ⟨rfl, rfl, rfl⟩
      | _ => cases h
  | _ => cases h

end PhotonTCPApp

open PhotonTCPApp

/-! ## The invariant

It is in one of two forms, according to whether there is a session that is on.
-/

namespace AppThreads

/-- The worker of the session has been started and has not ended. -/
def Alive (t : AppThreads) (r : ℕ) : Prop :=
  r < t.shared.sessions.length ∧ t.stage (.session r) ≠ .ended

/-- The session `r` is on, or has ended and waits for the teardown. -/
structure Running (t : AppThreads) (r : ℕ) : Prop where
  attributes : t.shared.attributes = .on r
  length : t.shared.sessions.length = r + 1
  past : ∀ i < r, t.stage (.session i) = .ended
  future : ∀ i > r, t.stage (.session i) = .idle
  teardowns : t.shared.scheduled.count .teardown = if t.stage (.session r) = .ended then 1 else 0

/-- All sessions have ended. -/
structure Idle (t : AppThreads) : Prop where
  attributes : t.shared.attributes = .off
  past : ∀ i < t.shared.sessions.length, t.stage (.session i) = .ended
  future : ∀ i ≥ t.shared.sessions.length, t.stage (.session i) = .idle
  teardowns : t.shared.scheduled.count .teardown = 0

/-- One session is on at most; a drive that is over has closed its channel. -/
structure Tidy (t : AppThreads) : Prop where
  phase : (∃ r, Running t r) ∨ Idle t
  closed : ∀ (r : ℕ) (s : PeerSession), t.shared.sessions[r]? = some s →
    (t.stage (.session r)).Closed → s.channel.closed = true
  settings : ∀ s ∈ t.shared.sessions, s.Accepted

variable {conv : Conversions} {t t' : AppThreads} {app' : PhotonTCPApp} {r : ℕ} {l : AppStage}

/-- Only the session that is on can do anything. -/
lemma Tidy.current (h : Tidy t) (hne : t.stage (.session r) ≠ .ended)
    (hr : t.stage (.session r) = .idle → r < t.shared.sessions.length) : Running t r := by
  rcases h.phase with ⟨i, hrunning⟩ | hidle
  · rcases lt_trichotomy r i with hlt | rfl | hgt
    · exact absurd (hrunning.past r hlt) hne
    · exact hrunning
    · have hlength := hr (hrunning.future r hgt)
      rw [hrunning.length] at hlength
      omega
  · by_cases hlt : r < t.shared.sessions.length
    · exact absurd (hidle.past r hlt) hne
    · exact absurd (hr (hidle.future r (not_lt.mp hlt))) hlt

/-- The thread of the session that is on moves. -/
lemma Running.move (h : Running t r) (hattributes : app'.attributes = t.shared.attributes)
    (hlength : app'.sessions.length = t.shared.sessions.length)
    (hteardowns : app'.scheduled.count .teardown = if l = .ended then 1 else 0) :
    Running (t.move (.session r) l app') r := by
  have hother : ∀ i, i ≠ r → (t.move (.session r) l app').stage (.session i) = t.stage (.session i) :=
    fun i hi => Threads.stage_move_of_ne (by simpa using hi)
  refine ⟨hattributes.trans h.attributes, hlength.trans h.length, ?_, ?_, ?_⟩
  · exact fun i hi => (hother i (Nat.ne_of_lt hi)).trans (h.past i hi)
  · exact fun i hi => (hother i (Nat.ne_of_gt hi)).trans (h.future i hi)
  · rw [Threads.stage_move_self]
    exact hteardowns

/-- The settings stay. -/
lemma Tidy.settings_of_continues (h : Tidy t) (hc : Continues t.shared app') :
    ∀ s ∈ app'.sessions, s.Accepted := by
  intro s' hs'
  obtain ⟨i, hi⟩ := List.mem_iff_getElem?.mp hs'
  obtain ⟨s, hs, hbecomes⟩ := hc.sessions i s' hi
  exact hbecomes.accepted (h.settings s (List.mem_of_getElem? hs))

/-- The sessions go on, and none of their threads moves. -/
lemma Tidy.congr (h : Tidy t) (hc : Continues t.shared t'.shared)
    (hstage : ∀ i, t'.stage (.session i) = t.stage (.session i)) : Tidy t' := by
  refine ⟨?_, ?_, h.settings_of_continues hc⟩
  · rcases h.phase with ⟨r, hrunning⟩ | hidle
    · refine Or.inl ⟨r, hc.attributes.trans hrunning.attributes, hc.length.trans hrunning.length,
        ?_, ?_, ?_⟩
      · exact fun i hi => (hstage i).trans (hrunning.past i hi)
      · exact fun i hi => (hstage i).trans (hrunning.future i hi)
      · rw [hc.teardowns, hrunning.teardowns, hstage]
    · refine Or.inr ⟨hc.attributes.trans hidle.attributes, ?_, ?_, hc.teardowns.trans hidle.teardowns⟩
      · rw [hc.length]
        exact fun i hi => (hstage i).trans (hidle.past i hi)
      · rw [hc.length]
        exact fun i hi => (hstage i).trans (hidle.future i hi)
  · intro i s' hs' hclosed
    rw [hstage] at hclosed
    obtain ⟨s, hs, hbecomes⟩ := hc.sessions i s' hs'
    exact hbecomes.closed (h.closed i s hs hclosed)

/-- A session is launched. -/
lemma Tidy.opens (h : Tidy t) (hoff : t.shared.attributes = .off) (hopens : Opens t.shared t'.shared)
    (hstage : ∀ i, t'.stage (.session i) = t.stage (.session i)) : Tidy t' := by
  obtain ⟨s₀, hsessions, haccepted, -⟩ := hopens.sessions
  have hidle : Idle t := by
    rcases h.phase with ⟨r, hrunning⟩ | hidle
    · have hsame := hoff.symm.trans hrunning.attributes
      exact absurd (congrArg Attributes.running hsame) Bool.false_ne_true
    · exact hidle
  have hnew : t.stage (.session t.shared.sessions.length) = .idle := hidle.future _ le_rfl
  refine ⟨Or.inl ⟨t.shared.sessions.length, hopens.attributes, ?_, ?_, ?_, ?_⟩, ?_, ?_⟩
  · rw [hsessions, List.length_append, List.length_singleton]
  · exact fun i hi => (hstage i).trans (hidle.past i hi)
  · exact fun i hi => (hstage i).trans (hidle.future i (Nat.le_of_lt hi))
  · rw [hopens.teardowns, hidle.teardowns, hstage, hnew]
    rfl
  · intro i s hs hclosed
    rw [hstage] at hclosed
    rw [hsessions] at hs
    rcases Nat.lt_or_ge i t.shared.sessions.length with hold | hge
    · rw [List.getElem?_append_left hold] at hs
      exact h.closed i s hs hclosed
    · rw [hidle.future i hge] at hclosed
      exact absurd hclosed id
  · intro s hs
    rw [hsessions, List.mem_append, List.mem_singleton] at hs
    rcases hs with hold | rfl
    · exact h.settings s hold
    · exact haccepted

/-- The devices are released. -/
lemma Tidy.releases (h : Tidy t) (hreleases : Releases t.shared t'.shared)
    (hstage : ∀ i, t'.stage (.session i) = t.stage (.session i)) : Tidy t' := by
  have hteardowns := hreleases.teardowns
  obtain ⟨r, hrunning⟩ : ∃ r, Running t r := by
    refine h.phase.resolve_right fun hidle => ?_
    rw [hidle.teardowns] at hteardowns
    omega
  have hended : t.stage (.session r) = .ended := by
    by_contra hne
    rw [hrunning.teardowns, if_neg hne] at hteardowns
    omega
  refine ⟨Or.inr ⟨hreleases.attributes, ?_, ?_, ?_⟩, ?_, ?_⟩
  · rw [hreleases.sessions, hrunning.length]
    intro i hi
    rw [hstage]
    rcases Nat.lt_succ_iff_lt_or_eq.mp hi with hlt | rfl
    · exact hrunning.past i hlt
    · exact hended
  · rw [hreleases.sessions, hrunning.length]
    exact fun i hi => (hstage i).trans (hrunning.future i hi)
  · rw [hrunning.teardowns, if_pos hended] at hteardowns
    omega
  · intro i s hs hclosed
    rw [hstage] at hclosed
    rw [hreleases.sessions] at hs
    exact h.closed i s hs hclosed
  · rw [hreleases.sessions]
    exact h.settings

/-- **One step of one thread.** -/
theorem Tidy.step (h : Tidy t) {i : AppThread} {a : AppAction}
    (hstep : PhotonTCPApp.step conv i (t.stage i) a t.shared = some (l, app')) :
    Tidy (t.move i l app') := by
  have hattributes : t.shared.attributes = .off ∨ ∃ r, t.shared.attributes = .on r :=
    h.phase.symm.imp Idle.attributes fun ⟨r, hrunning⟩ => ⟨r, hrunning.attributes⟩
  cases i with
  | main =>
      have hstage : ∀ r, (t.move .main l app').stage (.session r) = t.stage (.session r) :=
        fun r => Threads.stage_move_of_ne (by simp)
      obtain ⟨app'', hmain, hpair⟩ := Option.map_eq_some_iff.mp hstep
      obtain ⟨-, rfl⟩ := Prod.mk.inj hpair
      rcases mainStep_cases hmain hattributes with hc | ⟨hoff, hopens⟩ | hreleases
      · exact h.congr hc hstage
      · exact h.opens hoff hopens hstage
      · exact h.releases hreleases hstage
  | permission n =>
      have hstage : ∀ r, (t.move (.permission n) l app').stage (.session r) = t.stage (.session r) :=
        fun r => Threads.stage_move_of_ne (by simp)
      exact h.congr (continues_permissionStep hstep) hstage
  | session r =>
      have hother : ∀ i, i ≠ r →
          (t.move (.session r) l app').stage (.session i) = t.stage (.session i) :=
        fun i hi => Threads.stage_move_of_ne (by simpa using hi)
      have hself : (t.move (.session r) l app').stage (.session r) = l := Threads.stage_move_self
      rcases sessionStep_cases hstep with ⟨hleaving, rfl, rfl⟩ |
        ⟨hc, hne, hl, -, hr, hclosed⟩
      · -- the thread ends
        have hne : t.stage (.session r) ≠ .ended := by
          rw [hleaving]
          simp
        have hrunning := h.current hne fun hidle => by
          rw [hleaving] at hidle
          cases hidle
        have hone : (t.shared.ui .teardown).scheduled.count .teardown = 1 := by
          have hnone := hrunning.teardowns
          rw [if_neg hne] at hnone
          rw [ui, List.count_append, hnone, List.count_singleton_self]
        refine ⟨Or.inl ⟨r, hrunning.move rfl rfl hone⟩, ?_, h.settings⟩
        intro i s hs hclosed
        by_cases hi : i = r
        · subst hi
          refine h.closed i s hs ?_
          rw [hleaving]
          trivial
        · rw [hother i hi] at hclosed
          exact h.closed i s hs hclosed
      · -- the session goes on
        have hrunning := h.current hne hr
        have hnone : app'.scheduled.count .teardown = if l = .ended then 1 else 0 := by
          rw [hc.teardowns, hrunning.teardowns, if_neg hne, if_neg hl]
        refine ⟨Or.inl ⟨r, hrunning.move hc.attributes hc.length hnone⟩, ?_,
          h.settings_of_continues hc⟩
        intro i s' hs' hdone
        obtain ⟨s, hs, hbecomes⟩ := hc.sessions i s' hs'
        by_cases hi : i = r
        · subst hi
          rw [hself] at hdone
          rcases hclosed hdone with hbefore | hmodify
          · exact hbecomes.closed (h.closed i s hs hbefore)
          · have hnow : app'.sessions[i]? = some s.close := by
              rw [hmodify, List.getElem?_modify_eq, hs]
              rfl
            rw [Option.some.inj (hs'.symm.trans hnow)]
            rfl
        · rw [hother i hi] at hdone
          exact hbecomes.closed (h.closed i s hs hdone)

lemma Tidy.start (granted : Bool) : Tidy (PhotonTCPApp.start granted) where
  phase := Or.inr ⟨rfl, fun _ hi => absurd hi (Nat.not_lt_zero _), fun _ _ => rfl, rfl⟩
  closed := fun _ _ hs => by cases hs
  settings := fun _ hs => by cases hs

lemma Tidy.of_reach {granted : Bool} {ok : AppThreads → AppThread × AppAction → Prop}
    (h : (system conv).Reach ok (PhotonTCPApp.start granted) t) : Tidy t :=
  Threads.invariant h (.start granted) fun _ _ _ _ _ htidy _ hstep => htidy.step hstep

end AppThreads

open AppThreads

/-- **One session at a time.**  Under every interleaving of the main thread, the permission requests
and the sessions' threads: at most one worker is alive; the attributes and the controls all belong
to it, or there is none; the application is running exactly if a worker is alive or its teardown is
scheduled; and a session was launched with settings that `run_peer` accepts, and its channel is
closed when its worker has ended. -/
theorem one_session {conv : Conversions} {granted : Bool} {t : AppThreads}
    (h : (system conv).Reach Transition.free (PhotonTCPApp.start granted) t) :
    (∀ r r', t.Alive r → t.Alive r' → r = r') ∧
      (∀ r, t.Alive r → t.shared.attributes = .on r) ∧
      ((∃ r, t.shared.attributes = .on r) ∨ t.shared.attributes = .off) ∧
      (t.shared.running = true ↔ (∃ r, t.Alive r) ∨ .teardown ∈ t.shared.scheduled) ∧
      ∀ (r : ℕ) (s : PeerSession), t.shared.sessions[r]? = some s →
        s.Accepted ∧ (s.channel.closed = false → t.Alive r) := by
  have htidy := Tidy.of_reach h
  have hcurrent : ∀ r, t.Alive r → Running t r := by
    rintro r ⟨hr, hne⟩
    exact htidy.current hne fun _ => hr
  refine ⟨?_, fun r hr => (hcurrent r hr).attributes, ?_, ?_, ?_⟩
  · intro r r' hr hr'
    have hlength := (hcurrent r hr).length
    rw [(hcurrent r' hr').length] at hlength
    omega
  · exact htidy.phase.imp (fun ⟨r, hrunning⟩ => ⟨r, hrunning.attributes⟩) Idle.attributes
  · rcases htidy.phase with ⟨r, hrunning⟩ | hidle
    · refine iff_of_true (congrArg Attributes.running hrunning.attributes) ?_
      have hteardowns := hrunning.teardowns
      split_ifs at hteardowns with hended
      · exact Or.inr (List.count_pos_iff.mp (by omega))
      · exact Or.inl ⟨r, by rw [hrunning.length]; exact Nat.lt_succ_self r, hended⟩
    · refine iff_of_false ?_ ?_
      · rw [show t.shared.running = false from congrArg Attributes.running hidle.attributes]
        exact Bool.false_ne_true
      · rintro (⟨r, hr, hne⟩ | hmem)
        · exact hne (hidle.past r hr)
        · exact List.count_eq_zero.mp hidle.teardowns hmem
  · intro r s hs
    refine ⟨htidy.settings s (List.mem_of_getElem? hs), fun hopen => ⟨?_, fun hended => ?_⟩⟩
    · exact (List.getElem?_eq_some_iff.mp hs).1
    · have hclosed := htidy.closed r s hs (by rw [hended]; trivial)
      rw [hopen] at hclosed
      exact absurd hclosed Bool.false_ne_true

/-- The texts of the settings below. -/
def fewTexts : Conversions where
  int text := if text = "8" then some 8 else none
  float text := if text = "0" then some 0 else none
  floatText hold := if hold = MIN_HOLD then "0.01" else "0.4"
  fixedText _ := "0.0"
  jsonText _ := ""

/-- The start button is pressed twice before the permission is granted, which is then granted twice.
-/
def twoStarts : List (AppThread × AppAction) :=
  [(.main, .editSettings .sender "8" "0" .front), (.main, .startPressed .requested .connected),
    (.main, .startPressed .requested .connected), (.permission 1, .answer true),
    (.permission 0, .answer true), (.permission 0, .proceed), (.permission 1, .proceed),
    (.main, .runScheduled 4 .connected), (.session 0, .begin), (.main, .runScheduled 4 .connected),
    (.session 0, .transport)]

/-- Both presses were answered, one session was launched. -/
theorem one_session_twoStarts : ∃ t : AppThreads,
    (t.shared.requests = 2 ∧ t.shared.sessions.map PeerSession.hold = [MIN_HOLD]) ∧
    (∀ r r', t.Alive r → t.Alive r' → r = r') ∧
      (∀ r, t.Alive r → t.shared.attributes = .on r) ∧
      ((∃ r, t.shared.attributes = .on r) ∨ t.shared.attributes = .off) ∧
      (t.shared.running = true ↔ (∃ r, t.Alive r) ∨ .teardown ∈ t.shared.scheduled) ∧
      ∀ (r : ℕ) (s : PeerSession), t.shared.sessions[r]? = some s →
        s.Accepted ∧ (s.channel.closed = false → t.Alive r) := by
  obtain ⟨t, hreach, hsessions⟩ := (system fewTexts).exists_reach_of_exec Transition.free twoStarts
    (PhotonTCPApp.start false)
    (fun t => t.shared.requests = 2 ∧ t.shared.sessions.map PeerSession.hold = [MIN_HOLD])
    (by decide +kernel)
  exact ⟨t, hsessions, one_session hreach⟩

end PhotonTCP.Mobile
