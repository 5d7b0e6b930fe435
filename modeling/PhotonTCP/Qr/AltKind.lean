import PhotonTCP.Qr.Backends

/-!
# Which alternate detector there is

It is found out by constructing one, under a lock, and remembered until a reset.  A thread checks
without the lock first.

* `Stage.Holding`, `Stage.Probing` — a thread has the lock, and is finding out.
* `ProbesOnce` — the invariant of the lock.
* **`alt_kind_probed_once`** — it is found out once, and once more after each reset.

This is the pattern of a check that is made twice, once without the lock and once with it.  What it
promises is counted here: the registry counts the probes and the resets, and a run may probe once
more often than it resets.  The invariant says so of every state, together with what makes the step
of a prober allowed, that while nothing is known and no thread is finding out there is a probe left.

A reset takes the same lock, so it does not come between a probe and its result.  The other
functions of the registry run beside all of this.  They have steps of many kinds and do nothing to
what is known of the detector; this is proved once for all of them.
-/

namespace PhotonTCP.Qr

variable {Env B Image Det : Type}

/-! ## The lock

Which stages are inside the lock, and which have to do with the detector at all.
-/

/-- The thread holds the lock. -/
def Stage.Holding : Stage Env B Image Det → Prop
  | .clearing | .lockedAlt | .requiring .alt | .importing .alt | .marking .alt | .constructing
  | .storing _ | .releasing _ => True
  | _ => False

/-- The thread finds out which detector there is. -/
def Stage.Probing : Stage Env B Image Det → Prop
  | .requiring .alt | .importing .alt | .marking .alt | .constructing | .storing _ => True
  | _ => False

/-- The thread is about to return what has been found out. -/
def Stage.Returning : Stage Env B Image Det → Prop
  | .releasing true | .returningAlt => True
  | _ => False

/-- The thread is in `_alt_kind_cached`, or in the second half of a reset. -/
def Stage.AtAltKind : Stage Env B Image Det → Prop
  | .forgetting | .checkingAlt | .waitingAlt | .returningAlt => True
  | stage => stage.Holding

lemma Stage.Probing.holding {stage : Stage Env B Image Det} (h : stage.Probing) : stage.Holding := by
  cases stage with
  | requiring asker =>
      cases asker with
      | lookup s name => exact h
      | alt => trivial
  | importing asker =>
      cases asker with
      | lookup s name => exact h
      | alt => trivial
  | marking asker =>
      cases asker with
      | lookup s name => exact h
      | alt => trivial
  | constructing => trivial
  | storing kind => trivial
  | _ => exact h.elim

lemma Stage.Holding.atAltKind {stage : Stage Env B Image Det} (h : stage.Holding) :
    stage.AtAltKind := by
  cases stage with
  | forgetting => trivial
  | checkingAlt => trivial
  | waitingAlt => trivial
  | returningAlt => trivial
  | _ => exact h

/-- What is known of the alternate detector stays as it is. -/
structure Registry.SameAlt (reg r : Registry Env B Image Det) : Prop where
  altKind : r.altKind = reg.altKind
  altKindLock : r.altKindLock = reg.altKindLock
  altKinds : r.altKinds = reg.altKinds
  probes : r.probes = reg.probes
  resets : r.resets = reg.resets

lemma Registry.SameAlt.refl (reg : Registry Env B Image Det) : reg.SameAlt reg :=
  ⟨rfl, rfl, rfl, rfl, rfl⟩

/-- A thread that has to do with a look-up or the registry. -/
def Stage.Aside (l : Stage Env B Image Det) : Prop := ¬ l.Holding ∧ ¬ l.Returning

lemma Search.aside_next (s : Search Image Det) : (s.next : Stage Env B Image Det).Aside := by
  rw [Search.next]
  cases s.rest with
  | nil => exact ⟨id, id⟩
  | cons name rest => exact ⟨id, id⟩

variable [DecidableEq B] {P : Platform Env B Image Det} {reg r : Registry Env B Image Det}
  {stage l : Stage Env B Image Det}

/-- The thread has left alone what is known of the alternate detector, and has not to do with it. -/
def Registry.LeavesAlt (reg r : Registry Env B Image Det) (l : Stage Env B Image Det) : Prop :=
  reg.SameAlt r ∧ l.Aside

section Aside

variable {purpose : Purpose Image Det} {since : ℕ} {s : Search Image Det} {name : String} {backend : B}
  {factory : Factory Env B} {selection : Option String}

/-- The selection is only read. -/
lemma aside_selecting (hstep : reg.resume P (.selecting purpose since) = some (l, r)) :
    reg.LeavesAlt r l := by
  rw [Registry.resume] at hstep
  split at hstep
  · obtain ⟨rfl, rfl⟩ := hstep
    exact ⟨.refl reg, id, id⟩
  · obtain ⟨rfl, rfl⟩ := hstep
    exact ⟨.refl reg, id, id⟩

/-- So is the table of factories. -/
lemma aside_looking (hstep : reg.resume P (.looking s name) = some (l, r)) : reg.LeavesAlt r l := by
  rw [Registry.resume] at hstep
  split at hstep
  · obtain ⟨rfl, rfl⟩ := hstep
    exact ⟨.refl reg, id, id⟩
  · obtain ⟨rfl, rfl⟩ := hstep
    exact ⟨.refl reg, Search.aside_next _⟩

/-- A factory knows nothing of the alternate detector. -/
lemma aside_calling (hstep : reg.resume P (.calling s name factory) = some (l, r)) :
    reg.LeavesAlt r l := by
  cases factory with
  | cv2BackendFactory =>
      obtain ⟨rfl, rfl⟩ := hstep
      exact ⟨.refl reg, id, id⟩
  | other call =>
      rw [Registry.resume] at hstep
      split at hstep
      · obtain ⟨rfl, rfl⟩ := hstep
        exact ⟨.refl reg, id, id⟩
      · obtain ⟨rfl, rfl⟩ := hstep
        exact ⟨.refl reg, Search.aside_next _⟩

/-- Nor does a look-up that asks for OpenCV. -/
lemma aside_requiring (hstep : reg.resume P (.requiring (.lookup s name)) = some (l, r)) :
    reg.LeavesAlt r l := by
  rw [Registry.resume, Option.some.injEq, Prod.mk.injEq] at hstep
  obtain ⟨rfl, rfl⟩ := hstep
  split_ifs
  · exact ⟨.refl reg, Search.aside_next _⟩
  · exact ⟨.refl reg, id, id⟩

/-- It imports it, -/
lemma aside_importing (hstep : reg.resume P (.importing (.lookup s name)) = some (l, r)) :
    reg.LeavesAlt r l := by
  rw [Registry.resume, Option.some.injEq, Prod.mk.injEq] at hstep
  obtain ⟨rfl, rfl⟩ := hstep
  split_ifs
  · exact ⟨.refl reg, id, id⟩
  · exact ⟨.refl reg, id, id⟩

/-- or notes that it is missing. -/
lemma aside_marking (hstep : reg.resume P (.marking (.lookup s name)) = some (l, r)) :
    reg.LeavesAlt r l := by
  obtain ⟨rfl, rfl⟩ := hstep
  exact ⟨⟨rfl, rfl, rfl, rfl, rfl⟩, Search.aside_next _⟩

/-- What is remembered of signatures is read, -/
lemma aside_recalling (hstep : reg.resume P (.recalling s name backend) = some (l, r)) :
    reg.LeavesAlt r l := by
  rw [Registry.resume] at hstep
  split at hstep
  · obtain ⟨rfl, rfl⟩ := hstep
    exact ⟨.refl reg, id, id⟩
  · obtain ⟨rfl, rfl⟩ := hstep
    exact ⟨.refl reg, id, id⟩

/-- or written. -/
lemma aside_inspecting (hstep : reg.resume P (.inspecting s name backend) = some (l, r)) :
    reg.LeavesAlt r l := by
  rw [Registry.resume, Option.some.injEq, Prod.mk.injEq] at hstep
  obtain ⟨rfl, rfl⟩ := hstep
  split_ifs
  · exact ⟨⟨rfl, rfl, rfl, rfl, rfl⟩, id, id⟩
  · exact ⟨.refl reg, id, id⟩

/-- A name is looked up before it is selected. -/
lemma aside_setting (hstep : reg.resume P (.setting selection) = some (l, r)) :
    reg.LeavesAlt r l := by
  cases selection with
  | none =>
      obtain ⟨rfl, rfl⟩ := hstep
      exact ⟨.refl reg, id, id⟩
  | some name =>
      rw [Registry.resume] at hstep
      split_ifs at hstep
      · obtain ⟨rfl, rfl⟩ := hstep
        exact ⟨.refl reg, id, id⟩
      · obtain ⟨rfl, rfl⟩ := hstep
        exact ⟨⟨rfl, rfl, rfl, rfl, rfl⟩, id, id⟩

/-- **The other functions leave it alone.** -/
lemma resume_of_not_atAltKind (hstep : reg.resume P stage = some (l, r)) (hno : ¬ stage.AtAltKind) :
    reg.LeavesAlt r l := by
  cases stage with
  | idle => cases hstep
  | selecting purpose since => exact aside_selecting hstep
  | listing purpose since =>
      obtain ⟨rfl, rfl⟩ := hstep
      exact ⟨.refl reg, Search.aside_next _⟩
  | looking s name => exact aside_looking hstep
  | calling s name factory => exact aside_calling hstep
  | requiring asker =>
      cases asker with
      | alt => exact absurd trivial hno
      | lookup s name => exact aside_requiring hstep
  | importing asker =>
      cases asker with
      | alt => exact absurd trivial hno
      | lookup s name => exact aside_importing hstep
  | marking asker =>
      cases asker with
      | alt => exact absurd trivial hno
      | lookup s name => exact aside_marking hstep
  | recalling s name backend => exact aside_recalling hstep
  | inspecting s name backend => exact aside_inspecting hstep
  | setting name => exact aside_setting hstep
  | found s result =>
      obtain ⟨rfl, rfl⟩ := hstep
      exact ⟨⟨rfl, rfl, rfl, rfl, rfl⟩, id, id⟩
  | registering name factory =>
      obtain ⟨rfl, rfl⟩ := hstep
      exact ⟨⟨rfl, rfl, rfl, rfl, rfl⟩, id, id⟩
  | pinning name =>
      obtain ⟨rfl, rfl⟩ := hstep
      exact ⟨⟨rfl, rfl, rfl, rfl, rfl⟩, id, id⟩
  | resetting =>
      obtain ⟨rfl, rfl⟩ := hstep
      exact ⟨⟨rfl, rfl, rfl, rfl, rfl⟩, id, id⟩
  | _ => exact absurd trivial hno

end Aside

omit [DecidableEq B] in
/-- And so does a new call. -/
lemma begin_aside (reg : Registry Env B Image Det) (request : Request Env B Image Det) :
    reg.LeavesAlt (reg.begin request).2 (reg.begin request).1 := by
  cases request with
  | decodeFrame image detector =>
      cases image with
      | none => exact ⟨.refl reg, id, id⟩
      | some image => exact ⟨.refl reg, id, id⟩
  | registerDecoderBackend name factory =>
      rw [Registry.begin]
      split_ifs
      · exact ⟨⟨rfl, rfl, rfl, rfl, rfl⟩, id, id⟩
      · exact ⟨.refl reg, id, id⟩
  | _ => exact ⟨.refl reg, id, id⟩

/-! ## At most one probe

A lemma for each thing that a thread can do with the lock or without it.
-/

/-- One thread at a time has the lock; there was one probe more than resets at most, and not even
that if nothing is known and no thread is finding out.  Until the first reset, what was returned is
what is known. -/
structure ProbesOnce (t : Threads ℕ (Registry Env B Image Det) (Stage Env B Image Det)) : Prop where
  holding : t.AtMostOne Stage.Holding
  locked : ∀ i, (t.stage i).Holding → t.shared.altKindLock = true
  probing : ∀ i, (t.stage i).Probing → t.shared.altKind = none
  probes : t.shared.probes ≤ t.shared.resets + 1
  unprobed : t.shared.altKind = none → (∀ i, ¬ (t.stage i).Probing) →
    t.shared.probes ≤ t.shared.resets
  returning : t.shared.resets = 0 → ∀ i, (t.stage i).Returning → t.shared.altKind ≠ none
  returned : t.shared.resets = 0 → ∀ k ∈ t.shared.altKinds, k ≠ none ∧ k = t.shared.altKind

namespace ProbesOnce

omit [DecidableEq B]

variable {t : Threads ℕ (Registry Env B Image Det) (Stage Env B Image Det)} {i : ℕ}

lemma only (h : ProbesOnce t) (hi : (t.stage i).Holding) : ∀ j, j ≠ i → ¬ (t.stage j).Holding :=
  fun j hne hj => hne (h.holding j i hj hi)

/-- A thread that has the lock, or has just taken it: no other one has it. -/
lemma inside (h : ProbesOnce t) (hothers : ∀ j, j ≠ i → ¬ (t.stage j).Holding)
    (hlocked : l.Holding → r.altKindLock = true) (hprobing : l.Probing → r.altKind = none)
    (hprobes : r.probes ≤ r.resets + 1)
    (hunprobed : r.altKind = none → ¬ l.Probing → r.probes ≤ r.resets)
    (hreturning : r.resets = 0 → t.shared.resets = 0 ∧ (t.shared.altKind ≠ none → r.altKind ≠ none) ∧
      (l.Returning → r.altKind ≠ none))
    (hreturned : r.resets = 0 → ∀ k ∈ r.altKinds, k ≠ none ∧ k = r.altKind) :
    ProbesOnce (t.move i l r) where
  holding := Threads.AtMostOne.move_only hothers
  locked := Threads.of_stage_move hlocked fun j hne hj => absurd hj (hothers j hne)
  probing := Threads.of_stage_move hprobing fun j hne hj => absurd hj.holding (hothers j hne)
  probes := hprobes
  unprobed hnone hno := by
    have hl := hno i
    rw [Threads.stage_move_self] at hl
    exact hunprobed hnone hl
  returning hzero := by
    obtain ⟨hzero', hkeeps, hl⟩ := hreturning hzero
    exact Threads.of_stage_move hl fun j _ hj => hkeeps (h.returning hzero' j hj)
  returned := hreturned

/-- A thread that has not the lock, and does not take it. -/
lemma outside (h : ProbesOnce t) (hfrom : ¬ (t.stage i).Holding) (hto : ¬ l.Holding)
    (haltKind : r.altKind = t.shared.altKind) (hlock : r.altKindLock = t.shared.altKindLock)
    (hprobes : r.probes = t.shared.probes) (hresets : r.resets = t.shared.resets)
    (hreturning : t.shared.resets = 0 → l.Returning → t.shared.altKind ≠ none)
    (hreturned : t.shared.resets = 0 → ∀ k ∈ r.altKinds, k ≠ none ∧ k = t.shared.altKind) :
    ProbesOnce (t.move i l r) where
  holding := h.holding.move_out hto
  locked := Threads.of_stage_move (absurd · hto) fun j _ hj => hlock.trans (h.locked j hj)
  probing := Threads.of_stage_move (fun hl => absurd hl.holding hto)
    fun j _ hj => haltKind.trans (h.probing j hj)
  probes := by
    rw [Threads.shared_move, hprobes, hresets]
    exact h.probes
  unprobed hnone hno := by
    rw [Threads.shared_move, hprobes, hresets]
    refine h.unprobed (haltKind.symm.trans hnone) fun j hj => ?_
    have hne : j ≠ i := by
      rintro rfl
      exact hfrom hj.holding
    have hl := hno j
    rw [Threads.stage_move_of_ne hne] at hl
    exact hl hj
  returning hzero := by
    rw [Threads.shared_move, haltKind]
    have hzero := hresets.symm.trans hzero
    exact Threads.of_stage_move (hreturning hzero) fun j _ hj => h.returning hzero j hj
  returned hzero := by
    rw [Threads.shared_move, haltKind]
    exact hreturned (hresets.symm.trans hzero)

/-- What is known is left as it is by a thread that has not to do with it. -/
lemma aside (h : ProbesOnce t) (hfrom : ¬ (t.stage i).Holding) (hsame : t.shared.SameAlt r)
    (hto : l.Aside) : ProbesOnce (t.move i l r) :=
  h.outside hfrom hto.1 hsame.altKind hsame.altKindLock hsame.probes hsame.resets
    (fun _ hl => absurd hl hto.2) fun hzero => hsame.altKinds ▸ h.returned hzero

/-- The lock is taken. -/
lemma locks (h : ProbesOnce t) (hfree : ¬ t.shared.altKindLock = true) (hto : ¬ l.Probing)
    (hl : ¬ l.Returning) (haltKind : r.altKind = t.shared.altKind) (hlock : r.altKindLock = true)
    (hprobes : r.probes = t.shared.probes) (hresets : r.resets = t.shared.resets)
    (haltKinds : r.altKinds = t.shared.altKinds) : ProbesOnce (t.move i l r) := by
  have hnone : ∀ j, ¬ (t.stage j).Holding := fun j hj => hfree (h.locked j hj)
  refine h.inside (fun j _ => hnone j) (fun _ => hlock) (absurd · hto) ?_ ?_ ?_ ?_
  · rw [hprobes, hresets]
    exact h.probes
  · intro hunknown _
    rw [hprobes, hresets]
    exact h.unprobed (haltKind.symm.trans hunknown) fun j hj => hnone j hj.holding
  · exact fun hzero => ⟨hresets.symm.trans hzero, fun hsome => haltKind ▸ hsome, (absurd · hl)⟩
  · intro hzero
    rw [haltKinds, haltKind]
    exact h.returned (hresets.symm.trans hzero)

/-- The probe goes on. -/
lemma goes (h : ProbesOnce t) (hfrom : (t.stage i).Probing) (hto : l.Probing) (hl : ¬ l.Returning)
    (hsame : t.shared.SameAlt r) : ProbesOnce (t.move i l r) := by
  have hlocked := h.locked i hfrom.holding
  have hnone := h.probing i hfrom
  refine h.inside (h.only hfrom.holding) (fun _ => hsame.altKindLock.trans hlocked)
    (fun _ => hsame.altKind.trans hnone) ?_ (fun _ hno => absurd hto hno) ?_ ?_
  · rw [hsame.probes, hsame.resets]
    exact h.probes
  · exact fun hzero => ⟨hsame.resets.symm.trans hzero, fun hsome => absurd hnone hsome, (absurd · hl)⟩
  · intro hzero
    rw [hsame.altKinds, hsame.altKind]
    exact h.returned (hsame.resets.symm.trans hzero)

/-- The registry is noted, which is of no matter. -/
lemma noting (h : ProbesOnce (t.move i l r)) : ProbesOnce (t.move i l (t.shared.noting r)) :=
  ⟨h.holding, h.locked, h.probing, h.probes, h.unprobed, h.returning, h.returned⟩

/-- What was known is forgotten, and the reset counted. -/
lemma clears [DecidableEq B] (h : ProbesOnce t) (hstage : t.stage i = .clearing)
    (hstep : t.shared.resume P (t.stage i) = some (l, r)) : ProbesOnce (t.move i l r) := by
  have hi : (t.stage i).Holding := hstage ▸ trivial
  rw [hstage] at hstep
  obtain ⟨rfl, rfl⟩ := hstep
  refine h.inside (h.only hi) (fun _ => h.locked i hi) False.elim
    (Nat.le_succ_of_le h.probes) (fun _ _ => h.probes) ?_ ?_
  · intro hzero
    cases hzero
  · intro hzero
    cases hzero

/-- Without the lock: what is known need not be found out. -/
lemma checks [DecidableEq B] (h : ProbesOnce t) (hstage : t.stage i = .checkingAlt)
    (hstep : t.shared.resume P (t.stage i) = some (l, r)) : ProbesOnce (t.move i l r) := by
  have hfrom : ¬ (t.stage i).Holding := hstage ▸ id
  rw [hstage, Registry.resume, Option.some.injEq, Prod.mk.injEq] at hstep
  obtain ⟨rfl, rfl⟩ := hstep
  split_ifs with hunknown
  · exact h.outside hfrom id rfl rfl rfl rfl (fun _ => False.elim) h.returned
  · refine h.outside hfrom id rfl rfl rfl rfl (fun _ _ hnone => ?_) h.returned
    exact hunknown (Option.isNone_iff_eq_none.mpr hnone)

/-- **With the lock**: only a thread that still finds nothing known probes, and as many probes as
there were resets are allowed before it. -/
lemma checksAgain [DecidableEq B] (h : ProbesOnce t) (hstage : t.stage i = .lockedAlt)
    (hstep : t.shared.resume P (t.stage i) = some (l, r)) : ProbesOnce (t.move i l r) := by
  have hi : (t.stage i).Holding := hstage ▸ trivial
  have hno : ∀ j, ¬ (t.stage j).Probing := by
    intro j hj
    have hji : j = i := h.holding j i hj.holding hi
    rw [hji, hstage] at hj
    exact hj
  rw [hstage, Registry.resume] at hstep
  split_ifs at hstep with hunknown
  · obtain ⟨rfl, rfl⟩ := hstep
    have hnone := Option.isNone_iff_eq_none.mp hunknown
    have hprobes := h.unprobed hnone hno
    refine h.inside (h.only hi) (fun _ => h.locked i hi) (fun _ => hnone)
      (Nat.succ_le_succ hprobes) (fun _ hl => absurd trivial hl) ?_ h.returned
    exact fun hzero => ⟨hzero, id, False.elim⟩
  · obtain ⟨rfl, rfl⟩ := hstep
    have hsome : t.shared.altKind ≠ none := mt Option.isNone_iff_eq_none.mpr hunknown
    exact h.inside (h.only hi) (fun _ => h.locked i hi) False.elim h.probes
      (fun hnone _ => absurd hnone hsome) (fun hzero => ⟨hzero, id, fun _ => hsome⟩) h.returned

/-- The probe needs OpenCV, -/
lemma requires [DecidableEq B] (h : ProbesOnce t) (hstage : t.stage i = .requiring .alt)
    (hstep : t.shared.resume P (t.stage i) = some (l, r)) : ProbesOnce (t.move i l r) := by
  have hfrom : (t.stage i).Probing := hstage ▸ trivial
  rw [hstage, Registry.resume, Option.some.injEq, Prod.mk.injEq] at hstep
  obtain ⟨rfl, rfl⟩ := hstep
  split_ifs
  · exact h.goes hfrom trivial id (.refl _)
  · exact h.goes hfrom trivial id (.refl _)

/-- imports it, -/
lemma imports [DecidableEq B] (h : ProbesOnce t) (hstage : t.stage i = .importing .alt)
    (hstep : t.shared.resume P (t.stage i) = some (l, r)) : ProbesOnce (t.move i l r) := by
  have hfrom : (t.stage i).Probing := hstage ▸ trivial
  rw [hstage, Registry.resume, Option.some.injEq, Prod.mk.injEq] at hstep
  obtain ⟨rfl, rfl⟩ := hstep
  split_ifs
  · exact h.goes hfrom trivial id (.refl _)
  · exact h.goes hfrom trivial id (.refl _)

/-- or notes that it is missing, -/
lemma marks [DecidableEq B] (h : ProbesOnce t) (hstage : t.stage i = .marking .alt)
    (hstep : t.shared.resume P (t.stage i) = some (l, r)) : ProbesOnce (t.move i l r) := by
  have hfrom : (t.stage i).Probing := hstage ▸ trivial
  rw [hstage] at hstep
  obtain ⟨rfl, rfl⟩ := hstep
  exact h.goes hfrom trivial id ⟨rfl, rfl, rfl, rfl, rfl⟩

/-- and what it has found is known from now on. -/
lemma stores [DecidableEq B] {kind : Option AltKind} (h : ProbesOnce t) (hstage : t.stage i = .storing kind)
    (hstep : t.shared.resume P (t.stage i) = some (l, r)) : ProbesOnce (t.move i l r) := by
  have hfrom : (t.stage i).Probing := hstage ▸ trivial
  have hnone := h.probing i hfrom
  rw [hstage] at hstep
  obtain ⟨rfl, rfl⟩ := hstep
  have hsome : some kind ≠ none := Option.some_ne_none kind
  refine h.inside (h.only hfrom.holding) (fun _ => h.locked i hfrom.holding) False.elim h.probes
    (fun hunknown => absurd hunknown hsome) (fun hzero => ⟨hzero, fun _ => hsome, fun _ => hsome⟩) ?_
  -- nothing has been returned before it was known
  intro hzero k hk
  obtain ⟨hk', rfl⟩ := h.returned hzero k hk
  exact absurd hnone hk'

/-- The lock is released by the thread that has it. -/
lemma releases [DecidableEq B] {returning : Bool} (h : ProbesOnce t)
    (hstage : t.stage i = .releasing returning)
    (hstep : t.shared.resume P (t.stage i) = some (l, r)) : ProbesOnce (t.move i l r) := by
  have hi : (t.stage i).Holding := hstage ▸ trivial
  have hno : ∀ j, ¬ (t.stage j).Probing := by
    intro j hj
    have hji : j = i := h.holding j i hj.holding hi
    rw [hji, hstage] at hj
    exact hj
  rw [hstage, Registry.resume, Option.some.injEq, Prod.mk.injEq] at hstep
  obtain ⟨rfl, rfl⟩ := hstep
  split_ifs with hreturning
  · have hl : (t.stage i).Returning := by
      rw [hstage, hreturning]
      trivial
    exact h.inside (h.only hi) False.elim False.elim h.probes (fun hnone _ => h.unprobed hnone hno)
      (fun hzero => ⟨hzero, id, fun _ => h.returning hzero i hl⟩) h.returned
  · exact h.inside (h.only hi) False.elim False.elim h.probes (fun hnone _ => h.unprobed hnone hno)
      (fun hzero => ⟨hzero, id, False.elim⟩) h.returned

/-- What is returned is what is known. -/
lemma returns [DecidableEq B] (h : ProbesOnce t) (hstage : t.stage i = .returningAlt)
    (hstep : t.shared.resume P (t.stage i) = some (l, r)) : ProbesOnce (t.move i l r) := by
  have hl : (t.stage i).Returning := hstage ▸ trivial
  have hfrom : ¬ (t.stage i).Holding := hstage ▸ id
  rw [hstage] at hstep
  obtain ⟨rfl, rfl⟩ := hstep
  refine h.outside hfrom id rfl rfl rfl rfl (fun _ => False.elim) fun hzero k hk => ?_
  rcases List.mem_append.mp hk with hk | hk
  · exact h.returned hzero k hk
  · rw [List.mem_singleton.mp hk]
    exact ⟨h.returning hzero i hl, rfl⟩

/-- **The next step of a thread.** -/
theorem resume (h : ProbesOnce t) [DecidableEq B]
    (hstep : t.shared.resume P (t.stage i) = some (l, r)) : ProbesOnce (t.move i l r) := by
  by_cases hat : (t.stage i).AtAltKind
  swap
  · obtain ⟨hsame, hto⟩ := resume_of_not_atAltKind hstep hat
    exact h.aside (fun hi => hat hi.atAltKind) hsame hto
  cases hstage : t.stage i with
  | forgetting =>
      rw [hstage, Registry.resume] at hstep
      split_ifs at hstep with hfree
      obtain ⟨rfl, rfl⟩ := hstep
      exact h.locks hfree id id rfl rfl rfl rfl rfl
  | waitingAlt =>
      rw [hstage, Registry.resume] at hstep
      split_ifs at hstep with hfree
      obtain ⟨rfl, rfl⟩ := hstep
      exact h.locks hfree id id rfl rfl rfl rfl rfl
  | clearing => exact h.clears hstage hstep
  | checkingAlt => exact h.checks hstage hstep
  | lockedAlt => exact h.checksAgain hstage hstep
  | requiring asker =>
      cases asker with
      | lookup s name => exact absurd hat (hstage ▸ id)
      | alt => exact h.requires hstage hstep
  | importing asker =>
      cases asker with
      | lookup s name => exact absurd hat (hstage ▸ id)
      | alt => exact h.imports hstage hstep
  | marking asker =>
      cases asker with
      | lookup s name => exact absurd hat (hstage ▸ id)
      | alt => exact h.marks hstage hstep
  | constructing =>
      have hfrom : (t.stage i).Probing := hstage ▸ trivial
      rw [hstage] at hstep
      obtain ⟨rfl, rfl⟩ := hstep
      exact h.goes hfrom trivial id (.refl _)
  | storing kind => exact h.stores hstage hstep
  | releasing returning => exact h.releases hstage hstep
  | returningAlt => exact h.returns hstage hstep
  | _ => exact absurd hat (hstage ▸ id)

/-- **One step of one thread.** -/
theorem step (h : ProbesOnce t) [DecidableEq B] {act : RegistryAction Env B Image Det}
    (hstep : Registry.step P i (t.stage i) act t.shared = some (l, r)) : ProbesOnce (t.move i l r) := by
  cases act with
  | call request =>
      cases hstage : t.stage i with
      | idle =>
          have hfrom : ¬ (t.stage i).Holding := hstage ▸ id
          rw [hstage] at hstep
          obtain ⟨rfl, rfl⟩ := hstep
          obtain ⟨hsame, hto⟩ := begin_aside t.shared request
          exact noting (h.aside hfrom hsame hto)
      | _ =>
          rw [hstage] at hstep
          cases hstep
  | environment env =>
      cases hstage : t.stage i with
      | idle =>
          have hfrom : ¬ (t.stage i).Holding := hstage ▸ id
          rw [hstage] at hstep
          obtain ⟨rfl, rfl⟩ := hstep
          exact noting (h.aside hfrom ⟨rfl, rfl, rfl, rfl, rfl⟩ ⟨id, id⟩)
      | _ =>
          rw [hstage] at hstep
          cases hstep
  | resume =>
      have hstep : (t.shared.resume P (t.stage i)).map (Prod.map id t.shared.noting) = some (l, r) := by
        cases hstage : t.stage i with
        | _ =>
            rw [hstage] at hstep
            exact hstep
      obtain ⟨⟨l', r'⟩, hresume, hnoted⟩ := Option.map_eq_some_iff.mp hstep
      obtain ⟨rfl, rfl⟩ := Prod.mk.inj hnoted
      exact noting (h.resume hresume)

end ProbesOnce

/-- **The alternate detector is found out once**, and once more after each reset, by one thread at a
time.  However the threads interleave: as long as nothing has been reset, every thread that asks for
it is told the same. -/
theorem alt_kind_probed_once {env : Env}
    {t : Threads ℕ (Registry Env B Image Det) (Stage Env B Image Det)}
    (h : (Registry.system P).Reach Transition.free (Registry.new env) t) :
    t.AtMostOne Stage.Probing ∧ t.shared.probes ≤ t.shared.resets + 1 ∧
      (t.shared.resets = 0 → ∀ k ∈ t.shared.altKinds, ∃ kind, k = some kind ∧
        t.shared.altKind = some kind) := by
  have honce : ProbesOnce t := by
    refine Threads.invariant h ⟨?_, ?_, ?_, ?_, ?_, ?_, ?_⟩ fun t i act l r ht _ hstep => ht.step hstep
    · exact fun i j hi => hi.elim
    · exact fun i hi => hi.elim
    · exact fun i hi => hi.elim
    · exact Nat.zero_le _
    · exact fun _ _ => le_rfl
    · exact fun _ i hi => hi.elim
    · exact fun _ k hk => absurd hk List.not_mem_nil
  refine ⟨fun i j hi hj => honce.holding i j hi.holding hj.holding, honce.probes, fun hzero k hk => ?_⟩
  obtain ⟨hsome, rfl⟩ := honce.returned hzero k hk
  obtain ⟨kind, hkind⟩ := Option.ne_none_iff_exists'.mp hsome
  exact ⟨kind, hkind, hkind⟩

/-! ### Two threads

Of which the second one has to wait.
-/

/-- Two threads find nothing known, and take the lock one after the other. -/
def racingProbes : List (ℕ × RegistryAction Bool ℕ Unit Unit) :=
  (0, .call .altKindCached) :: (0, .resume) :: (1, .call .altKindCached) :: (1, .resume) ::
  List.replicate 8 (0, .resume) ++ List.replicate 4 (1, .resume)

/-- Both are told that it is the one of ArUco, and there was one probe. -/
theorem alt_kind_probed_once_racingProbes :
    ∃ t : Threads ℕ (Registry Bool ℕ Unit Unit) (Stage Bool ℕ Unit Unit),
    t.shared.altKinds = [some (some .aruco), some (some .aruco)] ∧ t.shared.probes ≤ 1 ∧
      ∀ k ∈ t.shared.altKinds, ∃ kind, k = some kind ∧ t.shared.altKind = some kind := by
  obtain ⟨t, hrun, hkinds, hresets⟩ :=
    (Registry.system withoutCv2).exists_reach_of_exec Transition.free racingProbes (Registry.new true)
      (fun t : Threads ℕ (Registry Bool ℕ Unit Unit) (Stage Bool ℕ Unit Unit) =>
        t.shared.altKinds = [some (some .aruco), some (some .aruco)] ∧ t.shared.resets = 0)
      (by decide +kernel)
  obtain ⟨-, hprobes, hsame⟩ := alt_kind_probed_once hrun
  rw [hresets] at hprobes
  exact ⟨t, hkinds, hprobes, hsame hresets⟩

end PhotonTCP.Qr
