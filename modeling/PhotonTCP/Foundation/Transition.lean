import Mathlib.Logic.Relation
import Mathlib.Order.WellFounded
import Mathlib.Tactic.SplitIfs

/-!
# Guarded transition systems

The shape every run in this development has: an action is *enabled* in a state, and if it is taken
the next state is a function of the two.  What varies from one result to the next is which of the
enabled actions a run may take, so reachability carries a second condition beside the guard.

* `Transition` — a guard and a next-state function.
* `Reach` — reachability by enabled actions that also satisfy a *discipline* `ok`.
* `Reach.invariant` — the induction every safety result is an instance of.
* `exists_not_step`, `exists_stuck` — what a measure that every admitted step decreases is good for:
  runs end, and there is a state in which one has ended.
* `exec` — runs a list of actions, checking the guard of each; `exec_reach` turns such a
  computation into a `Reach`, which is how a concrete run is exhibited (`exists_reach_of_exec`).

The discipline is a parameter of reachability and not a part of the system.  One system describes
what the code can do; the results about it differ in what they ask of the environment, such as that
a caller does not send at certain moments, and they can be compared because only the discipline
changes.  `Reach.mono` is this comparison.
-/

/-- A deterministic transition system whose actions are guarded. -/
structure Transition (S A : Type*) where
  enabled : S → A → Prop
  next : S → A → S

namespace Transition

variable {S A : Type*}

/-- The discipline that admits every enabled action. -/
def free : S → A → Prop := fun _ _ => True

instance (s : S) (a : A) : Decidable (free s a) := isTrue trivial

/-- One step by an enabled action that the discipline `ok` admits. -/
def Step (T : Transition S A) (ok : S → A → Prop) (s s' : S) : Prop :=
  ∃ a, T.enabled s a ∧ ok s a ∧ T.next s a = s'

/-- Reachability by enabled actions that the discipline admits. -/
def Reach (T : Transition S A) (ok : S → A → Prop) : S → S → Prop :=
  Relation.ReflTransGen (T.Step ok)

namespace Reach

variable {T : Transition S A} {ok ok' : S → A → Prop} {s s' s'' : S}

lemma refl : T.Reach ok s s := Relation.ReflTransGen.refl

lemma tail {a : A} (h : T.Reach ok s s') (he : T.enabled s' a) (hok : ok s' a) :
    T.Reach ok s (T.next s' a) :=
  Relation.ReflTransGen.tail h ⟨a, he, hok, rfl⟩

lemma head {a : A} (he : T.enabled s a) (hok : ok s a) (h : T.Reach ok (T.next s a) s') :
    T.Reach ok s s' :=
  Relation.ReflTransGen.head ⟨a, he, hok, rfl⟩ h

lemma trans (h : T.Reach ok s s') (h' : T.Reach ok s' s'') : T.Reach ok s s'' :=
  Relation.ReflTransGen.trans h h'

/-- A weaker discipline reaches more. -/
lemma mono (h : T.Reach ok s s') (hm : ∀ s a, ok s a → ok' s a) : T.Reach ok' s s' :=
  Relation.ReflTransGen.mono (fun _ _ ⟨a, he, hok, hn⟩ => ⟨a, he, hm _ a hok, hn⟩) _ _ h

/-- **The invariant rule.**  What holds at the start and is preserved by every admitted step holds
in every reachable state. -/
theorem invariant {I : S → Prop} (h : T.Reach ok s s') (h₀ : I s)
    (hstep : ∀ s a, I s → T.enabled s a → ok s a → I (T.next s a)) : I s' := by
  induction h with
  | refl => exact h₀
  | tail _ hst ih =>
      obtain ⟨a, he, hok, rfl⟩ := hst
      exact hstep _ a ih he hok

end Reach

/-! ## Runs that end

The measure may take its values in any well-founded order.  An invariant of the reachable states
comes along, since a measure often decreases only there.
-/

section Decreasing

variable {T : Transition S A} {ok : S → A → Prop} {W : Type*} [LT W] [WellFoundedLT W] {μ : S → W}
  {I : S → Prop}

/-- **Runs end.**  If every admitted step decreases a measure, no sequence of states is a run for
ever. -/
theorem exists_not_step (hstep : ∀ s a, I s → T.enabled s a → ok s a →
    I (T.next s a) ∧ μ (T.next s a) < μ s) (f : ℕ → S) (h₀ : I (f 0)) :
    ∃ n, ¬ T.Step ok (f n) (f (n + 1)) := by
  by_contra hall
  rw [not_exists] at hall
  have hrun : ∀ n, T.Step ok (f n) (f (n + 1)) := fun n => not_not.mp (hall n)
  have hI : ∀ n, I (f n) := by
    intro n
    induction n with
    | zero => exact h₀
    | succ n ih =>
        obtain ⟨a, he, hok, hnext⟩ := hrun n
        exact hnext ▸ (hstep _ a ih he hok).1
  obtain ⟨n, hn⟩ := WellFounded.not_rel_apply_succ (r := (· < ·)) (fun n => μ (f n))
  obtain ⟨a, he, hok, hnext⟩ := hrun n
  exact hn (hnext ▸ (hstep _ a (hI n) he hok).2)

/-- **A run that has ended**, from every state. -/
theorem exists_stuck (hstep : ∀ s a, I s → T.enabled s a → ok s a →
    I (T.next s a) ∧ μ (T.next s a) < μ s) (s : S) (h₀ : I s) :
    ∃ s', T.Reach ok s s' ∧ ∀ s'', ¬ T.Step ok s' s'' := by
  induction hw : μ s using WellFoundedLT.induction generalizing s with
  | ind w ih =>
      by_cases hstuck : ∀ s'', ¬ T.Step ok s s''
      · exact ⟨s, .refl, hstuck⟩
      · rw [not_forall] at hstuck
        obtain ⟨s'', hs''⟩ := hstuck
        obtain ⟨a, he, hok, rfl⟩ := not_not.mp hs''
        obtain ⟨hI, hlt⟩ := hstep s a h₀ he hok
        obtain ⟨s', hreach, hend⟩ := ih _ (hw ▸ hlt) _ hI rfl
        exact ⟨s', .head he hok hreach, hend⟩

end Decreasing

/-! ## Running a list of actions

Guards and disciplines that can be decided make a run computable, and a theorem with a run among its
hypotheses is applied to an explicit one in this way.
-/

variable (T : Transition S A) (ok : S → A → Prop)
  [∀ s a, Decidable (T.enabled s a)] [∀ s a, Decidable (ok s a)]

/-- Run the actions in order; `none` at the first that is not enabled or not admitted. -/
def exec : S → List A → Option S
  | s, [] => some s
  | s, a :: as => if T.enabled s a ∧ ok s a then exec (T.next s a) as else none

/-- A successful execution is a run. -/
theorem exec_reach : ∀ {as : List A} {s s' : S}, T.exec ok s as = some s' → T.Reach ok s s'
  | [], s, s', h => by
      simp only [exec, Option.some.injEq] at h
      exact h ▸ Reach.refl
  | a :: as, s, s', h => by
      rw [exec] at h
      split_ifs at h with hc
      exact Reach.head hc.1 hc.2 (exec_reach h)

/-- A test on the final state of a successful execution is a fact about a reachable state. -/
theorem exists_reach_of_exec (as : List A) (s : S) (p : S → Prop) [DecidablePred p]
    (h : (T.exec ok s as).any (fun s' => decide (p s')) = true) :
    ∃ s', T.Reach ok s s' ∧ p s' := by
  cases he : T.exec ok s as with
  | none => rw [he] at h; cases h
  | some s' =>
      rw [he] at h
      exact ⟨s', exec_reach T ok he, of_decide_eq_true h⟩

end Transition
