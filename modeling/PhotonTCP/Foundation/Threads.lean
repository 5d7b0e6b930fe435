import Mathlib.Logic.Function.Basic
import PhotonTCP.Foundation.Transition

/-!
# Threads that interleave

Threads work on a shared state, each in a stage of its own.  A step of a thread is atomic; between
any two of its steps the others may do theirs.

* `Threads` — the shared state and the stages; `Threads.system` — the interleavings.
* **`Threads.invariant`** — the invariant rule: one step of one thread.
* `AtMostOne` — at most one thread is in such a stage.

A stage is where a thread stands in the text of the program together with its local variables; what
it shares with others is the state.  A step does one access to the shared state, so that a race
shows as an interleaving.  A lock is a Boolean in the shared state, and waiting for it is a step
that cannot be taken.

An invariant of such a system speaks of the shared state and of all stages.  The step of one thread
leaves the other stages as they are, but what those promise about the shared state has to survive
it; the lemmas on `move` split an obligation into these two parts.
-/

/-- Threads, each in its stage, over a shared state. -/
structure Threads (ι S L : Type*) where
  shared : S
  stage : ι → L

namespace Threads

variable {ι S L A : Type*} [DecidableEq ι]

/-- The thread `i` is in the stage `l` now, and the shared state is `s`. -/
def move (t : Threads ι S L) (i : ι) (l : L) (s : S) : Threads ι S L where
  shared := s
  stage := Function.update t.stage i l

/-- The interleavings of a program.  `step i l a s` is the atomic step `a` of the thread `i` in the
stage `l`, if it can be taken there. -/
def system (step : ι → L → A → S → Option (L × S)) : Transition (Threads ι S L) (ι × A) where
  enabled t act := (step act.1 (t.stage act.1) act.2 t.shared).isSome = true
  next t act :=
    match step act.1 (t.stage act.1) act.2 t.shared with
    | some (l, s) => t.move act.1 l s
    | none => t

instance (step : ι → L → A → S → Option (L × S)) (t : Threads ι S L) (act : ι × A) :
    Decidable ((system step).enabled t act) := inferInstanceAs (Decidable (_ = true))

variable {step : ι → L → A → S → Option (L × S)} {ok : Threads ι S L → ι × A → Prop}
  {t t' : Threads ι S L} {i : ι} {l : L} {s : S}

@[simp] lemma shared_move : (t.move i l s).shared = s := rfl

@[simp] lemma stage_move_self : (t.move i l s).stage i = l := Function.update_self ..

lemma stage_move_of_ne {j : ι} (h : j ≠ i) : (t.move i l s).stage j = t.stage j :=
  Function.update_of_ne h ..

/-- What holds of all stages after a step. -/
lemma forall_stage_move {P : ι → L → Prop} :
    (∀ j, P j ((t.move i l s).stage j)) ↔ P i l ∧ ∀ j, j ≠ i → P j (t.stage j) :=
  Function.forall_update_iff t.stage P

/-- What follows from a stage that one of the threads is in after a step. -/
lemma of_stage_move {P : L → Prop} {C : Prop} (hl : P l → C) (hothers : ∀ j, j ≠ i → P (t.stage j) → C)
    (j : ι) (hj : P ((t.move i l s).stage j)) : C := by
  by_cases hne : j = i
  · rw [hne, stage_move_self] at hj
    exact hl hj
  · rw [stage_move_of_ne hne] at hj
    exact hothers j hne hj

/-- A thread that is in no such stage moves to no such stage. -/
lemma exists_stage_move {P : L → Prop} (h : ¬ P (t.stage i)) (hl : ¬ P l) :
    (∃ j, P ((t.move i l s).stage j)) ↔ ∃ j, P (t.stage j) := by
  have hne : ∀ j, P (t.stage j) → j ≠ i := by
    rintro j hj rfl
    exact h hj
  constructor
  · rintro ⟨j, hj⟩
    have hji : j ≠ i := by
      rintro rfl
      rw [stage_move_self] at hj
      exact hl hj
    exact ⟨j, by rwa [stage_move_of_ne hji] at hj⟩
  · rintro ⟨j, hj⟩
    exact ⟨j, by rwa [stage_move_of_ne (hne j hj)]⟩

/-- **The invariant rule.**  What holds at the start and is preserved by every step of every thread
holds in every interleaving. -/
theorem invariant {I : Threads ι S L → Prop} (h : (system step).Reach ok t t') (h₀ : I t)
    (hstep : ∀ t i a l s, I t → ok t (i, a) → step i (t.stage i) a t.shared = some (l, s) →
      I (t.move i l s)) : I t' := by
  refine h.invariant h₀ fun t act hI henabled hok => ?_
  obtain ⟨i, a⟩ := act
  obtain ⟨⟨l, s⟩, htaken⟩ := Option.isSome_iff_exists.mp henabled
  have hnext : (system step).next t (i, a) = t.move i l s := by
    simp only [system, htaken]
  rw [hnext]
  exact hstep t i a l s hI hok htaken

/-! ## At most one

Mutual exclusion, of any kind of stage.  There are three ways in which a step keeps it: the thread
that moves does not go there, no other one is there, or none at all was.
-/

/-- At most one thread is in such a stage. -/
def AtMostOne (P : L → Prop) (t : Threads ι S L) : Prop :=
  ∀ i j, P (t.stage i) → P (t.stage j) → i = j

variable {P : L → Prop}

/-- A thread moves elsewhere. -/
lemma AtMostOne.move_out (h : AtMostOne P t) (hl : ¬ P l) : AtMostOne P (t.move i l s) := by
  intro j k hj hk
  have hne : ∀ j, P ((t.move i l s).stage j) → j ≠ i := by
    rintro j hj rfl
    rw [stage_move_self] at hj
    exact hl hj
  rw [stage_move_of_ne (hne j hj)] at hj
  rw [stage_move_of_ne (hne k hk)] at hk
  exact h j k hj hk

/-- A thread moves, and no other one is there. -/
lemma AtMostOne.move_only (h : ∀ j, j ≠ i → ¬ P (t.stage j)) : AtMostOne P (t.move i l s) := by
  intro j k hj hk
  have heq : ∀ j, P ((t.move i l s).stage j) → j = i := by
    intro j hj
    by_contra hne
    rw [stage_move_of_ne hne] at hj
    exact h j hne hj
  rw [heq j hj, heq k hk]

/-- A thread moves there when there is none. -/
lemma AtMostOne.move_in (h : ∀ j, ¬ P (t.stage j)) : AtMostOne P (t.move i l s) :=
  AtMostOne.move_only fun j _ => h j

end Threads
