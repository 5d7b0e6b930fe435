import Mathlib.Logic.Basic
import Mathlib.Data.List.Basic

/-!
# Machines with outputs

A deterministic machine that answers every input with an output.  Two machines that a relation
connects, step by step, cannot be told apart by what the relation lets one see of their outputs.

* `run` — the outputs of a list of inputs, in order, and the final state.
* **`run_simulation`** — the simulation rule, with a view of the outputs on either side.
* `run_append` — runs compose.
* `states`, `Along` — the states of a run, and a condition on its steps;
  **`forall_states_iff_along`** and **`forall_outputs_of_along`** are the rules for them.

Nothing is said about invariants here that hold of all runs whatever is given to the machine; for
these an induction over the list of inputs is short enough.  The rules are for what is easily got
wrong: two machines side by side, where each has outputs of its own kind and one may be silent when
the other is not, and conditions on the inputs that depend on the state in which they are given.
-/

namespace Mealy

variable {S T I O P V : Type*}

/-- Feed the inputs in order. -/
def run (step : S → I → O × S) : S → List I → List O × S
  | s, [] => ([], s)
  | s, i :: is => ((step s i).1 :: (run step (step s i).2 is).1, (run step (step s i).2 is).2)

@[simp] lemma run_nil (step : S → I → O × S) (s : S) : run step s [] = ([], s) := rfl

lemma run_cons (step : S → I → O × S) (s : S) (i : I) (is : List I) :
    run step s (i :: is) =
      ((step s i).1 :: (run step (step s i).2 is).1, (run step (step s i).2 is).2) := rfl

lemma run_append (step : S → I → O × S) (s : S) (is js : List I) :
    run step s (is ++ js) =
      ((run step s is).1 ++ (run step (run step s is).2 js).1,
        (run step (run step s is).2 js).2) := by
  induction is generalizing s with
  | nil => rfl
  | cons i is ih =>
      rw [List.cons_append, run_cons, ih, run_cons]
      rfl

/-- **The simulation rule.** -/
theorem run_simulation {step : S → I → O × S} {step' : T → I → P × T} {R : S → T → Prop}
    {view : O → V} {view' : P → V}
    (hstep : ∀ s t i, R s t →
      view (step s i).1 = view' (step' t i).1 ∧ R (step s i).2 (step' t i).2) :
    ∀ {s : S} {t : T}, R s t → ∀ is : List I,
      (run step s is).1.map view = (run step' t is).1.map view' ∧
        R (run step s is).2 (run step' t is).2 := by
  intro s t h is
  induction is generalizing s t with
  | nil => exact ⟨rfl, h⟩
  | cons i is ih =>
      obtain ⟨hview, hrel⟩ := hstep s t i h
      obtain ⟨hviews, hfinal⟩ := ih hrel
      refine ⟨?_, hfinal⟩
      rw [run_cons, run_cons, List.map_cons, List.map_cons, hview, hviews]

/-! ## Along a run

A statement about all states of a run and a condition on all its steps are to be equivalent.  The
first state is given, and each step decides about the next one, so the rule asks for the equivalence
in one step and does the induction.
-/

/-- The states a run goes through. -/
def states (step : S → I → O × S) : S → List I → List S
  | s, [] => [s]
  | s, i :: is => s :: states step (step s i).2 is

/-- What holds of every input and the state it is given to. -/
def Along (step : S → I → O × S) (P : S → I → Prop) : S → List I → Prop
  | _, [] => True
  | s, i :: is => P s i ∧ Along step P (step s i).2 is

variable {step : S → I → O × S} {J C : S → Prop} {P : S → I → Prop} {Q : I → Prop}

lemma along_of_forall (h : ∀ s i, P s i) : ∀ (is : List I) (s : S), Along step P s is
  | [], _ => trivial
  | i :: is, s => ⟨h s i, along_of_forall h is _⟩

/-- **A condition on all states, as one on all steps.**  `J` is an invariant whatever is done. -/
theorem forall_states_iff_along (hJ : ∀ s i, J s → J (step s i).2)
    (hstep : ∀ s i, J s → Q i → C s → (C (step s i).2 ↔ P s i)) :
    ∀ {is : List I} {s : S}, (∀ i ∈ is, Q i) → J s → C s →
      ((∀ t ∈ states step s is, C t) ↔ Along step P s is)
  | [], s, _, _, hs => by simpa [states, Along] using hs
  | i :: is, s, hQ, hinv, hs => by
      have hi := hstep s i hinv (hQ i (by simp)) hs
      have ih : C (step s i).2 →
          ((∀ t ∈ states step (step s i).2 is, C t) ↔ Along step P (step s i).2 is) :=
        fun hnext => forall_states_iff_along hJ hstep (fun j hj => hQ j (by simp [hj]))
          (hJ s i hinv) hnext
      rw [states, Along, List.forall_mem_cons, and_iff_right hs]
      constructor
      · intro h
        have hnext : C (step s i).2 := by
          cases is with
          | nil => exact h _ (by simp [states])
          | cons j js => exact h _ (by simp [states])
        exact ⟨hi.mp hnext, (ih hnext).mp h⟩
      · rintro ⟨hP, hrest⟩
        exact (ih (hi.mpr hP)).mpr hrest

/-- **What admitted steps preserve and output**, over a run. -/
theorem forall_outputs_of_along {R : O → Prop}
    (hstep : ∀ s i, J s → Q i → P s i → R (step s i).1 ∧ J (step s i).2) :
    ∀ {is : List I} {s : S}, (∀ i ∈ is, Q i) → J s → Along step P s is →
      (∀ out ∈ (run step s is).1, R out) ∧ J (run step s is).2
  | [], s, _, hs, _ => ⟨by simp, hs⟩
  | i :: is, s, hQ, hs, ⟨hP, hrest⟩ => by
      obtain ⟨hout, hnext⟩ := hstep s i hs (hQ i (by simp)) hP
      obtain ⟨houts, hlast⟩ := forall_outputs_of_along hstep
        (fun j hj => hQ j (by simp [hj])) hnext hrest
      rw [run_cons, List.forall_mem_cons]
      exact ⟨⟨hout, houts⟩, hlast⟩

end Mealy
