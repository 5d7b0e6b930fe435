import Mathlib.Logic.Basic
import Mathlib.Tactic.SplitIfs

/-!
# Computations that can raise

Computations on a state that can raise an exception, which does not undo what was done before it.

* `bind_ok`, `bind_error` — a computation whose first part is known; `bind_eq_ok` — one that
  succeeds.
* `after` — the state that is left behind in either case; `Preserves` — what it keeps of the state.
* `Keeps` — a computation that raises nothing and keeps an invariant; such computations compose.
* `Refines` — a computation that does to a part of the state what another one does to it alone.
* `Tracks` — the same, also when it raises, but for what the other one cannot raise.
* `zoom` — a computation on a part of the state, done to the whole.

In a language with exceptions the state that is left behind is as much a result as what is returned.
`EStateM` has the right shape for this: both of its outcomes carry a state, and nothing is rolled
back.  The first lemmas run such a computation symbolically, one part at a time, and never unfold
the monad anywhere else.

The predicates answer different questions.  `Preserves` is about what is left behind, however the
computation ends.  `Keeps` adds that it does not raise, and is what shows that a call returns.
`Refines` and `Tracks` compare two computations, one of which sees only a part of the state, or
raises only some of the exceptions: a program over a medium that may fail is compared with the same
program over one that does not, and facts about the second are carried over to the first.

Each predicate comes with one rule for each way of composing computations: a value, a sequence, a
look at the state, a choice, a loop over a list.  Proofs about a program follow its text through
these rules.
-/

namespace Raising

variable {ε σ α β : Type} {x : EStateM ε σ α} {f : α → EStateM ε σ β} {s s' : σ} {a : α} {e : ε}

lemma bind_ok (h : x s = .ok a s') : (x >>= f) s = f a s' := by
  show EStateM.bind x f s = _
  rw [EStateM.bind, h]

lemma bind_error (h : x s = .error e s') : (x >>= f) s = .error e s' := by
  show EStateM.bind x f s = _
  rw [EStateM.bind, h]

/-- What is known of the first part may be put for it. -/
lemma bind_congr_run {y : EStateM ε σ α} {t : σ} (h : x s = y t) : (x >>= f) s = (y >>= f) t := by
  show EStateM.bind x f s = EStateM.bind y f t
  rw [EStateM.bind, EStateM.bind, h]

/-- A sequence that succeeds, taken apart. -/
lemma bind_eq_ok {b : β} {s'' : σ} (h : (x >>= f) s = .ok b s'') :
    ∃ a s', x s = .ok a s' ∧ f a s' = .ok b s'' := by
  cases hrun : x s with
  | ok a s' => exact ⟨a, s', rfl, (bind_ok hrun).symm.trans h⟩
  | error e s' =>
      rw [bind_error hrun] at h
      cases h

@[simp] lemma get_bind (f : σ → EStateM ε σ β) (s : σ) : (get >>= f) s = f s s := rfl

@[simp] lemma modify_bind (g : σ → σ) (f : PUnit → EStateM ε σ β) (s : σ) :
    (modify g >>= f) s = f ⟨⟩ (g s) := rfl

/-- The state that is left behind. -/
def after (x : EStateM ε σ α) (s : σ) : σ :=
  match x s with
  | .ok _ s' => s'
  | .error _ s' => s'

lemma after_ok (h : x s = .ok a s') : after x s = s' := by
  rw [after, h]

lemma after_error (h : x s = .error e s') : after x s = s' := by
  rw [after, h]

@[simp] lemma after_get_bind (f : σ → EStateM ε σ β) (s : σ) :
    after (get >>= f) s = after (f s) s := rfl

@[simp] lemma after_modify_bind (g : σ → σ) (f : PUnit → EStateM ε σ β) (s : σ) :
    after (modify g >>= f) s = after (f ⟨⟩) (g s) := rfl

lemma after_bind_ok (h : x s = .ok a s') : after (x >>= f) s = after (f a) s' := by
  rw [after, bind_ok h, after]

lemma after_bind_error (h : x s = .error e s') : after (x >>= f) s = s' :=
  after_error (bind_error h)

/-- What only looks at the state changes nothing. -/
lemma after_bind (h : ∀ a s, after (f a) s = s) : after (x >>= f) s = after x s := by
  cases hrun : x s with
  | ok a s' => rw [after_bind_ok hrun, h, after_ok hrun]
  | error e s' => rw [after_bind_error hrun, after_error hrun]

/-! ## What is left behind

The rule for a sequence needs nothing of the case in which the first part raises: then the second
one is not run, and what the first one has left behind is the result.  A function that calls another
one and then does more is associated the other way, which is what `Preserves.bind_bind` is for.
-/

/-- Whether the computation succeeds or raises, it leaves the invariant behind. -/
def Preserves (I : σ → Prop) (x : EStateM ε σ α) : Prop := ∀ s, I s → I (after x s)

section Preserves

variable {I : σ → Prop}

lemma preserves_pure (a : α) : Preserves I (pure a : EStateM ε σ α) := fun _ h => h

lemma preserves_throw (e : ε) : Preserves I (throw e : EStateM ε σ α) := fun _ h => h

lemma preserves_modify {g : σ → σ} (h : ∀ s, I s → I (g s)) :
    Preserves I (modify g : EStateM ε σ Unit) := fun s hs => h s hs

lemma preserves_get_bind {f : σ → EStateM ε σ β} (h : ∀ t, Preserves I (f t)) :
    Preserves I (get >>= f) := fun s hs => h s s hs

lemma Preserves.bind (hx : Preserves I x) (hf : ∀ a, Preserves I (f a)) :
    Preserves I (x >>= f) := by
  intro s hs
  have hleft := hx s hs
  cases hrun : x s with
  | ok a s' =>
      rw [after_ok hrun] at hleft
      rw [after_bind_ok hrun]
      exact hf a s' hleft
  | error e s' =>
      rw [after_error hrun] at hleft
      rwa [after_bind_error hrun]

lemma preserves_forM {γ : Type} {g : γ → EStateM ε σ PUnit} (h : ∀ c, Preserves I (g c)) :
    ∀ cs : List γ, Preserves I (cs.forM g)
  | [] => preserves_pure _
  | c :: cs => (h c).bind fun _ => preserves_forM h cs

lemma preserves_ite {y : EStateM ε σ α} {p : Prop} [Decidable p] (hx : Preserves I x)
    (hy : Preserves I y) : Preserves I (if p then x else y) := by
  split_ifs
  · exact hx
  · exact hy

/-- Two computations that belong together, and what follows them. -/
lemma Preserves.bind_bind {γ : Type} {g : β → EStateM ε σ γ} (h : Preserves I (x >>= f))
    (hg : ∀ b, Preserves I (g b)) : Preserves I (x >>= fun a => f a >>= g) := by
  rw [← bind_assoc]
  exact h.bind hg

end Preserves

/-! ## Computations that raise nothing

The invariant is in the hypothesis as well as in the conclusion, because what keeps a computation
from raising is usually a property of the state which the part before it has to establish.
-/

/-- From every state with the invariant the computation succeeds, in a state with the invariant. -/
def Keeps (I : σ → Prop) (x : EStateM ε σ α) : Prop :=
  ∀ s, I s → ∃ a s', x s = .ok a s' ∧ I s'

variable {I : σ → Prop}

lemma keeps_pure (a : α) : Keeps I (pure a : EStateM ε σ α) := fun s h => ⟨a, s, rfl, h⟩

lemma keeps_modify {g : σ → σ} (h : ∀ s, I s → I (g s)) : Keeps I (modify g : EStateM ε σ Unit) :=
  fun s hs => ⟨(), g s, rfl, h s hs⟩

lemma keeps_modifyGet {g : σ → α × σ} (h : ∀ s, I s → I (g s).2) :
    Keeps I (modifyGet g : EStateM ε σ α) :=
  fun s hs => ⟨(g s).1, (g s).2, rfl, h s hs⟩

lemma keeps_get_bind {f : σ → EStateM ε σ β} (h : ∀ t, Keeps I (f t)) : Keeps I (get >>= f) :=
  fun s hs => h s s hs

lemma Keeps.bind (hx : Keeps I x) (hf : ∀ a, Keeps I (f a)) : Keeps I (x >>= f) := by
  intro s hs
  obtain ⟨a, s', hrun, hs'⟩ := hx s hs
  obtain ⟨b, s'', hrun', hs''⟩ := hf a s' hs'
  exact ⟨b, s'', (bind_ok hrun).trans hrun', hs''⟩

lemma keeps_ite {y : EStateM ε σ α} {p : Prop} [Decidable p] (hx : Keeps I x) (hy : Keeps I y) :
    Keeps I (if p then x else y) := by
  split_ifs
  · exact hx
  · exact hy

lemma keeps_forM {γ : Type} {g : γ → EStateM ε σ PUnit} (h : ∀ c, Keeps I (g c)) :
    ∀ cs : List γ, Keeps I (cs.forM g)
  | [] => keeps_pure _
  | c :: cs => (h c).bind fun _ => keeps_forM h cs

/-! ## Computations on a part of the state

Nothing is said about a computation that raises.  This is the weaker comparison, and the one that
suffices wherever only calls that have returned are looked at.
-/

section Refines

variable {ε' τ : Type} {part : σ → τ} {y : EStateM ε' τ α} {g : α → EStateM ε' τ β}

/-- When the computation succeeds, the other one does to the part of the state what it does. -/
def Refines (part : σ → τ) (x : EStateM ε σ α) (y : EStateM ε' τ α) : Prop :=
  ∀ s a s', x s = .ok a s' → y (part s) = .ok a (part s')

lemma refines_pure (a : α) :
    Refines part (pure a : EStateM ε σ α) (pure a : EStateM ε' τ α) := by
  rintro s b s' h
  obtain ⟨rfl, rfl⟩ := EStateM.Result.ok.inj h
  rfl

lemma Refines.bind (hx : Refines part x y) (hf : ∀ a, Refines part (f a) (g a)) :
    Refines part (x >>= f) (y >>= g) := by
  rintro s b s' h
  obtain ⟨a, s₁, hrun, h⟩ := bind_eq_ok h
  rw [bind_ok (hx s a s₁ hrun)]
  exact hf a s₁ b s' h

lemma refines_forM {γ : Type} {f : γ → EStateM ε σ PUnit} {g : γ → EStateM ε' τ PUnit}
    (h : ∀ c, Refines part (f c) (g c)) : ∀ cs : List γ, Refines part (cs.forM f) (cs.forM g)
  | [] => refines_pure _
  | c :: cs => (h c).bind fun _ => refines_forM h cs

end Refines

/-! ## Computations that raise something of their own

Such a computation may stop earlier than the other one, and then nothing is said.  Whatever else
it raises, the other one raises as well, and up to then they have done the same.
-/

section Tracks

variable {ε' τ : Type} {part : σ → τ} {own : ε' → ε} {y : EStateM ε' τ α} {g : α → EStateM ε' τ β}

/-- Unless the computation raises something of its own, the other one does to the part of the state
what it does, and raises what it raises. -/
def Tracks (part : σ → τ) (own : ε' → ε) (x : EStateM ε σ α) (y : EStateM ε' τ α) : Prop :=
  Refines part x y ∧ ∀ s e s', x s = .error (own e) s' → y (part s) = .error e (part s')

lemma tracks_pure (a : α) : Tracks part own (pure a) (pure a) := by
  refine ⟨refines_pure a, fun s e s' h => ?_⟩
  cases h

lemma tracks_throw (hown : own.Injective) (e : ε') :
    Tracks part own (throw (own e) : EStateM ε σ α) (throw e) := by
  refine ⟨fun s a s' h => ?_, fun s e' s' h => ?_⟩
  · cases h
  · obtain ⟨he, rfl⟩ := EStateM.Result.error.inj h
    obtain rfl := hown he
    rfl

/-- What it raises of its own. -/
lemma tracks_throw_own {e : ε} (h : ∀ e', own e' ≠ e) :
    Tracks part own (throw e : EStateM ε σ α) y := by
  refine ⟨fun s a s' hrun => ?_, fun s e' s' hrun => ?_⟩
  · cases hrun
  · exact absurd (EStateM.Result.error.inj hrun).1.symm (h e')

lemma Tracks.bind (hx : Tracks part own x y) (hf : ∀ a, Tracks part own (f a) (g a)) :
    Tracks part own (x >>= f) (y >>= g) := by
  refine ⟨hx.1.bind fun a => (hf a).1, fun s e s' h => ?_⟩
  cases hrun : x s with
  | ok a s₁ =>
      rw [bind_ok hrun] at h
      rw [bind_ok (hx.1 s a s₁ hrun)]
      exact (hf a).2 s₁ e s' h
  | error e' s₁ =>
      rw [bind_error hrun] at h
      obtain ⟨rfl, rfl⟩ := EStateM.Result.error.inj h
      exact bind_error (hx.2 s e s₁ hrun)

lemma tracks_get_bind {f : σ → EStateM ε σ α} {g : τ → EStateM ε' τ α}
    (h : ∀ t, Tracks part own (f t) (g (part t))) : Tracks part own (get >>= f) (get >>= g) :=
  ⟨fun s a s' hrun => (h s).1 s a s' hrun, fun s e s' hrun => (h s).2 s e s' hrun⟩

lemma tracks_ite {x' : EStateM ε σ α} {y' : EStateM ε' τ α} {p : Prop} [Decidable p]
    (hx : Tracks part own x y) (hy : Tracks part own x' y') :
    Tracks part own (if p then x else x') (if p then y else y') := by
  split_ifs
  · exact hx
  · exact hy

/-- **What is left behind.** -/
theorem Tracks.after (h : Tracks part own x y) (hown : ∀ e s', x s = .error e s' → ∃ e', e = own e') :
    part (Raising.after x s) = Raising.after y (part s) := by
  cases hrun : x s with
  | ok a s' => rw [after_ok hrun, after_ok (h.1 s a s' hrun)]
  | error e s' =>
      obtain ⟨e', rfl⟩ := hown e s' hrun
      rw [after_error hrun, after_error (h.2 s e' s' hrun)]

end Tracks

/-! ## Computations done to the whole

The part has to be found in the whole, and put back into it.  Laws between the two are asked for
only where they are used.
-/

section Zoom

variable {ε' τ : Type} {part : σ → τ} {put : σ → τ → σ} {own : ε' → ε} {y : EStateM ε' τ α} {t : τ}

/-- Do the computation to a part of the state. -/
def zoom (part : σ → τ) (put : σ → τ → σ) (own : ε' → ε) (y : EStateM ε' τ α) : EStateM ε σ α :=
  fun s =>
    match y (part s) with
    | .ok a t => .ok a (put s t)
    | .error e t => .error (own e) (put s t)

lemma zoom_ok (h : y (part s) = .ok a t) : zoom part put own y s = .ok a (put s t) := by
  rw [zoom, h]

lemma zoom_error {e : ε'} (h : y (part s) = .error e t) :
    zoom part put own y s = .error (own e) (put s t) := by
  rw [zoom, h]

lemma zoom_eq_ok (h : zoom part put own y s = .ok a s') :
    ∃ t, y (part s) = .ok a t ∧ s' = put s t := by
  cases hy : y (part s) with
  | ok b t =>
      rw [zoom_ok hy] at h
      obtain ⟨rfl, rfl⟩ := EStateM.Result.ok.inj h
      exact ⟨t, rfl, rfl⟩
  | error e t =>
      rw [zoom_error hy] at h
      cases h

lemma zoom_eq_error (h : zoom part put own y s = .error e s') :
    ∃ e' t, y (part s) = .error e' t ∧ e = own e' ∧ s' = put s t := by
  cases hy : y (part s) with
  | ok b t =>
      rw [zoom_ok hy] at h
      cases h
  | error e' t =>
      rw [zoom_error hy] at h
      obtain ⟨rfl, rfl⟩ := EStateM.Result.error.inj h
      exact ⟨e', t, rfl, rfl, rfl⟩

lemma after_zoom : after (zoom part put own y) s = put s (after y (part s)) := by
  cases hy : y (part s) with
  | ok a t => rw [after_ok (zoom_ok hy), after_ok hy]
  | error e t => rw [after_error (zoom_error hy), after_error hy]

lemma preserves_zoom {I : σ → Prop} (h : ∀ s, I s → I (put s (after y (part s)))) :
    Preserves I (zoom part put own y) := by
  intro s hs
  rw [after_zoom]
  exact h s hs

lemma refines_zoom (hput : ∀ s t, part (put s t) = t) : Refines part (zoom part put own y) y := by
  intro s a s' h
  obtain ⟨t, hy, rfl⟩ := zoom_eq_ok h
  rw [hy, hput]

lemma tracks_zoom (hput : ∀ s t, part (put s t) = t) (hown : own.Injective) :
    Tracks part own (zoom part put own y) y := by
  refine ⟨refines_zoom hput, fun s e s' h => ?_⟩
  obtain ⟨e', t, hy, he, rfl⟩ := zoom_eq_error h
  rw [hy, hput, hown he]

/-- Two computations, each done to the whole it belongs to. -/
lemma Tracks.zoom {σ' τ' : Type} {x : EStateM ε σ α} (h : Tracks part own x y) {whole : σ' → τ'}
    {p : σ' → σ} {q : τ' → τ} {put : σ' → σ → σ'} {put' : τ' → τ → τ'}
    (hpart : ∀ s, part (p s) = q (whole s)) (hput : ∀ s t, whole (put s t) = put' (whole s) (part t)) :
    Tracks whole own (Raising.zoom p put id x) (Raising.zoom q put' id y) := by
  refine ⟨fun s a s' hrun => ?_, fun s e s' hrun => ?_⟩
  · obtain ⟨t, hx, rfl⟩ := zoom_eq_ok hrun
    rw [hput]
    exact zoom_ok (hpart s ▸ h.1 _ _ _ hx)
  · obtain ⟨e', t, hx, rfl, rfl⟩ := zoom_eq_error hrun
    rw [hput]
    exact zoom_error (hpart s ▸ h.2 _ _ _ hx)

end Zoom

end Raising
