import Mathlib.Data.List.TakeWhile

/-!
# Generators

A generator yields values one at a time, and in between it may stop or raise.  What it raises is
raised where the next value is asked for, outside of what is done with a value, and it yields
nothing after it.

* `Generator` — with `afterStep`, a statement between two values, and `yieldAll`, a loop of these.
* `firstSome` — a loop over the values that returns at the first result.
* `values`, `error` — what is yielded, and what is raised behind it; **`firstSome_eq`**.
* `Yields` — a generator yields the values on a list, up to the first that is missing, where it
  raises; `Yields.yield`, `yields_raise`, `yields_yieldAll`.
* `firstOn` — the first result on such a list; **`Yields.firstSome`** — what the loop makes of it.

The difference matters wherever a loop guards what it does with each value by a handler of its own.
The handler sees what is raised in the body of the loop; what the generator raises between two
values is raised by the loop itself, and passes the handler by.  A model in which the values are a
list computed beforehand cannot say this, since there nothing happens between two values.

A specification wants the list nevertheless: the values as they would be if nothing were raised,
some of them missing.  `Yields` relates the two, and `Yields.firstSome` says what a search loop
makes of it.  It may find less than there is on the list, because it does not get past the first
value that is missing.
-/

/-- A generator of values. -/
inductive Generator (ε α : Type*) where
  | stop
  | raise (e : ε)
  | yield (value : α) (rest : Generator ε α)

namespace Generator

variable {ε α β γ : Type*}

/-- Go on with what a statement returns, if it does not raise. -/
def afterStep (x : Except ε α) (next : α → Generator ε β) : Generator ε β :=
  match x with
  | .ok a => next a
  | .error e => raise e

/-- Yield what each statement returns. -/
def yieldAll : List (Except ε α) → Generator ε α
  | [] => stop
  | x :: xs => afterStep x fun a => yield a (yieldAll xs)

/-- Loop over the values, and return at the first result. -/
def firstSome (f : α → Option β) : Generator ε α → Except ε (Option β)
  | stop => .ok none
  | raise e => .error e
  | yield a rest =>
      match f a with
      | some b => .ok (some b)
      | none => rest.firstSome f

/-- The values. -/
def values : Generator ε α → List α
  | stop => []
  | raise _ => []
  | yield a rest => a :: rest.values

/-- What is raised behind the last value. -/
def error : Generator ε α → Option ε
  | stop => none
  | raise e => some e
  | yield _ rest => rest.error

/-- **The loop**, by what is yielded and what is raised. -/
theorem firstSome_eq (f : α → Option β) (g : Generator ε α) : g.firstSome f =
    match g.values.findSome? f, g.error with
    | some b, _ => .ok (some b)
    | none, some e => .error e
    | none, none => .ok none := by
  induction g with
  | stop => rfl
  | raise e => rfl
  | yield a rest ih =>
      rw [firstSome, values, List.findSome?_cons, error]
      cases f a with
      | some b => rfl
      | none => exact ih

/-! ## The values as a list

A missing value is `none`.  The lemmas `Yields.yield`, `yields_raise` and `yields_yieldAll` follow
the constructors and the loop with which generators are written, so that the list of a generator is
found by going through its code.
-/

/-- A list up to the first value that is missing. -/
def upToMissing (vs : List (Option α)) : List (Option α) := vs.takeWhile Option.isSome

lemma upToMissing_eq_self {vs : List (Option α)} (h : none ∉ vs) : upToMissing vs = vs := by
  rw [upToMissing, List.takeWhile_eq_self_iff]
  intro v hv
  cases v with
  | none => exact absurd hv h
  | some a => rfl

/-- It yields the values on the list up to the first that is missing, and raises there. -/
structure Yields (g : Generator ε α) (vs : List (Option α)) : Prop where
  values : g.values = (upToMissing vs).reduceOption
  error : g.error = none ↔ none ∉ vs

lemma Yields.yield {g : Generator ε α} {vs : List (Option α)} (h : g.Yields vs) (a : α) :
    (yield a g).Yields (some a :: vs) where
  values := by
    rw [Generator.values, h.values]
    rfl
  error := by simpa [Generator.error] using h.error

/-- Behind what is missing there may be anything. -/
lemma yields_raise (e : ε) (vs : List (Option α)) : (raise e).Yields (none :: vs) :=
  ⟨rfl, by simp [Generator.error]⟩

lemma yields_yieldAll : ∀ xs : List (Except ε α), (yieldAll xs).Yields (xs.map Except.toOption)
  | [] => ⟨rfl, by simp [yieldAll, Generator.error]⟩
  | .error e :: xs => yields_raise e _
  | .ok a :: xs => (yields_yieldAll xs).yield a

/-- The first result on the list. -/
def firstOn (f : α → Option β) (vs : List (Option α)) : Option β := vs.findSome? fun v => v.bind f

lemma firstOn_eq_none {f : α → Option β} {vs : List (Option α)} :
    firstOn f vs = none ↔ ∀ a, some a ∈ vs → f a = none := by
  rw [firstOn, List.findSome?_eq_none_iff]
  refine ⟨fun h a ha => h (some a) ha, fun h v hv => ?_⟩
  cases v with
  | none => rfl
  | some a => exact h a hv

lemma exists_of_firstOn {f : α → Option β} {vs : List (Option α)} {b : β}
    (h : firstOn f vs = some b) : ∃ a, some a ∈ vs ∧ f a = some b := by
  obtain ⟨v, hv, hb⟩ := List.exists_of_findSome?_eq_some h
  obtain ⟨a, rfl, hb⟩ := Option.bind_eq_some_iff.mp hb
  exact ⟨a, hv, hb⟩

lemma firstOn_reduceOption (f : α → Option β) (vs : List (Option α)) :
    vs.reduceOption.findSome? f = firstOn f vs := by
  induction vs with
  | nil => rfl
  | cons v vs ih =>
      rw [firstOn, List.findSome?_cons, ← firstOn, ← ih]
      cases v with
      | none => rfl
      | some a => rfl

/-- What is found before the first that is missing is what is found on the whole list. -/
lemma firstOn_of_upToMissing {f : α → Option β} {vs : List (Option α)} {b : β}
    (h : firstOn f (upToMissing vs) = some b) : firstOn f vs = some b := by
  have happend : upToMissing vs ++ vs.dropWhile Option.isSome = vs :=
    List.takeWhile_append_dropWhile
  rw [← happend, firstOn, List.findSome?_append, ← firstOn, h, Option.some_or]

/-- **The loop over what is on a list**: it finds what is there before the first that is missing,
and if there is nothing it raises at that. -/
theorem Yields.firstSome {g : Generator ε α} {vs : List (Option α)} (h : g.Yields vs)
    (f : α → Option β) :
    (∃ b, firstOn f (upToMissing vs) = some b ∧ g.firstSome f = .ok (some b)) ∨
    firstOn f (upToMissing vs) = none ∧
      ((none ∈ vs ∧ ∃ e, g.firstSome f = .error e) ∨
        none ∉ vs ∧ firstOn f vs = none ∧ g.firstSome f = .ok none) := by
  rw [firstSome_eq, h.values, firstOn_reduceOption]
  cases hfound : firstOn f (upToMissing vs) with
  | some b => exact .inl ⟨b, rfl, rfl⟩
  | none =>
      refine .inr ⟨rfl, ?_⟩
      cases herror : g.error with
      | some e =>
          have hmissing : none ∈ vs := by
            by_contra hall
            rw [h.error.mpr hall] at herror
            cases herror
          exact .inl ⟨hmissing, e, rfl⟩
      | none =>
          have hall : none ∉ vs := h.error.mp herror
          rw [upToMissing_eq_self hall] at hfound
          exact .inr ⟨hall, hfound, rfl⟩

end Generator
