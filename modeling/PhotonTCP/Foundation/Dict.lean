import Mathlib.Data.List.Nodup
import Mathlib.Data.List.Basic

/-!
# Insertion-ordered dictionaries

A dictionary that remembers the order in which its keys were first inserted: assigning to a
present key keeps the key's place, assigning to a new key appends it.  Mathlib's `AList` fixes no
such order (its `insert` moves the key to the front), and programs that iterate over a dictionary
observe the order, so the structure is set up here.

* `Dict` — an association list whose keys are distinct, the distinctness carried as a field.
* `get?`, `set`, `erase`, `mapValues` — the operations, each with what it does to the keys, to the
  entries and to a lookup.
* `mapValues_set`, `mapValues_erase` — a view of the values passes through the operations.
* `filter_flatMap_entries` — taking one key's part out of an output merged over all entries.
* `mem_entries_iff` — membership of an entry *is* a lookup, which is what lets an invariant be
  stated over the entries and used at a key.

Distinctness of the keys is a field, so that every dictionary that can be written down is one that a
program could have built, and no invariant has to repeat it.  The operations keep it, each by a
lemma on the underlying list right before it.

Most lemmas come in pairs, one about the entries and one about a lookup.  An invariant of a program
is often about all entries at once (each waiting packet has a sequence number below a bound, say)
while the operations of the program look up one key; `mem_entries_iff` translates between the two,
and the `simp` lemmas about `get?` after `set`, `erase` and `mapValues` do the rest.
-/

/-- An association list with distinct keys, in insertion order. -/
structure Dict (K V : Type*) where
  entries : List (K × V)
  nodup : (entries.map Prod.fst).Nodup

namespace Dict

variable {K V : Type*}

/-- A dictionary is its entries. -/
@[ext] theorem ext {d e : Dict K V} (h : d.entries = e.entries) : d = e := by
  cases d; cases e; cases h; rfl

instance [DecidableEq K] [DecidableEq V] : DecidableEq (Dict K V) := fun d e =>
  decidable_of_iff (d.entries = e.entries) ⟨Dict.ext, fun h => by rw [h]⟩

/-- The empty dictionary. -/
def empty : Dict K V := ⟨[], List.nodup_nil⟩

/-- The keys, in insertion order. -/
def keys (d : Dict K V) : List K := d.entries.map Prod.fst

/-- The values, in the insertion order of their keys. -/
def values (d : Dict K V) : List V := d.entries.map Prod.snd

/-- Number of entries. -/
def size (d : Dict K V) : ℕ := d.entries.length

@[simp] lemma entries_empty : (empty : Dict K V).entries = [] := rfl
@[simp] lemma keys_empty : (empty : Dict K V).keys = [] := rfl
@[simp] lemma size_empty : (empty : Dict K V).size = 0 := rfl
@[simp] lemma length_entries (d : Dict K V) : d.entries.length = d.size := rfl

lemma size_eq_length_keys (d : Dict K V) : d.size = d.keys.length := by
  rw [keys, List.length_map, length_entries]

lemma keys_nodup (d : Dict K V) : d.keys.Nodup := d.nodup

lemma mem_keys_of_mem {d : Dict K V} {k : K} {v : V} (h : (k, v) ∈ d.entries) : k ∈ d.keys :=
  List.mem_map.mpr ⟨(k, v), h, rfl⟩

lemma mem_keys_iff {d : Dict K V} {k : K} : k ∈ d.keys ↔ ∃ v, (k, v) ∈ d.entries := by
  simp [keys]

/-- Distinct keys: two entries of one key are the same entry. -/
lemma eq_of_mem {d : Dict K V} {k : K} {v w : V}
    (hv : (k, v) ∈ d.entries) (hw : (k, w) ∈ d.entries) : v = w := by
  have h := List.inj_on_of_nodup_map d.nodup hv hw rfl
  exact congrArg Prod.snd h

/-! ## Updating every value

The keys and their order stay.  Reading a dictionary through a function of its values, for instance
to see only some fields of the records it holds, is `mapValues` as well.
-/

variable {W : Type*}

/-- Apply `f` to every value, in place. -/
def mapValues (f : V → W) (d : Dict K V) : Dict K W :=
  ⟨d.entries.map fun e => (e.1, f e.2), by
    rw [List.map_map]
    exact d.nodup⟩

@[simp] lemma entries_mapValues (f : V → W) (d : Dict K V) :
    (d.mapValues f).entries = d.entries.map fun e => (e.1, f e.2) := rfl

@[simp] lemma keys_mapValues (f : V → W) (d : Dict K V) : (d.mapValues f).keys = d.keys := by
  rw [keys, keys, entries_mapValues, List.map_map]
  rfl

/-! ## Lookup

The first entry of a key is the only one, so a lookup is membership.
-/

variable [DecidableEq K]

instance (k : K) (d : Dict K V) : Decidable (k ∈ d.keys) := inferInstance

/-- The first value stored under `k` in an association list. -/
def getEntries (k : K) : List (K × V) → Option V
  | [] => none
  | (a, v) :: t => if a = k then some v else getEntries k t

/-- The value stored under `k`. -/
def get? (d : Dict K V) (k : K) : Option V := getEntries k d.entries

@[simp] lemma get?_empty (k : K) : (empty : Dict K V).get? k = none := rfl

lemma getEntries_eq_some {k : K} {v : V} :
    ∀ {l : List (K × V)}, (l.map Prod.fst).Nodup → (getEntries k l = some v ↔ (k, v) ∈ l)
  | [], _ => by simp [getEntries]
  | (a, w) :: t, h => by
      simp only [List.map_cons, List.nodup_cons, List.mem_map, not_exists, not_and] at h
      by_cases ha : a = k
      · subst ha
        have hnot : (a, v) ∉ t := fun hm => h.1 _ hm rfl
        simp [getEntries, hnot, eq_comm]
      · have hne : (k, v) ≠ (a, w) := fun he => ha (congrArg Prod.fst he).symm
        simp [getEntries, ha, hne, getEntries_eq_some h.2]

/-- **Membership of an entry is a lookup.** -/
theorem mem_entries_iff {d : Dict K V} {k : K} {v : V} :
    (k, v) ∈ d.entries ↔ d.get? k = some v :=
  (getEntries_eq_some d.nodup).symm

lemma get?_eq_none_iff {d : Dict K V} {k : K} : d.get? k = none ↔ k ∉ d.keys := by
  constructor
  · intro h hk
    obtain ⟨v, hv⟩ := mem_keys_iff.mp hk
    rw [mem_entries_iff, h] at hv
    cases hv
  · intro h
    cases hg : d.get? k with
    | none => rfl
    | some v => exact absurd (mem_keys_of_mem (mem_entries_iff.mpr hg)) h

lemma get?_isSome_iff {d : Dict K V} {k : K} : (d.get? k).isSome ↔ k ∈ d.keys := by
  rw [← not_iff_not, ← get?_eq_none_iff]
  simp

/-! ## Assignment

Which of the two branches is taken decides about the order, and iterating over a dictionary observes
it; hence both branches have an equation for the entries, and `get?_set` one for both.
-/

/-- Replace the value of `k` where it stands, or append a new entry. -/
def setEntries (k : K) (v : V) : List (K × V) → List (K × V)
  | [] => [(k, v)]
  | (a, w) :: t => if a = k then (a, v) :: t else (a, w) :: setEntries k v t

lemma map_fst_setEntries (k : K) (v : V) : ∀ l : List (K × V),
    (setEntries k v l).map Prod.fst
      = if k ∈ l.map Prod.fst then l.map Prod.fst else l.map Prod.fst ++ [k]
  | [] => by simp [setEntries]
  | (a, w) :: t => by
      have ih := map_fst_setEntries k v t
      by_cases ha : a = k
      · simp [setEntries, ha]
      · have hk : k ≠ a := fun h => ha h.symm
        by_cases hm : k ∈ t.map Prod.fst
        · simp only [setEntries, if_neg ha, List.map_cons, ih, if_pos hm, List.mem_cons, hk,
            false_or]
        · simp only [setEntries, if_neg ha, List.map_cons, ih, if_neg hm, List.mem_cons, hk,
            false_or, List.cons_append]

lemma nodup_setEntries {k : K} {v : V} {l : List (K × V)} (h : (l.map Prod.fst).Nodup) :
    ((setEntries k v l).map Prod.fst).Nodup := by
  rw [map_fst_setEntries]
  split_ifs with hk
  · exact h
  · exact List.nodup_append.mpr ⟨h, List.nodup_singleton k, by
      intro a ha b hb hab
      rw [List.mem_singleton] at hb
      exact hk (by rw [← hb, ← hab]; exact ha)⟩

/-- `d[k] = v`. -/
def set (d : Dict K V) (k : K) (v : V) : Dict K V :=
  ⟨setEntries k v d.entries, nodup_setEntries d.nodup⟩

lemma setEntries_of_notMem {k : K} {v : V} : ∀ {l : List (K × V)},
    k ∉ l.map Prod.fst → setEntries k v l = l ++ [(k, v)]
  | [], _ => rfl
  | (a, w) :: t, h => by
      simp only [List.map_cons, List.mem_cons, not_or] at h
      rw [setEntries, if_neg (fun ha => h.1 ha.symm), setEntries_of_notMem h.2, List.cons_append]

/-- A new key is appended. -/
lemma entries_set_of_notMem {d : Dict K V} {k : K} (v : V) (h : k ∉ d.keys) :
    (d.set k v).entries = d.entries ++ [(k, v)] :=
  setEntries_of_notMem h

lemma setEntries_of_mem {k : K} {v : V} : ∀ {l : List (K × V)},
    (l.map Prod.fst).Nodup → k ∈ l.map Prod.fst →
      setEntries k v l = l.map fun e => if e.1 = k then (e.1, v) else e
  | [], _, h => by simp at h
  | (a, w) :: t, hn, h => by
      simp only [List.map_cons, List.nodup_cons] at hn
      by_cases ha : a = k
      · subst ha
        have htail : t.map (fun e => if e.1 = a then (e.1, v) else e) = t := by
          refine (List.map_congr_left fun e he => ?_).trans (List.map_id t)
          have : e.1 ≠ a := fun h' => hn.1 (h' ▸ List.mem_map.mpr ⟨e, he, rfl⟩)
          simp [this]
        simp [setEntries, htail]
      · simp only [List.map_cons, List.mem_cons] at h
        have hk : k ∈ t.map Prod.fst := h.resolve_left fun h' => ha h'.symm
        simp [setEntries, ha, setEntries_of_mem hn.2 hk]

/-- A present key keeps its place: only its value changes. -/
lemma entries_set_of_mem {d : Dict K V} {k : K} (v : V) (h : k ∈ d.keys) :
    (d.set k v).entries = d.entries.map fun e => if e.1 = k then (e.1, v) else e :=
  setEntries_of_mem d.nodup h

lemma keys_set (d : Dict K V) (k : K) (v : V) :
    (d.set k v).keys = if k ∈ d.keys then d.keys else d.keys ++ [k] :=
  map_fst_setEntries k v d.entries

lemma mem_keys_set {d : Dict K V} {k a : K} {v : V} :
    a ∈ (d.set k v).keys ↔ a = k ∨ a ∈ d.keys := by
  rw [keys_set]
  split_ifs with hk
  · exact ⟨Or.inr, fun h => h.elim (fun h => h ▸ hk) id⟩
  · rw [List.mem_append, List.mem_singleton, or_comm]

lemma getEntries_setEntries (k a : K) (v : V) : ∀ l : List (K × V),
    getEntries a (setEntries k v l) = if a = k then some v else getEntries a l
  | [] => by simp [setEntries, getEntries, eq_comm]
  | (b, w) :: t => by
      have ih := getEntries_setEntries k a v t
      by_cases hb : b = k
      · subst hb
        by_cases ha : b = a
        · simp [setEntries, getEntries, ha]
        · have ha' : a ≠ b := fun h => ha h.symm
          simp [setEntries, getEntries, ha, ha']
      · by_cases ha : b = a
        · subst ha
          simp [setEntries, getEntries, hb]
        · simp [setEntries, getEntries, hb, ha, ih]

/-- What a lookup sees after an assignment. -/
theorem get?_set (d : Dict K V) (k a : K) (v : V) :
    (d.set k v).get? a = if a = k then some v else d.get? a :=
  getEntries_setEntries k a v d.entries

@[simp] lemma get?_set_self (d : Dict K V) (k : K) (v : V) : (d.set k v).get? k = some v := by
  rw [get?_set, if_pos rfl]

lemma get?_set_ne (d : Dict K V) {k a : K} (v : V) (h : a ≠ k) :
    (d.set k v).get? a = d.get? a := by
  rw [get?_set, if_neg h]

/-- An entry after an assignment is the new one, or an old one of another key. -/
lemma mem_entries_set {d : Dict K V} {k : K} {v : V} {e : K × V} :
    e ∈ (d.set k v).entries ↔ e = (k, v) ∨ e ∈ d.entries ∧ e.1 ≠ k := by
  obtain ⟨a, w⟩ := e
  rw [mem_entries_iff, get?_set, mem_entries_iff]
  by_cases ha : a = k
  · simp [ha, eq_comm]
  · simp [ha]

/-- Assignment adds at most one entry. -/
lemma size_set (d : Dict K V) (k : K) (v : V) :
    (d.set k v).size = if k ∈ d.keys then d.size else d.size + 1 := by
  rw [size_eq_length_keys, keys_set, size_eq_length_keys]
  split_ifs
  · rfl
  · rw [List.length_append, List.length_singleton]

/-! ## Removal

Removing a key filters the entries, so the order of the others stays.
-/

/-- Remove the entry of `k`, if there is one. -/
def erase (d : Dict K V) (k : K) : Dict K V :=
  ⟨d.entries.filter fun e => e.1 ≠ k, d.nodup.sublist (List.filter_sublist.map _)⟩

lemma entries_erase (d : Dict K V) (k : K) :
    (d.erase k).entries = d.entries.filter fun e => e.1 ≠ k := rfl

lemma mem_entries_erase {d : Dict K V} {k : K} {e : K × V} :
    e ∈ (d.erase k).entries ↔ e ∈ d.entries ∧ e.1 ≠ k := by
  simp [entries_erase]

lemma mem_keys_erase {d : Dict K V} {k a : K} : a ∈ (d.erase k).keys ↔ a ∈ d.keys ∧ a ≠ k := by
  simp only [mem_keys_iff, mem_entries_erase]
  exact ⟨fun ⟨v, h, hne⟩ => ⟨⟨v, h⟩, hne⟩, fun ⟨⟨v, h⟩, hne⟩ => ⟨v, h, hne⟩⟩

/-- Removing the oldest entry leaves the rest. -/
lemma entries_erase_cons {d : Dict K V} {k : K} {v : V} {t : List (K × V)}
    (h : d.entries = (k, v) :: t) : (d.erase k).entries = t := by
  have hn := d.nodup
  rw [h, List.map_cons, List.nodup_cons] at hn
  rw [entries_erase, h, List.filter_cons_of_neg (by simp)]
  refine List.filter_eq_self.mpr fun e he => ?_
  have : e.1 ≠ k := fun h' => hn.1 (h' ▸ List.mem_map.mpr ⟨e, he, rfl⟩)
  simpa using this

lemma get?_erase_ne {d : Dict K V} {k a : K} (h : a ≠ k) : (d.erase k).get? a = d.get? a := by
  refine Option.ext fun v => ?_
  rw [← mem_entries_iff, ← mem_entries_iff, mem_entries_erase]
  exact ⟨fun h' => h'.1, fun h' => ⟨h', h⟩⟩

lemma get?_erase_self (d : Dict K V) (k : K) : (d.erase k).get? k = none :=
  get?_eq_none_iff.mpr fun h => (mem_keys_erase.mp h).2 rfl

lemma size_erase_lt {d : Dict K V} {k : K} (h : k ∈ d.keys) : (d.erase k).size < d.size := by
  obtain ⟨v, hv⟩ := mem_keys_iff.mp h
  exact List.length_filter_lt_length_iff_exists.mpr ⟨(k, v), hv, by simp⟩

lemma size_erase_le (d : Dict K V) (k : K) : (d.erase k).size ≤ d.size := List.length_filter_le ..

/-- The keys of the entries that pass a test. -/
lemma mem_map_fst_filter_iff {d : Dict K V} {p : K × V → Bool} {k : K} :
    k ∈ (d.entries.filter p).map Prod.fst ↔ ∃ v, d.get? k = some v ∧ p (k, v) = true := by
  rw [List.mem_map]
  constructor
  · rintro ⟨⟨k', v⟩, he, rfl⟩
    obtain ⟨hmem, hp⟩ := List.mem_filter.mp he
    exact ⟨v, mem_entries_iff.mp hmem, hp⟩
  · rintro ⟨v, hget, hp⟩
    exact ⟨(k, v), List.mem_filter.mpr ⟨mem_entries_iff.mpr hget, hp⟩, rfl⟩

lemma getEntries_map (f : V → W) (k : K) : ∀ l : List (K × V),
    getEntries k (l.map fun e => (e.1, f e.2)) = (getEntries k l).map f
  | [] => rfl
  | (a, w) :: t => by
      by_cases ha : a = k
      · simp [getEntries, ha]
      · simp [getEntries, ha, getEntries_map f k t]

@[simp] lemma get?_mapValues (f : V → W) (d : Dict K V) (k : K) :
    (d.mapValues f).get? k = (d.get? k).map f :=
  getEntries_map f k d.entries

/-! ## Updating values commutes with the rest

A view of the values passes through an assignment and a removal.  This is how two dictionaries that
agree up to what their records hold are followed through the same operations.
-/

lemma map_setEntries (f : V → W) (k : K) (v : V) : ∀ l : List (K × V),
    (setEntries k v l).map (fun e => (e.1, f e.2)) =
      setEntries k (f v) (l.map fun e => (e.1, f e.2))
  | [] => rfl
  | (a, w) :: t => by
      by_cases ha : a = k
      · simp [setEntries, ha]
      · simp [setEntries, ha, map_setEntries f k v t]

lemma mapValues_set (f : V → W) (d : Dict K V) (k : K) (v : V) :
    (d.set k v).mapValues f = (d.mapValues f).set k (f v) :=
  ext (map_setEntries f k v d.entries)

lemma mapValues_erase (f : V → W) (d : Dict K V) (k : K) :
    (d.erase k).mapValues f = (d.mapValues f).erase k := by
  refine ext ?_
  rw [entries_mapValues, entries_erase, entries_erase, entries_mapValues, List.filter_map]
  rfl

/-- Assigning the value that is already there changes nothing. -/
lemma set_eq_self {d : Dict K V} {k : K} {v : V} (h : d.get? k = some v) : d.set k v = d := by
  have hmem : (k, v) ∈ d.entries := mem_entries_iff.mpr h
  refine ext ?_
  rw [entries_set_of_mem v (mem_keys_of_mem hmem)]
  refine (List.map_congr_left fun e he => ?_).trans (List.map_id _)
  split_ifs with hk
  · have hv : e.2 = v := eq_of_mem (k := k) (by rw [← hk]; exact he) hmem
    rw [← hv]
    rfl
  · rfl

/-! ## Output merged over the entries

A program that asks every record for output and concatenates the answers mixes the parts of
different keys.  As long as each piece of output can be told to which key it belongs, one key's part
can be taken out again.
-/

/-- The part of an output merged over all entries that belongs to one key is the output of that
key's entry. -/
theorem filter_flatMap_entries {d : Dict K V} {f : K × V → List W} {p : W → Bool} {k : K}
    (hp : ∀ e ∈ d.entries, ∀ w ∈ f e, p w = true ↔ e.1 = k) :
    (d.entries.flatMap f).filter p = ((d.get? k).map fun v => f (k, v)).getD [] := by
  obtain ⟨entries, nodup⟩ := d
  show (entries.flatMap f).filter p = ((getEntries k entries).map fun v => f (k, v)).getD []
  replace hp : ∀ e ∈ entries, ∀ w ∈ f e, p w = true ↔ e.1 = k := hp
  induction entries with
  | nil => rfl
  | cons e entries ih =>
      obtain ⟨a, v⟩ := e
      rw [List.map_cons, List.nodup_cons] at nodup
      rw [List.flatMap_cons, List.filter_append, getEntries]
      have hhead := hp (a, v) (List.mem_cons_self ..)
      have htail := ih nodup.2 fun e he => hp e (List.mem_cons_of_mem _ he)
      by_cases ha : a = k
      · -- the other entries have other keys
        subst ha
        have hnone : getEntries a entries = none := by
          cases hg : getEntries a entries with
          | none => rfl
          | some w =>
              have hmem := (getEntries_eq_some nodup.2).mp hg
              exact absurd (List.mem_map.mpr ⟨(a, w), hmem, rfl⟩) nodup.1
        rw [hnone] at htail
        rw [if_pos rfl, htail, List.filter_eq_self.mpr fun w hw => (hhead w hw).mpr rfl,
          Option.map_none, Option.getD_none, List.append_nil]
        rfl
      · rw [if_neg ha, htail,
          List.filter_eq_nil_iff.mpr fun w hw hpw => ha ((hhead w hw).mp hpw), List.nil_append]

end Dict
