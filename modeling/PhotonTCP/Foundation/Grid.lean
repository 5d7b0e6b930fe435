import Mathlib.Data.List.Range
import Mathlib.Tactic

/-!
# Grids

Rows of one length each, as a table of a function of the row and the column.

* `Grid`, `full`, `put`, `kron` — a constant grid, one entry that is written, the Kronecker product.
* `table` — the grid of a function; `table_inj`, `get?_table`.
* **`foldl_put_table`** — a loop that writes; **`kron_full_table`** — every entry becomes a block.

A loop over rows and columns, or an operation of an array library, says how a grid is computed; a
table says what is in it.  The theorems turn the first into the second.  They are about all grids of
the form `table h w f`, and by `eq_table_of_get?` that is every rectangular one.

Places outside of the grid are no error: writing there changes nothing, and reading gives nothing.
-/

/-- The rows of a grid. -/
abbrev Grid (α : Type*) := List (List α)

namespace Grid

variable {α : Type*}

/-- The entry at a row and a column. -/
def get? (g : Grid α) (i j : ℕ) : Option α := g[i]?.bind fun row => row[j]?

/-- A constant grid. -/
def full (h w : ℕ) (a : α) : Grid α := List.replicate h (List.replicate w a)

/-- Write one entry. -/
def put (g : Grid α) (i j : ℕ) (a : α) : Grid α := g.modify i fun row => row.set j a

/-- The Kronecker product. -/
def kron [Mul α] (g g' : Grid α) : Grid α :=
  g.flatMap fun row => g'.map fun row' => row.flatMap fun a => row'.map fun b => a * b

/-- The grid of a function. -/
def table (h w : ℕ) (f : ℕ → ℕ → α) : Grid α :=
  (List.range h).map fun i => (List.range w).map (f i)

variable {h w : ℕ} {f f' : ℕ → ℕ → α}

lemma length_table (h w : ℕ) (f : ℕ → ℕ → α) : (table h w f).length = h := by
  simp [table]

lemma get?_table {i j : ℕ} (hi : i < h) (hj : j < w) : (table h w f).get? i j = some (f i j) := by
  simp [get?, table, hi, hj]

lemma table_congr (heq : ∀ i < h, ∀ j < w, f i j = f' i j) : table h w f = table h w f' := by
  refine List.map_congr_left fun i hi => List.map_congr_left fun j hj => ?_
  exact heq i (List.mem_range.mp hi) j (List.mem_range.mp hj)

lemma full_eq_table (h w : ℕ) (a : α) : full h w a = table h w fun _ _ => a := by
  simp [full, table, List.map_const']

/-- Every rectangular grid is a table. -/
lemma eq_table_of_get? {g : Grid α} (hlength : g.length = h) (hrows : ∀ row ∈ g, row.length = w)
    (hget : ∀ i < h, ∀ j < w, g.get? i j = some (f i j)) : g = table h w f := by
  refine List.ext_getElem (by rw [hlength, length_table]) fun i hi hi' => ?_
  have hrow := hrows _ (List.getElem_mem hi)
  rw [length_table] at hi'
  refine List.ext_getElem (by simp [table, hrow]) fun j hj hj' => ?_
  have hentry := hget i hi' j (hrow ▸ hj)
  simp only [get?, List.getElem?_eq_getElem hi, Option.bind_some, List.getElem?_eq_getElem hj,
    Option.some.injEq] at hentry
  simp [table, hentry]

/-! ## Writing

The value is the same at every place, so their order does not matter and a place may occur more than
once.
-/

lemma put_table (i j : ℕ) (a : α) : (table h w f).put i j a =
    table h w fun i' j' => if i' = i ∧ j' = j then a else f i' j' := by
  refine List.ext_getElem (by simp [put, table]) fun i' hi hi' => ?_
  rw [length_table] at hi'
  simp only [put, table, List.getElem_modify, List.getElem_map, List.getElem_range]
  split_ifs with hrow
  · subst hrow
    refine List.ext_getElem (by simp) fun j' hj hj' => ?_
    simp only [List.getElem_set, List.getElem_map, List.getElem_range, true_and]
    exact if_congr eq_comm rfl rfl
  · refine List.map_congr_left fun j' _ => ?_
    rw [if_neg fun h => hrow h.1.symm]

/-- **A loop that writes one value at these places.** -/
theorem foldl_put_table (a : α) : ∀ (places : List (ℕ × ℕ)) (f : ℕ → ℕ → α),
    places.foldl (fun g p => put g p.1 p.2 a) (table h w f) =
      table h w fun i j => if (i, j) ∈ places then a else f i j := by
  intro places
  induction places with
  | nil => intro f; simp
  | cons p places ih =>
      intro f
      rw [List.foldl_cons, put_table, ih]
      refine table_congr fun i _ j _ => ?_
      by_cases hrest : (i, j) ∈ places
      · rw [if_pos hrest, if_pos (List.mem_cons_of_mem _ hrest)]
      · rw [if_neg hrest]
        refine if_congr ?_ rfl rfl
        rw [List.mem_cons, or_iff_left hrest, Prod.ext_iff]

/-! ## Scaling

The product goes row by row, and every row of the second factor repeats each entry of the first.
With ones in the second factor, the entry at a row and a column is that of the two numbers divided
by the length of a block.
-/

/-- Every entry is repeated. -/
lemma flatMap_replicate_range {β : Type*} (s : ℕ) (f : ℕ → β) : ∀ n,
    ((List.range n).flatMap fun i => List.replicate s (f i)) = (List.range (n * s)).map fun i => f (i / s)
  | 0 => by simp
  | n + 1 => by
      rw [List.range_succ, List.flatMap_append, flatMap_replicate_range s f n, Nat.succ_mul,
        List.range_add, List.map_append, List.flatMap_singleton, List.map_map]
      refine congrArg _ (List.ext_getElem (by simp) fun k hk hk' => ?_)
      have hk : k < s := by simpa using hk
      simp [Nat.mul_add_div (Nat.zero_lt_of_lt hk), Nat.mul_comm n s, Nat.div_eq_of_lt hk]

/-- **The product with a block of ones** repeats every entry over a block. -/
theorem kron_full_table [Mul α] {one : α} (hone : ∀ a, a * one = a) (s : ℕ) :
    kron (table h w f) (full s s one) = table (h * s) (w * s) fun i j => f (i / s) (j / s) := by
  rw [kron, table, List.flatMap_map]
  simp only [full, List.map_replicate, hone, List.flatMap_map, flatMap_replicate_range]
  rfl

end Grid
