import Mathlib.Data.List.Count
import Mathlib.Tactic.Ring
import Mathlib.Algebra.Order.Ring.Nat

/-!
# Histories in which losses come in bounded runs

A history records, in order, which of a sequence of attempts succeeded.  A lossy medium is often
described by a window: among any `k` consecutive attempts at least one succeeds.  What a
retransmission protocol needs from that is a count.

* `EveryWindow` — the description.
* `EveryWindow.append_left` — it passes to every earlier history.
* **`EveryWindow.length_lt`** — `c` successes leave room for fewer than `k * (c + 1)` attempts.
* `EveryWindow.length_lt_mul` — the form for a round trip: if fewer than `j` attempts succeeded,
  there were fewer than `k * j` of them.

The window is asked of every position at which it fits, so a history that is shorter than the window
satisfies the description whatever happened.  This is why the counts are bounds from above on the
length: a history that is long enough contains whole windows, one success in each of them.
-/

namespace LossWindow

/-- Among any `k` consecutive attempts at least one succeeds. -/
def EveryWindow (k : ℕ) (l : List Bool) : Prop :=
  ∀ i < l.length + 1 - k, true ∈ (l.drop i).take k

instance (k : ℕ) (l : List Bool) : Decidable (EveryWindow k l) :=
  inferInstanceAs (Decidable (∀ i < l.length + 1 - k, true ∈ (l.drop i).take k))

variable {k : ℕ}

/-- The description passes to every earlier history. -/
lemma EveryWindow.append_left {l l' : List Bool} (h : EveryWindow k (l ++ l')) :
    EveryWindow k l := by
  intro i hi
  have hw := h i (by rw [List.length_append]; omega)
  rwa [List.drop_append_of_le_length (by omega),
    List.take_append_of_le_length (by rw [List.length_drop]; omega)] at hw

lemma EveryWindow.drop {l : List Bool} (hk : 0 < k) (h : EveryWindow k l) (n : ℕ) :
    EveryWindow k (l.drop n) := by
  intro i hi
  rw [List.length_drop] at hi
  rw [List.drop_drop]
  exact h (n + i) (by omega)

/-- **Counting.**  `c` successes leave room for fewer than `k * (c + 1)` attempts. -/
theorem EveryWindow.length_lt (hk : 0 < k) : ∀ {l : List Bool}, EveryWindow k l →
    l.length < k * (l.count true + 1) := by
  intro l
  induction hn : l.length using Nat.strong_induction_on generalizing l with
  | _ n ih =>
      intro h
      subst hn
      by_cases hlt : l.length < k
      · calc l.length < k * 1 := by omega
          _ ≤ k * (l.count true + 1) := Nat.mul_le_mul_left k (by omega)
      · -- the first window holds a success, and the rest is a shorter history
        have hfirst : 0 < (l.take k).count true := by
          have := h 0 (by omega)
          rw [List.drop_zero] at this
          exact List.count_pos_iff.mpr this
        have hrest := ih (l.drop k).length (by rw [List.length_drop]; omega) rfl (h.drop hk k)
        have hcount : l.count true = (l.take k).count true + (l.drop k).count true := by
          rw [← List.count_append, List.take_append_drop]
        rw [List.length_drop] at hrest
        calc l.length < k * ((l.drop k).count true + 1) + k := by omega
          _ = k * ((l.drop k).count true + 2) := by ring
          _ ≤ k * (l.count true + 1) := Nat.mul_le_mul_left k (by omega)

/-- Fewer than `j` successes leave room for fewer than `k * j` attempts. -/
lemma EveryWindow.length_lt_mul {l : List Bool} {j : ℕ} (hk : 0 < k) (h : EveryWindow k l)
    (hc : l.count true < j) : l.length < k * j :=
  lt_of_lt_of_le (h.length_lt hk) (Nat.mul_le_mul_left k hc)

/-- A history without a success is shorter than the window. -/
lemma EveryWindow.length_lt_of_count_eq_zero {l : List Bool} (hk : 0 < k) (h : EveryWindow k l)
    (hc : l.count true = 0) : l.length < k := by
  have := h.length_lt hk
  rwa [hc, Nat.zero_add, Nat.mul_one] at this

end LossWindow
