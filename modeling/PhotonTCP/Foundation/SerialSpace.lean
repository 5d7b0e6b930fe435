import Mathlib.Tactic.Ring
import Mathlib.Algebra.Order.Ring.Int
import Mathlib.Data.List.MinMax
import Mathlib.Data.Int.ConditionallyCompleteOrder
import Mathlib.Tactic.Linarith

/-!
# Serial numbers in a circular space

Counters that live modulo `2 * H` and are compared by which half of the circle separates them.
Everything here says the same thing: as long as two unwrapped counters are less than `H` apart, the
circular operations compute what the unwrapped ones do.

* `wrap` — reduction into the space.
* `ahead` — the circular distance from one number forward to another.
* `ahead_wrap_of_le` / `ahead_wrap_of_lt` — the distance of two nearby wrapped counters, in the two
  possible orders.
* `ahead_succ_of_pos` / `ahead_succ_of_eq_zero` — what moving on by one does to a distance.
* `wrap_inj` — nearby counters with the same wrapped value are equal.
* `Before`, `distance` — the order and the signed distance of wrapped counters; `before_wrap`,
  `distance_wrap` — those of the counters themselves.
* `Near`, **`isStrictTotalOrder_before`**, **`argmax_distance`** — counters that are all less than
  `H` apart: the order is total, and the greatest distance is that of the newest.

The unwrapped counters exist only in the reasoning.  A program keeps the wrapped ones, but whoever
follows its run knows how often each counter has been increased, and a window keeps all counters
that are compared close to each other.  So a proof about a protocol speaks of integers and their
order, and goes through these theorems once, where the code compares two numbers.

Half of the circle is the limit, and not by accident: at a distance of exactly `H` each of two
numbers is as far ahead of the other one, and `Before` holds in neither direction.
-/

namespace SerialSpace

variable {H : ℤ}

/-- Reduce into the space of size `2 * H`. -/
def wrap (H x : ℤ) : ℤ := x % (2 * H)

/-- Circular distance from `a` forward to `b`. -/
def ahead (H a b : ℤ) : ℤ := (b - a) % (2 * H)

lemma wrap_nonneg (hH : 0 < H) (x : ℤ) : 0 ≤ wrap H x := Int.emod_nonneg _ (by omega)

lemma wrap_lt (hH : 0 < H) (x : ℤ) : wrap H x < 2 * H := Int.emod_lt_of_pos _ (by omega)

/-- Adding after wrapping is adding before wrapping. -/
lemma wrap_add_wrap (x n : ℤ) : wrap H (wrap H x + n) = wrap H (x + n) := Int.emod_add_emod _ _ _

/-- The circular distance only sees the difference of the unwrapped counters. -/
lemma ahead_wrap (x y : ℤ) : ahead H (wrap H x) (wrap H y) = (y - x) % (2 * H) := by
  rw [ahead, wrap, wrap, ← Int.sub_emod]

/-- Forward, within the space, the circular distance is the difference. -/
lemma ahead_wrap_of_le {x y : ℤ} (h : x ≤ y) (hb : y - x < 2 * H) :
    ahead H (wrap H x) (wrap H y) = y - x := by
  rw [ahead_wrap]
  exact Int.emod_eq_of_lt (by omega) hb

/-- Backward, within the space, the circular distance goes once around. -/
lemma ahead_wrap_of_lt {x y : ℤ} (h : y < x) (hb : x - y ≤ 2 * H) :
    ahead H (wrap H x) (wrap H y) = y - x + 2 * H := by
  rw [ahead_wrap, ← Int.add_emod_right]
  exact Int.emod_eq_of_lt (by omega) (by omega)

lemma ahead_self (a : ℤ) : ahead H a a = 0 := by
  rw [ahead, sub_self, Int.zero_emod]

lemma ahead_nonneg (hH : 0 < H) (a b : ℤ) : 0 ≤ ahead H a b := Int.emod_nonneg _ (by omega)

lemma ahead_lt (hH : 0 < H) (a b : ℤ) : ahead H a b < 2 * H := Int.emod_lt_of_pos _ (by omega)

lemma ahead_wrap_succ (a b : ℤ) : ahead H (wrap H (a + 1)) b = (ahead H a b - 1) % (2 * H) := by
  rw [ahead, wrap, ahead, Int.sub_emod_emod, Int.emod_sub_emod, sub_sub]

/-- Moving on by one comes one closer, as long as there is a way to go. -/
lemma ahead_succ_of_pos (hH : 0 < H) {a b : ℤ} (h : 0 < ahead H a b) :
    ahead H (wrap H (a + 1)) b = ahead H a b - 1 := by
  have hlt := ahead_lt hH a b
  rw [ahead_wrap_succ, Int.emod_eq_of_lt (by omega) (by omega)]

/-- At the goal, it goes all the way around. -/
lemma ahead_succ_of_eq_zero (hH : 0 < H) {a b : ℤ} (h : ahead H a b = 0) :
    ahead H (wrap H (a + 1)) b = 2 * H - 1 := by
  rw [ahead_wrap_succ, h, ← Int.add_emod_right, Int.emod_eq_of_lt (by omega) (by omega)]
  ring

/-- Nearby counters with one wrapped value are one counter. -/
lemma wrap_inj {x y : ℤ} (hxy : x - y < 2 * H) (hyx : y - x < 2 * H)
    (h : wrap H x = wrap H y) : x = y := by
  have hd : (y - x) % (2 * H) = 0 := by
    rw [← ahead_wrap, h, ahead, sub_self, Int.zero_emod]
  obtain ⟨c, hc⟩ := Int.dvd_of_emod_eq_zero hd
  have hc0 : c = 0 := by
    by_contra hne
    rcases lt_or_gt_of_ne hne with hneg | hpos
    · have : 2 * H * c ≤ 2 * H * (-1) := by nlinarith
      linarith
    · have : 2 * H * 1 ≤ 2 * H * c := by nlinarith
      linarith
  rw [hc0, mul_zero] at hc
  omega

/-! ## The order

Among arbitrary numbers `Before` is no order, since three of them may be before one another in a
circle.  It is one on the image of a set of counters that are near.
-/

/-- `a` is before `b`, by less than half of the circle. -/
def Before (H a b : ℤ) : Prop := 0 < ahead H a b ∧ ahead H a b < H

/-- The signed distance from `b` to `a`. -/
def distance (H a b : ℤ) : ℤ := if H ≤ ahead H b a then ahead H b a - 2 * H else ahead H b a

variable {x y m : ℤ}

/-- The order of nearby counters is that of the integers. -/
theorem before_wrap (h : |x - y| < H) : Before H (wrap H x) (wrap H y) ↔ x < y := by
  obtain ⟨hlo, hhi⟩ := abs_lt.mp h
  rw [Before]
  rcases le_or_gt x y with hle | hlt
  · rw [ahead_wrap_of_le hle (by omega)]
    omega
  · rw [ahead_wrap_of_lt hlt (by omega)]
    omega

/-- Their signed distance is the difference. -/
theorem distance_wrap (h : |x - y| < H) : distance H (wrap H x) (wrap H y) = x - y := by
  obtain ⟨hlo, hhi⟩ := abs_lt.mp h
  rw [distance]
  rcases le_or_gt y x with hle | hlt
  · rw [ahead_wrap_of_le hle (by omega), if_neg (by omega)]
  · rw [ahead_wrap_of_lt hlt (by omega), if_pos (by omega)]
    omega

/-- The counters are less than `H` apart. -/
def Near (H : ℤ) (S : Set ℤ) : Prop := ∀ x ∈ S, ∀ y ∈ S, |x - y| < H

/-- **Wrapped counters that are near are in a strict total order.** -/
theorem isStrictTotalOrder_before {S : Set ℤ} (h : Near H S) :
    IsStrictTotalOrder (wrap H '' S) fun a b => Before H a b where
  irrefl := by
    rintro ⟨_, x, hx, rfl⟩ hlt
    exact lt_irrefl x ((before_wrap (h x hx x hx)).mp hlt)
  trans := by
    rintro ⟨_, x, hx, rfl⟩ ⟨_, y, hy, rfl⟩ ⟨_, z, hz, rfl⟩ hxy hyz
    have hlt := (before_wrap (h x hx y hy)).mp hxy
    have hlt' := (before_wrap (h y hy z hz)).mp hyz
    exact (before_wrap (h x hx z hz)).mpr (hlt.trans hlt')
  trichotomous := by
    rintro ⟨_, x, hx, rfl⟩ ⟨_, y, hy, rfl⟩ hxy hyx
    rw [before_wrap (h x hx y hy), not_lt] at hxy
    rw [before_wrap (h y hy x hx), not_lt] at hyx
    exact Subtype.ext (congrArg (wrap H) (le_antisymm hyx hxy))

/-- **The greatest distance is that of the newest**, from wherever it is measured among them. -/
theorem argmax_distance {xs : List ℤ} (h : ∀ x ∈ xs, |x - m| < H) {newest : ℤ} (hmem : newest ∈ xs)
    (hnewest : ∀ x ∈ xs, x ≤ newest) :
    (xs.map (wrap H)).argmax (fun a => distance H a (wrap H m)) = some (wrap H newest) := by
  cases hmax : (xs.map (wrap H)).argmax fun a => distance H a (wrap H m) with
  | none =>
      rw [List.argmax_eq_none, List.map_eq_nil_iff] at hmax
      exact absurd hmem (by simp [hmax])
  | some a =>
      obtain ⟨x, hx, rfl⟩ := List.mem_map.mp (List.argmax_mem hmax)
      have hle := List.le_of_mem_argmax (List.mem_map_of_mem (f := wrap H) hmem) hmax
      simp only [distance_wrap (h x hx), distance_wrap (h newest hmem)] at hle
      rw [le_antisymm (hnewest x hx) (by omega)]

end SerialSpace
