import Mathlib.Tactic

/-!
# Exponential smoothing

A smoothed value moves by a fixed fraction towards each measurement.  A mean and its mean deviation
are smoothed together, and the deviation is measured from the mean as it was before the measurement.

* `smooth` — one move; `smooth_mem_Icc`, it stays in an interval.
* `Trend`, `Trend.next` — a mean and a deviation, and what a measurement does to them.
* `Trend.Within` — the mean is in an interval and the deviation at most a bound; **`Within.next`** —
  a measurement in the interval keeps it so.
* `Within.foldl`, `foldl_replicate` — measurements in order, and measurements of the mean itself.

That the deviation is measured first is part of the recurrence: a measurement far off moves the
deviation by its full distance from the old mean.  The bound on the deviation is the length of the
interval for this reason, and not a multiple of it that grows with the number of measurements.  Both
gains are arbitrary numbers between zero and one, over any ordered field.
-/

/-- Move `x` by the fraction `gain` towards `r`. -/
def smooth {F : Type*} [Field F] (gain x r : F) : F := (1 - gain) * x + gain * r

lemma smooth_self {F : Type*} [Field F] (gain x : F) : smooth gain x x = x := by
  rw [smooth]
  ring

/-- A mean and its mean deviation. -/
structure Trend (F : Type*) where
  mean : F
  deviation : F

variable {F : Type*} [Field F] [LinearOrder F]

namespace Trend

/-- The trend after a measurement. -/
def next (gain gain' : F) (t : Trend F) (r : F) : Trend F where
  mean := smooth gain t.mean r
  deviation := smooth gain' t.deviation |t.mean - r|

/-- The mean is between `lo` and `hi`, and the deviation between `0` and `bound`. -/
structure Within (lo hi bound : F) (t : Trend F) : Prop where
  mean : t.mean ∈ Set.Icc lo hi
  deviation : t.deviation ∈ Set.Icc 0 bound

end Trend

variable [IsStrictOrderedRing F] {gain gain' x r lo hi bound : F}

/-- What is smoothed stays in an interval. -/
lemma smooth_mem_Icc (hgain : gain ∈ Set.Icc 0 1) (hx : x ∈ Set.Icc lo hi) (hr : r ∈ Set.Icc lo hi) :
    smooth gain x r ∈ Set.Icc lo hi :=
  convex_Icc lo hi hx hr (sub_nonneg.mpr hgain.2) hgain.1 (sub_add_cancel 1 gain)

namespace Trend

variable {t : Trend F}

/-- **A measurement in the interval keeps the trend within it**, if the bound is at least the
interval's length. -/
theorem Within.next (h : t.Within lo hi bound) (hgain : gain ∈ Set.Icc 0 1)
    (hgain' : gain' ∈ Set.Icc 0 1) (hr : r ∈ Set.Icc lo hi) (hbound : hi - lo ≤ bound) :
    (t.next gain gain' r).Within lo hi bound := by
  refine ⟨smooth_mem_Icc hgain h.mean hr, smooth_mem_Icc hgain' h.deviation ⟨abs_nonneg _, ?_⟩⟩
  -- both ends of the deviation are in the interval
  calc |t.mean - r| ≤ hi - lo := abs_sub_le_of_le_of_le h.mean.1 h.mean.2 hr.1 hr.2
    _ ≤ bound := hbound

/-- Measurements in the interval, in order. -/
theorem Within.foldl {rs : List F} (h : t.Within lo hi bound) (hgain : gain ∈ Set.Icc 0 1)
    (hgain' : gain' ∈ Set.Icc 0 1) (hrs : ∀ r ∈ rs, r ∈ Set.Icc lo hi) (hbound : hi - lo ≤ bound) :
    (rs.foldl (Trend.next gain gain') t).Within lo hi bound := by
  induction rs generalizing t with
  | nil => exact h
  | cons r rs ih =>
      obtain ⟨hr, hrest⟩ := List.forall_mem_cons.mp hrs
      exact ih (h.next hgain hgain' hr hbound) hrest

/-- A measurement of the mean only lets the deviation decay. -/
lemma next_self (t : Trend F) : t.next gain gain' t.mean = ⟨t.mean, (1 - gain') * t.deviation⟩ := by
  rw [next, smooth_self, sub_self, abs_zero, smooth, mul_zero, add_zero]

/-- Measurements of the mean let it decay exponentially. -/
lemma foldl_replicate (n : ℕ) (t : Trend F) :
    (List.replicate n t.mean).foldl (Trend.next gain gain') t
      = ⟨t.mean, (1 - gain') ^ n * t.deviation⟩ := by
  induction n generalizing t with
  | zero => rw [List.replicate_zero, List.foldl_nil, pow_zero, one_mul]
  | succ n ih =>
      have hrest := ih ⟨t.mean, (1 - gain') * t.deviation⟩
      rw [List.replicate_succ, List.foldl_cons, next_self, hrest, pow_succ, mul_assoc]

end Trend
