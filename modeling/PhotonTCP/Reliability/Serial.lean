import Mathlib.Tactic
import PhotonTCP.Foundation.SerialSpace

/-!
# 32-bit serial number arithmetic

Sequence numbers live modulo `2 ^ 32` and are compared by the half of the space that separates
them.  The functions are the source's; `unwrapped` is the integer counter a sequence number stands
for, and the lemmas say that within a half-space the functions compute what the counters do.

* `seqAdd`, `seqLt`, `seqGt`, `seqLeq`, `seqGeq`, `seqDiff`.
* `seqOf isn i` — the sequence number of the `i`-th item of a run that starts at `isn`.
* `seqLt_seqOf`, `seqDiff_seqOf`, `seqOf_inj` — the agreement, for items less than half a space
  apart.
* `nthSeq isn i` — the same number as the endpoints count, from an `isn` of any size.

The comparisons are propositions that can be decided, and not functions to `Bool`.  None of them is
transitive, so nothing about an order may be assumed of them until it is known that the numbers
compared stand for counters in one half of the space.

An endpoint is constructed with an initial sequence number that nobody reduces, and every later
number comes out of `seq_add`.  `nthSeq` is what such an endpoint counts, and `seqOf` what it would
count from the reduced one; the two differ in the first number at most.
-/

namespace PhotonTCP

open SerialSpace

/-- The size of the space of 32-bit sequence numbers. -/
def SEQ_MOD : ℤ := 2 ^ 32

/-- Half of the space: the bound between "forward" and "backward". -/
def SEQ_HALF : ℤ := 2 ^ 31

/-- `a + n`, reduced into the space. -/
def seqAdd (a n : ℤ) : ℤ := (a + n) % SEQ_MOD

/-- `a` is strictly before `b`. -/
def seqLt (a b : ℤ) : Prop :=
  0 < (b - a) % SEQ_MOD ∧ (b - a) % SEQ_MOD < SEQ_HALF

/-- `a` is strictly after `b`. -/
def seqGt (a b : ℤ) : Prop := seqLt b a

/-- `a` is before `b` or equal to it. -/
def seqLeq (a b : ℤ) : Prop := a = b ∨ seqLt a b

/-- `a` is after `b` or equal to it. -/
def seqGeq (a b : ℤ) : Prop := a = b ∨ seqGt a b

/-- The signed circular distance from `b` to `a`. -/
def seqDiff (a b : ℤ) : ℤ :=
  let d := (a - b) % SEQ_MOD
  if SEQ_HALF ≤ d then d - SEQ_MOD else d

instance (a b : ℤ) : Decidable (seqLt a b) := inferInstanceAs (Decidable (_ ∧ _))
instance (a b : ℤ) : Decidable (seqGt a b) := inferInstanceAs (Decidable (seqLt b a))
instance (a b : ℤ) : Decidable (seqLeq a b) := inferInstanceAs (Decidable (_ ∨ _))
instance (a b : ℤ) : Decidable (seqGeq a b) := inferInstanceAs (Decidable (_ ∨ _))

/-! ## In terms of the circular distance

The functions are the operations of a circular space of size `2 ^ 32`, most of them by definition.
-/

lemma seqAdd_eq (a n : ℤ) : seqAdd a n = wrap SEQ_HALF (a + n) := rfl

lemma seqLt_iff (a b : ℤ) : seqLt a b ↔ 0 < ahead SEQ_HALF a b ∧ ahead SEQ_HALF a b < SEQ_HALF :=
  Iff.rfl

lemma seqLt_iff_before (a b : ℤ) : seqLt a b ↔ Before SEQ_HALF a b := Iff.rfl

lemma seqDiff_eq (a b : ℤ) : seqDiff a b = distance SEQ_HALF a b := rfl

lemma seqAdd_bounds (a n : ℤ) : 0 ≤ seqAdd a n ∧ seqAdd a n < 2 ^ 32 :=
  ⟨Int.emod_nonneg _ (by decide), Int.emod_lt_of_pos _ (by decide)⟩

/-- One number is before another if the distance to it is positive. -/
lemma seqLt_iff_seqDiff_pos (a b : ℤ) : seqLt a b ↔ 0 < seqDiff b a := by
  have hpos : 0 ≤ (b - a) % SEQ_MOD := Int.emod_nonneg _ (by decide)
  have hlt : (b - a) % SEQ_MOD < SEQ_MOD := Int.emod_lt_of_pos _ (by decide)
  simp only [seqLt, seqDiff]
  split_ifs with h
  · constructor
    · rintro ⟨-, h'⟩
      omega
    · omega
  · omega

/-- A step forward comes one closer to what lies ahead. -/
lemma seqDiff_seqAdd_one {a b : ℤ} (h : 0 < seqDiff a b) :
    seqDiff a (seqAdd b 1) = seqDiff a b - 1 := by
  simp only [seqDiff, seqAdd, SEQ_MOD, SEQ_HALF] at h ⊢
  norm_num at h ⊢
  split_ifs at h ⊢ <;> omega

/-- Numbers of the space at one distance are equal. -/
lemma seqDiff_inj {a a' b : ℤ} (ha : 0 ≤ a ∧ a < 2 ^ 32) (ha' : 0 ≤ a' ∧ a' < 2 ^ 32)
    (h : seqDiff a b = seqDiff a' b) : a = a' := by
  simp only [seqDiff, SEQ_MOD, SEQ_HALF] at h
  norm_num at h ha ha'
  split_ifs at h <;> omega

/-! ## The sequence numbers of a run

A run numbers its items from an initial sequence number on.  The item's index is the counter its
sequence number stands for, and these indices are what the invariants of sender and receiver speak
of: the window is an interval of indices, delivery is in the order of indices, and a comparison in
the code is one of indices by the theorems here.
-/

/-- The sequence number of item `i` of a run that starts at `isn`. -/
def seqOf (isn : ℤ) (i : ℕ) : ℤ := wrap SEQ_HALF (isn + i)

lemma seqOf_bounds (isn : ℤ) (i : ℕ) : 0 ≤ seqOf isn i ∧ seqOf isn i < 2 ^ 32 :=
  ⟨wrap_nonneg (by decide) _, wrap_lt (by decide) _⟩

lemma seqOf_zero {isn : ℤ} (h₀ : 0 ≤ isn) (h₁ : isn < SEQ_MOD) : seqOf isn 0 = isn := by
  rw [seqOf, Nat.cast_zero, add_zero]
  exact Int.emod_eq_of_lt h₀ h₁

@[simp] lemma wrap_seqOf (isn : ℤ) (i : ℕ) : wrap SEQ_HALF (seqOf isn i) = seqOf isn i :=
  Int.emod_emod_of_dvd _ (dvd_refl _)

/-- Counting on by one. -/
@[simp] lemma seqAdd_seqOf (isn : ℤ) (i : ℕ) : seqAdd (seqOf isn i) 1 = seqOf isn (i + 1) := by
  rw [seqAdd_eq, seqOf, wrap_add_wrap, seqOf]
  push_cast
  rw [add_assoc]

/-- Items less than half a space apart. -/
lemma near_items (isn : ℤ) {i j : ℕ} (hi : i < 2 ^ 31) (hj : j < 2 ^ 31) :
    |isn + i - (isn + j)| < SEQ_HALF := by
  rw [abs_lt, SEQ_HALF]
  omega

/-- The order of two items less than half a space apart is the order of their indices. -/
theorem seqLt_seqOf {isn : ℤ} {i j : ℕ} (hi : i < 2 ^ 31) (hj : j < 2 ^ 31) :
    seqLt (seqOf isn i) (seqOf isn j) ↔ i < j := by
  rw [seqLt_iff_before, seqOf, seqOf, before_wrap (near_items isn hi hj)]
  omega

/-- Their distance is the difference of the indices. -/
theorem seqDiff_seqOf {isn : ℤ} {i j : ℕ} (hi : i < 2 ^ 31) (hj : j < 2 ^ 31) :
    seqDiff (seqOf isn i) (seqOf isn j) = (i : ℤ) - j := by
  rw [seqDiff_eq, seqOf, seqOf, distance_wrap (near_items isn hi hj)]
  omega

/-- Items with one sequence number are one item. -/
theorem seqOf_inj {isn : ℤ} {i j : ℕ} (hi : i < 2 ^ 32) (hj : j < 2 ^ 32)
    (h : seqOf isn i = seqOf isn j) : i = j := by
  have hij := wrap_inj (x := isn + i) (y := isn + j) (by simp only [SEQ_HALF]; omega)
    (by simp only [SEQ_HALF]; omega) h
  omega

/-- The `i`-th number as it is computed: the initial one is taken as it is given. -/
def nthSeq (isn : ℤ) (i : ℕ) : ℤ := if i = 0 then isn else seqOf isn i

@[simp] lemma nthSeq_zero (isn : ℤ) : nthSeq isn 0 = isn := rfl

@[simp] lemma seqAdd_nthSeq (isn : ℤ) (i : ℕ) : seqAdd (nthSeq isn i) 1 = nthSeq isn (i + 1) := by
  rw [nthSeq, nthSeq, if_neg (Nat.succ_ne_zero i)]
  split_ifs with hi
  · rw [hi]
    rfl
  · rw [seqAdd_seqOf]

/-- Reduced, it is the sequence number. -/
lemma wrap_nthSeq (isn : ℤ) (i : ℕ) : wrap SEQ_HALF (nthSeq isn i) = seqOf isn i := by
  rw [nthSeq]
  split_ifs with hi
  · rw [hi, seqOf, Nat.cast_zero, add_zero]
  · rw [wrap_seqOf]

/-- Counting starts in the space if the initial number is in it. -/
lemma nthSeq_eq_seqOf {isn : ℤ} (h₀ : 0 ≤ isn) (h₁ : isn < SEQ_MOD) (i : ℕ) :
    nthSeq isn i = seqOf isn i := by
  rw [nthSeq]
  split_ifs with hi
  · rw [hi, seqOf_zero h₀ h₁]
  · rfl

/-- Numbers of one run that are equal have one index. -/
lemma nthSeq_inj {isn : ℤ} {i j : ℕ} (hi : i < 2 ^ 32) (hj : j < 2 ^ 32)
    (h : nthSeq isn i = nthSeq isn j) : i = j := by
  have heq : seqOf isn i = seqOf isn j := by rw [← wrap_nthSeq, ← wrap_nthSeq, h]
  exact seqOf_inj hi hj heq

/-- What has been passed is not ahead. -/
lemma not_seqLt_nthSeq {isn : ℤ} {i j : ℕ} (hij : i ≤ j) (hj : j ≤ i + 2 ^ 31) :
    ¬ seqLt (nthSeq isn j) (nthSeq isn i) := by
  have hahead : ahead SEQ_HALF (nthSeq isn j) (nthSeq isn i)
      = ahead SEQ_HALF (seqOf isn j) (seqOf isn i) := by
    rw [← wrap_nthSeq, ← wrap_nthSeq, ahead_wrap, ahead]
  have hhalf : SEQ_HALF = 2 ^ 31 := rfl
  rw [seqLt_iff, hahead, seqOf, seqOf]
  rcases Nat.eq_or_lt_of_le hij with rfl | hlt
  · rw [ahead_self]
    omega
  · rw [ahead_wrap_of_lt (by omega) (by omega)]
    omega

end PhotonTCP
