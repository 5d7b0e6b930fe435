import PhotonTCP.Reliability.Arq

/-!
# Sequence numbers as integers

A sequence number is an integer counter modulo `2 ^ 32`.  As long as the counters are less than
`2 ^ 31` apart, the serial comparisons are those of the counters, in particular a total order, and
the number that is farthest from any of them is the newest.

* `highestKey_eq_argmax` — the maximum by distance.
* **`serial_agrees`** — all of this.

The functions are defined for all integers, and callers pass reduced ones.  Here the two integers
are arbitrary, as long as they are less than half of the space apart, and what is compared are their
remainders; that the set of counters is finite, an interval or within one window is not needed.
-/

namespace PhotonTCP

open SerialSpace ArqEndpoint

variable {x y : ℤ}

lemma seqLt_mod (h : |x - y| < 2 ^ 31) : seqLt (x % 2 ^ 32) (y % 2 ^ 32) ↔ x < y := before_wrap h

/-- Equal sequence numbers are equal counters. -/
lemma mod_inj (h : |x - y| < 2 ^ 31) : x % 2 ^ 32 = y % 2 ^ 32 ↔ x = y := by
  obtain ⟨hlo, hhi⟩ := abs_lt.mp h
  omega

lemma seqLeq_mod (h : |x - y| < 2 ^ 31) : seqLeq (x % 2 ^ 32) (y % 2 ^ 32) ↔ x ≤ y := by
  rw [seqLeq, seqLt_mod h, mod_inj h, le_iff_eq_or_lt]

lemma seqDiff_mod (h : |x - y| < 2 ^ 31) : seqDiff (x % 2 ^ 32) (y % 2 ^ 32) = x - y :=
  distance_wrap h

namespace ArqEndpoint

/-- The endpoint's search for the highest key is the maximum by distance. -/
lemma highestKey_eq_argmax (base : ℤ) (keys : List ℤ) :
    highestKey base keys = keys.argmax fun s => seqDiff s base := by
  cases keys with
  | nil => rfl
  | cons k ks =>
      rw [highestKey]
      induction ks using List.reverseRecOn with
      | nil => rfl
      | append_singleton ks s ih =>
          rw [List.foldl_concat, ← List.cons_append, List.argmax_concat, ← ih]
          dsimp only
          split_ifs <;> rfl

end ArqEndpoint

/-- **Serial arithmetic is that of the counters**, less than half of the space apart: the
comparisons, the distance and addition; so `seqLt` is a strict total order on any such set, and the
maximum by distance from any of them is the newest. -/
theorem serial_agrees :
    (∀ x y : ℤ, |x - y| < 2 ^ 31 →
      let a := x % 2 ^ 32
      let b := y % 2 ^ 32
      (seqLt a b ↔ x < y) ∧ (seqLeq a b ↔ x ≤ y) ∧ (seqGt a b ↔ y < x) ∧ (seqGeq a b ↔ y ≤ x) ∧
        seqDiff a b = x - y ∧ ∀ n, seqAdd a n = (x + n) % 2 ^ 32) ∧
    ∀ S : Set ℤ, (∀ x ∈ S, ∀ y ∈ S, |x - y| < 2 ^ 31) →
      IsStrictTotalOrder ((· % 2 ^ 32) '' S) (fun a b => seqLt a b) ∧
      ∀ m : ℤ, (∀ x ∈ S, |x - m| < 2 ^ 31) → ∀ xs : List ℤ, (∀ x ∈ xs, x ∈ S) →
        ∀ newest ∈ xs, (∀ x ∈ xs, x ≤ newest) →
          highestKey (m % 2 ^ 32) (xs.map (· % 2 ^ 32)) = some (newest % 2 ^ 32) := by
  constructor
  · intro x y h a b
    have hsymm : |y - x| < 2 ^ 31 := by rwa [abs_sub_comm]
    refine ⟨seqLt_mod h, seqLeq_mod h, seqLt_mod hsymm, ?_, seqDiff_mod h, ?_⟩
    · rw [seqGeq, seqGt, eq_comm]
      exact seqLeq_mod hsymm
    · exact fun n => wrap_add_wrap (H := SEQ_HALF) x n
  · intro S hS
    refine ⟨isStrictTotalOrder_before (H := SEQ_HALF) hS, fun m hm xs hxs newest hmem hnewest => ?_⟩
    rw [highestKey_eq_argmax]
    exact argmax_distance (H := SEQ_HALF) (fun x hx => hm x (hxs x hx)) hmem hnewest

/-- Counters on both sides of the wrap. -/
theorem serial_agrees_wrap :
    seqLt (2 ^ 32 - 1) 5 ∧ highestKey (2 ^ 32 - 1) [0, 5, 2 ^ 32 - 2] = some 5 := by
  obtain ⟨hpairs, hsets⟩ := serial_agrees
  obtain ⟨hlt, -⟩ := hpairs (2 ^ 32 - 1) (2 ^ 32 + 5) (by norm_num)
  obtain ⟨-, hmax⟩ := hsets {x | 2 ^ 32 - 2 ≤ x ∧ x ≤ 2 ^ 32 + 5} (by
    rintro x ⟨hx, hx'⟩ y ⟨hy, hy'⟩
    rw [abs_lt]
    omega)
  have hnewest := hmax (2 ^ 32 - 1) (by
    rintro x ⟨hx, hx'⟩
    rw [abs_lt]
    omega) [2 ^ 32, 2 ^ 32 + 5, 2 ^ 32 - 2] (by simp) (2 ^ 32 + 5) (by simp) (by simp)
  norm_num at hlt hnewest ⊢
  exact ⟨hlt, hnewest⟩

end PhotonTCP
