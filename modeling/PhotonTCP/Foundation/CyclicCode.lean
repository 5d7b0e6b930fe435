import Mathlib.Data.List.Basic
import Mathlib.Logic.Function.Iterate

/-!
# Checksums folded by reversible steps

A checksum that folds a register over the symbols of a word detects every substitution of a single
symbol, at any position and in words of any length, as soon as one step loses nothing: distinct
registers stay distinct under one symbol, and distinct symbols lead one register apart.  No
linearity is needed.

* `Substituted` — two words that differ in exactly one symbol, and how the relation passes through
  concatenations.
* `foldl_injective` — a run over a fixed word keeps distinct registers distinct.
* **`Substituted.foldl_ne`** — replacing one symbol changes the final register.
* `bitStep` / `byteStep` — one step of a reflected cyclic redundancy check of any width, and
  `bitStep_injective`: it loses nothing when the polynomial has its top bit, i.e. when the
  generator has a constant term.
* **`Substituted.crc_ne`** — such a check detects every substitution of one byte.

The argument has two halves that do not depend on each other.  A substitution splits a word in what
comes before it, the symbol, and what comes after it; before it the registers agree, at the symbol
they part because distinct symbols lead one register apart, and after it they stay apart because no
step merges two registers.  Only the last half needs to know the check itself: a shift drops one
bit, but adding the polynomial puts that bit at the top, where it can be read off again.

What the position of the symbol or the length of the word is never enters, so there is no bound on
either, unlike for bursts or for several substitutions, about which nothing is said here.
-/

namespace CyclicCode

/-! ## Words that differ in one symbol

A record that carries its own checksum is a concatenation, and a substitution in it is a
substitution in one of the parts; `of_append` gives these cases.
-/

section Substitution

variable {β : Type*}

/-- The two words differ in exactly one symbol. -/
def Substituted (l l' : List β) : Prop :=
  ∃ pre b b' post, b ≠ b' ∧ l = pre ++ b :: post ∧ l' = pre ++ b' :: post

namespace Substituted

variable {l l' m : List β}

lemma length_eq (h : Substituted l l') : l'.length = l.length := by
  obtain ⟨pre, b, b', post, -, rfl, rfl⟩ := h
  rw [List.length_append, List.length_append, List.length_cons, List.length_cons]

lemma ne (h : Substituted l l') : l ≠ l' := by
  obtain ⟨pre, b, b', post, hne, rfl, rfl⟩ := h
  intro heq
  have htail := List.append_cancel_left heq
  exact hne (List.cons.inj htail).1

lemma append_right (h : Substituted l l') (m : List β) : Substituted (l ++ m) (l' ++ m) := by
  obtain ⟨pre, b, b', post, hne, rfl, rfl⟩ := h
  exact ⟨pre, b, b', post ++ m, hne, by rw [List.append_assoc, List.cons_append],
    by rw [List.append_assoc, List.cons_append]⟩

lemma append_left (h : Substituted l l') (m : List β) : Substituted (m ++ l) (m ++ l') := by
  obtain ⟨pre, b, b', post, hne, rfl, rfl⟩ := h
  exact ⟨m ++ pre, b, b', post, hne, by rw [List.append_assoc], by rw [List.append_assoc]⟩

/-- A substitution in a concatenation is one in one of its parts. -/
theorem of_append (h : Substituted (l ++ m) l') :
    (∃ k, Substituted l k ∧ l' = k ++ m) ∨ ∃ k, Substituted m k ∧ l' = l ++ k := by
  obtain ⟨pre, b, b', post, hne, heq, rfl⟩ := h
  rcases List.append_eq_append_iff.mp heq with ⟨c, rfl, rfl⟩ | ⟨c, rfl, hc⟩
  · exact Or.inr ⟨c ++ b' :: post, ⟨c, b, b', post, hne, rfl, rfl⟩, by rw [List.append_assoc]⟩
  · cases c with
    | nil =>
        rw [List.nil_append] at hc
        exact Or.inr ⟨b' :: post, ⟨[], b, b', post, hne, hc.symm, rfl⟩, by
          rw [List.append_nil]⟩
    | cons d c =>
        rw [List.cons_append, List.cons.injEq] at hc
        obtain ⟨rfl, rfl⟩ := hc
        exact Or.inl ⟨pre ++ b' :: c, ⟨pre, b, b', c, hne, rfl, rfl⟩, by
          rw [List.append_assoc, List.cons_append]⟩

end Substituted

end Substitution

/-! ## Reversible folds

The two hypotheses are about one step: for a fixed symbol it is injective in the register, and for a
fixed register it is injective in the symbol.
-/

section Fold

variable {σ β : Type*} {step : σ → β → σ}

/-- A run over a fixed word keeps distinct registers distinct. -/
theorem foldl_injective (hs : ∀ b, Function.Injective fun s => step s b) :
    ∀ l : List β, Function.Injective fun s => l.foldl step s
  | [] => fun _ _ h => h
  | b :: l => fun _ _ h => hs b (foldl_injective hs l h)

/-- **A single substitution is detected**, wherever it is made. -/
theorem Substituted.foldl_ne (hs : ∀ b, Function.Injective fun s => step s b)
    (hb : ∀ s, Function.Injective (step s)) {l l' : List β} (h : Substituted l l') (s : σ) :
    l.foldl step s ≠ l'.foldl step s := by
  obtain ⟨pre, b, b', post, hne, rfl, rfl⟩ := h
  intro heq
  rw [List.foldl_append, List.foldl_append, List.foldl_cons, List.foldl_cons] at heq
  exact hne (hb _ (foldl_injective hs post heq))

end Fold

/-! ## Reflected cyclic redundancy checks

The width is a parameter.  A byte has to fit in the register to lead it apart, hence `8 ≤ w`, and
the polynomial has to have its top bit.
-/

variable {w : ℕ}

/-- Shift one bit out of the register; when it is set, divide by the polynomial. -/
def bitStep (poly c : BitVec w) : BitVec w :=
  if c.getLsbD 0 then (c >>> 1) ^^^ poly else c >>> 1

/-- Feed one byte: add it to the register and shift eight times. -/
def byteStep (poly : BitVec w) (c : BitVec w) (b : UInt8) : BitVec w :=
  (bitStep poly)^[8] (c ^^^ b.toBitVec.setWidth w)

/-- The checksum of a byte string, with the given initial value and final XOR. -/
def crc (poly init out : BitVec w) (data : List UInt8) : BitVec w :=
  data.foldl (byteStep poly) init ^^^ out

/-- The top bit after a shift tells whether the polynomial was added. -/
lemma msb_bitStep (hw : 0 < w) {poly : BitVec w} (hp : poly.msb = true) (c : BitVec w) :
    (bitStep poly c).msb = c.getLsbD 0 := by
  have hshift : (c >>> 1).msb = false := by
    rw [BitVec.msb_eq_getLsbD_last, BitVec.getLsbD_ushiftRight]
    exact BitVec.getLsbD_of_ge c _ (by omega)
  unfold bitStep
  cases hc : c.getLsbD 0
  · simp [hshift]
  · simp [BitVec.msb_xor, hshift, hp]

/-- A register is determined by its shift and its lowest bit. -/
lemma eq_of_ushiftRight_one {c d : BitVec w} (h0 : c.getLsbD 0 = d.getLsbD 0)
    (h : c >>> 1 = d >>> 1) : c = d := by
  apply BitVec.eq_of_getLsbD_eq
  intro i _
  cases i with
  | zero => exact h0
  | succ i =>
      have := congrArg (fun x => BitVec.getLsbD x i) h
      simpa [BitVec.getLsbD_ushiftRight, Nat.add_comm] using this

/-- **One bit step loses nothing**: the top bit of the result gives back the bit shifted out, and
with it the rest. -/
theorem bitStep_injective (hw : 0 < w) {poly : BitVec w} (hp : poly.msb = true) :
    Function.Injective (bitStep poly) := by
  intro c d h
  have h0 : c.getLsbD 0 = d.getLsbD 0 := by
    rw [← msb_bitStep hw hp c, ← msb_bitStep hw hp d, h]
  refine eq_of_ushiftRight_one h0 ?_
  unfold bitStep at h
  rw [h0] at h
  cases hd : d.getLsbD 0
  · simpa [hd] using h
  · simpa [hd, BitVec.xor_left_inj] using h

lemma byteStep_injective_register (hw : 0 < w) {poly : BitVec w} (hp : poly.msb = true)
    (b : UInt8) : Function.Injective fun c => byteStep poly c b := by
  intro c d h
  have := (bitStep_injective hw hp).iterate 8 h
  exact (BitVec.xor_left_inj _).mp this

lemma byteStep_injective_byte (hw : 8 ≤ w) {poly : BitVec w} (hp : poly.msb = true)
    (c : BitVec w) : Function.Injective (byteStep poly c) := by
  intro a b h
  have hx := (bitStep_injective (by omega) hp).iterate 8 h
  have hs : a.toBitVec.setWidth w = b.toBitVec.setWidth w := (BitVec.xor_right_inj _).mp hx
  apply UInt8.toBitVec_inj.mp
  apply BitVec.eq_of_getLsbD_eq
  intro i hi
  have := congrArg (fun x => BitVec.getLsbD x i) hs
  simpa [BitVec.getLsbD_setWidth, show i < w by omega] using this

/-- **A cyclic redundancy check detects every single-byte substitution.** -/
theorem Substituted.crc_ne (hw : 8 ≤ w) {poly : BitVec w} (hp : poly.msb = true)
    (init out : BitVec w) {l l' : List UInt8} (h : Substituted l l') :
    crc poly init out l ≠ crc poly init out l' := by
  intro heq
  exact h.foldl_ne (byteStep_injective_register (by omega) hp) (byteStep_injective_byte hw hp)
    init ((BitVec.xor_left_inj _).mp heq)

end CyclicCode
