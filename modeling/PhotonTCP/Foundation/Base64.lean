import Mathlib.Data.Fin.Basic
import PhotonTCP.Foundation.ByteRecord

/-!
# Base64

Three bytes are the digits, in base 64, of one number; each digit is a character.  One or two bytes
at the end are filled up with zeros, and the digits that only these have are replaced by a pad.

* `Alphabet` — the characters, which can be told apart.
* `encode`, `decode` — a text that is not whole, or with a character that is none of the alphabet,
  is refused, and so is a pad that is not at the end.
* **`decode_encode`** — what was encoded is decoded; `length_encode` — how long it is.

The functions are written over any alphabet, and the standard one is an instance at the end: nothing
in the proofs looks at a character, only at the two facts that the alphabet carries, that the digit
of a character is read back and that the pad is no digit.

The decoder has to tell a padded last group from one that merely looks like it.  It accepts a pad
only where no text follows, so `=` in the middle of a text is refused, as is a text whose length is
no multiple of four.  What it does not check is whether the bits that a padded group leaves over are
zero.  The encoder always writes zeros there, which is what `digitAt_zero` and `digitAt_one` say,
and so the round trip needs nothing of the sort.
-/

namespace Base64

/-- The characters of the digits, the digits of the characters, and the pad. -/
structure Alphabet where
  char : Fin 64 → Char
  digit : Char → Option (Fin 64)
  pad : Char
  digit_char : ∀ v, digit (char v) = some v
  digit_pad : digit pad = none

variable (α : Alphabet)

/-- The digit of a number at a place. -/
def digitAt (n k : ℕ) : Fin 64 := Fin.ofNat 64 (n / 64 ^ k)

/-- The number that four digits spell. -/
def spelled (a b c d : Fin 64) : ℕ := ((a.val * 64 + b) * 64 + c) * 64 + d

/-- Three bytes become four characters; what is left at the end is filled up with the pad. -/
def encode : List UInt8 → List Char
  | [] => []
  | [x] =>
      let n := ByteRecord.decode [x, 0, 0]
      [α.char (digitAt n 3), α.char (digitAt n 2), α.pad, α.pad]
  | [x, y] =>
      let n := ByteRecord.decode [x, y, 0]
      [α.char (digitAt n 3), α.char (digitAt n 2), α.char (digitAt n 1), α.pad]
  | x :: y :: z :: rest =>
      let n := ByteRecord.decode [x, y, z]
      α.char (digitAt n 3) :: α.char (digitAt n 2) :: α.char (digitAt n 1) :: α.char (digitAt n 0) ::
        encode rest

/-- The bytes of a text, if it is one that the encoder could have written up to the bits left over.
-/
def decode : List Char → Option (List UInt8)
  | [] => some []
  | p :: q :: r :: s :: rest => do
      let a ← α.digit p
      let b ← α.digit q
      if rest = [] ∧ r = α.pad ∧ s = α.pad then
        return (ByteRecord.encode 3 (spelled a b 0 0)).take 1
      let c ← α.digit r
      if rest = [] ∧ s = α.pad then
        return (ByteRecord.encode 3 (spelled a b c 0)).take 2
      let d ← α.digit s
      return ByteRecord.encode 3 (spelled a b c d) ++ (← decode rest)
  | _ => none

variable {α}

lemma char_ne_pad (v : Fin 64) : α.char v ≠ α.pad := by
  intro h
  have hnone := α.digit_pad
  rw [← h, α.digit_char] at hnone
  cases hnone

/-- The digits of a number spell it. -/
lemma spelled_digitAt {n : ℕ} (h : n < 64 ^ 4) :
    spelled (digitAt n 3) (digitAt n 2) (digitAt n 1) (digitAt n 0) = n := by
  have hval : ∀ k, (digitAt n k).val = n / 64 ^ k % 64 := fun k => Fin.val_ofNat 64 _
  rw [spelled, hval, hval, hval, hval]
  omega

lemma decode_three_lt (x y z : UInt8) : ByteRecord.decode [x, y, z] < 64 ^ 4 :=
  (ByteRecord.decode_lt [x, y, z]).trans_eq (by norm_num)

/-- A byte that is zero leaves six zero bits at the end; two leave twelve. -/
lemma digitAt_zero (x y : UInt8) : digitAt (ByteRecord.decode [x, y, 0]) 0 = 0 := by
  have hzero : ByteRecord.decode [x, y, 0] / 64 ^ 0 % 64 = 0 := by
    have hdecode : ByteRecord.decode [x, y, 0] = (x.toNat * 256 + y.toNat) * 256 := by
      simp [ByteRecord.decode]
    rw [hdecode]
    omega
  exact Fin.ext ((Fin.val_ofNat 64 _).trans hzero)

lemma digitAt_one (x : UInt8) : digitAt (ByteRecord.decode [x, 0, 0]) 1 = 0 := by
  have hzero : ByteRecord.decode [x, 0, 0] / 64 ^ 1 % 64 = 0 := by
    have hdecode : ByteRecord.decode [x, 0, 0] = x.toNat * 256 * 256 := by
      simp [ByteRecord.decode]
    rw [hdecode]
    omega
  exact Fin.ext ((Fin.val_ofNat 64 _).trans hzero)

/-- **What was encoded is decoded.** -/
theorem decode_encode : ∀ data : List UInt8, decode α (encode α data) = some data
  | [] => rfl
  | [x] => by
      have hspelled := spelled_digitAt (decode_three_lt x 0 0)
      rw [digitAt_zero, digitAt_one] at hspelled
      simp only [encode, decode, α.digit_char, true_and, if_true, Option.bind_eq_bind,
        Option.bind_some, hspelled]
      exact congrArg (fun bs => some (List.take 1 bs)) (ByteRecord.encode_decode [x, 0, 0])
  | [x, y] => by
      have hspelled := spelled_digitAt (decode_three_lt x y 0)
      rw [digitAt_zero] at hspelled
      simp only [encode, decode, α.digit_char, char_ne_pad, true_and, false_and, if_true, if_false,
        Option.bind_eq_bind, Option.bind_some, hspelled]
      exact congrArg (fun bs => some (List.take 2 bs)) (ByteRecord.encode_decode [x, y, 0])
  | x :: y :: z :: rest => by
      have hspelled := spelled_digitAt (decode_three_lt x y z)
      have hbytes : ByteRecord.encode 3 (ByteRecord.decode [x, y, z]) = [x, y, z] :=
        ByteRecord.encode_decode [x, y, z]
      simp only [encode, decode, α.digit_char, char_ne_pad, and_false, if_false,
        Option.bind_eq_bind, Option.bind_some, hspelled, hbytes, decode_encode rest]
      rfl

/-- Four characters for every three bytes that are begun. -/
theorem length_encode : ∀ data : List UInt8,
    (encode α data).length = 4 * ((data.length + 2) / 3)
  | [] => rfl
  | [x] => by simp [encode]
  | [x, y] => by simp [encode]
  | x :: y :: z :: rest => by
      have hrest := length_encode rest
      simp only [encode, List.length_cons, hrest]
      omega

/-! ## The standard alphabet

The digits are given by intervals of character codes and not by a table of sixty-four characters, so
that reading a digit back is arithmetic in each interval.
-/

/-- The letters, then the digits, then `+` and `/`. -/
def standardChar (v : Fin 64) : Char :=
  if v.val < 26 then Char.ofNat ('A'.toNat + v)
  else if v.val < 52 then Char.ofNat ('a'.toNat + (v - 26))
  else if v.val < 62 then Char.ofNat ('0'.toNat + (v - 52))
  else if v.val = 62 then '+'
  else '/'

/-- The place of a character in the alphabet. -/
def standardDigit (c : Char) : Option (Fin 64) :=
  if c.isUpper then some (Fin.ofNat 64 (c.toNat - 'A'.toNat))
  else if c.isLower then some (Fin.ofNat 64 (c.toNat - 'a'.toNat + 26))
  else if c.isDigit then some (Fin.ofNat 64 (c.toNat - '0'.toNat + 52))
  else if c = '+' then some 62
  else if c = '/' then some 63
  else none

lemma standardDigit_standardChar : ∀ v, standardDigit (standardChar v) = some v := by
  decide

lemma standardDigit_pad : standardDigit '=' = none := by
  decide

/-- The alphabet with `+`, `/` and the pad `=`. -/
def standard : Alphabet :=
  ⟨standardChar, standardDigit, '=', standardDigit_standardChar, standardDigit_pad⟩

end Base64
