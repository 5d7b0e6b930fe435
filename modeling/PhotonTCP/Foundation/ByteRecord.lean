import Mathlib.Data.List.Basic
import Mathlib.Tactic.Ring
import Mathlib.Tactic.SplitIfs
import Mathlib.Data.List.Induction

/-!
# Big-endian records of fixed-width fields

A record format is a list of field widths in bytes; packing writes each field big-endian and in
order, and is refused when a value does not fit its field.

* `encode` / `decode` — one unsigned number in a given number of bytes.
* `packFields` / `unpackFields` — a whole record.
* **`unpackFields_packFields`** and **`packFields_unpackFields`** — the two are inverse, in both
  directions: what was packed is read back, and what was read packs to the same bytes.
* `packFields_append` — a format may be cut in two, which is how one field of a record is studied
  apart from the rest.

Both directions are needed by whoever uses a record.  The first one says that nothing is lost on the
way; the second one says that a record has no second spelling, so that a reader which accepts some
bytes has seen the very bytes that a writer of these fields would have written.

Fields are integers and not naturals: a writer may be handed a negative number, or one that is too
large for its field, and the record is then refused as a whole.  `Fits` is this check, and
`fits_of_packFields` and `exists_packFields` say that it is the only reason for a refusal once the
numbers of fields agree.
-/

namespace ByteRecord

/-- `n` in `w` bytes, most significant first. -/
def encode : ℕ → ℕ → List UInt8
  | 0, _ => []
  | w + 1, n => encode w (n / 256) ++ [UInt8.ofNat n]

/-- The number a byte string spells, most significant byte first. -/
def decode (bs : List UInt8) : ℕ := bs.foldl (fun acc b => acc * 256 + b.toNat) 0

@[simp] lemma length_encode : ∀ w n, (encode w n).length = w
  | 0, _ => rfl
  | w + 1, n => by rw [encode, List.length_append, length_encode w]; rfl

@[simp] lemma decode_nil : decode [] = 0 := rfl

@[simp] lemma decode_concat (bs : List UInt8) (b : UInt8) :
    decode (bs ++ [b]) = decode bs * 256 + b.toNat := by
  simp [decode, List.foldl_append]

/-- A number that fits is read back. -/
lemma decode_encode : ∀ {w n : ℕ}, n < 256 ^ w → decode (encode w n) = n
  | 0, n, h => by
      have : n = 0 := by simpa using h
      rw [this, encode, decode_nil]
  | w + 1, n, h => by
      have hdiv : n / 256 < 256 ^ w := Nat.div_lt_of_lt_mul (by rw [pow_succ] at h; omega)
      have hbyte : (UInt8.ofNat n).toNat = n % 256 := UInt8.toNat_ofNat'
      rw [encode, decode_concat, decode_encode hdiv, hbyte]
      omega

lemma decode_lt (bs : List UInt8) : decode bs < 256 ^ bs.length := by
  induction bs using List.reverseRecOn with
  | nil => simp
  | append_singleton bs b ih =>
      have hb : b.toNat < 256 := b.toNat_lt
      rw [decode_concat, List.length_append, List.length_singleton, pow_succ]
      calc decode bs * 256 + b.toNat < decode bs * 256 + 1 * 256 := by omega
        _ = (decode bs + 1) * 256 := by ring
        _ ≤ 256 ^ bs.length * 256 := Nat.mul_le_mul_right 256 ih

/-- The bytes a number was read from are written back. -/
lemma encode_decode (bs : List UInt8) : encode bs.length (decode bs) = bs := by
  induction bs using List.reverseRecOn with
  | nil => rfl
  | append_singleton bs b ih =>
      have hb : b.toNat < 256 := b.toNat_lt
      have hdiv : (decode bs * 256 + b.toNat) / 256 = decode bs := by omega
      have hmod : UInt8.ofNat (decode bs * 256 + b.toNat) = b := by
        apply UInt8.toNat_inj.mp
        rw [UInt8.toNat_ofNat']
        omega
      rw [List.length_append, List.length_singleton, decode_concat, encode, hdiv, ih, hmod]

/-! ## Records

A format is nothing but the list of widths, so the functions recurse on it together with the fields,
and every proof below follows this recursion.
-/

/-- Whether `v` is representable in `w` unsigned bytes. -/
def Fits (w : ℕ) (v : ℤ) : Prop := 0 ≤ v ∧ v < 256 ^ w

instance (w : ℕ) (v : ℤ) : Decidable (Fits w v) := inferInstanceAs (Decidable (_ ∧ _))

/-- Write the fields in order; refused when one does not fit or the counts differ. -/
def packFields : List ℕ → List ℤ → Option (List UInt8)
  | [], [] => some []
  | w :: fmt, v :: vs =>
      if Fits w v then (packFields fmt vs).map (encode w v.toNat ++ ·) else none
  | [], _ :: _ => none
  | _ :: _, [] => none

/-- Read the fields in order; refused when the bytes do not have the format's total width. -/
def unpackFields : List ℕ → List UInt8 → Option (List ℤ)
  | [], [] => some []
  | [], _ :: _ => none
  | w :: fmt, bs =>
      if bs.length < w then none
      else (unpackFields fmt (bs.drop w)).map ((decode (bs.take w) : ℤ) :: ·)

lemma packFields_cons {w : ℕ} {fmt : List ℕ} {v : ℤ} {vs : List ℤ} {bs : List UInt8} :
    packFields (w :: fmt) (v :: vs) = some bs ↔
      Fits w v ∧ ∃ rest, packFields fmt vs = some rest ∧ bs = encode w v.toNat ++ rest := by
  rw [packFields]
  split_ifs with h
  · simp [h, eq_comm]
  · simp [h]

lemma unpackFields_cons {w : ℕ} {fmt : List ℕ} {bs : List UInt8} {vs : List ℤ} :
    unpackFields (w :: fmt) bs = some vs ↔
      w ≤ bs.length ∧ ∃ rest, unpackFields fmt (bs.drop w) = some rest ∧
        vs = (decode (bs.take w) : ℤ) :: rest := by
  rw [unpackFields]
  split_ifs with h
  · simp [Nat.not_le.mpr h]
  · simp [Nat.not_lt.mp h, eq_comm]

/-- A packed record has the format's total width. -/
lemma length_packFields : ∀ {fmt : List ℕ} {vs : List ℤ} {bs : List UInt8},
    packFields fmt vs = some bs → bs.length = fmt.sum
  | [], [], bs, h => by
      rw [packFields, Option.some.injEq] at h
      rw [← h]
      rfl
  | w :: fmt, v :: vs, bs, h => by
      obtain ⟨_, rest, hrest, rfl⟩ := packFields_cons.mp h
      rw [List.length_append, length_encode, length_packFields hrest, List.sum_cons]
  | [], _ :: _, _, h => by simp [packFields] at h
  | _ :: _, [], _, h => by simp [packFields] at h

/-- Every value of a packed record fits its field. -/
lemma fits_of_packFields : ∀ {fmt : List ℕ} {vs : List ℤ} {bs : List UInt8},
    packFields fmt vs = some bs → List.Forall₂ Fits fmt vs
  | [], [], _, _ => List.Forall₂.nil
  | w :: fmt, v :: vs, bs, h => by
      obtain ⟨hv, rest, hrest, _⟩ := packFields_cons.mp h
      exact List.Forall₂.cons hv (fits_of_packFields hrest)
  | [], _ :: _, _, h => by simp [packFields] at h
  | _ :: _, [], _, h => by simp [packFields] at h

/-- A record whose values all fit can be packed. -/
lemma exists_packFields {fmt : List ℕ} {vs : List ℤ} (h : List.Forall₂ Fits fmt vs) :
    ∃ bs, packFields fmt vs = some bs := by
  induction h with
  | nil => exact ⟨[], rfl⟩
  | @cons w v fmt vs hv _ ih =>
      obtain ⟨rest, hrest⟩ := ih
      exact ⟨encode w v.toNat ++ rest, packFields_cons.mpr ⟨hv, rest, hrest, rfl⟩⟩

/-- **What was packed is read back.** -/
theorem unpackFields_packFields : ∀ {fmt : List ℕ} {vs : List ℤ} {bs : List UInt8},
    packFields fmt vs = some bs → unpackFields fmt bs = some vs
  | [], [], bs, h => by
      rw [packFields, Option.some.injEq] at h
      rw [← h]
      rfl
  | w :: fmt, v :: vs, bs, h => by
      obtain ⟨⟨h0, hlt⟩, rest, hrest, rfl⟩ := packFields_cons.mp h
      have hw : (encode w v.toNat).length = w := length_encode _ _
      refine unpackFields_cons.mpr ⟨by rw [List.length_append]; omega, vs, ?_, ?_⟩
      · rw [List.drop_left' hw]
        exact unpackFields_packFields hrest
      · have hn : v.toNat < 256 ^ w := by
          have : ((v.toNat : ℕ) : ℤ) < ((256 ^ w : ℕ) : ℤ) := by
            rw [Int.toNat_of_nonneg h0]
            exact_mod_cast hlt
          exact_mod_cast this
        rw [List.take_left' hw, decode_encode hn, Int.toNat_of_nonneg h0]
  | [], _ :: _, _, h => by simp [packFields] at h
  | _ :: _, [], _, h => by simp [packFields] at h

/-- **What was read packs to the same bytes.** -/
theorem packFields_unpackFields : ∀ {fmt : List ℕ} {bs : List UInt8} {vs : List ℤ},
    unpackFields fmt bs = some vs → packFields fmt vs = some bs
  | [], [], vs, h => by
      rw [unpackFields, Option.some.injEq] at h
      rw [← h]
      rfl
  | [], _ :: _, _, h => by simp [unpackFields] at h
  | w :: fmt, bs, vs, h => by
      obtain ⟨hw, rest, hrest, rfl⟩ := unpackFields_cons.mp h
      have hlen : (bs.take w).length = w := by rw [List.length_take]; omega
      have hlt := decode_lt (bs.take w)
      rw [hlen] at hlt
      refine packFields_cons.mpr ⟨⟨by omega, by exact_mod_cast hlt⟩, bs.drop w,
        packFields_unpackFields hrest, ?_⟩
      have henc := encode_decode (bs.take w)
      rw [hlen] at henc
      rw [Int.toNat_natCast, henc, List.take_append_drop]

/-- **Cutting a format in two** cuts the record. -/
theorem packFields_append : ∀ {f₁ f₂ : List ℕ} {v₁ v₂ : List ℤ} {b₁ b₂ : List UInt8},
    packFields f₁ v₁ = some b₁ → packFields f₂ v₂ = some b₂ →
      packFields (f₁ ++ f₂) (v₁ ++ v₂) = some (b₁ ++ b₂)
  | [], _, [], _, b₁, _, h₁, h₂ => by
      rw [packFields, Option.some.injEq] at h₁
      rw [← h₁]
      exact h₂
  | w :: f₁, _, v :: v₁, _, b₁, _, h₁, h₂ => by
      obtain ⟨hv, rest, hrest, rfl⟩ := packFields_cons.mp h₁
      exact packFields_cons.mpr ⟨hv, _, packFields_append hrest h₂, List.append_assoc _ _ _⟩
  | [], _, _ :: _, _, _, _, h, _ => by simp [packFields] at h
  | _ :: _, _, [], _, _, _, h, _ => by simp [packFields] at h

end ByteRecord
