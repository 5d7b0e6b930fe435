import PhotonTCP.Packet.Header

/-!
# The wire format is a bijection on its image

`unpack` undoes `pack`, and `pack` undoes `unpack`; so the byte strings `unpack` accepts are exactly
the encodings, one for each packet that fits the header.  The checksum plays no part beyond being a
function of the bytes, so all of this holds for any `zlib.crc32`.

* `pack_eq_some_iff` — an encoding, cut at the checksum field.
* `unpack_eq` — `unpack` on a long enough byte string, field by field.
* `unpack_of_pack`, `pack_of_unpack` — the two directions, and `exists_pack_iff`: a packet can be
  encoded exactly when it fits the header.
* **`wireFormat_bijection`** — all of it together.
* `NamesNoType`, `unpack_of_not_namesNoType` — the one way `unpack` fails with something that is not
  a packet error: a frame whose length and checksum are right and whose type byte names no packet
  type.

The proofs cut a header in two, its first nine fields and the checksum, since only the latter
depends on the rest.  A packet is encoded by packing the nine fields, which succeeds exactly if they
fit, and the checksum always fits.  In the other direction, a byte string that `unpack` accepts
carries in each field some number, and packing these numbers again gives the same bytes, because
big-endian fields of fixed width have one spelling each.

So there are no two encodings of one packet, and no accepted frame that an endpoint of this protocol
could not have written.
-/

namespace PhotonTCP

open ByteRecord

variable (zlib : Bytes → ℕ)

/-! ## Encodings, cut at the checksum

The existence of an encoding, and the bytes of it, in one equivalence.
-/

/-- The header format without the checksum. -/
def HEAD_FORMAT : List ℕ := [1, 1, 1, 2, 1, 4, 4, 2, 2]

/-- The header fields without the checksum. -/
def Packet.headFields (p : Packet) : List ℤ :=
  [p.version, p.type.value, p.flags, p.sessionId, p.streamId, p.seq, p.ack, p.window,
    p.payload.length]

/-- A packet whose fields fit has fields that fit the header, and conversely. -/
lemma forall₂_headFields {p : Packet} : List.Forall₂ Fits HEAD_FORMAT p.headFields ↔
    p.FitsHeader := by
  have hval := p.type.value_nonneg
  have hval' := p.type.value_lt
  simp only [HEAD_FORMAT, Packet.headFields, List.forall₂_cons, Fits, List.forall₂_nil_left_iff,
    and_true]
  constructor
  · rintro ⟨h1, -, h3, h4, h5, h6, h7, h8, h9⟩
    exact ⟨by omega, by omega, by omega, by omega, by omega, by omega, by omega, by omega⟩
  · rintro ⟨h1, h3, h4, h5, h6, h7, h8, h9⟩
    refine ⟨?_, ?_, ?_, ?_, ?_, ?_, ?_, ?_, ?_⟩ <;> constructor <;> omega

lemma fits_checksum (data : Bytes) : Fits 4 (crc32 zlib data : ℤ) :=
  ⟨Int.natCast_nonneg _, by have := crc32_lt zlib data; norm_num; exact_mod_cast this⟩

lemma packFields_checksum {c : ℤ} (h : Fits 4 c) :
    packFields [4] [c] = some (encode 4 c.toNat) := by
  rw [packFields, if_pos h]
  rfl

/-- A packed header is the packed leading fields and then the checksum. -/
lemma packFields_header {p : Packet} {c : ℤ} {head : Bytes}
    (hhead : packFields HEAD_FORMAT p.headFields = some head) (hc : Fits 4 c) :
    packFields HEADER_FORMAT (p.headerFields c) = some (head ++ encode 4 c.toNat) :=
  packFields_append hhead (packFields_checksum hc)

/-- Every packed header is cut this way. -/
lemma exists_head {p : Packet} {c : ℤ} {bs : Bytes}
    (h : packFields HEADER_FORMAT (p.headerFields c) = some bs) (hc : Fits 4 c) :
    ∃ head, packFields HEAD_FORMAT p.headFields = some head ∧ bs = head ++ encode 4 c.toNat := by
  have hfits : List.Forall₂ Fits HEAD_FORMAT p.headFields :=
    List.forall₂_take 9 (fits_of_packFields h)
  obtain ⟨head, hhead⟩ := exists_packFields hfits
  rw [packFields_header hhead hc, Option.some.injEq] at h
  exact ⟨head, hhead, h.symm⟩

/-- **An encoding, cut at the checksum field.** -/
theorem pack_eq_some_iff {p : Packet} {raw : Bytes} :
    p.pack zlib = some raw ↔
      ∃ head, packFields HEAD_FORMAT p.headFields = some head ∧
        raw = head ++ encode 4 (crc32 zlib (head ++ encode 4 0 ++ p.payload)) ++ p.payload := by
  have hzero : Fits 4 0 := by decide
  constructor
  · intro h
    rw [Packet.pack, Option.bind_eq_bind, Option.bind_eq_some_iff] at h
    obtain ⟨h0, hh0, h⟩ := h
    obtain ⟨head, hhead, rfl⟩ := exists_head hh0 hzero
    dsimp only at h
    rw [packFields_header hhead (fits_checksum zlib _)] at h
    exact ⟨head, hhead, (Option.some.inj h).symm⟩
  · rintro ⟨head, hhead, rfl⟩
    rw [Packet.pack, packFields_header hhead hzero, Option.bind_eq_bind, Option.bind_some]
    dsimp only
    rw [packFields_header hhead (fits_checksum zlib _)]
    rfl

lemma length_head {p : Packet} {head : Bytes}
    (h : packFields HEAD_FORMAT p.headFields = some head) : head.length = CRC_OFFSET :=
  length_packFields h

/-- **A packet can be encoded exactly when it fits the header.** -/
theorem exists_pack_iff {p : Packet} : (∃ raw, p.pack zlib = some raw) ↔ p.FitsHeader := by
  simp only [pack_eq_some_iff]
  constructor
  · rintro ⟨raw, head, hhead, _⟩
    exact forall₂_headFields.mp (fits_of_packFields hhead)
  · intro h
    obtain ⟨head, hhead⟩ := exists_packFields (forall₂_headFields.mpr h)
    exact ⟨_, head, hhead, rfl⟩

/-! ## Reading a byte string, field by field

`unpack` reads all fields at once and then looks at some of them.  Reading each at its own offset
makes the checks independent of one another.
-/

/-- The number in the `w` bytes at offset `off`. -/
def fieldAt (off w : ℕ) (raw : Bytes) : ℕ := decode ((raw.drop off).take w)

/-- The header's fields, read at their offsets. -/
lemma unpackFields_header {raw : Bytes} (h : HEADER_SIZE ≤ raw.length) :
    unpackFields HEADER_FORMAT (raw.take HEADER_SIZE) =
      some [(fieldAt 0 1 raw : ℤ), fieldAt 1 1 raw, fieldAt 2 1 raw, fieldAt 3 2 raw,
        fieldAt 5 1 raw, fieldAt 6 4 raw, fieldAt 10 4 raw, fieldAt 14 2 raw, fieldAt 16 2 raw,
        fieldAt 18 4 raw] := by
  have hlen : ∀ n, n ≤ 22 → ((raw.take HEADER_SIZE).drop n).length = 22 - n := fun n hn => by
    rw [List.length_drop, List.length_take, HEADER_SIZE] at *
    omega
  have hread : ∀ off w, off + w ≤ 22 →
      decode (((raw.take HEADER_SIZE).drop off).take w) = fieldAt off w raw := fun off w hw => by
    rw [fieldAt, List.drop_take, List.take_take]
    congr 2
    rw [HEADER_SIZE]
    omega
  have hnil : (raw.take HEADER_SIZE).drop 22 = [] := List.eq_nil_of_length_eq_zero (hlen 22 le_rfl)
  have step : ∀ w off fmt, off + w ≤ 22 →
      unpackFields (w :: fmt) ((raw.take HEADER_SIZE).drop off) =
        (unpackFields fmt ((raw.take HEADER_SIZE).drop (off + w))).map
          ((fieldAt off w raw : ℤ) :: ·) := by
    intro w off fmt hw
    rw [unpackFields, if_neg (by rw [hlen off (by omega)]; omega), List.drop_drop, hread off w hw]
  have hstart := step 1 0 [1, 1, 2, 1, 4, 4, 2, 2, 4] (by omega)
  rw [List.drop_zero] at hstart
  rw [HEADER_FORMAT, hstart, step 1 1 _ (by omega), step 1 2 _ (by omega), step 2 3 _ (by omega),
    step 1 5 _ (by omega), step 4 6 _ (by omega), step 4 10 _ (by omega), step 2 14 _ (by omega),
    step 2 16 _ (by omega), step 4 18 _ (by omega), hnil]
  rfl

/-- The packet of the given type whose other fields are read from `raw`. -/
def Packet.read (type : PacketType) (raw : Bytes) : Packet where
  type := type
  sessionId := fieldAt 3 2 raw
  streamId := fieldAt 5 1 raw
  seq := fieldAt 6 4 raw
  ack := fieldAt 10 4 raw
  window := fieldAt 14 2 raw
  flags := fieldAt 2 1 raw
  version := fieldAt 0 1 raw
  payload := raw.drop HEADER_SIZE

/-- **`unpack` on a long enough byte string**, its fields read at their offsets. -/
theorem unpack_eq {raw : Bytes} (h : HEADER_SIZE ≤ raw.length) :
    Packet.unpack zlib raw =
      if (fieldAt 16 2 raw : ℤ) ≠ (raw.drop HEADER_SIZE).length then
        .error (.PacketError (.payloadLenMismatch (fieldAt 16 2 raw) (raw.drop HEADER_SIZE).length))
      else if (crc32 zlib (Packet.zeroed raw) : ℤ) ≠ fieldAt 18 4 raw then
        .error (.PacketError
          (.crcMismatch (fieldAt 18 4 raw) (crc32 zlib (Packet.zeroed raw))))
      else
        match PacketType.ofValue (fieldAt 1 1 raw) with
        | none => .error (.notAPacketType (fieldAt 1 1 raw))
        | some type => .ok (Packet.read type raw) := by
  rw [Packet.unpack, if_neg (by omega), unpackFields_header h]
  rfl

/-- The length field and the checksum of a byte string are right. -/
structure Intact (raw : Bytes) : Prop where
  length : HEADER_SIZE ≤ raw.length
  payloadLen : fieldAt 16 2 raw = raw.length - HEADER_SIZE
  checksum : crc32 zlib (Packet.zeroed raw) = fieldAt 18 4 raw

/-- What `unpack` does with an intact byte string. -/
lemma unpack_of_intact {raw : Bytes} (h : Intact zlib raw) :
    Packet.unpack zlib raw =
      match PacketType.ofValue (fieldAt 1 1 raw) with
      | none => .error (.notAPacketType (fieldAt 1 1 raw))
      | some type => .ok (Packet.read type raw) := by
  have hpay : (fieldAt 16 2 raw : ℤ) = (raw.drop HEADER_SIZE).length := by
    rw [h.payloadLen, List.length_drop]
  rw [unpack_eq zlib h.length, if_neg (not_not.mpr hpay),
    if_neg (not_not.mpr (by exact_mod_cast h.checksum))]

/-- What it does with every other byte string: it raises a packet error. -/
lemma unpack_of_not_intact {raw : Bytes} (h : ¬ Intact zlib raw) :
    ∃ e, Packet.unpack zlib raw = .error (.PacketError e) := by
  by_cases hlen : raw.length < HEADER_SIZE
  · exact ⟨_, by rw [Packet.unpack, if_pos hlen]⟩
  · rw [unpack_eq zlib (by omega)]
    by_cases hpay : (fieldAt 16 2 raw : ℤ) = (raw.drop HEADER_SIZE).length
    · rw [if_neg (not_not.mpr hpay)]
      rw [List.length_drop] at hpay
      have hcrc : (crc32 zlib (Packet.zeroed raw) : ℤ) ≠ fieldAt 18 4 raw := fun hcrc =>
        h ⟨by omega, by exact_mod_cast hpay, by exact_mod_cast hcrc⟩
      exact ⟨_, by rw [if_pos hcrc]⟩
    · exact ⟨_, by rw [if_pos hpay]⟩

/-- **Acceptance**: an intact byte string whose type byte names a packet type. -/
theorem unpack_eq_ok_iff {raw : Bytes} {q : Packet} :
    Packet.unpack zlib raw = .ok q ↔
      Intact zlib raw ∧ ∃ type, PacketType.ofValue (fieldAt 1 1 raw) = some type ∧
        q = Packet.read type raw := by
  by_cases hi : Intact zlib raw
  · rw [unpack_of_intact zlib hi]
    cases PacketType.ofValue (fieldAt 1 1 raw) with
    | none => simp
    | some type => simp [hi, eq_comm]
  · obtain ⟨e, he⟩ := unpack_of_not_intact zlib hi
    rw [he]
    simp [hi]

/-! ## The two directions

Both reduce to the record format, once it is known that a stored checksum is the computed one.
-/

/-- Cutting an encoding open again. -/
lemma take_drop_encoding {head tail : Bytes} (payload : Bytes) (hh : head.length = CRC_OFFSET)
    (ht : tail.length = 4) :
    (head ++ tail ++ payload).take HEADER_SIZE = head ++ tail ∧
    (head ++ tail ++ payload).drop HEADER_SIZE = payload ∧
    Packet.zeroed (head ++ tail ++ payload) = head ++ encode 4 0 ++ payload := by
  have hlen : (head ++ tail).length = HEADER_SIZE := by
    rw [List.length_append, hh, ht]
    rfl
  refine ⟨List.take_left' hlen, List.drop_left' hlen, ?_⟩
  rw [Packet.zeroed, List.drop_left' (by rw [hlen]; rfl), List.append_assoc head tail,
    List.take_left' hh]
  rfl

/-- **What was packed is unpacked.** -/
theorem unpack_of_pack {p : Packet} {raw : Bytes} (h : p.pack zlib = some raw) :
    Packet.unpack zlib raw = .ok p := by
  obtain ⟨head, hhead, hraw⟩ := (pack_eq_some_iff zlib).mp h
  set c := crc32 zlib (head ++ encode 4 0 ++ p.payload) with hc
  obtain ⟨htake, hdrop, hzeroed⟩ :=
    take_drop_encoding p.payload (length_head hhead) (length_encode 4 c)
  rw [← hraw] at htake hdrop hzeroed
  have hfields : unpackFields HEADER_FORMAT (raw.take HEADER_SIZE)
      = some (p.headerFields c) := by
    rw [htake]
    exact unpackFields_packFields (packFields_header hhead (fits_checksum zlib _))
  have hlen : ¬ raw.length < HEADER_SIZE := by
    rw [hraw, List.length_append, List.length_append, length_head hhead, length_encode]
    simp only [CRC_OFFSET, HEADER_SIZE]
    omega
  rw [Packet.unpack, if_neg hlen, hfields]
  simp only [Packet.headerFields, hdrop, hzeroed, ← hc, ne_eq, not_true_eq_false, if_false,
    PacketType.ofValue_value, Int.toNat_natCast]

/-- The header fields of the packet read from an intact byte string are the fields it was read
from. -/
lemma headerFields_read {raw : Bytes} {type : PacketType} (hi : Intact zlib raw)
    (ht : PacketType.ofValue (fieldAt 1 1 raw) = some type) :
    packFields HEADER_FORMAT ((Packet.read type raw).headerFields (fieldAt 18 4 raw))
      = some (raw.take HEADER_SIZE) := by
  have hval := PacketType.value_of_ofValue ht
  have hpay : ((raw.drop HEADER_SIZE).length : ℤ) = fieldAt 16 2 raw := by
    rw [hi.payloadLen, List.length_drop]
  rw [← packFields_unpackFields (unpackFields_header hi.length)]
  simp only [Packet.headerFields, Packet.read, hval, hpay]

/-- **What was unpacked packs to the same bytes.** -/
theorem pack_of_unpack {raw : Bytes} {q : Packet} (h : Packet.unpack zlib raw = .ok q) :
    q.pack zlib = some raw := by
  obtain ⟨hi, type, ht, rfl⟩ := (unpack_eq_ok_iff zlib).mp h
  have hfits : Fits 4 (fieldAt 18 4 raw : ℤ) := hi.checksum ▸ fits_checksum zlib _
  obtain ⟨head, hhead, htake⟩ := exists_head (headerFields_read zlib hi ht) hfits
  rw [Int.toNat_natCast] at htake
  have hraw : head ++ encode 4 (fieldAt 18 4 raw) ++ raw.drop HEADER_SIZE = raw := by
    rw [← htake, List.take_append_drop]
  obtain ⟨-, -, hzeroed⟩ :=
    take_drop_encoding (raw.drop HEADER_SIZE) (length_head hhead) (length_encode 4 (fieldAt 18 4 raw))
  rw [hraw] at hzeroed
  refine (pack_eq_some_iff zlib).mpr ⟨head, hhead, ?_⟩
  show raw = head ++ encode 4 (crc32 zlib (head ++ encode 4 0 ++ raw.drop HEADER_SIZE))
    ++ raw.drop HEADER_SIZE
  rw [← hzeroed, hi.checksum, hraw]

/-- **The wire format is a bijection on its image**: every packet that fits the header is encoded
and decodes to itself, every accepted byte string is the encoding of what it decodes to, and so no
two accepted byte strings decode to one packet. -/
theorem wireFormat_bijection :
    (∀ p : Packet, p.FitsHeader →
      ∃ raw, p.pack zlib = some raw ∧ Packet.unpack zlib raw = .ok p) ∧
    (∀ raw q, Packet.unpack zlib raw = .ok q → q.pack zlib = some raw) ∧
    (∀ raw raw' q, Packet.unpack zlib raw = .ok q → Packet.unpack zlib raw' = .ok q →
      raw = raw') := by
  refine ⟨fun p hp => ?_, fun raw q => pack_of_unpack zlib, fun raw raw' q h h' => ?_⟩
  · obtain ⟨raw, hraw⟩ := (exists_pack_iff zlib).mpr hp
    exact ⟨raw, hraw, unpack_of_pack zlib hraw⟩
  · have heq := pack_of_unpack zlib h
    rw [pack_of_unpack zlib h', Option.some.injEq] at heq
    exact heq.symm

/-! ## What can go wrong

A frame that is intact has no other fault left than its type byte.
-/

/-- A frame that is intact but whose type byte names no packet type. -/
def NamesNoType (raw : Bytes) : Prop := Intact zlib raw ∧ 8 ≤ fieldAt 1 1 raw

/-- Such a frame raises the `ValueError` of the enumeration. -/
lemma unpack_of_namesNoType {raw : Bytes} (h : NamesNoType zlib raw) :
    Packet.unpack zlib raw = .error (.notAPacketType (fieldAt 1 1 raw)) := by
  have hnone : PacketType.ofValue (fieldAt 1 1 raw) = none :=
    PacketType.ofValue_eq_none_iff.mpr (Or.inr (by exact_mod_cast h.2))
  rw [unpack_of_intact zlib h.1, hnone]

/-- Every other frame is accepted or refused with a packet error. -/
lemma unpack_of_not_namesNoType {raw : Bytes} (h : ¬ NamesNoType zlib raw) :
    (∃ p, Packet.unpack zlib raw = .ok p) ∨
      ∃ e, Packet.unpack zlib raw = .error (.PacketError e) := by
  by_cases hi : Intact zlib raw
  · left
    rw [unpack_of_intact zlib hi]
    cases ht : PacketType.ofValue (fieldAt 1 1 raw) with
    | none =>
        rcases PacketType.ofValue_eq_none_iff.mp ht with hneg | h8
        · omega
        · exact absurd ⟨hi, by exact_mod_cast h8⟩ h
    | some type => exact ⟨_, rfl⟩
  · exact Or.inr (unpack_of_not_intact zlib hi)

end PhotonTCP
