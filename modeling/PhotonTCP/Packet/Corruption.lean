import PhotonTCP.Packet.WireFormat

/-!
# Corruption of one byte

The header's length field and its checksum together admit no two frames that differ in one byte.
The checksum covers its own field as zeroes, so the argument has two sides: a byte of the stored
checksum changes what is stored and not what is computed, and every other byte changes what is
computed and not what is stored.

* `exists_cut`, `Intact.decode_eq` — a frame cut at the checksum field, and what being intact says
  about its parts.
* **`not_intact_of_substituted`** — an intact frame is not intact any more.
* `unpack_of_substituted` — so `unpack` refuses it, with a packet error.

The length field needs no case of its own.  It is one of the bytes that the checksum covers, so a
frame in which it was replaced is refused even if some other check would have let it pass, and the
same holds for the type byte: the checksum is looked at before the type, and the `ValueError` of an
unknown type cannot come out of a frame with one replaced byte.

Nothing is said about several bytes.  Two replaced bytes may well cancel each other out if one of
them is in the checksum.
-/

namespace PhotonTCP

open ByteRecord CyclicCode

/-! ## Cutting a frame at the checksum field

The field is in the middle of the frame, and it is the only part that is stored in one way and
summed in another.
-/

/-- A long enough byte string is a head, a checksum field and a payload. -/
lemma exists_cut {raw : Bytes} (h : HEADER_SIZE ≤ raw.length) :
    ∃ head tail payload, head.length = CRC_OFFSET ∧ tail.length = 4 ∧
      raw = head ++ tail ++ payload := by
  simp only [HEADER_SIZE] at h
  refine ⟨raw.take 18, (raw.drop 18).take 4, raw.drop 22, ?_, ?_, ?_⟩
  · rw [List.length_take, CRC_OFFSET, HEADER_SIZE]
    omega
  · rw [List.length_take, List.length_drop]
    omega
  · rw [List.append_assoc, ← List.drop_drop (i := 4) (j := 18), List.take_append_drop,
      List.take_append_drop]

/-- The stored checksum of a frame cut there. -/
lemma fieldAt_checksum {head tail : Bytes} (payload : Bytes) (hh : head.length = CRC_OFFSET)
    (ht : tail.length = 4) : fieldAt 18 4 (head ++ tail ++ payload) = decode tail := by
  rw [fieldAt, List.append_assoc, List.drop_left' (by rw [hh]; rfl), List.take_left' ht]

/-- What an intact frame says about its parts. -/
lemma Intact.decode_eq {zlib : Bytes → ℕ} {head tail payload : Bytes}
    (h : Intact zlib (head ++ tail ++ payload)) (hh : head.length = CRC_OFFSET)
    (ht : tail.length = 4) :
    decode tail = crc32 zlib (head ++ encode 4 0 ++ payload) := by
  have hsum := h.checksum
  rw [(take_drop_encoding payload hh ht).2.2, fieldAt_checksum payload hh ht] at hsum
  exact hsum.symm

/-! ## The checksum of a substituted frame

From here on `zlib.crc32` is the real function.
-/

lemma crc32_zlibCrc32 (data : Bytes) : crc32 zlibCrc32 data = zlibCrc32 data := by
  have hlt : zlibCrc32 data < 2 ^ 32 := BitVec.isLt _
  have hmask : zlibCrc32 data &&& (2 ^ 32 - 1) = zlibCrc32 data % 2 ^ 32 :=
    Nat.and_two_pow_sub_one_eq_mod _ _
  rw [Nat.mod_eq_of_lt hlt] at hmask
  exact hmask

/-- Replacing one byte changes the checksum. -/
lemma crc32_ne_of_substituted {l l' : Bytes} (h : Substituted l l') :
    crc32 zlibCrc32 l ≠ crc32 zlibCrc32 l' := by
  rw [crc32_zlibCrc32, crc32_zlibCrc32]
  intro heq
  exact h.crc_ne (by decide) (by decide) _ _ (BitVec.eq_of_toNat_eq heq)

/-- **An intact frame in which one byte was replaced is not intact.** -/
theorem not_intact_of_substituted {raw raw' : Bytes} (h : Intact zlibCrc32 raw)
    (hs : Substituted raw raw') : ¬ Intact zlibCrc32 raw' := by
  intro h'
  obtain ⟨head, tail, payload, hh, ht, rfl⟩ := exists_cut h.length
  have hsum := h.decode_eq hh ht
  rcases hs.of_append with ⟨front, hfront, rfl⟩ | ⟨payload', hpayload, rfl⟩
  · rcases hfront.of_append with ⟨head', hhead, rfl⟩ | ⟨tail', htail, rfl⟩
    · -- a leading field: another checksum is computed, the same one is stored
      have hsum' := h'.decode_eq (hhead.length_eq.trans hh) ht
      exact crc32_ne_of_substituted ((hhead.append_right _).append_right payload)
        (hsum.symm.trans hsum')
    · -- the checksum field: the same one is computed, another one is stored
      have ht' : tail'.length = 4 := htail.length_eq.trans ht
      have hdecode : decode tail = decode tail' :=
        hsum.trans (h'.decode_eq hh ht').symm
      have heq : encode 4 (decode tail) = encode 4 (decode tail') := by rw [hdecode]
      rw [← ht, encode_decode, ht, ← ht', encode_decode] at heq
      exact htail.ne heq
  · -- the payload: as for a leading field
    have hsum' := h'.decode_eq hh ht
    exact crc32_ne_of_substituted (hpayload.append_left _) (hsum.symm.trans hsum')

/-- **A substituted encoding is refused with a packet error.** -/
theorem unpack_of_substituted {p : Packet} {raw raw' : Bytes} (h : p.pack zlibCrc32 = some raw)
    (hs : Substituted raw raw') :
    ∃ e, Packet.unpack zlibCrc32 raw' = .error (.PacketError e) := by
  have hi : Intact zlibCrc32 raw := ((unpack_eq_ok_iff _).mp (unpack_of_pack _ h)).1
  exact unpack_of_not_intact _ (not_intact_of_substituted hi hs)

end PhotonTCP
