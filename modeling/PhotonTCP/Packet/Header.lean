import PhotonTCP.Foundation.ByteRecord
import PhotonTCP.Foundation.CyclicCode
import PhotonTCP.Packet.Types

/-!
# The packet header: `pack` and `unpack`

The fixed 22-byte header, big-endian,

    version(1), type(1), flags(1), session_id(2), stream_id(1),
    seq(4), ack(4), window(2), payload_len(2), crc32(4)

followed by the payload.  The checksum covers the header with its own field zeroed, then the
payload.

`zlib.crc32` enters as a parameter: everything about the layout holds for any function from bytes
to numbers.  `zlibCrc32` is the real one, for the results that are about error detection.

* `Packet`, `Packet.pack`, `Packet.unpack`.
* `PacketError` (with its texts) and `UnpackError`, which also has the two exceptions that are
  *not* packet errors: the `ValueError` of an unknown packet type, and `struct.error`.

The order of the checks in `unpack` is part of the model, since a frame with several faults is
reported by its first one: the length of the frame, then the length field, then the checksum, and
the packet type last.  Only the first three raise errors of this layer.  The type is converted
outside of any handler, so an unknown one leaves `unpack` as the `ValueError` of the enumeration,
and callers that catch `PacketError` do not catch it.

Fields are integers without bounds, as attributes are in the source.  A packet with a field that
does not fit exists as an object, and fails where it is packed; `FitsHeader` lists what has to hold.
-/

namespace PhotonTCP

open ByteRecord

/-! ## Checksums

`zlib.crc32` already returns an unsigned number.  The mask is kept because the source applies it.
-/

/-- `zlib.crc32`: the reflected CRC-32 with polynomial `0xEDB88320`, initial value and final XOR
`0xFFFFFFFF`. -/
def zlibCrc32 (data : Bytes) : ℕ :=
  (CyclicCode.crc 0xEDB88320#32 0xFFFFFFFF#32 0xFFFFFFFF#32 data).toNat

variable (zlib : Bytes → ℕ)

/-- The checksum as an unsigned 32-bit number. -/
def crc32 (data : Bytes) : ℕ := zlib data &&& 0xFFFFFFFF

lemma crc32_lt (data : Bytes) : crc32 zlib data < 2 ^ 32 :=
  Nat.lt_of_le_of_lt Nat.and_le_right (by decide)

/-! ## Packets

`pack` goes through the header twice, because the checksum is about a header in which the field for
it is zero.
-/

/-- `struct` format `">BBBHBIIHHI"`. -/
def HEADER_FORMAT : List ℕ := [1, 1, 1, 2, 1, 4, 4, 2, 2, 4]

/-- Header length in bytes. -/
def HEADER_SIZE : ℕ := 22

/-- The checksum is the last field of the header. -/
def CRC_OFFSET : ℕ := HEADER_SIZE - 4

/-- The format has the size the module asserts when it is loaded. -/
theorem sum_HEADER_FORMAT : HEADER_FORMAT.sum = HEADER_SIZE := rfl

/-- A fixed header and a payload. -/
structure Packet where
  type : PacketType
  sessionId : ℤ
  streamId : ℤ
  seq : ℤ
  ack : ℤ
  window : ℤ
  flags : ℕ := Flags.none
  version : ℤ := PROTOCOL_VERSION
  payload : Bytes := []
deriving DecidableEq

/-- Two hexadecimal digits for each byte of a 32-bit number, as `:#010x` prints it. -/
def hexText (n : ℕ) : String :=
  let digits := Nat.toDigits 16 n
  String.ofList (['0', 'x'] ++ List.replicate (8 - digits.length) '0' ++ digits)

/-- The errors of the packet layer, with their texts. -/
inductive PacketError where
  | MalformedPacketError (text : String)
  | ChecksumError (text : String)
deriving DecidableEq

namespace PacketError

/-- There is no whole header. -/
def tooShort (actual : ℕ) : PacketError :=
  .MalformedPacketError s!"패킷이 너무 짧습니다: {actual}바이트(최소 {HEADER_SIZE}바이트 필요)"

/-- The length field does not say how long the payload is. -/
def payloadLenMismatch (header : ℤ) (actual : ℕ) : PacketError :=
  .MalformedPacketError s!"payload_len 불일치: 헤더={header}, 실제={actual}"

/-- The checksum is not that of the bytes. -/
def crcMismatch (header computed : ℕ) : PacketError :=
  .ChecksumError s!"CRC32 불일치: 헤더={hexText header}, 계산={hexText computed}"

end PacketError

/-- What `unpack` can raise: a `PacketError`, or one of two exceptions that are none — the
`ValueError` of the enumeration's constructor, and `struct.error`. -/
inductive UnpackError where
  | PacketError (error : PacketError)
  | ValueError (text : String)
  | StructError
deriving DecidableEq

/-- What `PacketType(value)` raises when no member has that value. -/
def UnpackError.notAPacketType (value : ℤ) : UnpackError :=
  .ValueError s!"{value} is not a valid PacketType"

namespace Packet

/-- The header's fields in order, with the given checksum. -/
def headerFields (p : Packet) (checksum : ℤ) : List ℤ :=
  [p.version, p.type.value, p.flags, p.sessionId, p.streamId, p.seq, p.ack, p.window,
    p.payload.length, checksum]

/-- Serialise; `none` where `struct.pack` raises because a field is out of range. -/
def pack (p : Packet) : Option Bytes := do
  -- 1) the header with a zero checksum
  let headerZeroCrc ← packFields HEADER_FORMAT (p.headerFields 0)
  let checksum := crc32 zlib (headerZeroCrc ++ p.payload)
  -- 2) the header with the computed one
  let header ← packFields HEADER_FORMAT (p.headerFields checksum)
  return header ++ p.payload

/-- `raw` with the checksum field zeroed. -/
def zeroed (raw : Bytes) : Bytes :=
  raw.take CRC_OFFSET ++ [0, 0, 0, 0] ++ raw.drop (CRC_OFFSET + 4)

/-- Parse and validate. -/
def unpack (raw : Bytes) : Except UnpackError Packet :=
  if raw.length < HEADER_SIZE then
    .error (.PacketError (.tooShort raw.length))
  else
    match unpackFields HEADER_FORMAT (raw.take HEADER_SIZE) with
    | some [version, type_, flags, sessionId, streamId, seq, ack, window, payloadLen, checksum] =>
        let payload := raw.drop HEADER_SIZE
        if payloadLen ≠ payload.length then
          .error (.PacketError (.payloadLenMismatch payloadLen payload.length))
        else if (crc32 zlib (zeroed raw) : ℤ) ≠ checksum then
          .error (.PacketError (.crcMismatch checksum.toNat (crc32 zlib (zeroed raw))))
        else
          match PacketType.ofValue type_ with
          | none => .error (.notAPacketType type_)
          | some type =>
              .ok { type, sessionId, streamId, seq, ack, window, flags := flags.toNat, version,
                    payload }
    | _ => .error .StructError

/-- The fields fit the header: what a packet needs so that it can be sent at all. -/
structure FitsHeader (p : Packet) : Prop where
  version : 0 ≤ p.version ∧ p.version < 256
  flags : p.flags < 256
  sessionId : 0 ≤ p.sessionId ∧ p.sessionId < 65536
  streamId : 0 ≤ p.streamId ∧ p.streamId < 256
  seq : 0 ≤ p.seq ∧ p.seq < 2 ^ 32
  ack : 0 ≤ p.ack ∧ p.ack < 2 ^ 32
  window : 0 ≤ p.window ∧ p.window < 65536
  payload : p.payload.length ≤ 65535

instance (p : Packet) : Decidable p.FitsHeader :=
  decidable_of_iff
    ((0 ≤ p.version ∧ p.version < 256) ∧ p.flags < 256 ∧ (0 ≤ p.sessionId ∧ p.sessionId < 65536) ∧
      (0 ≤ p.streamId ∧ p.streamId < 256) ∧ (0 ≤ p.seq ∧ p.seq < 2 ^ 32) ∧
      (0 ≤ p.ack ∧ p.ack < 2 ^ 32) ∧ (0 ≤ p.window ∧ p.window < 65536) ∧ p.payload.length ≤ 65535)
    ⟨fun ⟨h₁, h₂, h₃, h₄, h₅, h₆, h₇, h₈⟩ => ⟨h₁, h₂, h₃, h₄, h₅, h₆, h₇, h₈⟩,
      fun ⟨h₁, h₂, h₃, h₄, h₅, h₆, h₇, h₈⟩ => ⟨h₁, h₂, h₃, h₄, h₅, h₆, h₇, h₈⟩⟩

end Packet

end PhotonTCP
