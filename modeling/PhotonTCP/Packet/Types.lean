import Mathlib.Data.List.Basic
import Mathlib.Tactic

/-!
# Packet types and flags

The two enumerations behind the one-byte `type` and `flags` fields of the header, with the wire
values they are pinned to.

* `PacketType`, `PacketType.value`, `PacketType.ofValue` — the `IntEnum`: a member has a value, and
  the constructor `PacketType(value)` exists only for the eight values of members.
* `Flags` — the named bits of the `IntFlag`; any combination of bits is a flag value.

Values are integers.  They are written into unsigned fields, and whether a number fits is asked by
whoever packs it; here it is only known that every member has a value in `0 .. 7`, so a packet type
always fits its byte, and that most bytes are no packet type.
-/

namespace PhotonTCP

/-- A byte string. -/
abbrev Bytes := List UInt8

/-- Wire-format version, the header's `version` field. -/
def PROTOCOL_VERSION : ℤ := 1

/-- The kinds of packet. -/
inductive PacketType where
  | Syn
  | SynAck
  | Ack
  | Data
  | Nack
  | Fin
  | FinAck
  | Heartbeat
deriving DecidableEq

namespace PacketType

/-- The pinned wire value of a member. -/
def value : PacketType → ℤ
  | Syn => 0
  | SynAck => 1
  | Ack => 2
  | Data => 3
  | Nack => 4
  | Fin => 5
  | FinAck => 6
  | Heartbeat => 7

/-- `PacketType(value)`; no member has a value outside `0 .. 7`, and there the constructor
raises `ValueError`. -/
def ofValue (v : ℤ) : Option PacketType :=
  if v = 0 then some Syn
  else if v = 1 then some SynAck
  else if v = 2 then some Ack
  else if v = 3 then some Data
  else if v = 4 then some Nack
  else if v = 5 then some Fin
  else if v = 6 then some FinAck
  else if v = 7 then some Heartbeat
  else none

/-- A member is found by its value. -/
@[simp] theorem ofValue_value (t : PacketType) : ofValue t.value = some t := by
  cases t <;> rfl

/-- What is found has the value that was looked for. -/
theorem value_of_ofValue {v : ℤ} {t : PacketType} (h : ofValue v = some t) : t.value = v := by
  unfold ofValue at h
  split_ifs at h <;> cases h <;> simp_all [value]

/-- Nothing is found exactly outside of the eight values. -/
theorem ofValue_eq_none_iff {v : ℤ} : ofValue v = none ↔ v < 0 ∨ 8 ≤ v := by
  unfold ofValue
  split_ifs <;> simp <;> omega

lemma value_nonneg (t : PacketType) : 0 ≤ t.value := by cases t <;> decide

lemma value_lt (t : PacketType) : t.value < 8 := by cases t <;> decide

end PacketType

/-! ## Flags

Auxiliary bits, combined with OR; an `IntFlag` keeps the bits it has no name for. -/

namespace Flags

/-- No flag. -/
def none : ℕ := 0
/-- The SYN bit. -/
def syn : ℕ := 1
/-- The ACK bit. -/
def ack : ℕ := 2
/-- The FIN bit. -/
def fin : ℕ := 4
/-- The NACK bit. -/
def nack : ℕ := 8

end Flags

end PhotonTCP
