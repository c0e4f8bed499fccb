import MessagePack.Bytes.BigEndian
import MessagePack.Ieee

/-!
# Fixed-width fields of a buffer

The ten kinds of numbers that stand on the wire in a fixed width. Each value has
a pattern, a number below 256 to the power of the width: an unsigned integer is
its own pattern, a signed one is counted modulo that power, and a floating-point
number is the pattern it is held as. A field is loaded from a span of a buffer
and stored into one in big-endian bytes, and a span has to lie within the
buffer.
-/

namespace MessagePack.Bytes

/-- The type of a fixed-width number on the wire. Integers of four widths have a
sign or none, and there are two formats of floating-point numbers. -/
inductive Field where
  | uint8
  | uint16
  | uint32
  | uint64
  | int8
  | int16
  | int32
  | int64
  | binary32
  | binary64
  deriving DecidableEq, Repr

namespace Field

/-- The values of a field. A signed field and an unsigned one of the same width
have different values for the same pattern. -/
@[reducible] def Value : Field → Type
  | uint8 => UInt8
  | uint16 => UInt16
  | uint32 => UInt32
  | uint64 => UInt64
  | int8 => Int8
  | int16 => Int16
  | int32 => Int32
  | int64 => Int64
  | binary32 => Binary32
  | binary64 => Binary64

/-- The number of bytes of a field. It is never zero. -/
def width : Field → Nat
  | uint8 | int8 => 1
  | uint16 | int16 => 2
  | uint32 | int32 | binary32 => 4
  | uint64 | int64 | binary64 => 8

/-- The pattern of a value. A signed value is reinterpreted and not converted,
so a negative one has its highest bit set. -/
def pattern : (field : Field) → field.Value → Nat
  | uint8, value => value.toNat
  | uint16, value => value.toNat
  | uint32, value => value.toNat
  | uint64, value => value.toNat
  | int8, value => value.toUInt8.toNat
  | int16, value => value.toUInt16.toNat
  | int32, value => value.toUInt32.toNat
  | int64, value => value.toUInt64.toNat
  | binary32, value => value.bits.toNat
  | binary64, value => value.bits.toNat

/-- The value of a pattern. Of a pattern beyond the width only the lower bits
count. -/
def ofPattern : (field : Field) → Nat → field.Value
  | uint8, pattern => UInt8.ofNat pattern
  | uint16, pattern => UInt16.ofNat pattern
  | uint32, pattern => UInt32.ofNat pattern
  | uint64, pattern => UInt64.ofNat pattern
  | int8, pattern => (UInt8.ofNat pattern).toInt8
  | int16, pattern => (UInt16.ofNat pattern).toInt16
  | int32, pattern => (UInt32.ofNat pattern).toInt32
  | int64, pattern => (UInt64.ofNat pattern).toInt64
  | binary32, pattern => ⟨UInt32.ofNat pattern⟩
  | binary64, pattern => ⟨UInt64.ofNat pattern⟩

/-- The value that stands at an offset, if the field fits there. Only the bytes
of its span are read. -/
def load? (field : Field) (buffer : List UInt8) (offset : Nat) : Option field.Value :=
  if offset + field.width ≤ buffer.length then
    some (field.ofPattern (BigEndian.number ((buffer.drop offset).take field.width)))
  else none

/-- The buffer with a value at an offset, if the field fits there. Only the
bytes of its span are replaced, and a buffer is never made longer. -/
def store? (field : Field) (value : field.Value) (buffer : List UInt8) (offset : Nat) :
    Option (List UInt8) :=
  if offset + field.width ≤ buffer.length then
    some (buffer.take offset ++ BigEndian.digits field.width (field.pattern value)
      ++ buffer.drop (offset + field.width))
  else none

/-- Storing keeps the length of the buffer: the digits take the place of as many
bytes as there are. -/
theorem length_of_store? {field : Field} {value : field.Value} {buffer stored : List UInt8}
    {offset : Nat} (fits : field.store? value buffer offset = some stored) :
    stored.length = buffer.length := by
  unfold store? at fits
  split at fits
  · obtain rfl := Option.some.inj fits
    simp only [List.length_append, List.length_take, List.length_drop, BigEndian.length_digits]
    omega
  · simp at fits

end Field

end MessagePack.Bytes
