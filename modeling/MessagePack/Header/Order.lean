import MessagePack.Header.Basic

/-!
# The order of headers

Headers are ordered by a key: a family and 64 bits that order the headers within
it. The families are the kinds in their fixed order, except that a signed
integer that is not negative counts as the unsigned integer of the same value.
Negative integers thus come before all other integers, and their bits are biased
so that the unsigned order of the bits is the order of the integers. Numbers of
the two floating-point formats are ordered by their patterns. The size that a
compound value declares plays no part, while the type of an extension does.

Two headers are the same when their keys are equal. Equality, order and hash all
go through the key, so they agree with one another.
-/

namespace MessagePack.Header

/-- What a header is compared by. The family is a kind, but need not be the kind
of the header. -/
structure Key where
  family : Kind
  bits : UInt64
  deriving DecidableEq, Repr

/-- Keys compare by family first and by bits within a family. The bits count as
an unsigned number. -/
def Key.compare (left right : Key) : Ordering :=
  (Ord.compare left.family right.family).then (Ord.compare left.bits right.bits)

/-- The key of a header. Flipping the highest bit of a signed number makes its
unsigned order the signed one; floating-point patterns are left as they are, so
those of negative numbers come after all others and in reverse. -/
def key : Header → Key
  | nil => ⟨.nil, 0⟩
  | bool value => ⟨.bool, if value then 1 else 0⟩
  | float value => ⟨.float, value.bits.toUInt64⟩
  | double value => ⟨.double, value.bits⟩
  | int value =>
    if 0 ≤ value then ⟨.uint, value.toUInt64⟩ else ⟨.int, value.toUInt64 ^^^ 0x8000000000000000⟩
  | uint value => ⟨.uint, value⟩
  | str _ => ⟨.str, 0⟩
  | bin _ => ⟨.bin, 0⟩
  | ext type _ => ⟨.ext, (type.toUInt8 ^^^ 0x80).toUInt64⟩
  | array _ => ⟨.array, 0⟩
  | map _ => ⟨.map, 0⟩

/-- The order of two headers, which is that of their keys. -/
def compare (left right : Header) : Ordering := left.key.compare right.key

/-- The order of two headers where not all might be in order. All headers are,
even those of a NaN. -/
def partialCompare (left right : Header) : Option Ordering := some (left.compare right)

/-- Whether two headers are the same in the order. Headers that differ can be
the same: sizes do not count, and neither does the signedness of an integer. -/
def same (left right : Header) : Bool := left.compare right == .eq

instance : BEq Header := ⟨same⟩

instance : Ord Header := ⟨compare⟩

instance : LT Header := ⟨fun left right => left.compare right = .lt⟩

instance : LE Header := ⟨fun left right => left.compare right ≠ .gt⟩

instance (left right : Header) : Decidable (left < right) :=
  inferInstanceAs (Decidable (left.compare right = .lt))

instance (left right : Header) : Decidable (left ≤ right) :=
  inferInstanceAs (Decidable (left.compare right ≠ .gt))

/-- The lesser of two headers, the first if they are the same. -/
instance : Min Header := ⟨fun left right => if left.compare right = .gt then right else left⟩

/-- The greater of two headers, the second if they are the same. -/
instance : Max Header := ⟨fun left right => if left.compare right = .gt then left else right⟩

/-- The numbers that a header feeds to a hash function. They tell the key and
nothing beside it. -/
def hashInput (header : Header) : Nat × UInt64 := (header.key.family.number, header.key.bits)

instance : Hashable Header := ⟨fun header => hash header.hashInput⟩

end MessagePack.Header
