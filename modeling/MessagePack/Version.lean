/-!
# Library versions

A version is a triple of 32-bit components. Two versions are compared through
one 32-bit number that folds the triple with radix 100. The folding is checked:
a component too large for the number is an overflow and no version at all. Both
products are taken before the first sum, so an overflowing product is reported
even where a sum would overflow too.

The components of the release are read from decimal texts by the same checked
arithmetic, and the release is given here as it is read. Only the name of the
library depends on the kind of build. It is that of a debug build.
-/

namespace MessagePack

/-- A release of the library. Nothing bounds a component but its width, so
components beyond the radix of the folding are versions as well. -/
structure Version where
  major : UInt32
  minor : UInt32
  patch : UInt32
  deriving DecidableEq, Repr

namespace Version

/-- The operation that left its range while a version was folded or one of its
components was read. -/
inductive Overflow where
  | product
  | sum
  | difference
  deriving DecidableEq, Repr

/-- The text reported for an overflow. It names the operation and none of its
operands. -/
def Overflow.message : Overflow → String
  | .product => "attempt to multiply with overflow"
  | .sum => "attempt to add with overflow"
  | .difference => "attempt to subtract with overflow"

/-- Multiplication that refuses to leave the 32-bit range. The test is made on
natural numbers, where nothing wraps. -/
def checkedProduct (left right : UInt32) : Except Overflow UInt32 :=
  if left.toNat * right.toNat < UInt32.size then .ok (left * right) else .error .product

/-- Addition that refuses to leave the 32-bit range, tested on natural numbers
as well. -/
def checkedSum (left right : UInt32) : Except Overflow UInt32 :=
  if left.toNat + right.toNat < UInt32.size then .ok (left + right) else .error .sum

/-- Subtraction of bytes that refuses to go below zero. -/
def checkedDifference (left right : UInt8) : Except Overflow UInt8 :=
  if right ≤ left then .ok (left - right) else .error .difference

/-- A component with one more digit behind it. Only a byte below the code of
zero is noticed not to be a digit; one above the code of nine counts for
more. -/
def appendDigit (value : UInt32) (byte : UInt8) : Except Overflow UInt32 := do
  let shifted ← checkedProduct value 10
  let digit ← checkedDifference byte '0'.toUInt8
  checkedSum shifted digit.toUInt32

/-- The component that the bytes of a decimal text spell. No bytes spell
zero. -/
def component (digits : List UInt8) : Except Overflow UInt32 := digits.foldlM appendDigit 0

/-- The version as one number: ten thousand per major, a hundred per minor, one
per patch. The order of the steps decides which overflow is reported first. -/
def number (version : Version) : Except Overflow UInt32 := do
  let majors ← checkedProduct version.major 10000
  let minors ← checkedProduct version.minor 100
  let series ← checkedSum majors minors
  checkedSum series version.patch

/-- The components in decimal, divided by points. No component has leading
zeros. -/
def text (version : Version) : String :=
  toString version.major ++ "." ++ toString version.minor ++ "." ++ toString version.patch

/-- The release that this library is. Its components are those that the texts 0,
1 and 0 of its package spell, which are read while the library is built. -/
def current : Version := ⟨0, 1, 0⟩

/-- Name and version of the library, with the mark of a debug build, which is
the build described here. A release build leaves the mark out. -/
def libraryName : String := "msgpack-core " ++ current.text ++ "-debug"

/-- Whether the current release is the required one or a later one, by their
numbers. An overflow of the required number is passed on and answers nothing. -/
def currentIsAtLeast (required : Version) : Except Overflow Bool := do
  let own ← current.number
  let wanted ← required.number
  return decide (wanted ≤ own)

end Version

end MessagePack
