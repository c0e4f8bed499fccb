import MessagePack.Ieee
import MessagePack.Kind

/-!
# Headers of values

A header carries a scalar value, or the kind of a compound value together with
the size that it declares. The body of a compound value never lives in its
header.
-/

namespace MessagePack

/-- The header of one MessagePack value. The same number can be carried by more
than one header, and nothing here makes one of them the right one. -/
inductive Header where
  | nil
  | bool (value : Bool)
  | float (value : Binary32)
  | double (value : Binary64)
  | int (value : Int64)
  | uint (value : UInt64)
  /-- A string of that many bytes. -/
  | str (length : UInt32)
  /-- A binary blob of that many bytes. -/
  | bin (length : UInt32)
  /-- An extension of that type with a body of that many bytes. -/
  | ext (type : Int8) (length : UInt32)
  /-- An array of that many elements. -/
  | array (count : UInt32)
  /-- A map of that many pairs. -/
  | map (count : UInt32)
  deriving DecidableEq, Repr

namespace Header

instance : Inhabited Header := ⟨nil⟩

/-- The kind of the value that follows. It is read off the constructor, so an
integer has the kind that it was written with. -/
def kind : Header → Kind
  | nil => .nil
  | bool _ => .bool
  | float _ => .float
  | double _ => .double
  | int _ => .int
  | uint _ => .uint
  | str _ => .str
  | bin _ => .bin
  | ext _ _ => .ext
  | array _ => .array
  | map _ => .map

/-- The type byte of an extension, zero for every other kind. -/
def extensionType : Header → Int8
  | ext type _ => type
  | _ => 0

/-- Whether a body follows. Without one the value ends with its header. -/
def isCompound (header : Header) : Bool := header.kind.isCompound

/-- The value of a truth value. No other kind counts as one. -/
def bool? : Header → Option Bool
  | bool value => some value
  | _ => none

/-- The value of a signed integer. An unsigned one has none, whatever its
size. -/
def int? : Header → Option Int64
  | int value => some value
  | _ => none

/-- The value of an unsigned integer. A signed one has none, whatever its
sign. -/
def uint? : Header → Option UInt64
  | uint value => some value
  | _ => none

/-- The pattern of a 32-bit number. A number of the other format is not
converted. -/
def float? : Header → Option Binary32
  | float value => some value
  | _ => none

/-- The pattern of a 64-bit number. A number of the other format is not
converted. -/
def double? : Header → Option Binary64
  | double value => some value
  | _ => none

/-- The bytes declared by a string, a blob or an extension, the type byte of an
extension not among them. -/
def length? : Header → Option UInt32
  | str length | bin length | ext _ length => some length
  | _ => none

/-- The elements declared by an array or the pairs declared by a map. -/
def count? : Header → Option UInt32
  | array count | map count => some count
  | _ => none

/-- The size that a header declares in the units of its kind, zero for a scalar.
It fits a stack of open compounds, which counts in 64 bits. -/
def declaredSize (header : Header) : UInt64 :=
  ((header.count?.or header.length?).getD 0).toUInt64

end Header

end MessagePack
