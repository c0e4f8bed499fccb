/-!
# Kinds of values

The eleven kinds of MessagePack values in their fixed order, which is also the
order of the families that headers are compared by. A compound value has a body
after its header. The body of a string, a binary blob or an extension is counted
in bytes; that of an array or a map in the values it holds.
-/

namespace MessagePack

/-- The kind of a MessagePack value. Both kinds of integers have 64 bits
whatever width they were written with, and so the two overlap from zero up. -/
inductive Kind where
  | nil
  | bool
  /-- A 32-bit IEEE 754 number. -/
  | float
  /-- A 64-bit IEEE 754 number. -/
  | double
  /-- A 64-bit signed integer. -/
  | int
  /-- A 64-bit unsigned integer. -/
  | uint
  | str
  | bin
  /-- An extension with a type byte of its own. -/
  | ext
  | array
  /-- A sequence of pairs of a key and a value. -/
  | map
  deriving DecidableEq, Repr

namespace Kind

/-- Every kind once, in the fixed order, so that the place of a kind is one more
than the number of kinds before it. -/
def all : List Kind := [nil, bool, float, double, int, uint, str, bin, ext, array, map]

/-- The short name of a kind, which reports give. -/
def name : Kind → String
  | nil => "nil"
  | bool => "bool"
  | float => "float"
  | double => "double"
  | int => "int"
  | uint => "uint"
  | str => "str"
  | bin => "bin"
  | ext => "ext"
  | array => "array"
  | map => "map"

/-- The kind of that name, if there is one. -/
def ofName? (name : String) : Option Kind := all.find? (·.name == name)

/-- The place of a kind in the fixed order, counted from one. Headers of
different families are compared by it. -/
def number : Kind → Nat
  | nil => 1
  | bool => 2
  | float => 3
  | double => 4
  | int => 5
  | uint => 6
  | str => 7
  | bin => 8
  | ext => 9
  | array => 10
  | map => 11

/-- Whether a value of this kind has a body after its header. Only such a value
can be opened and closed. -/
def isCompound : Kind → Bool
  | str | bin | ext | array | map => true
  | _ => false

/-- Whether the body of this kind is counted in bytes. In such a body no value
can stand, though the stack lets one be opened there. -/
def isByteCounted : Kind → Bool
  | str | bin | ext => true
  | _ => false

instance : ToString Kind := ⟨name⟩

instance : Ord Kind := ⟨fun left right => compare left.number right.number⟩

/-- The place in the order tells kinds apart. So a comparison by places is a
comparison of kinds. -/
theorem number_injective {left right : Kind} (same : left.number = right.number) :
    left = right := by
  cases left <;> cases right <;> simp_all [number]

/-- A body counted in bytes is a body, so what is not a compound is not counted
in bytes either. -/
theorem isCompound_of_isByteCounted {kind : Kind} (bytes : kind.isByteCounted = true) :
    kind.isCompound = true := by
  cases kind <;> simp_all [isByteCounted, isCompound]

end Kind

end MessagePack
