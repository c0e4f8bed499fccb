/-!
# Floating-point patterns

Numbers of the two IEEE 754 binary formats, held as the patterns that stand on
the wire. A pattern is never computed with: it is loaded, stored and compared as
it is, so the payload of a NaN and the sign of a zero survive everything this
library does.
-/

namespace MessagePack

/-- A number of the 32-bit format, as its pattern. Two of them are equal only
bit for bit: zeros of different signs are not, and a NaN is equal to itself. -/
structure Binary32 where
  bits : UInt32
  deriving DecidableEq, Repr

/-- A number of the 64-bit format, as its pattern, equal only bit for bit as
well. -/
structure Binary64 where
  bits : UInt64
  deriving DecidableEq, Repr

end MessagePack
