/-!
# Well-formed UTF-8

The body of a string is UTF-8. The scan goes over the bytes once and remembers
only which bytes are still owed by the character it is in: the first byte of a
character says how many continuation bytes follow and narrows the range of the
first of them. Narrowed ranges keep out spellings longer than needed, surrogates
and code points above U+10FFFF, so each character has one spelling.
-/

namespace MessagePack.Text.Utf8

/-- An inclusive range of byte values. Nothing asks that it has any. -/
structure ByteRange where
  low : UInt8
  high : UInt8
  deriving DecidableEq, Repr

/-- Whether a byte lies in the range. -/
def ByteRange.contains (range : ByteRange) (byte : UInt8) : Bool :=
  decide (range.low ≤ byte) && decide (byte ≤ range.high)

/-- The range of continuation bytes. Every byte of a character but the first
lies in it. -/
def continuation : ByteRange := ⟨0x80, 0xBF⟩

/-- The ranges of the bytes that a first byte asks for, if a character can begin
with it. The first range is narrowed behind four first bytes, and two bytes are
missing at the low end, as they could only begin a spelling that is longer than
needed. -/
def owedAfter (byte : UInt8) : Option (List ByteRange) :=
  if byte < 0x80 then some []
  else if byte < 0xC2 then none
  else if byte < 0xE0 then some [continuation]
  else if byte = 0xE0 then some [⟨0xA0, 0xBF⟩, continuation]
  else if byte = 0xED then some [⟨0x80, 0x9F⟩, continuation]
  else if byte < 0xF0 then some [continuation, continuation]
  else if byte = 0xF0 then some [⟨0x90, 0xBF⟩, continuation, continuation]
  else if byte < 0xF4 then some [continuation, continuation, continuation]
  else if byte = 0xF4 then some [⟨0x80, 0x8F⟩, continuation, continuation]
  else none

/-- Takes one byte. Between characters nothing is owed and a character begins;
within one, the byte has to lie in the first range owed. -/
def advance : List ByteRange → UInt8 → Option (List ByteRange)
  | [], byte => owedAfter byte
  | range :: rest, byte => if range.contains byte then some rest else none

/-- What is owed after some bytes, or nothing at all once a byte cannot stand
where it does. A scan that has failed stays failed. -/
def scan : List ByteRange → List UInt8 → Option (List ByteRange)
  | owed, [] => some owed
  | owed, byte :: rest =>
    match advance owed byte with
    | some next => scan next rest
    | none => none

/-- Whether the bytes are well-formed UTF-8: every byte can stand where it does,
and none is owed at the end. -/
def isWellFormed (bytes : List UInt8) : Bool := scan [] bytes == some []

/-- Whether no byte is zero. The bytes are not decoded for it. -/
def hasNoNull (bytes : List UInt8) : Bool := !bytes.contains 0

/-- Whether the bytes are well-formed UTF-8 without a NUL character. Zero bytes
are looked for first, though the answer does not depend on it. -/
def isWellFormedWithoutNull (bytes : List UInt8) : Bool := hasNoNull bytes && isWellFormed bytes

/-- Scanning in two parts is scanning the whole. What is owed between the parts
is all that the second one has to know. -/
theorem scan_append (owed : List ByteRange) (left right : List UInt8) :
    scan owed (left ++ right) = (scan owed left).bind fun next => scan next right := by
  induction left generalizing owed with
  | nil => rfl
  | cons byte rest inductionHypothesis =>
    cases taken : advance owed byte with
    | none => simp [scan, taken]
    | some next => simp [scan, taken, inductionHypothesis]

end MessagePack.Text.Utf8
