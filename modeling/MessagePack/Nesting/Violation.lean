import MessagePack.Direction
import MessagePack.Fault
import MessagePack.Kind

/-!
# Refused nesting calls

Why a call on the stack of open compounds was refused. A violation is the
caller's doing: a call that does not fit what is open. Nearly all violations are
misuse; a map whose pairs cannot be counted is a size out of bounds. A refusal
is a violation or a failed allocation. Each cause keeps the numbers and kinds
that a report of it names.
-/

namespace MessagePack

/-- A call that does not fit what is open. Every reason is one constructor with
the kinds and numbers that its report gives, so fault, words and fields are
functions of it. -/
inductive Violation where
  /-- A scalar has no body to open. -/
  | scalar (requested : Kind)
  /-- A map of so many pairs has more keys and values than can be counted. -/
  | pairOverflow (count : UInt64)
  | nothingToClose (requested : Kind)
  | wrongKind (requested opened : Kind)
  /-- A compound was closed before all of its units went by. -/
  | unitsRemaining (requested : Kind) (left : UInt64)
  | elementOutside (direction : Direction)
  | elementAmongBytes (direction : Direction) (opened : Kind)
  | tooManyElements (direction : Direction) (opened : Kind)
  | bytesOutside (direction : Direction) (count : UInt64)
  | bytesAmongElements (direction : Direction) (opened : Kind) (count : UInt64)
  | tooManyBytes (direction : Direction) (opened : Kind) (count left : UInt64)
  /-- A compound is open where none should be. -/
  | unclosed (opened : Kind) (depth : Nat)
  deriving DecidableEq, Repr

namespace Violation

/-- The fault that a violation counts as. None counts as missing memory. -/
def fault : Violation → Fault
  | pairOverflow _ => .sizeExceeded
  | _ => .misuse

/-- The violation in words. Where units were to go by, the direction gives the
participle. -/
def message : Violation → String
  | scalar _ => "cannot track a scalar type"
  | pairOverflow _ => "map pair count overflows tracker"
  | nothingToClose _ => "closing a compound but nothing is open"
  | wrongKind _ _ => "closing a compound of the wrong type"
  | unitsRemaining _ _ => "closing a compound with units remaining"
  | elementOutside direction => "element " ++ direction.participle ++ " with nothing open"
  | elementAmongBytes direction _ =>
    "element " ++ direction.participle ++ " inside a byte-oriented compound"
  | tooManyElements direction _ => "too many elements " ++ direction.participle
  | bytesOutside direction _ => "bytes " ++ direction.participle ++ " with nothing open"
  | bytesAmongElements direction _ _ =>
    "bytes " ++ direction.participle ++ " inside an array or map"
  | tooManyBytes direction _ _ _ => "too many bytes " ++ direction.participle
  | unclosed _ _ => "unclosed compound"

/-- The names and values that a report of the violation gives. A violation that
closes a compound of the wrong kind gives both kinds; units are given only where
some remain or some are missing. -/
def fields : Violation → List (String × String)
  | scalar requested | nothingToClose requested => [("ty", requested.name)]
  | pairOverflow count | bytesOutside _ count => [("count", toString count.toNat)]
  | wrongKind requested opened => [("ty", requested.name), ("open", opened.name)]
  | unitsRemaining requested left => [("ty", requested.name), ("left", toString left.toNat)]
  | elementOutside _ => []
  | elementAmongBytes _ opened | tooManyElements _ opened => [("open", opened.name)]
  | bytesAmongElements _ opened count =>
    [("open", opened.name), ("count", toString count.toNat)]
  | tooManyBytes _ opened count left =>
    [("open", opened.name), ("count", toString count.toNat), ("left", toString left.toNat)]
  | unclosed opened depth => [("open", opened.name), ("depth", toString depth)]

/-- The same violation by a call in the other direction. A violation that names
no direction is its own opposite. -/
def opposite : Violation → Violation
  | elementOutside direction => elementOutside direction.opposite
  | elementAmongBytes direction opened => elementAmongBytes direction.opposite opened
  | tooManyElements direction opened => tooManyElements direction.opposite opened
  | bytesOutside direction count => bytesOutside direction.opposite count
  | bytesAmongElements direction opened count =>
    bytesAmongElements direction.opposite opened count
  | tooManyBytes direction opened count left =>
    tooManyBytes direction.opposite opened count left
  | violation => violation

end Violation

/-- Why a call left the stack as it was: it did not fit, or the memory for it
could not be had. -/
inductive Refusal where
  | violation (cause : Violation)
  | allocation
  deriving DecidableEq, Repr

namespace Refusal

/-- The fault that a refusal counts as. -/
def fault : Refusal → Fault
  | violation cause => cause.fault
  | allocation => .allocationFailure

end Refusal

end MessagePack
