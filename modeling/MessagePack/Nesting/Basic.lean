import MessagePack.Nesting.Allocator
import MessagePack.Step

/-!
# The stack of open compounds

Every compound that is opened gets a frame with the units that are still to go
by: elements for an array, keys and values for a map, bytes for a string, a blob
or an extension. Units are counted down on the innermost frame only, and a frame
is closed when none is left. A call that does not fit what is open is refused
and leaves the frames as they were.

The stack reports violations but keeps no fault and asserts nothing; `Monitor`
does both. Room for frames is reserved only through an allocator, and each
reservation at least doubles the room.
-/

namespace MessagePack

/-- One open compound and the units still to go by. How many it declared is not
kept. -/
structure Frame where
  kind : Kind
  left : UInt64
  deriving DecidableEq, Repr

/-- The units of a compound that declares a size: a map has two for each pair.
None at all if they cannot be counted in 64 bits, so no counter ever starts at a
wrapped number. -/
def Frame.units? (kind : Kind) (count : UInt64) : Option UInt64 :=
  if kind = .map then
    if 2 * count.toNat < UInt64.size then some (2 * count) else none
  else some count

/-- The open compounds, innermost first, and the room reserved for them. Room is
a number of frames: that there is enough of it is an invariant of the calls and
no part of the type. -/
structure Nesting where
  frames : List Frame
  /-- The number of frames that there is room for. -/
  capacity : Nat
  /-- The least number of frames that a reservation adds. -/
  initialCapacity : Nat
  deriving DecidableEq, Repr

namespace Nesting

/-- The stack with nothing open and no room reserved yet. The first opening
reserves as much as the initial capacity. -/
def ofInitialCapacity (initialCapacity : Nat) : Nesting := ⟨[], 0, initialCapacity⟩

/-- The stack that reserves room for eight frames at first. -/
def empty : Nesting := ofInitialCapacity 8

/-- The number of open compounds. -/
def depth (nesting : Nesting) : Nat := nesting.frames.length

/-- Whether nothing is open. -/
def isEmpty (nesting : Nesting) : Bool := nesting.frames.isEmpty

/-- The innermost open compound. It is the only one that calls look at. -/
def top? (nesting : Nesting) : Option Frame := nesting.frames.head?

/-- Makes sure of room for so many more frames. Room that is there already is
enough, and then nothing is asked for. Otherwise the request is for the whole
room that is needed, and nothing changes if it is refused. -/
def reserve (allocator : Allocator) (nesting : Nesting) (extra : Nat) : Except Refusal Nesting :=
  if nesting.depth + extra ≤ nesting.capacity then .ok nesting
  else
    match allocator.provide nesting.capacity (nesting.depth + extra) with
    | some capacity => .ok { nesting with capacity }
    | none => .error .allocation

/-- The stack with nothing open and room reserved for so many frames. Where none
are wanted nothing is asked for, and the initial capacity is one instead. -/
def withCapacity (allocator : Allocator) (capacity : Nat) : Except Refusal Nesting :=
  (ofInitialCapacity (max capacity 1)).reserve allocator capacity

/-- Reserves as much room again as there is, and no less than the initial
capacity. So a stack at least doubles, and one without room gets some. -/
def grow (allocator : Allocator) (nesting : Nesting) : Except Refusal Nesting :=
  nesting.reserve allocator (max nesting.capacity nesting.initialCapacity)

/-- Opens a compound that declares a size. Whether the kind has a body is tested
first, then whether the units can be counted, and room is made last: a call that
does not fit never asks for memory. What is open around it is not looked at. -/
def push (allocator : Allocator) (nesting : Nesting) (kind : Kind) (count : UInt64) :
    Except Refusal Nesting :=
  if kind.isCompound then
    match Frame.units? kind count with
    | none => .error (.violation (.pairOverflow count))
    | some left => do
      let roomy ← if nesting.depth = nesting.capacity then nesting.grow allocator else .ok nesting
      .ok { roomy with frames := ⟨kind, left⟩ :: roomy.frames }
  else .error (.violation (.scalar kind))

/-- Closes the innermost compound, which has to be of that kind and without
units left. A wrong kind is found before units that remain. -/
def pop (nesting : Nesting) (kind : Kind) : Except Refusal Nesting :=
  match nesting.frames with
  | [] => .error (.violation (.nothingToClose kind))
  | top :: outer =>
    if top.kind ≠ kind then .error (.violation (.wrongKind kind top.kind))
    else if top.left ≠ 0 then .error (.violation (.unitsRemaining kind top.left))
    else .ok { nesting with frames := outer }

/-- Lets one element of the innermost compound go by, which has to be an array
or a map. The keys and the values of a map are elements alike. -/
def element (nesting : Nesting) (direction : Direction) : Except Refusal Nesting :=
  match nesting.frames with
  | [] => .error (.violation (.elementOutside direction))
  | top :: outer =>
    if top.kind.isByteCounted then .error (.violation (.elementAmongBytes direction top.kind))
    else if top.left = 0 then .error (.violation (.tooManyElements direction top.kind))
    else .ok { nesting with frames := { top with left := top.left - 1 } :: outer }

/-- Lets so many bytes of the innermost compound go by, which has to be counted
in bytes. No bytes at all are let by as well, but not where nothing is open. -/
def bytes (nesting : Nesting) (direction : Direction) (count : UInt64) : Except Refusal Nesting :=
  match nesting.frames with
  | [] => .error (.violation (.bytesOutside direction count))
  | top :: outer =>
    if top.kind.isByteCounted then
      if top.left < count then
        .error (.violation (.tooManyBytes direction top.kind count top.left))
      else .ok { nesting with frames := { top with left := top.left - count } :: outer }
    else .error (.violation (.bytesAmongElements direction top.kind count))

/-- Refuses if a compound is still open. The report gives the innermost one and
how many there are. -/
def checkEmpty (nesting : Nesting) : Except Refusal Nesting :=
  match nesting.frames with
  | [] => .ok nesting
  | top :: _ => .error (.violation (.unclosed top.kind nesting.depth))

/-- Gives the stack up. Unless it is cancelled, nothing may be open. -/
def destroy (nesting : Nesting) (cancel : Bool) : Except Refusal Unit :=
  if cancel then .ok () else nesting.checkEmpty.map fun _ => ()

/-- A second stack with the same frames. It has room for them and no more, so
its next opening reserves anew. -/
def copy (nesting : Nesting) : Nesting := { nesting with capacity := nesting.depth }

/-- A call on the stack of open compounds, with what the caller gives. -/
inductive Call where
  | push (kind : Kind) (count : UInt64)
  | pop (kind : Kind)
  | element
  | bytes (count : UInt64)
  | checkEmpty
  deriving DecidableEq, Repr

/-- Tries a call in a direction, with an allocator for the room that it may
need. Only an opening asks it for any. -/
def attempt (allocator : Allocator) (direction : Direction) (nesting : Nesting) :
    Call → Except Refusal Nesting
  | .push kind count => nesting.push allocator kind count
  | .pop kind => nesting.pop kind
  | .element => nesting.element direction
  | .bytes count => nesting.bytes direction count
  | .checkEmpty => nesting.checkEmpty

/-- The step that a try amounts to: a refusal leaves the state as it was. -/
def settle {σ : Type} (before : σ) : Except Refusal σ → Step σ Unit
  | .ok after => ⟨after, .ok (), []⟩
  | .error refusal => ⟨before, .refused refusal.fault, refusal.events⟩

/-- Carries out a call. A refusal is an answer and not the end: the stack can be
called again. -/
def perform (allocator : Allocator) (direction : Direction) (nesting : Nesting) (call : Call) :
    Step Nesting Unit :=
  settle nesting (nesting.attempt allocator direction call)

end Nesting

end MessagePack
