/-!
# Reserving frames

Room for frames is reserved before it is used, and a reservation may fail.
Nothing is assumed of an allocator but that a reservation that succeeds is large
enough.
-/

namespace MessagePack

/-- How requests for room are answered. What is granted depends on the request
alone; an allocator that changes its mind is a different one at each turn of a
run. -/
structure Allocator where
  /-- The room granted, in frames, to an owner of `held` who needs `needed` in
  all. -/
  provide : (held needed : Nat) → Option Nat
  /-- What is granted is enough. -/
  enough : ∀ held needed granted, provide held needed = some granted → needed ≤ granted

namespace Allocator

/-- Grants every request exactly. -/
def unlimited : Allocator where
  provide _ needed := some needed
  enough _ _ _ granted := by simpa using Nat.le_of_eq (Option.some.inj granted)

/-- Grants requests exactly up to a limit, and so refuses a request whatever was
granted before. -/
def limited (limit : Nat) : Allocator where
  provide _ needed := if needed ≤ limit then some needed else none
  enough _ _ _ granted := by
    split at granted
    · exact Nat.le_of_eq (Option.some.inj granted)
    · simp at granted

/-- Grants what a process can address: 47 bits of addresses at 16 bytes a
frame. -/
def addressable : Allocator := limited (1 <<< 43)

end Allocator

end MessagePack
