import MessagePack.Proofs.Nesting.Plain

/-!
# What a report of a refused call tells

A call that does not fit the open compounds is refused for a reason, which is
reported. The kinds and numbers that a report gives are those of the call and of
the open compounds. Only where units were to go by it names the direction, and
in the other direction the same call is refused for the same reason and reported
in the same words but for that name.
-/

namespace MessagePack

namespace Violation

/-- The direction that a report of a violation names. The reports of openings,
closings and checks name none. -/
def direction? : Violation → Option Direction
  | elementOutside direction | elementAmongBytes direction _ | tooManyElements direction _
  | bytesOutside direction _ | bytesAmongElements direction _ _ | tooManyBytes direction _ _ _ =>
    some direction
  | _ => none

/-- A violation counts as misuse or as a size out of bounds, and never as a lack
of memory. -/
theorem fault_cases (violation : Violation) :
    violation.fault = .misuse ∨ violation.fault = .sizeExceeded := by
  cases violation with
  | pairOverflow => exact .inr rfl
  | _ => exact .inl rfl

/-- A violation that names no direction is the same in the other direction,
since there is nothing to replace in it. -/
theorem opposite_of_directionless {violation : Violation} (none : violation.direction? = none) :
    violation.opposite = violation := by
  cases violation with
  | elementOutside | elementAmongBytes | tooManyElements => cases none
  | bytesOutside | bytesAmongElements | tooManyBytes => cases none
  | _ => rfl

/-- The same violation in the other direction counts as the same fault. -/
@[simp] theorem opposite_fault (violation : Violation) :
    violation.opposite.fault = violation.fault := by
  cases violation <;> rfl

/-- A report of the same violation in the other direction gives the same names
and values: the direction is told by the message alone. -/
@[simp] theorem opposite_fields (violation : Violation) :
    violation.opposite.fields = violation.fields := by
  cases violation <;> rfl

/-- The same violation in the other direction is told in the same words, but for
what has been done to the units, which stands once in the message. -/
theorem opposite_message {violation : Violation} {direction : Direction}
    (named : violation.direction? = some direction) :
    ∃ opening rest, violation.message = opening ++ direction.participle ++ rest ∧
      violation.opposite.message = opening ++ direction.opposite.participle ++ rest := by
  cases violation with
  | elementOutside =>
    cases named
    cases direction <;> exact ⟨"element ", " with nothing open", rfl, rfl⟩
  | elementAmongBytes =>
    cases named
    cases direction <;> exact ⟨"element ", " inside a byte-oriented compound", rfl, rfl⟩
  | tooManyElements =>
    cases named
    cases direction <;> exact ⟨"too many elements ", "", rfl, rfl⟩
  | bytesOutside =>
    cases named
    cases direction <;> exact ⟨"bytes ", " with nothing open", rfl, rfl⟩
  | bytesAmongElements =>
    cases named
    cases direction <;> exact ⟨"bytes ", " inside an array or map", rfl, rfl⟩
  | tooManyBytes =>
    cases named
    cases direction <;> exact ⟨"too many bytes ", "", rfl, rfl⟩
  | _ => cases named

end Violation

namespace Nesting

/-! ## The direction that is named -/

/-- A call lets units go by: an element or some bytes. -/
def Call.letsBy : Call → Bool
  | .element | .bytes _ => true
  | _ => false

/-- A refused call that lets units go by has its direction named, and no other
call has. -/
theorem Refuses.direction? {direction : Direction} {frames : List Frame} {call : Call}
    {violation : Violation} (refuses : Refuses direction frames call violation) :
    violation.direction? = if call.letsBy then some direction else none := by
  cases refuses <;> rfl

/-- In the other direction a call is refused for the same reason. The rules do
not ask for the direction, they only put it into the report. -/
theorem Refuses.opposite {direction : Direction} {frames : List Frame} {call : Call}
    {violation : Violation} (refuses : Refuses direction frames call violation) :
    Refuses direction.opposite frames call violation.opposite := by
  cases refuses with
  | scalar _ count noBody => exact .scalar _ count noBody
  | pairOverflow _ hasBody uncountable => exact .pairOverflow _ hasBody uncountable
  | nothingToClose kind => exact .nothingToClose kind
  | wrongKind outer differs => exact .wrongKind outer differs
  | unitsRemaining outer unfinished => exact .unitsRemaining outer unfinished
  | elementOutside => exact .elementOutside
  | elementAmongBytes outer inBytes => exact .elementAmongBytes outer inBytes
  | tooManyElements outer inValues finished => exact .tooManyElements outer inValues finished
  | bytesOutside count => exact .bytesOutside count
  | bytesAmongElements outer count inValues => exact .bytesAmongElements outer count inValues
  | tooManyBytes outer inBytes short => exact .tooManyBytes outer inBytes short
  | unclosed top outer => exact .unclosed top outer

/-- On a plain list a call does the same in the other direction, and is refused
for the same reason. -/
theorem attemptPlain_opposite (direction : Direction) (frames : List Frame) (call : Call) :
    attemptPlain direction.opposite frames call =
      (attemptPlain direction frames call).mapError Violation.opposite := by
  cases tried : attemptPlain direction frames call with
  | ok after =>
    exact attemptPlain_eq_ok_iff.mpr (attemptPlain_eq_ok_iff.mp tried)
  | error violation =>
    exact (attemptPlain_eq_error_iff.mp tried).opposite.attemptPlain_eq

/-! ## The kinds and numbers that are given -/

/-- All that a report can tell of a call: the kind and the number that it gives,
by their names. -/
def Call.arguments : Call → List (String × String)
  | .push kind count => [("ty", kind.name), ("count", toString count.toNat)]
  | .pop kind => [("ty", kind.name)]
  | .bytes count => [("count", toString count.toNat)]
  | .element | .checkEmpty => []

/-- All that a report can tell of the open compounds: how many there are, and of
the innermost one its kind and the units left. -/
def standing : List Frame → List (String × String)
  | [] => [("depth", "0")]
  | top :: outer =>
    [("open", top.kind.name), ("left", toString top.left.toNat),
      ("depth", toString (outer.length + 1))]

/-- What the report of a refused call tells, field by field and in order. The
call and the open compounds settle it between them, since they settle the
reason: which of two reasons it is depends on the kinds that meet. Of the
innermost compound a report names the kind wherever that is the trouble, and the
units left where they are not none or not enough. -/
def told : List Frame → Call → List (String × String)
  | _, .push kind count =>
    if kind.isCompound then [("count", toString count.toNat)] else [("ty", kind.name)]
  | [], .pop kind => [("ty", kind.name)]
  | top :: _, .pop kind =>
    if top.kind = kind then [("ty", kind.name), ("left", toString top.left.toNat)]
    else [("ty", kind.name), ("open", top.kind.name)]
  | [], .element | [], .checkEmpty => []
  | top :: _, .element => [("open", top.kind.name)]
  | [], .bytes count => [("count", toString count.toNat)]
  | top :: _, .bytes count =>
    if top.kind.isByteCounted then
      [("open", top.kind.name), ("count", toString count.toNat),
        ("left", toString top.left.toNat)]
    else [("open", top.kind.name), ("count", toString count.toNat)]
  | top :: outer, .checkEmpty =>
    [("open", top.kind.name), ("depth", toString (outer.length + 1))]

/-- Whatever is told is so of the call or of the open compounds, refused or not.
No report makes up a value. -/
theorem told_subset (frames : List Frame) (call : Call) :
    told frames call ⊆ standing frames ++ call.arguments := by
  cases frames with
  | nil =>
    cases call with
    | push kind count => cases body : kind.isCompound <;> simp [told, body, Call.arguments]
    | _ => simp [told, Call.arguments]
  | cons top outer =>
    cases call with
    | push kind count => cases body : kind.isCompound <;> simp [told, body, Call.arguments]
    | pop kind =>
      by_cases same : top.kind = kind <;> simp [told, same, standing, Call.arguments]
    | bytes count =>
      cases counted : top.kind.isByteCounted <;> simp [told, counted, standing, Call.arguments]
    | _ => simp [told, standing]

/-- A violation gives exactly the fields that are told of the refused call: none
is left out, none is added, and each has the value of its name. -/
theorem Refuses.fields_eq {direction : Direction} {frames : List Frame} {call : Call}
    {violation : Violation} (refuses : Refuses direction frames call violation) :
    violation.fields = told frames call := by
  cases refuses with
  | scalar _ count noBody => simp [Violation.fields, told, noBody]
  | pairOverflow _ hasBody uncountable => simp [Violation.fields, told, hasBody]
  | wrongKind outer differs => simp [Violation.fields, told, differs]
  | unitsRemaining outer unfinished => simp [Violation.fields, told]
  | bytesAmongElements outer count inValues => simp [Violation.fields, told, inValues]
  | tooManyBytes outer inBytes short => simp [Violation.fields, told, inBytes]
  | _ => rfl

/-- What a report tells is so of the call and of the open compounds. -/
theorem Refuses.fields_subset {direction : Direction} {frames : List Frame} {call : Call}
    {violation : Violation} (refuses : Refuses direction frames call violation) :
    violation.fields ⊆ standing frames ++ call.arguments := by
  rw [refuses.fields_eq]
  exact told_subset frames call

end Nesting

/-- An event that tells of a call that does not fit. The kinds and numbers that
it gives are those of the call and of the open compounds, and it gives all that
is told of such a call. -/
structure Event.TellsOfCall (event : Event) (frames : List Frame) (call : Nesting.Call) :
    Prop where
  level : event.level = .debug
  target : event.target = "msgpack_core::track"
  fields : event.fields ⊆ Nesting.standing frames ++ call.arguments
  told : event.fields = Nesting.told frames call

namespace Nesting

/-- A violation that a call meets is told by its event, with exactly the fields
that the call and the open compounds call for. -/
theorem Refuses.tells {direction : Direction} {frames : List Frame} {call : Call}
    {violation : Violation} (refuses : Refuses direction frames call violation) :
    (Event.nesting violation).TellsOfCall frames call :=
  ⟨rfl, rfl, refuses.fields_subset, refuses.fields_eq⟩

/-- A step on a stack reports what it should. Only a call that does not fit is
reported; it leaves the stack as it was and is told by one event. A call that is
carried out and a lack of memory are not reported here. -/
inductive Reported {σ : Type} (frames : List Frame) (call : Call) (before : σ) :
    Step σ Unit → Prop where
  | carried (after : σ) : Reported frames call before ⟨after, .ok (), []⟩
  | lacking : Reported frames call before ⟨before, .refused .allocationFailure, []⟩
  | refused {fault : Fault} {event : Event} (breach : fault = .misuse ∨ fault = .sizeExceeded)
      (tells : event.TellsOfCall frames call) :
      Reported frames call before ⟨before, .refused fault, [event]⟩

/-- Every call on a stack reports what it should.

Proof: by the three cases of a call on a stack and on its list. A violation that
the list meets is one that the rules give for the call, and that is told by its
event. -/
theorem perform_reported (nesting : Nesting) (allocator : Allocator) (direction : Direction)
    (call : Call) :
    Reported nesting.frames call nesting (nesting.perform allocator direction call) := by
  unfold perform
  rcases attempt_cases nesting allocator direction call with
    ⟨frames, capacity, _, carried⟩ | ⟨violation, misfit, refused⟩ | ⟨_, _, lacking⟩
  · rw [carried]
    exact .carried _
  · rw [refused]
    exact .refused violation.fault_cases (attemptPlain_eq_error_iff.mp misfit).tells
  · rw [lacking]
    exact .lacking

/-- Giving a stack up reports what it should, as a check for an empty stack. -/
theorem destroy_reported (nesting : Nesting) (cancel : Bool) :
    Reported nesting.frames .checkEmpty () (settle () (nesting.destroy cancel)) := by
  obtain ⟨frames, capacity, initialCapacity⟩ := nesting
  cases cancel with
  | true => exact .carried ()
  | false =>
    cases frames with
    | nil => exact .carried ()
    | cons top outer =>
      have unclosed : Refuses .reading (top :: outer) .checkEmpty
          (.unclosed top.kind (outer.length + 1)) := .unclosed top outer
      exact .refused (.inl rfl) unclosed.tells

end Nesting

end MessagePack
