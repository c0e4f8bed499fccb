import MessagePack.Proofs.Nesting.Accepts

/-!
# The plain list of open compounds

Without its room a stack is a list of frames, on which a call either fits or is
a violation. A call on a stack is the same call on that list, except that room
is made first where a compound is opened. So all that a stack can do is known
from the plain list and from making room, which is either granted, and then
leaves the frames alone, or refused.
-/

namespace MessagePack.Nesting

/-! ## Calls on the plain list -/

/-- Tries a call on a plain list of open compounds, innermost first, that never
lacks room. It makes the tests of the call on a stack in the same order and
gives the same reasons. -/
def attemptPlain (direction : Direction) (frames : List Frame) (call : Call) :
    Except Violation (List Frame) :=
  match call, frames with
  | .push kind count, _ =>
    if kind.isCompound then
      match Frame.units? kind count with
      | some left => .ok (⟨kind, left⟩ :: frames)
      | none => .error (.pairOverflow count)
    else .error (.scalar kind)
  | .pop kind, [] => .error (.nothingToClose kind)
  | .pop kind, top :: outer =>
    if top.kind ≠ kind then .error (.wrongKind kind top.kind)
    else if top.left ≠ 0 then .error (.unitsRemaining kind top.left)
    else .ok outer
  | .element, [] => .error (.elementOutside direction)
  | .element, top :: outer =>
    if top.kind.isByteCounted then .error (.elementAmongBytes direction top.kind)
    else if top.left = 0 then .error (.tooManyElements direction top.kind)
    else .ok (⟨top.kind, top.left - 1⟩ :: outer)
  | .bytes count, [] => .error (.bytesOutside direction count)
  | .bytes count, top :: outer =>
    if top.kind.isByteCounted then
      if top.left < count then .error (.tooManyBytes direction top.kind count top.left)
      else .ok (⟨top.kind, top.left - count⟩ :: outer)
    else .error (.bytesAmongElements direction top.kind count)
  | .checkEmpty, [] => .ok []
  | .checkEmpty, top :: _ => .error (.unclosed top.kind frames.length)

/-- Makes sure of room for one more frame. A full stack grows, and any other has
the room already. -/
def makeRoom (allocator : Allocator) (nesting : Nesting) : Except Refusal Nesting :=
  if nesting.depth = nesting.capacity then nesting.grow allocator else .ok nesting

/-! ## A call on the stack and on its list -/

/-- A call on a stack is the same call on its plain list. Room is made for what
is opened, after all tests of the call and before the frame is put on top.

Proof: by cases on the call and on whether anything is open, then along the
tests. In an opening for which all tests are passed, growing the stack changes
its room only, so that the frames are those of the plain list. -/
theorem attempt_eq_plain (allocator : Allocator) (direction : Direction) (nesting : Nesting)
    (call : Call) :
    nesting.attempt allocator direction call =
      match attemptPlain direction nesting.frames call with
      | .error violation => .error (.violation violation)
      | .ok frames =>
        if call.isPush then (nesting.makeRoom allocator).map fun roomy => { roomy with frames }
        else .ok { nesting with frames } := by
  obtain ⟨frames, capacity, initialCapacity⟩ := nesting
  cases call with
  | push kind count =>
    simp only [attempt, push, attemptPlain]
    split
    · cases countable : Frame.units? kind count with
      | none => rfl
      | some left =>
        simp only [Call.isPush, if_true, makeRoom]
        split
        · rcases grow_cases allocator ⟨frames, capacity, initialCapacity⟩ with
            ⟨granted, grown⟩ | ⟨refused, _⟩
          · rw [grown]
            rfl
          · rw [refused]
            rfl
        · rfl
    · rfl
  | pop kind =>
    cases frames with
    | nil => rfl
    | cons top outer =>
      simp only [attempt, pop, attemptPlain]
      split
      · rfl
      · split <;> rfl
  | element =>
    cases frames with
    | nil => rfl
    | cons top outer =>
      simp only [attempt, element, attemptPlain]
      split
      · rfl
      · split <;> rfl
  | bytes count =>
    cases frames with
    | nil => rfl
    | cons top outer =>
      simp only [attempt, bytes, attemptPlain]
      split
      · split <;> rfl
      · rfl
  | checkEmpty => cases frames <;> rfl

/-- Room is made, which leaves the frames alone, or memory ran out. There is no
third way, so an opening cannot fail here for a reason of its own. -/
theorem makeRoom_cases (allocator : Allocator) (nesting : Nesting) :
    (∃ capacity, nesting.makeRoom allocator = .ok { nesting with capacity }) ∨
      nesting.makeRoom allocator = .error .allocation := by
  unfold makeRoom
  split
  · rcases grow_cases allocator nesting with granted | ⟨refused, _⟩
    · exact .inl granted
    · exact .inr refused
  · exact .inl ⟨nesting.capacity, rfl⟩

/-- A call on a stack fits its plain list and is carried out as on that, or it
is refused with the same violation, or it opens what the list would open and
memory ran out. Statements that compare a stack with its list go through these
three cases. -/
theorem attempt_cases (nesting : Nesting) (allocator : Allocator) (direction : Direction)
    (call : Call) :
    (∃ frames capacity, attemptPlain direction nesting.frames call = .ok frames ∧
      nesting.attempt allocator direction call = .ok { nesting with frames, capacity }) ∨
    (∃ violation, attemptPlain direction nesting.frames call = .error violation ∧
      nesting.attempt allocator direction call = .error (.violation violation)) ∨
    call.isPush = true ∧ (∃ frames, attemptPlain direction nesting.frames call = .ok frames) ∧
      nesting.attempt allocator direction call = .error .allocation := by
  rw [attempt_eq_plain]
  cases attemptPlain direction nesting.frames call with
  | error violation => exact .inr (.inl ⟨violation, rfl, rfl⟩)
  | ok frames =>
    cases opening : call.isPush with
    | false => exact .inl ⟨frames, nesting.capacity, rfl, rfl⟩
    | true =>
      rcases makeRoom_cases allocator nesting with ⟨capacity, made⟩ | refused
      · rw [made]
        exact .inl ⟨frames, capacity, rfl, rfl⟩
      · rw [refused]
        exact .inr (.inr ⟨rfl, ⟨frames, rfl⟩, rfl⟩)

/-! ## What fits the plain list -/

/-- A call that fits is carried out on the plain list, in either direction, and
leaves the frames of its rule. -/
theorem Accepts.attemptPlain_eq {frames after : List Frame} {call : Call}
    (fits : Accepts frames call after) (direction : Direction) :
    attemptPlain direction frames call = .ok after := by
  cases fits with
  | push _ hasBody countable => simp [attemptPlain, hasBody, countable]
  | pop kind outer => simp [attemptPlain]
  | element outer inValues unfinished => simp [attemptPlain, inValues, unfinished]
  | bytes outer inBytes enough => simp [attemptPlain, inBytes, UInt64.not_lt.mpr enough]
  | checkEmpty => rfl

/-- A call that does not fit is refused on the plain list for its reason. It is
refused so on a stack with these frames, and a stack gives the reason of its
list. -/
theorem Refuses.attemptPlain_eq {direction : Direction} {frames : List Frame} {call : Call}
    {violation : Violation} (refuses : Refuses direction frames call violation) :
    attemptPlain direction frames call = .error violation := by
  have tried : attempt .unlimited direction ⟨frames, 0, 0⟩ call = .error (.violation violation) :=
    refuses.attempt_eq .unlimited
  rcases attempt_cases ⟨frames, 0, 0⟩ .unlimited direction call with
    ⟨_, _, _, carried⟩ | ⟨found, misfit, refused⟩ | ⟨_, _, lacking⟩
  · cases tried.symm.trans carried
  · cases tried.symm.trans refused
    exact misfit
  · cases tried.symm.trans lacking

/-- Exactly the calls that fit succeed on the plain list. Every call fits or has
a reason against it, and the list cannot answer both. -/
theorem attemptPlain_eq_ok_iff {direction : Direction} {frames after : List Frame} {call : Call} :
    attemptPlain direction frames call = .ok after ↔ Accepts frames call after := by
  refine ⟨?_, fun fits => fits.attemptPlain_eq direction⟩
  intro carried
  rcases accepts_or_refuses direction frames call with ⟨other, fits⟩ | ⟨violation, refuses⟩
  · cases carried.symm.trans (fits.attemptPlain_eq direction)
    exact fits
  · cases carried.symm.trans refuses.attemptPlain_eq

/-- Exactly the calls that do not fit are refused on the plain list, each for
its reason. -/
theorem attemptPlain_eq_error_iff {direction : Direction} {frames : List Frame} {call : Call}
    {violation : Violation} :
    attemptPlain direction frames call = .error violation ↔
      Refuses direction frames call violation := by
  refine ⟨?_, Refuses.attemptPlain_eq⟩
  intro refused
  rcases accepts_or_refuses direction frames call with ⟨after, fits⟩ | ⟨found, refuses⟩
  · cases refused.symm.trans (fits.attemptPlain_eq direction)
  · cases refused.symm.trans refuses.attemptPlain_eq
    exact refuses

/-- A violation is misuse unless a compound was to be opened, which may also be
a map of too many pairs. -/
theorem attemptPlain_misuse {direction : Direction} {frames : List Frame} {call : Call}
    {violation : Violation} (noPush : call.isPush = false)
    (refused : attemptPlain direction frames call = .error violation) :
    violation.fault = .misuse := by
  rcases (attemptPlain_eq_error_iff.mp refused).misuse_or_map with misuse | ⟨count, rfl⟩
  · exact misuse
  · cases noPush

end MessagePack.Nesting
