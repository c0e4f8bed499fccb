import MessagePack.Proofs.Nesting.Unbounded

/-!
# A complete value is transparent

Calls that begin and end with nothing open, such as those for a complete value,
look only at frames that they opened themselves. So on a stack with other
compounds open around them they do the same above these, and leave the stack as
they found it. Nothing that comes later can tell whether they were made. A check
for an empty stack is no such call: it looks at the whole stack.

More generally a run changes no frame that is never the innermost one. Where a
depth is kept to the end, this is so of all frames below the one at that depth.
The frame at that depth itself may be spent, or closed and another one opened in
its place.
-/

namespace MessagePack.Nesting

/-! ## Calls with other compounds around them -/

/-- A call that does not look at the whole stack fits as well with more
compounds around, and it leaves them alone. The check for an empty stack is the
only call that does. -/
theorem Accepts.framed {before after : List Frame} {call : Call}
    (fits : Accepts before call after) (noCheck : call ≠ .checkEmpty) (around : List Frame) :
    Accepts (before ++ around) call (after ++ around) := by
  cases fits with
  | push _ hasBody countable => exact .push _ hasBody countable
  | pop kind _ => exact .pop kind _
  | element _ inValues unfinished => exact .element _ inValues unfinished
  | bytes _ inBytes enough => exact .bytes _ inBytes enough
  | checkEmpty => exact absurd rfl noCheck

/-- Such calls fit one after the other as well with more compounds around, by
induction on the calls. -/
theorem AcceptsAll.framed {before after : List Frame} {calls : List Call}
    (fits : AcceptsAll before calls after) (noCheck : ∀ call ∈ calls, call ≠ .checkEmpty)
    (around : List Frame) : AcceptsAll (before ++ around) calls (after ++ around) := by
  induction fits with
  | nil frames => exact .nil (frames ++ around)
  | cons first _ inductionHypothesis =>
    obtain ⟨here, later⟩ := List.forall_mem_cons.mp noCheck
    exact .cons (first.framed here around) (inductionHypothesis later)

/-! ## Frames that are never innermost -/

/-- So many of the open compounds, counted from the outermost one inwards. These
are all of them if there are no more. -/
def outermost (count : Nat) (frames : List Frame) : List Frame :=
  frames.drop (frames.length - count)

/-- What is put on top of enough frames does not change the outermost ones. -/
theorem outermost_append {count : Nat} {lower : List Frame} (enough : count ≤ lower.length)
    (upper : List Frame) : outermost count (upper ++ lower) = outermost count lower := by
  rw [outermost, outermost, List.length_append, Nat.add_sub_assoc enough,
    List.drop_length_add_append]

/-- A call that fits and leaves so many frames keeps all of them but the last
one, counted from the outermost.

Proof: by the rules for calls. Each changes the innermost frame only, by putting
one on top, taking it off or counting it down, and below it there are as many
frames before the call as after it. What is put on top of these does not change
the outermost ones. -/
theorem Accepts.outermost_eq {before after : List Frame} {call : Call}
    (fits : Accepts before call after) {count : Nat} (deep : count ≤ after.length) :
    outermost (count - 1) after = outermost (count - 1) before := by
  cases fits with
  | @push kind _ left _ hasBody countable =>
    exact outermost_append (by simp at deep; omega) [⟨kind, left⟩]
  | pop kind _ => exact (outermost_append (by omega) [⟨kind, 0⟩]).symm
  | @element kind left outer inValues unfinished =>
    have enough : count - 1 ≤ outer.length := by simp at deep; omega
    exact (outermost_append enough [⟨kind, left - 1⟩]).trans
      (outermost_append enough [⟨kind, left⟩]).symm
  | @bytes kind left bytes outer inBytes enough =>
    have enough : count - 1 ≤ outer.length := by simp at deep; omega
    exact (outermost_append enough [⟨kind, left - bytes⟩]).trans
      (outermost_append enough [⟨kind, left⟩]).symm
  | checkEmpty => rfl

/-- A run that keeps to a depth keeps all frames below the one at that depth, by
induction on its turns. A refused call changes nothing. -/
theorem after_outermost {nesting : Nesting} {turns : List Turn} {count : Nat}
    (deep : ∀ step ∈ machine.reactions nesting turns, count ≤ step.state.depth) :
    outermost (count - 1) (machine.after nesting turns).frames =
      outermost (count - 1) nesting.frames := by
  induction turns generalizing nesting with
  | nil => rfl
  | cons turn turns inductionHypothesis =>
    obtain ⟨here, later⟩ := List.forall_mem_cons.mp deep
    refine (inductionHypothesis later).trans ?_
    rcases react_cases nesting turn with ⟨after, reaction, fits⟩ | ⟨refusal, reaction⟩
    · rw [reaction] at here ⊢
      exact fits.outermost_eq here
    · rw [reaction]
      rfl

/-! ## Nothing tells whether a complete value went by -/

/-- What a run shows where memory does not run out depends on the open compounds
alone, and so does giving the stack up after it. Both runs show what the run on
the plain list shows, and both stacks have the same list. -/
theorem shown_of_frames {left right : Nesting} (same : left.frames = right.frames)
    {turns : List Turn} (leftSupplied : Supplied left turns)
    (rightSupplied : Supplied right turns) :
    (machine.reactions left turns).map (·.within Nesting.frames) =
        (machine.reactions right turns).map (·.within Nesting.frames) ∧
      ∀ cancel, (machine.after left turns).destroy cancel =
        (machine.after right turns).destroy cancel := by
  have leftShown := asPlainList.reactions_map leftSupplied
  have leftEnds := asPlainList.after_map leftSupplied
  have rightShown : _ = unbounded.reactions right.frames (turns.map Turn.asked) :=
    asPlainList.reactions_map rightSupplied
  have rightEnds : _ = unbounded.after right.frames (turns.map Turn.asked) :=
    asPlainList.after_map rightSupplied
  rw [← same] at rightShown rightEnds
  refine ⟨leftShown.trans rightShown.symm, ?_⟩
  intro cancel
  rw [destroy_eq_plain, destroy_eq_plain]
  exact congrArg (destroyPlain · cancel) (leftEnds.trans rightEnds.symm)

/-- Calls that are all carried out on an empty stack and leave it empty, with no
check for an empty stack among them, are transparent. At any point of any run
they are all carried out, unless memory runs out, and leave the frames as they
were. Whatever follows shows the same in outcomes, frames and events as if they
had not been made, where memory does not run out, and the stack is given up in
the same way. Allocators that never fail see to it that it does not.

More generally, in any run that ends every call at so great a depth, be the call
carried out or refused, the frames below that depth are at the end what they
were at the beginning.

Proof: that the calls are all carried out on an empty stack means that they fit
there, and so they fit with the frames at the given point around them, and leave
these. Hence they are carried out at that point where memory does not run out,
and the stack has the same frames as without them, on which alone depends what
follows. The last part is the invariant of a run that keeps to a depth. -/
theorem complete_value_transparent :
    (∀ (start blank : Nesting) (past alone inside : List Turn),
      blank.frames = [] → alone.map Turn.call = inside.map Turn.call →
      (∀ turn ∈ inside, turn.call ≠ .checkEmpty) →
      (∀ step ∈ machine.reactions blank alone, step.outcome = .ok ()) →
      (machine.after blank alone).frames = [] →
      let point := machine.after start past
      let passed := machine.after point inside
      Supplied point inside →
        (∀ step ∈ machine.reactions point inside, step.outcome = .ok ()) ∧
        passed.frames = point.frames ∧
        ∀ future, Supplied point future → Supplied passed future →
          (machine.reactions passed future).map (·.within Nesting.frames) =
              (machine.reactions point future).map (·.within Nesting.frames) ∧
            ∀ cancel, (machine.after passed future).destroy cancel =
              (machine.after point future).destroy cancel) ∧
    (∀ turns : List Turn, (∀ turn ∈ turns, turn.allocator.Unfailing) →
      ∀ nesting, Supplied nesting turns) ∧
    ∀ (start : Nesting) (turns : List Turn) (count : Nat),
      (∀ step ∈ machine.reactions start turns, count ≤ step.state.depth) →
        outermost (count - 1) (machine.after start turns).frames =
          outermost (count - 1) start.frames := by
  refine ⟨?_, fun _ => supplied_of_unfailing, fun _ _ _ => after_outermost⟩
  intro start blank past alone inside fresh sameCalls noCheck allOk closed point passed supplied
  have fitsAlone : AcceptsAll [] (inside.map Turn.call) [] := by
    have fits := acceptsAll_of_all_ok allOk
    rwa [fresh, closed, sameCalls] at fits
  have fits : AcceptsAll point.frames (inside.map Turn.call) point.frames :=
    fitsAlone.framed (List.forall_mem_map.mpr noCheck) point.frames
  obtain ⟨carried, same⟩ := all_ok_of_supplied supplied fits
  refine ⟨carried, same, ?_⟩
  intro future pointSupplied passedSupplied
  exact shown_of_frames same passedSupplied pointSupplied

/-- A string that goes by in an array of two. It makes the stack grow, but one
element too many is refused after it as it is without it. A map in its place
that is closed too early, and a blob in that for which there is no memory, leave
the array alone as well. -/
theorem string_in_array_unseen :
    let turn (call : Call) : Turn := ⟨call, .reading, .limited 2⟩
    let past := [turn (.push .array 2), turn .element]
    let inside := [turn (.push .str 3), turn (.bytes 3), turn (.pop .str)]
    let alone := inside.map fun turn => (⟨turn.call, .writing, .unlimited⟩ : Turn)
    let future := [turn .element, turn .element, turn (.pop .array)]
    let point := machine.after ⟨[], 0, 1⟩ past
    let passed := machine.after point inside
    let clumsy := [turn (.push .map 1), turn .element, turn (.pop .map), turn (.push .bin 1)]
    (∀ step ∈ machine.reactions .empty alone, step.outcome = .ok ()) ∧
      Supplied point inside ∧ Supplied point future ∧ Supplied passed future ∧
      (∀ step ∈ machine.reactions point inside, step.outcome = .ok ()) ∧
      passed.capacity ≠ point.capacity ∧ passed.frames = point.frames ∧
      (machine.reactions passed future).map (·.within Nesting.frames) =
        (machine.reactions point future).map (·.within Nesting.frames) ∧
      (machine.reactions point future).map (·.outcome) =
        [.ok (), .refused .misuse, .ok ()] ∧
      (machine.reactions point clumsy).map (·.outcome) =
        [.ok (), .ok (), .refused .misuse, .refused .allocationFailure] ∧
      outermost 1 (machine.after point clumsy).frames = [⟨.array, 1⟩] := by
  intro turn past inside alone future point passed clumsy
  obtain ⟨transparent, _, kept⟩ := complete_value_transparent
  have allOk : ∀ step ∈ machine.reactions .empty alone, step.outcome = .ok () := by decide
  have suppliedInside : Supplied point inside := by decide
  have suppliedPoint : Supplied point future := by decide
  have suppliedPassed : Supplied passed future := by decide
  obtain ⟨carried, same, unseen⟩ := transparent ⟨[], 0, 1⟩ .empty past alone inside rfl rfl
    (by decide) allOk (by decide) suppliedInside
  have below := kept point clumsy 2 (by decide)
  exact ⟨allOk, suppliedInside, suppliedPoint, suppliedPassed, carried, by decide, same,
    (unseen future suppliedPoint suppliedPassed).1, by decide, by decide, below⟩

end MessagePack.Nesting
