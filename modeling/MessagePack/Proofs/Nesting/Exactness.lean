import MessagePack.Proofs.Nesting.Room

/-!
# What each call answers

For every call on a stack that comes about it is told in full when it succeeds,
what it does then, and with which fault it is refused otherwise. The faults of
an opening come in a fixed order: a kind without a body is misuse, pairs that
cannot be counted are a size out of bounds, and only then is memory asked for.
All other calls are refused as misuse only.

A refused call leaves the stack as it was. One that succeeds puts a frame on
top, takes the top one off, or takes units off it that it has, so that no
counter ever wraps. The direction plays no part in any of this.
-/

namespace MessagePack.Nesting

/-! ## Success and its effect -/

/-- Takes so many units off the innermost frame and leaves all else as it is.
The units are subtracted as numbers, so the frame had that many. -/
def Spends (units : Nat) (before after : List Frame) : Prop :=
  ∃ (top : Frame) (outer : List Frame) (left : UInt64), before = top :: outer ∧
    after = ⟨top.kind, left⟩ :: outer ∧ left.toNat + units = top.left.toNat

/-- What is closed is off the top, and the frames around it are left. -/
theorem Accepts.of_pop {before after : List Frame} {kind : Kind}
    (fits : Accepts before (.pop kind) after) : after = before.tail := by
  cases fits
  rfl

/-- An element takes one unit off the top. -/
theorem Accepts.of_element {before after : List Frame} (fits : Accepts before .element after) :
    Spends 1 before after := by
  cases fits with
  | @element kind left outer inValues unfinished =>
    exact ⟨⟨kind, left⟩, outer, left - 1, rfl, rfl, toNat_sub_one_add unfinished⟩

/-- Bytes take so many units off the top as there are bytes. -/
theorem Accepts.of_bytes {before after : List Frame} {count : UInt64}
    (fits : Accepts before (.bytes count) after) : Spends count.toNat before after := by
  cases fits with
  | @bytes kind left _ outer inBytes enough =>
    exact ⟨⟨kind, left⟩, outer, left - count, rfl, rfl, toNat_sub_add enough⟩

/-- A call that succeeds fits and leaves the frames that its rule says. -/
theorem accepts_of_ok {nesting : Nesting} {allocator : Allocator} {direction : Direction}
    {call : Call} (well : (nesting.perform allocator direction call).outcome = .ok ()) :
    Accepts nesting.frames call (nesting.perform allocator direction call).state.frames := by
  rcases react_cases nesting ⟨call, direction, allocator⟩ with ⟨after, step, fits⟩ | ⟨_, step⟩
  · rw [show nesting.perform allocator direction call = _ from step]
    exact fits
  · rw [show nesting.perform allocator direction call = _ from step] at well
    cases well

/-- A call that does not succeed leaves the stack as it was, whatever the
reason. -/
theorem state_of_not_ok {nesting : Nesting} {allocator : Allocator} {direction : Direction}
    {call : Call} (failed : (nesting.perform allocator direction call).outcome ≠ .ok ()) :
    (nesting.perform allocator direction call).state = nesting := by
  rcases react_cases nesting ⟨call, direction, allocator⟩ with ⟨after, step, _⟩ | ⟨_, step⟩
  · rw [show nesting.perform allocator direction call = _ from step] at failed
    exact absurd rfl failed
  · rw [show nesting.perform allocator direction call = _ from step]

/-- A call that opens nothing succeeds exactly if it fits, and is refused as
misuse otherwise. Such a call needs no room, so the allocator plays no part.

Proof: the call is the same call on the plain list, without making room, and it
succeeds there exactly if it fits; any violation of it is misuse. -/
theorem outcome_of_not_push (nesting : Nesting) (allocator : Allocator) (direction : Direction)
    {call : Call} (noPush : call.isPush = false) :
    ((nesting.perform allocator direction call).outcome = .ok () ↔
        ∃ frames, Accepts nesting.frames call frames) ∧
      ((nesting.perform allocator direction call).outcome = .ok () ∨
        (nesting.perform allocator direction call).outcome = .refused .misuse) := by
  rw [perform, attempt_eq_plain]
  have fits (frames : List Frame) := @attemptPlain_eq_ok_iff direction nesting.frames frames call
  simp only [noPush, Bool.false_eq_true, if_false, ← fits]
  cases tried : attemptPlain direction nesting.frames call with
  | ok frames => exact ⟨iff_of_true rfl ⟨frames, rfl⟩, .inl rfl⟩
  | error violation =>
    have misuse : violation.fault = .misuse := attemptPlain_misuse noPush tried
    have refused : Outcome.refused violation.fault ≠ Outcome.ok () := by
      intro same
      cases same
    have misfit : ¬ ∃ frames : List Frame, Except.error violation = Except.ok frames := by
      rintro ⟨frames, carried⟩
      cases carried
    exact ⟨iff_of_false refused misfit, .inr (congrArg Outcome.refused misuse)⟩

/-! ## Each call -/

/-- The units of a compound cannot be counted exactly if it is a map of too many
pairs: those whose keys and values together exceed the counter. -/
theorem units?_eq_none_iff (kind : Kind) (count : UInt64) :
    Frame.units? kind count = none ↔ kind = .map ∧ UInt64.size ≤ 2 * count.toNat := by
  unfold Frame.units?
  by_cases pairs : kind = .map
  · simp [pairs]
  · simp [pairs]

/-- The faults of an opening, in their order: misuse for a kind without a body,
a size out of bounds for pairs that cannot be counted, and only then a lack of
memory.

Proof: by the tests of the opening. If both are passed the call fits the plain
list, and what is left are the cases of a stack with room to spare, of a granted
request and of a refused one. -/
theorem push_outcome {nesting : Nesting} (roomy : Roomy nesting) (allocator : Allocator)
    (direction : Direction) (kind : Kind) (count : UInt64) :
    (nesting.perform allocator direction (.push kind count)).outcome =
      if kind.isCompound = false then .refused .misuse
      else if kind = .map ∧ UInt64.size ≤ 2 * count.toNat then .refused .sizeExceeded
      else if nesting.depth = nesting.capacity ∧ nesting.requested allocator = none then
        .refused .allocationFailure
      else .ok () := by
  simp only [← units?_eq_none_iff]
  cases hasBody : kind.isCompound with
  | false => simp [perform, attempt, push, hasBody, settle, Refusal.fault, Violation.fault]
  | true =>
    cases countable : Frame.units? kind count with
    | none =>
      simp [perform, attempt, push, hasBody, countable, settle, Refusal.fault, Violation.fault]
    | some left =>
      have fits : attemptPlain direction nesting.frames (.push kind count) =
          .ok (⟨kind, left⟩ :: nesting.frames) :=
        attemptPlain_eq_ok_iff.mpr (.push nesting.frames hasBody countable)
      rcases perform_cases roomy allocator direction (.push kind count) with
        ⟨_, misfit, _⟩ | ⟨_, _, ⟨spare, step⟩ |
          ⟨_, full, ⟨capacity, answer, step⟩ | ⟨answer, step⟩⟩⟩
      · cases fits.symm.trans misfit
      · simp [step, Nat.ne_of_lt (spare rfl)]
      · simp [step, answer]
      · simp [step, full, answer]

/-- The kind of the innermost frame and its missing units decide whether it
is closed: it is closed exactly if it is of the kind that is named and lacks
none. -/
theorem accepts_pop_iff (frames : List Frame) (kind : Kind) :
    (∃ after, Accepts frames (.pop kind) after) ↔ frames.head? = some ⟨kind, 0⟩ := by
  constructor
  · rintro ⟨after, fits⟩
    cases fits
    rfl
  · intro top
    obtain ⟨outer, rfl⟩ := List.head?_eq_some_iff.mp top
    exact ⟨outer, .pop kind outer⟩

/-- An element goes by exactly if the innermost frame is an array or a map with
units left. That only compounds are open is needed, because the test asks
whether the frame is counted in bytes. -/
theorem accepts_element_iff {frames : List Frame}
    (compounds : ∀ frame ∈ frames, frame.kind.isCompound = true) :
    (∃ after, Accepts frames .element after) ↔
      ∃ top, frames.head? = some top ∧ (top.kind = .array ∨ top.kind = .map) ∧
        0 < top.left.toNat := by
  constructor
  · rintro ⟨after, fits⟩
    cases fits with
    | @element kind left outer inValues unfinished =>
      have kinds := (array_or_map_iff (compounds _ List.mem_cons_self)).mpr inValues
      have restored := toNat_sub_one_add unfinished
      exact ⟨⟨kind, left⟩, rfl, kinds, restored ▸ Nat.succ_pos _⟩
  · rintro ⟨top, innermost, kinds, unfinished⟩
    obtain ⟨outer, rfl⟩ := List.head?_eq_some_iff.mp innermost
    have inValues := (array_or_map_iff (compounds top List.mem_cons_self)).mp kinds
    have nonzero : top.left ≠ 0 := by
      intro none
      rw [none] at unfinished
      cases unfinished
    exact ⟨_, .element outer inValues nonzero⟩

/-- Bytes go by exactly if the innermost frame is counted in bytes and has so
many left. No bytes at all go by wherever bytes do. -/
theorem accepts_bytes_iff (frames : List Frame) (count : UInt64) :
    (∃ after, Accepts frames (.bytes count) after) ↔
      ∃ top, frames.head? = some top ∧ (top.kind = .str ∨ top.kind = .bin ∨ top.kind = .ext) ∧
        count.toNat ≤ top.left.toNat := by
  have kinds (kind : Kind) :
      kind.isByteCounted = true ↔ kind = .str ∨ kind = .bin ∨ kind = .ext := by
    cases kind <;> simp [Kind.isByteCounted]
  constructor
  · rintro ⟨after, fits⟩
    cases fits with
    | @bytes kind left _ outer inBytes enough =>
      exact ⟨⟨kind, left⟩, rfl, (kinds kind).mp inBytes, UInt64.le_iff_toNat_le.mp enough⟩
  · rintro ⟨top, innermost, counted, enough⟩
    obtain ⟨outer, rfl⟩ := List.head?_eq_some_iff.mp innermost
    exact ⟨_, .bytes outer ((kinds top.kind).mpr counted) (UInt64.le_iff_toNat_le.mpr enough)⟩

/-- A check for an empty stack succeeds exactly on one. -/
theorem accepts_checkEmpty_iff (frames : List Frame) :
    (∃ after, Accepts frames .checkEmpty after) ↔ frames = [] := by
  constructor
  · rintro ⟨after, fits⟩
    cases fits
    rfl
  · rintro rfl
    exact ⟨[], .checkEmpty⟩

/-- A check for an empty stack changes nothing, whatever it answers. -/
theorem checkEmpty_state (nesting : Nesting) (allocator : Allocator) (direction : Direction) :
    (nesting.perform allocator direction .checkEmpty).state = nesting := by
  obtain ⟨frames, capacity, initialCapacity⟩ := nesting
  cases frames <;> rfl

/-- The direction changes neither the outcome of a call nor what it does. It
only enters the reports of elements and bytes. -/
theorem perform_direction (nesting : Nesting) (allocator : Allocator) (direction other : Direction)
    (call : Call) :
    (nesting.perform allocator direction call).outcome =
        (nesting.perform allocator other call).outcome ∧
      (nesting.perform allocator direction call).state =
        (nesting.perform allocator other call).state := by
  obtain ⟨frames, capacity, initialCapacity⟩ := nesting
  cases call with
  | push kind count => exact ⟨rfl, rfl⟩
  | pop kind => exact ⟨rfl, rfl⟩
  | checkEmpty => exact ⟨rfl, rfl⟩
  | element =>
    cases frames with
    | nil => exact ⟨rfl, rfl⟩
    | cons top outer =>
      simp only [perform, attempt, element]
      split
      · exact ⟨rfl, rfl⟩
      · split <;> exact ⟨rfl, rfl⟩
  | bytes count =>
    cases frames with
    | nil => exact ⟨rfl, rfl⟩
    | cons top outer =>
      simp only [perform, attempt, bytes]
      split
      · split <;> exact ⟨rfl, rfl⟩
      · exact ⟨rfl, rfl⟩

/-! ## All calls -/

/-- What each call answers on a stack that comes about, and what it does.

An opening is refused as misuse if the kind has no body, else as a size out of
bounds if it is a map of too many pairs, else for lack of memory if the stack is
full and its request is refused; else it succeeds, and a frame with all units of
the compound is on top. A closing succeeds exactly on a frame of its kind
without units left, an element on an array or a map with one left, bytes on a
string, a blob or an extension with so many left, and a check on an empty stack;
all of these are refused as misuse otherwise. What goes by is taken off the
units that the top frame has. Whatever fails leaves the stack as it was, and the
direction has no influence.

Proof: an opening is settled by the order of its tests, and every other call
succeeds exactly if it fits, which is spelled out for each of them. What a
successful call does is what its rule says, and a call that does not succeed
changes nothing. -/
theorem calls_exact {nesting : Nesting} (reached : Reachable nesting) (allocator : Allocator)
    (direction : Direction) :
    let step := nesting.perform allocator direction
    (∀ kind count,
      (step (.push kind count)).outcome =
        (if kind.isCompound = false then .refused .misuse
        else if kind = .map ∧ UInt64.size ≤ 2 * count.toNat then .refused .sizeExceeded
        else if nesting.depth = nesting.capacity ∧ nesting.requested allocator = none then
          .refused .allocationFailure
        else .ok ()) ∧
      ((step (.push kind count)).outcome = .ok () → ∃ left : UInt64,
        left.toNat = (if kind = .map then 2 * count.toNat else count.toNat) ∧
          (step (.push kind count)).state.frames = ⟨kind, left⟩ :: nesting.frames)) ∧
    (∀ kind,
      ((step (.pop kind)).outcome = .ok () ↔ nesting.top? = some ⟨kind, 0⟩) ∧
      ((step (.pop kind)).outcome = .ok () →
        (step (.pop kind)).state.frames = nesting.frames.tail)) ∧
    (((step .element).outcome = .ok () ↔ ∃ top, nesting.top? = some top ∧
        (top.kind = .array ∨ top.kind = .map) ∧ 0 < top.left.toNat) ∧
      ((step .element).outcome = .ok () →
        Spends 1 nesting.frames (step .element).state.frames)) ∧
    (∀ count,
      ((step (.bytes count)).outcome = .ok () ↔ ∃ top, nesting.top? = some top ∧
        (top.kind = .str ∨ top.kind = .bin ∨ top.kind = .ext) ∧
          count.toNat ≤ top.left.toNat) ∧
      ((step (.bytes count)).outcome = .ok () →
        Spends count.toNat nesting.frames (step (.bytes count)).state.frames)) ∧
    (((step .checkEmpty).outcome = .ok () ↔ nesting.frames = []) ∧
      (step .checkEmpty).state = nesting) ∧
    ∀ call,
      (call.isPush = false → (step call).outcome ≠ .ok () →
        (step call).outcome = .refused .misuse) ∧
      ((step call).outcome ≠ .ok () → (step call).state = nesting) ∧
      ∀ other, (step call).outcome = (nesting.perform allocator other call).outcome ∧
        (step call).state = (nesting.perform allocator other call).state := by
  intro step
  have succeeds {call : Call} (noPush : call.isPush = false) :
      (step call).outcome = .ok () ↔ ∃ frames, Accepts nesting.frames call frames :=
    (outcome_of_not_push nesting allocator direction noPush).1
  refine ⟨?_, ?_, ⟨?_, ?_⟩, ?_, ⟨?_, ?_⟩, ?_⟩
  · intro kind count
    refine ⟨push_outcome reached.roomy allocator direction kind count, ?_⟩
    intro well
    exact (accepts_of_ok well).of_push
  · intro kind
    refine ⟨(succeeds rfl).trans (accepts_pop_iff _ kind), ?_⟩
    intro well
    exact (accepts_of_ok well).of_pop
  · exact (succeeds rfl).trans (accepts_element_iff reached.compounds)
  · intro well
    exact (accepts_of_ok well).of_element
  · intro count
    refine ⟨(succeeds rfl).trans (accepts_bytes_iff _ count), ?_⟩
    intro well
    exact (accepts_of_ok well).of_bytes
  · exact (succeeds rfl).trans (accepts_checkEmpty_iff _)
  · exact checkEmpty_state nesting allocator direction
  · intro call
    refine ⟨?_, state_of_not_ok, ?_⟩
    · intro noPush failed
      exact (outcome_of_not_push nesting allocator direction noPush).2.resolve_left failed
    · intro other
      exact perform_direction nesting allocator direction other call

/-- A string on a stack that is full with it: a map of too many pairs is out of
bounds before memory is asked for, an array is refused for lack of memory, an
element is misuse, and bytes go by up to the last one. -/
theorem full_string_answers :
    let stack : Nesting := ⟨[⟨.str, 3⟩], 1, 1⟩
    let step := stack.perform (.limited 1) .reading
    Reachable stack ∧
      (step (.push .map 9223372036854775808)).outcome = .refused .sizeExceeded ∧
      (step (.push .array 1)).outcome = .refused .allocationFailure ∧
      (step (.push .array 1)).state = stack ∧
      (step .element).outcome = .refused .misuse ∧
      Spends 3 stack.frames (step (.bytes 3)).state.frames := by
  intro stack step
  have reached : Reachable stack :=
    .turned (.fresh (@Fresh.withCapacity (.limited 1) 1 ⟨[], 1, 1⟩ rfl))
      ⟨.push .str 3, .reading, .limited 1⟩
  obtain ⟨opening, _, _, bytes, _, all⟩ := calls_exact reached (.limited 1) .reading
  have overflow : (step (.push .map 9223372036854775808)).outcome = .refused .sizeExceeded :=
    (opening .map 9223372036854775808).1.trans (by decide)
  have lacking : (step (.push .array 1)).outcome = .refused .allocationFailure :=
    (opening .array 1).1.trans (by decide)
  have unchanged : (step (.push .array 1)).state = stack :=
    (all (.push .array 1)).2.1 (by rw [lacking]; exact nofun)
  exact ⟨reached, overflow, lacking, unchanged, (all .element).1 rfl (by decide),
    (bytes 3).2 (by decide)⟩

end MessagePack.Nesting
