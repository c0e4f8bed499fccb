import MessagePack.Monitor
import MessagePack.Proofs.Nesting.Plain

/-!
# Room for open compounds

A stack is made with nothing open, on its own or for a monitor, and it may be
copied at any time. Every stack that comes about in this way has room for what
is open on it, and its initial capacity is not zero. The first is why a frame
always has its place before it is put there, and the second is why a full stack
never asks for the room that it has: it asks for as much again, and at least for
its initial capacity.

So a turn of such a stack has four cases. The call is a violation; it is carried
out in the room that is there; it opens a compound on a full stack that is
granted more room; or it would open one, but the request is refused.
-/

namespace MessagePack.Nesting

/-! ## Making room -/

/-- The open compounds have room, and the initial capacity is not zero. This is
the invariant of every stack that comes about. -/
structure Roomy (nesting : Nesting) : Prop where
  positive : 0 < nesting.initialCapacity
  fits : nesting.depth ≤ nesting.capacity

/-- The room that a full stack asks for: as much as it has once more, and no
less than its initial capacity beyond what is open. -/
def wanted (nesting : Nesting) : Nat :=
  nesting.depth + max nesting.capacity nesting.initialCapacity

/-- What an allocator answers to a full stack, which tells it the room that is
held and the room that is wanted. -/
def requested (allocator : Allocator) (nesting : Nesting) : Option Nat :=
  allocator.provide nesting.capacity nesting.wanted

/-- A stack that is not full has room for one more frame and is left as it is,
without a request. -/
theorem makeRoom_of_spare {nesting : Nesting} (spare : nesting.depth < nesting.capacity)
    (allocator : Allocator) : nesting.makeRoom allocator = .ok nesting :=
  if_neg (Nat.ne_of_lt spare)

/-- A full stack has room for one more frame exactly if its request is granted.
Its initial capacity is not zero, so it wants more than it has and the request
is really made. -/
theorem makeRoom_of_full {nesting : Nesting} (roomy : Roomy nesting)
    (full : nesting.depth = nesting.capacity) (allocator : Allocator) :
    nesting.makeRoom allocator =
      match nesting.requested allocator with
      | some capacity => .ok { nesting with capacity }
      | none => .error .allocation := by
  have positive := roomy.positive
  have lacking :
      ¬ nesting.depth + max nesting.capacity nesting.initialCapacity ≤ nesting.capacity := by
    omega
  rw [makeRoom, if_pos full, grow, reserve, if_neg lacking]
  rfl

/-- What is granted to a full stack is at least twice its room, and its initial
capacity more. -/
theorem requested_enough {nesting : Nesting} (full : nesting.depth = nesting.capacity)
    {allocator : Allocator} {granted : Nat} (answer : nesting.requested allocator = some granted) :
    2 * nesting.capacity ≤ granted ∧ nesting.capacity + nesting.initialCapacity ≤ granted := by
  have enough : nesting.depth + max nesting.capacity nesting.initialCapacity ≤ granted :=
    allocator.enough _ _ _ answer
  omega

/-- Wherever room was made there is room for one more frame, and the frames are
what they were. If the stack was full, its room has at least doubled and grown
by its initial capacity. -/
theorem makeRoom_ok {nesting prepared : Nesting} (roomy : Roomy nesting) {allocator : Allocator}
    (made : nesting.makeRoom allocator = .ok prepared) :
    prepared.frames = nesting.frames ∧ prepared.depth < prepared.capacity ∧
      (nesting.depth = nesting.capacity → 2 * nesting.capacity ≤ prepared.capacity ∧
        nesting.capacity + nesting.initialCapacity ≤ prepared.capacity) := by
  rcases Nat.lt_or_eq_of_le roomy.fits with spare | full
  · rw [makeRoom_of_spare spare] at made
    cases made
    exact ⟨rfl, spare, fun full => absurd full (Nat.ne_of_lt spare)⟩
  · rw [makeRoom_of_full roomy full] at made
    cases answer : nesting.requested allocator with
    | none =>
      rw [answer] at made
      cases made
    | some capacity =>
      rw [answer] at made
      cases made
      have enough := requested_enough full answer
      have positive := roomy.positive
      have below : nesting.depth < capacity := by omega
      exact ⟨rfl, below, fun _ => enough⟩

/-- What is opened is on top with all of its units, above the frames that were
there. -/
theorem Accepts.of_push {before after : List Frame} {kind : Kind} {count : UInt64}
    (fits : Accepts before (.push kind count) after) :
    ∃ left : UInt64, left.toNat = unitsOf kind count ∧ after = ⟨kind, left⟩ :: before := by
  cases fits with
  | push _ hasBody countable => exact ⟨_, ((units_iff kind count _).mp countable).2, rfl⟩

/-- A compound that is opened is put where room was made: the stack after the
opening is the one with the room, with a frame more. So no opening succeeds
before its room is there. -/
theorem push_eq_ok {nesting after : Nesting} {allocator : Allocator} {kind : Kind} {count : UInt64}
    (carried : nesting.push allocator kind count = .ok after) :
    ∃ (prepared : Nesting) (left : UInt64), nesting.makeRoom allocator = .ok prepared ∧
      after = { prepared with frames := ⟨kind, left⟩ :: nesting.frames } := by
  have tried : nesting.attempt allocator .reading (.push kind count) = .ok after := carried
  rw [attempt_eq_plain] at tried
  cases fits : attemptPlain .reading nesting.frames (.push kind count) with
  | error violation =>
    rw [fits] at tried
    cases tried
  | ok frames =>
    rw [fits] at tried
    cases made : nesting.makeRoom allocator with
    | error refusal =>
      rw [made] at tried
      cases tried
    | ok prepared =>
      rw [made] at tried
      cases tried
      obtain ⟨left, _, rfl⟩ := (attemptPlain_eq_ok_iff.mp fits).of_push
      exact ⟨prepared, left, rfl, rfl⟩

/-- A compound that is opened is one more open compound. -/
theorem Accepts.length_of_push {before after : List Frame} {call : Call}
    (fits : Accepts before call after) (opening : call.isPush = true) :
    after.length = before.length + 1 := by
  cases fits with
  | push _ hasBody countable => rfl
  | _ => cases opening

/-- No other call leaves more compounds open than there were. -/
theorem Accepts.length_le {before after : List Frame} {call : Call}
    (fits : Accepts before call after) (noPush : call.isPush = false) :
    after.length ≤ before.length := by
  cases fits with
  | push _ hasBody countable => cases noPush
  | pop kind outer => exact Nat.le_succ _
  | _ => exact Nat.le_refl _

/-- All that a call can do on a stack that has room for what is open: it is a
violation, or it is carried out in the room that is there, or it opens a
compound on a full stack, whose request for room is granted or refused.

Proof: a call is the same call on the plain list, with room made for what is
opened. A stack with room for what is open has room to spare or is full, and in
either case it is known what making room does. -/
theorem perform_cases {nesting : Nesting} (roomy : Roomy nesting) (allocator : Allocator)
    (direction : Direction) (call : Call) :
    (∃ violation, attemptPlain direction nesting.frames call = .error violation ∧
      nesting.perform allocator direction call =
        ⟨nesting, .refused violation.fault, [.nesting violation]⟩) ∨
    ∃ frames, attemptPlain direction nesting.frames call = .ok frames ∧
      ((call.isPush = true → nesting.depth < nesting.capacity) ∧
        nesting.perform allocator direction call = ⟨{ nesting with frames }, .ok (), []⟩ ∨
      call.isPush = true ∧ nesting.depth = nesting.capacity ∧
        ((∃ capacity, nesting.requested allocator = some capacity ∧
          nesting.perform allocator direction call =
            ⟨{ nesting with frames, capacity }, .ok (), []⟩) ∨
        nesting.requested allocator = none ∧
          nesting.perform allocator direction call =
            ⟨nesting, .refused .allocationFailure, []⟩)) := by
  rw [perform, attempt_eq_plain]
  cases attemptPlain direction nesting.frames call with
  | error violation => exact .inl ⟨violation, rfl, rfl⟩
  | ok frames =>
    refine .inr ⟨frames, rfl, ?_⟩
    cases opening : call.isPush with
    | false => exact .inl ⟨fun opened => absurd opened Bool.false_ne_true, rfl⟩
    | true =>
      rcases Nat.lt_or_eq_of_le roomy.fits with spare | full
      · rw [makeRoom_of_spare spare]
        exact .inl ⟨fun _ => spare, rfl⟩
      · rw [makeRoom_of_full roomy full]
        refine .inr ⟨rfl, full, ?_⟩
        cases nesting.requested allocator with
        | some capacity => exact .inl ⟨capacity, rfl, rfl⟩
        | none => exact .inr ⟨rfl, rfl⟩

/-- Where there is room to spare no call is refused for lack of memory, whatever
the allocator would answer, since a request is only made by a full stack. -/
theorem not_lacking_of_spare {nesting : Nesting} (roomy : Roomy nesting)
    (spare : nesting.depth < nesting.capacity) (allocator : Allocator) (direction : Direction)
    (call : Call) :
    (nesting.perform allocator direction call).outcome ≠ .refused .allocationFailure := by
  rcases perform_cases roomy allocator direction call with
    ⟨violation, _, step⟩ | ⟨_, _, ⟨_, step⟩ | ⟨_, full, _⟩⟩
  · rw [step]
    intro lacking
    exact violation.fault_ne_allocationFailure (Outcome.refused.inj lacking)
  · rw [step]
    exact nofun
  · exact absurd full (Nat.ne_of_lt spare)

/-! ## Stacks that come about -/

/-- A stack that is made with a capacity has nothing open and room for as many
frames as it was made for. Its initial capacity is the same number, but not
zero. -/
theorem withCapacity_ok {allocator : Allocator} {capacity : Nat} {nesting : Nesting}
    (granted : withCapacity allocator capacity = .ok nesting) :
    nesting.frames = [] ∧ capacity ≤ nesting.capacity ∧
      nesting.initialCapacity = max capacity 1 := by
  rw [withCapacity, reserve] at granted
  split at granted
  · next none =>
    cases granted
    exact ⟨rfl, Nat.le_trans (Nat.le_add_left _ _) none, rfl⟩
  · split at granted
    · next room answer =>
      cases granted
      exact ⟨rfl, Nat.le_trans (Nat.le_add_left _ _) (allocator.enough _ _ _ answer), rfl⟩
    · cases granted

/-- A stack as it is made: the empty one, one that was granted a capacity, or
the one of a monitor with any settings. -/
inductive Fresh : Nesting → Prop where
  | empty : Fresh .empty
  | withCapacity {allocator : Allocator} {capacity : Nat} {nesting : Nesting}
      (granted : withCapacity allocator capacity = .ok nesting) : Fresh nesting
  | monitored (direction : Direction) (settings : Settings) :
      Fresh (Monitor.ofSettings direction settings).nesting

/-- A stack that comes about from a fresh one by copies and turns, in any order.
Of the room in a copy nothing is assumed but that it is enough for what is open,
so that a copy may have more or less of it than the original. -/
inductive Reachable : Nesting → Prop where
  | fresh {nesting : Nesting} (made : Fresh nesting) : Reachable nesting
  | copied {nesting : Nesting} (reached : Reachable nesting) {capacity : Nat}
      (enough : nesting.depth ≤ capacity) : Reachable { nesting with capacity }
  | turned {nesting : Nesting} (reached : Reachable nesting) (turn : Turn) :
      Reachable (machine.next (machine.react nesting turn))

/-- A run of a stack that comes about ends with one, by induction on the run. -/
theorem Reachable.after {nesting : Nesting} (reached : Reachable nesting) (turns : List Turn) :
    Reachable (machine.after nesting turns) :=
  machine.after_keeps Reachable (fun _ turn reached => reached.turned turn) reached turns

/-- A stack is made with nothing open and an initial capacity that is not zero.
A capacity of zero is asked for as one. -/
theorem Fresh.made {nesting : Nesting} (fresh : Fresh nesting) :
    nesting.frames = [] ∧ 0 < nesting.initialCapacity := by
  cases fresh with
  | empty => exact ⟨rfl, by decide⟩
  | monitored direction settings =>
    exact ⟨rfl, Nat.lt_of_lt_of_le Nat.one_pos (Nat.le_max_right _ _)⟩
  | withCapacity granted =>
    obtain ⟨closed, _, initial⟩ := withCapacity_ok granted
    rw [initial]
    exact ⟨closed, Nat.lt_of_lt_of_le Nat.one_pos (Nat.le_max_right _ _)⟩

/-- A stack as it is made has room for the nothing that is open. -/
theorem Fresh.roomy {nesting : Nesting} (fresh : Fresh nesting) : Roomy nesting := by
  obtain ⟨closed, positive⟩ := fresh.made
  exact ⟨positive, by simp [depth, closed]⟩

/-- Every call keeps room for what is open.

Proof: by the four cases of a call. A violation and a refused request change
nothing. What is carried out in the room that is there opens a compound only if
there is room to spare, and what a full stack is granted is at least one frame
more than it had. -/
theorem Roomy.perform {nesting : Nesting} (roomy : Roomy nesting) (allocator : Allocator)
    (direction : Direction) (call : Call) :
    Roomy (nesting.perform allocator direction call).state := by
  rcases perform_cases roomy allocator direction call with
    ⟨_, _, step⟩ | ⟨frames, fits, ⟨spare, step⟩ |
      ⟨opening, full, ⟨capacity, answer, step⟩ | ⟨_, step⟩⟩⟩
  · rw [step]
    exact roomy
  · rw [step]
    refine ⟨roomy.positive, ?_⟩
    have accepted := attemptPlain_eq_ok_iff.mp fits
    show frames.length ≤ nesting.capacity
    cases opening : call.isPush with
    | true =>
      rw [accepted.length_of_push opening]
      exact spare opening
    | false => exact Nat.le_trans (accepted.length_le opening) roomy.fits
  · rw [step]
    refine ⟨roomy.positive, ?_⟩
    have height := (attemptPlain_eq_ok_iff.mp fits).length_of_push opening
    have enough := (requested_enough full answer).2
    have positive := roomy.positive
    show frames.length ≤ capacity
    unfold depth at full
    omega
  · rw [step]
    exact roomy

/-- A stack that comes about has room for what is open, and its initial capacity
is not zero. This holds when it is made, a copy has enough room by definition,
and every call keeps it. -/
theorem Reachable.roomy {nesting : Nesting} (reached : Reachable nesting) : Roomy nesting := by
  induction reached with
  | fresh made => exact made.roomy
  | copied _ enough roomy => exact ⟨roomy.positive, enough⟩
  | turned _ turn roomy => exact roomy.perform turn.allocator turn.direction turn.call

/-- Only compounds are open on a stack that comes about, since a call that fits
puts only compounds on it. -/
theorem Reachable.compounds {nesting : Nesting} (reached : Reachable nesting) :
    ∀ frame ∈ nesting.frames, frame.kind.isCompound = true := by
  induction reached with
  | fresh made => simp [made.made.1]
  | copied _ _ compounds => exact compounds
  | @turned nesting _ turn compounds =>
    rcases react_cases nesting turn with ⟨after, reaction, fits⟩ | ⟨refusal, reaction⟩
    · rw [reaction]
      exact fits.compounds compounds
    · rw [reaction]
      exact compounds

end MessagePack.Nesting
