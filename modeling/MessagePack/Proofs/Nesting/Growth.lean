import MessagePack.Proofs.Nesting.Room

/-!
# How a stack grows

A stack grows where a compound is opened while all of its room is taken. Its
room changes at no other time, and it never shrinks. Each time it at least
doubles, so the room that a stack has before it grows once more, and with it the
depth that makes it grow, is doubled by every growth but the first from nothing.
A run therefore grows a stack at most twice and once for each doubling of one
within the greatest depth of the run.

Since the room never shrinks, an opening at a depth that was exceeded before
needs no memory.
-/

namespace MessagePack.Nesting

/-- The stack grew at a moment of a run: a compound was opened while all room
was taken. -/
def grew (moment : Moment Nesting Turn (Step Nesting Unit)) : Bool :=
  moment.input.call.isPush && moment.reaction.outcome.isOk &&
    moment.before.depth == moment.before.capacity

/-- The number of times that a stack grows in a run. -/
def growths (nesting : Nesting) (turns : List Turn) : Nat :=
  (machine.moments nesting turns).countP grew

/-- The greatest depth in a run, the start and the end included. -/
def peak : Nesting → List Turn → Nat
  | nesting, [] => nesting.depth
  | nesting, turn :: turns =>
    max nesting.depth (peak (machine.next (machine.react nesting turn)) turns)

/-! ## One turn -/

/-- What a turn does to the room of a stack: nothing, or it grew by what was
granted to it and one more compound is open than there was room for. The initial
capacity stays the same.

Proof: by the four cases of a call on a stack that has room for what is open.
Only the opening whose request is granted changes the room, and only that one
counts as a growth. -/
theorem room_cases {nesting : Nesting} (roomy : Roomy nesting) (turn : Turn) :
    let step := machine.react nesting turn
    step.state.initialCapacity = nesting.initialCapacity ∧
      (grew ⟨nesting, turn, step⟩ = false ∧ step.state.capacity = nesting.capacity ∨
        grew ⟨nesting, turn, step⟩ = true ∧ step.state.depth = nesting.capacity + 1 ∧
          nesting.depth = nesting.capacity ∧
          nesting.requested turn.allocator = some step.state.capacity) := by
  intro step
  rcases perform_cases roomy turn.allocator turn.direction turn.call with
    ⟨violation, _, done⟩ | ⟨frames, fits, ⟨spare, done⟩ |
      ⟨opening, full, ⟨capacity, answer, done⟩ | ⟨_, done⟩⟩⟩
  · have made : step = ⟨nesting, .refused violation.fault, [.nesting violation]⟩ := done
    exact ⟨by rw [made], .inl ⟨by simp [grew, made, Outcome.isOk], by rw [made]⟩⟩
  · have made : step = ⟨{ nesting with frames }, .ok (), []⟩ := done
    have inRoom : grew ⟨nesting, turn, step⟩ = false := by
      cases opening : turn.call.isPush with
      | false => simp [grew, opening]
      | true => simp [grew, Nat.ne_of_lt (spare opening)]
    exact ⟨by rw [made], .inl ⟨inRoom, by rw [made]⟩⟩
  · have made : step = ⟨{ nesting with frames, capacity }, .ok (), []⟩ := done
    have one : frames.length = nesting.depth + 1 :=
      (attemptPlain_eq_ok_iff.mp fits).length_of_push opening
    have grown : grew ⟨nesting, turn, step⟩ = true := by
      simp [grew, made, opening, full, Outcome.isOk]
    refine ⟨by rw [made], .inr ⟨grown, ?_, full, by rw [made]; exact answer⟩⟩
    rw [made, ← full]
    exact one
  · have made : step = ⟨nesting, .refused .allocationFailure, []⟩ := done
    exact ⟨by rw [made], .inl ⟨by simp [grew, made, Outcome.isOk], by rw [made]⟩⟩

/-- A turn never takes room away: what is granted to a full stack is more than
it has. -/
theorem capacity_le_react {nesting : Nesting} (roomy : Roomy nesting) (turn : Turn) :
    nesting.capacity ≤ (machine.react nesting turn).state.capacity := by
  obtain ⟨_, ⟨_, same⟩ | ⟨_, _, full, answer⟩⟩ := room_cases roomy turn
  · exact Nat.le_of_eq same.symm
  · have enough := (requested_enough full answer).2
    omega

/-! ## A run -/

/-- No run is less deep than its start. -/
theorem depth_le_peak (nesting : Nesting) (turns : List Turn) :
    nesting.depth ≤ peak nesting turns := by
  cases turns with
  | nil => exact Nat.le_refl _
  | cons turn turns => exact Nat.le_max_left _ _

/-- No run is less deep than what follows its first turn. -/
theorem peak_le_peak_cons (nesting : Nesting) (turn : Turn) (turns : List Turn) :
    peak (machine.react nesting turn).state turns ≤ peak nesting (turn :: turns) :=
  Nat.le_max_right _ _

/-- A run never takes room away, by induction on its turns. -/
theorem capacity_le_after {nesting : Nesting} (roomy : Roomy nesting) (turns : List Turn) :
    nesting.capacity ≤ (machine.after nesting turns).capacity := by
  induction turns generalizing nesting with
  | nil => exact Nat.le_refl _
  | cons turn turns inductionHypothesis =>
    have later := inductionHypothesis (roomy.perform turn.allocator turn.direction turn.call)
    exact Nat.le_trans (capacity_le_react roomy turn) later

/-- The room after a run is enough for all that was open at any time in it. What
is open at the start has room then, and no turn takes that away. -/
theorem peak_le_capacity {nesting : Nesting} (roomy : Roomy nesting) (turns : List Turn) :
    peak nesting turns ≤ (machine.after nesting turns).capacity := by
  induction turns generalizing nesting with
  | nil => exact roomy.fits
  | cons turn turns inductionHypothesis =>
    have later := inductionHypothesis (roomy.perform turn.allocator turn.direction turn.call)
    have first := Nat.le_trans roomy.fits (capacity_le_after roomy (turn :: turns))
    exact Nat.max_le.mpr ⟨first, later⟩

/-- A stack that is made with a capacity lacks no memory while fewer frames are
open, whatever it went through before. It was given the room when it was made,
and no run takes room away. -/
theorem not_lacking_of_withCapacity {allocator : Allocator} {capacity : Nat} {nesting : Nesting}
    (granted : withCapacity allocator capacity = .ok nesting) (turns : List Turn)
    (shallow : (machine.after nesting turns).depth < capacity) (turn : Turn) :
    ¬ (machine.react (machine.after nesting turns) turn).LacksMemory := by
  have reachable : Reachable nesting := .fresh (.withCapacity granted)
  have spare : (machine.after nesting turns).depth < (machine.after nesting turns).capacity :=
    calc (machine.after nesting turns).depth < capacity := shallow
      _ ≤ nesting.capacity := (withCapacity_ok granted).2.1
      _ ≤ (machine.after nesting turns).capacity := capacity_le_after reachable.roomy turns
  exact not_lacking_of_spare (reachable.after turns).roomy spare turn.allocator turn.direction
    turn.call

/-- A run grows a stack as often as what follows its first turn does, and once
more if it grew in that. -/
theorem growths_cons (nesting : Nesting) (turn : Turn) (turns : List Turn) :
    growths nesting (turn :: turns) = growths (machine.react nesting turn).state turns +
      if grew ⟨nesting, turn, machine.react nesting turn⟩ then 1 else 0 :=
  List.countP_cons

/-- The room that a stack starts with is doubled by all growths but the last,
which is made when all of that is taken.

Proof: by induction on the run. A turn without a growth leaves the room and the
count as they are. At a growth that is the last one, the depth exceeds the room
that was there; at any other the room that is granted is at least twice as much,
and the hypothesis holds for that with one growth less. -/
theorem doubled_lt_peak {nesting : Nesting} (roomy : Roomy nesting) {turns : List Turn}
    {count : Nat} (grown : growths nesting turns = count + 1) :
    nesting.capacity * Nat.pow 2 count < peak nesting turns := by
  induction turns generalizing nesting count with
  | nil => cases grown
  | cons turn turns inductionHypothesis =>
    have next := roomy.perform turn.allocator turn.direction turn.call
    have higher := peak_le_peak_cons nesting turn turns
    rw [growths_cons] at grown
    obtain ⟨_, ⟨still, same⟩ | ⟨now, above, full, answer⟩⟩ := room_cases roomy turn
    · simp only [still, Bool.false_eq_true, if_false, Nat.add_zero] at grown
      have doubled := inductionHypothesis next grown
      rw [show (nesting.perform turn.allocator turn.direction turn.call).state.capacity =
        nesting.capacity from same] at doubled
      exact Nat.lt_of_lt_of_le doubled higher
    · simp only [now, if_true, Nat.add_right_cancel_iff] at grown
      cases count with
      | zero =>
        have reached := depth_le_peak (machine.react nesting turn).state turns
        rw [above] at reached
        exact Nat.lt_of_lt_of_le (by simpa using Nat.lt_of_succ_le reached) higher
      | succ count =>
        have doubled := inductionHypothesis next grown
        have twice := (requested_enough full answer).1
        calc nesting.capacity * Nat.pow 2 (count + 1)
            = 2 * nesting.capacity * Nat.pow 2 count := by
              rw [Nat.pow_eq, Nat.pow_eq, Nat.pow_succ]
              ac_rfl
          _ ≤ (machine.react nesting turn).state.capacity * Nat.pow 2 count :=
              Nat.mul_le_mul_right _ twice
          _ < peak (machine.react nesting turn).state turns := doubled
          _ ≤ peak nesting (turn :: turns) := higher

/-- Even from no room at all, all growths but the first and the last double.

Proof: by induction on the run up to its first growth. After that there is room
for at least one frame, because the initial capacity is not zero, and each
growth but the last doubles it. -/
theorem pow_lt_peak {nesting : Nesting} (roomy : Roomy nesting) {turns : List Turn}
    {count : Nat} (grown : growths nesting turns = count + 2) :
    Nat.pow 2 count < peak nesting turns := by
  induction turns generalizing nesting with
  | nil => cases grown
  | cons turn turns inductionHypothesis =>
    have next := roomy.perform turn.allocator turn.direction turn.call
    have higher := peak_le_peak_cons nesting turn turns
    rw [growths_cons] at grown
    obtain ⟨_, ⟨still, _⟩ | ⟨now, _, full, answer⟩⟩ := room_cases roomy turn
    · simp only [still, Bool.false_eq_true, if_false, Nat.add_zero] at grown
      exact Nat.lt_of_lt_of_le (inductionHypothesis next grown) higher
    · simp only [now, if_true, Nat.add_right_cancel_iff] at grown
      have doubled := doubled_lt_peak next grown
      have positive := roomy.positive
      have enough := (requested_enough full answer).2
      have some : 0 < (machine.react nesting turn).state.capacity := by omega
      calc Nat.pow 2 count ≤ (machine.react nesting turn).state.capacity * Nat.pow 2 count :=
            Nat.le_mul_of_pos_left _ some
        _ < peak (machine.react nesting turn).state turns := doubled
        _ ≤ peak nesting (turn :: turns) := higher

/-- A run grows a stack at most twice and once for each doubling of one within
its peak.

Proof: if there are two growths or more, all but two of them double, so two to
their number is below the peak; the number is therefore at most the logarithm of
the peak. -/
theorem growths_le {nesting : Nesting} (roomy : Roomy nesting) (turns : List Turn) :
    growths nesting turns ≤ 2 + Nat.log2 (peak nesting turns) := by
  match grown : growths nesting turns with
  | 0 | 1 => omega
  | count + 2 =>
    have below := pow_lt_peak roomy grown
    have nonzero : peak nesting turns ≠ 0 := Nat.ne_of_gt (Nat.zero_lt_of_lt below)
    have doublings : count ≤ Nat.log2 (peak nesting turns) :=
      (Nat.le_log2 nonzero).mpr (Nat.le_of_lt below)
    omega

end MessagePack.Nesting
