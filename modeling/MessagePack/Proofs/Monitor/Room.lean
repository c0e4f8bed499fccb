import MessagePack.Proofs.Monitor.Refinement
import MessagePack.Proofs.Nesting.Growth

/-!
# Room is reserved before it is used

A frame is put on a stack only where there is room for it, and room is had only
by a request that may be refused. This holds of every stack that comes about,
however it was made or copied and whatever initial capacity was given for it,
zero included. The stack of a monitor is no exception: what reaches it is a run
of a bare stack.

How much is asked for keeps requests rare. A stack that grows at least doubles,
so the number of times that it grows is logarithmic in its greatest depth, and
memory that a stack has once had it never has to ask for again.
-/

namespace MessagePack.Monitor

variable {α : Type}

/-! ## The stack of a monitor -/

/-- The call of a turn that reaches the stack of a monitor: one that is made
while no fault is kept, if the direction is tracked. Any other turn leaves the
stack alone. -/
def reaching? (monitor : Monitor) (turn : Turn α) : Option Nesting.Turn :=
  if monitor.fault? = none ∧ monitor.enabled = true then turn.onStack monitor.direction else none

/-- The calls of a run that reach the stack of a monitor, in order. -/
def reaching (monitor : Monitor) (turns : List (Turn α)) : List Nesting.Turn :=
  (machine.moments monitor turns).filterMap fun moment => reaching? moment.before moment.input

/-- A turn of a monitor does to its stack what the call does that reaches it, if
there is one. Whether the call is refused does not matter, as a bare stack goes
on after refusals too. -/
theorem take_nesting (monitor : Monitor) (turn : Turn α) :
    (monitor.take turn).1.state.nesting =
      Nesting.machine.after monitor.nesting (reaching? monitor turn).toList := by
  rcases take_cases monitor turn with ⟨call, deed, taken⟩ | ⟨owner, latch, state, _⟩
  · rw [taken, Step.replace_state]
    rcases perform_cases monitor turn.allocator call with
      ⟨kept, held, step⟩ | ⟨clear, untracked, step⟩ |
        ⟨clear, tracked, ⟨nesting, carried, step⟩ | ⟨refusal, refused, step⟩⟩
    · simp [step, reaching?, held]
    · simp [step, reaching?, untracked]
    · simp [step, reaching?, clear, tracked, Turn.onStack, deed, Nesting.machine, Nesting.perform,
        carried, Nesting.settle]
    · simp [step, reaching?, clear, tracked, Turn.onStack, deed, Nesting.machine, Nesting.perform,
        refused, Nesting.settle, keeping, withLatch]
  · have silent : turn.onStack monitor.direction = none := Turn.onStack_eq_none owner
    rw [state]
    simp [reaching?, silent, withLatch]

/-- The stack of a monitor goes through a run of a bare stack on the calls that
reach it.

Proof: by induction on the turns. The first turn does to the stack what the call
does that reaches it, and a bare run over two stretches of calls ends where the
second ends from the end of the first. -/
theorem after_reaching (monitor : Monitor) (turns : List (Turn α)) :
    (machine.after monitor turns).nesting =
      Nesting.machine.after monitor.nesting (reaching monitor turns) := by
  induction turns generalizing monitor with
  | nil => rfl
  | cons turn turns inductionHypothesis =>
    have first := take_nesting monitor turn
    have rest := inductionHypothesis (monitor.take turn).1.state
    have split : reaching monitor (turn :: turns) =
        (reaching? monitor turn).toList ++ reaching (monitor.take turn).1.state turns := by
      rw [reaching, Machine.moments_cons, List.filterMap_cons]
      cases reaching? monitor turn <;> rfl
    rw [first] at rest
    rw [split, Machine.after_append]
    exact rest

/-! ## Room for all that is opened -/

/-- On every stack that comes about, the initial capacity is not zero and there
is room for what is open. A compound is put on it only after room was made,
where there is room for one more. No turn takes room away. The room changes only
where the stack grows, to what its request was granted, which is at least twice
the room and the initial capacity more. Where the depth was exceeded before in a
run, no opening is refused for lack of memory.

A run from a stack as it is made grows it at most twice and once for each
doubling of one within the greatest depth. And all of this is true of the stack
of a monitor, which is made as others are, and whose run is that of a bare stack
on the calls that reach it.

Proof: a stack that comes about has room for what is open and an initial
capacity that is not zero, as every call keeps both. So an opening is put where
room was made, and a full stack is granted at least twice its room. No turn
takes room away, hence room that was once enough stays enough. The bound on
growths is that of `Nesting.growths_le`. A monitor's stack goes through a run of
a bare one and therefore comes about as well. -/
theorem room_reserved_first :
    (∀ {nesting : Nesting}, Nesting.Reachable nesting →
      0 < nesting.initialCapacity ∧ nesting.depth ≤ nesting.capacity ∧
      (∀ allocator kind count after, nesting.push allocator kind count = .ok after →
        ∃ (prepared : Nesting) (left : UInt64), nesting.makeRoom allocator = .ok prepared ∧
          prepared.frames = nesting.frames ∧ prepared.depth < prepared.capacity ∧
          after = { prepared with frames := ⟨kind, left⟩ :: prepared.frames }) ∧
      (∀ turn,
        let step := Nesting.machine.react nesting turn
        nesting.capacity ≤ step.state.capacity ∧
        (Nesting.grew ⟨nesting, turn, step⟩ = true ↔ step.state.capacity ≠ nesting.capacity) ∧
        (Nesting.grew ⟨nesting, turn, step⟩ = true →
          nesting.requested turn.allocator = some step.state.capacity ∧
            2 * nesting.capacity ≤ step.state.capacity ∧
            nesting.capacity + nesting.initialCapacity ≤ step.state.capacity)) ∧
      ∀ turns,
        let reached := Nesting.machine.after nesting turns
        reached.depth < Nesting.peak nesting turns → ∀ allocator direction kind count,
          (reached.perform allocator direction (.push kind count)).outcome ≠
            .refused .allocationFailure) ∧
    (∀ {nesting : Nesting}, Nesting.Fresh nesting → ∀ turns,
      Nesting.growths nesting turns ≤ 2 + Nat.log2 (Nesting.peak nesting turns)) ∧
    ∀ (monitor : Monitor) (turns : List (Turn α)),
      (machine.after monitor turns).nesting =
        Nesting.machine.after monitor.nesting (reaching monitor turns) ∧
      (Nesting.Reachable monitor.nesting →
        Nesting.Reachable (machine.after monitor turns).nesting) := by
  refine ⟨?_, fun made turns => Nesting.growths_le made.roomy turns, ?_⟩
  · intro nesting reached
    have roomy := reached.roomy
    refine ⟨roomy.positive, roomy.fits, ?_, ?_, ?_⟩
    · intro allocator kind count after carried
      obtain ⟨prepared, left, made, rfl⟩ := Nesting.push_eq_ok carried
      obtain ⟨same, spare, _⟩ := Nesting.makeRoom_ok roomy made
      exact ⟨prepared, left, made, same, spare, by rw [same]⟩
    · intro turn step
      refine ⟨Nesting.capacity_le_react roomy turn, ?_⟩
      obtain ⟨_, ⟨still, same⟩ | ⟨grown, _, full, answer⟩⟩ := Nesting.room_cases roomy turn
      · have unmoved : ¬ Nesting.grew ⟨nesting, turn, step⟩ = true := Bool.eq_false_iff.mp still
        exact ⟨iff_of_false unmoved (absurd same), fun grown => absurd grown unmoved⟩
      · have enough : 2 * nesting.capacity ≤ step.state.capacity ∧
            nesting.capacity + nesting.initialCapacity ≤ step.state.capacity :=
          Nesting.requested_enough full answer
        have positive := roomy.positive
        have changed : step.state.capacity ≠ nesting.capacity := by omega
        exact ⟨iff_of_true grown changed, fun _ => ⟨answer, enough⟩⟩
    · intro turns later shallower allocator direction kind count
      have spare : later.depth < later.capacity :=
        Nat.lt_of_lt_of_le shallower (Nesting.peak_le_capacity roomy turns)
      exact Nesting.not_lacking_of_spare (reached.after turns).roomy spare allocator direction _
  · intro monitor turns
    have same := after_reaching monitor turns
    refine ⟨same, ?_⟩
    intro reached
    rw [same]
    exact reached.after _

/-- A stack that is made with no room grows as often as the bound allows for
five arrays within one another. When one is closed, a map is opened in its place
without any memory. -/
theorem five_deep_from_nothing :
    let opening : Nesting.Turn := ⟨.push .array 0, .writing, .unlimited⟩
    let turns := List.replicate 5 opening ++ [⟨.pop .array, .writing, .limited 0⟩]
    let stack : Nesting := ⟨[], 0, 1⟩
    let reached := Nesting.machine.after stack turns
    Nesting.Fresh stack ∧ Nesting.growths stack turns = 4 ∧
      2 + Nat.log2 (Nesting.peak stack turns) = 4 ∧ Nesting.growths stack turns ≤ 4 ∧
      reached.depth = 4 ∧ reached.capacity = 8 ∧
      (reached.perform (.limited 0) .writing (.push .map 1)).outcome ≠
        .refused .allocationFailure := by
  intro opening turns stack reached
  have fresh : Nesting.Fresh stack := @Nesting.Fresh.withCapacity (.limited 0) 0 stack rfl
  obtain ⟨every, bounded, _⟩ := @room_reserved_first Unit
  have bound : 2 + Nat.log2 (Nesting.peak stack turns) = 4 := by decide
  obtain ⟨_, _, _, _, again⟩ := every (.fresh fresh)
  exact ⟨fresh, by decide, bound, bound ▸ bounded fresh turns, by decide, by decide,
    again turns (by decide) (.limited 0) .writing .map 1⟩

end MessagePack.Monitor
