import MessagePack.Proofs.Monitor.Turn

/-!
# A monitor is a stack with a sticky fault

A monitor that tracks its direction and keeps no fault behaves as a bare stack
that took the same calls: its stack is that stack, and the next call succeeds or
is refused as the stack says. The fault of a refusal stays in the latch. From
the first fault on, whoever delivered it, every call is refused with it and
nothing changes any more. A monitor that does not track its direction never
opens a compound; its calls succeed until its owner delivers a fault.
-/

namespace MessagePack.Monitor

variable {α : Type}

/-- The call that a turn makes on the stack, if it makes one, as a turn of a
bare stack. It brings the direction of the monitor along, since a bare stack has
none. -/
def Turn.onStack (direction : Direction) (turn : Turn α) : Option Nesting.Turn :=
  match turn.deed with
  | .act (.track call) => some ⟨call, direction, turn.allocator⟩
  | _ => none

/-- A turn in which the owner does something with the latch makes no call on the
stack. -/
theorem Turn.onStack_eq_none {direction : Direction} {turn : Turn α}
    (owner : ∀ call, turn.deed ≠ .act (.track call)) : turn.onStack direction = none := by
  unfold Turn.onStack
  split
  · rename_i call deed
    exact absurd deed (owner call)
  · rfl

/-- The bare stack after the calls that some turns make on it. What the owner
does in other turns leaves no trace here. -/
def bareAfter (direction : Direction) (nesting : Nesting) (turns : List (Turn α)) : Nesting :=
  Nesting.machine.after nesting (turns.filterMap (Turn.onStack direction))

/-- While no fault is kept, a turn of a tracked monitor does to the stack what
it does to a bare one. That none is kept is asked of the state behind the turn:
a turn that leaves the latch clear was not refused by the stack. -/
theorem take_follows {monitor : Monitor} (turn : Turn α) (tracked : monitor.enabled = true)
    (clear : (monitor.take turn).1.state.fault? = none) :
    (monitor.take turn).1.state.nesting = bareAfter monitor.direction monitor.nesting [turn] := by
  rcases take_cases monitor turn with ⟨call, deed, taken⟩ | ⟨owner, latch, state, _⟩
  · rw [taken] at clear ⊢
    rcases perform_cases monitor turn.allocator call with
      ⟨kept, held, step⟩ | ⟨_, untracked, _⟩ | ⟨_, _, ⟨nesting, carried, step⟩ | ⟨refusal, _, step⟩⟩
    · simp [step, held] at clear
    · rw [tracked] at untracked
      cases untracked
    · simp [step, bareAfter, Turn.onStack, deed, Nesting.machine, Nesting.perform, carried,
        Nesting.settle]
    · simp [step, keeping, withLatch, fault?] at clear
  · have silent : turn.onStack monitor.direction = none := Turn.onStack_eq_none owner
    rw [state]
    simp [bareAfter, silent, withLatch]

/-- While no fault is kept, the stack of a tracked monitor is a bare stack that
took the same calls.

Proof: by induction on the turns. As the monitor is clear at the end it was so
throughout, and its switches are the ones it was made with. So the first turn
does to the stack what it does to a bare one, and the rest of the run starts
from there on both sides. -/
theorem after_follows {monitor : Monitor} {turns : List (Turn α)}
    (tracked : monitor.enabled = true) (clear : (machine.after monitor turns).fault? = none) :
    (machine.after monitor turns).nesting =
      bareAfter monitor.direction monitor.nesting turns := by
  induction turns generalizing monitor with
  | nil => rfl
  | cons turn turns inductionHypothesis =>
    rw [Machine.after_cons] at clear ⊢
    obtain ⟨direction, enabled, _⟩ := take_switches monitor turn
    have first : (monitor.take turn).1.state.nesting =
        bareAfter monitor.direction monitor.nesting [turn] :=
      take_follows turn tracked (clear_of_after_clear clear)
    have rest := inductionHypothesis (enabled.trans tracked) clear
    have joined : bareAfter monitor.direction monitor.nesting (turn :: turns) =
        bareAfter monitor.direction (bareAfter monitor.direction monitor.nesting [turn]) turns := by
      rw [bareAfter, bareAfter, bareAfter, ← Machine.after_append, ← List.filterMap_append,
        List.singleton_append]
    rw [direction, first] at rest
    rw [joined]
    exact rest

/-- A monitor that does not track its direction leaves its stack alone. Whatever
fault comes up, the stack has nothing to do with it. -/
theorem after_untracked {monitor : Monitor} (untracked : monitor.enabled = false)
    (turns : List (Turn α)) : (machine.after monitor turns).nesting = monitor.nesting := by
  have kept (reached : Monitor) (turn : Turn α) (disabled : reached.enabled = false) :
      (reached.take turn).1.state.nesting = reached.nesting := by
    rcases take_cases reached turn with ⟨call, _, taken⟩ | ⟨_, latch, state, _⟩
    · rw [taken]
      rcases perform_cases reached turn.allocator call with
        ⟨_, _, step⟩ | ⟨_, _, step⟩ | ⟨_, enabled, _⟩
      · rw [step, Step.replace_state]
      · rw [step, Step.replace_state]
      · rw [disabled] at enabled
        cases enabled
    · rw [state, withLatch]
  refine (machine.after_keeps (fun reached =>
    reached.enabled = false ∧ reached.nesting = monitor.nesting) ?_ ⟨untracked, rfl⟩ turns).2
  rintro reached turn ⟨disabled, same⟩
  exact ⟨(take_switches reached turn).2.1.trans disabled, (kept reached turn disabled).trans same⟩

/-- A monitored call beside the same call on a bare stack: it leaves the same
stack, it succeeds if the bare one does, and the fault of a bare refusal is kept
and is the outcome. Only where misuse is asserted it is an assertion, and even
there not if memory ran out. An assertion takes the place of the refusal and
changes nothing else. -/
def Mirrors (asserts : Bool) (step : Step Monitor Unit) (bare : Step Nesting Unit) : Prop :=
  step.state.nesting = bare.state ∧
    (bare.outcome = .ok () ∧ step.outcome = .ok () ∧ step.state.fault? = none ∨
      ∃ fault, bare.outcome = .refused fault ∧ step.state.fault? = some fault ∧
        step.outcome = if asserts = true ∧ fault ≠ .allocationFailure
          then .assertion fault else .refused fault)

/-- A clear monitor that tracks its direction mirrors its own stack. Since the
stack is the same on both sides, only the outcome and the kept fault have to be
compared. -/
theorem perform_mirrors {monitor : Monitor} (tracked : monitor.enabled = true)
    (clear : monitor.fault? = none) (allocator : Allocator) (call : Nesting.Call) :
    Mirrors monitor.latch.asserts (monitor.perform allocator call)
      (monitor.nesting.perform allocator monitor.direction call) := by
  rcases perform_cases monitor allocator call with
    ⟨kept, held, _⟩ | ⟨_, untracked, _⟩ |
      ⟨_, _, ⟨nesting, carried, step⟩ | ⟨refusal, refused, step⟩⟩
  · rw [clear] at held
    cases held
  · rw [tracked] at untracked
    cases untracked
  · rw [step, Nesting.perform, carried]
    exact ⟨rfl, .inl ⟨rfl, rfl, clear⟩⟩
  · rw [step, Nesting.perform, refused]
    exact ⟨rfl, .inr ⟨refusal.fault, rfl, rfl, rfl⟩⟩

/-- At every point of a run of a new monitor: while no fault is kept and the
direction is tracked, the stack is that of a bare stack made with the same
initial capacity, and calls mirror it; once a fault is kept, nothing changes for
the rest of the run and every call is refused with that fault; and where the
direction is not tracked nothing is open, and calls succeed until a fault is
kept.

Proof: the switches of the monitor are those of its settings at every point. A
tracked and clear monitor has followed the bare stack, and a call on it mirrors
one on its own stack, which is the bare one. A kept fault freezes the monitor,
so what comes later meets the same state. An untracked monitor has never touched
its stack. -/
theorem monitor_refines_stack (settings : Settings) (direction : Direction)
    (past : List (Turn α)) :
    let monitor := machine.after (ofSettings direction settings) past
    let bare := bareAfter direction
      (.ofInitialCapacity (max settings.initialCapacity.toNat 1)) past
    (settings.tracks direction = true → monitor.fault? = none →
      monitor.nesting = bare ∧ ∀ allocator call, Mirrors settings.assertsMisuse
        (monitor.perform allocator call) (bare.perform allocator direction call)) ∧
    (∀ fault, monitor.fault? = some fault → ∀ future : List (Turn α),
      let later := machine.after monitor future
      later.nesting = monitor.nesting ∧ later.depth = monitor.depth ∧
        later.fault? = some fault ∧
        ∀ allocator call, later.perform allocator call = ⟨later, .refused fault, []⟩) ∧
    (settings.tracks direction = false →
      monitor.nesting.frames = [] ∧ (monitor.fault? = none →
        ∀ allocator call, monitor.perform allocator call = ⟨monitor, .ok (), []⟩)) := by
  intro monitor bare
  obtain ⟨sameDirection, sameEnabled, sameAsserts⟩ :=
    after_switches (ofSettings direction settings) past
  refine ⟨?_, ?_, ?_⟩
  · intro tracked clear
    have same : monitor.nesting = bare := after_follows tracked clear
    have mirrors := perform_mirrors (sameEnabled.trans tracked) clear
    rw [sameDirection, sameAsserts] at mirrors
    exact ⟨same, fun allocator call => same ▸ mirrors allocator call⟩
  · intro fault held future later
    have unchanged : later = monitor := after_of_held held future
    rw [unchanged]
    exact ⟨rfl, rfl, held, perform_of_held held⟩
  · intro untracked
    have unopened : monitor.nesting = .ofInitialCapacity _ := after_untracked untracked past
    refine ⟨by rw [unopened]; rfl, ?_⟩
    intro clear
    exact perform_of_untracked clear (sameEnabled.trans untracked)

/-- In a full array of a reader one more element is refused as on the bare
stack. After a failed read the array stays open for good. -/
theorem full_array_mirrored :
    let past : List (Turn Unit) := [⟨.act (.track (.push .array 1)), .unlimited⟩,
      ⟨.act (.track .element), .unlimited⟩]
    let monitor := machine.after (ofSettings .reading .tracking) past
    let bare := bareAfter .reading
      (.ofInitialCapacity (max Settings.tracking.initialCapacity.toNat 1)) past
    let failed := machine.after (ofSettings .reading .tracking) (past ++ [⟨.flag .io, .unlimited⟩])
    monitor.fault? = none ∧
      Mirrors false (monitor.perform .unlimited .element)
        (bare.perform .unlimited .reading .element) ∧
      failed.fault? = some .io ∧
        ∀ future : List (Turn Unit), (machine.after failed future).depth = 1 := by
  intro past monitor bare failed
  have clear : monitor.fault? = none := by decide
  have held : failed.fault? = some .io := by decide
  have depth : failed.depth = 1 := by decide
  obtain ⟨mirrors, _, _⟩ := monitor_refines_stack .tracking .reading past
  obtain ⟨_, frozen, _⟩ :=
    monitor_refines_stack .tracking .reading (past ++ [⟨.flag .io, .unlimited⟩])
  refine ⟨clear, (mirrors rfl clear).2 .unlimited .element, held, ?_⟩
  intro future
  exact (frozen .io held future).2.1.trans depth

end MessagePack.Monitor
