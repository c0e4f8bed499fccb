import MessagePack.Monitor
import MessagePack.Proofs.Latch.Delivery
import MessagePack.Proofs.Nesting.Accepts

/-!
# Turns of a monitor

A turn is one thing done with a monitor: a call on its stack or one of the deeds
of its owner. A run of turns goes on after failed assertions with the state that
they leave.

A call on the stack has three cases. While a fault is kept it is refused with
that fault; otherwise, where the direction is not tracked, it succeeds; and
otherwise it does what the stack does, and the latch keeps the fault of a
refusal. In the first two cases the monitor stays as it is.
-/

namespace MessagePack.Monitor

variable {α : Type}

/-- What is done with a monitor. -/
inductive Deed (α : Type) where
  | act (action : Action α)
  /-- The owner delivers a fault to the monitor itself. -/
  | flag (fault : Fault)

/-- A deed and the allocator that answers if room is needed. The allocator is
part of the turn, so one run may meet several. -/
structure Turn (α : Type) where
  deed : Deed α
  allocator : Allocator

/-- Does the deed of a turn. Beside the step stands how often guarded work
ran. -/
def take (monitor : Monitor) (turn : Turn α) : Step Monitor (Option α) × Nat :=
  match turn.deed with
  | .act action => monitor.act turn.allocator action
  | .flag fault => ((monitor.flag fault).replace none, 0)

/-- The monitor as a machine that goes on after a failed assertion. Nothing that
a turn answers ends a run. -/
def machine : Machine Monitor (Turn α) (Step Monitor (Option α) × Nat) where
  react := take
  next reply := reply.1.state

/-- The monitor with a fault kept. Its stack and its switches are as before. -/
def keeping (monitor : Monitor) (fault : Fault) : Monitor :=
  monitor.withLatch { monitor.latch with held := some fault }

/-! ## A call on the stack -/

/-- A kept fault comes before all else, also before the switch of the
direction. -/
theorem perform_of_held {monitor : Monitor} {kept : Fault} (held : monitor.fault? = some kept)
    (allocator : Allocator) (call : Nesting.Call) :
    monitor.perform allocator call = ⟨monitor, .refused kept, []⟩ := by
  have latched : monitor.latch.held = some kept := held
  simp [perform, latched]

/-- Without tracking every call succeeds and nothing is recorded. -/
theorem perform_of_untracked {monitor : Monitor} (clear : monitor.fault? = none)
    (untracked : monitor.enabled = false) (allocator : Allocator) (call : Nesting.Call) :
    monitor.perform allocator call = ⟨monitor, .ok (), []⟩ := by
  have unlatched : monitor.latch.held = none := clear
  simp [perform, unlatched, untracked]

/-- A tracked call that the stack carries out is carried out, and the latch
hears nothing of it. -/
theorem perform_of_carried {monitor : Monitor} {nesting : Nesting} (clear : monitor.fault? = none)
    (tracked : monitor.enabled = true) {allocator : Allocator} {call : Nesting.Call}
    (carried : monitor.nesting.attempt allocator monitor.direction call = .ok nesting) :
    monitor.perform allocator call = ⟨{ monitor with nesting }, .ok (), []⟩ := by
  have unlatched : monitor.latch.held = none := clear
  simp [perform, unlatched, tracked, carried]

/-- A tracked call that the stack refuses delivers its fault to the latch and is
refused with it. What the latch makes of it, an assertion included, is left to
the lemmas about latches. -/
theorem perform_delivers {monitor : Monitor} {refusal : Refusal} (clear : monitor.fault? = none)
    (tracked : monitor.enabled = true) {allocator : Allocator} {call : Nesting.Call}
    (refused : monitor.nesting.attempt allocator monitor.direction call = .error refusal) :
    monitor.perform allocator call =
      (monitor.latch.deliverRefusal refusal (.refused refusal.fault)).within monitor.withLatch := by
  have unlatched : monitor.latch.held = none := clear
  simp only [perform, unlatched, tracked, if_true, refused]
  rfl

/-- A tracked call that the stack refuses leaves its fault in the latch. Only
a latch that asserts answers with an assertion, and it does not if memory ran
out. -/
theorem perform_of_refused {monitor : Monitor} {refusal : Refusal} (clear : monitor.fault? = none)
    (tracked : monitor.enabled = true) {allocator : Allocator} {call : Nesting.Call}
    (refused : monitor.nesting.attempt allocator monitor.direction call = .error refusal) :
    monitor.perform allocator call =
      { state := monitor.keeping refusal.fault
        outcome := if monitor.latch.asserts = true ∧ refusal.fault ≠ .allocationFailure
          then .assertion refusal.fault else .refused refusal.fault
        events := refusal.events ++
          [.latched refusal.fault (refusal.fault != .allocationFailure)] } := by
  rw [perform_delivers clear tracked refused, Latch.deliverRefusal_of_clear clear]
  rfl

/-- All that a call on the stack can do. Proofs about monitors split by these
four cases and look no further into the definition. -/
theorem perform_cases (monitor : Monitor) (allocator : Allocator) (call : Nesting.Call) :
    (∃ kept, monitor.fault? = some kept ∧
      monitor.perform allocator call = ⟨monitor, .refused kept, []⟩) ∨
    monitor.fault? = none ∧ monitor.enabled = false ∧
      monitor.perform allocator call = ⟨monitor, .ok (), []⟩ ∨
    monitor.fault? = none ∧ monitor.enabled = true ∧
      ((∃ nesting, monitor.nesting.attempt allocator monitor.direction call = .ok nesting ∧
        monitor.perform allocator call = ⟨{ monitor with nesting }, .ok (), []⟩) ∨
      ∃ refusal, monitor.nesting.attempt allocator monitor.direction call = .error refusal ∧
        monitor.perform allocator call =
          { state := monitor.keeping refusal.fault
            outcome := if monitor.latch.asserts = true ∧ refusal.fault ≠ .allocationFailure
              then .assertion refusal.fault else .refused refusal.fault
            events := refusal.events ++
              [.latched refusal.fault (refusal.fault != .allocationFailure)] }) := by
  cases latched : monitor.fault? with
  | some kept => exact .inl ⟨kept, rfl, perform_of_held latched allocator call⟩
  | none =>
    by_cases tracked : monitor.enabled = true
    · refine .inr (.inr ⟨rfl, tracked, ?_⟩)
      cases tried : monitor.nesting.attempt allocator monitor.direction call with
      | ok nesting => exact .inl ⟨nesting, rfl, perform_of_carried latched tracked tried⟩
      | error refusal => exact .inr ⟨refusal, rfl, perform_of_refused latched tracked tried⟩
    · have untracked : monitor.enabled = false := Bool.eq_false_iff.mpr tracked
      exact .inr (.inl ⟨rfl, untracked, perform_of_untracked latched untracked allocator call⟩)

/-- A clear monitor that tracks its direction takes a call that fits, if room is
granted. This is a whole turn and not only the call. -/
theorem react_of_accepts {monitor : Monitor} {call : Nesting.Call} {frames : List Frame}
    (clear : monitor.fault? = none) (tracked : monitor.enabled = true)
    (fits : Nesting.Accepts monitor.nesting.frames call frames) {allocator : Allocator}
    (unfailing : allocator.Unfailing) :
    ∃ capacity, machine.react monitor ⟨.act (.track call), allocator⟩ =
      (⟨{ monitor with nesting := { monitor.nesting with frames, capacity } },
        .ok (none : Option α), []⟩, 0) := by
  rcases Nesting.attempt_of_accepts allocator monitor.direction fits with
    ⟨capacity, carried⟩ | ⟨_, held, needed, refused⟩
  · have step := perform_of_carried clear tracked carried
    exact ⟨capacity, by simp [machine, take, act, step, Step.replace, Outcome.bind]⟩
  · exact absurd refused (unfailing held needed)

/-- Without assertions a call that does not fit, unless it opens a map, is
refused as misuse, which is kept. -/
theorem react_of_misfit {monitor : Monitor} {call : Nesting.Call} (clear : monitor.fault? = none)
    (tracked : monitor.enabled = true) (calm : monitor.latch.asserts = false)
    (misfit : ∀ frames, ¬ Nesting.Accepts monitor.nesting.frames call frames)
    (noMap : ∀ count, call ≠ .push .map count) (allocator : Allocator) :
    (machine.react monitor ⟨.act (.track call), allocator⟩).1.outcome =
        .refused (α := Option α) .misuse ∧
      (machine.next (machine.react monitor
        (⟨.act (.track call), allocator⟩ : Turn α))).fault? = some .misuse := by
  obtain ⟨violation, refused, asMisuse | ⟨count, isMap⟩⟩ :=
    Nesting.attempt_of_not_accepts allocator monitor.direction misfit
  · have step := perform_of_refused clear tracked refused
    have fault : (Refusal.violation violation).fault = .misuse := asMisuse
    constructor
    · simp [machine, take, act, step, fault, calm, Step.replace, Outcome.bind]
    · simp [machine, take, act, step, fault, keeping, withLatch, fault?]
  · exact absurd isMap (noMap count)

/-! ## What a turn leaves alone -/

/-- A turn is a call on the stack, or the owner does something with the latch,
which leaves the rest of the monitor as it is and reports what the latch keeps.
Every fact about a turn is therefore a fact about calls on the stack and one
about `Latch.Notes`. -/
theorem take_cases (monitor : Monitor) (turn : Turn α) :
    (∃ call, turn.deed = .act (.track call) ∧
      (monitor.take turn).1 = (monitor.perform turn.allocator call).replace none) ∨
    (∀ call, turn.deed ≠ .act (.track call)) ∧ ∃ latch,
      (monitor.take turn).1.state = monitor.withLatch latch ∧
        monitor.latch.Notes latch (monitor.take turn).1.events := by
  obtain ⟨deed, allocator⟩ := turn
  cases deed with
  | flag fault => exact .inr ⟨nofun, _, rfl, Latch.deliver_notes ..⟩
  | act action =>
    cases action with
    | track call => exact .inl ⟨call, rfl, rfl⟩
    | latch call => exact .inr ⟨nofun, _, rfl, Latch.perform_notes ..⟩

/-- A kept fault freezes the whole monitor: latch, stack and switches. -/
theorem take_of_held {monitor : Monitor} {kept : Fault} (held : monitor.fault? = some kept)
    (turn : Turn α) : (monitor.take turn).1.state = monitor := by
  rcases take_cases monitor turn with ⟨call, _, taken⟩ | ⟨_, latch, state, notes⟩
  · rw [taken, Step.replace_state, perform_of_held held]
  · obtain ⟨same, _⟩ := notes.of_held held
    rw [state, same]
    rfl

/-- No turn changes the switches that the monitor was made with. So what they
were made from can be told at any time. -/
theorem take_switches (monitor : Monitor) (turn : Turn α) :
    (monitor.take turn).1.state.direction = monitor.direction ∧
      (monitor.take turn).1.state.enabled = monitor.enabled ∧
      (monitor.take turn).1.state.latch.asserts = monitor.latch.asserts := by
  rcases take_cases monitor turn with ⟨call, _, taken⟩ | ⟨_, latch, state, notes⟩
  · rw [taken]
    rcases perform_cases monitor turn.allocator call with
      ⟨_, _, step⟩ | ⟨_, _, step⟩ | ⟨_, _, ⟨_, _, step⟩ | ⟨_, _, step⟩⟩ <;>
      simp [step, keeping, withLatch]
  · rw [state]
    exact ⟨rfl, rfl, notes.asserts⟩

/-- The switches are the same after any turns. -/
theorem after_switches (monitor : Monitor) (turns : List (Turn α)) :
    (machine.after monitor turns).direction = monitor.direction ∧
      (machine.after monitor turns).enabled = monitor.enabled ∧
      (machine.after monitor turns).latch.asserts = monitor.latch.asserts := by
  apply machine.after_keeps (fun reached =>
    reached.direction = monitor.direction ∧ reached.enabled = monitor.enabled ∧
      reached.latch.asserts = monitor.latch.asserts) ?_ ⟨rfl, rfl, rfl⟩
  rintro reached turn ⟨direction, enabled, asserts⟩
  obtain ⟨sameDirection, sameEnabled, sameAsserts⟩ := take_switches reached turn
  exact ⟨sameDirection.trans direction, sameEnabled.trans enabled, sameAsserts.trans asserts⟩

/-- Once a fault is kept, no turns change anything. A run from there can be left
out of account. -/
theorem after_of_held {monitor : Monitor} {kept : Fault} (held : monitor.fault? = some kept)
    (turns : List (Turn α)) : machine.after monitor turns = monitor := by
  apply machine.after_keeps (fun reached => reached = monitor) ?_ rfl
  rintro reached turn rfl
  exact take_of_held held turn

/-- Once a fault is kept, every call on the stack is refused with it. Deeds of
the owner are left out, since guarding and checking still answer with values. -/
theorem outcomes_of_held {monitor : Monitor} {kept : Fault} (held : monitor.fault? = some kept)
    {turns : List (Turn α)} (onStack : ∀ turn ∈ turns, ∃ call, turn.deed = .act (.track call)) :
    (machine.reactions monitor turns).map (·.1.outcome) =
      List.replicate turns.length (.refused kept) := by
  induction turns with
  | nil => rfl
  | cons turn turns inductionHypothesis =>
    have rest := inductionHypothesis fun later member =>
      onStack later (List.mem_cons_of_mem _ member)
    obtain ⟨call, deed⟩ := onStack turn List.mem_cons_self
    have outcome : (monitor.take turn).1.outcome = .refused kept := by
      simp [take, deed, act, perform_of_held held, Step.replace, Outcome.bind]
    have unmoved : machine.next (machine.react monitor turn) = monitor := take_of_held held turn
    rw [Machine.reactions_cons, unmoved, List.map_cons, rest]
    exact congrArg (· :: _) outcome

/-- A monitor that is clear after some turns was clear before them, as a fault
once kept stays. -/
theorem clear_of_after_clear {monitor : Monitor} {turns : List (Turn α)}
    (clear : (machine.after monitor turns).fault? = none) : monitor.fault? = none := by
  cases held : monitor.fault? with
  | none => rfl
  | some kept =>
    rw [after_of_held held turns, held] at clear
    cases clear

/-! ## Giving the monitor up -/

/-- How the owner of a monitor that left this latch fared. It depends on the
kept fault alone. -/
def verdict (latch : Latch) : Outcome Unit :=
  match latch.held with
  | some fault => .refused fault
  | none => .ok ()

/-- Whether compounds left open are overlooked when the monitor is given up. Any
one of the three reasons is enough. -/
def overlooks (monitor : Monitor) (cancel : Bool) : Bool :=
  cancel || !monitor.latch.isClear || !monitor.enabled

/-- Where nothing is found open the verdict is on the latch as it is. -/
theorem close_of_closed {monitor : Monitor} {cancel : Bool}
    (closed : monitor.nesting.destroy (monitor.overlooks cancel) = .ok ()) :
    monitor.close cancel = ⟨monitor.latch, verdict monitor.latch, []⟩ := by
  unfold overlooks at closed
  rw [close, closed]
  rfl

/-- Where a compound is found open its fault is delivered before the verdict.
The verdict is on the latch as the delivery leaves it, and so is never that all
went well. -/
theorem close_of_open {monitor : Monitor} {cancel : Bool} {refusal : Refusal}
    (found : monitor.nesting.destroy (monitor.overlooks cancel) = .error refusal) :
    monitor.close cancel = monitor.latch.deliverRefusal refusal
      (verdict (monitor.latch.flagViolation refusal.fault).state) := by
  unfold overlooks at found
  rw [close, found]
  rfl

/-- A kept fault is the verdict, whatever is open. -/
theorem close_of_held {monitor : Monitor} {kept : Fault} (held : monitor.fault? = some kept)
    (cancel : Bool) : monitor.close cancel = ⟨monitor.latch, .refused kept, []⟩ := by
  have latched : monitor.latch.held = some kept := held
  simp [close, Nesting.destroy, Latch.isClear, latched]

/-- A clear monitor with nothing open is given up well. -/
theorem close_of_empty {monitor : Monitor} (clear : monitor.fault? = none)
    (closed : monitor.nesting.frames = []) (cancel : Bool) :
    monitor.close cancel = ⟨monitor.latch, .ok (), []⟩ := by
  have unlatched : monitor.latch.held = none := clear
  simp [close, Nesting.destroy, Nesting.checkEmpty, Except.map, closed, Latch.isClear, unlatched]

end MessagePack.Monitor
