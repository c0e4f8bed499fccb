import MessagePack.Proofs.Monitor.Turn
import MessagePack.Proofs.Nesting.Conservation

/-!
# The verdict on a whole life

When a monitor is given up, its owner learns how the whole life of the monitor
went. The verdict can be read off what happened, without a look at the monitor.
It is the first fault that came up, be it that a call on the stack ended with it
or that the owner brought it to the latch. If none came up, it is misuse where
compounds are still open, the direction is tracked and closing is not cancelled.
In all other cases it is that nothing went wrong.

Two facts about runs carry this. A monitor that was clear keeps the first fault
that comes up. And the calls on the stack of a tracked monitor that succeeded
fit one after the other, so that openings and closings among them tell what is
still open.
-/

namespace MessagePack.Monitor

variable {α : Type}

/-! ## What comes up in a run -/

/-- The fault that the owner of a monitor brings to its latch by a deed, if
guarded work ran so often. A call on the stack is no delivery by the owner, even
if its fault reaches the latch. -/
def Deed.delivered? (runs : Nat) : Deed α → Option Fault
  | .act (.track _) => none
  | .act (.latch call) => call.delivered? runs
  | .flag fault => some fault

/-- The fault that comes up at a moment of a run: what the owner brings or what
a call ends with. It need not be kept, as an earlier one may be. -/
def raised? (moment : Moment Monitor (Turn α) (Step Monitor (Option α) × Nat)) : Option Fault :=
  (moment.input.deed.delivered? moment.reaction.2).or moment.reaction.1.outcome.fault?

/-- The faults that come up in a run, in order. -/
def raised (monitor : Monitor) (turns : List (Turn α)) : List Fault :=
  (machine.moments monitor turns).filterMap raised?

/-- No fault comes up in a run exactly if every operation succeeds and the owner
brings none. This is what quiet runs are recognised by. -/
theorem raised_eq_nil (monitor : Monitor) (turns : List (Turn α)) :
    raised monitor turns = [] ↔ ∀ moment ∈ machine.moments monitor turns,
      moment.reaction.1.outcome.isOk = true ∧
        moment.input.deed.delivered? moment.reaction.2 = none := by
  simp only [raised, List.filterMap_eq_nil_iff, raised?, Option.or_eq_none_iff,
    Outcome.fault?_eq_none, and_comm]

/-- A clear monitor keeps the fault that comes up in a turn, or stays clear if
none does. Deed and outcome tell it between them. -/
theorem take_raises {monitor : Monitor} (clear : monitor.fault? = none) (turn : Turn α) :
    (monitor.take turn).1.state.fault? = raised? ⟨monitor, turn, monitor.take turn⟩ := by
  obtain ⟨deed, allocator⟩ := turn
  cases deed with
  | flag fault =>
    simp only [take, flag, Latch.flag, Latch.deliver_of_clear clear]
    rfl
  | act action =>
    cases action with
    | latch call => exact Latch.perform_delivered clear call
    | track call =>
      rcases perform_cases monitor allocator call with
        ⟨kept, held, _⟩ | ⟨_, _, step⟩ | ⟨_, _, ⟨nesting, _, step⟩ | ⟨refusal, _, step⟩⟩
      · cases clear.symm.trans held
      · simp only [take, act, step]
        exact clear
      · simp only [take, act, step]
        exact clear
      · simp only [take, act, step, raised?]
        split <;> rfl

/-- A monitor that was clear keeps the first fault that came up.

Proof: by induction on the turns. If no fault comes up in the first turn, the
monitor is still clear behind it. If one does, it is kept and freezes the
monitor, and it is the first of the run. -/
theorem after_raised {monitor : Monitor} (clear : monitor.fault? = none) (turns : List (Turn α)) :
    (machine.after monitor turns).fault? = (raised monitor turns).head? := by
  induction turns generalizing monitor with
  | nil => exact clear
  | cons turn turns inductionHypothesis =>
    have first : (machine.next (machine.react monitor turn)).fault? =
        raised? ⟨monitor, turn, machine.react monitor turn⟩ := take_raises clear turn
    rw [Machine.after_cons, raised, Machine.moments_cons, List.filterMap_cons]
    cases came : raised? ⟨monitor, turn, machine.react monitor turn⟩ with
    | none => exact inductionHypothesis (first.trans came)
    | some fault =>
      have held := first.trans came
      rw [after_of_held held turns]
      exact held

/-! ## What succeeds in a run -/

/-- The call on the stack that succeeded at a moment of a run, if the turn is
one. -/
def carried? (moment : Moment Monitor (Turn α) (Step Monitor (Option α) × Nat)) :
    Option Nesting.Call :=
  match moment.input.deed with
  | .act (.track call) => if moment.reaction.1.outcome.isOk then some call else none
  | _ => none

/-- The calls on the stack that succeeded in a run, in order. In a monitor that
does not track its direction they need not fit anything. -/
def carriedOut (monitor : Monitor) (turns : List (Turn α)) : List Nesting.Call :=
  (machine.moments monitor turns).filterMap carried?

/-- A tracked call that succeeds fits the open compounds, and otherwise a turn
leaves them alone. The room of the stack is of no account here. -/
theorem take_carries {monitor : Monitor} (tracked : monitor.enabled = true) (turn : Turn α) :
    (∃ call, carried? ⟨monitor, turn, monitor.take turn⟩ = some call ∧
      Nesting.Accepts monitor.nesting.frames call (monitor.take turn).1.state.nesting.frames) ∨
    carried? ⟨monitor, turn, monitor.take turn⟩ = none ∧
      (monitor.take turn).1.state.nesting = monitor.nesting := by
  rcases take_cases monitor turn with ⟨call, deed, taken⟩ | ⟨owner, latch, state, _⟩
  · simp only [carried?, deed, taken]
    rcases perform_cases monitor turn.allocator call with
      ⟨kept, _, step⟩ | ⟨_, untracked, _⟩ | ⟨_, _, ⟨nesting, carried, step⟩ | ⟨refusal, _, step⟩⟩
    · rw [step]
      exact .inr ⟨rfl, rfl⟩
    · cases tracked.symm.trans untracked
    · rw [step]
      exact .inl ⟨call, rfl, Nesting.accepts_of_attempt carried⟩
    · rw [step, Step.replace]
      refine .inr ⟨?_, rfl⟩
      split <;> rfl
  · refine .inr ⟨?_, by rw [state]; rfl⟩
    unfold carried?
    split
    · rename_i call deed
      exact absurd deed (owner call)
    · rfl

/-- The calls that succeeded in a tracked run fit one after the other. What was
refused in between left the stack alone and may be left out. -/
theorem acceptsAll_carriedOut {monitor : Monitor} (tracked : monitor.enabled = true)
    (turns : List (Turn α)) :
    Nesting.AcceptsAll monitor.nesting.frames (carriedOut monitor turns)
      (machine.after monitor turns).nesting.frames := by
  induction turns generalizing monitor with
  | nil => exact .nil _
  | cons turn turns inductionHypothesis =>
    have later := inductionHypothesis ((take_switches monitor turn).2.1.trans tracked)
    rw [carriedOut, Machine.moments_cons, List.filterMap_cons]
    rcases take_carries tracked turn with ⟨call, carried, fits⟩ | ⟨silent, same⟩
    · rw [show carried? ⟨monitor, turn, machine.react monitor turn⟩ = some call from carried]
      exact .cons fits later
    · rw [show carried? ⟨monitor, turn, machine.react monitor turn⟩ = none from silent]
      rw [same] at later
      exact later

/-! ## The end of a run -/

/-- A clear monitor whose open compounds are overlooked is given up well,
however many they are. -/
theorem close_of_overlooked {monitor : Monitor} (clear : monitor.fault? = none) {cancel : Bool}
    (overlooked : cancel = true ∨ monitor.enabled = false) :
    monitor.close cancel = ⟨monitor.latch, .ok (), []⟩ := by
  have unlatched : monitor.latch.held = none := clear
  have closed : monitor.nesting.destroy (monitor.overlooks cancel) = .ok () := by
    rcases overlooked with rfl | untracked
    · rfl
    · simp [overlooks, untracked, Nesting.destroy]
  rw [close_of_closed closed, verdict, unlatched]

/-- A compound still open in a tracked and clear monitor is misuse, which is
kept and reported. Report and assertion come in the same step. -/
theorem close_of_unclosed {monitor : Monitor} {top : Frame} {outer : List Frame}
    (clear : monitor.fault? = none) (tracked : monitor.enabled = true)
    (opened : monitor.nesting.frames = top :: outer) :
    monitor.close false =
      { state := ⟨some .misuse, monitor.latch.asserts⟩
        outcome := if monitor.latch.asserts = true then .assertion .misuse else .refused .misuse
        events := [.nesting (.unclosed top.kind monitor.depth), .latched .misuse true] } := by
  have unlatched : monitor.latch.held = none := clear
  have seen : monitor.overlooks false = false := by
    simp [overlooks, tracked, Latch.isClear, unlatched]
  have found : monitor.nesting.destroy (monitor.overlooks false) =
      .error (.violation (.unclosed top.kind monitor.depth)) := by
    rw [seen, Nesting.destroy, Nesting.checkEmpty, opened]
    rfl
  have kept : verdict (monitor.latch.flagViolation .misuse).state = .refused .misuse := by
    rw [Latch.flagViolation, Latch.deliver_of_clear clear]
    rfl
  rw [close_of_open found]
  refine (congrArg _ kept).trans ((Latch.deliverRefusal_of_clear clear _).trans ?_)
  simp [Refusal.fault, Violation.fault, Refusal.events]

/-- A tracked and clear monitor is given up well exactly if nothing is open.
This is where the verdict becomes a statement about the stack. -/
theorem close_of_clear {monitor : Monitor} (clear : monitor.fault? = none)
    (tracked : monitor.enabled = true) :
    (monitor.close false).outcome = .ok () ↔ monitor.nesting.frames = [] := by
  cases opened : monitor.nesting.frames with
  | nil => simp [close_of_empty clear opened]
  | cons top outer =>
    rw [close_of_unclosed clear tracked opened]
    cases monitor.latch.asserts <;> simp

/-- The verdict on any run of a new monitor.

The monitor keeps the first fault that came up in the run, and that is the
verdict, whatever is open and whether or not closing is cancelled. It is not
reported again and fails no assertion. If no fault came up, the direction is
tracked, closing is not cancelled and more compounds were opened than closed,
the verdict is misuse, which is kept and reported and fails an assertion if the
settings assert. Otherwise the monitor is given up well.

So where the direction is tracked, a monitor is given up well without cancelling
exactly if every operation succeeded, the owner brought no fault and every
compound that was opened was closed.

Proof: a new monitor is clear, so it keeps the first fault that came up, and a
kept fault is the verdict. Without one the monitor is clear, and what counts is
its stack. The calls that succeeded fit one after the other from the empty
stack, so the open compounds are as many as were opened and not closed. If there
are some they are found, and if there is none nothing is. -/
theorem closing_verdict (settings : Settings) (direction : Direction) (turns : List (Turn α)) :
    let start := ofSettings direction settings
    let monitor := machine.after start turns
    let calls := carriedOut start turns
    let opened := calls.countP Nesting.Call.isPush
    let closed := calls.countP Nesting.Call.isPop
    monitor.fault? = (raised start turns).head? ∧
    (∀ first, (raised start turns).head? = some first →
      ∀ cancel, monitor.close cancel = ⟨monitor.latch, .refused first, []⟩) ∧
    (raised start turns = [] → settings.tracks direction = true → closed < opened →
      ∃ top, monitor.nesting.top? = some top ∧
        monitor.close false =
          { state := ⟨some .misuse, settings.assertsMisuse⟩
            outcome := if settings.assertsMisuse = true then .assertion .misuse
              else .refused .misuse
            events := [.nesting (.unclosed top.kind monitor.depth), .latched .misuse true] }) ∧
    (raised start turns = [] →
      ∀ cancel, cancel = true ∨ settings.tracks direction = false ∨ opened ≤ closed →
        monitor.close cancel = ⟨monitor.latch, .ok (), []⟩) ∧
    (settings.tracks direction = true →
      ((monitor.close false).outcome = .ok () ↔
        (∀ moment ∈ machine.moments start turns, moment.reaction.1.outcome.isOk = true ∧
          moment.input.deed.delivered? moment.reaction.2 = none) ∧
        Nesting.unclosed calls = [])) := by
  intro start monitor calls opened closed
  obtain ⟨_, enabled, asserts⟩ := after_switches start turns
  have kept : monitor.fault? = (raised start turns).head? := after_raised rfl turns
  have clear (quiet : raised start turns = []) : monitor.fault? = none := by
    rw [kept, quiet]
    rfl
  have told (first : Fault) (came : (raised start turns).head? = some first) (cancel : Bool) :
      monitor.close cancel = ⟨monitor.latch, .refused first, []⟩ :=
    close_of_held (kept.trans came) cancel
  have fits (tracked : settings.tracks direction = true) :
      Nesting.AcceptsAll [] calls monitor.nesting.frames := by
    have succeeded := @acceptsAll_carriedOut α start tracked turns
    exact succeeded
  have height (tracked : settings.tracks direction = true) :
      monitor.nesting.frames.length + closed = opened :=
    (fits tracked).height.trans (Nat.zero_add _)
  refine ⟨kept, told, ?_, ?_, ?_⟩
  · intro quiet tracked more
    cases stacked : monitor.nesting.frames with
    | nil =>
      have level := height tracked
      rw [stacked, List.length_nil, Nat.zero_add] at level
      exact absurd level (Nat.ne_of_lt more)
    | cons top outer =>
      have innermost : monitor.nesting.top? = some top := congrArg List.head? stacked
      refine ⟨top, innermost, ?_⟩
      rw [close_of_unclosed (clear quiet) (enabled.trans tracked) stacked, asserts]
      rfl
  · intro quiet cancel excuse
    by_cases tracked : settings.tracks direction = true
    · rcases excuse with cancelled | untracked | covered
      · exact close_of_overlooked (clear quiet) (.inl cancelled)
      · cases tracked.symm.trans untracked
      · have level := height tracked
        have empty : monitor.nesting.frames = [] := List.length_eq_zero_iff.mp (by omega)
        exact close_of_empty (clear quiet) empty cancel
    · have untracked := enabled.trans (Bool.eq_false_iff.mpr tracked)
      exact close_of_overlooked (clear quiet) (.inr untracked)
  · intro tracked
    rw [← raised_eq_nil, ← (fits tracked).empty_iff]
    cases came : raised start turns with
    | nil => simp [close_of_clear (clear came) (enabled.trans tracked)]
    | cons first later =>
      have held : (raised start turns).head? = some first := congrArg List.head? came
      simp [told first held]

/-- A writer that left an array open is told so, by a failed assertion; one that
ran out of memory before that hears of nothing else, even if it asserts. -/
theorem open_array_told :
    let opening : Turn Unit := ⟨.act (.track (.push .array 1)), .unlimited⟩
    let failing : Turn Unit := ⟨.act (.latch (.check () (.error .allocationFailure))), .unlimited⟩
    let forgetful := machine.after (ofSettings .writing .asBuilt) [opening]
    let failed := machine.after (ofSettings .writing .asBuilt) [opening, failing, opening]
    (∃ top, forgetful.nesting.top? = some top ∧ forgetful.close false =
      ⟨⟨some .misuse, true⟩, .assertion .misuse,
        [.nesting (.unclosed top.kind forgetful.depth), .latched .misuse true]⟩) ∧
      forgetful.close true = ⟨forgetful.latch, .ok (), []⟩ ∧
      failed.close false = ⟨failed.latch, .refused .allocationFailure, []⟩ := by
  intro opening failing forgetful failed
  obtain ⟨_, _, unclosed, well, _⟩ := closing_verdict .asBuilt .writing [opening]
  obtain ⟨_, told, _⟩ := closing_verdict .asBuilt .writing [opening, failing, opening]
  exact ⟨unclosed rfl rfl (by decide), well rfl true (.inl rfl), told .allocationFailure rfl false⟩

end MessagePack.Monitor
