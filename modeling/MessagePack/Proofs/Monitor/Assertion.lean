import MessagePack.Proofs.Latch.Assertion
import MessagePack.Proofs.Monitor.Turn

/-!
# Asserting and calm monitors

Two monitors that differ only in whether their latches assert, with the same
turns and the same end. Nothing tells them apart but the outcome of the one
operation that makes the asserting monitor keep a breach as its first fault.
Refused calls on the stack and compounds left open at the end come to the latch
as breaches, unless memory ran out; what the owner delivers is a breach if it is
misuse.
-/

namespace MessagePack.Monitor

variable {α : Type}

/-- The monitor without assertions. Stack, switches and kept fault are the
same. -/
def calm (monitor : Monitor) : Monitor := monitor.withLatch monitor.latch.calm

/-- A calm latch in a calm monitor makes a calm monitor. -/
theorem calm_withLatch (monitor : Monitor) (latch : Latch) :
    monitor.calm.withLatch latch.calm = (monitor.withLatch latch).calm := rfl

/-- Which faults the deed of a turn delivers as breaches. A deed on the latch is
judged as the call on the latch is. -/
def Turn.breaches (turn : Turn α) : Fault → Bool :=
  match turn.deed with
  | .act (.track _) => (· != .allocationFailure)
  | .act (.latch call) => call.breaches
  | .flag _ => Fault.isMisuse

/-! ## The same operation on both monitors -/

/-- A call on the stack of an asserting monitor is paired with the same one on
the calm monitor.

Proof: by the cases of a call. Where nothing is delivered both monitors take the
same step. Where the stack refuses it does so on both sides, since the stacks
are the same, and delivering the refusal is paired on the latches. -/
theorem perform_paired {monitor : Monitor} (asserts : monitor.latch.asserts = true)
    (allocator : Allocator) (call : Nesting.Call) :
    Paired calm
      (newBreach (· != .allocationFailure) monitor.fault?
        (monitor.perform allocator call).state.fault?)
      (monitor.perform allocator call) (monitor.calm.perform allocator call) := by
  rcases perform_cases monitor allocator call with
    ⟨kept, held, step⟩ | ⟨clear, untracked, step⟩ |
      ⟨clear, tracked, ⟨nesting, carried, step⟩ | ⟨refusal, refused, _⟩⟩
  · have calmHeld : monitor.calm.fault? = some kept := held
    rw [step, perform_of_held calmHeld, newBreach_unchanged]
    exact ⟨rfl, rfl, .alike nofun⟩
  · have calmClear : monitor.calm.fault? = none := clear
    have calmUntracked : monitor.calm.enabled = false := untracked
    rw [step, perform_of_untracked calmClear calmUntracked, newBreach_unchanged]
    exact ⟨rfl, rfl, .alike nofun⟩
  · have calmClear : monitor.calm.fault? = none := clear
    have calmTracked : monitor.calm.enabled = true := tracked
    have calmCarried : monitor.calm.nesting.attempt allocator monitor.calm.direction call =
        .ok nesting := carried
    have unchanged : newBreach (· != .allocationFailure) monitor.fault?
        ({ monitor with nesting } : Monitor).fault? = none := newBreach_unchanged _ _
    rw [step, perform_of_carried calmClear calmTracked calmCarried, unchanged]
    exact ⟨rfl, rfl, .alike nofun⟩
  · have calmClear : monitor.calm.fault? = none := clear
    have calmTracked : monitor.calm.enabled = true := tracked
    have calmRefused : monitor.calm.nesting.attempt allocator monitor.calm.direction call =
        .error refusal := refused
    have plain (other : Fault) :
        Outcome.refused refusal.fault ≠ (.assertion other : Outcome Unit) := nofun
    rw [perform_delivers clear tracked refused, perform_delivers calmClear calmTracked calmRefused]
    exact (Latch.deliverRefusal_paired asserts refusal plain).within (calm_withLatch monitor)

/-- The deed of a turn on an asserting monitor is paired with the same one on
the calm monitor, and guarded work runs as often. A deed of the owner goes to
the latch alone, where it is paired as a call on a latch. -/
theorem take_paired {monitor : Monitor} (asserts : monitor.latch.asserts = true) (turn : Turn α) :
    Paired calm (newBreach turn.breaches monitor.fault? (monitor.take turn).1.state.fault?)
        (monitor.take turn).1 (monitor.calm.take turn).1 ∧
      (monitor.calm.take turn).2 = (monitor.take turn).2 := by
  obtain ⟨deed, allocator⟩ := turn
  cases deed with
  | flag fault =>
    have delivered := Latch.deliver_paired asserts Fault.isMisuse fault
    exact ⟨(delivered.within (calm_withLatch monitor)).replace none, rfl⟩
  | act action =>
    cases action with
    | track call => exact ⟨(perform_paired asserts allocator call).replace none, rfl⟩
    | latch call =>
      obtain ⟨paired, runs⟩ := Latch.perform_paired asserts call
      exact ⟨paired.within (calm_withLatch monitor), runs⟩

/-- A verdict is no assertion. An assertion comes from a delivery only. -/
theorem verdict_plain (latch : Latch) (fault : Fault) : verdict latch ≠ .assertion fault := by
  unfold verdict
  split <;> exact nofun

/-- Giving up an asserting monitor is paired with giving up the calm one. The
delivery comes first and the verdict is on the latch behind it, which keeps the
same fault on both sides. -/
theorem close_paired {monitor : Monitor} (asserts : monitor.latch.asserts = true) (cancel : Bool) :
    Paired Latch.calm
      (newBreach (· != .allocationFailure) monitor.fault? (monitor.close cancel).state.held)
      (monitor.close cancel) (monitor.calm.close cancel) := by
  cases destroyed : monitor.nesting.destroy (monitor.overlooks cancel) with
  | ok nothing =>
    have calmDestroyed : monitor.calm.nesting.destroy (monitor.calm.overlooks cancel) = .ok () :=
      destroyed
    have unchanged : newBreach (· != .allocationFailure) monitor.fault? monitor.latch.held = none :=
      newBreach_unchanged _ _
    rw [close_of_closed destroyed, close_of_closed calmDestroyed, unchanged]
    exact ⟨rfl, rfl, .alike (verdict_plain monitor.latch)⟩
  | error refusal =>
    have calmDestroyed : monitor.calm.nesting.destroy (monitor.calm.overlooks cancel) =
        .error refusal := destroyed
    have plain := verdict_plain (monitor.latch.flagViolation refusal.fault).state
    have paired := Latch.deliverRefusal_paired asserts refusal plain
    have sameVerdict : verdict (monitor.calm.latch.flagViolation refusal.fault).state =
        verdict (monitor.latch.flagViolation refusal.fault).state := by
      have sameState : (monitor.calm.latch.flagViolation refusal.fault).state =
          (monitor.latch.flagViolation refusal.fault).state.calm := paired.state
      rw [sameState]
      rfl
    rw [close_of_open destroyed, close_of_open calmDestroyed, sameVerdict]
    exact paired

/-! ## Whole lives -/

/-- What a moment of a run of a monitor shows. The compounds are those that are
open behind the turn. -/
def observation (moment : Moment Monitor (Turn α) (Step Monitor (Option α) × Nat)) :
    Observation α :=
  .ofStep latch (·.nesting.frames) moment.input.breaches moment.before moment.reaction

/-- What giving the monitor up shows, with the compounds that were given up. No
compound is closed by it, so the frames are those before. -/
def closing (monitor : Monitor) (cancel : Bool) : Observation α :=
  .ofStep latch (·.nesting.frames) (· != .allocationFailure) monitor
    (((monitor.close cancel).within monitor.withLatch).replace none, 0)

/-- The record of a run that may end with giving the monitor up, which is
cancelled or not. Nothing can be done with it after that. -/
def record (monitor : Monitor) (turns : List (Turn α)) (ending : Option Bool) :
    List (Observation α) :=
  (machine.moments monitor turns).map observation ++
    (ending.map (machine.after monitor turns).closing).toList

/-- The records of an asserting monitor and of the calm one are alongside.

Proof: by induction on the turns. The first turn is paired on the two monitors,
and the calm run goes on from the calmed state of the asserting one. At the end
giving up is paired as well, with a fault that was kept before being kept behind
it. -/
theorem record_alongside {monitor : Monitor} (asserts : monitor.latch.asserts = true)
    (turns : List (Turn α)) (ending : Option Bool) :
    Alongside monitor.fault? (monitor.record turns ending) (monitor.calm.record turns ending) := by
  have sameHeld (state : Monitor) : state.calm.latch.held = state.latch.held := rfl
  induction turns generalizing monitor with
  | nil =>
    cases ending with
    | none => exact .done monitor.fault?
    | some cancel =>
      have paired :=
        ((close_paired asserts cancel).within (calm_withLatch monitor)).replace (none : Option α)
      have sticky (fault : Fault) (held : monitor.fault? = some fault) :
          (monitor.close cancel).state.held = some fault := by
        rw [close_of_held held]
        exact held
      exact .ofStep latch (·.nesting.frames) sameHeld (fun _ => rfl) paired rfl sticky (.done _)
  | cons turn turns inductionHypothesis =>
    obtain ⟨paired, runs⟩ := take_paired asserts turn
    have later := inductionHypothesis ((take_switches monitor turn).2.2.trans asserts)
    rw [← paired.state] at later
    have sticky (fault : Fault) (held : monitor.fault? = some fault) :
        (monitor.take turn).1.state.fault? = some fault := by
      rw [take_of_held held turn]
      exact held
    exact .ofStep latch (·.nesting.frames) sameHeld (fun _ => rfl) paired runs sticky later

/-- Whether misuse is asserted changes only how the first breach surfaces, over
any run of a monitor of a reader or a writer and over any run of a bare latch.

Proof: a monitor of the calm settings is the calm monitor of the asserting
settings, and the same is so of a bare latch. Their records are alongside, and
records that are alongside differ only in how the first breach surfaces. -/
theorem assertions_only_surface (settings : Settings) :
    let strict : Settings := { settings with assertsMisuse := true }
    let calm : Settings := { settings with assertsMisuse := false }
    (∀ (direction : Direction) (turns : List (Turn α)) (ending : Option Bool),
      OnlySurfaces ((ofSettings direction strict).record turns ending)
        ((ofSettings direction calm).record turns ending)) ∧
    ∀ calls : List (Latch.Call α),
      OnlySurfaces ((Latch.ofSettings strict).record calls)
        ((Latch.ofSettings calm).record calls) := by
  intro strict calm
  constructor
  · intro direction turns ending
    have asserts : (ofSettings direction strict).latch.asserts = true := rfl
    exact (record_alongside asserts turns ending).onlySurfaces
  · intro calls
    have asserts : (Latch.ofSettings strict).asserts = true := rfl
    exact (Latch.record_alongside asserts calls).onlySurfaces

/-- A writer that asserts fails on the element that is too many. From then on it
answers as one that latched the misuse calmly. -/
example :
    ((ofSettings .writing .asBuilt).record
        ([.push .array 1, .element, .element, .pop .array].map fun call =>
          (⟨.act (.track call), .unlimited⟩ : Turn Unit)) (some false)).map (·.outcome) =
      [.ok none, .ok none, .assertion .misuse, .refused .misuse, .refused .misuse] := by
  decide

end MessagePack.Monitor
