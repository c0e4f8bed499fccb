import MessagePack.Latch
import MessagePack.Nesting.Basic

/-!
# Monitors

A monitor is the tracking state of a reader or a writer: a stack of open
compounds coupled to the owner's latch. A call that the stack refuses delivers
its fault to the latch, and while a fault is kept every call is refused with it
and the stack stays as it is. Where the settings do not track the direction
every call succeeds and nothing is recorded.
-/

namespace MessagePack

/-- The tracking state of one reader or writer. It keeps the switch of its own
direction only; that of the other direction is not looked at again. -/
structure Monitor where
  latch : Latch
  nesting : Nesting
  direction : Direction
  /-- Whether the settings track the direction. -/
  enabled : Bool
  deriving DecidableEq, Repr

namespace Monitor

/-- The monitor of a new reader or writer. Its stack has no room at first, and
where the settings reserve nothing the initial capacity is one, since a stack
that grows by nothing could never grow. -/
def ofSettings (direction : Direction) (settings : Settings) : Monitor where
  latch := .ofSettings settings
  nesting := .ofInitialCapacity (max settings.initialCapacity.toNat 1)
  direction
  enabled := settings.tracks direction

/-- The fault that is kept. The monitor has none but that of its latch. -/
def fault? (monitor : Monitor) : Option Fault := monitor.latch.held

/-- The number of open compounds. -/
def depth (monitor : Monitor) : Nat := monitor.nesting.depth

/-- A second monitor in the same state, with room for the open compounds and no
more. The two share nothing. -/
def copy (monitor : Monitor) : Monitor := { monitor with nesting := monitor.nesting.copy }

/-- The monitor with another state of its latch. Stack and switches stay. -/
def withLatch (monitor : Monitor) (latch : Latch) : Monitor := { monitor with latch }

/-- Delivers a fault found by the owner, such as invalid input. The stack is not
told of it. -/
def flag (monitor : Monitor) (fault : Fault) : Step Monitor Unit :=
  (monitor.latch.flag fault).within monitor.withLatch

/-- Carries out a call on the stack. A kept fault comes first, then the switch
of the direction, so an untracked monitor still refuses once a fault is kept. A
refusal of the stack delivers its fault to the latch and, unless that fails an
assertion, is the outcome. -/
def perform (allocator : Allocator) (monitor : Monitor) (call : Nesting.Call) :
    Step Monitor Unit :=
  match monitor.latch.held with
  | some fault => ⟨monitor, .refused fault, []⟩
  | none =>
    if monitor.enabled then
      match monitor.nesting.attempt allocator monitor.direction call with
      | .ok nesting => ⟨{ monitor with nesting }, .ok (), []⟩
      | .error refusal =>
        let delivery := monitor.latch.flagViolation refusal.fault
        { state := monitor.withLatch delivery.state
          outcome := delivery.outcome.bind fun _ => .refused refusal.fault
          events := refusal.events ++ delivery.events }
    else ⟨monitor, .ok (), []⟩

/-- Gives the monitor up and tells how its owner fared. What is left is its
latch. Compounds still open are a violation only if closing is not cancelled,
the direction is tracked and no fault was kept before; then the outcome is read
off the latch after the delivery. -/
def close (monitor : Monitor) (cancel : Bool) : Step Latch Unit :=
  let verdict (latch : Latch) : Outcome Unit :=
    match latch.held with
    | some fault => .refused fault
    | none => .ok ()
  match monitor.nesting.destroy (cancel || !monitor.latch.isClear || !monitor.enabled) with
  | .ok () => ⟨monitor.latch, verdict monitor.latch, []⟩
  | .error refusal =>
    let delivery := monitor.latch.flagViolation refusal.fault
    { state := delivery.state
      outcome := delivery.outcome.bind fun _ => verdict delivery.state
      events := refusal.events ++ delivery.events }

/-- What can be done with a monitor: calls on its stack and calls that the owner
makes on its latch. -/
inductive Action (α : Type) where
  | track (call : Nesting.Call)
  | latch (call : Latch.Call α)

/-- Carries out an action. Beside the step stands how often guarded work ran,
which a call on the stack never does. -/
def act {α : Type} (allocator : Allocator) (monitor : Monitor) :
    Action α → Step Monitor (Option α) × Nat
  | .track call => ((monitor.perform allocator call).replace none, 0)
  | .latch call =>
    let (step, runs) := monitor.latch.perform call
    (step.within monitor.withLatch, runs)

end Monitor

end MessagePack
