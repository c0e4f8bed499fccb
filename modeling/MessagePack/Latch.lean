import MessagePack.Settings.Basic
import MessagePack.Step

/-!
# The fault latch

A reader, writer or tree owns one latch. The latch keeps the first fault
delivered to it for the rest of its life and takes no notice of later ones; only
the first is reported to the log. Guarded work runs only while no fault is kept.

A fault is delivered as a breach of the interface's rules or not. On latching a
breach, a latch that asserts fails an assertion, after the fault has been kept
and reported.
-/

namespace MessagePack

universe u v

/-- A fault kept for good, if there is one, and whether latching a breach fails
an assertion. The switch never changes, and the fault changes once at most. -/
structure Latch where
  held : Option Fault
  asserts : Bool
  deriving DecidableEq, Repr

namespace Latch

/-- The latch of new settings, with no fault kept. -/
def ofSettings (settings : Settings) : Latch := ⟨none, settings.assertsMisuse⟩

/-- The latch of the settings as built, which asserts, as these are the settings
of a debug build. -/
def asBuilt : Latch := ofSettings .asBuilt

/-- Whether no fault is kept. Guarded work asks for nothing else. -/
def isClear (latch : Latch) : Bool := latch.held.isNone

/-- Delivers a fault. It is kept and reported if it is the first, and otherwise
it is dropped without a trace. An assertion fails only after the fault has been
kept and reported, so it changes the outcome of the step and nothing else. -/
def deliver (latch : Latch) (fault : Fault) (breach : Bool) : Step Latch Unit :=
  match latch.held with
  | some _ => ⟨latch, .ok (), []⟩
  | none =>
    ⟨{ latch with held := some fault },
      if breach && latch.asserts then .assertion fault else .ok (),
      [.latched fault breach]⟩

/-- Delivers a fault found by the owner, which is a breach if it is misuse. -/
def flag (latch : Latch) (fault : Fault) : Step Latch Unit := latch.deliver fault fault.isMisuse

/-- Delivers a fault raised by nesting, which is a breach unless memory ran out.
A map with too many pairs is therefore a breach here, though the fault it counts
as is none when the owner finds it. -/
def flagViolation (latch : Latch) (fault : Fault) : Step Latch Unit :=
  latch.deliver fault (fault != .allocationFailure)

/-- The value of a result. A failed result delivers its fault and has the
neutral value, unless that fails an assertion. -/
def check {α : Type u} (neutral : α) (latch : Latch) : Except Fault α → Step Latch α
  | .ok value => ⟨latch, .ok value, []⟩
  | .error fault => (latch.flag fault).replace neutral

/-- Runs work on a world of its own, only while no fault is kept, and checks its
result. Otherwise the world stays as it was and the value is the neutral one. -/
def guard {α : Type u} {ω : Type v} (neutral : α) (work : ω → Except Fault α × ω) (latch : Latch)
    (world : ω) : Step Latch α × ω :=
  if latch.isClear then
    let (result, after) := work world
    (latch.check neutral result, after)
  else (⟨latch, .ok neutral, []⟩, world)

/-- A call on a latch. Results and guarded work carry the neutral value of their
type, which stands in where there is no value. -/
inductive Call (α : Type u) where
  | flag (fault : Fault)
  | flagViolation (fault : Fault)
  | check (neutral : α) (result : Except Fault α)
  | guard (neutral : α) (result : Except Fault α)

/-- Carries out a call. Beside the step, which has a value if the call answers
with one, stands how often guarded work ran: this is how it can be seen that a
kept fault keeps work from being done. -/
def perform {α : Type u} (latch : Latch) : Call α → Step Latch (Option α) × Nat
  | .flag fault => ((latch.flag fault).replace none, 0)
  | .flagViolation fault => ((latch.flagViolation fault).replace none, 0)
  | .check neutral result => (latch.check (some neutral) (result.map some), 0)
  | .guard neutral result =>
    latch.guard (some neutral) (fun runs => (result.map some, runs + 1)) 0

end Latch

end MessagePack
