import MessagePack.Event

/-!
# Steps

A step is one call on an object that keeps state: the state it leaves, how it
went and the events that it reported. A failed assertion is an outcome like the
others, so the state that it leaves can be looked at and used further.
-/

namespace MessagePack

universe u v w

/-- How a call went. A value, a refusal with a fault and a failed assertion are
told apart, since only the first two are answers that the caller gets back. -/
inductive Outcome (α : Type u) where
  | ok (value : α)
  | refused (fault : Fault)
  /-- An assertion failed on latching the fault. -/
  | assertion (fault : Fault)
  deriving DecidableEq, Repr

namespace Outcome

/-- Whether the call succeeded, whatever its value. -/
def isOk {α : Type u} : Outcome α → Bool
  | ok _ => true
  | _ => false

/-- The outcome of going on with the value of a call that succeeded. After a
refusal or a failed assertion nothing is gone on with. -/
def bind {α : Type u} {β : Type v} (outcome : Outcome α) (next : α → Outcome β) : Outcome β :=
  match outcome with
  | ok value => next value
  | refused fault => refused fault
  | assertion fault => assertion fault

end Outcome

/-- The text of an assertion that failed on latching a fault. -/
def Fault.assertionText (fault : Fault) : String := "msgpack api misuse: " ++ fault.name

/-- What one call did: the state it left, how it went and what it reported, in
order. State and events are there even after a failed assertion. -/
structure Step (σ : Type u) (α : Type v) where
  state : σ
  outcome : Outcome α
  events : List Event

namespace Step

variable {σ : Type u} {τ : Type w} {α : Type v}

/-- The step with another value where it succeeded. State and events are the
same, and so is a failure. -/
def replace {β : Type w} (step : Step σ α) (value : β) : Step σ β :=
  { step with outcome := step.outcome.bind fun _ => .ok value }

/-- The step seen as one on a larger object that holds the state. -/
def within (step : Step σ α) (embed : σ → τ) : Step τ α := { step with state := embed step.state }

end Step

/-- A call made over and over: how often it ran, the last outcome if it ran at
all, and what the runs left and reported together. -/
structure Repetition (σ : Type u) (α : Type v) where
  runs : Nat
  last : Option (Outcome α)
  state : σ
  events : List Event

/-- Goes on with a repetition for up to so many runs, none of them after one
that did not succeed. The limit is what it recurs on. -/
def Repetition.extend {σ : Type u} {α : Type v} (call : σ → Step σ α) :
    Nat → Repetition σ α → Repetition σ α
  | 0, sofar => sofar
  | limit + 1, sofar =>
    let step := call sofar.state
    let next : Repetition σ α :=
      ⟨sofar.runs + 1, some step.outcome, step.state, sofar.events ++ step.events⟩
    if step.outcome.isOk then extend call limit next else next

/-- Runs a call up to so many times and stops after the first run that does not
succeed. That run counts as one of the runs. -/
def repeatWhileOk {σ : Type u} {α : Type v} (call : σ → Step σ α) (limit : Nat) (state : σ) :
    Repetition σ α :=
  Repetition.extend call limit ⟨0, none, state, []⟩

end MessagePack
