import MessagePack.Latch
import MessagePack.Proofs.Machine

/-!
# Calls on a latch

What the calls on a latch leave alone and what they bring to it. A latch that
keeps a fault is not changed by any call, and no call changes whether a latch
asserts. A clear latch keeps the fault that a call brings: one that is flagged,
that of a failed result which is checked, or that of guarded work which ran and
failed. It reports what it keeps and nothing else.
-/

namespace MessagePack

universe u v

/-- Another value for a step that succeeded leaves the state as it is. -/
@[simp] theorem Step.replace_state {σ : Type u} {α β : Type v} (step : Step σ α) (value : β) :
    (step.replace value).state = step.state := rfl

/-- The fault of a call that did not succeed, by a refusal or by an
assertion. -/
def Outcome.fault? {α : Type u} : Outcome α → Option Fault
  | ok _ => none
  | refused fault | assertion fault => some fault

/-- A call without a fault succeeded, and the other way round. -/
theorem Outcome.fault?_eq_none {α : Type u} (outcome : Outcome α) :
    outcome.fault? = none ↔ outcome.isOk = true := by
  cases outcome <;> simp [fault?, isOk]

namespace Latch

variable {α : Type u}

/-- The latch as a machine that goes on after a failed assertion. A reaction
also tells how often guarded work ran. -/
def machine : Machine Latch (Call α) (Step Latch (Option α) × Nat) where
  react := perform
  next reply := reply.1.state

/-- A latch that keeps a fault takes no notice of another one, not even of a
breach: nothing is reported and nothing is asserted. -/
theorem deliver_of_held {latch : Latch} {kept : Fault} (held : latch.held = some kept)
    (fault : Fault) (breach : Bool) : latch.deliver fault breach = ⟨latch, .ok (), []⟩ := by
  simp [deliver, held]

/-- A clear latch keeps the fault and reports it. Whether it asserts is seen in
the outcome alone. -/
theorem deliver_of_clear {latch : Latch} (clear : latch.held = none) (fault : Fault)
    (breach : Bool) :
    latch.deliver fault breach =
      ⟨{ latch with held := some fault },
        if breach && latch.asserts then .assertion fault else .ok (),
        [.latched fault breach]⟩ := by
  simp [deliver, clear]

/-- A latch goes from one state to another and reports events: either nothing
happens, or it was clear and keeps a fault, which is the one thing that it
reports. All that is done with a latch is of this kind, by whatever call it is
done. -/
inductive Notes (before : Latch) : Latch → List Event → Prop where
  | nothing : Notes before before []
  | first (fault : Fault) (breach : Bool) (clear : before.held = none) :
      Notes before { before with held := some fault } [.latched fault breach]

/-- Nothing that happens to a latch changes whether it asserts. -/
theorem Notes.asserts {before after : Latch} {events : List Event}
    (notes : before.Notes after events) : after.asserts = before.asserts := by
  cases notes <;> rfl

/-- Nothing happens to a latch that keeps a fault, since the other case is for
clear latches only. -/
theorem Notes.of_held {before after : Latch} {events : List Event} {kept : Fault}
    (notes : before.Notes after events) (held : before.held = some kept) :
    after = before ∧ events = [] := by
  cases notes with
  | nothing => exact ⟨rfl, rfl⟩
  | first fault breach clear => cases held.symm.trans clear

/-- A delivered fault is reported if it is the first one. Both ways of
delivering a fault go through here. -/
theorem deliver_notes (latch : Latch) (fault : Fault) (breach : Bool) :
    latch.Notes (latch.deliver fault breach).state (latch.deliver fault breach).events := by
  cases held : latch.held with
  | some kept =>
    rw [deliver_of_held held]
    exact .nothing
  | none =>
    rw [deliver_of_clear held]
    exact .first fault breach held

/-- Delivers the fault of a refusal that was just reported as found. Unless that
fails an assertion the answer is the verdict. Calls on a stack and giving it up
differ in the verdict only. -/
def deliverRefusal (latch : Latch) (refusal : Refusal) (verdict : Outcome Unit) :
    Step Latch Unit where
  state := (latch.flagViolation refusal.fault).state
  outcome := (latch.flagViolation refusal.fault).outcome.bind fun _ => verdict
  events := refusal.events ++ (latch.flagViolation refusal.fault).events

/-- A clear latch keeps the fault of a refusal and the answer is that fault. It
is an assertion only if the latch asserts, and not if memory ran out. The report
of the refusal comes before that of the latch. -/
theorem deliverRefusal_of_clear {latch : Latch} (clear : latch.held = none) (refusal : Refusal) :
    latch.deliverRefusal refusal (.refused refusal.fault) =
      { state := { latch with held := some refusal.fault }
        outcome := if latch.asserts = true ∧ refusal.fault ≠ .allocationFailure
          then .assertion refusal.fault else .refused refusal.fault
        events := refusal.events ++
          [.latched refusal.fault (refusal.fault != .allocationFailure)] } := by
  rw [deliverRefusal, flagViolation, deliver_of_clear clear]
  cases latch.asserts <;> by_cases memory : refusal.fault = .allocationFailure <;>
    simp [memory, Outcome.bind]

/-- Guarded work runs on a clear latch, and its result is checked. From here on
guarded work is no case of its own. -/
theorem guard_of_clear {latch : Latch} (clear : latch.held = none) (neutral : α)
    (result : Except Fault α) :
    latch.perform (.guard neutral result) = ((latch.perform (.check neutral result)).1, 1) := by
  simp [perform, guard, isClear, clear]

/-- Guarded work does not run while a fault is kept. The call succeeds all the
same, with the neutral value. -/
theorem guard_of_held {latch : Latch} {kept : Fault} (held : latch.held = some kept) (neutral : α)
    (result : Except Fault α) :
    latch.perform (.guard neutral result) = (⟨latch, .ok (some neutral), []⟩, 0) := by
  simp [perform, guard, isClear, held]

/-- What a call makes a latch keep is reported, and nothing else is.

Proof: flagging is a delivery, and so is checking a failed result; a good one
leaves the latch alone. Guarded work does nothing to a latch that keeps a fault,
and on a clear one it is checked. -/
theorem perform_notes (latch : Latch) (call : Call α) :
    latch.Notes (latch.perform call).1.state (latch.perform call).1.events := by
  have checked (neutral : α) (result : Except Fault α) :
      latch.Notes (latch.perform (.check neutral result)).1.state
        (latch.perform (.check neutral result)).1.events := by
    cases result with
    | ok value => exact .nothing
    | error fault => exact deliver_notes ..
  cases call with
  | flag fault => exact deliver_notes ..
  | flagViolation fault => exact deliver_notes ..
  | check neutral result => exact checked neutral result
  | guard neutral result =>
    cases held : latch.held with
    | some kept =>
      rw [guard_of_held held]
      exact .nothing
    | none =>
      rw [guard_of_clear held]
      exact checked neutral result

/-- No call changes a latch that keeps a fault. This is what makes the first
fault the last word. -/
theorem perform_of_held {latch : Latch} {kept : Fault} (held : latch.held = some kept)
    (call : Call α) : (latch.perform call).1.state = latch :=
  ((perform_notes latch call).of_held held).1

/-- The fault that a call brings to a latch, if guarded work ran so often. It is
read off the call and does not depend on what is kept. -/
def Call.delivered? (runs : Nat) : Call α → Option Fault
  | .flag fault | .flagViolation fault => some fault
  | .check _ (.error fault) => some fault
  | .guard _ (.error fault) => if runs = 0 then none else some fault
  | _ => none

/-- A clear latch keeps what a call brings to it. If that is nothing, the call
succeeded and the latch is still clear. -/
theorem perform_delivered {latch : Latch} (clear : latch.held = none) (call : Call α) :
    (latch.perform call).1.state.held =
      (call.delivered? (latch.perform call).2).or (latch.perform call).1.outcome.fault? := by
  have checked (neutral : α) (result : Except Fault α) :
      (latch.perform (.check neutral result)).1.state.held =
        (Call.delivered? 0 (.check neutral result)).or
          (latch.perform (.check neutral result)).1.outcome.fault? := by
    cases result with
    | ok value => exact clear
    | error fault =>
      simp only [perform, check, Except.map, flag, deliver_of_clear clear]
      rfl
  cases call with
  | flag fault =>
    simp only [perform, flag, deliver_of_clear clear]
    rfl
  | flagViolation fault =>
    simp only [perform, flagViolation, deliver_of_clear clear]
    rfl
  | check neutral result => exact checked neutral result
  | guard neutral result =>
    have same : Call.delivered? 1 (.guard neutral result) =
        Call.delivered? 0 (.check neutral result) := by cases result <;> rfl
    rw [guard_of_clear clear, same]
    exact checked neutral result

/-- No call changes whether the latch asserts, so it can be told from the
settings throughout a run. -/
theorem perform_asserts (latch : Latch) (call : Call α) :
    (latch.perform call).1.state.asserts = latch.asserts :=
  (perform_notes latch call).asserts

end Latch

end MessagePack
