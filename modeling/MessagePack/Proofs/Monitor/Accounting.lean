import MessagePack.Proofs.Monitor.Turn
import MessagePack.Proofs.Nesting.Reports

/-!
# Every failure is reported once

A stack reports a call that does not fit, and a latch reports the fault that it
keeps. In a monitor the two come together: a refused call is reported by the
stack and then by the latch, a call that lacks memory only by the latch. Neither
says anything after that, as a kept fault comes before all else. So the reports
of a whole life are the ones of the step that latched, if there was one.
-/

namespace MessagePack

/-- An event that tells which fault a latch keeps. Its severity is not part of
this, as it depends on how the fault came. -/
structure Event.TellsOfFault (event : Event) (fault : Fault) : Prop where
  target : event.target = "msgpack_core::error"
  fields : event.fields = [("error", fault.name)]

/-- A latch tells which fault it keeps. -/
theorem Event.latched_tells (fault : Fault) (breach : Bool) :
    (Event.latched fault breach).TellsOfFault fault := ⟨rfl, rfl⟩

namespace Monitor

variable {α : Type}

/-! ## Operations on the stack -/

/-- What an operation on the stack of a monitor reports while the fault that is
kept goes from one to another. Beside it stands what the operation does to the
bare stack.

Nothing happens unless the direction is tracked, no fault was kept and the bare
stack refuses. Then a violation is reported as the bare stack reports it, with a
warning of the latch after it, and missing memory by the latch alone. How the
operation went makes no difference, so all this is also so of a failed
assertion. -/
inductive Accounts {σ : Type} (tracked : Bool) (bare : Step σ Unit) :
    Option Fault → Option Fault → List Event → Prop where
  | silent {kept : Option Fault}
      (idle : kept.isSome = true ∨ tracked = false ∨ bare.outcome = .ok ()) :
      Accounts tracked bare kept kept []
  | violation {fault : Fault} {found told : Event} (tracking : tracked = true)
      (breach : fault = .misuse ∨ fault = .sizeExceeded) (refused : bare.outcome = .refused fault)
      (reported : bare.events = [found]) (level : told.level = .warn)
      (tells : told.TellsOfFault fault) :
      Accounts tracked bare none (some fault) [found, told]
  | memory {told : Event} (tracking : tracked = true) (lacking : bare.LacksMemory)
      (level : told.level = .debug) (tells : told.TellsOfFault .allocationFailure) :
      Accounts tracked bare none (some .allocationFailure) [told]

/-- A refusal that is delivered to a clear latch accounts for itself. The
stack's report, if there is one, stands before the latch's. -/
theorem deliverRefusal_accounts {σ : Type} {latch : Latch} (clear : latch.held = none)
    (before : σ) (refusal : Refusal) (verdict : Outcome Unit) :
    Accounts true (Nesting.settle before (.error refusal)) none
      (latch.deliverRefusal refusal verdict).state.held
      (latch.deliverRefusal refusal verdict).events := by
  rw [Latch.deliverRefusal, Latch.flagViolation, Latch.deliver_of_clear clear]
  cases refusal with
  | allocation => exact .memory rfl rfl rfl (Event.latched_tells ..)
  | violation cause =>
    have breach : (cause.fault != .allocationFailure) = true :=
      bne_iff_ne.mpr cause.fault_ne_allocationFailure
    have level : (Event.latched cause.fault true).level = .warn := rfl
    rw [← breach] at level
    exact .violation rfl cause.fault_cases rfl rfl level (Event.latched_tells ..)

/-- Every call on the stack of a monitor accounts for what it did.

Proof: by the cases of a call. A kept fault, a switch that is off and a call
that is carried out are the three reasons for silence. A refused call delivers
its refusal to a clear latch, which accounts for itself. -/
theorem perform_accounts (monitor : Monitor) (allocator : Allocator) (call : Nesting.Call) :
    Accounts monitor.enabled (monitor.nesting.perform allocator monitor.direction call)
      monitor.fault? (monitor.perform allocator call).state.fault?
      (monitor.perform allocator call).events := by
  rcases perform_cases monitor allocator call with
    ⟨kept, held, step⟩ | ⟨clear, untracked, step⟩ |
      ⟨clear, tracked, ⟨nesting, carried, step⟩ | ⟨refusal, refused, _⟩⟩
  · rw [step]
    exact .silent (.inl (by rw [held]; rfl))
  · rw [step]
    exact .silent (.inr (.inl untracked))
  · have bare : (monitor.nesting.perform allocator monitor.direction call).outcome = .ok () := by
      rw [Nesting.perform, carried]
      rfl
    rw [step]
    exact .silent (.inr (.inr bare))
  · rw [perform_delivers clear tracked refused, Nesting.perform, refused, tracked, clear]
    exact deliverRefusal_accounts clear monitor.nesting refusal (.refused refusal.fault)

/-- Giving a monitor up accounts for what was found open. The stack is asked
only where the direction is tracked, closing is not cancelled and no fault is
kept. -/
theorem close_accounts (monitor : Monitor) (cancel : Bool) :
    Accounts monitor.enabled (Nesting.settle () (monitor.nesting.destroy cancel)) monitor.fault?
      (monitor.close cancel).state.held (monitor.close cancel).events := by
  cases latched : monitor.fault? with
  | some kept =>
    rw [close_of_held latched]
    have held : monitor.latch.held = some kept := latched
    rw [held]
    exact .silent (.inl rfl)
  | none =>
    have clear : monitor.latch.held = none := latched
    cases tracked : monitor.enabled with
    | false =>
      have closed : monitor.nesting.destroy (monitor.overlooks cancel) = .ok () := by
        simp [overlooks, tracked, Nesting.destroy]
      rw [close_of_closed closed, clear]
      exact .silent (.inr (.inl rfl))
    | true =>
      have sees : monitor.overlooks cancel = cancel := by
        simp [overlooks, tracked, Latch.isClear, clear]
      cases destroyed : monitor.nesting.destroy cancel with
      | ok nothing =>
        rw [← sees] at destroyed
        rw [close_of_closed destroyed, clear]
        exact .silent (.inr (.inr rfl))
      | error refusal =>
        rw [← sees] at destroyed
        rw [close_of_open destroyed]
        exact deliverRefusal_accounts clear () refusal _

/-! ## Whole lives -/

/-- What is reported while the fault that is kept goes from one to another, over
one step or many: nothing, or one event of the latch, with at most one event of
the stack before it. It is what remains of `Accounts` when steps are put
together. -/
inductive ToldOnce : Option Fault → Option Fault → List Event → Prop where
  | nothing (kept : Option Fault) : ToldOnce kept kept []
  | latched {fault : Fault} {told : Event} (tells : told.TellsOfFault fault) :
      ToldOnce none (some fault) [told]
  | found {fault : Fault} {found told : Event} (target : found.target = "msgpack_core::track")
      (tells : told.TellsOfFault fault) : ToldOnce none (some fault) [found, told]

/-- One stretch after another is told once, as a fault that is kept is not
followed by another. If the first stretch told something, a fault is kept behind
it, and the second stretch can only be silent. -/
theorem ToldOnce.append {before between after : Option Fault} {events later : List Event}
    (first : ToldOnce before between events) (second : ToldOnce between after later) :
    ToldOnce before after (events ++ later) := by
  cases first with
  | nothing => exact second
  | latched tells =>
    cases second with
    | nothing => exact .latched tells
  | found target tells =>
    cases second with
    | nothing => exact .found target tells

/-- From a clear beginning there is one event of the latch if a fault is kept in
the end, and at most one event of the stack. -/
theorem ToldOnce.counts {kept : Option Fault} {events : List Event}
    (once : ToldOnce none kept events) :
    events.countP (·.target == "msgpack_core::track") ≤ 1 ∧
      events.countP (·.target == "msgpack_core::error") = if kept.isSome then 1 else 0 := by
  cases once with
  | nothing => exact ⟨Nat.zero_le 1, rfl⟩
  | latched tells => simp [tells.target]
  | found target tells => simp [target, tells.target]

/-- An operation that accounts for what it did tells it once. That the first of
two events is the stack's is known from what the bare stack reports. -/
theorem Accounts.toldOnce {σ : Type} {tracked : Bool} {frames : List Frame} {call : Nesting.Call}
    {initial : σ} {bare : Step σ Unit} {before after : Option Fault} {events : List Event}
    (accounts : Accounts tracked bare before after events)
    (reported : Nesting.Reported frames call initial bare) : ToldOnce before after events := by
  cases accounts with
  | silent => exact .nothing _
  | memory _ _ _ tells => exact .latched tells
  | @violation fault found told _ _ _ event _ tells =>
    have target : found.target = "msgpack_core::track" := by
      cases reported with
      | carried | lacking => cases event
      | refused _ shown =>
        cases event
        exact shown.target
    exact .found target tells

/-- What happens to a latch is told once. The stack has no part in it. -/
theorem toldOnce_of_notes {before after : Latch} {events : List Event}
    (notes : before.Notes after events) : ToldOnce before.held after.held events := by
  cases notes with
  | nothing => exact .nothing _
  | first fault breach clear =>
    rw [clear]
    exact .latched (Event.latched_tells fault breach)

/-- A turn that is a call on the stack accounts for what it did, and in any
other turn the latch alone reports. The two cases exclude one another, so a turn
is accounted for in one way only. -/
theorem take_accounts (monitor : Monitor) (turn : Turn α) :
    (∀ call, turn.deed = .act (.track call) →
      Accounts monitor.enabled
        (monitor.nesting.perform turn.allocator monitor.direction call) monitor.fault?
        (monitor.take turn).1.state.fault? (monitor.take turn).1.events) ∧
    ((∀ call, turn.deed ≠ .act (.track call)) →
      monitor.latch.Notes (monitor.take turn).1.state.latch (monitor.take turn).1.events) := by
  rcases take_cases monitor turn with ⟨call, deed, taken⟩ | ⟨owner, latch, state, notes⟩
  · refine ⟨?_, fun owner => absurd deed (owner call)⟩
    intro asked same
    cases deed.symm.trans same
    rw [taken]
    exact perform_accounts monitor turn.allocator call
  · refine ⟨fun call deed => absurd deed (owner call), ?_⟩
    intro _
    rw [state]
    exact notes

/-- A turn is told once. -/
theorem take_toldOnce (monitor : Monitor) (turn : Turn α) :
    ToldOnce monitor.fault? (monitor.take turn).1.state.fault? (monitor.take turn).1.events := by
  rcases take_cases monitor turn with ⟨call, _, taken⟩ | ⟨_, latch, state, notes⟩
  · have reported := monitor.nesting.perform_reported turn.allocator monitor.direction call
    rw [taken]
    exact (perform_accounts monitor turn.allocator call).toldOnce reported
  · rw [state]
    exact toldOnce_of_notes notes

/-- Giving a monitor up is told once. -/
theorem close_toldOnce (monitor : Monitor) (cancel : Bool) :
    ToldOnce monitor.fault? (monitor.close cancel).state.held (monitor.close cancel).events :=
  (close_accounts monitor cancel).toldOnce (monitor.nesting.destroy_reported cancel)

/-- All that is reported in some turns. -/
def reports (monitor : Monitor) (turns : List (Turn α)) : List Event :=
  (machine.reactions monitor turns).flatMap (·.1.events)

/-- Any turns are told once. A turn is, and one stretch after another is. -/
theorem reports_toldOnce (monitor : Monitor) (turns : List (Turn α)) :
    ToldOnce monitor.fault? (machine.after monitor turns).fault? (monitor.reports turns) := by
  induction turns generalizing monitor with
  | nil => exact .nothing _
  | cons turn turns inductionHypothesis =>
    exact (take_toldOnce monitor turn).append (inductionHypothesis (monitor.take turn).1.state)

/-- All that is reported in a life, which may end with giving the monitor up,
cancelled or not. -/
def lifeReports (monitor : Monitor) (turns : List (Turn α)) (ending : Option Bool) : List Event :=
  match ending with
  | none => monitor.reports turns
  | some cancel => monitor.reports turns ++ ((machine.after monitor turns).close cancel).events

/-- The fault that is kept at the end of a life. If the monitor was given up it
is the one in the latch that is left. -/
def lastFault? (monitor : Monitor) (turns : List (Turn α)) (ending : Option Bool) : Option Fault :=
  match ending with
  | none => (machine.after monitor turns).fault?
  | some cancel => ((machine.after monitor turns).close cancel).state.held

/-- A whole life is told once, whether or not it ends with giving the monitor
up. -/
theorem life_toldOnce (monitor : Monitor) (turns : List (Turn α)) (ending : Option Bool) :
    ToldOnce monitor.fault? (monitor.lastFault? turns ending)
      (monitor.lifeReports turns ending) := by
  cases ending with
  | none => exact reports_toldOnce monitor turns
  | some cancel => exact (reports_toldOnce monitor turns).append (close_toldOnce _ cancel)

/-- Every failure is reported exactly once.

On a bare stack a call that is carried out or lacks memory is not reported, and
neither is giving the stack up well. Any other call is refused, leaves the stack
as it was and is reported by one event, which tells only what is so of the call
and of the open compounds.

On a new monitor with any turns, every call on the stack and giving the monitor
up account for what they did. All that the owner does with the latch is reported
by the latch alone, and only if it latches. In a whole life there is at most one
event of the stack, and one event of the latch if a fault is kept at the end,
but none otherwise.

Proof: the reports of a stack are read off its three cases. Every monitor of a
run has the direction and the switch that it was made with, so at each moment a
call accounts for what the bare stack does in that direction, and the same is so
at the end. Each turn is told once, hence the whole life is, and a life that
begins with a clear latch has the counts that follow from this. -/
theorem failures_told_once :
    (∀ (nesting : Nesting) (allocator : Allocator) (direction : Direction) (call : Nesting.Call),
      Nesting.Reported nesting.frames call nesting (nesting.perform allocator direction call)) ∧
    (∀ (nesting : Nesting) (cancel : Bool),
      Nesting.Reported nesting.frames .checkEmpty () (Nesting.settle () (nesting.destroy cancel))) ∧
    ∀ (direction : Direction) (settings : Settings) (turns : List (Turn α)),
      let start := ofSettings direction settings
      let ended := machine.after start turns
      (∀ moment ∈ machine.moments start turns,
        (∀ call, moment.input.deed = .act (.track call) →
          Accounts (settings.tracks direction)
            (moment.before.nesting.perform moment.input.allocator direction call)
            moment.before.fault? moment.reaction.1.state.fault? moment.reaction.1.events) ∧
        ((∀ call, moment.input.deed ≠ .act (.track call)) →
          moment.before.latch.Notes moment.reaction.1.state.latch moment.reaction.1.events)) ∧
      (∀ cancel,
        Accounts (settings.tracks direction) (Nesting.settle () (ended.nesting.destroy cancel))
          ended.fault? (ended.close cancel).state.held (ended.close cancel).events) ∧
      ∀ ending,
        (start.lifeReports turns ending).countP (·.target == "msgpack_core::track") ≤ 1 ∧
          (start.lifeReports turns ending).countP (·.target == "msgpack_core::error") =
            if (start.lastFault? turns ending).isSome then 1 else 0 := by
  refine ⟨Nesting.perform_reported, Nesting.destroy_reported, ?_⟩
  intro direction settings turns start ended
  have switches (reached : Monitor) (turn : Turn α)
      (same : reached.direction = direction ∧ reached.enabled = settings.tracks direction) :
      (machine.next (machine.react reached turn)).direction = direction ∧
        (machine.next (machine.react reached turn)).enabled = settings.tracks direction := by
    obtain ⟨sameDirection, sameSwitch, _⟩ := take_switches reached turn
    exact ⟨sameDirection.trans same.1, sameSwitch.trans same.2⟩
  refine ⟨?_, ?_, ?_⟩
  · intro moment member
    have initially : start.direction = direction ∧ start.enabled = settings.tracks direction :=
      ⟨rfl, rfl⟩
    obtain ⟨⟨sameDirection, sameSwitch⟩, reaction⟩ :=
      machine.moments_keep _ switches initially turns moment member
    have accounts := take_accounts moment.before moment.input
    rw [sameDirection, sameSwitch] at accounts
    rw [reaction]
    exact accounts
  · intro cancel
    obtain ⟨_, sameSwitch, _⟩ := after_switches start turns
    have accounts := close_accounts ended cancel
    rw [sameSwitch] at accounts
    exact accounts
  · intro ending
    exact (life_toldOnce start turns ending).counts

/-- A writer that asserts closes an array too early, which is told before the
assertion fails, and asks for an element that is then refused silently. A reader
that lacks memory is told of by its latch alone. Both are silent when they are
given up. -/
theorem early_close_told_once :
    let track (call : Nesting.Call) (allocator : Allocator) : Turn Unit :=
      ⟨.act (.track call), allocator⟩
    let early := [track (.push .array 1) .unlimited, track (.pop .array) .unlimited,
      track .element .unlimited]
    let scarce := [track (.push .map 2) (.limited 0), track .element .unlimited]
    let writer := ofSettings .writing .asBuilt
    let reader := ofSettings .reading .asBuilt
    let start := machine.after writer (early.take 1)
    let shown (event : Event) := (event.level.name, event.target, event.message, event.fields)
    Accounts true (start.nesting.perform .unlimited .writing (.pop .array)) none (some .misuse)
        [.nesting (.unitsRemaining .array 1), .latched .misuse true] ∧
      (machine.reactions writer early).map (·.1.outcome) =
        [.ok none, .assertion .misuse, .refused .misuse] ∧
      (writer.lifeReports early (some false)).map shown =
        [("DEBUG", "msgpack_core::track", "closing a compound with units remaining",
            [("ty", "array"), ("left", "1")]),
          ("WARN", "msgpack_core::error", "api misuse latched", [("error", "bug")])] ∧
      (reader.lifeReports scarce (some false)).map shown =
        [("DEBUG", "msgpack_core::error", "error latched", [("error", "memory")])] ∧
      (reader.lifeReports scarce (some false)).countP (·.target == "msgpack_core::error") = 1 := by
  intro track early scarce writer reader start shown
  obtain ⟨_, _, lives⟩ := @failures_told_once Unit
  obtain ⟨moments, _, _⟩ := lives .writing .asBuilt early
  obtain ⟨_, _, counts⟩ := lives .reading .asBuilt scarce
  have taken : (⟨start, early[1], machine.react start early[1]⟩ : Moment _ _ _) ∈
      machine.moments writer early := List.mem_cons_of_mem _ List.mem_cons_self
  exact ⟨(moments _ taken).1 _ rfl, by decide, by decide, by decide, (counts (some false)).2⟩

end Monitor

end MessagePack
