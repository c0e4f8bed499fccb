import Mathlib.Data.List.Forall2
import MessagePack.Proofs.Monitor.Turn
import MessagePack.Proofs.Nesting.Reports

/-!
# Readers and writers as mirror images

A monitor knows whether it belongs to a reader or to a writer. It looks at its
direction when it is made, for the switch that it obeys, and later only to name
the direction in reports of calls that let units go by. So two monitors with the
same state but for their directions go through any life alike: in outcome,
stack, latch and reports, apart from that one word.
-/

namespace MessagePack

/-! ## The other direction -/

/-- The refusal that the same call in the other direction meets. Missing memory
has no direction. -/
def Refusal.opposite : Refusal → Refusal
  | violation cause => violation cause.opposite
  | allocation => allocation

/-- The same report on a call in the other direction. A latch does not know the
direction, so its reports stay. -/
def Event.opposite : Event → Event
  | nesting cause => nesting cause.opposite
  | latched fault breach => latched fault breach

/-- Refusals in both directions count as the same fault. -/
@[simp] theorem Refusal.opposite_fault (refusal : Refusal) :
    refusal.opposite.fault = refusal.fault := by
  cases refusal with
  | violation cause => exact cause.opposite_fault
  | allocation => rfl

/-- What is reported of a refusal names the other direction. -/
@[simp] theorem Refusal.opposite_events (refusal : Refusal) :
    refusal.opposite.events = refusal.events.map Event.opposite := by
  cases refusal <;> rfl

/-- In the other direction the stack carries out the same calls and refuses the
others for the same reasons. Room is made in the same way for both, as an
opening names no direction. -/
theorem Nesting.attempt_opposite (nesting : Nesting) (allocator : Allocator)
    (direction : Direction) (call : Call) :
    nesting.attempt allocator direction.opposite call =
      (nesting.attempt allocator direction call).mapError Refusal.opposite := by
  rw [attempt_eq_plain, attempt_eq_plain, attemptPlain_opposite]
  cases attemptPlain direction nesting.frames call with
  | error violation => rfl
  | ok frames =>
    cases call.isPush with
    | false => rfl
    | true =>
      rcases makeRoom_cases allocator nesting with ⟨capacity, made⟩ | refused
      · rw [made]
        rfl
      · rw [refused]
        rfl

/-- What a latch reports names no direction. So whatever is done with the latch
is reported alike. -/
theorem Latch.Notes.opposite_events {before after : Latch} {events : List Event}
    (notes : before.Notes after events) : events.map Event.opposite = events := by
  cases notes <;> rfl

namespace Monitor

variable {α : Type}

/-- The monitor of the other direction with the same state, the switch that it
obeys included. -/
def opposite (monitor : Monitor) : Monitor :=
  { monitor with direction := monitor.direction.opposite }

/-- The same step on the monitor of the other direction. The outcome is not
touched, since faults have no direction. -/
def oppositeStep {β : Type} (step : Step Monitor β) : Step Monitor β :=
  ⟨step.state.opposite, step.outcome, step.events.map Event.opposite⟩

/-- A call on the stack does the same to the monitor of the other direction.

Proof: by the cases of a call. A kept fault and the switch are the same on both
sides. The stack is asked in the other direction, where it carries out the same
calls and meets the opposite of a refusal, which counts as the same fault. -/
theorem perform_opposite (monitor : Monitor) (allocator : Allocator) (call : Nesting.Call) :
    monitor.opposite.perform allocator call = oppositeStep (monitor.perform allocator call) := by
  have tried := monitor.nesting.attempt_opposite allocator monitor.direction call
  rcases perform_cases monitor allocator call with
    ⟨kept, held, step⟩ | ⟨clear, untracked, step⟩ |
      ⟨clear, tracked, ⟨nesting, carried, step⟩ | ⟨refusal, refused, step⟩⟩
  · have oppositeHeld : monitor.opposite.fault? = some kept := held
    rw [step, perform_of_held oppositeHeld]
    rfl
  · have oppositeClear : monitor.opposite.fault? = none := clear
    have oppositeUntracked : monitor.opposite.enabled = false := untracked
    rw [step, perform_of_untracked oppositeClear oppositeUntracked]
    rfl
  · have oppositeClear : monitor.opposite.fault? = none := clear
    have oppositeTracked : monitor.opposite.enabled = true := tracked
    have oppositeCarried : monitor.opposite.nesting.attempt allocator monitor.opposite.direction
        call = .ok nesting := by
      rw [carried] at tried
      exact tried
    rw [step, perform_of_carried oppositeClear oppositeTracked oppositeCarried]
    rfl
  · have oppositeClear : monitor.opposite.fault? = none := clear
    have oppositeTracked : monitor.opposite.enabled = true := tracked
    have oppositeRefused : monitor.opposite.nesting.attempt allocator monitor.opposite.direction
        call = .error refusal.opposite := by
      rw [refused] at tried
      exact tried
    rw [step, perform_of_refused oppositeClear oppositeTracked oppositeRefused,
      Refusal.opposite_fault, Refusal.opposite_events, oppositeStep, List.map_append]
    rfl

/-- What is done to the latch does the same to the monitor of the other
direction. -/
theorem within_opposite {β : Type} {monitor : Monitor} {step : Step Latch β}
    (notes : monitor.latch.Notes step.state step.events) :
    step.within monitor.opposite.withLatch = oppositeStep (step.within monitor.withLatch) := by
  have events : (step.within monitor.withLatch).events.map Event.opposite = step.events :=
    notes.opposite_events
  rw [oppositeStep, events]
  rfl

/-- A turn does the same to the monitor of the other direction. This is an
equation and not only a relation, so that runs can be compared by rewriting. -/
theorem take_opposite (monitor : Monitor) (turn : Turn α) :
    monitor.opposite.take turn = (oppositeStep (monitor.take turn).1, (monitor.take turn).2) := by
  obtain ⟨deed, allocator⟩ := turn
  cases deed with
  | flag fault =>
    have step := within_opposite (monitor.latch.deliver_notes fault fault.isMisuse)
    exact congrArg (fun step => (step.replace none, 0)) step
  | act action =>
    cases action with
    | track call =>
      have step := perform_opposite monitor allocator call
      exact congrArg (fun step => (step.replace none, 0)) step
    | latch call =>
      have step := within_opposite (monitor.latch.perform_notes call)
      exact congrArg (·, (monitor.latch.perform call).2) step

/-- Giving up the monitor of the other direction does the same, as a compound
left open is reported without a direction. -/
theorem close_opposite (monitor : Monitor) (cancel : Bool) :
    monitor.opposite.close cancel = monitor.close cancel := rfl

/-! ## What is different -/

/-- Reports by a reader and by a writer that differ in one word of the message.
All else in the two reports is the same. -/
structure Reworded (reading writing : Event) : Prop where
  level : reading.level = writing.level
  target : reading.target = writing.target
  fields : reading.fields = writing.fields
  message : ∃ opening rest, reading.message = opening ++ "read" ++ rest ∧
    writing.message = opening ++ "written" ++ rest

/-- Whether the deed of a turn is a call that lets units go by. -/
def Turn.letsBy (turn : Turn α) : Bool :=
  match turn.deed with
  | .act (.track call) => call.letsBy
  | _ => false

/-- What a reader and a writer report in the same turn. It is the same, except
where a call that lets units go by fails: the first report, if there is one, is
worded for the direction. A latch reports behind the stack and in the same words
for both. -/
inductive ReportsAlike (turn : Turn α) (outcome : Outcome (Option α)) :
    List Event → List Event → Prop where
  | same {events : List Event} (wordless : turn.letsBy = true → events = []) :
      ReportsAlike turn outcome events events
  | reworded {reading writing : Event} (letsBy : turn.letsBy = true)
      (failed : outcome.isOk = false) (differs : Reworded reading writing) (later : List Event) :
      ReportsAlike turn outcome (reading :: later) (writing :: later)

/-- A moment of a reader's run and one of a writer's run that look alike. The
states before the moment are left out, as each is the state behind another
moment or the beginning. -/
structure Alike (reading writing : Moment Monitor (Turn α) (Step Monitor (Option α) × Nat)) :
    Prop where
  input : reading.input = writing.input
  outcome : reading.reaction.1.outcome = writing.reaction.1.outcome
  /-- The latch, the stack with its room and the switch are the same. -/
  state : reading.reaction.1.state.opposite = writing.reaction.1.state
  /-- Guarded work ran as often. -/
  runs : reading.reaction.2 = writing.reaction.2
  events : ReportsAlike reading.input reading.reaction.1.outcome reading.reaction.1.events
    writing.reaction.1.events

/-- A violation that names the reader is reported by a writer with another
word. -/
theorem reworded_opposite {violation : Violation}
    (named : violation.direction? = some .reading) :
    Reworded (.nesting violation) (.nesting violation.opposite) where
  level := rfl
  target := rfl
  fields := violation.opposite_fields.symm
  message := violation.opposite_message named

/-- A violation that a reader meets and the same one that a writer meets are
reported alike. -/
theorem violation_reportsAlike {frames : List Frame} {call : Nesting.Call} {violation : Violation}
    (refuses : Nesting.Refuses .reading frames call violation) (allocator : Allocator)
    {outcome : Outcome (Option α)} (failed : outcome.isOk = false) (later : List Event) :
    ReportsAlike (⟨.act (.track call), allocator⟩ : Turn α) outcome
      (.nesting violation :: later) (.nesting violation.opposite :: later) := by
  have named := refuses.direction?
  cases letsBy : (⟨.act (.track call), allocator⟩ : Turn α).letsBy with
  | true =>
    have reader : violation.direction? = some .reading := named.trans (if_pos letsBy)
    exact .reworded letsBy failed (reworded_opposite reader) later
  | false =>
    have nameless : violation.direction? = none :=
      named.trans (if_neg (Bool.eq_false_iff.mp letsBy))
    rw [Violation.opposite_of_directionless nameless]
    exact .same fun wordless => absurd wordless (Bool.eq_false_iff.mp letsBy)

/-- A reader's call on its stack is reported like a writer's. A call that
succeeds or is refused for a kept fault reports nothing, and one that lacks
memory is an opening. -/
theorem perform_reportsAlike {monitor : Monitor} (reads : monitor.direction = .reading)
    (allocator : Allocator) (call : Nesting.Call) :
    ReportsAlike (⟨.act (.track call), allocator⟩ : Turn α)
      ((monitor.perform allocator call).replace none).outcome
      (monitor.perform allocator call).events
      ((monitor.perform allocator call).events.map Event.opposite) := by
  rcases perform_cases monitor allocator call with
    ⟨_, _, step⟩ | ⟨_, _, step⟩ | ⟨_, _, ⟨_, _, step⟩ | ⟨refusal, refused, step⟩⟩
  · rw [step]
    exact .same fun _ => rfl
  · rw [step]
    exact .same fun _ => rfl
  · rw [step]
    exact .same fun _ => rfl
  · rw [reads] at refused
    rcases Nesting.attempt_cases monitor.nesting allocator .reading call with
      ⟨_, _, _, carried⟩ | ⟨violation, misfit, tried⟩ | ⟨opening, _, lacking⟩
    · cases refused.symm.trans carried
    · cases refused.symm.trans tried
      have failed : ((monitor.perform allocator call).replace (none : Option α)).outcome.isOk =
          false := by
        rw [step, Step.replace]
        split <;> rfl
      have alike := violation_reportsAlike (Nesting.attemptPlain_eq_error_iff.mp misfit) allocator
        failed [.latched violation.fault (violation.fault != .allocationFailure)]
      rw [step] at alike ⊢
      exact alike
    · cases refused.symm.trans lacking
      rw [step]
      refine .same fun wordless => ?_
      cases call with
      | push => cases wordless
      | _ => cases opening

/-- A reader's turn is reported like a writer's. -/
theorem take_reportsAlike {monitor : Monitor} (reads : monitor.direction = .reading)
    (turn : Turn α) :
    ReportsAlike turn (monitor.take turn).1.outcome (monitor.take turn).1.events
      ((monitor.take turn).1.events.map Event.opposite) := by
  rcases take_cases monitor turn with ⟨call, deed, taken⟩ | ⟨owner, latch, _, notes⟩
  · obtain ⟨_, allocator⟩ := turn
    subst deed
    rw [taken]
    exact perform_reportsAlike reads allocator call
  · rw [notes.opposite_events]
    refine .same fun letsBy => ?_
    obtain ⟨deed, allocator⟩ := turn
    cases deed with
    | flag => cases letsBy
    | act action =>
      cases action with
      | track call => exact absurd rfl (owner call)
      | latch => cases letsBy

/-- A reader's turn and the same turn of a writer look alike. -/
theorem take_alike {monitor : Monitor} (reads : monitor.direction = .reading) (turn : Turn α) :
    Alike ⟨monitor, turn, monitor.take turn⟩
      ⟨monitor.opposite, turn, monitor.opposite.take turn⟩ := by
  rw [take_opposite]
  exact ⟨rfl, rfl, rfl, rfl, take_reportsAlike reads turn⟩

/-- A reader's run and the same run of a writer look alike at every moment, and
lead to the same state.

Proof: by induction on the turns. The first turn looks alike on both sides,
and the writer's next state is the mirror image of the reader's, which still
reads. -/
theorem moments_alike {monitor : Monitor} (reads : monitor.direction = .reading)
    (turns : List (Turn α)) :
    List.Forall₂ Alike (machine.moments monitor turns) (machine.moments monitor.opposite turns) ∧
      machine.after monitor.opposite turns = (machine.after monitor turns).opposite := by
  induction turns generalizing monitor with
  | nil => exact ⟨.nil, rfl⟩
  | cons turn turns inductionHypothesis =>
    have stillReads : (monitor.take turn).1.state.direction = .reading :=
      (take_switches monitor turn).1.trans reads
    have reached : (monitor.opposite.take turn).1.state = (monitor.take turn).1.state.opposite := by
      rw [take_opposite]
      rfl
    obtain ⟨later, ends⟩ := inductionHypothesis stillReads
    rw [← reached] at later ends
    exact ⟨.cons (take_alike reads turn) later, ends⟩

/-- A reader and a writer of settings that agree on assertions, on the initial
capacity and on the switches of the two directions, the reader's in one and the
writer's in the other, go through the same turns alike. At every moment
outcomes, assertions among them, and all of the state are the same, and so are
the reports but for the word `read` or `written` in the message of a failed call
that lets units go by. Both are given up in the same way, whether that is
cancelled or not.

So the switch of the opposite direction is not seen. A monitor is the same in
settings that differ in nothing else.

Proof: the writer is the mirror image of the reader, since each has the switch
of its own direction and these agree. So their runs look alike, and they are
given up in the same way. A monitor keeps no other switch than its own, and the
second part is seen when it is made. -/
theorem mirror_images :
    (∀ (settings other : Settings) (turns : List (Turn α)),
      settings.assertsMisuse = other.assertsMisuse →
      settings.initialCapacity = other.initialCapacity →
      settings.tracksReading = other.tracksWriting →
      let reader := ofSettings .reading settings
      let writer := ofSettings .writing other
      List.Forall₂ Alike (machine.moments reader turns) (machine.moments writer turns) ∧
        ∀ cancel, (machine.after reader turns).close cancel =
          (machine.after writer turns).close cancel) ∧
    ∀ (direction : Direction) (settings other : Settings),
      settings.assertsMisuse = other.assertsMisuse →
      settings.initialCapacity = other.initialCapacity →
      settings.tracks direction = other.tracks direction →
        ofSettings direction settings = ofSettings direction other := by
  refine ⟨?_, ?_⟩
  · intro settings other turns asserts capacity tracks reader writer
    have mirrored : writer = reader.opposite := by
      simp only [writer, reader, ofSettings, opposite, Latch.ofSettings, Settings.tracks, asserts,
        capacity, tracks]
      rfl
    have reads : reader.direction = .reading := rfl
    obtain ⟨alike, ends⟩ := moments_alike reads turns
    rw [mirrored, ends]
    exact ⟨alike, fun cancel => (close_opposite _ cancel).symm⟩
  · intro direction settings other asserts capacity tracks
    rw [ofSettings, ofSettings, Latch.ofSettings, Latch.ofSettings, asserts, capacity, tracks]

/-- A reader and a writer of settings in which the opposite direction is not
tracked, with an element too many. Each names its own direction. The switch that
is off is not seen. -/
theorem excess_element_mirrored :
    let readsOnly : Settings := { Settings.tracking with tracksWriting := false }
    let writesOnly : Settings := { Settings.tracking with tracksReading := false }
    let turns := [.push .array 1, .element, .element, .checkEmpty].map fun call =>
      (⟨.act (.track call), .unlimited⟩ : Turn Unit)
    let reader := ofSettings .reading readsOnly
    let writer := ofSettings .writing writesOnly
    let told (monitor : Monitor) :=
      (machine.reactions monitor turns).flatMap fun reply => reply.1.events.map Event.message
    List.Forall₂ Alike (machine.moments reader turns) (machine.moments writer turns) ∧
      (machine.after reader turns).close false = (machine.after writer turns).close false ∧
      told reader = ["too many elements read", "api misuse latched"] ∧
      told writer = ["too many elements written", "api misuse latched"] ∧
      ofSettings .reading readsOnly = ofSettings .reading .tracking := by
  intro readsOnly writesOnly turns reader writer told
  obtain ⟨mirrored, unseen⟩ := @mirror_images Unit
  obtain ⟨alike, ends⟩ := mirrored readsOnly writesOnly turns rfl rfl rfl
  exact ⟨alike, ends false, by decide, by decide, unseen .reading readsOnly .tracking rfl rfl rfl⟩

end Monitor

end MessagePack
