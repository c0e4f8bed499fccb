import MessagePack.Nesting.Basic
import MessagePack.Proofs.Latch.Delivery

/-!
# Asserting and calm latches

Two latches that differ only in whether they assert, and the same calls on both.
The asserting one answers as the calm one does, except where a call makes it
keep a breach as its first fault: there it answers with an assertion. As a latch
keeps one fault for good, this can happen once in a run.

What a run shows is kept as a record, with one observation for each operation.
Records are made of runs of bare latches here and of runs of monitors elsewhere,
and what two of them have in common is said once for both.
-/

namespace MessagePack

variable {α : Type}

/-! ## Outcomes side by side -/

/-- The fault that a step kept as its first one, if the step's operation counts
it as a breach. It is read off what was kept before and after, so it does not
depend on how the step answered. -/
def newBreach (breaches : Fault → Bool) : (before held : Option Fault) → Option Fault
  | none, held => held.filter breaches
  | some _, _ => none

/-- A step that keeps what was kept before has no new breach. It may have been
refused for the old fault. -/
@[simp] theorem newBreach_unchanged (breaches : Fault → Bool) (kept : Option Fault) :
    newBreach breaches kept kept = none := by
  cases kept <;> rfl

/-- Where a fault was kept before there is no new breach, whatever is
delivered. -/
@[simp] theorem newBreach_of_kept (breaches : Fault → Bool) (kept : Fault) (held : Option Fault) :
    newBreach breaches (some kept) held = none := rfl

/-- A new breach is a first fault that counts as a breach, and every such fault
is one. -/
theorem newBreach_eq_some {breaches : Fault → Bool} {before held : Option Fault} {fault : Fault} :
    newBreach breaches before held = some fault ↔
      before = none ∧ held = some fault ∧ breaches fault = true := by
  cases before with
  | none => simp [newBreach, Option.filter_eq_some_iff]
  | some kept => simp [newBreach]

/-- The outcomes of an asserting and of a calm step. A new breach is asserted by
the first and not by the second; without one they agree and neither is an
assertion. What the calm step answers to a breach is left open, as it depends on
the call. -/
inductive Surfaces {β : Type} : Option Fault → Outcome β → Outcome β → Prop where
  | alike {outcome : Outcome β} (plain : ∀ fault, outcome ≠ .assertion fault) :
      Surfaces none outcome outcome
  | asserted (fault : Fault) {calm : Outcome β} (plain : ∀ other, calm ≠ .assertion other) :
      Surfaces (some fault) (.assertion fault) calm

namespace Surfaces

variable {β γ : Type} {breach : Option Fault} {strict calm : Outcome β}

/-- Without a new breach the outcomes agree. -/
theorem eq_of_none (surfaces : Surfaces none strict calm) : strict = calm := by
  cases surfaces with
  | alike => rfl

/-- The calm outcome is no assertion. -/
theorem calm_plain (surfaces : Surfaces breach strict calm) (fault : Fault) :
    calm ≠ .assertion fault := by
  cases surfaces with
  | alike plain => exact plain fault
  | asserted _ plain => exact plain fault

/-- The asserting outcome is an assertion for a new breach and for nothing
else. -/
theorem assertion_iff (surfaces : Surfaces breach strict calm) (fault : Fault) :
    strict = .assertion fault ↔ breach = some fault := by
  cases surfaces with
  | alike plain => simp [plain fault]
  | asserted other plain => simp

/-- Going on with what asserts nothing changes neither side of the comparison.
An assertion is passed on on its side, and the calm side stays free of them. -/
theorem bind (surfaces : Surfaces breach strict calm) {next : β → Outcome γ}
    (plain : ∀ value fault, next value ≠ .assertion fault) :
    Surfaces breach (strict.bind next) (calm.bind next) := by
  have bound {outcome : Outcome β} (unasserted : ∀ fault, outcome ≠ .assertion fault)
      (fault : Fault) : outcome.bind next ≠ .assertion fault := by
    cases outcome with
    | ok value => exact plain value fault
    | refused refusal => exact nofun
    | assertion asserted => exact absurd rfl (unasserted asserted)
  cases surfaces with
  | alike unasserted => exact .alike (bound unasserted)
  | asserted fault unasserted => exact .asserted fault (bound unasserted)

end Surfaces

/-- The text of a failed assertion, if an outcome is one. -/
def Outcome.assertionText? {β : Type} : Outcome β → Option String
  | .assertion fault => some fault.assertionText
  | _ => none

/-- An asserting step beside a calm one. Calming the state that the first leaves
gives the state that the second leaves, both report the same events, and only a
new breach tells them apart. The state may be a latch or anything that holds
one. -/
structure Paired {σ β : Type} (calmed : σ → σ) (breach : Option Fault) (strict calm : Step σ β) :
    Prop where
  state : calm.state = calmed strict.state
  events : calm.events = strict.events
  outcome : Surfaces breach strict.outcome calm.outcome

namespace Paired

variable {σ τ β γ : Type} {calmed : σ → σ} {breach : Option Fault} {strict calm : Step σ β}

/-- A value put in place on both sides leaves the steps paired, as it is put in
place of values only. -/
theorem replace (paired : Paired calmed breach strict calm) (value : γ) :
    Paired calmed breach (strict.replace value) (calm.replace value) where
  state := paired.state
  events := paired.events
  outcome := paired.outcome.bind nofun

/-- Paired steps are paired as steps of a larger object, if calming the part is
calming the whole. -/
theorem within (paired : Paired calmed breach strict calm) {embed calmEmbed : σ → τ}
    {whole : τ → τ} (embedded : ∀ state, calmEmbed (calmed state) = whole (embed state)) :
    Paired whole breach (strict.within embed) (calm.within calmEmbed) where
  state := by rw [Step.within, Step.within, paired.state, embedded]
  events := paired.events
  outcome := paired.outcome

end Paired

/-! ## Calls on both latches -/

namespace Latch

/-- The latch without assertions. Whatever it keeps it keeps on. -/
def calm (latch : Latch) : Latch := { latch with asserts := false }

/-- Which faults a call delivers as breaches. It is a question of the call
alone. -/
def Call.breaches : Call α → Fault → Bool
  | .flagViolation _, fault => fault != .allocationFailure
  | _, fault => fault.isMisuse

/-- A delivery to an asserting latch is paired with the same one to the calm
latch. Only here does the switch of a latch come in; everything else goes
through this. -/
theorem deliver_paired {latch : Latch} (asserts : latch.asserts = true) (breaches : Fault → Bool)
    (fault : Fault) :
    Paired calm (newBreach breaches latch.held (latch.deliver fault (breaches fault)).state.held)
      (latch.deliver fault (breaches fault)) (latch.calm.deliver fault (breaches fault)) := by
  cases held : latch.held with
  | some kept =>
    have calmHeld : latch.calm.held = some kept := held
    rw [deliver_of_held held, deliver_of_held calmHeld]
    exact ⟨rfl, rfl, .alike nofun⟩
  | none =>
    have calmClear : latch.calm.held = none := held
    rw [deliver_of_clear held, deliver_of_clear calmClear]
    have plain (other : Fault) : Outcome.ok () ≠ .assertion other := nofun
    refine ⟨rfl, rfl, ?_⟩
    cases breach : breaches fault with
    | false =>
      have unasserted : newBreach breaches none (some fault) = none := by
        simp [newBreach, Option.filter, breach]
      rw [unasserted]
      exact .alike plain
    | true =>
      have first : newBreach breaches none (some fault) = some fault :=
        newBreach_eq_some.mpr ⟨rfl, rfl, breach⟩
      rw [first, asserts]
      exact .asserted fault plain

/-- Delivering a refusal to an asserting latch is paired with delivering it to
the calm latch, where the verdict is no assertion itself. -/
theorem deliverRefusal_paired {latch : Latch} (asserts : latch.asserts = true) (refusal : Refusal)
    {verdict : Outcome Unit} (plain : ∀ fault, verdict ≠ .assertion fault) :
    Paired calm
      (newBreach (· != .allocationFailure) latch.held
        (latch.deliverRefusal refusal verdict).state.held)
      (latch.deliverRefusal refusal verdict) (latch.calm.deliverRefusal refusal verdict) := by
  have delivered := deliver_paired asserts (· != .allocationFailure) refusal.fault
  exact
    { state := delivered.state
      events := congrArg (refusal.events ++ ·) delivered.events
      outcome := delivered.outcome.bind fun _ => plain }

/-- A call on an asserting latch is paired with the same one on the calm latch,
and guarded work runs as often. The two latches keep the same, so either both
run it or none does. -/
theorem perform_paired {latch : Latch} (asserts : latch.asserts = true) (call : Call α) :
    Paired calm (newBreach call.breaches latch.held (latch.perform call).1.state.held)
        (latch.perform call).1 (latch.calm.perform call).1 ∧
      (latch.calm.perform call).2 = (latch.perform call).2 := by
  have checked (neutral : α) (result : Except Fault α) :
      Paired calm
        (newBreach Fault.isMisuse latch.held (latch.perform (.check neutral result)).1.state.held)
        (latch.perform (.check neutral result)).1
        (latch.calm.perform (.check neutral result)).1 := by
    cases result with
    | ok value =>
      have unchanged := newBreach_unchanged Fault.isMisuse latch.held
      have plain (other : Fault) : Outcome.ok (some value) ≠ .assertion other := nofun
      exact ⟨rfl, rfl, unchanged ▸ .alike plain⟩
    | error fault => exact (deliver_paired asserts Fault.isMisuse fault).replace (some neutral)
  cases call with
  | flag fault => exact ⟨(deliver_paired asserts Fault.isMisuse fault).replace none, rfl⟩
  | flagViolation fault =>
    exact ⟨(deliver_paired asserts (· != .allocationFailure) fault).replace none, rfl⟩
  | check neutral result => exact ⟨checked neutral result, rfl⟩
  | guard neutral result =>
    cases held : latch.held with
    | some kept =>
      have calmHeld : latch.calm.held = some kept := held
      rw [guard_of_held held, guard_of_held calmHeld]
      exact ⟨⟨rfl, rfl, .alike nofun⟩, rfl⟩
    | none =>
      have calmClear : latch.calm.held = none := held
      rw [guard_of_clear held, guard_of_clear calmClear, ← held]
      exact ⟨checked neutral result, rfl⟩

end Latch

/-! ## Records of runs -/

/-- What one operation of a run shows: which faults it would deliver as
breaches, the faults kept before and after it, the compounds open after it, what
it reported, how often guarded work ran and how it went. -/
structure Observation (α : Type) where
  breaches : Fault → Bool
  before : Option Fault
  held : Option Fault
  frames : List Frame
  events : List Event
  runs : Nat
  outcome : Outcome (Option α)

namespace Observation

/-- What the step of an operation shows on an object that has a latch and open
compounds. It is the same for a bare latch, which has no compounds, and for a
monitor. -/
def ofStep {σ : Type} (latch : σ → Latch) (frames : σ → List Frame) (breaches : Fault → Bool)
    (before : σ) (reply : Step σ (Option α) × Nat) : Observation α where
  breaches
  before := (latch before).held
  held := (latch reply.1.state).held
  frames := frames reply.1.state
  events := reply.1.events
  runs := reply.2
  outcome := reply.1.outcome

/-- All but how the operation went. Two observations are compared by this where
one may have failed an assertion. -/
def silent (observation : Observation α) : Observation α :=
  { observation with outcome := .ok none }

/-- Whether the operation failed an assertion. -/
def Asserted (observation : Observation α) : Prop :=
  ∃ fault, observation.outcome = .assertion fault

/-- The fault that the operation kept as a first one and as a breach, whether or
not it was asserted. -/
def breach (observation : Observation α) : Option Fault :=
  newBreach observation.breaches observation.before observation.held

/-- Operations that show the same and went the same way are seen as one. -/
theorem eq_of_silent {left right : Observation α} (silent : left.silent = right.silent)
    (outcome : left.outcome = right.outcome) : left = right := by
  obtain ⟨breaches, before, held, frames, events, runs, _⟩ := left
  simp only [Observation.silent, mk.injEq, and_true] at silent
  obtain ⟨rfl, rfl, rfl, rfl, rfl, rfl⟩ := silent
  subst outcome
  rfl

end Observation

/-- The records of an asserting and of a calm run that begin with the same fault
kept, or none. Each operation shows the same in both but for a new breach, and a
fault that is kept stays. The records go on side by side even behind an
assertion. -/
inductive Alongside : Option Fault → List (Observation α) → List (Observation α) → Prop where
  | done (kept : Option Fault) : Alongside kept [] []
  | step {strict calm : Observation α} {laterStrict laterCalm : List (Observation α)}
      (silent : strict.silent = calm.silent)
      (surfaces : Surfaces strict.breach strict.outcome calm.outcome)
      (sticky : ∀ fault, strict.before = some fault → strict.held = some fault)
      (later : Alongside strict.held laterStrict laterCalm) :
      Alongside strict.before (strict :: laterStrict) (calm :: laterCalm)

/-- An asserting record beside a calm one, where asserting changes only how the
first breach surfaces. Nothing is said of how the records were made. -/
structure OnlySurfaces (strict calm : List (Observation α)) : Prop where
  /-- Every operation shows the same in both but for how it went. -/
  silent : strict.map Observation.silent = calm.map Observation.silent
  /-- At most one operation went differently. -/
  once : ∃ index : Nat, ∀ other : Nat, other ≠ index → strict[other]? = calm[other]?
  /-- The calm record has no assertion. -/
  calm : ∀ observation ∈ calm, ¬ observation.Asserted
  /-- The asserting record has no two assertions. -/
  single : ∀ (first second : Nat) (left right : Observation α), strict[first]? = some left →
    strict[second]? = some right → left.Asserted → right.Asserted → first = second
  /-- An operation asserts a fault just if that is kept by it as the first one
  and as a breach. -/
  exactly : ∀ observation ∈ strict, ∀ fault, observation.outcome = .assertion fault ↔
    observation.before = none ∧ observation.held = some fault ∧ observation.breaches fault = true
  /-- The text of an assertion names the fault that is kept by then. -/
  text : ∀ observation ∈ strict, ∀ text, observation.outcome.assertionText? = some text →
    ∃ fault, observation.held = some fault ∧ text = "msgpack api misuse: " ++ fault.name

namespace Alongside

variable {kept : Option Fault} {strict calm : List (Observation α)}

/-- Paired steps go ahead of records that are alongside, where calming an object
changes neither the fault that its latch keeps nor its open compounds. With this
a run of any such object is compared one step at a time. -/
theorem ofStep {σ : Type} (latch : σ → Latch) (frames : σ → List Frame) {calmed : σ → σ}
    (sameHeld : ∀ state, (latch (calmed state)).held = (latch state).held)
    (sameFrames : ∀ state, frames (calmed state) = frames state) {breaches : Fault → Bool}
    {before : σ} {strictReply calmReply : Step σ (Option α) × Nat}
    (paired : Paired calmed
      (newBreach breaches (latch before).held (latch strictReply.1.state).held)
      strictReply.1 calmReply.1)
    (runs : calmReply.2 = strictReply.2)
    (sticky : ∀ fault, (latch before).held = some fault →
      (latch strictReply.1.state).held = some fault)
    (later : Alongside (latch strictReply.1.state).held strict calm) :
    Alongside (latch before).held
      (.ofStep latch frames breaches before strictReply :: strict)
      (.ofStep latch frames breaches (calmed before) calmReply :: calm) := by
  have silent : (Observation.ofStep latch frames breaches before strictReply).silent =
      (Observation.ofStep latch frames breaches (calmed before) calmReply).silent := by
    simp [Observation.ofStep, Observation.silent, paired.state, paired.events, runs, sameHeld,
      sameFrames]
  have surfaces : Surfaces (Observation.ofStep latch frames breaches before strictReply).breach
      strictReply.1.outcome calmReply.1.outcome := paired.outcome
  exact .step silent surfaces sticky later

/-- With a fault kept the records are the same. There can be no new breach in
them, and nothing but a new breach tells them apart. -/
theorem eq_of_held {fault : Fault} (alongside : Alongside (some fault) strict calm) :
    strict = calm := by
  generalize held : some fault = kept at alongside
  induction alongside with
  | done => rfl
  | step silent surfaces sticky later inductionHypothesis =>
    have same := inductionHypothesis (sticky fault held.symm).symm
    rw [Observation.breach, ← held, newBreach_of_kept] at surfaces
    rw [Observation.eq_of_silent silent surfaces.eq_of_none, same]

/-- Apart from how the operations went the records are the same, from the first
operation to the last. -/
theorem silent (alongside : Alongside kept strict calm) :
    strict.map Observation.silent = calm.map Observation.silent := by
  induction alongside with
  | done => rfl
  | step silent _ _ _ inductionHypothesis =>
    rw [List.map_cons, List.map_cons, silent, inductionHypothesis]

/-- The records part at one operation at most.

Proof: by induction on the records. As long as there is no new breach the
operations are the same in both. At the first breach a fault is kept, so the
records behind it are the same. -/
theorem once (alongside : Alongside kept strict calm) :
    ∃ index : Nat, ∀ other : Nat, other ≠ index → strict[other]? = calm[other]? := by
  induction alongside with
  | done => exact ⟨0, fun _ _ => rfl⟩
  | @step first calmFirst _ _ silent surfaces _ later inductionHypothesis =>
    cases breach : first.breach with
    | none =>
      rw [breach] at surfaces
      have same : first = calmFirst := Observation.eq_of_silent silent surfaces.eq_of_none
      obtain ⟨index, elsewhere⟩ := inductionHypothesis
      refine ⟨index + 1, ?_⟩
      intro other distinct
      cases other with
      | zero => rw [List.getElem?_cons_zero, List.getElem?_cons_zero, same]
      | succ other => exact elsewhere other fun reached => distinct (congrArg (· + 1) reached)
    | some fault =>
      obtain ⟨_, held, _⟩ := newBreach_eq_some.mp breach
      rw [held] at later
      refine ⟨0, ?_⟩
      intro other distinct
      cases other with
      | zero => exact absurd rfl distinct
      | succ other => rw [List.getElem?_cons_succ, List.getElem?_cons_succ, later.eq_of_held]

/-- The calm record has no assertion, as no operation of it fails one. -/
theorem unasserted (alongside : Alongside kept strict calm) :
    ∀ observation ∈ calm, ¬ observation.Asserted := by
  induction alongside with
  | done =>
    intro observation member
    cases member
  | step _ surfaces _ _ inductionHypothesis =>
    intro observation member
    rcases List.mem_cons.mp member with rfl | later
    · rintro ⟨fault, outcome⟩
      exact surfaces.calm_plain fault outcome
    · exact inductionHypothesis observation later

/-- An assertion of the asserting record is a new breach, and the other way
round. This holds of every operation by itself. -/
theorem asserts_iff (alongside : Alongside kept strict calm) :
    ∀ observation ∈ strict, ∀ fault,
      observation.outcome = .assertion fault ↔ observation.breach = some fault := by
  induction alongside with
  | done =>
    intro observation member
    cases member
  | step _ surfaces _ _ inductionHypothesis =>
    intro observation member
    rcases List.mem_cons.mp member with rfl | later
    · exact surfaces.assertion_iff
    · exact inductionHypothesis observation later

/-- Records that are alongside differ only in how the first breach surfaces.

Proof: the records part at one operation at most, and where they do not part
nothing is asserted, as the calm one never asserts. So all assertions are at
that operation. Which fault is asserted there is the new breach, and it is kept
by then, as the text of the assertion says. -/
theorem onlySurfaces (alongside : Alongside kept strict calm) : OnlySurfaces strict calm := by
  obtain ⟨index, elsewhere⟩ := alongside.once
  have unasserted := alongside.unasserted
  have atIndex (position : Nat) (observation : Observation α)
      (found : strict[position]? = some observation) (asserted : observation.Asserted) :
      position = index := by
    by_cases here : position = index
    · exact here
    · rw [elsewhere position here] at found
      exact absurd asserted (unasserted observation (List.mem_of_getElem? found))
  have exactly (observation : Observation α) (member : observation ∈ strict) (fault : Fault) :=
    (alongside.asserts_iff observation member fault).trans newBreach_eq_some
  refine ⟨alongside.silent, ⟨index, elsewhere⟩, unasserted, ?_, exactly, ?_⟩
  · intro first second left right foundLeft foundRight leftAsserted rightAsserted
    rw [atIndex first left foundLeft leftAsserted, atIndex second right foundRight rightAsserted]
  · intro observation member text told
    cases outcome : observation.outcome with
    | ok value =>
      rw [outcome] at told
      cases told
    | refused fault =>
      rw [outcome] at told
      cases told
    | assertion fault =>
      rw [outcome] at told
      obtain ⟨_, held, _⟩ := (exactly observation member fault).mp outcome
      exact ⟨fault, held, (Option.some.inj told).symm⟩

end Alongside

/-! ## Runs of bare latches -/

namespace Latch

/-- What a moment of a run of a bare latch shows. There are no compounds. -/
def observation (moment : Moment Latch (Call α) (Step Latch (Option α) × Nat)) : Observation α :=
  .ofStep id (fun _ => []) moment.input.breaches moment.before moment.reaction

/-- The record of a run, with one observation for each call. -/
def record (latch : Latch) (calls : List (Call α)) : List (Observation α) :=
  (machine.moments latch calls).map observation

/-- The records of an asserting latch and of the calm one are alongside.

Proof: by induction on the calls. The first call is paired on the two latches,
and calming the latch that it leaves gives the calm one's latch, so the rest is
again a run of a latch and of its calm one. -/
theorem record_alongside {latch : Latch} (asserts : latch.asserts = true) (calls : List (Call α)) :
    Alongside latch.held (latch.record calls) (latch.calm.record calls) := by
  induction calls generalizing latch with
  | nil => exact .done latch.held
  | cons call calls inductionHypothesis =>
    obtain ⟨paired, runs⟩ := perform_paired asserts call
    have later := inductionHypothesis ((perform_asserts latch call).trans asserts)
    rw [← paired.state] at later
    have sticky (fault : Fault) (held : latch.held = some fault) :
        (latch.perform call).1.state.held = some fault := by
      rw [perform_of_held held call]
      exact held
    have sameHeld (state : Latch) : state.calm.held = state.held := rfl
    exact .ofStep id (fun _ => []) sameHeld (fun _ => rfl) paired runs sticky later

end Latch

end MessagePack
