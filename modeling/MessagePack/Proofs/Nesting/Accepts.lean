import MessagePack.Nesting.Basic
import MessagePack.Proofs.Machine

/-!
# Which calls a stack accepts

The calls that fit the open compounds are given by one rule for each kind of
call, without any regard to reserved room, and those that do not fit by one rule
for each reason. Every call is one or the other. The stack carries out exactly
the calls that fit, unless the room for a further frame cannot be had; all
others it refuses for their reasons. So what a stack does along a whole run
where memory does not run out is the repetition of these rules.
-/

namespace MessagePack

/-- Every request for room is granted, whatever the stack holds already and
however much it asks for. This is the condition under which what a stack does
depends on its frames alone. -/
def Allocator.Unfailing (allocator : Allocator) : Prop :=
  ∀ held needed, allocator.provide held needed ≠ none

/-- The allocator that grants whatever is asked of it never fails, so that the
condition can be met. -/
theorem Allocator.unlimited_unfailing : Allocator.unlimited.Unfailing := by
  intro held needed refused
  cases refused

/-- No violation of the call protocol is a lack of memory: a violation is misuse
or a size that is too large. This is how a refusal tells by its fault alone
whether memory was the reason. -/
theorem Violation.fault_ne_allocationFailure (violation : Violation) :
    violation.fault ≠ .allocationFailure := by
  cases violation <;> exact nofun

/-- A step answers that memory ran out. It speaks of the outcome of the step and
not of the allocator, since a call that needs no room is not touched by an
allocator that would refuse. -/
def Step.LacksMemory {σ α : Type} (step : Step σ α) : Prop :=
  step.outcome = .refused .allocationFailure

instance {σ α : Type} [DecidableEq α] (step : Step σ α) : Decidable step.LacksMemory :=
  inferInstanceAs (Decidable (step.outcome = .refused .allocationFailure))

namespace Nesting

/-- A call fits the open compounds, innermost first, and leaves others. There is
one rule for each kind of call, with what has to hold before the call as its
premises: a compound is opened if its units fit a counter, closed if none of its
units is left, and elements and bytes go by where they are counted and as long
as they last. Room and direction do not appear. -/
inductive Accepts : List Frame → Call → List Frame → Prop where
  | push {kind : Kind} {count left : UInt64} (frames : List Frame)
      (hasBody : kind.isCompound = true) (countable : Frame.units? kind count = some left) :
      Accepts frames (.push kind count) (⟨kind, left⟩ :: frames)
  | pop (kind : Kind) (outer : List Frame) : Accepts (⟨kind, 0⟩ :: outer) (.pop kind) outer
  | element {kind : Kind} {left : UInt64} (outer : List Frame)
      (inValues : kind.isByteCounted = false) (unfinished : left ≠ 0) :
      Accepts (⟨kind, left⟩ :: outer) .element (⟨kind, left - 1⟩ :: outer)
  | bytes {kind : Kind} {left count : UInt64} (outer : List Frame)
      (inBytes : kind.isByteCounted = true) (enough : count ≤ left) :
      Accepts (⟨kind, left⟩ :: outer) (.bytes count) (⟨kind, left - count⟩ :: outer)
  | checkEmpty : Accepts [] .checkEmpty []

/-- A call does not fit the open compounds, innermost first, for the reason that
a violation gives, with all that the report of the violation holds. There is one
rule for each reason. The direction only enters the reports of elements and
bytes, which name what the owner was doing. -/
inductive Refuses (direction : Direction) : List Frame → Call → Violation → Prop where
  | scalar {kind : Kind} (frames : List Frame) (count : UInt64)
      (noBody : kind.isCompound = false) :
      Refuses direction frames (.push kind count) (.scalar kind)
  | pairOverflow {kind : Kind} {count : UInt64} (frames : List Frame)
      (hasBody : kind.isCompound = true) (uncountable : Frame.units? kind count = none) :
      Refuses direction frames (.push kind count) (.pairOverflow count)
  | nothingToClose (kind : Kind) : Refuses direction [] (.pop kind) (.nothingToClose kind)
  | wrongKind {top : Frame} {kind : Kind} (outer : List Frame) (differs : top.kind ≠ kind) :
      Refuses direction (top :: outer) (.pop kind) (.wrongKind kind top.kind)
  | unitsRemaining {top : Frame} (outer : List Frame) (unfinished : top.left ≠ 0) :
      Refuses direction (top :: outer) (.pop top.kind) (.unitsRemaining top.kind top.left)
  | elementOutside : Refuses direction [] .element (.elementOutside direction)
  | elementAmongBytes {top : Frame} (outer : List Frame)
      (inBytes : top.kind.isByteCounted = true) :
      Refuses direction (top :: outer) .element (.elementAmongBytes direction top.kind)
  | tooManyElements {top : Frame} (outer : List Frame)
      (inValues : top.kind.isByteCounted = false) (finished : top.left = 0) :
      Refuses direction (top :: outer) .element (.tooManyElements direction top.kind)
  | bytesOutside (count : UInt64) :
      Refuses direction [] (.bytes count) (.bytesOutside direction count)
  | bytesAmongElements {top : Frame} (outer : List Frame) (count : UInt64)
      (inValues : top.kind.isByteCounted = false) :
      Refuses direction (top :: outer) (.bytes count)
        (.bytesAmongElements direction top.kind count)
  | tooManyBytes {top : Frame} {count : UInt64} (outer : List Frame)
      (inBytes : top.kind.isByteCounted = true) (short : top.left < count) :
      Refuses direction (top :: outer) (.bytes count)
        (.tooManyBytes direction top.kind count top.left)
  | unclosed (top : Frame) (outer : List Frame) :
      Refuses direction (top :: outer) .checkEmpty (.unclosed top.kind (outer.length + 1))

/-- Calls fit one after the other, each on the stack that the call before it
left. These are the runs without a refusal, told by the rules alone. -/
inductive AcceptsAll : List Frame → List Call → List Frame → Prop where
  | nil (frames : List Frame) : AcceptsAll frames [] frames
  | cons {before between after : List Frame} {call : Call} {calls : List Call}
      (first : Accepts before call between) (rest : AcceptsAll between calls after) :
      AcceptsAll before (call :: calls) after

/-- A call opens a compound. -/
def Call.isPush : Call → Bool
  | .push _ _ => true
  | _ => false

/-- A call closes a compound. -/
def Call.isPop : Call → Bool
  | .pop _ => true
  | _ => false

/-- The units of a compound that declares a size: two for each pair of a map,
since keys and values count alike, and otherwise the size itself. The number is
not bounded, unlike the counter of a frame. -/
def unitsOf (kind : Kind) (count : UInt64) : Nat :=
  if kind = .map then 2 * count.toNat else count.toNat

/-- A new frame can be made exactly if its units fit a counter, and then it
counts them. Only the doubling for a map can go beyond the counter, and the
first conjunct bounds it. -/
theorem units_iff (kind : Kind) (count left : UInt64) :
    Frame.units? kind count = some left ↔
      (kind = .map → 2 * count.toNat < UInt64.size) ∧ left.toNat = unitsOf kind count := by
  unfold Frame.units? unitsOf
  by_cases pairs : kind = .map
  · simp only [pairs, if_true, true_implies]
    by_cases fits : 2 * count.toNat < UInt64.size
    · have doubled : (2 * count).toNat = 2 * count.toNat := by
        rw [UInt64.toNat_mul]
        exact Nat.mod_eq_of_lt fits
      simp only [fits, if_true, Option.some.injEq, true_and]
      rw [← doubled, UInt64.toNat_inj, eq_comm]
    · simp [fits]
  · simp only [pairs, if_false, Option.some.injEq, false_implies, true_and]
    rw [UInt64.toNat_inj, eq_comm]

/-- Letting units go by takes them off the counter: as long as enough are left,
the subtraction of the counter is the one of numbers. -/
theorem toNat_sub_add {count left : UInt64} (enough : count ≤ left) :
    (left - count).toNat + count.toNat = left.toNat := by
  rw [UInt64.toNat_sub_of_le _ _ enough]
  exact Nat.sub_add_cancel (UInt64.le_iff_toNat_le.mp enough)

/-- Letting one unit go by takes one off the counter. This is the case of an
element, whose premise is that the counter is not zero. -/
theorem toNat_sub_one_add {left : UInt64} (unfinished : left ≠ 0) :
    (left - 1).toNat + 1 = left.toNat := by
  have positive : left.toNat ≠ 0 := fun none => unfinished (UInt64.toNat_inj.mp none)
  have enough : (1 : UInt64) ≤ left :=
    UInt64.le_iff_toNat_le.mpr (Nat.one_le_iff_ne_zero.mpr positive)
  exact toNat_sub_add enough

/-- A compound whose units fit a counter can be opened on any stack, and the new
frame counts exactly these units. -/
theorem accepts_push {kind : Kind} {count : UInt64} (frames : List Frame)
    (hasBody : kind.isCompound = true)
    (countable : kind = .map → 2 * count.toNat < UInt64.size) :
    ∃ left : UInt64, left.toNat = unitsOf kind count ∧
      Accepts frames (.push kind count) (⟨kind, left⟩ :: frames) := by
  have fits : unitsOf kind count < UInt64.size := by
    unfold unitsOf
    split
    · exact countable ‹_›
    · exact count.toNat_lt
  have counted : (UInt64.ofNat (unitsOf kind count)).toNat = unitsOf kind count :=
    UInt64.toNat_ofNat_of_lt' fits
  exact ⟨_, counted, .push frames hasBody ((units_iff kind count _).mpr ⟨countable, counted⟩)⟩

/-- Every call fits or does not fit for one of the reasons.

Proof: the case split follows the tests that the call makes, in their order. An
opening asks for a body and then for a counter, a closing for an open compound,
for its kind and then for its units, and elements and bytes for an open
compound, for what it counts and then for what is left. -/
theorem accepts_or_refuses (direction : Direction) (frames : List Frame) (call : Call) :
    (∃ after, Accepts frames call after) ∨
      ∃ violation, Refuses direction frames call violation := by
  cases call with
  | push kind count =>
    cases hasBody : kind.isCompound with
    | false => exact .inr ⟨_, .scalar frames count hasBody⟩
    | true =>
      cases countable : Frame.units? kind count with
      | none => exact .inr ⟨_, .pairOverflow frames hasBody countable⟩
      | some left => exact .inl ⟨_, .push frames hasBody countable⟩
  | pop kind =>
    cases frames with
    | nil => exact .inr ⟨_, .nothingToClose kind⟩
    | cons top outer =>
      obtain ⟨opened, left⟩ := top
      by_cases differs : opened = kind
      · subst differs
        by_cases finished : left = 0
        · subst finished
          exact .inl ⟨_, .pop opened outer⟩
        · exact .inr ⟨_, .unitsRemaining outer finished⟩
      · exact .inr ⟨_, .wrongKind outer differs⟩
  | element =>
    cases frames with
    | nil => exact .inr ⟨_, .elementOutside⟩
    | cons top outer =>
      cases counted : top.kind.isByteCounted with
      | true => exact .inr ⟨_, .elementAmongBytes outer counted⟩
      | false =>
        by_cases finished : top.left = 0
        · exact .inr ⟨_, .tooManyElements outer counted finished⟩
        · exact .inl ⟨_, .element outer counted finished⟩
  | bytes count =>
    cases frames with
    | nil => exact .inr ⟨_, .bytesOutside count⟩
    | cons top outer =>
      cases counted : top.kind.isByteCounted with
      | false => exact .inr ⟨_, .bytesAmongElements outer count counted⟩
      | true =>
        by_cases short : top.left < count
        · exact .inr ⟨_, .tooManyBytes outer counted short⟩
        · exact .inl ⟨_, .bytes outer counted (UInt64.not_lt.mp short)⟩
  | checkEmpty =>
    cases frames with
    | nil => exact .inl ⟨_, .checkEmpty⟩
    | cons top outer => exact .inr ⟨_, .unclosed top outer⟩

/-- A reason is misuse unless a map was to be opened, the one kind of compound
whose units may not fit a counter. -/
theorem Refuses.misuse_or_map {direction : Direction} {frames : List Frame} {call : Call}
    {violation : Violation} (refuses : Refuses direction frames call violation) :
    violation.fault = .misuse ∨ ∃ count, call = .push .map count := by
  cases refuses with
  | @pairOverflow kind count _ hasBody uncountable =>
    by_cases pairs : kind = .map
    · exact .inr ⟨count, by rw [pairs]⟩
    · simp [Frame.units?, pairs] at uncountable
  | _ => exact .inl rfl

/-- Two stretches of calls that fit fit together, if the second one starts on
the stack that the first one leaves. -/
theorem AcceptsAll.append {before between after : List Frame} {calls more : List Call}
    (first : AcceptsAll before calls between) (second : AcceptsAll between more after) :
    AcceptsAll before (calls ++ more) after := by
  induction first with
  | nil frames => exact second
  | cons fits _ inductionHypothesis => exact .cons fits (inductionHypothesis second)

/-- Calls that fit can be cut anywhere: both parts fit, with some stack between
them. -/
theorem AcceptsAll.split {before after : List Frame} {calls more : List Call}
    (whole : AcceptsAll before (calls ++ more) after) :
    ∃ between, AcceptsAll before calls between ∧ AcceptsAll between more after := by
  induction calls generalizing before with
  | nil => exact ⟨before, .nil before, whole⟩
  | cons call calls inductionHypothesis =>
    cases whole with
    | cons fits rest =>
      obtain ⟨between, first, second⟩ := inductionHypothesis rest
      exact ⟨between, .cons fits first, second⟩

/-- A compound is an array or a map unless it is counted in bytes. The tests of
elements and of bytes are thereby complements of each other. -/
theorem array_or_map_iff {kind : Kind} (hasBody : kind.isCompound = true) :
    kind = .array ∨ kind = .map ↔ kind.isByteCounted = false := by
  cases kind <;> simp_all [Kind.isCompound, Kind.isByteCounted]

/-- A call that fits puts only compounds on the stack. A closing only removes
one, and elements and bytes keep the kind of the frame that they count down. -/
theorem Accepts.compounds {before after : List Frame} {call : Call}
    (fits : Accepts before call after)
    (compounds : ∀ frame ∈ before, frame.kind.isCompound = true) :
    ∀ frame ∈ after, frame.kind.isCompound = true := by
  cases fits with
  | push _ hasBody countable => exact List.forall_mem_cons.mpr ⟨hasBody, compounds⟩
  | pop kind outer => exact (List.forall_mem_cons.mp compounds).2
  | element outer inValues unfinished =>
    obtain ⟨top, outside⟩ := List.forall_mem_cons.mp compounds
    exact List.forall_mem_cons.mpr ⟨top, outside⟩
  | bytes outer inBytes enough =>
    obtain ⟨top, outside⟩ := List.forall_mem_cons.mp compounds
    exact List.forall_mem_cons.mpr ⟨top, outside⟩
  | checkEmpty => exact compounds

/-! ## The stack carries out exactly the calls that fit -/

/-- Growing a stack changes its room and nothing else, and it fails only if a
request was refused. No request is made while there is room for one more
frame. -/
theorem grow_cases (allocator : Allocator) (nesting : Nesting) :
    (∃ capacity, nesting.grow allocator = .ok { nesting with capacity }) ∨
      nesting.grow allocator = .error .allocation ∧
        ∃ held needed, allocator.provide held needed = none := by
  simp only [grow, reserve]
  split
  · exact .inl ⟨nesting.capacity, rfl⟩
  · split
    · exact .inl ⟨_, rfl⟩
    · rename_i refused
      exact .inr ⟨rfl, _, _, refused⟩

/-- A call that fits is carried out with the stack that its rule gives, unless
room that it needs cannot be had. Only an opening can need room; for the other
calls the second alternative does not arise. -/
theorem attempt_of_accepts {nesting : Nesting} {call : Call} {frames : List Frame}
    (allocator : Allocator) (direction : Direction) (fits : Accepts nesting.frames call frames) :
    (∃ capacity, nesting.attempt allocator direction call = .ok { nesting with frames, capacity }) ∨
      nesting.attempt allocator direction call = .error .allocation ∧
        ∃ held needed, allocator.provide held needed = none := by
  obtain ⟨opened, capacity, initialCapacity⟩ := nesting
  cases fits with
  | @push kind count left _ hasBody countable =>
    simp only [attempt, push, hasBody, countable, if_true]
    split
    · rcases grow_cases allocator ⟨opened, capacity, initialCapacity⟩ with
        ⟨granted, grown⟩ | ⟨refused, request⟩
      · exact .inl ⟨granted, by rw [grown]; rfl⟩
      · exact .inr ⟨by rw [refused]; rfl, request⟩
    · exact .inl ⟨capacity, rfl⟩
  | pop kind outer => exact .inl ⟨capacity, by simp [attempt, pop]⟩
  | element outer inValues unfinished =>
    exact .inl ⟨capacity, by simp [attempt, element, inValues, unfinished]⟩
  | bytes outer inBytes enough =>
    exact .inl ⟨capacity, by simp [attempt, bytes, inBytes, UInt64.not_lt.mpr enough]⟩
  | checkEmpty => exact .inl ⟨capacity, by simp [attempt, checkEmpty]⟩

/-- A call that does not fit is refused for its reason, whatever the allocator
would have answered. The tests for violations thus come before any request for
room. -/
theorem Refuses.attempt_eq {nesting : Nesting} {call : Call} {violation : Violation}
    {direction : Direction} (refuses : Refuses direction nesting.frames call violation)
    (allocator : Allocator) :
    nesting.attempt allocator direction call = .error (.violation violation) := by
  obtain ⟨opened, capacity, initialCapacity⟩ := nesting
  cases refuses with
  | scalar _ count noBody => simp [attempt, push, noBody]
  | pairOverflow _ hasBody uncountable => simp [attempt, push, hasBody, uncountable]
  | wrongKind outer differs => simp [attempt, pop, differs]
  | unitsRemaining outer unfinished => simp [attempt, pop, unfinished]
  | elementAmongBytes outer inBytes => simp [attempt, element, inBytes]
  | tooManyElements outer inValues finished => simp [attempt, element, inValues, finished]
  | bytesAmongElements outer count inValues => simp [attempt, bytes, inValues]
  | tooManyBytes outer inBytes short => simp [attempt, bytes, inBytes, short]
  | _ => rfl

/-- A call that does not fit is refused as a violation, which is misuse unless a
map was opened. -/
theorem attempt_of_not_accepts {nesting : Nesting} {call : Call} (allocator : Allocator)
    (direction : Direction) (misfit : ∀ frames, ¬ Accepts nesting.frames call frames) :
    ∃ violation, nesting.attempt allocator direction call = .error (.violation violation) ∧
      (violation.fault = .misuse ∨ ∃ count, call = .push .map count) := by
  rcases accepts_or_refuses direction nesting.frames call with ⟨after, fits⟩ | ⟨violation, refuses⟩
  · exact absurd fits (misfit after)
  · exact ⟨violation, refuses.attempt_eq allocator, refuses.misuse_or_map⟩

/-- What was carried out did fit, and only the room may have changed beside the
frames.

Proof: a call that fits is carried out as its rule says or lacks room, and one
that does not fit is refused. Of these outcomes only the first is a success. -/
theorem accepts_of_attempt {nesting after : Nesting} {call : Call} {allocator : Allocator}
    {direction : Direction} (tried : nesting.attempt allocator direction call = .ok after) :
    Accepts nesting.frames call after.frames := by
  by_cases fits : ∃ frames, Accepts nesting.frames call frames
  · obtain ⟨frames, fits⟩ := fits
    rcases attempt_of_accepts allocator direction fits with ⟨capacity, carried⟩ | ⟨refused, _⟩
    · cases tried.symm.trans carried
      exact fits
    · cases tried.symm.trans refused
  · obtain ⟨violation, refused, _⟩ :=
      attempt_of_not_accepts allocator direction (not_exists.mp fits)
    cases tried.symm.trans refused

/-! ## Runs of a stack -/

/-- One call as it is made: what is called, the direction that it names and the
allocator that answers if room is needed. -/
structure Turn where
  call : Call
  direction : Direction
  allocator : Allocator

/-- The stack as a machine that goes on after refusals, with the stack that a
refused call leaves. The reactions of the machine are the steps that the owner
of a stack observes. -/
def machine : Machine Nesting Turn (Step Nesting Unit) where
  react nesting turn := nesting.perform turn.allocator turn.direction turn.call
  next step := step.state

/-- A call is carried out and fits, or it is refused and changes nothing. Every
statement about runs goes through these two cases. -/
theorem react_cases (nesting : Nesting) (turn : Turn) :
    (∃ after, machine.react nesting turn = ⟨after, .ok (), []⟩ ∧
      Accepts nesting.frames turn.call after.frames) ∨
    ∃ refusal : Refusal, machine.react nesting turn =
      ⟨nesting, .refused refusal.fault, refusal.events⟩ := by
  cases tried : nesting.attempt turn.allocator turn.direction turn.call with
  | ok after =>
    exact .inl ⟨after, by simp [machine, perform, tried, settle], accepts_of_attempt tried⟩
  | error refusal => exact .inr ⟨refusal, by simp [machine, perform, tried, settle]⟩

/-- A run without refusals is a sequence of calls that fit, whatever the
allocators are.

Proof: by induction on the run. The first step is a success, so that its call
fits, and the rest of the run starts on the stack that it left. -/
theorem acceptsAll_of_all_ok {nesting : Nesting} {turns : List Turn}
    (allOk : ∀ step ∈ machine.reactions nesting turns, step.outcome = .ok ()) :
    AcceptsAll nesting.frames (turns.map Turn.call) (machine.after nesting turns).frames := by
  induction turns generalizing nesting with
  | nil => exact .nil _
  | cons turn turns inductionHypothesis =>
    have first : (machine.react nesting turn).outcome = .ok () := allOk _ List.mem_cons_self
    have rest := inductionHypothesis fun step member => allOk step (List.mem_cons_of_mem _ member)
    rw [Machine.after_cons, List.map_cons]
    rcases react_cases nesting turn with ⟨after, reaction, fits⟩ | ⟨refusal, reaction⟩
    · rw [reaction] at rest ⊢
      exact .cons fits rest
    · rw [reaction] at first
      contradiction

/-- In a run no call answers that memory ran out. Refusals for other reasons are
allowed. -/
def Supplied (nesting : Nesting) (turns : List Turn) : Prop :=
  ∀ step ∈ machine.reactions nesting turns, ¬ step.LacksMemory

instance (nesting : Nesting) (turns : List Turn) : Decidable (Supplied nesting turns) :=
  inferInstanceAs (Decidable (∀ step ∈ machine.reactions nesting turns, ¬ step.LacksMemory))

/-- With an allocator that never fails no call lacks memory: a call that fits is
carried out, and one that does not is refused for a violation, which is not a
lack of memory. -/
theorem spared_of_unfailing {allocator : Allocator} (unfailing : allocator.Unfailing)
    (nesting : Nesting) (direction : Direction) (call : Call) :
    ¬ (nesting.perform allocator direction call).LacksMemory := by
  by_cases fits : ∃ frames, Accepts nesting.frames call frames
  · obtain ⟨frames, fits⟩ := fits
    rcases attempt_of_accepts allocator direction fits with
      ⟨capacity, carried⟩ | ⟨_, held, needed, refused⟩
    · rw [perform, carried]
      exact nofun
    · exact absurd refused (unfailing held needed)
  · obtain ⟨violation, refused, _⟩ :=
      attempt_of_not_accepts allocator direction (not_exists.mp fits)
    rw [perform, refused]
    intro lacking
    exact violation.fault_ne_allocationFailure (Outcome.refused.inj lacking)

/-- With allocators that never fail no run lacks memory, from any stack on. -/
theorem supplied_of_unfailing {turns : List Turn}
    (unfailing : ∀ turn ∈ turns, turn.allocator.Unfailing) (nesting : Nesting) :
    Supplied nesting turns := by
  induction turns generalizing nesting with
  | nil => exact List.forall_mem_nil _
  | cons turn turns inductionHypothesis =>
    obtain ⟨granting, later⟩ := List.forall_mem_cons.mp unfailing
    have first := spared_of_unfailing granting nesting turn.direction turn.call
    exact List.forall_mem_cons.mpr ⟨first, inductionHypothesis later _⟩

/-- Where memory does not run out, calls that fit run without refusals to their
stack.

Proof: by induction on the run. The first call fits, so it is carried out or
lacks memory, and the latter is excluded; the stack that it leaves has the
frames of its rule, which the rest of the calls fit. -/
theorem all_ok_of_supplied {nesting : Nesting} {turns : List Turn} {frames : List Frame}
    (supplied : Supplied nesting turns)
    (fits : AcceptsAll nesting.frames (turns.map Turn.call) frames) :
    (∀ step ∈ machine.reactions nesting turns, step.outcome = .ok ()) ∧
      (machine.after nesting turns).frames = frames := by
  induction turns generalizing nesting with
  | nil =>
    cases fits
    exact ⟨List.forall_mem_nil _, rfl⟩
  | cons turn turns inductionHypothesis =>
    obtain ⟨spared, later⟩ := List.forall_mem_cons.mp supplied
    rw [List.map_cons] at fits
    cases fits with
    | @cons _ between _ _ _ first rest =>
      rcases attempt_of_accepts turn.allocator turn.direction first with
        ⟨capacity, carried⟩ | ⟨refused, _⟩
      · have reaction : machine.react nesting turn =
            ⟨{ nesting with frames := between, capacity }, .ok (), []⟩ := by
          simp [machine, perform, carried, settle]
        obtain ⟨allOk, reached⟩ := @inductionHypothesis
          { nesting with frames := between, capacity } (by rw [reaction] at later; exact later) rest
        rw [Machine.reactions_cons, Machine.after_cons, reaction]
        exact ⟨List.forall_mem_cons.mpr ⟨rfl, allOk⟩, reached⟩
      · have reaction : machine.react nesting turn =
            ⟨nesting, .refused .allocationFailure, []⟩ := by
          simp [machine, perform, refused, settle, Refusal.fault, Refusal.events]
        exact absurd (congrArg Step.outcome reaction) spared

/-- With allocators that never fail, calls that fit run without refusals to
their stack. Together with `acceptsAll_of_all_ok` this makes the rules an exact
account of such runs. -/
theorem all_ok_of_acceptsAll {nesting : Nesting} {turns : List Turn} {frames : List Frame}
    (unfailing : ∀ turn ∈ turns, turn.allocator.Unfailing)
    (fits : AcceptsAll nesting.frames (turns.map Turn.call) frames) :
    (∀ step ∈ machine.reactions nesting turns, step.outcome = .ok ()) ∧
      (machine.after nesting turns).frames = frames :=
  all_ok_of_supplied (supplied_of_unfailing unfailing nesting) fits

end Nesting

end MessagePack
