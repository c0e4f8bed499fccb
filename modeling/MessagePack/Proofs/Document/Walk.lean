import MessagePack.Proofs.Document.Basic
import MessagePack.Proofs.Monitor.Turn

/-!
# Monitored walks tell whether a document is truthful

A new tracking monitor takes every call of a walk without a refusal exactly if
the document is truthful. Otherwise the first call that it refuses is the first
one in the walk that exposes a lie; it is refused as misuse, and so is all that
follows.

The marks of a walk agree with the stack at every point, whatever is open around
the document: the frame of a compound counts the declared units that the walk
has not yet passed. A walk that comes to its end leaves the stack as it was.
-/

namespace MessagePack.Document

open Nesting (Accepts)

/-- Running visits from one stack to another, the stack takes the calls up to
the first one that is marked, and it does not take that one. A call that it does
not take is no opening of a map, so that its refusal is misuse. -/
inductive Tells : List Frame → List Visit → List Frame → Prop where
  | done (frames : List Frame) : Tells frames [] frames
  | taken {before between after : List Frame} {visit : Visit} {visits : List Visit}
      (honest : visit.exposes = false) (fits : Accepts before visit.call between)
      (rest : Tells between visits after) : Tells before (visit :: visits) after
  | caught {before after : List Frame} {visit : Visit} {visits : List Visit}
      (lie : visit.exposes = true) (misfit : ∀ frames, ¬ Accepts before visit.call frames)
      (noMap : ∀ count, visit.call ≠ .push .map count) : Tells before (visit :: visits) after

/-- What tells of two stretches of visits tells of both together. If the first
stretch has a marked call, the second one is not come to. -/
theorem Tells.append {before between after : List Frame} {visits more : List Visit}
    (first : Tells before visits between) (second : Tells between more after) :
    Tells before (visits ++ more) after := by
  induction first with
  | done frames => exact second
  | taken honest fits _ inductionHypothesis =>
    exact .taken honest fits (inductionHypothesis second)
  | caught lie misfit noMap => exact .caught lie misfit noMap

/-- An element is marked exactly if none is left: then the stack does not take
it, and otherwise it does and goes on with one unit less. -/
theorem Tells.element {kind : Kind} {left : UInt64} {outer after : List Frame} {exposes : Bool}
    {visits : List Visit} (inValues : kind.isByteCounted = false)
    (marked : exposes = true ↔ left.toNat = 0)
    (rest : left ≠ 0 → Tells (⟨kind, left - 1⟩ :: outer) visits after) :
    Tells (⟨kind, left⟩ :: outer) (⟨.element, exposes⟩ :: visits) after := by
  rw [show left.toNat = 0 ↔ left = 0 from @UInt64.toNat_inj left 0] at marked
  by_cases none : left = 0
  · refine .caught (marked.mpr none) ?_ (by rintro count ⟨⟩)
    rintro frames (_ | _ | ⟨_, _, unfinished⟩)
    exact unfinished none
  · have honest : exposes = false := Bool.eq_false_iff.mpr fun lie => none (marked.mp lie)
    exact .taken honest (.element outer inValues none) (rest none)

/-- A piece is marked exactly if fewer bytes are left: then the stack does not
take it, and otherwise it does and goes on with so many bytes less. -/
theorem Tells.bytes {kind : Kind} {left count : UInt64} {outer after : List Frame} {exposes : Bool}
    {visits : List Visit} (inBytes : kind.isByteCounted = true)
    (marked : exposes = true ↔ left < count)
    (rest : count ≤ left → Tells (⟨kind, left - count⟩ :: outer) visits after) :
    Tells (⟨kind, left⟩ :: outer) (⟨.bytes count, exposes⟩ :: visits) after := by
  by_cases short : left < count
  · refine .caught (marked.mpr short) ?_ (by rintro count ⟨⟩)
    rintro frames (_ | _ | _ | ⟨_, _, enough⟩)
    exact UInt64.not_lt.mpr enough short
  · have enough : count ≤ left := UInt64.not_lt.mp short
    have honest : exposes = false := Bool.eq_false_iff.mpr fun lie => short (marked.mp lie)
    exact .taken honest (.bytes outer inBytes enough) (rest enough)

/-- A closing is marked exactly if units are left, in which case the stack does
not take it. Otherwise the compound goes off the stack. -/
theorem Tells.closing (header : Header) {left : UInt64} {actual : Nat} (outer : List Frame)
    (marked : actual < header.declaredSize.toNat ↔ left.toNat ≠ 0) :
    Tells (⟨header.kind, left⟩ :: outer) [Document.closing header actual] outer := by
  rw [Ne, show left.toNat = 0 ↔ left = 0 from @UInt64.toNat_inj left 0] at marked
  by_cases finished : left = 0
  · subst finished
    have complete : ¬ actual < header.declaredSize.toNat := fun early => marked.mp early rfl
    exact .taken (decide_eq_false complete) (.pop header.kind outer) (.done outer)
  · refine .caught (decide_eq_true (marked.mpr finished)) ?_ (by rintro count ⟨⟩)
    rintro frames (_ | _)
    exact finished rfl

/-- Opening a compound never exposes anything. Its frame counts one unit for
each declared element or byte and two for each declared pair. -/
theorem Tells.opening {header : Header} {visits : List Visit} {outer after : List Frame}
    (hasBody : header.isCompound = true)
    (countable : header.kind = .map → 2 * header.declaredSize.toNat < UInt64.size)
    (rest : ∀ left : UInt64, left.toNat = Nesting.unitsOf header.kind header.declaredSize →
      Tells (⟨header.kind, left⟩ :: outer) visits after) :
    Tells outer (Document.opening header :: visits) after := by
  obtain ⟨left, counted, opened⟩ := Nesting.accepts_push outer hasBody countable
  exact .taken rfl opened (rest left counted)

/-- The marks of the pieces and the closing of a body agree with its frame.

Proof: by induction on the pieces, with the bytes seen and the bytes left making
up the declared size. A piece goes beyond that size exactly if it is more than
is left, and the content is too small exactly if bytes are left at the end. -/
theorem walkPieces_tell {header : Header} (inBytes : header.kind.isByteCounted = true)
    (outer : List Frame) {left : UInt64} {seen : Nat} (pieces : List UInt64)
    (counted : seen + left.toNat = header.declaredSize.toNat) :
    Tells (⟨header.kind, left⟩ :: outer)
      (walkPieces header.declaredSize.toNat seen pieces ++ [closing header (seen + total pieces)])
      outer := by
  induction pieces generalizing left seen with
  | nil =>
    apply Tells.closing header
    simp only [total]
    omega
  | cons piece pieces inductionHypothesis =>
    apply Tells.bytes inBytes
    · rw [decide_eq_true_iff, UInt64.lt_iff_toNat_lt]
      omega
    · intro enough
      rw [total, ← Nat.add_assoc]
      apply inductionHypothesis
      have together := Nesting.toNat_sub_add enough
      omega

mutual

/-- The marks of a walk agree with any stack that it starts from, and a walk
that exposes nothing leaves the stack as it was.

Proof: by induction on the tree, together with the same for elements and
pairs. The frame of a compound starts with the declared units, of which a map
of any declared size has few enough to be counted, and what is inside agrees
with it. -/
theorem walk_tells (document : Document) (outer : List Frame) :
    Tells outer document.walk outer := by
  cases document with
  | scalar header single => exact .done outer
  | body header inBytes pieces =>
    have noMap : header.kind ≠ .map := by
      intro isMap
      rw [isMap] at inBytes
      cases inBytes
    apply Tells.opening (Kind.isCompound_of_isByteCounted inBytes) (absurd · noMap)
    intro left counted
    have whole : 0 + left.toNat = header.declaredSize.toNat := by
      rw [counted, Nesting.unitsOf, if_neg noMap, Nat.zero_add]
    have inside := walkPieces_tell inBytes outer pieces whole
    rwa [Nat.zero_add] at inside
  | array count elements =>
    apply Tells.opening rfl (by rintro ⟨⟩)
    intro left counted
    have whole : 0 + left.toNat = count.toNat := by
      rw [counted, Nat.zero_add]
      exact declaredSize_array count
    have inside := walkElements_tell count outer elements whole
    rwa [Nat.zero_add] at inside
  | map count pairs =>
    have small : 2 * (Header.map count).declaredSize.toNat < UInt64.size := by
      rw [declaredSize_map]
      have bound : count.toNat < UInt32.size := count.toNat_lt
      simp only [UInt32.size, UInt64.size] at bound ⊢
      omega
    apply Tells.opening rfl (fun _ => small)
    intro left counted
    have whole : 2 * 0 + left.toNat = 2 * count.toNat := by
      rw [counted, Nat.mul_zero, Nat.zero_add, ← declaredSize_map count]
      rfl
    have inside := walkPairs_tell count outer pairs whole
    rwa [Nat.zero_add] at inside

/-- The marks of the elements and the closing of an array agree with its frame:
the elements seen and the units left make up the declared count. The walk
through an element leaves the frame as it was. -/
theorem walkElements_tell (count : UInt32) (outer : List Frame) {left : UInt64} {seen : Nat}
    (elements : List Document) (counted : seen + left.toNat = count.toNat) :
    Tells (⟨.array, left⟩ :: outer) (walkElements count.toNat seen elements ++
      [closing (.array count) (seen + elements.length)]) outer := by
  cases elements with
  | nil =>
    apply Tells.closing (.array count)
    rw [declaredSize_array, List.length_nil]
    omega
  | cons element elements =>
    rw [walkElements, List.cons_append, List.append_assoc]
    apply Tells.element rfl
    · rw [decide_eq_true_iff]
      omega
    · intro unfinished
      have fewer := Nesting.toNat_sub_one_add unfinished
      have rest : Tells (⟨.array, left - 1⟩ :: outer)
          (walkElements count.toNat (seen + 1) elements ++
            [closing (.array count) (seen + 1 + elements.length)]) outer :=
        walkElements_tell count outer elements (by omega)
      rw [List.length_cons, Nat.add_comm elements.length, ← Nat.add_assoc]
      exact (walk_tells element _).append rest

/-- The marks of the pairs and the closing of a map agree with its frame. The
frame counts keys and values, so between a key and its value it is never used
up. -/
theorem walkPairs_tell (count : UInt32) (outer : List Frame) {left : UInt64} {seen : Nat}
    (pairs : List (Document × Document)) (counted : 2 * seen + left.toNat = 2 * count.toNat) :
    Tells (⟨.map, left⟩ :: outer) (walkPairs count.toNat seen pairs ++
      [closing (.map count) (seen + pairs.length)]) outer := by
  match pairs with
  | [] =>
    apply Tells.closing (.map count)
    rw [declaredSize_map, List.length_nil]
    omega
  | (key, value) :: pairs =>
    rw [walkPairs, List.cons_append, List.append_assoc, List.cons_append, List.append_assoc]
    apply Tells.element rfl
    · rw [decide_eq_true_iff]
      omega
    · intro unfinished
      have fewer := Nesting.toNat_sub_one_add unfinished
      apply (walk_tells key _).append
      apply Tells.element rfl
      · rw [decide_eq_true_iff]
        omega
      · intro stillUnfinished
        have stillFewer := Nesting.toNat_sub_one_add stillUnfinished
        have rest : Tells (⟨.map, left - 1 - 1⟩ :: outer)
            (walkPairs count.toNat (seen + 1) pairs ++
              [closing (.map count) (seen + 1 + pairs.length)]) outer :=
          walkPairs_tell count outer pairs (by omega)
        rw [List.length_cons, Nat.add_comm pairs.length, ← Nat.add_assoc]
        exact (walk_tells value _).append rest

end

/-! ## Walks under a monitor -/

section Monitored

open Monitor (Turn)

variable {α : Type}

/-- The turns make the calls of the visits, in order. The allocators of the
turns are left open. -/
def Makes (turns : List (Turn α)) (visits : List Visit) : Prop :=
  turns.map Turn.deed = visits.map fun visit => .act (.track visit.call)

/-- The first turn makes the call of the first visit, and the rest of the turns
the calls of the rest. -/
theorem Makes.cons_inv {turns : List (Turn α)} {visit : Visit} {visits : List Visit}
    (made : Makes turns (visit :: visits)) :
    ∃ allocator rest, turns = ⟨.act (.track visit.call), allocator⟩ :: rest ∧
      Makes rest visits := by
  obtain ⟨⟨deed, allocator⟩, rest, rfl, same, more⟩ := List.map_eq_cons_iff.mp made
  have walking : deed = .act (.track visit.call) := same
  exact ⟨allocator, rest, by rw [walking], more⟩

/-- There are as many turns as visits. -/
theorem Makes.length_eq {turns : List (Turn α)} {visits : List Visit} (made : Makes turns visits) :
    turns.length = visits.length := by
  simpa only [List.length_map] using congrArg List.length made

/-- All turns are calls on the stack of the monitor. -/
theorem Makes.onStack {turns : List (Turn α)} {visits : List Visit} (made : Makes turns visits) :
    ∀ turn ∈ turns, ∃ call, turn.deed = .act (.track call) := by
  intro turn member
  have deed : turn.deed ∈ turns.map Turn.deed := List.mem_map_of_mem member
  rw [made] at deed
  obtain ⟨visit, _, same⟩ := List.mem_map.mp deed
  exact ⟨visit.call, same.symm⟩

/-- A clear monitor that tracks and does not assert either takes all visits,
none of which is marked, or refuses the first marked one as misuse and then all
that follow it.

Proof: by induction on what the visits tell. A call that the stack takes is
carried out, since all room is granted, and leaves the monitor clear for the
rest. One that it does not take is kept as misuse; a monitor that holds a fault
answers with it from then on, so the marks of what follows do not matter any
more. -/
theorem Tells.monitored {before after : List Frame} {visits : List Visit}
    (tells : Tells before visits after) {monitor : Monitor} {turns : List (Turn α)}
    (around : monitor.nesting.frames = before) (tracked : monitor.enabled = true)
    (clear : monitor.fault? = none) (calm : monitor.latch.asserts = false)
    (made : Makes turns visits) (unfailing : ∀ turn ∈ turns, turn.allocator.Unfailing) :
    (Silent visits ∧ (Monitor.machine.after monitor turns).fault? = none ∧
      (Monitor.machine.after monitor turns).nesting.frames = after ∧
      (Monitor.machine.reactions monitor turns).map (·.1.outcome) =
        List.replicate visits.length (.ok none)) ∨
    ∃ past lie future, visits = past ++ lie :: future ∧ Silent past ∧ lie.exposes = true ∧
      (Monitor.machine.after monitor turns).fault? = some .misuse ∧
      (Monitor.machine.reactions monitor turns).map (·.1.outcome) =
        List.replicate past.length (.ok none) ++
          List.replicate (future.length + 1) (.refused .misuse) := by
  induction tells generalizing monitor turns with
  | done frames =>
    have noTurns : turns = [] := List.map_eq_nil_iff.mp made
    subst noTurns
    exact .inl ⟨silent_nil, clear, around, rfl⟩
  | @taken before between after visit visits honest fits _ inductionHypothesis =>
    obtain ⟨allocator, rest, rfl, more⟩ := made.cons_inv
    subst around
    have granting : allocator.Unfailing := unfailing ⟨_, allocator⟩ List.mem_cons_self
    obtain ⟨capacity, reaction⟩ := Monitor.react_of_accepts clear tracked fits granting
    have later := @inductionHypothesis
      { monitor with nesting := { monitor.nesting with frames := between, capacity } } rest
      rfl tracked clear calm more
      (fun turn member => unfailing turn (List.mem_cons_of_mem _ member))
    rw [Machine.after_cons, Machine.reactions_cons, reaction, List.map_cons]
    rcases later with
      ⟨silent, stillClear, final, outcomes⟩ |
      ⟨past, lie, future, rfl, silent, exposed, kept, outcomes⟩
    · exact .inl ⟨(silent_cons _ _).mpr ⟨honest, silent⟩, stillClear, final,
        congrArg (Outcome.ok none :: ·) outcomes⟩
    · exact .inr ⟨visit :: past, lie, future, rfl, (silent_cons _ _).mpr ⟨honest, silent⟩,
        exposed, kept, congrArg (Outcome.ok none :: ·) outcomes⟩
  | @caught before after visit visits lie misfit noMap =>
    obtain ⟨allocator, rest, rfl, more⟩ := made.cons_inv
    subst around
    obtain ⟨outcome, kept⟩ :=
      Monitor.react_of_misfit (α := α) clear tracked calm misfit noMap allocator
    have frozen := Monitor.outcomes_of_held kept more.onStack
    rw [more.length_eq] at frozen
    refine .inr ⟨[], visit, visits, rfl, silent_nil, lie, ?_, ?_⟩
    · rw [Machine.after_cons, Monitor.after_of_held kept]
      exact kept
    · rw [Machine.reactions_cons, List.map_cons, frozen, outcome]
      rfl

/-- A new tracking monitor, of a reader or a writer and granted all room, takes
every call of a walk and is closed well exactly if the document is truthful. If
it is not, the first call refused is the first one in the walk that exposes a
lie. It is refused as misuse, and so are all later calls and the closing.

Proof: the marks of the walk agree with the empty stack of a new monitor, so the
monitor takes all calls of an unmarked walk and is closed with nothing open, and
keeps the misuse of the first marked call up to its closing. That nothing is
marked is that the document is truthful. -/
theorem walk_truthful (direction : Direction) (document : Document) (turns : List (Turn α))
    (made : Makes turns document.walk) (unfailing : ∀ turn ∈ turns, turn.allocator.Unfailing) :
    let monitor := Monitor.ofSettings direction .tracking
    let outcomes := (Monitor.machine.reactions monitor turns).map (·.1.outcome)
    let verdict := ((Monitor.machine.after monitor turns).close false).outcome
    ((∀ outcome ∈ outcomes, outcome = .ok none) ∧ verdict = .ok () ↔ document.Truthful) ∧
    (¬ document.Truthful → ∃ past lie future, document.walk = past ++ lie :: future ∧
      (∀ visit ∈ past, visit.exposes = false) ∧ lie.exposes = true ∧
      outcomes = List.replicate past.length (.ok none) ++
        List.replicate (future.length + 1) (.refused .misuse) ∧
      verdict = .refused .misuse) := by
  intro monitor outcomes verdict
  have tracked : monitor.enabled = true := by cases direction <;> rfl
  rw [← silent_walk]
  rcases (walk_tells document []).monitored rfl tracked rfl rfl made unfailing with
    ⟨silent, clear, closed, allOk⟩ | ⟨past, lie, future, split, silent, exposed, kept, refusals⟩
  · have good : verdict = .ok () := by
      simp only [verdict, Monitor.close_of_empty clear closed]
    have each : ∀ outcome ∈ outcomes, outcome = .ok none := by
      simp only [outcomes, allOk]
      exact fun outcome member => List.eq_of_mem_replicate member
    constructor
    · exact ⟨fun _ => silent, fun _ => ⟨each, good⟩⟩
    · intro lying
      exact absurd silent lying
  · have bad : verdict = .refused .misuse := by
      simp only [verdict, Monitor.close_of_held kept]
    have lying : ¬ Silent document.walk := by
      intro all
      have honest := all lie (by simp [split])
      rw [exposed] at honest
      cases honest
    constructor
    · constructor
      · rintro ⟨_, good⟩
        cases bad.symm.trans good
      · intro all
        exact absurd all lying
    · intro _
      exact ⟨past, lie, future, split, silent, exposed, refusals, bad⟩

/-- A reader is told of a blob that ends a byte early, two levels inside an
array. -/
theorem short_blob_told :
    let document : Document := .array 2 [.body (.str 3) rfl [1, 2],
      .map 1 [(.scalar (.int 7) rfl, .body (.bin 3) rfl [0, 2])]]
    let turns : List (Turn Unit) :=
      document.walk.map fun visit => ⟨.act (.track visit.call), .unlimited⟩
    Makes turns document.walk ∧ (∀ turn ∈ turns, turn.allocator.Unfailing) ∧
      ¬ document.Truthful ∧ ∃ past lie future, document.walk = past ++ lie :: future ∧
        (∀ visit ∈ past, visit.exposes = false) ∧ lie.exposes = true ∧
        (Monitor.machine.reactions (.ofSettings .reading .tracking) turns).map (·.1.outcome) =
          List.replicate past.length (.ok none) ++
            List.replicate (future.length + 1) (.refused .misuse) := by
  intro document turns
  have made : Makes turns document.walk := by
    simp only [Makes, turns, List.map_map]
    rfl
  have unfailing : ∀ turn ∈ turns, turn.allocator.Unfailing := by
    intro turn member
    obtain ⟨visit, _, rfl⟩ := List.mem_map.mp member
    exact Allocator.unlimited_unfailing
  obtain ⟨well, told⟩ := walk_truthful .reading document turns made unfailing
  have lying : ¬ document.Truthful := by
    intro truthful
    exact absurd (well.mpr truthful).2 (by decide)
  obtain ⟨past, lie, future, split, silent, exposed, outcomes, _⟩ := told lying
  exact ⟨made, unfailing, lying, past, lie, future, split, silent, exposed, outcomes⟩

end Monitored

end MessagePack.Document
