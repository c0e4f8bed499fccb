import Mathlib.Data.List.Forall2
import MessagePack.Proofs.Nesting.Accepts

/-!
# Conservation of units

Every open compound is accounted for by the calls that were carried out since it
was opened. The calls alone tell which compounds are still open and which calls
each of them spent its units on: a compound is closed by the first closing that
no later opening takes, and it is the innermost one where all that was opened
after it is closed again. Refused calls play no part.

The frames of a stack are the openings that the calls leave open, in the same
order, and the units left on each frame together with the units spent on it are
those that were declared. The induction over the calls needs a stack with frames
from before them. Such a frame stays or goes and counts down as the same rules
say of a compound that has the frames above it.
-/

namespace MessagePack.Nesting

/-! ## What calls leave open -/

/-- The calls close a compound that has so many others open above it. An opening
puts one more above it, and a closing takes the uppermost one, so that the
compound is closed by the first closing that finds none above it. -/
def closes : (above : Nat) → List Call → Bool
  | _, [] => false
  | above, .push _ _ :: calls => closes (above + 1) calls
  | 0, .pop _ :: _ => true
  | above + 1, .pop _ :: calls => closes above calls
  | above, _ :: calls => closes above calls

/-- The calls that are made while such a compound is the innermost one, but for
the openings of compounds inside it and its own closing. These are the calls
that can spend its units. -/
def callsInside : (above : Nat) → List Call → List Call
  | _, [] => []
  | above, .push _ _ :: calls => callsInside (above + 1) calls
  | 0, .pop _ :: _ => []
  | above + 1, .pop _ :: calls => callsInside above calls
  | 0, call :: calls => call :: callsInside 0 calls
  | above + 1, _ :: calls => callsInside (above + 1) calls

/-- The units that a call spends on a compound: bytes on one that is counted in
bytes, and elements on any other. All other calls spend nothing. -/
def Call.units (kind : Kind) : Call → Nat
  | .element => if kind.isByteCounted then 0 else 1
  | .bytes count => if kind.isByteCounted then count.toNat else 0
  | _ => 0

/-- The units that some calls spend together, as a number without bounds. -/
def spent (kind : Kind) : List Call → Nat
  | [] => 0
  | call :: calls => call.units kind + spent kind calls

/-- A compound that was opened, with the size that it declared and the calls
that were carried out after that. What became of it since is read off these
calls. -/
structure Opening where
  kind : Kind
  count : UInt64
  later : List Call

namespace Opening

/-- Whether the compound is closed by now. -/
def isClosed (opening : Opening) : Bool := closes 0 opening.later

/-- The units that the compound declared. -/
def declared (opening : Opening) : Nat := unitsOf opening.kind opening.count

/-- The units spent so far while the compound was the innermost one. -/
def consumed (opening : Opening) : Nat := spent opening.kind (callsInside 0 opening.later)

end Opening

/-- The compounds that calls open, in order. -/
def openings : List Call → List Opening
  | [] => []
  | .push kind count :: calls => ⟨kind, count, calls⟩ :: openings calls
  | _ :: calls => openings calls

/-- The compounds that calls open and do not close, in the order in which they
were opened. -/
def unclosed (calls : List Call) : List Opening :=
  (openings calls).filter fun opening => !opening.isClosed

/-- A frame holds what an opening declared and has not spent. The opened
compound has a body, and its units fit a counter. -/
structure Balances (frame : Frame) (opening : Opening) : Prop where
  kind : frame.kind = opening.kind
  hasBody : opening.kind.isCompound = true
  countable : opening.declared < UInt64.size
  conserved : frame.left.toNat + opening.consumed = opening.declared

/-! ## Frames from before the calls -/

/-- What calls leave of frames that were there before them, innermost first, the
first of them with so many compounds above it. A frame that the calls close is
gone, and one that they do not close has paid for the calls that were made
inside it. -/
inductive Leaves (calls : List Call) : (above : Nat) → List Frame → List Frame → Prop where
  | nil (above : Nat) : Leaves calls above [] []
  | closed {above : Nat} {frame : Frame} {outer kept : List Frame}
      (gone : closes above calls = true) (rest : Leaves calls (above + 1) outer kept) :
      Leaves calls above (frame :: outer) kept
  | opened {above : Nat} {frame : Frame} {left : UInt64} {outer kept : List Frame}
      (stays : closes above calls = false)
      (conserved : left.toNat + spent frame.kind (callsInside above calls) = frame.left.toNat)
      (rest : Leaves calls (above + 1) outer kept) :
      Leaves calls above (frame :: outer) (⟨frame.kind, left⟩ :: kept)

/-- No calls leave all frames as they are, with nothing spent on them. -/
theorem leaves_all (above : Nat) (frames : List Frame) : Leaves [] above frames frames := by
  induction frames generalizing above with
  | nil => exact .nil above
  | cons frame outer inductionHypothesis => exact .opened rfl rfl (inductionHypothesis (above + 1))

/-- Calls that do to compounds at one height what others do to those at another
height leave the same of the frames from there on. This carries what is known
for the rest of a run over to the run with one call more, which opens or closes
a compound above the old frames. -/
theorem Leaves.transfer {calls others : List Call} {above : Nat} {frames kept : List Frame}
    (leaves : Leaves calls above frames kept) {height : Nat}
    (alike : ∀ further, closes (further + height) others = closes (further + above) calls ∧
      callsInside (further + height) others = callsInside (further + above) calls) :
    Leaves others height frames kept := by
  induction leaves generalizing height with
  | nil above => exact .nil height
  | @closed above frame outer kept gone _ inductionHypothesis =>
    obtain ⟨sameClosing, _⟩ := alike 0
    rw [Nat.zero_add, Nat.zero_add] at sameClosing
    refine .closed (sameClosing.trans gone) (inductionHypothesis ?_)
    intro further
    simpa only [Nat.add_assoc, Nat.add_comm 1] using alike (further + 1)
  | @opened above frame left outer kept stays conserved _ inductionHypothesis =>
    obtain ⟨sameClosing, sameCalls⟩ := alike 0
    rw [Nat.zero_add, Nat.zero_add] at sameClosing sameCalls
    refine .opened (sameClosing.trans stays) (sameCalls ▸ conserved) (inductionHypothesis ?_)
    intro further
    simpa only [Nat.add_assoc, Nat.add_comm 1] using alike (further + 1)

/-- A call that takes units off the innermost frame spends them on the compound
of that frame.

Proof: the call neither opens nor closes, so it changes nothing for the
compounds around the innermost one, and for the innermost one it is one more
call made inside it. -/
theorem Leaves.spend {call : Call} {calls : List Call} {frame : Frame} {left : UInt64}
    {outer kept : List Frame} (noPush : call.isPush = false) (noPop : call.isPop = false)
    (paid : left.toNat + call.units frame.kind = frame.left.toNat)
    (leaves : Leaves calls 0 (⟨frame.kind, left⟩ :: outer) kept) :
    Leaves (call :: calls) 0 (frame :: outer) kept := by
  have around (above : Nat) : closes above (call :: calls) = closes above calls ∧
      callsInside (above + 1) (call :: calls) = callsInside (above + 1) calls := by
    cases call with
    | push kind count => cases noPush
    | pop kind => cases noPop
    | _ => exact ⟨by cases above <;> rfl, rfl⟩
  have innermost : callsInside 0 (call :: calls) = call :: callsInside 0 calls := by
    cases call with
    | push kind count => cases noPush
    | pop kind => cases noPop
    | _ => rfl
  have outside {outer kept : List Frame} (rest : Leaves calls 1 outer kept) :
      Leaves (call :: calls) 1 outer kept :=
    rest.transfer fun further => ⟨(around (further + 1)).1, (around further).2⟩
  cases leaves with
  | closed gone rest =>
    exact .closed ((around 0).1.trans gone) (outside rest)
  | opened stays conserved rest =>
    refine .opened ((around 0).1.trans stays) ?_ (outside rest)
    simp only at conserved
    rw [innermost, spent]
    omega

/-- Calls that fit turn a stack into what they leave of it, below the frames of
the compounds that they open and do not close. Each of these frames balances its
opening.

Proof: by induction on the calls from the last one on, with frames from before
the calls so that the hypothesis covers the frame that the first call opens.
After an opening this frame is the first of the old ones for the rest: if the
rest closes it, it is gone, and otherwise it is accounted for by its opening,
while all others have one more compound above them. A closing removes the first
of the old frames, and elements and bytes are spent on it. -/
theorem AcceptsAll.balances {before after : List Frame} {calls : List Call}
    (fits : AcceptsAll before calls after) :
    ∃ opened kept, after = opened.reverse ++ kept ∧ Leaves calls 0 before kept ∧
      List.Forall₂ Balances opened (unclosed calls) := by
  induction fits with
  | nil frames => exact ⟨[], frames, rfl, leaves_all 0 frames, .nil⟩
  | @cons before between after call calls first _ inductionHypothesis =>
    obtain ⟨opened, kept, rfl, leaves, balances⟩ := inductionHypothesis
    cases first with
    | @push kind count left frames hasBody countable =>
      obtain ⟨_, counted⟩ := (units_iff kind count left).mp countable
      cases leaves with
      | closed gone rest =>
        refine ⟨opened, kept, rfl, rest.transfer fun further => ⟨rfl, rfl⟩, ?_⟩
        simpa [unclosed, openings, Opening.isClosed, gone] using balances
      | @opened _ _ remaining _ outer stays conserved rest =>
        refine ⟨⟨kind, remaining⟩ :: opened, outer, by simp,
          rest.transfer fun further => ⟨rfl, rfl⟩, ?_⟩
        have small : unitsOf kind count < UInt64.size := counted ▸ left.toNat_lt
        have balanced : Balances ⟨kind, remaining⟩ ⟨kind, count, calls⟩ :=
          ⟨rfl, hasBody, small, conserved.trans counted⟩
        simpa [unclosed, openings, Opening.isClosed, stays] using
          List.Forall₂.cons balanced balances
    | pop kind outer =>
      exact ⟨opened, kept, rfl, .closed rfl (leaves.transfer fun further => ⟨rfl, rfl⟩), balances⟩
    | @element kind left outer inValues unfinished =>
      refine ⟨opened, kept, rfl, leaves.spend rfl rfl ?_, balances⟩
      simpa [Call.units, inValues] using toNat_sub_one_add unfinished
    | @bytes kind left count outer inBytes enough =>
      refine ⟨opened, kept, rfl, leaves.spend rfl rfl ?_, balances⟩
      simpa [Call.units, inBytes] using toNat_sub_add enough
    | checkEmpty =>
      cases leaves
      exact ⟨opened, [], rfl, .nil 0, balances⟩

/-- Calls that fit an empty stack leave it empty exactly if they close all that
they open. -/
theorem AcceptsAll.empty_iff {calls : List Call} {frames : List Frame}
    (fits : AcceptsAll [] calls frames) : frames = [] ↔ unclosed calls = [] := by
  obtain ⟨opened, kept, rfl, leaves, balances⟩ := fits.balances
  cases leaves
  rw [List.append_nil, List.reverse_eq_nil_iff, ← List.length_eq_zero_iff, balances.length_eq,
    List.length_eq_zero_iff]

/-- The height of a stack is what it was, with the openings and without the
closings, by induction on the calls. -/
theorem AcceptsAll.height {before after : List Frame} {calls : List Call}
    (fits : AcceptsAll before calls after) :
    after.length + calls.countP Call.isPop = before.length + calls.countP Call.isPush := by
  induction fits with
  | nil frames => rfl
  | cons first _ inductionHypothesis =>
    cases first <;>
      simp only [List.countP_cons, Call.isPush, Call.isPop, List.length_cons, if_true,
        Bool.false_eq_true, if_false] at inductionHypothesis ⊢ <;>
      omega

/-! ## Runs with refusals -/

/-- The calls of a run that were carried out, in order. What was refused is not
part of the account. -/
def carriedOut (nesting : Nesting) (turns : List Turn) : List Call :=
  (machine.moments nesting turns).filterMap fun moment =>
    if moment.reaction.outcome.isOk then some moment.input.call else none

/-- A carried-out call comes before those of the rest of the run, and a refused
one is left out. -/
theorem carriedOut_cons (nesting : Nesting) (turn : Turn) (turns : List Turn) :
    carriedOut nesting (turn :: turns) =
      (if (machine.react nesting turn).outcome.isOk then [turn.call] else []) ++
        carriedOut (machine.react nesting turn).state turns := by
  rw [carriedOut, Machine.moments_cons, List.filterMap_cons]
  cases (machine.react nesting turn).outcome <;> rfl

/-- The calls of a run that were carried out fit one after the other, from the
frames before the run to those after it: a refused call changes nothing, so
leaving it out leaves no gap. -/
theorem acceptsAll_carriedOut (nesting : Nesting) (turns : List Turn) :
    AcceptsAll nesting.frames (carriedOut nesting turns) (machine.after nesting turns).frames := by
  induction turns generalizing nesting with
  | nil => exact .nil _
  | cons turn turns inductionHypothesis =>
    rw [Machine.after_cons, carriedOut_cons]
    rcases react_cases nesting turn with ⟨after, reaction, fits⟩ | ⟨refusal, reaction⟩
    · rw [reaction]
      exact .cons fits (inductionHypothesis after)
    · rw [reaction]
      exact inductionHypothesis nesting

/-- A call that fits leaves the frames around the innermost one alone. -/
theorem Accepts.outer {before after : List Frame} {call : Call}
    (fits : Accepts before call after) : before.tail <:+ after := by
  cases fits with
  | push _ hasBody countable => exact (List.tail_suffix before).trans (List.suffix_cons _ _)
  | pop kind outer => exact List.suffix_rfl
  | element outer inValues unfinished => exact List.suffix_cons _ _
  | bytes outer inBytes enough => exact List.suffix_cons _ _
  | checkEmpty => exact List.suffix_rfl

/-- A call that fits takes no more units off the innermost frame than are left
on it. For elements and bytes this is the premise of their rule, and the other
calls take none. -/
theorem Accepts.affordable {before after : List Frame} {call : Call}
    (fits : Accepts before call after) :
    ∀ top outer, before = top :: outer → call.units top.kind ≤ top.left.toNat := by
  rintro top outer rfl
  cases fits with
  | push _ hasBody countable => exact Nat.zero_le _
  | pop kind outer => exact Nat.zero_le _
  | @element kind left outer inValues unfinished =>
    have one : Call.element.units kind = 1 := by simp [Call.units, inValues]
    have restored : (left - 1).toNat + 1 = left.toNat := toNat_sub_one_add unfinished
    rw [one]
    exact restored ▸ Nat.le_add_left 1 _
  | bytes outer inBytes enough =>
    simpa [Call.units, inBytes] using UInt64.le_iff_toNat_le.mp enough

/-- The innermost frame is balanced by the last opening, since the frames and
the openings are in the same order. -/
theorem balances_last {top : Frame} {outer : List Frame} {opened : List Opening}
    (balances : List.Forall₂ Balances (top :: outer).reverse opened) :
    ∃ opening, opened.getLast? = some opening ∧ Balances top opening := by
  rw [← List.reverse_reverse opened, List.forall₂_reverse_iff] at balances
  obtain ⟨opening, rest, balanced, _, backwards⟩ := List.forall₂_cons_left_iff.mp balances
  refine ⟨opening, ?_, balanced⟩
  rw [← List.head?_reverse, backwards, List.head?_cons]

/-- After any run of a stack that starts empty, refused calls and failed
reservations included, the frames are the compounds that the carried-out calls
opened and did not close, each with the units that are not yet spent on it. A
next call leaves all frames but the innermost alone and takes no more off that
one than is left; and a compound is only closed when its units are spent.

Proof: the carried-out calls fit one after the other from the empty stack, so
they balance the frames and give the height. The next call is refused, and then
nothing changes, or it fits; a closing that fits finds no units left on the
innermost frame, and that frame is balanced by the last opening that is not
closed. -/
theorem units_conserved (nesting : Nesting) (turns : List Turn) (fresh : nesting.frames = []) :
    let reached := machine.after nesting turns
    let calls := carriedOut nesting turns
    List.Forall₂ Balances reached.frames.reverse (unclosed calls) ∧
    reached.depth + calls.countP Call.isPop = calls.countP Call.isPush ∧
    ∀ next : Turn,
      let step := machine.react reached next
      reached.frames.tail <:+ step.state.frames ∧
      (step.outcome = .ok () → ∀ top, reached.top? = some top →
        next.call.units top.kind ≤ top.left.toNat) ∧
      ∀ kind, next.call = .pop kind → step.outcome = .ok () →
        ∃ opening, (unclosed calls).getLast? = some opening ∧ opening.kind = kind ∧
          opening.consumed = opening.declared := by
  intro reached calls
  have fits : AcceptsAll [] calls reached.frames := fresh ▸ acceptsAll_carriedOut nesting turns
  have accounted : List.Forall₂ Balances reached.frames.reverse (unclosed calls) := by
    obtain ⟨opened, kept, frames, leaves, balances⟩ := fits.balances
    cases leaves
    rwa [frames, List.append_nil, List.reverse_reverse]
  have height : reached.depth + calls.countP Call.isPop = calls.countP Call.isPush :=
    fits.height.trans (Nat.zero_add _)
  refine ⟨accounted, height, ?_⟩
  intro next step
  rcases react_cases reached next with ⟨after, reaction, accepted⟩ | ⟨refusal, reaction⟩
  · have state : step.state = after := congrArg Step.state reaction
    refine ⟨state ▸ accepted.outer, ?_, ?_⟩
    · intro _ top innermost
      obtain ⟨outer, frames⟩ := List.head?_eq_some_iff.mp innermost
      exact accepted.affordable top outer frames
    · intro kind closing _
      rw [closing] at accepted
      generalize around : reached.frames = frames at accepted accounted
      cases accepted with
      | pop kind outer =>
        obtain ⟨opening, last, balanced⟩ := balances_last accounted
        exact ⟨opening, last, balanced.kind.symm, (Nat.zero_add _).symm.trans balanced.conserved⟩
  · have state : step.state = reached := congrArg Step.state reaction
    have refused : step.outcome ≠ .ok () := by
      rw [show step.outcome = .refused refusal.fault from congrArg Step.outcome reaction]
      exact nofun
    refine ⟨state ▸ List.tail_suffix _, ?_, ?_⟩
    · intro carriedOut
      exact absurd carriedOut refused
    · intro _ _ carriedOut
      exact absurd carriedOut refused

/-- A writer whose only frames are an array and a string inside it, after a map
for which there was no room, bytes beyond the declared ones, an element among
bytes and a closing that comes too early. -/
theorem refused_calls_unaccounted :
    let nesting := Nesting.ofInitialCapacity 1
    let turns : List Turn := [⟨.push .array 2, .writing, .unlimited⟩,
      ⟨.element, .writing, .unlimited⟩, ⟨.push .map 1, .writing, .limited 1⟩,
      ⟨.push .str 3, .writing, .unlimited⟩, ⟨.bytes 4, .writing, .unlimited⟩,
      ⟨.bytes 2, .writing, .unlimited⟩, ⟨.element, .writing, .unlimited⟩,
      ⟨.pop .str, .writing, .unlimited⟩]
    nesting.frames = [] ∧
      carriedOut nesting turns = [.push .array 2, .element, .push .str 3, .bytes 2] ∧
      List.Forall₂ Balances [⟨.array, 1⟩, ⟨.str, 1⟩] (unclosed (carriedOut nesting turns)) := by
  intro nesting turns
  have accounted := (units_conserved nesting turns rfl).1
  have frames : (machine.after nesting turns).frames.reverse = [⟨.array, 1⟩, ⟨.str, 1⟩] := by decide
  rw [frames] at accounted
  exact ⟨rfl, by decide, accounted⟩

end MessagePack.Nesting
