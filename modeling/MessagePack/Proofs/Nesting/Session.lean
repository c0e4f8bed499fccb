import MessagePack.Proofs.Nesting.Accepts

/-!
# Sessions

The calls that a stack takes without a refusal form a bracket language with
counters. A session is a sequence of items with checks for an empty stack
between them; an item opens a compound, goes through its body and closes it; and
a body lets exactly the declared units go by, with further items anywhere
between them. The grammar knows nothing of frames and rooms.

Both directions speak of a stack with compounds open around the calls. A derived
phrase runs on any such stack; and what takes a stack of frames to the empty one
is, for each frame from the innermost, the rest of its body and its closing, and
then a session. Every stack has such a remainder, so a run without refusals can
always be completed.
-/

namespace MessagePack.Nesting

/-- What a stretch of calls can be: the nonterminals of the bracket language. -/
inductive Phrase where
  | session
  /-- One compound from its opening to its closing. -/
  | item
  /-- The inside of a compound with so many units to go by. -/
  | body (kind : Kind) (units : Nat)

/-- The rules of the bracket language. They do not mention frames, room or
directions; the size of a map is bounded so that its units can be counted at
all, and a check for an empty stack stands only where nothing is open. -/
inductive Derives : Phrase → List Call → Prop where
  | sessionEnd : Derives .session []
  | sessionItem {item rest : List Call} (first : Derives .item item)
      (more : Derives .session rest) : Derives .session (item ++ rest)
  | sessionCheck {rest : List Call} (more : Derives .session rest) :
      Derives .session (.checkEmpty :: rest)
  | item {kind : Kind} {count : UInt64} {body : List Call} (hasBody : kind.isCompound = true)
      (countable : kind = .map → 2 * count.toNat < UInt64.size)
      (inner : Derives (.body kind (unitsOf kind count)) body) :
      Derives .item (.push kind count :: (body ++ [.pop kind]))
  | bodyEnd (kind : Kind) : Derives (.body kind 0) []
  | bodyItem {kind : Kind} {units : Nat} {item rest : List Call} (nested : Derives .item item)
      (more : Derives (.body kind units) rest) : Derives (.body kind units) (item ++ rest)
  | bodyElement {kind : Kind} {units : Nat} {rest : List Call}
      (inValues : kind.isByteCounted = false) (more : Derives (.body kind units) rest) :
      Derives (.body kind (units + 1)) (.element :: rest)
  | bodyBytes {kind : Kind} {units : Nat} {count : UInt64} {rest : List Call}
      (inBytes : kind.isByteCounted = true) (more : Derives (.body kind units) rest) :
      Derives (.body kind (count.toNat + units)) (.bytes count :: rest)

/-! ## Every phrase runs -/

/-- What a phrase does to a stack. A session needs an empty one, an item leaves
any stack as it was, and a body uses up the units of the innermost frame and
leaves all others alone. -/
def Phrase.Runs (calls : List Call) : Phrase → Prop
  | session => AcceptsAll [] calls []
  | item => ∀ outer, AcceptsAll outer calls outer
  | body kind units => ∀ (left : UInt64) (outer : List Frame), left.toNat = units →
      AcceptsAll (⟨kind, left⟩ :: outer) calls (⟨kind, 0⟩ :: outer)

/-- Every derived stretch of calls runs as its phrase says.

Proof: by induction on the derivation. Concatenated phrases run one after the
other, the opening of an item makes the frame that its body uses up, and a
single element or some bytes take their units off the counter, which has them
left because the body declares that many. -/
theorem Derives.runs {phrase : Phrase} {calls : List Call} (derived : Derives phrase calls) :
    phrase.Runs calls := by
  induction derived with
  | sessionEnd => exact .nil []
  | sessionItem _ _ itemRuns sessionRuns => exact (itemRuns []).append sessionRuns
  | sessionCheck _ sessionRuns => exact .cons .checkEmpty sessionRuns
  | @item kind count body hasBody countable _ bodyRuns =>
    intro outer
    obtain ⟨left, counted, opening⟩ := accepts_push outer hasBody countable
    have closing : AcceptsAll (⟨kind, 0⟩ :: outer) [.pop kind] outer :=
      .cons (.pop kind outer) (.nil outer)
    exact .cons opening ((bodyRuns _ outer counted).append closing)
  | bodyEnd kind =>
    intro left outer none
    have finished : left = 0 := UInt64.toNat_inj.mp none
    exact finished ▸ .nil _
  | bodyItem _ _ itemRuns bodyRuns =>
    intro left outer counted
    exact (itemRuns _).append (bodyRuns left outer counted)
  | @bodyElement kind units rest inValues _ bodyRuns =>
    intro left outer counted
    have unfinished : left ≠ 0 := by
      rintro rfl
      cases counted
    have fewer : (left - 1).toNat = units :=
      Nat.succ.inj ((toNat_sub_one_add unfinished).trans counted)
    exact .cons (.element outer inValues unfinished) (bodyRuns _ outer fewer)
  | @bodyBytes kind units count rest inBytes _ bodyRuns =>
    intro left outer counted
    have enough : count ≤ left := by
      rw [UInt64.le_iff_toNat_le, counted]
      exact Nat.le_add_right _ _
    have fewer : (left - count).toNat = units := by
      have together := toNat_sub_add enough
      omega
    exact .cons (.bytes outer inBytes enough) (bodyRuns _ outer fewer)

/-! ## Every run is derived -/

/-- What is still to come for a stack of frames: the rest of the innermost body,
its closing and then what is to come for the frames around it. For no frames it
is a session. -/
def Remainder : List Frame → List Call → Prop
  | [], calls => Derives .session calls
  | frame :: outer, calls => ∃ body rest, calls = body ++ .pop frame.kind :: rest ∧
      Derives (.body frame.kind frame.left.toNat) body ∧ Remainder outer rest

/-- An item can come first in any remainder: it becomes part of the innermost
body, or the first item of the session. -/
theorem Remainder.item_append {frames : List Frame} {item calls : List Call}
    (derived : Derives .item item) (remainder : Remainder frames calls) :
    Remainder frames (item ++ calls) := by
  cases frames with
  | nil => exact .sessionItem derived remainder
  | cons frame outer =>
    obtain ⟨body, rest, rfl, inner, following⟩ := remainder
    exact ⟨item ++ body, rest, (List.append_assoc ..).symm, .bodyItem derived inner, following⟩

/-- A call that fits, before a remainder for the stack that it leaves, is a
remainder.

Proof: by the rules for calls. Opening a compound is where an item comes from:
the remainder inside names its body and its closing, and what follows them is a
remainder for the stack before. A closing begins a remainder with an empty body,
and elements and bytes go in front of the innermost body. -/
theorem Accepts.remainder {before after : List Frame} {call : Call} {calls : List Call}
    (fits : Accepts before call after) (following : Remainder after calls) :
    Remainder before (call :: calls) := by
  cases fits with
  | @push kind count left frames hasBody countable =>
    obtain ⟨body, rest, rfl, inner, outside⟩ := following
    obtain ⟨small, counted⟩ := (units_iff kind count left).mp countable
    have whole : Derives .item (.push kind count :: (body ++ [.pop kind])) :=
      .item hasBody small (counted ▸ inner)
    simpa only [List.cons_append, List.append_assoc, List.nil_append] using
      Remainder.item_append whole outside
  | pop kind outer => exact ⟨[], calls, rfl, .bodyEnd kind, following⟩
  | @element kind left outer inValues unfinished =>
    obtain ⟨body, rest, rfl, inner, outside⟩ := following
    have derived := Derives.bodyElement inValues inner
    rw [toNat_sub_one_add unfinished] at derived
    exact ⟨.element :: body, rest, rfl, derived, outside⟩
  | @bytes kind left count outer inBytes enough =>
    obtain ⟨body, rest, rfl, inner, outside⟩ := following
    have derived :
        Derives (.body kind (count.toNat + (left - count).toNat)) (.bytes count :: body) :=
      .bodyBytes inBytes inner
    rw [Nat.add_comm, toNat_sub_add enough] at derived
    exact ⟨.bytes count :: body, rest, rfl, derived, outside⟩
  | checkEmpty => exact .sessionCheck following

/-- Calls that take a stack to the empty one are a remainder for it, by
induction on the calls from the last one on. -/
theorem AcceptsAll.remainder {frames : List Frame} {calls : List Call}
    (fits : AcceptsAll frames calls []) : Remainder frames calls := by
  generalize final : ([] : List Frame) = after at fits
  induction fits with
  | nil frames => exact final ▸ .sessionEnd
  | cons first _ inductionHypothesis => exact first.remainder (inductionHypothesis final)

/-- On an empty stack exactly the sessions run back to an empty stack. For
the empty stack the remainder is a session, and a session runs as its phrase
says. -/
theorem acceptsAll_iff_session (calls : List Call) :
    AcceptsAll [] calls [] ↔ Derives .session calls :=
  ⟨AcceptsAll.remainder, Derives.runs⟩

/-! ## Every run can be completed -/

/-- The plainest rest of a body: the elements that are missing, or the
missing bytes at once. It is empty or a single call of no bytes if nothing is
missing. -/
def restOf (frame : Frame) : List Call :=
  if frame.kind.isByteCounted then [.bytes frame.left]
  else List.replicate frame.left.toNat .element

/-- The plainest way to close all frames, from the innermost outwards: the rest
of each body and then its closing. -/
def completion : List Frame → List Call
  | [] => []
  | frame :: outer => restOf frame ++ .pop frame.kind :: completion outer

/-- Missing elements alone are the rest of a body that counts values, by
induction on their number. -/
theorem derives_elements {kind : Kind} (inValues : kind.isByteCounted = false) (units : Nat) :
    Derives (.body kind units) (List.replicate units .element) := by
  induction units with
  | zero => exact .bodyEnd kind
  | succ units inductionHypothesis => exact .bodyElement inValues inductionHypothesis

/-- The plainest rest of a body is one, for the kind and the units of any
frame. -/
theorem derives_rest (frame : Frame) :
    Derives (.body frame.kind frame.left.toNat) (restOf frame) := by
  unfold restOf
  split
  · rename_i inBytes
    have atOnce : Derives (.body frame.kind (frame.left.toNat + 0)) [.bytes frame.left] :=
      .bodyBytes inBytes (.bodyEnd frame.kind)
    exact atOnce
  · rename_i inValues
    exact derives_elements (Bool.eq_false_iff.mpr inValues) frame.left.toNat

/-- Every stack can be taken to the empty one by calls that fit.

Proof: by induction on the frames. The rest of the innermost body is derived, so
it runs and uses up the units of the frame; the closing then removes the frame,
and the frames around it are completed by the induction hypothesis. -/
theorem acceptsAll_completion (frames : List Frame) : AcceptsAll frames (completion frames) [] := by
  induction frames with
  | nil => exact .nil []
  | cons frame outer inductionHypothesis =>
    have inside : AcceptsAll (frame :: outer) (restOf frame) (⟨frame.kind, 0⟩ :: outer) :=
      (derives_rest frame).runs frame.left outer rfl
    exact inside.append (.cons (.pop frame.kind outer) inductionHypothesis)

/-- Calls run on an empty stack exactly if a session begins with them.

Proof: from left to right the plainest completion of the stack that is reached
leads back to the empty one, and the whole is a session. From right to left a
session runs, and so does every beginning of it. -/
theorem acceptsAll_iff_session_begins (calls : List Call) :
    (∃ frames, AcceptsAll [] calls frames) ↔ ∃ rest, Derives .session (calls ++ rest) := by
  constructor
  · rintro ⟨frames, fits⟩
    have completed := fits.append (acceptsAll_completion frames)
    exact ⟨completion frames, (acceptsAll_iff_session _).mp completed⟩
  · rintro ⟨rest, session⟩
    obtain ⟨frames, fits, _⟩ := ((acceptsAll_iff_session _).mpr session).split
    exact ⟨frames, fits⟩

/-! ## Sessions and stacks -/

/-- Giving a stack up succeeds exactly if nothing is open. The test is the one
of the check for an empty stack, which changes nothing. -/
theorem destroy_iff (nesting : Nesting) : nesting.destroy false = .ok () ↔ nesting.frames = [] := by
  obtain ⟨frames, capacity, initialCapacity⟩ := nesting
  cases frames <;> simp [destroy, checkEmpty, Except.map]

/-- On a stack that starts empty and is granted all room, calls in any
directions are all carried out and leave nothing open, so that the stack can be
given up, exactly if they are a session. They are all carried out exactly if a
session begins with them.

Proof: without failing allocators a run has no refusals exactly if its calls fit
one after the other, and the frames that it reaches are those of the rules. What
remains are the two statements about the rules, `acceptsAll_iff_session` for the
runs that end empty and `acceptsAll_iff_session_begins` for all of them. -/
theorem sessions_exact (nesting : Nesting) (turns : List Turn) (fresh : nesting.frames = [])
    (unfailing : ∀ turn ∈ turns, turn.allocator.Unfailing) :
    ((∀ step ∈ machine.reactions nesting turns, step.outcome = .ok ()) ∧
        (machine.after nesting turns).frames = [] ↔
      Derives .session (turns.map Turn.call)) ∧
    ((machine.after nesting turns).destroy false = .ok () ↔
      (machine.after nesting turns).frames = []) ∧
    ((∀ step ∈ machine.reactions nesting turns, step.outcome = .ok ()) ↔
      ∃ rest, Derives .session (turns.map Turn.call ++ rest)) := by
  refine ⟨?_, destroy_iff _, ?_⟩
  · rw [← acceptsAll_iff_session]
    constructor
    · rintro ⟨allOk, closed⟩
      have fits := acceptsAll_of_all_ok allOk
      rwa [fresh, closed] at fits
    · intro fits
      exact all_ok_of_acceptsAll unfailing (fresh ▸ fits)
  · rw [← acceptsAll_iff_session_begins]
    constructor
    · intro allOk
      exact ⟨_, fresh ▸ acceptsAll_of_all_ok allOk⟩
    · rintro ⟨frames, fits⟩
      exact (all_ok_of_acceptsAll unfailing (fresh ▸ fits)).1

/-- A map of one pair inside an array, with a string read in three pieces as its
key. The check for an empty stack comes first and last, and the run is the
derivation: that the calls are a session follows from the theorem. -/
theorem nested_map_session :
    Nesting.empty.frames = [] ∧ Allocator.unlimited.Unfailing ∧
    Derives .session [.checkEmpty, .push .array 1, .element, .push .map 1, .element, .push .str 3,
      .bytes 2, .bytes 0, .bytes 1, .pop .str, .element, .pop .map, .pop .array, .checkEmpty] := by
  have run := sessions_exact .empty
    ([.checkEmpty, .push .array 1, .element, .push .map 1, .element, .push .str 3,
      .bytes 2, .bytes 0, .bytes 1, .pop .str, .element, .pop .map, .pop .array,
      .checkEmpty].map fun call => ⟨call, .reading, .unlimited⟩) rfl
    (by simp [Allocator.unlimited_unfailing])
  exact ⟨rfl, Allocator.unlimited_unfailing, run.1.mp ⟨by decide, by decide⟩⟩

end MessagePack.Nesting
