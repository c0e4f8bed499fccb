import MessagePack.Proofs.Text.WellFormed

/-!
# Putting texts together and taking them apart

A writer that emits a text in pieces, and a reader that receives it so, judge
the pieces one by one. Where two pieces meet, three judgements are at stake: on
the piece before, on the piece behind, and on both together. Any two of them
settle the third.

From left to right this is the scan, which owes nothing after a well-formed
piece. From right to left the scan is of no help: the piece before is judged by
what stands behind it. What decides is the first byte behind. It begins a
character, and such bytes continue none, so no character reaches across the
place. The same byte tells a reader who enters in the middle where characters
begin: just where a byte stands that continues none.
-/

namespace MessagePack.Text.Utf8

/-! ## Where characters begin -/

/-- Well-formed bytes start with a byte that continues no character, if there
are any. -/
theorem begins_of_isWellFormed {first : UInt8} {rest : List UInt8}
    (wellFormed : isWellFormed (first :: rest) = true) : continuation.contains first = false := by
  obtain ⟨_, _, _, begins, _⟩ := exists_character wellFormed
  exact not_continuation begins

/-- Well-formed bytes have no say in the judgement on what stands before them,
since no character reaches across to their first byte. -/
theorem isWellFormed_append_left (left : List UInt8) {right : List UInt8}
    (wellFormed : isWellFormed right = true) :
    isWellFormed (left ++ right) = true ↔ isWellFormed left = true := by
  cases right with
  | nil => rw [List.append_nil]
  | cons first rest =>
    rw [isWellFormed_append_cons (begins_of_isWellFormed wellFormed)]
    exact and_iff_left wellFormed

/-- Well-formed bytes can be parted before the bytes that continue no character,
and nowhere else. Whether a place is one of these is told by the byte behind it
alone. -/
theorem parted_iff {left : List UInt8} {first : UInt8} {rest : List UInt8}
    (wellFormed : isWellFormed (left ++ first :: rest) = true) :
    isWellFormed left = true ↔ continuation.contains first = false := by
  constructor
  · intro before
    rw [isWellFormed_append before] at wellFormed
    exact begins_of_isWellFormed wellFormed
  · intro begins
    exact ((isWellFormed_append_cons begins left rest).mp wellFormed).1

/-- Neither part of a character is well-formed, since the byte at the cut
continues it. Before the cut more is owed, and behind it nothing can begin. -/
theorem parts_refused {left right : List UInt8} (character : Character (left ++ right))
    (begun : left ≠ []) (unfinished : right ≠ []) :
    isWellFormed left = false ∧ isWellFormed right = false := by
  obtain ⟨next, rest, rfl⟩ := List.exists_cons_of_ne_nil unfinished
  have continues : continuation.contains next = true := by
    obtain ⟨first, part, rfl⟩ := List.exists_cons_of_ne_nil begun
    generalize whole : first :: part ++ next :: rest = bytes at character
    obtain ⟨asked, filled⟩ := character
    cases whole
    exact filled.continues (owedAfter_continue asked) next (by simp)
  constructor
  · rw [Bool.eq_false_iff, Ne, parted_iff character.isWellFormed, continues]
    exact Bool.noConfusion
  · exact isWellFormed_cons_of_none (owedAfter_of_continuation continues) rest

/-! ## Copies -/

/-- Copies of well-formed bytes are well-formed together, by induction on their
number. -/
theorem isWellFormed_copies {bytes : List UInt8} (wellFormed : isWellFormed bytes = true)
    (count : Nat) : isWellFormed (List.replicate count bytes).flatten = true := by
  induction count with
  | zero => rfl
  | succ count inductionHypothesis =>
    rw [List.replicate_succ, List.flatten_cons, isWellFormed_append wellFormed]
    exact inductionHypothesis

/-- Bytes of which some copies are well-formed together are so themselves. All
the copies begin with one and the same byte, and the first of them shows that no
character reaches across it. -/
theorem isWellFormed_of_copies {bytes : List UInt8} {count : Nat} (positive : 0 < count)
    (wellFormed : isWellFormed (List.replicate count bytes).flatten = true) :
    isWellFormed bytes = true := by
  obtain ⟨before, rfl⟩ := Nat.exists_eq_add_one.mpr positive
  cases bytes with
  | nil => rfl
  | cons first rest =>
    have begins : continuation.contains first = false := by
      rw [List.replicate_succ, List.flatten_cons, List.cons_append] at wellFormed
      exact begins_of_isWellFormed wellFormed
    rw [List.replicate_succ', List.flatten_append, List.flatten_singleton,
      isWellFormed_append_cons begins] at wellFormed
    exact wellFormed.2

/-! ## Two judgements settle the third -/

/-- Of two pieces and the two together, none is refused alone.

Hence copies of a piece, with a well-formed one behind them, are well-formed
exactly if the piece is. Well-formed bytes can be parted before the bytes that
continue no character and nowhere else; within the encoding of a character there
is none, and both parts of it are refused.

Proof: from left to right the scan gives the judgement on the piece behind, and
from right to left the first byte behind shows that no character reaches across
it. For copies the first of them shows this for the last one. A character is all
that the scan takes for one, so each byte after its first continues it. -/
theorem pieces_judged_together :
    (∀ left right : List UInt8,
      (isWellFormed left = true → isWellFormed right = true →
        isWellFormed (left ++ right) = true) ∧
      (isWellFormed left = true → isWellFormed (left ++ right) = true →
        isWellFormed right = true) ∧
      (isWellFormed right = true → isWellFormed (left ++ right) = true →
        isWellFormed left = true)) ∧
    (∀ (bytes tail : List UInt8) (count : Nat), 0 < count → isWellFormed tail = true →
      (isWellFormed ((List.replicate count bytes).flatten ++ tail) = true ↔
        isWellFormed bytes = true)) ∧
    (∀ (left rest : List UInt8) (first : UInt8), isWellFormed (left ++ first :: rest) = true →
      (isWellFormed left = true ↔ continuation.contains first = false)) ∧
    (∀ (char : Char) (left right : List UInt8), String.utf8EncodeChar char = left ++ right →
      left ≠ [] → right ≠ [] → isWellFormed left = false ∧ isWellFormed right = false) := by
  refine ⟨?_, ?_, fun _ _ _ => parted_iff, ?_⟩
  · intro left right
    refine ⟨?_, ?_, ?_⟩
    · intro before behind
      rw [isWellFormed_append before]
      exact behind
    · intro before together
      rw [isWellFormed_append before] at together
      exact together
    · intro behind together
      exact (isWellFormed_append_left left behind).mp together
  · intro bytes tail count positive behind
    rw [isWellFormed_append_left _ behind]
    constructor
    · exact isWellFormed_of_copies positive
    · intro wellFormed
      exact isWellFormed_copies wellFormed count
  · intro char left right spelled begun unfinished
    have character := (character_iff_encoded _).mpr ⟨char, spelled⟩
    exact parts_refused character begun unfinished

/-- A text whose pieces are judged apart and together, copies of it before
another text, and a character cut after its first byte. -/
theorem euro_apart_and_together :
    isWellFormed ([0x61] ++ [0xE2, 0x82, 0xAC]) = true ∧
    isWellFormed [0xE2, 0x82, 0xAC] = true ∧ isWellFormed [0x61] = true ∧
    (isWellFormed ((List.replicate 3 [0xE2, 0x82, 0xAC]).flatten ++ [0x61]) = true ↔
      isWellFormed [0xE2, 0x82, 0xAC] = true) ∧
    (isWellFormed [0x61] = true ↔ continuation.contains 0xE2 = false) ∧
    (isWellFormed [0xE2] = false ∧ isWellFormed [0x82, 0xAC] = false) := by
  obtain ⟨settled, copies, parted, cut⟩ := pieces_judged_together
  have letter : isWellFormed [0x61] = true := by decide
  have euro : isWellFormed [0xE2, 0x82, 0xAC] = true := by decide
  obtain ⟨joined, behind, before⟩ := settled [0x61] [0xE2, 0x82, 0xAC]
  have together := joined letter euro
  refine ⟨together, behind letter together, before euro together, ?_, ?_, ?_⟩
  · exact copies _ [0x61] 3 (by decide) letter
  · exact parted [0x61] [0x82, 0xAC] 0xE2 together
  · exact cut '€' [0xE2] [0x82, 0xAC] (by decide) (by decide) (by decide)

end MessagePack.Text.Utf8
