import MessagePack.Proofs.Text.WellFormed

/-!
# NUL bytes and NUL characters

Whether a text holds a NUL character is looked up among its bytes, without
decoding them. This is enough since a zero byte never stands for anything else:
every byte of a longer form is marked, so only the shortest form has room for a
zero. The other way round NUL has no second spelling that the look-up could
miss, because the longer forms of it are refused.
-/

namespace MessagePack.Text.Utf8

/-- The only spelling with a zero byte is that of zero in the shortest form. All
bytes of the longer forms are marked and so at least 0x80. -/
theorem zero_mem_spell_iff (form : Form) {number : Nat} (fits : number < form.capacity) :
    0 ∈ form.spell number ↔ form = .one ∧ number = 0 := by
  cases form <;> simp only [Form.capacity] at fits <;>
    simp only [Form.spell, List.mem_cons, List.not_mem_nil, or_false, ← UInt8.toNat_inj,
      UInt8.toNat_ofNat', UInt8.reduceToNat, reduceCtorEq, true_and, false_and, iff_false] <;>
    omega

/-- The only character with a zero byte is NUL, whose shortest form is the one
of a single byte. -/
theorem zero_mem_encoded_iff (char : Char) : 0 ∈ String.utf8EncodeChar char ↔ char = '\x00' := by
  obtain ⟨form, enough, fits⟩ := Form.exists_of_char char
  rw [utf8EncodeChar_eq enough fits, zero_mem_spell_iff form fits]
  constructor
  · rintro ⟨_, zero⟩
    exact Char.toNat_inj.mp zero
  · rintro rfl
    cases form with
    | one => exact ⟨rfl, rfl⟩
    | two | three | four => simp [Form.least] at enough

/-- A text has a zero byte exactly if it has a NUL character, since its bytes
are those of its characters. -/
theorem hasNoNull_encoded_iff (text : List Char) :
    hasNoNull (text.flatMap String.utf8EncodeChar) = true ↔ '\x00' ∉ text := by
  simp [hasNoNull, zero_mem_encoded_iff]

/-- No longer form of NUL is accepted anywhere, as the form of one byte has room
for it. -/
theorem barred_null {form : Form} (longer : form ≠ .one) : Barred (form.spell 0) := by
  have fits : 0 < form.capacity := by cases form <;> decide
  have overlong : 0 < form.least := by
    cases form with
    | one => exact absurd rfl longer
    | two | three | four => decide
  exact barred_spell form fits (.inl overlong)

/-- Looking for a zero byte is looking for a NUL character.

The bytes that pass the check for both are exactly the encodings of texts
without a NUL character. Well-formed bytes encode one text only, and they hold a
zero byte exactly if this text holds NUL. No character of several bytes has a
zero among them, and no longer form of NUL is accepted, whatever stands around
it.

Proof: bytes that pass the check are the encoding of a text, which is the only
one, and the zero bytes of an encoding are those of its NUL characters. The
longer forms of NUL are longer than needed and therefore barred. -/
theorem null_bytes_are_null_characters :
    (∀ bytes, isWellFormedWithoutNull bytes = true ↔
      ∃ text : List Char, '\x00' ∉ text ∧ text.flatMap String.utf8EncodeChar = bytes) ∧
    (∀ bytes, isWellFormed bytes = true →
      ∃ text : List Char, text.flatMap String.utf8EncodeChar = bytes ∧
        (∀ other : List Char, other.flatMap String.utf8EncodeChar = bytes → other = text) ∧
        (hasNoNull bytes = false ↔ '\x00' ∈ text)) ∧
    (∀ char : Char, 1 < (String.utf8EncodeChar char).length → 0 ∉ String.utf8EncodeChar char) ∧
    (∀ form : Form, form ≠ .one → Barred (form.spell 0)) := by
  refine ⟨?_, ?_, ?_, fun _ => barred_null⟩
  · intro bytes
    rw [isWellFormedWithoutNull, Bool.and_eq_true]
    constructor
    · rintro ⟨noNull, wellFormed⟩
      obtain ⟨text, rfl⟩ := exists_encoded wellFormed
      exact ⟨text, (hasNoNull_encoded_iff text).mp noNull, rfl⟩
    · rintro ⟨text, noNull, rfl⟩
      exact ⟨(hasNoNull_encoded_iff text).mpr noNull, isWellFormed_encoded text⟩
  · intro bytes wellFormed
    obtain ⟨text, rfl⟩ := exists_encoded wellFormed
    refine ⟨text, rfl, fun _ => encoded_injective, ?_⟩
    rw [← Bool.not_eq_true, hasNoNull_encoded_iff, Decidable.not_not]
  · intro char several zero
    rw [zero_mem_encoded_iff] at zero
    subst zero
    exact absurd several (by decide)

/-- A text with NUL between two characters of several bytes, the first of these
characters alone, and NUL in the form of two bytes. -/
theorem null_between_accents :
    isWellFormed [0xC3, 0xA9, 0x00, 0xE2, 0x82, 0xAC] = true ∧
    (∃ text : List Char,
      text.flatMap String.utf8EncodeChar = [0xC3, 0xA9, 0x00, 0xE2, 0x82, 0xAC] ∧
        '\x00' ∈ text) ∧
    isWellFormedWithoutNull [0xC3, 0xA9] = true ∧ 0 ∉ String.utf8EncodeChar 'é' ∧
    Barred [0xC0, 0x80] := by
  obtain ⟨encoded, decoded, several, longer⟩ := null_bytes_are_null_characters
  have wellFormed : isWellFormed [0xC3, 0xA9, 0x00, 0xE2, 0x82, 0xAC] = true := by decide
  obtain ⟨text, spelled, _, null⟩ := decoded _ wellFormed
  refine ⟨wellFormed, ⟨text, spelled, null.mp (by decide)⟩, ?_, several 'é' (by decide), ?_⟩
  · exact (encoded _).mpr ⟨['é'], by decide, by decide⟩
  · exact longer .two (by decide)

end MessagePack.Text.Utf8
