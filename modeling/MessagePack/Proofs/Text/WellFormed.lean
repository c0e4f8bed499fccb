import MessagePack.Proofs.Text.Spelling

/-!
# Well-formed UTF-8 is encoded text

The scan reads bytes and never builds a text. What it accepts are nevertheless
exactly the encodings of texts: whatever a first byte asks for has to follow at
once, so accepted bytes fall apart into characters, and each of these is the
encoding of one.

What no encoding can hold is refused wherever it stands. A byte that does not
continue a character cuts the bytes before it from those behind it: the whole is
well-formed only if both parts are. So it is enough to look at a defect from its
first byte on.
-/

namespace MessagePack.Text.Utf8

/-! ## Between characters -/

/-- Bytes are well-formed if the scan takes them all and ends with nothing
owed. -/
theorem isWellFormed_iff (bytes : List UInt8) :
    isWellFormed bytes = true ↔ scan [] bytes = some [] := beq_iff_eq

/-- Bytes that fill what is owed leave nothing owed, by induction on what is
owed. -/
theorem scan_of_fills {owed : List ByteRange} {bytes : List UInt8} (filled : Fills owed bytes) :
    scan owed bytes = some [] := by
  induction filled with
  | nil => rfl
  | cons inside _ inductionHypothesis =>
    simpa [scan, advance, inside] using inductionHypothesis

/-- A scan that ends with nothing owed begins with bytes that fill what was owed
at first, and what follows them is well-formed. -/
theorem exists_fills {owed : List ByteRange} {bytes : List UInt8}
    (settled : scan owed bytes = some []) :
    ∃ filling rest, bytes = filling ++ rest ∧ Fills owed filling ∧ isWellFormed rest = true := by
  induction owed generalizing bytes with
  | nil => exact ⟨[], bytes, rfl, (fills_nil _).mpr rfl, (isWellFormed_iff bytes).mpr settled⟩
  | cons range owed inductionHypothesis =>
    cases bytes with
    | nil => cases settled
    | cons byte bytes =>
      rw [scan, advance] at settled
      by_cases inside : range.contains byte = true
      · rw [if_pos inside] at settled
        obtain ⟨filling, rest, rfl, filled, wellFormed⟩ := inductionHypothesis settled
        exact ⟨byte :: filling, rest, rfl, (fills_cons ..).mpr ⟨inside, filled⟩, wellFormed⟩
      · rw [if_neg inside] at settled
        cases settled

/-- Well-formed bytes leave the judgement to what follows them: the scan owes
nothing after them, as at the start. -/
theorem isWellFormed_append {left : List UInt8} (wellFormed : isWellFormed left = true)
    (right : List UInt8) : isWellFormed (left ++ right) = isWellFormed right := by
  rw [isWellFormed_iff] at wellFormed
  rw [isWellFormed, scan_append, wellFormed]
  rfl

/-- A character is well-formed: its bytes fill what its first byte asks for. -/
theorem Character.isWellFormed {bytes : List UInt8} (character : Character bytes) :
    isWellFormed bytes = true := by
  obtain ⟨begins, filled⟩ := character
  rw [isWellFormed_iff, scan, advance, begins]
  exact scan_of_fills filled

/-- Well-formed bytes are empty or a character with well-formed bytes behind
it. -/
theorem exists_character {first : UInt8} {bytes : List UInt8}
    (wellFormed : isWellFormed (first :: bytes) = true) :
    ∃ owed rest more, owedAfter first = some owed ∧ bytes = rest ++ more ∧ Fills owed rest ∧
      isWellFormed more = true := by
  rw [isWellFormed_iff, scan, advance] at wellFormed
  cases begins : owedAfter first with
  | none =>
    rw [begins] at wellFormed
    cases wellFormed
  | some owed =>
    rw [begins] at wellFormed
    obtain ⟨rest, more, same, filled, after⟩ := exists_fills wellFormed
    exact ⟨owed, rest, more, rfl, same, filled, after⟩

/-- The encoding of a text is well-formed, by induction on the text. -/
theorem isWellFormed_encoded (text : List Char) :
    isWellFormed (text.flatMap String.utf8EncodeChar) = true := by
  induction text with
  | nil => rfl
  | cons char text inductionHypothesis =>
    have character := (character_iff_encoded _).mpr ⟨char, rfl⟩
    rw [List.flatMap_cons, isWellFormed_append character.isWellFormed]
    exact inductionHypothesis

/-- Well-formed bytes encode a text. The induction is on their number, since it
takes off a whole character at a time. -/
theorem exists_encoded {bytes : List UInt8} (wellFormed : isWellFormed bytes = true) :
    ∃ text : List Char, text.flatMap String.utf8EncodeChar = bytes := by
  induction length : bytes.length using Nat.strongRecOn generalizing bytes with
  | _ size inductionHypothesis =>
  cases bytes with
  | nil => exact ⟨[], rfl⟩
  | cons first bytes =>
    obtain ⟨owed, rest, more, begins, rfl, filled, after⟩ := exists_character wellFormed
    obtain ⟨char, spelled⟩ := (character_iff_encoded (first :: rest)).mp ⟨begins, filled⟩
    have shorter : more.length < size := by
      rw [← length, List.length_cons, List.length_append]
      omega
    obtain ⟨text, rfl⟩ := inductionHypothesis _ shorter after rfl
    refine ⟨char :: text, ?_⟩
    rw [List.flatMap_cons, spelled, List.cons_append]

/-- Different texts are encoded differently, since the encoding can be
decoded. -/
theorem encoded_injective {text other : List Char}
    (same : text.flatMap String.utf8EncodeChar = other.flatMap String.utf8EncodeChar) :
    text = other := by
  have encoded : text.utf8Encode = other.utf8Encode := congrArg List.toByteArray same
  have decoded := List.utf8Decode?_utf8Encode (l := text)
  rw [encoded, List.utf8Decode?_utf8Encode] at decoded
  exact (List.toArray_inj (Option.some.inj decoded)).symm

/-! ## Within a character -/

/-- What is owed after a byte are continuation bytes if what was owed before it
are such. -/
theorem advance_continue {owed next : List ByteRange} {byte : UInt8} (among : Continue owed)
    (taken : advance owed byte = some next) : Continue next := by
  cases owed with
  | nil => exact owedAfter_continue taken
  | cons range owed =>
    obtain ⟨_, left⟩ := Option.ite_none_right_eq_some.mp taken
    cases left
    exact (List.forall_mem_cons.mp among).2

/-- Nothing but continuation bytes is ever owed, however long the scan goes
on. -/
theorem scan_continue {owed next : List ByteRange} {bytes : List UInt8} (among : Continue owed)
    (scanned : scan owed bytes = some next) : Continue next := by
  induction bytes generalizing owed with
  | nil =>
    cases scanned
    exact among
  | cons byte bytes inductionHypothesis =>
    cases taken : advance owed byte with
    | none => simp [scan, taken] at scanned
    | some between =>
      simp only [scan, taken] at scanned
      exact inductionHypothesis (advance_continue among taken) scanned

/-- A byte that does not continue a character stands between two well-formed
parts.

Proof: if the whole is well-formed, then what the part before still owes is
filled by what follows. Only continuation bytes are owed, and the byte is none,
so nothing is owed there. -/
theorem isWellFormed_append_cons {first : UInt8} (begins : continuation.contains first = false)
    (left right : List UInt8) :
    isWellFormed (left ++ first :: right) = true ↔
      isWellFormed left = true ∧ isWellFormed (first :: right) = true := by
  constructor
  · intro wellFormed
    rw [isWellFormed_iff, scan_append] at wellFormed
    obtain ⟨owed, scanned, settled⟩ := Option.bind_eq_some_iff.mp wellFormed
    have among : Continue owed := scan_continue (List.forall_mem_nil _) scanned
    cases owed with
    | nil => exact ⟨(isWellFormed_iff left).mpr scanned, (isWellFormed_iff _).mpr settled⟩
    | cons range owed =>
      obtain ⟨filling, rest, same, filled, _⟩ := exists_fills settled
      have continues := filled.continues among
      cases filled
      cases same
      cases begins.symm.trans (continues first List.mem_cons_self)
  · rintro ⟨before, after⟩
    rw [isWellFormed_append before]
    exact after

/-! ## Refusals -/

/-- No bytes that hold these are well-formed, wherever they hold them and
whatever stands around. -/
def Barred (bytes : List UInt8) : Prop :=
  ∀ left right, isWellFormed (left ++ bytes ++ right) = false

/-- Nothing is well-formed that starts with a byte no character can begin
with. -/
theorem isWellFormed_cons_of_none {first : UInt8} (barred : owedAfter first = none)
    (rest : List UInt8) : isWellFormed (first :: rest) = false := by
  simp [isWellFormed, scan, advance, barred]

/-- Bytes that are refused at the start of a text are barred if they do not
continue a character, because what stands before them is judged apart. -/
theorem barred_of_begins {first : UInt8} {rest : List UInt8}
    (begins : continuation.contains first = false)
    (refused : ∀ right, isWellFormed (first :: (rest ++ right)) = false) :
    Barred (first :: rest) := by
  intro left right
  rw [List.append_assoc, Bool.eq_false_iff]
  intro wellFormed
  have after := ((isWellFormed_append_cons begins left (rest ++ right)).mp wellFormed).2
  cases (refused right).symm.trans after

/-- The first byte of a spelling, which does not continue a character. Unless it
is barred itself, it asks for as many bytes as the spelling has behind it. -/
theorem Form.exists_spell_cons (form : Form) {number : Nat} (fits : number < form.capacity) :
    ∃ first rest, form.spell number = first :: rest ∧ continuation.contains first = false ∧
      ∀ owed, owedAfter first = some owed → owed.length = rest.length := by
  have toNat {value : Nat} (small : value < 256) : (UInt8.ofNat value).toNat = value :=
    UInt8.toNat_ofNat_of_lt' small
  have outside {value : Nat} (small : value < 256) (apart : value < 0x80 ∨ 0xC0 ≤ value) :
      continuation.contains (.ofNat value) = false := by
    rw [Bool.eq_false_iff, Ne, continuation, contains_ofNat small]
    simp only [UInt8.reduceToNat]
    omega
  cases form <;> simp only [Form.capacity] at fits
  all_goals
    refine ⟨_, _, rfl, outside (by omega) (by omega), ?_⟩
    intro owed asked
    have lengths := owedAfter_length asked
    rw [toNat (by omega)] at lengths
    simp only [List.length_cons, List.length_nil]
    omega

/-- A spelling longer than needed is barred, and so is that of a number which is
no character.

Proof: its first byte does not continue a character, so it is enough that it is
refused at the start. If what begins with it were well-formed, the first byte
would ask for as many bytes as the spelling has, and the spelling would be a
character. -/
theorem barred_spell (form : Form) {number : Nat} (fits : number < form.capacity)
    (wrong : number < form.least ∨ ¬ number.isValidChar) : Barred (form.spell number) := by
  obtain ⟨first, rest, spelled, begins, lengths⟩ := form.exists_spell_cons fits
  have unfit : ¬ Character (first :: rest) := by
    rw [← spelled, character_spell_iff form fits, not_and_or, Nat.not_le]
    exact wrong
  rw [spelled]
  apply barred_of_begins begins
  intro right
  rw [Bool.eq_false_iff]
  intro wellFormed
  obtain ⟨owed, filling, more, asked, same, filled, _⟩ := exists_character wellFormed
  have long : rest.length = filling.length := (lengths owed asked).symm.trans filled.length_eq
  rw [(List.append_inj same long).1] at unfit
  exact unfit ⟨asked, filled⟩

/-- The bytes that no encoding has a use for are barred: they neither begin a
character nor continue one. -/
theorem barred_byte {byte : UInt8} (unused : byte = 0xC0 ∨ byte = 0xC1 ∨ 0xF5 ≤ byte) :
    Barred [byte] := by
  have value : byte.toNat = 0xC0 ∨ byte.toNat = 0xC1 ∨ 0xF5 ≤ byte.toNat := by
    simpa only [← UInt8.toNat_inj, UInt8.le_iff_toNat_le, UInt8.reduceToNat] using unused
  have first : owedAfter byte = none := by
    cases begins : owedAfter byte with
    | none => rfl
    | some owed =>
      have lengths := owedAfter_length begins
      omega
  have later : continuation.contains byte = false := by
    rw [Bool.eq_false_iff, Ne, ← UInt8.ofNat_toNat (x := byte), continuation,
      contains_ofNat byte.toNat_lt]
    simp only [UInt8.reduceToNat]
    omega
  exact barred_of_begins later fun right => isWellFormed_cons_of_none first right

/-- A character that misses its end is refused where what follows does not
continue it.

Proof: its first byte does not continue a character, so what stands before it is
judged apart. What it asks for reaches beyond the part that is there, into bytes
that do not continue it. -/
theorem truncated_refused {start missing : List UInt8} (character : Character (start ++ missing))
    (begun : start ≠ []) (short : missing ≠ []) (left : List UInt8) {right : List UInt8}
    (cut : ∀ next ∈ right.head?, continuation.contains next = false) :
    isWellFormed (left ++ start ++ right) = false := by
  obtain ⟨first, part, rfl⟩ := List.exists_cons_of_ne_nil begun
  generalize whole : first :: part ++ missing = bytes at character
  obtain @⟨_, owed, rest, asked, filled⟩ := character
  cases whole
  rw [Bool.eq_false_iff]
  intro wellFormed
  rw [List.append_assoc, List.cons_append,
    isWellFormed_append_cons (not_continuation asked)] at wellFormed
  obtain ⟨_, filling, _, again, same, refilled, _⟩ := exists_character wellFormed.2
  cases asked.symm.trans again
  have long : filling.length = part.length + missing.length :=
    refilled.length_eq.symm.trans (filled.length_eq.trans List.length_append)
  have lacking : 0 < missing.length := List.length_pos_iff.mpr short
  rcases List.append_eq_append_iff.mp same with ⟨beyond, rfl, rfl⟩ | ⟨before, rfl, _⟩
  · rw [List.length_append] at long
    obtain ⟨next, beyond, rfl⟩ := List.exists_cons_of_length_pos (by omega : 0 < beyond.length)
    have continues := refilled.continues (owedAfter_continue asked) next (by simp)
    cases (cut next rfl).symm.trans continues
  · rw [List.length_append] at long
    omega

/-- A continuation byte is refused at the start and behind a whole character. In
both places nothing is owed, and the byte cannot begin a character. -/
theorem stray_refused {byte : UInt8} (continues : continuation.contains byte = true)
    {left : List UInt8}
    (whole : left = [] ∨ ∃ before char, left = before ++ String.utf8EncodeChar char)
    (right : List UInt8) : isWellFormed (left ++ byte :: right) = false := by
  have refused := isWellFormed_cons_of_none (owedAfter_of_continuation continues) right
  obtain rfl | ⟨before, char, rfl⟩ := whole
  · exact refused
  · have character := (character_iff_encoded _).mpr ⟨char, rfl⟩
    obtain ⟨first, rest, spelled, begins⟩ : ∃ first rest,
        String.utf8EncodeChar char = first :: rest ∧ continuation.contains first = false := by
      generalize String.utf8EncodeChar char = bytes at character
      obtain ⟨asked, _⟩ := character
      exact ⟨_, _, rfl, not_continuation asked⟩
    rw [Bool.eq_false_iff]
    intro wellFormed
    rw [List.append_assoc, spelled, List.cons_append, isWellFormed_append_cons begins,
      ← List.cons_append, ← spelled, isWellFormed_append character.isWellFormed] at wellFormed
    cases refused.symm.trans wellFormed.2

/-! ## The scan against the encoding -/

/-- The scan accepts exactly the encodings of texts, and each of them encodes
one text only.

So it refuses, wherever they stand: spellings longer than needed, surrogates and
numbers above U+10FFFF; characters that are cut short; continuation bytes that
continue nothing; and the bytes that are no part of any encoding.

Proof: accepted bytes fall apart into characters and these are the encodings of
characters, which gives the first part from both sides; the encoding can be
decoded, which gives the second. Each defect is refused from its first byte on,
and that byte parts it from what stands before. -/
theorem well_formed_exactly_encoded :
    (∀ bytes, isWellFormed bytes = true ↔
      ∃ text : List Char, text.flatMap String.utf8EncodeChar = bytes) ∧
    (∀ text other : List Char,
      text.flatMap String.utf8EncodeChar = other.flatMap String.utf8EncodeChar → text = other) ∧
    (∀ (form : Form) (number : Nat), number < form.capacity →
      number < form.least ∨ ¬ number.isValidChar → Barred (form.spell number)) ∧
    (∀ (char : Char) (start missing left right : List UInt8),
      String.utf8EncodeChar char = start ++ missing → start ≠ [] → missing ≠ [] →
      (∀ next ∈ right.head?, continuation.contains next = false) →
      isWellFormed (left ++ start ++ right) = false) ∧
    (∀ (byte : UInt8) (left right : List UInt8), continuation.contains byte = true →
      (left = [] ∨ ∃ before char, left = before ++ String.utf8EncodeChar char) →
      isWellFormed (left ++ byte :: right) = false) ∧
    (∀ byte : UInt8, byte = 0xC0 ∨ byte = 0xC1 ∨ 0xF5 ≤ byte → Barred [byte]) := by
  refine ⟨?_, fun _ _ => encoded_injective, fun form _ => barred_spell form, ?_, ?_,
    fun _ => barred_byte⟩
  · intro bytes
    constructor
    · exact exists_encoded
    · rintro ⟨text, rfl⟩
      exact isWellFormed_encoded text
  · intro char start missing left right spelled begun short cut
    have character := (character_iff_encoded _).mpr ⟨char, spelled⟩
    exact truncated_refused character begun short left cut
  · intro byte left right continues whole
    exact stray_refused continues whole right

/-- A text with a character of each form, and one example of each defect. -/
theorem euro_cut_short :
    isWellFormed (['a', 'é', '€', '😀'].flatMap String.utf8EncodeChar) = true ∧
    Barred [0xC0, 0xAF] ∧ Barred [0xED, 0xA0, 0x80] ∧ Barred [0xF4, 0x90, 0x80, 0x80] ∧
    isWellFormed ([0x61] ++ [0xE2, 0x82] ++ [0x61]) = false ∧
    isWellFormed ([0x61] ++ 0x80 :: [0x61]) = false ∧ Barred [0xFF] := by
  obtain ⟨encoded, _, barred, truncated, stray, unused⟩ := well_formed_exactly_encoded
  refine ⟨(encoded _).mpr ⟨_, rfl⟩, ?_, ?_, ?_, ?_, ?_, unused 0xFF (by decide)⟩
  · exact barred .two 0x2F (by decide) (by decide)
  · exact barred .three 0xD800 (by decide) (by decide)
  · exact barred .four 0x110000 (by decide) (by decide)
  · have cut : ∀ next ∈ [0x61].head?, continuation.contains next = false := by
      rintro next ⟨⟩
      rfl
    exact truncated '€' [0xE2, 0x82] [0xAC] [0x61] [0x61] (by decide) nofun nofun cut
  · exact stray 0x80 [0x61] [0x61] (by decide) (.inr ⟨[], 'a', by decide⟩)

end MessagePack.Text.Utf8
