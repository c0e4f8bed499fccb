import MessagePack.Json.Token
import MessagePack.Proofs.Json.Numeral

/-!
# How tokens are spelled

A mark is spelled by its character and a literal by its word. A string stands
between quotes, where a character may be written as it is, after a backslash, or
by the numbers of its code units. Numbers have their own ways to be written, and
blanks between tokens do not matter. A text that begins with a spelling begins
with that token, and the tokens behind it are those of the rest. Only after a
number does it matter what the rest begins with: nothing there may continue the
number.

Some tokens have a plainest spelling: a string without escapes is its text
between quotes, and a natural number is its decimal digits.
-/

namespace MessagePack.Json

/-- Where a token is split off, the tokens behind it are those of what is
left. -/
theorem tokens_cons {char : Char} {rest after : List Char} {token : Token}
    (visible : isBlank char = false) (scanned : Token.scan char rest = (token, after)) :
    tokens (char :: rest) = token :: tokens after := by
  rw [tokens, visible, scanned]
  rfl

/-! ## Marks and literals -/

/-- The character of a mark, by which it is spelled. -/
def Mark.char : Mark → Char
  | openBrace => '\x7b'
  | closeBrace => '\x7d'
  | openBracket => '['
  | closeBracket => ']'
  | colon => ':'
  | comma => ','

/-- A mark is spelled by its character, whatever stands behind it. -/
theorem tokens_mark (mark : Mark) (rest : List Char) :
    tokens (mark.char :: rest) = .mark mark :: tokens rest := by
  have scanned : Token.scan mark.char rest = (.mark mark, rest) := by cases mark <;> rfl
  exact tokens_cons (by cases mark <;> rfl) scanned

/-- The word of a literal, by which it is spelled. -/
def Literal.word : Literal → List Char
  | true => "true".toList
  | false => "false".toList
  | null => "null".toList

/-- A literal is spelled by its word. Not even a letter behind the word makes a
difference. -/
theorem tokens_literal (literal : Literal) (rest : List Char) :
    tokens (literal.word ++ rest) = .literal literal :: tokens rest := by
  cases literal <;> exact tokens_cons rfl rfl

/-! ## Blanks -/

/-- Text that may stand between tokens, with the fact that it is blank. -/
structure Blanks where
  text : List Char
  blank : ∀ char ∈ text, isBlank char = true

/-- No blanks at all. -/
def Blanks.none : Blanks := ⟨[], List.forall_mem_nil _⟩

/-- Blanks are no part of the tokens behind them, by induction on the blanks. -/
theorem tokens_blanks (blanks : Blanks) (rest : List Char) :
    tokens (blanks.text ++ rest) = tokens rest := by
  obtain ⟨text, blank⟩ := blanks
  induction text with
  | nil => rfl
  | cons char text inductionHypothesis =>
    obtain ⟨first, later⟩ := List.forall_mem_cons.mp blank
    rw [List.cons_append, tokens, first]
    exact inductionHypothesis later

/-! ## Strings -/

/-- A character that stands for itself within a string: no quote, no backslash
and no control character. -/
def Quoted.IsPlain (char : Char) : Prop := char ≠ '"' ∧ char ≠ '\\' ∧ ¬ char < ' '

/-- The string whose text is written without escapes, character by character. -/
def Quoted.plain (text : List Char) : Quoted := ⟨text.map .char, none⟩

namespace Quoted

/-- A text is a way to write a piece of a string: a plain character as it is,
one that has a letter behind a backslash, or a code unit by its four hexadecimal
digits. -/
inductive WritesPiece : Piece → List Char → Prop where
  | plain {char : Char} (standing : IsPlain char) : WritesPiece (.char char) [char]
  | escape {letter char : Char} (stands : escaped? letter = some char) :
    WritesPiece (.char char) ['\\', letter]
  | number {first second third fourth : Char} {unit : Nat}
    (spells : unit? first second third fourth = some unit) :
    WritesPiece (.unit unit) ['\\', 'u', first, second, third, fourth]

/-- A text is a way to write pieces of a string one after the other, each in
some way of its own. -/
inductive Writes : List Piece → List Char → Prop where
  | nil : Writes [] []
  | cons {piece : Piece} {pieces : List Piece} {text rest : List Char}
    (first : WritesPiece piece text) (later : Writes pieces rest) :
    Writes (piece :: pieces) (text ++ rest)

/-- The characters that pieces of a string stand for. A code unit stands for the
character of its number, and two surrogates stand for one beyond all single
units. -/
inductive Spells : List Piece → List Char → Prop where
  | nil : Spells [] []
  | char {char : Char} {pieces : List Piece} {text : List Char} (later : Spells pieces text) :
    Spells (.char char :: pieces) (char :: text)
  | unit {char : Char} {pieces : List Piece} {text : List Char} (later : Spells pieces text) :
    Spells (.unit char.toNat :: pieces) (char :: text)
  | pair {char : Char} {high low : Nat} {pieces : List Piece} {text : List Char}
    (first : isHighSurrogate high = true) (second : isLowSurrogate low = true)
    (together : char.toNat = 0x10000 + (high - 0xD800) * 0x400 + (low - 0xDC00))
    (later : Spells pieces text) :
    Spells (.unit high :: .unit low :: pieces) (char :: text)

/-- Four characters take four bytes at least, so the digits of a code unit never
run beyond the end. -/
theorem endsWithinFourBytes_cons (first second third fourth : Char) (rest : List Char) :
    endsWithinFourBytes (first :: second :: third :: fourth :: rest) = false := by
  have firstSize := first.utf8Size_pos
  have secondSize := second.utf8Size_pos
  have thirdSize := third.utf8Size_pos
  have fourthSize := fourth.utf8Size_pos
  simp only [endsWithinFourBytes, List.take_succ_cons, List.take_zero, String.ofList_cons,
    String.ofList_nil, String.append_empty, String.append_singleton, String.utf8ByteSize_append,
    String.utf8ByteSize_singleton, String.utf8ByteSize_push, decide_eq_false_iff_not, Nat.not_lt]
  omega

/-- A piece that is written in any way is split off as this piece, and the
string goes on behind it. -/
theorem scan_piece {piece : Piece} {text rest after : List Char} {quoted : Quoted}
    (written : WritesPiece piece text) (scanned : scan rest = (quoted, after)) :
    scan (text ++ rest) = (quoted.cons piece, after) := by
  cases written with
  | plain standing =>
    obtain ⟨noQuote, noEscape, visible⟩ := standing
    rw [List.singleton_append]
    unfold scan
    rw [if_neg noQuote, if_neg noEscape, if_neg visible, scanned]
  | @escape letter char stands =>
    have noNumber : letter ≠ 'u' := by
      rintro rfl
      cases stands
    simp only [List.cons_append, List.nil_append]
    unfold scan
    rw [if_neg (by decide), if_pos rfl]
    simp only [if_neg noNumber, stands, scanned]
  | number spells =>
    simp only [List.cons_append, List.nil_append]
    unfold scan
    rw [if_neg (by decide), if_pos rfl]
    simp only [if_pos, endsWithinFourBytes_cons, spells, scanned, Bool.false_eq_true, if_false]

/-- A string ends with the first quote behind its pieces, in whatever way they
are written. -/
theorem scan_written {pieces : List Piece} {text : List Char} (written : Writes pieces text)
    (rest : List Char) : scan (text ++ '"' :: rest) = (⟨pieces, none⟩, rest) := by
  induction written with
  | nil =>
    rw [List.nil_append]
    unfold scan
    rfl
  | cons first _ inductionHypothesis =>
    rw [List.append_assoc]
    exact scan_piece first inductionHypothesis

/-- A string is the text that its pieces stand for.

Proof: by induction on the pieces. No character is a surrogate, so the unit of a
character stands for it alone; a high surrogate is not a low one and takes the
low one behind it. -/
theorem text_eq_of_spells {pieces : List Piece} {text : List Char} (spelled : Spells pieces text) :
    Quoted.text ⟨pieces, none⟩ = .ok text := by
  unfold Quoted.text
  induction spelled with
  | nil => rfl
  | char _ inductionHypothesis =>
    rw [assemble, inductionHypothesis]
    rfl
  | @unit char pieces text _ inductionHypothesis =>
    have outside : isLowSurrogate char.toNat = false ∧ isHighSurrogate char.toNat = false := by
      simp only [isLowSurrogate, isHighSurrogate, ← Bool.decide_and, decide_eq_false_iff_not]
      rcases char.valid with low | ⟨low, high⟩ <;> simp only [Char.toNat_val] at low <;> omega
    rw [assemble.eq_def]
    simp [outside, inductionHypothesis, Except.map]
  | @pair char high low pieces text first second together _ inductionHypothesis =>
    have notLow : isLowSurrogate high = false := by
      simp only [isLowSurrogate, isHighSurrogate, ← Bool.decide_and, decide_eq_true_iff,
        decide_eq_false_iff_not] at first ⊢
      omega
    have one : paired high low = char := by
      rw [paired, ← together, Char.ofNat_toNat]
    rw [assemble.eq_def]
    simp [notLow, first, second, one, inductionHypothesis, Except.map]

end Quoted

/-- The inside of a string as it is written, with its pieces. -/
structure Body where
  pieces : List Piece
  text : List Char
  written : Quoted.Writes pieces text

/-- A string between its quotes, as it stands in a document. -/
def Body.quoted (body : Body) : List Char := '"' :: body.text ++ ['"']

/-- A string between its quotes is the token of its pieces, whatever stands
behind it. -/
theorem tokens_quoted (body : Body) (rest : List Char) :
    tokens (body.quoted ++ rest) = .quoted ⟨body.pieces, none⟩ :: tokens rest := by
  have scanned : Token.scan '"' (body.text ++ '"' :: rest) =
      (.quoted ⟨body.pieces, none⟩, rest) := by
    simp [Token.scan, Mark.ofChar?, Literal.ofInitial?, Quoted.scan_written body.written]
  rw [Body.quoted, List.append_assoc]
  exact tokens_cons rfl scanned

/-- Plain characters are written as they are, each as a piece of its own. -/
theorem Quoted.writes_plain {text : List Char} (unescaped : ∀ char ∈ text, IsPlain char) :
    Writes (text.map .char) text := by
  induction text with
  | nil => exact .nil
  | cons char text inductionHypothesis =>
    obtain ⟨first, later⟩ := List.forall_mem_cons.mp unescaped
    exact .cons (.plain first) (inductionHypothesis later)

/-- Plain characters stand for themselves, and so does any text that is held
character by character. -/
theorem Quoted.spells_plain (text : List Char) : Spells (text.map .char) text := by
  induction text with
  | nil => exact .nil
  | cons char text inductionHypothesis => exact .char inductionHypothesis

/-- A string without escapes has the text that it is written with. -/
theorem Quoted.text_plain (text : List Char) : (plain text).text = .ok text :=
  text_eq_of_spells (spells_plain text)

/-- The inside of a string without escapes, which is its text. -/
def Body.plain (text : List Char) (unescaped : ∀ char ∈ text, Quoted.IsPlain char) : Body :=
  ⟨text.map .char, text, Quoted.writes_plain unescaped⟩

/-- A string without escapes is spelled by its text between quotes. -/
theorem tokens_plain {text : List Char} (unescaped : ∀ char ∈ text, Quoted.IsPlain char)
    (rest : List Char) :
    tokens ('"' :: text ++ '"' :: rest) = .quoted (.plain text) :: tokens rest := by
  have spelled := tokens_quoted (.plain text unescaped) rest
  rw [Body.quoted, List.append_assoc] at spelled
  exact spelled

/-! ## Numbers -/

/-- No number begins with a blank. -/
theorem isBlank_numeric {first : Char} (numeric : first = '-' ∨ first.isDigit = true) :
    isBlank first = false := by
  cases blank : isBlank first with
  | false => rfl
  | true =>
    simp only [isBlank, Bool.or_eq_true, beq_iff_eq] at blank
    rcases blank with ((rfl | rfl) | rfl) | rfl <;> revert numeric <;> decide

/-- A minus or a digit begins a number and no other token. What comes of it is
what comes of the number. -/
theorem Token.scan_numeric {first : Char} (numeric : first = '-' ∨ first.isDigit = true)
    (rest : List Char) :
    Token.scan first rest =
      match Numeral.scan (first :: rest) with
      | .ok (number, after) => (.numeral number, after)
      | .error defect => (.broken defect .malformed, []) := by
  have noMark : Mark.ofChar? first = none := by
    unfold Mark.ofChar?
    split
    case h_7 => rfl
    all_goals revert numeric; decide
  have noLiteral : Literal.ofInitial? first = none := by
    unfold Literal.ofInitial?
    split
    case h_4 => rfl
    all_goals revert numeric; decide
  have noQuote : first ≠ '"' := by
    rintro rfl
    revert numeric
    decide
  rw [Token.scan, noMark, noLiteral]
  exact (if_neg noQuote).trans (if_pos numeric)

/-- A number that is written in any way is its token where nothing goes on with
it. -/
theorem tokens_numeral {numeral : Numeral} {text rest : List Char}
    (written : numeral.Writes text) (stops : Numeral.Stops rest) :
    tokens (text ++ rest) = .numeral numeral :: tokens rest := by
  have scanned := Numeral.scan_written written stops
  obtain ⟨first, others, rfl, numeric⟩ := written.exists_cons
  rw [List.cons_append] at scanned
  have begun : Token.scan first (others ++ rest) = (.numeral numeral, rest) := by
    rw [Token.scan_numeric numeric, scanned]
  exact tokens_cons (isBlank_numeric numeric) begun

/-- A natural number is spelled by its digits where nothing goes on with
them. -/
theorem tokens_toDigits (number : Nat) {rest : List Char} (stops : Numeral.Stops rest) :
    tokens (Nat.toDigits 10 number ++ rest) = .numeral (.ofNat number) :: tokens rest :=
  tokens_numeral (Numeral.writes_toDigits number) stops

end MessagePack.Json
