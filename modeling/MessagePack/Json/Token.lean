import MessagePack.Json.Numeral
import MessagePack.Json.Quoted

/-!
# JSON tokens

A text is a list of tokens with blanks between them. Text that begins no token,
and a numeral or a literal that is not spelled to its end, gives a broken token
and ends the list; a string keeps its own defect. A broken token tells its
defect where a value is read and where one is only skipped: an unfinished
numeral is a text that ends too early for the one and no JSON for the other.
-/

namespace MessagePack.Json

/-- A punctuation mark. Each is one character. -/
inductive Mark where
  | openBrace
  | closeBrace
  | openBracket
  | closeBracket
  | colon
  | comma
  deriving DecidableEq, Repr

/-- A value that is spelled as a word. -/
inductive Literal where
  | true
  | false
  | null
  deriving DecidableEq, Repr

/-- A token of a text. Only a string and a broken token can carry a defect. -/
inductive Token where
  | mark (mark : Mark)
  | literal (literal : Literal)
  | numeral (numeral : Numeral)
  | quoted (quoted : Quoted)
  /-- The start of no token, with its defect for a reader and for one who
  skips. -/
  | broken (reading skipping : Defect)
  deriving DecidableEq, Repr

/-- The mark that a character is, if it is one. -/
def Mark.ofChar? : Char → Option Mark
  | '\x7b' => some openBrace
  | '\x7d' => some closeBrace
  | '[' => some openBracket
  | ']' => some closeBracket
  | ':' => some colon
  | ',' => some comma
  | _ => none

/-- The literal that begins with a character, and what has to follow. The first
letter settles which one it is. -/
def Literal.ofInitial? : Char → Option (Literal × List Char)
  | 't' => some (true, ['r', 'u', 'e'])
  | 'f' => some (false, ['a', 'l', 's', 'e'])
  | 'n' => some (null, ['u', 'l', 'l'])
  | _ => none

/-- Splits off characters that have to be there. A text that ends among them is
told apart from one that differs. -/
def Literal.scanRest : List Char → List Char → Except Defect (List Char)
  | [], text => .ok text
  | _ :: _, [] => .error .truncated
  | wanted :: others, char :: rest =>
    if wanted = char then scanRest others rest else .error .malformed

/-- Whether a character may stand between tokens. There are four such
characters, and no other white space is one. -/
def isBlank (char : Char) : Bool :=
  char == ' ' || char == '\n' || char == '\t' || char == '\r'

namespace Token

/-- Splits off the token that begins with a character. Nothing is left after a
broken one, so a list of tokens ends with it. -/
def scan (char : Char) (rest : List Char) : Token × List Char :=
  match Mark.ofChar? char with
  | some found => (.mark found, rest)
  | none =>
    match Literal.ofInitial? char with
    | some (word, others) =>
      match Literal.scanRest others rest with
      | .ok after => (.literal word, after)
      | .error defect => (.broken defect defect, [])
    | none =>
      if char = '"' then
        let (string, after) := Quoted.scan rest
        (.quoted string, after)
      else if char = '-' ∨ char.isDigit then
        match Numeral.scan (char :: rest) with
        | .ok (number, after) => (.numeral number, after)
        | .error defect => (.broken defect .malformed, [])
      else (.broken .malformed .malformed, [])

theorem length_scanRest {wanted text rest : List Char}
    (scanned : Literal.scanRest wanted text = .ok rest) : rest.length ≤ text.length := by
  induction wanted generalizing text with
  | nil =>
    obtain rfl := Except.ok.inj scanned
    exact Nat.le_refl _
  | cons first others inductionHypothesis =>
    cases text with
    | nil => simp [Literal.scanRest] at scanned
    | cons char after =>
      unfold Literal.scanRest at scanned
      split at scanned
      · exact Nat.le_succ_of_le (inductionHypothesis scanned)
      · simp at scanned

/-- A token takes its first character at least. This is what the list of tokens
is made by recursion on. -/
theorem length_scan (char : Char) (rest : List Char) :
    (scan char rest).2.length ≤ rest.length := by
  unfold scan
  split
  · exact Nat.le_refl _
  · split
    · split
      · next after scanned => exact length_scanRest scanned
      · exact Nat.zero_le _
    · split
      · exact Quoted.length_scan rest
      · split
        · split
          · next number after scanned =>
            have shorter := Numeral.length_of_scan scanned
            rw [List.length_cons] at shorter
            exact Nat.le_of_lt_succ shorter
          · exact Nat.zero_le _
        · exact Nat.zero_le _

end Token

/-- The tokens of a text, up to the first broken one. No reader needs more: the
first defect ends the reading. -/
def tokens : List Char → List Token
  | [] => []
  | char :: rest =>
    if isBlank char then tokens rest
    else
      let scanned := Token.scan char rest
      scanned.1 :: tokens scanned.2
termination_by text => text.length
decreasing_by
  · simp
  · have shorter := Token.length_scan char rest
    simp only [List.length_cons]
    omega

end MessagePack.Json
