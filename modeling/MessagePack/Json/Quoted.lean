import MessagePack.Json.Defect

/-!
# JSON strings

A string is split off as the pieces it is written with, where an escape by
number is a UTF-16 code unit, and with the defect that ended it unless it is
closed. Where a string is only skipped its pieces do not matter. Where its text
is wanted, units have to spell characters: a high surrogate is followed by a low
one and a low one never stands alone.
-/

namespace MessagePack.Json

/-- A piece of a string as it is written. An escape by letter is the character
it stands for, as nothing distinguishes the two later on. -/
inductive Piece where
  | char (char : Char)
  /-- A UTF-16 code unit given by number. -/
  | unit (unit : Nat)
  deriving DecidableEq, Repr

/-- A string as it is written, and the defect that ended it unless it is closed.
Whether its units spell characters is left open. -/
structure Quoted where
  pieces : List Piece
  defect : Option Defect
  deriving DecidableEq, Repr

namespace Quoted

/-- The character that an escape by letter stands for. -/
def escaped? : Char → Option Char
  | '"' => some '"'
  | '\\' => some '\\'
  | '/' => some '/'
  | 'b' => some '\x08'
  | 'f' => some '\x0c'
  | 'n' => some '\n'
  | 'r' => some '\r'
  | 't' => some '\t'
  | _ => none

/-- The value of a hexadecimal digit, of either case. -/
def hexDigit? (char : Char) : Option Nat :=
  if char.isDigit then some (char.toNat - '0'.toNat)
  else if 'a' ≤ char ∧ char ≤ 'f' then some (char.toNat - 'a'.toNat + 10)
  else if 'A' ≤ char ∧ char ≤ 'F' then some (char.toNat - 'A'.toNat + 10)
  else none

/-- The code unit that four hexadecimal digits spell. There have to be exactly
four. -/
def unit? (first second third fourth : Char) : Option Nat := do
  let first ← hexDigit? first
  let second ← hexDigit? second
  let third ← hexDigit? third
  let fourth ← hexDigit? fourth
  return ((first * 16 + second) * 16 + third) * 16 + fourth

/-- Whether fewer than four bytes of text are left. -/
def endsWithinFourBytes (text : List Char) : Bool :=
  decide ((String.ofList (text.take 4)).utf8ByteSize < 4)

/-- The string with a piece in front. -/
def cons (piece : Piece) (quoted : Quoted) : Quoted :=
  { quoted with pieces := piece :: quoted.pieces }

/-- Splits off a string whose opening quote has gone by. An escape by number is
cut off where fewer than four bytes follow, whatever they are. -/
def scan : List Char → Quoted × List Char
  | [] => (⟨[], some .truncated⟩, [])
  | char :: rest =>
    if char = '"' then (⟨[], none⟩, rest)
    else if char = '\\' then
      match rest with
      | [] => (⟨[], some .truncated⟩, [])
      | letter :: rest =>
        if letter = 'u' then
          if endsWithinFourBytes rest then (⟨[], some .truncated⟩, [])
          else
            match rest with
            | first :: second :: third :: fourth :: rest =>
              match unit? first second third fourth with
              | some unit =>
                let (quoted, after) := scan rest
                (quoted.cons (.unit unit), after)
              | none => (⟨[], some .malformed⟩, [])
            | _ => (⟨[], some .malformed⟩, [])
        else
          match escaped? letter with
          | some char =>
            let (quoted, after) := scan rest
            (quoted.cons (.char char), after)
          | none => (⟨[], some .malformed⟩, [])
    else if char < ' ' then (⟨[], some .malformed⟩, [])
    else
      let (quoted, after) := scan rest
      (quoted.cons (.char char), after)

/-- Whether a code unit is the first of a pair. It stands for no character by
itself. -/
def isHighSurrogate (unit : Nat) : Bool := decide (0xD800 ≤ unit) && decide (unit < 0xDC00)

/-- Whether a code unit is the second of a pair. It stands for no character by
itself. -/
def isLowSurrogate (unit : Nat) : Bool := decide (0xDC00 ≤ unit) && decide (unit < 0xE000)

/-- The character that a pair of surrogates spells. Each surrogate gives ten
bits, and the first character beyond single units is added. -/
def paired (high low : Nat) : Char :=
  Char.ofNat (0x10000 + (high - 0xD800) * 0x400 + (low - 0xDC00))

/-- The text that pieces spell, unless a surrogate among them has no partner or
a defect ended them. Whichever comes first in the string decides. -/
def assemble (defect : Option Defect) : List Piece → Except Defect (List Char)
  | [] =>
    match defect with
    | none => .ok []
    | some defect => .error defect
  | .char char :: rest => (assemble defect rest).map (char :: ·)
  | .unit unit :: rest =>
    if isLowSurrogate unit then .error .malformed
    else if isHighSurrogate unit then
      match rest with
      | .unit low :: rest =>
        if isLowSurrogate low then (assemble defect rest).map (paired unit low :: ·)
        else .error .malformed
      | [] => .error (defect.getD .malformed)
      | .char _ :: _ => .error .malformed
    else (assemble defect rest).map (Char.ofNat unit :: ·)

/-- The text of a string. A reader asks for it, and one who skips does not. -/
def text (quoted : Quoted) : Except Defect (List Char) := assemble quoted.defect quoted.pieces

theorem length_scan (text : List Char) : (scan text).2.length ≤ text.length := by
  fun_induction scan text <;> simp_all <;> omega

end Quoted

end MessagePack.Json
