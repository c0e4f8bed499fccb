import MessagePack.Json.Token

/-!
# Skipping JSON values

A value that nobody wants is skipped token by token. What is pending is what may
come next and the brackets that are still open, innermost first, so values may
be nested to any depth. Skipped strings need not spell characters and skipped
numerals may be of any size.
-/

namespace MessagePack.Json

/-- An array or an object that is open. How many items have gone by does not
matter. -/
inductive Bracket where
  | array
  | object
  deriving DecidableEq, Repr

/-- What may come next while a value is skipped. An item of a bracket is
expected in two ways, since a bracket may end at once but not behind a comma. -/
inductive Expecting where
  | value
  /-- The first element of an array, or its end. -/
  | elementOrEnd
  /-- The first name of an object, or its end. -/
  | nameOrEnd
  | name
  | colon
  | commaOrEnd
  deriving DecidableEq, Repr

/-- A value that is being skipped. Its innermost bracket stands first. -/
structure Pending where
  expecting : Expecting
  enclosing : List Bracket
  deriving DecidableEq, Repr

namespace Pending

/-- A value of which nothing has gone by, within no bracket. -/
def start : Pending := ⟨.value, []⟩

/-- What is pending after a value within some brackets, or nothing if there are
none. So the outermost value ends the skipping. -/
def afterValue : List Bracket → Option Pending
  | [] => none
  | enclosing => some ⟨.commaOrEnd, enclosing⟩

/-- What is pending after the first token of a value within some brackets. A
scalar is whole with it. -/
def beginValue (enclosing : List Bracket) : Token → Except Defect (Option Pending)
  | .mark .openBracket => .ok (some ⟨.elementOrEnd, .array :: enclosing⟩)
  | .mark .openBrace => .ok (some ⟨.nameOrEnd, .object :: enclosing⟩)
  | .mark _ => .error .malformed
  | .literal _ | .numeral _ => .ok (afterValue enclosing)
  | .quoted quoted =>
    match quoted.defect with
    | some defect => .error defect
    | none => .ok (afterValue enclosing)
  | .broken _ skipping => .error skipping

/-- What is pending after the name of a member. A string that is closed will do,
whatever it spells. -/
def beginMember (enclosing : List Bracket) : Token → Except Defect (Option Pending)
  | .quoted quoted =>
    match quoted.defect with
    | some defect => .error defect
    | none => .ok (some ⟨.colon, enclosing⟩)
  | _ => .error .malformed

/-- What is pending after a comma or an end within the innermost bracket. A
bracket ends only with its own mark. -/
def continueOrEnd : List Bracket → Token → Except Defect (Option Pending)
  | .array :: outer, .mark .comma => .ok (some ⟨.value, .array :: outer⟩)
  | .object :: outer, .mark .comma => .ok (some ⟨.name, .object :: outer⟩)
  | .array :: outer, .mark .closeBracket => .ok (afterValue outer)
  | .object :: outer, .mark .closeBrace => .ok (afterValue outer)
  | _, _ => .error .malformed

/-- What is pending after one more token, or nothing once the value has gone by.
The brackets are the only memory, so the depth of a value has no bound. -/
def advance (pending : Pending) (token : Token) : Except Defect (Option Pending) :=
  match pending.expecting with
  | .value => beginValue pending.enclosing token
  | .elementOrEnd =>
    if token = .mark .closeBracket then .ok (afterValue pending.enclosing.tail)
    else beginValue pending.enclosing token
  | .nameOrEnd =>
    if token = .mark .closeBrace then .ok (afterValue pending.enclosing.tail)
    else beginMember pending.enclosing token
  | .name => beginMember pending.enclosing token
  | .colon =>
    if token = .mark .colon then .ok (some ⟨.value, pending.enclosing⟩) else .error .malformed
  | .commaOrEnd => continueOrEnd pending.enclosing token

end Pending

end MessagePack.Json
