import MessagePack.Json.Skip
import MessagePack.Settings.Basic

/-!
# Settings as JSON documents

Settings are written as an object that names all four fields in their order,
without blanks. They are read from an object with any of the fields in any
order, where members of other names are skipped, or from an array of the first
few fields in their order. A field that is missing is as built. A field given
twice, or with a value of the wrong type, is refused.

A document is read token by token. The stage says what may come next; what has
been read so far stands in a draft. The first defect ends the reading, and a
document is whole only if it ends in the closed stage.
-/

namespace MessagePack.Settings

open Json

/-- A field of the settings. -/
inductive Field where
  | assertsMisuse
  | tracksReading
  | tracksWriting
  | initialCapacity
  deriving DecidableEq, Repr

namespace Field

/-- The fields in their order, which is the one of an array and of a printed
object. -/
def all : List Field := [assertsMisuse, tracksReading, tracksWriting, initialCapacity]

/-- The name of a field in a document. -/
def name : Field → String
  | assertsMisuse => "assert_on_misuse"
  | tracksReading => "read_tracking"
  | tracksWriting => "write_tracking"
  | initialCapacity => "initial_track_capacity"

/-- The field that a text names, if it names one. The whole name has to be
spelled. -/
def ofName? (text : List Char) : Option Field := all.find? fun field => field.name.toList == text

end Field

/-! ## Writing -/

/-- The text of a switch, which is a literal of JSON. -/
def switchText (switch : Bool) : List Char := (if switch then "true" else "false").toList

/-- The text of a field's value. A capacity is a plain number without a sign. -/
def valueText (settings : Settings) : Field → List Char
  | .assertsMisuse => switchText settings.assertsMisuse
  | .tracksReading => switchText settings.tracksReading
  | .tracksWriting => switchText settings.tracksWriting
  | .initialCapacity => Nat.toDigits 10 settings.initialCapacity.toNat

/-- The text of a field with its name. No name needs an escape. -/
def memberText (settings : Settings) (field : Field) : List Char :=
  '"' :: field.name.toList ++ '"' :: ':' :: settings.valueText field

/-- The document of the settings: all four fields, whether they are as built or
not. -/
def text (settings : Settings) : String :=
  .ofList ('\x7b' :: [','].intercalate (Field.all.map settings.memberText) ++ ['\x7d'])

/-! ## Reading -/

/-- The fields read so far. A field that has been read is told apart from one
that has not even where the value is as built. -/
structure Draft where
  assertsMisuse : Option Bool
  tracksReading : Option Bool
  tracksWriting : Option Bool
  initialCapacity : Option UInt64
  deriving DecidableEq, Repr

namespace Draft

/-- The draft with no field read. -/
def blank : Draft := ⟨none, none, none, none⟩

/-- Whether a field has been read. This is what a repeated name is noticed
by. -/
def has (draft : Draft) : Field → Bool
  | .assertsMisuse => draft.assertsMisuse.isSome
  | .tracksReading => draft.tracksReading.isSome
  | .tracksWriting => draft.tracksWriting.isSome
  | .initialCapacity => draft.initialCapacity.isSome

/-- The settings with the fields read, and all others as built. It can be asked
for at any time, but is used only at the end. -/
def settings (draft : Draft) : Settings where
  assertsMisuse := draft.assertsMisuse.getD asBuilt.assertsMisuse
  tracksReading := draft.tracksReading.getD asBuilt.tracksReading
  tracksWriting := draft.tracksWriting.getD asBuilt.tracksWriting
  initialCapacity := draft.initialCapacity.getD asBuilt.initialCapacity

/-- The defect of a token that begins a value of the wrong type. A scalar is
looked at whole before its type is found wrong, an array or an object is not
looked into. -/
def typeDefect : Token → Defect
  | .mark .openBrace | .mark .openBracket | .literal _ => .mismatched
  | .mark _ => .malformed
  | .numeral numeral => if numeral.isOutOfRange then .malformed else .mismatched
  | .quoted quoted =>
    match quoted.text with
    | .ok _ => .mismatched
    | .error defect => defect
  | .broken reading _ => reading

/-- The switch that a token stands for. Nothing but the two literals will do. -/
def switch : Token → Except Defect Bool
  | .literal .true => .ok true
  | .literal .false => .ok false
  | token => .error (typeDefect token)

/-- The capacity that a token stands for. A number that is no plain natural
number below 2 to the power of 64 has the wrong type, however it got its
value. -/
def capacity (token : Token) : Except Defect UInt64 :=
  match token with
  | .numeral numeral =>
    match numeral.uint64? with
    | some capacity => .ok capacity
    | none => .error (typeDefect token)
  | _ => .error (typeDefect token)

/-- The draft with a field read from the token of its value. What was read for
it before is lost, so a caller has to look first. -/
def readField (draft : Draft) (field : Field) (token : Token) : Except Defect Draft :=
  match field with
  | .assertsMisuse => (switch token).map fun value => { draft with assertsMisuse := some value }
  | .tracksReading => (switch token).map fun value => { draft with tracksReading := some value }
  | .tracksWriting => (switch token).map fun value => { draft with tracksWriting := some value }
  | .initialCapacity =>
    (capacity token).map fun value => { draft with initialCapacity := some value }

end Draft

/-- What may come next in a document. Only while a value is skipped does it hold
more than a bounded amount. -/
inductive Stage where
  | opening
  /-- The name of a member, or the end of the object if no member has been
  read. -/
  | name (first : Bool)
  /-- The colon before a field's value, or before a value to be skipped. -/
  | colon (field : Option Field)
  | value (field : Field)
  | skipped (pending : Pending)
  | memberEnd
  /-- The value of the first field left, or the end of the array if no value has
  been read. -/
  | element (first : Bool) (left : List Field)
  | elementEnd (left : List Field)
  | closed
  deriving DecidableEq, Repr

/-- How far a document has been read: what may come next, and the draft so
far. -/
structure Reading where
  stage : Stage
  draft : Draft
  deriving DecidableEq, Repr

namespace Reading

/-- The reading of which nothing is done. -/
def start : Reading := ⟨.opening, .blank⟩

/-- Reads the name of a member. A field that has been read already is refused at
once, before its colon and its value. A name that is no field's is the beginning
of a member that is skipped. -/
def readName (draft : Draft) : Token → Except Defect Reading
  | .quoted quoted => do
    let name ← quoted.text
    match Field.ofName? name with
    | some field =>
      if draft.has field then .error .mismatched else .ok ⟨.colon (some field), draft⟩
    | none => .ok ⟨.colon none, draft⟩
  | _ => .error .malformed

/-- Reads the value of an array's next field. There is no element behind the
last field. -/
def readElement (draft : Draft) (left : List Field) (token : Token) : Except Defect Reading :=
  match left with
  | [] => .error .malformed
  | field :: others => (draft.readField field token).map fun draft => ⟨.elementEnd others, draft⟩

/-- Takes one more token. The first defect ends the reading, as no stage follows
it. -/
def advance (reading : Reading) (token : Token) : Except Defect Reading :=
  let draft := reading.draft
  match reading.stage with
  | .opening =>
    match token with
    | .mark .openBrace => .ok ⟨.name true, draft⟩
    | .mark .openBracket => .ok ⟨.element true Field.all, draft⟩
    | _ => .error (Draft.typeDefect token)
  | .name first =>
    if first ∧ token = .mark .closeBrace then .ok ⟨.closed, draft⟩ else readName draft token
  | .colon field =>
    if token = .mark .colon then
      match field with
      | some field => .ok ⟨.value field, draft⟩
      | none => .ok ⟨.skipped .start, draft⟩
    else .error .malformed
  | .value field => (draft.readField field token).map fun draft => ⟨.memberEnd, draft⟩
  | .skipped pending =>
    (pending.advance token).map fun
      | some pending => ⟨.skipped pending, draft⟩
      | none => ⟨.memberEnd, draft⟩
  | .memberEnd =>
    match token with
    | .mark .comma => .ok ⟨.name false, draft⟩
    | .mark .closeBrace => .ok ⟨.closed, draft⟩
    | _ => .error .malformed
  | .element first left =>
    if token = .mark .closeBracket then
      if first then .ok ⟨.closed, draft⟩ else .error .malformed
    else readElement draft left token
  | .elementEnd left =>
    match token with
    | .mark .closeBracket => .ok ⟨.closed, draft⟩
    | .mark .comma => if left.isEmpty then .error .malformed else .ok ⟨.element false left, draft⟩
    | _ => .error .malformed
  | .closed => .error .malformed

/-- The settings of a reading that is done. A reading in any other stage was cut
short. -/
def finish (reading : Reading) : Except Defect Settings :=
  match reading.stage with
  | .closed => .ok reading.draft.settings
  | _ => .error .truncated

end Reading

/-- Reads the document of some settings, from its first token to its last. -/
def read (text : String) : Except Defect Settings := do
  let reading ← (tokens text.toList).foldlM Reading.advance .start
  reading.finish

end MessagePack.Settings
