import MessagePack.Json.Skip
import MessagePack.Proofs.Json.Spelling

/-!
# JSON values in any layout

The grammar of JSON values as texts: literals, numbers and strings written in
any way, and arrays and objects of any depth, with any blanks where blanks may
stand. A value that is skipped goes by whole and nothing behind it is touched,
whatever brackets it stands in.

The grammar follows the text and knows neither tokens nor a stack of brackets.
What connects them is that every item of a bracket leads from the place where it
may begin to the one where a comma or the end may follow. From there on an array
and an object are skipped in the same way.
-/

namespace MessagePack.Json

/-! ## Layouts -/

/-- A value with the blanks before and after it, as it stands in an array. -/
structure Element where
  before : Blanks
  value : List Char
  after : Blanks

/-- The text of an element, its blanks included. -/
def Element.text (element : Element) : List Char :=
  element.before.text ++ (element.value ++ element.after.text)

/-- A name and a value with a colon between them, and the blanks around all
three. -/
structure Member where
  before : Blanks
  name : Body
  beforeColon : Blanks
  element : Element

/-- The text of a member, all its blanks included. -/
def Member.text (member : Member) : List Char :=
  member.before.text ++ (member.name.quoted ++
    (member.beforeColon.text ++ (Mark.colon.char :: member.element.text)))

/-- A name and a value without any blanks around them. -/
def Member.plain (name : Body) (value : List Char) : Member :=
  ⟨.none, name, .none, ⟨.none, value, .none⟩⟩

/-- The mark that opens a bracket. -/
def Bracket.opening : Bracket → Mark
  | array => .openBracket
  | object => .openBrace

/-- The mark that closes a bracket. -/
def Bracket.closing : Bracket → Mark
  | array => .closeBracket
  | object => .closeBrace

/-- Items with commas between them, up to the end of the bracket. Without any
items this is the end alone. -/
def Bracket.closed (bracket : Bracket) (items : List (List Char)) : List Char :=
  [Mark.comma.char].intercalate items ++ [bracket.closing.char]

theorem Bracket.closed_nil (bracket : Bracket) (rest : List Char) :
    bracket.closed [] ++ rest = bracket.closing.char :: rest := rfl

theorem Bracket.closed_singleton (bracket : Bracket) (item rest : List Char) :
    bracket.closed [item] ++ rest = item ++ (bracket.closing.char :: rest) := by
  rw [closed, List.intercalate_singleton, List.append_assoc, List.singleton_append]

theorem Bracket.closed_cons_cons (bracket : Bracket) (item next : List Char)
    (others : List (List Char)) (rest : List Char) :
    bracket.closed (item :: next :: others) ++ rest =
      item ++ (Mark.comma.char :: (bracket.closed (next :: others) ++ rest)) := by
  rw [closed, List.intercalate_cons_cons]
  simp only [List.append_assoc, List.cons_append, List.nil_append, closed]

/-- Items within a bracket, with blanks behind its opening. They are what an
empty bracket may still hold. -/
def Bracket.around (bracket : Bracket) (inner : Blanks) (items : List (List Char)) : List Char :=
  bracket.opening.char :: (inner.text ++ bracket.closed items)

/-- The text is a JSON value. The items of arrays and objects are values again,
to any depth, and blanks may stand wherever the format allows them. -/
inductive IsValue : List Char → Prop where
  | literal (literal : Literal) : IsValue literal.word
  | numeral {numeral : Numeral} {text : List Char} (written : numeral.Writes text) : IsValue text
  | string (body : Body) : IsValue body.quoted
  | array (inner : Blanks) (elements : List Element)
    (values : ∀ element ∈ elements, IsValue element.value) :
    IsValue (Bracket.array.around inner (elements.map Element.text))
  | object (inner : Blanks) (members : List Member)
    (values : ∀ member ∈ members, IsValue member.element.value) :
    IsValue (Bracket.object.around inner (members.map Member.text))

/-! ## Behind a value -/

namespace Numeral

/-- A mark goes on with no number, so a number may stand before any mark. -/
theorem stops_mark (mark : Mark) (rest : List Char) : Stops (mark.char :: rest) := by
  rintro _ ⟨⟩
  cases mark <;> rfl

/-- Blanks go on with no number, and where there are none it is what stands
behind that decides. -/
theorem stops_blanks (blanks : Blanks) {rest : List Char} (stops : Stops rest) :
    Stops (blanks.text ++ rest) := by
  obtain ⟨text, blank⟩ := blanks
  cases text with
  | nil => exact stops
  | cons char text =>
    rintro _ ⟨⟩
    have first := (List.forall_mem_cons.mp blank).1
    simp only [isBlank, Bool.or_eq_true, beq_iff_eq] at first
    rcases first with ((rfl | rfl) | rfl) | rfl <;> rfl

end Numeral

/-! ## Skipping -/

namespace Pending

/-- The tokens left when what is pending has gone by. It is a defect if the
tokens end before that. -/
def skip : Option Pending → List Token → Except Defect (List Token)
  | none, tokens => .ok tokens
  | some _, [] => .error .truncated
  | some pending, token :: tokens => (pending.advance token).bind fun next => skip next tokens

/-- Nothing is skipped where nothing is pending. -/
theorem skip_none (rest : List Token) : skip none rest = .ok rest := by
  cases rest <;> rfl

/-- A token that is taken goes by and leaves what is pending behind it. -/
theorem skip_cons {pending : Pending} {token : Token} {next : Option Pending}
    (taken : pending.advance token = .ok next) (rest : List Token) :
    skip (some pending) (token :: rest) = skip next rest := by
  rw [skip, taken]
  rfl

/-- What is pending where an item of a bracket may begin: the first one, where
the end may stand instead, or one behind a comma. -/
def atItem (enclosing : List Bracket) : Bracket → Bool → Pending
  | .array, true => ⟨.elementOrEnd, .array :: enclosing⟩
  | .array, false => ⟨.value, .array :: enclosing⟩
  | .object, true => ⟨.nameOrEnd, .object :: enclosing⟩
  | .object, false => ⟨.name, .object :: enclosing⟩

/-- A text is an item of a bracket that goes by: from where an item may begin,
the first or another, it leads to where a comma or the end may follow. -/
def ItemPasses (bracket : Bracket) (item : List Char) : Prop :=
  ∀ (enclosing : List Bracket) (first : Bool) (rest : List Char), Numeral.Stops rest →
    skip (some (atItem enclosing bracket first)) (tokens (item ++ rest)) =
      skip (some ⟨.commaOrEnd, bracket :: enclosing⟩) (tokens rest)

/-- A text is a value that goes by where one may begin, be it the first of an
array or another. -/
def ValuePasses (value : List Char) : Prop :=
  ∀ (expecting : Expecting) (enclosing : List Bracket) (rest : List Char),
    expecting = .value ∨ expecting = .elementOrEnd → Numeral.Stops rest →
    skip (some ⟨expecting, enclosing⟩) (tokens (value ++ rest)) =
      skip (afterValue enclosing) (tokens rest)

/-- A token that begins a value is taken as such wherever a value may begin.
Only the end of an array may stand in place of its first value. -/
theorem advance_begin {expecting : Expecting}
    (begins : expecting = .value ∨ expecting = .elementOrEnd) (enclosing : List Bracket)
    {token : Token} (noEnd : token ≠ .mark .closeBracket) :
    advance ⟨expecting, enclosing⟩ token = beginValue enclosing token := by
  rcases begins with rfl | rfl
  · rfl
  · exact if_neg noEnd

/-- A token that is a whole value goes by wherever a value may begin, and ends
it. -/
theorem skip_scalar {expecting : Expecting} {enclosing : List Bracket} {token : Token}
    (begins : expecting = .value ∨ expecting = .elementOrEnd)
    (scalar : beginValue enclosing token = .ok (afterValue enclosing)) (rest : List Token) :
    skip (some ⟨expecting, enclosing⟩) (token :: rest) = skip (afterValue enclosing) rest := by
  have noEnd : token ≠ .mark .closeBracket := by
    rintro rfl
    cases scalar
  exact skip_cons ((advance_begin begins enclosing noEnd).trans scalar) rest

/-- A value with blanks around it goes by as an item of an array, if the value
goes by. -/
theorem element_passes {element : Element} (passes : ValuePasses element.value) :
    ItemPasses .array element.text := by
  intro enclosing first rest stops
  have begins : (atItem enclosing .array first).expecting = .value ∨
      (atItem enclosing .array first).expecting = .elementOrEnd := by
    cases first <;> simp [atItem]
  have value := passes _ (.array :: enclosing) (element.after.text ++ rest) begins
    (Numeral.stops_blanks element.after stops)
  rw [tokens_blanks] at value
  rw [Element.text, List.append_assoc, tokens_blanks, List.append_assoc]
  cases first <;> exact value

/-- A name with a value goes by as an item of an object, if the value goes by.
The name and the colon lead to the place where the value may begin. -/
theorem member_passes {member : Member} (passes : ValuePasses member.element.value) :
    ItemPasses .object member.text := by
  intro enclosing first rest stops
  have named : (atItem enclosing .object first).advance (.quoted ⟨member.name.pieces, none⟩) =
      .ok (some ⟨.colon, .object :: enclosing⟩) := by
    cases first <;> rfl
  have separated : advance ⟨.colon, .object :: enclosing⟩ (.mark .colon) =
      .ok (some ⟨.value, .object :: enclosing⟩) := rfl
  have value := passes .value (.object :: enclosing) (member.element.after.text ++ rest)
    (.inl rfl) (Numeral.stops_blanks member.element.after stops)
  rw [tokens_blanks] at value
  simp only [Member.text, Element.text, List.append_assoc, List.cons_append]
  rw [tokens_blanks, tokens_quoted, skip_cons named, tokens_blanks, tokens_mark,
    skip_cons separated, tokens_blanks]
  exact value

/-- Items with commas between them go by up to the end of their bracket if each
of them does.

Proof: by induction on the items behind the first one. Behind an item stands the
end of the bracket or a comma; a mark goes on with no number, so the item goes
by before it, and behind a comma the next item may begin. -/
theorem skip_closed {bracket : Bracket} {item : List Char} {others : List (List Char)}
    (passes : ∀ text ∈ item :: others, ItemPasses bracket text) (enclosing : List Bracket)
    (first : Bool) (rest : List Char) :
    skip (some (atItem enclosing bracket first))
        (tokens (bracket.closed (item :: others) ++ rest)) =
      skip (afterValue enclosing) (tokens rest) := by
  induction others generalizing item first with
  | nil =>
    have ended : advance ⟨.commaOrEnd, bracket :: enclosing⟩ (.mark bracket.closing) =
        .ok (afterValue enclosing) := by
      cases bracket <;> rfl
    have itself := passes item List.mem_cons_self
    rw [Bracket.closed_singleton, itself enclosing first _ (Numeral.stops_mark _ rest),
      tokens_mark, skip_cons ended]
  | cons next others inductionHypothesis =>
    obtain ⟨passesFirst, passesLater⟩ := List.forall_mem_cons.mp passes
    have separated : advance ⟨.commaOrEnd, bracket :: enclosing⟩ (.mark .comma) =
        .ok (some (atItem enclosing bracket false)) := by
      cases bracket <;> rfl
    rw [Bracket.closed_cons_cons, passesFirst enclosing first _ (Numeral.stops_mark _ _),
      tokens_mark, skip_cons separated, inductionHypothesis passesLater]

/-- A bracket goes by as a value if all its items go by, and so does one without
items. -/
theorem around_passes {bracket : Bracket} {items : List (List Char)}
    (passes : ∀ item ∈ items, ItemPasses bracket item) (inner : Blanks) :
    ValuePasses (bracket.around inner items) := by
  intro expecting enclosing rest begins _
  have opened : advance ⟨expecting, enclosing⟩ (.mark bracket.opening) =
      .ok (some (atItem enclosing bracket true)) := by
    rw [advance_begin begins enclosing (by cases bracket <;> decide)]
    cases bracket <;> rfl
  rw [Bracket.around, List.cons_append, tokens_mark, skip_cons opened, List.append_assoc,
    tokens_blanks]
  cases items with
  | cons item others => exact skip_closed passes enclosing true rest
  | nil =>
    have ended : advance (atItem enclosing bracket true) (.mark bracket.closing) =
        .ok (afterValue enclosing) := by
      cases bracket <;> rfl
    rw [Bracket.closed_nil, tokens_mark, skip_cons ended]

end Pending

/-- A JSON value goes by where one may begin.

Proof: by induction on the grammar. Literals, numbers and strings are single
tokens, and a bracket goes by as its items do. -/
theorem IsValue.passes {value : List Char} (valid : IsValue value) : Pending.ValuePasses value := by
  induction valid with
  | literal literal =>
    intro expecting enclosing rest begins _
    rw [tokens_literal, Pending.skip_scalar begins rfl]
  | numeral written =>
    intro expecting enclosing rest begins stops
    rw [tokens_numeral written stops, Pending.skip_scalar begins rfl]
  | string body =>
    intro expecting enclosing rest begins _
    rw [tokens_quoted, Pending.skip_scalar begins rfl]
  | array inner elements _ inductionHypothesis =>
    apply Pending.around_passes
    intro item member
    obtain ⟨element, among, rfl⟩ := List.mem_map.mp member
    exact Pending.element_passes (inductionHypothesis element among)
  | object inner members _ inductionHypothesis =>
    apply Pending.around_passes
    intro item member
    obtain ⟨named, among, rfl⟩ := List.mem_map.mp member
    exact Pending.member_passes (inductionHypothesis named among)

/-- A JSON value that is skipped goes by whole, and what stands behind it is
left. If the value is a number, nothing behind it may go on with it. -/
theorem skip_value {value : List Char} (valid : IsValue value) {rest : List Char}
    (stops : Numeral.Stops rest) :
    Pending.skip (some .start) (tokens (value ++ rest)) = .ok (tokens rest) := by
  rw [Pending.start, valid.passes .value [] rest (.inl rfl) stops]
  exact Pending.skip_none _

end MessagePack.Json
