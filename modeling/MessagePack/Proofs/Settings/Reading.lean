import Mathlib
import MessagePack.Proofs.Json.Layout
import MessagePack.Proofs.Settings.RoundTrip

/-!
# Reading settings from text

What the reader of settings does with each stretch of a document, whatever
stands behind it: a name written in any way, a field with its value, and a
member of another name with any value. A stretch leads from one stage of the
reading to the next and leaves a draft. What is left to read from there is the
rest of the text.
-/

namespace MessagePack.Settings

open Json

/-! ## Fields with values -/

/-- A field with a value of its type, as a document may give it. -/
inductive Given where
  | assertsMisuse (value : Bool)
  | tracksReading (value : Bool)
  | tracksWriting (value : Bool)
  | initialCapacity (value : UInt64)
  deriving DecidableEq, Repr

namespace Given

/-- The field that is given, whatever its value is. -/
def field : Given → Field
  | .assertsMisuse _ => .assertsMisuse
  | .tracksReading _ => .tracksReading
  | .tracksWriting _ => .tracksWriting
  | .initialCapacity _ => .initialCapacity

/-- The text of the value as documents write it. -/
def text : Given → List Char
  | .assertsMisuse value | .tracksReading value | .tracksWriting value => switchText value
  | .initialCapacity value => Nat.toDigits 10 value.toNat

/-- Settings with the value in its field, and all others as they were. -/
def put (settings : Settings) : Given → Settings
  | .assertsMisuse value => { settings with assertsMisuse := value }
  | .tracksReading value => { settings with tracksReading := value }
  | .tracksWriting value => { settings with tracksWriting := value }
  | .initialCapacity value => { settings with initialCapacity := value }

/-- The token of the value, which is that of settings that have it. -/
def token (given : Given) : Token := (put asBuilt given).valueToken given.field

/-- A value is spelled as its token where nothing goes on with a number. -/
theorem tokens_text (given : Given) {rest : List Char} (stops : Numeral.Stops rest) :
    tokens (given.text ++ rest) = given.token :: tokens rest := by
  have same : given.text = (put asBuilt given).valueText given.field := by cases given <;> rfl
  rw [same]
  exact tokens_valueText _ given.field stops

/-- A value does not look like the end of an array. -/
theorem token_ne_closeBracket (given : Given) : given.token ≠ .mark .closeBracket := by
  cases given <;> exact Token.noConfusion

/-- Values of different fields do not meet, so they can be put in either
order. -/
theorem put_comm {left right : Given} (apart : left.field ≠ right.field) (settings : Settings) :
    put (put settings left) right = put (put settings right) left := by
  cases left <;> cases right <;> simp [field, put] at apart ⊢

end Given

namespace Draft

/-- The draft with a field read, be it for the first time or not. -/
def take (draft : Draft) (given : Given) : Draft := draft.fill (given.put asBuilt) given.field

/-- The draft with a field read, unless it has been read before. -/
def accept (draft : Draft) (given : Given) : Except Defect Draft :=
  if draft.has given.field then .error .mismatched else .ok (draft.take given)

/-- A field that has not been read is taken. -/
theorem accept_of_unread {draft : Draft} {given : Given} (unread : draft.has given.field = false) :
    draft.accept given = .ok (draft.take given) := by
  simp [accept, unread]

/-- A field that has been read is refused, even with the same value. -/
theorem accept_of_read {draft : Draft} {given : Given} (read : draft.has given.field = true) :
    draft.accept given = .error .mismatched := if_pos read

/-- The value of a field is read from its token. -/
theorem readField_token (draft : Draft) (given : Given) :
    draft.readField given.field given.token = .ok (draft.take given) :=
  readField_valueToken (given.put asBuilt) draft given.field

/-- At first no field has been read. -/
theorem has_blank (field : Field) : blank.has field = false := by
  cases field <;> rfl

/-- A field has been read if it is the last one or was read before. -/
theorem has_take (draft : Draft) (given : Given) (field : Field) :
    (draft.take given).has field = (draft.has field || decide (field = given.field)) :=
  has_fill (given.put asBuilt) draft given.field field

/-- Fields have been read if they are among the last ones or were read before,
by induction on the last ones. -/
theorem has_foldl_take (draft : Draft) (givens : List Given) (field : Field) :
    (givens.foldl take draft).has field = true ↔
      draft.has field = true ∨ ∃ given ∈ givens, given.field = field := by
  induction givens generalizing draft with
  | nil => simp
  | cons given givens inductionHypothesis =>
    rw [List.foldl_cons, inductionHypothesis, has_take, Bool.or_eq_true, decide_eq_true_iff,
      List.exists_mem_cons_iff, or_assoc, eq_comm (a := field)]

/-- A field that is read is put into the settings that the draft tells. -/
theorem settings_take (draft : Draft) (given : Given) :
    (draft.take given).settings = given.put draft.settings := by
  cases given <;> rfl

/-- Fields that are read one after the other are put into the settings one after
the other. -/
theorem settings_foldl_take (draft : Draft) (givens : List Given) :
    (givens.foldl take draft).settings = givens.foldl Given.put draft.settings :=
  (List.foldl_hom Draft.settings fun _ _ => (settings_take _ _).symm).symm

/-- Fields are read if each is given once and none has been read before.

Proof: by induction on the given fields. After one has been taken the others are
still unread, since they are different from it. -/
theorem foldlM_accept_of_distinct {givens : List Given} {draft : Draft}
    (distinct : (givens.map Given.field).Nodup)
    (unread : ∀ given ∈ givens, draft.has given.field = false) :
    givens.foldlM accept draft = .ok (givens.foldl take draft) := by
  induction givens generalizing draft with
  | nil => rfl
  | cons given givens inductionHypothesis =>
    obtain ⟨absent, distinctLater⟩ := List.nodup_cons.mp distinct
    obtain ⟨unreadFirst, unreadLater⟩ := List.forall_mem_cons.mp unread
    have stillUnread : ∀ other ∈ givens, (draft.take given).has other.field = false := by
      intro other member
      have another : other.field ≠ given.field :=
        fun same => absent (List.mem_map.mpr ⟨other, member, same⟩)
      rw [has_take, unreadLater other member, Bool.false_or, decide_eq_false another]
    rw [List.foldlM_cons, accept_of_unread unreadFirst]
    exact inductionHypothesis distinctLater stillUnread

/-- Fields are refused if one of them is given twice or has been read before.

Proof: by induction on the given fields. If the first has been read it is
refused. If not, it is taken, and the others contain a field twice, or one that
has been read by now. -/
theorem foldlM_accept_of_repeated {givens : List Given} {draft : Draft}
    (repeated : ¬ ((givens.map Given.field).Nodup ∧
      ∀ given ∈ givens, draft.has given.field = false)) :
    givens.foldlM accept draft = .error .mismatched := by
  induction givens generalizing draft with
  | nil => exact absurd ⟨List.nodup_nil, List.forall_mem_nil _⟩ repeated
  | cons given givens inductionHypothesis =>
    rw [List.foldlM_cons]
    cases read : draft.has given.field with
    | true =>
      rw [accept_of_read read]
      rfl
    | false =>
      rw [accept_of_unread read]
      apply inductionHypothesis
      rintro ⟨distinct, unread⟩
      apply repeated
      simp only [has_take, Bool.or_eq_false_iff, decide_eq_false_iff_not] at unread
      refine ⟨List.nodup_cons.mpr ⟨?_, distinct⟩, List.forall_mem_cons.mpr ⟨read, ?_⟩⟩
      · intro member
        obtain ⟨other, among, same⟩ := List.mem_map.mp member
        exact (unread other among).2 same
      · exact fun other among => (unread other among).1

end Draft

/-! ## Stretches of a document -/

namespace Reading

/-- What comes of a reading that goes on with a text to its end. -/
def readOn (reading : Reading) (text : List Char) : Except Defect Settings := do
  let reached ← (tokens text).foldlM advance reading
  reached.finish

/-- A document is read from the start to its end, from nothing read so far. -/
theorem read_ofList (text : List Char) : read (.ofList text) = start.readOn text := by
  rw [read, String.toList_ofList]
  rfl

/-- A token that is taken leaves the rest to be read. -/
theorem readOn_of_taken {reading next : Reading} {token : Token} {text rest : List Char}
    (spelled : tokens text = token :: tokens rest) (taken : reading.advance token = .ok next) :
    reading.readOn text = next.readOn rest := by
  rw [readOn, spelled, foldlM_cons taken]
  rfl

/-- A token that is refused ends the reading with its defect, whatever stands
behind it. -/
theorem readOn_of_refused {reading : Reading} {token : Token} {text : List Char}
    {later : List Token} {defect : Defect} (spelled : tokens text = token :: later)
    (refused : reading.advance token = .error defect) :
    reading.readOn text = .error defect := by
  rw [readOn, spelled, List.foldlM_cons, refused]
  rfl

/-- Blanks make no difference wherever a token may stand. -/
theorem readOn_blanks (reading : Reading) (blanks : Blanks) (rest : List Char) :
    reading.readOn (blanks.text ++ rest) = reading.readOn rest := by
  rw [readOn, tokens_blanks]
  rfl

/-- A mark that is taken leaves the rest to be read. -/
theorem readOn_mark {reading next : Reading} {mark : Mark}
    (taken : reading.advance (.mark mark) = .ok next) (rest : List Char) :
    reading.readOn (mark.char :: rest) = next.readOn rest :=
  readOn_of_taken (tokens_mark mark rest) taken

/-- A value that is skipped leaves the rest to be read behind its member. The
reading skips one token after the other, as the value does by itself, and keeps
its draft. -/
theorem foldlM_of_skip {pending : Pending} {passing left : List Token} (draft : Draft)
    (skipped : Pending.skip (some pending) passing = .ok left) :
    passing.foldlM advance ⟨.skipped pending, draft⟩ =
      left.foldlM advance ⟨.memberEnd, draft⟩ := by
  induction passing generalizing pending with
  | nil => cases skipped
  | cons token passing inductionHypothesis =>
    cases taken : pending.advance token with
    | error defect =>
      rw [Pending.skip, taken] at skipped
      cases skipped
    | ok next =>
      rw [Pending.skip_cons taken] at skipped
      cases next with
      | none =>
        rw [Pending.skip_none] at skipped
        obtain rfl := Except.ok.inj skipped
        have ended : advance ⟨.skipped pending, draft⟩ token = .ok ⟨.memberEnd, draft⟩ := by
          simp [advance, taken, Except.map]
        exact foldlM_cons ended _
      | some next =>
        have within : advance ⟨.skipped pending, draft⟩ token =
            .ok ⟨.skipped next, draft⟩ := by
          simp [advance, taken, Except.map]
        rw [foldlM_cons within]
        exact inductionHypothesis skipped

/-- Any value is skipped where one is to be skipped, and what stands behind it
is left. -/
theorem readOn_skipped {value : List Char} (valid : IsValue value) (draft : Draft)
    {rest : List Char} (stops : Numeral.Stops rest) :
    readOn ⟨.skipped .start, draft⟩ (value ++ rest) = readOn ⟨.memberEnd, draft⟩ rest := by
  rw [readOn, foldlM_of_skip draft (skip_value valid stops)]
  rfl

/-- What becomes of a name depends on its text alone, not on how it is written:
it is that of a field, which must not have been read, or another one. -/
theorem advance_spelled {pieces : List Piece} {name : List Char}
    (spelled : Quoted.Spells pieces name) (draft : Draft) (first : Bool) :
    advance ⟨.name first, draft⟩ (.quoted ⟨pieces, none⟩) =
      match Field.ofName? name with
      | some field =>
        if draft.has field then .error .mismatched else .ok ⟨.colon (some field), draft⟩
      | none => .ok ⟨.colon none, draft⟩ := by
  have noEnd : ¬ (first = true ∧ Token.quoted ⟨pieces, none⟩ = .mark .closeBrace) :=
    fun both => Token.noConfusion both.2
  refine (if_neg noEnd).trans ?_
  rw [readName, Quoted.text_eq_of_spells spelled]
  rfl

/-- The name of a field that has been read already is refused, whatever stands
behind it. The value is not come to. -/
theorem readOn_repeated {body : Body} {field : Field} {draft : Draft}
    (named : Quoted.Spells body.pieces field.name.toList) (read : draft.has field = true)
    (first : Bool) (rest : List Char) :
    readOn ⟨.name first, draft⟩ (body.quoted ++ rest) = .error .mismatched := by
  apply readOn_of_refused (tokens_quoted body rest)
  simp [advance_spelled named, Field.ofName?_name, read]

/-- A name that is taken leads over its colon to the value of the member. -/
theorem readOn_named {member : Member} {draft : Draft} {first : Bool} {named next : Reading}
    (taken : advance ⟨.name first, draft⟩ (.quoted ⟨member.name.pieces, none⟩) = .ok named)
    (separated : named.advance (.mark .colon) = .ok next) (rest : List Char) :
    readOn ⟨.name first, draft⟩ (member.text ++ rest) =
      next.readOn (member.element.value ++ (member.element.after.text ++ rest)) := by
  simp only [Member.text, Element.text, List.append_assoc, List.cons_append]
  rw [readOn_blanks, readOn_of_taken (tokens_quoted _ _) taken, readOn_blanks,
    readOn_mark separated, readOn_blanks]

/-- A field that has not been read is taken into the draft with its value, in
whatever way its name is written. -/
theorem readOn_given {member : Member} {given : Given} {draft : Draft}
    (named : Quoted.Spells member.name.pieces given.field.name.toList)
    (valued : member.element.value = given.text) (unread : draft.has given.field = false)
    (first : Bool) {rest : List Char} (stops : Numeral.Stops rest) :
    readOn ⟨.name first, draft⟩ (member.text ++ rest) =
      readOn ⟨.memberEnd, draft.take given⟩ rest := by
  have taken : advance ⟨.name first, draft⟩ (.quoted ⟨member.name.pieces, none⟩) =
      .ok ⟨.colon (some given.field), draft⟩ := by
    simp [advance_spelled named, Field.ofName?_name, unread]
  have separated : advance ⟨.colon (some given.field), draft⟩ (.mark .colon) =
      .ok ⟨.value given.field, draft⟩ := rfl
  have read : advance ⟨.value given.field, draft⟩ given.token =
      .ok ⟨.memberEnd, draft.take given⟩ :=
    congrArg (Except.map _) (draft.readField_token given)
  have spelled := given.tokens_text (Numeral.stops_blanks member.element.after stops)
  rw [readOn_named taken separated, valued, readOn_of_taken spelled read, readOn_blanks]

/-- A member of another name is skipped with its value, and the draft stays as
it was. -/
theorem readOn_other {member : Member} {name : List Char}
    (named : Quoted.Spells member.name.pieces name)
    (unknown : ∀ field : Field, name ≠ field.name.toList)
    (valid : IsValue member.element.value) (draft : Draft) (first : Bool) {rest : List Char}
    (stops : Numeral.Stops rest) :
    readOn ⟨.name first, draft⟩ (member.text ++ rest) = readOn ⟨.memberEnd, draft⟩ rest := by
  have noField : Field.ofName? name = none := by
    simp only [Field.ofName?, List.find?_eq_none, beq_iff_eq]
    exact fun field _ same => unknown field same.symm
  have taken : advance ⟨.name first, draft⟩ (.quoted ⟨member.name.pieces, none⟩) =
      .ok ⟨.colon none, draft⟩ := by
    rw [advance_spelled named, noField]
  have separated : advance ⟨.colon none, draft⟩ (.mark .colon) =
      .ok ⟨.skipped .start, draft⟩ := rfl
  rw [readOn_named taken separated,
    readOn_skipped valid draft (Numeral.stops_blanks member.element.after stops), readOn_blanks]

/-- The value of the next field of an array is taken into the draft, and the
field is no longer expected. -/
theorem readOn_element {element : Element} {given : Given} (valued : element.value = given.text)
    (draft : Draft) (left : List Field) (first : Bool) {rest : List Char}
    (stops : Numeral.Stops rest) :
    readOn ⟨.element first (given.field :: left), draft⟩ (element.text ++ rest) =
      readOn ⟨.elementEnd left, draft.take given⟩ rest := by
  have read : advance ⟨.element first (given.field :: left), draft⟩ given.token =
      .ok ⟨.elementEnd left, draft.take given⟩ := by
    simp [advance, given.token_ne_closeBracket, readElement, draft.readField_token given,
      Except.map]
  have spelled := given.tokens_text (Numeral.stops_blanks element.after stops)
  simp only [Element.text, valued, List.append_assoc]
  rw [readOn_blanks, readOn_of_taken spelled read, readOn_blanks]

/-- Behind the document only blanks may stand, and its draft tells the
settings. -/
theorem readOn_closed (draft : Draft) (blanks : Blanks) :
    readOn ⟨.closed, draft⟩ blanks.text = .ok draft.settings := by
  have noTokens : tokens blanks.text = [] := by
    have behind := tokens_blanks blanks []
    rw [List.append_nil] at behind
    rw [behind, tokens]
  rw [readOn, noTokens]
  rfl

end Reading

end MessagePack.Settings
