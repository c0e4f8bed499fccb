import Mathlib
import MessagePack.Proofs.Json.Spelling
import MessagePack.Settings.Document

/-!
# Settings survive their documents

A document of settings is read back as the settings that it was written from.
Its tokens are known in full: the names of all four fields, once each and in
their order, each with a colon and the value of its field, between braces and
with commas between them. Reading takes one member after the other into the
draft, where a value that was read is never overruled by the one as built.

So different settings have different documents, and settings that were read from
any document at all are read again from the document that is written for them.
-/

namespace MessagePack.Settings

open Json

/-! ## The tokens of a document -/

/-- The literal of a switch, by its value. -/
def switchLiteral (switch : Bool) : Literal := if switch then .true else .false

/-- The token of a field's value in some settings. -/
def valueToken (settings : Settings) : Field → Token
  | .assertsMisuse => .literal (switchLiteral settings.assertsMisuse)
  | .tracksReading => .literal (switchLiteral settings.tracksReading)
  | .tracksWriting => .literal (switchLiteral settings.tracksWriting)
  | .initialCapacity => .numeral (.ofNat settings.initialCapacity.toNat)

/-- The tokens of a field with its name: the name, a colon and the value. -/
def memberTokens (settings : Settings) (field : Field) : List Token :=
  [.quoted (.plain field.name.toList), .mark .colon, settings.valueToken field]

/-- The tokens of the document of settings: the members of all fields between
braces, with commas between them. -/
def documentTokens (settings : Settings) : List Token :=
  .mark .openBrace :: [.mark .comma].intercalate (Field.all.map settings.memberTokens) ++
    [.mark .closeBrace]

/-- The word of a switch is the one of its literal. -/
theorem switchText_eq (switch : Bool) : switchText switch = (switchLiteral switch).word := by
  cases switch <;> rfl

/-- The text of a value is spelled as its token where nothing goes on with a
number. For a switch any text may follow. -/
theorem tokens_valueText (settings : Settings) (field : Field) {rest : List Char}
    (ends : ∀ char, rest.head? = some char → Numeral.continues char = false) :
    tokens (settings.valueText field ++ rest) = settings.valueToken field :: tokens rest := by
  cases field with
  | initialCapacity => exact tokens_toDigits _ ends
  | assertsMisuse | tracksReading | tracksWriting =>
    rw [valueText, switchText_eq]
    exact tokens_literal _ rest

/-- The name of a field needs no escapes, so it is written as it is. -/
theorem Field.name_plain (field : Field) : ∀ char ∈ field.name.toList, Quoted.IsPlain char := by
  cases field <;> simp [name, Quoted.IsPlain]

/-- The text of a member is spelled as its tokens where nothing goes on with a
number. -/
theorem tokens_memberText (settings : Settings) (field : Field) {rest : List Char}
    (ends : ∀ char, rest.head? = some char → Numeral.continues char = false) :
    tokens (settings.memberText field ++ rest) = settings.memberTokens field ++ tokens rest := by
  have named := tokens_plain field.name_plain (':' :: (settings.valueText field ++ rest))
  have separated : tokens (':' :: (settings.valueText field ++ rest)) =
      .mark .colon :: tokens (settings.valueText field ++ rest) := tokens_mark .colon _
  rw [separated, tokens_valueText settings field ends] at named
  simpa [memberText, memberTokens] using named

/-- The texts of members with commas between them are spelled as their tokens
where nothing goes on with a number.

Proof: by induction on the members. Behind each but the last stands a comma,
which goes on with no number. -/
theorem tokens_members (settings : Settings) (fields : List Field) {rest : List Char}
    (ends : ∀ char, rest.head? = some char → Numeral.continues char = false) :
    tokens ([','].intercalate (fields.map settings.memberText) ++ rest) =
      [.mark .comma].intercalate (fields.map settings.memberTokens) ++ tokens rest := by
  induction fields with
  | nil => rfl
  | cons field others inductionHypothesis =>
    cases others with
    | nil => simpa [List.intercalate] using tokens_memberText settings field ends
    | cons next others =>
      let behind := ',' :: ([','].intercalate ((next :: others).map settings.memberText) ++ rest)
      have first := @tokens_memberText settings field behind (by rintro _ ⟨⟩; rfl)
      have separated := tokens_mark .comma
        ([','].intercalate ((next :: others).map settings.memberText) ++ rest)
      rw [inductionHypothesis] at separated
      simp only [List.map_cons, List.intercalate_cons_cons, List.append_assoc, List.cons_append,
        List.nil_append] at first separated ⊢
      exact first.trans (congrArg _ separated)

/-- The tokens of a document of settings are the members of all fields in their
order. -/
theorem tokens_text (settings : Settings) :
    tokens settings.text.toList = settings.documentTokens := by
  have closing : tokens ['\x7d'] = [.mark .closeBrace] := by
    have ended : tokens [] = [] := by rw [tokens]
    exact (tokens_mark .closeBrace []).trans (congrArg _ ended)
  have members := @tokens_members settings Field.all ['\x7d'] (by rintro _ ⟨⟩; rfl)
  rw [closing] at members
  rw [text, String.toList_ofList]
  exact (tokens_mark .openBrace _).trans (congrArg _ members)

/-! ## Reading a document -/

namespace Draft

/-- The draft with a field read as it is in some settings, and all others as
they were. -/
def fill (settings : Settings) (draft : Draft) : Field → Draft
  | .assertsMisuse => { draft with assertsMisuse := some settings.assertsMisuse }
  | .tracksReading => { draft with tracksReading := some settings.tracksReading }
  | .tracksWriting => { draft with tracksWriting := some settings.tracksWriting }
  | .initialCapacity => { draft with initialCapacity := some settings.initialCapacity }

/-- A field is read from the token of its value, which is of the type that the
field asks for. -/
theorem readField_valueToken (settings : Settings) (draft : Draft) (field : Field) :
    draft.readField field (settings.valueToken field) = .ok (draft.fill settings field) := by
  have switched (value : Bool) : switch (.literal (switchLiteral value)) = .ok value := by
    cases value <;> rfl
  cases field with
  | initialCapacity =>
    simp [readField, valueToken, capacity, Numeral.uint64?_ofNat, fill, Except.map]
  | assertsMisuse | tracksReading | tracksWriting =>
    rw [readField, valueToken, switched]
    rfl

/-- A field has been read if it is the last one or was read before. -/
theorem has_fill (settings : Settings) (draft : Draft) (field other : Field) :
    (draft.fill settings field).has other = (draft.has other || decide (other = field)) := by
  cases field <;> cases other <;> simp [fill, has]

end Draft

/-- A field is found by its name, since no two have the same one. -/
theorem Field.ofName?_name (field : Field) : ofName? field.name.toList = some field := by
  cases field <;> decide

/-- The name of a field that has not been read is taken, and a colon has to
follow. -/
theorem Reading.advance_name {draft : Draft} {field : Field} (first : Bool)
    (unread : draft.has field = false) :
    Reading.advance ⟨.name first, draft⟩ (.quoted (.plain field.name.toList)) =
      .ok ⟨.colon (some field), draft⟩ := by
  simp [advance, readName, Quoted.text_plain, Field.ofName?_name, unread, bind, Except.bind]

/-- The value of a field is taken into the draft, and the end of the member is
reached. -/
theorem Reading.advance_value (settings : Settings) (draft : Draft) (field : Field) :
    Reading.advance ⟨.value field, draft⟩ (settings.valueToken field) =
      .ok ⟨.memberEnd, draft.fill settings field⟩ :=
  congrArg (Except.map _) (Draft.readField_valueToken settings draft field)

/-- After a token that is taken, the rest is read from the stage that it led
to. -/
theorem Reading.foldlM_cons {reading next : Reading} {token : Token}
    (taken : reading.advance token = .ok next) (rest : List Token) :
    (token :: rest).foldlM advance reading = rest.foldlM advance next := by
  rw [List.foldlM_cons, taken]
  rfl

/-- After tokens that are taken, the rest is read from the stage that they led
to. -/
theorem Reading.foldlM_append {reading next : Reading} {tokens : List Token}
    (taken : tokens.foldlM advance reading = .ok next) (rest : List Token) :
    (tokens ++ rest).foldlM advance reading = rest.foldlM advance next := by
  rw [List.foldlM_append, taken]
  rfl

/-- A member is read where its field has not been read: its name, the colon and
its value, one after the other. -/
theorem read_member (settings : Settings) {draft : Draft} {field : Field} (first : Bool)
    (unread : draft.has field = false) :
    (settings.memberTokens field).foldlM Reading.advance ⟨.name first, draft⟩ =
      .ok ⟨.memberEnd, draft.fill settings field⟩ := by
  have separated : Reading.advance ⟨.colon (some field), draft⟩ (.mark .colon) =
      .ok ⟨.value field, draft⟩ := rfl
  have valued := Reading.advance_value settings draft field
  rw [memberTokens, Reading.foldlM_cons (Reading.advance_name first unread),
    Reading.foldlM_cons separated, Reading.foldlM_cons valued]
  rfl

/-- Members with commas between them are read where none of their fields has
been read.

Proof: by induction on the members. After a member has been read, the fields of
the others are still unread, as no two of them are the same. -/
theorem read_members (settings : Settings) {draft : Draft} {field : Field} {others : List Field}
    (first : Bool) (distinct : (field :: others).Nodup)
    (unread : ∀ named ∈ field :: others, draft.has named = false) :
    ([.mark .comma].intercalate ((field :: others).map settings.memberTokens)).foldlM
        Reading.advance ⟨.name first, draft⟩ =
      .ok ⟨.memberEnd, (field :: others).foldl (Draft.fill settings) draft⟩ := by
  induction others generalizing draft field first with
  | nil =>
    simpa [List.intercalate] using read_member settings first (unread field List.mem_cons_self)
  | cons next others inductionHypothesis =>
    obtain ⟨absent, distinctLater⟩ := List.nodup_cons.mp distinct
    obtain ⟨unreadFirst, unreadLater⟩ := List.forall_mem_cons.mp unread
    have stillUnread : ∀ named ∈ next :: others, (draft.fill settings field).has named = false := by
      intro named member
      have another : named ≠ field := fun same => absent (same ▸ member)
      simp [Draft.has_fill, unreadLater named member, another]
    have separated : Reading.advance ⟨.memberEnd, draft.fill settings field⟩ (.mark .comma) =
        .ok ⟨.name false, draft.fill settings field⟩ := rfl
    rw [List.map_cons, List.map_cons, List.intercalate_cons_cons, List.append_assoc,
      Reading.foldlM_append (read_member settings first unreadFirst), List.singleton_append,
      Reading.foldlM_cons separated]
    exact inductionHypothesis false distinctLater stillUnread

/-- Settings are read from the tokens of their document into a draft that is
filled with all fields. -/
theorem read_documentTokens (settings : Settings) :
    settings.documentTokens.foldlM Reading.advance .start =
      .ok ⟨.closed, Field.all.foldl (Draft.fill settings) .blank⟩ := by
  have members : ([.mark .comma].intercalate (Field.all.map settings.memberTokens)).foldlM
      Reading.advance ⟨.name true, .blank⟩ =
        .ok ⟨.memberEnd, Field.all.foldl (Draft.fill settings) .blank⟩ :=
    read_members settings true (by decide) (by decide)
  have opened : Reading.advance .start (.mark .openBrace) = .ok ⟨.name true, .blank⟩ := rfl
  have closed (draft : Draft) :
      Reading.advance ⟨.memberEnd, draft⟩ (.mark .closeBrace) = .ok ⟨.closed, draft⟩ := rfl
  rw [documentTokens, List.cons_append, Reading.foldlM_cons opened, Reading.foldlM_append members,
    Reading.foldlM_cons (closed _)]
  rfl

/-- The document of settings is read as these settings, since no field of the
draft is left to be taken as built. -/
theorem read_text (settings : Settings) : read settings.text = .ok settings := by
  rw [read, tokens_text, read_documentTokens]
  rfl

/-! ## Round trips -/

/-- The names of the members among some tokens: the strings in front of a colon.
It looks at tokens only, so it can be asked of any document. -/
def memberNames : List Token → List Quoted
  | .quoted name :: .mark .colon :: rest => name :: memberNames rest
  | _ :: rest => memberNames rest
  | [] => []

/-- The names of the members of a document are those of all fields in their
order, each once. -/
theorem memberNames_text (settings : Settings) :
    memberNames (tokens settings.text.toList) =
      Field.all.map fun field => .plain field.name.toList := by
  rw [tokens_text]
  rfl

/-- Settings survive their documents.

Any settings are read back from their document. The document names every field,
once each and in their order, and no two settings have the same one. Settings
that were read from whatever document are read again from the document that is
written for them.

Proof: the document is spelled as tokens that are known in full, and these are
read as the settings. Reading is thus an inverse of writing, from which the
other parts follow; the names are those among the same tokens. -/
theorem documents_faithful :
    (∀ settings : Settings, read settings.text = .ok settings) ∧
    (∀ settings : Settings,
      let names := memberNames (tokens settings.text.toList)
      names = (Field.all.map fun field => .plain field.name.toList) ∧
        ∀ field : Field, names.count (.plain field.name.toList) = 1) ∧
    (∀ left right : Settings, left.text = right.text → left = right) ∧
    ∀ (document : String) (settings : Settings), read document = .ok settings →
      read settings.text = read document := by
  refine ⟨read_text, ?_, ?_, ?_⟩
  · intro settings names
    have named : names = Field.all.map fun field => .plain field.name.toList :=
      memberNames_text settings
    refine ⟨named, ?_⟩
    intro field
    rw [named]
    cases field <;> decide
  · intro left right same
    have read : Except.ok left = Except.ok right :=
      (read_text left).symm.trans ((congrArg read same).trans (read_text right))
    exact Except.ok.inj read
  · intro document settings accepted
    exact (read_text settings).trans accepted.symm

/-- A document with the capacity of the largest size and without the other
fields. -/
theorem partial_document_kept :
    let document := "\x7b\"initial_track_capacity\": 18446744073709551615\x7d"
    let settings : Settings := ⟨true, true, true, 18446744073709551615⟩
    read document = .ok settings ∧ settings.text ≠ asBuilt.text ∧
      read settings.text = read document := by
  intro document settings
  have accepted : read document = .ok settings := by cbv
  have differ : settings ≠ asBuilt := by simp [settings, asBuilt]
  obtain ⟨_, _, distinct, again⟩ := documents_faithful
  exact ⟨accepted, fun same => differ (distinct settings asBuilt same),
    again document settings accepted⟩

end MessagePack.Settings
