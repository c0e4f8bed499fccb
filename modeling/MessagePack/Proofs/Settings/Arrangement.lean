import Mathlib
import MessagePack.Proofs.Settings.Reading

/-!
# Documents of settings in any arrangement

A document of settings may be laid out in many ways: its members may stand in
any order, their names may be written with escapes, blanks may stand between all
tokens, and members of other names may hold whatever JSON values. None of this
matters. The settings read are those as built with the given values put in, and
only a field that is given twice is refused. An array of the first few values is
another way to write the same.

The members are read one after the other into a draft, and those of other names
leave it as it is. So what is read depends on the list of given values alone,
and values of different fields can be put in any order.
-/

namespace MessagePack.Settings

open Json

/-! ## Documents -/

/-- A member of a document: a field with a value of its type, or a member of
another name with any value. -/
inductive Entry where
  | field (member : Member) (given : Given)
    (named : Quoted.Spells member.name.pieces given.field.name.toList)
    (valued : member.element.value = given.text)
  | other (member : Member) (name : List Char) (named : Quoted.Spells member.name.pieces name)
    (unknown : ∀ field : Field, name ≠ field.name.toList)
    (valid : IsValue member.element.value)

namespace Entry

/-- The layout of a member, which has its name and its value. -/
def member : Entry → Member
  | .field member _ _ _ => member
  | .other member _ _ _ _ => member

/-- The value that a member gives, if it is one of a field. -/
def given? : Entry → Option Given
  | .field _ given _ _ => some given
  | .other _ _ _ _ _ => none

/-- A field with its value, without blanks and escapes, as documents write
it. -/
def plain (given : Given) : Entry :=
  .field (.plain (.plain given.field.name.toList given.field.name_plain) given.text) given
    (Quoted.spells_plain _) rfl

end Entry

/-- An object with members of fields and of other names in any layout, with
blanks before and after it. -/
structure Document where
  before : Blanks
  inner : Blanks
  entries : List Entry
  after : Blanks

namespace Document

/-- The text of a document, with all its blanks. -/
def text (document : Document) : String :=
  .ofList (document.before.text ++
    (Bracket.object.around document.inner (document.entries.map fun entry => entry.member.text) ++
      document.after.text))

/-- The text of a document up to the end of its last member, to which something
else can be added. -/
def unclosed (document : Document) : List Char :=
  document.before.text ++ (Bracket.object.opening.char :: (document.inner.text ++
    [Mark.comma.char].intercalate (document.entries.map fun entry => entry.member.text)))

/-- The values that a document gives, in the order of its members. Those of
other names give none. -/
def givens (document : Document) : List Given := document.entries.filterMap Entry.given?

/-- The document with some values, without blanks and escapes and without other
members. -/
def plain (givens : List Given) : Document := ⟨.none, .none, givens.map Entry.plain, .none⟩

/-- The plain document gives what it is made of, in the same order. -/
theorem givens_plain (givens : List Given) : (plain givens).givens = givens := by
  rw [Document.givens, plain, List.filterMap_map]
  exact List.filterMap_some

/-- Each field is given once at most, however its name is written. -/
def Distinct (document : Document) : Prop := (document.givens.map Given.field).Nodup

instance (document : Document) : Decidable document.Distinct :=
  inferInstanceAs (Decidable (List.Nodup _))

end Document

/-- An element of an array that is the value of a field. -/
structure Item where
  before : Blanks
  given : Given
  after : Blanks

/-- The layout of an element. -/
def Item.element (item : Item) : Element := ⟨item.before, item.given.text, item.after⟩

/-- An array with the values of the first fields in any layout. Later fields may
be left out. -/
structure Sequence where
  before : Blanks
  inner : Blanks
  items : List Item
  after : Blanks
  ordered : items.map (fun item => item.given.field) <+: Field.all

namespace Sequence

/-- The text of an array of values, with all its blanks. -/
def text (sequence : Sequence) : String :=
  .ofList (sequence.before.text ++
    (Bracket.array.around sequence.inner (sequence.items.map fun item => item.element.text) ++
      sequence.after.text))

/-- The values of an array, each for the field of its place. -/
def givens (sequence : Sequence) : List Given := sequence.items.map Item.given

/-- No field is given twice by an array, since the fields are told by the
places. -/
theorem distinct (sequence : Sequence) : (sequence.givens.map Given.field).Nodup := by
  have once : Field.all.Nodup := by decide
  rw [givens, List.map_map]
  exact once.sublist sequence.ordered.sublist

end Sequence

/-! ## Reading members and elements -/

namespace Reading

/-- A member is read into the draft if it is one of a field, and skipped
otherwise.

Proof: by cases on the member. A field is refused at its name if it has been
read, and taken with its value if not; all others are skipped with theirs. -/
theorem readOn_entry (entry : Entry) (draft : Draft) (first : Bool) {rest : List Char}
    (stops : Numeral.Stops rest) :
    readOn ⟨.name first, draft⟩ (entry.member.text ++ rest) =
      entry.given?.toList.foldlM Draft.accept draft >>= fun next =>
        readOn ⟨.memberEnd, next⟩ rest := by
  cases entry with
  | other member name named unknown valid =>
    exact readOn_other named unknown valid draft first stops
  | field member given named valued =>
    rw [Entry.given?, Option.toList_some, List.foldlM_cons]
    cases read : draft.has given.field with
    | true =>
      rw [Draft.accept_of_read read, Entry.member, Member.text, List.append_assoc, readOn_blanks,
        List.append_assoc, readOn_repeated named read]
      rfl
    | false =>
      rw [Draft.accept_of_unread read]
      exact readOn_given named valued read first stops

/-- Members with commas between them are read as the values that they give are
accepted.

Proof: by induction on the members behind the first one. After a member
stands a mark, so a number in it ends there, and behind a comma the next name
may begin. -/
theorem readOn_entries (entry : Entry) (others : List Entry) (draft : Draft) (first : Bool)
    {rest : List Char} (stops : Numeral.Stops rest) :
    readOn ⟨.name first, draft⟩ ([Mark.comma.char].intercalate
        ((entry :: others).map fun entry => entry.member.text) ++ rest) =
      ((entry :: others).filterMap Entry.given?).foldlM Draft.accept draft >>= fun next =>
        readOn ⟨.memberEnd, next⟩ rest := by
  induction others generalizing entry draft first with
  | nil =>
    rw [List.map_singleton, List.intercalate_singleton, readOn_entry entry draft first stops,
      List.filterMap_eq_flatMap_toList, List.flatMap_singleton]
  | cons next others inductionHypothesis =>
    have separated (draft : Draft) (more : List Char) :
        readOn ⟨.memberEnd, draft⟩ (Mark.comma.char :: more) = readOn ⟨.name false, draft⟩ more :=
      readOn_mark rfl more
    rw [List.map_cons, List.map_cons, List.intercalate_cons_cons, List.append_assoc,
      List.append_assoc, List.singleton_append,
      readOn_entry entry draft first (Numeral.stops_mark _ _), List.filterMap_eq_flatMap_toList,
      List.flatMap_cons, List.foldlM_append, bind_assoc]
    apply bind_congr
    intro reached
    rw [separated, ← List.filterMap_eq_flatMap_toList]
    exact inductionHypothesis next reached false

/-- Elements are read up to the end of the array as the values of the first
fields, by induction on the elements behind the first one. -/
theorem readOn_items (item : Item) (others : List Item) (left : List Field) (draft : Draft)
    (first : Bool) (rest : List Char) :
    readOn ⟨.element first ((item :: others).map (fun item => item.given.field) ++ left), draft⟩
        (Bracket.array.closed ((item :: others).map fun item => item.element.text) ++ rest) =
      readOn ⟨.closed, ((item :: others).map Item.given).foldl Draft.take draft⟩ rest := by
  induction others generalizing item draft first with
  | nil =>
    have ended (next : Draft) :
        readOn ⟨.elementEnd left, next⟩ (Bracket.array.closing.char :: rest) =
          readOn ⟨.closed, next⟩ rest := readOn_mark rfl rest
    have valued : item.element.value = item.given.text := rfl
    rw [List.map_singleton, List.map_singleton, Bracket.closed_singleton, List.singleton_append,
      readOn_element valued draft left first (Numeral.stops_mark _ rest), ended]
    rfl
  | cons next others inductionHypothesis =>
    have separated (fields : List Field) (draft : Draft) (more : List Char) :
        readOn ⟨.elementEnd (next.given.field :: fields), draft⟩ (Mark.comma.char :: more) =
          readOn ⟨.element false (next.given.field :: fields), draft⟩ more := readOn_mark rfl more
    have valued : item.element.value = item.given.text := rfl
    have later := inductionHypothesis next (draft.take item.given) false
    simp only [List.map_cons, List.cons_append, List.foldl_cons] at later ⊢
    rw [Bracket.closed_cons_cons,
      readOn_element valued draft _ first (Numeral.stops_mark _ _), separated]
    exact later

/-- The opening of an object leads to its first member, with blanks before and
after it. -/
theorem readOn_object (before inner : Blanks) (rest : List Char) :
    start.readOn (before.text ++ (Bracket.object.opening.char :: (inner.text ++ rest))) =
      readOn ⟨.name true, .blank⟩ rest := by
  have opened : start.advance (.mark Bracket.object.opening) = .ok ⟨.name true, .blank⟩ := rfl
  rw [readOn_blanks, readOn_mark opened, readOn_blanks]

/-- A document is read up to the end of its last member by accepting the values
that it gives. -/
theorem readOn_unclosed {document : Document} (filled : document.entries ≠ []) {rest : List Char}
    (stops : Numeral.Stops rest) :
    start.readOn (document.unclosed ++ rest) =
      document.givens.foldlM Draft.accept .blank >>= fun draft =>
        readOn ⟨.memberEnd, draft⟩ rest := by
  obtain ⟨entry, others, entries⟩ := List.exists_cons_of_ne_nil filled
  rw [Document.unclosed, List.append_assoc, List.cons_append, List.append_assoc, readOn_object,
    Document.givens, entries]
  exact readOn_entries entry others .blank true stops

/-- A document is read by accepting the values that it gives, with no other
member mattering. -/
theorem read_document (document : Document) :
    read document.text = document.givens.foldlM Draft.accept .blank >>= fun draft =>
      .ok draft.settings := by
  rw [Document.text, read_ofList]
  cases entries : document.entries with
  | nil =>
    have ended (rest : List Char) :
        readOn ⟨.name true, .blank⟩ (Bracket.object.closing.char :: rest) =
          readOn ⟨.closed, .blank⟩ rest := readOn_mark rfl rest
    rw [Bracket.around, List.cons_append, List.append_assoc, readOn_object, List.map_nil,
      Bracket.closed_nil, ended, readOn_closed, Document.givens, entries]
    rfl
  | cons entry others =>
    have filled : document.entries ≠ [] := by simp [entries]
    have ended (draft : Draft) :
        readOn ⟨.memberEnd, draft⟩ (Bracket.object.closing.char :: document.after.text) =
          .ok draft.settings := by
      rw [readOn_mark rfl, readOn_closed]
    have unclosed := readOn_unclosed filled (Numeral.stops_mark .closeBrace document.after.text)
    rw [← entries, Bracket.around, Bracket.closed]
    simp only [Document.unclosed, List.append_assoc, List.cons_append, List.nil_append]
      at unclosed ⊢
    exact unclosed.trans (bind_congr ended)

/-- The values of an array are put into the settings as built, in their
order. -/
theorem read_sequence (sequence : Sequence) :
    read sequence.text = .ok (sequence.givens.foldl Given.put asBuilt) := by
  have opened (rest : List Char) :
      start.readOn (Bracket.array.opening.char :: rest) =
        readOn ⟨.element true Field.all, .blank⟩ rest := readOn_mark rfl rest
  have ended (rest : List Char) :
      readOn ⟨.element true Field.all, .blank⟩ (Bracket.array.closing.char :: rest) =
        readOn ⟨.closed, .blank⟩ rest := readOn_mark rfl rest
  rw [Sequence.text, read_ofList, readOn_blanks, Bracket.around,
    List.cons_append, opened, List.append_assoc, readOn_blanks, Sequence.givens]
  obtain ⟨left, ordered⟩ := sequence.ordered
  cases items : sequence.items with
  | nil =>
    rw [List.map_nil, Bracket.closed_nil, ended, readOn_closed]
    rfl
  | cons item others =>
    rw [items] at ordered
    rw [← ordered, readOn_items, readOn_closed, Draft.settings_foldl_take]
    rfl

end Reading

/-! ## Arrangements -/

/-- A document in which each field is given once at most is read as the settings
as built with its values put in. -/
theorem read_of_distinct {document : Document} (distinct : document.Distinct) :
    read document.text = .ok (document.givens.foldl Given.put asBuilt) := by
  rw [Reading.read_document, Draft.foldlM_accept_of_distinct distinct fun _ _ => Draft.has_blank _]
  exact congrArg Except.ok (Draft.settings_foldl_take .blank document.givens)

/-- A document in which a field is given twice is refused, even if both values
are the same. -/
theorem read_of_repeated {document : Document} (repeated : ¬ document.Distinct) :
    read document.text = .error .mismatched := by
  rw [Reading.read_document, Draft.foldlM_accept_of_repeated fun both => repeated both.1]
  rfl

/-- A document that begins to give a field again is refused, whatever stands
behind the name.

Proof: the members before the name are accepted or refused by the values that
they give. If they are accepted, the field is among those that have been read,
so that its name is refused. -/
theorem read_unclosed_of_repeated {document : Document} {given : Given}
    (member : given ∈ document.givens) {name : Body}
    (named : Quoted.Spells name.pieces given.field.name.toList) (blanks : Blanks)
    (rest : List Char) :
    read (.ofList (document.unclosed ++
      Mark.comma.char :: (blanks.text ++ (name.quoted ++ rest)))) = .error .mismatched := by
  have filled : document.entries ≠ [] := by
    intro empty
    simp [Document.givens, empty] at member
  rw [Reading.read_ofList, Reading.readOn_unclosed filled (Numeral.stops_mark _ _)]
  by_cases distinct : document.Distinct
  · have read : (document.givens.foldl Draft.take .blank).has given.field = true :=
      (Draft.has_foldl_take ..).mpr (.inr ⟨given, member, rfl⟩)
    rw [Draft.foldlM_accept_of_distinct distinct fun _ _ => Draft.has_blank _]
    refine (Reading.readOn_mark rfl _).trans ?_
    rw [Reading.readOn_blanks]
    exact Reading.readOn_repeated named read false rest
  · rw [Draft.foldlM_accept_of_repeated fun both => distinct both.1]
    rfl

/-- Values of different fields can be put into settings in any order, since no
two of them meet. -/
theorem Given.foldl_put_perm {givens others : List Given} (arranged : givens.Perm others)
    (distinct : (givens.map Given.field).Nodup) (settings : Settings) :
    givens.foldl put settings = others.foldl put settings := by
  apply arranged.foldl_eq'
  intro left leftMember right rightMember reached
  by_cases same : left = right
  · rw [same]
  · have apart : left.field ≠ right.field := fun sameField =>
      same (List.inj_on_of_nodup_map distinct leftMember rightMember sameField)
    exact put_comm apart reached

/-- What is read does not depend on the order in which the values are given: a
rearranged document gives a field twice exactly if the document does. -/
theorem read_of_perm {document other : Document} (arranged : document.givens.Perm other.givens) :
    read document.text = read other.text := by
  have alike : document.Distinct ↔ other.Distinct := (arranged.map Given.field).nodup_iff
  by_cases distinct : document.Distinct
  · rw [read_of_distinct distinct, read_of_distinct (alike.mp distinct),
      Given.foldl_put_perm arranged distinct]
  · rw [read_of_repeated distinct, read_of_repeated (mt alike.mpr distinct)]

/-- Documents of settings mean the same in any arrangement.

From a document in which each field is given once at most the settings are read
that are as built but for the given values. What is read depends on these values
alone: not on their order, on other members, on the way in which names are
written, or on blanks. A document in which a field is given twice is refused,
and it is so at the name, whatever stands behind it. An array of the first
values is read as the object is that gives the same ones.

Proof: a document is read by accepting the values that it gives, so all that
matters of it is the list of these. They are accepted if each field is given
once, in whatever order, and refused otherwise; a field that is given again is
refused at its name. The elements of an array are the values of the first
fields. -/
theorem arrangements_agree :
    (∀ document : Document, document.Distinct →
      read document.text = .ok (document.givens.foldl Given.put asBuilt)) ∧
    (∀ document other : Document, document.givens.Perm other.givens →
      read document.text = read other.text) ∧
    (∀ document : Document, ¬ document.Distinct → read document.text = .error .mismatched) ∧
    (∀ (document : Document) (given : Given) (name : Body) (blanks : Blanks) (rest : List Char),
      given ∈ document.givens → Quoted.Spells name.pieces given.field.name.toList →
      read (.ofList (document.unclosed ++
        Mark.comma.char :: (blanks.text ++ (name.quoted ++ rest)))) = .error .mismatched) ∧
    (∀ sequence : Sequence,
      read sequence.text = .ok (sequence.givens.foldl Given.put asBuilt) ∧
        read sequence.text = read (Document.plain sequence.givens).text) := by
  refine ⟨fun _ => read_of_distinct, fun _ _ => read_of_perm, fun _ => read_of_repeated, ?_, ?_⟩
  · intro document given name blanks rest member named
    exact read_unclosed_of_repeated member named blanks rest
  · intro sequence
    have distinct : (Document.plain sequence.givens).Distinct := by
      rw [Document.Distinct, Document.givens_plain]
      exact sequence.distinct
    refine ⟨Reading.read_sequence sequence, ?_⟩
    rw [Reading.read_sequence, read_of_distinct distinct, Document.givens_plain]

/-- An escaped name behind a member of another name, and the same name once
more. The escape writes the first letter of the name by its number. -/
theorem escaped_among_unknown :
    ∃ document twice : Document,
      document.text = "\x7b\"x\":[[],null],\"\\u0061ssert_on_misuse\":false\x7d" ∧
      document.Distinct ∧ read document.text = .ok ⟨false, true, true, 8⟩ ∧
      document.givens.Perm [.assertsMisuse false] ∧
      read document.text = read "\x7b\"assert_on_misuse\":false\x7d" ∧
      twice.text =
        "\x7b\"assert_on_misuse\":false,\"\\u0061ssert_on_misuse\":false\x7d" ∧
      ¬ twice.Distinct ∧ read twice.text = .error .mismatched ∧
      read "\x7b\"assert_on_misuse\":false,\"\\u0061ssert_on_misuse\"" = .error .mismatched := by
  obtain ⟨given, arranged, refused, atName, _⟩ := arrangements_agree
  let elements : List Element :=
    [⟨.none, Bracket.array.around .none [], .none⟩, ⟨.none, Literal.null.word, .none⟩]
  have values : ∀ element ∈ elements, IsValue element.value := by
    simp only [elements, List.forall_mem_cons]
    exact ⟨.array .none [] (List.forall_mem_nil _), .literal .null, List.forall_mem_nil _⟩
  have another : ∀ field : Field, ['x'] ≠ field.name.toList := by
    intro field
    cases field <;> simp [Field.name]
  let unknown : Entry := .other
    (.plain (.plain ['x'] (by simp [Quoted.IsPlain]))
      (Bracket.array.around .none (elements.map Element.text)))
    ['x'] (Quoted.spells_plain _) another (.array .none elements values)
  let others : List Char := Field.assertsMisuse.name.toList.tail
  have plain : ∀ char ∈ others, Quoted.IsPlain char := fun char member =>
    Field.assertsMisuse.name_plain char (List.mem_of_mem_tail member)
  let name : Body := ⟨.unit 'a'.toNat :: others.map .char, "\\u0061".toList ++ others,
    .cons (.number rfl) (Quoted.writes_plain plain)⟩
  have named : Quoted.Spells name.pieces Field.assertsMisuse.name.toList :=
    .unit (Quoted.spells_plain others)
  let escaped : Entry := .field (.plain name (switchText false)) (.assertsMisuse false) named rfl
  let document : Document := ⟨.none, .none, [unknown, escaped], .none⟩
  let other : Document := .plain [.assertsMisuse false]
  let twice : Document := ⟨.none, .none, [.plain (.assertsMisuse false), escaped], .none⟩
  have distinct : document.Distinct := List.nodup_singleton _
  have repeated : ¬ twice.Distinct := by
    intro once
    exact (List.nodup_cons.mp once).1 List.mem_cons_self
  exact ⟨document, twice, rfl, distinct, given document distinct, .refl _,
    arranged document other (.refl _), rfl, repeated, refused twice repeated,
    atName other (.assertsMisuse false) name .none [] List.mem_cons_self named⟩

end MessagePack.Settings
