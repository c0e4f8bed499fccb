import MessagePack.Header.Table
import MessagePack.Proofs.Header.Lawful

/-!
# Entries stored under headers

A list of entries says for each header what is stored under it: the first entry
whose header has the same key. Storing a value and discarding an entry change
that answer for the headers with the key of the one given and for no others, in
a bucket and in a list that stands in order. Entries in order are distinct, and
the searches that stop early in them answer as those that go through the whole
list.
-/

namespace MessagePack.Header

universe u
variable {α : Type u} {header other : Header} {entry : Header × α} {entries : List (Header × α)}

/-- The entry stored under a header: the first one whose header is the same. It
need not be the header that was asked for. -/
def entryOf? (header : Header) (entries : List (Header × α)) : Option (Header × α) :=
  entries.find? fun entry => entry.1.same header

/-- The entry that storing a value leaves, given the one found under the header:
the header stays if there is one, and the value is replaced. -/
def renewed (header : Header) (value : α) (found : Option (Header × α)) : Header × α :=
  ((found.map Prod.fst).getD header, value)

/-- No two entries are stored under headers that are the same. -/
def Distinct (entries : List (Header × α)) : Prop :=
  entries.Pairwise fun left right => left.1.same right.1 = false

/-- The entries stand in the order of their headers, strictly. -/
def Ascending (entries : List (Header × α)) : Prop :=
  entries.Pairwise fun left right => left.1 < right.1

@[simp] theorem entryOf?_nil : entryOf? header ([] : List (Header × α)) = none := rfl

/-- The first entry is the one stored under a header if it has the key, and
otherwise it is one of the rest. -/
theorem entryOf?_cons : entryOf? header (entry :: entries) =
    if entry.1.key = header.key then some entry else entryOf? header entries := by
  rw [entryOf?, List.find?_cons]
  split
  · rename_i alike
    rw [if_pos (same_iff.mp alike)]
  · rename_i unlike
    rw [if_neg (same_eq_false_iff.mp unlike), entryOf?]

/-- An entry with another key plays no part in what is stored under a header. -/
theorem entryOf?_cons_of_ne (unlike : entry.1.key ≠ header.key) :
    entryOf? header (entry :: entries) = entryOf? header entries := by
  rw [entryOf?_cons, if_neg unlike]

/-- Nothing is stored under a header whose key no entry has. -/
theorem entryOf?_eq_none (absent : ∀ stored ∈ entries, stored.1.key ≠ header.key) :
    entryOf? header entries = none := by
  refine List.find?_eq_none.mpr fun stored member => ?_
  rw [same_iff]
  exact absent stored member

/-- Distinct entries have keys without repetition, so that they can be counted
by their keys. -/
theorem distinct_iff_nodup : Distinct entries ↔ (entries.map fun entry => entry.1.key).Nodup := by
  rw [List.Nodup, List.pairwise_map]
  simp only [Distinct, same_eq_false_iff]

/-- Distinct entries are stored under their own headers, and so is only what is
among them.

Proof: by induction on the entries. If the first entry has the key, then none of
the rest has it, and otherwise the first entry is not the one that is found. -/
theorem entryOf?_eq_some_iff (distinct : Distinct entries) :
    entryOf? header entries = some entry ↔ entry ∈ entries ∧ entry.1.key = header.key := by
  induction entries with
  | nil => simp
  | cons first rest inductionHypothesis =>
    obtain ⟨apart, distinctRest⟩ := List.pairwise_cons.mp distinct
    rw [entryOf?_cons, List.mem_cons]
    split
    · rename_i alike
      constructor
      · intro found
        obtain rfl := Option.some.inj found
        exact ⟨.inl rfl, alike⟩
      · rintro ⟨rfl | member, sameKey⟩
        · rfl
        · exact absurd (alike.trans sameKey.symm) (same_eq_false_iff.mp (apart entry member))
    · rename_i unlike
      rw [inductionHypothesis distinctRest]
      constructor
      · rintro ⟨member, sameKey⟩
        exact ⟨.inr member, sameKey⟩
      · rintro ⟨rfl | member, sameKey⟩
        · exact absurd sameKey unlike
        · exact ⟨member, sameKey⟩

/-- An entry in front that is not under a header leaves alone what a change to
the rest does under that header. This is the step of every induction over
entries that go past one of them. -/
theorem entryOf?_front (unlike : entry.1.key ≠ header.key) {changed : List (Header × α)}
    {found : Option (Header × α)}
    (rest : entryOf? other changed =
      if header.key = other.key then found else entryOf? other entries) :
    entryOf? other (entry :: changed) =
      if header.key = other.key then found else entryOf? other (entry :: entries) := by
  rw [entryOf?_cons, entryOf?_cons, rest]
  by_cases sameKey : header.key = other.key
  · rw [if_neg (sameKey ▸ unlike), if_pos sameKey, if_pos sameKey]
  · rw [if_neg sameKey, if_neg sameKey]

/-- An entry in front with a new value is the one that was found there, renewed,
and nothing else has changed. -/
theorem entryOf?_renewed (alike : entry.1.key = header.key) (value : α) :
    entryOf? other ((entry.1, value) :: entries) =
      if header.key = other.key then
        some (renewed header value (entryOf? header (entry :: entries)))
      else entryOf? other (entry :: entries) := by
  rw [entryOf?_cons, entryOf?_cons, entryOf?_cons, if_pos alike, alike]
  split <;> rfl

/-- Without its first entry under a header, a distinct list has none under it,
and all other headers have what they had. -/
theorem entryOf?_eraseP (distinct : Distinct entries) :
    entryOf? other (entries.eraseP fun entry => entry.1.same header) =
      if header.key = other.key then none else entryOf? other entries := by
  induction entries with
  | nil => simp
  | cons first rest inductionHypothesis =>
    obtain ⟨apart, distinctRest⟩ := List.pairwise_cons.mp distinct
    cases alike : first.1.same header with
    | true =>
      rw [List.eraseP_cons, alike, cond_true, entryOf?_cons, same_iff.mp alike]
      split
      · rename_i sameKey
        refine entryOf?_eq_none fun stored member => ?_
        rw [← sameKey, ← same_iff.mp alike]
        exact (same_eq_false_iff.mp (apart stored member)).symm
      · rfl
    | false =>
      rw [List.eraseP_cons, alike, cond_false]
      exact entryOf?_front (same_eq_false_iff.mp alike) (inductionHypothesis distinctRest)

/-! ## Buckets -/

namespace HashedTable

variable {bucket : List (Header × α)}

/-- Searching a bucket finds the value that is stored under the header, if there
is one. -/
theorem find?_eq : find? header bucket = (entryOf? header bucket).map Prod.snd := by
  induction bucket with
  | nil => rfl
  | cons first rest inductionHypothesis =>
    rw [find?, entryOf?, List.find?_cons]
    cases first.1.same header with
    | true => rfl
    | false => exact inductionHypothesis

/-- Discarding from a bucket takes out its first entry under the header and
leaves all others where they are. -/
theorem discard_eq : discard header bucket = bucket.eraseP fun entry => entry.1.same header := by
  induction bucket with
  | nil => rfl
  | cons first rest inductionHypothesis =>
    rw [discard, List.eraseP_cons, inductionHypothesis]
    cases first.1.same header <;> rfl

/-- Storing a value in a bucket renews the entry under the header and no other.

Proof: by induction on the bucket. An entry with the key of the header gets the
value and keeps its own header; with no such entry the value goes to the end,
under the header given. -/
theorem entryOf?_store {value : α} : entryOf? other (store header value bucket) =
    if header.key = other.key then some (renewed header value (entryOf? header bucket))
    else entryOf? other bucket := by
  induction bucket with
  | nil => rw [store, entryOf?_cons, entryOf?_nil]; rfl
  | cons first rest inductionHypothesis =>
    by_cases alike : first.1.key = header.key
    · rw [store, if_pos (same_iff.mpr alike)]
      exact entryOf?_renewed alike value
    · rw [store, if_neg (mt same_iff.mp alike), entryOf?_cons_of_ne alike]
      exact entryOf?_front alike inductionHypothesis

/-- What a bucket holds after a value is stored has the key of the header or was
there before. -/
theorem mem_store {value : α} (member : entry ∈ store header value bucket) :
    entry.1.key = header.key ∨ entry ∈ bucket := by
  induction bucket with
  | nil =>
    obtain rfl := List.mem_singleton.mp member
    exact .inl rfl
  | cons first rest inductionHypothesis =>
    rw [store] at member
    split at member
    · rename_i alike
      rcases List.mem_cons.mp member with rfl | later
      · exact .inl (same_iff.mp alike)
      · exact .inr (List.mem_cons_of_mem first later)
    · rcases List.mem_cons.mp member with rfl | later
      · exact .inr List.mem_cons_self
      · exact (inductionHypothesis later).imp_right (List.mem_cons_of_mem first)

/-- Storing a value keeps a bucket distinct: what is new has a key that no entry
before it has. -/
theorem store_distinct {value : α} (distinct : Distinct bucket) :
    Distinct (store header value bucket) := by
  induction bucket with
  | nil => exact List.pairwise_singleton _ _
  | cons first rest inductionHypothesis =>
    obtain ⟨apart, distinctRest⟩ := List.pairwise_cons.mp distinct
    rw [store]
    split
    · exact List.pairwise_cons.mpr ⟨apart, distinctRest⟩
    · rename_i unlike
      refine List.pairwise_cons.mpr ⟨fun later member => ?_, inductionHypothesis distinctRest⟩
      rcases mem_store member with sameKey | before
      · rw [same_eq_false_iff, sameKey]
        exact mt same_iff.mpr unlike
      · exact apart later before

/-- Discarding keeps a bucket distinct, as nothing is added to it. -/
theorem discard_distinct (distinct : Distinct bucket) : Distinct (discard header bucket) := by
  rw [discard_eq]
  exact List.Pairwise.sublist List.eraseP_sublist distinct

end HashedTable

/-! ## Entries in order -/

/-- A header that is less than another does not have its key. -/
theorem key_ne_of_lt (less : header < other) : header.key ≠ other.key := by
  intro sameKey
  have equal : header.compare other = .eq := compare_eq_iff.mpr sameKey
  rw [show header.compare other = .lt from less] at equal
  contradiction

/-- Entries in order are distinct, because the order is strict. -/
theorem Ascending.distinct (ascending : Ascending entries) : Distinct entries :=
  ascending.imp fun less => same_eq_false_iff.mpr (key_ne_of_lt less)

/-- A header less than the first of entries in order has a key that none of them
has. This is why a search in order may stop there. -/
theorem Ascending.absent (ascending : Ascending (entry :: entries)) (less : header < entry.1) :
    ∀ stored ∈ entry :: entries, stored.1.key ≠ header.key := by
  intro stored member
  rcases List.mem_cons.mp member with rfl | later
  · exact (key_ne_of_lt less).symm
  · have above : entry.1 < stored.1 := (List.pairwise_cons.mp ascending).1 stored later
    exact (key_ne_of_lt (Std.TransCmp.lt_trans less above)).symm

namespace OrderedTable

/-- Searching entries in order finds what is stored under the header.

Proof: by induction on the entries and by cases on how the header compares with
the first of them. If it is less, nothing is stored under it; if it is equal, it
is that entry; and if it is greater, the first entry is not under it. -/
theorem find?_eq (ascending : Ascending entries) :
    find? header entries = (entryOf? header entries).map Prod.snd := by
  induction entries with
  | nil => rfl
  | cons first rest inductionHypothesis =>
    rw [find?]
    cases order : header.compare first.1 with
    | lt =>
      rw [entryOf?_eq_none (ascending.absent order)]
      rfl
    | eq =>
      rw [entryOf?_cons, if_pos (compare_eq_iff.mp order).symm]
      rfl
    | gt =>
      have less : first.1 < header := Std.OrientedCmp.gt_iff_lt.mp order
      rw [entryOf?_cons_of_ne (key_ne_of_lt less)]
      exact inductionHypothesis (List.pairwise_cons.mp ascending).2

/-- Discarding from entries in order takes out the one under the header, if
there is one. The search stops where a greater header is met, as none of its key
can follow. -/
theorem discard_eq (ascending : Ascending entries) :
    discard header entries = entries.eraseP fun entry => entry.1.same header := by
  induction entries with
  | nil => rfl
  | cons first rest inductionHypothesis =>
    rw [discard]
    cases order : header.compare first.1 with
    | lt =>
      refine (List.eraseP_of_forall_not fun stored member => ?_).symm
      rw [same_iff]
      exact ascending.absent order stored member
    | eq => rw [List.eraseP_cons, same_iff.mpr (compare_eq_iff.mp order).symm, cond_true]
    | gt =>
      have less : first.1 < header := Std.OrientedCmp.gt_iff_lt.mp order
      rw [List.eraseP_cons, same_eq_false_iff.mpr (key_ne_of_lt less), cond_false,
        inductionHypothesis (List.pairwise_cons.mp ascending).2]

/-- Storing a value among entries in order renews the entry under the header and
no other, by the same cases as a search. If the header is less than the first
entry it comes in front of that, where nothing was stored under it. -/
theorem entryOf?_store {value : α} (ascending : Ascending entries) :
    entryOf? other (store header value entries) =
      if header.key = other.key then some (renewed header value (entryOf? header entries))
      else entryOf? other entries := by
  induction entries with
  | nil => rw [store, entryOf?_cons, entryOf?_nil]; rfl
  | cons first rest inductionHypothesis =>
    rw [store]
    cases order : header.compare first.1 with
    | lt =>
      rw [entryOf?_cons, entryOf?_eq_none (ascending.absent order)]
      rfl
    | eq => exact entryOf?_renewed (compare_eq_iff.mp order).symm value
    | gt =>
      have less : first.1 < header := Std.OrientedCmp.gt_iff_lt.mp order
      rw [entryOf?_cons_of_ne (key_ne_of_lt less)]
      exact entryOf?_front (key_ne_of_lt less)
        (inductionHypothesis (List.pairwise_cons.mp ascending).2)

/-- What is held after a value is stored has the key of the header or was there
before. -/
theorem mem_store {value : α} (member : entry ∈ store header value entries) :
    entry.1.key = header.key ∨ entry ∈ entries := by
  induction entries with
  | nil =>
    obtain rfl := List.mem_singleton.mp member
    exact .inl rfl
  | cons first rest inductionHypothesis =>
    rw [store] at member
    cases order : header.compare first.1 with
    | lt =>
      rw [order] at member
      rcases List.mem_cons.mp member with rfl | later
      · exact .inl rfl
      · exact .inr later
    | eq =>
      rw [order] at member
      rcases List.mem_cons.mp member with rfl | later
      · exact .inl (compare_eq_iff.mp order).symm
      · exact .inr (List.mem_cons_of_mem first later)
    | gt =>
      rw [order] at member
      rcases List.mem_cons.mp member with rfl | later
      · exact .inr List.mem_cons_self
      · exact (inductionHypothesis later).imp_right (List.mem_cons_of_mem first)

/-- Storing a value keeps entries in order: it goes in front of the first entry
that is greater, or into the place of the one with the key. -/
theorem store_ascending {value : α} (ascending : Ascending entries) :
    Ascending (store header value entries) := by
  induction entries with
  | nil => exact List.pairwise_singleton _ _
  | cons first rest inductionHypothesis =>
    obtain ⟨above, ascendingRest⟩ := List.pairwise_cons.mp ascending
    rw [store]
    cases order : header.compare first.1 with
    | lt =>
      refine List.pairwise_cons.mpr ⟨fun later member => ?_, ascending⟩
      rcases List.mem_cons.mp member with rfl | after
      · exact order
      · exact Std.TransCmp.lt_trans order (above later after)
    | eq => exact List.pairwise_cons.mpr ⟨above, ascendingRest⟩
    | gt =>
      refine List.pairwise_cons.mpr ⟨fun later member => ?_, inductionHypothesis ascendingRest⟩
      rcases mem_store member with sameKey | before
      · have less : first.1.compare header = .lt := Std.OrientedCmp.gt_iff_lt.mp order
        exact (Std.TransCmp.congr_right (compare_eq_iff.mpr sameKey)).trans less
      · exact above later before

/-- Discarding keeps entries in order, as it only takes an entry out. -/
theorem discard_ascending (ascending : Ascending entries) :
    Ascending (discard header entries) := by
  rw [discard_eq ascending]
  exact List.Pairwise.sublist List.eraseP_sublist ascending

/-- The entries that come first because they are less than a header are all that
are less. After the first entry that is not less there is none: a later one that
is less would have the first one less than it too. -/
theorem takeWhile_lt (ascending : Ascending entries) :
    (entries.takeWhile fun entry => entry.1.compare header == .lt) =
      entries.filter fun entry => entry.1.compare header == .lt := by
  induction entries with
  | nil => rfl
  | cons first rest inductionHypothesis =>
    obtain ⟨above, ascendingRest⟩ := List.pairwise_cons.mp ascending
    cases less : first.1.compare header == .lt with
    | true =>
      rw [List.takeWhile_cons, if_pos less, List.filter_cons, if_pos less,
        inductionHypothesis ascendingRest]
    | false =>
      have none : ∀ later ∈ rest, ¬(later.1.compare header == .lt) = true := by
        intro later member lessLater
        have lower : first.1.compare header = .lt :=
          Std.TransCmp.lt_trans (above later member) (beq_iff_eq.mp lessLater)
        rw [lower] at less
        contradiction
      have notLess := Bool.eq_false_iff.mp less
      rw [List.takeWhile_cons, if_neg notLess, List.filter_cons, if_neg notLess,
        List.filter_eq_nil_iff.mpr none]

end OrderedTable

end MessagePack.Header
