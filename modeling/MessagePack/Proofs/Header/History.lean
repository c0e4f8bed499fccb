import Mathlib.Data.Set.Card
import MessagePack.Proofs.Header.Entries
import MessagePack.Proofs.Machine

/-!
# Tables and the history of their calls

What a table has to hold follows from the calls that it was given. Under a
header it holds something if a value was inserted under a header that is the
same after the last such header was removed. The header that it keeps is the
first inserted since then, and the value is the last. Both tables hold exactly
this after any calls, the hashed one for any digest and any number of buckets,
so their answers and sizes agree, and the entries below a header in the ordered
table are counted by classes of headers.
-/

namespace MessagePack.Header

universe u
variable {α : Type u}

/-! ## What a history leaves -/

/-- A call removes what is stored under a header: it names that header, or one
that is the same. -/
def TableCall.removes (header : Header) : TableCall α → Bool
  | insert _ _ | get _ => false
  | remove other => other.same header

/-- What a call inserts under headers that are the same as the given one, with
the header that it names. -/
def TableCall.inserted? (header : Header) : TableCall α → Option (Header × α)
  | insert other value => if other.same header then some (other, value) else none
  | get _ | remove _ => none

/-- What was inserted under a header since it was last removed, in order. -/
def insertions (header : Header) (history : List (TableCall α)) : List (Header × α) :=
  (history.reverse.takeWhile fun call => !call.removes header).reverse.filterMap
    fun call => call.inserted? header

/-- What is held under a header after a history: the first header inserted since
it was last absent, with the last value. This is read off the calls, without any
table. -/
def held? (header : Header) (history : List (TableCall α)) : Option (Header × α) :=
  match (insertions header history).head?, (insertions header history).getLast? with
  | some first, some last => some (first.1, last.2)
  | _, _ => none

variable {header other : Header} {history : List (TableCall α)}

/-- Headers that are the same have the same insertions, as calls tell headers
apart by sameness alone. -/
theorem insertions_congr (alike : header.key = other.key) :
    insertions header history = insertions other history := by
  have matching (subject : Header) : subject.same header = subject.same other := by
    rw [Bool.eq_iff_iff, same_iff, same_iff, alike]
  have removing (call : TableCall α) : call.removes header = call.removes other := by
    cases call with
    | insert | get => rfl
    | remove subject => exact matching subject
  have inserting (call : TableCall α) : call.inserted? header = call.inserted? other := by
    cases call with
    | insert subject value => rw [TableCall.inserted?, TableCall.inserted?, matching]
    | get | remove => rfl
  simp only [insertions, removing, inserting]

/-- What is held is the same under headers that are the same. -/
theorem held?_congr (alike : header.key = other.key) :
    held? header history = held? other history := by
  rw [held?, held?, insertions_congr alike]

/-- A call that does not remove adds what it inserts to what was inserted. -/
theorem insertions_snoc {call : TableCall α} (kept : call.removes header = false) :
    insertions header (history ++ [call]) =
      insertions header history ++ (call.inserted? header).toList := by
  simp only [insertions, List.reverse_append, List.reverse_singleton, List.singleton_append]
  rw [List.takeWhile_cons, kept, Bool.not_false, if_pos rfl, List.reverse_cons,
    List.filterMap_append]
  cases inserted : call.inserted? header <;> simp [inserted]

/-- Inserting renews what is held under the header and nothing else. The first
insertion stays the first, if there was one, and the new one is the last. -/
theorem held?_insert {value : α} : held? other (history ++ [.insert header value]) =
    if header.key = other.key then some (renewed header value (held? header history))
    else held? other history := by
  by_cases sameKey : header.key = other.key
  · have inserted : TableCall.inserted? other (.insert header value) = some (header, value) :=
      if_pos (same_iff.mpr sameKey)
    rw [if_pos sameKey, held?_congr sameKey, held?, held?, insertions_snoc rfl, inserted,
      Option.toList_some, List.getLast?_concat]
    cases insertions other history with
    | nil => rfl
    | cons first later =>
      rw [List.getLast?_cons]
      rfl
  · have nothing : TableCall.inserted? other (.insert header value) = none :=
      if_neg (mt same_iff.mp sameKey)
    rw [if_neg sameKey, held?, held?, insertions_snoc rfl, nothing, Option.toList_none,
      List.append_nil]

/-- Looking a header up changes nothing that is held, under that header or any
other. -/
theorem held?_get : held? other (history ++ [.get header]) = held? other history := by
  rw [held?, held?, insertions_snoc rfl]
  simp only [TableCall.inserted?, Option.toList_none, List.append_nil]

/-- Removing leaves nothing under the header, and everything else as it was. -/
theorem held?_remove : held? other (history ++ [.remove header]) =
    if header.key = other.key then none else held? other history := by
  by_cases sameKey : header.key = other.key
  · have removes : TableCall.removes other (.remove header : TableCall α) = true :=
      same_iff.mpr sameKey
    rw [if_pos sameKey, held?]
    simp [insertions, removes]
  · have keeps : TableCall.removes other (.remove header : TableCall α) = false :=
      same_eq_false_iff.mpr sameKey
    rw [if_neg sameKey, held?, held?, insertions_snoc keeps]
    simp only [TableCall.inserted?, Option.toList_none, List.append_nil]

/-! ## Tables that hold what a history leaves -/

/-- A table as a machine that takes calls. Its reaction to a call is the table
after it, with the answer. -/
def service {τ : Type u} (perform : τ → TableCall α → τ × Option α) :
    Machine τ (TableCall α) (τ × Option α) := ⟨perform, Prod.fst⟩

/-- What a table has to answer to calls that come after a history: for each
call, the value held under its header before the call. -/
def answers (past : List (TableCall α)) : List (TableCall α) → List (Option α)
  | [] => []
  | call :: future => (held? call.header past).map Prod.snd :: answers (past ++ [call]) future

/-- A table that holds what its history leaves, and goes on to do so after each
call that it answers from what it holds, answers a whole run from the history.

Proof: by induction on the calls that are still to come, with the history of
those before. It is stated for any table and any way to hold, so that both
tables use it. -/
theorem run_records {τ : Type u} {perform : τ → TableCall α → τ × Option α}
    (Records : τ → List (TableCall α) → Prop)
    (step : ∀ table past call, Records table past →
      Records (perform table call).1 (past ++ [call]) ∧
        (perform table call).2 = (held? call.header past).map Prod.snd)
    {table : τ} {past : List (TableCall α)} (records : Records table past)
    (future : List (TableCall α)) :
    Records ((service perform).after table future) (past ++ future) ∧
      ((service perform).reactions table future).map Prod.snd = answers past future := by
  induction future generalizing table past with
  | nil => exact ⟨(List.append_nil past).symm ▸ records, rfl⟩
  | cons call future inductionHypothesis =>
    obtain ⟨kept, answer⟩ := step table past call records
    obtain ⟨final, rest⟩ := inductionHypothesis kept
    rw [List.append_assoc, List.singleton_append] at final
    refine ⟨final, ?_⟩
    rw [Machine.reactions_cons, List.map_cons, answers]
    exact congrArg₂ List.cons answer rest

/-! ### The ordered table -/

namespace OrderedTable

variable {table : OrderedTable α}

/-- The table holds what a history leaves, in order. -/
structure Records (table : OrderedTable α) (history : List (TableCall α)) : Prop where
  ascending : Ascending table.entries
  held : ∀ header, entryOf? header table.entries = held? header history

/-- The empty table holds what no calls leave, which is nothing. -/
theorem empty_records : (empty : OrderedTable α).Records [] := ⟨.nil, fun _ => rfl⟩

/-- A call is answered from what the table holds, and the table holds what it
leaves.

Proof: by cases on the call. In entries that are in order, searching, storing
and discarding do under each header what the call does to what is held under
it. -/
theorem perform_records (records : table.Records history) (call : TableCall α) :
    (table.perform call).1.Records (history ++ [call]) ∧
      (table.perform call).2 = (held? call.header history).map Prod.snd := by
  have found : find? call.header table.entries = (held? call.header history).map Prod.snd := by
    rw [find?_eq records.ascending, records.held]
  cases call with
  | insert header value =>
    refine ⟨⟨store_ascending records.ascending, fun other => ?_⟩, found⟩
    rw [held?_insert, ← records.held, ← records.held]
    exact entryOf?_store records.ascending
  | get header =>
    exact ⟨⟨records.ascending, fun other => (records.held other).trans held?_get.symm⟩, found⟩
  | remove header =>
    refine ⟨⟨discard_ascending records.ascending, fun other => ?_⟩, found⟩
    rw [held?_remove, ← records.held]
    exact (congrArg (entryOf? other) (discard_eq records.ascending)).trans
      (entryOf?_eraseP records.ascending.distinct)

end OrderedTable

/-! ### The hashed table -/

namespace HashedTable

variable {table : HashedTable α}

/-- The entries in one place. A place beyond the buckets is empty. -/
def bucket (table : HashedTable α) (place : Nat) : List (Header × α) := table.buckets.getD place []

/-- The table holds what a history leaves, each entry in the place of its
header. -/
structure Records (table : HashedTable α) (history : List (TableCall α)) : Prop where
  inhabited : 0 < table.buckets.length
  placed : ∀ place, ∀ entry ∈ table.bucket place, table.place entry.1 = place
  distinct : ∀ place, Distinct (table.bucket place)
  held : ∀ header, entryOf? header (table.bucket (table.place header)) = held? header history

/-- The empty table holds what no calls leave, for any digest and any number of
buckets. -/
theorem empty_records (digest : Nat × UInt64 → Nat) (extra : Nat) :
    (empty digest extra : HashedTable α).Records [] := by
  have vacant (place : Nat) : (empty digest extra : HashedTable α).bucket place = [] := by
    rw [bucket, empty, List.getD_eq_getElem?_getD, List.getElem?_replicate]
    split <;> rfl
  refine
    { inhabited := by simp [empty]
      placed := fun place entry member => ?_
      distinct := fun place => vacant place ▸ .nil
      held := fun header => by rw [vacant]; rfl }
  rw [vacant] at member
  contradiction

/-- Headers with one key belong in one place: they feed the same to the
digest. -/
theorem place_congr (alike : header.key = other.key) : table.place header = table.place other := by
  rw [place, place, hashInput, hashInput, alike]

/-- A change to a bucket leaves headers where they belong, as it leaves the
number of buckets. -/
theorem place_updateBucket {change : List (Header × α) → List (Header × α)} :
    (table.updateBucket header change).place other = table.place other := by
  rw [place, place, updateBucket, List.length_modify]

/-- A change to the bucket of a header is made there and nowhere else. -/
theorem bucket_updateBucket (inhabited : 0 < table.buckets.length)
    {change : List (Header × α) → List (Header × α)} {place : Nat} :
    (table.updateBucket header change).bucket place =
      if table.place header = place then change (table.bucket place) else table.bucket place := by
  have inside : table.place header < table.buckets.length := Nat.mod_lt _ inhabited
  rw [bucket, bucket, updateBucket, List.getD_eq_getElem?_getD, List.getD_eq_getElem?_getD,
    List.getElem?_modify]
  split
  · rename_i same
    rw [← same, List.getElem?_eq_getElem inside]
    rfl
  · rw [Option.map_eq_map, Option.map_id']

/-- A change to the bucket of a header keeps the table to its history if it lets
in no other headers and sets what is held under this one as the history does.

Proof: the bucket that changes is that of the header. Entries in it belong
there, because they were there before or have the key of the header; and what is
held under a header that belongs elsewhere has not changed, nor does the call
change it. -/
theorem updateBucket_records (records : table.Records history) {call : TableCall α}
    {change : List (Header × α) → List (Header × α)} {found : Option (Header × α)}
    (distinct : ∀ {bucket}, Distinct bucket → Distinct (change bucket))
    (members : ∀ {bucket entry}, entry ∈ change bucket →
      entry.1.key = header.key ∨ entry ∈ bucket)
    (changed : ∀ {other}, entryOf? other (change (table.bucket (table.place header))) =
      if header.key = other.key then found
      else entryOf? other (table.bucket (table.place header)))
    (left : ∀ {other}, held? other (history ++ [call]) =
      if header.key = other.key then found else held? other history) :
    (table.updateBucket header change).Records (history ++ [call]) := by
  refine
    { inhabited := by rw [updateBucket, List.length_modify]; exact records.inhabited
      placed := fun place entry member => ?_
      distinct := fun place => ?_
      held := fun other => ?_ }
  · rw [place_updateBucket]
    rw [bucket_updateBucket records.inhabited] at member
    split at member
    · rename_i here
      rcases members member with sameKey | before
      · exact (place_congr sameKey).trans here
      · exact records.placed place entry before
    · exact records.placed place entry member
  · rw [bucket_updateBucket records.inhabited]
    split
    · exact distinct (records.distinct place)
    · exact records.distinct place
  · rw [place_updateBucket, bucket_updateBucket records.inhabited, left]
    split
    · rename_i here
      rw [← here, changed, here, records.held]
    · rename_i elsewhere
      rw [if_neg (mt place_congr elsewhere), records.held]

/-- A call is answered from what the table holds, and the table holds what it
leaves.

Proof: by cases on the call, each of which searches or changes the bucket of its
header only. -/
theorem perform_records (records : table.Records history) (call : TableCall α) :
    (table.perform call).1.Records (history ++ [call]) ∧
      (table.perform call).2 = (held? call.header history).map Prod.snd := by
  have found : find? call.header (table.bucket (table.place call.header)) =
      (held? call.header history).map Prod.snd := by
    rw [find?_eq, records.held]
  cases call with
  | insert header value =>
    refine ⟨updateBucket_records records store_distinct mem_store entryOf?_store ?_, found⟩
    intro other
    rw [held?_insert, records.held]
  | get header =>
    exact ⟨{ records with held := fun other => (records.held other).trans held?_get.symm }, found⟩
  | remove header =>
    refine ⟨updateBucket_records records discard_distinct ?_ ?_ held?_remove, found⟩
    · intro bucket entry member
      rw [discard_eq] at member
      exact .inr (List.mem_of_mem_eraseP member)
    · intro other
      rw [discard_eq]
      exact entryOf?_eraseP (records.distinct _)

/-- A place that the table has is one of its buckets. -/
theorem bucket_of_lt {place : Nat} (inside : place < table.buckets.length) :
    table.bucket place = table.buckets[place] := by
  rw [bucket, List.getD_eq_getElem?_getD, List.getElem?_eq_getElem inside, Option.getD_some]

/-- An entry is in the table exactly if it is in the place of its header. -/
theorem Records.mem_flatten (records : table.Records history) {entry : Header × α} :
    entry ∈ table.buckets.flatten ↔ entry ∈ table.bucket (table.place entry.1) := by
  rw [List.mem_flatten]
  constructor
  · rintro ⟨bucket, stands, member⟩
    obtain ⟨place, inside, rfl⟩ := List.getElem_of_mem stands
    rw [← bucket_of_lt inside] at member
    rwa [records.placed place entry member]
  · intro member
    have inside : table.place entry.1 < table.buckets.length := Nat.mod_lt _ records.inhabited
    rw [bucket_of_lt inside] at member
    exact ⟨_, List.getElem_mem inside, member⟩

/-- All entries of the table are distinct. Within a bucket they are, and entries
of two buckets belong in two places, so they cannot have one key. -/
theorem Records.distinct_flatten (records : table.Records history) :
    Distinct table.buckets.flatten := by
  refine List.pairwise_flatten.mpr ⟨fun bucket stands => ?_, ?_⟩
  · obtain ⟨place, inside, rfl⟩ := List.getElem_of_mem stands
    exact bucket_of_lt inside ▸ records.distinct place
  · refine List.pairwise_iff_getElem.mpr fun first second insideFirst insideSecond before => ?_
    intro left leftMember right rightMember
    rw [← bucket_of_lt] at leftMember rightMember
    rw [same_eq_false_iff]
    intro alike
    have onePlace : first = second :=
      (records.placed first left leftMember).symm.trans
        ((place_congr alike).trans (records.placed second right rightMember))
    exact absurd onePlace before.ne

end HashedTable

/-! ## The tables agree -/

/-- The classes of headers under which a history leaves something, each as the
key of its headers. -/
def heldClasses (history : List (TableCall α)) : Set Key :=
  {key | ∃ header : Header, header.key = key ∧ (held? header history).isSome}

/-- The classes under which a history leaves something and whose headers are
less than a bound. -/
def heldBelow (bound : Header) (history : List (TableCall α)) : Set Key :=
  {key | ∃ header : Header, header.key = key ∧ header < bound ∧ (held? header history).isSome}

/-- Distinct entries are as many as their keys. This turns the number of entries
of a table into the number of classes that its history leaves. -/
theorem ncard_of_distinct {entries : List (Header × α)} (distinct : Distinct entries)
    {classes : Set Key} (keys : ∀ key, key ∈ classes ↔ ∃ entry ∈ entries, entry.1.key = key) :
    classes.ncard = entries.length := by
  have listed : classes = ((entries.map fun entry => entry.1.key).toFinset : Set Key) := by
    ext key
    rw [keys, List.coe_toFinset, Set.mem_ofPred_eq, List.mem_map]
  rw [listed, Set.ncard_coe_finset,
    List.toFinset_card_of_nodup (distinct_iff_nodup.mp distinct), List.length_map]

/-- What the two tables hold after the same calls, each clause in terms of the
history or of the other table. -/
structure HoldAlike (ordered : OrderedTable α) (hashed : HashedTable α)
    (history : List (TableCall α)) : Prop where
  /-- The ordered table holds under each header what the history leaves
  there. -/
  ordered_held : ∀ header entry,
    entry ∈ ordered.entries ∧ entry.1.same header ↔ held? header history = some entry
  /-- So does the hashed table. -/
  hashed_held : ∀ header entry,
    entry ∈ hashed.buckets.flatten ∧ entry.1.same header ↔ held? header history = some entry
  /-- The sizes are the same, and they count the classes of headers that hold
  something. -/
  sizes : ordered.size = hashed.size ∧ ordered.size = (heldClasses history).ncard
  /-- The headers in the ordered table increase strictly. -/
  increasing : ordered.entries.Pairwise fun left right => left.1 < right.1
  /-- No two headers in the ordered table are the same. -/
  ordered_distinct : Distinct ordered.entries
  /-- No two headers in the hashed table are the same. -/
  hashed_distinct : Distinct hashed.buckets.flatten
  /-- The entries below a header in the ordered table count the classes less
  than it. -/
  below : ∀ bound, ordered.below bound = (heldBelow bound history).ncard

/-- A class less than a bound is one that holds something and whose key is less
than that of the bound. -/
theorem mem_heldBelow {bound : Header} {key : Key} : key ∈ heldBelow bound history ↔
    key ∈ heldClasses history ∧ key.compare bound.key = .lt := by
  constructor
  · rintro ⟨header, rfl, less, held⟩
    exact ⟨⟨header, rfl, held⟩, less⟩
  · rintro ⟨⟨header, rfl, held⟩, less⟩
    exact ⟨header, rfl, less, held⟩

/-- Entries that are what a history leaves have the keys of the classes that
hold something, and every such class has an entry. -/
theorem mem_heldClasses {entries : List (Header × α)}
    (held : ∀ header entry,
      entry ∈ entries ∧ entry.1.same header ↔ held? header history = some entry) (key : Key) :
    key ∈ heldClasses history ↔ ∃ entry ∈ entries, entry.1.key = key := by
  constructor
  · rintro ⟨header, rfl, something⟩
    obtain ⟨entry, found⟩ := Option.isSome_iff_exists.mp something
    obtain ⟨member, alike⟩ := (held header entry).mpr found
    exact ⟨entry, member, same_iff.mp alike⟩
  · rintro ⟨entry, member, rfl⟩
    have found := (held entry.1 entry).mp ⟨member, same_iff.mpr rfl⟩
    exact ⟨entry.1, rfl, Option.isSome_iff_exists.mpr ⟨entry, found⟩⟩

/-- Tables that hold what one history leaves hold alike.

Proof: both have under each header what the history leaves there, so the keys of
their entries are the classes that hold something. Their entries are distinct
and are counted by these keys; and the entries of the ordered table that are
less than a bound are those that stand before it. -/
theorem holdAlike_of_records {ordered : OrderedTable α} {hashed : HashedTable α}
    (recordsOrdered : ordered.Records history) (recordsHashed : hashed.Records history) :
    HoldAlike ordered hashed history := by
  have ascending := recordsOrdered.ascending
  have inOrdered (header : Header) (entry : Header × α) :
      entry ∈ ordered.entries ∧ entry.1.same header ↔ held? header history = some entry := by
    rw [← recordsOrdered.held, entryOf?_eq_some_iff ascending.distinct, same_iff]
  have inHashed (header : Header) (entry : Header × α) :
      entry ∈ hashed.buckets.flatten ∧ entry.1.same header ↔
        held? header history = some entry := by
    rw [← recordsHashed.held, entryOf?_eq_some_iff (recordsHashed.distinct _), same_iff,
      recordsHashed.mem_flatten]
    refine and_congr_left fun alike => ?_
    rw [HashedTable.place_congr alike]
  have countOrdered := ncard_of_distinct ascending.distinct (mem_heldClasses inOrdered)
  have countHashed := ncard_of_distinct recordsHashed.distinct_flatten (mem_heldClasses inHashed)
  refine
    { ordered_held := inOrdered
      hashed_held := inHashed
      sizes := ⟨countOrdered.symm.trans countHashed, countOrdered.symm⟩
      increasing := ascending
      ordered_distinct := ascending.distinct
      hashed_distinct := recordsHashed.distinct_flatten
      below := fun bound => ?_ }
  rw [OrderedTable.below, OrderedTable.takeWhile_lt ascending]
  refine (ncard_of_distinct (List.Pairwise.filter _ ascending.distinct) fun key => ?_).symm
  rw [mem_heldBelow, mem_heldClasses inOrdered]
  constructor
  · rintro ⟨⟨entry, member, rfl⟩, less⟩
    exact ⟨entry, List.mem_filter.mpr ⟨member, beq_iff_eq.mpr less⟩, rfl⟩
  · rintro ⟨entry, kept, rfl⟩
    obtain ⟨member, less⟩ := List.mem_filter.mp kept
    exact ⟨⟨entry, member, rfl⟩, beq_iff_eq.mp less⟩

/-- For any calls to an ordered and a hashed table that start empty, with any
digest and any number of buckets, each call has the same answer from both
tables, namely the value that the calls before it left under its header, and
then both hold exactly what the calls left.

Proof: each table holds what its history leaves, when it is empty and after
every call, and answers from what it holds. What both hold after the whole run
is therefore left by the same calls. -/
theorem tables_agree (digest : Nat × UInt64 → Nat) (extra : Nat) (history : List (TableCall α)) :
    ((service OrderedTable.perform).reactions .empty history).map Prod.snd =
        answers [] history ∧
      ((service HashedTable.perform).reactions (.empty digest extra) history).map Prod.snd =
        answers [] history ∧
      HoldAlike ((service OrderedTable.perform).after .empty history)
        ((service HashedTable.perform).after (.empty digest extra) history) history := by
  obtain ⟨ordered, orderedAnswers⟩ := run_records OrderedTable.Records
    (fun _ _ call records => OrderedTable.perform_records records call)
    OrderedTable.empty_records history
  obtain ⟨hashed, hashedAnswers⟩ := run_records HashedTable.Records
    (fun _ _ call records => HashedTable.perform_records records call)
    (HashedTable.empty_records digest extra) history
  exact ⟨orderedAnswers, hashedAnswers, holdAlike_of_records ordered hashed⟩

/-- The integer 1 and the unsigned integer 1 are one class. It keeps the header
that came first and the value that came last, here with a digest under which
everything collides. -/
example :
    ((service HashedTable.perform).after (.empty (fun _ => 0) 3)
      [.insert (.int 1) 10, .insert (.map 2) 20, .insert (.uint 1) 30]).buckets.flatten =
        [(.int 1, 30), (.map 2, 20)] := rfl

end MessagePack.Header
