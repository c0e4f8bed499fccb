import Mathlib
import MessagePack.Proofs.Bytes.Codec
import MessagePack.Proofs.Machine

/-!
# Buffers and what was stored last

Stores of different widths may overlap in a buffer, and a later one may
overwrite a part of an earlier one. Byte by byte the last writer wins: a byte is
the digit of its place in the value of the last store whose span covers the
place, and it is as it was at first if there is none. So what a buffer holds,
and what is loaded from it, follows from the accesses that were made and the
buffer that they were made to. Accesses count only by what they write: those to
disjoint spans may change places, and one that a later store covers may be left
out.
-/

namespace MessagePack.Bytes

/-- One use of a span of a buffer: a field is loaded from an offset, or a value
of a field is stored there. -/
inductive Access where
  | load (field : Field) (offset : Nat)
  | store (field : Field) (value : field.Value) (offset : Nat)

/-- What an access answers if it fits: the value that was loaded, or that the
value was stored. -/
inductive Answer where
  | loaded (field : Field) (value : field.Value)
  | stored

namespace Access

/-- The field that is loaded or stored. -/
def field : Access → Field
  | load field _ | store field _ _ => field

/-- The place at which the span begins. -/
def offset : Access → Nat
  | load _ offset | store _ _ offset => offset

/-- The span lies within a buffer of some size. -/
def Fits (size : Nat) (access : Access) : Prop := access.offset + access.field.width ≤ size

/-- The span covers a place, be it loaded or stored. -/
def Covers (access : Access) (place : Nat) : Prop :=
  access.offset ≤ place ∧ place < access.offset + access.field.width

instance (size : Nat) (access : Access) : Decidable (access.Fits size) :=
  inferInstanceAs (Decidable (_ ≤ size))

instance (access : Access) (place : Nat) : Decidable (access.Covers place) :=
  inferInstanceAs (Decidable (_ ∧ _))

/-- No place is covered by both spans. -/
def Disjoint (left right : Access) : Prop := ∀ place, left.Covers place → ¬ right.Covers place

/-- The byte that an access writes at a place: the digit of the place in the
integer that is stored, counted modulo 256 to the power of the width. -/
def written? (place : Nat) : Access → Option UInt8
  | load _ _ => none
  | store field value offset =>
    if (store field value offset).Covers place then
      some (.ofNat ((field.integer value % 2 ^ (8 * field.width)).toNat /
        256 ^ (offset + field.width - 1 - place)))
    else none

/-- What an access answers, and the buffer that it leaves. One that does not fit
has no answer and leaves the buffer alone. -/
def perform (buffer : List UInt8) : Access → Option Answer × List UInt8
  | load field offset => ((field.load? buffer offset).map (.loaded field), buffer)
  | store field value offset =>
    match field.store? value buffer offset with
    | some stored => (some .stored, stored)
    | none => (none, buffer)

end Access

/-- A buffer that is accessed, as a machine. An access that does not fit is not
answered, and the buffer stays. -/
def workspace : Machine (List UInt8) Access (Option Answer × List UInt8) :=
  ⟨Access.perform, Prod.snd⟩

/-- The byte last written at a place, if any was, by all the accesses
together. -/
def lastWritten? (accesses : List Access) (place : Nat) : Option UInt8 :=
  (accesses.filterMap (Access.written? place)).getLast?

variable {buffer : List UInt8}

/-! ## One access -/

namespace Access

/-- A place that is not covered is not written, and a load writes nothing at
all. -/
theorem written?_of_not_covers {access : Access} {place : Nat} (outside : ¬ access.Covers place) :
    access.written? place = none := by
  cases access with
  | load => rfl
  | store => exact if_neg outside

/-- A store writes every place that it covers. -/
theorem exists_written? {field : Field} {value : field.Value} {offset place : Nat}
    (covered : (store field value offset).Covers place) :
    ∃ byte, (store field value offset).written? place = some byte := ⟨_, if_pos covered⟩

/-- A store leaves the byte that it writes at a place, or else the byte that
stood there. The two cases are the places within its span and those beside
it. -/
theorem getElem?_stored {field : Field} {value : field.Value} {offset : Nat} {stored : List UInt8}
    (stores : field.store? value buffer offset = some stored) (place : Nat) :
    stored[place]? = ((store field value offset).written? place).or buffer[place]? := by
  by_cases covered : (store field value offset).Covers place
  · have ⟨(above : offset ≤ place), (below : place < offset + field.width)⟩ := covered
    have within : place - offset < field.width := by omega
    have weight : field.width - 1 - (place - offset) = offset + field.width - 1 - place := by omega
    have byte := Field.byte_of_store? stores within
    rw [Nat.add_sub_cancel' above, Field.pattern_eq_toNat, weight] at byte
    rw [byte, written?, if_pos covered, Option.some_or]
  · have outside : place < offset ∨ offset + field.width ≤ place := by
      by_contra inside
      rw [not_or, Nat.not_lt, Nat.not_le] at inside
      exact covered inside
    rw [written?_of_not_covers covered, Option.none_or]
    exact Field.beside_of_store? stores outside

/-- An access that fits is answered and keeps the size of the buffer. A place
then holds the byte that is written there, or else what it held before. This is
what one access does, and all that is needed of it in a run. -/
theorem perform_of_fits {access : Access} (fits : access.Fits buffer.length) :
    (access.perform buffer).1.isSome = true ∧
      (access.perform buffer).2.length = buffer.length ∧
      ∀ place, (access.perform buffer).2[place]? =
        (access.written? place).or buffer[place]? := by
  cases access with
  | load field offset =>
    obtain ⟨value, loads⟩ : ∃ value, field.load? buffer offset = some value :=
      Field.exists_load? fits
    rw [perform, loads]
    exact ⟨rfl, rfl, fun _ => rfl⟩
  | store field value offset =>
    obtain ⟨stored, stores⟩ : ∃ stored, field.store? value buffer offset = some stored :=
      Field.exists_store? fits value
    rw [perform, stores]
    exact ⟨rfl, Field.length_of_store? stores, getElem?_stored stores⟩

/-- A load is answered with the value that the bytes of its span spell, and
leaves them as they are. -/
theorem perform_load {field : Field} {offset : Nat} (fits : offset + field.width ≤ buffer.length) :
    ∃ value, (load field offset).perform buffer = (some (.loaded field value), buffer) ∧
      field.integer value = field.wrap (Nat.ofDigits 256
        ((Field.span buffer offset field.width).map UInt8.toNat).reverse : Nat) := by
  obtain ⟨value, loads⟩ := Field.exists_load? fits
  refine ⟨value, by rw [perform, loads]; rfl, ?_⟩
  obtain ⟨_, rfl⟩ := Field.load?_eq_some_iff.mp loads
  rw [Field.integer_ofPattern, BigEndian.number_eq_ofDigits]

end Access

/-! ## Runs -/

/-- The first access is followed by the others: what it writes counts only where
these write nothing. -/
theorem lastWritten?_cons (access : Access) (accesses : List Access) (place : Nat) :
    lastWritten? (access :: accesses) place =
      (lastWritten? accesses place).or (access.written? place) := by
  rw [lastWritten?, lastWritten?, List.filterMap_cons]
  cases access.written? place with
  | none => rw [Option.or_none]
  | some byte => rw [List.getLast?_cons, Option.or_some]

/-- Of two stretches of accesses the later one writes last. -/
theorem lastWritten?_append (past future : List Access) (place : Nat) :
    lastWritten? (past ++ future) place =
      (lastWritten? future place).or (lastWritten? past place) := by
  rw [lastWritten?, List.filterMap_append, List.getLast?_append]
  rfl

/-- Accesses that fit keep the size of the buffer, and leave at each place the
byte that was last written there, or else the one that was there at first.

Proof: by induction on the accesses. The first one writes its bytes into the
buffer that the others start from, and what they do not write they leave. -/
theorem after_of_fits {accesses : List Access}
    (fit : ∀ access ∈ accesses, access.Fits buffer.length) :
    (workspace.after buffer accesses).length = buffer.length ∧
      ∀ place, (workspace.after buffer accesses)[place]? =
        (lastWritten? accesses place).or buffer[place]? := by
  induction accesses generalizing buffer with
  | nil => exact ⟨rfl, fun _ => rfl⟩
  | cons access accesses inductionHypothesis =>
    obtain ⟨first, others⟩ := List.forall_mem_cons.mp fit
    obtain ⟨_, size, bytes⟩ := access.perform_of_fits first
    obtain ⟨finalSize, final⟩ := inductionHypothesis (size ▸ others)
    refine ⟨finalSize.trans size, ?_⟩
    intro place
    rw [lastWritten?_cons, Option.or_assoc, ← bytes place]
    exact final place

/-- Accesses that fit are all answered, by induction: each keeps the size of the
buffer, so that the next ones still fit. -/
theorem answered_of_fits {accesses : List Access}
    (fit : ∀ access ∈ accesses, access.Fits buffer.length) :
    ∀ reply ∈ workspace.reactions buffer accesses, reply.1.isSome = true := by
  induction accesses generalizing buffer with
  | nil => exact List.forall_mem_nil _
  | cons access accesses inductionHypothesis =>
    obtain ⟨first, others⟩ := List.forall_mem_cons.mp fit
    obtain ⟨answered, size, _⟩ := access.perform_of_fits first
    exact List.forall_mem_cons.mpr ⟨answered, inductionHypothesis (size ▸ others)⟩

/-- What two runs of accesses write last decides whether they leave the same
buffer, place by place. -/
theorem after_congr {accesses others : List Access}
    (fit : ∀ access ∈ accesses, access.Fits buffer.length)
    (othersFit : ∀ access ∈ others, access.Fits buffer.length)
    (alike : ∀ place, lastWritten? accesses place = lastWritten? others place) :
    workspace.after buffer accesses = workspace.after buffer others := by
  apply List.ext_getElem?
  intro place
  rw [(after_of_fits fit).2 place, (after_of_fits othersFit).2 place, alike place]

/-! ## What an access is worth among others -/

/-- Accesses to disjoint spans may change places: at every place one of them
writes nothing. -/
theorem lastWritten?_swap {first second : Access} (apart : first.Disjoint second)
    (before later : List Access) (place : Nat) :
    lastWritten? (before ++ first :: second :: later) place =
      lastWritten? (before ++ second :: first :: later) place := by
  have idle : first.written? place = none ∨ second.written? place = none := by
    by_cases covered : first.Covers place
    · exact .inr (Access.written?_of_not_covers (apart place covered))
    · exact .inl (Access.written?_of_not_covers covered)
  simp only [lastWritten?_append, lastWritten?_cons]
  rcases idle with nothing | nothing <;> rw [nothing, Option.or_none, Option.or_none]

/-- An access that a later store covers writes nothing last, as that store
writes wherever it does. -/
theorem lastWritten?_covered {covered : Access} {field : Field} {value : field.Value}
    {offset : Nat}
    (covers : ∀ place, covered.Covers place → (Access.store field value offset).Covers place)
    (before between later : List Access) (place : Nat) :
    lastWritten? (before ++ covered :: between ++ .store field value offset :: later) place =
      lastWritten? (before ++ between ++ .store field value offset :: later) place := by
  simp only [lastWritten?_append, lastWritten?_cons]
  by_cases inside : covered.Covers place
  · obtain ⟨byte, written⟩ := Access.exists_written? (covers place inside)
    rw [written]
    cases lastWritten? later place <;> rfl
  · rw [Access.written?_of_not_covers inside, Option.or_none]

/-- What was not written by any access is as it was at first. -/
theorem lastWritten?_eq_none {accesses : List Access} {place : Nat}
    (untouched : ∀ access ∈ accesses, access.written? place = none) :
    lastWritten? accesses place = none := by
  rw [lastWritten?, List.filterMap_eq_nil_iff.mpr untouched, List.getLast?_nil]

/-- Two buffers of one size that agree on a span hold the same value there, if
the field fits them. -/
theorem load?_congr {other : List UInt8} {field : Field} {offset : Nat}
    (size : other.length = buffer.length)
    (agree : ∀ place, (Access.load field offset).Covers place → other[place]? = buffer[place]?) :
    field.load? other offset = field.load? buffer offset := by
  have spans : (other.drop offset).take field.width = (buffer.drop offset).take field.width := by
    apply List.ext_getElem?
    intro place
    rw [List.getElem?_take, List.getElem?_take, List.getElem?_drop, List.getElem?_drop]
    split
    · exact agree _ ⟨Nat.le_add_right offset place, Nat.add_lt_add_left ‹_› offset⟩
    · rfl
  rw [Field.load?, Field.load?, size, spans]

/-- The last writer of each byte decides what a buffer holds.

Accesses that fit are all answered, and none changes the size of the buffer.
After them each place holds the byte that was last written there, or the one
that was there at first. A load at any time finds the value that these bytes
spell, and leaves the buffer as it is.

So accesses to disjoint spans may change places, one that a later store covers
may be left out without a trace in the buffer, and where nothing was written the
value is the one found at first.

Proof: the bytes after a run are known from what was written last, and a load
reads them off its span. Runs that write the same last leave the same buffer,
and neither an exchange of disjoint accesses nor leaving out a covered one
changes what is written last. -/
theorem last_writer_wins (buffer : List UInt8) :
    (∀ accesses : List Access, (∀ access ∈ accesses, access.Fits buffer.length) →
      (∀ reply ∈ workspace.reactions buffer accesses, reply.1.isSome = true) ∧
      (workspace.after buffer accesses).length = buffer.length ∧
      (∀ place, (workspace.after buffer accesses)[place]? =
        (lastWritten? accesses place).or buffer[place]?) ∧
      ∀ (field : Field) (offset : Nat), offset + field.width ≤ buffer.length →
        (∃ (value : field.Value) (bytes : List UInt8),
          (Access.load field offset).perform (workspace.after buffer accesses) =
            (some (.loaded field value), workspace.after buffer accesses) ∧
          bytes.length = field.width ∧
          (∀ place < field.width, bytes[place]? =
            (lastWritten? accesses (offset + place)).or buffer[offset + place]?) ∧
          field.integer value =
            field.wrap (Nat.ofDigits 256 (bytes.map UInt8.toNat).reverse : Nat)) ∧
        ((∀ access ∈ accesses, ∀ place, (Access.load field offset).Covers place →
            access.written? place = none) →
          field.load? (workspace.after buffer accesses) offset = field.load? buffer offset)) ∧
    (∀ (before later : List Access) (first second : Access), first.Disjoint second →
      (∀ access ∈ before ++ first :: second :: later, access.Fits buffer.length) →
      workspace.after buffer (before ++ first :: second :: later) =
        workspace.after buffer (before ++ second :: first :: later)) ∧
    ∀ (before between later : List Access) (covered : Access) (field : Field)
      (value : field.Value) (offset : Nat),
      (∀ place, covered.Covers place → (Access.store field value offset).Covers place) →
      (∀ access ∈ before ++ covered :: between ++ .store field value offset :: later,
        access.Fits buffer.length) →
      workspace.after buffer (before ++ covered :: between ++ .store field value offset :: later) =
        workspace.after buffer (before ++ between ++ .store field value offset :: later) := by
  refine ⟨?_, ?_, ?_⟩
  · intro accesses fit
    obtain ⟨size, bytes⟩ := after_of_fits fit
    refine ⟨answered_of_fits fit, size, bytes, ?_⟩
    intro field offset fits
    rw [← size] at fits
    constructor
    · obtain ⟨value, loads, spelled⟩ := Access.perform_load fits
      refine ⟨value, _, loads, Field.length_span fits, ?_, spelled⟩
      intro place within
      rw [Field.getElem?_span _ _ within, bytes]
    · intro untouched
      apply load?_congr size
      intro place covered
      have idle := lastWritten?_eq_none fun access member => untouched access member place covered
      rw [bytes, idle, Option.none_or]
  · intro before later first second apart fit
    have swapped : (before ++ second :: first :: later).Perm (before ++ first :: second :: later) :=
      (List.Perm.swap first second later).append_left before
    apply after_congr fit
    · intro access member
      exact fit access (swapped.subset member)
    · exact lastWritten?_swap apart before later
  · intro before between later covered field value offset covers fit
    have fewer : (before ++ between).Sublist (before ++ covered :: between) :=
      (List.sublist_cons_self covered between).append_left before
    apply after_congr fit
    · intro access member
      exact fit access ((fewer.append_right _).subset member)
    · exact lastWritten?_covered covers before between later

/-- Two bytes are stored in the middle of a word: the ends of the word and what
stands around it are as they were. Stores side by side may change places, and
two bytes that a whole word covers leave no trace. -/
theorem short_within_word :
    let buffer : List UInt8 := List.replicate 12 0x55
    let word : Access := .store .uint32 (0x01020304 : UInt32) 2
    let short : Access := .store .int16 (-2 : Int16) 3
    let beside : Access := .store .binary32 ⟨0x7FA00001⟩ 6
    (workspace.after buffer [word, short])[2]? = some 0x01 ∧
    (workspace.after buffer [word, short])[3]? = some 0xFF ∧
    (workspace.after buffer [word, short])[6]? = some 0x55 ∧
    Field.uint16.load? (workspace.after buffer [word, short]) 0 = Field.uint16.load? buffer 0 ∧
    workspace.after buffer [word, short, beside] = workspace.after buffer [word, beside, short] ∧
    workspace.after buffer [short, word] = workspace.after buffer [word] := by
  intro buffer word short beside
  obtain ⟨run, swap, covered⟩ := last_writer_wins buffer
  obtain ⟨_, _, bytes, loads⟩ := run [word, short] (by decide)
  refine ⟨?_, ?_, ?_, ?_, ?_, ?_⟩
  · rw [bytes]
    decide
  · rw [bytes]
    decide
  · rw [bytes]
    decide
  · apply (loads .uint16 0 (by decide)).2
    rintro access member place ⟨_, (early : place < 2)⟩
    have late : 2 ≤ access.offset := by
      revert access
      decide
    apply Access.written?_of_not_covers
    rintro ⟨reached, _⟩
    exact absurd (Nat.le_trans late reached) (Nat.not_le.mpr early)
  · apply swap [word] [] short beside
    · rintro place ⟨_, (early : place < 5)⟩ ⟨(late : 6 ≤ place), _⟩
      omega
    · decide
  · apply covered [] [] [] short .uint32 (0x01020304 : UInt32) 2
    · rintro place ⟨(late : 3 ≤ place), (early : place < 5)⟩
      exact ⟨(by omega : 2 ≤ place), (by omega : place < 6)⟩
    · decide

end MessagePack.Bytes
