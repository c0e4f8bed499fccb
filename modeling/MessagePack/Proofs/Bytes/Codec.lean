import Mathlib
import MessagePack.Bytes.Field
import MessagePack.Proofs.Bytes.Digits

/-!
# Fields as numbers and as bytes

A value of a field is held in eight bits for each byte of its width. Read as an
integer it is the number of these bits, of which a signed integer takes the
upper half as negative. So loading and storing are inverse to each other at
every offset where the field fits, and a value that is loaded as another field
of the same width is the same integer up to a multiple of 256 to the power of
the width.
-/

namespace MessagePack.Bytes.Field

/-! ## The integer of a value -/

/-- The values of a field are signed integers. -/
def isSigned : Field → Bool
  | int8 | int16 | int32 | int64 => true
  | _ => false

/-- The integer that a value stands for. A floating-point number stands for the
number of its pattern. -/
def integer : (field : Field) → field.Value → Int
  | uint8, value => value.toNat
  | uint16, value => value.toNat
  | uint32, value => value.toNat
  | uint64, value => value.toNat
  | int8, value => value.toInt
  | int16, value => value.toInt
  | int32, value => value.toInt
  | int64, value => value.toInt
  | binary32, value => value.bits.toNat
  | binary64, value => value.bits.toNat

/-- The number of values of a field: two to the number of its bits. -/
def modulus (field : Field) : Nat := 2 ^ (8 * field.width)

/-- The integer of a field that differs from a number by a multiple of the
modulus: the one nearest to zero, or the lower of two, if the field is signed,
and else the one that is not negative. -/
def wrap (field : Field) (number : Int) : Int :=
  if field.isSigned then number.bmod field.modulus else number % field.modulus

/-! ## The bits of a value -/

/-- The bits that a value is held in. For numbers of the floating-point formats
these are their patterns. -/
def bits : (field : Field) → field.Value → BitVec (8 * field.width)
  | uint8, value => value.toBitVec
  | uint16, value => value.toBitVec
  | uint32, value => value.toBitVec
  | uint64, value => value.toBitVec
  | int8, value => value.toBitVec
  | int16, value => value.toBitVec
  | int32, value => value.toBitVec
  | int64, value => value.toBitVec
  | binary32, value => value.bits.toBitVec
  | binary64, value => value.bits.toBitVec

/-- The value that is held in some bits. Every arrangement of the bits is that
of a value. -/
def ofBits : (field : Field) → BitVec (8 * field.width) → field.Value
  | uint8, bits => ⟨bits⟩
  | uint16, bits => ⟨bits⟩
  | uint32, bits => ⟨bits⟩
  | uint64, bits => ⟨bits⟩
  | int8, bits => ⟨⟨bits⟩⟩
  | int16, bits => ⟨⟨bits⟩⟩
  | int32, bits => ⟨⟨bits⟩⟩
  | int64, bits => ⟨⟨bits⟩⟩
  | binary32, bits => ⟨⟨bits⟩⟩
  | binary64, bits => ⟨⟨bits⟩⟩

@[simp] theorem bits_ofBits (field : Field) (bits : BitVec (8 * field.width)) :
    field.bits (field.ofBits bits) = bits := by
  cases field <;> rfl

@[simp] theorem ofBits_bits (field : Field) (value : field.Value) :
    field.ofBits (field.bits value) = value := by
  cases field <;> rfl

/-- The pattern of a value is the number of its bits. -/
theorem pattern_eq (field : Field) (value : field.Value) :
    field.pattern value = (field.bits value).toNat := by
  cases field <;> rfl

/-- The value of a pattern is held in the lowest bits of the pattern. -/
theorem ofPattern_eq (field : Field) (pattern : Nat) :
    field.ofPattern pattern = field.ofBits (BitVec.ofNat _ pattern) := by
  cases field <;> rfl

/-- The integer of a value is the number of its bits, counted as signed or not.
From here on the fields are treated alike. -/
theorem integer_eq (field : Field) (value : field.Value) :
    field.integer value =
      if field.isSigned then (field.bits value).toInt else (field.bits value).toNat := by
  cases field <;> rfl

/-! ## Patterns and integers -/

/-- The value of the pattern of a value is that value, for every field. -/
@[simp] theorem ofPattern_pattern (field : Field) (value : field.Value) :
    field.ofPattern (field.pattern value) = value := by
  rw [ofPattern_eq, pattern_eq, BitVec.ofNat_toNat, BitVec.setWidth_eq, ofBits_bits]

/-- The pattern of the value of a pattern is what of it fits the width of the
field. -/
theorem pattern_ofPattern (field : Field) (pattern : Nat) :
    field.pattern (field.ofPattern pattern) = pattern % field.modulus := by
  rw [pattern_eq, ofPattern_eq, bits_ofBits, BitVec.toNat_ofNat]
  rfl

/-- The digits of a field spell the patterns below its modulus, which is the
same power of 256. -/
theorem modulus_eq (field : Field) : field.modulus = 256 ^ field.width := Nat.pow_mul 2 8 _

/-- A pattern is less than the modulus, as it is the number of so many bits. -/
theorem pattern_lt (field : Field) (value : field.Value) : field.pattern value < field.modulus := by
  rw [pattern_eq]
  exact (field.bits value).isLt

/-- The pattern of a value is its integer, counted modulo the modulus. For a
field without signs it is the integer itself. -/
theorem pattern_eq_emod (field : Field) (value : field.Value) :
    (field.pattern value : Int) = field.integer value % field.modulus := by
  have below : (field.pattern value : Int) < field.modulus := mod_cast field.pattern_lt value
  have itself : (field.pattern value : Int) % field.modulus = field.pattern value :=
    Int.emod_eq_of_lt (Int.natCast_nonneg _) below
  rw [integer_eq]
  split
  · rw [BitVec.toInt_eq_toNat_bmod, ← pattern_eq]
    exact (Int.bmod_emod.trans itself).symm
  · rw [← pattern_eq, itself]

/-- The pattern of a value is its integer modulo the modulus, as a natural
number. This is the form in which its digits are told. -/
theorem pattern_eq_toNat (field : Field) (value : field.Value) :
    field.pattern value = (field.integer value % 2 ^ (8 * field.width)).toNat := by
  have counted := field.pattern_eq_emod value
  rw [modulus, Nat.cast_pow] at counted
  exact congrArg Int.toNat counted

/-- Only what is left modulo the modulus counts for wrapping, whether the field
is signed or not. -/
theorem wrap_emod (field : Field) (number : Int) :
    field.wrap (number % field.modulus) = field.wrap number := by
  unfold wrap
  split
  · exact Int.emod_bmod number field.modulus
  · exact Int.emod_emod_of_dvd number (Int.dvd_refl _)

/-- The value of a pattern stands for the pattern, wrapped.

Proof: the pattern counts modulo the modulus only, both for the value and for
wrapping. What is left of it is less than the modulus, and as signed bits it is
the number nearest to zero. -/
theorem integer_ofPattern (field : Field) (pattern : Nat) :
    field.integer (field.ofPattern pattern) = field.wrap pattern := by
  rw [← wrap_emod, ← Int.natCast_emod, ← pattern_ofPattern, integer_eq, wrap]
  have below : (field.pattern (field.ofPattern pattern) : Int) < field.modulus :=
    mod_cast field.pattern_lt _
  split
  · rw [BitVec.toInt_eq_toNat_bmod, ← pattern_eq]
    rfl
  · rw [← pattern_eq, Int.emod_eq_of_lt (Int.natCast_nonneg _) below]

/-- Values that stand for the same integer are the same, because they have the
same pattern. -/
theorem integer_injective (field : Field) {left right : field.Value}
    (same : field.integer left = field.integer right) : left = right := by
  have patterns : (field.pattern left : Int) = field.pattern right := by
    rw [pattern_eq_emod, pattern_eq_emod, same]
  rw [← field.ofPattern_pattern left, Int.ofNat_inj.mp patterns, ofPattern_pattern]

/-- The value of another field of the same width that has the same pattern
stands for the same integer, wrapped into that field. -/
theorem integer_reinterpreted {field other : Field} (sameWidth : other.width = field.width)
    (value : field.Value) :
    other.integer (other.ofPattern (field.pattern value)) = other.wrap (field.integer value) := by
  have sameModulus : other.modulus = field.modulus :=
    congrArg (fun width => 2 ^ (8 * width)) sameWidth
  rw [integer_ofPattern, pattern_eq_emod, ← sameModulus, wrap_emod]

/-! ## Spans of a buffer -/

variable {field : Field} {buffer stored : List UInt8} {offset : Nat}

/-- So many bytes of a buffer from an offset on, or as many as there are. -/
def span (buffer : List UInt8) (offset width : Nat) : List UInt8 := (buffer.drop offset).take width

/-- A span that fits the buffer is as long as it should be. -/
theorem length_span {width : Nat} (fits : offset + width ≤ buffer.length) :
    (span buffer offset width).length = width := by
  rw [span, List.length_take, List.length_drop]
  omega

/-- The bytes of a span are those of the buffer, counted from the offset. -/
theorem getElem?_span (buffer : List UInt8) (offset : Nat) {width place : Nat}
    (within : place < width) : (span buffer offset width)[place]? = buffer[offset + place]? := by
  rw [span, List.getElem?_take_of_lt within, List.getElem?_drop]

/-- A span is made of two that follow one another, of the two widths that make
up its own. -/
theorem span_add (buffer : List UInt8) (offset first second : Nat) :
    span buffer offset (first + second) =
      span buffer offset first ++ span buffer (offset + first) second := by
  rw [span, span, span, List.take_add, List.drop_drop]

/-- A buffer is made of a span, what is before it and what is after it. -/
theorem take_append_span (buffer : List UInt8) (offset width : Nat) :
    buffer.take offset ++ span buffer offset width ++ buffer.drop (offset + width) = buffer := by
  rw [span, ← List.take_add, List.take_append_drop]

/-! ## Loading and storing -/

/-- The bytes of a field spell a number below its modulus, as there are no more
of them than its width. -/
theorem number_span_lt (fits : offset + field.width ≤ buffer.length) :
    BigEndian.number (span buffer offset field.width) < field.modulus := by
  have bound := BigEndian.number_lt (span buffer offset field.width)
  rwa [length_span fits, ← modulus_eq] at bound

/-- A field is loaded exactly where it fits, with the value of the pattern that
the bytes spell. -/
theorem load?_eq_some_iff {value : field.Value} :
    field.load? buffer offset = some value ↔ offset + field.width ≤ buffer.length ∧
      field.ofPattern (BigEndian.number (span buffer offset field.width)) = value := by
  rw [load?, Option.ite_none_right_eq_some, Option.some.injEq]
  rfl

/-- A field is stored exactly where it fits, and puts the digits of its pattern
in place of the bytes there. -/
theorem store?_eq_some_iff {value : field.Value} :
    field.store? value buffer offset = some stored ↔ offset + field.width ≤ buffer.length ∧
      buffer.take offset ++ BigEndian.digits field.width (field.pattern value) ++
        buffer.drop (offset + field.width) = stored := by
  rw [store?, Option.ite_none_right_eq_some, Option.some.injEq]

/-- A field that fits is loaded, whatever the bytes are. -/
theorem exists_load? (fits : offset + field.width ≤ buffer.length) :
    ∃ value, field.load? buffer offset = some value := ⟨_, if_pos fits⟩

/-- A field that fits is stored, whatever the value is. -/
theorem exists_store? (fits : offset + field.width ≤ buffer.length) (value : field.Value) :
    ∃ stored, field.store? value buffer offset = some stored := ⟨_, if_pos fits⟩

/-- Where a value was stored stand the digits of its pattern, and nothing
else. -/
theorem span_of_store? {value : field.Value}
    (stores : field.store? value buffer offset = some stored) :
    span stored offset field.width = BigEndian.digits field.width (field.pattern value) := by
  obtain ⟨fits, rfl⟩ := store?_eq_some_iff.mp stores
  have before : (buffer.take offset).length = offset :=
    List.length_take_of_le (Nat.le_of_add_right_le fits)
  rw [span, List.append_assoc, List.drop_left' before,
    List.take_left' (BigEndian.length_digits _ _)]

/-- Another field of the same width finds the pattern that was stored. The field
itself is one of these.

Proof: the span holds the digits of the pattern, and these spell it because it
is less than the modulus. -/
theorem load?_of_store? {other : Field} {value : field.Value}
    (stores : field.store? value buffer offset = some stored)
    (sameWidth : other.width = field.width) :
    other.load? stored offset = some (other.ofPattern (field.pattern value)) := by
  have fits : offset + other.width ≤ stored.length := by
    rw [length_of_store? stores, sameWidth]
    exact (store?_eq_some_iff.mp stores).1
  have below : field.pattern value < 256 ^ field.width :=
    field.modulus_eq ▸ field.pattern_lt value
  refine load?_eq_some_iff.mpr ⟨fits, ?_⟩
  rw [sameWidth, span_of_store? stores, BigEndian.number_digits, Nat.mod_eq_of_lt below]

/-- Storing what was loaded changes nothing.

Proof: the pattern of the value is the number that the bytes spell, which is
below the modulus, and the digits of that number are these bytes. -/
theorem store?_of_load? {value : field.Value} (loads : field.load? buffer offset = some value) :
    field.store? value buffer offset = some buffer := by
  obtain ⟨fits, rfl⟩ := load?_eq_some_iff.mp loads
  have wide := length_span fits
  have digits : BigEndian.digits field.width (BigEndian.number (span buffer offset field.width)) =
      span buffer offset field.width := by
    have exactly := BigEndian.digits_number (span buffer offset field.width)
    rwa [wide] at exactly
  refine store?_eq_some_iff.mpr ⟨fits, ?_⟩
  rw [pattern_ofPattern, Nat.mod_eq_of_lt (number_span_lt fits), digits, take_append_span]

/-- A byte of a stored value is the digit of its place, most significant
first. -/
theorem byte_of_store? {value : field.Value}
    (stores : field.store? value buffer offset = some stored) {place : Nat}
    (within : place < field.width) :
    stored[offset + place]? =
      some (.ofNat (field.pattern value / 256 ^ (field.width - 1 - place))) := by
  rw [← getElem?_span stored offset within, span_of_store? stores,
    BigEndian.digits_getElem? _ within]

/-- The number of a byte of a stored value is what the weight of its place
leaves, in base 256. -/
theorem getElem?_of_store? {value : field.Value}
    (stores : field.store? value buffer offset = some stored) {place : Nat}
    (within : place < field.width) :
    stored[offset + place]?.map UInt8.toNat =
      some (field.pattern value / 256 ^ (field.width - 1 - place) % 256) := by
  rw [byte_of_store? stores within, Option.map_some, UInt8.toNat_ofNat']

/-- Beside the span that is stored the bytes stay as they were, before it and
behind it. -/
theorem beside_of_store? {value : field.Value}
    (stores : field.store? value buffer offset = some stored) {place : Nat}
    (outside : place < offset ∨ offset + field.width ≤ place) :
    stored[place]? = buffer[place]? := by
  obtain ⟨fits, rfl⟩ := store?_eq_some_iff.mp stores
  have before : (buffer.take offset).length = offset :=
    List.length_take_of_le (Nat.le_of_add_right_le fits)
  have through : (buffer.take offset ++
      BigEndian.digits field.width (field.pattern value)).length = offset + field.width := by
    rw [List.length_append, before, BigEndian.length_digits]
  rcases outside with early | late
  · rw [List.append_assoc, List.getElem?_append_left (by omega), List.getElem?_take_of_lt early]
  · rw [List.getElem?_append_right (by omega), through, List.getElem?_drop,
      Nat.add_sub_cancel' late]

/-- A load without signs is the number that the bytes spell, since that is below
the modulus and wrapping leaves it. -/
theorem integer_of_load? {value : field.Value} (unsigned : field.isSigned = false)
    (loads : field.load? buffer offset = some value) :
    field.integer value = BigEndian.number (span buffer offset field.width) := by
  obtain ⟨fits, rfl⟩ := load?_eq_some_iff.mp loads
  have below : (BigEndian.number (span buffer offset field.width) : Int) < field.modulus :=
    mod_cast number_span_lt fits
  rw [integer_ofPattern, wrap, unsigned]
  exact Int.emod_eq_of_lt (Int.natCast_nonneg _) below

/-- A load of the double width without signs is made of two loads of the single
width: the first counts for two to the number of bits of the second. -/
theorem integer_of_halves {whole half : Field} (unsigned : whole.isSigned = false)
    (halfUnsigned : half.isSigned = false) (double : whole.width = 2 * half.width)
    {all : whole.Value} {first second : half.Value}
    (loads : whole.load? buffer offset = some all)
    (loadsFirst : half.load? buffer offset = some first)
    (loadsSecond : half.load? buffer (offset + half.width) = some second) :
    whole.integer all = half.integer first * 2 ^ (8 * half.width) + half.integer second := by
  have wide := length_span (load?_eq_some_iff.mp loadsSecond).1
  have weight : 256 ^ half.width = 2 ^ (8 * half.width) := half.modulus_eq.symm
  rw [integer_of_load? unsigned loads, integer_of_load? halfUnsigned loadsFirst,
    integer_of_load? halfUnsigned loadsSecond, double, Nat.two_mul, span_add,
    BigEndian.number_append, wide, weight]
  push_cast
  rfl

/-- The codec is a bijection at every offset where a field fits.

What was stored is loaded again, and what was loaded is stored without a change.
The bytes of the span that is written are the digits of the value's integer
modulo 256 to the power of the width, most significant first. Loaded as another
field of the same width they are that integer again, wrapped, and no two values
of a field stand for the same integer.

A load of the double width without signs is the first half, moved up by the
width of the second, and the second half.

Proof: a field that fits can be stored and loaded. The pattern that was stored
is found again by any field of the same width, and the bytes are its digits;
that it is the integer of the value modulo the modulus connects the two. The
halves are two spans that follow one another. -/
theorem codec_bijective :
    (∀ (field : Field) (buffer : List UInt8) (offset : Nat),
      offset + field.width ≤ buffer.length →
      (∀ value : field.Value, ∃ stored, field.store? value buffer offset = some stored ∧
        field.load? stored offset = some value ∧
        (∀ place < field.width, stored[offset + place]?.map UInt8.toNat =
          some ((field.integer value % 2 ^ (8 * field.width)).toNat /
            256 ^ (field.width - 1 - place) % 256)) ∧
        ∀ other : Field, other.width = field.width →
          ∃ loaded, other.load? stored offset = some loaded ∧
            other.integer loaded = other.wrap (field.integer value)) ∧
      ∃ value, field.load? buffer offset = some value ∧
        field.store? value buffer offset = some buffer) ∧
    (∀ (field : Field) (left right : field.Value),
      field.integer left = field.integer right → left = right) ∧
    ∀ (whole half : Field) (buffer : List UInt8) (offset : Nat),
      whole.isSigned = false → half.isSigned = false → whole.width = 2 * half.width →
      offset + whole.width ≤ buffer.length →
        ∃ all first second, whole.load? buffer offset = some all ∧
          half.load? buffer offset = some first ∧
          half.load? buffer (offset + half.width) = some second ∧
          whole.integer all = half.integer first * 2 ^ (8 * half.width) + half.integer second := by
  refine ⟨?_, fun field _ _ => field.integer_injective, ?_⟩
  · intro field buffer offset fits
    refine ⟨?_, ?_⟩
    · intro value
      obtain ⟨stored, stores⟩ := exists_store? fits value
      have again := load?_of_store? stores rfl
      rw [ofPattern_pattern] at again
      refine ⟨stored, stores, again, ?_, ?_⟩
      · intro place within
        rw [← pattern_eq_toNat]
        exact getElem?_of_store? stores within
      · intro other sameWidth
        exact ⟨_, load?_of_store? stores sameWidth, integer_reinterpreted sameWidth value⟩
    · obtain ⟨value, loads⟩ := exists_load? fits
      exact ⟨value, loads, store?_of_load? loads⟩
  · intro whole half buffer offset unsigned halfUnsigned double fits
    have fitsFirst : offset + half.width ≤ buffer.length := by omega
    have fitsSecond : offset + half.width + half.width ≤ buffer.length := by omega
    obtain ⟨all, loads⟩ := exists_load? fits
    obtain ⟨first, loadsFirst⟩ := exists_load? fitsFirst
    obtain ⟨second, loadsSecond⟩ := exists_load? fitsSecond
    exact ⟨all, first, second, loads, loadsFirst, loadsSecond,
      integer_of_halves unsigned halfUnsigned double loads loadsFirst loadsSecond⟩

/-- In the middle of a buffer a negative integer is found again, is large and
positive without a sign, and ends with its lowest digit. A signalling NaN at an
odd offset is found again with its payload, and eight bytes are twice four. -/
theorem negative_and_nan_stored :
    let buffer : List UInt8 := List.replicate 12 0x55
    let nan : Binary64 := ⟨0x7ff00000deadbeef⟩
    (∃ stored, int32.store? (-2 : Int32) buffer 4 = some stored ∧
      int32.load? stored 4 = some (-2 : Int32) ∧ stored[4 + 3]?.map UInt8.toNat = some 254 ∧
      ∃ loaded, uint32.load? stored 4 = some loaded ∧ uint32.integer loaded = 4294967294) ∧
    (∃ stored, binary64.store? nan buffer 3 = some stored ∧
      binary64.load? stored 3 = some nan) ∧
    ∃ all first second, uint64.load? buffer 1 = some all ∧ uint32.load? buffer 1 = some first ∧
      uint32.load? buffer 5 = some second ∧
      uint64.integer all = uint32.integer first * 4294967296 + uint32.integer second := by
  intro buffer nan
  obtain ⟨inverse, _, halves⟩ := codec_bijective
  obtain ⟨stored, stores, again, digits, others⟩ :=
    (inverse int32 buffer 4 (by decide)).1 (-2 : Int32)
  obtain ⟨loaded, loads, reread⟩ := others uint32 rfl
  obtain ⟨held, holds, same, _, _⟩ := (inverse binary64 buffer 3 (by decide)).1 nan
  exact ⟨⟨stored, stores, again, digits 3 (by decide), loaded, loads, reread⟩, ⟨held, holds, same⟩,
    halves uint64 uint32 buffer 1 rfl rfl rfl (by decide)⟩

end MessagePack.Bytes.Field
