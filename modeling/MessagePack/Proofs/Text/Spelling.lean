import Mathlib.Data.List.Forall2
import MessagePack.Text.Utf8

/-!
# Characters and their spellings

UTF-8 has four forms to spell a number in, with one byte to four. Each form
could also spell numbers that a shorter one has room for, surrogates and numbers
above U+10FFFF. What the scan takes as a character are exactly the spellings
that do none of this, and these are the encodings of the characters.

The scan knows only first bytes and the ranges that they ask for. The connection
is made by the six bits that a continuation byte carries: a first byte and such
groups are a number in one of the forms, and the narrowed ranges are the ends of
what is allowed in its form.
-/

namespace MessagePack.Text.Utf8

/-- A form that numbers are spelled in, told apart by the number of its
bytes. -/
inductive Form where
  | one
  | two
  | three
  | four
  deriving DecidableEq, Repr

namespace Form

/-- The least number that fits no shorter form. A spelling of a lesser number is
longer than needed. -/
def least : Form → Nat
  | one => 0
  | two => 0x80
  | three => 0x800
  | four => 0x10000

/-- The least number that does not fit the form, given by the bits that its
bytes carry. -/
def capacity : Form → Nat
  | one => 0x80
  | two => 0x800
  | three => 0x10000
  | four => 0x200000

/-- The bytes of a number in a form. Every byte after the first is marked and
carries six bits; the first one tells the form and carries the bits above
them. -/
def spell : Form → Nat → List UInt8
  | one, number => [.ofNat number]
  | two, number => [.ofNat (0xC0 + number / 64), .ofNat (0x80 + number % 64)]
  | three, number =>
    [.ofNat (0xE0 + number / 4096), .ofNat (0x80 + number / 64 % 64), .ofNat (0x80 + number % 64)]
  | four, number =>
    [.ofNat (0xF0 + number / 262144), .ofNat (0x80 + number / 4096 % 64),
      .ofNat (0x80 + number / 64 % 64), .ofNat (0x80 + number % 64)]

/-- Every number that fits the longest form has a shortest one. -/
theorem exists_of_lt {number : Nat} (small : number < four.capacity) :
    ∃ form : Form, form.least ≤ number ∧ number < form.capacity := by
  by_cases inOne : number < one.capacity
  · exact ⟨one, Nat.zero_le _, inOne⟩
  by_cases inTwo : number < two.capacity
  · exact ⟨two, Nat.not_lt.mp inOne, inTwo⟩
  by_cases inThree : number < three.capacity
  · exact ⟨three, Nat.not_lt.mp inTwo, inThree⟩
  · exact ⟨four, Nat.not_lt.mp inThree, small⟩

/-- Every character has a shortest form for its code point, since the longest
form has room for all of them. -/
theorem exists_of_char (char : Char) :
    ∃ form : Form, form.least ≤ char.toNat ∧ char.toNat < form.capacity := by
  apply exists_of_lt
  rcases char.valid with low | ⟨_, high⟩
  · exact Nat.lt_trans low (by decide)
  · exact Nat.lt_trans high (by decide)

end Form

/-- A character is encoded by spelling its code point in the shortest form. The
encoding of the library masks and shifts, which for numbers that fit is the
division of the spelling. -/
theorem utf8EncodeChar_eq {char : Char} {form : Form} (enough : form.least ≤ char.toNat)
    (fits : char.toNat < form.capacity) : String.utf8EncodeChar char = form.spell char.toNat := by
  simp only [String.utf8EncodeChar, Char.toNat_val]
  cases form <;> simp only [Form.least, Form.capacity, Form.spell] at enough fits ⊢
  case one => rw [if_pos (by omega)]
  case two =>
    have top : char.toNat / 64 % 32 + 192 = 0xC0 + char.toNat / 64 := by omega
    rw [if_neg (by omega), if_pos (by omega), top, Nat.add_comm (char.toNat % 64)]
  case three =>
    have top : char.toNat / 4096 % 16 + 224 = 0xE0 + char.toNat / 4096 := by omega
    rw [if_neg (by omega), if_neg (by omega), if_pos (by omega), top,
      Nat.add_comm (char.toNat % 64), Nat.add_comm (char.toNat / 64 % 64)]
  case four =>
    have top : char.toNat / 262144 % 8 + 240 = 0xF0 + char.toNat / 262144 := by omega
    rw [if_neg (by omega), if_neg (by omega), if_neg (by omega), top,
      Nat.add_comm (char.toNat % 64), Nat.add_comm (char.toNat / 64 % 64),
      Nat.add_comm (char.toNat / 4096 % 64)]

/-! ## First bytes -/

/-- A first byte of the shortest form asks for nothing more. -/
theorem owedAfter_one {number : Nat} (small : number < 0x80) :
    owedAfter (.ofNat number) = some [] := by
  revert number
  decide

/-- No character begins with a first byte of two that adds fewer than two bits:
the number would fit the form of one byte. -/
theorem owedAfter_two {top : Nat} (small : top < 32) :
    owedAfter (.ofNat (0xC0 + top)) = if top < 2 then none else some [continuation] := by
  revert top
  decide

/-- The first byte of three narrows what follows it at the least number and at
the surrogates. -/
theorem owedAfter_three {top : Nat} (small : top < 16) :
    owedAfter (.ofNat (0xE0 + top)) =
      some [⟨if top = 0 then 0xA0 else 0x80, if top = 13 then 0x9F else 0xBF⟩, continuation] := by
  revert top
  decide

/-- The first byte of four narrows what follows it at the least number and at
the greatest code point. -/
theorem owedAfter_four {top : Nat} (small : top < 8) :
    owedAfter (.ofNat (0xF0 + top)) =
      if top < 5 then some [⟨if top = 0 then 0x90 else 0x80, if top = 4 then 0x8F else 0xBF⟩,
        continuation, continuation] else none := by
  revert top
  decide

/-- A first byte that can begin a character tells how many bytes it asks for.
The four cases are the four forms, each with the first bytes that are used in
it. -/
theorem owedAfter_length {first : UInt8} {owed : List ByteRange}
    (begins : owedAfter first = some owed) :
    owed.length = 0 ∧ first.toNat < 0x80 ∨
      owed.length = 1 ∧ 0xC2 ≤ first.toNat ∧ first.toNat < 0xE0 ∨
      owed.length = 2 ∧ 0xE0 ≤ first.toNat ∧ first.toNat < 0xF0 ∨
      owed.length = 3 ∧ 0xF0 ≤ first.toNat ∧ first.toNat < 0xF5 := by
  revert begins
  fun_cases owedAfter first <;> rintro ⟨⟩ <;>
    simp [UInt8.lt_iff_toNat_lt, ← UInt8.toNat_inj] at * <;>
    omega

/-! ## Continuation bytes -/

/-- A number below 256 lies in a range as a byte exactly if it lies between the
ends. -/
theorem contains_ofNat {low high : UInt8} {number : Nat} (small : number < 256) :
    (ByteRange.mk low high).contains (.ofNat number) = true ↔
      low.toNat ≤ number ∧ number ≤ high.toNat := by
  simp [ByteRange.contains, UInt8.le_iff_toNat_le, Nat.mod_eq_of_lt small]

/-- A marked group of six bits is a continuation byte. -/
theorem continuation_contains (number : Nat) :
    continuation.contains (.ofNat (0x80 + number % 64)) = true := by
  rw [continuation, contains_ofNat (by omega)]
  simp only [UInt8.reduceToNat]
  omega

/-- Bytes that all continue a character are marked groups of six bits. -/
theorem exists_groups {bytes : List UInt8}
    (continues : ∀ byte ∈ bytes, continuation.contains byte = true) :
    ∃ groups : List Nat, (∀ group ∈ groups, group < 64) ∧
      groups.map (fun group => UInt8.ofNat (0x80 + group)) = bytes := by
  induction bytes with
  | nil => exact ⟨[], nofun, rfl⟩
  | cons byte bytes inductionHypothesis =>
    obtain ⟨first, later⟩ := List.forall_mem_cons.mp continues
    obtain ⟨groups, small, rfl⟩ := inductionHypothesis later
    rw [← UInt8.ofNat_toNat (x := byte), continuation, contains_ofNat byte.toNat_lt] at first
    obtain ⟨group, marked⟩ := Nat.exists_eq_add_of_le first.1
    have below : byte.toNat ≤ 0xBF := first.2
    have mark : (0x80 : UInt8).toNat = 0x80 := rfl
    refine ⟨group :: groups, List.forall_mem_cons.mpr ⟨by omega, small⟩, ?_⟩
    rw [List.map_cons, ← mark, ← marked, UInt8.ofNat_toNat]

/-- The ranges that are owed lie among the continuation bytes. -/
def Continue (owed : List ByteRange) : Prop :=
  ∀ range ∈ owed, continuation.low ≤ range.low ∧ range.high ≤ continuation.high

instance (owed : List ByteRange) : Decidable (Continue owed) :=
  inferInstanceAs (Decidable (∀ range ∈ owed, _ ∧ _))

/-- A first byte asks for continuation bytes, in ranges that may be narrowed but
never wider. -/
theorem owedAfter_continue {first : UInt8} {owed : List ByteRange}
    (begins : owedAfter first = some owed) : Continue owed := by
  revert begins
  fun_cases owedAfter first <;> rintro ⟨⟩ <;> decide

/-- A byte that continues a character cannot begin one: it lies between the
first bytes of one byte and those of more. -/
theorem owedAfter_of_continuation {byte : UInt8} (continues : continuation.contains byte = true) :
    owedAfter byte = none := by
  rw [← UInt8.ofNat_toNat (x := byte), continuation, contains_ofNat byte.toNat_lt] at continues
  simp only [UInt8.reduceToNat] at continues
  cases begins : owedAfter byte with
  | none => rfl
  | some owed =>
    have length := owedAfter_length begins
    omega

/-- A byte that begins a character cannot continue one. -/
theorem not_continuation {first : UInt8} {owed : List ByteRange}
    (begins : owedAfter first = some owed) : continuation.contains first = false := by
  rw [Bool.eq_false_iff]
  intro continues
  cases begins.symm.trans (owedAfter_of_continuation continues)

/-! ## Characters -/

/-- The bytes lie one by one in the ranges that are owed, and are as many. -/
def Fills (owed : List ByteRange) (bytes : List UInt8) : Prop :=
  List.Forall₂ (fun range byte => range.contains byte = true) owed bytes

@[simp] theorem fills_nil (bytes : List UInt8) : Fills [] bytes ↔ bytes = [] :=
  List.forall₂_nil_left_iff

@[simp] theorem fills_cons (range : ByteRange) (owed : List ByteRange) (byte : UInt8)
    (bytes : List UInt8) :
    Fills (range :: owed) (byte :: bytes) ↔ range.contains byte = true ∧ Fills owed bytes :=
  List.forall₂_cons

/-- Bytes in ranges of continuation bytes are continuation bytes. -/
theorem Fills.continues {owed : List ByteRange} {bytes : List UInt8} (filled : Fills owed bytes)
    (among : Continue owed) : ∀ byte ∈ bytes, continuation.contains byte = true := by
  induction filled with
  | nil => exact nofun
  | cons inside _ inductionHypothesis =>
    obtain ⟨⟨low, high⟩, others⟩ := List.forall_mem_cons.mp among
    simp only [ByteRange.contains, Bool.and_eq_true, decide_eq_true_iff] at inside
    refine List.forall_mem_cons.mpr ⟨?_, inductionHypothesis others⟩
    simp only [ByteRange.contains, Bool.and_eq_true, decide_eq_true_iff]
    exact ⟨UInt8.le_trans low inside.1, UInt8.le_trans inside.2 high⟩

/-- The bytes are what the scan takes as one character: a first byte and what it
asks for. -/
inductive Character : List UInt8 → Prop where
  | intro {first : UInt8} {owed : List ByteRange} {rest : List UInt8}
      (begins : owedAfter first = some owed) (filled : Fills owed rest) : Character (first :: rest)

/-- Behind a first byte stands what it asks for, and nothing else makes a
character of it. -/
theorem character_iff {first : UInt8} {owed : List ByteRange} (begins : owedAfter first = some owed)
    (rest : List UInt8) : Character (first :: rest) ↔ Fills owed rest := by
  constructor
  · rintro ⟨same, filled⟩
    cases begins.symm.trans same
    exact filled
  · exact .intro begins

/-- Behind a byte that cannot come first stands no character. -/
theorem not_character {first : UInt8} (barred : owedAfter first = none) (rest : List UInt8) :
    ¬ Character (first :: rest) := by
  rintro ⟨begins, _⟩
  cases barred.symm.trans begins

/-- The spelling of a number is a character exactly if no shorter form has room
for the number and the number is a code point of a character.

Proof: by cases on the form. The first byte carries the highest bits of the
number, and the range that it asks for next leaves out exactly the numbers of a
shorter form, the surrogates in the form of three bytes and what is above the
greatest code point in that of four. All later bytes are unrestricted groups. -/
theorem character_spell_iff (form : Form) {number : Nat} (fits : number < form.capacity) :
    Character (form.spell number) ↔ form.least ≤ number ∧ number.isValidChar := by
  cases form <;> simp only [Form.capacity] at fits <;>
    simp only [Form.spell, Form.least, Nat.isValidChar]
  case one =>
    rw [character_iff (owedAfter_one fits)]
    simp only [fills_nil, true_iff]
    omega
  case two =>
    have top : number / 64 < 32 := by omega
    have begins := owedAfter_two top
    split at begins
    · have overlong := not_character begins [.ofNat (0x80 + number % 64)]
      simp only [overlong, false_iff]
      omega
    · rw [character_iff begins]
      simp only [fills_cons, fills_nil, continuation_contains, and_true, true_iff]
      omega
  case three =>
    have middle : 0x80 + number / 64 % 64 < 256 := by omega
    rw [character_iff (owedAfter_three (by omega))]
    simp only [fills_cons, fills_nil, continuation_contains, contains_ofNat middle, and_true]
    split <;> split <;> simp only [UInt8.reduceToNat] <;> omega
  case four =>
    have upper : 0x80 + number / 4096 % 64 < 256 := by omega
    have top : number / 262144 < 8 := by omega
    have begins := owedAfter_four top
    split at begins
    · rw [character_iff begins]
      simp only [fills_cons, fills_nil, continuation_contains, contains_ofNat upper, and_true]
      split <;> split <;> simp only [UInt8.reduceToNat] <;> omega
    · have beyond := not_character begins [.ofNat (0x80 + number / 4096 % 64),
        .ofNat (0x80 + number / 64 % 64), .ofNat (0x80 + number % 64)]
      simp only [beyond, false_iff]
      omega

/-- Every character is the spelling of a number, put together from the bits of
its bytes.

Proof: the bytes behind the first one are marked groups of six bits, and the
first byte tells how many there are. The number is made of what it carries and
of these groups, and dividing it by the weights gives them back. -/
theorem Character.exists_spell {bytes : List UInt8} (character : Character bytes) :
    ∃ (form : Form) (number : Nat), number < form.capacity ∧ form.spell number = bytes := by
  obtain @⟨first, owed, rest, begins, filled⟩ := character
  obtain ⟨groups, small, rfl⟩ := exists_groups (filled.continues (owedAfter_continue begins))
  have long : groups.length = owed.length := (List.length_map ..).symm.trans filled.length_eq.symm
  rcases owedAfter_length begins with
    ⟨count, below⟩ | ⟨count, above, below⟩ | ⟨count, above, below⟩ | ⟨count, above, below⟩ <;>
    rw [count] at long
  · rw [List.length_eq_zero_iff.mp long]
    exact ⟨.one, first.toNat, below, by simp [Form.spell]⟩
  · obtain ⟨low, rfl⟩ := List.length_eq_one_iff.mp long
    simp only [List.forall_mem_cons] at small
    generalize number : (first.toNat - 0xC0) * 64 + low = value
    have top : 0xC0 + value / 64 = first.toNat := by omega
    have lowest : value % 64 = low := by omega
    refine ⟨.two, value, by simp only [Form.capacity]; omega, ?_⟩
    rw [Form.spell, top, lowest, UInt8.ofNat_toNat]
    rfl
  · obtain ⟨middle, low, rfl⟩ := List.length_eq_two.mp long
    simp only [List.forall_mem_cons] at small
    generalize number : ((first.toNat - 0xE0) * 64 + middle) * 64 + low = value
    have top : 0xE0 + value / 4096 = first.toNat := by omega
    have inner : value / 64 % 64 = middle := by omega
    have lowest : value % 64 = low := by omega
    refine ⟨.three, value, by simp only [Form.capacity]; omega, ?_⟩
    rw [Form.spell, top, inner, lowest, UInt8.ofNat_toNat]
    rfl
  · obtain ⟨upper, middle, low, rfl⟩ := List.length_eq_three.mp long
    simp only [List.forall_mem_cons] at small
    generalize number : (((first.toNat - 0xF0) * 64 + upper) * 64 + middle) * 64 + low = value
    have top : 0xF0 + value / 262144 = first.toNat := by omega
    have outer : value / 4096 % 64 = upper := by omega
    have inner : value / 64 % 64 = middle := by omega
    have lowest : value % 64 = low := by omega
    refine ⟨.four, value, by simp only [Form.capacity]; omega, ?_⟩
    rw [Form.spell, top, outer, inner, lowest, UInt8.ofNat_toNat]
    rfl

/-- What the scan takes as one character is the encoding of one, and every
encoding is taken. Spelled in the shortest form, code points are encoded. -/
theorem character_iff_encoded (bytes : List UInt8) :
    Character bytes ↔ ∃ char : Char, String.utf8EncodeChar char = bytes := by
  constructor
  · intro character
    obtain ⟨form, number, fits, rfl⟩ := character.exists_spell
    obtain ⟨enough, valid⟩ := (character_spell_iff form fits).mp character
    exact ⟨.ofNatAux number valid, utf8EncodeChar_eq enough fits⟩
  · rintro ⟨char, rfl⟩
    obtain ⟨form, enough, fits⟩ := Form.exists_of_char char
    rw [utf8EncodeChar_eq enough fits]
    exact (character_spell_iff form fits).mpr ⟨enough, char.valid⟩

end MessagePack.Text.Utf8
