import MessagePack.Proofs.Header.Lawful

/-!
# The order of headers by what they stand for

Headers of different ranks are ordered by their ranks, which are the kinds with
one rank for all integers. Headers of one rank are ordered by a number: integers
by themselves, numbers of the floating-point formats by their patterns, truth
values by zero and one, extensions by their signed types and all others not at
all. This order knows nothing of keys, and it is the order of headers.

The two meet in the bits of a key. They are the number of the header, shifted up
by half of the range of a word for negative integers and by half of the range of
a byte for extensions.
-/

namespace MessagePack

/-- The rank of a kind, where integers with and without a sign have one. Apart
from that the ranks are in the order of the kinds. -/
def Kind.rank : Kind → Nat
  | nil => 0
  | bool => 1
  | float => 2
  | double => 3
  | int | uint => 4
  | str => 5
  | bin => 6
  | ext => 7
  | array => 8
  | map => 9

namespace Kind

/-- Ranks are counted from zero and places from one, and unsigned integers have
a place of their own. -/
theorem number_eq (kind : Kind) :
    kind.number = kind.rank + if kind.number ≤ 5 then 1 else 2 := by
  cases kind <;> rfl

/-- Kinds of different ranks are ordered by them, since the step between places
and ranks is never smaller for the later kind. -/
theorem compare_of_rank_ne {left right : Kind} (apart : left.rank ≠ right.rank) :
    compare left right = compare left.rank right.rank := by
  have leftNumber := left.number_eq
  have rightNumber := right.number_eq
  rcases Nat.lt_or_gt_of_ne apart with less | greater
  · have before : left.number < right.number := by
      split at leftNumber <;> split at rightNumber <;> omega
    exact (Nat.compare_eq_lt.mpr before).trans (Nat.compare_eq_lt.mpr less).symm
  · have after : right.number < left.number := by
      split at leftNumber <;> split at rightNumber <;> omega
    exact (Nat.compare_eq_gt.mpr after).trans (Nat.compare_eq_gt.mpr greater).symm

/-- Only the two kinds of integers share a rank with another kind. -/
theorem rank_cases {left right : Kind} (alike : left.rank = right.rank) :
    left = right ∨ left = .int ∧ right = .uint ∨ left = .uint ∧ right = .int := by
  cases left <;> cases right <;> simp_all [rank]

end Kind

namespace Header

/-- The number that a header stands for among those of its rank. It is read off
the value itself, with its sign and without any bits being turned round. -/
def magnitude : Header → Int
  | bool value => if value then 1 else 0
  | float value => value.bits.toNat
  | double value => value.bits.toNat
  | int value => value.toInt
  | uint value => value.toNat
  | ext type _ => type.toInt
  | _ => 0

/-- Headers by rank, and by number within a rank. This is the order that is
wanted, and it does not mention keys. -/
def reference (left right : Header) : Ordering :=
  (Ord.compare left.kind.rank right.kind.rank).then (Ord.compare left.magnitude right.magnitude)

/-! ## What the bits of a key stand for -/

/-- Half of the range of a number that the bits of a family hold with its sign
turned round. All other families hold their numbers as they are. -/
def bias : Kind → Nat
  | .int => 1 <<< 63
  | .ext => 1 <<< 7
  | _ => 0

/-- Turning the highest bit of a number round takes half of the range off it or
adds that.

Proof: a number below half of the range is disjoint from the highest bit, so
that turning the bit round adds it. Any other number is such a number with the
bit added, and turning the bit round twice changes nothing. -/
theorem xor_highest {width number : Nat} (bounded : number < 1 <<< (width + 1)) :
    number ^^^ (1 <<< width) =
      if number < 1 <<< width then number + 1 <<< width else number - 1 <<< width := by
  have disjoint (low : Nat) (small : low < 2 ^ width) : low ^^^ 2 ^ width = low + 2 ^ width := by
    rw [Nat.add_comm, ← Nat.mul_one (2 ^ width), Nat.two_pow_add_eq_or_of_lt small 1, Nat.mul_one]
    apply Nat.eq_of_testBit_eq
    intro position
    rw [Nat.testBit_xor, Nat.testBit_or, Nat.testBit_two_pow]
    by_cases here : width = position
    · subst here
      simp [Nat.testBit_lt_two_pow small]
    · simp [here]
  rw [Nat.one_shiftLeft, Nat.pow_succ] at bounded
  rw [Nat.one_shiftLeft]
  split
  · exact disjoint number ‹_›
  · have low : number - 2 ^ width < 2 ^ width := by omega
    have whole := disjoint (number - 2 ^ width) low
    rw [Nat.sub_add_cancel (by omega)] at whole
    calc
      number ^^^ 2 ^ width = (number - 2 ^ width) ^^^ 2 ^ width ^^^ 2 ^ width := by rw [whole]
      _ = number - 2 ^ width := by rw [Nat.xor_assoc, Nat.xor_self, Nat.xor_zero]

/-- A signed number whose highest bit is turned round reads as one shifted up by
half of the range, without a sign. Negative numbers thereby come before all
others in the order of patterns. -/
theorem toInt_add_half (width : Nat) (bits : BitVec (width + 1)) :
    bits.toInt + (1 <<< width : Nat) = (bits.toNat ^^^ (1 <<< width) : Nat) := by
  have bounded : bits.toNat < 1 <<< (width + 1) := by
    rw [Nat.one_shiftLeft]
    exact bits.isLt
  rw [xor_highest bounded, BitVec.toInt_eq_toNat_cond]
  rw [Nat.one_shiftLeft, Nat.pow_succ] at bounded ⊢
  split <;> split <;> omega

/-- The family of a key has the rank of the kind. Only an integer can have the
family of another kind, and that has the same rank. -/
theorem family_rank (header : Header) : header.key.family.rank = header.kind.rank := by
  cases header with
  | int value =>
    simp only [key, kind]
    split <;> rfl
  | _ => rfl

/-- The bits of a key are the number of the header, shifted up by the bias of
the family.

Proof: by cases on the header. Integers without a negative sign, truth values
and patterns are their own bits, and for negative integers and extensions the
highest bit is turned round. -/
theorem magnitude_eq (header : Header) :
    header.magnitude + bias header.key.family = header.key.bits.toNat := by
  cases header with
  | bool value => cases value <;> rfl
  | float value => simp [magnitude, key, bias]
  | double value => simp [magnitude, key, bias]
  | int value =>
    simp only [magnitude, key]
    split
    · rename_i positive
      rw [Int64.toNat_toUInt64_of_le positive, Int64.cast_toNatClampNeg value positive]
      exact Int.add_zero _
    · have highest : (0x8000000000000000 : UInt64).toNat = 1 <<< 63 := by decide
      rw [UInt64.toNat_xor, highest]
      exact toInt_add_half 63 value.toBitVec
  | uint value => simp [magnitude, key, bias]
  | ext type length =>
    have highest : (0x80 : UInt8).toNat = 1 <<< 7 := by decide
    rw [key, UInt8.toNat_toUInt64, UInt8.toNat_xor, highest]
    exact toInt_add_half 7 type.toBitVec
  | _ => rfl

/-- A key is in the family of signed integers only for a negative number, as all
other integers are put into the family of those without a sign. -/
theorem magnitude_neg {header : Header} (signed : header.key.family = .int) :
    header.magnitude < 0 := by
  cases header with
  | int value =>
    simp only [key] at signed
    split at signed
    · cases signed
    · rename_i negative
      rw [Int64.le_iff_toInt_le, Int64.toInt_zero] at negative
      exact Int.not_le.mp negative
  | _ => cases signed

/-- A key is in the family of unsigned integers only for a number that is not
negative. -/
theorem magnitude_nonneg {header : Header} (unsigned : header.key.family = .uint) :
    0 ≤ header.magnitude := by
  have shifted := magnitude_eq header
  have unbiased : bias header.key.family = 0 := by rw [unsigned]; rfl
  omega

/-! ## The two orders agree -/

/-- Within one family the bits of keys compare as the numbers of the headers, as
both are shifted up by the same bias. -/
theorem compare_bits {left right : Header} (family : left.key.family = right.key.family) :
    Ord.compare left.key.bits right.key.bits = Ord.compare left.magnitude right.magnitude := by
  have leftShifted := magnitude_eq left
  have rightShifted := magnitude_eq right
  rw [family] at leftShifted
  rcases Int.lt_trichotomy left.magnitude right.magnitude with less | equal | greater
  · rw [Int.compare_eq_lt.mpr less]
    exact Std.compare_eq_lt.mpr (UInt64.lt_iff_toNat_lt.mpr (by omega))
  · rw [Int.compare_eq_eq.mpr equal]
    exact Std.LawfulEqOrd.compare_eq_iff_eq.mpr (UInt64.toNat_inj.mp (by omega))
  · rw [Int.compare_eq_gt.mpr greater]
    exact Std.compare_eq_gt.mpr (UInt64.lt_iff_toNat_lt.mpr (by omega))

/-- Keys are ordered as the headers by ranks and numbers.

Proof: headers of different ranks are ordered by these on both sides. Within a
rank the families are the same, and then the bits compare as the numbers, or
both are integers and one of them is negative: that one comes first, by family
and by number. -/
theorem compare_eq_reference (left right : Header) : left.compare right = reference left right := by
  rw [compare, Key.compare, reference, ← family_rank left, ← family_rank right]
  by_cases alike : left.key.family.rank = right.key.family.rank
  · rw [Nat.compare_eq_eq.mpr alike, Ordering.eq_then]
    rcases Kind.rank_cases alike with same | ⟨negative, other⟩ | ⟨other, negative⟩
    · rw [same, Std.compare_self]
      exact compare_bits same
    · have less := Int.lt_of_lt_of_le (magnitude_neg negative) (magnitude_nonneg other)
      rw [negative, other, Int.compare_eq_lt.mpr less]
      rfl
    · have greater := Int.lt_of_lt_of_le (magnitude_neg negative) (magnitude_nonneg other)
      rw [negative, other, Int.compare_eq_gt.mpr greater]
      rfl
  · rw [Kind.compare_of_rank_ne alike]
    cases order : Ord.compare left.key.family.rank right.key.family.rank with
    | lt => rfl
    | eq => exact absurd (Nat.compare_eq_eq.mp order) alike
    | gt => rfl

/-- The order of headers is the one by ranks and numbers. Headers are the same
exactly if that calls them equal; and an integer with a sign and one without are
the same exactly if they are one number, which is not negative then.

Proof: the comparison equals the reference, and sameness is its equality. Of two
integers both have one rank, so that only the numbers count. -/
theorem ordered_by_meaning :
    (∀ left right : Header, left.compare right = reference left right ∧
      (left.same right = true ↔ reference left right = .eq)) ∧
    ∀ (signed : Int64) (unsigned : UInt64), (int signed).same (uint unsigned) = true ↔
      0 ≤ signed ∧ signed.toInt = unsigned.toNat := by
  have same (left right : Header) : left.same right = true ↔ reference left right = .eq := by
    rw [Header.same, beq_iff_eq, compare_eq_reference]
  refine ⟨fun left right => ⟨compare_eq_reference left right, same left right⟩, ?_⟩
  intro signed unsigned
  have numbers : reference (int signed) (uint unsigned) =
      Ord.compare signed.toInt (unsigned.toNat : Int) := rfl
  rw [same, numbers, Int.compare_eq_eq, Int64.le_iff_toInt_le, Int64.toInt_zero]
  constructor
  · intro equal
    exact ⟨equal ▸ Int.natCast_nonneg _, equal⟩
  · exact And.right

/-- A negative number is below all that are not, zero of either kind is one key,
the signs of zeros and the order of patterns count for numbers of the
floating-point formats, and lengths do not. -/
example :
    (int (-1)).compare (uint 0) = .lt ∧ (int 0).same (uint 0) = true ∧
      (double ⟨0⟩).compare (double ⟨0x8000000000000000⟩) = .lt ∧
      (ext (-128) 0).compare (ext 127 9) = .lt ∧ (map 1).same (map 200) = true := by
  decide

end Header

end MessagePack
