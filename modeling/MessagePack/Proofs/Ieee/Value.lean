import Mathlib
import MessagePack.Ieee

/-!
# The numbers of floating-point patterns

A pattern of a binary format is a sign, an exponent and a fraction, in this
order from the highest bit down. It stands for a rational number, for one of the
two infinities or for no number at all. Without its sign a pattern is a natural
number, and the sizes of numbers follow these: a larger exponent outweighs every
fraction, also where numbers stop being subnormal, and the infinity comes behind
all numbers and before the patterns that stand for none.
-/

namespace MessagePack.Ieee

/-- A binary format, by the widths of its fields. The sign takes one more
bit. -/
structure Format where
  exponentWidth : Nat
  fractionWidth : Nat

/-- A size with a negative sign. Zero has the same value with either sign, and
the opposite of the infinite size is the least of all values. -/
def opposite : WithTop ℚ → WithBot (WithTop ℚ)
  | none => ⊥
  | some number => ((-number : ℚ) : WithTop ℚ)

namespace Format

/-- The format of 32 bits. -/
def binary32 : Format := ⟨8, 23⟩

/-- The format of 64 bits. -/
def binary64 : Format := ⟨11, 52⟩

variable (format : Format)

/-- The number of bits of a pattern: the two fields and the sign. -/
def width : Nat := format.exponentWidth + format.fractionWidth + 1

/-- The exponent field of one, which is half of the range of the field, less
one. -/
def bias : Nat := 2 ^ (format.exponentWidth - 1) - 1

/-- The greatest exponent field, which no number has. It is kept for infinities
and for patterns that stand for none. -/
def greatest : Nat := 2 ^ format.exponentWidth - 1

/-- The exponent field of a pattern without its sign: the bits above the
fraction. -/
def exponent (unsigned : Nat) : Nat := unsigned / 2 ^ format.fractionWidth

/-- The fraction field, which holds the lowest bits. -/
def fraction (unsigned : Nat) : Nat := unsigned % 2 ^ format.fractionWidth

/-- The size of a number whose exponent is not the greatest. The least exponent
stands for the same power of two as the next one, but without a leading one
before the fraction. -/
def magnitude (unsigned : Nat) : ℚ :=
  if format.exponent unsigned = 0 then
    2 ^ (1 - format.bias : ℤ) * (format.fraction unsigned / 2 ^ format.fractionWidth)
  else
    2 ^ (format.exponent unsigned - format.bias : ℤ) *
      (1 + format.fraction unsigned / 2 ^ format.fractionWidth)

/-- The size that a pattern without its sign stands for. With the greatest
exponent it is infinite for a fraction of zero, and for any other there is
none. -/
def size? (unsigned : Nat) : Option (WithTop ℚ) :=
  if format.exponent unsigned < format.greatest then some (format.magnitude unsigned : ℚ)
  else if format.fraction unsigned = 0 then some ⊤
  else none

/-- A pattern without its sign, which is the highest bit, as a number. -/
def unsigned (pattern : BitVec format.width) : Nat :=
  pattern.toNat % 2 ^ (format.exponentWidth + format.fractionWidth)

/-- The number that a pattern stands for, if it does for any: its size with its
sign. -/
def value? (pattern : BitVec format.width) : Option (WithBot (WithTop ℚ)) :=
  (format.size? (format.unsigned pattern)).map fun size =>
    if pattern.msb then opposite size else size

/-! ## Sizes -/

variable {format} {left right : Nat}

/-- A fraction is less than one, as a part of its range. -/
theorem fraction_lt (format : Format) (unsigned : Nat) :
    (format.fraction unsigned / 2 ^ format.fractionWidth : ℚ) < 1 := by
  rw [div_lt_one (by positivity)]
  exact_mod_cast Nat.mod_lt unsigned (Nat.two_pow_pos format.fractionWidth)

/-- A size is less than the power of two that the next exponent stands for,
whether it has a leading one before its fraction or not. -/
theorem magnitude_lt_pow (format : Format) (unsigned : Nat) :
    format.magnitude unsigned < 2 ^ (format.exponent unsigned + 1 - format.bias : ℤ) := by
  have below := format.fraction_lt unsigned
  rw [magnitude]
  split
  · rename_i least
    rw [least, Nat.cast_zero, zero_add]
    exact mul_lt_of_lt_one_right (by positivity) below
  · rw [add_sub_right_comm, zpow_add_one₀ two_ne_zero]
    apply mul_lt_mul_of_pos_left _ (by positivity)
    linarith only [below]

/-- Unless it is subnormal a size is at least the power of two that its exponent
stands for. -/
theorem pow_le_magnitude {unsigned : Nat} (normal : format.exponent unsigned ≠ 0) :
    2 ^ (format.exponent unsigned - format.bias : ℤ) ≤ format.magnitude unsigned := by
  rw [magnitude, if_neg normal]
  apply le_mul_of_one_le_right (by positivity)
  have enough : (0 : ℚ) ≤ format.fraction unsigned / 2 ^ format.fractionWidth := by positivity
  linarith only [enough]

/-- Sizes of one exponent are ordered by their fractions, as they are multiplied
by the same power of two. -/
theorem magnitude_lt_of_fraction (exponents : format.exponent left = format.exponent right)
    (less : format.fraction left < format.fraction right) :
    format.magnitude left < format.magnitude right := by
  have fractions : (format.fraction left / 2 ^ format.fractionWidth : ℚ) <
      format.fraction right / 2 ^ format.fractionWidth := by
    gcongr
  rw [magnitude, magnitude, exponents]
  split
  · exact mul_lt_mul_of_pos_left fractions (by positivity)
  · exact mul_lt_mul_of_pos_left (add_lt_add_right fractions 1) (by positivity)

/-- Sizes of different exponents are ordered by these: one lies below the power
of two that the next exponent stands for, and the other does not. -/
theorem magnitude_lt_of_exponent (less : format.exponent left < format.exponent right) :
    format.magnitude left < format.magnitude right := by
  have normal : format.exponent right ≠ 0 := Nat.ne_zero_of_lt less
  calc
    format.magnitude left < 2 ^ (format.exponent left + 1 - format.bias : ℤ) :=
      format.magnitude_lt_pow left
    _ ≤ 2 ^ (format.exponent right - format.bias : ℤ) := by
      apply zpow_le_zpow_right₀ one_le_two
      omega
    _ ≤ format.magnitude right := pow_le_magnitude normal

/-- A lesser pattern has a lesser exponent, or the same one and a lesser
fraction, because the fraction holds the lowest bits. -/
theorem fields_lt (format : Format) (less : left < right) :
    format.exponent left < format.exponent right ∨
      format.exponent left = format.exponent right ∧
        format.fraction left < format.fraction right := by
  have leftFields := Nat.div_add_mod left (2 ^ format.fractionWidth)
  have rightFields := Nat.div_add_mod right (2 ^ format.fractionWidth)
  have exponents : format.exponent left ≤ format.exponent right := Nat.div_le_div_right less.le
  rcases Nat.lt_or_eq_of_le exponents with lower | same
  · exact .inl lower
  · refine .inr ⟨same, ?_⟩
    rw [exponent, exponent] at same
    rw [same] at leftFields
    change left % _ < right % _
    omega

/-- A size is that of a number, or infinite with a fraction of zero. The
exponent tells which. -/
theorem size?_eq_some {unsigned : Nat} {size : WithTop ℚ}
    (sized : format.size? unsigned = some size) :
    format.exponent unsigned < format.greatest ∧ size = (format.magnitude unsigned : ℚ) ∨
      format.greatest ≤ format.exponent unsigned ∧ format.fraction unsigned = 0 ∧ size = ⊤ := by
  rw [size?] at sized
  split at sized
  · exact .inl ⟨‹_›, (Option.some.inj sized).symm⟩
  · split at sized
    · exact .inr ⟨Nat.not_lt.mp ‹_›, ‹_›, (Option.some.inj sized).symm⟩
    · cases sized

/-- Where there is no size, the exponent is the greatest and the fraction is not
zero. -/
theorem size?_eq_none {unsigned : Nat} (unsized : format.size? unsigned = none) :
    format.greatest ≤ format.exponent unsigned ∧ format.fraction unsigned ≠ 0 := by
  rw [size?] at unsized
  split at unsized
  · cases unsized
  · split at unsized
    · cases unsized
    · exact ⟨Nat.not_lt.mp ‹_›, ‹_›⟩

/-- The exponent of a pattern without its sign is the greatest at most. -/
theorem exponent_unsigned_le (pattern : BitVec format.width) :
    format.exponent (format.unsigned pattern) ≤ format.greatest := by
  apply Nat.le_sub_one_of_lt
  apply Nat.div_lt_of_lt_mul
  rw [← Nat.pow_add, Nat.add_comm]
  exact Nat.mod_lt _ (Nat.two_pow_pos _)

/-- Sizes are ordered as the patterns without their signs.

Proof: the lesser pattern has a lesser exponent, or the same one and a lesser
fraction. Between numbers this orders the sizes; the infinite size has the
greatest exponent and the least fraction with that, so it is above every number
and no size is above it. -/
theorem size?_lt {leftSize rightSize : WithTop ℚ} (sized : format.size? left = some leftSize)
    (rightSized : format.size? right = some rightSize)
    (bounded : format.exponent right ≤ format.greatest) (less : left < right) :
    leftSize < rightSize := by
  have fields := format.fields_lt less
  rcases size?_eq_some rightSized with ⟨small, rfl⟩ | ⟨_, zero, rfl⟩
  · rcases size?_eq_some sized with ⟨_, rfl⟩ | ⟨great, _⟩
    · rw [WithTop.coe_lt_coe]
      rcases fields with lower | ⟨exponents, fractions⟩
      · exact magnitude_lt_of_exponent lower
      · exact magnitude_lt_of_fraction exponents fractions
    · omega
  · rcases size?_eq_some sized with ⟨_, rfl⟩ | ⟨great, _⟩
    · exact WithTop.coe_lt_top _
    · omega

/-- Behind the infinite size come the patterns that have none: all of these have
the greatest exponent, and the infinite size has the least fraction. -/
theorem lt_of_unsized (infinite : format.size? left = some ⊤)
    (bounded : format.exponent left ≤ format.greatest) (unsized : format.size? right = none) :
    left < right := by
  obtain ⟨great, fraction⟩ := size?_eq_none unsized
  rcases size?_eq_some infinite with ⟨_, finite⟩ | ⟨_, zero, _⟩
  · cases finite
  · by_contra notLess
    rcases Nat.lt_or_eq_of_le (Nat.not_lt.mp notLess) with less | rfl
    · have fields := format.fields_lt less
      omega
    · exact fraction zero

/-! ## Signs -/

/-- A negative sign turns the order of sizes round, the infinite one
included. -/
theorem opposite_lt {lesser greater : WithTop ℚ} (less : lesser < greater) :
    opposite greater < opposite lesser := by
  cases greater with
  | top =>
    obtain ⟨number, rfl⟩ := WithTop.ne_top_iff_exists.mp less.ne
    exact WithBot.bot_lt_coe _
  | coe number =>
    obtain ⟨lesser, rfl⟩ := WithTop.ne_top_iff_exists.mp less.ne_top
    apply WithBot.coe_lt_coe.mpr
    apply WithTop.coe_lt_coe.mpr
    exact neg_lt_neg (WithTop.coe_lt_coe.mp less)

/-- Only an infinite size is infinite with a sign. -/
theorem eq_top_of_signed {negative : Bool} {size : WithTop ℚ}
    (infinite : (if negative then opposite size else size) = ⊤ ∨
      (if negative then opposite size else size) = ⊥) : size = ⊤ := by
  cases size with
  | top => rfl
  | coe number =>
    have finite : ∃ signed : ℚ, (if negative then opposite number else (number : WithTop ℚ)) =
        ((signed : WithTop ℚ) : WithBot (WithTop ℚ)) := by
      cases negative with
      | false => exact ⟨number, rfl⟩
      | true => exact ⟨-number, rfl⟩
    obtain ⟨signed, same⟩ := finite
    rw [same] at infinite
    rcases infinite with top | bottom
    · cases top
    · cases bottom

/-- A pattern is its sign and what is left without it: the sign bit adds half of
the range. -/
theorem toNat_eq (pattern : BitVec format.width) : pattern.toNat = format.unsigned pattern +
    if pattern.msb then 2 ^ (format.exponentWidth + format.fractionWidth) else 0 := by
  have bounded : pattern.toNat < 2 ^ (format.exponentWidth + format.fractionWidth) * 2 := by
    rw [← Nat.pow_succ]
    exact pattern.isLt
  have sign : pattern.msb =
      decide (2 ^ (format.exponentWidth + format.fractionWidth) ≤ pattern.toNat) :=
    BitVec.msb_eq_decide pattern
  rw [sign, unsigned]
  by_cases negative : 2 ^ (format.exponentWidth + format.fractionWidth) ≤ pattern.toNat
  · rw [if_pos (decide_eq_true negative), Nat.mod_eq_sub_mod negative, Nat.mod_eq_of_lt (by omega)]
    omega
  · rw [if_neg (by simpa using negative), Nat.mod_eq_of_lt (Nat.not_le.mp negative), Nat.add_zero]

variable {first second : BitVec format.width} {x y : WithBot (WithTop ℚ)}

/-- Of one sign, sizes are ordered as the patterns, since the sign adds the same
to both. -/
theorem size?_lt_of_signs {size secondSize : WithTop ℚ} (signs : first.msb = second.msb)
    (sized : format.size? (format.unsigned first) = some size)
    (secondSized : format.size? (format.unsigned second) = some secondSize)
    (less : first.toNat < second.toNat) : size < secondSize := by
  rw [toNat_eq first, toNat_eq second, signs] at less
  have unsigned := Nat.lt_of_add_lt_add_right less
  exact size?_lt sized secondSized (exponent_unsigned_le second) unsigned

/-- Where the sign bit is clear, numbers are ordered as their patterns, and each
number is its size. -/
theorem value?_lt (firstClear : first.msb = false) (secondClear : second.msb = false)
    (valued : format.value? first = some x) (secondValued : format.value? second = some y)
    (less : first.toNat < second.toNat) : x < y := by
  obtain ⟨size, sized, rfl⟩ := Option.map_eq_some_iff.mp valued
  obtain ⟨secondSize, secondSized, rfl⟩ := Option.map_eq_some_iff.mp secondValued
  rw [firstClear, secondClear]
  apply WithBot.coe_lt_coe.mpr
  exact size?_lt_of_signs (firstClear.trans secondClear.symm) sized secondSized less

/-- Where the sign bit is set, numbers are ordered against their patterns. The
sizes are still ordered as the patterns, and the sign turns them round. -/
theorem value?_gt (firstSet : first.msb = true) (secondSet : second.msb = true)
    (valued : format.value? first = some x) (secondValued : format.value? second = some y)
    (less : first.toNat < second.toNat) : y < x := by
  obtain ⟨size, sized, rfl⟩ := Option.map_eq_some_iff.mp valued
  obtain ⟨secondSize, secondSized, rfl⟩ := Option.map_eq_some_iff.mp secondValued
  rw [firstSet, secondSet]
  apply opposite_lt
  exact size?_lt_of_signs (firstSet.trans secondSet.symm) sized secondSized less

/-- A pattern with the sign bit clear is less than one with it set, whatever the
two stand for. -/
theorem toNat_lt_of_signs (firstClear : first.msb = false) (secondSet : second.msb = true) :
    first.toNat < second.toNat := by
  rw [toNat_eq first, toNat_eq second, firstClear, secondSet]
  apply Nat.lt_of_lt_of_le _ (Nat.le_add_left _ _)
  exact Nat.mod_lt _ (Nat.two_pow_pos _)

/-- Of one sign, the pattern of the infinity is less than those that stand for
no number. -/
theorem toNat_lt_of_infinite (signs : first.msb = second.msb)
    (infinite : format.value? first = some ⊤ ∨ format.value? first = some ⊥)
    (nothing : format.value? second = none) : first.toNat < second.toNat := by
  have sized : format.size? (format.unsigned first) = some ⊤ := by
    rcases infinite with value | value <;>
      obtain ⟨size, sized, signed⟩ := Option.map_eq_some_iff.mp value
    · rw [sized, eq_top_of_signed (.inl signed)]
    · rw [sized, eq_top_of_signed (.inr signed)]
  have unsized := Option.map_eq_none_iff.mp nothing
  rw [toNat_eq first, toNat_eq second, signs]
  exact Nat.add_lt_add_right (lt_of_unsized sized (exponent_unsigned_le first) unsized) _

end Format

end MessagePack.Ieee
