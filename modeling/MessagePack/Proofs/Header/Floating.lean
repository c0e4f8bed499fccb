import MessagePack.Proofs.Header.Consistency
import MessagePack.Proofs.Header.Reference
import MessagePack.Proofs.Ieee.Value

/-!
# Patterns in the order of headers

Headers of one floating-point format are ordered by their patterns as numbers
without signs. For the numbers that the patterns stand for this is their order
where the sign bits are clear, and the reverse of it where they are set. Every
pattern with the sign bit set comes behind all with it clear, so that a negative
zero is greater than the infinity, and in each half the patterns that stand for
no number come last.
-/

namespace MessagePack.Header

open Ieee

variable {format : Format} {left right : BitVec format.width}

/-- What the order of two patterns says of the numbers that they stand for. The
patterns are those of any format, and infinities count as the greatest and the
least of all numbers. -/
structure FollowsNumbers (format : Format) (left right : BitVec format.width) (order : Ordering) :
    Prop where
  /-- With clear sign bits numbers and infinities are in their order. -/
  clear : left.msb = false → right.msb = false → ∀ x y, format.value? left = some x →
    format.value? right = some y → order = cmp x y
  /-- With sign bits set they are in the reverse order. -/
  set : left.msb = true → right.msb = true → ∀ x y, format.value? left = some x →
    format.value? right = some y → order = cmp y x
  /-- A clear sign bit comes before one that is set, whatever the patterns stand
  for. -/
  signs : left.msb = false → right.msb = true → order = .lt
  /-- Behind the infinity of a sign come the patterns of that sign that stand
  for no number. -/
  infinite : left.msb = right.msb → format.value? left = some ⊤ ∨ format.value? left = some ⊥ →
    format.value? right = none → order = .lt
  /-- Patterns are equal only if all bits agree. -/
  same : order = .eq ↔ left = right

/-- A map that keeps the order of two numbers keeps their comparison: the three
cases of the one are those of the other. -/
theorem compare_eq_cmp {α : Type} [LinearOrder α] {first second : Nat} {x y : α}
    (less : first < second → x < y) (equal : first = second → x = y)
    (greater : second < first → y < x) : Ord.compare first second = cmp x y := by
  rcases Nat.lt_trichotomy first second with below | same | above
  · rw [Nat.compare_eq_lt.mpr below, (cmp_eq_lt_iff x y).mpr (less below)]
  · rw [Nat.compare_eq_eq.mpr same, (cmp_eq_eq_iff x y).mpr (equal same)]
  · rw [Nat.compare_eq_gt.mpr above, (cmp_eq_gt_iff x y).mpr (greater above)]

/-- Equal patterns stand for the same number, or for none. -/
theorem value_eq {x y : WithBot (WithTop ℚ)} (valued : format.value? left = some x)
    (rightValued : format.value? right = some y) (same : left.toNat = right.toNat) : x = y := by
  rw [BitVec.eq_of_toNat_eq same, rightValued] at valued
  exact (Option.some.inj valued).symm

/-- The order of patterns as numbers without signs follows the numbers that they
stand for. Each clause is one about the patterns of a format, with a comparison
in place of an order. -/
theorem compare_followsNumbers (left right : BitVec format.width) :
    FollowsNumbers format left right (Ord.compare left.toNat right.toNat) where
  clear leftClear rightClear _ _ valued rightValued :=
    compare_eq_cmp (Format.value?_lt leftClear rightClear valued rightValued)
      (value_eq valued rightValued) (Format.value?_lt rightClear leftClear rightValued valued)
  set leftSet rightSet _ _ valued rightValued :=
    compare_eq_cmp (Format.value?_gt leftSet rightSet valued rightValued)
      (fun same => (value_eq valued rightValued same).symm)
      (Format.value?_gt rightSet leftSet rightValued valued)
  signs leftClear rightSet :=
    Nat.compare_eq_lt.mpr (Format.toNat_lt_of_signs leftClear rightSet)
  infinite signs valued nothing :=
    Nat.compare_eq_lt.mpr (Format.toNat_lt_of_infinite signs valued nothing)
  same := by
    rw [Nat.compare_eq_eq]
    exact BitVec.toNat_inj

/-- Headers of one rank compare as the numbers that order them within it, and so
do numbers without signs as they are or as integers. -/
theorem compare_of_rank {left right : Header} (ranks : left.kind.rank = right.kind.rank)
    {first second : Nat} (number : left.magnitude = first) (other : right.magnitude = second) :
    left.compare right = Ord.compare first second := by
  rw [compare_eq_reference, reference, Nat.compare_eq_eq.mpr ranks, Ordering.eq_then, number, other,
    ← cmp_eq_compare, ← cmp_eq_compare]
  exact Nat.strictMono_cast.cmp_map_eq first second

/-- Headers that are ordered within their rank by two patterns follow the
numbers that these stand for, and are the same only if the patterns are equal.
This is the common part of the two formats. -/
theorem headers_followNumbers {first second : Header}
    (ranks : first.kind.rank = second.kind.rank) (pattern : first.magnitude = left.toNat)
    (other : second.magnitude = right.toNat) :
    FollowsNumbers format left right (first.compare second) ∧
      (first.same second = true ↔ left = right) := by
  have follows := compare_followsNumbers left right
  rw [same_iff_compare, compare_of_rank ranks pattern other]
  exact ⟨follows, follows.same⟩

/-- The order of headers of either floating-point format follows the numbers
that the patterns stand for: it is their order where the sign bits are clear,
the reverse of it where they are set, puts the patterns with clear sign bits
first, and the infinity of each sign before the patterns of that sign that stand
for no number. Two are the same only if all their bits agree.

Proof: a header of either format has the pattern as its number within the rank
of the format, so it compares as the pattern without a sign, and that order
follows the numbers. -/
theorem patterns_follow_numbers :
    (∀ left right : Binary32,
      FollowsNumbers .binary32 left.bits.toBitVec right.bits.toBitVec
        ((float left).compare (float right)) ∧
      ((float left).same (float right) = true ↔ left = right)) ∧
    ∀ left right : Binary64,
      FollowsNumbers .binary64 left.bits.toBitVec right.bits.toBitVec
        ((double left).compare (double right)) ∧
      ((double left).same (double right) = true ↔ left = right) := by
  constructor
  · rintro ⟨left⟩ ⟨right⟩
    have ranks : (float ⟨left⟩).kind.rank = (float ⟨right⟩).kind.rank := rfl
    obtain ⟨follows, same⟩ : FollowsNumbers .binary32 left.toBitVec right.toBitVec _ ∧ _ :=
      headers_followNumbers ranks rfl rfl
    rw [Binary32.mk.injEq]
    exact ⟨follows, same.trans UInt32.toBitVec_inj⟩
  · rintro ⟨left⟩ ⟨right⟩
    have ranks : (double ⟨left⟩).kind.rank = (double ⟨right⟩).kind.rank := rfl
    obtain ⟨follows, same⟩ : FollowsNumbers .binary64 left.toBitVec right.toBitVec _ ∧ _ :=
      headers_followNumbers ranks rfl rfl
    rw [Binary64.mk.injEq]
    exact ⟨follows, same.trans UInt64.toBitVec_inj⟩

/-- The greatest subnormal number comes before the least normal one, as their
values say, and less than minus one before greater than it. Negative zero comes
behind the infinity, and a signalling NaN behind the infinity of its sign. -/
theorem subnormals_below_normals :
    Format.binary32.value? 0x007FFFFF#32 = some (8388607 / 2 ^ 149 : ℚ) ∧
    Format.binary32.value? 0x00800000#32 = some (8388608 / 2 ^ 149 : ℚ) ∧
    (float ⟨0x007FFFFF⟩).compare (float ⟨0x00800000⟩) = .lt ∧
    Format.binary64.value? 0xC004000000000000#64 = some (-5 / 2 : ℚ) ∧
    Format.binary64.value? 0xBFF0000000000000#64 = some (-1 : ℚ) ∧
    (double ⟨0xC004000000000000⟩).compare (double ⟨0xBFF0000000000000⟩) = .gt ∧
    (double ⟨0x7FF0000000000000⟩).compare (double ⟨0x8000000000000000⟩) = .lt ∧
    (float ⟨0xFF800000⟩).compare (float ⟨0xFF800001⟩) = .lt := by
  obtain ⟨singles, doubles⟩ := patterns_follow_numbers
  have subnormal : Format.binary32.value? 0x007FFFFF#32 = some (8388607 / 2 ^ 149 : ℚ) := by
    decide +kernel
  have normal : Format.binary32.value? 0x00800000#32 = some (8388608 / 2 ^ 149 : ℚ) := by
    decide +kernel
  have lower : Format.binary64.value? 0xC004000000000000#64 = some (-5 / 2 : ℚ) := by
    decide +kernel
  have upper : Format.binary64.value? 0xBFF0000000000000#64 = some (-1 : ℚ) := by
    decide +kernel
  refine ⟨subnormal, normal, ?_, lower, upper, ?_, ?_, ?_⟩
  · have order := (singles ⟨0x007FFFFF⟩ ⟨0x00800000⟩).1.clear rfl rfl _ _ subnormal normal
    rw [order, cmp_eq_lt_iff]
    decide +kernel
  · have order := (doubles ⟨0xC004000000000000⟩ ⟨0xBFF0000000000000⟩).1.set rfl rfl _ _ lower upper
    rw [order, cmp_eq_gt_iff]
    decide +kernel
  · exact (doubles ⟨0x7FF0000000000000⟩ ⟨0x8000000000000000⟩).1.signs rfl rfl
  · apply (singles ⟨0xFF800000⟩ ⟨0xFF800001⟩).1.infinite rfl
    · exact .inr (by decide +kernel)
    · decide +kernel

end MessagePack.Header
