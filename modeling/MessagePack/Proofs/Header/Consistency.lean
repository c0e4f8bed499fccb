import MessagePack.Proofs.Header.Lawful

/-!
# Equality, operators and hash go with the order

The comparison of headers is a total order in which different headers can be
equal. Whatever else tells headers apart or puts them in order is settled by it.
Sameness is the equality of the order and can be replaced in every comparison,
the operators go by one comparison of their arguments, and headers feed the same
to a hash function exactly if they are the same.
-/

namespace MessagePack.Header

variable {left right : Header}

/-- Where no header comes after the next one the first does not come after the
last, and it comes before the last if one of them comes before the next. This is
the transitivity of a lawful comparison, in the words of its answers. -/
theorem compare_trans {first second third : Header} (below : first.compare second ≠ .gt)
    (above : second.compare third ≠ .gt) :
    first.compare third ≠ .gt ∧
      (first.compare second = .lt ∨ second.compare third = .lt → first.compare third = .lt) := by
  have lower := Ordering.isLE_iff_ne_gt.mpr below
  have upper := Ordering.isLE_iff_ne_gt.mpr above
  refine ⟨Ordering.isLE_iff_ne_gt.mp (Std.TransCmp.isLE_trans lower upper), ?_⟩
  rintro (strict | strict)
  · exact Std.TransCmp.lt_of_lt_of_isLE strict upper
  · exact Std.TransCmp.lt_of_isLE_of_lt lower strict

/-- Headers are the same exactly if they compare as equal, by definition. -/
theorem same_iff_compare : left.same right = true ↔ left.compare right = .eq := beq_iff_eq

/-- The same headers compare alike with every other, on either side, so that one
can stand for the other. -/
theorem compare_congr (same : left.same right = true) (other : Header) :
    left.compare other = right.compare other ∧ other.compare left = other.compare right := by
  have equal := same_iff_compare.mp same
  exact ⟨Std.TransCmp.congr_left equal, Std.TransCmp.congr_right equal⟩

/-- To be the same is to have one key, and so an equivalence. -/
theorem same_equivalence : Equivalence fun left right : Header => left.same right = true where
  refl _ := same_iff.mpr rfl
  symm same := same_iff.mpr (same_iff.mp same).symm
  trans first second := same_iff.mpr ((same_iff.mp first).trans (same_iff.mp second))

/-- Headers feed the same to a hash function exactly if they are the same. What
is fed are the two parts of the key, with the family as its place among the
kinds, which tells kinds apart. -/
theorem hashInput_eq_iff : left.hashInput = right.hashInput ↔ left.same right = true := by
  have number : left.key.family.number = right.key.family.number ↔
      left.key.family = right.key.family := ⟨Kind.number_injective, congrArg Kind.number⟩
  rw [same_iff, Key.eq_iff, hashInput, hashInput, Prod.mk.injEq, number]

/-- What the operators answer for two headers if these are in the given order.
Smallest and greatest are told by being one of the two and by coming before or
after both. -/
structure Operators (left right : Header) (order : Ordering) : Prop where
  same : left.same right = true ↔ order = .eq
  equal : left == right ↔ order = .eq
  unequal : left != right ↔ order ≠ .eq
  less : left < right ↔ order = .lt
  notGreater : left ≤ right ↔ order ≠ .gt
  greater : left > right ↔ order = .gt
  notLess : left ≥ right ↔ order ≠ .lt
  total : Ord.compare left right = order
  partially : left.partialCompare right = some order
  least : (min left right = left ∨ min left right = right) ∧
    min left right ≤ left ∧ min left right ≤ right
  greatest : (max left right = left ∨ max left right = right) ∧
    left ≤ max left right ∧ right ≤ max left right
  /-- Of the same headers the first is the lesser and the second the greater. -/
  tie : order = .eq → min left right = left ∧ max left right = right

/-- No header comes after itself. -/
theorem not_greater_self (header : Header) : header ≤ header :=
  Ordering.isLE_iff_ne_gt.mp Std.ReflCmp.isLE_rfl

/-- If one header comes after another, the other does not come after it. -/
theorem not_greater_of_greater (greater : left.compare right = .gt) : right ≤ left := by
  have less : right.compare left = .lt := Std.OrientedCmp.gt_iff_lt.mp greater
  exact Ordering.isLE_iff_ne_gt.mp (Ordering.isLE_of_eq_lt less)

/-- The operators go by the comparison: whatever they answer for two headers is
settled by how these compare. -/
theorem operators (left right : Header) : Operators left right (left.compare right) where
  same := same_iff_compare
  equal := same_iff_compare
  unequal := by
    rw [bne, Bool.not_eq_true', ← Bool.not_eq_true]
    exact not_congr same_iff_compare
  less := Iff.rfl
  notGreater := Iff.rfl
  greater := Std.OrientedCmp.gt_iff_lt.symm
  notLess := not_congr Std.OrientedCmp.gt_iff_lt
  total := rfl
  partially := rfl
  least := by
    by_cases greater : left.compare right = .gt
    · have second : min left right = right := if_pos greater
      rw [second]
      exact ⟨.inr rfl, not_greater_of_greater greater, not_greater_self right⟩
    · have first : min left right = left := if_neg greater
      rw [first]
      exact ⟨.inl rfl, not_greater_self left, greater⟩
  greatest := by
    by_cases greater : left.compare right = .gt
    · have first : max left right = left := if_pos greater
      rw [first]
      exact ⟨.inl rfl, not_greater_self left, not_greater_of_greater greater⟩
    · have second : max left right = right := if_neg greater
      rw [second]
      exact ⟨.inr rfl, greater, not_greater_self right⟩
  tie equal := by
    have notGreater : left.compare right ≠ .gt := by
      rw [equal]
      decide
    exact ⟨if_neg notGreater, if_neg notGreater⟩

/-- The comparison is a total order: it calls every header equal to itself,
turns round when its arguments are exchanged and is transitive. Sameness is an
equivalence that every comparison respects, the operators go by the comparison,
and headers feed the same to a hash function exactly if they are the same.

Proof: the comparison is lexicographic in two lawful orders, from which come the
laws of a total order and the exchange of the same headers. Sameness is having
one key, and the operators and the input of a hash function are settled by the
comparison and the key. -/
theorem order_consistent :
    (∀ header : Header, header.compare header = .eq) ∧
    (∀ left right : Header, right.compare left = (left.compare right).swap) ∧
    (∀ first second third : Header, first.compare second ≠ .gt → second.compare third ≠ .gt →
      first.compare third ≠ .gt ∧
        (first.compare second = .lt ∨ second.compare third = .lt → first.compare third = .lt)) ∧
    (Equivalence fun left right : Header => left.same right = true) ∧
    (∀ left right other : Header, left.same right = true →
      left.compare other = right.compare other ∧ other.compare left = other.compare right) ∧
    (∀ left right : Header, Operators left right (left.compare right)) ∧
    (∀ left right : Header, left.hashInput = right.hashInput ↔ left.same right = true) := by
  refine ⟨fun _ => Std.ReflCmp.compare_self, fun _ _ => Std.OrientedCmp.eq_swap, ?_,
    same_equivalence, ?_, operators, fun _ _ => hashInput_eq_iff⟩
  · intro first second third below above
    exact compare_trans below above
  · intro left right other same
    exact compare_congr same other

/-- A NaN comes before all integers, and an integer with a sign may be replaced
by the one without. -/
theorem five_and_five :
    (int (-1)).compare (double ⟨0x7FF8000000000001⟩) = .gt ∧
    (int (-1)).compare (int 5) = .lt ∧ (int (-1)).compare (uint 5) = .lt ∧
    (double ⟨0x7FF8000000000001⟩).compare (uint 5) = .lt := by
  obtain ⟨_, swapped, transitive, _, congruent, _⟩ := order_consistent
  have below : (double ⟨0x7FF8000000000001⟩).compare (int (-1)) = .lt := by decide
  have above : (int (-1)).compare (int 5) = .lt := by decide
  have replaced : (int (-1)).compare (uint 5) = .lt :=
    (congruent (int 5) (uint 5) (int (-1)) (by decide)).2.symm.trans above
  refine ⟨?_, above, replaced, ?_⟩
  · rw [swapped, below]
    rfl
  · exact (transitive _ _ _ (by decide) (by decide)).2 (.inl below)

end MessagePack.Header
