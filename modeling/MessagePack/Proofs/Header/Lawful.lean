import MessagePack.Header.Order

/-!
# The order of headers is lawful

Headers are compared by their keys alone, lexicographically by family and bits.
So the comparison is transitive and turns round when its sides are exchanged,
and it calls two headers equal exactly if they have one key. Headers with one
key can stand for each other in any comparison and feed the same to a hash
function.
-/

namespace MessagePack

/-- The order of kinds is that of their places, so it is lawful. -/
instance : Std.TransOrd Kind := inferInstanceAs (Std.TransCmp (compareOn Kind.number))

/-- The order tells kinds apart. -/
instance : Std.LawfulEqOrd Kind where
  eq_of_compare same := Kind.number_injective (Std.LawfulEqOrd.eq_of_compare same)

namespace Header

variable {left right : Header}

/-- The comparison is lexicographic, so it is lawful. -/
instance : Std.TransCmp Header.compare :=
  inferInstanceAs (Std.TransCmp (compareLex
    (compareOn fun header : Header => header.key.family) (compareOn fun header => header.key.bits)))

/-- Keys are equal exactly if their families and their bits are. -/
theorem Key.eq_iff {left right : Key} :
    left = right ↔ left.family = right.family ∧ left.bits = right.bits := by
  cases left
  cases right
  rw [Key.mk.injEq]

/-- Headers compare as equal exactly if they have one key, since the orders of
families and of bits tell theirs apart. -/
theorem compare_eq_iff : left.compare right = .eq ↔ left.key = right.key := by
  rw [compare, Key.compare, Ordering.then_eq_eq, Std.LawfulEqOrd.compare_eq_iff_eq,
    Std.LawfulEqOrd.compare_eq_iff_eq, Key.eq_iff]

/-- Headers are the same exactly if they have one key. Sameness asks whether the
comparison calls them equal. -/
theorem same_iff : left.same right = true ↔ left.key = right.key := by
  rw [same, beq_iff_eq, compare_eq_iff]

/-- Headers are not the same exactly if they have two different keys. -/
theorem same_eq_false_iff : left.same right = false ↔ left.key ≠ right.key := by
  rw [Bool.eq_false_iff, Ne, same_iff]

end Header

end MessagePack
