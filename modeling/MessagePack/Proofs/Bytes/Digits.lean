import Mathlib
import MessagePack.Bytes.BigEndian

/-!
# Numbers and their big-endian digits

In a fixed width, bytes and numbers below 256 to the power of that width stand
for each other. Each digit has a value of its own, and the number that two
stretches of bytes spell together is made of the ones that they spell alone.
-/

namespace MessagePack.Bytes.BigEndian

/-- A last byte is the lowest digit: all others count for 256 times as much as
without it. -/
theorem number_concat (bytes : List UInt8) (byte : UInt8) :
    number (bytes ++ [byte]) = number bytes * 256 + byte.toNat :=
  List.foldl_append

/-- Two stretches of bytes spell the first number moved up by the width of the
second, and the second. -/
theorem number_append (first second : List UInt8) :
    number (first ++ second) = number first * 256 ^ second.length + number second := by
  induction second using List.reverseRecOn with
  | nil => simp [number]
  | append_singleton rest byte inductionHypothesis =>
    rw [← List.append_assoc, number_concat, number_concat, inductionHypothesis, List.length_append,
      List.length_singleton, Nat.pow_succ]
    ring

/-- So many bytes spell no larger number than their count has room for. -/
theorem number_lt (bytes : List UInt8) : number bytes < 256 ^ bytes.length := by
  induction bytes using List.reverseRecOn with
  | nil => exact Nat.one_pos
  | append_singleton rest byte inductionHypothesis =>
    have digit : byte.toNat < 256 := byte.toNat_lt
    rw [number_concat, List.length_append, List.length_singleton, Nat.pow_succ]
    omega

/-- Bytes spell the number that has them as digits, the last byte being the
lowest. -/
theorem number_eq_ofDigits (bytes : List UInt8) :
    number bytes = Nat.ofDigits 256 (bytes.map UInt8.toNat).reverse := by
  induction bytes using List.reverseRecOn with
  | nil => rfl
  | append_singleton rest byte inductionHypothesis =>
    rw [number_concat, inductionHypothesis, List.map_append, List.reverse_append]
    simp only [List.map_singleton, List.reverse_singleton, List.singleton_append]
    rw [Nat.ofDigits_cons]
    ring

/-- The digits of a number spell what of it fits the width. A number that is
less than the bound of the width is spelled as it is. -/
theorem number_digits (width value : Nat) : number (digits width value) = value % 256 ^ width := by
  induction width generalizing value with
  | zero => exact (Nat.mod_one value).symm
  | succ width inductionHypothesis =>
    have digit : (UInt8.ofNat value).toNat = value % 256 := UInt8.toNat_ofNat'
    rw [digits, number_concat, inductionHypothesis, digit, Nat.pow_succ, Nat.mul_comm (256 ^ width),
      Nat.mod_mul]
    omega

/-- Bytes are the digits of the number that they spell, in their own width. With
`number_digits` the two are inverse to each other.

Proof: by induction on the bytes from the last one on, which is the remainder of
the number and leaves the others as the quotient. -/
theorem digits_number (bytes : List UInt8) : digits bytes.length (number bytes) = bytes := by
  induction bytes using List.reverseRecOn with
  | nil => rfl
  | append_singleton rest byte inductionHypothesis =>
    have digit : byte.toNat < 256 := byte.toNat_lt
    have upper : (number rest * 256 + byte.toNat) / 256 = number rest := by omega
    have lowest : UInt8.ofNat (number rest * 256 + byte.toNat) = byte := by
      apply UInt8.toNat_inj.mp
      rw [UInt8.toNat_ofNat']
      omega
    rw [number_concat, List.length_append, List.length_singleton, digits, upper, lowest,
      inductionHypothesis]

/-- The digit at a place is what a division by the weight of the place
leaves, in base 256. The weight falls from the first place to the last, where
it is one. -/
theorem digits_getElem? {width place : Nat} (value : Nat) (within : place < width) :
    (digits width value)[place]? = some (UInt8.ofNat (value / 256 ^ (width - 1 - place))) := by
  induction width generalizing value with
  | zero => exact absurd within (Nat.not_lt_zero place)
  | succ width inductionHypothesis =>
    rw [digits]
    by_cases last : place = width
    · subst last
      simp
    · have inside : place < width := by omega
      have weight : width + 1 - 1 - place = width - 1 - place + 1 := by omega
      rw [List.getElem?_append_left (by rw [length_digits]; exact inside),
        inductionHypothesis (value / 256) inside, weight, Nat.pow_succ', Nat.div_div_eq_div_mul]

end MessagePack.Bytes.BigEndian
