import MessagePack.Version

/-!
# Components of versions

The arithmetic on versions is checked: it gives the result of the natural
numbers or none. A component is read from the digits of its text by such
arithmetic, one digit after the other. No result on the way is greater than the
last one, so the reading fails for its size only where the whole number is too
large.

The components that a version prints are read back, so the numbers of a release
and the text of its package tell the same version.
-/

namespace MessagePack.Version

/-! ## Checked arithmetic -/

/-- A product is the one of the natural numbers, if it is any. -/
theorem checkedProduct_eq_ok_iff {left right product : UInt32} :
    checkedProduct left right = .ok product ↔ product.toNat = left.toNat * right.toNat := by
  unfold checkedProduct
  split
  · next fits =>
    rw [Except.ok.injEq, ← UInt32.toNat_inj, UInt32.toNat_mul, Nat.mod_eq_of_lt fits]
    exact eq_comm
  · next beyond =>
    have small : product.toNat < UInt32.size := product.toNat_lt
    simp only [reduceCtorEq, false_iff]
    omega

/-- A sum is the one of the natural numbers, if it is any. -/
theorem checkedSum_eq_ok_iff {left right sum : UInt32} :
    checkedSum left right = .ok sum ↔ sum.toNat = left.toNat + right.toNat := by
  unfold checkedSum
  split
  · next fits =>
    rw [Except.ok.injEq, ← UInt32.toNat_inj, UInt32.toNat_add, Nat.mod_eq_of_lt fits]
    exact eq_comm
  · next beyond =>
    have small : sum.toNat < UInt32.size := sum.toNat_lt
    simp only [reduceCtorEq, false_iff]
    omega

/-- A difference is the one of the natural numbers, if nothing is missing for
it. -/
theorem checkedDifference_eq_ok_iff {left right difference : UInt8} :
    checkedDifference left right = .ok difference ↔
      left.toNat = right.toNat + difference.toNat := by
  unfold checkedDifference
  split
  · next fits =>
    rw [Except.ok.injEq, ← UInt8.toNat_inj, UInt8.toNat_sub_of_le _ _ fits]
    rw [UInt8.le_iff_toNat_le] at fits
    omega
  · next short =>
    rw [UInt8.le_iff_toNat_le] at short
    simp only [reduceCtorEq, false_iff]
    omega

/-- Two steps succeed if the first does and the second does from there. -/
theorem bind_eq_ok_iff {α β : Type} {first : Except Overflow α} {second : α → Except Overflow β}
    {result : β} :
    (first >>= second) = .ok result ↔ ∃ value, first = .ok value ∧ second value = .ok result := by
  cases first with
  | error overflow => simp [bind, Except.bind]
  | ok value => simp [bind, Except.bind]

/-! ## Digits -/

/-- The number that the bytes of a decimal text spell behind a number. Nothing
is said of its size, and a byte below the code of zero counts for nothing. -/
def spelled (digits : List UInt8) (start : Nat) : Nat :=
  digits.foldl (fun value byte => value * 10 + (byte.toNat - '0'.toNat)) start

/-- Digits behind a number never make it smaller. This is why no intermediate
result has to be looked at for its size. -/
theorem le_spelled (digits : List UInt8) (start : Nat) : start ≤ spelled digits start := by
  induction digits generalizing start with
  | nil => exact Nat.le_refl start
  | cons byte digits inductionHypothesis =>
    have later := inductionHypothesis (start * 10 + (byte.toNat - '0'.toNat))
    exact Nat.le_trans (by omega) later

/-- A digit is put behind a component exactly if it is not below the code of
zero and the number that comes about fits in 32 bits. -/
theorem appendDigit_eq_ok_iff {value result : UInt32} {byte : UInt8} :
    appendDigit value byte = .ok result ↔ '0'.toNat ≤ byte.toNat ∧
      result.toNat = value.toNat * 10 + (byte.toNat - '0'.toNat) := by
  have zero : '0'.toUInt8.toNat = '0'.toNat := rfl
  simp only [appendDigit, bind_eq_ok_iff, checkedProduct_eq_ok_iff, checkedSum_eq_ok_iff,
    checkedDifference_eq_ok_iff, UInt32.reduceToNat, UInt8.toNat_toUInt32, zero]
  constructor
  · rintro ⟨shifted, shiftedExact, digit, digitExact, whole⟩
    omega
  · rintro ⟨noLess, whole⟩
    have inRange : result.toNat < UInt32.size := result.toNat_lt
    have byteRange : byte.toNat < UInt8.size := byte.toNat_lt
    have shiftedExact : (UInt32.ofNat (value.toNat * 10)).toNat = value.toNat * 10 :=
      UInt32.toNat_ofNat_of_lt' (by omega)
    have digitExact : (UInt8.ofNat (byte.toNat - '0'.toNat)).toNat = byte.toNat - '0'.toNat :=
      UInt8.toNat_ofNat_of_lt' (by omega)
    refine ⟨_, shiftedExact, UInt8.ofNat (byte.toNat - '0'.toNat), ?_, ?_⟩ <;> omega

/-- A component is read exactly from bytes of which none is below the code of
zero and that spell its number.

Proof: by induction on the bytes, behind a number of any size. One byte is read
as `appendDigit_eq_ok_iff` says. What comes of it is no greater than the number
in the end, so a component that fits has only intermediate results that fit. -/
theorem foldlM_appendDigit_eq_ok_iff {digits : List UInt8} {start value : UInt32} :
    digits.foldlM appendDigit start = .ok value ↔
      (∀ byte ∈ digits, '0'.toNat ≤ byte.toNat) ∧ value.toNat = spelled digits start.toNat := by
  induction digits generalizing start with
  | nil =>
    have same : start = value ↔ value.toNat = start.toNat := by
      rw [UInt32.toNat_inj]
      exact eq_comm
    simpa [spelled, pure, Except.pure] using same
  | cons byte digits inductionHypothesis =>
    rw [List.foldlM_cons, bind_eq_ok_iff, List.forall_mem_cons]
    simp only [appendDigit_eq_ok_iff, inductionHypothesis]
    constructor
    · rintro ⟨next, ⟨noLess, nextExact⟩, others, whole⟩
      rw [nextExact] at whole
      exact ⟨⟨noLess, others⟩, whole⟩
    · rintro ⟨⟨noLess, others⟩, whole⟩
      have inRange : value.toNat < UInt32.size := value.toNat_lt
      have smaller := le_spelled digits (start.toNat * 10 + (byte.toNat - '0'.toNat))
      have total : value.toNat =
          spelled digits (start.toNat * 10 + (byte.toNat - '0'.toNat)) := whole
      have nextExact :
          (UInt32.ofNat (start.toNat * 10 + (byte.toNat - '0'.toNat))).toNat =
            start.toNat * 10 + (byte.toNat - '0'.toNat) :=
        UInt32.toNat_ofNat_of_lt' (by omega)
      exact ⟨_, ⟨noLess, nextExact⟩, others, by rw [nextExact]; exact total⟩

/-- A digit takes one byte in a text, which is its code. -/
theorem utf8EncodeChar_digit {digit : Char} (numeric : digit.isDigit = true) :
    ∃ byte : UInt8, String.utf8EncodeChar digit = [byte] ∧ byte.toNat = digit.toNat := by
  have ascii : digit.toNat ≤ 57 := by
    simp only [Char.isDigit, Bool.and_eq_true, decide_eq_true_eq] at numeric
    exact numeric.2
  have oneByte : digit.utf8Size = 1 := by
    rw [Char.utf8Size_eq_one_iff, UInt32.le_iff_toNat_le]
    exact Nat.le_trans ascii (by decide)
  refine ⟨_, String.utf8EncodeChar_eq_singleton oneByte, ?_⟩
  exact Nat.mod_eq_of_lt (Nat.lt_of_le_of_lt ascii (by decide))

/-- Decimal digits are bytes that spell the same number as the digits. -/
theorem spelled_digits {digits : List Char} (numeric : ∀ digit ∈ digits, digit.isDigit = true)
    (start : Nat) :
    spelled (digits.flatMap String.utf8EncodeChar) start = Nat.ofDigitChars 10 digits start := by
  induction digits generalizing start with
  | nil => rfl
  | cons digit digits inductionHypothesis =>
    obtain ⟨first, later⟩ := List.forall_mem_cons.mp numeric
    obtain ⟨byte, oneByte, code⟩ := utf8EncodeChar_digit first
    rw [List.flatMap_cons, oneByte, Nat.ofDigitChars_cons, ← inductionHypothesis later]
    simp [spelled, code, Nat.mul_comm]

/-- No digit is below the code of zero. -/
theorem zero_le_digits {digits : List Char} (numeric : ∀ digit ∈ digits, digit.isDigit = true) :
    ∀ byte ∈ digits.flatMap String.utf8EncodeChar, '0'.toNat ≤ byte.toNat := by
  intro byte member
  obtain ⟨digit, among, inDigit⟩ := List.mem_flatMap.mp member
  obtain ⟨code, oneByte, same⟩ := utf8EncodeChar_digit (numeric digit among)
  rw [oneByte, List.mem_singleton] at inDigit
  have noLess := numeric digit among
  simp only [Char.isDigit, Bool.and_eq_true, decide_eq_true_eq] at noLess
  rw [inDigit, same]
  exact noLess.1

/-- Every component is read back from the text that a version prints for it.

Proof: the text has decimal digits only, each of them one byte. So the bytes
spell what the digits do, and that is the component, whose size is no
obstacle. -/
theorem component_toString (value : UInt32) :
    component ((toString value).toList.flatMap String.utf8EncodeChar) = .ok value := by
  have digits : (toString value).toList = Nat.toDigits 10 value.toNat := Nat.toList_repr
  have numeric (digit : Char) (member : digit ∈ Nat.toDigits 10 value.toNat) :
      digit.isDigit = true := Nat.isDigit_of_mem_toDigits (by decide) (by decide) member
  rw [digits, component, foldlM_appendDigit_eq_ok_iff, spelled_digits numeric]
  exact ⟨zero_le_digits numeric, Nat.ofDigitChars_ten_toDigits.symm⟩

/-- The texts of the package spell the components of the current release. -/
example :
    component [0x30] = .ok current.major ∧ component [0x31] = .ok current.minor ∧
      component [0x30] = .ok current.patch :=
  ⟨rfl, rfl, rfl⟩

end MessagePack.Version
