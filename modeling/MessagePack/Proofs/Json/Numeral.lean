import MessagePack.Json.Numeral

/-!
# How numbers are written

A number has digits before the point, without a zero in front of others. A minus
may stand before them, and a fraction and a power of ten may follow. Whatever a
number is written with is split off as its parts if nothing behind it goes on
with it. A natural number is written by its decimal digits.
-/

namespace MessagePack.Json.Numeral

/-! ## Ways to write a number -/

/-- A character behind the digits of a number goes on with it: a digit, a point
or the letter of a power of ten. -/
def continues (char : Char) : Bool :=
  char.isDigit || char == '.' || char == 'e' || char == 'E'

/-- A character that goes on with no number is none of these four, each for
itself. -/
theorem continues_eq_false {char : Char} :
    continues char = false ↔
      char.isDigit = false ∧ char ≠ '.' ∧ char ≠ 'e' ∧ char ≠ 'E' := by
  simp [continues, and_assoc]

/-- A text that goes on with no number before it, because it is empty or by its
first character. -/
def Stops (rest : List Char) : Prop := ∀ char, rest.head? = some char → continues char = false

/-- A run of at least one digit. -/
structure IsDigits (digits : List Char) : Prop where
  some : digits ≠ []
  numeric : ∀ digit ∈ digits, digit.isDigit = true

/-- Digits before the point, without a zero in front of others. A zero alone is
a number. -/
structure IsWhole (digits : List Char) : Prop extends IsDigits digits where
  unpadded : ∀ second others, digits ≠ '0' :: second :: others

/-- A text is a way to write the sign of a number: nothing, or a minus. -/
inductive WritesSign : Bool → List Char → Prop where
  | none : WritesSign false []
  | minus : WritesSign true ['-']

/-- A text is a way to write the digits behind the point, if there is one. -/
inductive WritesFraction : List Char → List Char → Prop where
  | none : WritesFraction [] []
  | point {digits : List Char} (run : IsDigits digits) : WritesFraction digits ('.' :: digits)

/-- A text is a way to write the sign of a power of ten. Unlike the sign of a
number it may be a plus. -/
inductive WritesPowerSign : Bool → List Char → Prop where
  | none : WritesPowerSign false []
  | plus : WritesPowerSign false ['+']
  | minus : WritesPowerSign true ['-']

/-- A text is a way to write a power of ten, in a letter of either size. Its
digits may have zeros in front. -/
inductive WritesExponent : Option Int → List Char → Prop where
  | none : WritesExponent none []
  | power {letter : Char} {negative : Bool} {sign digits : List Char}
    (marked : letter = 'e' ∨ letter = 'E') (signed : WritesPowerSign negative sign)
    (run : IsDigits digits) :
    WritesExponent
      (some (if negative then -Nat.ofDigitChars 10 digits 0 else Nat.ofDigitChars 10 digits 0))
      (letter :: (sign ++ digits))

/-- A text is a way to write a number: the parts of the number one after the
other, each in some way of its own. -/
inductive Writes : Numeral → List Char → Prop where
  | intro {negative : Bool} {whole fraction sign point power : List Char} {exponent : Option Int}
    (signed : WritesSign negative sign) (before : IsWhole whole)
    (behind : WritesFraction fraction point) (scaled : WritesExponent exponent power) :
    Writes ⟨negative, whole, fraction, exponent⟩ (sign ++ (whole ++ (point ++ power)))

/-! ## Splitting a number off -/

/-- A run of digits begins with a digit. -/
theorem IsDigits.exists_cons {digits : List Char} (run : IsDigits digits) :
    ∃ digit others, digits = digit :: others ∧ digit.isDigit = true := by
  obtain ⟨digit, others, rfl⟩ := List.exists_cons_of_ne_nil run.some
  exact ⟨digit, others, rfl, run.numeric digit List.mem_cons_self⟩

/-- A run of digits ends where no digit follows, and is then split off whole. -/
theorem scanDigits_append {digits rest : List Char} (run : IsDigits digits)
    (ends : ∀ char, rest.head? = some char → char.isDigit = false) :
    scanDigits (digits ++ rest) = .ok (digits, rest) := by
  have stops : rest.takeWhile Char.isDigit = [] ∧ rest.dropWhile Char.isDigit = rest := by
    cases rest with
    | nil => exact ⟨rfl, rfl⟩
    | cons char rest => simp [ends char rfl]
  rw [scanDigits, List.takeWhile_append_of_pos run.numeric,
    List.dropWhile_append_of_pos run.numeric, stops.1, stops.2, List.append_nil]
  simp [run.some]

/-- Digits without a zero in front of them are those before the point, where no
digit follows them. -/
theorem scanWhole_append {digits rest : List Char} (whole : IsWhole digits)
    (ends : ∀ char, rest.head? = some char → char.isDigit = false) :
    scanWhole (digits ++ rest) = .ok (digits, rest) := by
  rw [scanWhole, scanDigits_append whole.toIsDigits ends]
  split
  · rename_i second others _ same
    obtain ⟨zeroFirst, _⟩ := Prod.mk.inj (Except.ok.inj same)
    exact absurd zeroFirst (whole.unpadded second others)
  · rfl

/-- A sign before a digit is the one that is written. With none written, the
digit is no minus. -/
theorem scanMinus_append {negative : Bool} {sign digits : List Char}
    (signed : WritesSign negative sign) (run : IsDigits digits) (rest : List Char) :
    scanMinus (sign ++ (digits ++ rest)) = (negative, digits ++ rest) := by
  cases signed with
  | minus => rfl
  | none =>
    obtain ⟨digit, others, rfl, numeric⟩ := run.exists_cons
    rw [List.nil_append, List.cons_append]
    unfold scanMinus
    split
    · rename_i same
      rw [(List.cons.inj same).1] at numeric
      cases numeric
    · rfl

/-- A fraction ends where no digit follows, and there is none where no point
follows. -/
theorem scanFraction_append {fraction point rest : List Char}
    (behind : WritesFraction fraction point)
    (ends : ∀ char, rest.head? = some char → char.isDigit = false ∧ char ≠ '.') :
    scanFraction (point ++ rest) = .ok (fraction, rest) := by
  cases behind with
  | point run => exact scanDigits_append run fun char first => (ends char first).1
  | none =>
    rw [List.nil_append]
    unfold scanFraction
    split
    · exact absurd rfl (ends '.' rfl).2
    · rfl

/-- The sign of a power of ten is the one that is written before its digits. -/
theorem scanSign_append {negative : Bool} {sign digits : List Char}
    (signed : WritesPowerSign negative sign) (run : IsDigits digits) (rest : List Char) :
    scanSign (sign ++ (digits ++ rest)) = (negative, digits ++ rest) := by
  cases signed with
  | plus | minus => rfl
  | none =>
    obtain ⟨digit, others, rfl, numeric⟩ := run.exists_cons
    rw [List.nil_append, List.cons_append]
    unfold scanSign
    split
    case h_3 => rfl
    all_goals
      rename_i same
      rw [(List.cons.inj same).1] at numeric
      cases numeric

/-- A power of ten is split off as it is written, and there is none where
neither letter follows. -/
theorem scanExponent_append {exponent : Option Int} {power rest : List Char}
    (scaled : WritesExponent exponent power) (stops : Stops rest) :
    scanExponent (power ++ rest) = .ok (exponent, rest) := by
  cases scaled with
  | none =>
    cases rest with
    | nil => rfl
    | cons char rest =>
      obtain ⟨_, _, lower, upper⟩ := continues_eq_false.mp (stops char rfl)
      rw [List.nil_append, scanExponent, if_neg (not_or.mpr ⟨lower, upper⟩)]
  | power marked signed run =>
    have ends (char : Char) (first : rest.head? = some char) : char.isDigit = false :=
      (continues_eq_false.mp (stops char first)).1
    rw [List.cons_append, scanExponent, if_pos marked, List.append_assoc]
    simp only [scanSign_append signed run, scanDigits_append run ends]
    rfl

/-- No digit or point begins a power of ten or follows a number. This is what a
fraction has behind it. -/
theorem WritesExponent.head {exponent : Option Int} {power rest : List Char}
    (scaled : WritesExponent exponent power) (stops : Stops rest) {char : Char}
    (first : (power ++ rest).head? = some char) : char.isDigit = false ∧ char ≠ '.' := by
  cases scaled with
  | none =>
    obtain ⟨noDigit, noPoint, _⟩ := continues_eq_false.mp (stops char first)
    exact ⟨noDigit, noPoint⟩
  | power marked =>
    obtain rfl := Option.some.inj first
    rcases marked with rfl | rfl <;> exact ⟨rfl, by decide⟩

/-- No digit begins a fraction or follows it. This is what the digits before the
point have behind them. -/
theorem WritesFraction.head {fraction point rest : List Char}
    (behind : WritesFraction fraction point)
    (ends : ∀ char, rest.head? = some char → char.isDigit = false) {char : Char}
    (first : (point ++ rest).head? = some char) : char.isDigit = false := by
  cases behind with
  | none => exact ends char first
  | point run =>
    obtain rfl := Option.some.inj first
    rfl

/-- A number that is written in any way is split off where nothing goes on with
it.

Proof: part by part from the left. Each part ends where the next one begins with
a character that does not go on with it, and behind the last one nothing goes on
with a number. -/
theorem scan_written {numeral : Numeral} {text rest : List Char} (written : Writes numeral text)
    (stops : Stops rest) : scan (text ++ rest) = .ok (numeral, rest) := by
  obtain @⟨negative, whole, fraction, sign, point, power, exponent, signed, before, behind,
    scaled⟩ := written
  have ends (char : Char) (first : (power ++ rest).head? = some char) :=
    scaled.head stops first
  have noDigit (char : Char) (first : (point ++ (power ++ rest)).head? = some char) :
      char.isDigit = false := behind.head (fun char first => (ends char first).1) first
  have scannedMinus := scanMinus_append signed before.toIsDigits (point ++ (power ++ rest))
  have scannedWhole := scanWhole_append before noDigit
  have scannedFraction := scanFraction_append behind ends
  have scannedExponent := scanExponent_append scaled stops
  simp only [List.append_assoc, scan, scannedMinus, scannedWhole, scannedFraction,
    scannedExponent, bind, Except.bind, pure, Except.pure]

/-- A number begins with a minus or a digit, so that its first character tells
it from every other token. -/
theorem Writes.exists_cons {numeral : Numeral} {text : List Char} (written : Writes numeral text) :
    ∃ first others, text = first :: others ∧ (first = '-' ∨ first.isDigit = true) := by
  obtain @⟨negative, whole, fraction, sign, point, power, exponent, signed, before, _, _⟩ := written
  cases signed with
  | minus => exact ⟨'-', _, rfl, .inl rfl⟩
  | none =>
    obtain ⟨digit, others, rfl, numeric⟩ := before.exists_cons
    exact ⟨digit, _, rfl, .inr numeric⟩

/-! ## Natural numbers -/

/-- The digits of a number that is not zero do not begin with a zero. The
induction is on the number: its digits begin with those of its tenth, which is
not zero unless the number is a single digit. -/
theorem toDigits_ne_zero_cons {number : Nat} (positive : 0 < number) (digits : List Char) :
    Nat.toDigits 10 number ≠ '0' :: digits := by
  induction number using Nat.strongRecOn generalizing digits with
  | ind number inductionHypothesis =>
    rw [Nat.toDigits_eq_if (by decide)]
    split
    · rename_i small
      have nonzero : ∀ digit < 10, 0 < digit → Nat.digitChar digit ≠ '0' := by decide
      intro same
      exact nonzero number small positive (List.cons.inj same).1
    · rename_i large
      have smaller : number / 10 < number := Nat.div_lt_self positive (by decide)
      have leading : 0 < number / 10 := Nat.div_pos (Nat.le_of_not_lt large) (by decide)
      cases digitsBefore : Nat.toDigits 10 (number / 10) with
      | nil => exact absurd digitsBefore Nat.toDigits_ne_nil
      | cons first others =>
        intro same
        obtain rfl : first = '0' := (List.cons.inj same).1
        exact inductionHypothesis _ smaller leading others digitsBefore

/-- The digits of a number are not more than one if they begin with a zero. -/
theorem toDigits_ne_zero_cons_cons (number : Nat) (second : Char) (digits : List Char) :
    Nat.toDigits 10 number ≠ '0' :: second :: digits := by
  rcases Nat.eq_zero_or_pos number with rfl | positive
  · exact fun same => nomatch (List.cons.inj same).2
  · exact toDigits_ne_zero_cons positive _

/-- A natural number is written by its decimal digits. -/
theorem writes_toDigits (number : Nat) : Writes (ofNat number) (Nat.toDigits 10 number) := by
  have numeric (digit : Char) (member : digit ∈ Nat.toDigits 10 number) : digit.isDigit = true :=
    Nat.isDigit_of_mem_toDigits (by decide) (by decide) member
  have whole : IsWhole (Nat.toDigits 10 number) :=
    ⟨⟨Nat.toDigits_ne_nil, numeric⟩, toDigits_ne_zero_cons_cons number⟩
  simpa [ofNat] using Writes.intro .none whole .none .none

/-- A number below 2 to the power of 64 is read back from its digits, as it fits
the range. -/
theorem uint64?_ofNat (number : UInt64) : (ofNat number.toNat).uint64? = some number := by
  have digits : Nat.ofDigitChars 10 (Nat.toDigits 10 number.toNat) 0 = number.toNat :=
    Nat.ofDigitChars_ten_toDigits
  simp [uint64?, ofNat, digits, number.toNat_lt]

end MessagePack.Json.Numeral
