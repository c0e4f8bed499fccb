import MessagePack.Json.Defect

/-!
# JSON numerals

A numeral is kept as the digits it is written with. Some numerals stand for
numbers too large for the 64-bit floating-point format and are refused where a
number is read. Their size is judged by a significand of at most 64 bits: digits
beyond it count as places before the point and are dropped behind it.
-/

namespace MessagePack.Json

/-- A numeral: its sign, its digits before and behind the point, and its power
of ten if one is written. No value is computed before one is asked for, so a
numeral of any length can be skipped. -/
structure Numeral where
  negative : Bool
  whole : List Char
  fraction : List Char
  exponent : Option Int
  deriving DecidableEq, Repr

namespace Numeral

/-- Splits off a run of at least one digit. Where there is none it matters
whether the text ends. -/
def scanDigits (text : List Char) : Except Defect (List Char × List Char) :=
  let digits := text.takeWhile Char.isDigit
  if digits.isEmpty then .error (if text.isEmpty then .truncated else .malformed)
  else .ok (digits, text.dropWhile Char.isDigit)

/-- Splits off the digits before the point, which have no zero in front of them.
A single zero is allowed. -/
def scanWhole (text : List Char) : Except Defect (List Char × List Char) :=
  match scanDigits text with
  | .ok ('0' :: _ :: _, _) => .error .malformed
  | result => result

/-- Splits off the digits behind the point, if there is a point. A point without
digits is a defect. -/
def scanFraction : List Char → Except Defect (List Char × List Char)
  | '.' :: rest => scanDigits rest
  | text => .ok ([], text)

/-- Splits off a sign, and says whether it is a minus. -/
def scanSign : List Char → Bool × List Char
  | '+' :: rest => (false, rest)
  | '-' :: rest => (true, rest)
  | text => (false, text)

/-- Splits off a power of ten, if one is written. A letter without digits is a
defect. -/
def scanExponent (text : List Char) : Except Defect (Option Int × List Char) :=
  match text with
  | [] => .ok (none, [])
  | letter :: rest =>
    if letter = 'e' ∨ letter = 'E' then
      let signed := scanSign rest
      (scanDigits signed.2).map fun (digits, rest) =>
        let magnitude : Int := Nat.ofDigitChars 10 digits 0
        (some (if signed.1 then -magnitude else magnitude), rest)
    else .ok (none, text)

/-- Splits off the minus in front of a numeral, if there is one. -/
def scanMinus : List Char → Bool × List Char
  | '-' :: rest => (true, rest)
  | text => (false, text)

/-- Splits off a numeral. Each part is split off from what the part before it
leaves, and the first defect decides. -/
def scan (text : List Char) : Except Defect (Numeral × List Char) := do
  let signed := scanMinus text
  let (whole, afterWhole) ← scanWhole signed.2
  let (fraction, afterFraction) ← scanFraction afterWhole
  let (exponent, rest) ← scanExponent afterFraction
  return (⟨signed.1, whole, fraction, exponent⟩, rest)

/-- The numeral of a natural number, as it is printed. -/
def ofNat (number : Nat) : Numeral := ⟨false, Nat.toDigits 10 number, [], none⟩

/-- The number of a numeral that is written as a plain one below 2 to the power
of 64. A sign, a fraction or a power of ten disqualifies, whatever the value. -/
def uint64? (numeral : Numeral) : Option UInt64 :=
  if numeral.negative || !numeral.fraction.isEmpty || numeral.exponent.isSome then none
  else
    let number := Nat.ofDigitChars 10 numeral.whole 0
    if number < UInt64.size then some (UInt64.ofNat number) else none

/-- Takes digits into a significand as long as it fits in 64 bits, and tells the
digits left. Once a digit does not fit, none behind it is taken either. -/
def gather : Nat → List Char → Nat × List Char
  | significand, [] => (significand, [])
  | significand, digit :: rest =>
    let next := 10 * significand + (digit.toNat - '0'.toNat)
    if next < UInt64.size then gather next rest else (significand, digit :: rest)

/-- The multiple of `step` nearest to a number, an even multiple if two are as
near. -/
def roundToMultiple (step number : Nat) : Nat :=
  let below := number / step
  let twice := 2 * (number % step)
  if twice < step ∨ (twice = step ∧ below % 2 = 0) then below * step else (below + 1) * step

/-- The number nearest to a given one that has 53 significant bits. -/
def nearest53 (number : Nat) : Nat := roundToMultiple (1 <<< (number.log2 - 52)) number

/-- Whether a significand times a power of ten rounds to infinity in the 64-bit
format, where both factors are rounded first. The largest finite number and half
a unit make the bound. Rounding the factors first can turn a number just below
the bound into one that is refused, which is why the product is not taken
exactly. -/
def roundsToInfinity (significand power : Nat) : Bool :=
  decide (1 <<< 1024 - 1 <<< 970 ≤ nearest53 significand * nearest53 (Nat.pow 10 power))

/-- Whether the numeral stands for a number too large for the 64-bit format.
Zero is in range with any power of ten, and so is every significand that is
scaled down. -/
def isOutOfRange (numeral : Numeral) : Bool :=
  let (upper, uncounted) := gather 0 numeral.whole
  let (significand, dropped) := gather upper numeral.fraction
  let scale : Int := uncounted.length - (numeral.fraction.length - dropped.length : Nat)
    + numeral.exponent.getD 0
  significand != 0 && decide (0 ≤ scale) &&
    (decide (308 < scale) || roundsToInfinity significand scale.toNat)

/-- A run of digits takes at least one character, which is why the scanning of a
text comes to an end. -/
theorem length_of_scanDigits {text digits rest : List Char}
    (scanned : scanDigits text = .ok (digits, rest)) : rest.length < text.length := by
  have whole : (text.takeWhile Char.isDigit).length + (text.dropWhile Char.isDigit).length
      = text.length := by
    rw [← List.length_append, List.takeWhile_append_dropWhile]
  by_cases empty : text.takeWhile Char.isDigit = []
  · simp [scanDigits, empty] at scanned
  · have taken : 0 < (text.takeWhile Char.isDigit).length := List.length_pos_iff.mpr empty
    simp only [scanDigits, List.isEmpty_iff, empty, if_false, Except.ok.injEq,
      Prod.mk.injEq] at scanned
    rw [← scanned.2]
    omega

theorem length_of_scanFraction {text digits rest : List Char}
    (scanned : scanFraction text = .ok (digits, rest)) : rest.length ≤ text.length := by
  unfold scanFraction at scanned
  split at scanned
  · have shorter := length_of_scanDigits scanned
    rw [List.length_cons]
    omega
  · simp only [Except.ok.injEq, Prod.mk.injEq] at scanned
    exact Nat.le_of_eq (congrArg List.length scanned.2.symm)

theorem length_scanSign (text : List Char) : (scanSign text).2.length ≤ text.length := by
  unfold scanSign
  split <;> simp

theorem length_scanMinus (text : List Char) : (scanMinus text).2.length ≤ text.length := by
  unfold scanMinus
  split <;> simp

theorem length_of_scanExponent {text rest : List Char} {exponent : Option Int}
    (scanned : scanExponent text = .ok (exponent, rest)) : rest.length ≤ text.length := by
  unfold scanExponent at scanned
  split at scanned
  · simp only [Except.ok.injEq, Prod.mk.injEq] at scanned
    exact Nat.le_of_eq (congrArg List.length scanned.2.symm)
  · next letter after =>
    split at scanned
    · have signed := length_scanSign after
      cases digits : scanDigits (scanSign after).2 with
      | error defect => simp [digits, Except.map] at scanned
      | ok result =>
        have shorter := length_of_scanDigits digits
        simp only [digits, Except.map, Except.ok.injEq, Prod.mk.injEq] at scanned
        rw [← scanned.2, List.length_cons]
        omega
    · simp only [Except.ok.injEq, Prod.mk.injEq] at scanned
      exact Nat.le_of_eq (congrArg List.length scanned.2.symm)

/-- A numeral takes at least one character. Sign, fraction and power of ten may
be missing, but not the digits before the point. -/
theorem length_of_scan {text rest : List Char} {numeral : Numeral}
    (scanned : scan text = .ok (numeral, rest)) : rest.length < text.length := by
  have signed := length_scanMinus text
  cases whole : scanWhole (scanMinus text).2 with
  | error defect => simp [scan, whole, bind, Except.bind] at scanned
  | ok wholeResult =>
    have wholeShorter : wholeResult.2.length < (scanMinus text).2.length := by
      unfold scanWhole at whole
      split at whole
      · simp at whole
      · exact length_of_scanDigits whole
    cases fraction : scanFraction wholeResult.2 with
    | error defect => simp [scan, whole, fraction, bind, Except.bind] at scanned
    | ok fractionResult =>
      have fractionShorter := length_of_scanFraction fraction
      cases exponent : scanExponent fractionResult.2 with
      | error defect => simp [scan, whole, fraction, exponent, bind, Except.bind] at scanned
      | ok exponentResult =>
        have exponentShorter := length_of_scanExponent exponent
        simp only [scan, whole, fraction, exponent, bind, Except.bind, pure, Except.pure,
          Except.ok.injEq, Prod.mk.injEq] at scanned
        rw [← scanned.2]
        omega

end Numeral

end MessagePack.Json
