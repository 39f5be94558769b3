import Runbook.Text.Blank
import Runbook.Text.Digit

/-!
# Binary64 numbers

A number with a fraction is a finite binary64 number, an infinity or not a number at all. The
finite ones are kept as a sign, a mantissa and a binary exponent, with the value
`± mantissa * 2 ^ exponent`, instead of core's `Float`: reading, comparing and printing are then
exact arithmetic on natural numbers.

A mantissa is below `2 ^ 53`, and at least `2 ^ 52` unless the exponent is the least one, so each
value other than zero has one form.
-/

namespace Runbook

inductive Binary64 where
  | nan
  | infinite (negative : Bool)
  | finite (negative : Bool) (mantissa : Nat) (exponent : Int)
deriving DecidableEq, Repr, Inhabited

namespace Binary64

/-- The least exponent, which is that of the numbers close to zero. -/
def minExponent : Int := -1074

/-- The greatest exponent of a finite number. -/
def maxExponent : Int := 971

/-- `± 0`. -/
def zero (negative : Bool) : Binary64 := .finite negative 0 minExponent

/-! ## Rounding -/

/-- The natural number nearest to `num / den`; a half goes to the even neighbour. -/
def roundDiv (num den : Nat) : Nat :=
  let quotient := num / den
  let rest := num % den
  if 2 * rest < den then quotient
  else if den < 2 * rest then quotient + 1
  else if quotient % 2 = 0 then quotient else quotient + 1

/-- `num * 2 ^ (-shift) / den` rounded to the nearest natural number. -/
def roundScaled (num den : Nat) (shift : Int) : Nat :=
  if 0 ≤ shift then roundDiv num (den * Nat.pow 2 shift.toNat)
  else roundDiv (num * Nat.pow 2 (-shift).toNat) den

/-- `num / den` is at least `2 ^ k`. -/
def atLeastPow (num den : Nat) (k : Int) : Bool :=
  if 0 ≤ k then den * Nat.pow 2 k.toNat ≤ num else den ≤ num * Nat.pow 2 (-k).toNat

/-- The number nearest to `± num / den`. -/
def ofRatio (negative : Bool) (num den : Nat) : Binary64 :=
  if num = 0 then zero negative
  else
    let low : Int := (num.log2 : Int) - den.log2 - 53
    let exponent := max minExponent (if atLeastPow num den (low + 53) then low + 1 else low)
    let mantissa := roundScaled num den exponent
    let rounded :=
      if mantissa = Nat.pow 2 53 then (Nat.pow 2 52, exponent + 1) else (mantissa, exponent)
    if maxExponent < rounded.2 then .infinite negative
    else .finite negative rounded.1 rounded.2

/-- The number nearest to `± digits * 10 ^ scale`. Scales far outside the range are settled
first. -/
def ofDecimal (negative : Bool) (digits : Nat) (scale : Int) : Binary64 :=
  if digits = 0 then zero negative
  else
    let magnitude := scale + (Nat.toDigits 10 digits).length
    if 400 < magnitude then .infinite negative
    else if magnitude < -400 then zero negative
    else if 0 ≤ scale then ofRatio negative (digits * Nat.pow 10 scale.toNat) 1
    else ofRatio negative digits (Nat.pow 10 (-scale).toNat)

/-! ## Comparing -/

/-- The integer that the number is, if it is one. -/
def toInt? : Binary64 → Option Int
  | .finite negative mantissa exponent =>
    let signed (n : Nat) : Int := if negative then -n else n
    if 0 ≤ exponent then some (signed (mantissa * Nat.pow 2 exponent.toNat))
    else if mantissa % Nat.pow 2 (-exponent).toNat = 0 then
      some (signed (mantissa / Nat.pow 2 (-exponent).toNat))
    else none
  | _ => none

/-- Equality of values: not a number differs from itself, and the two zeros are equal. -/
def eqv : Binary64 → Binary64 → Bool
  | .nan, _ => false
  | .finite _ 0 _, .finite _ 0 _ => true
  | x, y => x == y

def isZero : Binary64 → Bool
  | .finite _ 0 _ => true
  | _ => false

/-- The number is less than zero. -/
def isNegative : Binary64 → Bool
  | .infinite negative => negative
  | .finite negative mantissa _ => negative && mantissa != 0
  | .nan => false

/-- The number is neither infinite nor undefined. -/
def isFinite : Binary64 → Bool
  | .finite .. => true
  | _ => false

/-! ## Reading -/

/-- The digits at the start of a text and what follows them. One underscore may stand between two
digits; `inside` says that a digit came just before. -/
def digitRun (inside : Bool) : List Char → List Char × List Char
  | [] => ([], [])
  | c :: rest =>
    if c.isDigit then
      let more := digitRun true rest
      (c :: more.1, more.2)
    else if inside && c == '_' && rest.head?.any Char.isDigit then digitRun false rest
    else ([], c :: rest)

/-- The value of decimal digits. -/
def digitsValue (digits : List Char) : Nat :=
  digits.foldl (fun n c ↦ 10 * n + (c.toNat - '0'.toNat)) 0

/-- A sign, if one stands at the start of the text: whether it is negative, and the rest. -/
def takeSign : List Char → Bool × List Char
  | '+' :: rest => (false, rest)
  | '-' :: rest => (true, rest)
  | text => (false, text)

/-- The exponent part of a decimal: nothing at all, or a mark and digits to the end. -/
def readExponent? : List Char → Option Int
  | [] => some 0
  | c :: rest =>
    if c = 'e' ∨ c = 'E' then
      let (negative, body) := takeSign rest
      match digitRun false body with
      | ([], _) => none
      | (digits, []) => some (if negative then -digitsValue digits else digitsValue digits)
      | _ => none
    else none

/-- An unsigned decimal: digits, a fraction and an exponent, where one digit is enough. -/
def readDecimal? (negative : Bool) (text : List Char) : Option Binary64 :=
  let (whole, rest) := digitRun false text
  let (fraction, rest) := match rest with
    | '.' :: tail => digitRun false tail
    | _ => ([], rest)
  if whole.isEmpty ∧ fraction.isEmpty then none
  else (readExponent? rest).map fun exponent ↦
    ofDecimal negative (digitsValue (whole ++ fraction)) (exponent - fraction.length)

/-- Reads a number: white space around it, a sign, then a decimal or one of the words for an
infinity and for not a number, in any case. The digits may be those of any script. -/
def parse? (text : String) : Option Binary64 :=
  let digits := (Text.trimBoth Text.isPadding text.toList).map Text.asciiDigit
  let (negative, body) := takeSign digits
  let word := String.ofList (body.map Char.toLower)
  if word = "nan" then some .nan
  else if word = "inf" ∨ word = "infinity" then some (.infinite negative)
  else readDecimal? negative body

end Binary64

end Runbook
