import Runbook.Number.Binary64

/-!
# Integers from text

A canonical numeral is an optional minus sign and digits, of which the first is zero only if it
stands alone. Other spellings are read by cleaning them first: white space around the numeral, a
plus sign, leading zeros, a fraction of zeros and single underscores are dropped, and what is left
has to be canonical. Leading zeros may stand behind a minus sign or in front of it, but not on both
of its sides.

Numerals have a greatest number of digits. A text that starts with a longer one is not cleaned any
more.
-/

namespace Runbook

/-- Why a text spells no integer. -/
inductive NumeralError where
  /-- The text starts with a canonical numeral that is too long. -/
  | oversized
  | unreadable
deriving DecidableEq, Repr, Inhabited

namespace Numeral

/-- The greatest number of digits of a canonical numeral. -/
def maxDigits : Nat := 4300

/-- The integer that a canonical numeral spells. Too many digits are reported before anything that
follows them. -/
def ofCanonical (text : List Char) : Except NumeralError Int :=
  let sign := text.takeWhile (· == '-')
  let body := text.dropWhile (· == '-')
  let digits := body.takeWhile Char.isDigit
  let isWhole := (body.dropWhile Char.isDigit).isEmpty
  let magnitude : Int := Binary64.digitsValue digits
  if 1 < sign.length ∨ digits.isEmpty then .error .unreadable
  else if digits.head? = some '0' then
    if digits.length = 1 ∧ isWhole then .ok 0 else .error .unreadable
  else if maxDigits < digits.length then .error .oversized
  else if isWhole then .ok (if sign.isEmpty then magnitude else -magnitude)
  else .error .unreadable

/-! ## Cleaning -/

/-- Drops a plus sign, unless a minus sign follows it. -/
def dropPlus? : List Char → Option (List Char)
  | '+' :: '-' :: _ => none
  | '+' :: rest => some rest
  | text => some text

/-- A character that may start a canonical numeral other than zero. -/
def startsNumeral (c : Char) : Bool := c == '-' || c.isDigit

/-- What follows zeros and underscores; `last` is the one just before. It is kept in front of a
fraction, and where nothing follows. -/
def afterZeros? (last : Char) : List Char → Option (List Char)
  | [] => some [last]
  | c :: rest =>
    if c = '0' ∨ c = '_' then afterZeros? c rest
    else if c = '.' then some (last :: c :: rest)
    else if startsNumeral c then some (c :: rest)
    else none

/-- Drops leading zeros, and underscores behind the first one. The text has to start with a
digit. -/
def dropZeros? : List Char → Option (List Char)
  | [] => none
  | c :: rest =>
    if c = '0' then afterZeros? c rest
    else if c.isDigit then some (c :: rest)
    else none

/-- Drops the leading zeros of a numeral that may have a minus sign, which stays. -/
def dropSignedZeros? : List Char → Option (List Char)
  | '-' :: rest => (dropZeros? rest).map ('-' :: ·)
  | text => dropZeros? text

/-- Drops a fraction, which has to be made of zeros. -/
def dropFraction? (text : List Char) : Option (List Char) :=
  match text.dropWhile (· != '.') with
  | [] => some text
  | _ :: zeros =>
    if !zeros.isEmpty && zeros.all (· == '0') then some (text.takeWhile (· != '.')) else none

/-- No underscore is the last character, and no two stand side by side. -/
def separates : List Char → Bool
  | [] => true
  | ['_'] => false
  | '_' :: '_' :: _ => false
  | _ :: rest => separates rest

/-- Drops underscores that separate other characters. -/
def dropUnderscores? (text : List Char) : Option (List Char) :=
  if separates text then some (text.filter (· != '_')) else none

/-- The numeral that is left after cleaning. -/
def clean? (text : List Char) : Option (List Char) := do
  let signed ← dropPlus? (Text.trimBoth Text.isPadding text)
  let whole ← dropFraction? (← dropSignedZeros? signed)
  dropUnderscores? whole

/-- The integer that a text spells, as it stands or after cleaning. -/
def read (text : String) : Except NumeralError Int :=
  match ofCanonical text.toList with
  | .ok n => .ok n
  | .error .oversized => .error .oversized
  | .error .unreadable =>
    match (clean? text.toList).map ofCanonical with
    | some (.ok n) => .ok n
    | _ => .error .unreadable

end Numeral

end Runbook
