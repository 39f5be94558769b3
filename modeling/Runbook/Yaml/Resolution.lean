/-!
# What plain text stands for

Plain text is read back as a text only if it does not spell a value of another type: a truth value,
nothing, an integer, a number with a fraction, a date, or one of a few marks.
-/

namespace Runbook.Yaml

/-- Words that are truth values. -/
def boolWords : List String :=
  ["yes", "Yes", "YES", "no", "No", "NO", "true", "True", "TRUE", "false", "False", "FALSE", "on",
    "On", "ON", "off", "Off", "OFF"]

/-- Words that are nothing. -/
def nullWords : List String := ["", "~", "null", "Null", "NULL"]

/-- Marks with a meaning of their own. -/
def markWords : List String := ["=", "<<", "!", "&", "*"]

/-- A digit or a divider between digits. -/
def isDigitOrUnderscore (c : Char) : Bool := c.isDigit || c == '_'

/-- The text is not empty and all its characters satisfy `p`. -/
def isRun (p : Char → Bool) (text : List Char) : Bool := !text.isEmpty && text.all p

/-- A text after its sign, if it has one. -/
def unsigned : List Char → List Char
  | '-' :: rest => rest
  | '+' :: rest => rest
  | text => text

/-- A digit, and then digits and dividers. -/
def isNumeral : List Char → Bool
  | [] => false
  | c :: rest => c.isDigit && rest.all isDigitOrUnderscore

/-- One digit, or two digits that are less than sixty. -/
def isSixtieth : List Char → Bool
  | [c] => c.isDigit
  | [c, d] => '0' ≤ c && c ≤ '5' && d.isDigit
  | _ => false

/-- The parts of a text between colons. -/
def splitColons : List Char → List (List Char)
  | [] => [[]]
  | c :: rest =>
    if c = ':' then [] :: splitColons rest
    else match splitColons rest with
      | [] => [[c]]
      | part :: parts => (c :: part) :: parts

/-- A hexadecimal digit or a divider. -/
def isHexOrUnderscore (c : Char) : Bool :=
  isDigitOrUnderscore c || ('a' ≤ c && c ≤ 'f') || ('A' ≤ c && c ≤ 'F')

/-- A numeral in base sixty: parts divided by colons. -/
def isSexagesimal (text : List Char) : Bool :=
  match splitColons text with
  | first :: next :: rest => isNumeral first && (next :: rest).all isSixtieth
  | _ => false

/-- The text spells an integer: binary, octal, decimal, hexadecimal or in base sixty. -/
def isInteger (text : List Char) : Bool :=
  match unsigned text with
  | '0' :: 'b' :: rest => isRun (fun c ↦ c == '0' || c == '1' || c == '_') rest
  | '0' :: 'x' :: rest => isRun isHexOrUnderscore rest
  | '0' :: rest => rest.all fun c ↦ ('0' ≤ c && c ≤ '7') || c == '_'
  | body => isNumeral body || isSexagesimal body

/-- An exponent with its sign, or nothing. -/
def isExponent : List Char → Bool
  | [] => true
  | mark :: sign :: digits =>
    (mark == 'e' || mark == 'E') && (sign == '-' || sign == '+') && isRun Char.isDigit digits
  | _ => false

/-- What follows the decimal point: digits and an exponent. -/
def isFraction (text : List Char) : Bool := isExponent (text.dropWhile isDigitOrUnderscore)

/-- The texts before and after the first point. -/
def splitPoint? : List Char → Option (List Char × List Char)
  | [] => none
  | c :: rest =>
    if c = '.' then some ([], rest)
    else (splitPoint? rest).map fun pieces ↦ (c :: pieces.1, pieces.2)

/-- The text spells a number with a point. -/
def isFloat (text : List Char) : Bool :=
  match splitPoint? (unsigned text) with
  | none => false
  | some ([], after) =>
    ["inf", "Inf", "INF"].contains (String.ofList after) ||
      (unsigned text == text &&
        (["nan", "NaN", "NAN"].contains (String.ofList after) ||
          (after.head?.any Char.isDigit && isFraction after)))
  | some (whole, after) =>
    (isNumeral whole && isFraction after) ||
      (isSexagesimal whole && after.all isDigitOrUnderscore)

/-- What follows the digits at the start, of which there are at least `least`; at most `most` are
taken. -/
def takeDigits? (least most : Nat) (text : List Char) : Option (List Char) :=
  let digits := (text.take most).takeWhile Char.isDigit
  if least ≤ digits.length then some (text.drop digits.length) else none

/-- What follows a character that has to stand at the start. -/
def takeChar? (c : Char) : List Char → Option (List Char)
  | d :: rest => if d = c then some rest else none
  | [] => none

/-- Blanks within a date. -/
def isDateBlank (c : Char) : Bool := c == ' ' || c == '\t'

/-- A time zone, or nothing. -/
def isZone : List Char → Bool
  | [] => true
  | ['Z'] => true
  | c :: rest =>
    (c == '-' || c == '+') &&
      match takeDigits? 1 2 rest with
      | none => false
      | some [] => true
      | some (':' :: minutes) => takeDigits? 2 2 minutes == some []
      | some _ => false

/-- A fraction of a second and a time zone, or nothing. -/
def isTimeEnd (text : List Char) : Bool :=
  let rest := match text with
    | '.' :: digits => digits.dropWhile Char.isDigit
    | _ => text
  rest.isEmpty || isZone (rest.dropWhile isDateBlank) && !(rest.all isDateBlank)

/-- The time of day in a date. -/
def isTime (text : List Char) : Bool :=
  (do
    let rest ← takeDigits? 1 2 text
    let rest ← takeDigits? 2 2 (← takeChar? ':' rest)
    let rest ← takeDigits? 2 2 (← takeChar? ':' rest)
    return isTimeEnd rest).getD false

/-- The text spells a date, with a time of day if its month and day may have one digit. -/
def isDate (text : List Char) : Bool :=
  (do
    let month ← takeChar? '-' (← takeDigits? 4 4 text)
    let day ← takeChar? '-' (← takeDigits? 1 2 month)
    let rest ← takeDigits? 1 2 day
    match rest with
    | [] => return text.length == 10
    | c :: tail =>
      if c = 'T' ∨ c = 't' then return isTime tail
      else return isDateBlank c && isTime (tail.dropWhile isDateBlank)).getD false

/-- Plain text with these characters is a text and nothing else. -/
def readsAsText (text : String) : Bool :=
  !(boolWords.contains text || nullWords.contains text || markWords.contains text ||
    isInteger text.toList || isFloat text.toList || isDate text.toList)

end Runbook.Yaml
