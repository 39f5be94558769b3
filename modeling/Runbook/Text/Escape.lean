import Runbook.Text.Printable

/-!
# Escaped text

Two spellings of a text between quotes. A JSON string is pure ASCII: every other character is an
escape of four hexadecimal digits, twice for a character above U+FFFF, in the form of a surrogate
pair. A quoted literal keeps printable characters of any script and prefers single quotes.
-/

namespace Runbook.Text

/-! ## Hexadecimal digits -/

/-- The lower case hexadecimal digit of a number below sixteen. -/
def hexDigit (n : Nat) : Char := if n < 10 then Char.ofNat (0x30 + n) else Char.ofNat (0x57 + n)

/-- The last `width` hexadecimal digits of `n`. -/
def hexDigits : Nat → Nat → List Char
  | 0, _ => []
  | width + 1, n => hexDigits width (n / 16) ++ [hexDigit (n % 16)]

/-! ## JSON strings -/

/-- The escape of a sixteen bit unit. -/
def jsonUnit (n : Nat) : List Char := '\\' :: 'u' :: hexDigits 4 n

/-- How a character is written inside a JSON string. -/
def jsonChar (c : Char) : List Char :=
  if c = '"' then ['\\', '"']
  else if c = '\\' then ['\\', '\\']
  else if c = '\n' then ['\\', 'n']
  else if c = '\r' then ['\\', 'r']
  else if c = '\t' then ['\\', 't']
  else if c = '\x0c' then ['\\', 'f']
  else if c = '\x08' then ['\\', 'b']
  else if 0x20 ≤ c.toNat ∧ c.toNat < 0x7F then [c]
  else if c.toNat < 0x10000 then jsonUnit c.toNat
  else
    jsonUnit (0xD800 + (c.toNat - 0x10000) / 0x400) ++
      jsonUnit (0xDC00 + (c.toNat - 0x10000) % 0x400)

def jsonString (text : String) : String :=
  String.ofList ('"' :: (text.toList.flatMap jsonChar ++ ['"']))

/-! ## Quoted literals -/

/-- The quote of a literal: the single one, unless the text holds it and no double one. -/
def literalQuote (text : List Char) : Char :=
  if '\'' ∈ text ∧ '"' ∉ text then '"' else '\''

/-- How a character is written inside a literal with the given quote. -/
def literalChar (quote c : Char) : List Char :=
  if c = quote ∨ c = '\\' then ['\\', c]
  else if c = '\t' then ['\\', 't']
  else if c = '\n' then ['\\', 'n']
  else if c = '\r' then ['\\', 'r']
  else if isPrintable c then [c]
  else if c.toNat < 0x100 then '\\' :: 'x' :: hexDigits 2 c.toNat
  else if c.toNat < 0x10000 then '\\' :: 'u' :: hexDigits 4 c.toNat
  else '\\' :: 'U' :: hexDigits 8 c.toNat

def quoted (text : String) : String :=
  let quote := literalQuote text.toList
  String.ofList (quote :: (text.toList.flatMap (literalChar quote) ++ [quote]))

end Runbook.Text
