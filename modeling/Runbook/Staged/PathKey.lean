import Runbook.Text.Escape

/-!
# Keys of paths

A key is a sequence of code points. Most keys are texts, but a key may hold surrogates as well,
alone or in pairs, and its JSON string writes a pair just like the character that the pair stands
for. Surrogates are kept in keys only, where two of them can be mistaken for a character; all other
texts here are texts of characters.
-/

namespace Runbook

/-- A code point: a character, or a surrogate by its distance from the first one. -/
inductive CodePoint where
  | char (value : Char)
  | surrogate (offset : Fin 0x800)
deriving DecidableEq, Repr, Inhabited

namespace CodePoint

def char? : CodePoint → Option Char
  | .char c => some c
  | .surrogate _ => none

/-- The character that stands for a code point in messages, which hold no surrogates. -/
def shown : CodePoint → Char
  | .char c => c
  | .surrogate _ => '�'

/-- How a code point is written inside a JSON string. -/
def json : CodePoint → List Char
  | .char c => Text.jsonChar c
  | .surrogate offset => Text.jsonUnit (0xD800 + offset.val)

/-- How a code point is written inside a literal with the given quote. -/
def literal (quote : Char) : CodePoint → List Char
  | .char c => Text.literalChar quote c
  | .surrogate offset => '\\' :: 'u' :: Text.hexDigits 4 (0xD800 + offset.val)

end CodePoint

/-- A key of JSON data. -/
@[ext]
structure PathKey where
  points : List CodePoint
deriving DecidableEq, Repr, Inhabited

namespace PathKey

def ofText (text : String) : PathKey := ⟨text.toList.map .char⟩

instance : Coe String PathKey := ⟨ofText⟩

/-- The text that a key is, unless it holds surrogates. -/
def text? (key : PathKey) : Option String := (key.points.mapM CodePoint.char?).map String.ofList

def shown (key : PathKey) : String := String.ofList (key.points.map CodePoint.shown)

def json (key : PathKey) : String :=
  String.ofList ('"' :: (key.points.flatMap CodePoint.json ++ ['"']))

def quoted (key : PathKey) : String :=
  let quote := Text.literalQuote (key.points.map CodePoint.shown)
  String.ofList (quote :: (key.points.flatMap (CodePoint.literal quote) ++ [quote]))

end PathKey

end Runbook
