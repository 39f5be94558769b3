import Runbook.Text.Escape
import Runbook.Text.Lines
import Runbook.Yaml.Resolution

/-!
# Scalars

A text is written plain where that is safe, else in single quotes, and in double quotes if it holds
characters that only an escape can show. Long texts are folded: a blank beyond the right margin
becomes a line break, which reading turns into a blank again. Keys on one line with their values are
never folded.
-/

namespace Runbook.Yaml

/-! ## Characters -/

/-- The characters that end a line. -/
def isBreak (c : Char) : Bool := c == '\n' || c == '\x85' || c == '\u2028' || c == '\u2029'

/-- Characters next to which an indicator counts. -/
def isGap (c : Char) : Bool := c == '\x00' || c == ' ' || c == '\t' || c == '\r' || isBreak c

/-- Characters beyond ASCII that may stand for themselves. -/
def isOrdinaryUnicode (c : Char) : Bool :=
  let n := c.toNat
  (n == 0x85 || (0xA0 ≤ n && n ≤ 0xD7FF) || (0xE000 ≤ n && n ≤ 0xFFFD) ||
    (0x10000 ≤ n && n < 0x10FFFF)) && n != 0xFEFF

/-- Characters that only an escape can show. -/
def isSpecial (c : Char) : Bool :=
  !(c == '\n' || (' ' ≤ c && c ≤ '~')) && !isOrdinaryUnicode c

/-- Indicators that no plain text starts with. -/
def leadIndicators : List Char :=
  ['#', ',', '[', ']', '\x7b', '\x7d', '&', '*', '!', '|', '>', '\'', '"', '%', '@', '\x60']

/-- The text is at its end or goes on with a gap. -/
def gapNext (rest : List Char) : Bool :=
  match rest with
  | [] => true
  | c :: _ => isGap c

def startsWithIndicator : List Char → Bool
  | [] => false
  | c :: rest =>
    leadIndicators.contains c || ((c == '?' || c == ':' || c == '-') && gapNext rest)

/-- A colon before a gap or a number sign after one, past the first character. -/
def hasInnerIndicator (afterGap : Bool) : List Char → Bool
  | [] => false
  | c :: rest =>
    (c == ':' && gapNext rest) || (c == '#' && afterGap) || hasInnerIndicator (isGap c) rest

/-- The text starts like a mark between documents. -/
def startsWithMark : List Char → Bool
  | '-' :: '-' :: '-' :: _ => true
  | '.' :: '.' :: '.' :: _ => true
  | _ => false

/-- Two neighbours of which the first satisfies `p` and the second `q`. -/
def hasPair (p q : Char → Bool) : List Char → Bool
  | [] => false
  | c :: rest => (p c && rest.head?.any q) || hasPair p q rest

def isSpace (c : Char) : Bool := c == ' '

/-! ## Styles -/

/-- How a scalar is written. -/
inductive Style where
  | plain
  | single
  | double
deriving DecidableEq, Repr, Inhabited

/-- Plain text would not be read back as it is. -/
def needsQuotes (text : List Char) : Bool :=
  startsWithMark text || startsWithIndicator text ||
    hasInnerIndicator (text.head?.any isGap) text.tail ||
    text.any isBreak || text.any isSpecial || text.head?.any isSpace || text.getLast?.any isSpace

/-- Single quotes would not keep the text: it holds a special character, or a blank next to a line
break. -/
def needsEscapes (text : List Char) : Bool :=
  text.any isSpecial || hasPair isSpace isBreak text || hasPair isBreak isSpace text

def styleOf (text : String) : Style :=
  if !needsQuotes text.toList && readsAsText text then .plain
  else if needsEscapes text.toList then .double
  else .single

/-- A key that can stand on one line with its value: it is not empty, it holds no line break, and it
is short. -/
def isSimpleKey (key : String) : Bool :=
  !key.isEmpty && !key.toList.any isBreak && key.length < 123

/-! ## Writing -/

/-- The last column that is not beyond the margin. -/
def margin : Nat := 80

/-- A line break and the indentation of the next line. -/
def breakLine (indent : Nat) : List Char := '\n' :: List.replicate indent ' '

/-- Plain text from the given column on. A single blank beyond the margin becomes a line break. -/
def foldPlain (indent column : Nat) (afterSpace : Bool) : List Char → List Char
  | [] => []
  | c :: rest =>
    if c == ' ' && !afterSpace && !rest.head?.any isSpace && margin < column then
      breakLine indent ++ foldPlain indent indent true rest
    else c :: foldPlain indent (column + 1) (c == ' ') rest

/-- What came just before, inside single quotes. -/
inductive Before where
  | start | space | lineBreak | other
deriving DecidableEq, Repr, Inhabited

/-- The kind of a character for the one after it. -/
def Before.ofChar (c : Char) : Before :=
  if c == ' ' then .space else if isBreak c then .lineBreak else .other

/-- Text inside single quotes from the given column on. A quote is doubled. A run of line breaks is
written out, with one more line feed if it starts with one, and the next line is indented. Unless
`fold` is off, a single blank beyond the margin becomes a line break. -/
def foldSingle (fold : Bool) (indent column : Nat) (before : Before) : List Char → List Char
  | [] => []
  | c :: rest =>
    if isBreak c then
      let written := if before != .lineBreak && c == '\n' then ['\n', c] else [c]
      if rest.head?.any isBreak then written ++ foldSingle fold indent 0 .lineBreak rest
      else written ++ List.replicate indent ' ' ++ foldSingle fold indent indent .lineBreak rest
    else if fold && c == ' ' && before != .start && before != .space && !rest.isEmpty &&
        !rest.head?.any isSpace && margin < column then
      breakLine indent ++ foldSingle fold indent indent .space rest
    else if c == '\'' then '\'' :: '\'' :: foldSingle fold indent (column + 2) .other rest
    else c :: foldSingle fold indent (column + 1) (.ofChar c) rest

def escapeLetters : List (Char × Char) :=
  [('\x00', '0'), ('\x07', 'a'), ('\x08', 'b'), ('\x09', 't'), ('\x0a', 'n'), ('\x0b', 'v'),
    ('\x0c', 'f'), ('\x0d', 'r'), ('\x1b', 'e'), ('"', '"'), ('\\', '\\'), ('\x85', 'N'),
    ('\xa0', '_'), ('\u2028', 'L'), ('\u2029', 'P')]

/-- Characters that stand for themselves inside double quotes. -/
def isBare (c : Char) : Bool :=
  !(c == '"' || c == '\\' || isBreak c || c == '\ufeff') &&
    ((' ' ≤ c && c ≤ '~') || (0xA0 ≤ c.toNat && c.toNat ≤ 0xD7FF) ||
      (0xE000 ≤ c.toNat && c.toNat ≤ 0xFFFD))

/-- Hexadecimal digits in capitals. -/
def upperHex (width n : Nat) : List Char := (Text.hexDigits width n).map Char.toUpper

def escape (c : Char) : List Char :=
  match escapeLetters.lookup c with
  | some letter => ['\\', letter]
  | none =>
    let n := c.toNat
    if n ≤ 0xFF then '\\' :: 'x' :: upperHex 2 n
    else if n ≤ 0xFFFF then '\\' :: 'u' :: upperHex 4 n
    else '\\' :: 'U' :: upperHex 8 n

/-- Text inside double quotes from the given column on. Beyond the margin a line is broken at a
blank or next to an escape, with a backslash at its end, and another one in front of a blank that
starts the next line. `isFirst` marks the first character and `afterEscape` one that follows an
escape. -/
def foldDouble (fold : Bool) (indent column : Nat) (isFirst afterEscape : Bool) :
    List Char → List Char
  | [] => []
  | c :: rest =>
    let mayBreak := fold && !isFirst && !rest.isEmpty
    if isBare c then
      if mayBreak && (c == ' ' || afterEscape) && margin < column then
        let guard := if c == ' ' then ['\\'] else []
        '\\' :: breakLine indent ++ guard ++
          c :: foldDouble fold indent (indent + guard.length + 1) false false rest
      else c :: foldDouble fold indent (column + 1) false false rest
    else
      let written := escape c
      if mayBreak && margin < column + written.length - 1 then
        let guard := if rest.head?.any isSpace then ['\\'] else []
        written ++ '\\' :: breakLine indent ++ guard ++
          foldDouble fold indent (indent + guard.length) false true rest
      else written ++ foldDouble fold indent (column + written.length) false true rest

/-- A text that starts at the given column; lines that follow are indented by `indent`. -/
def scalarText (fold : Bool) (indent column : Nat) (text : String) : String :=
  match styleOf text with
  | .plain =>
    if fold then String.ofList (foldPlain indent column false text.toList) else text
  | .single => "'" ++ String.ofList (foldSingle fold indent (column + 1) .start text.toList) ++ "'"
  | .double =>
    "\"" ++ String.ofList (foldDouble fold indent (column + 1) true false text.toList) ++ "\""

end Runbook.Yaml
