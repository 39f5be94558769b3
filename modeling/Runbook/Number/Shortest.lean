import Runbook.Number.Binary64

/-!
# Shortest decimals

A finite number is printed with the fewest decimal digits that read back as the same number, and
among those with the digits nearest to it. For each count of digits the two neighbours of the value
on that decimal grid are tested against the interval of reals that round to the number; the first
count with a hit wins. Everything is exact arithmetic on natural numbers, and seventeen digits are
always enough.
-/

namespace Runbook.Binary64

/-! ## Digits -/

/-- A positive decimal: `digits * 10 ^ scale`. -/
structure Decimal where
  digits : Nat
  scale : Int
deriving DecidableEq, Repr

/-- A positive real as a fraction of natural numbers. -/
structure Ratio where
  num : Nat
  den : Nat

/-- `n * 2 ^ k`. -/
def Ratio.scaled (n : Nat) (k : Int) : Ratio :=
  if 0 ≤ k then ⟨n * Nat.pow 2 k.toNat, 1⟩ else ⟨n, Nat.pow 2 (-k).toNat⟩

/-- Whether `r` is below, at or above the decimal `d`. -/
def Ratio.compareDecimal (r : Ratio) (d : Decimal) : Ordering :=
  if 0 ≤ d.scale then compare r.num (r.den * (d.digits * Nat.pow 10 d.scale.toNat))
  else compare (r.num * Nat.pow 10 (-d.scale).toNat) (r.den * d.digits)

/-- The exponent `k` with `10 ^ k ≤ r < 10 ^ (k + 1)`. -/
def Ratio.magnitude (r : Ratio) : Int :=
  let guess : Int := (Nat.toDigits 10 r.num).length - (Nat.toDigits 10 r.den).length
  if r.compareDecimal ⟨1, guess⟩ = .lt then guess - 1 else guess

/-- The greatest natural number of steps of size `10 ^ scale` that fit into `r`. -/
def Ratio.steps (r : Ratio) (scale : Int) : Nat :=
  if 0 ≤ scale then r.num / (r.den * Nat.pow 10 scale.toNat)
  else r.num * Nat.pow 10 (-scale).toNat / r.den

/-- The reals that round to a number, its ends included if its mantissa is even. -/
structure Rounding where
  low : Ratio
  high : Ratio
  closed : Bool

/-- The reals that round to `mantissa * 2 ^ exponent`. -/
def roundingInterval (mantissa : Nat) (exponent : Int) : Rounding :=
  let below := if mantissa = Nat.pow 2 52 ∧ minExponent < exponent then 1 else 2
  { low := Ratio.scaled (4 * mantissa - below) (exponent - 2)
    high := Ratio.scaled (4 * mantissa + 2) (exponent - 2)
    closed := mantissa % 2 = 0 }

/-- The decimal rounds to the number. -/
def Rounding.holds (interval : Rounding) (d : Decimal) : Bool :=
  match interval.low.compareDecimal d, interval.high.compareDecimal d with
  | .lt, .gt => true
  | .eq, _ => interval.closed
  | _, .eq => interval.closed
  | _, _ => false

/-- The upper of the two neighbours `n` and `n + 1` on the grid of `scale` is the nearer one; a
tie goes to the even one. -/
def upperIsNearer (value : Ratio) (n : Nat) (scale : Int) : Bool :=
  match Ratio.compareDecimal ⟨2 * value.num, value.den⟩ ⟨2 * n + 1, scale⟩ with
  | .lt => false
  | .gt => true
  | .eq => n % 2 = 1

/-- The neighbour of the value on the grid of `scale` that rounds to it, the nearer one if both
do. -/
def gridPoint? (value : Ratio) (interval : Rounding) (scale : Int) : Option Decimal :=
  let lower : Decimal := ⟨value.steps scale, scale⟩
  let upper : Decimal := ⟨lower.digits + 1, scale⟩
  match interval.holds lower, interval.holds upper with
  | true, true => some (if upperIsNearer value lower.digits scale then upper else lower)
  | true, false => some lower
  | false, true => some upper
  | false, false => none

/-- Tries grids of one digit more at a time, `budget` times. -/
def searchGrids (value : Ratio) (interval : Rounding) : Nat → Int → Decimal
  | 0, scale => ⟨value.steps scale, scale⟩
  | budget + 1, scale =>
    match gridPoint? value interval scale with
    | some d => d
    | none => searchGrids value interval budget (scale - 1)

/-- The shortest decimal that reads back as `mantissa * 2 ^ exponent`, for a positive mantissa. -/
def shortest (mantissa : Nat) (exponent : Int) : Decimal :=
  let value := Ratio.scaled mantissa exponent
  searchGrids value (roundingInterval mantissa exponent) 17 value.magnitude

/-! ## Text -/

/-- How the numbers that no digits denote are spelled. -/
structure Spelling where
  nan : String
  infinity : String

def Spelling.literal : Spelling := ⟨"nan", "inf"⟩

def Spelling.json : Spelling := ⟨"NaN", "Infinity"⟩

/-- Digits without the zeros at their end; a single zero stays. -/
def dropTrailingZeros (digits : List Char) : List Char :=
  match (digits.reverse.dropWhile (· == '0')).reverse with
  | [] => ['0']
  | kept => kept

/-- An exponent: a mark, a sign and at least two digits. -/
def exponentText (e : Int) : List Char :=
  let digits := Nat.toDigits 10 e.natAbs
  'e' :: (if e < 0 then '-' else '+') :: (List.replicate (2 - digits.length) '0' ++ digits)

/-- Digits whose first one counts `10 ^ lead`: positional from `10 ^ -4` up to below `10 ^ 16`, with
at least one decimal place, and with an exponent otherwise. -/
def layout (digits : List Char) (lead : Int) : List Char :=
  if lead < -4 ∨ 16 ≤ lead then
    match digits with
    | d :: rest => d :: ((if rest.isEmpty then [] else '.' :: rest) ++ exponentText lead)
    | [] => []
  else if lead < 0 then '0' :: '.' :: (List.replicate (-lead - 1).toNat '0' ++ digits)
  else
    let places := lead.toNat + 1
    let whole := digits.take places ++ List.replicate (places - digits.length) '0'
    let fraction := digits.drop places
    whole ++ '.' :: (if fraction.isEmpty then ['0'] else fraction)

/-- The text of a finite number without its sign. -/
def magnitudeText (mantissa : Nat) (exponent : Int) : List Char :=
  if mantissa = 0 then ['0', '.', '0']
  else
    let d := shortest mantissa exponent
    let digits := Nat.toDigits 10 d.digits
    layout (dropTrailingZeros digits) (d.scale + digits.length - 1)

/-- The text of a number, where `spelling` names what has no digits. -/
def textAs (spelling : Spelling) : Binary64 → String
  | .nan => spelling.nan
  | .infinite negative => (if negative then "-" else "") ++ spelling.infinity
  | .finite negative mantissa exponent =>
    (if negative then "-" else "") ++ String.ofList (magnitudeText mantissa exponent)

def literal (x : Binary64) : String := x.textAs .literal

/-- The JSON text of a number. -/
def json (x : Binary64) : String := x.textAs .json

end Runbook.Binary64
