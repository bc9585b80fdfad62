import DebugSession.Number.Binary
import DebugSession.Number.Numeral
/-!
Floating point numbers as decimals: the fewest digits that read back, and reading any decimal.
-/

namespace DebugSession.Number

/-- The number `digits * 10 ^ exponent`. -/
structure Decimal where
  digits : Nat
  exponent : Int
  deriving DecidableEq, Repr

namespace Decimal

/-- Which of two decimals that are equally near is chosen. -/
inductive Tie where
  /-- The larger one. -/
  | up
  /-- The one whose last digit is even. -/
  | even
  deriving DecidableEq, Repr

/-- Whether the lower one of two neighbours is chosen, of which the other is equally near. -/
def Tie.isLower : Tie → (below : Nat) → Bool
  | up, _ => false
  | even, below => below % 2 = 0

/-- Moves the zeros at the end of the digits to the exponent; `n` bounds their number. -/
def strip : Nat → Decimal → Decimal
  | 0, d => d
  | n + 1, d =>
    if d.digits ≠ 0 && d.digits % 10 = 0 then strip n ⟨d.digits / 10, d.exponent + 1⟩ else d

/-- The exponent of the power of ten at or below `num / den`. -/
def magnitude (num den : Nat) : Int :=
  if den ≤ num then (digitCount (num / den) : Int) - 1
  else
    Int.neg (digitCount ((den + num - 1) / num - 1))

/-- A number between two others, all with one denominator: what lies between `lo` and `hi` reads
back as it, the ends too where `closed`. -/
structure Interval where
  num : Nat
  lo : Nat
  hi : Nat
  den : Nat
  closed : Bool

/-- The interval of `m * 2 ^ e` over `2 ^ bias` among the numbers of a format. The gap below a
power of two is half as wide. -/
def Interval.ofFinite (f : BinaryFormat) (m e : Nat) : Interval :=
  let scale := twoPow e
  let den := 4 * twoPow f.exponentBias
  let below := if m = twoPow f.fractionBits && e ≠ 0 then 4 * m - 1 else 4 * m - 2
  ⟨4 * m * scale, below * scale, (4 * m + 2) * scale, den, m % 2 = 0⟩

/-- Whether `d * 10 ^ k` lies in the interval. -/
def Interval.holds (i : Interval) (d : Nat) (k : Int) : Bool :=
  let scale := if k < 0 then tenPow (-k).toNat else 1
  let v := (if k < 0 then d else d * tenPow k.toNat) * i.den
  if i.closed then i.lo * scale ≤ v && v ≤ i.hi * scale
  else i.lo * scale < v && v < i.hi * scale

/-- Tries the two neighbours of the number among the decimals of `n` digits, then of more. The
nearer one wins where both read back. -/
def Interval.search (tie : Tie) (i : Interval) (top : Int) : (more n : Nat) → Decimal
  | 0, n => ⟨0, top - n⟩
  | more + 1, n =>
    let k : Int := top - n + 1
    let num := if k < 0 then i.num * tenPow (-k).toNat else i.num
    let den := if k < 0 then i.den else i.den * tenPow k.toNat
    let below := num / den
    let rest := num % den
    let lower := rest = 0 || i.holds below k
    let upper := rest ≠ 0 && i.holds (below + 1) k
    let isNearer := 2 * rest < den || (2 * rest = den && tie.isLower below)
    if lower && (!upper || isNearer) then ⟨below, k⟩
    else if upper then ⟨below + 1, k⟩
    else i.search tie top more (n + 1)

/-- The decimal of fewest digits that reads back as `m * 2 ^ e` over the format's bias, and of those
the nearest. Seventeen digits are always enough. -/
def shortest (tie : Tie) (f : BinaryFormat) (m e : Nat) : Decimal :=
  if m = 0 then ⟨0, 0⟩
  else
    let i := Interval.ofFinite f m e
    strip 400 (i.search tie (magnitude i.num i.den) 17 1)

/-- All digits before and after the point, none of them spent on an exponent. -/
def positional (d : Decimal) : String :=
  let digits := Nat.repr d.digits
  if 0 ≤ d.exponent then digits ++ String.ofList (List.replicate d.exponent.toNat '0')
  else
    let places := (-d.exponent).toNat
    let padded := String.ofList (List.replicate (places + 1 - digits.length) '0') ++ digits
    let cut := padded.length - places
    String.ofList (padded.toList.take cut) ++ "." ++ String.ofList (padded.toList.drop cut)

end Decimal

/-! ## Reading -/

/-- The longest run of digits at the front, and the rest. -/
def splitDigits (cs : List Char) : List Char × List Char :=
  (cs.takeWhile Char.isDigit, cs.dropWhile Char.isDigit)

/-- The value of a text that holds ASCII digits only; no digit is zero. -/
def digitsValue (cs : List Char) : Nat := (readDigitsFrom 10 0 cs).getD 0

/-- An exponent after its mark: an optional sign and at least one digit. -/
def readExponent (cs : List Char) : Option Int :=
  let (negative, digits) := match cs with
    | '-' :: rest => (true, rest)
    | '+' :: rest => (false, rest)
    | _ => (false, cs)
  if digits.isEmpty || !digits.all Char.isDigit then none
  else some (if negative then -(digitsValue digits : Int) else digitsValue digits)

/-- Digits with an optional point and exponent; at least one digit stands beside the point. -/
def readDecimal (cs : List Char) : Option Decimal := do
  let (whole, rest) := splitDigits cs
  let (fraction, rest) := match rest with
    | '.' :: rest => splitDigits rest
    | _ => ([], rest)
  if whole.isEmpty && fraction.isEmpty then none
  let exponent ← match rest with
    | [] => some 0
    | c :: rest => if c = 'e' || c = 'E' then readExponent rest else none
  return ⟨digitsValue (whole ++ fraction), exponent - fraction.length⟩

/-- The bits of the number of the format nearest to a decimal. Exponents far outside every
format's range are not computed. -/
def Decimal.toBits (f : BinaryFormat) (d : Decimal) : Nat :=
  let top := d.exponent + digitCount d.digits
  if d.digits = 0 || top < -400 then 0
  else if 400 < top then f.infinity
  else if 0 ≤ d.exponent then f.ofQuotient (d.digits * tenPow d.exponent.toNat) 1
  else f.ofQuotient d.digits (tenPow (-d.exponent).toNat)

/-- A floating point number as people write it: an optional sign, then a decimal, an infinity or
the number that is none, in letters of either case. -/
def readFloat (f : BinaryFormat) (cs : List Char) : Option Nat := do
  let (sign, rest) := match cs with
    | '-' :: rest => (f.signBit, rest)
    | '+' :: rest => (0, rest)
    | _ => (0, cs)
  let word := String.ofList (rest.map Char.toLower)
  let magnitude ←
    if word = "inf" || word = "infinity" then some f.infinity
    else if word = "nan" then some f.notANumber
    else (readDecimal rest).map (·.toBits f)
  return sign + magnitude

/-! ## Writing -/

/-- Every finite number in positional notation, whole ones without a point. -/
def renderDouble (bits : Nat) : String :=
  match BinaryFormat.double.classify bits with
  | .notANumber => "NaN"
  | .infinite negative => if negative then "-inf" else "inf"
  | .finite negative m e =>
    (if negative then "-" else "") ++ (Decimal.shortest .up .double m e).positional

/-- A finite number with a point in it, or in scientific notation when it is below a ten-thousandth
or has more than sixteen digits before the point. -/
def Decimal.inspect (d : Decimal) : String :=
  let digits := (Nat.repr d.digits).toList
  let power : Int := d.exponent + digits.length - 1
  if d.digits = 0 then "0.0"
  else if -4 ≤ power && power < 16 then
    if 0 ≤ d.exponent then d.positional ++ ".0" else d.positional
  else
    let fraction := if digits.length = 1 then [] else '.' :: digits.tail
    String.ofList (digits.take 1 ++ fraction) ++ "e" ++ renderInt power

/-- A number of a format as it is shown to a developer. -/
def inspectFloating (f : BinaryFormat) (bits : Nat) : String :=
  match f.classify bits with
  | .notANumber => "NaN"
  | .infinite negative => if negative then "-inf" else "inf"
  | .finite negative m e =>
    (if negative then "-" else "") ++ (Decimal.shortest .up f m e).inspect

end DebugSession.Number
