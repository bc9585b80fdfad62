import DebugSession.Number.Power
/-!
Binary floating point numbers by their bits. A format is given by the widths of its two fields;
all arithmetic is on whole numbers, and rounding goes to the nearest number, ties to the even one.
-/

namespace DebugSession.Number

/-- Widths of the fraction and of the exponent. -/
structure BinaryFormat where
  fractionBits : Nat
  exponentBits : Nat

namespace BinaryFormat

def single : BinaryFormat := ⟨23, 8⟩

def double : BinaryFormat := ⟨52, 11⟩

variable (f : BinaryFormat)

/-- The value of the exponent field that marks infinities and numbers that are none. -/
def specialExponent : Nat := twoPow f.exponentBits - 1

/-- A number `m * 2 ^ e` of the format has `e` no smaller than minus this. -/
def exponentBias : Nat := twoPow (f.exponentBits - 1) - 2 + f.fractionBits

def signBit : Nat := twoPow (f.fractionBits + f.exponentBits)

def infinity : Nat := f.specialExponent * twoPow f.fractionBits

/-- The number that is none, with the quiet bit set. -/
def notANumber : Nat := f.infinity + twoPow (f.fractionBits - 1)

end BinaryFormat

/-- What bits stand for. A finite number is `m * 2 ^ (e - bias)`, negative or not. -/
inductive Float.Class where
  | notANumber
  | infinite (negative : Bool)
  | finite (negative : Bool) (m e : Nat)
  deriving DecidableEq, Repr

/-- The meaning of `bits`; `e` counts from the format's smallest exponent. -/
def BinaryFormat.classify (f : BinaryFormat) (bits : Nat) : Float.Class :=
  let negative := bits / f.signBit % 2 = 1
  let exponent := bits / twoPow f.fractionBits % twoPow f.exponentBits
  let fraction := bits % twoPow f.fractionBits
  if exponent = f.specialExponent then
    if fraction = 0 then .infinite negative else .notANumber
  else if exponent = 0 then .finite negative fraction 0
  else .finite negative (fraction + twoPow f.fractionBits) (exponent - 1)

/-- `num / den` to the nearest whole number, ties to the even one. -/
def roundQuotient (num den : Nat) : Nat :=
  let q := num / den
  let r := num % den
  if 2 * r > den || (2 * r = den && q % 2 = 1) then q + 1 else q

/-- The bits of the number nearest to `num / den`, without a sign; too large is infinite. -/
def BinaryFormat.ofQuotient (f : BinaryFormat) (num den : Nat) : Nat :=
  if num = 0 || den = 0 then 0
  else
    -- `num / den` lies between `2 ^ (k - 1)` and `2 ^ (k + 1)` for this `k`, shifted by the bias
    let k := num.log2 + f.exponentBias + 1 - den.log2
    let guess := k - (f.fractionBits + 1)
    let num := num * twoPow f.exponentBias
    let e := if num < den * twoPow (guess + f.fractionBits) then guess - 1 else guess
    let m := roundQuotient num (den * twoPow e)
    -- a carry out of the fraction moves on to the exponent by plain addition
    let bits := if m < twoPow f.fractionBits then m else e * twoPow f.fractionBits + m
    min bits f.infinity

/-- The number a pair of bits in single precision stands for, in double precision. -/
def widen (bits : Nat) : Nat :=
  let sign (negative : Bool) : Nat := if negative then BinaryFormat.double.signBit else 0
  match BinaryFormat.single.classify bits with
  | .notANumber => BinaryFormat.double.notANumber
  | .infinite negative => sign negative + BinaryFormat.double.infinity
  | .finite negative m e =>
    sign negative +
      BinaryFormat.double.ofQuotient (m * twoPow e) (twoPow BinaryFormat.single.exponentBias)

/-- The bits of the product (`up`) or the quotient of a finite number and a positive one,
rounded. -/
def scaleDouble (bits scale : Nat) (up : Bool) : Nat :=
  let f := BinaryFormat.double
  match f.classify bits, f.classify scale with
  | .finite _ m e, .finite _ m' e' =>
    if up then f.ofQuotient (m * m' * twoPow (e + e')) (twoPow (2 * f.exponentBias))
    else f.ofQuotient (m * twoPow e) (m' * twoPow e')
  | _, _ => bits

theorem roundQuotient_le (num den : Nat) : roundQuotient num den ≤ num / den + 1 := by
  unfold roundQuotient
  simp only
  split <;> omega

theorem le_roundQuotient (num den : Nat) : num / den ≤ roundQuotient num den := by
  unfold roundQuotient
  simp only
  split <;> omega

end DebugSession.Number
