import DebugSession.Number.Power
/-!
Whole numbers written in digits.
-/

namespace DebugSession.Number

/-- The value of an ASCII digit below `radix`. -/
def digit? (radix : Nat) (c : Char) : Option Nat :=
  let value? : Option Nat :=
    if '0' ≤ c && c ≤ '9' then some (c.toNat - '0'.toNat)
    else if 'a' ≤ c && c ≤ 'z' then some (c.toNat - 'a'.toNat + 10)
    else if 'A' ≤ c && c ≤ 'Z' then some (c.toNat - 'A'.toNat + 10)
    else none
  value?.filter (· < radix)

/-- Continues a number whose digits so far have the value `acc`. -/
def readDigitsFrom (radix acc : Nat) : List Char → Option Nat
  | [] => some acc
  | c :: cs =>
    match digit? radix c with
    | some d => readDigitsFrom radix (acc * radix + d) cs
    | none => none

/-- One digit or more, and nothing else. -/
def readDigits (radix : Nat) (cs : List Char) : Option Nat :=
  if cs.isEmpty then none else readDigitsFrom radix 0 cs

/-- A decimal number without a minus sign that is at most `max`. -/
def readNatUpTo (max : Nat) (cs : List Char) : Option Nat :=
  let digits := match cs with
    | '+' :: rest => rest
    | _ => cs
  (readDigits 10 digits).filter (· ≤ max)

/-- A number with an optional sign that fits in 64 bits. -/
def readInt64 (radix : Nat) (cs : List Char) : Option Int :=
  let value? : Option Int := match cs with
    | '+' :: rest => (readDigits radix rest).map Int.ofNat
    | '-' :: rest => (readDigits radix rest).map fun n : Nat => -(n : Int)
    | _ => (readDigits radix cs).map Int.ofNat
  value?.filter (fitsSigned 64)

/-- A whole number as decimal digits with a minus sign where it is negative. -/
def renderInt (n : Int) : String :=
  match n with
  | .ofNat m => Nat.repr m
  | .negSucc m => "-" ++ Nat.repr (m + 1)

/-- How many decimal digits a number has; zero has none. -/
def digitCount (n : Nat) : Nat := if n = 0 then 0 else (Nat.toDigits 10 n).length

theorem readDigitsFrom_append (radix acc : Nat) (a b : List Char) :
    readDigitsFrom radix acc (a ++ b) =
      (readDigitsFrom radix acc a).bind fun acc => readDigitsFrom radix acc b := by
  induction a generalizing acc with
  | nil => rfl
  | cons c a ih =>
    simp only [List.cons_append, readDigitsFrom]
    cases digit? radix c with
    | none => rfl
    | some d => exact ih _

end DebugSession.Number
