import DebugSession.Number.Numeral
import DebugSession.Text.Blank
/-!
Conditions on the number of times a breakpoint has been hit.
-/

namespace DebugSession

inductive HitCondition where
  | below (n : UInt32)
  | atMost (n : UInt32)
  | exactly (n : UInt32)
  | atLeast (n : UInt32)
  | above (n : UInt32)
  /-- Every n-th hit. -/
  | every (n : UInt32)
  deriving DecidableEq, Repr

namespace HitCondition

def isMet (count : UInt32) : HitCondition → Bool
  | below n => count < n
  | atMost n => count ≤ n
  | exactly n => count = n
  | atLeast n => n ≤ count
  | above n => n < count
  | every n => count % n = 0

/-- The same where nothing is divided by zero; there is no answer then. -/
def isMet? (count : UInt32) : HitCondition → Option Bool
  | every n => if n = 0 then none else some (count % n = 0)
  | condition => some (condition.isMet count)

theorem isMet?_eq_some_iff {condition : HitCondition} {count : UInt32} :
    condition.isMet? count = some (condition.isMet count) ↔ condition ≠ every 0 := by
  cases condition <;> simp [isMet?, isMet]

/-- Why a text is no condition. -/
inductive Fault where
  | malformed (text : String)
  | zeroModulus
  deriving DecidableEq, Repr

def Fault.message : Fault → String
  | .malformed text => s!"Invalid hit condition: {text}"
  | .zeroModulus => "Hit condition modulus must be positive"

/-- The operators; one that another starts with comes after it. -/
def operators : List (List Char × (UInt32 → HitCondition)) :=
  [(['<', '='], atMost), (['<'], below), (['=', '='], exactly), (['='], exactly),
    (['>', '='], atLeast), (['>'], above), (['%'], every)]

/-- The operator that a text starts with and what stands behind it. A number alone is the least
count. -/
def split (cs : List Char) : (UInt32 → HitCondition) × List Char :=
  let found := operators.findSome? fun (sign, make) =>
    (Text.after? sign cs).map fun rest => (make, Text.trimStart rest)
  found.getD (atLeast, cs)

def parse (text : String) : Except Fault HitCondition :=
  let cs := Text.trim text.toList
  let (make, digits) := split cs
  match Number.readNatUpTo (Number.maxUnsigned 32) digits with
  | none => .error (.malformed (String.ofList cs))
  | some n =>
    let condition := make n.toUInt32
    if condition = every 0 then .error .zeroModulus else .ok condition

end HitCondition
end DebugSession
