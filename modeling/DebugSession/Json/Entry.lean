import DebugSession.Json.Record
/-!
Entries of objects one at a time, for types whose form in JSON depends on what they hold.
-/

namespace DebugSession.Json

/-- Numbers that are not negative, in 64 bits. -/
instance : Format Nat := ⟨readUnsigned "u64" 64, ofNat⟩

instance : Format Int := ⟨readSigned "i64" 64, ofInt⟩

/-- The value of a key; one that is missing counts as null. -/
def member {α : Type} [Format α] (j : Json) (key : String) : Except Mismatch α :=
  Format.read ((j.get? key).getD .null)

/-- The value of a key, or another one if it is missing or null. -/
def memberOr {α : Type} [Format α] (j : Json) (key : String) (default : α) : Except Mismatch α := do
  let found : Option α ← j.member key
  return found.getD default

def entry {α : Type} [Format α] (key : String) (a : α) : String × Json := (key, write a)

/-- What is none of the things that were expected. -/
def unexpected {α : Type} (j : Json) (expected : String) : Except Mismatch α :=
  .error (.value j.describe expected)

/-- A list of three values. -/
def readTriple {α β γ : Type} [Format α] [Format β] [Format γ] : Reader (α × β × γ)
  | .arr [a, b, c] => return (← Format.read a, ← Format.read b, ← Format.read c)
  | j => j.unexpected "three values"

end DebugSession.Json
