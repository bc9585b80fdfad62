import DebugSession.Json.Basic
/-!
Reading values of a known type from JSON, and what is wrong with those that do not suit.
-/

namespace DebugSession.Json

/-- Why a value is not what a reader expects. -/
inductive Mismatch where
  | type (found expected : String)
  | value (found expected : String)
  | length (found : Nat) (expected : String)
  | missing (field : String)
  | repeated (field : String)
  deriving DecidableEq, Repr

def Mismatch.message : Mismatch → String
  | .type found expected => s!"invalid type: {found}, expected {expected}"
  | .value found expected => s!"invalid value: {found}, expected {expected}"
  | .length found expected => s!"invalid length {found}, expected {expected}"
  | .missing field => "missing field `" ++ field ++ "`"
  | .repeated field => "duplicate field `" ++ field ++ "`"

/-- How a value of the wrong kind is named. -/
def describe : Json → String
  | .null => "null"
  | .bool b => "boolean `" ++ (if b then "true" else "false") ++ "`"
  | .num (.whole n) => "integer `" ++ Number.renderInt n ++ "`"
  | .num (.floating bits) => "floating point `" ++ renderFloating bits ++ "`"
  | .str s => "string " ++ Text.inspect s
  | .arr _ => "sequence"
  | .obj _ => "map"

abbrev Reader (α : Type) := Json → Except Mismatch α

def readBool : Reader Bool
  | .bool b => .ok b
  | j => .error (.type j.describe "a boolean")

def readString : Reader String
  | .str s => .ok s
  | j => .error (.type j.describe "a string")

/-- A whole number between two bounds; `kind` names the type they make. -/
def readWhole (kind : String) (lo hi : Int) : Reader Int
  | .num (.whole n) =>
    if lo ≤ n && n ≤ hi then .ok n else .error (.value (ofInt n).describe kind)
  | j => .error (.type j.describe kind)

/-- A whole number of a width in bits. -/
def readSigned (kind : String) (bits : Nat) : Reader Int :=
  readWhole kind (Number.minSigned bits) (Number.maxSigned bits)

/-- A whole number of a width in bits that is not negative. -/
def readUnsigned (kind : String) (bits : Nat) : Reader Nat := fun j =>
  (readWhole kind 0 (Number.maxUnsigned bits) j).map Int.toNat

def readInt64 : Reader Int64 := fun j =>
  (readSigned "i64" 64 j).map Int64.ofInt

def readInt32 : Reader Int32 := fun j =>
  (readSigned "i32" 32 j).map Int32.ofInt

def readUInt32 : Reader UInt32 := fun j =>
  (readUnsigned "u32" 32 j).map Nat.toUInt32

/-- A number of things, in 64 bits. -/
def readSize : Reader UInt64 := fun j =>
  (readUnsigned "usize" 64 j).map Nat.toUInt64

def readOption (read : Reader α) : Reader (Option α)
  | .null => .ok none
  | j => (read j).map some

def readList (read : Reader α) : Reader (List α)
  | .arr items => items.mapM read
  | j => .error (.type j.describe "a sequence")

def readAny : Reader Json := fun j => .ok j.canonical

end DebugSession.Json
