import DebugSession.Json.Reader
/-!
Types with a form in JSON. A record's form is given once, by the list of its fields, and both
directions follow from it. It is written as an object, in the order of its fields. It is read from
an object, whose other keys do not matter, or from the list of its fields.
-/

namespace DebugSession.Json

class Format (α : Type) where
  read : Reader α
  write : α → Json

export Format (write)

instance : Format Bool := ⟨readBool, .bool⟩
instance : Format String := ⟨readString, .str⟩
instance : Format Int64 := ⟨readInt64, fun n => ofInt n.toInt⟩
instance : Format Int32 := ⟨readInt32, fun n => ofInt n.toInt⟩
instance : Format UInt32 := ⟨readUInt32, fun n => ofNat n.toNat⟩
/-- Numbers of things, in 64 bits. -/
instance : Format UInt64 := ⟨readSize, fun n => ofNat n.toNat⟩
instance : Format Json := ⟨readAny, id⟩
instance [Format α] : Format (List α) := ⟨readList Format.read, fun xs => .arr (xs.map write)⟩
instance [Format α] : Format (Option α) := ⟨readOption Format.read, ofOption write⟩

/-! ## Fields -/

/-- A field of a record: its form, which may leave it out, and what it is in an object without its
key, or in a list that ends before it. -/
structure Field (α : Type) where
  name : String
  read : Reader α
  write : α → Option Json
  absent : Option α := none
  short : Option α := absent

namespace Field

variable {α : Type} [Format α]

def required (name : String) : Field α :=
  { name, read := Format.read, write := fun a => some (Json.write a) }

/-- A field that may be missing, or null, and is left out when it has no value. -/
def optional (name : String) : Field (Option α) :=
  { name
    read := Format.read
    write := Option.map Json.write
    absent := some none
    short := none }

/-- A field that may be missing, or null, and is written as null when it has no value. -/
def nullable (name : String) : Field (Option α) :=
  { (required name : Field (Option α)) with
    absent := some none
    short := none }

/-- A field that may be missing, but not null. -/
def defaulting (name : String) (default : α) : Field α :=
  { (required name : Field α) with absent := some default, short := some default }

/-- A list that may be missing and is left out when it is empty. -/
def listed (name : String) : Field (List α) :=
  { name
    read := Format.read
    write := fun xs => if xs.isEmpty then none else some (Json.write xs)
    absent := some [] }

end Field

/-- The fields of a record, in the order of their declaration. -/
inductive Schema : Type → Type 1 where
  | done : Schema Unit
  | field (f : Field α) (rest : Schema β) : Schema (α × β)

/-- A record under way: its entries and, if it is read from a list, how many fields were expected
and what a record with so many is called. -/
structure Row where
  entries : List (String × Json)
  listed : Option String

namespace Schema

/-- The names of the fields, and whether a value suits each. -/
def checks : Schema α → List (String × Reader Unit)
  | .done => []
  | .field f rest => (f.name, fun j => (f.read j).map fun _ => ()) :: rest.checks

/-- The value of a field; `index` is its place among all. -/
def get (row : Row) (index : Nat) (f : Field α) : Except Mismatch α :=
  match row.entries.find? fun e => e.1 = f.name, row.listed with
  | some (_, j), _ => f.read j
  | none, none =>
    match f.absent with
    | some a => .ok a
    | none => .error (.missing f.name)
  | none, some expected =>
    match f.short with
    | some a => .ok a
    | none => .error (.length index expected)

/-- The values of all fields, so that of several missing ones the first is reported. -/
def build (row : Row) : Nat → Schema α → Except Mismatch α
  | _, .done => .ok ()
  | index, .field f rest => do
    let a ← get row index f
    let b ← rest.build row (index + 1)
    return (a, b)

/-- Goes through an object's entries in order and reports the first that is bad or repeated. -/
def visit (checks : List (String × Reader Unit)) : (seen : List String) →
    List (String × Json) → Except Mismatch Unit
  | _, [] => .ok ()
  | seen, (k, j) :: rest =>
    match checks.find? fun c => c.1 = k with
    | none => visit checks seen rest
    | some (_, check) => do
      if seen.contains k then throw (.repeated k)
      check j
      visit checks (k :: seen) rest

def read (name : String) (schema : Schema α) : Reader α
  | .obj entries => do
    visit schema.checks [] entries
    schema.build ⟨entries, none⟩ 0
  | .arr items => do
    let names := schema.checks.map (·.1)
    let count := names.length
    let expected := s!"struct {name} with {count} element" ++ (if count = 1 then "" else "s")
    let result ← schema.build ⟨names.zip items, some expected⟩ 0
    if count < items.length then throw (.length items.length "fewer elements in array")
    return result
  | j => .error (.type j.describe ("struct " ++ name))

/-- The entries of a record, less those that are left out. -/
def entries : Schema α → α → List (String × Json)
  | .done, _ => []
  | .field f rest, (a, b) =>
    match f.write a with
    | some j => (f.name, j) :: rest.entries b
    | none => rest.entries b

end Schema

/-- A record of type `ρ` by its name and the form of its fields. -/
@[reducible] def record (name : String) (schema : Schema α) (ofFields : α → ρ) (toFields : ρ → α) :
    Format ρ where
  read j := (schema.read name j).map ofFields
  write r := .obj (schema.entries (toFields r))

/-- A type with its form. -/
structure Form where
  Value : Type
  [format : Format Value]

namespace Form

def read (form : Form) : Reader form.Value := form.format.read

def write (form : Form) : form.Value → Json := form.format.write

/-- Reads a value and writes what has been read. -/
def rewrite (form : Form) : Reader Json := fun j => (form.read j).map form.write

end Form

end DebugSession.Json
