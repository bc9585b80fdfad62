/-!
Values in TOML, and how the lines of a document come together in one table.
-/

namespace DebugSession

/-- How a table came about, which decides what may be added to it later. -/
inductive Toml.Origin where
  /-- Named by a header. -/
  | header
  /-- Only named on the way to another table. -/
  | implied
  /-- By a key with dots. -/
  | dotted
  /-- Between braces, complete. -/
  | inline
  deriving DecidableEq, Repr

/-- A value. Of numbers that are not whole, and of dates and times, only the kind is kept. -/
inductive Toml where
  | str (s : String)
  | int (n : Int)
  | bool (b : Bool)
  | float
  | datetime
  | arr (items : List Toml)
  | table (origin : Toml.Origin) (entries : List (String × Toml))
  /-- Tables that repeat one header in double brackets, the last one first. -/
  | tables (reversed : List (List (String × Toml)))
  deriving Repr, Inhabited

namespace Toml

abbrev Entries := List (String × Toml)

def find? (key : String) (entries : Entries) : Option Toml :=
  (entries.find? fun e => e.1 = key).map (·.2)

def set (key : String) (value : Toml) : Entries → Entries
  | [] => [(key, value)]
  | (k, v) :: rest => if k = key then (k, value) :: rest else (k, v) :: set key value rest

/-- Adds a value under a path of keys. `here` says whether this table came about by dots, and
`first` whether the path is still whole. -/
def addValue (here first : Bool) : (path : List String) → Toml → Entries → Option Entries
  | [], _, _ => none
  | [key], value, entries =>
    if (find? key entries).isSome || (!first && !here) then none
    else some (entries ++ [(key, value)])
  | key :: path, value, entries =>
    match find? key entries with
    | none => do
      let inner ← addValue true false path value []
      return entries ++ [(key, .table .dotted inner)]
    | some (.table origin inner) =>
      if origin = .dotted || origin = .implied then do
        let inner ← addValue (origin = .dotted) false path value inner
        return set key (.table origin inner) entries
      else none
    | some (.tables (inner :: earlier)) => do
      let inner ← addValue false false path value inner
      return set key (.tables (inner :: earlier)) entries
    | some _ => none

/-- Applies `f` to the entries of the table at a path of headers, creating what is missing. -/
def atPath (f : Entries → Option Entries) : (path : List String) → Entries → Option Entries
  | [], entries => f entries
  | key :: path, entries =>
    match find? key entries with
    | none => do return entries ++ [(key, .table .implied (← atPath f path []))]
    | some (.table origin inner) =>
      if origin = .inline then none
      else do return set key (.table origin (← atPath f path inner)) entries
    | some (.tables (inner :: earlier)) => do
      return set key (.tables ((← atPath f path inner) :: earlier)) entries
    | some _ => none

/-- Opens the table of a header. It may have been named on the way to another one before. -/
def openTable (key : String) (entries : Entries) : Option Entries :=
  match find? key entries with
  | none => some (entries ++ [(key, .table .header [])])
  | some (.table .implied inner) => some (set key (.table .header inner) entries)
  | some _ => none

def openTables (key : String) (entries : Entries) : Option Entries :=
  match find? key entries with
  | none => some (entries ++ [(key, .tables [[]])])
  | some (.tables earlier) => some (set key (.tables ([] :: earlier)) entries)
  | some _ => none

inductive Line where
  | blank
  | header (path : List String)
  | repeatedHeader (path : List String)
  | entry (path : List String) (value : Toml)

/-- A document under way: its top table and the path of the header last seen. -/
structure Document where
  top : Entries := []
  path : List String := []

def Document.add (d : Document) : Line → Option Document
  | .blank => some d
  | .header path => do
    let key ← path.getLast?
    return ⟨← atPath (openTable key) path.dropLast d.top, path⟩
  | .repeatedHeader path => do
    let key ← path.getLast?
    return ⟨← atPath (openTables key) path.dropLast d.top, path⟩
  | .entry path value => do
    return { d with top := ← atPath (addValue false true path value) d.path d.top }

end Toml
end DebugSession
