import DebugSession.Number.Decimal
import DebugSession.Text.Escape
/-!
Values in JSON, and their text.
-/

namespace DebugSession

/-- A number: whole, or in double precision by its bits. -/
inductive Json.Number where
  | whole (n : Int)
  | floating (bits : Nat)
  deriving DecidableEq, Repr, Inhabited

/-- A value. The entries of an object keep their order and may repeat a key. -/
inductive Json where
  | null
  | bool (b : Bool)
  | num (n : Json.Number)
  | str (s : String)
  | arr (items : List Json)
  | obj (entries : List (String × Json))
  deriving Repr, Inhabited

namespace Json

def ofInt (n : Int) : Json := .num (.whole n)

def ofNat (n : Nat) : Json := .num (.whole n)

def ofOption (f : α → Json) : Option α → Json
  | none => .null
  | some a => f a

/-- The last entry for a key counts. -/
def get? (key : String) : Json → Option Json
  | .obj entries => (entries.reverse.find? fun e => e.1 = key).map (·.2)
  | _ => none

/-- Puts an entry in its place among sorted ones, over an earlier one of its key. -/
def insertSorted (key : String) (value : Json) : List (String × Json) → List (String × Json)
  | [] => [(key, value)]
  | (k, v) :: rest =>
    if key < k then (key, value) :: (k, v) :: rest
    else if key = k then (key, value) :: rest
    else (k, v) :: insertSorted key value rest

mutual

/-- The same value with every object's keys sorted and the last entry of a repeated key kept. -/
def canonical : Json → Json
  | .arr items => .arr (canonicalItems items)
  | .obj entries => .obj (canonicalEntries entries [])
  | j => j

def canonicalItems : List Json → List Json
  | [] => []
  | j :: rest => canonical j :: canonicalItems rest

def canonicalEntries : List (String × Json) → List (String × Json) → List (String × Json)
  | [], sorted => sorted
  | (k, v) :: rest, sorted => canonicalEntries rest (insertSorted k (canonical v) sorted)

end

/-! ## Text -/

/-- A character of a string: the quote, the backslash and controls have escapes. -/
def escapeChar (c : Char) : List Char :=
  if c = '"' || c = '\\' then ['\\', c]
  else if c = '\n' then ['\\', 'n']
  else if c = '\r' then ['\\', 'r']
  else if c = '\t' then ['\\', 't']
  else if c = '\x08' then ['\\', 'b']
  else if c = '\x0c' then ['\\', 'f']
  else if c.toNat < 0x20 then
    let digits := Text.hexDigits c.toNat
    ['\\', 'u'] ++ List.replicate (4 - digits.length) '0' ++ digits
  else [c]

def quote (s : String) : String :=
  String.ofList ('"' :: (s.toList.flatMap escapeChar ++ ['"']))

/-- Floating point numbers keep a point or an exponent, so that they read back as such. From
`1e-5` up to `1e16` they are positional; an exponent has its sign. -/
def renderFloating (bits : Nat) : String :=
  match finite? bits with
  | none => "null"
  | some (negative, d) =>
    let digits := Nat.repr d.digits
    let point := d.exponent + digits.length
    let sign := if negative then "-" else ""
    let text :=
      if d.digits = 0 then "0.0"
      else if 0 ≤ d.exponent && point ≤ 16 then d.positional ++ ".0"
      else if -5 < point && point ≤ 16 then d.positional
      else
        let (first, rest) := (digits.toList.take 1, digits.toList.drop 1)
        let fraction := if rest.isEmpty then "" else "." ++ String.ofList rest
        let mark := if point ≤ 0 then "e" else "e+"
        String.ofList first ++ fraction ++ mark ++ Number.renderInt (point - 1)
    sign ++ text
where
  /-- The sign and the shortest decimal of a finite number. -/
  finite? (bits : Nat) : Option (Bool × Number.Decimal) :=
    match Number.BinaryFormat.double.classify bits with
    | .finite negative m e => some (negative, Number.Decimal.shortest .even .double m e)
    | _ => none

def renderNumber : Number → String
  | .whole n => Number.renderInt n
  | .floating bits => renderFloating bits

mutual

/-- The text of a value, without blanks. -/
def render : Json → String
  | .null => "null"
  | .bool b => if b then "true" else "false"
  | .num n => renderNumber n
  | .str s => quote s
  | .arr items => "[" ++ String.intercalate "," (renderItems items) ++ "]"
  | .obj entries => "\x7b" ++ String.intercalate "," (renderEntries entries) ++ "\x7d"

def renderItems : List Json → List String
  | [] => []
  | j :: rest => render j :: renderItems rest

def renderEntries : List (String × Json) → List String
  | [] => []
  | (k, v) :: rest => (quote k ++ ":" ++ render v) :: renderEntries rest

end

end Json
end DebugSession
