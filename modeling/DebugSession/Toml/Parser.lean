import DebugSession.Number.Decimal
import DebugSession.Toml.Basic
/-!
Reading TOML text. A reader takes what it knows from the front of the text and leaves the rest.
-/

namespace DebugSession.Toml

/-- A reader of some front part of a text. -/
abbrev Reader (α : Type) := List Char → Option (α × List Char)

/-- How many brackets may be open at once, and how many keys a path may have. -/
def maxDepth : Nat := 79

def many (read : Reader α) (cs : List Char) : List α × List Char :=
  match read cs with
  | none => ([], cs)
  | some (a, rest) =>
    if rest.length < cs.length then
      let (as, rest) := many read rest
      (a :: as, rest)
    else ([], cs)
termination_by cs.length

def skipBlanks (cs : List Char) : List Char := cs.dropWhile fun c => c = ' ' || c = '\t'

/-- The text behind one given character. -/
def expect (c : Char) : List Char → Option (List Char)
  | d :: cs => if d = c then some cs else none
  | [] => none

/-- The text behind a line end. -/
def newline? : List Char → Option (List Char)
  | '\n' :: cs => some cs
  | '\r' :: '\n' :: cs => some cs
  | _ => none

/-- A character that may stand in a comment or in quotes. -/
def isPlain (c : Char) : Bool := c = '\t' || (0x20 ≤ c.toNat && c.toNat ≠ 0x7F)

def skipComment : List Char → List Char
  | '#' :: cs => cs.dropWhile isPlain
  | cs => cs

/-- Blanks, comments and line ends, as they may stand between the items of an array. -/
def skipGap (cs : List Char) : List Char :=
  let step : Reader Unit := fun cs =>
    let rest := skipComment (skipBlanks cs)
    some ((), (newline? rest).getD rest)
  (many step cs).2

/-! ## Strings -/

/-- A code point in `count` hexadecimal digits. -/
def codePoint (count : Nat) (cs : List Char) : Option (Char × List Char) := do
  let digits := cs.take count
  if digits.length < count then none
  let n ← Number.readDigits 16 digits
  if n.isValidChar then some (Char.ofNat n, cs.drop count) else none

def escape? : List Char → Option (Char × List Char)
  | 'b' :: cs => some ('\x08', cs)
  | 't' :: cs => some ('\t', cs)
  | 'n' :: cs => some ('\n', cs)
  | 'f' :: cs => some ('\x0c', cs)
  | 'r' :: cs => some ('\r', cs)
  | '"' :: cs => some ('"', cs)
  | '\\' :: cs => some ('\\', cs)
  | 'u' :: cs => codePoint 4 cs
  | 'U' :: cs => codePoint 8 cs
  | _ => none

def text (parts : List (List Char)) : String := String.ofList parts.flatten

/-- As many characters as stand for themselves up to one of the `stops`, at least one. -/
def run (stops : List Char) (cs : List Char) : Option (List Char × List Char) :=
  let found := cs.takeWhile fun c => !stops.contains c && isPlain c
  if found.isEmpty then none else some (found, cs.drop found.length)

def literalString (cs : List Char) : Option (String × List Char) := do
  let inside := cs.takeWhile fun c => c ≠ '\'' && isPlain c
  let rest ← expect '\'' (cs.drop inside.length)
  return (String.ofList inside, rest)

def basicString (cs : List Char) : Option (String × List Char) := do
  let part : Reader (List Char) := fun
    | '\\' :: cs => (escape? cs).map fun (c, cs) => ([c], cs)
    | cs => run ['"', '\\'] cs
  let (parts, rest) := many part cs
  return (text parts, ← expect '"' rest)

/-- What ends a text in triple quotes: three of them, with up to two more that belong to it. -/
def closing (quote : Char) (cs : List Char) : Option (List Char × List Char) :=
  let run := cs.takeWhile (· = quote)
  if 3 ≤ run.length then
    let extra := min (run.length - 3) 2
    some (List.replicate extra quote, cs.drop (3 + extra))
  else none

/-- A text in triple quotes, whose first line end does not count. -/
def multiline (quote : Char) (part : Reader (List Char)) (cs : List Char) :
    Option (String × List Char) := do
  let cs := (newline? cs).getD cs
  let step : Reader (List Char) := fun cs =>
    if (closing quote cs).isSome then none
    else match newline? cs, cs with
      | some rest, _ => some (['\n'], rest)
      | none, c :: rest => if c = quote then some ([c], rest) else part cs
      | none, [] => none
  let (parts, rest) := many step cs
  let (extra, rest) ← closing quote rest
  return (text (parts ++ [extra]), rest)

/-- A part of a text in triple double quotes. A backslash at the end of a line takes the white
space up to the next character with it. -/
def multilinePart : Reader (List Char) := fun
  | '\\' :: cs =>
    match escape? cs with
    | some (c, rest) => some ([c], rest)
    | none => do
      let rest ← newline? (skipBlanks cs)
      let gap : Reader Unit := fun cs =>
        let after := skipBlanks cs
        some ((), (newline? after).getD after)
      return ([], (many gap rest).2)
  | cs => run ['"', '\\'] cs

def multilineLiteralPart : Reader (List Char) := run ['\'']

/-! ## Keys -/

def isBareKey (c : Char) : Bool := c.isAlphanum || c = '_' || c = '-'

def simpleKey (cs : List Char) : Option (String × List Char) :=
  match cs with
  | '"' :: rest => basicString rest
  | '\'' :: rest => literalString rest
  | _ =>
    let name := cs.takeWhile isBareKey
    if name.isEmpty then none else some (String.ofList name, cs.drop name.length)

/-- Keys with dots between them, not too many. -/
def keyPath (cs : List Char) : Option (List String × List Char) := do
  let (first, rest) ← simpleKey (skipBlanks cs)
  let more : Reader String := fun cs => do
    simpleKey (skipBlanks (← expect '.' (skipBlanks cs)))
  let (keys, rest) := many more rest
  if maxDepth < (first :: keys).length then none
  return (first :: keys, skipBlanks rest)

/-! ## Numbers, dates and times -/

/-- Digits with single underscores between them. -/
def grouped (radix : Nat) (cs : List Char) : Option (List Char) :=
  let digits := cs.filter (· ≠ '_')
  let wellPlaced := cs.head? ≠ some '_' && cs.getLast? ≠ some '_' &&
    (cs.zip cs.tail).all fun (a, b) => a ≠ '_' || b ≠ '_'
  if !digits.isEmpty && wellPlaced && digits.all fun c => (Number.digit? radix c).isSome then
    some digits
  else none

/-- Decimal digits without a superfluous zero in front. -/
def plainDigits (cs : List Char) : Option (List Char) := do
  let digits ← grouped 10 cs
  if digits.length > 1 && digits.head? = some '0' then none else some digits

def unsigned : List Char → Bool × List Char
  | '-' :: cs => (true, cs)
  | '+' :: cs => (false, cs)
  | cs => (false, cs)

def integer? (cs : List Char) : Option Toml := do
  let n : Int ← match cs with
    | '0' :: 'x' :: digits => do some (← Number.readDigits 16 (← grouped 16 digits)).cast
    | '0' :: 'o' :: digits => do some (← Number.readDigits 8 (← grouped 8 digits)).cast
    | '0' :: 'b' :: digits => do some (← Number.readDigits 2 (← grouped 2 digits)).cast
    | _ =>
      let (negative, digits) := unsigned cs
      do
        let n ← Number.readDigits 10 (← plainDigits digits)
        some (if negative then -(n : Int) else n)
  if Number.fitsSigned 64 n then some (.int n) else none

/-- A number with a fraction or an exponent, or a word for one that no digits name. Digits must not
go beyond the largest number in double precision, but they may fall below the least one. -/
def float? (cs : List Char) : Option Toml := do
  let (_, body) := unsigned cs
  if body = "inf".toList || body = "nan".toList then return .float
  let (mantissa, exponent) := body.span fun c => c ≠ 'e' && c ≠ 'E'
  let (whole, fraction) := mantissa.span (· ≠ '.')
  let _ ← plainDigits whole
  if exponent.isEmpty && fraction.isEmpty then none
  if !fraction.isEmpty then let _ ← grouped 10 fraction.tail
  if !exponent.isEmpty then let _ ← grouped 10 (unsigned exponent.tail).2
  let bits ← Number.readFloat .double (cs.filter (· ≠ '_'))
  if bits = Number.BinaryFormat.double.infinity then none else some .float

/-- A number of exactly `count` digits between two bounds, from the front of the text. -/
def fixed (count lo hi : Nat) (cs : List Char) : Option (Nat × List Char) := do
  let digits := cs.take count
  if digits.length < count || !digits.all Char.isDigit then none
  let n ← Number.readDigits 10 digits
  if lo ≤ n && n ≤ hi then some (n, cs.drop count) else none

def isLeapYear (y : Nat) : Bool := y % 4 = 0 && (y % 100 ≠ 0 || y % 400 = 0)

def daysInMonth (y m : Nat) : Nat :=
  if m = 2 then (if isLeapYear y then 29 else 28)
  else if m = 4 || m = 6 || m = 9 || m = 11 then 30
  else 31

def date (cs : List Char) : Option (List Char) := do
  let (y, cs) ← fixed 4 0 9999 cs
  let (m, cs) ← fixed 2 1 12 (← expect '-' cs)
  let (_, cs) ← fixed 2 1 (daysInMonth y m) (← expect '-' cs)
  return cs

def time (cs : List Char) : Option (List Char) := do
  let (_, cs) ← fixed 2 0 23 cs
  let (_, cs) ← fixed 2 0 59 (← expect ':' cs)
  let (_, cs) ← fixed 2 0 60 (← expect ':' cs)
  match cs with
  | '.' :: fraction =>
    let rest := fraction.dropWhile Char.isDigit
    if rest.length = fraction.length then none else some rest
  | _ => some cs

def offset (cs : List Char) : Option (List Char) :=
  match cs with
  | c :: cs =>
    if c = 'Z' || c = 'z' then some cs
    else if c = '+' || c = '-' then do
      let (_, cs) ← fixed 2 0 23 cs
      let (_, cs) ← fixed 2 0 59 (← expect ':' cs)
      return cs
    else none
  | [] => none

/-- A time, a date, or both with or without an offset from universal time. -/
def isDatetime (cs : List Char) : Bool :=
  match date cs with
  | none => time cs = some []
  | some [] => true
  | some (c :: rest) =>
    (c = 'T' || c = 't' || c = ' ') &&
      match time rest with
      | none => false
      | some rest => rest.isEmpty || offset rest = some []

def isWord (c : Char) : Bool :=
  c.isAlphanum || c = '_' || c = '-' || c = '+' || c = '.' || c = ':'

/-- A value of one word; a date and a time may have a blank between them. -/
def word (cs : List Char) : Option (Toml × List Char) :=
  let first := cs.takeWhile isWord
  let rest := cs.drop first.length
  let both := match rest with
    | ' ' :: more => first ++ ' ' :: more.takeWhile isWord
    | _ => first
  if both.length > first.length && isDatetime both then some (.datetime, cs.drop both.length)
  else if first = "true".toList then some (.bool true, rest)
  else if first = "false".toList then some (.bool false, rest)
  else if isDatetime first then some (.datetime, rest)
  else ((integer? first).orElse fun _ => float? first).map fun v => (v, rest)

/-! ## Values and lines -/

/-- A string of one of the four kinds. -/
def string (cs : List Char) : Option (String × List Char) :=
  match cs with
  | '"' :: '"' :: '"' :: cs => multiline '"' multilinePart cs
  | '\'' :: '\'' :: '\'' :: cs => multiline '\'' multilineLiteralPart cs
  | '"' :: cs => basicString cs
  | '\'' :: cs => literalString cs
  | _ => none

/-- Items with commas between them, and perhaps one behind the last. -/
def arrayItems (item : Reader Toml) (cs : List Char) : Option (Toml × List Char) :=
  match item (skipGap cs) with
  | none => do return (.arr [], ← expect ']' (skipGap cs))
  | some (first, rest) => do
    let next : Reader Toml := fun cs => do item (skipGap (← expect ',' (skipGap cs)))
    let (others, rest) := many next rest
    let rest := skipGap rest
    let rest := (expect ',' rest).getD rest
    return (.arr (first :: others), ← expect ']' (skipGap rest))

/-- A key path, an equals sign and a value. -/
def entry (value : Reader Toml) (cs : List Char) : Option ((List String × Toml) × List Char) := do
  let (path, rest) ← keyPath cs
  let (v, rest) ← value (skipBlanks (← expect '=' rest))
  return ((path, v), skipBlanks rest)

/-- The entries of a table between braces, none of them on a line of its own. -/
def inlineEntries (value : Reader Toml) (cs : List Char) : Option (Toml × List Char) := do
  let build (found : List (List String × Toml)) : Option Toml := do
    let entries ← found.foldlM (fun es (path, v) => addValue false true path v es) []
    return .table .inline entries
  match expect '\x7d' (skipBlanks cs) with
  | some rest => some (.table .inline [], rest)
  | none => do
    let (first, rest) ← entry value cs
    let more : Reader (List String × Toml) := fun cs => do entry value (← expect ',' cs)
    let (others, rest) := many more rest
    return (← build (first :: others), ← expect '\x7d' rest)

/-- A value with no other values in it. -/
def scalar (cs : List Char) : Option (Toml × List Char) :=
  match string cs with
  | some (s, rest) => some (.str s, rest)
  | none => word cs

/-- A value in which at most `depth` brackets are open at once. -/
def value : (depth : Nat) → Reader Toml
  | 0, cs => scalar cs
  | depth + 1, cs =>
    match cs with
    | '[' :: cs => arrayItems (value depth) cs
    | '\x7b' :: cs => inlineEntries (value depth) cs
    | _ => scalar cs

/-- The part of a line before its comment. -/
def content (cs : List Char) : Option (Line × List Char) :=
  match skipBlanks cs with
  | '[' :: '[' :: cs => do
    let (path, rest) ← keyPath cs
    return (.repeatedHeader path, ← expect ']' (← expect ']' rest))
  | '[' :: cs => do
    let (path, rest) ← keyPath cs
    return (.header path, ← expect ']' rest)
  | cs =>
    match entry (value maxDepth) cs with
    | some ((path, v), rest) => some (.entry path v, rest)
    | none => some (.blank, cs)

/-- A line up to its end, or the end of the text. -/
def line : Reader Line := fun cs => do
  let (l, rest) ← content cs
  let rest := skipComment (skipBlanks rest)
  if rest.isEmpty then some (l, rest)
  else return (l, ← newline? rest)

/-- The table that a document stands for. -/
def parse? (source : String) : Option Entries := do
  let cs := match source.toList with
    | '\ufeff' :: cs => cs
    | cs => cs
  let (lines, rest) := many line cs
  if !rest.isEmpty then none
  let d ← lines.foldlM Document.add {}
  return d.top

end DebugSession.Toml
