import DebugSession.Number.Decimal
import DebugSession.Settings.Basic
import DebugSession.Text.Escape
import DebugSession.Variable.Basic
/-!
Values as text, and the values that a user types.
-/

namespace DebugSession

structure FormatOptions where
  hex : Bool := false
  qualifiedNames : Bool := false
  /-- Longer texts are cut; zero means no limit. -/
  maxStringLength : Nat := 0
  deriving DecidableEq, Repr

def FormatOptions.ofSettings (s : VariableSettings) : FormatOptions :=
  ⟨s.showHex, s.showQualifiedNames, s.maxStringLength⟩

/-- A type's name in full, or its last part. -/
def FormatOptions.typeName (o : FormatOptions) (name : String) : String :=
  if o.qualifiedNames then name else Signature.simpleName name

namespace Value

/-- A whole number in decimal, or the bits of its `width` in hexadecimal. -/
def formatWhole (o : FormatOptions) (width : Nat) (n : Int) : String :=
  if o.hex then "0x" ++ String.ofList (Text.hexDigits (n % Number.twoPow width).toNat)
  else Number.renderInt n

/-- A number in positional notation. Below `10 ^ 16` a whole one has a zero behind its point. -/
def formatFloating (bits : Nat) : String :=
  let text := Number.renderDouble bits
  match Number.BinaryFormat.double.classify bits with
  | .finite _ m e =>
    let den := Number.twoPow Number.BinaryFormat.double.exponentBias
    let num := m * Number.twoPow e
    if num % den = 0 && num / den < Number.tenPow 16 then text ++ ".0" else text
  | _ => text

/-- The text of a value that is no object. -/
def format? (o : FormatOptions) : Value → Option String
  | .null => some "null"
  | .void => some "void"
  | .boolean b => some (if b then "true" else "false")
  | .char c => some (String.ofList ('\'' :: (Text.escapeChar c ++ ['\''])))
  | .byte n => some (formatWhole o 8 n.toInt)
  | .short n => some (formatWhole o 16 n.toInt)
  | .int n => some (formatWhole o 32 n.toInt)
  | .long n => some (formatWhole o 64 n.toInt)
  | .float bits => some (formatFloating (Number.widen bits.toNat))
  | .double bits => some (formatFloating bits.toNat)
  | .object _ => none

/-- A text in quotes; of one whose escaped form is too long, the first part of that form. -/
def quote (text : String) (maxLength : Nat) : String :=
  let escaped := Text.escape text.toList
  if 0 < maxLength && maxLength < escaped.length then
    "\"" ++ String.ofList (escaped.take maxLength) ++ "...\""
  else "\"" ++ String.ofList escaped ++ "\""

/-! ## Reading -/

/-- A number in decimal, or in hexadecimal after `0x`. What follows the base may have a sign. -/
def readMagnitude (cs : List Char) : Option Int :=
  match cs with
  | '0' :: 'x' :: hex | '0' :: 'X' :: hex => Number.readInt64 16 hex
  | _ => Number.readInt64 10 cs

/-- A whole number with an optional minus sign. What follows the minus sign may have a sign of its
own. -/
def readWhole (cs : List Char) : Option Int64 :=
  match cs with
  | '-' :: rest => (readMagnitude rest).map fun n => -(Int64.ofInt n)
  | _ => (readMagnitude cs).map Int64.ofInt

/-- A whole number of a width in bits. -/
def readSigned (bits : Nat) (cs : List Char) : Option Int :=
  ((readWhole cs).map Int64.toInt).filter (Number.fitsSigned bits)

/-- A character alone or between single quotes. -/
def readChar (cs : List Char) : Option Char :=
  let inner := ((Text.after? ['\''] cs).bind (Text.before? ['\''])).getD cs
  match inner with
  | [c] => some c
  | _ => none

def readBoolean (cs : List Char) : Option Bool :=
  if cs = "true".toList then some true
  else if cs = "false".toList then some false
  else none

/-- A text without the letters at its end that mark its type. -/
def dropMarks (marks : List Char) (cs : List Char) : List Char :=
  Text.dropEndWhile marks.contains cs

def readPrimitive (signature : String) (cs : List Char) : Option Value :=
  match signature with
  | "Z" => (readBoolean cs).map .boolean
  | "B" => (readSigned 8 cs).map fun n => .byte (Int8.ofInt n)
  | "S" => (readSigned 16 cs).map fun n => .short (Int16.ofInt n)
  | "I" => (readSigned 32 cs).map fun n => .int (Int32.ofInt n)
  | "J" => (readWhole (dropMarks ['L', 'l'] cs)).map .long
  | "F" => (Number.readFloat .single (dropMarks ['F', 'f'] cs)).map fun n => .float n.toUInt32
  | "D" => (Number.readFloat .double (dropMarks ['D', 'd'] cs)).map fun n => .double n.toUInt64
  | "C" => (readChar cs).map .char
  | _ => none

/-- The value that a text stands for in a variable of a type. Of objects only null can be typed. -/
def parse (text signature : String) : Except SessionError Value :=
  let cs := Text.trim text.toList
  let typeName := Signature.typeName signature
  if Signature.isPrimitive signature then
    match readPrimitive signature cs with
    | some value => .ok value
    | none =>
      .error (.setVariableFailed ("'" ++ String.ofList cs ++ "' is not a valid " ++ typeName))
  else if cs = "null".toList then .ok .null
  else .error (.setVariableFailed ("Only null can be assigned to " ++ typeName))

end Value

def Variable.formatType (o : FormatOptions) (v : Variable) : String := o.typeName v.displayType

end DebugSession
