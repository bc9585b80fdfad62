import DebugSession.Text.Printable
/-!
Characters written as escapes, and text in quotes.
-/

namespace DebugSession.Text

/-- Lower-case hexadecimal digits of `n`, at least one. -/
def hexDigits (n : Nat) : List Char := Nat.toDigits 16 n

/-- `\u` and the code point in braces. -/
def codePointEscape (c : Char) : List Char :=
  '\\' :: 'u' :: '\x7b' :: (hexDigits c.toNat ++ ['\x7d'])

/-- A character in ASCII: tab, line ends, quotes and the backslash have an escape of two
characters, other printable ASCII stands for itself, the rest is written by its code point. -/
def escapeChar (c : Char) : List Char :=
  if c = '\t' then ['\\', 't']
  else if c = '\r' then ['\\', 'r']
  else if c = '\n' then ['\\', 'n']
  else if c = '\'' || c = '"' || c = '\\' then ['\\', c]
  else if 0x20 ≤ c.toNat && c.toNat < 0x7F then [c]
  else codePointEscape c

def escape (cs : List Char) : List Char := cs.flatMap escapeChar

/-- A character inside text quoted by `quote`: what has no glyph is escaped, the other kind of
quote is not. -/
def escapeInside (quote : Char) (c : Char) : List Char :=
  if c = '\x00' then ['\\', '0']
  else if c = '\t' then ['\\', 't']
  else if c = '\r' then ['\\', 'r']
  else if c = '\n' then ['\\', 'n']
  else if c = quote || c = '\\' then ['\\', c]
  else if isPrintable c then [c]
  else codePointEscape c

/-- Text in double quotes as it is shown to a developer. -/
def inspect (s : String) : String :=
  String.ofList ('"' :: (s.toList.flatMap (escapeInside '"') ++ ['"']))

/-- A character in single quotes as it is shown to a developer. -/
def inspectChar (c : Char) : String :=
  String.ofList ('\'' :: (escapeInside '\'' c ++ ['\'']))

/-- Items between brackets, separated by a comma and a blank. -/
def inspectList (items : List String) : String :=
  "[" ++ String.intercalate ", " items ++ "]"

/-- An escaped character is never empty, so escaping keeps at least the length. -/
theorem escapeChar_ne_nil (c : Char) : escapeChar c ≠ [] := by
  unfold escapeChar codePointEscape
  repeat' split
  all_goals simp

theorem escape_append (a b : List Char) : escape (a ++ b) = escape a ++ escape b := by
  simp [escape]

end DebugSession.Text
