import DebugSession.Json.Basic
/-!
Reading JSON text: characters become tokens, tokens become one tree, and the tree stands for a
value unless something in it stands for nothing. Well-formed text may hold such things: numbers
beyond all bounds, half pairs of code units, containers nested too deep. They do no harm in the
entries of a record that nobody reads.
-/

namespace DebugSession.Json

/-! ## Numbers -/

/-- The largest number a significand may hold; further digits only move the point. -/
def maxSignificand : Nat := Number.maxUnsigned 64

/-- Digits taken into the significand as long as they fit, and how many did not. -/
def takeWhole : (significand : Nat) → List Char → Nat × Nat
  | s, [] => (s, 0)
  | s, c :: cs =>
    let s' := s * 10 + (c.toNat - '0'.toNat)
    if s' ≤ maxSignificand then takeWhole s' cs else (s, cs.length + 1)

/-- Digits behind the point taken as long as they fit, and how many were taken. -/
def takeFraction : (significand taken : Nat) → List Char → Nat × Nat
  | s, n, [] => (s, n)
  | s, n, c :: cs =>
    let s' := s * 10 + (c.toNat - '0'.toNat)
    if s' ≤ maxSignificand then takeFraction s' (n + 1) cs else (s, n)

def powerOfTen (n : Nat) : Nat := Number.BinaryFormat.double.ofQuotient (Number.tenPow n) 1

/-- Divides by the largest power of ten until the exponent is in range. Nothing is left of a
significand after two divisions. -/
def scaleDown : (rounds : Nat) → (bits : Nat) → (exponent : Nat) → Nat
  | 0, _, _ => 0
  | rounds + 1, bits, exponent =>
    if exponent ≤ 308 then Number.scaleDouble bits (powerOfTen exponent) false
    else scaleDown rounds (Number.scaleDouble bits (powerOfTen 308) false) (exponent - 308)

/-- `significand * 10 ^ exponent`, where the significand and the power of ten are each rounded
first; none when the result is infinite. -/
def scaled? (significand : Nat) (exponent : Int) : Option Nat :=
  let f := Number.BinaryFormat.double
  let bits := f.ofQuotient significand 1
  if significand = 0 then some 0
  else if exponent < 0 then some (scaleDown 3 bits (-exponent).toNat)
  else if 308 < exponent then none
  else
    let product := Number.scaleDouble bits (powerOfTen exponent.toNat) true
    if product = f.infinity then none else some product

/-- A number: an optional minus sign, digits without a superfluous zero in front, then an optional
fraction and exponent. Whole numbers of 64 bits stay whole. A number that is too large is well
formed, but none. -/
def number? (cs : List Char) : Option (Option Number) := do
  let (negative, rest) := match cs with
    | '-' :: rest => (true, rest)
    | _ => (false, cs)
  let (whole, rest) := Number.splitDigits rest
  if whole.isEmpty || (whole.length > 1 && whole.head? = some '0') then none
  let (significand, dropped) := takeWhole 0 whole
  let sign := if negative then Number.BinaryFormat.double.signBit else 0
  let isWhole := dropped = 0 && !(negative && (significand = 0 || significand > Number.twoPow 63))
  if rest.isEmpty && isWhole then
    return some (.whole (if negative then -(significand : Int) else significand))
  let (fraction, rest) ← match rest with
    | '.' :: rest =>
      let (fraction, rest) := Number.splitDigits rest
      if fraction.isEmpty then none else some (fraction, rest)
    | _ => some ([], rest)
  let exponent ← match rest with
    | [] => some 0
    | c :: rest => if c = 'e' || c = 'E' then Number.readExponent rest else none
  let (significand, taken) := takeFraction significand 0 fraction
  return (scaled? significand (dropped - taken + exponent)).map fun bits => .floating (sign + bits)

/-! ## Tokens -/

inductive Token where
  | mark (c : Char)
  /-- A text in quotes, unless it is none. -/
  | text (s : Option String)
  | scalar (j : Option Json)
  deriving Inhabited

/-- A word outside quotes. -/
def scalar? (word : List Char) : Option (Option Json) :=
  if word = "null".toList then some (some .null)
  else if word = "true".toList then some (some (.bool true))
  else if word = "false".toList then some (some (.bool false))
  else (number? word).map fun n => n.map .num

/-- Where the scanner stands; characters read so far are held in reverse, as long as they make a
text. A first half of a pair of code units waits in `lead` for the second. -/
inductive Scan where
  | between
  | word (read : List Char)
  | text (read : Option (List Char)) (lead : Option Nat)
  | escape (read : Option (List Char)) (lead : Option Nat)
  | unicode (read : Option (List Char)) (lead : Option Nat) (digits value : Nat)

def isGap (c : Char) : Bool := c = ' ' || c = '\t' || c = '\n' || c = '\r'

def isMark (c : Char) : Bool :=
  c = '[' || c = ']' || c = '\x7b' || c = '\x7d' || c = ',' || c = ':'

def startToken (c : Char) : Scan × List Token :=
  if isGap c then (.between, [])
  else if isMark c then (.between, [.mark c])
  else if c = '"' then (.text (some []) none, [])
  else (.word [c], [])

def simpleEscape? (c : Char) : Option Char :=
  if c = '"' || c = '\\' || c = '/' then some c
  else if c = 'n' then some '\n'
  else if c = 'r' then some '\r'
  else if c = 't' then some '\t'
  else if c = 'b' then some '\x08'
  else if c = 'f' then some '\x0c'
  else none

/-- What is read of a text in which no second half of a pair comes. -/
def settled (read : Option (List Char)) (lead : Option Nat) : Option (List Char) :=
  if lead.isSome then none else read

def extend (c : Char) (read : Option (List Char)) : Scan := .text (read.map (c :: ·)) none

/-- A code unit is complete: it is a character, or one half of a pair. -/
def codeUnit (read : Option (List Char)) (lead : Option Nat) (unit : Nat) : Scan :=
  let isLow := 0xDC00 ≤ unit && unit < 0xE000
  match lead with
  | some high =>
    if isLow then extend (Char.ofNat (0x10000 + (high - 0xD800) * 0x400 + (unit - 0xDC00))) read
    else .text none none
  | none =>
    if 0xD800 ≤ unit && unit < 0xDC00 then .text read (some unit)
    else if isLow then .text none none
    else extend (Char.ofNat unit) read

/-- Reads one character; none where no JSON text goes on like this. -/
def Scan.step (c : Char) : Scan → Option (Scan × List Token)
  | .between => some (startToken c)
  | .word read =>
    if isGap c || isMark c || c = '"' then do
      let j ← scalar? read.reverse
      let (scan, tokens) := startToken c
      return (scan, .scalar j :: tokens)
    else some (.word (c :: read), [])
  | .text read lead =>
    if c = '\\' then some (.escape read lead, [])
    else if c.toNat < 0x20 then none
    else
      let read := settled read lead
      if c = '"' then
        some (.between, [.text (read.map fun cs => String.ofList cs.reverse)])
      else some (extend c read, [])
  | .escape read lead =>
    if c = 'u' then some (.unicode read lead 0 0, [])
    else (simpleEscape? c).map fun e => (extend e (settled read lead), [])
  | .unicode read lead digits value => do
    let d ← Number.digit? 16 c
    let value := value * 16 + d
    if digits = 3 then some (codeUnit read lead value, [])
    else some (.unicode read lead (digits + 1) value, [])

def tokens (scan : Scan) : List Char → Option (List Token)
  | [] =>
    match scan with
    | .between => some []
    | .word read => (scalar? read.reverse).map fun j => [.scalar j]
    | _ => none
  | c :: cs => do
    let (scan, found) ← scan.step c
    return found ++ (← tokens scan cs)

/-! ## Trees -/

/-- Well-formed text: what stands in it, and what that stands for, if anything. -/
inductive Tree where
  | leaf (j : Option Json)
  | arr (items : List Tree)
  | obj (entries : List (Option String × Tree))

/-- A container under way, with what it holds so far in reverse. -/
inductive Container where
  | items (done : List Tree)
  | entries (done : List (Option String × Tree)) (key : Option String)

/-- What the next token may be. -/
inductive Expect where
  | value
  | itemOrEnd
  | moreItems
  | keyOrEnd (done : List (Option String × Tree))
  | key (done : List (Option String × Tree))
  | colon
  | moreEntries (done : List (Option String × Tree))
  | nothing (result : Tree)

structure Build where
  expect : Expect := .value
  stack : List Container := []

def Build.put (t : Tree) : List Container → Build
  | [] => ⟨.nothing t, []⟩
  | .items done :: stack => ⟨.moreItems, .items (t :: done) :: stack⟩
  | .entries done key :: stack => ⟨.moreEntries ((key, t) :: done), stack⟩

def Build.start (stack : List Container) : Token → Option Build
  | .scalar j => some (Build.put (.leaf j) stack)
  | .text s => some (Build.put (.leaf (s.map .str)) stack)
  | .mark c =>
    if c = '[' then some ⟨.itemOrEnd, .items [] :: stack⟩
    else if c = '\x7b' then some ⟨.keyOrEnd [], stack⟩
    else none

def Build.step (b : Build) (t : Token) : Option Build :=
  match b.expect, t, b.stack with
  | .value, t, stack => Build.start stack t
  | .itemOrEnd, .mark ']', .items _ :: stack => some (Build.put (.arr []) stack)
  | .itemOrEnd, t, stack => Build.start stack t
  | .moreItems, .mark ']', .items done :: stack => some (Build.put (.arr done.reverse) stack)
  | .moreItems, .mark ',', stack => some ⟨.value, stack⟩
  | .keyOrEnd _, .mark '\x7d', stack => some (Build.put (.obj []) stack)
  | .keyOrEnd done, .text k, stack => some ⟨.colon, .entries done k :: stack⟩
  | .key done, .text k, stack => some ⟨.colon, .entries done k :: stack⟩
  | .colon, .mark ':', stack => some ⟨.value, stack⟩
  | .moreEntries done, .mark '\x7d', stack => some (Build.put (.obj done.reverse) stack)
  | .moreEntries done, .mark ',', stack => some ⟨.key done, stack⟩
  | _, _, _ => none

def parseTree? (text : String) : Option Tree := do
  let found ← tokens .between text.toList
  let b ← found.foldlM Build.step {}
  match b.expect with
  | .nothing t => some t
  | _ => none

/-! ## Values -/

/-- How deep containers may be nested. -/
def maxDepth : Nat := 127

mutual

/-- The value of a tree with containers nested at most `depth` deep. -/
def Tree.value? : Tree → (depth : Nat) → Option Json
  | .leaf j, _ => j
  | .arr items, depth + 1 => (valuesOf items depth).map .arr
  | .obj entries, depth + 1 => (entriesOf entries depth).map .obj
  | _, 0 => none

def valuesOf : List Tree → (depth : Nat) → Option (List Json)
  | [], _ => some []
  | t :: rest, depth => do return (← t.value? depth) :: (← valuesOf rest depth)

def entriesOf : List (Option String × Tree) → (depth : Nat) → Option (List (String × Json))
  | [], _ => some []
  | (k, t) :: rest, depth => do return (← k, ← t.value? depth) :: (← entriesOf rest depth)

end

def parse? (text : String) : Option Json := (parseTree? text).bind fun t => t.value? maxDepth

/-- An entry of a record that has fields of these names. One of another name is left out, and it
does not matter whether it has a value. -/
def readEntry (names : List String) : Option String × Tree → Option (Option (String × Json))
  | (none, _) => none
  | (some k, t) =>
    if names.contains k then (t.value? (maxDepth - 1)).map fun j => some (k, j) else some none

def parseRecord? (names : List String) (text : String) : Option Json := do
  match ← parseTree? text with
  | .obj entries =>
    let found ← entries.mapM (readEntry names)
    return .obj (found.filterMap id)
  | t => t.value? maxDepth

end DebugSession.Json
