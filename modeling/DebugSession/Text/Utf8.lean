/-!
Text as bytes. `decode` reads what `encode` writes and names the first byte that no text can have.
-/

namespace DebugSession.Text.Utf8

/-- Why bytes are no text. Both hold the index of the first byte that belongs to no character. -/
inductive Fault where
  /-- The `length` bytes at `index` start no character. -/
  | invalid (length index : Nat)
  /-- The input ends inside the character that starts at `index`. -/
  | incomplete (index : Nat)
  deriving DecidableEq, Repr

def Fault.message : Fault → String
  | .invalid length index => s!"invalid utf-8 sequence of {length} bytes from index {index}"
  | .incomplete index => s!"incomplete utf-8 byte sequence from index {index}"

def encodeChar (c : Char) : List UInt8 :=
  let n := c.toNat
  if n < 0x80 then [n.toUInt8]
  else if n < 0x800 then [(0xC0 + n / 64).toUInt8, (0x80 + n % 64).toUInt8]
  else if n < 0x10000 then
    [(0xE0 + n / 4096).toUInt8, (0x80 + n / 64 % 64).toUInt8, (0x80 + n % 64).toUInt8]
  else
    [(0xF0 + n / 262144).toUInt8, (0x80 + n / 4096 % 64).toUInt8, (0x80 + n / 64 % 64).toUInt8,
      (0x80 + n % 64).toUInt8]

def encode (cs : List Char) : List UInt8 := cs.flatMap encodeChar

/-- A character under way: how many bytes it still needs, the bounds of the next one, the bits so
far and how many bytes are read. -/
structure Partial where
  needed : Nat
  lo : Nat
  hi : Nat
  bits : Nat
  seen : Nat

/-- What the first byte of a character longer than one byte promises. -/
def lead? (b : Nat) : Option Partial :=
  if 0xC2 ≤ b && b ≤ 0xDF then some ⟨1, 0x80, 0xBF, b - 0xC0, 1⟩
  else if b = 0xE0 then some ⟨2, 0xA0, 0xBF, 0, 1⟩
  else if b = 0xED then some ⟨2, 0x80, 0x9F, 0xD, 1⟩
  else if 0xE1 ≤ b && b ≤ 0xEF then some ⟨2, 0x80, 0xBF, b - 0xE0, 1⟩
  else if b = 0xF0 then some ⟨3, 0x90, 0xBF, 0, 1⟩
  else if 0xF1 ≤ b && b ≤ 0xF3 then some ⟨3, 0x80, 0xBF, b - 0xF0, 1⟩
  else if b = 0xF4 then some ⟨3, 0x80, 0x8F, 4, 1⟩
  else none

/-- Reads `bytes`; `index` is where the character under way, or the next one, starts. -/
def decodeFrom (index : Nat) : Option Partial → List UInt8 → Except Fault (List Char)
  | none, [] => .ok []
  | some _, [] => .error (.incomplete index)
  | none, b :: bytes =>
    if b.toNat < 0x80 then do
      return Char.ofNat b.toNat :: (← decodeFrom (index + 1) none bytes)
    else match lead? b.toNat with
      | some p => decodeFrom index (some p) bytes
      | none => .error (.invalid 1 index)
  | some p, b :: bytes =>
    if p.lo ≤ b.toNat && b.toNat ≤ p.hi then
      let bits := p.bits * 64 + (b.toNat - 0x80)
      if p.needed ≤ 1 then do
        return Char.ofNat bits :: (← decodeFrom (index + p.seen + 1) none bytes)
      else decodeFrom index (some ⟨p.needed - 1, 0x80, 0xBF, bits, p.seen + 1⟩) bytes
    else .error (.invalid p.seen index)

/-- The text that `bytes` encode, or the first fault. -/
def decode (bytes : List UInt8) : Except Fault (List Char) := decodeFrom 0 none bytes

end DebugSession.Text.Utf8
