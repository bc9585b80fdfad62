/-!
Powers of two and of ten, and the ranges of whole numbers of a given width in bits.
-/

namespace DebugSession.Number

def twoPow (n : Nat) : Nat := Nat.pow 2 n

def tenPow (n : Nat) : Nat := Nat.pow 10 n

theorem twoPow_pos (n : Nat) : 0 < twoPow n := Nat.pow_pos (by decide)

/-- The largest number of a width. -/
def maxUnsigned (bits : Nat) : Nat := twoPow bits - 1

/-- The largest number of a width with a sign. -/
def maxSigned (bits : Nat) : Int := twoPow (bits - 1) - 1

/-- The smallest number of a width with a sign. -/
def minSigned (bits : Nat) : Int := -twoPow (bits - 1)

/-- Whether a number has a width with a sign. -/
def fitsSigned (bits : Nat) (n : Int) : Bool := minSigned bits ≤ n && n ≤ maxSigned bits

end DebugSession.Number
