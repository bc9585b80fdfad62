import DebugSession.Number.Power
import DebugSession.Table
import DebugSession.Value
/-!
Handles for objects, each owned by a thread. Equal objects have one handle. Handles are given out
in turn and start again from one after the last. What a handle stands for and which handle an
object has are kept apart, and each operation changes both.
-/

namespace DebugSession

/-- Clients read handles as signed numbers of 32 bits. -/
def maxHandle : Nat := Number.maxUnsigned 31

structure Pooled (α : Type) where
  owner : ThreadId
  object : α
  deriving DecidableEq, Repr

structure Pool (α : Type) where
  next : Nat := 1
  /-- What the handles stand for. -/
  entries : Table Nat (Pooled α) := {}
  /-- The handles of the objects. -/
  index : List (α × Nat) := []

namespace Pool

variable {α : Type}

def empty : Pool α := {}

/-- The handle that comes after another. -/
def following (handle : Nat) : Nat := if maxHandle ≤ handle then 1 else handle + 1

/-- The first handle from `handle` on that is not taken, if that is found in `count` steps. -/
def firstFree (p : Pool α) : (count : Nat) → (handle : Nat) → Nat
  | 0, handle => handle
  | count + 1, handle =>
    if p.entries.contains handle then p.firstFree count (following handle) else handle

def handle? [BEq α] (p : Pool α) (object : α) : Option Nat :=
  (p.index.find? fun e => e.1 == object).map (·.2)

/-- Gives an object a handle that is free. -/
def enter (p : Pool α) (handle : Nat) (owner : ThreadId) (object : α) : Pool α where
  next := following handle
  entries := p.entries.insert handle ⟨owner, object⟩
  index := (object, handle) :: p.index

/-- The handle of an object, a new one if it has none yet. -/
def add [BEq α] (p : Pool α) (owner : ThreadId) (object : α) : Nat × Pool α :=
  match p.handle? object with
  | some handle => (handle, p)
  | none =>
    let handle := p.firstFree p.entries.size p.next
    (handle, p.enter handle owner object)

def get? (p : Pool α) (handle : Nat) : Option (Pooled α) := p.entries.get? handle

def remove [BEq α] (p : Pool α) (handle : Nat) : Pool α :=
  match p.get? handle with
  | none => p
  | some e =>
    { p with
      entries := p.entries.erase handle
      index := p.index.filter fun entry => !(entry.1 == e.object) }

/-- The handles that a thread owns. -/
def owned (p : Pool α) (owner : ThreadId) : List Nat :=
  (p.entries.entries.filter fun e => e.2.owner = owner).map (·.1)

/-- Drops the handles that a thread owns, one by one; how many there were. -/
def release [BEq α] (p : Pool α) (owner : ThreadId) : Nat × Pool α :=
  ((p.owned owner).length, (p.owned owner).foldl remove p)

def removeOwner [BEq α] (p : Pool α) (owner : ThreadId) : Pool α := (p.release owner).2

/-- Drops all handles; none of them is given out again before the others are used up. -/
def clear (p : Pool α) : Pool α := { p with entries := {}, index := [] }

def size (p : Pool α) : Nat := p.entries.size

end Pool
end DebugSession
