import DebugSession.Table
import DebugSession.Value
/-!
The threads a session knows. A limited number of those that have ended is remembered, because
requests for a thread may come after its end.
-/

namespace DebugSession

structure ThreadCache where
  live : Table ThreadId String := {}
  /-- The threads that have ended, the first one first. -/
  dead : List ThreadId := []
  /-- The same threads, for looking them up. -/
  deadSet : Table ThreadId Unit := {}
  capacity : Nat

namespace ThreadCache

/-- Forgets the threads in front of a queue while there are too many. -/
def evictFrom (capacity : Nat) : List ThreadId → Table ThreadId Unit →
    List ThreadId × Table ThreadId Unit
  | [], set => ([], set)
  | oldest :: rest, set =>
    if capacity < rest.length + 1 then evictFrom capacity rest (set.erase oldest)
    else (oldest :: rest, set)

/-- Forgets the threads that ended first when there are too many. -/
def evict (c : ThreadCache) : ThreadCache :=
  let (dead, deadSet) := evictFrom c.capacity c.dead c.deadSet
  { c with dead, deadSet }

def started (c : ThreadCache) (thread : ThreadId) (name : String) : ThreadCache :=
  let c := { c with live := c.live.insert thread name }
  if c.deadSet.contains thread then
    { c with dead := c.dead.filter (· ≠ thread), deadSet := c.deadSet.erase thread }
  else c

/-- A thread that is already known to have ended keeps its place. -/
def died (c : ThreadCache) (thread : ThreadId) : ThreadCache :=
  let c := { c with live := c.live.erase thread }
  if c.deadSet.contains thread then c
  else { c with dead := c.dead ++ [thread], deadSet := c.deadSet.insert thread () }.evict

def setCapacity (c : ThreadCache) (capacity : Nat) : ThreadCache := { c with capacity }.evict

def isDead (c : ThreadCache) (thread : ThreadId) : Bool := c.deadSet.contains thread

def name? (c : ThreadCache) (thread : ThreadId) : Option String := c.live.get? thread

theorem evictFrom_fst (capacity : Nat) (queue : List ThreadId) (set : Table ThreadId Unit) :
    (evictFrom capacity queue set).1 = queue.drop (queue.length - capacity) := by
  induction queue generalizing set with
  | nil => rw [evictFrom, List.drop_nil]
  | cons oldest rest ih =>
    rw [evictFrom]
    split
    · rename_i many
      have count : (oldest :: rest).length - capacity = rest.length - capacity + 1 := by
        rw [List.length_cons]
        omega
      rw [ih, count, List.drop_succ_cons]
    · rename_i few
      have count : (oldest :: rest).length - capacity = 0 := by
        rw [List.length_cons]
        omega
      rw [count, List.drop_zero]

/-! ## Room -/

variable {c : ThreadCache}

/-- There is room for all that are remembered. -/
def Bounded (c : ThreadCache) : Prop := c.dead.length ≤ c.capacity

theorem bounded_evict (c : ThreadCache) : c.evict.Bounded := by
  show (evictFrom c.capacity c.dead c.deadSet).1.length ≤ c.capacity
  rw [evictFrom_fst, List.length_drop]
  omega

theorem bounded_setCapacity (c : ThreadCache) (capacity : Nat) : (c.setCapacity capacity).Bounded :=
  bounded_evict _

theorem Bounded.started (h : c.Bounded) (thread : ThreadId) (name : String) :
    (c.started thread name).Bounded := by
  unfold ThreadCache.started
  dsimp only
  split
  · exact Nat.le_trans (List.length_filter_le _ _) h
  · exact h

theorem Bounded.died (h : c.Bounded) (thread : ThreadId) : (c.died thread).Bounded := by
  unfold ThreadCache.died
  dsimp only
  split
  · exact h
  · exact bounded_evict _

theorem capacity_started (c : ThreadCache) (thread : ThreadId) (name : String) :
    (c.started thread name).capacity = c.capacity := by
  unfold started
  dsimp only
  split <;> rfl

theorem capacity_died (c : ThreadCache) (thread : ThreadId) :
    (c.died thread).capacity = c.capacity := by
  unfold died
  dsimp only
  split <;> rfl

end ThreadCache
end DebugSession
