import DebugSession.Value
/-!
Names for what a session holds of a halted thread. Each time a thread halts is a new suspension,
and a frame is named by its suspension and its depth, whatever handle the debuggee has given it.
-/

namespace DebugSession

/-- One halt of one thread. Versions are never used twice. -/
structure Suspension where
  thread : ThreadId
  version : Nat
  deriving DecidableEq, Repr

structure FrameKey where
  suspension : Suspension
  depth : Nat
  deriving DecidableEq, Repr

/-- A frame that stays good after its handle goes stale. `cell` is where the last known handle is
kept; proxies of one frame may have different cells. -/
structure FrameProxy where
  key : FrameKey
  cell : Nat
  deriving Repr

namespace FrameProxy

def thread (p : FrameProxy) : ThreadId := p.key.suspension.thread

def depth (p : FrameProxy) : Nat := p.key.depth

instance : BEq FrameProxy := ⟨fun p q => p.key = q.key⟩

theorem beq_iff (p q : FrameProxy) : (p == q) = true ↔ p.key = q.key := by
  simp [BEq.beq]

instance : EquivBEq FrameProxy where
  rfl := (beq_iff _ _).mpr rfl
  symm h := (beq_iff _ _).mpr ((beq_iff _ _).mp h).symm
  trans h h' := (beq_iff _ _).mpr (((beq_iff _ _).mp h).trans ((beq_iff _ _).mp h'))

/-- Nothing counts for the hash that does not count for equality. -/
instance : Hashable FrameProxy :=
  ⟨fun p => hash (p.key.suspension.version, p.key.suspension.thread, p.key.depth)⟩

instance : LawfulHashable FrameProxy where
  hash_eq p q h := by
    have same := (beq_iff p q).1 h
    simp only [hash, same]

end FrameProxy
end DebugSession
