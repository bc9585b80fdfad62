import DebugSession.Suspension
/-!
What a client can look into.
-/

namespace DebugSession

/-- What a handle stands for. -/
inductive Container where
  | frame (proxy : FrameProxy)
  /-- The variables of a frame. -/
  | locals (proxy : FrameProxy)
  /-- The static fields of the class whose code a frame runs. -/
  | statics (proxy : FrameProxy) (typeName : String)
  /-- What is inside an object, with an expression for the object if there is one. -/
  | object (object : ObjectRef) (evaluateName : Option String)

namespace Container

/-- A container up to the cells of its frame. -/
inductive Key where
  | frame (key : FrameKey)
  | locals (key : FrameKey)
  | statics (key : FrameKey) (typeName : String)
  | object (object : ObjectRef) (evaluateName : Option String)
  deriving DecidableEq, Repr

def key : Container → Key
  | frame p => .frame p.key
  | locals p => .locals p.key
  | statics p typeName => .statics p.key typeName
  | object o evaluateName => .object o evaluateName

def proxy? : Container → Option FrameProxy
  | frame p | locals p | statics p _ => some p
  | object _ _ => none

instance : BEq Container := ⟨fun a b => a.key = b.key⟩

theorem beq_iff (a b : Container) : (a == b) = true ↔ a.key = b.key := by
  simp [BEq.beq]

instance : EquivBEq Container where
  rfl := (beq_iff _ _).mpr rfl
  symm h := (beq_iff _ _).mpr ((beq_iff _ _).mp h).symm
  trans h h' := (beq_iff _ _).mpr (((beq_iff _ _).mp h).trans ((beq_iff _ _).mp h'))

end Container
end DebugSession
