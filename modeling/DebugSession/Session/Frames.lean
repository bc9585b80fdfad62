import DebugSession.Session.Call
/-!
The frames of halted threads. A handle of the debuggee goes stale when its thread runs, if only to
evaluate a method; a proxy then finds the frame at its depth again.
-/

namespace DebugSession.Session

variable {V : Type} [Machine V]

def queryFrames (thread : ThreadId) : Task (Session V) (Option (List FrameInfo)) := do
  match ← tryCall (.isSuspended thread) with
  | .ok true =>
    match ← tryCall (.frames thread) with
    | .ok frames => return some frames
    | .error _ => return none
  | _ => return none

/-- A new suspension of a thread, with its frames as they are now. There are none if the thread
runs or cannot be asked. -/
def capture (thread : ThreadId) : Task (Session V) Suspension := do
  let version ← modifyGet fun s => (s.suspensions + 1, { s with suspensions := s.suspensions + 1 })
  match ← queryFrames thread with
  | some frames => modify fun s => { s with snapshots := s.snapshots.insert version frames }
  | none => pure ()
  return ⟨thread, version⟩

/-- The frames of a suspension as they were last seen, the innermost first. -/
def framesOf (s : Session V) (p : Suspension) : List FrameInfo :=
  (s.snapshots.get? p.version).getD []

def refresh (p : Suspension) (depth : Nat) : Task (Session V) (Option FrameInfo) := do
  match ← queryFrames p.thread with
  | none => return none
  | some frames =>
    modify fun s => { s with snapshots := s.snapshots.insert p.version frames }
    return frames[depth]?

/-! ## Proxies -/

/-- A proxy for the frame at a depth, which starts from the frame as it was last seen. -/
def openFrame (s : Session V) (p : Suspension) (depth : Nat) : FrameProxy × Session V :=
  (⟨⟨p, depth⟩, s.cellCount⟩,
    { s with
      cellCount := s.cellCount + 1
      cells := s.cells.insert s.cellCount ((s.framesOf p)[depth]?) })

def cachedFrame (s : Session V) (p : FrameProxy) : Option FrameInfo :=
  (s.cells.get? p.cell).join

def setCachedFrame (p : FrameProxy) (f : Option FrameInfo) (s : Session V) : Session V :=
  { s with cells := s.cells.insert p.cell f }

/-- An operation on the frame as it is now, after one on a stale handle has failed with `e`. -/
def retry (p : FrameProxy) (op : FrameId → Remote V α) (e : RemoteError) : Remote V α := do
  match ← quietly (refresh p.key.suspension p.depth) with
  | some f =>
    modify (setCachedFrame p (some f))
    op f.id
  | none =>
    modify (setCachedFrame p none)
    throw e

/-- An operation on the frame of a proxy, tried again once if the handle is stale. -/
def withFrame (p : FrameProxy) (op : FrameId → Remote V α) : Remote V α := do
  match cachedFrame (← get) p with
  | none => retry p op .invalidStackFrame
  | some f =>
    match ← attempt (op f.id) with
    | .ok a => return a
    | .error e => if e.isStale then retry p op e else throw e

def frameLocation (p : FrameProxy) : Remote V Location :=
  withFrame p fun f => call (.frameLocation f)

def visibleVariables (p : FrameProxy) : Remote V (List LocalVariable) :=
  withFrame p fun f => call (.visibleVariables f)

def localValues (p : FrameProxy) (vs : List LocalVariable) : Remote V (List Value) :=
  withFrame p fun f => call (.localValues f vs)

def argumentValues (p : FrameProxy) : Remote V (List Value) :=
  withFrame p fun f => call (.argumentValues f)

def thisObject (p : FrameProxy) : Remote V (Option ObjectRef) :=
  withFrame p fun f => call (.thisObject f)

def setLocalValue (p : FrameProxy) (v : LocalVariable) (value : Value) : Remote V Unit :=
  withFrame p fun f => call (.setLocalValue f v value)

end DebugSession.Session
