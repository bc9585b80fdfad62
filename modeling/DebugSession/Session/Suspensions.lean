import DebugSession.Session.Frames
/-!
Which threads the client knows to be halted. When a thread runs on, all that was told of its last
halt is dropped.
-/

namespace DebugSession.Session

variable {V : Type} [Machine V]

def frame? (thread : ThreadId) (depth : Nat) : Task (Session V) (Option FrameProxy) :=
  modifyGet fun s =>
    match s.stopped.get? thread with
    | none => (none, s)
    | some p =>
      if depth < (s.framesOf p).length then
        let (proxy, s) := s.openFrame p depth
        (some proxy, s)
      else (none, s)

/-- Records a new halt of a thread. Handles of an earlier one are dropped. -/
def recordHalt (p : Suspension) (s : Session V) : Session V :=
  let handles := if s.stopped.contains p.thread then s.handles.removeOwner p.thread else s.handles
  { s with stopped := s.stopped.insert p.thread p, handles }

def threadHalted (thread : ThreadId) : Task (Session V) Suspension := do
  let p ← capture thread
  modify (recordHalt p)
  return p

/-- Drops all that belongs to the present halt of a thread, and stops its evaluations. -/
def threadResumed (thread : ThreadId) (s : Session V) : Session V :=
  let s := { s with
    stopped := s.stopped.erase thread
    handles := s.handles.removeOwner thread
    exceptions := s.exceptions.erase thread
    results := s.results.erase thread }
  match s.evaluations.get? thread with
  | none => s
  | some token => { s with evaluations := s.evaluations.erase thread }.revoke token

/-- Drops all that belongs to the present halts of all threads, and stops all evaluations. -/
def allResumed (s : Session V) : Session V :=
  let tokens := s.evaluations.values
  let s := { s with
    stopped := {}
    handles := s.handles.clear
    exceptions := {}
    results := {}
    evaluations := {} }
  tokens.foldl revoke s

/-- Looks at the frames of a halted thread again; how many there are. -/
def refreshThread (thread : ThreadId) : Task (Session V) (Option Nat) := do
  match (← get).stopped.get? thread with
  | none => return none
  | some p =>
    match ← refresh p 0 with
    | none => return none
    | some _ => return some ((← get).framesOf p).length

def evaluationToken (thread : ThreadId) : Task (Session V) Nat :=
  modifyGet fun s =>
    match s.evaluations.get? thread with
    | some token => (token, s)
    | none =>
      let (token, s) := s.issueToken
      (token, { s with evaluations := s.evaluations.insert thread token })

def addHandle (owner : ThreadId) (c : Container) : Task (Session V) Int64 :=
  modifyGet fun s =>
    let (handle, handles) := s.handles.add owner c
    (Int64.ofNat handle, { s with handles })

def resolve? (s : Session V) (reference : Int64) : Option (Pooled Container) :=
  reference.toInt.toNat?.bind s.handles.get?

end DebugSession.Session
