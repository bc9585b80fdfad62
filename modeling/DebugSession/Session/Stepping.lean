import DebugSession.Session.Breakpoints
/-!
Steps of threads. At most one step of a thread is under way; it ends when the thread arrives
somewhere, or when another step begins, or when the thread halts for another reason.
-/

namespace DebugSession.Session

variable {V : Type} [Machine V]

def stepFailed (thread : ThreadId) : RemoteError → SessionError :=
  SessionError.ofRemote (.stepFailed thread)

def deleteIfAny : Option RequestId → Task (Session V) Unit
  | none => pure ()
  | some request => do
    let _ ← tryCall (.deleteRequest request)

/-- Deletes what is installed for a step that is over and revokes its token. -/
def teardown (p : PendingStep) : Task (Session V) PendingStep := do
  deleteIfAny p.stepRequest
  deleteIfAny p.exitRequest
  modify fun s => s.revoke p.subscription
  return { p with stepRequest := none, exitRequest := none }

def takeStep (thread : ThreadId) : Task (Session V) (Option PendingStep) :=
  modifyGet fun s => (s.steps.get? thread, { s with steps := s.steps.erase thread })

/-- Ends the step of a thread; whether there was one. -/
def dropStep (thread : ThreadId) : Task (Session V) Bool := do
  match ← takeStep thread with
  | none => return false
  | some p =>
    let _ ← teardown p
    return true

def teardownAll : List PendingStep → Task (Session V) Unit
  | [] => pure ()
  | p :: rest => do
    let _ ← teardown p
    teardownAll rest

/-- Ends the steps of all threads. -/
def dropAllSteps : Task (Session V) Unit := do
  let steps ← modifyGet fun s => (s.steps.values, { s with steps := {} })
  teardownAll steps

/-- The request that watches for the return from a method, unless the step goes into methods. A
step does without one that cannot be had. -/
def requestExit (thread : ThreadId) (kind : StepKind) (l : Location) :
    Action V (Option RequestId) := do
  if kind = .into then return none
  match ← attempt (call (.createRequest (.methodExit thread (some l.className)))) with
  | .ok id => return some id
  | .error e => if e.isDisconnect then throw .vmTerminated else return none

/-- Begins a step of a thread that stands at a location, `depth` frames deep; the token that is
revoked when the step is over. -/
def beginStep (thread : ThreadId) (kind : StepKind) (depth : Nat) (location : Location)
    (settings : SteppingSettings) : Action V Nat := do
  let _ ← quietly (dropStep thread)
  let stepRequest ← (call (.createRequest (.step thread kind settings.classFilters))).orFail
    (stepFailed thread)
  let exitRequest ← requestExit thread kind location
  let subscription ← modifyGet issueToken
  modify fun s => { s with
    steps := s.steps.insert thread
      { thread, kind, depth, location, stepRequest := some stepRequest, exitRequest
        result := none, subscription } }
  return subscription

def restep (thread : ThreadId) (request : RequestId) (kind : StepKind)
    (settings : SteppingSettings) : Action V Unit := do
  quietly (deleteIfAny (some request))
  let id ← (call (.createRequest (.step thread kind settings.classFilters))).orFail
    (stepFailed thread)
  modify fun s => { s with
    steps := s.steps.modify thread fun p => { p with stepRequest := some id } }

/-- What a thread's arrival at a location, `depth` frames deep, means for its step. A step into
code that is skipped goes on to where that returns, and one that has not moved on is made again. -/
def handleStep (thread : ThreadId) (request : RequestId) (location : Location) (depth : Nat)
    (settings : SteppingSettings) : Action V StepOutcome := do
  let s ← get
  match s.steps.get? thread with
  | none => return .ignored
  | some p =>
    if p.stepRequest ≠ some request || s.isRevoked p.subscription then return .ignored
    if p.kind = .into && p.depth < depth && settings.skips location then
      restep thread request .out settings
      return .continue
    if p.kind = .into && !p.hasAdvanced location depth then
      restep thread request .into settings
      return .continue
    match ← quietly (takeStep thread) with
    | none => return .ignored
    | some p => return .completed (← quietly (teardown p))

/-- Notes the value that the method in which a step began has returned; whether it was this
method. -/
def handleMethodExit (thread : ThreadId) (request : RequestId) (location : Location)
    (depth : Nat) (value : Value) : Task (Session V) Bool :=
  modifyGet fun s =>
    match s.steps.get? thread with
    | none => (false, s)
    | some p =>
      if p.watchesExit request location depth then
        (true, { s with steps := s.steps.insert thread (p.noteResult location value) })
      else (false, s)

end DebugSession.Session
