import DebugSession.Session.Inspection
import DebugSession.Session.Stepping
/-!
Running and halting threads, and the end of a session.
-/

namespace DebugSession.Session

variable {V : Type} [Machine V]

/-- Makes a call, which by the clock takes as many microseconds as are `measured`, and chooses the
call mode by that. -/
def probe (measured : Nat) : Action V CallMode := do
  let _ ← (call .version).orFail .remote
  modify fun s => s.recordLatency measured
  return (← get).callMode

/-- Lets all threads run. -/
def continueAll : Action V Unit := do
  quietly dropAllSteps
  modify allResumed
  (call .resumeAll).orFail .remote

/-- Lets a thread run. -/
def resumeThread (thread : ThreadId) : Action V Unit := do
  let _ ← quietly (dropStep thread)
  modify (threadResumed thread)
  (call (.resume thread)).orFail .remote

def standing (s : Session V) (thread : ThreadId) : Except SessionError (Nat × Location) :=
  match s.stopped.get? thread with
  | none => .error (.stepFailed thread "thread is not suspended")
  | some p =>
    match s.framesOf p with
    | [] => .error (.stepFailed thread "thread has no stack frames")
    | f :: rest => .ok (rest.length + 1, f.location)

def step (thread : ThreadId) (kind : StepKind) : Action V Unit := do
  let s ← get
  let (depth, location) ← liftExcept (s.standing thread)
  let _ ← beginStep thread kind depth location s.settings.stepping
  modify (threadResumed thread)
  (call (.resume thread)).orFail (stepFailed thread)

def pause (thread : ThreadId) : Action V Suspension := do
  (call (.suspend thread)).orFail .remote
  let _ ← quietly (dropStep thread)
  quietly (threadHalted thread)

/-- Ends the session. The debuggee is ended too, or else it runs on. -/
def disconnect (terminate : Bool) : Task (Session V) Unit := do
  dropAllSteps
  removeBreakpoints
  modify allResumed
  let _ ← if terminate then dispose else tryCall .resumeAll
  modify cancel

/-- How an exception breaks the program, in the client's words. -/
def breakMode (caught : Bool) : String := if caught then "always" else "unhandled"

def exceptionMessage? (o : ObjectRef) : Task (Session V) (Option String) := do
  match ← (fieldValue? o "detailMessage").run with
  | .ok (some (.object text)) =>
    if text.isString then return (← tryCall (.stringValue text.id)).toOption else return none
  | _ => return none

def exceptionInfo (thread : ThreadId) : Action V Protocol.ExceptionInfoResponseBody := do
  match (← get).exceptions.get? thread with
  | none => throw (.internal s!"No exception recorded for thread {thread}")
  | some info =>
    let typeName := info.exception.typeName
    let description := match ← quietly (exceptionMessage? info.exception) with
      | some message => s!"{typeName}: {message}"
      | none => s!"{typeName} at {info.location.text}"
    return {
      exceptionId := typeName
      description := some description
      breakMode := breakMode info.caught }

/-! ## As a developer sees it -/

def inspect (s : Session V) : String :=
  inspectRecord "DebugAdapterContext" [
    ("mode", s.callMode.title),
    ("stopped", Nat.repr s.stopped.size),
    ("handles", Nat.repr s.handles.size),
    ("providers", inspectRecord "ProviderRegistry"
      [("providers", Nat.repr s.providers.count)])] true

def inspectSuspension (s : Session V) (p : Suspension) : String :=
  inspectRecord "StoppedState" [
    ("thread", Nat.repr p.thread),
    ("version", Nat.repr p.version),
    ("frames", Nat.repr (s.framesOf p).length)]

end DebugSession.Session

namespace DebugSession

def FrameProxy.inspect (p : FrameProxy) : String :=
  inspectRecord "StackFrameProxy" [
    ("thread", Nat.repr p.thread),
    ("version", Nat.repr p.key.suspension.version),
    ("depth", Nat.repr p.depth)]

end DebugSession
