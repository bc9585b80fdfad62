import DebugSession.Session.Control
/-!
Events of the debuggee. The client hears of the halts that concern it; other halts end here, and
the thread runs on.
-/

namespace DebugSession.Session

open Protocol

variable {V : Type} [Machine V]

/-- Lets the thread of an event run on. -/
def release (thread : ThreadId) : Action V Unit := (call (.resume thread)).orFail .remote

/-- The number of frames of a thread, as far as it can be told. -/
def depthOf (thread : ThreadId) : Task (Session V) Nat := do
  match ← tryCall (.frames thread) with
  | .ok frames => return frames.length
  | .error _ => return 0

/-- Ends a session whose debuggee is gone, and tells the client so. -/
def terminate (s : Session V) : Session V :=
  if s.cancelled then s else ((s.announce (.exited ⟨0⟩)).announce .terminated).cancel

/-- A thread has come to a breakpoint or watchpoint. -/
def onHit (request : RequestId) (thread : ThreadId) (location : Location) (reason : String) :
    Action V Unit := do
  match (← get).breakpoints.installed? request with
  | none => release thread
  | some installed =>
    match ← quietly (hitInstalled installed) with
    | .stop =>
      let _ ← quietly (dropStep thread)
      let _ ← quietly (threadHalted thread)
      let text := s!"Paused on {reason} at {location.text}"
      modify fun s => s.announce
        (.halted reason (Int64.ofNat thread) (some text) [installed.id])
    | .log text =>
      modify fun s => s.announce (.ofOutput "console" (text ++ "\n"))
      release thread
    | .continue => release thread

def onStep (request : RequestId) (thread : ThreadId) (location : Location) : Action V Unit := do
  let depth ← quietly (depthOf thread)
  match ← handleStep thread request location depth (← get).settings.stepping with
  | .completed p =>
    let _ ← quietly (threadHalted thread)
    match p.result with
    | some result => modify fun s => { s with results := s.results.insert thread result }
    | none => pure ()
    modify fun s => s.announce (.halted "step" (Int64.ofNat thread) none [])
  | .continue => release thread
  | .ignored => release thread

def onMethodExit (request : RequestId) (thread : ThreadId) (location : Location)
    (value : Value) : Action V Unit := do
  let depth ← quietly (depthOf thread)
  let _ ← quietly (handleMethodExit thread request location depth value)
  release thread

def onException (thread : ThreadId) (location : Location) (exception : ObjectRef)
    (caught : Bool) : Action V Unit := do
  let _ ← quietly (dropStep thread)
  let _ ← quietly (threadHalted thread)
  let text := s!"{exception.typeName} at {location.text}"
  modify fun s => { s with
    exceptions := s.exceptions.insert thread { exception, location, caught } }
  modify fun s => s.announce (.halted "exception" (Int64.ofNat thread) (some text) [])

/-- Deals with an event; whether the session is over. -/
def handleEvent : VmEvent → Action V Bool
  | .breakpoint request thread location => do
    onHit request thread location "breakpoint"
    return false
  | .watchpoint request thread location => do
    onHit request thread location "data breakpoint"
    return false
  | .step request thread location => do
    onStep request thread location
    return false
  | .methodExit request thread location value => do
    onMethodExit request thread location value
    return false
  | .exception _ thread location exception caught => do
    onException thread location exception caught
    return false
  | .threadStart thread name => do
    modify fun s => { s with threads := s.threads.started thread name }
    modify fun s => s.announce (.ofThread "started" (Int64.ofNat thread))
    return false
  | .threadDeath thread => do
    let _ ← quietly (dropStep thread)
    modify (threadResumed thread)
    modify fun s => { s with threads := s.threads.died thread }
    modify fun s => s.announce (.ofThread "exited" (Int64.ofNat thread))
    return false
  | .death | .disconnected => do
    modify terminate
    return true

/-- Deals with an event; whether there is no more to wait for. Of errors only the loss of the
debuggee matters. -/
def pumpEvent (e : VmEvent) : Task (Session V) Bool := do
  match ← (handleEvent e).run with
  | .ok isOver => return isOver
  | .error e =>
    if e.isDisconnect then
      modify terminate
      return true
    else return false

/-- Waits for an event and deals with it; whether there is no more to wait for. -/
def pump : Task (Session V) Bool := do
  match ← nextEvent.run with
  | .ok (some e) => pumpEvent e
  | _ =>
    modify terminate
    return true

end DebugSession.Session
