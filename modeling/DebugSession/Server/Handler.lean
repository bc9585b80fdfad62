import DebugSession.Server.Request
import DebugSession.Session.Control
import DebugSession.Session.DataBreakpoints
/-!
Answering requests. Every request gets a response, and events may follow it.
-/

namespace DebugSession

open Protocol

/-- A response and the events that are sent after it. -/
structure Reply where
  response : ResponseMessage
  events : List Event := []

/-- The body of a response, if it has one, and the events that are sent after it. -/
structure Result where
  body : Option Json := none
  events : List Event := []

namespace Result

def empty : Result := {}

def ofBody [Json.Format α] (a : α) : Result := { body := some (Json.write a) }

def ofEntry (key : String) (value : Json) : Result := { body := some (.obj [(key, value)]) }

end Result

def Protocol.offered (s : ExceptionSettings) : Capabilities :=
  { supportsConfigurationDoneRequest := true
    supportsConditionalBreakpoints := true
    supportsHitConditionalBreakpoints := true
    supportsLogPoints := true
    supportsEvaluateForHovers := true
    supportsSetVariable := true
    supportsDataBreakpoints := true
    supportsExceptionInfoRequest := true
    supportsDelayedStackTraceLoading := true
    exceptionBreakpointFilters :=
      [⟨"caught", "Caught Exceptions", s.defaultCaught⟩,
        ⟨"uncaught", "Uncaught Exceptions", s.defaultUncaught⟩] }

namespace Session

variable {V : Type} [Machine V]

/-- Does what is asked for, unless that is an evaluation. -/
def perform : Request → Action V Result
  | .capabilities => do
    let offered := Protocol.offered (← get).settings.exceptions
    return { Result.ofBody offered with events := [.initialized] }
  | .attach => do
    -- Here a call takes no time that could be measured.
    let _ ← probe 0
    return .empty
  | .configurationDone => return .empty
  | .disconnect terminate => do
    quietly (disconnect terminate)
    return .empty
  | .setBreakpoints source wanted modified => do
    return .ofBody (SetBreakpointsResponseBody.mk (← requestBreakpoints source wanted modified))
  | .setExceptionBreakpoints filters => do
    requestExceptions filters
    return .empty
  | .dataBreakpointInfo reference name => do
    return .ofBody (← dataBreakpointInfo reference name)
  | .setDataBreakpoints wanted => do
    return .ofBody (SetBreakpointsResponseBody.mk (← requestWatchpoints wanted))
  | .getBreakpoints => do
    return .ofBody (SetBreakpointsResponseBody.mk (← quietly listBreakpoints))
  | .threads => do return .ofBody (ThreadsResponseBody.mk (← listThreads))
  | .stackTrace thread start levels => do return .ofBody (← stackTrace thread start levels)
  | .stackFrame thread depth => do
    return .ofEntry "stackFrame" (Json.write (← quietly (stackFrame? thread depth)))
  | .refreshStackFrames thread => do
    return .ofEntry "totalFrames" (.ofOption .ofNat (← quietly (refreshThread thread)))
  | .scopes frameId => do return .ofBody (ScopesResponseBody.mk (← quietly (scopes frameId)))
  | .listVariables reference start count => do
    return .ofBody (VariablesResponseBody.mk (← listVariables reference start count))
  | .setVariable reference name value => do return .ofBody (← setVariable reference name value)
  | .evaluate _ _ => return .empty
  | .exceptionInfo thread => do return .ofBody (← exceptionInfo thread)
  | .continueThread thread => do
    resumeThread thread
    return .ofBody (ContinueResponseBody.mk false)
  | .continueAll => do
    continueAll
    return .ofBody (ContinueResponseBody.mk true)
  | .step thread kind => do
    step thread kind
    return .empty
  | .pause thread => do
    let _ ← pause thread
    return { events := [.halted "pause" (Int64.ofNat thread) none []] }

/-- Does what is asked for. -/
def performAny : Request → Attempt V Result
  | .evaluate expression frameId => do return .ofBody (← evaluate expression frameId)
  | r => ExceptT.adapt Failure.error (perform r)

def handle (m : RequestMessage) : Attempt V Result := do
  let request ← ExceptT.adapt Failure.error (liftExcept (Request.ofMessage m) : Action V Request)
  performAny request

def crashError (command : String) : SessionError := .internal s!"{command} handler failed"

def reply (m : RequestMessage) (r : Except Failure Result) : Reply :=
  match r with
  | .ok r => ⟨.succeeded m r.body, r.events⟩
  | .error (.error e) => ⟨.failed m e, []⟩
  | .error .crash => ⟨.failed m (crashError m.command), []⟩

def respond (m : RequestMessage) : Task (Session V) Reply := do
  return reply m (← (handle m).run)

end Session
end DebugSession
