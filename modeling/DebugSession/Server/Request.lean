import DebugSession.Protocol.Arguments
import DebugSession.Protocol.Message
import DebugSession.Remote.Request
/-!
Requests by what they ask for, read from messages.
-/

namespace DebugSession

open Protocol

/-- What a client asks for. -/
inductive Request where
  /-- What the session offers. -/
  | capabilities
  | attach
  | configurationDone
  | disconnect (terminate : Bool)
  | setBreakpoints (source : String) (wanted : List SourceBreakpoint) (modified : Bool)
  | setExceptionBreakpoints (filters : List String)
  | dataBreakpointInfo (reference : Option Int64) (name : String)
  | setDataBreakpoints (wanted : List DataBreakpoint)
  | getBreakpoints
  | threads
  | stackTrace (thread : ThreadId) (start levels : Nat)
  | stackFrame (thread : ThreadId) (depth : Nat)
  | refreshStackFrames (thread : ThreadId)
  | scopes (frameId : Int64)
  | listVariables (reference : Int64) (start : Nat) (count : Option Nat)
  | setVariable (reference : Int64) (name value : String)
  | evaluate (expression : String) (frameId : Option Int64)
  | exceptionInfo (thread : ThreadId)
  | continueThread (thread : ThreadId)
  | continueAll
  | step (thread : ThreadId) (kind : StepKind)
  | pause (thread : ThreadId)
  deriving DecidableEq, Repr

namespace Request

def arguments (α : Type) [Json.Format α] (m : RequestMessage) : Except SessionError α :=
  match m.arguments with
  | none => .error (.argumentMissing s!"{m.command} arguments")
  | some j =>
    match Json.Format.read j with
    | .ok a => .ok a
    | .error e => .error (.argumentMissing s!"{m.command}: {e.message}")

def optionalArguments {α : Type} [Json.Format α] (default : α) (m : RequestMessage) :
    Except SessionError α :=
  match m.arguments with
  | none | some .null => .ok default
  | some _ => arguments α m

def threadId (n : Int64) : Except SessionError ThreadId :=
  match n.toInt with
  | .ofNat thread => .ok thread
  | .negSucc _ => .error (.argumentMissing ("invalid threadId " ++ Number.renderInt n.toInt))

/-- A number that cannot be negative; what is not there, or is, counts as zero. -/
def amount (n : Option Int64) : Nat := ((n.map Int64.toInt).map Int.toNat).getD 0

def ofMessage (m : RequestMessage) : Except SessionError Request :=
  match m.command with
  | "initialize" => do
    let _ ← optionalArguments ({} : InitializeArguments) m
    return capabilities
  | "attach" => return attach
  | "configurationDone" => return configurationDone
  | "disconnect" => do
    let a ← optionalArguments ({} : DisconnectArguments) m
    return disconnect (a.terminateDebuggee.getD false)
  | "setBreakpoints" => do
    let a ← arguments SetBreakpointsArguments m
    match a.source.path with
    | none => throw (.argumentMissing "source.path")
    | some source => return setBreakpoints source a.breakpoints a.sourceModified
  | "setExceptionBreakpoints" => do
    let a ← arguments SetExceptionBreakpointsArguments m
    return setExceptionBreakpoints a.filters
  | "dataBreakpointInfo" => do
    let a ← arguments DataBreakpointInfoArguments m
    return dataBreakpointInfo a.variablesReference a.name
  | "setDataBreakpoints" => do
    let a ← arguments SetDataBreakpointsArguments m
    return setDataBreakpoints a.breakpoints
  | "getBreakpoints" => return getBreakpoints
  | "threads" => return threads
  | "stackTrace" => do
    let a ← arguments StackTraceArguments m
    return stackTrace (← threadId a.threadId) (amount a.startFrame) (amount a.levels)
  | "getStackFrame" => do
    let a ← arguments StackFrameArguments m
    return stackFrame (← threadId a.threadId) (amount (some a.depth))
  | "refreshStackFrames" => do
    let a ← arguments ThreadArguments m
    return refreshStackFrames (← threadId a.threadId)
  | "scopes" => do
    let a ← arguments ScopesArguments m
    return scopes a.frameId
  | "variables" => do
    let a ← arguments VariablesArguments m
    return listVariables a.variablesReference (amount a.start)
      (a.count.bind fun n => n.toInt.toNat?)
  | "setVariable" => do
    let a ← arguments SetVariableArguments m
    return setVariable a.variablesReference a.name a.value
  | "evaluate" => do
    let a ← arguments EvaluateArguments m
    return evaluate a.expression a.frameId
  | "exceptionInfo" => do
    let a ← arguments ThreadArguments m
    return exceptionInfo (← threadId a.threadId)
  | "continue" => do
    let a ← arguments ContinueArguments m
    if a.singleThread then return continueThread (← threadId a.threadId) else return continueAll
  | "next" => stepOf .over
  | "stepIn" => stepOf .into
  | "stepOut" => stepOf .out
  | "pause" => do
    let a ← arguments PauseArguments m
    return pause (← threadId a.threadId)
  | command => throw (.unrecognizedRequest command)
where
  /-- A step request of a kind. -/
  stepOf (kind : StepKind) : Except SessionError Request := do
    let a ← arguments StepArguments m
    return step (← threadId a.threadId) kind

end Request
end DebugSession
