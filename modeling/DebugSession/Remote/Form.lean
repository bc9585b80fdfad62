import DebugSession.Remote.Error
import DebugSession.Remote.Request
import DebugSession.Value.Form
/-!
The form in JSON of event requests, events and errors of the debuggee.
-/

namespace DebugSession

open Json (entry)

instance : Json.Format AccessType where
  read j := do
    match AccessType.ofName? (← Json.readString j) with
    | some a => return a
    | none => j.unexpected "a kind of access"
  write a := .str a.name

instance : Json.Format StepKind where
  read
    | .str "into" => .ok .into
    | .str "over" => .ok .over
    | .str "out" => .ok .out
    | j => j.unexpected "a kind of step"
  write
    | .into => .str "into"
    | .over => .str "over"
    | .out => .str "out"

def EventRequest.kind : EventRequest → String
  | .breakpoint _ _ _ _ => "breakpoint"
  | .watchpoint _ _ _ _ => "watchpoint"
  | .step _ _ _ => "step"
  | .methodExit _ _ => "methodExit"
  | .exception _ _ _ => "exception"

def EventRequest.entries : EventRequest → List (String × Json)
  | .breakpoint className methodName line condition =>
    [entry "class" className, entry "method" methodName, entry "line" line,
      entry "condition" condition]
  | .watchpoint className fieldName access condition =>
    [entry "class" className, entry "field" fieldName, entry "access" access,
      entry "condition" condition]
  | .step thread kind filters =>
    [entry "thread" thread, entry "step" kind, entry "filters" filters]
  | .methodExit thread className => [entry "thread" thread, entry "class" className]
  | .exception className caught uncaught =>
    [entry "class" className, entry "caught" caught, entry "uncaught" uncaught]

instance : Json.Format EventRequest where
  read j := do
    match ← j.member "kind" with
    | "breakpoint" =>
      return .breakpoint (← j.member "class") (← j.member "method") (← j.member "line")
        (← j.member "condition")
    | "watchpoint" =>
      return .watchpoint (← j.member "class") (← j.member "field") (← j.member "access")
        (← j.member "condition")
    | "step" =>
      return .step (← j.member "thread") (← j.member "step") (← j.memberOr "filters" [])
    | "methodExit" => return .methodExit (← j.member "thread") (← j.member "class")
    | "exception" =>
      return .exception (← j.member "class") (← j.memberOr "caught" false)
        (← j.memberOr "uncaught" false)
    | _ => j.unexpected "an event request"
  write r := .obj (entry "kind" r.kind :: r.entries)

def Value.readObject : Json.Reader ObjectRef := fun j => do
  let value : Value ← Json.Format.read j
  match value with
  | .object o => return o
  | _ => j.unexpected "an object"

def VmEvent.readAt (make : RequestId → ThreadId → Location → VmEvent) : Json.Reader VmEvent :=
  fun j => return make (← j.member "request") (← j.member "thread") (← j.member "location")

def VmEvent.read : Json.Reader VmEvent := fun j => do
  match ← j.member "kind" with
  | "breakpoint" => readAt .breakpoint j
  | "watchpoint" => readAt .watchpoint j
  | "step" => readAt .step j
  | "methodExit" =>
    let value ← j.member "value"
    readAt (fun r t l => .methodExit r t l value) j
  | "exception" =>
    let thrown ← Value.readObject (← j.member "exception")
    let caught ← j.memberOr "caught" false
    readAt (fun r t l => .exception r t l thrown caught) j
  | "threadStart" => return .threadStart (← j.member "thread") (← j.member "name")
  | "threadDeath" => return .threadDeath (← j.member "thread")
  | "vmDeath" => return .death
  | "vmDisconnected" => return .disconnected
  | _ => j.unexpected "an event"

namespace RemoteError

def name : RemoteError → String
  | .invalidStackFrame => "InvalidStackFrame"
  | .incompatibleThreadState => "IncompatibleThreadState"
  | .absentInformation => "AbsentInformation"
  | .opaqueFrame => "OpaqueFrame"
  | .invalidThread _ => "InvalidThread"
  | .invalidObject _ => "InvalidObject"
  | .classNotLoaded _ => "ClassNotLoaded"
  | .invalidRequest _ => "InvalidRequest"
  | .invalidType _ => "InvalidType"
  | .disconnected => "VmDisconnected"
  | .timeout _ => "Timeout"
  | .commandFailed _ => "CommandFailed"
  | .other _ => "Other"

/-- An error by the list of its name and what it is about. -/
def read : Json.Reader RemoteError := fun j => do
  match j with
  | .arr [.str "InvalidStackFrame"] => return .invalidStackFrame
  | .arr [.str "IncompatibleThreadState"] => return .incompatibleThreadState
  | .arr [.str "AbsentInformation"] => return .absentInformation
  | .arr [.str "OpaqueFrame"] => return .opaqueFrame
  | .arr [.str "VmDisconnected"] => return .disconnected
  | .arr [.str "InvalidThread", a] => return .invalidThread (← Json.Format.read a)
  | .arr [.str "InvalidObject", a] => return .invalidObject (← Json.Format.read a)
  | .arr [.str "ClassNotLoaded", a] => return .classNotLoaded (← Json.readString a)
  | .arr [.str "InvalidRequest", a] => return .invalidRequest (← Json.Format.read a)
  | .arr [.str "InvalidType", a] => return .invalidType (← Json.readString a)
  | .arr [.str "Timeout", a] => return .timeout (← Json.Format.read a)
  | .arr [.str "CommandFailed", a] => return .commandFailed (← Json.Format.read a)
  | .arr [.str "Other", a] => return .other (← Json.readString a)
  | _ => j.unexpected "an error"

end RemoteError
end DebugSession
