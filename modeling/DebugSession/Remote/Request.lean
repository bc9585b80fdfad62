import DebugSession.Value
/-!
Event requests, which are installed on the debuggee, and the events it reports.
-/

namespace DebugSession

inductive AccessType where
  | read
  | write
  | readWrite
  deriving DecidableEq, Repr

namespace AccessType

def name : AccessType → String
  | .read => "read"
  | .write => "write"
  | .readWrite => "readWrite"

def all : List AccessType := [.read, .write, .readWrite]

def ofName? (s : String) : Option AccessType := all.find? fun a => a.name = s

/-- The kind of access as a heading has it. -/
def title : AccessType → String
  | .read => "Read"
  | .write => "Write"
  | .readWrite => "ReadWrite"

theorem ofName?_name (a : AccessType) : ofName? a.name = some a := by
  cases a <;> decide

end AccessType

inductive StepKind where
  | into
  | over
  | out
  deriving DecidableEq, Repr

inductive EventRequest where
  | breakpoint (className : String) (methodName : Option String) (line : UInt32)
      (condition : Option String)
  | watchpoint (className fieldName : String) (access : AccessType) (condition : Option String)
  | step (thread : ThreadId) (kind : StepKind) (classFilters : List String)
  | methodExit (thread : ThreadId) (className : Option String)
  | exception (className : Option String) (caught uncaught : Bool)
  deriving DecidableEq, Repr

inductive VmEvent where
  | breakpoint (request : RequestId) (thread : ThreadId) (location : Location)
  | watchpoint (request : RequestId) (thread : ThreadId) (location : Location)
  | step (request : RequestId) (thread : ThreadId) (location : Location)
  | methodExit (request : RequestId) (thread : ThreadId) (location : Location)
      (returned : Value)
  | exception (request : RequestId) (thread : ThreadId) (location : Location)
      (thrown : ObjectRef) (caught : Bool)
  | threadStart (thread : ThreadId) (name : String)
  | threadDeath (thread : ThreadId)
  | death
  | disconnected
  deriving DecidableEq, Repr

namespace VmEvent

def thread? : VmEvent → Option ThreadId
  | .breakpoint _ thread _ | .watchpoint _ thread _ | .step _ thread _
  | .methodExit _ thread _ _ | .exception _ thread _ _ _ | .threadStart thread _
  | .threadDeath thread => some thread
  | .death | .disconnected => none

def request? : VmEvent → Option RequestId
  | .breakpoint request _ _ | .watchpoint request _ _ | .step request _ _
  | .methodExit request _ _ _ | .exception request _ _ _ _ => some request
  | _ => none

/-- Whether the thread of the event stands still until it is resumed. -/
def halts (e : VmEvent) : Bool := e.request?.isSome

end VmEvent
end DebugSession
