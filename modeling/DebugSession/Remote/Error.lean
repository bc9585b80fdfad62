import DebugSession.Value
import DebugSession.Number.Numeral
/-!
What can go wrong in a call to the debuggee.
-/

namespace DebugSession

inductive RemoteError where
  | invalidStackFrame
  | incompatibleThreadState
  | absentInformation
  | opaqueFrame
  | invalidThread (thread : ThreadId)
  | invalidObject (object : ObjectId)
  | classNotLoaded (typeName : String)
  | invalidRequest (request : RequestId)
  | invalidType (name : String)
  | disconnected
  | timeout (ms : Nat)
  | commandFailed (code : Nat)
  | other (text : String)
  deriving DecidableEq, Repr

/-- A span of time in the largest unit that leaves something before the point. -/
def durationText (ms : Nat) : String :=
  if 1000 ≤ ms then
    let tail := Text.dropEndWhile (· = '0') (Nat.repr (1000 + ms % 1000)).toList.tail
    Nat.repr (ms / 1000) ++ (if tail.isEmpty then "" else "." ++ String.ofList tail) ++ "s"
  else if 0 < ms then Nat.repr ms ++ "ms"
  else "0ns"

namespace RemoteError

def message : RemoteError → String
  | .invalidStackFrame => "Stack frame is no longer valid"
  | .incompatibleThreadState => "Thread state changed during the request"
  | .absentInformation => "No debug information available"
  | .opaqueFrame => "Frame is native and cannot be inspected"
  | .invalidThread thread => s!"Unknown thread {thread}"
  | .invalidObject object => s!"Unknown object {object}"
  | .classNotLoaded typeName => s!"Type not loaded: {typeName}"
  | .invalidRequest request => s!"Invalid request {request}"
  | .invalidType name => s!"Value does not match the declared type: {name}"
  | .disconnected => "VM disconnected"
  | .timeout ms => "Request timed out after " ++ durationText ms
  | .commandFailed code => s!"Remote command failed with error code {code}"
  | .other text => text

/-- The thread has run since the handle was given out: a fresh handle may do. -/
def isStale : RemoteError → Bool
  | .invalidStackFrame | .incompatibleThreadState => true
  | _ => false

def isDisconnect : RemoteError → Bool
  | .disconnected => true
  | _ => false

theorem isDisconnect_iff (e : RemoteError) : e.isDisconnect = true ↔ e = .disconnected := by
  cases e <;> simp [isDisconnect]

end RemoteError
end DebugSession
