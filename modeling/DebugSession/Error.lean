import DebugSession.Remote.Error
/-!
Why a request fails, in the words and with the number that the client gets.
-/

namespace DebugSession

inductive SessionError where
  | unrecognizedRequest (command : String)
  | argumentMissing (what : String)
  | protocol (text : String)
  | setBreakpointFailed (location reason : String)
  | setExceptionBreakpointFailed (reason : String)
  | setDataBreakpointFailed (reason : String)
  | getStackTraceFailed (reason : String)
  | getVariableFailed (reason : String)
  | setVariableFailed (reason : String)
  | evaluateFailed (reason : String)
  | stepFailed (thread : ThreadId) (reason : String)
  | vmTerminated
  | providerNotRegistered (capability : String)
  | configuration (text : String)
  | configurationSyntax (text : String)
  | fileUnreadable (path cause : String)
  | remote (e : RemoteError)
  | io (text : String)
  | json (text : String)
  | internal (text : String)
  deriving DecidableEq, Repr

namespace SessionError

def message : SessionError → String
  | .unrecognizedRequest command => s!"Unrecognized request: {command}"
  | .argumentMissing what => s!"Missing required argument: {what}"
  | .protocol text => s!"DAP protocol error: {text}"
  | .setBreakpointFailed location reason => s!"Failed to set breakpoint at {location}: {reason}"
  | .setExceptionBreakpointFailed reason => s!"Failed to set exception breakpoints: {reason}"
  | .setDataBreakpointFailed reason => s!"Failed to set data breakpoint: {reason}"
  | .getStackTraceFailed reason => s!"Failed to get stack trace: {reason}"
  | .getVariableFailed reason => s!"Failed to get variables: {reason}"
  | .setVariableFailed reason => s!"Failed to set variable: {reason}"
  | .evaluateFailed reason => s!"Failed to evaluate: {reason}"
  | .stepFailed thread reason => s!"Failed to step thread {thread}: {reason}"
  | .vmTerminated => "Target VM has already terminated"
  | .providerNotRegistered capability => s!"No provider registered for {capability}"
  | .configuration text => s!"Configuration error: {text}"
  | .configurationSyntax text => s!"Invalid configuration file: {text}"
  | .fileUnreadable path cause => s!"Failed to read file '{path}': {cause}"
  | .remote e => e.message
  | .io text => s!"IO error: {text}"
  | .json text => s!"JSON error: {text}"
  | .internal text => s!"Internal error: {text}"

/-- The number that stands for the kind of failure in a response. -/
def code : SessionError → Nat
  | .unrecognizedRequest _ => 1001
  | .argumentMissing _ => 1002
  | .setBreakpointFailed _ _ => 1003
  | .setExceptionBreakpointFailed _ => 1004
  | .getStackTraceFailed _ => 1005
  | .getVariableFailed _ => 1006
  | .setVariableFailed _ => 1007
  | .evaluateFailed _ => 1008
  | .stepFailed _ _ => 1009
  | .vmTerminated => 1010
  | .remote .disconnected => 1010
  | .setDataBreakpointFailed _ => 1011
  | _ => 1000

/-- The debuggee is gone. -/
def isDisconnect : SessionError → Bool
  | .vmTerminated => true
  | .remote e => e.isDisconnect
  | _ => false

/-- A failed call as `wrap` words it; a lost connection always reads the same. -/
def ofRemote (wrap : String → SessionError) (e : RemoteError) : SessionError :=
  if e.isDisconnect then .vmTerminated else wrap e.message

end SessionError

/-- Why a request has no result: an error, or a crash of the code that was to give it. -/
inductive Failure where
  | error (e : SessionError)
  | crash
  deriving DecidableEq, Repr

namespace SessionError

theorem code_of_isDisconnect {e : SessionError} (h : e.isDisconnect = true) : e.code = 1010 := by
  cases e <;> simp_all [isDisconnect, code]
  case remote e => cases e <;> simp_all [RemoteError.isDisconnect]

end SessionError
end DebugSession
