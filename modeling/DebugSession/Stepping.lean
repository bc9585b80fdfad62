import DebugSession.Remote.Request
import DebugSession.Settings.Basic
import DebugSession.Text.Blank
/-!
Steps of a thread that are under way, and which code they do not stop in.
-/

namespace DebugSession

/-- The value that a method has returned. -/
structure MethodResult where
  methodName : String
  value : Value
  deriving DecidableEq, Repr

/-- A step of a thread, where it began and what is installed on the debuggee for it. -/
structure PendingStep where
  thread : ThreadId
  kind : StepKind
  /-- The number of frames when the step began. -/
  depth : Nat
  location : Location
  stepRequest : Option RequestId
  /-- Watches for the return from the method in which the step began. -/
  exitRequest : Option RequestId
  result : Option MethodResult
  /-- Revoked when the step is over. -/
  subscription : Nat
  deriving DecidableEq, Repr

namespace PendingStep

/-- Whether the thread has left the line, or the call, in which the step began. -/
def hasAdvanced (p : PendingStep) (l : Location) (depth : Nat) : Bool :=
  depth ≠ p.depth || l.line ≠ p.location.line || l.methodName ≠ p.location.methodName ||
    l.className ≠ p.location.className

/-- Whether a return is the one from the method in which the step began. -/
def watchesExit (p : PendingStep) (request : RequestId) (l : Location) (depth : Nat) : Bool :=
  p.exitRequest = some request && depth = p.depth && l.className = p.location.className &&
    l.methodName = p.location.methodName

/-- The step with a returned value noted; there is nothing to note of a method without one. -/
def noteResult (p : PendingStep) (l : Location) (value : Value) : PendingStep :=
  { p with result := match value with
      | .void => none
      | _ => some ⟨l.methodName, value⟩ }

end PendingStep

/-- What an event means for the step of its thread. -/
inductive StepOutcome where
  | completed (p : PendingStep)
  /-- The step goes on, with a new request. -/
  | continue
  | ignored

/-- A class name matches a pattern that it is equal to, or that ends in a star and agrees before
it. -/
def classMatches (pattern className : String) : Bool :=
  match Text.before? ['*'] pattern.toList with
  | some front => front.isPrefixOf className.toList
  | none => pattern = className

/-- Whether stepping into a method goes on past it. -/
def SteppingSettings.skips (s : SteppingSettings) (l : Location) : Bool :=
  (s.skipConstructors && (l.methodName = "<init>" || l.methodName = "<clinit>")) ||
    (s.skipSynthetic &&
      ("lambda$".toList.isPrefixOf l.methodName.toList ||
        "access$".toList.isPrefixOf l.methodName.toList)) ||
    s.classFilters.any fun pattern => classMatches pattern l.className

end DebugSession
