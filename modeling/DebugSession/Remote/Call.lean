import DebugSession.Remote.Error
import DebugSession.Remote.Request
/-!
Calls to a debuggee, as data, and what a machine that answers them has to say.
-/

namespace DebugSession

inductive Call where
  | version
  | allThreads
  | isSuspended (thread : ThreadId)
  | frames (thread : ThreadId)
  | suspend (thread : ThreadId)
  | resume (thread : ThreadId)
  | resumeAll
  | frameLocation (frame : FrameId)
  | visibleVariables (frame : FrameId)
  | localValues (frame : FrameId) (targets : List LocalVariable)
  | argumentValues (frame : FrameId)
  | thisObject (frame : FrameId)
  | setLocalValue (frame : FrameId) (target : LocalVariable) (value : Value)
  | referenceType (typeName : String)
  | fieldValues (object : ObjectId) (fields : List Field)
  | staticFieldValues (typeName : String) (fields : List Field)
  | setFieldValue (object : Option ObjectId) (field : Field) (value : Value)
  | arrayLength (array : ObjectId)
  | arrayValues (array : ObjectId) (start length : Nat)
  | stringValue (string : ObjectId)
  | invokeMethod (thread : ThreadId) (object : ObjectId) (method : MethodCall)
      (arguments : List Value)
  | createRequest (request : EventRequest)
  | deleteRequest (request : RequestId)
  | dispose
  deriving DecidableEq, Repr

/-- What a call answers when it succeeds. -/
@[reducible] def Call.Reply : Call → Type
  | .version => String
  | .allThreads => List ThreadInfo
  | .isSuspended _ => Bool
  | .frames _ => List FrameInfo
  | .frameLocation _ => Location
  | .visibleVariables _ => List LocalVariable
  | .localValues _ _ | .argumentValues _ | .fieldValues _ _ | .staticFieldValues _ _
  | .arrayValues _ _ _ => List Value
  | .thisObject _ => Option ObjectRef
  | .referenceType _ => ReferenceType
  | .arrayLength _ => Nat
  | .stringValue _ => String
  | .invokeMethod _ _ _ _ => Value
  | .createRequest _ => RequestId
  | _ => Unit

/-- A call that was made, and why it failed if it did. -/
structure Exchange where
  call : Call
  failure : Option RemoteError
  deriving DecidableEq, Repr

namespace Exchange

def ofReply (c : Call) : Except RemoteError c.Reply → Exchange
  | .ok _ => ⟨c, none⟩
  | .error e => ⟨c, some e⟩

@[simp] theorem call_ofReply (c : Call) (r : Except RemoteError c.Reply) :
    (ofReply c r).call = c := by
  cases r <;> rfl

/-- The call has found the debuggee gone, or the session over. -/
def IsLost (x : Exchange) : Prop := x.failure = some .disconnected

instance (x : Exchange) : Decidable x.IsLost := inferInstanceAs (Decidable (_ = _))

end Exchange

/-- What becomes of a call when it is made: it is refused at once, or it takes some milliseconds
and then has its effect, unless the connection was already lost. -/
inductive Admission where
  | refused (e : RemoteError)
  | accepted (delay : Nat) (lost : Bool)

/-- The next event, as far as there is one yet. -/
inductive EventPoll where
  | event (e : VmEvent)
  | pending
  | closed

/-- A debuggee as a session sees it. Making a call and its effect are two steps, because time can
pass between them. -/
class Machine (V : Type) where
  /-- How many classes are loaded, at the most. -/
  typeCount : V → Nat
  submit : Call → V → Admission × V
  perform : (c : Call) → V → Except RemoteError c.Reply × V
  /-- Starts to wait for an event, which may fail. -/
  awaitEvent : V → Option RemoteError × V
  takeEvent : V → EventPoll × V

end DebugSession
