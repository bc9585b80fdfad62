import DebugSession.Remote.Call
import DebugSession.Remote.Form
/-!
Calls to the debuggee as a developer follows them. Calls that only look something up, and that are
cheap, are left out.
-/

namespace DebugSession.Call

def trace? : Call → Option String
  | .frames thread => s!"frames {thread}"
  | .suspend thread => s!"suspend {thread}"
  | .resume thread => s!"resume {thread}"
  | .resumeAll => "resume_all"
  | .localValues _ targets => s!"locals {targets.length}"
  | .setLocalValue _ target _ => s!"set_local {target.name}"
  | .fieldValues object fields => s!"fields {object} {fields.length}"
  | .staticFieldValues typeName fields => s!"statics {typeName} {fields.length}"
  | .setFieldValue (some object) field _ =>
    s!"set_field {object} {field.declaringType}.{field.name}"
  | .setFieldValue none field _ => s!"set_static {field.declaringType}.{field.name}"
  | .arrayValues array start length => s!"array {array} {start} {length}"
  | .invokeMethod thread object method arguments =>
    s!"invoke {thread} {object} {method.name}{method.signature} {arguments.length}"
  | .createRequest request => s!"create {request.kind}"
  | .deleteRequest request => s!"delete {request}"
  | .dispose => "dispose"
  | .version | .allThreads | .isSuspended _ | .frameLocation _ | .visibleVariables _
  | .argumentValues _ | .thisObject _ | .referenceType _ | .arrayLength _ | .stringValue _ => none

end DebugSession.Call
