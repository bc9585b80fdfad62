import DebugSession.Debuggee.Calls
/-!
A machine whose calls fail according to a plan, and which keeps a record of them. A call that
fails never reaches the machine behind it.
-/

namespace DebugSession

/-- What a fault is planned for: a kind of call, or waiting for an event. -/
inductive CallKind where
  | version
  | allThreads
  | isSuspended
  | frames
  | suspend
  | resume
  | resumeAll
  | frameLocation
  | visibleVariables
  | localValues
  | argumentValues
  | thisObject
  | setLocalValue
  | referenceType
  | fieldValues
  | staticFieldValues
  | setFieldValue
  | arrayLength
  | arrayValues
  | stringValue
  | invokeMethod
  | createRequest
  | deleteRequest
  | nextEvent
  | dispose
  deriving DecidableEq, Repr

namespace CallKind

def names : List (String × CallKind) :=
  [("version", version), ("all_threads", allThreads), ("is_suspended", isSuspended),
    ("frames", frames), ("suspend", suspend), ("resume", resume), ("resume_all", resumeAll),
    ("frame_location", frameLocation), ("visible_variables", visibleVariables),
    ("local_values", localValues), ("argument_values", argumentValues),
    ("this_object", thisObject), ("set_local_value", setLocalValue),
    ("reference_type", referenceType), ("field_values", fieldValues),
    ("static_field_values", staticFieldValues), ("set_field_value", setFieldValue),
    ("array_length", arrayLength), ("array_values", arrayValues), ("string_value", stringValue),
    ("invoke_method", invokeMethod), ("create_request", createRequest),
    ("delete_request", deleteRequest), ("next_event", nextEvent), ("dispose", dispose)]

def ofName? (name : String) : Option CallKind := names.lookup name

end CallKind

def Call.kind : Call → CallKind
  | .version => .version
  | .allThreads => .allThreads
  | .isSuspended _ => .isSuspended
  | .frames _ => .frames
  | .suspend _ => .suspend
  | .resume _ => .resume
  | .resumeAll => .resumeAll
  | .frameLocation _ => .frameLocation
  | .visibleVariables _ => .visibleVariables
  | .localValues _ _ => .localValues
  | .argumentValues _ => .argumentValues
  | .thisObject _ => .thisObject
  | .setLocalValue _ _ _ => .setLocalValue
  | .referenceType _ => .referenceType
  | .fieldValues _ _ => .fieldValues
  | .staticFieldValues _ _ => .staticFieldValues
  | .setFieldValue _ _ _ => .setFieldValue
  | .arrayLength _ => .arrayLength
  | .arrayValues _ _ _ => .arrayValues
  | .stringValue _ => .stringValue
  | .invokeMethod _ _ _ _ => .invokeMethod
  | .createRequest _ => .createRequest
  | .deleteRequest _ => .deleteRequest
  | .dispose => .dispose

/-- Lets `skip` calls of a kind through, then fails `times` of them. -/
structure Fault where
  kind : CallKind
  skip : Nat
  times : Nat
  error : RemoteError
  deriving DecidableEq, Repr

/-- What the plan has in store for the next call of a kind, and the plan after it. The first fault
of the kind that is not used up decides. -/
def Fault.next (kind : CallKind) : List Fault → Option RemoteError × List Fault
  | [] => (none, [])
  | f :: rest =>
    if f.kind = kind && 0 < f.times then
      if 0 < f.skip then (none, { f with skip := f.skip - 1 } :: rest)
      else (some f.error, { f with times := f.times - 1 } :: rest)
    else
      let (e, rest) := Fault.next kind rest
      (e, f :: rest)

/-- A machine behind a plan of faults, with the calls made since the record was last read. -/
structure Faulty (V : Type) where
  machine : V
  plan : List Fault := []
  record : List Call := []

namespace Faulty

variable {V : Type}

def add (m : Faulty V) (f : Fault) : Faulty V := { m with plan := m.plan ++ [f] }

instance [Machine V] : Machine (Faulty V) where
  typeCount m := Machine.typeCount m.machine
  submit c m :=
    let m := { m with record := m.record ++ [c] }
    match Fault.next c.kind m.plan with
    | (some e, plan) => (.refused e, { m with plan })
    | (none, plan) =>
      let (admission, machine) := Machine.submit c m.machine
      (admission, { m with plan, machine })
  perform c m :=
    let (r, machine) := Machine.perform c m.machine
    (r, { m with machine })
  awaitEvent m :=
    match Fault.next .nextEvent m.plan with
    | (some e, plan) => (some e, { m with plan })
    | (none, plan) =>
      let (e, machine) := Machine.awaitEvent m.machine
      (e, { m with plan, machine })
  takeEvent m :=
    let (e, machine) := Machine.takeEvent m.machine
    (e, { m with machine })

end Faulty
end DebugSession
