import DebugSession.Debuggee.Faults
import DebugSession.Remote.Form
/-!
Debuggees described in JSON: what they are made of and what goes wrong with them.
-/

namespace DebugSession

def Frame.readLocal (f : Frame) (j : Json) : Except Json.Mismatch Frame := do
  let isArgument ← j.memberOr "arg" false
  return f.addLocal (← j.member "name") (← j.member "sig") (← j.member "value") isArgument

/-- A frame: a code position, with locals if there are any. Argument values that are given replace
those of the locals. -/
def Frame.read : Json.Reader Frame := fun j => do
  let locals : List Json ← j.memberOr "locals" []
  let f ← locals.foldlM Frame.readLocal { location := ← Json.Format.read j }
  let this : Option Json ← j.member "this"
  return { f with
    arguments := ← j.memberOr "args" f.arguments
    this := ← this.mapM Value.readObject
    absentInformation := ← j.memberOr "absent" false
    native := ← j.memberOr "native" false }

/-- Frames that are given one by one, the innermost first. -/
def Frame.readAll : Json.Reader (List Frame) := Json.readList Frame.read

/-- An object with its text, its elements or the values of its fields. -/
def HeapObject.read : Json.Reader HeapObject := fun j => do
  let reference : ObjectRef ← Json.Format.read j
  let fields : List Json ← j.memberOr "fields" []
  let fields : List (String × String × Value) ← fields.mapM Json.readTriple
  let text : Option String ← j.member "text"
  return {
    reference
    fields := fields.foldl (fun t (declaring, name, value) => t.insert (declaring, name) value) {}
    elements := ← j.memberOr "elements" []
    text := text <|> (if reference.isString then some "" else none) }

/-- A thread with its stack. Unless it is said to run it stands still. -/
def Debuggee.readThread (d : Debuggee) (j : Json) : Except Json.Mismatch Debuggee := do
  let id ← j.member "id"
  let d := d.addThread id (← j.memberOr "name" "main")
  let frames : Json ← j.memberOr "frames" (.arr [])
  let d := d.setFrames id (← Frame.readAll frames)
  return if ← j.memberOr "suspended" true then d.suspendThread id else d

def Debuggee.read : Json.Reader Debuggee := fun j => do
  let types : List ReferenceType ← j.memberOr "types" []
  let objects : List Json ← j.memberOr "objects" []
  let threads : List Json ← j.memberOr "threads" []
  let statics : List Json ← j.memberOr "statics" []
  let results : List Json ← j.memberOr "invoke" []
  let objects ← objects.mapM HeapObject.read
  let d : Debuggee := { latency := ← j.memberOr "latency_ms" 0 }
  let d := objects.foldl addObject (types.foldl addType d)
  let d ← threads.foldlM readThread d
  let d := (← statics.mapM Json.readTriple).foldl
    (fun d (typeName, field, value) => d.setStatic typeName field value) d
  let d := (← results.mapM Json.readTriple).foldl
    (fun d (object, method, value) => d.setInvokeResult object method value) d
  return d

/-- A fault by the list of the call it is planned for, how many calls it lets through, how many it
fails, and with what error. -/
def Fault.read : Json.Reader Fault := fun j => do
  match j with
  | .arr [.str name, skip, times, error] =>
    match CallKind.ofName? name with
    | some kind =>
      return ⟨kind, ← Json.Format.read skip, ← Json.Format.read times, ← RemoteError.read error⟩
    | none => j.unexpected "a fault"
  | _ => j.unexpected "a fault"

def Faulty.read : Json.Reader (Faulty Debuggee) := fun j => do
  let faults : List Json ← j.memberOr "faults" []
  return { machine := ← Debuggee.read j, plan := ← faults.mapM Fault.read }

end DebugSession
