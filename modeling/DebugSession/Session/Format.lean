import DebugSession.Session.Call
import DebugSession.Variable.Format
/-!
Objects as text. Some of it is asked of the debuggee.
-/

namespace DebugSession.Session

variable {V : Type} [Machine V]

def identity (o : ObjectRef) : String := s!"(id={o.id})"

/-- The text of an object. A size is known of collections that are shown by what they hold. -/
def formatObject (o : ObjectRef) (size : Option Nat) (options : FormatOptions) :
    Remote V String := do
  let typeName := options.typeName o.typeName
  match o.kind with
  | .string =>
    let text ← call (.stringValue o.id)
    return Value.quote text options.maxStringLength
  | .array _ =>
    let length ← call (.arrayLength o.id)
    let element := String.ofList ((Text.before? ['[', ']'] typeName.toList).getD typeName.toList)
    return s!"{element}[{length}] {identity o}"
  | .classObject => return s!"Class ({typeName}) {identity o}"
  | .plain =>
    let shown := s!"{typeName} {identity o}"
    match size with
    | some n => return s!"{shown} size={n}"
    | none => return shown

def formatValue (value : Value) (size : Option Nat) (options : FormatOptions) : Remote V String :=
  match value with
  | .object o => formatObject o size options
  | _ => return (value.format? options).getD ""

end DebugSession.Session
