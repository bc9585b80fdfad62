import DebugSession.Session.Listing
import DebugSession.Text.Letter
/-!
Evaluating expressions in a frame. Without a compiler these are names and paths of fields, such as
`order.customer.id`.
-/

namespace DebugSession

abbrev Attempt (V : Type) := ExceptT Failure (Task (Session V))

namespace Session

variable {V : Type} [Machine V]

/-- The error for what only a compiler could make sense of. -/
def unsupported (expression : String) : SessionError :=
  .evaluateFailed s!"Cannot evaluate '{expression}' without a compiler"

/-- The object whose field is read next on a path. -/
def readable (segment : String) : Value → Except SessionError ObjectRef
  | .object o => .ok o
  | .null => .error (.evaluateFailed s!"Cannot read '{segment}' of null")
  | _ => .error (.evaluateFailed s!"'{segment}' is not a field of a primitive value")

def walkFields (expression : String) : Value → List String → Action V Value
  | value, [] => return value
  | value, segment :: rest => do
    if !Text.isIdentifier segment.toList then throw (unsupported expression)
    let o ← liftExcept (readable segment value)
    match ← (fieldValue? o segment).orFail .remote with
    | some value => walkFields expression value rest
    | none => throw (.evaluateFailed s!"{o.typeName} has no field '{segment}'")

def localValue? (p : FrameProxy) (name : String) : Action V (Option Value) := do
  match ← attempt (visibleVariables p) with
  | .error _ => return none
  | .ok vs =>
    match vs.find? fun v => v.name = name with
    | none => return none
    | some v => return (← (localValues p [v]).orFail .remote).head?

/-- What a name stands for in a frame: a variable, or else a field of `this`. -/
def resolveName (p : FrameProxy) (name : String) : Action V Value := do
  let this ← (thisObject p).orFail .remote
  if name = "this" then
    match this with
    | some o => return .object o
    | none => throw (.evaluateFailed "No 'this' in a static context")
  else
    match ← localValue? p name with
    | some value => return value
    | none =>
      let field ← match this with
        | some o => (fieldValue? o name).orFail .remote
        | none => pure none
      match field with
      | some value => return value
      | none => throw (.evaluateFailed s!"'{name}' cannot be resolved")

/-- The parts of a path between its points. -/
def segments (path : String) : List String := (Text.pieces '.' path.toList).map String.ofList

def evaluateNames (p : FrameProxy) (expression : String) : Action V Value := do
  let expression := Text.trimmed expression
  match segments expression with
  | [] => throw (unsupported expression)
  | head :: rest =>
    if !Text.isIdentifier head.toList then throw (unsupported expression)
    let value ← resolveName p head
    walkFields expression value rest

/-- The path behind `this` in an expression; none behind `this` alone. -/
def pathOnObject (expression : String) : Option String :=
  match Text.after? "this".toList expression.toList with
  | some [] => none
  | some ('.' :: rest) => some (String.ofList rest)
  | _ => some expression

def evaluateNamesOn (o : ObjectRef) (expression : String) : Action V Value := do
  let expression := Text.trimmed expression
  match pathOnObject expression with
  | none => return .object o
  | some path => walkFields expression (.object o) (segments path)

end Session

namespace Evaluator

variable {V : Type} [Machine V]

def evaluate (e : Evaluator) (p : FrameProxy) (expression : String) : Attempt V Value :=
  match e with
  | .names => ExceptT.adapt Failure.error (Session.evaluateNames p expression)
  | .constant value => return value
  | .failing reason => throw (.error (.evaluateFailed reason))
  | .crashing => throw .crash

/-- The value of an expression in which `this` is an object. -/
def evaluateOn (e : Evaluator) (o : ObjectRef) (expression : String) : Action V Value :=
  match e with
  | .names => Session.evaluateNamesOn o expression
  | _ => throw (.evaluateFailed s!"Cannot evaluate '{expression}' on {o.typeName}")

end Evaluator
end DebugSession
