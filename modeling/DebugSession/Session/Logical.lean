import DebugSession.Session.Evaluation
/-!
Showing objects by what they hold. Which structure applies is found by the supertypes of an
object's type at run time.
-/

namespace DebugSession.Session

variable {V : Type} [Machine V]

/-! ## Supertypes -/

/-- Adds the types in `queue` to `known`, up to one that is loaded, whose supertypes are added to the
queue; then `more` goes on. Types that are not loaded count, but `first` has to be loaded. -/
def addTypes (first : String) (more : List String → List String → Remote V (List String)) :
    (queue known : List String) → Remote V (List String)
  | [], known => return known
  | name :: queue, known => do
    if known.contains name then addTypes first more queue known
    else
      match ← attempt (call (.referenceType name)) with
      | .error (.classNotLoaded missing) =>
        if name = first then throw (.classNotLoaded missing)
        else addTypes first more queue (name :: known)
      | .error e => throw e
      | .ok t => more (queue ++ t.superclass.toList ++ t.interfaces) (name :: known)

/-- Adds the types in `queue` and all their supertypes to `known`. Of loaded types `count` and one
more are looked at, at most. -/
def supertypesFrom (first : String) : (count : Nat) → (queue known : List String) →
    Remote V (List String)
  | 0 => addTypes first fun _ known => return known
  | count + 1 => addTypes first (supertypesFrom first count)

def supertypes (typeName : String) : Remote V (List String) := do
  supertypesFrom typeName (← get).walkLimit [typeName] []

/-- The structure that an object is shown by. Arrays and strings have none. -/
def findStructure (o : ObjectRef) : Remote V (Option LogicalStructure) := do
  if o.isArray || o.isString then return none
  let ancestry ← supertypes o.typeName
  return LogicalStructure.select (← get).logical ancestry

def structure? (o : ObjectRef) : Task (Session V) (Option LogicalStructure) := do
  match ← (findStructure o).run with
  | .ok found => return found
  | .error _ => return none

/-! ## Values -/

/-- What expressions may use: the thread that methods run in and, for code, an evaluator with a
frame. -/
structure LogicalScope where
  thread : ThreadId
  code : Option (FrameProxy × Evaluator) := none

def missingEvaluator (code : String) : RemoteError :=
  .other s!"No evaluator for logical expression '{code}'"

/-- An error of an evaluation as one of the debuggee. -/
def asRemote : SessionError → RemoteError
  | .remote e => e
  | e => .other e.message

def evaluateLogical (scope : LogicalScope) (o : ObjectRef) : LogicalExpression → Remote V Value
  | .method m arguments => call (.invokeMethod scope.thread o.id m arguments)
  | .field name => do
    match ← fieldValue? o name with
    | some value => return value
    | none => throw (.other s!"{o.typeName} has no field '{name}'")
  | .snippet code =>
    match scope.code with
    | some (_, evaluator) => ExceptT.adapt asRemote (evaluator.evaluateOn o code)
    | none => throw (missingEvaluator code)

/-- The value of a size, if the structure has one and it is no negative number. -/
def logicalSize (scope : LogicalScope) (shape : LogicalStructure) (o : ObjectRef) :
    Remote V (Option Nat) := do
  match shape.size with
  | none => return none
  | some e =>
    let value ← evaluateLogical scope o e
    return value.asInt?.bind Int.toNat?

def evaluateChain (scope : LogicalScope) : Value → List LogicalExpression → Remote V Value
  | value, [] => return value
  | value, e :: rest =>
    match value with
    | .object o => do evaluateChain scope (← evaluateLogical scope o e) rest
    | _ => throw (.invalidType e.inspect)

/-- The children that a structure gives an object, from `start` on as far as it holds elements. -/
def logicalChildren (scope : LogicalScope) (shape : LogicalStructure) (o : ObjectRef)
    (start : Nat) (count : Option Nat) (policy : FetchPolicy) (parent : Option String) :
    Remote V (List Variable) := do
  match shape.kind with
  | .elements chain =>
    match ← evaluateChain scope (.object o) chain with
    | .object array =>
      let elements ← listElements array start count policy none
      return elements.map fun v => { v with unbounded := true }
    | _ => return []
  | .properties children =>
    children.mapM fun (name, e) => do
      let value ← evaluateLogical scope o e
      return { Variable.ofValue name value "java.lang.Object" with
        evaluateName := parent.bind fun p => e.evaluateName p }

end DebugSession.Session
