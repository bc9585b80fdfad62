import DebugSession.Protocol.Results
import DebugSession.Session.Format
import DebugSession.Session.Logical
import DebugSession.Session.Suspensions
/-!
What a client sees of a halted thread: frames, scopes, variables and the values of expressions.
-/

namespace DebugSession.Session

variable {V : Type} [Machine V]

def listingFailed : RemoteError → SessionError := SessionError.ofRemote .getVariableFailed

def assignmentFailed : RemoteError → SessionError := SessionError.ofRemote .setVariableFailed

def evaluationFailed : RemoteError → SessionError := SessionError.ofRemote .evaluateFailed

/-! ## Threads and frames -/

/-- The threads of the debuggee, which are noted as alive. -/
def listThreads : Action V (List Protocol.Thread) := do
  let found ← (call .allThreads).orFail .remote
  modify fun s => { s with
    threads := found.foldl (fun c t => c.started t.id t.name) s.threads }
  return found.map fun t => ⟨Int64.ofNat t.id, t.name⟩

/-- The source of a code position, by its file or at least by its name. -/
def sourceOf (lookup : Option SourceLookup) (l : Location) : Option Protocol.Source :=
  match lookup.bind fun k => k.sourcePath l with
  | some path => some { name := Path.fileName? path, path := some path }
  | none => l.sourceName.map fun name => { name := some name }

/-- A frame as a client sees it, with a handle. -/
def describeFrame (p : Suspension) (depth : Nat) (l : Location) :
    Task (Session V) Protocol.StackFrame := do
  let proxy ← modifyGet fun s => s.openFrame p depth
  let id ← addHandle p.thread (.frame proxy)
  return {
    id
    name := s!"{Signature.simpleName l.className}.{l.methodName}"
    source := sourceOf (← get).providers.lookup l
    line := l.line
    column := 1 }

def describeFrames (p : Suspension) : List (FrameInfo × Nat) →
    Task (Session V) (List Protocol.StackFrame)
  | [] => return []
  | (f, depth) :: rest => do
    let shown ← describeFrame p depth f.location
    return shown :: (← describeFrames p rest)

/-- The frames of a halted thread from `start` on; zero levels stand for all. A thread that has
ended has none. -/
def stackTrace (thread : ThreadId) (start levels : Nat) :
    Action V Protocol.StackTraceResponseBody := do
  let s ← get
  if s.threads.isDead thread then return { stackFrames := [], totalFrames := some 0 }
  match s.stopped.get? thread with
  | none => throw (.getStackTraceFailed s!"Thread {thread} is not suspended")
  | some p =>
    let frames := s.framesOf p
    let shown := frames.zipIdx.drop start
    let shown := if levels = 0 then shown else shown.take levels
    return {
      stackFrames := ← quietly (describeFrames p shown)
      totalFrames := some (Int64.ofNat frames.length) }

def stackFrame? (thread : ThreadId) (depth : Nat) :
    Task (Session V) (Option Protocol.StackFrame) := do
  let s ← get
  match (s.stopped.get? thread).bind fun p => (s.framesOf p)[depth]?.map fun f => (p, f) with
  | none => return none
  | some (p, f) => return some (← describeFrame p depth f.location)

/-- The scopes of a frame: its variables and, if the settings want it, the static fields of the
class. -/
def scopes (frameId : Int64) : Task (Session V) (List Protocol.Scope) := do
  let s ← get
  match s.resolve? frameId with
  | some ⟨_, .frame p⟩ =>
    let locals ← addHandle p.thread (.locals p)
    let shown : Protocol.Scope := { name := "Local", variablesReference := locals }
    match s.cachedFrame p with
    | some f =>
      if s.settings.display.showStaticVariables then
        let statics ← addHandle p.thread (.statics p f.location.className)
        return [shown, { name := "Static", variablesReference := statics }]
      else return [shown]
    | none => return [shown]
  | _ => return []

/-! ## Variables -/

/-- What logical expressions may use in a thread: code needs an evaluator and a frame. -/
def logicalScope (thread : ThreadId) : Task (Session V) LogicalScope := do
  let frame ← frame? thread 0
  match frame, (← get).providers.evaluator with
  | some p, some e => return { thread, code := some (p, e) }
  | _, _ => return { thread }

/-- The value that the last step out of a method has brought. -/
def resultVariable (r : MethodResult) : Variable :=
  Variable.ofValue s!"->{r.methodName}()" r.value (r.value.runtimeType?.getD "void")

def thisVariable (o : ObjectRef) : Variable :=
  { Variable.ofValue "this" (.object o) o.typeName with evaluateName := some "this" }

/-- What is in the scope of a frame: a returned value, `this` and the variables. -/
def listScope (p : FrameProxy) (policy : FetchPolicy) : Remote V (List Variable) := do
  let results := (← get).results
  let result := if p.depth = 0 then (results.get? p.thread).map resultVariable else none
  let this ← match ← attempt (thisObject p) with
    | .ok this => pure (this.map thisVariable)
    | .error .opaqueFrame => pure none
    | .error e => throw e
  return result.toList ++ this.toList ++ (← listLocals p policy)

/-- The part of a listing from `start` on; no count, or zero, asks for all. -/
def window (vs : List α) (start : Nat) (count : Option Nat) : List α :=
  match count with
  | some (n + 1) => (vs.drop start).take (n + 1)
  | _ => vs.drop start

/-- What is in an object: what it holds if it is a collection, its elements or its fields. -/
def listObject (thread : ThreadId) (o : ObjectRef) (parent : Option String) (start : Nat)
    (count : Option Nat) (settings : VariableSettings) (policy : FetchPolicy) :
    Remote V (List Variable) := do
  let shape ← if settings.showLogicalStructure then quietly (structure? o) else pure none
  match shape with
  | some shape =>
    let scope ← quietly (logicalScope thread)
    logicalChildren scope shape o start count policy parent
  | none =>
    if o.isArray then listElements o start count policy parent
    else
      return window (← listFields o settings.showStaticVariables policy parent) start count

def listContainer (thread : ThreadId) (c : Container) (start : Nat) (count : Option Nat)
    (settings : VariableSettings) : Remote V (List Variable) := do
  let policy := fetchPolicy (← get)
  match c with
  | .frame _ => return []
  | .locals p => return window (← listScope p policy) start count
  | .statics _ typeName => return window (← listStatics typeName policy) start count
  | .object o parent => listObject thread o parent start count settings policy

/-- The size of a collection, and whether its elements are counted by it. -/
def sizeOf (thread : ThreadId) (o : ObjectRef) : Remote V (Option Nat × Bool) := do
  match ← quietly (structure? o) with
  | none => return (none, false)
  | some shape =>
    let scope ← quietly (logicalScope thread)
    match ← attempt (logicalSize scope shape o) with
    | .ok size =>
      match shape.kind with
      | .elements _ => return (size, true)
      | .properties _ => return (size, false)
    | .error e => if e.isDisconnect then throw e else return (none, false)

/-- What there is to know of an object that can be opened: its logical size, the number of its
elements and a handle. -/
def openObject (thread : ThreadId) (o : ObjectRef) (evaluateName : Option String)
    (showLogical : Bool) : Remote V (Option Nat × Option Nat × Int64) := do
  let (size, counted) ← if showLogical then sizeOf thread o else pure (none, false)
  let indexed ← if o.isArray then do
      let length ← call (.arrayLength o.id)
      pure (some length)
    else pure (if counted then size else none)
  let handle ← quietly (addHandle thread (.object o evaluateName))
  return (size, indexed, handle)

/-- A variable as a client sees it. -/
def describeVariable (thread : ThreadId) (settings : VariableSettings) (v : Variable) :
    Remote V Protocol.Variable := do
  let options := FormatOptions.ofSettings settings
  let (size, indexed, handle) ← match v.value with
    | .object o =>
      if o.isString then pure (none, none, 0)
      else openObject thread o v.evaluateName settings.showLogicalStructure
    | _ => pure (none, none, 0)
  let value ← formatValue v.value size options
  return {
    name := v.name
    value
    typeName := some (v.formatType options)
    evaluateName := v.evaluateName
    variablesReference := handle
    indexedVariables := indexed.map Nat.toUInt64 }

/-- What is behind a reference, as a client sees it. There is nothing behind an unknown one. -/
def listVariables (reference : Int64) (start : Nat) (count : Option Nat) :
    Action V (List Protocol.Variable) := do
  let s ← get
  match s.resolve? reference with
  | none => return []
  | some ⟨thread, c⟩ =>
    let settings := s.settings.display
    let found ← (listContainer thread c start count settings).orFail listingFailed
    (found.mapM (describeVariable thread settings)).orFail listingFailed

/-- Stores a value in a local of a frame, or in a field. -/
def assign (c : Container) (v : Variable) (text : String) : Action V Value := do
  match v.slot, v.field with
  | some slot, _ =>
    let value ← liftExcept (Value.parse text slot.signature)
    match c.proxy? with
    | none => throw (.setVariableFailed s!"'{v.name}' has no frame")
    | some p =>
      (setLocalValue p slot value).orFail assignmentFailed
      return value
  | none, some f =>
    let value ← liftExcept (Value.parse text f.signature)
    let target := match c with
      | .object o _ => if f.isStatic then none else some o.id
      | _ => none
    (call (.setFieldValue target f value)).orFail assignmentFailed
    return value
  | none, none => throw (.setVariableFailed s!"'{v.name}' cannot be modified")

/-- Gives a variable behind a reference a value that a user has typed. -/
def setVariable (reference : Int64) (name text : String) :
    Action V Protocol.SetVariableResponseBody := do
  let s ← get
  match s.resolve? reference with
  | none =>
    throw (.setVariableFailed
      ("Unknown variables reference " ++ Number.renderInt reference.toInt))
  | some ⟨thread, c⟩ =>
    let settings := s.settings.display
    let found ← (listContainer thread c 0 none settings).orFail assignmentFailed
    match found.find? fun v => v.name = name with
    | none => throw (.setVariableFailed s!"No variable named '{name}'")
    | some v =>
      let value ← assign c v text
      let shown ← (describeVariable thread settings { v with value }).orFail assignmentFailed
      return {
        value := shown.value
        typeName := shown.typeName
        variablesReference := shown.variablesReference }

/-! ## Expressions -/

/-- The value of an expression, unless the thread of the frame is resumed first. -/
def evaluateInFrame (e : Evaluator) (p : FrameProxy) (expression : String) :
    Attempt V Value := do
  let token ← ExceptT.lift (evaluationToken p.thread)
  let stopped (s : Session V) := s.isRevoked token
  match ← ExceptT.lift (Task.givenUpWhen stopped (e.evaluate p expression).run) with
  | some (.ok value) => return value
  | some (.error failure) => throw failure
  | none =>
    throw (.error (.evaluateFailed s!"Thread {p.thread} resumed during evaluation"))

/-- What an evaluation needs: an evaluator and the frame behind a client's reference. -/
def evaluationSite (frameId : Option Int64) : Action V (Evaluator × FrameProxy) := do
  let s ← get
  match s.providers.evaluator with
  | none => throw (.providerNotRegistered Providers.evaluatorCapability)
  | some e =>
    match frameId.bind s.resolve? with
    | some ⟨_, .frame p⟩ => return (e, p)
    | _ => throw (.evaluateFailed "Evaluation needs a suspended stack frame")

/-- The value of an expression as a client sees it. -/
def evaluate (expression : String) (frameId : Option Int64) :
    Attempt V Protocol.EvaluateResponseBody := do
  let (e, p) ← ExceptT.adapt Failure.error (evaluationSite frameId)
  let value ← evaluateInFrame e p expression
  let settings := (← get).settings.display
  let v := Variable.ofValue expression value "java.lang.Object"
  let shown ← ExceptT.adapt (fun e => .error (evaluationFailed e))
    (describeVariable p.thread settings v)
  return {
    result := shown.value
    typeName := shown.typeName
    variablesReference := shown.variablesReference }

end DebugSession.Session
