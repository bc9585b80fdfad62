import DebugSession.Json.Record
/-!
What requests and answers are about: sources, breakpoints, threads, frames, scopes, variables.
-/

namespace DebugSession.Protocol

open Json (record)

structure Source where
  name : Option String := none
  path : Option String := none
  sourceReference : Option Int64 := none
  deriving DecidableEq, Repr

instance : Json.Format Source :=
  record "Source"
    (.field (.optional "name") <|
      .field (.optional "path") <|
      .field (.optional "sourceReference") <|
      .done)
    (fun (name, path, sourceReference, _) => ⟨name, path, sourceReference⟩)
    (fun x => (x.name, x.path, x.sourceReference, ()))

/-- A breakpoint as a client asks for it. -/
structure SourceBreakpoint where
  line : UInt32
  column : Option UInt32 := none
  condition : Option String := none
  hitCondition : Option String := none
  logMessage : Option String := none
  deriving DecidableEq, Repr

instance : Json.Format SourceBreakpoint :=
  record "SourceBreakpoint"
    (.field (.required "line") <|
      .field (.optional "column") <|
      .field (.optional "condition") <|
      .field (.optional "hitCondition") <|
      .field (.optional "logMessage") <|
      .done)
    (fun (line, column, condition, hitCondition, logMessage, _) =>
      ⟨line, column, condition, hitCondition, logMessage⟩)
    (fun x => (x.line, x.column, x.condition, x.hitCondition, x.logMessage, ()))

/-- A watch on a field as a client asks for it. -/
structure DataBreakpoint where
  dataId : String
  accessType : Option String := none
  condition : Option String := none
  hitCondition : Option String := none
  deriving DecidableEq, Repr

instance : Json.Format DataBreakpoint :=
  record "DataBreakpoint"
    (.field (.required "dataId") <|
      .field (.optional "accessType") <|
      .field (.optional "condition") <|
      .field (.optional "hitCondition") <|
      .done)
    (fun (dataId, accessType, condition, hitCondition, _) =>
      ⟨dataId, accessType, condition, hitCondition⟩)
    (fun x => (x.dataId, x.accessType, x.condition, x.hitCondition, ()))

/-- What has become of a breakpoint that a client asked for. -/
structure Breakpoint where
  id : Option UInt32 := none
  verified : Bool
  message : Option String := none
  source : Option Source := none
  line : Option UInt32 := none
  column : Option UInt32 := none
  deriving DecidableEq, Repr

instance : Json.Format Breakpoint :=
  record "Breakpoint"
    (.field (.optional "id") <|
      .field (.required "verified") <|
      .field (.optional "message") <|
      .field (.optional "source") <|
      .field (.optional "line") <|
      .field (.optional "column") <|
      .done)
    (fun (id, verified, message, source, line, column, _) =>
      ⟨id, verified, message, source, line, column⟩)
    (fun x => (x.id, x.verified, x.message, x.source, x.line, x.column, ()))

structure StackFrame where
  id : Int64
  name : String
  source : Option Source := none
  line : UInt32
  column : UInt32
  deriving DecidableEq, Repr

instance : Json.Format StackFrame :=
  record "StackFrame"
    (.field (.required "id") <|
      .field (.required "name") <|
      .field (.optional "source") <|
      .field (.required "line") <|
      .field (.required "column") <|
      .done)
    (fun (id, name, source, line, column, _) => ⟨id, name, source, line, column⟩)
    (fun x => (x.id, x.name, x.source, x.line, x.column, ()))

structure Thread where
  id : Int64
  name : String
  deriving DecidableEq, Repr

instance : Json.Format Thread :=
  record "Thread"
    (.field (.required "id") <|
      .field (.required "name") <|
      .done)
    (fun (id, name, _) => ⟨id, name⟩)
    (fun x => (x.id, x.name, ()))

structure Scope where
  name : String
  variablesReference : Int64
  expensive : Bool := false
  deriving DecidableEq, Repr

instance : Json.Format Scope :=
  record "Scope"
    (.field (.required "name") <|
      .field (.required "variablesReference") <|
      .field (.defaulting "expensive" false) <|
      .done)
    (fun (name, variablesReference, expensive, _) => ⟨name, variablesReference, expensive⟩)
    (fun x => (x.name, x.variablesReference, x.expensive, ()))

structure Variable where
  name : String
  value : String
  typeName : Option String := none
  evaluateName : Option String := none
  variablesReference : Int64 := 0
  indexedVariables : Option UInt64 := none
  deriving DecidableEq, Repr

instance : Json.Format Variable :=
  record "Variable"
    (.field (.required "name") <|
      .field (.required "value") <|
      .field (.optional "type") <|
      .field (.optional "evaluateName") <|
      .field (.defaulting "variablesReference" 0) <|
      .field (.optional "indexedVariables") <|
      .done)
    (fun (name, value, typeName, evaluateName, variablesReference, indexedVariables, _) =>
      ⟨name, value, typeName, evaluateName, variablesReference, indexedVariables⟩)
    (fun x =>
      (x.name, x.value, x.typeName, x.evaluateName, x.variablesReference, x.indexedVariables, ()))

end DebugSession.Protocol
