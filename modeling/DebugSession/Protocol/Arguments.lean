import DebugSession.Protocol.Basic
/-!
The arguments of requests.
-/

namespace DebugSession.Protocol

open Json (record)

structure InitializeArguments where
  clientId : Option String := none
  clientName : Option String := none
  adapterId : String := ""
  linesStartAt1 : Bool := true
  columnsStartAt1 : Bool := true
  supportsVariableType : Bool := false
  supportsVariablePaging : Bool := false
  deriving DecidableEq, Repr

instance : Json.Format InitializeArguments :=
  record "InitializeArguments"
    (.field (.optional "clientId") <|
      .field (.optional "clientName") <|
      .field (.defaulting "adapterID" "") <|
      .field (.defaulting "linesStartAt1" true) <|
      .field (.defaulting "columnsStartAt1" true) <|
      .field (.defaulting "supportsVariableType" false) <|
      .field (.defaulting "supportsVariablePaging" false) <|
      .done)
    (fun (clientId, clientName, adapterId, linesStartAt1, columnsStartAt1, supportsVariableType,
        supportsVariablePaging, _) =>
      ⟨clientId, clientName, adapterId, linesStartAt1, columnsStartAt1, supportsVariableType,
        supportsVariablePaging⟩)
    (fun x =>
      (x.clientId, x.clientName, x.adapterId, x.linesStartAt1, x.columnsStartAt1,
        x.supportsVariableType, x.supportsVariablePaging, ()))

structure SetBreakpointsArguments where
  source : Source
  breakpoints : List SourceBreakpoint := []
  sourceModified : Bool := false
  deriving DecidableEq, Repr

instance : Json.Format SetBreakpointsArguments :=
  record "SetBreakpointsArguments"
    (.field (.required "source") <|
      .field (.listed "breakpoints") <|
      .field (.defaulting "sourceModified" false) <|
      .done)
    (fun (source, breakpoints, sourceModified, _) => ⟨source, breakpoints, sourceModified⟩)
    (fun x => (x.source, x.breakpoints, x.sourceModified, ()))

structure SetExceptionBreakpointsArguments where
  filters : List String := []
  deriving DecidableEq, Repr

instance : Json.Format SetExceptionBreakpointsArguments :=
  record "SetExceptionBreakpointsArguments"
    (.field (.defaulting "filters" []) <|
      .done)
    (fun (filters, _) => ⟨filters⟩)
    (fun x => (x.filters, ()))

structure DataBreakpointInfoArguments where
  variablesReference : Option Int64 := none
  name : String
  deriving DecidableEq, Repr

instance : Json.Format DataBreakpointInfoArguments :=
  record "DataBreakpointInfoArguments"
    (.field (.optional "variablesReference") <|
      .field (.required "name") <|
      .done)
    (fun (variablesReference, name, _) => ⟨variablesReference, name⟩)
    (fun x => (x.variablesReference, x.name, ()))

structure SetDataBreakpointsArguments where
  breakpoints : List DataBreakpoint := []
  deriving DecidableEq, Repr

instance : Json.Format SetDataBreakpointsArguments :=
  record "SetDataBreakpointsArguments"
    (.field (.defaulting "breakpoints" []) <|
      .done)
    (fun (breakpoints, _) => ⟨breakpoints⟩)
    (fun x => (x.breakpoints, ()))

structure ContinueArguments where
  threadId : Int64
  singleThread : Bool := false
  deriving DecidableEq, Repr

instance : Json.Format ContinueArguments :=
  record "ContinueArguments"
    (.field (.required "threadId") <|
      .field (.defaulting "singleThread" false) <|
      .done)
    (fun (threadId, singleThread, _) => ⟨threadId, singleThread⟩)
    (fun x => (x.threadId, x.singleThread, ()))

structure StepArguments where
  threadId : Int64
  granularity : Option String := none
  deriving DecidableEq, Repr

instance : Json.Format StepArguments :=
  record "StepArguments"
    (.field (.required "threadId") <|
      .field (.optional "granularity") <|
      .done)
    (fun (threadId, granularity, _) => ⟨threadId, granularity⟩)
    (fun x => (x.threadId, x.granularity, ()))

structure PauseArguments where
  threadId : Int64
  deriving DecidableEq, Repr

instance : Json.Format PauseArguments :=
  record "PauseArguments"
    (.field (.required "threadId") <|
      .done)
    (fun (threadId, _) => ⟨threadId⟩)
    (fun x => (x.threadId, ()))

structure StackTraceArguments where
  threadId : Int64
  startFrame : Option Int64 := none
  levels : Option Int64 := none
  deriving DecidableEq, Repr

instance : Json.Format StackTraceArguments :=
  record "StackTraceArguments"
    (.field (.required "threadId") <|
      .field (.optional "startFrame") <|
      .field (.optional "levels") <|
      .done)
    (fun (threadId, startFrame, levels, _) => ⟨threadId, startFrame, levels⟩)
    (fun x => (x.threadId, x.startFrame, x.levels, ()))

structure ScopesArguments where
  frameId : Int64
  deriving DecidableEq, Repr

instance : Json.Format ScopesArguments :=
  record "ScopesArguments"
    (.field (.required "frameId") <|
      .done)
    (fun (frameId, _) => ⟨frameId⟩)
    (fun x => (x.frameId, ()))

structure VariablesArguments where
  variablesReference : Int64
  start : Option Int64 := none
  count : Option Int64 := none
  deriving DecidableEq, Repr

instance : Json.Format VariablesArguments :=
  record "VariablesArguments"
    (.field (.required "variablesReference") <|
      .field (.optional "start") <|
      .field (.optional "count") <|
      .done)
    (fun (variablesReference, start, count, _) => ⟨variablesReference, start, count⟩)
    (fun x => (x.variablesReference, x.start, x.count, ()))

structure SetVariableArguments where
  variablesReference : Int64
  name : String
  value : String
  deriving DecidableEq, Repr

instance : Json.Format SetVariableArguments :=
  record "SetVariableArguments"
    (.field (.required "variablesReference") <|
      .field (.required "name") <|
      .field (.required "value") <|
      .done)
    (fun (variablesReference, name, value, _) => ⟨variablesReference, name, value⟩)
    (fun x => (x.variablesReference, x.name, x.value, ()))

structure EvaluateArguments where
  expression : String
  frameId : Option Int64 := none
  context : Option String := none
  deriving DecidableEq, Repr

instance : Json.Format EvaluateArguments :=
  record "EvaluateArguments"
    (.field (.required "expression") <|
      .field (.optional "frameId") <|
      .field (.optional "context") <|
      .done)
    (fun (expression, frameId, context, _) => ⟨expression, frameId, context⟩)
    (fun x => (x.expression, x.frameId, x.context, ()))

structure StackFrameArguments where
  threadId : Int64
  depth : Int64 := 0
  deriving DecidableEq, Repr

instance : Json.Format StackFrameArguments :=
  record "StackFrameArguments"
    (.field (.required "threadId") <|
      .field (.defaulting "depth" 0) <|
      .done)
    (fun (threadId, depth, _) => ⟨threadId, depth⟩)
    (fun x => (x.threadId, x.depth, ()))

/-- For requests that only name a thread. -/
structure ThreadArguments where
  threadId : Int64
  deriving DecidableEq, Repr

instance : Json.Format ThreadArguments :=
  record "ThreadArguments"
    (.field (.required "threadId") <|
      .done)
    (fun (threadId, _) => ⟨threadId⟩)
    (fun x => (x.threadId, ()))

structure DisconnectArguments where
  restart : Bool := false
  terminateDebuggee : Option Bool := none
  deriving DecidableEq, Repr

instance : Json.Format DisconnectArguments :=
  record "DisconnectArguments"
    (.field (.defaulting "restart" false) <|
      .field (.optional "terminateDebuggee") <|
      .done)
    (fun (restart, terminateDebuggee, _) => ⟨restart, terminateDebuggee⟩)
    (fun x => (x.restart, x.terminateDebuggee, ()))

end DebugSession.Protocol
