import DebugSession.Protocol.Basic
/-!
What answers hold.
-/

namespace DebugSession.Protocol

open Json (record)

structure ExceptionBreakpointsFilter where
  filter : String
  label : String
  default : Bool := false
  deriving DecidableEq, Repr

instance : Json.Format ExceptionBreakpointsFilter :=
  record "ExceptionBreakpointsFilter"
    (.field (.required "filter") <|
      .field (.required "label") <|
      .field (.defaulting "default" false) <|
      .done)
    (fun (filter, label, default, _) => ⟨filter, label, default⟩)
    (fun x => (x.filter, x.label, x.default, ()))

structure Capabilities where
  supportsConfigurationDoneRequest : Bool := false
  supportsConditionalBreakpoints : Bool := false
  supportsHitConditionalBreakpoints : Bool := false
  supportsLogPoints : Bool := false
  supportsEvaluateForHovers : Bool := false
  supportsSetVariable : Bool := false
  supportsDataBreakpoints : Bool := false
  supportsExceptionInfoRequest : Bool := false
  supportsDelayedStackTraceLoading : Bool := false
  exceptionBreakpointFilters : List ExceptionBreakpointsFilter := []
  deriving DecidableEq, Repr

instance : Json.Format Capabilities :=
  record "Capabilities"
    (.field (.defaulting "supportsConfigurationDoneRequest" false) <|
      .field (.defaulting "supportsConditionalBreakpoints" false) <|
      .field (.defaulting "supportsHitConditionalBreakpoints" false) <|
      .field (.defaulting "supportsLogPoints" false) <|
      .field (.defaulting "supportsEvaluateForHovers" false) <|
      .field (.defaulting "supportsSetVariable" false) <|
      .field (.defaulting "supportsDataBreakpoints" false) <|
      .field (.defaulting "supportsExceptionInfoRequest" false) <|
      .field (.defaulting "supportsDelayedStackTraceLoading" false) <|
      .field (.listed "exceptionBreakpointFilters") <|
      .done)
    (fun (supportsConfigurationDoneRequest, supportsConditionalBreakpoints,
        supportsHitConditionalBreakpoints, supportsLogPoints, supportsEvaluateForHovers,
        supportsSetVariable, supportsDataBreakpoints, supportsExceptionInfoRequest,
        supportsDelayedStackTraceLoading, exceptionBreakpointFilters, _) =>
      ⟨supportsConfigurationDoneRequest, supportsConditionalBreakpoints,
        supportsHitConditionalBreakpoints, supportsLogPoints, supportsEvaluateForHovers,
        supportsSetVariable, supportsDataBreakpoints, supportsExceptionInfoRequest,
        supportsDelayedStackTraceLoading, exceptionBreakpointFilters⟩)
    (fun x =>
      (x.supportsConfigurationDoneRequest, x.supportsConditionalBreakpoints,
        x.supportsHitConditionalBreakpoints, x.supportsLogPoints, x.supportsEvaluateForHovers,
        x.supportsSetVariable, x.supportsDataBreakpoints, x.supportsExceptionInfoRequest,
        x.supportsDelayedStackTraceLoading, x.exceptionBreakpointFilters, ()))

structure SetBreakpointsResponseBody where
  breakpoints : List Breakpoint
  deriving DecidableEq, Repr

instance : Json.Format SetBreakpointsResponseBody :=
  record "SetBreakpointsResponseBody"
    (.field (.required "breakpoints") <|
      .done)
    (fun (breakpoints, _) => ⟨breakpoints⟩)
    (fun x => (x.breakpoints, ()))

structure DataBreakpointInfoResponseBody where
  dataId : Option String := none
  description : String
  accessTypes : List String := []
  deriving DecidableEq, Repr

instance : Json.Format DataBreakpointInfoResponseBody :=
  record "DataBreakpointInfoResponseBody"
    (.field (.nullable "dataId") <|
      .field (.required "description") <|
      .field (.listed "accessTypes") <|
      .done)
    (fun (dataId, description, accessTypes, _) => ⟨dataId, description, accessTypes⟩)
    (fun x => (x.dataId, x.description, x.accessTypes, ()))

structure StackTraceResponseBody where
  stackFrames : List StackFrame
  totalFrames : Option Int64 := none
  deriving DecidableEq, Repr

instance : Json.Format StackTraceResponseBody :=
  record "StackTraceResponseBody"
    (.field (.required "stackFrames") <|
      .field (.optional "totalFrames") <|
      .done)
    (fun (stackFrames, totalFrames, _) => ⟨stackFrames, totalFrames⟩)
    (fun x => (x.stackFrames, x.totalFrames, ()))

structure ThreadsResponseBody where
  threads : List Thread
  deriving DecidableEq, Repr

instance : Json.Format ThreadsResponseBody :=
  record "ThreadsResponseBody"
    (.field (.required "threads") <|
      .done)
    (fun (threads, _) => ⟨threads⟩)
    (fun x => (x.threads, ()))

structure ScopesResponseBody where
  scopes : List Scope
  deriving DecidableEq, Repr

instance : Json.Format ScopesResponseBody :=
  record "ScopesResponseBody"
    (.field (.required "scopes") <|
      .done)
    (fun (scopes, _) => ⟨scopes⟩)
    (fun x => (x.scopes, ()))

structure VariablesResponseBody where
  shown : List Variable
  deriving DecidableEq, Repr

instance : Json.Format VariablesResponseBody :=
  record "VariablesResponseBody"
    (.field (.required "variables") <|
      .done)
    (fun (shown, _) => ⟨shown⟩)
    (fun x => (x.shown, ()))

structure SetVariableResponseBody where
  value : String
  typeName : Option String := none
  variablesReference : Int64 := 0
  deriving DecidableEq, Repr

instance : Json.Format SetVariableResponseBody :=
  record "SetVariableResponseBody"
    (.field (.required "value") <|
      .field (.optional "type") <|
      .field (.defaulting "variablesReference" 0) <|
      .done)
    (fun (value, typeName, variablesReference, _) => ⟨value, typeName, variablesReference⟩)
    (fun x => (x.value, x.typeName, x.variablesReference, ()))

structure EvaluateResponseBody where
  result : String
  typeName : Option String := none
  variablesReference : Int64 := 0
  deriving DecidableEq, Repr

instance : Json.Format EvaluateResponseBody :=
  record "EvaluateResponseBody"
    (.field (.required "result") <|
      .field (.optional "type") <|
      .field (.defaulting "variablesReference" 0) <|
      .done)
    (fun (result, typeName, variablesReference, _) => ⟨result, typeName, variablesReference⟩)
    (fun x => (x.result, x.typeName, x.variablesReference, ()))

structure ContinueResponseBody where
  allThreadsContinued : Bool := true
  deriving DecidableEq, Repr

instance : Json.Format ContinueResponseBody :=
  record "ContinueResponseBody"
    (.field (.defaulting "allThreadsContinued" true) <|
      .done)
    (fun (allThreadsContinued, _) => ⟨allThreadsContinued⟩)
    (fun x => (x.allThreadsContinued, ()))

structure ExceptionInfoResponseBody where
  exceptionId : String
  description : Option String := none
  breakMode : String
  deriving DecidableEq, Repr

instance : Json.Format ExceptionInfoResponseBody :=
  record "ExceptionInfoResponseBody"
    (.field (.required "exceptionId") <|
      .field (.optional "description") <|
      .field (.required "breakMode") <|
      .done)
    (fun (exceptionId, description, breakMode, _) => ⟨exceptionId, description, breakMode⟩)
    (fun x => (x.exceptionId, x.description, x.breakMode, ()))

end DebugSession.Protocol
