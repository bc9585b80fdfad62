import DebugSession.Protocol.Results
import DebugSession.Session.Breakpoints
import DebugSession.Session.Inspection
/-!
Breakpoints as a client asks for them and gets to see them.
-/

namespace DebugSession

variable {V : Type} [Machine V]

/-- What a client asks for on a line. -/
def BreakpointSpec.ofRequest (b : Protocol.SourceBreakpoint) : BreakpointSpec :=
  ⟨b.line, b.column, b.condition, b.hitCondition, b.logMessage⟩

/-- A breakpoint as a client sees it: on the line where it is in loaded code. -/
def Breakpoint.describe (b : Breakpoint) : Protocol.Breakpoint :=
  { id := some b.id
    verified := b.installation.verified
    message := b.installation.message
    source := some { name := Path.fileName? b.source, path := some b.source }
    line := some (match b.location with
      | some l => l.line
      | none => b.line)
    column := b.column }

def Watchpoint.describe (w : Watchpoint) : Protocol.Breakpoint :=
  { id := some w.id, verified := w.installation.verified, message := w.installation.message }

/-- The field that a client asks to watch; without a known access, writes are watched. -/
def WatchpointSpec.ofRequest? (b : Protocol.DataBreakpoint) : Option WatchpointSpec :=
  let access := (b.accessType.bind AccessType.ofName?).getD .write
  (WatchpointSpec.ofDataId? b.dataId access).map fun spec =>
    { spec with condition := b.condition, hitCondition := b.hitCondition }

/-- The answer to an entry that names no field. -/
def invalidDataBreakpoint (b : Protocol.DataBreakpoint) : Protocol.Breakpoint :=
  { verified := false, message := some s!"Invalid data breakpoint id '{b.dataId}'" }

namespace Session

/-- Makes the breakpoints of a source those that a client asks for. -/
def requestBreakpoints (source : String) (wanted : List Protocol.SourceBreakpoint)
    (modified : Bool) : Action V (List Protocol.Breakpoint) := do
  let found ← setBreakpoints source (wanted.map BreakpointSpec.ofRequest) modified
  return found.map Breakpoint.describe

/-- One answer for each entry: the next watchpoint for those that name a field. -/
def alignWatchpoints : List Protocol.DataBreakpoint → List Watchpoint → List Protocol.Breakpoint
  | [], _ => []
  | b :: rest, found =>
    match WatchpointSpec.ofRequest? b, found with
    | some _, w :: found => w.describe :: alignWatchpoints rest found
    | _, found => invalidDataBreakpoint b :: alignWatchpoints rest found

/-- Makes the watchpoints those that a client asks for. -/
def requestWatchpoints (wanted : List Protocol.DataBreakpoint) :
    Action V (List Protocol.Breakpoint) := do
  let found ← setWatchpoints (wanted.filterMap WatchpointSpec.ofRequest?)
  return alignWatchpoints wanted found

/-- All breakpoints, then all watchpoints. -/
def listBreakpoints : Task (Session V) (List Protocol.Breakpoint) := do
  let lines := (← allBreakpoints).map Breakpoint.describe
  let fields := (← allWatchpoints).map Watchpoint.describe
  return lines ++ fields

/-- Makes threads halt at the exceptions that the filters name. -/
def requestExceptions (filters : List String) : Action V Unit :=
  setExceptionBreakpoints (filters.contains "caught") (filters.contains "uncaught")

/-! ## Which fields can be watched -/

/-- The class whose fields are behind a container, if they are fields. -/
def watchedType? : Container → Option String
  | .object o _ => if o.kind = .plain then some o.typeName else none
  | .statics _ typeName => some typeName
  | _ => none

/-- A field's name, and the class that stands behind it in parentheses. -/
def splitQualified (name : String) : String × Option String :=
  match Text.cut? [' ', '('] name.toList with
  | none => (name, none)
  | some (field, rest) =>
    (String.ofList field, some (String.ofList (Text.dropEndWhile (· = ')') rest)))

def isNamed (name : String) (qualifier : Option String) (f : Field) : Bool :=
  f.name = name && qualifier.all fun q =>
    f.declaringType = q || Signature.simpleName f.declaringType = q

def unavailable (description : String) : Protocol.DataBreakpointInfoResponseBody :=
  { dataId := none, description }

/-- What a client calls a field that it can watch. -/
def available (f : Field) : Protocol.DataBreakpointInfoResponseBody :=
  let spec : WatchpointSpec :=
    { className := f.declaringType, fieldName := f.name, access := .write }
  { dataId := some spec.dataId
    description := s!"{Signature.simpleName f.declaringType}.{f.name}"
    accessTypes := AccessType.all.map AccessType.name }

/-- Whether a variable behind a reference can be watched. -/
def dataBreakpointInfo (reference : Option Int64) (name : String) :
    Action V Protocol.DataBreakpointInfoResponseBody := do
  let s ← get
  match (reference.bind s.resolve?).bind fun p => watchedType? p.object with
  | none => return unavailable "Only fields can be watched"
  | some typeName =>
    let (fieldName, qualifier) := splitQualified name
    let fields ← (allFields typeName).orFail listingFailed
    match fields.find? (isNamed fieldName qualifier) with
    | some f => return available f
    | none => return unavailable s!"No field named '{name}'"

end Session
end DebugSession
