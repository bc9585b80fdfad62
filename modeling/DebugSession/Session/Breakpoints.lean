import DebugSession.Session.Call
/-!
Bringing the breakpoints that are installed in line with those that a client asks for. What is asked
for and installed already keeps its number and its count of hits; what is not asked for any more is
removed before anything new is installed. One at a time changes the breakpoints on lines, and so
with those on fields and with the request for exceptions; who wants to see them waits as well.
-/

namespace DebugSession.Session

variable {V : Type} [Machine V]

def modifyBreakpoints (f : Breakpoints → Breakpoints) (s : Session V) : Session V :=
  { s with breakpoints := f s.breakpoints }

def deleteRequests : List RequestId → Task (Session V) Unit
  | [] => pure ()
  | request :: rest => do
    modify (modifyBreakpoints fun b => { b with owners := b.owners.erase request })
    let _ ← tryCall (.deleteRequest request)
    deleteRequests rest

def installRequest (request : EventRequest) : Action V (Except String RequestId) := do
  match ← attempt (call (.createRequest request)) with
  | .ok id => return .ok id
  | .error e => if e.isDisconnect then throw .vmTerminated else return .error e.message

def noteOutcome (outcome : Except String RequestId) (i : Installation) : Installation :=
  match outcome with
  | .ok id => { i with requests := i.requests ++ [id] }
  | .error text => { i with message := some text }

/-- A number for a new breakpoint or watchpoint. -/
def takeBreakpointId : Task (Session V) UInt32 :=
  modifyGet fun s =>
    let (id, breakpoints) := s.breakpoints.takeId
    (id, { s with breakpoints })

/-- Notes what a request was installed for. -/
def setOwner (owner : Owner) (outcome : Except String RequestId) (s : Session V) : Session V :=
  match outcome with
  | .ok id => modifyBreakpoints (fun b => { b with owners := b.owners.insert id owner }) s
  | .error _ => s

/-! ## Lines -/

/-- The request for a breakpoint whose place in loaded code is known. -/
def breakpointRequest (l : BreakpointLocation) (condition : Option String) : EventRequest :=
  .breakpoint l.className l.methodName l.line condition

/-- Installs a breakpoint; what that makes of its installation. -/
def placeBreakpoint (bp : Breakpoint) : Action V (Installation → Installation) := do
  match bp.location with
  | none => return fun i => { i with message := some bp.unresolvedText }
  | some l =>
    let outcome ← installRequest (breakpointRequest l bp.installation.options.condition)
    modify (setOwner (.breakpoint bp.source bp.line bp.id) outcome)
    return noteOutcome outcome

def amendBreakpoint (source : String) (line : UInt32) (f : Installation → Installation)
    (s : Session V) : Session V :=
  match s.breakpoints.breakpoint? source line with
  | none => s
  | some bp =>
    modifyBreakpoints (fun b => b.putBreakpoint { bp with installation := f bp.installation }) s

/-- Installs a breakpoint anew, under its present condition. -/
def replaceBreakpoint (bp : Breakpoint) : Action V Unit := do
  modify (amendBreakpoint bp.source bp.line fun i => { i with requests := [] })
  quietly (deleteRequests bp.installation.requests)
  let change ← placeBreakpoint bp
  modify (amendBreakpoint bp.source bp.line change)

/-- The installation of a breakpoint that is kept, with the options now asked for. -/
def BreakpointSpec.revise (spec : BreakpointSpec) (i : Installation) : Installation :=
  let (options, warning) := spec.options
  { i with
    options
    message := if warning.isSome || i.verified then warning else i.message }

/-- Gives a breakpoint that is kept the options now asked for. Only a changed condition concerns the
debuggee. -/
def reviseBreakpoint (bp : Breakpoint) (spec : BreakpointSpec) : Action V Unit := do
  let revised := { bp with installation := BreakpointSpec.revise spec bp.installation }
  modify (modifyBreakpoints fun b => b.putBreakpoint revised)
  if bp.installation.options.condition ≠ revised.installation.options.condition &&
      bp.installation.verified then
    replaceBreakpoint revised

/-- Revises the breakpoints on lines that are asked for, each by the first entry for its line. -/
def reviseAll (source : String) : (visited : List UInt32) → List BreakpointSpec → Action V Unit
  | _, [] => return
  | visited, spec :: rest => do
    match (← get).breakpoints.breakpoint? source spec.line with
    | some bp => if !visited.contains spec.line then reviseBreakpoint bp spec
    | none => pure ()
    reviseAll source (spec.line :: visited) rest

def removeLines (source : String) : List UInt32 → Task (Session V) Unit
  | [] => pure ()
  | line :: rest => do
    match (← get).breakpoints.breakpoint? source line with
    | none => pure ()
    | some bp =>
      modify (modifyBreakpoints fun b => b.dropBreakpoint source line)
      deleteRequests bp.installation.requests
    removeLines source rest

def createBreakpoint (source : String) (spec : BreakpointSpec) : Action V Unit := do
  let lookup := (← get).providers.lookup
  let location := lookup.bind fun l => l.resolveBreakpoint source spec.line spec.column
  let (options, message) := spec.options
  let id ← quietly takeBreakpointId
  let bp : Breakpoint :=
    { id, source, line := spec.line, column := spec.column, location
      installation := { options, message } }
  let change ← placeBreakpoint bp
  modify (modifyBreakpoints fun b =>
    b.putBreakpoint { bp with installation := change bp.installation })

def createMissing (source : String) : List BreakpointSpec → Action V Unit
  | [] => return
  | spec :: rest => do
    if ((← get).breakpoints.breakpoint? source spec.line).isNone then createBreakpoint source spec
    createMissing source rest

/-- Removes the breakpoints of a source. Those whose turn has not come can still be hit. -/
def clearSource (source : String) : Task (Session V) Unit := do
  removeLines source ((← get).breakpoints.lines source)

/-- Brings the breakpoints of a source in line with those that are asked for. In a source that was
modified, lines may have moved, so that nothing of it is kept. -/
def reconcileLines (source : String) (specs : List BreakpointSpec) (modified : Bool) :
    Action V (List Breakpoint) := do
  if modified then quietly (clearSource source)
  reviseAll source [] specs
  let wanted := specs.map BreakpointSpec.line
  let stale := ((← get).breakpoints.lines source).filter fun line => !wanted.contains line
  quietly (removeLines source stale)
  createMissing source specs
  let b := (← get).breakpoints
  return specs.filterMap fun spec => b.breakpoint? source spec.line

/-- Makes the breakpoints of a source those that are asked for; the answer has one for each
entry. -/
def setBreakpoints (source : String) (specs : List BreakpointSpec) (modified : Bool) :
    Action V (List Breakpoint) :=
  Action.exclusively .lines (reconcileLines source specs modified)

/-- All breakpoints on lines, when nobody changes them. -/
def allBreakpoints : Task (Session V) (List Breakpoint) :=
  exclusively .lines do return (← get).breakpoints.all

/-! ## Fields -/

def watchpointRequest (wp : Watchpoint) : EventRequest :=
  .watchpoint wp.className wp.fieldName wp.access wp.installation.options.condition

/-- Installs a watchpoint; what that makes of its installation. -/
def placeWatchpoint (wp : Watchpoint) : Action V (Installation → Installation) := do
  let outcome ← installRequest (watchpointRequest wp)
  modify (setOwner (.watchpoint wp.className wp.fieldName wp.id) outcome)
  return noteOutcome outcome

def amendWatchpoint (key : String × String) (f : Installation → Installation) (s : Session V) :
    Session V :=
  match s.breakpoints.watchpoint? key with
  | none => s
  | some wp =>
    modifyBreakpoints (fun b => b.putWatchpoint { wp with installation := f wp.installation }) s

/-- The installation of a watchpoint that is kept, with the options now asked for. -/
def WatchpointSpec.revise (spec : WatchpointSpec) (i : Installation) : Installation :=
  let (options, warning) := spec.options
  { i with
    options := { options with logMessage := i.options.logMessage }
    message := if warning.isSome then warning else i.message }

/-- Gives a watchpoint that is kept the options now asked for. -/
def reviseWatchpoint (wp : Watchpoint) (spec : WatchpointSpec) : Action V Unit := do
  let revised := { wp with installation := WatchpointSpec.revise spec wp.installation }
  modify (modifyBreakpoints fun b => b.putWatchpoint revised)
  if wp.installation.options.condition ≠ revised.installation.options.condition &&
      wp.installation.verified then
    modify (amendWatchpoint spec.key fun i => { i with requests := [] })
    quietly (deleteRequests wp.installation.requests)
    let change ← placeWatchpoint revised
    modify (amendWatchpoint spec.key change)

/-- Revises the watchpoints that are asked for with the access they have, each by the first such
entry; the fields of these. -/
def reviseWatchpoints : (kept : List (String × String)) → List WatchpointSpec →
    Action V (List (String × String))
  | kept, [] => return kept
  | kept, spec :: rest => do
    match (← get).breakpoints.watchpoint? spec.key with
    | some wp =>
      if wp.access = spec.access then
        if !kept.contains spec.key then reviseWatchpoint wp spec
        reviseWatchpoints (spec.key :: kept) rest
      else reviseWatchpoints kept rest
    | none => reviseWatchpoints kept rest

def removeFields : List (String × String) → Task (Session V) Unit
  | [] => pure ()
  | key :: rest => do
    match (← get).breakpoints.watchpoint? key with
    | none => pure ()
    | some wp =>
      modify (modifyBreakpoints fun b => b.dropWatchpoint key)
      deleteRequests wp.installation.requests
    removeFields rest

/-- Whether a class declares a field, or why that cannot be told. -/
def declaresField (spec : WatchpointSpec) : Action V (Except String Unit) := do
  match ← attempt (call (.referenceType spec.className)) with
  | .error e => if e.isDisconnect then throw .vmTerminated else return .error e.message
  | .ok t =>
    if t.fields.any fun f => f.name = spec.fieldName then return .ok ()
    else return .error s!"{spec.className} has no field '{spec.fieldName}'"

def createWatchpoint (spec : WatchpointSpec) : Action V Unit := do
  let (options, message) := spec.options
  let id ← quietly takeBreakpointId
  let wp : Watchpoint :=
    { id, className := spec.className, fieldName := spec.fieldName, access := spec.access
      installation := { options, message } }
  let change ← match ← declaresField spec with
    | .ok () => placeWatchpoint wp
    | .error text => pure fun i => { i with message := some text }
  modify (modifyBreakpoints fun b =>
    b.putWatchpoint { wp with installation := change wp.installation })

/-- The answer to a wish for a field that is watched for another access. -/
def conflicting (spec : WatchpointSpec) (installed : Watchpoint) (id : UInt32) : Watchpoint :=
  let field := s!"{spec.className}.{spec.fieldName}"
  let text := s!"{field} is already watched for {installed.access.title} access"
  { id, className := spec.className, fieldName := spec.fieldName, access := spec.access
    installation := { message := some text } }

/-- Creates the watchpoints on fields that have none. For each entry, what is in its way. -/
def createMissingWatchpoints : List WatchpointSpec → Action V (List (Option Watchpoint))
  | [] => return []
  | spec :: rest => do
    match (← get).breakpoints.watchpoint? spec.key with
    | some wp =>
      if wp.access = spec.access then return none :: (← createMissingWatchpoints rest)
      else
        let id ← quietly takeBreakpointId
        return some (conflicting spec wp id) :: (← createMissingWatchpoints rest)
    | none =>
      createWatchpoint spec
      return none :: (← createMissingWatchpoints rest)

/-- Brings the watchpoints in line with those that are asked for. A field is watched for one access
only. -/
def reconcileFields (specs : List WatchpointSpec) : Action V (List Watchpoint) := do
  let kept ← reviseWatchpoints [] specs
  let stale := (← get).breakpoints.watchpoints.keys.filter fun key => !kept.contains key
  quietly (removeFields stale)
  let obstacles ← createMissingWatchpoints specs
  let b := (← get).breakpoints
  return (List.zip specs obstacles).filterMap fun (spec, obstacle) =>
    obstacle <|> b.watchpoint? spec.key

/-- Makes the watchpoints those that are asked for; the answer has one for each entry. -/
def setWatchpoints (specs : List WatchpointSpec) : Action V (List Watchpoint) :=
  Action.exclusively .fields (reconcileFields specs)

/-- All watchpoints, when nobody changes them. -/
def allWatchpoints : Task (Session V) (List Watchpoint) :=
  exclusively .fields do return (← get).breakpoints.allWatchpoints

/-! ## Exceptions, and all together -/

def removeExceptionRequest : Task (Session V) Unit := do
  match (← get).breakpoints.exceptionRequest with
  | none => pure ()
  | some request =>
    modify (modifyBreakpoints fun b => { b with exceptionRequest := none })
    let _ ← tryCall (.deleteRequest request)

/-- Makes threads halt at exceptions that are caught, that are not, or both. -/
def setExceptionBreakpoints (caught uncaught : Bool) : Action V Unit :=
  Action.exclusively .exceptions do
    quietly removeExceptionRequest
    if caught || uncaught then
      let id ← (call (.createRequest (.exception none caught uncaught))).orFail
        (SessionError.ofRemote .setExceptionBreakpointFailed)
      modify (modifyBreakpoints fun b => { b with exceptionRequest := some id })

def deleteGivenUp : List Installed → Task (Session V) Unit
  | [] => pure ()
  | i :: rest => do
    modify (modifyBreakpoints (Breakpoints.forget i))
    deleteRequests i.installation.requests
    deleteGivenUp rest

/-- Gives up breakpoints or watchpoints at once. -/
def giveUp (f : Breakpoints → List Installed × Breakpoints) :
    Task (Session V) (List Installed) :=
  modifyGet fun s =>
    let (gone, breakpoints) := f s.breakpoints
    (gone, { s with breakpoints })

/-- Removes everything. What is given up is no longer shown from then on, while its requests are
yet to be deleted. -/
def removeBreakpoints : Task (Session V) Unit := do
  deleteGivenUp (← exclusively .lines (giveUp Breakpoints.giveUpLines))
  deleteGivenUp (← exclusively .fields (giveUp Breakpoints.giveUpFields))
  exclusively .exceptions removeExceptionRequest

/-- Counts a hit and says what it calls for. -/
def hitInstalled (installed : Installed) : Task (Session V) HitAction :=
  modifyGet fun s =>
    let (action, breakpoints) := s.breakpoints.hit installed
    (action, { s with breakpoints })

end DebugSession.Session
