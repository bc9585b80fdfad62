import DebugSession.Breakpoint.HitCondition
import DebugSession.Remote.Request
import DebugSession.Source.Lookup
import DebugSession.Table
/-!
Breakpoints on lines of source files and watchpoints on fields, what a client asks of them and what
has become of them.
-/

namespace DebugSession

/-- What a client can change of an installed breakpoint. -/
structure BreakpointOptions where
  condition : Option String := none
  hitCondition : Option HitCondition := none
  /-- Hits are logged with this text instead of halting the thread. -/
  logMessage : Option String := none
  deriving DecidableEq, Repr

inductive HitAction where
  | stop
  | log (text : String)
  | continue
  deriving DecidableEq, Repr

/-- What is installed on the debuggee for a breakpoint, how often it was hit and what is to be said
of it. -/
structure Installation where
  options : BreakpointOptions := {}
  requests : List RequestId := []
  message : Option String := none
  hits : UInt32 := 0
  deriving DecidableEq, Repr

namespace Installation

def verified (i : Installation) : Bool := !i.requests.isEmpty

/-- Counts a hit and says what it calls for. -/
def hit (i : Installation) : HitAction × Installation :=
  let i := { i with hits := i.hits + 1 }
  let due := i.options.hitCondition.all (HitCondition.isMet i.hits)
  let action :=
    if !due then .continue
    else match i.options.logMessage with
      | some text => .log text
      | none => .stop
  (action, i)

end Installation

/-- The condition in a text, or what to say of a text that holds none. Blank text asks for none. -/
def readHitCondition (text : Option String) : Option HitCondition × Option String :=
  match text.bind Text.nonBlank with
  | none => (none, none)
  | some text =>
    match HitCondition.parse text with
    | .ok condition => (some condition, none)
    | .error fault => (none, some fault.message)

/-! ## Lines -/

structure BreakpointSpec where
  line : UInt32
  column : Option UInt32 := none
  condition : Option String := none
  hitCondition : Option String := none
  logMessage : Option String := none
  deriving DecidableEq, Repr

/-- The options that a client asks for, and what to say of them. -/
def BreakpointSpec.options (spec : BreakpointSpec) : BreakpointOptions × Option String :=
  let (hitCondition, warning) := readHitCondition spec.hitCondition
  ({ condition := spec.condition.bind Text.nonBlank
     hitCondition
     logMessage := spec.logMessage.bind Text.nonBlank }, warning)

structure Breakpoint where
  id : UInt32
  source : String
  line : UInt32
  column : Option UInt32
  /-- Where the line is in loaded code, if that is known. -/
  location : Option BreakpointLocation
  installation : Installation
  deriving DecidableEq, Repr

/-- What a breakpoint is called in a complaint. -/
def Breakpoint.unresolvedText (b : Breakpoint) : String :=
  s!"Unable to resolve a class for {b.source}:" ++ Nat.repr b.line.toNat

/-! ## Fields -/

structure WatchpointSpec where
  className : String
  fieldName : String
  access : AccessType
  condition : Option String := none
  hitCondition : Option String := none
  deriving DecidableEq, Repr

namespace WatchpointSpec

/-- What a client calls a field. -/
def dataId (spec : WatchpointSpec) : String := s!"{spec.className}#{spec.fieldName}"

/-- The field that a client means. -/
def ofDataId? (text : String) (access : AccessType) : Option WatchpointSpec :=
  match Text.cut? ['#'] text.toList with
  | none => none
  | some (className, fieldName) =>
    if className.isEmpty || fieldName.isEmpty then none
    else some { className := String.ofList className, fieldName := String.ofList fieldName, access }

def key (spec : WatchpointSpec) : String × String := (spec.className, spec.fieldName)

/-- The options that a client asks for, and what to say of them. Watchpoints log nothing. -/
def options (spec : WatchpointSpec) : BreakpointOptions × Option String :=
  let (hitCondition, warning) := readHitCondition spec.hitCondition
  ({ condition := spec.condition.bind Text.nonBlank, hitCondition }, warning)

end WatchpointSpec

structure Watchpoint where
  id : UInt32
  className : String
  fieldName : String
  access : AccessType
  installation : Installation
  deriving DecidableEq, Repr

/-! ## All of a session -/

/-- What an event request was installed for: the place where the breakpoint or watchpoint is kept,
and its number. -/
inductive Owner where
  | breakpoint (source : String) (line : UInt32) (id : UInt32)
  | watchpoint (className fieldName : String) (id : UInt32)
  deriving DecidableEq, Repr

/-- What event requests are installed for. -/
inductive Installed where
  | breakpoint (b : Breakpoint)
  | watchpoint (w : Watchpoint)
  deriving DecidableEq, Repr

namespace Installed

def id : Installed → UInt32
  | breakpoint b => b.id
  | watchpoint w => w.id

def installation : Installed → Installation
  | breakpoint b => b.installation
  | watchpoint w => w.installation

/-- Counts a hit and says what it calls for. -/
def hit : Installed → HitAction × Installed
  | breakpoint b =>
    let (action, installation) := b.installation.hit
    (action, breakpoint { b with installation })
  | watchpoint w =>
    let (action, installation) := w.installation.hit
    (action, watchpoint { w with installation })

end Installed

/-- The number that is given out when `count` numbers have been given out already. Numbers have 32
bits. -/
def numberAfter (count : Nat) : UInt32 := UInt32.ofNat (count + 1)

structure Breakpoints where
  /-- How many numbers breakpoints and watchpoints have been given so far. -/
  issued : Nat := 0
  /-- By source and line. -/
  sources : Table String (Table UInt32 Breakpoint) := {}
  /-- By class and field. -/
  watchpoints : Table (String × String) Watchpoint := {}
  /-- What is given up already, but still installed on the debuggee. -/
  leaving : List Installed := []
  exceptionRequest : Option RequestId := none
  owners : Table RequestId Owner := {}

namespace Breakpoints

def ofSource (b : Breakpoints) (source : String) : Table UInt32 Breakpoint :=
  (b.sources.get? source).getD {}

def breakpoint? (b : Breakpoints) (source : String) (line : UInt32) : Option Breakpoint :=
  (b.ofSource source).get? line

def watchpoint? (b : Breakpoints) (key : String × String) : Option Watchpoint :=
  b.watchpoints.get? key

def putBreakpoint (b : Breakpoints) (bp : Breakpoint) : Breakpoints :=
  { b with sources := b.sources.insert bp.source ((b.ofSource bp.source).insert bp.line bp) }

def dropBreakpoint (b : Breakpoints) (source : String) (line : UInt32) : Breakpoints :=
  { b with sources := b.sources.insert source ((b.ofSource source).erase line) }

def putWatchpoint (b : Breakpoints) (wp : Watchpoint) : Breakpoints :=
  { b with watchpoints := b.watchpoints.insert (wp.className, wp.fieldName) wp }

def dropWatchpoint (b : Breakpoints) (key : String × String) : Breakpoints :=
  { b with watchpoints := b.watchpoints.erase key }

def lines (b : Breakpoints) (source : String) : List UInt32 :=
  ((b.ofSource source).sortedBy UInt32.toNat).map (·.1)

/-- All breakpoints in the order of their numbers. -/
def all (b : Breakpoints) : List Breakpoint :=
  (b.sources.values.flatMap Table.values).mergeSort fun x y => x.id ≤ y.id

def allWatchpoints (b : Breakpoints) : List Watchpoint :=
  b.watchpoints.values.mergeSort fun x y => x.id ≤ y.id

def takeId (b : Breakpoints) : UInt32 × Breakpoints :=
  (numberAfter b.issued, { b with issued := b.issued + 1 })

/-- Gives up the breakpoints of all sources. Until their requests are deleted they can be hit. -/
def giveUpLines (b : Breakpoints) : List Installed × Breakpoints :=
  let lines := b.sources.keys.flatMap fun source =>
    (b.lines source).filterMap fun line => (b.breakpoint? source line).map .breakpoint
  (lines, { b with sources := {}, leaving := b.leaving ++ lines })

/-- Gives up all watchpoints. Until their requests are deleted they can be hit. -/
def giveUpFields (b : Breakpoints) : List Installed × Breakpoints :=
  let fields := b.watchpoints.values.map .watchpoint
  (fields, { b with watchpoints := {}, leaving := b.leaving ++ fields })

def forget (i : Installed) (b : Breakpoints) : Breakpoints :=
  { b with leaving := b.leaving.filter fun j => j.id ≠ i.id }

/-- What is kept at the place of an owner under its number, or was kept there before it was given
up. -/
def ofOwner? (b : Breakpoints) : Owner → Option Installed
  | .breakpoint source line id =>
    ((b.breakpoint? source line).map .breakpoint).filter (·.id = id) <|>
      b.leaving.find? (·.id = id)
  | .watchpoint className fieldName id =>
    ((b.watchpoint? (className, fieldName)).map .watchpoint).filter (·.id = id) <|>
      b.leaving.find? (·.id = id)

def installed? (b : Breakpoints) (request : RequestId) : Option Installed :=
  (b.owners.get? request).bind b.ofOwner?

/-- Puts what has changed back in its place. -/
def put (b : Breakpoints) (i : Installed) : Breakpoints :=
  if b.leaving.any (·.id = i.id) then
    { b with leaving := b.leaving.map fun j => if j.id = i.id then i else j }
  else match i with
    | .breakpoint bp => b.putBreakpoint bp
    | .watchpoint wp => b.putWatchpoint wp

/-- Counts a hit of a breakpoint or watchpoint and says what it calls for. -/
def hit (b : Breakpoints) (i : Installed) : HitAction × Breakpoints :=
  let (action, i) := i.hit
  (action, b.put i)

end Breakpoints
end DebugSession
