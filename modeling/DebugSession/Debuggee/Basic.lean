import DebugSession.Table
import DebugSession.Remote.Call
/-!
A debuggee held in memory: threads with stacks whose frame handles go stale when the thread runs,
types, objects and statics, event requests and a queue of events. It counts what is asked of it.
-/

namespace DebugSession

/-- A frame as the debuggee itself has it. -/
structure Frame where
  location : Location
  locals : List (LocalVariable × Value) := []
  arguments : List Value := []
  this : Option ObjectRef := none
  /-- Locals are unavailable, only argument values can be read. -/
  absentInformation : Bool := false
  /-- No variables, and argument values cannot be read. -/
  native : Bool := false
  deriving DecidableEq, Repr

/-- Adds a local in the next free slot; an argument is an argument value too. -/
def Frame.addLocal (f : Frame) (name signature : String) (value : Value) (isArgument : Bool) :
    Frame :=
  { f with
    locals := f.locals ++ [(⟨name, signature, isArgument, f.locals.length⟩, value)]
    arguments := if isArgument then f.arguments ++ [value] else f.arguments }

structure HeapObject where
  reference : ObjectRef
  /-- Field values by declaring type and name. -/
  fields : Table (String × String) Value := {}
  elements : List Value := []
  text : Option String := none

structure VmThread where
  name : String
  alive : Bool := true
  suspended : Bool := false
  frames : List Frame := []
  /-- Grows whenever the thread runs; frame handles of an earlier generation are stale. -/
  generation : Nat := 0

structure FrameHandle where
  thread : ThreadId
  generation : Nat
  depth : Nat
  deriving DecidableEq, Repr

structure Invocation where
  thread : ThreadId
  object : ObjectId
  method : String
  arguments : List Value

structure Debuggee where
  threads : Table ThreadId VmThread := {}
  frameHandles : Table FrameId FrameHandle := {}
  nextFrame : FrameId := 1
  types : Table String ReferenceType := {}
  objects : Table ObjectId HeapObject := {}
  statics : Table (String × String) Value := {}
  invokeResults : Table (ObjectId × String) Value := {}
  requests : Table RequestId EventRequest := {}
  lastRequest : RequestId := 0
  deleteAttempts : List RequestId := []
  failingDeletes : List RequestId := []
  failingFieldReads : List String := []
  framesCalls : Nat := 0
  fieldBatches : List Nat := []
  localBatches : List Nat := []
  invocations : List Invocation := []
  resumed : List ThreadId := []
  latency : Nat := 0
  disconnected : Bool := false
  events : List VmEvent := []
  eventsClosed : Bool := false

namespace Debuggee

/-! ## Setting up and looking in -/

def addThread (d : Debuggee) (id : ThreadId) (name : String) : Debuggee :=
  { d with threads := d.threads.insert id { name } }

/-- Replaces a thread's stack; handles of the old one go stale. -/
def setFrames (d : Debuggee) (thread : ThreadId) (frames : List Frame) : Debuggee :=
  { d with threads := d.threads.modify thread fun t =>
      { t with frames, generation := t.generation + 1 } }

/-- Halts a thread as a breakpoint would. -/
def suspendThread (d : Debuggee) (thread : ThreadId) : Debuggee :=
  { d with threads := d.threads.modify thread fun t => { t with suspended := true } }

def runThread (d : Debuggee) (thread : ThreadId) : Debuggee :=
  if d.threads.contains thread then
    { d with
      threads := d.threads.modify thread fun t =>
        { t with suspended := false, generation := t.generation + 1 }
      resumed := d.resumed ++ [thread] }
  else d

def killThread (d : Debuggee) (thread : ThreadId) : Debuggee :=
  { d with threads := d.threads.modify thread fun t =>
      { t with alive := false, suspended := false, generation := t.generation + 1 } }

def addType (d : Debuggee) (t : ReferenceType) : Debuggee :=
  { d with types := d.types.insert t.name t }

def addObject (d : Debuggee) (o : HeapObject) : Debuggee :=
  { d with objects := d.objects.insert o.reference.id o }

def setStatic (d : Debuggee) (typeName field : String) (value : Value) : Debuggee :=
  { d with statics := d.statics.insert (typeName, field) value }

def setInvokeResult (d : Debuggee) (object : ObjectId) (method : String) (value : Value) :
    Debuggee :=
  { d with invokeResults := d.invokeResults.insert (object, method) value }

/-- An event after the stream is closed is lost. -/
def pushEvent (d : Debuggee) (e : VmEvent) : Debuggee :=
  if d.eventsClosed then d else { d with events := d.events ++ [e] }

/-- Ends the event stream once the events in it are read. -/
def closeEvents (d : Debuggee) : Debuggee := { d with eventsClosed := true }

def failDelete (d : Debuggee) (request : RequestId) : Debuggee :=
  { d with failingDeletes := request :: d.failingDeletes }

def failFieldReads (d : Debuggee) (field : String) : Debuggee :=
  { d with failingFieldReads := field :: d.failingFieldReads }

def disconnect (d : Debuggee) : Debuggee := { d with disconnected := true, eventsClosed := true }

def liveRequests (d : Debuggee) : List (RequestId × EventRequest) := d.requests.sortedBy id

def fieldValue? (d : Debuggee) (object : ObjectId) (declaringType field : String) :
    Option Value := do
  (← d.objects.get? object).fields.get? (declaringType, field)

def localValue? (d : Debuggee) (thread : ThreadId) (depth : Nat) (name : String) :
    Option Value := do
  let frame ← (← d.threads.get? thread).frames[depth]?
  (frame.locals.find? fun l => l.1.name = name).map (·.2)

/-! ## What frame handles stand for -/

def thread (d : Debuggee) (id : ThreadId) : Except RemoteError VmThread :=
  match d.threads.get? id with
  | some t => .ok t
  | none => .error (.invalidThread id)

/-- Whether a handle is good: its thread stands still and has not run since. -/
def FrameHandle.valid (h : FrameHandle) (t : VmThread) : Bool :=
  t.alive && t.suspended && t.generation = h.generation

def handle (d : Debuggee) (id : FrameId) : Except RemoteError FrameHandle :=
  match d.frameHandles.get? id with
  | some h => .ok h
  | none => .error .invalidStackFrame

/-- The frame behind a handle. -/
def frame (d : Debuggee) (id : FrameId) : Except RemoteError Frame := do
  let h ← d.handle id
  let t ← d.thread h.thread
  if !FrameHandle.valid h t then throw .invalidStackFrame
  match t.frames[h.depth]? with
  | some f => .ok f
  | none => .error .invalidStackFrame

def object (d : Debuggee) (id : ObjectId) : Except RemoteError HeapObject :=
  match d.objects.get? id with
  | some o => .ok o
  | none => .error (.invalidObject id)

end Debuggee
end DebugSession
