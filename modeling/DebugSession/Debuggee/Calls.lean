import DebugSession.Debuggee.Basic
/-!
The effect of each call on a debuggee held in memory.
-/

namespace DebugSession.Debuggee

def answer (d : Debuggee) (r : Except RemoteError α) : Except RemoteError α × Debuggee := (r, d)

def liveThreads (d : Debuggee) : List ThreadInfo :=
  ((d.threads.sortedBy id).filter fun e => e.2.alive).map fun e => ⟨e.1, e.2.name⟩

/-- Gives out a handle for every frame of a thread, innermost first. -/
def issueFrames (d : Debuggee) (thread : ThreadId) (generation : Nat) :
    (depth : Nat) → List Frame → List FrameInfo × Debuggee
  | _, [] => ([], d)
  | depth, f :: rest =>
    let id := d.nextFrame
    let d := { d with
      nextFrame := id + 1
      frameHandles := d.frameHandles.insert id ⟨thread, generation, depth⟩ }
    let (infos, d) := issueFrames d thread generation (depth + 1) rest
    (⟨id, f.location⟩ :: infos, d)

def frames (d : Debuggee) (thread : ThreadId) : Except RemoteError (List FrameInfo) × Debuggee :=
  let d := { d with framesCalls := d.framesCalls + 1 }
  match d.thread thread with
  | .error e => (.error e, d)
  | .ok t =>
    if !t.alive then (.error (.invalidThread thread), d)
    else if !t.suspended then (.error .incompatibleThreadState, d)
    else
      let (infos, d) := d.issueFrames thread t.generation 0 t.frames
      (.ok infos, d)

def suspend (d : Debuggee) (thread : ThreadId) : Except RemoteError Unit × Debuggee :=
  match d.thread thread with
  | .error e => (.error e, d)
  | .ok _ => (.ok (), d.suspendThread thread)

def resume (d : Debuggee) (thread : ThreadId) : Except RemoteError Unit × Debuggee :=
  match d.thread thread with
  | .error e => (.error e, d)
  | .ok _ => (.ok (), d.runThread thread)

def suspendedThreads (d : Debuggee) : List ThreadId :=
  ((d.threads.sortedBy id).filter fun e => e.2.suspended).map (·.1)

def resumeAll (d : Debuggee) : Except RemoteError Unit × Debuggee :=
  (.ok (), d.suspendedThreads.foldl runThread d)

def visibleVariables (d : Debuggee) (frame : FrameId) :
    Except RemoteError (List LocalVariable) := do
  let f ← d.frame frame
  if f.native || f.absentInformation then throw .absentInformation
  return f.locals.map (·.1)

def unknownLocal (v : LocalVariable) : RemoteError := .other s!"Unknown local variable {v.name}"

def Frame.value (f : Frame) (v : LocalVariable) : Except RemoteError Value :=
  match f.locals.find? fun l => l.1 = v with
  | some (_, value) => .ok value
  | none => .error (unknownLocal v)

def localValues (d : Debuggee) (frame : FrameId) (targets : List LocalVariable) :
    Except RemoteError (List Value) × Debuggee :=
  let d := { d with localBatches := d.localBatches ++ [targets.length] }
  d.answer do
    let f ← d.frame frame
    targets.mapM (Frame.value f)

def argumentValues (d : Debuggee) (frame : FrameId) : Except RemoteError (List Value) := do
  let f ← d.frame frame
  if f.native then throw .opaqueFrame
  return f.arguments

/-- A value goes only where its type fits. -/
def checkAssignable (signature : String) (value : Value) : Except RemoteError Unit :=
  if value.fits signature then .ok () else .error (.invalidType (Signature.typeName signature))

/-- Changes the first local that satisfies `p`. -/
def Frame.assign (f : Frame) (target : LocalVariable) (value : Value) : Frame :=
  { f with locals := go f.locals }
where
  go : List (LocalVariable × Value) → List (LocalVariable × Value)
    | [] => []
    | (l, v) :: rest => if l = target then (l, value) :: rest else (l, v) :: go rest

def setLocalValue (d : Debuggee) (frame : FrameId) (target : LocalVariable) (value : Value) :
    Except RemoteError Unit × Debuggee :=
  match (do
    checkAssignable target.signature value
    let f ← d.frame frame
    let h ← d.handle frame
    let _ ← Frame.value f target
    return (f, h)) with
  | .error e => (.error e, d)
  | .ok (f, h) =>
    (.ok (), { d with threads := d.threads.modify h.thread fun t =>
        { t with frames := t.frames.set h.depth (Frame.assign f target value) } })

def referenceType (d : Debuggee) (typeName : String) : Except RemoteError ReferenceType :=
  match d.types.get? typeName with
  | some t => .ok t
  | none => .error (.classNotLoaded typeName)

def storedValue (values : Table (String × String) Value) (f : Field) : Value :=
  (values.get? (f.declaringType, f.name)).getD (Value.default f.signature)

def fieldValues (d : Debuggee) (object : ObjectId) (fields : List Field) :
    Except RemoteError (List Value) × Debuggee :=
  let d := { d with fieldBatches := d.fieldBatches ++ [fields.length] }
  d.answer do
    if fields.any fun f => d.failingFieldReads.contains f.name then throw (.commandFailed 113)
    return fields.map (storedValue (← d.object object).fields)

def staticFieldValues (d : Debuggee) (typeName : String) (fields : List Field) :
    Except RemoteError (List Value) × Debuggee :=
  let d := { d with fieldBatches := d.fieldBatches ++ [fields.length] }
  d.answer do
    let _ ← d.referenceType typeName
    return fields.map (storedValue d.statics)

def setFieldValue (d : Debuggee) (object : Option ObjectId) (field : Field) (value : Value) :
    Except RemoteError Unit × Debuggee :=
  let key := (field.declaringType, field.name)
  match checkAssignable field.signature value, object with
  | .error e, _ => (.error e, d)
  | .ok _, none => (.ok (), { d with statics := d.statics.insert key value })
  | .ok _, some id =>
    match d.object id with
    | .error e => (.error e, d)
    | .ok o =>
      (.ok (), { d with
        objects := d.objects.insert id { o with fields := o.fields.insert key value } })

def arrayValues (d : Debuggee) (array : ObjectId) (start length : Nat) :
    Except RemoteError (List Value) := do
  let o ← d.object array
  if o.elements.length < start + length then throw (.other "Array index out of bounds")
  return (o.elements.drop start).take length

def stringValue (d : Debuggee) (string : ObjectId) : Except RemoteError String := do
  match (← d.object string).text with
  | some text => .ok text
  | none => .error (.invalidObject string)

/-- The thread runs while the method does, so its frame handles go stale. -/
def invokeMethod (d : Debuggee) (thread : ThreadId) (object : ObjectId) (method : MethodCall)
    (arguments : List Value) : Except RemoteError Value × Debuggee :=
  match d.thread thread with
  | .error e => (.error e, d)
  | .ok t =>
    if !t.suspended then (.error .incompatibleThreadState, d)
    else
      let d := { d with
        threads := d.threads.modify thread fun t => { t with generation := t.generation + 1 }
        invocations := d.invocations ++ [⟨thread, object, method.name, arguments⟩] }
      match d.invokeResults.get? (object, method.name) with
      | some value => (.ok value, d)
      | none => (.error (.other s!"No method {method.name} on object {object}"), d)

def createRequest (d : Debuggee) (request : EventRequest) :
    Except RemoteError RequestId × Debuggee :=
  let id := d.lastRequest + 1
  (.ok id, { d with lastRequest := id, requests := d.requests.insert id request })

def deleteRequest (d : Debuggee) (request : RequestId) : Except RemoteError Unit × Debuggee :=
  let d := { d with deleteAttempts := d.deleteAttempts ++ [request] }
  if d.failingDeletes.contains request || !d.requests.contains request then
    (.error (.invalidRequest request), d)
  else (.ok (), { d with requests := d.requests.erase request })

/-- What a call answers and leaves behind. -/
def perform : (c : Call) → Debuggee → Except RemoteError c.Reply × Debuggee
  | .version, d => (.ok "Java Debug Wire Protocol (Mock VM) 17.0", d)
  | .allThreads, d => (.ok d.liveThreads, d)
  | .isSuspended thread, d => d.answer ((d.thread thread).map fun t => t.alive && t.suspended)
  | .frames thread, d => d.frames thread
  | .suspend thread, d => d.suspend thread
  | .resume thread, d => d.resume thread
  | .resumeAll, d => d.resumeAll
  | .frameLocation frame, d => d.answer ((d.frame frame).map Frame.location)
  | .visibleVariables frame, d => d.answer (d.visibleVariables frame)
  | .localValues frame targets, d => d.localValues frame targets
  | .argumentValues frame, d => d.answer (d.argumentValues frame)
  | .thisObject frame, d => d.answer ((d.frame frame).map Frame.this)
  | .setLocalValue frame target value, d => d.setLocalValue frame target value
  | .referenceType typeName, d => d.answer (d.referenceType typeName)
  | .fieldValues object fields, d => d.fieldValues object fields
  | .staticFieldValues typeName fields, d => d.staticFieldValues typeName fields
  | .setFieldValue object field value, d => d.setFieldValue object field value
  | .arrayLength array, d => d.answer ((d.object array).map fun o => o.elements.length)
  | .arrayValues array start length, d => d.answer (d.arrayValues array start length)
  | .stringValue string, d => d.answer (d.stringValue string)
  | .invokeMethod thread object method arguments, d => d.invokeMethod thread object method arguments
  | .createRequest request, d => d.createRequest request
  | .deleteRequest request, d => d.deleteRequest request
  | .dispose, d => (.ok (), d.disconnect)

/-- The next event; one at a time, in the order in which they came. -/
def takeEvent (d : Debuggee) : EventPoll × Debuggee :=
  match d.events with
  | e :: rest => (.event e, { d with events := rest })
  | [] => (if d.eventsClosed then .closed else .pending, d)

instance : Machine Debuggee where
  typeCount d := d.types.size
  submit _ d := (.accepted d.latency d.disconnected, d)
  perform := perform
  awaitEvent d := (none, d)
  takeEvent := takeEvent

end DebugSession.Debuggee
