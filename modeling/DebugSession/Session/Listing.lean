import DebugSession.Session.Frames
import DebugSession.Variable.Basic
/-!
Listing what is in frames, objects, classes and arrays. Values are read in pages, so that no call
asks for very many.
-/

namespace DebugSession

/-- How values are read: at most how many by one call, and whether calls overlap. -/
structure FetchPolicy where
  pageSize : Nat
  mode : CallMode
  deriving DecidableEq, Repr

namespace Session

variable {V : Type} [Machine V]

def fetchPolicy (s : Session V) : FetchPolicy :=
  ⟨max 1 s.settings.display.pageSize, s.callMode⟩

/-! ## Pages -/

/-- Slices of a list, all but the last one of a given size, which is at least one. -/
def pages (size : Nat) (items : List α) : List (List α) :=
  if items.isEmpty then []
  else items.take (max 1 size) :: pages size (items.drop (max 1 size))
termination_by items.length
decreasing_by
  simp only [List.isEmpty_iff] at *
  have := List.length_pos_iff.mpr ‹_›
  simp only [List.length_drop]
  omega

/-- The results of pages that were read side by side. One that failed is left out, unless the
debuggee was lost. -/
def gather : List (Except RemoteError (List α)) → Except RemoteError (List α)
  | [] => .ok []
  | .ok page :: rest => (gather rest).map (page ++ ·)
  | .error e :: rest => if e.isDisconnect then .error e else gather rest

/-- The results of `fetch` on a list, a page at a time. One after the other, the first failure
counts for all. -/
def fetchPaged (policy : FetchPolicy) (items : List α) (fetch : List α → Remote V (List β)) :
    Remote V (List β) :=
  let pages := pages policy.pageSize items
  match policy.mode with
  | .synchronous => return (← pages.mapM fetch).flatten
  | .pipelined => do
    let results ← quietly (Task.all (pages.map fun page => (fetch page).run))
    match gather results with
    | .ok values => return values
    | .error e => throw e

/-! ## Frames -/

def listNamed (p : FrameProxy) (policy : FetchPolicy) (vs : List LocalVariable) :
    Remote V (List Variable) := do
  let found ← fetchPaged policy vs fun page => do
    return List.zipWith Variable.ofLocal page (← localValues p page)
  return Variable.resolveNames found

def listArguments (p : FrameProxy) : Remote V (List Variable) := do
  match ← attempt (argumentValues p) with
  | .ok values => return values.mapIdx Variable.ofArgument
  | .error .opaqueFrame => return []
  | .error e => throw e

/-- The variables of a frame, or its arguments if there is no debug information. A native frame has
nothing to list. -/
def listLocals (p : FrameProxy) (policy : FetchPolicy) : Remote V (List Variable) := do
  match ← attempt (visibleVariables p) with
  | .ok vs => listNamed p policy vs
  | .error .absentInformation => listArguments p
  | .error .opaqueFrame => return []
  | .error e => throw e

/-! ## Fields -/

/-- The fields of a class and its superclasses, from `next` on up, those of `known` being listed
already. A superclass that is not loaded ends the list; `first` has to be loaded. -/
def fieldsFrom (first : String) : (count : Nat) → (known : List String) → (next : String) →
    Remote V (List Field)
  | 0, _, _ => return []
  | count + 1, known, next => do
    if known.contains next then return []
    match ← attempt (call (.referenceType next)) with
    | .error (.classNotLoaded name) =>
      if next = first then throw (.classNotLoaded name) else return []
    | .error e => throw e
    | .ok t =>
      match t.superclass with
      | none => return t.fields
      | some super => return t.fields ++ (← fieldsFrom first count (next :: known) super)

/-- The fields of a class and all its superclasses, those of the class itself first. -/
def allFields (typeName : String) : Remote V (List Field) := do
  fieldsFrom typeName ((← get).walkLimit + 1) [] typeName

/-- The value of a field by its name; the class itself comes before its superclasses. An array has
a length. -/
def fieldValue? (o : ObjectRef) (name : String) : Remote V (Option Value) := do
  if o.isArray then
    if name ≠ "length" then return none
    let length ← call (.arrayLength o.id)
    return some (.int (Int32.ofInt (min length (Number.maxSigned 32))))
  else
    match (← allFields o.typeName).find? fun f => f.name = name with
    | none => return none
    | some f =>
      let values ← if f.isStatic then call (.staticFieldValues o.typeName [f])
        else call (.fieldValues o.id [f])
      return values.head?

def listStaticFields (typeName : String) (policy : FetchPolicy) (fields : List Field) :
    Remote V (List Variable) :=
  fetchPaged policy fields fun page => do
    let values ← call (.staticFieldValues typeName page)
    return List.zipWith (fun f value => Variable.ofField f value (some f.declaringType)) page values

/-- The fields of an object; static ones come last, if they are wanted. -/
def listFields (o : ObjectRef) (withStatic : Bool) (policy : FetchPolicy)
    (parent : Option String) : Remote V (List Variable) := do
  let fields ← allFields o.typeName
  let own ← fetchPaged policy (fields.filter fun f => !f.isStatic) fun page => do
    let values ← call (.fieldValues o.id page)
    return List.zipWith (fun f value => Variable.ofField f value parent) page values
  let static := fields.filter Field.isStatic
  let shared ← if withStatic && !static.isEmpty then listStaticFields o.typeName policy static
    else pure []
  return Variable.resolveNames (own ++ shared)

/-- The static fields of a class and its superclasses. -/
def listStatics (typeName : String) (policy : FetchPolicy) : Remote V (List Variable) := do
  let fields ← allFields typeName
  let found ← listStaticFields typeName policy (fields.filter Field.isStatic)
  return Variable.resolveNames found

/-! ## Arrays -/

/-- How many of `length` things there are from `start` on; no count, or zero, asks for all. -/
def windowLength (length start : Nat) (count : Option Nat) : Nat :=
  match count with
  | some (n + 1) => min (n + 1) (length - start)
  | _ => length - start

/-- The elements of an array from `start` on. -/
def listElements (o : ObjectRef) (start : Nat) (count : Option Nat) (policy : FetchPolicy)
    (parent : Option String) : Remote V (List Variable) := do
  match o.kind with
  | .array component =>
    let length ← call (.arrayLength o.id)
    let start := min start length
    let indices := List.range' start (windowLength length start count)
    fetchPaged policy indices fun page =>
      match page with
      | [] => return []
      | first :: _ => do
        let values ← call (.arrayValues o.id first page.length)
        return List.zipWith (fun i value => Variable.ofElement i value component parent) page values
  | _ => throw (.invalidType o.typeName)

end Session
end DebugSession
