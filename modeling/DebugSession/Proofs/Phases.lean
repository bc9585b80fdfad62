import DebugSession.Session.Breakpoints
import DebugSession.Session.Inspection
/-!
The longer procedures of a session, as the phases that they are made of. Whatever is shown of a
procedure is shown of its phases first, and these are the same for all that is shown.
-/

namespace DebugSession.Session

variable {V : Type} [Machine V]

/-! ## Breakpoints -/

/-- Has a request installed for an owner; what that makes of its installation. -/
def plant (owner : Owner) (request : EventRequest) : Action V (Installation → Installation) := do
  let outcome ← installRequest request
  modify (setOwner owner outcome)
  return noteOutcome outcome

theorem placeBreakpoint_located {bp : Breakpoint} {l : BreakpointLocation}
    (located : bp.location = some l) :
    (placeBreakpoint bp : Action V _) = plant (.breakpoint bp.source bp.line bp.id)
      (breakpointRequest l bp.installation.options.condition) := by
  unfold placeBreakpoint
  rw [located]
  rfl

theorem placeBreakpoint_unlocated {bp : Breakpoint} (unlocated : bp.location = none) :
    (placeBreakpoint bp : Action V _) =
      pure fun i => { i with message := some bp.unresolvedText } := by
  unfold placeBreakpoint
  rw [unlocated]

theorem placeWatchpoint_eq (wp : Watchpoint) : (placeWatchpoint wp : Action V _) =
    plant (.watchpoint wp.className wp.fieldName wp.id) (watchpointRequest wp) := rfl

/-- Deletes the requests of what is kept at a place, and installs it anew. `amend` changes the
installation that is found there. -/
def reinstall (amend : (Installation → Installation) → Session V → Session V)
    (requests : List RequestId) (place : Action V (Installation → Installation)) :
    Action V Unit := do
  modify (amend fun i => { i with requests := [] })
  quietly (deleteRequests requests)
  let change ← place
  modify (amend change)

theorem replaceBreakpoint_eq (bp : Breakpoint) : (replaceBreakpoint bp : Action V _) =
    reinstall (amendBreakpoint bp.source bp.line) bp.installation.requests (placeBreakpoint bp) :=
  rfl

/-- Brings the breakpoints of a source that was not modified in line with those asked for. -/
def bringInLine (source : String) (specs : List BreakpointSpec) :
    Action V (List Breakpoint) := do
  reviseAll source [] specs
  let wanted := specs.map BreakpointSpec.line
  let stale := ((← get).breakpoints.lines source).filter fun line => !wanted.contains line
  quietly (removeLines source stale)
  createMissing source specs
  let b := (← get).breakpoints
  return specs.filterMap fun spec => b.breakpoint? source spec.line

theorem reconcileLines_unmodified (source : String) (specs : List BreakpointSpec) :
    (reconcileLines source specs false : Action V _) = bringInLine source specs := rfl

theorem reconcileLines_modified (source : String) (specs : List BreakpointSpec) :
    (reconcileLines source specs true : Action V _) =
      quietly (clearSource source) >>= fun _ => bringInLine source specs := rfl

/-! ## What is shown -/

/-- Lists what is in an object, once it is known how it is shown. -/
def listShaped (thread : ThreadId) (o : ObjectRef) (parent : Option String) (start : Nat)
    (count : Option Nat) (settings : VariableSettings) (policy : FetchPolicy) :
    Option LogicalStructure → Remote V (List Variable)
  | some shape => do
    let scope ← quietly (logicalScope thread)
    logicalChildren scope shape o start count policy parent
  | none =>
    if o.isArray then listElements o start count policy parent
    else return window (← listFields o settings.showStaticVariables policy parent) start count

/-- An object that is shown neither by what it holds nor as an array is listed by its fields. -/
theorem listShaped_fields {o : ObjectRef} (single : o.isArray = false) (thread : ThreadId)
    (parent : Option String) (start : Nat) (count : Option Nat) (settings : VariableSettings)
    (policy : FetchPolicy) :
    (listShaped thread o parent start count settings policy none : Remote V _) = do
      return window (← listFields o settings.showStaticVariables policy parent) start count := by
  unfold listShaped
  rw [single]
  rfl

section

variable {thread : ThreadId} {o : ObjectRef} {parent : Option String} {start : Nat}
  {count : Option Nat} {settings : VariableSettings} {policy : FetchPolicy}

theorem listObject_logical (logical : settings.showLogicalStructure = true) :
    (listObject thread o parent start count settings policy : Remote V _) =
      quietly (structure? o) >>= listShaped thread o parent start count settings policy := by
  unfold listObject
  rw [if_pos logical]
  congr

theorem listObject_plain (plain : settings.showLogicalStructure = false) :
    (listObject thread o parent start count settings policy : Remote V _) =
      listShaped thread o parent start count settings policy none := by
  unfold listObject
  rw [plain, if_neg Bool.false_ne_true, pure_bind]
  rfl

end

/-- The size of an object that is opened, and how many elements a client may ask for. -/
def measureObject (thread : ThreadId) (o : ObjectRef) (showLogical : Bool) :
    Remote V (Option Nat × Option Nat) := do
  let (size, counted) ← if showLogical then sizeOf thread o else pure (none, false)
  if o.isArray then
    let length ← call (.arrayLength o.id)
    return (size, some length)
  else return (size, if counted then size else none)

/-- Only the handle of an object that is opened is new to the session. -/
theorem openObject_eq (thread : ThreadId) (o : ObjectRef) (evaluateName : Option String)
    (showLogical : Bool) : (openObject thread o evaluateName showLogical : Remote V _) = do
      let measured ← measureObject thread o showLogical
      let handle ← quietly (addHandle thread (.object o evaluateName))
      return (measured.1, measured.2, handle) := by
  unfold openObject measureObject
  cases showLogical <;> cases o.isArray <;> simp

/-- What a client is told of the value of a variable beside its text. -/
def openValue (thread : ThreadId) (settings : VariableSettings) (v : Variable) :
    Remote V (Option Nat × Option Nat × Int64) :=
  match v.value with
  | .object o =>
    if o.isString then pure (none, none, 0)
    else openObject thread o v.evaluateName settings.showLogicalStructure
  | _ => pure (none, none, 0)

/-- A variable as a client sees it, once its value is opened. -/
def describeOpened (settings : VariableSettings) (v : Variable)
    (opened : Option Nat × Option Nat × Int64) : Remote V Protocol.Variable := do
  let options := FormatOptions.ofSettings settings
  let value ← formatValue v.value opened.1 options
  return {
    name := v.name
    value
    typeName := some (v.formatType options)
    evaluateName := v.evaluateName
    variablesReference := opened.2.2
    indexedVariables := opened.2.1.map Nat.toUInt64 }

theorem describeVariable_eq (thread : ThreadId) (settings : VariableSettings) (v : Variable) :
    (describeVariable thread settings v : Remote V _) =
      openValue thread settings v >>= describeOpened settings v := by
  obtain ⟨name, value, _⟩ := v
  cases value with
  | object o =>
    unfold describeVariable openValue
    dsimp only
    split <;> rfl
  | _ => rfl

/-! ## Expressions -/

/-- What a name stands for that no variable has: a field of `this`. -/
def fieldOfThis (this : Option ObjectRef) (name : String) : Action V Value := do
  let field ← match this with
    | some o => (fieldValue? o name).orFail .remote
    | none => pure none
  match field with
  | some value => return value
  | none => throw (.evaluateFailed s!"'{name}' cannot be resolved")

omit [Machine V] in
/-- Where to evaluate an expression is known at once: in the frame that is behind a reference. -/
theorem evaluationSite_done (frameId : Option Int64) (s : Session V) :
    ∃ r, (evaluationSite frameId : Action V _).run s = .done r s ∧
      ∀ e p, r = .ok (e, p) → ∃ owner, frameId.bind s.resolve? = some ⟨owner, .frame p⟩ := by
  have begins : ∀ {β : Type} (f : Session V → Action V β),
      ExceptT.run (get >>= f) s = ExceptT.run (f s) s := fun _ => rfl
  unfold evaluationSite
  rw [begins]
  cases s.providers.evaluator with
  | none => exact ⟨_, rfl, nofun⟩
  | some e =>
    cases there : frameId.bind s.resolve? with
    | none => exact ⟨_, rfl, nofun⟩
    | some owned =>
      obtain ⟨owner, c⟩ := owned
      cases c with
      | frame p =>
        refine ⟨_, rfl, fun _ _ same => ?_⟩
        cases same
        exact ⟨owner, rfl⟩
      | _ => exact ⟨_, rfl, nofun⟩

/-- The value of an expression as a client sees it, once it is known where to evaluate it. -/
def evaluateAt (expression : String) (site : Evaluator × FrameProxy) :
    Attempt V Protocol.EvaluateResponseBody := do
  let value ← evaluateInFrame site.1 site.2 expression
  let settings := (← get).settings.display
  let v := Variable.ofValue expression value "java.lang.Object"
  let shown ← ExceptT.adapt (fun e => .error (evaluationFailed e))
    (describeVariable site.2.thread settings v)
  return {
    result := shown.value
    typeName := shown.typeName
    variablesReference := shown.variablesReference }

theorem evaluate_eq (expression : String) (frameId : Option Int64) :
    (evaluate expression frameId : Attempt V _) =
      ExceptT.adapt Failure.error (evaluationSite frameId) >>= evaluateAt expression := rfl

end DebugSession.Session
