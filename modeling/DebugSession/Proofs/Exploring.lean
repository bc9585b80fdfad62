import DebugSession.Proofs.Browsing
import DebugSession.Proofs.Phases
import DebugSession.Session.Control
/-!
What evaluations and listings by structure do to a session: questions to the debuggee, and methods
that run on it.
-/

namespace DebugSession

variable {V α β ε : Type} [Machine V] {R : Session V → Session V → Prop}

omit [Machine V] in
theorem Stirs.liftExcept [Composes R] (x : Except ε α) :
    Stirs R (liftExcept x : ExceptT ε (Task (Session V)) α) := by
  cases x with
  | ok a => exact .pure a
  | error e => exact .throw e

/-- A relation that allows evaluations to begin as well. -/
class Evaluates (R : Session V → Session V → Prop) : Prop extends Explores R where
  evaluations : ∀ (s : Session V) tokens evaluations, R s { s with tokens, evaluations }

/-- A relation that allows values to be stored as well. -/
class Assigns (R : Session V → Session V → Prop) : Prop extends Evaluates R where
  setLocal : ∀ frame target value, Allows R (.setLocalValue frame target value)
  setField : ∀ object field value, Allows R (.setFieldValue object field value)

namespace Session

section

variable [Browses R]

/-! ## Names and paths -/

private theorem walkFields_stirs (expression : String) (value : Value) (path : List String) :
    Stirs R (walkFields expression value path : Action V _) := by
  induction path generalizing value with
  | nil => exact .pure _
  | cons segment rest ih =>
    unfold walkFields
    split
    · exact .throw _
    · refine .bind (.liftExcept _) ?_
      intro o
      refine .bind (.orFail _ (fieldValue?_stirs _ _)) ?_
      intro found
      split
      · exact ih _
      · exact .throw _

private theorem localValue?_stirs (p : FrameProxy) (name : String) :
    Stirs R (localValue? p name : Action V _) := by
  unfold localValue?
  refine .bind (.attempt (visibleVariables_stirs p)) ?_
  intro r
  split
  · exact .pure _
  · split
    · exact .pure _
    · exact .bind (.orFail _ (localValues_stirs p _)) fun _ => .pure _

private theorem fieldOfThis_stirs (this : Option ObjectRef) (name : String) :
    Stirs R (fieldOfThis this name : Action V _) := by
  cases this with
  | none => exact .throw _
  | some o =>
    refine .bind (.orFail _ (fieldValue?_stirs o name)) ?_
    intro found
    cases found with
    | some value => exact .pure _
    | none => exact .throw _

private theorem resolveName_stirs (p : FrameProxy) (name : String) :
    Stirs R (resolveName p name : Action V _) := by
  unfold resolveName
  refine .bind (.orFail _ (thisObject_stirs p)) ?_
  intro this
  split
  · split
    · exact .pure _
    · exact .throw _
  · refine .bind (localValue?_stirs p name) ?_
    intro found
    split
    · exact .pure _
    · exact fieldOfThis_stirs this name

private theorem evaluateNames_stirs (p : FrameProxy) (expression : String) :
    Stirs R (evaluateNames p expression : Action V _) := by
  unfold evaluateNames
  dsimp only
  split
  · exact .throw _
  · split
    · exact .throw _
    · refine .bind (resolveName_stirs p _) ?_
      intro value
      exact walkFields_stirs (Text.trimmed expression) value _

private theorem evaluateNamesOn_stirs (o : ObjectRef) (expression : String) :
    Stirs R (evaluateNamesOn o expression : Action V _) := by
  unfold evaluateNamesOn
  dsimp only
  split
  · exact .pure _
  · exact walkFields_stirs (Text.trimmed expression) _ _

theorem evaluate_stirs (e : Evaluator) (p : FrameProxy) (expression : String) :
    Stirs R (e.evaluate p expression : Attempt V _) := by
  cases e with
  | names =>
    have names : Stirs R (evaluateNames p expression : Action V _) := evaluateNames_stirs p _
    exact names.adapt Failure.error
  | constant value => exact .pure _
  | failing reason => exact .throw _
  | crashing => exact .throw _

private theorem evaluateOn_stirs (e : Evaluator) (o : ObjectRef) (expression : String) :
    Stirs R (e.evaluateOn o expression : Action V _) := by
  cases e with
  | names =>
    simp only [Evaluator.evaluateOn]
    exact evaluateNamesOn_stirs o expression
  | constant value => exact .throw _
  | failing reason => exact .throw _
  | crashing => exact .throw _

/-! ## Structures -/

private theorem addTypes_stirs {first : String}
    {more : List String → List String → Remote V (List String)}
    (h : ∀ queue known, Stirs R (more queue known)) (queue known : List String) :
    Stirs R (addTypes first more queue known) := by
  induction queue generalizing known with
  | nil => exact .pure _
  | cons name queue ih =>
    unfold addTypes
    split
    · exact ih known
    · refine .bind (.attempt (query_stirs rfl)) ?_
      intro r
      split
      · split
        · exact .throw _
        · exact ih _
      · exact .throw _
      · exact h _ _

private theorem supertypesFrom_stirs (first : String) (count : Nat) (queue known : List String) :
    Stirs R (supertypesFrom first count queue known : Remote V _) := by
  induction count generalizing queue known with
  | zero => exact addTypes_stirs (fun _ _ => .pure _) queue known
  | succ count ih => exact addTypes_stirs ih queue known

theorem structure?_moves (o : ObjectRef) :
    Task.Moves R (structure? o : Task (Session V) _) := by
  have found : Stirs R (findStructure o : Remote V _) := by
    unfold findStructure
    split
    · exact .pure _
    · exact .bind (.bind .get fun _ => supertypesFrom_stirs _ _ _ _) fun _ =>
        .bind .get fun _ => .pure _
  unfold structure?
  refine .bind found ?_
  intro r
  split <;> exact .pure _

private theorem exceptionMessage?_moves (o : ObjectRef) :
    Task.Moves R (exceptionMessage? o : Task (Session V) _) := by
  unfold exceptionMessage?
  refine .bind (fieldValue?_stirs o "detailMessage") ?_
  intro r
  split
  · split
    · exact .bind (Browses.query _ rfl) fun _ => .pure _
    · exact .pure _
  · exact .pure _

theorem exceptionInfo_stirs (thread : ThreadId) :
    Stirs R (exceptionInfo thread : Action V _) := by
  unfold exceptionInfo
  refine .bind .get ?_
  intro s
  split
  · exact .throw _
  · refine .bind (.quietly (exceptionMessage?_moves _)) ?_
    intro message
    split <;> exact .pure _

theorem refreshThread_moves (thread : ThreadId) :
    Task.Moves R (refreshThread thread : Task (Session V) _) := by
  unfold refreshThread
  refine .bind .get ?_
  intro s
  split
  · exact .pure _
  · refine .bind (refresh_moves _ _) ?_
    intro found
    split
    · exact .pure _
    · exact .bind .get fun _ => .pure _

end

section

variable [Explores R]

/-! ## Listing by structure -/

private theorem evaluateLogical_stirs (scope : LogicalScope) (o : ObjectRef)
    (e : LogicalExpression) : Stirs R (evaluateLogical scope o e : Remote V _) := by
  unfold evaluateLogical
  split
  · exact Explores.invoke _ _ _ _
  · refine .bind (fieldValue?_stirs o _) ?_
    intro found
    cases found with
    | some value => exact .pure _
    | none => exact .throw _
  · split
    · exact .adapt asRemote (evaluateOn_stirs _ o _)
    · exact .throw _

private theorem logicalSize_stirs (scope : LogicalScope) (shape : LogicalStructure)
    (o : ObjectRef) : Stirs R (logicalSize scope shape o : Remote V _) := by
  unfold logicalSize
  split
  · exact .pure _
  · exact .bind (evaluateLogical_stirs scope o _) fun _ => .pure _

private theorem evaluateChain_stirs (scope : LogicalScope) (value : Value)
    (chain : List LogicalExpression) :
    Stirs R (evaluateChain scope value chain : Remote V _) := by
  induction chain generalizing value with
  | nil => exact .pure _
  | cons e rest ih =>
    unfold evaluateChain
    split
    · exact .bind (evaluateLogical_stirs scope _ e) fun value => ih value
    · exact .throw _

private theorem logicalChildren_stirs (scope : LogicalScope) (shape : LogicalStructure)
    (o : ObjectRef) (start : Nat) (count : Option Nat) (policy : FetchPolicy)
    (parent : Option String) :
    Stirs R (logicalChildren scope shape o start count policy parent : Remote V _) := by
  unfold logicalChildren
  split
  · refine .bind (evaluateChain_stirs scope _ _) ?_
    intro value
    split
    · exact .bind (listElements_stirs _ _ _ _ _) fun _ => .pure _
    · exact .pure _
  · exact .mapM fun child => .bind (evaluateLogical_stirs scope o _) fun _ => .pure _

private theorem logicalScope_moves (thread : ThreadId) :
    Task.Moves R (logicalScope thread : Task (Session V) _) := by
  have frame : Task.Moves R (frame? thread 0 : Task (Session V) _) := by
    refine .modifyGet ?_
    intro s
    split
    · exact Composes.refl s
    · split
      · exact Explores.openFrame s _ _
      · exact Composes.refl s
  unfold logicalScope
  refine .bind frame fun found => .bind .get ?_
  intro s
  split <;> exact .pure _

private theorem listScope_stirs (p : FrameProxy) (policy : FetchPolicy) :
    Stirs R (listScope p policy : Remote V _) := by
  unfold listScope
  refine .bind .get ?_
  intro s
  dsimp only
  refine .bind (.attempt (thisObject_stirs p)) ?_
  intro r
  split
  · exact .bind (.pure _) fun _ => .bind (listLocals_stirs p policy) fun _ => .pure _
  · exact .bind (.pure _) fun _ => .bind (listLocals_stirs p policy) fun _ => .pure _
  · exact .throw _

private theorem listShaped_stirs (thread : ThreadId) (o : ObjectRef) (parent : Option String)
    (start : Nat) (count : Option Nat) (settings : VariableSettings) (policy : FetchPolicy)
    (shape : Option LogicalStructure) :
    Stirs R (listShaped thread o parent start count settings policy shape : Remote V _) := by
  cases shape with
  | some shape =>
    exact .bind (.quietly (logicalScope_moves thread)) fun scope =>
      logicalChildren_stirs scope shape o start count policy parent
  | none =>
    unfold listShaped
    dsimp only
    split
    · exact listElements_stirs o start count policy parent
    · exact .bind (listFields_stirs o _ policy parent) fun _ => .pure _

private theorem listObject_stirs (thread : ThreadId) (o : ObjectRef) (parent : Option String)
    (start : Nat) (count : Option Nat) (settings : VariableSettings) (policy : FetchPolicy) :
    Stirs R (listObject thread o parent start count settings policy : Remote V _) := by
  cases logical : settings.showLogicalStructure with
  | true =>
    rw [listObject_logical logical]
    exact .bind (.quietly (structure?_moves o))
      (listShaped_stirs thread o parent start count settings policy)
  | false =>
    rw [listObject_plain logical]
    exact listShaped_stirs thread o parent start count settings policy none

theorem listContainer_stirs (thread : ThreadId) (c : Container) (start : Nat)
    (count : Option Nat) (settings : VariableSettings) :
    Stirs R (listContainer thread c start count settings : Remote V _) := by
  unfold listContainer
  refine .bind .get ?_
  intro s
  dsimp only
  split
  · exact .pure _
  · exact .bind (listScope_stirs _ _) fun _ => .pure _
  · exact .bind (listStatics_stirs _ _) fun _ => .pure _
  · exact listObject_stirs thread _ _ start count settings _

theorem sizeOf_stirs (thread : ThreadId) (o : ObjectRef) :
    Stirs R (sizeOf thread o : Remote V _) := by
  unfold sizeOf
  refine .bind (.quietly (structure?_moves o)) ?_
  intro shape
  split
  · exact .pure _
  · refine .bind (.quietly (logicalScope_moves thread)) ?_
    intro scope
    refine .bind (.attempt (logicalSize_stirs scope _ o)) ?_
    intro r
    split
    · split <;> exact .pure _
    · split
      · exact .throw _
      · exact .pure _

theorem measureObject_stirs (thread : ThreadId) (o : ObjectRef) (showLogical : Bool) :
    Stirs R (measureObject thread o showLogical : Remote V _) := by
  have counted : ∀ sized : Option Nat × Bool, Stirs R (if o.isArray then do
      let length ← call (.arrayLength o.id)
      return (sized.1, some length)
    else return (sized.1, if sized.2 then sized.1 else none) : Remote V _) := by
    intro sized
    split
    · exact .bind (query_stirs rfl) fun _ => .pure _
    · exact .pure _
  unfold measureObject
  cases showLogical with
  | true => exact .bind (sizeOf_stirs thread o) counted
  | false => exact .bind (.pure _) counted

theorem describeOpened_stirs (settings : VariableSettings) (v : Variable)
    (opened : Option Nat × Option Nat × Int64) :
    Stirs R (describeOpened settings v opened : Remote V _) :=
  .bind (formatValue_stirs _ _ _) fun _ => .pure _

theorem listThreads_stirs (notes : ∀ (found : List ThreadInfo) (s : Session V), R s { s with
    threads := found.foldl (fun c t => c.started t.id t.name) s.threads }) :
    Stirs R (listThreads : Action V _) :=
  .bind (.orFail _ (query_stirs rfl)) fun found => .bind (.modify (notes found)) fun _ => .pure _

theorem probe_stirs (measured : Nat) (notes : ∀ s : Session V, R s (s.recordLatency measured)) :
    Stirs R (probe measured : Action V _) :=
  .bind (.orFail _ (query_stirs rfl)) fun _ =>
    .bind (.modify notes) fun _ => .bind .get fun _ => .pure _

end

/-! ## Storing values, and evaluations that may be given up -/

theorem assign_stirs [Assigns R] (c : Container) (v : Variable) (text : String) :
    Stirs R (assign c v text : Action V _) := by
  unfold assign
  split
  · refine .bind (.liftExcept _) ?_
    intro value
    split
    · exact .throw _
    · have stored : ∀ p slot, Stirs R (setLocalValue p slot value : Remote V _) :=
        fun p slot => withFrame_stirs p fun f => Assigns.setLocal f slot value
      exact .bind (.orFail _ (stored _ _)) fun _ => .pure _
  · refine .bind (.liftExcept _) ?_
    intro value
    exact .bind (.orFail _ (Assigns.setField _ _ _)) fun _ => .pure _
  · exact .throw _

theorem evaluateInFrame_stirs [Evaluates R] (e : Evaluator) (p : FrameProxy) (expression : String) :
    Stirs R (evaluateInFrame e p expression : Attempt V _) := by
  have token : Task.Moves R (evaluationToken p.thread : Task (Session V) _) := by
    refine .modifyGet ?_
    intro s
    split
    · exact Composes.refl s
    · exact Evaluates.evaluations s _ _
  have run : Stirs R (e.evaluate p expression : Attempt V _) := evaluate_stirs e p expression
  unfold evaluateInFrame
  refine .bind (.quietly token) ?_
  intro token
  refine .bind (.quietly (Task.Moves.givenUpWhen _ run)) ?_
  intro r
  split
  · exact .pure _
  · exact .throw _
  · exact .throw _

end Session
end DebugSession
