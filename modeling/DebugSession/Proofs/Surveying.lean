import DebugSession.Proofs.Looking
/-!
Listings and evaluations find the same whenever the same is to be found. Those that run no methods
may be under way side by side.
-/

namespace DebugSession.Session

variable {α β : Type} {answered : Prop} {known : List FrameProxy} {thread : ThreadId}
  {s s' : Session Debuggee}

theorem Alike.walkLimit (h : Alike s s') : s'.walkLimit = s.walkLimit := by
  unfold Session.walkLimit
  exact congrArg (fun types : Table String ReferenceType => types.size + Number.twoPow 40)
    h.machine.types

theorem Alike.logical (h : Alike s s') : s'.logical = s.logical := by
  unfold Session.logical
  rw [h.providers]

theorem Alike.fetchPolicy (h : Alike s s') : s'.fetchPolicy = s.fetchPolicy := by
  unfold Session.fetchPolicy
  rw [h.settings, h.callMode]

theorem lookup_views {c : Call} (asks : c.isLookup = true) :
    Views answered known thread (call c : Remote Debuggee _) := Looks.tryCall asks

/-! ## Pages -/

theorem fetchPaged_views (policy : FetchPolicy) (items : List α)
    {fetch : List α → Remote Debuggee (List β)}
    (h : ∀ page, Views answered known thread (fetch page)) :
    Views answered known thread (fetchPaged policy items fetch) := by
  unfold fetchPaged
  dsimp only
  split
  · exact .bind (.mapM h) fun _ => .pure _
  · refine .bind (.quietly (.all fun x mem => ?_)) fun results => ?_
    · obtain ⟨page, -, rfl⟩ := List.mem_map.1 mem
      exact h page
    · split
      · exact .pure _
      · exact .throw _

/-! ## Fields and elements -/

private theorem fieldsFrom_views (first : String) (count : Nat) (seen : List String)
    (next : String) : Views answered known thread (fieldsFrom first count seen next) := by
  induction count generalizing seen next with
  | zero => exact .pure _
  | succ count ih =>
    unfold fieldsFrom
    split
    · exact .pure _
    · refine .bind (.attempt (lookup_views rfl)) ?_
      intro r
      split
      · split
        · exact .throw _
        · exact .pure _
      · exact .throw _
      · split
        · exact .pure _
        · exact .bind (ih _ _) fun _ => .pure _

theorem allFields_views (typeName : String) :
    Views answered known thread (allFields typeName : Remote Debuggee _) :=
  .get_bind (fun _ _ h => by simp only [h.walkLimit]) fun _ => fieldsFrom_views _ _ _ _

theorem fieldValue?_views (o : ObjectRef) (name : String) :
    Views answered known thread (fieldValue? o name : Remote Debuggee _) := by
  unfold fieldValue?
  split
  · split
    · exact .pure _
    · exact .bind (lookup_views rfl) fun _ => .pure _
  · refine .bind (allFields_views _) ?_
    intro fields
    split
    · exact .pure _
    · split
      · exact .bind (lookup_views rfl) fun _ => .pure _
      · exact .bind (lookup_views rfl) fun _ => .pure _

private theorem listStaticFields_views (typeName : String) (policy : FetchPolicy)
    (fields : List Field) :
    Views answered known thread (listStaticFields typeName policy fields : Remote Debuggee _) :=
  fetchPaged_views _ _ fun _ => .bind (lookup_views rfl) fun _ => .pure _

theorem listFields_views (o : ObjectRef) (withStatic : Bool) (policy : FetchPolicy)
    (parent : Option String) :
    Views answered known thread (listFields o withStatic policy parent : Remote Debuggee _) := by
  unfold listFields
  refine .bind (allFields_views _) ?_
  intro fields
  refine .bind (fetchPaged_views _ _ fun _ => ?_) fun own => ?_
  · exact .bind (lookup_views rfl) fun _ => .pure _
  · dsimp only
    split
    · exact .bind (listStaticFields_views _ _ _) fun _ => .pure _
    · exact .bind (.pure _) fun _ => .pure _

theorem listStatics_views (typeName : String) (policy : FetchPolicy) :
    Views answered known thread (listStatics typeName policy : Remote Debuggee _) :=
  .bind (allFields_views _) fun _ => .bind (listStaticFields_views _ _ _) fun _ => .pure _

theorem listElements_views (o : ObjectRef) (start : Nat) (count : Option Nat)
    (policy : FetchPolicy) (parent : Option String) :
    Views answered known thread (listElements o start count policy parent : Remote Debuggee _) := by
  unfold listElements
  split
  · refine .bind (lookup_views rfl) fun length => fetchPaged_views _ _ ?_
    intro page
    split
    · exact .pure _
    · exact .bind (lookup_views rfl) fun _ => .pure _
  · exact .throw _

theorem formatValue_views (value : Value) (size : Option Nat) (options : FormatOptions) :
    Views answered known thread (formatValue value size options : Remote Debuggee _) := by
  unfold formatValue
  split
  · unfold formatObject
    split
    · exact .bind (lookup_views rfl) fun _ => .pure _
    · exact .bind (lookup_views rfl) fun _ => .pure _
    · exact .pure _
    · split <;> exact .pure _
  · exact .pure _

/-! ## Frames, names and paths -/

section

variable {q : FrameProxy}

theorem visibleVariables_views (mem : q ∈ known) :
    Views answered known thread (visibleVariables q : Remote Debuggee _) :=
  .through mem .visibleVariables rfl

theorem localValues_views (mem : q ∈ known) (vs : List LocalVariable) :
    Views answered known thread (localValues q vs : Remote Debuggee _) :=
  .through mem (.localValues vs) rfl

theorem thisObject_views (mem : q ∈ known) :
    Views answered known thread (thisObject q : Remote Debuggee _) :=
  .through mem .thisObject rfl

theorem listLocals_views (mem : q ∈ known) (policy : FetchPolicy) :
    Views answered known thread (listLocals q policy : Remote Debuggee _) := by
  unfold listLocals
  refine .bind (.attempt (visibleVariables_views mem)) ?_
  intro r
  split
  · unfold listNamed
    refine .bind (fetchPaged_views _ _ fun page => ?_) fun _ => .pure _
    exact .bind (localValues_views mem page) fun _ => .pure _
  · have arguments : Views answered known thread (argumentValues q : Remote Debuggee _) :=
      .through mem .argumentValues rfl
    unfold listArguments
    refine .bind (.attempt arguments) ?_
    intro r
    split
    · exact .pure _
    · exact .pure _
    · exact .throw _
  · exact .pure _
  · exact .throw _

theorem listScope_views (mem : q ∈ known) (policy : FetchPolicy) :
    Views answered known thread (listScope q policy : Remote Debuggee _) := by
  unfold listScope
  refine .get_bind (fun _ _ h => by simp only [h.results]) ?_
  intro s
  dsimp only
  refine .bind (.attempt (thisObject_views mem)) ?_
  intro r
  split
  · exact .bind (.pure _) fun _ => .bind (listLocals_views mem policy) fun _ => .pure _
  · exact .bind (.pure _) fun _ => .bind (listLocals_views mem policy) fun _ => .pure _
  · exact .throw _

/-- If the session gets its answers, nothing is listed of a frame that is not there. -/
theorem listScope_stands (tracks : Tracks [q] s) (responsive : s.Responsive)
    (policy : FetchPolicy) : Settles (listScope q policy) s fun r _ =>
      ∀ vs, r = .ok vs → ∃ f, s.machine.standing? q.thread q.depth = some f := by
  cases stands : s.machine.standing? q.thread q.depth with
  | some f => exact fun _ _ => ⟨f, rfl⟩
  | none =>
    have failed : Settles (thisObject q) s fun r _ => ∃ e, r = .error e ∧ e ≠ .opaqueFrame := by
      have produced : Produces (Peruses [q]) (FrameOperation.thisObject.through q) s fun r _ =>
          Sees s .thisObject q r := through_produces List.mem_cons_self rfl tracks
      refine (produced.settles Peruses.advance).mono ?_
      rintro r s' ⟨-, sees⟩
      have nothing := sees responsive
      rw [stands] at nothing
      obtain ⟨e, rfl, clear⟩ := nothing
      -- Whichever frame is asked for its object answers.
      let any : Frame := { location := { className := "", methodName := "", line := 0 } }
      exact ⟨e, rfl, fun same => nomatch clear same any⟩
    unfold listScope
    rw [settles_bind, settles_get]
    dsimp only
    rw [settles_bind, settles_attempt]
    refine failed.mono ?_
    rintro r s' ⟨e, rfl, clear⟩
    dsimp only
    split
    · rename_i same
      cases same
    · rename_i same
      cases same
      exact absurd rfl clear
    · exact nofun

private theorem walkFields_views (expression : String) (value : Value) (path : List String) :
    Views answered known thread (walkFields expression value path : Action Debuggee _) := by
  induction path generalizing value with
  | nil => exact .pure _
  | cons segment rest ih =>
    unfold walkFields
    split
    · exact .throw _
    · refine .bind (.liftExcept _) ?_
      intro o
      refine .bind (.orFail _ (fieldValue?_views _ _)) ?_
      intro found
      split
      · exact ih _
      · exact .throw _

private theorem localValue?_views (mem : q ∈ known) (name : String) :
    Views answered known thread (localValue? q name : Action Debuggee _) := by
  unfold localValue?
  refine .bind (.attempt (visibleVariables_views mem)) ?_
  intro r
  split
  · exact .pure _
  · split
    · exact .pure _
    · exact .bind (.orFail _ (localValues_views mem _)) fun _ => .pure _

private theorem fieldOfThis_views (this : Option ObjectRef) (name : String) :
    Views answered known thread (fieldOfThis this name : Action Debuggee _) := by
  cases this with
  | none => exact .throw _
  | some o =>
    refine .bind (.orFail _ (fieldValue?_views o name)) ?_
    intro found
    cases found with
    | some value => exact .pure _
    | none => exact .throw _

private theorem resolveName_views (mem : q ∈ known) (name : String) :
    Views answered known thread (resolveName q name : Action Debuggee _) := by
  unfold resolveName
  refine .bind (.orFail _ (thisObject_views mem)) ?_
  intro this
  split
  · split
    · exact .pure _
    · exact .throw _
  · refine .bind (localValue?_views mem name) ?_
    intro found
    split
    · exact .pure _
    · exact fieldOfThis_views this name

private theorem evaluateNames_views (mem : q ∈ known) (expression : String) :
    Views answered known thread (evaluateNames q expression : Action Debuggee _) := by
  unfold evaluateNames
  dsimp only
  split
  · exact .throw _
  · split
    · exact .throw _
    · refine .bind (resolveName_views mem _) ?_
      intro value
      exact walkFields_views (Text.trimmed expression) value _

theorem evaluate_views (mem : q ∈ known) (e : Evaluator) (expression : String) :
    Views answered known thread (e.evaluate q expression : Attempt Debuggee _) := by
  have names : Views answered known thread (evaluateNames q expression : Action Debuggee _) :=
    evaluateNames_views mem expression
  cases e with
  | names => exact names.adapt Failure.error
  | constant value => exact .pure _
  | failing reason => exact .throw _
  | crashing => exact .throw _

private theorem evaluateNamesOn_views (o : ObjectRef) (expression : String) :
    Views answered known thread (evaluateNamesOn o expression : Action Debuggee _) := by
  unfold evaluateNamesOn
  dsimp only
  split
  · exact .pure _
  · exact walkFields_views (Text.trimmed expression) _ _

private theorem evaluateOn_views (e : Evaluator) (o : ObjectRef) (expression : String) :
    Views answered known thread (e.evaluateOn o expression : Action Debuggee _) := by
  cases e with
  | names =>
    simp only [Evaluator.evaluateOn]
    exact evaluateNamesOn_views o expression
  | constant value => exact .throw _
  | failing reason => exact .throw _
  | crashing => exact .throw _

end

/-! ## Structures -/

private theorem addTypes_views {first : String}
    {more : List String → List String → Remote Debuggee (List String)}
    (h : ∀ queue seen, Views answered known thread (more queue seen)) (queue seen : List String) :
    Views answered known thread (addTypes first more queue seen) := by
  induction queue generalizing seen with
  | nil => exact .pure _
  | cons name queue ih =>
    unfold addTypes
    split
    · exact ih seen
    · refine .bind (.attempt (lookup_views rfl)) ?_
      intro r
      split
      · split
        · exact .throw _
        · exact ih _
      · exact .throw _
      · exact h _ _

private theorem supertypesFrom_views (first : String) (count : Nat) (queue seen : List String) :
    Views answered known thread (supertypesFrom first count queue seen) := by
  induction count generalizing queue seen with
  | zero => exact addTypes_views (fun _ _ => .pure _) queue seen
  | succ count ih => exact addTypes_views ih queue seen

theorem structure?_looks (o : ObjectRef) :
    Looks answered known thread (structure? o : Task (Session Debuggee) _) := by
  have found : Views answered known thread (findStructure o : Remote Debuggee _) := by
    unfold findStructure
    split
    · exact .pure _
    · have ancestry : Views answered known thread (supertypes o.typeName : Remote Debuggee _) :=
        .get_bind (fun _ _ h => by simp only [h.walkLimit]) fun _ => supertypesFrom_views _ _ _ _
      exact .bind ancestry fun _ => .get_bind (fun _ _ h => by simp only [h.logical]) fun _ =>
        .pure _
  unfold structure?
  refine .bind found ?_
  intro r
  split <;> exact .pure _

/-! ## Methods -/

private theorem Responsive.of_answered {c : Call} {r : Except RemoteError c.Reply}
    (h : s.Responsive) (alike : Alike s s') (heard : Answered s c r s')
    (connected : (Debuggee.perform c s.machine).1 ≠ .error .disconnected) : s'.Responsive where
  going := heard.going (heard.reply ▸ connected)
  connected := alike.machine.disconnected.trans h.connected
  prompt := by
    unfold waitLimit timeout
    rw [alike.settings, alike.machine.latency]
    exact h.prompt

private theorem invoke_learns (caller : ThreadId) (object : ObjectId) (method : MethodCall)
    (arguments : List Value) : Learns answered known thread
      (call (.invokeMethod caller object method arguments) : Remote Debuggee _) := by
  let c : Call := .invokeMethod caller object method arguments
  refine ⟨fun s informed => ?_⟩
  have alike : Task.Ends (tryCall c) s fun _ s' => Alike s s' :=
    (Explores.invoke (R := Alike) caller object method arguments).ends Ambient.advance s
  have handles : Task.Ends (tryCall c) s fun _ s' => s'.handles = s.handles := by
    refine (tryCall_ends c s).mono ?_
    rintro r s' ⟨machine, clock, cancelled, rfl, -⟩
    rfl
  refine ⟨.of_leaves (tryCall_leaves c s) alike handles fun responsive => ?_, ?_⟩
  · refine responsive.of_answered alike (tryCall_answered responsive c) ?_
    exact Debuggee.invoke_connected s.machine caller object method arguments
  · intro counts t informedT alikeT
    have here : Task.Ends (tryCall c) s fun r s' => Answered s c r s' :=
      tryCall_answered (informed.responsive counts) c
    have there : Task.Ends (tryCall c) t fun r s' => Answered t c r s' :=
      tryCall_answered (informedT.responsive counts) c
    refine (here.reply.trans ?_).trans there.reply.symm
    exact (alikeT.machine.invoked caller object method arguments).symm

/-! ## Objects by what they hold -/

/-- A scope regardless of the proxy through which its frame is reached. -/
def LogicalScope.bare (scope : LogicalScope) : LogicalScope :=
  { scope with code := scope.code.map fun c => (⟨⟨⟨scope.thread, 0⟩, 0⟩, 0⟩, c.2) }

private theorem evaluateLogical_bare (scope : LogicalScope) (o : ObjectRef)
    (e : LogicalExpression) :
    (evaluateLogical scope o e : Remote Debuggee _) = evaluateLogical scope.bare o e := by
  obtain ⟨caller, code⟩ := scope
  cases code <;> rfl

private theorem logicalSize_bare (scope : LogicalScope) (shape : LogicalStructure)
    (o : ObjectRef) :
    (logicalSize scope shape o : Remote Debuggee _) = logicalSize scope.bare shape o := by
  unfold logicalSize
  simp only [← evaluateLogical_bare]

private theorem evaluateChain_bare (scope : LogicalScope) (value : Value)
    (chain : List LogicalExpression) :
    (evaluateChain scope value chain : Remote Debuggee _) =
      evaluateChain scope.bare value chain := by
  induction chain generalizing value with
  | nil => rfl
  | cons e rest ih =>
    unfold evaluateChain
    simp only [← evaluateLogical_bare, ih]

private theorem logicalChildren_bare (scope : LogicalScope) (shape : LogicalStructure)
    (o : ObjectRef) (start : Nat) (count : Option Nat) (policy : FetchPolicy)
    (parent : Option String) :
    (logicalChildren scope shape o start count policy parent : Remote Debuggee _) =
      logicalChildren scope.bare shape o start count policy parent := by
  unfold logicalChildren
  simp only [← evaluateLogical_bare, ← evaluateChain_bare]

private theorem Current.agrees {t : Session Debuggee} (here : s.Current thread)
    (there : t.Current thread) (alike : Alike s t) : ∃ p, s.stopped.get? thread = some p ∧
      t.stopped.get? thread = some p ∧ (s.framesOf p = [] ↔ t.framesOf p = []) := by
  obtain ⟨version, halted, seen⟩ := here
  obtain ⟨version', halted', seen'⟩ := there
  rw [alike.stopped, halted] at halted'
  cases halted'
  refine ⟨_, halted, alike.stopped ▸ halted, seen.trans ?_⟩
  rw [← alike.machine.standing]
  exact seen'.symm

private theorem frame?_finds :
    Finds answered known thread (Option.isSome <$> frame? thread 0 : Task (Session Debuggee) _) := by
  have isSome : ∀ s : Session Debuggee, ∀ p, s.stopped.get? thread = some p →
      (((frame? thread 0).run advance s).1.isSome = true ↔ s.framesOf p ≠ []) := by
    intro s p halted
    simp only [frame?, Task.run_modifyGet, halted]
    cases s.framesOf p <;> simp
  refine ⟨fun s informed => (Task.ends_map ..).2 ?_⟩
  have kept : Task.Ends (frame? thread 0) s fun _ s' => Surveys known s s' := by
    unfold frame?
    rw [Task.ends_modifyGet]
    split
    · exact Composes.refl s
    · rename_i p halted
      split
      · exact .openFrame halted 0
      · exact Composes.refl s
  refine ⟨kept, fun counts t informedT alike => ?_⟩
  obtain ⟨p, here, there, same⟩ :=
    (informed.current counts).agrees (informedT.current counts) alike
  rw [map_eq_pure_bind, Task.run_bind]
  exact Bool.eq_iff_iff.2 ((isSome s p here).trans ((not_congr same).trans (isSome t p there).symm))

private theorem logicalScope_finds :
    Finds answered known thread
      (LogicalScope.bare <$> logicalScope thread : Task (Session Debuggee) _) := by
  have apart : (LogicalScope.bare <$> logicalScope thread : Task (Session Debuggee) _) = (do
      let found ← Option.isSome <$> frame? thread 0
      let s ← get
      return { thread, code := if found
        then s.providers.evaluator.map fun e => (⟨⟨⟨thread, 0⟩, 0⟩, 0⟩, e)
        else none }) := by
    unfold logicalScope
    simp only [map_eq_pure_bind, bind_assoc, pure_bind]
    congr 1
    funext found
    congr 1
    funext s
    cases found with
    | none => rfl
    | some q => cases s.providers.evaluator <;> rfl
  rw [apart]
  refine .bind frame?_finds fun found => .get_bind ?_ fun s => .pure _
  intro s t alike
  rw [alike.providers]

theorem logicalScope_surveys (informed : Informed answered known thread s) :
    Task.Ends (logicalScope thread) s fun _ s' => Surveys known s s' :=
  ((Task.ends_map ..).1 (logicalScope_finds.ends s informed)).mono fun _ _ h => h.1

/-- What goes on with a scope does not depend on the proxy in it. -/
private theorem scoped_learns {f : LogicalScope → Remote Debuggee α}
    (bare : ∀ scope, f scope = f scope.bare) (h : ∀ scope, Learns answered known thread (f scope)) :
    Learns answered known thread (quietly (logicalScope thread) >>= f) := by
  have apart : quietly (logicalScope thread) >>= f =
      quietly (LogicalScope.bare <$> logicalScope thread) >>= f := by
    refine ExceptT.ext ?_
    unfold quietly
    simp only [ExceptT.run_bind, ExceptT.run_lift, map_eq_pure_bind, bind_assoc, pure_bind]
    congr 1
    funext scope
    rw [bare]
  rw [apart]
  exact .bind (.quietly logicalScope_finds) h

theorem evaluateLogical_learns (scope : LogicalScope) (o : ObjectRef)
    (e : LogicalExpression) :
    Learns answered known thread (evaluateLogical scope o e : Remote Debuggee _) := by
  unfold evaluateLogical
  split
  · exact invoke_learns _ _ _ _
  · refine .bind (fieldValue?_views o _).learns ?_
    intro found
    cases found with
    | some value => exact .pure _
    | none => exact .throw _
  · split
    · exact ((evaluateOn_views _ o _).adapt asRemote).learns
    · exact .throw _

private theorem logicalSize_learns (scope : LogicalScope) (shape : LogicalStructure)
    (o : ObjectRef) :
    Learns answered known thread (logicalSize scope shape o : Remote Debuggee _) := by
  unfold logicalSize
  split
  · exact .pure _
  · exact .bind (evaluateLogical_learns scope o _) fun _ => .pure _

theorem evaluateChain_learns (scope : LogicalScope) (value : Value)
    (chain : List LogicalExpression) :
    Learns answered known thread (evaluateChain scope value chain : Remote Debuggee _) := by
  induction chain generalizing value with
  | nil => exact .pure _
  | cons e rest ih =>
    unfold evaluateChain
    split
    · exact .bind (evaluateLogical_learns scope _ e) fun value => ih value
    · exact .throw _

private theorem logicalChildren_learns (scope : LogicalScope) (shape : LogicalStructure)
    (o : ObjectRef) (start : Nat) (count : Option Nat) (policy : FetchPolicy)
    (parent : Option String) : Learns answered known thread
      (logicalChildren scope shape o start count policy parent : Remote Debuggee _) := by
  unfold logicalChildren
  split
  · refine .bind (evaluateChain_learns scope _ _) ?_
    intro value
    split
    · exact .bind (listElements_views _ _ _ _ _).learns fun _ => .pure _
    · exact .pure _
  · exact .mapM fun child => .bind (evaluateLogical_learns scope o _) fun _ => .pure _

private theorem listShaped_learns (o : ObjectRef) (parent : Option String) (start : Nat)
    (count : Option Nat) (settings : VariableSettings) (policy : FetchPolicy)
    (shape : Option LogicalStructure) : Learns answered known thread
      (listShaped thread o parent start count settings policy shape : Remote Debuggee _) := by
  cases shape with
  | some shape =>
    exact scoped_learns (fun scope => logicalChildren_bare scope shape o start count policy parent)
      fun scope => logicalChildren_learns scope shape o start count policy parent
  | none =>
    unfold listShaped
    dsimp only
    split
    · exact (listElements_views o start count policy parent).learns
    · exact .bind (listFields_views o _ policy parent).learns fun _ => .pure _

private theorem listObject_learns (o : ObjectRef) (parent : Option String) (start : Nat)
    (count : Option Nat) (settings : VariableSettings) (policy : FetchPolicy) :
    Learns answered known thread
      (listObject thread o parent start count settings policy : Remote Debuggee _) := by
  cases logical : settings.showLogicalStructure with
  | true =>
    rw [listObject_logical logical]
    exact .bind (.quietly (structure?_looks o).finds)
      (listShaped_learns o parent start count settings policy)
  | false =>
    rw [listObject_plain logical]
    exact listShaped_learns o parent start count settings policy none

/-- The frame whose variables are listed is one that is known. -/
theorem listContainer_learns {c : Container} (mem : ∀ q, c = .locals q → q ∈ known) (start : Nat)
    (count : Option Nat) (settings : VariableSettings) : Learns answered known thread
      (listContainer thread c start count settings : Remote Debuggee _) := by
  unfold listContainer
  refine .get_bind (fun _ _ h => by simp only [h.fetchPolicy]) ?_
  intro s
  dsimp only
  split
  · exact .pure _
  · exact .bind (listScope_views (mem _ rfl) _).learns fun _ => .pure _
  · exact .bind (listStatics_views _ _).learns fun _ => .pure _
  · exact listObject_learns _ _ start count settings _

theorem sizeOf_learns (o : ObjectRef) :
    Learns answered known thread (sizeOf thread o : Remote Debuggee _) := by
  unfold sizeOf
  refine .bind (.quietly (structure?_looks o).finds) ?_
  intro shape
  split
  · exact .pure _
  · rename_i shape
    refine scoped_learns (fun scope => by rw [← logicalSize_bare]) fun scope => ?_
    refine .bind (.attempt (logicalSize_learns scope shape o)) ?_
    intro r
    split
    · split <;> exact .pure _
    · split
      · exact .throw _
      · exact .pure _

theorem measureObject_learns (o : ObjectRef) (showLogical : Bool) :
    Learns answered known thread (measureObject thread o showLogical : Remote Debuggee _) := by
  have counted : ∀ sized : Option Nat × Bool, Learns answered known thread (if o.isArray then do
      let length ← call (.arrayLength o.id)
      return (sized.1, some length)
    else return (sized.1, if sized.2 then sized.1 else none) : Remote Debuggee _) := by
    intro sized
    split
    · exact .bind (lookup_views rfl).learns fun _ => .pure _
    · exact .pure _
  unfold measureObject
  cases showLogical with
  | true => exact .bind (sizeOf_learns o) counted
  | false => exact .bind (.pure _) counted

end DebugSession.Session
