import DebugSession.Proofs.Retelling
import DebugSession.Proofs.Runs
/-!
A session keeps track of all frames whatever happens to it: no handle of a frame is ever kept for
another frame. What a client only looks at stays as it is found by then.
-/

namespace DebugSession.Session

variable {α ε : Type} {known : List FrameProxy} {thread : ThreadId} {s s' : Session Debuggee}

/-! ## What is only looked at -/

private theorem surveys_aside {s s' : Session Debuggee}
    (same : s' = { s with
      threads := s'.threads, tokens := s'.tokens, evaluations := s'.evaluations, line := s'.line }) :
    Surveys known s s' := by
  rw [same]
  exact .of_leaves ⟨rfl, rfl, rfl, rfl, .refl _⟩ (.of_eq rfl rfl rfl rfl rfl rfl) rfl
    fun h => ⟨h.going, h.connected, h.prompt⟩

theorem Tracks.informed (h : Tracks known s) : Informed False known thread s :=
  ⟨h, False.elim, False.elim, False.elim⟩

private theorem Views.surveys {x : ExceptT ε (Task (Session Debuggee)) α}
    (h : ∀ thread, Views False [] thread x) (tracks : Tracks [] s) :
    Settles x s fun _ s' => Surveys [] s s' :=
  ((h 0).learns.ends s tracks.informed).1

private theorem query_surveys {c : Call} (asks : c.isQuery = true) (s : Session Debuggee) :
    Task.Ends (tryCall c) s fun _ s' => Surveys [] s s' :=
  ((tryCall_yields asks s).ends Peruses.advance).1.toSurveys

private theorem listThreads_surveys (s : Session Debuggee) :
    Settles listThreads s fun _ s' => Surveys [] s s' := by
  unfold listThreads
  rw [settles_bind, settles_orFail]
  refine Task.Ends.mono (query_surveys rfl s) ?_
  intro r s₁ moved
  cases r with
  | error e => exact moved
  | ok found => exact Composes.trans moved (surveys_aside rfl)

private theorem describeFrame_surveys {p : Suspension} (halted : s.stopped.get? thread = some p)
    (tracks : Tracks [] s) (depth : Nat) (l : Location) :
    Task.Ends (describeFrame p depth l) s fun _ s' => Surveys [] s s' := by
  unfold describeFrame
  rw [Task.ends_bind, Task.ends_modifyGet, Task.ends_bind]
  unfold addHandle
  rw [Task.ends_modifyGet]
  have opened : Surveys [] s (s.openFrame p depth).2 := .openFrame halted depth
  have handed : Surveys [(s.openFrame p depth).1] (s.openFrame p depth).2
      (handOut p.thread (.frame (s.openFrame p depth).1) (s.openFrame p depth).2) :=
    .handOut p.thread fun q about => Option.some.inj about ▸ List.mem_cons_self
  exact Composes.trans opened (handed.of_known (tracks.openFrame halted depth))

private theorem describeFrames_surveys {p : Suspension} (halted : s.stopped.get? thread = some p)
    (tracks : Tracks [] s) (shown : List (FrameInfo × Nat)) :
    Task.Ends (describeFrames p shown) s fun _ s' => Surveys [] s s' := by
  induction shown generalizing s with
  | nil => exact Composes.refl s
  | cons frame rest ih =>
    obtain ⟨f, depth⟩ := frame
    unfold describeFrames
    refine .bind (describeFrame_surveys halted tracks depth f.location) ?_
    intro first s₁ moved
    refine .bind (ih (moved.alike.stopped ▸ halted) (moved.tracks tracks)) ?_
    exact fun _ s₂ more => Composes.trans moved more

private theorem stackTrace_surveys (tracks : Tracks [] s) (thread : ThreadId)
    (start levels : Nat) : Settles (stackTrace thread start levels) s fun _ s' =>
      Surveys [] s s' := by
  unfold stackTrace
  rw [settles_bind, settles_get]
  dsimp only
  split
  · exact Composes.refl s
  · split
    · exact Composes.refl s
    · rename_i p halted
      rw [settles_bind, settles_quietly]
      exact (describeFrames_surveys halted tracks _).mono fun _ _ moved => moved

private theorem stackFrame?_surveys (tracks : Tracks [] s) (thread : ThreadId) (depth : Nat) :
    Task.Ends (stackFrame? thread depth) s fun _ s' => Surveys [] s s' := by
  unfold stackFrame?
  rw [Task.ends_bind, Task.ends_get]
  split
  · exact Composes.refl s
  · rename_i p f found
    obtain ⟨q, halted, shown⟩ := Option.bind_eq_some_iff.1 found
    obtain ⟨f', -, same⟩ := Option.map_eq_some_iff.1 shown
    obtain ⟨rfl, rfl⟩ := Prod.mk.inj same
    exact .bind (describeFrame_surveys halted tracks depth _) fun _ _ moved => moved

private theorem refreshThread_surveys (tracks : Tracks [] s) (thread : ThreadId) :
    Task.Ends (refreshThread thread) s fun _ s' => Surveys [] s s' := by
  unfold refreshThread
  rw [Task.ends_bind, Task.ends_get]
  split
  · exact Composes.refl s
  · rename_i p halted
    refine .bind ((refresh_yields 0 tracks (.inr ⟨thread, halted⟩)).ends Peruses.advance) ?_
    rintro r s₁ ⟨moved, -⟩
    cases r <;> exact moved.toSurveys

private theorem scopes_surveys (tracks : Tracks [] s) (frameId : Int64) :
    Task.Ends (scopes frameId) s fun _ s' => Surveys [] s s' := by
  unfold scopes
  rw [Task.ends_bind, Task.ends_get]
  split
  · rename_i owner p found
    obtain ⟨handle, -, there⟩ := Option.bind_eq_some_iff.1 found
    have known : Tracks [p] s := tracks.shown there rfl
    have added : ∀ {c : Container}, c.proxy? = some p → ∀ s,
        Task.Ends (addHandle p.thread c) s fun _ s' => Surveys [p] s s' := fun about s =>
      .handOut p.thread fun q same => Option.some.inj (about.symm.trans same) ▸ List.mem_cons_self
    refine .bind (added rfl s) ?_
    intro locals s₁ moved
    dsimp only
    split
    · split
      · refine .bind (added rfl s₁) ?_
        intro statics s₂ more
        exact (Composes.trans moved more).of_known known
      · exact moved.of_known known
    · exact moved.of_known known
  · exact Composes.refl s

private theorem listVariables_surveys (tracks : Tracks [] s) (reference : Int64) (start : Nat)
    (count : Option Nat) :
    Settles (listVariables reference start count) s fun _ s' => Surveys [] s s' := by
  cases there : s.resolve? reference with
  | none =>
    unfold listVariables
    rw [settles_bind, settles_get]
    dsimp only
    rw [there]
    exact Composes.refl s
  | some e => exact (listVariables_told tracks.informed there).mono fun _ _ told => told.1

private theorem describeVariable_surveys (tracks : Tracks [] s) (thread : ThreadId)
    (settings : VariableSettings) (v : Variable) :
    Settles (describeVariable thread settings v) s fun _ s' => Surveys [] s s' :=
  ((describeVariable_retells settings v).settles s tracks.informed).mono fun _ _ told => told.1

private theorem evaluateInFrame_surveys {p : FrameProxy} (tracks : Tracks [p] s) (e : Evaluator)
    (expression : String) :
    Settles (evaluateInFrame e p expression) s fun _ s' => Surveys [p] s s' := by
  unfold evaluateInFrame
  have token : Task.Ends (evaluationToken p.thread) s fun _ s' => Surveys [p] s s' := by
    unfold evaluationToken
    rw [Task.ends_modifyGet]
    split <;> exact surveys_aside rfl
  refine Task.Ends.andThen token ?_
  intro token s₁ moved
  have views : Views False [p] 0 (e.evaluate p expression) := evaluate_views List.mem_cons_self e _
  have yields := views.yields s₁ (moved.tracks tracks).informed
  refine Task.Ends.andThen ((yields.givenUpWhen _).ends Peruses.advance) ?_
  rintro r s₂ ⟨more, -⟩
  have all := Composes.trans moved more.toSurveys
  match r with
  | some (.ok value) => exact all
  | some (.error failure) => exact all
  | none => exact all

private theorem evaluate_surveys (tracks : Tracks [] s) (expression : String)
    (frameId : Option Int64) :
    Settles (evaluate expression frameId) s fun _ s' => Surveys [] s s' := by
  have site : Settles (evaluationSite frameId) s fun r s' => s' = s ∧
      ∀ e p, r = .ok (e, p) → Tracks [p] s := by
    refine (evaluationSite_settles frameId s).mono ?_
    rintro r s' ⟨same, found⟩
    refine ⟨same, fun e p sited => ?_⟩
    obtain ⟨owner, behind⟩ := found e p sited
    obtain ⟨reference, -, resolved⟩ := Option.bind_eq_some_iff.1 behind
    obtain ⟨handle, -, there⟩ := Option.bind_eq_some_iff.1 resolved
    exact tracks.shown there rfl
  rw [evaluate_eq]
  rw [settles_bind, settles_adapt]
  refine site.mono ?_
  rintro r s' ⟨rfl, found⟩
  cases r with
  | error e => exact Composes.refl _
  | ok found' =>
    obtain ⟨e, p⟩ := found'
    have known : Tracks [p] s' := found e p rfl
    show Settles (_ >>= _) s' _
    refine (evaluateInFrame_surveys known e expression).andThen ?_ ?_
    · intro value s₁ moved
      have moved := moved.of_known known
      rw [settles_bind, settles_get]
      dsimp only
      rw [settles_bind, settles_adapt]
      have described := describeVariable_surveys (moved.tracks tracks) p.thread
        s₁.settings.display (Variable.ofValue expression value "java.lang.Object")
      refine described.mono ?_
      intro r s₂ more
      cases r <;> exact Composes.trans moved more
    · intro e s₁ moved
      exact moved.of_known known

private theorem dataBreakpointInfo_surveys (tracks : Tracks [] s) (reference : Option Int64)
    (name : String) :
    Settles (dataBreakpointInfo reference name) s fun _ s' => Surveys [] s s' := by
  unfold dataBreakpointInfo
  rw [settles_bind, settles_get]
  dsimp only
  split
  · exact Composes.refl s
  · rename_i typeName _
    have fields : Settles (allFields typeName) s fun _ s' => Surveys [] s s' :=
      Views.surveys (fun _ => allFields_views typeName) tracks
    rw [settles_bind, settles_orFail]
    refine fields.mono ?_
    intro r s₁ moved
    cases r with
    | error e => exact moved
    | ok fields =>
      dsimp only [Except.mapError]
      split <;> exact moved

private theorem exceptionInfo_surveys (tracks : Tracks [] s) (thread : ThreadId) :
    Settles (exceptionInfo thread) s fun _ s' => Surveys [] s s' := by
  have message : ∀ o, Task.Ends (exceptionMessage? o) s fun _ s' => Surveys [] s s' := by
    intro o
    have field : Settles (fieldValue? o "detailMessage") s fun _ s' => Surveys [] s s' :=
      Views.surveys (fun _ => fieldValue?_views o _) tracks
    unfold exceptionMessage?
    refine Task.Ends.bind field ?_
    intro r s₁ moved
    split
    · split
      · refine Task.Ends.bind (query_surveys rfl s₁) ?_
        exact fun _ _ more => Composes.trans moved more
      · exact moved
    · exact moved
  unfold exceptionInfo
  rw [settles_bind, settles_get]
  dsimp only
  split
  · exact Composes.refl s
  · refine Task.Ends.andThen (message _) ?_
    intro r s₁ moved
    exact moved

/-- Whatever a client only looks at, the session keeps track of all frames, and what it is told
counts as before. -/
theorem performAny_surveys {r : Request} (h : r.isReadOnly = true) (tracks : Tracks [] s) :
    Settles (performAny r) s fun _ s' => Surveys [] s s' := by
  cases r with
  | threads => exact Settles.answered _ _ (listThreads_surveys s)
  | stackTrace thread start levels =>
    exact Settles.answered _ _ (stackTrace_surveys tracks thread start levels)
  | stackFrame thread depth =>
    exact Settles.answered _ _ ((settles_quietly _).2 (stackFrame?_surveys tracks thread depth))
  | refreshStackFrames thread =>
    exact Settles.answered _ _ ((settles_quietly _).2 (refreshThread_surveys tracks thread))
  | scopes frameId =>
    exact Settles.answered _ _ ((settles_quietly _).2 (scopes_surveys tracks frameId))
  | listVariables reference start count =>
    exact Settles.answered _ _ (listVariables_surveys tracks reference start count)
  | evaluate expression frameId =>
    exact (settles_return _ _ fun s' => Surveys [] s s').2
      (evaluate_surveys tracks expression frameId)
  | dataBreakpointInfo reference name =>
    exact Settles.answered _ _ (dataBreakpointInfo_surveys tracks reference name)
  | exceptionInfo thread => exact Settles.answered _ _ (exceptionInfo_surveys tracks thread)
  | getBreakpoints =>
    have enlists : Enlists (Surveys [] : Session Debuggee → Session Debuggee → Prop) :=
      ⟨fun _ _ => surveys_aside rfl⟩
    have listed : Task.Moves (Surveys []) (listBreakpoints : Task (Session Debuggee) _) :=
      listBreakpoints_moves
    refine Settles.answered _ _ ((settles_quietly _).2 (listed.ends ?_ s))
    exact fun time s => (Peruses.advance time s).toSurveys
  | _ => cases h

/-! ## What else happens -/

/-- Nothing becomes of suspensions and proxies, but halts and handles may be dropped. -/
structure Sheds (s s' : Session Debuggee) : Prop extends Leaves s s' where
  stopped : ∀ thread p, s'.stopped.get? thread = some p → s.stopped.get? thread = some p
  references : ∀ e ∈ s'.handles.entries.values, e ∈ s.handles.entries.values

theorem Tracks.sheds (h : Tracks known s) (sheds : Sheds s s') : Tracks known s' := by
  obtain ⟨ps, qs, traced, halts, shown, listed⟩ := h
  exact ⟨ps, qs, traced.leaves sheds.toLeaves, fun t p found => halts t p (sheds.stopped t p found),
    fun e mem => shown e (sheds.references e mem), listed⟩

theorem Sheds.of_leaves (leaves : Leaves s s') (stopped : s'.stopped = s.stopped)
    (handles : s'.handles = s.handles) : Sheds s s' :=
  ⟨leaves, fun _ _ found => stopped ▸ found, fun _ mem => handles ▸ mem⟩

instance : Composes Sheds where
  refl s := .of_leaves (.refl s) rfl rfl
  trans h h' := ⟨h.toLeaves.trans h'.toLeaves, fun t p found => h.stopped t p (h'.stopped t p found),
    fun e mem => h.references e (h'.references e mem)⟩

theorem Sheds.of_eq (machine : s'.machine = s.machine) (suspensions : s'.suspensions = s.suspensions)
    (snapshots : s'.snapshots = s.snapshots) (cells : s'.cells = s.cells)
    (cellCount : s'.cellCount = s.cellCount) (stopped : s'.stopped = s.stopped)
    (handles : s'.handles = s.handles) : Sheds s s' :=
  .of_leaves ⟨suspensions, snapshots, cells, cellCount, machine ▸ .refl _⟩ stopped handles

instance : Ambient Sheds where
  advance _ _ := .of_eq rfl rfl rfl rfl rfl rfl rfl
  cancel _ := .of_eq rfl rfl rfl rfl rfl rfl rfl

theorem Sheds.allows (c : Call) : Allows Sheds c :=
  allows_of_parts (fun _ => .of_eq rfl rfl rfl rfl rfl rfl rfl)
    (fun s => .of_leaves ⟨rfl, rfl, rfl, rfl, Debuggee.extends_perform c s.machine⟩ rfl rfl)
    fun _ _ => .of_eq rfl rfl rfl rfl rfl rfl rfl

instance : Relines Sheds where
  delete _ := Sheds.allows _
  steps _ _ := .of_eq rfl rfl rfl rfl rfl rfl rfl
  tokens _ _ := .of_eq rfl rfl rfl rfl rfl rfl rfl
  loaded _ := Sheds.allows _
  create _ := Sheds.allows _
  beside _ _ _ := .of_eq rfl rfl rfl rfl rfl rfl rfl
  breakpoints _ _ _ := .of_eq rfl rfl rfl rfl rfl rfl rfl

instance : Enlists Sheds where
  line _ _ := .of_eq rfl rfl rfl rfl rfl rfl rfl

theorem Sheds.threadResumed (thread : ThreadId) (s : Session Debuggee) :
    Sheds s (threadResumed thread s) := by
  have leaves : Leaves s (Session.threadResumed thread s) := by
    unfold Session.threadResumed
    dsimp only
    split <;> exact ⟨rfl, rfl, rfl, rfl, .refl _⟩
  refine ⟨leaves, fun t p found => ?_, fun e mem => ?_⟩
  · rw [threadResumed_stopped, Table.get?_erase] at found
    split at found
    · cases found
    · exact found
  · rw [threadResumed_handles] at mem
    exact (Pool.mem_removeOwner mem).1

theorem Sheds.allResumed (s : Session Debuggee) : Sheds s (allResumed s) := by
  have leaves : Leaves s (Session.allResumed s) := by
    unfold Session.allResumed
    rw [foldl_revoke]
    exact ⟨rfl, rfl, rfl, rfl, .refl _⟩
  refine ⟨leaves, fun t p found => ?_, fun e mem => ?_⟩
  · rw [allResumed_stopped] at found
    cases found
  · rw [allResumed_handles] at mem
    cases mem

private theorem capture_quiet (thread : ThreadId) (s : Session Debuggee) :
    Task.Ends (capture thread) s fun _ s' => Quiet s s' := by
  have moves : Task.Moves Quiet (capture thread : Task (Session Debuggee) _) := by
    unfold capture
    refine .bind (.modifyGet fun s => .of_le rfl rfl rfl (Nat.le_succ _)) fun version => ?_
    refine .bind (queryFrames_moves thread) fun found => ?_
    cases found with
    | none => exact .bind (.pure _) fun _ => .pure _
    | some frames => exact .bind (.modify fun _ => .of_eq rfl rfl rfl rfl) fun _ => .pure _
  exact keeps_ends moves s

/-- The suspension of a new halt is a new one, and the handles of the last halt are dropped. -/
theorem threadHalted_tracks (tracks : Tracks known s) (thread : ThreadId) :
    Task.Ends (threadHalted thread) s fun _ s' => Tracks known s' := by
  obtain ⟨ps, qs, traced, halts, shown, listed⟩ := tracks
  unfold threadHalted
  refine .bind ((traced.capture thread).and (capture_quiet thread s)) ?_
  rintro p s₁ ⟨captured, quiet⟩
  have recorded : Traced (recordHalt p s₁) (p :: ps) qs :=
    captured.leaves ⟨rfl, rfl, rfl, rfl, .refl _⟩
  refine ⟨p :: ps, qs, recorded, ?_, ?_, listed⟩
  · intro t q found
    have found : (s₁.stopped.insert p.thread p).get? t = some q := found
    rw [Table.get?_insert, quiet.stopped] at found
    split at found
    · exact Option.some.inj found ▸ List.mem_cons_self
    · exact List.mem_cons_of_mem _ (halts t q found)
  · intro e mem
    have kept : e ∈ s₁.handles.entries.values := by
      have mem : e ∈ (recordHalt p s₁).handles.entries.values := mem
      unfold recordHalt at mem
      dsimp only at mem
      split at mem
      · exact (Pool.mem_removeOwner mem).1
      · exact mem
    exact shown e (quiet.handles ▸ kept)

/-! ## Events -/

theorem Tracks.settles {x : ExceptT ε (Task (Session Debuggee)) α} (h : Tracks known s)
    (stirs : Stirs Sheds x) : Settles x s fun _ s' => Tracks known s' :=
  (stirs.settles Ambient.advance s).mono fun _ _ => h.sheds

theorem Tracks.ends {x : Task (Session Debuggee) α} (h : Tracks known s)
    (moves : Task.Moves Sheds x) : Task.Ends x s fun _ s' => Tracks known s' :=
  (moves.ends Ambient.advance s).mono fun _ _ => h.sheds

private theorem release_sheds (thread : ThreadId) : Stirs Sheds (release thread) :=
  .orFail _ (Sheds.allows _)

private theorem depthOf_sheds (thread : ThreadId) : Task.Moves Sheds (depthOf thread) := by
  unfold depthOf
  refine .bind (Sheds.allows _) ?_
  intro r
  split <;> exact .pure _

private theorem onHit_tracks (request : RequestId) (location : Location) (reason : String)
    (h : Tracks known s) :
    Settles (onHit request thread location reason) s fun _ s' => Tracks known s' := by
  unfold onHit
  rw [settles_bind, settles_get]
  dsimp only
  split
  · exact h.settles (release_sheds thread)
  · rename_i installed _
    have hit : Task.Ends (hitInstalled installed) s fun _ s' => Tracks known s' :=
      h.sheds (.of_eq rfl rfl rfl rfl rfl rfl rfl)
    apply hit.andThen
    intro action s₁ counted
    cases action with
    | stop =>
      apply (counted.ends (dropStep_moves thread)).andThen
      intro _ s₂ dropped
      apply (threadHalted_tracks dropped thread).andThen
      intro _ s₃ halted
      exact halted.sheds (.of_eq rfl rfl rfl rfl rfl rfl rfl)
    | log text =>
      rw [settles_bind, settles_modify]
      have told : Tracks known (s₁.announce (.ofOutput "console" (text ++ "\n"))) :=
        counted.sheds (.of_eq rfl rfl rfl rfl rfl rfl rfl)
      exact told.settles (release_sheds thread)
    | «continue» => exact counted.settles (release_sheds thread)

private theorem onStep_tracks (request : RequestId) (location : Location) (h : Tracks known s) :
    Settles (onStep request thread location) s fun _ s' => Tracks known s' := by
  unfold onStep
  apply (h.ends (depthOf_sheds thread)).andThen
  intro depth s₁ asked
  rw [settles_bind, settles_get]
  refine (asked.settles (handleStep_stirs _ _ _ _ _)).bind ?_
  intro outcome s₂ handled
  cases outcome with
  | completed p =>
    apply (threadHalted_tracks handled thread).andThen
    intro _ s₃ halted
    dsimp only
    split <;> exact halted.sheds (.of_eq rfl rfl rfl rfl rfl rfl rfl)
  | «continue» => exact handled.settles (release_sheds thread)
  | ignored => exact handled.settles (release_sheds thread)

private theorem onMethodExit_sheds (request : RequestId) (location : Location) (value : Value) :
    Stirs Sheds (onMethodExit request thread location value) :=
  .bind (.quietly (depthOf_sheds thread)) fun _ =>
    .bind (.quietly (handleMethodExit_moves _ _ _ _ _)) fun _ => release_sheds thread

private theorem onException_tracks (location : Location) (exception : ObjectRef) (caught : Bool)
    (h : Tracks known s) :
    Settles (onException thread location exception caught) s fun _ s' => Tracks known s' := by
  unfold onException
  apply (h.ends (dropStep_moves thread)).andThen
  intro _ s₁ dropped
  apply (threadHalted_tracks dropped thread).andThen
  intro _ s₂ halted
  exact halted.sheds (.of_eq rfl rfl rfl rfl rfl rfl rfl)

private theorem terminate_sheds (s : Session Debuggee) : Sheds s (terminate s) := by
  unfold terminate
  split <;> exact .of_eq rfl rfl rfl rfl rfl rfl rfl

private theorem handleEvent_tracks (e : VmEvent) (h : Tracks known s) :
    Settles (handleEvent e) s fun _ s' => Tracks known s' := by
  cases e with
  | breakpoint request thread location =>
    exact (onHit_tracks request location _ h).bind fun _ _ kept => kept
  | watchpoint request thread location =>
    exact (onHit_tracks request location _ h).bind fun _ _ kept => kept
  | step request thread location =>
    exact (onStep_tracks request location h).bind fun _ _ kept => kept
  | methodExit request thread location value =>
    exact (h.settles (onMethodExit_sheds request location value)).bind fun _ _ kept => kept
  | exception request thread location exception caught =>
    exact (onException_tracks location exception caught h).bind fun _ _ kept => kept
  | threadStart thread name => exact h.sheds (.of_eq rfl rfl rfl rfl rfl rfl rfl)
  | threadDeath thread =>
    apply (h.ends (dropStep_moves thread)).andThen
    intro _ s₁ dropped
    exact (dropped.sheds (.threadResumed thread s₁)).sheds (.of_eq rfl rfl rfl rfl rfl rfl rfl)
  | death => exact h.sheds (terminate_sheds s)
  | disconnected => exact h.sheds (terminate_sheds s)

private theorem pumpEvent_tracks (e : VmEvent) (h : Tracks known s) :
    Task.Ends (pumpEvent e) s fun _ s' => Tracks known s' := by
  unfold pumpEvent
  refine Task.Ends.bind (handleEvent_tracks e h) ?_
  intro r s₁ kept
  cases r with
  | ok isOver => exact kept
  | error failure =>
    dsimp only
    split
    · exact kept.sheds (terminate_sheds s₁)
    · exact kept

/-! ## Requests -/

private theorem resumeThread_sheds (thread : ThreadId) : Stirs Sheds (resumeThread thread) :=
  .bind (.quietly (dropStep_moves thread)) fun _ =>
    .bind (.modify (Sheds.threadResumed thread)) fun _ => .orFail _ (Sheds.allows _)

private theorem step_sheds (thread : ThreadId) (kind : StepKind) :
    Stirs Sheds (step thread kind) := by
  unfold step
  refine .bind .get fun s => .bind (.liftExcept _) fun found => ?_
  exact .bind (beginStep_stirs ..) fun _ =>
    .bind (.modify (Sheds.threadResumed thread)) fun _ => .orFail _ (Sheds.allows _)

private theorem continueAll_sheds : Stirs Sheds continueAll :=
  .bind (.quietly dropAllSteps_moves) fun _ =>
    .bind (.modify Sheds.allResumed) fun _ => .orFail _ (Sheds.allows _)

private theorem disconnect_sheds (terminate : Bool) :
    Task.Moves Sheds (disconnect terminate : Task (Session Debuggee) _) := by
  unfold disconnect
  refine .bind dropAllSteps_moves fun _ => .bind removeBreakpoints_moves fun _ => ?_
  refine .bind (.modify Sheds.allResumed) fun _ => ?_
  dsimp only
  split
  · refine .bind (.bind (Sheds.allows _) fun _ => ?_) fun _ => .modify Ambient.cancel
    exact .bind (.modify Ambient.cancel) fun _ => .pure _
  · exact .bind (Sheds.allows _) fun _ => .modify Ambient.cancel

private theorem pause_tracks (thread : ThreadId) (h : Tracks known s) :
    Settles (pause thread) s fun _ s' => Tracks known s' := by
  unfold pause
  have asked : Settles ((call (.suspend thread)).orFail .remote) s fun _ s' => Tracks known s' :=
    h.settles (.orFail _ (Sheds.allows _))
  refine asked.bind ?_
  intro _ s₁ suspended
  apply (suspended.ends (dropStep_moves thread)).andThen
  intro _ s₂ dropped
  rw [settles_quietly]
  exact threadHalted_tracks dropped thread

private theorem setLocalValue_tracks {e : Pooled Container} {handle : Nat}
    (there : s.handles.get? handle = some e) {q : FrameProxy} (about : e.object.proxy? = some q)
    (slot : LocalVariable) (value : Value) (h : Tracks [] s) :
    Settles (setLocalValue q slot value) s fun _ s' => Tracks [] s' := by
  obtain ⟨ps, qs, traced, halts, shown, listed⟩ := h
  have opened : q ∈ qs := shown e (Table.mem_values there) q about
  have traces : Settles (setLocalValue q slot value) s fun _ s' => Traced s' ps qs :=
    traced.through opened (.setLocalValue slot value)
  have stirs : Stirs Quiet (setLocalValue q slot value : Remote Debuggee _) :=
    withFrame_stirs q fun f => Assigns.setLocal f slot value
  refine Settles.mono (traces.and (keeps_settles stirs s)) ?_
  rintro r s' ⟨traced', quiet⟩
  exact ⟨ps, qs, traced', quiet.stopped ▸ halts, quiet.handles ▸ shown, nofun⟩

private theorem assign_tracks {thread : ThreadId} {c : Container} {handle : Nat}
    (there : s.handles.get? handle = some ⟨thread, c⟩) (v : Variable) (text : String)
    (h : Tracks [] s) : Settles (assign c v text) s fun _ s' => Tracks [] s' := by
  have parsed : ∀ signature, Settles (liftExcept (Value.parse text signature)) s fun _ s' =>
      s' = s := fun _ => (settles_liftExcept _).2 rfl
  unfold assign
  split
  · rename_i slot _
    refine (parsed _).andThen ?_ ?_
    · rintro value _ rfl
      split
      · exact h
      · rename_i q about
        refine Settles.bind ((settles_orFail _ _).2 ?_) fun _ _ kept => kept
        exact setLocalValue_tracks there about slot value h
    · rintro e _ rfl
      exact h
  · refine h.settles (.bind (.liftExcept _) fun value => ?_)
    exact .bind (.orFail _ (Sheds.allows _)) fun _ => .pure _
  · exact h

theorem setVariable_tracks (reference : Int64) (name text : String) (h : Tracks [] s) :
    Settles (setVariable reference name text) s fun _ s' => Tracks [] s' := by
  unfold setVariable
  rw [settles_bind, settles_get]
  dsimp only
  split
  · exact h
  · rename_i thread c found
    obtain ⟨handle, -, there⟩ := Option.bind_eq_some_iff.1 found
    rw [settles_bind, settles_orFail]
    refine (listContainer_surveys found h _).mono ?_
    rintro r s₁ ⟨moved, handles, -⟩
    cases r with
    | error e => exact moved.tracks h
    | ok listed =>
      dsimp only [Except.mapError]
      split
      · exact moved.tracks h
      · rename_i v _
        have there₁ : s₁.handles.get? handle = some ⟨thread, c⟩ := by
          rw [handles]
          exact there
        refine (assign_tracks there₁ v text (moved.tracks h)).bind ?_
        intro value s₂ kept
        rw [settles_bind, settles_orFail]
        refine (describeVariable_surveys kept thread _ _).mono ?_
        intro r s₃ more
        cases r <;> exact more.tracks kept

private theorem answer_sheds {x : Action Debuggee α} (f : α → Result) (h : Stirs Sheds x) :
    Stirs Sheds (ExceptT.adapt Failure.error (do return f (← x))) :=
  .adapt _ (.bind h fun _ => .pure _)

theorem performAny_tracks (r : Request) (h : Tracks [] s) :
    Settles (performAny r) s fun _ s' => Tracks [] s' := by
  by_cases looks : r.isReadOnly = true
  · exact (performAny_surveys looks h).mono fun _ _ moved => moved.tracks h
  cases r with
  | capabilities => exact h.settles (.adapt _ (.bind .get fun _ => .pure _))
  | attach =>
    refine h.settles (answer_sheds _ (.bind (.orFail _ (Sheds.allows _)) fun _ => ?_))
    exact .bind (.modify fun _ => .of_eq rfl rfl rfl rfl rfl rfl rfl) fun _ =>
      .bind .get fun _ => .pure _
  | configurationDone => exact h.settles (.adapt _ (.pure _))
  | disconnect terminate => exact h.settles (answer_sheds _ (.quietly (disconnect_sheds terminate)))
  | setBreakpoints source wanted modified =>
    exact h.settles (answer_sheds _ (.bind (setBreakpoints_stirs _ _ _) fun _ => .pure _))
  | setExceptionBreakpoints filters =>
    exact h.settles (answer_sheds _ (setExceptionBreakpoints_stirs _ _))
  | setDataBreakpoints wanted =>
    exact h.settles (answer_sheds _ (.bind (setWatchpoints_stirs _) fun _ => .pure _))
  | setVariable reference name value =>
    exact Settles.answered _ _ (setVariable_tracks reference name value h)
  | continueThread thread => exact h.settles (answer_sheds _ (resumeThread_sheds thread))
  | continueAll => exact h.settles (answer_sheds _ continueAll_sheds)
  | step thread kind => exact h.settles (answer_sheds _ (step_sheds thread kind))
  | pause thread => exact Settles.answered _ _ (pause_tracks thread h)
  | _ => exact absurd rfl looks

/-! ## Runs -/

theorem Tracks.after (h : Tracks [] s) (i : Input Debuggee)
    (lasting : ∀ d, i = .debuggee d → Debuggee.Extends s.machine d) : Tracks [] (s.after i) := by
  cases i with
  | event e => exact pumpEvent_tracks e h
  | message m => exact respond_of_performAny m h fun r _ => performAny_tracks r h
  | leave => exact h.ends (disconnect_sheds false)
  | debuggee d => exact h.sheds (.of_leaves ⟨rfl, rfl, rfl, rfl, lasting d rfl⟩ rfl rfl)
  | settings x =>
    exact after_settings x h fun _ _ => h.sheds (.of_eq rfl rfl rfl rfl rfl rfl rfl)
  | time time => exact h.sheds (.of_eq rfl rfl rfl rfl rfl rfl rfl)
  | deliver => exact h.sheds (.of_eq rfl rfl rfl rfl rfl rfl rfl)

/-- A session that anything may have happened to since it began, while there were handles left; but
the debuggee never gave out a handle of a frame again for another one. -/
inductive Faithful : Session Debuggee → Prop
  | start (machine : Debuggee) (settings : Settings) (providers : Providers) :
      Faithful (start machine settings providers)
  | step {s : Session Debuggee} (i : Input Debuggee) (before : Faithful s)
      (lasting : ∀ d, i = .debuggee d → Debuggee.Extends s.machine d)
      (room : (s.after i).HasRoom) : Faithful (s.after i)

theorem Faithful.tracks (h : Faithful s) : Tracks [] s := by
  induction h with
  | start machine settings providers =>
    exact ⟨[], [], traced_start machine settings providers, nofun, nofun, nofun⟩
  | step i before lasting room ih => exact ih.after i lasting

theorem Faithful.tidy (h : Faithful s) : s.Tidy := by
  induction h with
  | start machine settings providers => exact tidy_start machine settings providers
  | step i before lasting room ih => exact (after_changes ih i).tidy ih room

end DebugSession.Session
