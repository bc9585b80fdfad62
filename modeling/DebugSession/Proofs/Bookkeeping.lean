import DebugSession.Proofs.Handing
import DebugSession.Proofs.Runs
/-!
The books that a session keeps of halted threads agree with each other, after anything that may
happen to it: what the client can look into, the exceptions and the results of methods are all of
threads whose halts are recorded.
-/

namespace DebugSession

variable {V α ε : Type}

namespace Session

/-- A handle is for a thread whose halt is recorded; if it is for a frame, for one of that very
halt. -/
structure Fits (s : Session V) (e : Pooled Container) : Prop where
  halted : (s.stopped.get? e.owner).isSome = true
  current : ∀ p, e.object.proxy? = some p →
    p.thread = e.owner ∧ s.stopped.get? e.owner = some p.key.suspension

/-- The books of a session agree with each other. -/
structure Kept (s : Session V) : Prop where
  named : ∀ thread p, s.stopped.get? thread = some p → p.thread = thread
  handles : ∀ e ∈ s.handles.entries.values, s.Fits e
  exceptions : ∀ thread ∈ s.exceptions.keys, (s.stopped.get? thread).isSome = true
  results : ∀ thread ∈ s.results.keys, (s.stopped.get? thread).isSome = true

/-- The books stay as they are, but for handles that were given out for what `C` holds of. -/
structure Grants (C : Pooled Container → Prop) (s s' : Session V) : Prop where
  stopped : s'.stopped = s.stopped
  handles : ∀ e ∈ s'.handles.entries.values, e ∈ s.handles.entries.values ∨ C e
  exceptions : s'.exceptions = s.exceptions
  results : s'.results = s.results

variable {C : Pooled Container → Prop} {s s₁ s' : Session V}

theorem Grants.of_eq (stopped : s'.stopped = s.stopped) (handles : s'.handles = s.handles)
    (exceptions : s'.exceptions = s.exceptions) (results : s'.results = s.results) :
    Grants C s s' :=
  ⟨stopped, fun _ mem => .inl (handles ▸ mem), exceptions, results⟩

instance : Composes (Grants C (V := V)) where
  refl _ := .of_eq rfl rfl rfl rfl
  trans := by
    intro s s' s'' h h'
    refine ⟨h'.stopped.trans h.stopped, fun e mem => ?_, h'.exceptions.trans h.exceptions,
      h'.results.trans h.results⟩
    rcases h'.handles e mem with old | new
    · exact h.handles e old
    · exact .inr new

theorem Grants.advance (time : Nat) (s : Session V) : Grants C s (s.advance time) :=
  .of_eq rfl rfl rfl rfl

theorem grants_handOut {owner : ThreadId} {c : Container} (h : C ⟨owner, c⟩) (s : Session V) :
    Grants C s (handOut owner c s) := by
  refine ⟨rfl, ?_, rfl, rfl⟩
  intro e mem
  refine (Pool.mem_add mem).imp_right ?_
  rintro rfl
  exact h

section

variable [Machine V]

instance : Ambient (Grants C (V := V)) where
  advance := Grants.advance
  cancel _ := .of_eq rfl rfl rfl rfl

theorem Grants.allows (c : Call) : Allows (Grants C (V := V)) c :=
  allows_of_parts (fun _ => .of_eq rfl rfl rfl rfl) (fun _ => .of_eq rfl rfl rfl rfl)
    fun _ _ => .of_eq rfl rfl rfl rfl

instance : Assigns (Grants C (V := V)) where
  query c _ := Grants.allows c
  snapshot _ _ _ := .of_eq rfl rfl rfl rfl
  cell _ _ _ := .of_eq rfl rfl rfl rfl
  invoke _ _ _ _ := Grants.allows _
  openFrame _ _ _ := .of_eq rfl rfl rfl rfl
  setLocal _ _ _ := Grants.allows _
  setField _ _ _ := Grants.allows _
  evaluations _ _ _ := .of_eq rfl rfl rfl rfl

instance : Relines (Grants C (V := V)) where
  loaded _ := Grants.allows _
  create _ := Grants.allows _
  delete _ := Grants.allows _
  beside _ _ _ := .of_eq rfl rfl rfl rfl
  breakpoints _ _ _ := .of_eq rfl rfl rfl rfl
  steps _ _ := .of_eq rfl rfl rfl rfl
  tokens _ _ := .of_eq rfl rfl rfl rfl

instance : Enlists (Grants C (V := V)) where
  line _ _ := .of_eq rfl rfl rfl rfl

end

/-! ## Halts -/

theorem Fits.congr {e : Pooled Container} (h : s.Fits e)
    (same : s'.stopped.get? e.owner = s.stopped.get? e.owner) : s'.Fits e :=
  ⟨same ▸ h.halted, same ▸ h.current⟩

theorem Kept.grants (h : s.Kept) (grants : Grants s.Fits s s') : s'.Kept where
  named := by
    rw [grants.stopped]
    exact h.named
  handles := by
    intro e mem
    have fits : s.Fits e := (grants.handles e mem).elim (h.handles e) id
    exact fits.congr (by rw [grants.stopped])
  exceptions := by
    rw [grants.stopped, grants.exceptions]
    exact h.exceptions
  results := by
    rw [grants.stopped, grants.results]
    exact h.results

/-- Nothing is told to the client of any halt. -/
abbrev Unbooked (s s' : Session V) : Prop := Grants (fun _ => False) s s'

theorem Kept.unbooked (h : s.Kept) (unbooked : Unbooked s s') : s'.Kept :=
  h.grants ⟨unbooked.stopped, fun e mem => (unbooked.handles e mem).imp_right False.elim,
    unbooked.exceptions, unbooked.results⟩

theorem Kept.recordHalt (h : s.Kept) (p : Suspension) : (recordHalt p s).Kept := by
  have halted : ∀ t, (s.stopped.get? t).isSome = true →
      ((s.stopped.insert p.thread p).get? t).isSome = true := by
    intro t known
    rw [Table.get?_insert]
    split
    · rfl
    · exact known
  constructor
  case named =>
    intro t q found
    simp only [Session.recordHalt, Table.get?_insert] at found
    split at found
    · rename_i same
      rw [same, ← Option.some.inj found]
    · exact h.named t q found
  case handles =>
    -- A handle of this thread was one of its last halt, and is dropped.
    have kept : ∀ e ∈ (Session.recordHalt p s).handles.entries.values,
        s.Fits e ∧ e.owner ≠ p.thread := by
      intro e mem
      by_cases known : s.stopped.contains p.thread = true
      · simp only [Session.recordHalt, if_pos known] at mem
        obtain ⟨there, other⟩ := Pool.mem_removeOwner mem
        exact ⟨h.handles e there, other⟩
      · simp only [Session.recordHalt, if_neg known] at mem
        have fits := h.handles e mem
        refine ⟨fits, fun same => known ?_⟩
        rw [Table.contains_eq_isSome, ← same]
        exact fits.halted
    intro e mem
    obtain ⟨fits, other⟩ := kept e mem
    exact fits.congr ((Table.get?_insert ..).trans (if_neg other))
  case exceptions => exact fun t mem => halted t (h.exceptions t mem)
  case results => exact fun t mem => halted t (h.results t mem)

theorem Kept.threadResumed (h : s.Kept) (thread : ThreadId) : (threadResumed thread s).Kept := by
  have others : ∀ t, t ≠ thread →
      (Session.threadResumed thread s).stopped.get? t = s.stopped.get? t := by
    intro t other
    rw [threadResumed_stopped, Table.get?_erase, if_neg other]
  constructor
  case named =>
    intro t q found
    rw [threadResumed_stopped, Table.get?_erase] at found
    split at found
    · cases found
    · exact h.named t q found
  case handles =>
    intro e mem
    rw [threadResumed_handles] at mem
    obtain ⟨there, other⟩ := Pool.mem_removeOwner mem
    exact (h.handles e there).congr (others e.owner other)
  case exceptions =>
    intro t mem
    rw [threadResumed_exceptions] at mem
    obtain ⟨other, mem⟩ := Table.mem_keys_erase.1 mem
    rw [others t other]
    exact h.exceptions t mem
  case results =>
    intro t mem
    rw [threadResumed_results] at mem
    obtain ⟨other, mem⟩ := Table.mem_keys_erase.1 mem
    rw [others t other]
    exact h.results t mem

theorem kept_of_empty (stopped : s.stopped = {}) (handles : s.handles.entries = {})
    (exceptions : s.exceptions = {}) (results : s.results = {}) : s.Kept where
  named := by
    intro t p found
    rw [stopped] at found
    cases found
  handles := by
    intro e mem
    rw [handles] at mem
    cases mem
  exceptions := by
    intro t mem
    rw [exceptions] at mem
    cases mem
  results := by
    intro t mem
    rw [results] at mem
    cases mem

theorem kept_allResumed (s : Session V) : (allResumed s).Kept :=
  kept_of_empty (allResumed_stopped s) (congrArg Pool.entries (allResumed_handles s))
    (allResumed_exceptions s) (allResumed_results s)

section

variable {thread : ThreadId}

theorem Kept.noteException (h : s.Kept) (halted : (s.stopped.get? thread).isSome = true)
    (info : ExceptionInfo) :
    ({ s with exceptions := s.exceptions.insert thread info } : Session V).Kept where
  named := h.named
  handles e mem := (h.handles e mem).congr rfl
  exceptions := by
    intro t mem
    rcases Table.mem_keys_insert.1 mem with rfl | mem
    · exact halted
    · exact h.exceptions t mem
  results := h.results

theorem Kept.noteResult (h : s.Kept) (halted : (s.stopped.get? thread).isSome = true)
    (result : MethodResult) :
    ({ s with results := s.results.insert thread result } : Session V).Kept where
  named := h.named
  handles e mem := (h.handles e mem).congr rfl
  exceptions := h.exceptions
  results := by
    intro t mem
    rcases Table.mem_keys_insert.1 mem with rfl | mem
    · exact halted
    · exact h.results t mem

end

/-! ## Computations -/

theorem Kept.settles {x : ExceptT ε (Task (Session V)) α} (h : s.Kept) (stirs : Stirs Unbooked x) :
    Settles x s fun _ s' => s'.Kept :=
  (stirs.settles Grants.advance s).mono fun _ _ => h.unbooked

theorem Kept.ends {x : Task (Session V) α} (h : s.Kept) (moves : Task.Moves Unbooked x) :
    Task.Ends x s fun _ s' => s'.Kept :=
  (moves.ends Grants.advance s).mono fun _ _ => h.unbooked

/-- What is shown is shown of the halts that were recorded when the answer began. -/
theorem Kept.shows {x : ExceptT ε (Task (Session V)) α} (h : s.Kept)
    (stirs : StirsFrom (Grants s.Fits) s x) : Settles x s fun _ s' => s'.Kept :=
  (stirs.settles Grants.advance).mono fun _ _ => h.grants

variable [Machine V] {thread : ThreadId}

theorem threadHalted_kept (thread : ThreadId) (h : s.Kept) :
    Task.Ends (threadHalted thread) s fun _ s' =>
      s'.Kept ∧ (s'.stopped.get? thread).isSome = true := by
  have captured : Task.Ends (capture thread) s fun p s' => p.thread = thread ∧ s'.Kept := by
    unfold capture
    rw [Task.ends_bind, Task.ends_modifyGet]
    have counted : ({ s with suspensions := s.suspensions + 1 } : Session V).Kept :=
      h.unbooked (.of_eq rfl rfl rfl rfl)
    refine .bind (counted.ends (queryFrames_moves thread)) ?_
    intro found s₁ kept
    cases found with
    | none => exact ⟨rfl, kept⟩
    | some frames => exact ⟨rfl, kept.unbooked (.of_eq rfl rfl rfl rfl)⟩
  unfold threadHalted
  refine .bind captured ?_
  rintro p s' ⟨rfl, kept⟩
  refine ⟨kept.recordHalt p, ?_⟩
  show ((s'.stopped.insert p.thread p).get? p.thread).isSome = true
  rw [Table.get?_insert, if_pos rfl]
  rfl

/-! ## Events -/

private theorem release_kept (thread : ThreadId) (h : s.Kept) :
    Settles (release thread) s fun _ s' => s'.Kept :=
  h.settles (.orFail _ (Grants.allows _))

private theorem depthOf_kept (thread : ThreadId) (h : s.Kept) :
    Task.Ends (depthOf thread) s fun _ s' => s'.Kept := by
  refine h.ends ?_
  unfold depthOf
  refine .bind (Grants.allows _) ?_
  intro r
  split <;> exact .pure _

private theorem onHit_kept (request : RequestId) (location : Location) (reason : String)
    (h : s.Kept) : Settles (onHit request thread location reason) s fun _ s' => s'.Kept := by
  unfold onHit
  rw [settles_bind, settles_get]
  dsimp only
  split
  · exact release_kept thread h
  · rename_i installed _
    have hit : Task.Ends (hitInstalled installed) s fun _ s' => s'.Kept :=
      h.unbooked (.of_eq rfl rfl rfl rfl)
    apply hit.andThen
    intro action s₁ counted
    cases action with
    | stop =>
      apply (counted.ends (dropStep_moves thread)).andThen
      intro _ s₂ dropped
      apply (threadHalted_kept thread dropped).andThen
      rintro _ s₃ ⟨halted, -⟩
      exact halted.unbooked (.of_eq rfl rfl rfl rfl)
    | log text =>
      rw [settles_bind, settles_modify]
      exact release_kept thread (counted.unbooked (.of_eq rfl rfl rfl rfl))
    | «continue» => exact release_kept thread counted

private theorem onStep_kept (request : RequestId) (location : Location) (h : s.Kept) :
    Settles (onStep request thread location) s fun _ s' => s'.Kept := by
  unfold onStep
  apply (depthOf_kept thread h).andThen
  intro depth s₁ asked
  rw [settles_bind, settles_get]
  refine (asked.settles (handleStep_stirs _ _ _ _ _)).bind ?_
  intro outcome s₂ handled
  cases outcome with
  | completed p =>
    apply (threadHalted_kept thread handled).andThen
    rintro _ s₃ ⟨kept, halted⟩
    dsimp only
    split
    · exact (kept.noteResult halted _).unbooked (.of_eq rfl rfl rfl rfl)
    · exact kept.unbooked (.of_eq rfl rfl rfl rfl)
  | «continue» => exact release_kept thread handled
  | ignored => exact release_kept thread handled

private theorem onMethodExit_kept (request : RequestId) (location : Location) (value : Value)
    (h : s.Kept) : Settles (onMethodExit request thread location value) s fun _ s' => s'.Kept := by
  unfold onMethodExit
  apply (depthOf_kept thread h).andThen
  intro depth s₁ asked
  apply (asked.ends (handleMethodExit_moves _ _ _ _ _)).andThen
  intro _ s₂ noted
  exact release_kept thread noted

private theorem onException_kept (location : Location) (exception : ObjectRef) (caught : Bool)
    (h : s.Kept) :
    Settles (onException thread location exception caught) s fun _ s' => s'.Kept := by
  unfold onException
  apply (h.ends (dropStep_moves thread)).andThen
  intro _ s₁ dropped
  apply (threadHalted_kept thread dropped).andThen
  rintro _ s₂ ⟨kept, halted⟩
  exact (kept.noteException halted _).unbooked (.of_eq rfl rfl rfl rfl)

omit [Machine V] in
private theorem terminate_kept (h : s.Kept) : (terminate s).Kept := by
  unfold terminate
  split
  · exact h
  · exact h.unbooked (.of_eq rfl rfl rfl rfl)

private theorem handleEvent_kept (e : VmEvent) (h : s.Kept) :
    Settles (handleEvent e) s fun _ s' => s'.Kept := by
  cases e with
  | breakpoint request thread location =>
    exact (onHit_kept request location _ h).bind fun _ _ kept => kept
  | watchpoint request thread location =>
    exact (onHit_kept request location _ h).bind fun _ _ kept => kept
  | step request thread location =>
    exact (onStep_kept request location h).bind fun _ _ kept => kept
  | methodExit request thread location value =>
    exact (onMethodExit_kept request location value h).bind fun _ _ kept => kept
  | exception request thread location exception caught =>
    exact (onException_kept location exception caught h).bind fun _ _ kept => kept
  | threadStart thread name => exact h.unbooked (.of_eq rfl rfl rfl rfl)
  | threadDeath thread =>
    apply (h.ends (dropStep_moves thread)).andThen
    intro _ s₁ dropped
    exact (dropped.threadResumed thread).unbooked (.of_eq rfl rfl rfl rfl)
  | death => exact terminate_kept h
  | disconnected => exact terminate_kept h

theorem pumpEvent_kept (e : VmEvent) (h : s.Kept) :
    Task.Ends (pumpEvent e) s fun _ s' => s'.Kept := by
  unfold pumpEvent
  refine Task.Ends.bind (handleEvent_kept e h) ?_
  intro r s₁ kept
  cases r with
  | ok isOver => exact kept
  | error failure =>
    dsimp only
    split
    · exact terminate_kept kept
    · exact kept

/-! ## What is shown -/

section

omit [Machine V]

theorem Kept.fits_frame (h : s.Kept) {p : Suspension} {x : FrameProxy}
    (halted : s.stopped.get? thread = some p) (own : x.key.suspension = p) :
    s.Fits ⟨p.thread, .frame x⟩ := by
  have found : s.stopped.get? p.thread = some p := by
    rw [h.named thread p halted]
    exact halted
  constructor
  · show (s.stopped.get? p.thread).isSome = true
    rw [found]
    rfl
  · rintro _ ⟨⟩
    have same : x.thread = p.thread := congrArg Suspension.thread own
    exact ⟨same, own ▸ found⟩

theorem Kept.resolved (h : s.Kept) {reference : Int64} {e : Pooled Container}
    (found : s.resolve? reference = some e) : s.Fits e := by
  obtain ⟨handle, -, there⟩ := Option.bind_eq_some_iff.1 found
  exact h.handles e (Table.mem_values there)

/-- An object may be shown of every thread that something may be shown of. -/
theorem Fits.object {owner : ThreadId} {c : Container} (h : s.Fits ⟨owner, c⟩) (o : ObjectRef)
    (name : Option String) : s.Fits ⟨owner, .object o name⟩ := ⟨h.halted, nofun⟩

/-- What a frame consists of fits as the frame does. -/
theorem Fits.part {owner : ThreadId} {x : FrameProxy} (h : s.Fits ⟨owner, .frame x⟩)
    {c : Container} (same : c.proxy? = some x) : s.Fits ⟨x.thread, c⟩ := by
  obtain ⟨own, current⟩ := h.current x rfl
  have own : x.thread = owner := own
  constructor
  · exact own ▸ h.halted
  · intro p there
    obtain rfl : x = p := Option.some.inj (same.symm.trans there)
    exact ⟨rfl, own ▸ current⟩

end

/-! ## Requests -/

private theorem resumeThread_kept (thread : ThreadId) (h : s.Kept) :
    Settles (resumeThread thread) s fun _ s' => s'.Kept := by
  unfold resumeThread
  apply (h.ends (dropStep_moves thread)).andThen
  intro _ s₁ dropped
  rw [settles_bind, settles_modify]
  exact (dropped.threadResumed thread).settles (.orFail _ (Grants.allows _))

private theorem step_kept (thread : ThreadId) (kind : StepKind) (h : s.Kept) :
    Settles (step thread kind) s fun _ s' => s'.Kept := by
  have stood : Settles (liftExcept (s.standing thread) : Action V _) s fun _ s' => s'.Kept :=
    (settles_liftExcept _).2 h
  unfold step
  rw [settles_bind, settles_get]
  refine stood.andThen (fun found s₁ kept => ?_) fun _ _ kept => kept
  refine (kept.settles (beginStep_stirs ..)).andThen (fun _ s₂ begun => ?_) fun _ _ kept => kept
  rw [settles_bind, settles_modify]
  exact (begun.threadResumed thread).settles (.orFail _ (Grants.allows _))

private theorem pause_kept (thread : ThreadId) (h : s.Kept) :
    Settles (pause thread) s fun _ s' => s'.Kept := by
  unfold pause
  have asked : Settles ((call (.suspend thread)).orFail .remote) s fun _ s' => s'.Kept :=
    h.settles (.orFail _ (Grants.allows _))
  refine asked.andThen (fun _ s₁ kept => ?_) fun _ _ kept => kept
  apply (kept.ends (dropStep_moves thread)).andThen
  intro _ s₂ dropped
  rw [settles_quietly]
  exact (threadHalted_kept thread dropped).mono fun _ _ halted => halted.1

private theorem continueAll_kept (h : s.Kept) :
    Settles continueAll s fun _ s' => s'.Kept := by
  unfold continueAll
  apply (h.ends dropAllSteps_moves).andThen
  intro _ s₁ _
  rw [settles_bind, settles_modify]
  exact (kept_allResumed s₁).settles (.orFail _ (Grants.allows _))

private theorem disconnect_kept (terminate : Bool) (h : s.Kept) :
    Task.Ends (disconnect terminate) s fun _ s' => s'.Kept := by
  have left : Task.Moves Unbooked (do
      let _ ← if terminate then dispose else tryCall .resumeAll
      modify cancel : Task (Session V) _) := by
    dsimp only
    split
    · refine .bind (.bind (Grants.allows _) fun _ => ?_) fun _ => .modify Ambient.cancel
      exact .bind (.modify Ambient.cancel) fun _ => .pure _
    · exact .bind (Grants.allows _) fun _ => .modify Ambient.cancel
  unfold disconnect
  apply (h.ends dropAllSteps_moves).bind
  intro _ s₁ dropped
  apply (dropped.ends removeBreakpoints_moves).bind
  intro _ s₂ _
  rw [Task.ends_bind, Task.ends_modify]
  exact (kept_allResumed s₂).ends left

theorem performAny_kept (r : Request) (h : s.Kept) :
    Settles (performAny r) s fun _ s' => s'.Kept := by
  cases r with
  | capabilities => exact h.settles (.adapt _ (.bind .get fun _ => .pure _))
  | attach =>
    exact Settles.answered _ _ (h.settles (probe_stirs 0 fun _ => .of_eq rfl rfl rfl rfl))
  | configurationDone => exact h.settles (.adapt _ (.pure _))
  | disconnect terminate =>
    exact Settles.answered _ _ ((settles_quietly _).2 (disconnect_kept terminate h))
  | setBreakpoints source wanted modified =>
    exact Settles.answered _ _ (h.settles (.bind (setBreakpoints_stirs _ _ _) fun _ => .pure _))
  | setExceptionBreakpoints filters =>
    exact Settles.answered _ _ (h.settles (setExceptionBreakpoints_stirs _ _))
  | dataBreakpointInfo reference name =>
    exact Settles.answered _ _ (h.settles (dataBreakpointInfo_stirs reference name))
  | setDataBreakpoints wanted =>
    exact Settles.answered _ _ (h.settles (.bind (setWatchpoints_stirs _) fun _ => .pure _))
  | getBreakpoints => exact Settles.answered _ _ (h.settles (.quietly listBreakpoints_moves))
  | threads =>
    exact Settles.answered _ _ (h.settles (listThreads_stirs fun _ _ => .of_eq rfl rfl rfl rfl))
  | stackTrace thread start levels =>
    refine Settles.answered _ _ (h.shows (stackTrace_stirs thread start levels s ?_))
    intro p halted x s' own
    exact grants_handOut (h.fits_frame halted own) s'
  | stackFrame thread depth =>
    refine Settles.answered _ _ (h.shows (.quietly (stackFrame?_moves thread depth s ?_)))
    intro p halted x s' own
    exact grants_handOut (h.fits_frame halted own) s'
  | refreshStackFrames thread =>
    exact Settles.answered _ _ (h.settles (.quietly (refreshThread_moves thread)))
  | scopes frameId =>
    refine Settles.answered _ _ (h.shows (.quietly (scopes_moves frameId s ?_)))
    intro owner x found c s' same
    exact grants_handOut ((h.resolved found).part same) s'
  | listVariables reference start count =>
    refine Settles.answered _ _ (h.shows (listVariables_stirs reference start count s ?_))
    intro e found o name s'
    exact grants_handOut ((h.resolved found).object o name) s'
  | setVariable reference name value =>
    refine Settles.answered _ _ (h.shows (setVariable_stirs reference name value s ?_))
    intro e found o name s'
    exact grants_handOut ((h.resolved found).object o name) s'
  | evaluate expression frameId =>
    have evaluated : Settles (Session.evaluate expression frameId) s fun _ s' => s'.Kept := by
      refine h.shows (evaluation_stirs expression frameId s ?_)
      intro owner x found o name s'
      obtain ⟨reference, -, there⟩ := Option.bind_eq_some_iff.1 found
      have shown : s.Fits ⟨x.thread, .frame x⟩ := (h.resolved there).part rfl
      exact grants_handOut (shown.object o name) s'
    exact (settles_return _ _ Kept).2 evaluated
  | exceptionInfo thread => exact Settles.answered _ _ (h.settles (exceptionInfo_stirs thread))
  | continueThread thread => exact Settles.answered _ _ (resumeThread_kept thread h)
  | continueAll => exact Settles.answered _ _ (continueAll_kept h)
  | step thread kind => exact Settles.answered _ _ (step_kept thread kind h)
  | pause thread => exact Settles.answered _ _ (pause_kept thread h)

theorem respond_kept (m : Protocol.RequestMessage) (h : s.Kept) :
    Task.Ends (respond m) s fun _ s' => s'.Kept :=
  respond_of_performAny m h fun r _ => performAny_kept r h

/-! ## Runs -/

theorem Kept.after (h : s.Kept) (i : Input V) : (s.after i).Kept := by
  cases i with
  | event e => exact pumpEvent_kept e h
  | message m => exact respond_kept m h
  | leave => exact disconnect_kept false h
  | debuggee v => exact h.unbooked (.of_eq rfl rfl rfl rfl)
  | settings x => exact after_settings x h fun _ _ => h.unbooked (.of_eq rfl rfl rfl rfl)
  | time time => exact h.unbooked (.of_eq rfl rfl rfl rfl)
  | deliver => exact h.unbooked (.of_eq rfl rfl rfl rfl)

/-- The books of a session agree with each other whatever happens to it, with whatever debuggee
it was attached to. -/
theorem kept_always (machine : V) (settings : Settings) (providers : Providers)
    (is : List (Input V)) : (is.foldl Session.after (start machine settings providers)).Kept := by
  have begun : (start machine settings providers).Kept := kept_of_empty rfl rfl rfl rfl
  generalize start machine settings providers = s at begun
  induction is generalizing s with
  | nil => exact begun
  | cons i rest ih => exact ih _ (begun.after i)

end Session
end DebugSession
