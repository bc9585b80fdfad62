import DebugSession.Proofs.Consistency
import DebugSession.Proofs.Inputs
import DebugSession.Proofs.Requests
import DebugSession.Proofs.Striding
/-!
Whose the requests on the debuggee are. As long as nobody else creates or deletes any, each is one
of a breakpoint, a watchpoint or a pending step, or the one for exceptions, whatever happens to the
session and whichever calls fail; but for those that could not be deleted.
-/

namespace DebugSession.Session

variable {V α ε : Type} [Machine V] [Ledger V] [Numbers V] {s s₁ s' : Session V}

/-- All requests on the debuggee are noted, but for those that could not be deleted; those for
steps, unless the debuggee was lost. -/
structure Owned (s : Session V) : Prop where
  booked : s.Booked []
  strides : s.Striding
  known : ∀ r, s.Stepping r → r ≤ Numbers.last s.machine
  accounted : (∀ x ∈ s.calls, ¬ x.IsLost) → Accounted s.steps [] s

theorem Owned.plants (h : s.Owned) (plants : Plants s s') (booked : s'.Booked []) : s'.Owned where
  booked := booked
  strides := by
    -- A new request has a number that no step has noted.
    intro r noted q live
    have noted := stepping_of_steps plants.steps noted
    rcases plants.live h.booked.sound r q live with live | ⟨-, new⟩
    · exact h.strides r noted q live
    · exact absurd (h.known r noted) (Nat.not_le_of_lt new)
  known r noted := Nat.le_trans (h.known r (stepping_of_steps plants.steps noted)) plants.last
  accounted := by
    intro kept r q live names
    rcases plants.live h.booked.sound r q live with live | ⟨other, -⟩
    · rw [plants.steps]
      have before := h.accounted fun x made => kept x (plants.calls.subset made)
      exact (before r q live names).imp_right (.imp_left fun failed => failed.mono plants.calls)
    · exact absurd other names

theorem Owned.calm (h : s.Owned) (calm : Calm s s') : s'.Owned := by
  refine h.plants calm.plants ⟨calm.machine.sound h.booked.sound, ?_⟩
  rw [calm.breakpoints, calm.machine.live h.booked.sound]
  exact h.booked.books.remember fun r failed => failed.mono calm.calls

theorem Owned.takes (h : s.Owned) {op : StepOperation} {answer : StepAnswer}
    (takes : Takes s op answer s') (apart : Apart s s') : s'.Owned := by
  have strode := takes.strode h.strides
  have consults := takes.consults h.booked.sound
  constructor
  case booked =>
    refine ⟨consults.sound, ?_⟩
    rw [apart.breakpoints]
    refine h.booked.books.renew (fun r q sort => strode.others r q ?_) fun r failed =>
      failed.mono consults.calls
    cases q <;> simp_all [EventRequest.isPlaced, EventRequest.isException, EventRequest.strider?]
  case strides =>
    intro r noted q live other
    rcases strode.origin r noted with old | ⟨q', live', stride⟩
    · exact h.strides r old q ((strode.others r q other).1 live) other
    · obtain rfl := Option.some.inj (live.symm.trans live')
      exact stride other
  case known =>
    intro r noted
    rcases strode.origin r noted with old | ⟨q, live, -⟩
    · exact Nat.le_trans (h.known r old) apart.last
    · exact Numbers.known s'.machine consults.sound r q live
  case accounted =>
    intro kept
    exact (h.accounted fun x made => kept x (consults.calls.subset made)).takes takes kept

theorem start_owned {machine : V} (settings : Settings) (providers : Providers)
    (sound : Ledger.Sound machine) (fresh : ∀ r, Ledger.live machine r = none) :
    (start machine settings providers).Owned where
  booked := start_booked settings providers sound fresh
  strides := by
    rintro r ⟨p, ⟨⟩, -⟩
  known := by
    rintro r ⟨p, ⟨⟩, -⟩
  accounted := by
    intro _ r q live
    rw [show Ledger.live (start machine settings providers).machine r = none from fresh r] at live
    cases live

/-! ## Computations -/

theorem Owned.ends {x : Task (Session V) α} (h : s.Owned) (moves : Task.Moves Calm x) :
    Task.Ends x s fun _ s' => s'.Owned :=
  (moves.ends Calm.advance s).mono fun _ _ => h.calm

theorem Owned.settles {x : ExceptT ε (Task (Session V)) α} (h : s.Owned) (stirs : Stirs Calm x) :
    Settles x s fun _ s' => s'.Owned := h.ends stirs

theorem Owned.shows {x : ExceptT ε (Task (Session V)) α} (h : s.Owned)
    (stirs : StirsFrom Calm s x) : Settles x s fun _ s' => s'.Owned :=
  (stirs.settles Calm.advance).mono fun _ _ => h.calm

private theorem stepTask_moves (op : StepOperation) :
    Task.Moves Apart (stepTask op : Task (Session V) _) := by
  cases op with
  | begin thread kind depth location settings =>
    exact .bind (beginStep_stirs thread kind depth location settings) fun _ => .pure _
  | arrive thread request location depth settings =>
    exact .bind (handleStep_stirs thread request location depth settings) fun _ => .pure _
  | exit thread request location depth value =>
    exact .bind (handleMethodExit_moves thread request location depth value) fun _ => .pure _
  | drop thread => exact .bind (dropStep_moves thread) fun _ => .pure _
  | dropAll => exact .bind dropAllSteps_moves fun _ => .pure _
  | cancel => exact .bind (.modify Ambient.cancel) fun _ => .pure _

theorem stepTask_owned (op : StepOperation) (h : s.Owned) :
    Task.Ends (stepTask op) s fun _ s' => s'.Owned :=
  ((stepTask_ends op h.booked.sound).and ((stepTask_moves op).ends Apart.advance s)).mono
    fun _ _ ⟨takes, apart⟩ => h.takes takes apart

theorem dropStep_owned (thread : ThreadId) (h : s.Owned) :
    Task.Ends (dropStep thread) s fun _ s' => s'.Owned :=
  (Task.ends_return _ _ Owned).1 (stepTask_owned (.drop thread) h)

theorem dropAllSteps_owned (h : s.Owned) : Task.Ends dropAllSteps s fun _ s' => s'.Owned :=
  (Task.ends_return _ (fun _ => StepAnswer.done) Owned).1 (stepTask_owned .dropAll h)

/-- What is done to breakpoints and keeps their books keeps track of the requests. -/
theorem Owned.arranges {x : ExceptT ε (Task (Session V)) α} (h : s.Owned) (stirs : Stirs Plants x)
    (booked : Settles x s fun _ s' => s'.Booked []) : Settles x s fun _ s' => s'.Owned :=
  ((stirs.settles Ambient.advance s).and booked).mono fun _ _ ⟨plants, booked⟩ =>
    h.plants plants booked

theorem removeBreakpoints_owned (h : s.Owned) :
    Task.Ends removeBreakpoints s fun _ s' => s'.Owned :=
  ((removeBreakpoints_moves.ends Ambient.advance s).and (removeBreakpoints_ends h.booked)).mono
    fun _ _ ⟨plants, booked⟩ => h.plants plants booked

/-! ## Events -/

variable {thread : ThreadId}

private theorem release_calm (thread : ThreadId) : Stirs Calm (release thread : Action V _) :=
  .orFail _ (Calm.allows nofun nofun)

private theorem depthOf_calm (thread : ThreadId) :
    Task.Moves Calm (depthOf thread : Task (Session V) _) := by
  unfold depthOf
  refine .bind (Calm.allows nofun nofun) ?_
  intro r
  split <;> exact .pure _

private theorem onHit_owned (request : RequestId) (location : Location) (reason : String)
    (h : s.Owned) : Settles (onHit request thread location reason) s fun _ s' => s'.Owned := by
  unfold onHit
  rw [settles_bind, settles_get]
  dsimp only
  split
  · exact h.settles (release_calm thread)
  · rename_i installed found
    have hit : Task.Ends (hitInstalled installed) s fun _ s' => s'.Owned :=
      h.plants ⟨rfl, List.prefix_rfl, id, Nat.le_refl _, fun _ _ _ => .inl⟩
        ⟨h.booked.sound, h.booked.books.hit found⟩
    apply hit.andThen
    intro action s₁ counted
    cases action with
    | stop =>
      apply (dropStep_owned thread counted).andThen
      intro _ s₂ dropped
      apply (dropped.ends (Calm.threadHalted thread)).andThen
      intro _ s₃ halted
      exact halted.calm (.of_eq rfl rfl rfl rfl)
    | log text =>
      have told : (s₁.announce (.ofOutput "console" (text ++ "\n"))).Owned :=
        counted.calm (.of_eq rfl rfl rfl rfl)
      exact told.settles (release_calm thread)
    | «continue» => exact counted.settles (release_calm thread)

private theorem onStep_owned (request : RequestId) (location : Location) (h : s.Owned) :
    Settles (onStep request thread location) s fun _ s' => s'.Owned := by
  unfold onStep
  apply (h.ends (depthOf_calm thread)).andThen
  intro depth s₁ asked
  rw [settles_bind, settles_get]
  have handled := stepTask_owned (.arrive thread request location depth s₁.settings.stepping) asked
  refine Settles.bind ((Task.ends_return _ _ Owned).1 handled) ?_
  intro outcome s₂ handled
  cases outcome with
  | completed p =>
    apply (handled.ends (Calm.threadHalted thread)).andThen
    intro _ s₃ halted
    dsimp only
    split <;> exact halted.calm (.of_eq rfl rfl rfl rfl)
  | «continue» => exact handled.settles (release_calm thread)
  | ignored => exact handled.settles (release_calm thread)

private theorem onMethodExit_owned (request : RequestId) (location : Location) (value : Value)
    (h : s.Owned) : Settles (onMethodExit request thread location value) s fun _ s' => s'.Owned := by
  unfold onMethodExit
  apply (h.ends (depthOf_calm thread)).andThen
  intro depth s₁ asked
  have noted := stepTask_owned (.exit thread request location depth value) asked
  apply ((Task.ends_return _ _ Owned).1 noted).andThen
  intro _ s₂ noted
  exact noted.settles (release_calm thread)

private theorem onException_owned (location : Location) (exception : ObjectRef) (caught : Bool)
    (h : s.Owned) :
    Settles (onException thread location exception caught) s fun _ s' => s'.Owned := by
  unfold onException
  apply (dropStep_owned thread h).andThen
  intro _ s₁ dropped
  apply (dropped.ends (Calm.threadHalted thread)).andThen
  intro _ s₂ halted
  exact halted.calm (.of_eq rfl rfl rfl rfl)

private theorem terminate_calm (s : Session V) : Calm s (terminate s) := by
  unfold terminate
  split <;> exact .of_eq rfl rfl rfl rfl

private theorem handleEvent_owned (e : VmEvent) (h : s.Owned) :
    Settles (handleEvent e) s fun _ s' => s'.Owned := by
  cases e with
  | breakpoint request thread location =>
    exact (onHit_owned request location _ h).bind fun _ _ owned => owned
  | watchpoint request thread location =>
    exact (onHit_owned request location _ h).bind fun _ _ owned => owned
  | step request thread location =>
    exact (onStep_owned request location h).bind fun _ _ owned => owned
  | methodExit request thread location value =>
    exact (onMethodExit_owned request location value h).bind fun _ _ owned => owned
  | exception request thread location exception caught =>
    exact (onException_owned location exception caught h).bind fun _ _ owned => owned
  | threadStart thread name => exact h.calm (.of_eq rfl rfl rfl rfl)
  | threadDeath thread =>
    apply (dropStep_owned thread h).andThen
    intro _ s₁ dropped
    exact (dropped.calm (.threadResumed thread s₁)).calm (.of_eq rfl rfl rfl rfl)
  | death => exact h.calm (terminate_calm s)
  | disconnected => exact h.calm (terminate_calm s)

theorem pumpEvent_owned (e : VmEvent) (h : s.Owned) :
    Task.Ends (pumpEvent e) s fun _ s' => s'.Owned := by
  unfold pumpEvent
  refine Task.Ends.bind (handleEvent_owned e h) ?_
  intro r s₁ owned
  cases r with
  | ok isOver => exact owned
  | error failure =>
    dsimp only
    split
    · exact owned.calm (terminate_calm s₁)
    · exact owned

/-! ## Requests -/

private theorem resumeThread_owned (thread : ThreadId) (h : s.Owned) :
    Settles (resumeThread thread) s fun _ s' => s'.Owned := by
  unfold resumeThread
  apply (dropStep_owned thread h).andThen
  intro _ s₁ dropped
  rw [settles_bind, settles_modify]
  exact (dropped.calm (.threadResumed thread s₁)).settles (.orFail _ (Calm.allows nofun nofun))

private theorem step_owned (thread : ThreadId) (kind : StepKind) (h : s.Owned) :
    Settles (step thread kind) s fun _ s' => s'.Owned := by
  have stood : Settles (liftExcept (s.standing thread) : Action V _) s fun _ s' => s'.Owned :=
    (settles_liftExcept _).2 h
  unfold step
  rw [settles_bind, settles_get]
  refine stood.andThen (fun found s₁ owned => ?_) fun _ _ owned => owned
  have begun := stepTask_owned (.begin thread kind found.1 found.2 s.settings.stepping) owned
  refine Settles.bind ((Task.ends_return _ _ Owned).1 begun) ?_
  intro _ s₂ begun
  rw [settles_bind, settles_modify]
  exact (begun.calm (.threadResumed thread s₂)).settles (.orFail _ (Calm.allows nofun nofun))

private theorem pause_owned (thread : ThreadId) (h : s.Owned) :
    Settles (pause thread) s fun _ s' => s'.Owned := by
  unfold pause
  have suspended : Allows (Calm (V := V)) (.suspend thread) := Calm.allows nofun nofun
  refine (h.settles (.orFail _ suspended)).bind ?_
  intro _ s₁ asked
  apply (dropStep_owned thread asked).andThen
  intro _ s₂ dropped
  rw [settles_quietly]
  exact dropped.ends (Calm.threadHalted thread)

private theorem continueAll_owned (h : s.Owned) :
    Settles continueAll s fun _ s' => s'.Owned := by
  unfold continueAll
  apply (dropAllSteps_owned h).andThen
  intro _ s₁ dropped
  rw [settles_bind, settles_modify]
  exact (dropped.calm (.allResumed s₁)).settles (.orFail _ (Calm.allows nofun nofun))

/-- The debuggee is left to itself, or ended. -/
theorem leave_calm (terminate : Bool) : Task.Moves Calm (do
    let _ ← if terminate then dispose else tryCall .resumeAll
    modify cancel : Task (Session V) _) := by
  have ended : Allows (Calm (V := V)) .dispose := Calm.allows nofun nofun
  have resumed : Allows (Calm (V := V)) .resumeAll := Calm.allows nofun nofun
  dsimp only
  split
  · refine .bind (.bind ended fun _ => ?_) fun _ => .modify Ambient.cancel
    exact .bind (.modify Ambient.cancel) fun _ => .pure _
  · exact .bind resumed fun _ => .modify Ambient.cancel

theorem disconnect_owned (terminate : Bool) (h : s.Owned) :
    Task.Ends (disconnect terminate) s fun _ s' => s'.Owned := by
  unfold disconnect
  apply (dropAllSteps_owned h).bind
  intro _ s₁ dropped
  apply (removeBreakpoints_owned dropped).bind
  intro _ s₂ removed
  rw [Task.ends_bind, Task.ends_modify]
  exact (removed.calm (.allResumed s₂)).ends (leave_calm terminate)

/-- What is shown to the client leaves the requests alone. -/
private theorem calm_handOut (owner : ThreadId) (c : Container) (s : Session V) :
    Calm s (handOut owner c s) := .of_eq rfl rfl rfl rfl

theorem performAny_owned (r : Request) (h : s.Owned) :
    Settles (performAny r) s fun _ s' => s'.Owned := by
  cases r with
  | capabilities => exact h.settles (.adapt _ (.bind .get fun _ => .pure _))
  | attach =>
    exact Settles.answered _ _ (h.settles (probe_stirs 0 fun _ => .of_eq rfl rfl rfl rfl))
  | configurationDone => exact h.settles (.adapt _ (.pure _))
  | disconnect terminate =>
    exact Settles.answered _ _ ((settles_quietly _).2 (disconnect_owned terminate h))
  | setBreakpoints source wanted modified =>
    refine Settles.answered _ _ ((settles_return _ _ Owned).2 ?_)
    exact h.arranges (setBreakpoints_stirs _ _ _) (setBreakpoints_settles _ _ _ h.booked)
  | setExceptionBreakpoints filters =>
    exact Settles.answered _ _ (h.arranges (setExceptionBreakpoints_stirs _ _)
      (setExceptionBreakpoints_settles _ _ h.booked))
  | dataBreakpointInfo reference name =>
    exact Settles.answered _ _ (h.settles (dataBreakpointInfo_stirs reference name))
  | setDataBreakpoints wanted =>
    refine Settles.answered _ _ ((settles_return _ _ Owned).2 ?_)
    exact h.arranges (setWatchpoints_stirs _) (setWatchpoints_settles _ h.booked)
  | getBreakpoints => exact Settles.answered _ _ (h.settles (.quietly listBreakpoints_moves))
  | threads =>
    exact Settles.answered _ _ (h.settles (listThreads_stirs fun _ _ => .of_eq rfl rfl rfl rfl))
  | stackTrace thread start levels =>
    exact Settles.answered _ _ (h.shows (stackTrace_stirs thread start levels s fun _ _ _ _ _ =>
      calm_handOut ..))
  | stackFrame thread depth =>
    exact Settles.answered _ _ (h.shows (.quietly (stackFrame?_moves thread depth s fun _ _ _ _ _ =>
      calm_handOut ..)))
  | refreshStackFrames thread =>
    exact Settles.answered _ _ (h.settles (.quietly (refreshThread_moves thread)))
  | scopes frameId =>
    exact Settles.answered _ _ (h.shows (.quietly (scopes_moves frameId s fun _ _ _ _ _ _ =>
      calm_handOut ..)))
  | listVariables reference start count =>
    exact Settles.answered _ _ (h.shows (listVariables_stirs reference start count s fun _ _ _ _ _ =>
      calm_handOut ..))
  | setVariable reference name value =>
    exact Settles.answered _ _ (h.shows (setVariable_stirs reference name value s fun _ _ _ _ _ =>
      calm_handOut ..))
  | evaluate expression frameId =>
    have evaluated : Settles (Session.evaluate expression frameId) s fun _ s' => s'.Owned :=
      h.shows (evaluation_stirs expression frameId s fun _ _ _ _ _ _ => calm_handOut ..)
    exact (settles_return _ _ Owned).2 evaluated
  | exceptionInfo thread => exact Settles.answered _ _ (h.settles (exceptionInfo_stirs thread))
  | continueThread thread => exact Settles.answered _ _ (resumeThread_owned thread h)
  | continueAll => exact Settles.answered _ _ (continueAll_owned h)
  | step thread kind => exact Settles.answered _ _ (step_owned thread kind h)
  | pause thread => exact Settles.answered _ _ (pause_owned thread h)

theorem respond_owned (m : Protocol.RequestMessage) (h : s.Owned) :
    Task.Ends (respond m) s fun _ s' => s'.Owned :=
  respond_of_performAny m h fun r _ => performAny_owned r h

/-! ## Runs -/

/-- Whatever happens to a session, while nobody else creates or deletes requests. -/
theorem Owned.after (h : s.Owned) (i : Input V)
    (alone : ∀ v, i = .debuggee v → SameRequests s.machine v) : (s.after i).Owned := by
  cases i with
  | event e => exact pumpEvent_owned e h
  | message m => exact respond_owned m h
  | leave => exact disconnect_owned false h
  | debuggee v => exact h.calm ⟨rfl, rfl, List.prefix_rfl, alone v rfl⟩
  | settings x => exact after_settings x h fun _ _ => h.calm (.of_eq rfl rfl rfl rfl)
  | time time => exact h.calm (.of_eq rfl rfl rfl rfl)
  | deliver => exact h.calm (.of_eq rfl rfl rfl rfl)

/-- A session to which things have happened, while nobody else created or deleted requests on its
debuggee. -/
inductive Alone (s : Session V) : Session V → Prop
  | refl : Alone s s
  | step {s' : Session V} (before : Alone s s') (i : Input V)
      (same : ∀ v, i = .debuggee v → SameRequests s'.machine v) : Alone s (s'.after i)

theorem Alone.foldl (run : Alone s s') (is : List (Input V))
    (own : ∀ i ∈ is, ∀ v, i ≠ .debuggee v) : Alone s (is.foldl Session.after s') := by
  induction is generalizing s' with
  | nil => exact run
  | cons i rest ih =>
    have first : Alone s (s'.after i) :=
      run.step i fun v change => absurd change (own i List.mem_cons_self v)
    exact ih first fun j mem => own j (List.mem_cons_of_mem i mem)

theorem Alone.owned (run : Alone s s') (h : s.Owned) : s'.Owned := by
  induction run with
  | refl => exact h
  | step _ i same ih => exact ih.after i same

end DebugSession.Session
