import DebugSession.Proofs.Handing
import DebugSession.Proofs.Installing
import DebugSession.Server.Handler
import DebugSession.Server.Pump
/-!
What answering a request, or dealing with an event, does to a session as far as its calls go, the
events it has queued, the line of those who want something, whether it is over, what it was given
for its surroundings, and its settings with what is chosen by them. All that is done is made of
calls and of changes to other parts of the session, unless the client asks to disconnect or to
attach, or is told something.
-/

namespace DebugSession

variable {V α : Type} [Machine V] {R : Session V → Session V → Prop}

/-- The parts of a session that are heeded here. -/
def Session.heeded (s : Session V) :=
  ((s.calls, s.pending, s.cancelled, s.line, s.providers),
    (s.settings, s.listeners, s.latency, s.callMode, s.threads))

/-- A relation that allows every call, every change to what it does not heed, and threads to come
and go. -/
class Heeds (R : Session V → Session V → Prop) : Prop extends Composes R where
  call : ∀ c, Allows R c
  aside : ∀ {s s' : Session V}, s'.heeded = s.heeded → R s s'
  started : ∀ (s : Session V) thread name,
    R s { s with threads := s.threads.started thread name }
  died : ∀ (s : Session V) thread, R s { s with threads := s.threads.died thread }

/-- Whether an event says that the debuggee has ended. -/
def Protocol.Event.isEnd : Protocol.Event → Bool
  | .exited _ | .terminated => true
  | _ => false

/-- A relation that allows as well all to be told that is not an end. -/
class Announces (R : Session V → Session V → Prop) : Prop extends Heeds R where
  announce : ∀ {e : Protocol.Event}, e.isEnd = false → ∀ s, R s (Session.announce s e)

variable [Heeds R]

instance : Assigns R where
  query c _ := Heeds.call c
  snapshot _ _ _ := Heeds.aside rfl
  cell _ _ _ := Heeds.aside rfl
  invoke _ _ _ _ := Heeds.call _
  openFrame _ _ _ := Heeds.aside rfl
  setLocal _ _ _ := Heeds.call _
  setField _ _ _ := Heeds.call _
  evaluations _ _ _ := Heeds.aside rfl

instance : Relines R where
  loaded _ := Heeds.call _
  create _ := Heeds.call _
  delete _ := Heeds.call _
  beside _ _ _ := Heeds.aside rfl
  breakpoints _ _ _ := Heeds.aside rfl
  steps _ _ := Heeds.aside rfl
  tokens _ _ := Heeds.aside rfl

/-- Whether a request has to do with what one at a time can have. -/
def Request.standsInLine : Request → Bool
  | .setBreakpoints _ _ _ | .setExceptionBreakpoints _ | .setDataBreakpoints _
  | .getBreakpoints | .disconnect _ => true
  | _ => false

namespace Session

/-! ## Halts -/

theorem threadResumed_changes (thread : ThreadId) (s : Session V) :
    R s (threadResumed thread s) := by
  simp only [threadResumed]
  split <;> exact Heeds.aside rfl

theorem allResumed_changes (s : Session V) : R s (allResumed s) := by
  have revoked : ∀ (tokens : List Nat) (s : Session V), R s (tokens.foldl revoke s) := by
    intro tokens
    induction tokens with
    | nil => exact Composes.refl
    | cons token rest ih =>
      intro s
      have first : R s (s.revoke token) := Heeds.aside rfl
      exact Composes.trans first (ih _)
  simp only [allResumed]
  refine Composes.trans ?_ (revoked _ _)
  exact Heeds.aside rfl

private theorem resume_stirs (c : Call) (wrap : RemoteError → SessionError) :
    Stirs R ((call c).orFail wrap : Action V _) := .orFail _ (Heeds.call c)

private theorem continueAll_stirs : Stirs R (continueAll : Action V _) :=
  .bind (.quietly dropAllSteps_moves) fun _ => .bind (.modify allResumed_changes) fun _ =>
    resume_stirs _ _

private theorem resumeThread_stirs (thread : ThreadId) :
    Stirs R (resumeThread thread : Action V _) :=
  .bind (.quietly (dropStep_moves thread)) fun _ =>
    .bind (.modify (threadResumed_changes thread)) fun _ => resume_stirs _ _

private theorem step_stirs (thread : ThreadId) (kind : StepKind) :
    Stirs R (step thread kind : Action V _) := by
  refine .bind .get fun s => .bind (.liftExcept _) ?_
  rintro ⟨depth, location⟩
  exact .bind (beginStep_stirs thread kind depth location _) fun _ =>
    .bind (.modify (threadResumed_changes thread)) fun _ => resume_stirs _ _

private theorem pause_stirs (thread : ThreadId) : Stirs R (pause thread : Action V _) :=
  .bind (resume_stirs _ _) fun _ => .bind (.quietly (dropStep_moves thread)) fun _ =>
    .quietly (threadHalted_moves thread (fun _ _ => Heeds.aside rfl)
      fun _ _ => Heeds.aside rfl)

/-! ## Requests -/

private theorem asResult_stirs {x : Action V α} (f : α → Result) (h : Stirs R x) :
    Stirs R (ExceptT.adapt Failure.error (do return f (← x))) :=
  (h.bind fun _ => .pure _).adapt _

private theorem handOut_changes (owner : ThreadId) (c : Container) (s : Session V) :
    R s (handOut owner c s) :=
  Heeds.aside rfl

private theorem found_changes (found : List ThreadInfo) (s : Session V) :
    R s { s with threads := found.foldl (fun c t => c.started t.id t.name) s.threads } := by
  induction found generalizing s with
  | nil => exact Composes.refl s
  | cons t rest ih => exact Composes.trans (Heeds.started s t.id t.name) (ih _)

theorem performAny_stirs (r : Request) (stays : ∀ terminate, r ≠ .disconnect terminate)
    (enlists : r.standsInLine = true → Enlists R)
    (measures : r = .attach → ∀ s : Session V, R s (s.recordLatency 0)) :
    Stirs R (performAny r : Attempt V _) := by
  cases r with
  | capabilities => exact .adapt _ (.bind .get fun _ => .pure _)
  | attach =>
    exact asResult_stirs _ (probe_stirs 0 (measures rfl))
  | configurationDone => exact .adapt _ (.pure _)
  | disconnect terminate => exact absurd rfl (stays terminate)
  | setBreakpoints source wanted modified =>
    have := enlists rfl
    exact asResult_stirs _ (.bind (setBreakpoints_stirs _ _ _) fun _ => .pure _)
  | setExceptionBreakpoints filters =>
    have := enlists rfl
    exact asResult_stirs _ (setExceptionBreakpoints_stirs _ _)
  | dataBreakpointInfo reference name => exact asResult_stirs _ (dataBreakpointInfo_stirs _ _)
  | setDataBreakpoints wanted =>
    have := enlists rfl
    exact asResult_stirs _ (.bind (setWatchpoints_stirs _) fun _ => .pure _)
  | getBreakpoints =>
    have := enlists rfl
    exact asResult_stirs _ (.quietly listBreakpoints_moves)
  | threads =>
    exact asResult_stirs _ (listThreads_stirs found_changes)
  | stackTrace thread start levels =>
    exact asResult_stirs _ ⟨fun s => stackTrace_stirs thread start levels s
      fun _ _ _ _ _ => handOut_changes _ _ _⟩
  | stackFrame thread depth =>
    exact asResult_stirs _ (.quietly ⟨fun s => stackFrame?_moves thread depth s
      fun _ _ _ _ _ => handOut_changes _ _ _⟩)
  | refreshStackFrames thread => exact asResult_stirs _ (.quietly (refreshThread_moves thread))
  | scopes frameId =>
    exact asResult_stirs _ (.quietly ⟨fun s => scopes_moves frameId s
      fun _ _ _ _ _ _ => handOut_changes _ _ _⟩)
  | listVariables reference start count =>
    exact asResult_stirs _ ⟨fun s => listVariables_stirs reference start count s
      fun _ _ _ _ _ => handOut_changes _ _ _⟩
  | setVariable reference name value =>
    exact asResult_stirs _ ⟨fun s => setVariable_stirs reference name value s
      fun _ _ _ _ _ => handOut_changes _ _ _⟩
  | evaluate expression frameId =>
    have evaluated : Stirs R (Session.evaluate expression frameId : Attempt V _) :=
      ⟨fun s => evaluation_stirs expression frameId s fun _ _ _ _ _ _ => handOut_changes _ _ _⟩
    exact evaluated.bind fun _ => .pure _
  | exceptionInfo thread => exact asResult_stirs _ (exceptionInfo_stirs thread)
  | continueThread thread => exact asResult_stirs _ (resumeThread_stirs thread)
  | continueAll => exact asResult_stirs _ continueAll_stirs
  | step thread kind => exact asResult_stirs _ (step_stirs thread kind)
  | pause thread => exact asResult_stirs _ (pause_stirs thread)

theorem respond_moves [Enlists R] (m : Protocol.RequestMessage)
    (stays : ∀ terminate, Request.ofMessage m ≠ .ok (.disconnect terminate))
    (measures : Request.ofMessage m = .ok .attach → ∀ s : Session V, R s (s.recordLatency 0)) :
    Task.Moves R (respond m : Task (Session V) _) := by
  have handled : Stirs R (handle m : Attempt V _) := by
    simp only [handle]
    cases known : Request.ofMessage m with
    | error e => exact Task.Moves.pure _
    | ok r =>
      exact performAny_stirs r (fun terminate same => stays terminate (same ▸ known))
        (fun _ => inferInstance) fun same => measures (same ▸ known)
  exact Task.Moves.bind handled fun _ => .pure _

/-! ## Events -/

section

variable {R : Session V → Session V → Prop} [Announces R]

private theorem release_stirs (thread : ThreadId) : Stirs R (release thread : Action V _) :=
  .orFail _ (Heeds.call _)

private theorem depthOf_moves (thread : ThreadId) :
    Task.Moves R (depthOf thread : Task (Session V) _) := by
  refine .bind (Heeds.call _) ?_
  intro r
  cases r <;> exact .pure _

private theorem halt_moves (thread : ThreadId) :
    Task.Moves R (threadHalted thread : Task (Session V) _) :=
  threadHalted_moves thread (fun _ _ => Heeds.aside rfl)
    fun _ _ => Heeds.aside rfl

theorem announce_stirs {e : Protocol.Event} (h : e.isEnd = false) :
    Stirs R (modify fun s => s.announce e : Action V PUnit) :=
  .modify (Announces.announce h)

theorem onHit_stirs (request : RequestId) (thread : ThreadId) (location : Location)
    (reason : String) : Stirs R (onHit request thread location reason : Action V _) := by
  simp only [onHit]
  refine .bind .get ?_
  intro s
  split
  · exact release_stirs thread
  · refine .bind (.quietly (.modifyGet fun _ => Heeds.aside rfl)) ?_
    intro action
    cases action with
    | stop =>
      exact .bind (.quietly (dropStep_moves thread)) fun _ =>
        .bind (.quietly (halt_moves thread)) fun _ => announce_stirs rfl
    | log text => exact .bind (announce_stirs rfl) fun _ => release_stirs thread
    | «continue» => exact release_stirs thread

theorem onStep_stirs (request : RequestId) (thread : ThreadId) (location : Location) :
    Stirs R (onStep request thread location : Action V _) := by
  refine .bind (.quietly (depthOf_moves thread)) fun depth => .bind .get fun s => ?_
  refine .bind (handleStep_stirs thread request location depth s.settings.stepping) ?_
  intro outcome
  cases outcome with
  | completed p =>
    refine .bind (.quietly (halt_moves thread)) fun _ => ?_
    dsimp only
    split
    · exact .bind (.modify fun _ => Heeds.aside rfl) fun _ => announce_stirs rfl
    · exact announce_stirs rfl
  | «continue» => exact release_stirs thread
  | ignored => exact release_stirs thread

theorem onMethodExit_stirs (request : RequestId) (thread : ThreadId) (location : Location)
    (value : Value) : Stirs R (onMethodExit request thread location value : Action V _) :=
  .bind (.quietly (depthOf_moves thread)) fun depth =>
    .bind (.quietly (handleMethodExit_moves thread request location depth value)) fun _ =>
      release_stirs thread

theorem onException_stirs (thread : ThreadId) (location : Location) (exception : ObjectRef)
    (caught : Bool) : Stirs R (onException thread location exception caught : Action V _) :=
  .bind (.quietly (dropStep_moves thread)) fun _ =>
    .bind (.quietly (halt_moves thread)) fun _ =>
      .bind (.modify fun _ => Heeds.aside rfl) fun _ => announce_stirs rfl

theorem onThreadStart_stirs (thread : ThreadId) (name : String) : Stirs R (do
    modify fun s => { s with threads := s.threads.started thread name }
    modify fun s => s.announce (.ofThread "started" (Int64.ofNat thread)) : Action V PUnit) :=
  .bind (.modify fun s => Heeds.started s _ _) fun _ => announce_stirs rfl

theorem handleEvent_threadDeath (thread : ThreadId) :
    handleEvent (.threadDeath thread) = (do
      (do
        let _ ← quietly (dropStep thread)
        modify (threadResumed thread)
        modify fun s => { s with threads := s.threads.died thread }
        modify fun s => s.announce (.ofThread "exited" (Int64.ofNat thread)))
      return false : Action V Bool) := by
  simp only [handleEvent, bind_assoc]

theorem onThreadDeath_stirs (thread : ThreadId) : Stirs R (do
    let _ ← quietly (dropStep thread)
    modify (threadResumed thread)
    modify fun s => { s with threads := s.threads.died thread }
    modify fun s => s.announce (.ofThread "exited" (Int64.ofNat thread)) : Action V PUnit) :=
  .bind (.quietly (dropStep_moves thread)) fun _ =>
    .bind (.modify (threadResumed_changes thread)) fun _ =>
      .bind (.modify fun s => Heeds.died s _) fun _ => announce_stirs rfl

theorem handleEvent_stirs (e : VmEvent) (ends : ∀ s, R s (terminate s)) :
    Stirs R (handleEvent e : Action V _) := by
  cases e with
  | breakpoint request thread location => exact .bind (onHit_stirs _ _ _ _) fun _ => .pure _
  | watchpoint request thread location => exact .bind (onHit_stirs _ _ _ _) fun _ => .pure _
  | step request thread location => exact .bind (onStep_stirs _ _ _) fun _ => .pure _
  | methodExit request thread location value =>
    exact .bind (onMethodExit_stirs _ _ _ _) fun _ => .pure _
  | exception request thread location exception caught =>
    exact .bind (onException_stirs _ _ _ _) fun _ => .pure _
  | threadStart thread name =>
    have same : handleEvent (.threadStart thread name) = (do
        (do
          modify fun s => { s with threads := s.threads.started thread name }
          modify fun s => s.announce (.ofThread "started" (Int64.ofNat thread)))
        return false : Action V Bool) := by
      simp only [handleEvent, bind_assoc]
    rw [same]
    exact .bind (onThreadStart_stirs thread name) fun _ => .pure _
  | threadDeath thread =>
    rw [handleEvent_threadDeath]
    exact .bind (onThreadDeath_stirs thread) fun _ => .pure _
  | death => exact .bind (.modify ends) fun _ => .pure _
  | disconnected => exact .bind (.modify ends) fun _ => .pure _

theorem pumpEvent_moves (e : VmEvent) (ends : ∀ s, R s (terminate s)) :
    Task.Moves R (pumpEvent e : Task (Session V) _) := by
  unfold pumpEvent
  refine Task.Moves.bind (handleEvent_stirs e ends) fun r => ?_
  cases r with
  | ok isOver => exact .pure _
  | error failure =>
    dsimp only
    split
    · exact .bind (.modify ends) fun _ => .pure _
    · exact .pure _

end

theorem awaitEvent_stirs : Stirs R (awaitEvent : Remote V _) := by
  refine .bind (.quietly (.modifyGet fun _ => Heeds.aside rfl)) fun failure => ?_
  cases failure with
  | none => exact .pure _
  | some e => exact .throw _

theorem takeEvent_moves : Task.Moves R (takeEvent : Task (Session V) _) := by
  refine .modifyGet fun s => ?_
  split <;> exact Heeds.aside rfl

theorem nextEvent_stirs [Enlists R] : Stirs R (nextEvent : Remote V _) := by
  have left : ∀ n, Task.Moves R (leaveLine n : Task (Session V) _) :=
    fun n => .modify fun s => Enlists.line s _
  simp only [nextEvent]
  refine .bind .get fun s => ?_
  split
  · exact .pure _
  · refine .bind awaitEvent_stirs fun _ =>
      .bind (.quietly (.modifyGet fun s => Enlists.line s _)) fun n => ?_
    refine .bind (.quietly (.await _ Enlists.line)) fun _ => .bind (.quietly (left n)) fun _ =>
      .bind .get fun s => ?_
    split
    · exact .pure _
    · exact .quietly takeEvent_moves

/-! ## The end -/

theorem disconnect_moves [Enlists R] [Ambient R] (terminate : Bool) :
    Task.Moves R (disconnect terminate : Task (Session V) _) := by
  unfold disconnect
  refine .bind dropAllSteps_moves fun _ => .bind removeBreakpoints_moves fun _ => ?_
  refine .bind (.modify allResumed_changes) fun _ => ?_
  dsimp only
  split
  · refine .bind (.bind (Heeds.call _) fun _ => ?_) fun _ => .modify Ambient.cancel
    exact .bind (.modify Ambient.cancel) fun _ => .pure _
  · exact .bind (Heeds.call _) fun _ => .modify Ambient.cancel

end Session
end DebugSession
