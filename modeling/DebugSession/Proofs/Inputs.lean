import DebugSession.Proofs.Inquiries
import DebugSession.Server.Pump
/-!
All that can happen to a session, and what each thing does to the recorded halts, the handles and
the threads that are let run.
-/

namespace DebugSession

variable {V α ε : Type}

/-- Something that happens to a session. The debuggee may change in any way on its own. -/
inductive Input (V : Type) where
  | event (e : VmEvent)
  | message (m : Protocol.RequestMessage)
  /-- The client is gone. -/
  | leave
  | debuggee (v : V)
  | settings (x : Settings)
  | time (time : Nat)
  /-- Queued events are sent. -/
  | deliver

/-- Whether a request leaves the halt of a thread alone. -/
def Request.Spares (thread : ThreadId) : Request → Prop
  | .continueThread other | .step other _ | .pause other => other ≠ thread
  | .continueAll | .disconnect _ => False
  | _ => True

/-- Whether an event is the first one of its thread. -/
def VmEvent.starts : VmEvent → Bool
  | .threadStart _ _ => true
  | _ => false

theorem VmEvent.concerns {e : VmEvent} {thread : ThreadId} (about : e.thread? = some thread)
    (later : e.starts = false) : ¬ (e.thread? = some thread → e.starts = true) := by
  intro first
  have starts := first about
  rw [later] at starts
  cases starts

namespace Input

/-- Whether the thread can neither be resumed, nor halt again, nor be reported to have ended. -/
def Spares (thread : ThreadId) : Input V → Prop
  | event e => e.thread? = some thread → e.starts
  | message m => ∀ r, Request.ofMessage m = .ok r → r.Spares thread
  | leave => False
  | _ => True

/-- Whether the debuggee has something to report. -/
def IsEvent : Input V → Prop
  | event _ => True
  | _ => False

end Input

namespace Session

/-! ## Changes -/

/-- A new halt of a thread is recorded. -/
def Halts (thread : ThreadId) (s s' : Session V) : Prop :=
  ∃ p s₁, p.thread = thread ∧ s.suspensions < p.version ∧ p.version ≤ s₁.suspensions ∧
    Quiet s s₁ ∧ Quiet (recordHalt p s₁) s'

/-- The halt of a thread is forgotten; then such calls are made as satisfy `P`. -/
def Resumes (thread : ThreadId) (P : Call → Prop) (s s' : Session V) : Prop :=
  ∃ s₁, Quiet s s₁ ∧ Keeps Eq P (threadResumed thread s₁) s'

/-- All halts are forgotten; then such calls are made as satisfy `P`. -/
def ResumesAll (P : Call → Prop) (s s' : Session V) : Prop :=
  ∃ s₁, Quiet s s₁ ∧ Keeps Eq P (allResumed s₁) s'

/-- What may become of a session through a report of the debuggee (`Reported`) or otherwise; the
threads that `Spared` holds of keep their halts. Only after a report is a thread let run whose halt
may be recorded. -/
inductive Change (Reported : Prop) (Spared : ThreadId → Prop) (s s' : Session V) : Prop
  | shows (thread : ThreadId) (halted : (s.stopped.get? thread).isSome = true)
    (h : Shown thread s s')
  | passes (h : Keeps Eq (fun _ => Reported) s s')
  | halts (thread : ThreadId) (concerned : ¬ Spared thread) (h : Halts thread s s')
  | resumes (thread : ThreadId) (concerned : ¬ Spared thread)
    (h : Resumes thread (fun c => ¬ Reported ∧ c = .resume thread) s s')
  | resumesAll (concerned : ∀ thread, ¬ Spared thread) (h : ResumesAll (fun _ => ¬ Reported) s s')

namespace Change

variable {Reported : Prop} {Spared : ThreadId → Prop} {s s₁ s' : Session V}

theorem quiet (h : Quiet s s') : Change Reported Spared s s' := .passes h.keeps

/-- More happens, but nothing that matters. -/
theorem before (h : Change Reported Spared s s₁) (h' : Quiet s₁ s') :
    Change Reported Spared s s' := by
  cases h with
  | shows thread halted h => exact .shows thread halted (Composes.trans h h'.keeps)
  | passes h => exact .passes (Composes.trans h h'.keeps)
  | halts thread concerned h =>
    obtain ⟨p, s₂, own, new, known, first, last⟩ := h
    exact .halts thread concerned ⟨p, s₂, own, new, known, first, Composes.trans last h'⟩
  | resumes thread concerned h =>
    obtain ⟨s₂, first, last⟩ := h
    exact .resumes thread concerned ⟨s₂, first, Composes.trans last h'.keeps⟩
  | resumesAll concerned h =>
    obtain ⟨s₂, first, last⟩ := h
    exact .resumesAll concerned ⟨s₂, first, Composes.trans last h'.keeps⟩

theorem after (h : Quiet s s₁) (h' : Change Reported Spared s₁ s') :
    Change Reported Spared s s' := by
  cases h' with
  | shows thread halted h' => exact .shows thread (h.stopped ▸ halted) (Composes.trans h.keeps h')
  | passes h' => exact .passes (Composes.trans h.keeps h')
  | halts thread concerned h' =>
    obtain ⟨p, s₂, own, new, known, first, last⟩ := h'
    have newer := Nat.lt_of_le_of_lt h.suspensions new
    exact .halts thread concerned ⟨p, s₂, own, newer, known, Composes.trans h first, last⟩
  | resumes thread concerned h' =>
    obtain ⟨s₂, first, last⟩ := h'
    exact .resumes thread concerned ⟨s₂, Composes.trans h first, last⟩
  | resumesAll concerned h' =>
    obtain ⟨s₂, first, last⟩ := h'
    exact .resumesAll concerned ⟨s₂, Composes.trans h first, last⟩

/-- Fewer threads may be said to keep their halts. -/
theorem weaken {Spared' : ThreadId → Prop} (h : Change Reported Spared s s')
    (fewer : ∀ thread, Spared' thread → Spared thread) : Change Reported Spared' s s' := by
  cases h with
  | shows thread halted h => exact .shows thread halted h
  | passes h => exact .passes h
  | halts thread concerned h => exact .halts thread (fun h' => concerned (fewer _ h')) h
  | resumes thread concerned h => exact .resumes thread (fun h' => concerned (fewer _ h')) h
  | resumesAll concerned h => exact .resumesAll (fun t h' => concerned t (fewer _ h')) h

end Change

/-! ## Halts -/

variable [Machine V]

theorem threadHalted_ends (thread : ThreadId) (s : Session V) :
    Task.Ends (threadHalted thread) s fun _ s' => Halts thread s s' := by
  have captured : Task.Ends (capture thread) s fun p s' => p.thread = thread ∧
      s.suspensions < p.version ∧ p.version ≤ s'.suspensions ∧ Quiet s s' := by
    unfold capture
    rw [Task.ends_bind, Task.ends_modifyGet]
    have counted : Quiet s { s with suspensions := s.suspensions + 1 } :=
      .of_le rfl rfl rfl (Nat.le_succ _)
    refine .bind (keeps_ends (queryFrames_moves thread) _) fun found s' (asked : Quiet _ s') => ?_
    have known : s.suspensions + 1 ≤ s'.suspensions := asked.suspensions
    have quiet := Composes.trans counted asked
    cases found with
    | none => exact ⟨rfl, Nat.lt_succ_self _, known, quiet⟩
    | some frames =>
      have kept : Quiet s'
          { s' with snapshots := s'.snapshots.insert (s.suspensions + 1) frames } :=
        .of_eq rfl rfl rfl rfl
      exact ⟨rfl, Nat.lt_succ_self _, known, Composes.trans quiet kept⟩
  unfold threadHalted
  refine .bind captured ?_
  intro p s' h
  obtain ⟨own, new, known, quiet⟩ := h
  exact ⟨p, s', own, new, known, quiet, Composes.refl _⟩

theorem dropStep_ends (thread : ThreadId) (s : Session V) :
    Task.Ends (dropStep thread) s fun _ s' => Quiet s s' :=
  keeps_ends (dropStep_moves thread) s

/-! ## Events -/

section

variable {Spared : ThreadId → Prop} {thread : ThreadId} {s : Session V}

private theorem release_settles (thread : ThreadId) (s : Session V) :
    Settles (release thread) s fun _ s' => Change True Spared s s' := by
  have moves : Stirs (Keeps Eq fun _ => True) (release thread : Action V _) :=
    .orFail _ (Keeps.allows fun _ => trivial)
  exact (keeps_settles moves s).mono fun _ _ h => .passes h

private theorem depthOf_ends (thread : ThreadId) (s : Session V) :
    Task.Ends (depthOf thread) s fun _ s' => Quiet s s' := by
  have moves : Task.Moves Quiet (depthOf thread : Task (Session V) _) := by
    unfold depthOf
    refine .bind (Browses.query _ rfl) ?_
    intro r
    split <;> exact .pure _
  exact keeps_ends moves s

private theorem onHit_settles (concerned : ¬ Spared thread) (request : RequestId)
    (location : Location) (reason : String) (s : Session V) :
    Settles (onHit request thread location reason) s fun _ s' => Change True Spared s s' := by
  unfold onHit
  rw [settles_bind, settles_get]
  dsimp only
  split
  · exact release_settles thread s
  · rename_i installed _
    have hit : Task.Ends (hitInstalled installed) s fun _ s' => Quiet s s' :=
      .of_eq rfl rfl rfl rfl
    apply hit.andThen
    intro action s₁ counted
    cases action with
    | stop =>
      apply (dropStep_ends thread s₁).andThen
      intro _ s₂ dropped
      apply (threadHalted_ends thread s₂).andThen
      intro _ s₃ halts
      have quiet := Composes.trans counted dropped
      exact .after quiet (.before (.halts thread concerned halts) (.of_eq rfl rfl rfl rfl))
    | log text =>
      rw [settles_bind, settles_modify]
      have told : Quiet s₁ (s₁.announce (.ofOutput "console" (text ++ "\n"))) :=
        .of_eq rfl rfl rfl rfl
      exact (release_settles thread _).mono fun _ _ h => .after (Composes.trans counted told) h
    | «continue» => exact (release_settles thread s₁).mono fun _ _ h => .after counted h

private theorem onStep_settles (concerned : ¬ Spared thread) (request : RequestId)
    (location : Location) (s : Session V) :
    Settles (onStep request thread location) s fun _ s' => Change True Spared s s' := by
  unfold onStep
  apply (depthOf_ends thread s).andThen
  intro depth s₁ asked
  rw [settles_bind, settles_get]
  have handled : Settles (handleStep thread request location depth s₁.settings.stepping) s₁
      fun _ s' => Quiet s₁ s' := keeps_settles (handleStep_stirs _ _ _ _ _) s₁
  refine handled.andThen (fun outcome s₂ more => ?_) fun e s₂ more =>
    .quiet (Composes.trans asked more)
  have quiet := Composes.trans asked more
  cases outcome with
  | completed p =>
    apply (threadHalted_ends thread s₂).andThen
    intro _ s₃ halts
    refine .after quiet (.before (.halts thread concerned halts) ?_)
    dsimp only
    split <;> exact .of_eq rfl rfl rfl rfl
  | «continue» => exact (release_settles thread s₂).mono fun _ _ h => .after quiet h
  | ignored => exact (release_settles thread s₂).mono fun _ _ h => .after quiet h

private theorem onMethodExit_settles (request : RequestId) (thread : ThreadId)
    (location : Location) (value : Value) (s : Session V) :
    Settles (onMethodExit request thread location value) s fun _ s' =>
      Change True Spared s s' := by
  unfold onMethodExit
  apply (depthOf_ends thread s).andThen
  intro depth s₁ asked
  have handled : Task.Ends (handleMethodExit thread request location depth value) s₁
      fun _ s' => Quiet s₁ s' := keeps_ends (handleMethodExit_moves _ _ _ _ _) s₁
  apply handled.andThen
  intro _ s₂ more
  exact (release_settles thread s₂).mono fun _ _ h => .after (Composes.trans asked more) h

/-- The exception is noted too. -/
private theorem onException_settles (concerned : ¬ Spared thread) (location : Location)
    (exception : ObjectRef) (caught : Bool) (s : Session V) :
    Settles (onException thread location exception caught) s fun _ s' =>
      Change True Spared s s' := by
  unfold onException
  apply (dropStep_ends thread s).andThen
  intro _ s₁ dropped
  apply (threadHalted_ends thread s₁).andThen
  intro _ s₂ halts
  exact .after dropped (.before (.halts thread concerned halts) (.of_eq rfl rfl rfl rfl))

omit [Machine V] in
private theorem terminate_quiet (s : Session V) : Quiet s (terminate s) := by
  unfold terminate
  split <;> exact .of_eq rfl rfl rfl rfl

theorem handleEvent_settles (e : VmEvent) (s : Session V) :
    Settles (handleEvent e) s fun _ s' =>
      Change True (fun t => e.thread? = some t → e.starts) s s' := by
  cases e with
  | breakpoint request thread location =>
    exact (onHit_settles (VmEvent.concerns rfl rfl) request location _ s).andThen
      (fun _ _ h => h) fun _ _ h => h
  | watchpoint request thread location =>
    exact (onHit_settles (VmEvent.concerns rfl rfl) request location _ s).andThen
      (fun _ _ h => h) fun _ _ h => h
  | step request thread location =>
    exact (onStep_settles (VmEvent.concerns rfl rfl) request location s).andThen
      (fun _ _ h => h) fun _ _ h => h
  | methodExit request thread location value =>
    exact (onMethodExit_settles request thread location value s).andThen
      (fun _ _ h => h) fun _ _ h => h
  | exception request thread location exception caught =>
    exact (onException_settles (VmEvent.concerns rfl rfl) location exception caught s).andThen
      (fun _ _ h => h) fun _ _ h => h
  | threadStart thread name => exact .quiet (.of_eq rfl rfl rfl rfl)
  | threadDeath thread =>
    simp only [handleEvent, settles_bind, settles_quietly, settles_modify, settles_pure]
    apply (dropStep_ends thread s).mono
    intro _ s₁ dropped
    exact .resumes thread (VmEvent.concerns rfl rfl) ⟨s₁, dropped, .of_eq rfl rfl rfl rfl⟩
  | death => exact .quiet (terminate_quiet s)
  | disconnected => exact .quiet (terminate_quiet s)

theorem pumpEvent_ends (e : VmEvent) (s : Session V) :
    Task.Ends (pumpEvent e) s fun _ s' =>
      Change True (fun t => e.thread? = some t → e.starts) s s' := by
  unfold pumpEvent
  rw [Task.ends_bind]
  apply Task.Ends.mono (handleEvent_settles e s)
  intro r s₁ change
  cases r with
  | ok isOver => exact change
  | error failure =>
    dsimp only
    split
    · exact change.before (terminate_quiet s₁)
    · exact change

end

/-! ## Requests -/

section

variable {s : Session V}

omit [Machine V] in
/-- What a change of breakpoints and steps comes to. -/
private theorem quiet_settles {Spared : ThreadId → Prop} {x : ExceptT ε (Task (Session V)) α}
    (h : Stirs Quiet x) : Settles x s fun _ s' => Change False Spared s s' :=
  (keeps_settles h s).mono fun _ _ quiet => .quiet quiet

omit [Machine V] in
theorem Answers.change {Spared : ThreadId → Prop} {thread : Option ThreadId} {ns : List Int64}
    {s s' : Session V} (h : Answers thread ns s s') : Change False Spared s s' := by
  rcases h with ⟨thread, -, halted, presents⟩ | ⟨-, quiet⟩
  · exact .shows thread halted presents.shown
  · exact .quiet quiet

private theorem inquiry_settles (tidy : s.Tidy) {Spared : ThreadId → Prop} (q : Inquiry) :
    Settles (performAny q.request) s fun _ s' => Change False Spared s s' :=
  (settles_performAny_inquiry q s _).2 ((references_settles tidy q).mono fun _ _ h => h.change)

private theorem resumeThread_settles {Spared : ThreadId → Prop} {thread : ThreadId}
    (concerned : ¬ Spared thread) :
    Settles (resumeThread thread) s fun _ s' => Change False Spared s s' := by
  unfold resumeThread
  apply (dropStep_ends thread s).andThen
  intro _ s₁ dropped
  rw [settles_bind, settles_modify]
  have moves : Stirs (Keeps Eq fun c => ¬ False ∧ c = .resume thread)
      ((call (.resume thread)).orFail .remote : Action V _) :=
    .orFail _ (Keeps.allows fun _ => ⟨id, rfl⟩)
  exact (keeps_settles moves _).mono fun _ _ h => .resumes thread concerned ⟨s₁, dropped, h⟩

private theorem step_settles {Spared : ThreadId → Prop} {thread : ThreadId}
    (concerned : ¬ Spared thread) (kind : StepKind) :
    Settles (step thread kind) s fun _ s' => Change False Spared s s' := by
  have stood : Settles (liftExcept (s.standing thread) : Action V _) s
      fun _ s' => Quiet s s' := (settles_liftExcept _).2 (Composes.refl s)
  unfold step
  rw [settles_bind, settles_get]
  refine stood.andThen (fun found s₁ quiet => ?_) fun _ s₁ quiet => .quiet quiet
  have begun : Settles (beginStep thread kind found.1 found.2 s.settings.stepping) s₁
      fun _ s' => Quiet s₁ s' := keeps_settles (beginStep_stirs _ _ _ _ _) s₁
  refine begun.andThen (fun _ s₂ more => ?_) fun _ s₂ more => .quiet (Composes.trans quiet more)
  rw [settles_bind, settles_modify]
  have moves : Stirs (Keeps Eq fun c => ¬ False ∧ c = .resume thread)
      ((call (.resume thread)).orFail (stepFailed thread) : Action V _) :=
    .orFail _ (Keeps.allows fun _ => ⟨id, rfl⟩)
  apply (keeps_settles moves _).mono
  intro _ _ h
  exact .resumes thread concerned ⟨s₂, Composes.trans quiet more, h⟩

private theorem pause_settles {Spared : ThreadId → Prop} {thread : ThreadId}
    (concerned : ¬ Spared thread) :
    Settles (pause thread) s fun _ s' => Change False Spared s s' := by
  unfold pause
  have asked : Settles ((call (.suspend thread)).orFail .remote) s fun _ s' => Quiet s s' :=
    keeps_settles (.orFail _ (Keeps.allows nofun)) s
  refine asked.andThen (fun _ s₁ quiet => ?_) fun _ s₁ quiet => .quiet quiet
  apply (dropStep_ends thread s₁).andThen
  intro _ s₂ dropped
  rw [settles_quietly]
  apply (threadHalted_ends thread s₂).mono
  intro _ s₃ halts
  exact .after (Composes.trans quiet dropped) (.halts thread concerned halts)

private theorem continueAll_settles {Spared : ThreadId → Prop}
    (concerned : ∀ thread, ¬ Spared thread) :
    Settles continueAll s fun _ s' => Change False Spared s s' := by
  unfold continueAll
  have dropped : Task.Ends dropAllSteps s fun _ s' => Quiet s s' :=
    keeps_ends dropAllSteps_moves s
  apply dropped.andThen
  intro _ s₁ quiet
  rw [settles_bind, settles_modify]
  have moves : Stirs (Keeps Eq fun _ => ¬ False)
      ((call .resumeAll).orFail .remote : Action V _) :=
    .orFail _ (Keeps.allows fun _ => id)
  exact (keeps_settles moves _).mono fun _ _ h => .resumesAll concerned ⟨s₁, quiet, h⟩

private theorem disconnect_ends {Spared : ThreadId → Prop}
    (concerned : ∀ thread, ¬ Spared thread) (terminate : Bool) :
    Task.Ends (disconnect terminate) s fun _ s' => Change False Spared s s' := by
  have dropped : Task.Ends dropAllSteps s fun _ s' => Quiet s s' :=
    keeps_ends dropAllSteps_moves s
  have left : Task.Moves (Keeps Eq fun _ => ¬ False) (do
      let _ ← if terminate then dispose else tryCall .resumeAll
      modify cancel : Task (Session V) _) := by
    dsimp only
    split
    · refine .bind (.bind (Keeps.allows nofun) fun _ => ?_) fun _ => ?_
      · exact .bind (.modify Ambient.cancel) fun _ => .pure _
      · exact .modify Ambient.cancel
    · exact .bind (Keeps.allows fun _ => id) fun _ =>
        .modify Ambient.cancel
  unfold disconnect
  apply dropped.bind
  intro _ s₁ quiet
  have removed : Task.Ends removeBreakpoints s₁ fun _ s' => Quiet s₁ s' :=
    keeps_ends removeBreakpoints_moves s₁
  apply removed.bind
  intro _ s₂ more
  rw [Task.ends_bind, Task.ends_modify]
  apply (keeps_ends left _).mono
  intro _ s₃ h
  exact .resumesAll concerned ⟨s₂, Composes.trans quiet more, h⟩

omit [Machine V] in
private theorem stackFrame?_ends (tidy : s.Tidy) {Spared : ThreadId → Prop} (thread : ThreadId)
    (depth : Nat) :
    Task.Ends (stackFrame? thread depth) s fun _ s' => Change False Spared s s' := by
  unfold stackFrame?
  rw [Task.ends_bind, Task.ends_get]
  split
  · exact .quiet (Composes.refl s)
  · rename_i p f found
    obtain ⟨q, halted, shown⟩ := Option.bind_eq_some_iff.1 found
    obtain ⟨f', -, same⟩ := Option.map_eq_some_iff.1 shown
    obtain ⟨rfl, rfl⟩ := Prod.mk.inj same
    have own : q.thread = thread := tidy.named thread q halted
    have known : (s.stopped.get? q.thread).isSome = true := by rw [own, halted]; rfl
    refine .bind (describeFrame_ends q depth _ s) ?_
    intro _ s' presents
    exact .shows q.thread known presents.shown

/-- What a request does, by its kind. -/
theorem performAny_settles (tidy : s.Tidy) (r : Request) :
    Settles (performAny r) s fun _ s' => Change False (fun t => r.Spares t) s s' := by
  cases r with
  | capabilities => exact quiet_settles (.adapt _ (.bind .get fun _ => .pure _))
  | attach => exact .answered _ _ (quiet_settles (probe_stirs 0 fun _ => .of_eq rfl rfl rfl rfl))
  | configurationDone => exact quiet_settles (.adapt _ (.pure _))
  | disconnect terminate =>
    exact .answered _ _ ((settles_quietly _).2 (disconnect_ends (fun _ => id) terminate))
  | setBreakpoints source wanted modified =>
    exact .answered _ _ (quiet_settles (.bind (setBreakpoints_stirs _ _ _) fun _ => .pure _))
  | setExceptionBreakpoints filters =>
    exact .answered _ _ (quiet_settles (setExceptionBreakpoints_stirs _ _))
  | dataBreakpointInfo reference name =>
    exact .answered _ _ (quiet_settles (dataBreakpointInfo_stirs reference name))
  | setDataBreakpoints wanted =>
    exact .answered _ _ (quiet_settles (.bind (setWatchpoints_stirs _) fun _ => .pure _))
  | getBreakpoints => exact .answered _ _ (quiet_settles (.quietly listBreakpoints_moves))
  | threads => exact .answered _ _ (quiet_settles (listThreads_stirs fun _ _ => .of_eq rfl rfl rfl rfl))
  | stackTrace thread start levels => exact inquiry_settles tidy (.stackTrace thread start levels)
  | stackFrame thread depth =>
    exact .answered _ _ ((settles_quietly _).2 (stackFrame?_ends tidy thread depth))
  | refreshStackFrames thread =>
    exact .answered _ _ (quiet_settles (.quietly (refreshThread_moves thread)))
  | scopes frameId => exact inquiry_settles tidy (.scopes frameId)
  | listVariables reference start count =>
    exact inquiry_settles tidy (.listVariables reference start count)
  | setVariable reference name value =>
    exact inquiry_settles tidy (.setVariable reference name value)
  | evaluate expression frameId => exact inquiry_settles tidy (.evaluate expression frameId)
  | exceptionInfo thread => exact .answered _ _ (quiet_settles (exceptionInfo_stirs thread))
  | continueThread thread =>
    have concerned : ¬ (Request.continueThread thread).Spares thread := fun h => h rfl
    exact .answered _ _ (resumeThread_settles concerned)
  | continueAll => exact .answered _ _ (continueAll_settles fun _ => id)
  | step thread kind =>
    have concerned : ¬ (Request.step thread kind).Spares thread := fun h => h rfl
    exact .answered _ _ (step_settles concerned kind)
  | pause thread =>
    have concerned : ¬ (Request.pause thread).Spares thread := fun h => h rfl
    exact .answered _ _ (pause_settles concerned)

/-- What holds after any answer holds after the answer to a message, if it holds already when the
message is not understood. -/
theorem respond_of_performAny {Q : Session V → Prop} (m : Protocol.RequestMessage) (unknown : Q s)
    (h : ∀ r, Request.ofMessage m = .ok r → Settles (performAny r) s fun _ s' => Q s') :
    Task.Ends (respond m) s fun _ s' => Q s' := by
  have handled : Settles (handle m) s fun _ s' => Q s' := by
    unfold handle
    cases known : Request.ofMessage m with
    | error e => exact unknown
    | ok r => exact h r known
  unfold respond
  exact Task.Ends.bind handled fun _ _ h => h

theorem respond_ends (tidy : s.Tidy) (m : Protocol.RequestMessage) :
    Task.Ends (respond m) s fun _ s' =>
      Change False (fun t => ∀ r, Request.ofMessage m = .ok r → r.Spares t) s s' := by
  refine respond_of_performAny m (.quiet (Composes.refl s)) fun r known => ?_
  apply (performAny_settles tidy r).mono
  intro _ _ change
  exact change.weaken fun t spares => spares r known

end

/-! ## All that can happen -/

/-- The session after something has happened to it. -/
def after (s : Session V) : Input V → Session V
  | .event e => ((pumpEvent e).run advance s).2
  | .message m => ((respond m).run advance s).2
  | .leave => ((disconnect false).run advance s).2
  | .debuggee machine => { s with machine }
  | .settings x =>
    match s.update x with
    | .ok (_, s') => s'
    | .error _ => s
  | .time time => s.advance time
  | .deliver => { s with pending := [] }

/-- New settings are refused, or concern nothing else but the call mode and the memory of
threads. -/
theorem after_settings {Q : Session V → Prop} {s : Session V} (x : Settings) (same : Q s)
    (updated : ∀ callMode threads, Q { s with settings := x, callMode, threads }) :
    Q (s.after (.settings x)) := by
  simp only [after]
  split
  · rename_i notices s' found
    obtain ⟨callMode, threads, rfl⟩ := update_eq found
    exact updated callMode threads
  · exact same

theorem after_changes {s : Session V} (tidy : s.Tidy) (i : Input V) :
    Change i.IsEvent (fun t => i.Spares t) s (s.after i) := by
  cases i with
  | event e => exact pumpEvent_ends e s
  | message m => exact respond_ends tidy m
  | leave => exact disconnect_ends (fun _ => id) false
  | debuggee v => exact .quiet (.of_eq rfl rfl rfl rfl)
  | settings x =>
    exact .quiet (after_settings x (Composes.refl s) fun _ _ => .of_eq rfl rfl rfl rfl)
  | time time => exact .quiet (.of_eq rfl rfl rfl rfl)
  | deliver => exact .quiet (.of_eq rfl rfl rfl rfl)

end Session
end DebugSession
