import DebugSession.Proofs.Ownership
/-!
The end of a session. Whatever calls fail, nothing is left of what the session kept, and it is
tried to delete every request that it had; if no call has ever failed then none of them is left on
the debuggee, and no thread stands still on one that was left to itself.
-/

namespace DebugSession.Session

variable {V α : Type} {s s₁ s' : Session V}

/-- Of what the session kept, nothing is left. -/
structure Detached (s : Session V) : Prop where
  cancelled : s.cancelled = true
  steps : s.steps = {}
  lines : s.breakpoints.sources = {}
  fields : s.breakpoints.watchpoints = {}
  exceptionRequest : s.breakpoints.exceptionRequest = none
  stopped : s.stopped = {}
  handles : s.handles.entries = {}
  exceptions : s.exceptions = {}
  results : s.results = {}

/-- A request that the session has installed and counts on. -/
def HasRequest (s : Session V) (r : RequestId) : Prop :=
  s.Stepping r ∨ (∃ p i, s.breakpoints.at? p = some i ∧ r ∈ i.requests) ∨
    s.breakpoints.exceptionRequest = some r

/-- Between two states it was tried to delete the request, with or without success. -/
def Attempts (r : RequestId) (s s' : Session V) : Prop :=
  ∃ failure, (⟨.deleteRequest r, failure⟩ : Exchange) ∈ s'.calls.drop s.calls.length

/-! ## Attempts -/

/-- Calls were made, by which it was tried to delete each of the requests. -/
def Attempted (rs : List RequestId) (s s' : Session V) : Prop :=
  ∃ xs, s'.calls = s.calls ++ xs ∧
    ∀ r ∈ rs, ∃ failure, (⟨.deleteRequest r, failure⟩ : Exchange) ∈ xs

theorem Attempted.append {rs rs' : List RequestId} (h : Attempted rs s s₁)
    (h' : Attempted rs' s₁ s') : Attempted (rs ++ rs') s s' := by
  obtain ⟨xs, first, tried⟩ := h
  obtain ⟨xs', second, tried'⟩ := h'
  refine ⟨xs ++ xs', by rw [second, first, List.append_assoc], fun r mem => ?_⟩
  rcases List.mem_append.1 mem with mem | mem
  · obtain ⟨failure, made⟩ := tried r mem
    exact ⟨failure, List.mem_append_left _ made⟩
  · obtain ⟨failure, made⟩ := tried' r mem
    exact ⟨failure, List.mem_append_right _ made⟩

theorem Attempted.attempts {rs : List RequestId} (h : Attempted rs s s') {r : RequestId}
    (mem : r ∈ rs) : Attempts r s s' := by
  obtain ⟨xs, calls, tried⟩ := h
  obtain ⟨failure, made⟩ := tried r mem
  exact ⟨failure, by rwa [calls, List.drop_left]⟩

/-- It was tried to delete the requests, while all that is kept stayed. -/
structure Tries (rs : List RequestId) (s s' : Session V) : Prop where
  attempted : Attempted rs s s'
  steps : s'.steps = s.steps
  lines : s'.breakpoints.sources = s.breakpoints.sources
  fields : s'.breakpoints.watchpoints = s.breakpoints.watchpoints
  exceptionRequest : s'.breakpoints.exceptionRequest = s.breakpoints.exceptionRequest

theorem Tries.of_eq (calls : s'.calls = s.calls) (steps : s'.steps = s.steps)
    (lines : s'.breakpoints.sources = s.breakpoints.sources)
    (fields : s'.breakpoints.watchpoints = s.breakpoints.watchpoints)
    (exceptionRequest : s'.breakpoints.exceptionRequest = s.breakpoints.exceptionRequest) :
    Tries [] s s' where
  attempted := ⟨[], by rw [calls, List.append_nil], nofun⟩
  steps := steps
  lines := lines
  fields := fields
  exceptionRequest := exceptionRequest

theorem Tries.append {rs rs' : List RequestId} (h : Tries rs s s₁) (h' : Tries rs' s₁ s') :
    Tries (rs ++ rs') s s' where
  attempted := h.attempted.append h'.attempted
  steps := h'.steps.trans h.steps
  lines := h'.lines.trans h.lines
  fields := h'.fields.trans h.fields
  exceptionRequest := h'.exceptionRequest.trans h.exceptionRequest

theorem Tries.after {rs : List RequestId} (h : Tries rs s₁ s') (first : Tries [] s s₁) :
    Tries rs s s' := first.append h

variable [Machine V]

theorem tryDelete_tries (r : RequestId) (s : Session V) :
    Task.Ends (tryCall (.deleteRequest r)) s fun _ s' => Tries [r] s s' := by
  apply (tryCall_ends (.deleteRequest r) s).mono
  rintro answer s' ⟨machine, clock, cancelled, rfl, -⟩
  refine ⟨⟨_, rfl, fun r' mem => ?_⟩, rfl, rfl, rfl, rfl⟩
  rw [List.mem_singleton.1 mem]
  cases answer with
  | ok _ => exact ⟨none, List.mem_singleton_self _⟩
  | error e => exact ⟨some e, List.mem_singleton_self _⟩

private theorem deleteIfAny_tries (r? : Option RequestId) (s : Session V) :
    Task.Ends (deleteIfAny r?) s fun _ s' => Tries r?.toList s s' := by
  cases r? with
  | none => exact .of_eq rfl rfl rfl rfl rfl
  | some r => exact (tryDelete_tries r s).bind fun _ _ tries => tries

private theorem teardown_tries (p : PendingStep) (s : Session V) :
    Task.Ends (teardown p) s fun _ s' => Tries p.requests s s' := by
  unfold teardown
  apply (deleteIfAny_tries p.stepRequest s).bind
  intro _ s₁ first
  apply (deleteIfAny_tries p.exitRequest s₁).bind
  intro _ s₂ second
  have tries := first.append second
  exact ⟨tries.attempted, tries.steps, tries.lines, tries.fields, tries.exceptionRequest⟩

private theorem teardownAll_tries (ps : List PendingStep) (s : Session V) :
    Task.Ends (teardownAll ps) s fun _ s' => Tries (ps.flatMap PendingStep.requests) s s' := by
  induction ps generalizing s with
  | nil => exact .of_eq rfl rfl rfl rfl rfl
  | cons p rest ih =>
    apply (teardown_tries p s).bind
    intro _ s₁ first
    exact (ih s₁).mono fun _ _ others => first.append others

private theorem deleteRequests_tries (rs : List RequestId) (s : Session V) :
    Task.Ends (deleteRequests rs) s fun _ s' => Tries rs s s' := by
  induction rs generalizing s with
  | nil => exact .of_eq rfl rfl rfl rfl rfl
  | cons r rest ih =>
    unfold deleteRequests
    rw [Task.ends_bind, Task.ends_modify]
    apply (tryDelete_tries r _).bind
    intro _ s₁ tries
    have first : Tries [r] s s₁ := tries.after (.of_eq rfl rfl rfl rfl rfl)
    exact (ih s₁).mono fun _ _ others => first.append others

private theorem deleteGivenUp_tries (gone : List Installed) (s : Session V) :
    Task.Ends (deleteGivenUp gone) s fun _ s' => Tries (gone.flatMap Installed.requests) s s' := by
  induction gone generalizing s with
  | nil => exact .of_eq rfl rfl rfl rfl rfl
  | cons i rest ih =>
    unfold deleteGivenUp
    rw [Task.ends_bind, Task.ends_modify]
    apply (deleteRequests_tries i.requests _).bind
    intro _ s₁ tries
    have first : Tries i.requests s s₁ := tries.after (.of_eq rfl rfl rfl rfl rfl)
    exact (ih s₁).mono fun _ _ others => first.append others

/-! ## What is removed -/

private theorem dropAllSteps_tries (s : Session V) :
    Task.Ends dropAllSteps s fun _ s' =>
      Tries (s.steps.values.flatMap PendingStep.requests) { s with steps := {} } s' := by
  unfold dropAllSteps
  rw [Task.ends_bind, Task.ends_modifyGet]
  exact teardownAll_tries s.steps.values _

omit [Machine V] in
private theorem giveUp_tries (what : Shared) (f : Breakpoints → List Installed × Breakpoints)
    (s : Session V) :
    Task.Ends (exclusively what (giveUp f)) s fun gone s' =>
      gone = (f s.breakpoints).1 ∧ Tries [] { s with breakpoints := (f s.breakpoints).2 } s' := by
  rw [Task.ends_exclusively]
  exact ⟨rfl, .of_eq rfl rfl rfl rfl rfl⟩

private theorem removeExceptionRequest_tries (s : Session V) :
    Task.Ends (exclusively .exceptions removeExceptionRequest) s fun _ s' =>
      Tries s.breakpoints.exceptionRequest.toList
        { s with breakpoints := { s.breakpoints with exceptionRequest := none } } s' := by
  rw [Task.ends_exclusively]
  unfold removeExceptionRequest
  rw [Task.ends_bind, Task.ends_get]
  cases remembered : s.breakpoints.exceptionRequest with
  | none => exact .of_eq rfl rfl rfl rfl remembered
  | some r =>
    rw [Task.ends_bind, Task.ends_modify]
    apply (tryDelete_tries r _).bind
    intro _ s₁ tries
    exact ⟨tries.attempted, tries.steps, tries.lines, tries.fields, tries.exceptionRequest⟩

/-- What removing all breakpoints, watchpoints and the request for exceptions comes to. -/
structure Removes (s s' : Session V) : Prop where
  attempted : Attempted (s.breakpoints.giveUpLines.1.flatMap Installed.requests ++
    s.breakpoints.giveUpFields.1.flatMap Installed.requests ++
    s.breakpoints.exceptionRequest.toList) s s'
  steps : s'.steps = s.steps
  lines : s'.breakpoints.sources = {}
  fields : s'.breakpoints.watchpoints = {}
  exceptionRequest : s'.breakpoints.exceptionRequest = none

theorem removeBreakpoints_removes (s : Session V) :
    Task.Ends removeBreakpoints s fun _ s' => Removes s s' := by
  unfold removeBreakpoints
  apply (giveUp_tries .lines Breakpoints.giveUpLines s).bind
  rintro _ s₁ ⟨rfl, left₁⟩
  apply (deleteGivenUp_tries _ s₁).bind
  intro _ s₂ deleted₁
  have first := deleted₁.after left₁
  apply (giveUp_tries .fields Breakpoints.giveUpFields s₂).bind
  rintro _ s₃ ⟨rfl, left₂⟩
  apply (deleteGivenUp_tries _ s₃).bind
  intro _ s₄ deleted₂
  have second := deleted₂.after left₂
  apply (removeExceptionRequest_tries s₄).mono
  intro _ s' third
  have watched : s₂.breakpoints.giveUpFields.1 = s.breakpoints.giveUpFields.1 := by
    unfold Breakpoints.giveUpFields
    rw [first.fields]
    rfl
  have remembered : s₄.breakpoints.exceptionRequest = s.breakpoints.exceptionRequest :=
    second.exceptionRequest.trans first.exceptionRequest
  constructor
  case attempted =>
    rw [← watched, ← remembered]
    exact Attempted.append (Attempted.append first.attempted second.attempted) third.attempted
  case steps => exact third.steps.trans (second.steps.trans first.steps)
  case lines => exact third.lines.trans (second.lines.trans first.lines)
  case fields => exact third.fields.trans second.fields
  case exceptionRequest => exact third.exceptionRequest

/-- The debuggee was left to itself, or ended, and the session is over. -/
theorem leave_ends (terminate : Bool) (s : Session V) : Task.Ends (do
    let _ ← if terminate then dispose else tryCall .resumeAll
    modify cancel : Task (Session V) _) s fun _ s' =>
      ∃ (c : Call) (r : Except RemoteError c.Reply) (machine : V) (clock : Nat),
        s' = s.called machine clock true (.ofReply c r) ∧ Machine.Answers c s.machine r machine ∧
          (terminate = false → c = .resumeAll) := by
  cases terminate with
  | false =>
    apply (tryCall_ends .resumeAll s).bind
    rintro r s' ⟨machine, clock, cancelled, rfl, answers⟩
    exact ⟨_, r, machine, clock, rfl, answers, fun _ => rfl⟩
  | true =>
    have disposed : Task.Ends dispose s fun r s' => ∃ machine clock,
        s' = s.called machine clock true (.ofReply .dispose r) ∧
          Machine.Answers .dispose s.machine r machine := by
      apply (tryCall_ends .dispose s).bind
      rintro r s' ⟨machine, clock, cancelled, rfl, answers⟩
      exact ⟨machine, clock, rfl, answers⟩
    apply disposed.bind
    rintro r s' ⟨machine, clock, rfl, answers⟩
    exact ⟨.dispose, r, machine, clock, rfl, answers, nofun⟩

/-! ## All together -/

variable [Ledger V] [Numbers V]

/-- A request on the debuggee is one that the session has, unless it could not be deleted. -/
theorem Owned.has (h : s.Owned) (connected : ∀ x ∈ s.calls, ¬ x.IsLost) {r : RequestId}
    {q : EventRequest} (live : Ledger.live s.machine r = some q) (kept : ¬ s.DeleteFailed r) :
    s.HasRequest r := by
  have placed : q.isPlaced = true → s.HasRequest r := by
    intro placed
    have noted := (h.booked.books.covered r q live placed).resolve_right kept
    obtain ⟨o, noted⟩ := Option.isSome_iff_exists.1 noted
    obtain ⟨i, there, -, mem⟩ := (h.booked.books.kept r o noted).resolve_left List.not_mem_nil
    exact .inr (.inl ⟨o.place, i, there, mem⟩)
  have stepping : q.strider? ≠ none → s.HasRequest r := by
    intro names
    rcases h.accounted connected r q live names with spare | failed | ⟨_, p, -, pending, stands⟩
    · cases spare
    · exact absurd failed kept
    · exact .inl ⟨p, Table.mem_values pending, PendingStep.mem_requests_of_standIn? stands⟩
  cases q with
  | breakpoint => exact placed rfl
  | watchpoint => exact placed rfl
  | step => exact stepping (Option.some_ne_none _)
  | methodExit => exact stepping (Option.some_ne_none _)
  | exception =>
    exact .inr (.inr ((h.booked.books.sole r _ live rfl).resolve_right kept))

omit [Machine V] [Ledger V] [Numbers V] in
theorem Detached.hasRequest (h : s.Detached) (r : RequestId) : ¬ s.HasRequest r := by
  rintro (⟨p, mem, -⟩ | ⟨p, i, there, -⟩ | remembered)
  · rw [h.steps] at mem
    cases mem
  · cases p with
    | line source number =>
      simp [Breakpoints.at?, Breakpoints.breakpoint?, Breakpoints.ofSource, h.lines,
        Table.get?] at there
    | field className fieldName =>
      simp [Breakpoints.at?, Breakpoints.watchpoint?, h.fields, Table.get?] at there
  · rw [h.exceptionRequest] at remembered
    cases remembered

/-- What the end of a session comes to. -/
structure Finishes (terminate : Bool) (s s' : Session V) : Prop where
  detached : s'.Detached
  attempted : ∀ r, s.HasRequest r → Attempts r s s'
  halted [Halting V] : (∀ x ∈ s'.calls, x.failure = none) → terminate = false →
    ∀ thread, ¬ Halting.halted s'.machine thread

omit [Machine V] [Ledger V] [Numbers V] in
/-- Dropping the steps and then removing what is installed tries to delete all requests. -/
private theorem Tries.covers {rs : List RequestId} (dropped : Tries rs { s with steps := {} } s₁)
    {r : RequestId} (has : s.HasRequest r) :
    r ∈ s.steps.values.flatMap PendingStep.requests ++
      (s₁.breakpoints.giveUpLines.1.flatMap Installed.requests ++
        s₁.breakpoints.giveUpFields.1.flatMap Installed.requests ++
        s₁.breakpoints.exceptionRequest.toList) := by
  rcases has with ⟨p, pending, used⟩ | ⟨p, i, there, used⟩ | remembered
  · exact List.mem_append_left _ (List.mem_flatMap.2 ⟨p, pending, used⟩)
  · refine List.mem_append_right _ (List.mem_append_left _ ?_)
    have there : s₁.breakpoints.at? p = some i := by
      rw [Breakpoints.at?_congr dropped.lines dropped.fields]
      exact there
    cases p with
    | line source number =>
      exact List.mem_append_left _ (Breakpoints.mem_giveUpLines.2 ⟨_, _, i, there, used⟩)
    | field className fieldName =>
      exact List.mem_append_right _ (Breakpoints.mem_giveUpFields there used)
  · refine List.mem_append_right _ (List.mem_append_right _ ?_)
    rw [dropped.exceptionRequest]
    exact Option.mem_toList.2 remembered

theorem disconnect_leaves (terminate : Bool) (s : Session V) :
    Task.Ends (disconnect terminate) s fun _ s' => Finishes terminate s s' := by
  unfold disconnect
  apply (dropAllSteps_tries s).bind
  intro _ s₁ dropped
  apply (removeBreakpoints_removes s₁).bind
  intro _ s₂ removed
  rw [Task.ends_bind, Task.ends_modify]
  apply (leave_ends terminate (allResumed s₂)).mono
  rintro _ s' ⟨c, r, machine, clock, rfl, answers, resumes⟩
  have calm := Calm.allResumed s₂
  constructor
  case detached =>
    exact
      { cancelled := rfl
        steps := calm.steps.trans (removed.steps.trans dropped.steps)
        lines := by
          rw [called_breakpoints, calm.breakpoints]
          exact removed.lines
        fields := by
          rw [called_breakpoints, calm.breakpoints]
          exact removed.fields
        exceptionRequest := by
          rw [called_breakpoints, calm.breakpoints]
          exact removed.exceptionRequest
        stopped := allResumed_stopped s₂
        handles := congrArg Pool.entries (allResumed_handles s₂)
        exceptions := allResumed_exceptions s₂
        results := allResumed_results s₂ }
  case attempted =>
    have last : Attempted [] s₂ ((allResumed s₂).called machine clock true (.ofReply c r)) :=
      ⟨_, by rw [called_calls, allResumed_calls], nofun⟩
    have all := Attempted.append (Attempted.append dropped.attempted removed.attempted) last
    intro r has
    exact all.attempts (List.mem_append_left _ (dropped.covers has))
  case halted =>
    intro _ succeeded runs
    obtain rfl := resumes runs
    cases r with
    | ok _ => exact answers.resumed
    | error e =>
      have failed := succeeded _ (List.mem_append_right _ (List.mem_singleton_self _))
      cases failed

/-- However a session has gone, whichever calls fail, its end leaves nothing of it and tries to
delete each request that it has. If nobody else has created or deleted requests on the debuggee,
those are all requests that stand there, but for those that could not be deleted, as long as the
debuggee was not lost; and if no call has ever failed then no request is left, and no thread stands
still on a debuggee that was left to itself. -/
theorem disconnect_detaches [Halting V] (s : Session V) (terminate : Bool) :
    let s' := ((disconnect terminate).run advance s).2
    s'.Detached ∧ (∀ r, s.HasRequest r → Attempts r s s') ∧
      ∀ machine settings providers, Ledger.Sound machine → (∀ r, Ledger.live machine r = none) →
        Alone (start machine settings providers) s →
          ((∀ x ∈ s.calls, ¬ x.IsLost) → ∀ r q, Ledger.live s.machine r = some q →
            ¬ s.DeleteFailed r → Attempts r s s') ∧
          ((∀ x ∈ s'.calls, x.failure = none) → (∀ r, Ledger.live s'.machine r = none) ∧
            (terminate = false → ∀ thread, ¬ Halting.halted s'.machine thread)) := by
  have leaves : Finishes terminate s ((disconnect terminate).run advance s).2 :=
    disconnect_leaves terminate s
  refine ⟨leaves.detached, leaves.attempted, ?_⟩
  intro machine settings providers sound fresh run
  have owned := run.owned (start_owned settings providers sound fresh)
  refine ⟨fun connected r q live kept => leaves.attempted r (owned.has connected live kept), ?_⟩
  intro succeeded
  refine ⟨fun r => ?_, leaves.halted succeeded⟩
  have owned' : Owned ((disconnect terminate).run advance s).2 := disconnect_owned terminate owned
  rw [Option.eq_none_iff_forall_ne_some]
  intro q live
  refine leaves.detached.hasRequest r (owned'.has (fun x made lost => ?_) live ?_)
  · have failed : some RemoteError.disconnected = none := lost.symm.trans (succeeded x made)
    cases failed
  · rintro ⟨e, made⟩
    cases succeeded _ made

/-- Two threads that stand still, one of them in a method. -/
def haltedPair : Debuggee :=
  let d := (({} : Debuggee).addThread 1 "main").addThread 2 "worker"
  ((d.setFrames 1 [{ location := firstLine }]).suspendThread 1).suspendThread 2

/-- One thread was halted by an exception and makes a step, after a breakpoint was set. -/
def busyRun : List (Input Debuggee) :=
  [.event (.exception 1 1 firstLine ⟨7, "E", .plain⟩ true),
    .message ⟨1, "request", "setBreakpoints", some (.obj
      [("source", .obj [("path", .str "A.java")]),
        ("breakpoints", .arr [.obj [("line", .ofNat 7)]])])⟩,
    .message ⟨2, "request", "next", some (.obj [("threadId", .ofNat 1)])⟩]

theorem disconnect_detaches_stepping :
    let s := busyRun.foldl after (start haltedPair {} oneLine)
    let s' := ((disconnect false).run advance s).2
    s.machine.requests.keys = [1, 2, 3] ∧ s.machine.Halted 2 ∧ s'.Detached ∧
      Attempts 1 s s' ∧ Attempts 2 s s' ∧ Attempts 3 s s' ∧
        (∀ r, s'.machine.requests.get? r = none) ∧ ∀ thread, ¬ s'.machine.Halted thread := by
  have run := Alone.foldl (.refl (s := start haltedPair {} oneLine)) busyRun (by simp [busyRun])
  obtain ⟨detached, -, alone⟩ :=
    disconnect_detaches (busyRun.foldl after (start haltedPair {} oneLine)) false
  obtain ⟨attempted, succeeded⟩ := alone haltedPair {} oneLine (by rintro r q ⟨⟩) (fun _ => rfl) run
  have fine : ∀ x ∈ (busyRun.foldl after (start haltedPair {} oneLine)).calls,
      x.failure = none := by decide +kernel
  have tried := fun r q live => attempted (by decide +kernel) r q live fun ⟨e, made⟩ =>
    Option.some_ne_none e (fine _ made)
  obtain ⟨gone, resumed⟩ := succeeded (by decide +kernel)
  exact ⟨by decide +kernel, by decide +kernel, detached,
    tried 1 (.breakpoint "A" none 7 none) (by decide +kernel),
    tried 2 (.step 1 .over ({} : SteppingSettings).classFilters) (by decide +kernel),
    tried 3 (.methodExit 1 (some "A")) (by decide +kernel), gone, resumed rfl⟩

end DebugSession.Session
