import DebugSession.Proofs.Calls
import DebugSession.Proofs.Installing
import DebugSession.Proofs.Reconcile
import DebugSession.Proofs.Tables
import DebugSession.Session.Stepping
/-!
What each operation on the steps of threads does, whichever calls fail: to the debuggee, to the
steps that are under way and to their tokens.
-/

namespace DebugSession

namespace PendingStep

/-- The request of the step that is of the same sort as `q`. -/
def standIn? (p : PendingStep) : EventRequest → Option RequestId
  | .step _ _ _ => p.stepRequest
  | .methodExit _ _ => p.exitRequest
  | _ => none

def requests (p : PendingStep) : List RequestId := p.stepRequest.toList ++ p.exitRequest.toList

theorem mem_requests_of_standIn? {p : PendingStep} {q : EventRequest} {r : RequestId}
    (h : p.standIn? q = some r) : r ∈ p.requests := by
  unfold standIn? at h
  unfold requests
  split at h
  · simp [h]
  · simp [h]
  · cases h

/-- How a step is made again that arrives somewhere, if it goes on. -/
def again? (p : PendingStep) (location : Location) (depth : Nat) (settings : SteppingSettings) :
    Option StepKind :=
  if p.kind = .into && p.depth < depth && settings.skips location then some .out
  else if p.kind = .into && !p.hasAdvanced location depth then some .into
  else none

end PendingStep

/-- What can be asked of the steps of a session. -/
inductive StepOperation where
  | begin (thread : ThreadId) (kind : StepKind) (depth : Nat) (location : Location)
      (settings : SteppingSettings)
  | arrive (thread : ThreadId) (request : RequestId) (location : Location) (depth : Nat)
      (settings : SteppingSettings)
  | exit (thread : ThreadId) (request : RequestId) (location : Location) (depth : Nat)
      (value : Value)
  | drop (thread : ThreadId)
  | dropAll
  /-- The session is over. -/
  | cancel

inductive StepAnswer where
  | begun (r : Except SessionError Nat)
  | arrived (r : Except SessionError StepOutcome)
  | exited (accepted : Bool)
  | dropped (any : Bool)
  | done

/-- Whether an operation that was answered so is the end of the step of a thread: it has come to
where it was to go, another one was to take its place, or it was dropped. -/
def StepOperation.isEnd (thread : ThreadId) : StepOperation → StepAnswer → Bool
  | .begin t _ _ _ _, _ => thread = t
  | .arrive t _ _ _ _, .arrived (.ok (.completed _)) => thread = t
  | .drop t, _ => thread = t
  | .dropAll, _ => true
  | _, _ => false

namespace Session

variable {V : Type} [Machine V]

def stepTask : StepOperation → Task (Session V) StepAnswer
  | .begin thread kind depth location settings => do
    return .begun (← (beginStep thread kind depth location settings).run)
  | .arrive thread request location depth settings => do
    return .arrived (← (handleStep thread request location depth settings).run)
  | .exit thread request location depth value => do
    return .exited (← handleMethodExit thread request location depth value)
  | .drop thread => do
    return .dropped (← dropStep thread)
  | .dropAll => do
    dropAllSteps
    return .done
  | .cancel => do
    modify Session.cancel
    return .done

variable [Ledger V] {s s₁ s' : Session V}

omit [Machine V] [Ledger V] in
theorem DeleteFailed.mono {r : RequestId} (h : s.DeleteFailed r) (calls : s.calls <+: s'.calls) :
    s'.DeleteFailed r := by
  obtain ⟨e, failed⟩ := h
  exact ⟨e, calls.subset failed⟩

/-! ## Requests on the debuggee -/

/-- Calls were made. -/
structure Consults (s s' : Session V) : Prop where
  sound : Ledger.Sound s'.machine
  calls : s.calls <+: s'.calls

theorem Consults.refl (sound : Ledger.Sound s.machine) : Consults s s :=
  ⟨sound, List.prefix_rfl⟩

theorem Consults.trans (h : Consults s s₁) (h' : Consults s₁ s') : Consults s s' :=
  ⟨h'.sound, h.calls.trans h'.calls⟩

/-- Requests were deleted, as far as that went well. -/
structure Deletes (rs : List RequestId) (s s' : Session V) : Prop extends Consults s s' where
  standing : ∀ r q, Ledger.live s'.machine r = some q → Ledger.live s.machine r = some q
  others : ∀ r, r ∉ rs → Ledger.live s'.machine r = Ledger.live s.machine r
  tried : ∀ r ∈ rs, Ledger.live s'.machine r = none ∨ s'.DeleteFailed r

theorem Deletes.nil (sound : Ledger.Sound s.machine) : Deletes [] s s where
  toConsults := .refl sound
  standing _ _ h := h
  others _ _ := rfl
  tried := by simp

theorem Deletes.append {rs rs' : List RequestId} (h : Deletes rs s s₁) (h' : Deletes rs' s₁ s') :
    Deletes (rs ++ rs') s s' where
  toConsults := h.toConsults.trans h'.toConsults
  standing r q live := h.standing r q (h'.standing r q live)
  others := by
    intro r away
    obtain ⟨first, second⟩ := List.mem_append.not.1 away |> not_or.1
    exact (h'.others r second).trans (h.others r first)
  tried := by
    intro r mem
    by_cases second : r ∈ rs'
    · exact h'.tried r second
    · rcases h.tried r ((List.mem_append.1 mem).resolve_right second) with gone | failed
      · exact .inl ((h'.others r second).trans gone)
      · exact .inr (failed.mono h'.calls)

/-- Of the session, only what is known of the debuggee has changed. -/
structure SameSteps (s s' : Session V) : Prop where
  steps : s'.steps = s.steps
  tokens : s'.tokens = s.tokens

theorem deleteIfAny_ends (r? : Option RequestId) (sound : Ledger.Sound s.machine) :
    Task.Ends (deleteIfAny r?) s fun _ s' => Deletes r?.toList s s' ∧ SameSteps s s' := by
  cases r? with
  | none => exact ⟨.nil sound, rfl, rfl⟩
  | some r =>
    unfold deleteIfAny
    simp only [Task.ends_bind, Task.ends_pure]
    apply (tryCall_ends (.deleteRequest r) s).mono
    rintro answer s' ⟨machine, clock, cancelled, rfl, answers⟩
    obtain ⟨sound, effect⟩ := answers.effect sound
    refine ⟨?_, rfl, rfl⟩
    cases answer with
    | ok _ =>
      have after : Ledger.live machine = Function.update (Ledger.live s.machine) r none := effect
      refine ⟨⟨sound, List.prefix_append ..⟩, fun r' q live => ?_, fun r' away => ?_,
        fun r' mem => ?_⟩
      · rw [called_machine, after, Function.update_apply] at live
        split at live
        · cases live
        · exact live
      · rw [called_machine, after, Function.update_of_ne (List.mem_singleton.not.1 away)]
      · rw [List.mem_singleton.1 mem, called_machine, after, Function.update_self]
        exact .inl rfl
    | error e =>
      have after : Ledger.live machine = Ledger.live s.machine := effect
      refine ⟨⟨sound, List.prefix_append ..⟩, fun r' q live => ?_, fun r' _ => ?_, fun r' mem => ?_⟩
      · exact after ▸ live
      · exact congrFun after r'
      · rw [List.mem_singleton.1 mem]
        exact .inr (deleteFailed_called.2 (.inr ⟨e, rfl⟩))

/-! ## Steps that end -/

/-- Steps `ps` have ended, by which their requests were deleted and their tokens revoked; `left`
are under way. -/
structure Ended (ps : List PendingStep) (left : Table ThreadId PendingStep) (s s' : Session V) :
    Prop where
  deletes : Deletes (ps.flatMap PendingStep.requests) s s'
  steps : s'.steps = left
  issued : s'.tokens.issued = s.tokens.issued
  revoked : ∀ n, n ∈ s'.tokens.revoked ↔ n ∈ s.tokens.revoked ∨ ∃ p ∈ ps, p.subscription = n

theorem Ended.nil (sound : Ledger.Sound s.machine) : Ended [] s.steps s s :=
  ⟨.nil sound, rfl, rfl, by simp⟩

/-- It does not matter when the steps that end are taken from those under way. -/
theorem Ended.taken {ps : List PendingStep} {left steps : Table ThreadId PendingStep}
    (h : Ended ps left { s with steps } s') : Ended ps left s s' where
  deletes := ⟨⟨h.deletes.sound, h.deletes.calls⟩, h.deletes.standing, h.deletes.others,
    h.deletes.tried⟩
  steps := h.steps
  issued := h.issued
  revoked := h.revoked

theorem teardown_ends (p : PendingStep) (sound : Ledger.Sound s.machine) :
    Task.Ends (teardown p) s fun p' s' =>
      p' = { p with stepRequest := none, exitRequest := none } ∧ Ended [p] s.steps s s' := by
  unfold teardown
  simp only [Task.ends_bind, Task.ends_modify, Task.ends_pure, true_and]
  apply (deleteIfAny_ends p.stepRequest sound).mono
  rintro _ s₁ ⟨first, same⟩
  apply (deleteIfAny_ends p.exitRequest first.sound).mono
  rintro _ s₂ ⟨second, same'⟩
  have deletes := first.append second
  have tokens := same'.tokens.trans same.tokens
  constructor
  case deletes =>
    rw [List.flatMap_singleton]
    exact ⟨⟨deletes.sound, deletes.calls⟩, deletes.standing, deletes.others, deletes.tried⟩
  case steps => exact same'.steps.trans same.steps
  case issued => simp only [revoke, tokens]
  case revoked =>
    intro n
    simp only [revoke, tokens, List.mem_cons, List.not_mem_nil, or_false, exists_eq_left]
    rw [or_comm, eq_comm]

theorem dropStep_ended (thread : ThreadId) (sound : Ledger.Sound s.machine) :
    Task.Ends (dropStep thread) s fun any s' =>
      any = (s.steps.get? thread).isSome ∧
        Ended (s.steps.get? thread).toList (s.steps.erase thread) s s' := by
  unfold dropStep takeStep
  simp only [Task.ends_bind, Task.ends_modifyGet]
  have taken : Ledger.Sound ({ s with steps := s.steps.erase thread } : Session V).machine := sound
  cases s.steps.get? thread with
  | none => exact ⟨rfl, (Ended.nil taken).taken⟩
  | some p =>
    apply (teardown_ends p taken).bind
    rintro p' s' ⟨-, ended⟩
    exact ⟨rfl, ended.taken⟩

private theorem teardownAll_ends (ps : List PendingStep) (sound : Ledger.Sound s.machine) :
    Task.Ends (teardownAll ps) s fun _ s' => Ended ps s.steps s s' := by
  induction ps generalizing s with
  | nil => exact .nil sound
  | cons p rest ih =>
    apply (teardown_ends p sound).bind
    rintro _ s₁ ⟨-, first⟩
    apply (ih first.deletes.sound).mono
    intro _ s' others
    constructor
    case deletes =>
      have deletes := first.deletes.append others.deletes
      rwa [List.flatMap_singleton, ← List.flatMap_cons] at deletes
    case steps => exact others.steps.trans first.steps
    case issued => exact others.issued.trans first.issued
    case revoked =>
      intro n
      rw [others.revoked, first.revoked, or_assoc]
      simp

theorem dropAllSteps_ended (sound : Ledger.Sound s.machine) :
    Task.Ends dropAllSteps s fun _ s' => Ended s.steps.values {} s s' := by
  unfold dropAllSteps
  simp only [Task.ends_bind, Task.ends_modifyGet]
  have taken : Ledger.Sound ({ s with steps := {} } : Session V).machine := sound
  exact (teardownAll_ends s.steps.values taken).mono fun _ _ ended => ended.taken

/-! ## Steps that begin -/

/-- A request for `q` was asked for. If there is none, a call has failed. -/
structure Asks (q : EventRequest) (s : Session V) (answer : Option RequestId) (s' : Session V) :
    Prop extends SameSteps s s', Consults s s' where
  made : ∀ id, answer = some id → Ledger.live s.machine id = none ∧
    Ledger.live s'.machine = Function.update (Ledger.live s.machine) id (some q)
  refused : answer = none → Ledger.live s'.machine = Ledger.live s.machine ∧
    ∃ x ∈ s'.calls, x.failure ≠ none

private theorem createRequest_settles (q : EventRequest) (sound : Ledger.Sound s.machine) :
    Settles (call (.createRequest q)) s fun answer s' => Asks q s answer.toOption s' ∧
      ∀ e, answer = .error e → ⟨.createRequest q, some e⟩ ∈ s'.calls := by
  apply (tryCall_ends (.createRequest q) s).mono
  rintro answer s' ⟨machine, clock, cancelled, rfl, answers⟩
  obtain ⟨sound, effect⟩ := answers.effect sound
  cases answer with
  | ok id =>
    refine ⟨⟨⟨rfl, rfl⟩, ⟨sound, List.prefix_append ..⟩, ?_, nofun⟩, nofun⟩
    rintro _ ⟨⟩
    exact effect
  | error e =>
    have noted : ⟨.createRequest q, some e⟩ ∈ (s.called machine clock cancelled
        (.ofReply (.createRequest q) (.error e))).calls :=
      List.mem_append_right _ (List.mem_singleton_self _)
    refine ⟨⟨⟨rfl, rfl⟩, ⟨sound, List.prefix_append ..⟩, nofun,
      fun _ => ⟨effect, _, noted, nofun⟩⟩, ?_⟩
    rintro _ ⟨⟩
    exact noted

private theorem requestStep_settles (thread : ThreadId) (q : EventRequest)
    (sound : Ledger.Sound s.machine) :
    Settles ((call (.createRequest q)).orFail (stepFailed thread)) s
      fun answer s' => Asks q s answer.toOption s' := by
  rw [settles_orFail]
  apply (createRequest_settles q sound).mono
  rintro (e | id) s' ⟨asks, -⟩
  · exact asks
  · exact asks

/-- What was asked for to watch for the return from a method. A step into methods does without,
and any other does only if a call has failed. -/
inductive Watches (thread : ThreadId) (kind : StepKind) (l : Location) (s : Session V) :
    Except SessionError (Option RequestId) → Session V → Prop
  | never (into : kind = .into) : Watches thread kind l s (.ok none) s
  | asked {answer : Option RequestId} {s' : Session V} (away : kind ≠ .into)
      (asks : Asks (.methodExit thread (some l.className)) s answer s') :
      Watches thread kind l s (.ok answer) s'
  | lost {e : SessionError} {s' : Session V}
      (asks : Asks (.methodExit thread (some l.className)) s none s')
      (gone : ∃ x ∈ s'.calls, x.IsLost) : Watches thread kind l s (.error e) s'

theorem Watches.same {thread : ThreadId} {kind : StepKind} {l : Location}
    {answer : Except SessionError (Option RequestId)} (h : Watches thread kind l s answer s') :
    SameSteps s s' := by
  cases h with
  | never => exact ⟨rfl, rfl⟩
  | asked _ asks => exact asks.toSameSteps
  | lost asks => exact asks.toSameSteps

theorem Watches.consults {thread : ThreadId} {kind : StepKind} {l : Location}
    {answer : Except SessionError (Option RequestId)} (sound : Ledger.Sound s.machine)
    (h : Watches thread kind l s answer s') : Consults s s' := by
  cases h with
  | never => exact .refl sound
  | asked _ asks => exact asks.toConsults
  | lost asks => exact asks.toConsults

private theorem requestExit_settles (thread : ThreadId) (kind : StepKind) (l : Location)
    (sound : Ledger.Sound s.machine) :
    Settles (requestExit thread kind l) s (Watches thread kind l s) := by
  unfold requestExit
  by_cases into : kind = .into
  · rw [if_pos into]
    exact .never into
  · rw [if_neg into]
    simp only [settles_bind, settles_attempt]
    apply (createRequest_settles (.methodExit thread (some l.className)) sound).mono
    rintro answer s' ⟨asks, noted⟩
    cases answer with
    | ok id => exact .asked into asks
    | error e =>
      simp only
      split
      · rename_i lost
        have gone := noted e rfl
        rw [(RemoteError.isDisconnect_iff e).1 lost] at gone
        exact .lost asks ⟨_, gone, rfl⟩
      · exact .asked into asks

/-- What beginning a step comes to, once the one before it has ended. -/
inductive Begins (thread : ThreadId) (kind : StepKind) (depth : Nat) (location : Location)
    (settings : SteppingSettings) (s : Session V) : Except SessionError Nat → Session V → Prop
  | refused {e : SessionError} {s' : Session V}
      (asks : Asks (.step thread kind settings.classFilters) s none s') :
      Begins thread kind depth location settings s (.error e) s'
  | lost {e : SessionError} {id : RequestId} {s₁ s' : Session V}
      (asks : Asks (.step thread kind settings.classFilters) s (some id) s₁)
      (watches : Watches thread kind location s₁ (.error e) s') :
      Begins thread kind depth location settings s (.error e) s'
  | begun {id : RequestId} {exitRequest : Option RequestId} {s₁ s₂ : Session V}
      (asks : Asks (.step thread kind settings.classFilters) s (some id) s₁)
      (watches : Watches thread kind location s₁ (.ok exitRequest) s₂) :
      Begins thread kind depth location settings s (.ok s₂.tokens.issued)
        { s₂.issueToken.2 with
          steps := s₂.steps.insert thread
            { thread, kind, depth, location, stepRequest := some id, exitRequest, result := none
              subscription := s₂.tokens.issued } }

theorem beginStep_settles (thread : ThreadId) (kind : StepKind) (depth : Nat)
    (location : Location) (settings : SteppingSettings) (sound : Ledger.Sound s.machine) :
    Settles (beginStep thread kind depth location settings) s fun answer s' =>
      ∃ s₁, Ended (s.steps.get? thread).toList (s.steps.erase thread) s s₁ ∧
        Begins thread kind depth location settings s₁ answer s' := by
  unfold beginStep
  apply (dropStep_ended thread sound).andThen
  rintro _ s₁ ⟨-, ended⟩
  suffices begins : Settles _ s₁ (Begins thread kind depth location settings s₁) from
    begins.mono fun _ _ begins => ⟨s₁, ended, begins⟩
  apply (requestStep_settles thread _ ended.deletes.sound).andThen
  · intro id s₂ asks
    apply (requestExit_settles thread kind location asks.sound).andThen
    · intro exitRequest s₃ watches
      exact .begun asks watches
    · intro e s₃ watches
      exact .lost asks watches
  · intro e s₂ asks
    exact .refused asks

/-! ## Threads that arrive -/

/-- What making a step again comes to. -/
inductive Resteps (thread : ThreadId) (request : RequestId) (kind : StepKind)
    (settings : SteppingSettings) (s : Session V) : Except SessionError Unit → Session V → Prop
  | refused {e : SessionError} {s₁ s' : Session V} (deletes : Deletes [request] s s₁)
      (same : SameSteps s s₁) (asks : Asks (.step thread kind settings.classFilters) s₁ none s') :
      Resteps thread request kind settings s (.error e) s'
  | made {id : RequestId} {s₁ s₂ : Session V} (deletes : Deletes [request] s s₁)
      (same : SameSteps s s₁)
      (asks : Asks (.step thread kind settings.classFilters) s₁ (some id) s₂) :
      Resteps thread request kind settings s (.ok ())
        { s₂ with steps := s₂.steps.modify thread fun p => { p with stepRequest := some id } }

private theorem restep_settles (thread : ThreadId) (request : RequestId) (kind : StepKind)
    (settings : SteppingSettings) (sound : Ledger.Sound s.machine) :
    Settles (restep thread request kind settings) s (Resteps thread request kind settings s) := by
  unfold restep
  apply (deleteIfAny_ends (some request) sound).andThen
  rintro _ s₁ ⟨deletes, same⟩
  apply (requestStep_settles thread _ deletes.sound).andThen
  · intro id s₂ asks
    exact .made deletes same asks
  · intro e s₂ asks
    exact .refused deletes same asks

/-- A thread whose step is `p` is expected to arrive by a request. -/
structure Expects (s : Session V) (thread : ThreadId) (request : RequestId) (p : PendingStep) :
    Prop where
  pending : s.steps.get? thread = some p
  current : p.stepRequest = some request
  alive : s.isRevoked p.subscription = false

/-- What the arrival of a thread comes to. -/
inductive Arrives (thread : ThreadId) (request : RequestId) (location : Location) (depth : Nat)
    (settings : SteppingSettings) (s : Session V) :
    Except SessionError StepOutcome → Session V → Prop
  | ignored (unknown : ∀ p, ¬ s.Expects thread request p) :
      Arrives thread request location depth settings s (.ok .ignored) s
  | again {p : PendingStep} {kind : StepKind} {s' : Session V}
      (expected : s.Expects thread request p) (goes : p.again? location depth settings = some kind)
      (resteps : Resteps thread request kind settings s (.ok ()) s') :
      Arrives thread request location depth settings s (.ok .continue) s'
  | failed {p : PendingStep} {kind : StepKind} {e : SessionError} {s' : Session V}
      (expected : s.Expects thread request p) (goes : p.again? location depth settings = some kind)
      (resteps : Resteps thread request kind settings s (.error e) s') :
      Arrives thread request location depth settings s (.error e) s'
  | completed {p : PendingStep} {s' : Session V} (expected : s.Expects thread request p)
      (past : p.again? location depth settings = none)
      (ended : Ended [p] (s.steps.erase thread) s s') :
      Arrives thread request location depth settings s
        (.ok (.completed { p with stepRequest := none, exitRequest := none })) s'

theorem handleStep_settles (thread : ThreadId) (request : RequestId) (location : Location)
    (depth : Nat) (settings : SteppingSettings) (sound : Ledger.Sound s.machine) :
    Settles (handleStep thread request location depth settings) s
      (Arrives thread request location depth settings s) := by
  have restepped : ∀ p kind, s.Expects thread request p →
      p.again? location depth settings = some kind →
      Settles (do
        restep thread request kind settings
        return StepOutcome.continue) s (Arrives thread request location depth settings s) := by
    intro p kind expected goes
    apply (restep_settles thread request kind settings sound).andThen
    · intro _ s' resteps
      exact .again expected goes resteps
    · intro e s' resteps
      exact .failed expected goes resteps
  unfold handleStep
  rw [settles_bind, settles_get]
  simp only
  split
  · rename_i idle
    refine .ignored fun p expected => ?_
    rw [expected.pending] at idle
    cases idle
  · rename_i p pending
    split
    · rename_i unexpected
      refine .ignored fun p' expected => ?_
      obtain rfl := Option.some.inj (pending.symm.trans expected.pending)
      simp [expected.current, expected.alive] at unexpected
    · rename_i expected
      have expected : s.Expects thread request p := by
        obtain ⟨current, alive⟩ : p.stepRequest = some request ∧
          s.isRevoked p.subscription = false := by simpa using expected
        exact ⟨pending, current, alive⟩
      split
      · rename_i skipped
        exact restepped p .out expected (by rw [PendingStep.again?, if_pos skipped])
      · rename_i stays
        split
        · rename_i same
          exact restepped p .into expected (by rw [PendingStep.again?, if_neg stays, if_pos same])
        · rename_i moved
          unfold takeStep
          rw [settles_bind, settles_quietly, Task.ends_modifyGet, pending]
          have past : p.again? location depth settings = none := by
            rw [PendingStep.again?, if_neg stays, if_neg moved]
          have taken : Ledger.Sound
            ({ s with steps := s.steps.erase thread } : Session V).machine := sound
          apply (teardown_ends p taken).andThen
          rintro p' s' ⟨rfl, ended⟩
          exact .completed expected past ended.taken

/-! ## Any operation -/

/-- What an operation on steps comes to. -/
inductive Takes (s : Session V) : StepOperation → StepAnswer → Session V → Prop
  | begin {thread : ThreadId} {kind : StepKind} {depth : Nat} {location : Location}
      {settings : SteppingSettings} {answer : Except SessionError Nat} {s₁ s' : Session V}
      (ended : Ended (s.steps.get? thread).toList (s.steps.erase thread) s s₁)
      (begins : Begins thread kind depth location settings s₁ answer s') :
      Takes s (.begin thread kind depth location settings) (.begun answer) s'
  | arrive {thread : ThreadId} {request : RequestId} {location : Location} {depth : Nat}
      {settings : SteppingSettings} {answer : Except SessionError StepOutcome} {s' : Session V}
      (arrives : Arrives thread request location depth settings s answer s') :
      Takes s (.arrive thread request location depth settings) (.arrived answer) s'
  | noted {thread : ThreadId} {request : RequestId} {location : Location} {depth : Nat}
      {value : Value} {p : PendingStep} (pending : s.steps.get? thread = some p)
      (watched : p.watchesExit request location depth = true) :
      Takes s (.exit thread request location depth value) (.exited true)
        { s with steps := s.steps.insert thread (p.noteResult location value) }
  | unnoted {thread : ThreadId} {request : RequestId} {location : Location} {depth : Nat}
      {value : Value} (unwatched : ∀ p, s.steps.get? thread = some p →
        p.watchesExit request location depth = false) :
      Takes s (.exit thread request location depth value) (.exited false) s
  | drop {thread : ThreadId} {s' : Session V}
      (ended : Ended (s.steps.get? thread).toList (s.steps.erase thread) s s') :
      Takes s (.drop thread) (.dropped (s.steps.get? thread).isSome) s'
  | dropAll {s' : Session V} (ended : Ended s.steps.values {} s s') : Takes s .dropAll .done s'
  | cancel : Takes s .cancel .done s.cancel

theorem stepTask_ends (op : StepOperation) (sound : Ledger.Sound s.machine) :
    Task.Ends (stepTask op) s (Takes s op) := by
  cases op with
  | begin thread kind depth location settings =>
    refine Task.Ends.bind (beginStep_settles thread kind depth location settings sound) ?_
    rintro answer s' ⟨s₁, ended, begins⟩
    exact .begin ended begins
  | arrive thread request location depth settings =>
    refine Task.Ends.bind (handleStep_settles thread request location depth settings sound) ?_
    intro answer s' arrives
    exact .arrive arrives
  | exit thread request location depth value =>
    simp only [stepTask, handleMethodExit, Task.ends_bind, Task.ends_modifyGet, Task.ends_pure]
    cases pending : s.steps.get? thread with
    | none => exact .unnoted fun p found => by rw [pending] at found; cases found
    | some p =>
      simp only
      split
      · rename_i watched
        exact .noted pending watched
      · rename_i unwatched
        refine .unnoted fun p' found => ?_
        obtain rfl := Option.some.inj (pending.symm.trans found)
        exact Bool.eq_false_iff.2 unwatched
  | drop thread =>
    refine (dropStep_ended thread sound).bind ?_
    rintro _ s' ⟨rfl, ended⟩
    exact .drop ended
  | dropAll => exact (dropAllSteps_ended sound).bind fun _ _ ended => .dropAll ended
  | cancel => exact .cancel

variable {thread : ThreadId}

/-- A step that begins is no matter of other threads. -/
theorem Begins.others {kind : StepKind} {depth : Nat} {location : Location}
    {settings : SteppingSettings} {answer : Except SessionError Nat} {t : ThreadId}
    (h : Begins thread kind depth location settings s answer s') (other : t ≠ thread) :
    s'.steps.get? t = s.steps.get? t := by
  cases h with
  | refused asks => rw [asks.steps]
  | lost asks watches => rw [watches.same.steps, asks.steps]
  | begun asks watches => rw [Table.get?_insert, if_neg other, watches.same.steps, asks.steps]

theorem Resteps.others {request : RequestId} {kind : StepKind} {settings : SteppingSettings}
    {answer : Except SessionError Unit} {t : ThreadId}
    (h : Resteps thread request kind settings s answer s') (other : t ≠ thread) :
    s'.steps.get? t = s.steps.get? t := by
  cases h with
  | refused _ same asks => rw [asks.steps, same.steps]
  | made _ same asks => rw [Table.get?_modify, if_neg other, asks.steps, same.steps]

theorem Ended.others {ps : List PendingStep} {t : ThreadId}
    (h : Ended ps (s.steps.erase thread) s s') (other : t ≠ thread) :
    s'.steps.get? t = s.steps.get? t := by
  rw [h.steps, Table.get?_erase, if_neg other]

theorem Begins.consults {thread : ThreadId} {kind : StepKind} {depth : Nat} {location : Location}
    {settings : SteppingSettings} {answer : Except SessionError Nat}
    (h : Begins thread kind depth location settings s answer s') : Consults s s' := by
  cases h with
  | refused asks => exact asks.toConsults
  | lost asks watches => exact asks.toConsults.trans (watches.consults asks.sound)
  | begun asks watches =>
    have consults := asks.toConsults.trans (watches.consults asks.sound)
    exact ⟨consults.sound, consults.calls⟩

theorem Resteps.consults {thread : ThreadId} {request : RequestId} {kind : StepKind}
    {settings : SteppingSettings} {answer : Except SessionError Unit}
    (h : Resteps thread request kind settings s answer s') : Consults s s' := by
  cases h with
  | refused deletes _ asks => exact deletes.toConsults.trans asks.toConsults
  | made deletes _ asks =>
    have consults := deletes.toConsults.trans asks.toConsults
    exact ⟨consults.sound, consults.calls⟩

theorem Takes.consults {op : StepOperation} {answer : StepAnswer} (sound : Ledger.Sound s.machine)
    (h : Takes s op answer s') : Consults s s' := by
  cases h with
  | begin ended begins => exact ended.deletes.toConsults.trans begins.consults
  | arrive arrives =>
    cases arrives with
    | ignored => exact .refl sound
    | again _ _ resteps => exact resteps.consults
    | failed _ _ resteps => exact resteps.consults
    | completed _ _ ended => exact ended.deletes.toConsults
  | drop ended => exact ended.deletes.toConsults
  | dropAll ended => exact ended.deletes.toConsults
  | _ => exact ⟨sound, List.prefix_rfl⟩

/-! ## Runs -/

/-- An operation that was answered, with the sessions before and after. -/
structure Moment (V : Type) where
  before : Session V
  op : StepOperation
  answer : StepAnswer
  after : Session V

/-- Whether the step of a thread has ended in a moment. -/
def Moment.isEnd (m : Moment V) (thread : ThreadId) : Bool := m.op.isEnd thread m.answer

/-- What becomes of operations, one after the other, and of the session. -/
def stepRun (s : Session V) : List StepOperation → List (Moment V) × Session V
  | [] => ([], s)
  | op :: rest =>
    let (answer, after) := (stepTask op).run advance s
    let (moments, s') := after.stepRun rest
    (⟨s, op, answer, after⟩ :: moments, s')

/-- Operations that come to what they can come to, one after the other. -/
inductive Walks : Session V → List (Moment V) → Session V → Prop
  | nil {s : Session V} (sound : Ledger.Sound s.machine) : Walks s [] s
  | cons {s after s' : Session V} {op : StepOperation} {answer : StepAnswer}
      {moments : List (Moment V)} (sound : Ledger.Sound s.machine)
      (takes : Takes s op answer after) (rest : Walks after moments s') :
      Walks s (⟨s, op, answer, after⟩ :: moments) s'

theorem stepRun_walks (ops : List StepOperation) (sound : Ledger.Sound s.machine) :
    Walks s (s.stepRun ops).1 (s.stepRun ops).2 := by
  induction ops generalizing s with
  | nil => exact .nil sound
  | cons op rest ih =>
    have takes : Takes s op _ _ := stepTask_ends op sound
    exact .cons sound takes (ih (takes.consults sound).sound)

variable {moments moments' : List (Moment V)}

theorem Walks.calls (h : Walks s moments s') : s.calls <+: s'.calls := by
  induction h with
  | nil => exact List.prefix_rfl
  | cons sound takes rest ih => exact (takes.consults sound).calls.trans ih

theorem Walks.split (h : Walks s (moments ++ moments') s') :
    ∃ s₁, Walks s moments s₁ ∧ Walks s₁ moments' s' := by
  induction moments generalizing s with
  | nil =>
    have sound : Ledger.Sound s.machine := by
      cases h with
      | nil sound => exact sound
      | cons sound => exact sound
    exact ⟨s, .nil sound, h⟩
  | cons e rest ih =>
    cases h with
    | cons sound takes h =>
      obtain ⟨s₁, first, second⟩ := ih h
      exact ⟨s₁, .cons sound takes first, second⟩

end Session
end DebugSession
