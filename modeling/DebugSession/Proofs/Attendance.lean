import DebugSession.Debuggee.Faults
import DebugSession.Proofs.Calls
import DebugSession.Proofs.Runs
/-!
What becomes of a thread that an event has halted: the client is told and the halt is recorded, or
the thread is let run. Only a step that is made again, and then refused by the debuggee, comes to
neither.
-/

namespace DebugSession

/-- The thread that an event reports to have halted. -/
def Protocol.Event.halted? : Protocol.Event → Option Int64
  | .stopped body => body.threadId
  | _ => none

/-- The thread that a call asks to take a step. -/
def Call.stepped? : Call → Option ThreadId
  | .createRequest (.step thread _ _) => some thread
  | _ => none

/-- A step of the thread was asked of the debuggee, in vain. -/
def Exchange.RefusesStep (thread : ThreadId) (x : Exchange) : Prop :=
  x.failure ≠ none ∧ x.call.stepped? = some thread

instance (thread : ThreadId) (x : Exchange) : Decidable (x.RefusesStep thread) :=
  inferInstanceAs (Decidable (_ ∧ _))

namespace Session

variable {V : Type} {thread : ThreadId} {s s₁ s' : Session V}

/-! ## What becomes of a thread -/

/-- The thread has neither been reported nor let run yet, and no step of it was refused. -/
def Undecided (thread : ThreadId) (s s' : Session V) : Prop :=
  ∃ xs es, Adds xs es s s' ∧ (∀ e ∈ es, e.halted? = none) ∧
    (∀ x ∈ xs, x.call ≠ .resume thread) ∧ ∀ x ∈ xs, ¬ x.RefusesStep thread

inductive Outcome (thread : ThreadId) (s s' : Session V) : Prop
  | reported {xs : List Exchange} {es : List Protocol.Event} (added : Adds xs es s s')
    (told : ∃ e ∈ es, e.halted? = some (Int64.ofNat thread))
    (recorded : (s'.stopped.get? thread).isSome = true) (fine : ∀ x ∈ xs, ¬ x.RefusesStep thread)
  | released {xs : List Exchange} {es : List Protocol.Event} (added : Adds xs es s s')
    (resumed : ∃ x ∈ xs, x.call = .resume thread) (fine : ∀ x ∈ xs, ¬ x.RefusesStep thread)
  | refused {xs : List Exchange} {es : List Protocol.Event} (added : Adds xs es s s')
    (silent : ∀ e ∈ es, e.halted? = none) (still : ∀ x ∈ xs, x.call ≠ .resume thread)
    (refusal : ∃ x ∈ xs, x.RefusesStep thread)

theorem Undecided.of_eq (calls : s'.calls = s.calls) (pending : s'.pending = s.pending) :
    Undecided thread s s' :=
  ⟨[], [], ⟨by simpa using calls, by simpa using pending⟩, by simp, by simp, by simp⟩

instance : Composes (Undecided thread (V := V)) where
  refl _ := .of_eq rfl rfl
  trans := by
    rintro s s₁ s' ⟨xs, es, added, silent, still, fine⟩ ⟨xs', es', added', silent', still', fine'⟩
    exact ⟨xs ++ xs', es ++ es', added.trans added', List.forall_mem_append.2 ⟨silent, silent'⟩,
      List.forall_mem_append.2 ⟨still, still'⟩, List.forall_mem_append.2 ⟨fine, fine'⟩⟩

theorem undecided_announce (thread : ThreadId) (s : Session V) {e : Protocol.Event}
    (h : e.halted? = none) : Undecided thread s (s.announce e) :=
  ⟨[], [e], ⟨by simp [announce], rfl⟩, by simpa using h, by simp, by simp⟩

theorem undecided_terminate (thread : ThreadId) (s : Session V) :
    Undecided thread s (terminate s) := by
  by_cases gone : s.cancelled = true
  · simp only [terminate, gone, if_true]
    exact Composes.refl s
  · simp only [terminate, gone]
    have exited : Undecided thread s (s.announce (.exited ⟨0⟩)) := undecided_announce thread s rfl
    have terminated : Undecided thread (s.announce (.exited ⟨0⟩))
        ((s.announce (.exited ⟨0⟩)).announce .terminated) := undecided_announce thread _ rfl
    exact Composes.trans (Composes.trans exited terminated) (.of_eq rfl rfl)

namespace Outcome

theorem after (first : Undecided thread s s₁) (h : Outcome thread s₁ s') :
    Outcome thread s s' := by
  obtain ⟨xs, es, before, silent, still, fine⟩ := first
  cases h with
  | reported added told recorded fine' =>
    obtain ⟨e, he, same⟩ := told
    exact .reported (before.trans added) ⟨e, by simp [he], same⟩ recorded
      (List.forall_mem_append.2 ⟨fine, fine'⟩)
  | released added resumed fine' =>
    obtain ⟨x, hx, same⟩ := resumed
    exact .released (before.trans added) ⟨x, by simp [hx], same⟩
      (List.forall_mem_append.2 ⟨fine, fine'⟩)
  | refused added silent' still' refusal =>
    obtain ⟨x, hx, refuses⟩ := refusal
    exact .refused (before.trans added) (List.forall_mem_append.2 ⟨silent, silent'⟩)
      (List.forall_mem_append.2 ⟨still, still'⟩) ⟨x, by simp [hx], refuses⟩

/-- More may happen once it is decided, as long as the recorded halts stay. -/
theorem before (h : Outcome thread s s₁) (last : Undecided thread s₁ s')
    (stopped : s'.stopped = s₁.stopped) : Outcome thread s s' := by
  obtain ⟨xs, es, after, silent, still, fine⟩ := last
  cases h with
  | reported added told recorded fine' =>
    obtain ⟨e, he, same⟩ := told
    exact .reported (added.trans after) ⟨e, by simp [he], same⟩ (stopped ▸ recorded)
      (List.forall_mem_append.2 ⟨fine', fine⟩)
  | released added resumed fine' =>
    obtain ⟨x, hx, same⟩ := resumed
    exact .released (added.trans after) ⟨x, by simp [hx], same⟩
      (List.forall_mem_append.2 ⟨fine', fine⟩)
  | refused added silent' still' refusal =>
    obtain ⟨x, hx, refuses⟩ := refusal
    exact .refused (added.trans after) (List.forall_mem_append.2 ⟨silent', silent⟩)
      (List.forall_mem_append.2 ⟨still', still⟩) ⟨x, by simp [hx], refuses⟩

/-- The client is told of a halt that is on record. -/
theorem announce (first : Undecided thread s s₁)
    (recorded : (s₁.stopped.get? thread).isSome = true) (reason : String) (text : Option String)
    (ids : List UInt32) :
    Outcome thread s (s₁.announce (.halted reason (Int64.ofNat thread) text ids)) := by
  have added : Adds [] [.halted reason (Int64.ofNat thread) text ids] s₁
      (s₁.announce (.halted reason (Int64.ofNat thread) text ids)) :=
    ⟨(List.append_nil _).symm, rfl⟩
  exact .after first (.reported added ⟨_, List.mem_singleton_self _, rfl⟩ recorded (by simp))

end Outcome

/-! ## Dealing with an event -/

/-- Nothing is decided about a thread while work on its step succeeds. -/
private def Proceeds (thread : ThreadId) (s : Session V) : Except SessionError α → Session V → Prop
  | .ok _, s' => Undecided thread s s'
  | .error _, s' => Outcome thread s s'

theorem undecided_called {c : Call} {r : Except RemoteError c.Reply} {machine : V} {clock : Nat}
    {cancelled : Bool} (still : c ≠ .resume thread)
    (fine : ¬ (Exchange.ofReply c r).RefusesStep thread) :
    Undecided thread s (s.called machine clock cancelled (.ofReply c r)) :=
  ⟨[.ofReply c r], [], ⟨rfl, by simp [called]⟩, by simp, by simpa using still, by simpa using fine⟩

private theorem undecided_ends {α : Type} {x : Task (Session V) α}
    (h : Task.Moves (Undecided thread) x) (s : Session V) :
    Task.Ends x s fun _ s' => Undecided thread s s' :=
  h.ends (fun _ _ => .of_eq rfl rfl) s

variable [Machine V]

private theorem not_refusesStep {c : Call} (h : c.stepped? = none)
    (r : Except RemoteError c.Reply) : ¬ (Exchange.ofReply c r).RefusesStep thread := by
  rintro ⟨-, same⟩
  rw [Exchange.call_ofReply, h] at same
  cases same

instance : Ambient (Undecided thread (V := V)) where
  advance _ _ := .of_eq rfl rfl
  cancel _ := .of_eq rfl rfl

private theorem undecided_allows {c : Call} (still : c ≠ .resume thread)
    (fine : c.stepped? = none) : Allows (Undecided thread (V := V)) c :=
  allows_of_parts (fun _ => .of_eq rfl rfl) (fun _ => .of_eq rfl rfl) fun _ r =>
    ⟨[.ofReply c r], [], ⟨rfl, by simp [note]⟩, by simp, by simpa using still,
      by simpa using not_refusesStep fine r⟩

instance : Browses (Undecided thread (V := V)) where
  query c h := undecided_allows (by rintro rfl; cases h) (by cases c <;> first | rfl | cases h)
  snapshot _ _ _ := .of_eq rfl rfl
  cell _ _ _ := .of_eq rfl rfl

instance : Paces (Undecided thread (V := V)) where
  delete _ := undecided_allows nofun rfl
  steps _ _ := .of_eq rfl rfl
  tokens _ _ := .of_eq rfl rfl

/-- The halt is recorded; the client is told afterwards. -/
private theorem halt_ends (thread : ThreadId) (s : Session V) :
    Task.Ends (threadHalted thread) s fun _ s' =>
      Undecided thread s s' ∧ (s'.stopped.get? thread).isSome = true := by
  have moves : Task.Moves (Undecided thread) (threadHalted thread : Task (Session V) _) :=
    threadHalted_moves thread (fun _ _ => .of_eq rfl rfl) fun _ _ => .of_eq rfl rfl
  refine ((undecided_ends moves s).and (threadHalted_ends thread s)).mono ?_
  rintro _ s' ⟨undecided, p, s₁, own, -, -, -, last⟩
  refine ⟨undecided, ?_⟩
  rw [last.stopped]
  simp [recordHalt, Table.get?_insert, own]

private theorem drop_ends' (thread : ThreadId) (s : Session V) :
    Task.Ends (dropStep thread) s fun _ s' => Undecided thread s s' :=
  undecided_ends (dropStep_moves thread) s

private theorem depth_ends (thread : ThreadId) (s : Session V) :
    Task.Ends (depthOf thread) s fun _ s' => Undecided thread s s' := by
  refine undecided_ends (.bind (Browses.query _ rfl) fun r => ?_) s
  cases r <;> exact .pure _

private theorem release_outcome (thread : ThreadId) (s : Session V) :
    Settles (release thread) s fun _ s' => Outcome thread s s' := by
  simp only [release, settles_orFail]
  apply (tryCall_ends (.resume thread) s).mono
  rintro r _ ⟨machine, clock, cancelled, rfl, -⟩
  have added : Adds [.ofReply (.resume thread) r] [] s
      (s.called machine clock cancelled (.ofReply (.resume thread) r)) := ⟨rfl, by simp [called]⟩
  exact .released added (by simp) (by simpa using not_refusesStep rfl r)

private theorem hit_outcome (request : RequestId) (thread : ThreadId) (location : Location)
    (reason : String) (s : Session V) :
    Settles (onHit request thread location reason) s fun _ s' => Outcome thread s s' := by
  simp only [onHit, settles_bind, settles_get]
  split
  · exact release_outcome thread s
  · rename_i installed _
    have counted : Task.Ends (hitInstalled installed) s fun _ s' => Undecided thread s s' :=
      .of_eq rfl rfl
    apply counted.andThen
    intro action s₁ first
    cases action with
    | stop =>
      apply (drop_ends' thread s₁).andThen
      intro _ s₂ dropped
      apply (halt_ends thread s₂).andThen
      rintro _ s₃ ⟨halts, recorded⟩
      rw [settles_modify]
      exact .announce (Composes.trans (Composes.trans first dropped) halts) recorded _ _ _
    | log text =>
      rw [settles_bind, settles_modify]
      have told : Undecided thread s₁ (s₁.announce (.ofOutput "console" (text ++ "\n"))) :=
        undecided_announce thread s₁ rfl
      exact (release_outcome thread _).mono fun _ _ => .after (Composes.trans first told)
    | «continue» => exact (release_outcome thread s₁).mono fun _ _ => .after first

/-- A step that is made again is under way again, or it was refused. -/
private theorem restep_outcome (thread : ThreadId) (request : RequestId) (kind : StepKind)
    (settings : SteppingSettings) (s : Session V) :
    Settles (restep thread request kind settings) s (Proceeds thread s) := by
  have deleted : Task.Ends (deleteIfAny (some request)) s fun _ s' => Undecided thread s s' :=
    undecided_ends (.bind (Paces.delete request) fun _ => .pure _) s
  apply deleted.andThen
  intro _ s₁ first
  simp only [settles_bind, settles_orFail, settles_modify]
  apply (tryCall_ends (.createRequest (.step thread kind settings.classFilters)) s₁).mono
  rintro r _ ⟨machine, clock, cancelled, rfl, -⟩
  cases r with
  | ok id =>
    have created : Undecided thread s₁ (s₁.called machine clock cancelled
        (.ofReply (.createRequest (.step thread kind settings.classFilters)) (.ok id))) :=
      undecided_called (by simp) fun refuses => refuses.1 rfl
    exact Composes.trans (Composes.trans first created) (.of_eq rfl rfl)
  | error e =>
    have added : Adds [⟨.createRequest (.step thread kind settings.classFilters), some e⟩] [] s₁
        (s₁.called machine clock cancelled
          ⟨.createRequest (.step thread kind settings.classFilters), some e⟩) :=
      ⟨rfl, by simp [called]⟩
    have refusal : Exchange.RefusesStep thread
        ⟨.createRequest (.step thread kind settings.classFilters), some e⟩ := ⟨by simp, rfl⟩
    exact .after first (.refused added (by simp) (by simp) ⟨_, List.mem_singleton_self _, refusal⟩)

private theorem handleStep_outcome (thread : ThreadId) (request : RequestId)
    (location : Location) (depth : Nat) (settings : SteppingSettings) (s : Session V) :
    Settles (handleStep thread request location depth settings) s (Proceeds thread s) := by
  have again : ∀ kind, Settles (do
      restep thread request kind settings
      return StepOutcome.continue : Action V _) s (Proceeds thread s) := fun kind =>
    (restep_outcome thread request kind settings s).andThen (fun _ _ h => h) fun _ _ h => h
  simp only [handleStep, settles_bind, settles_get]
  have kept : Undecided thread s s := Composes.refl s
  split
  · exact kept
  · split
    · exact kept
    · split
      · exact again .out
      · split
        · exact again .into
        · have taken : Task.Ends (takeStep thread) s fun _ s' => Undecided thread s s' :=
            .of_eq rfl rfl
          apply taken.andThen
          intro found s₁ first
          cases found with
          | none => exact first
          | some p =>
            apply (undecided_ends (teardown_moves p) s₁).andThen
            intro _ s₂ torn
            exact Composes.trans first torn

private theorem step_outcome (request : RequestId) (thread : ThreadId) (location : Location)
    (s : Session V) :
    Settles (onStep request thread location) s fun _ s' => Outcome thread s s' := by
  apply (depth_ends thread s).andThen
  intro depth s₁ asked
  rw [settles_bind, settles_get]
  refine (handleStep_outcome thread request location depth s₁.settings.stepping s₁).andThen
    (fun outcome s₂ (handled : Undecided thread s₁ s₂) => ?_) fun _ _ h => .after asked h
  have first := Composes.trans asked handled
  cases outcome with
  | completed p =>
    apply (halt_ends thread s₂).andThen
    rintro _ s₃ ⟨halts, recorded⟩
    have done := Composes.trans first halts
    cases p.result with
    | none => exact .announce done recorded _ _ _
    | some result =>
      have kept : Undecided thread s₃ { s₃ with results := s₃.results.insert thread result } :=
        .of_eq rfl rfl
      exact .announce (Composes.trans done kept) recorded _ _ _
  | «continue» => exact (release_outcome thread s₂).mono fun _ _ => .after first
  | ignored => exact (release_outcome thread s₂).mono fun _ _ => .after first

private theorem methodExit_outcome (request : RequestId) (thread : ThreadId)
    (location : Location) (value : Value) (s : Session V) :
    Settles (onMethodExit request thread location value) s fun _ s' => Outcome thread s s' := by
  apply (depth_ends thread s).andThen
  intro depth s₁ asked
  apply (undecided_ends (handleMethodExit_moves thread request location depth value) s₁).andThen
  intro _ s₂ noted
  exact (release_outcome thread s₂).mono fun _ _ => .after (Composes.trans asked noted)

private theorem exception_outcome (thread : ThreadId) (location : Location)
    (exception : ObjectRef) (caught : Bool) (s : Session V) :
    Settles (onException thread location exception caught) s fun _ s' => Outcome thread s s' := by
  apply (drop_ends' thread s).andThen
  intro _ s₁ dropped
  apply (halt_ends thread s₁).andThen
  rintro _ s₂ ⟨halts, recorded⟩
  have noted : Undecided thread s₂ { s₂ with
      exceptions := s₂.exceptions.insert thread { exception, location, caught } } := .of_eq rfl rfl
  exact .announce (Composes.trans (Composes.trans dropped halts) noted) recorded _ _ _

theorem pumpEvent_outcome {e : VmEvent} (about : e.thread? = some thread)
    (halts : e.halts = true) (s : Session V) :
    Task.Ends (pumpEvent e) s fun _ s' => Outcome thread s s' := by
  have handled : Settles (handleEvent e) s fun _ s' => Outcome thread s s' := by
    cases e with
    | breakpoint request other location =>
      obtain rfl := Option.some.inj about
      exact (hit_outcome request other location _ s).andThen (fun _ _ h => h) fun _ _ h => h
    | watchpoint request other location =>
      obtain rfl := Option.some.inj about
      exact (hit_outcome request other location _ s).andThen (fun _ _ h => h) fun _ _ h => h
    | step request other location =>
      obtain rfl := Option.some.inj about
      exact (step_outcome request other location s).andThen (fun _ _ h => h) fun _ _ h => h
    | methodExit request other location value =>
      obtain rfl := Option.some.inj about
      exact (methodExit_outcome request other location value s).andThen
        (fun _ _ h => h) fun _ _ h => h
    | exception request other location exception caught =>
      obtain rfl := Option.some.inj about
      exact (exception_outcome other location exception caught s).andThen
        (fun _ _ h => h) fun _ _ h => h
    | _ => cases halts
  refine Task.Ends.bind handled ?_
  intro r s₁ outcome
  cases r with
  | ok isOver => exact outcome
  | error failure =>
    dsimp only
    split
    · have stopped : (terminate s₁).stopped = s₁.stopped := by
        simp only [terminate]
        split <;> rfl
      exact outcome.before (undecided_terminate thread s₁) stopped
    · exact outcome

/-! ## No thread is left hanging -/

/-- The client was told that the thread has halted, and the halt is on record. -/
def Reports (thread : ThreadId) (s s' : Session V) : Prop :=
  (∃ e ∈ s'.pending.drop s.pending.length, e.halted? = some (Int64.ofNat thread)) ∧
    (s'.stopped.get? thread).isSome = true

/-- The debuggee was asked to let the thread run. -/
def Releases (thread : ThreadId) (s s' : Session V) : Prop :=
  ∃ x ∈ s'.calls.drop s.calls.length, x.call = .resume thread

def StepRefused (thread : ThreadId) (s s' : Session V) : Prop :=
  ∃ x ∈ s'.calls.drop s.calls.length, x.RefusesStep thread

instance (thread : ThreadId) (s s' : Session V) : Decidable (Reports thread s s') :=
  inferInstanceAs (Decidable ((∃ e ∈ s'.pending.drop s.pending.length, _) ∧ _))

instance (thread : ThreadId) (s s' : Session V) : Decidable (Releases thread s s') :=
  inferInstanceAs (Decidable (∃ x ∈ s'.calls.drop s.calls.length, _))

instance (thread : ThreadId) (s s' : Session V) : Decidable (StepRefused thread s s') :=
  inferInstanceAs (Decidable (∃ x ∈ s'.calls.drop s.calls.length, _))

/-- A thread that an event has halted is reported or let run if and only if the debuggee has not
refused to go on with its step. -/
theorem attended_iff (s : Session V) (e : VmEvent) (about : e.thread? = some thread)
    (halts : e.halts = true) :
    Reports thread s (s.after (.event e)) ∨ Releases thread s (s.after (.event e)) ↔
      ¬ StepRefused thread s (s.after (.event e)) := by
  have outcome : Outcome thread s (s.after (.event e)) := pumpEvent_outcome about halts s
  cases outcome with
  | reported added told recorded fine =>
    simp only [Reports, Releases, StepRefused, added.newCalls, added.newEvents]
    constructor
    · rintro - ⟨x, hx, refuses⟩
      exact fine x hx refuses
    · intro _
      exact .inl ⟨told, recorded⟩
  | released added resumed fine =>
    simp only [Reports, Releases, StepRefused, added.newCalls, added.newEvents]
    constructor
    · rintro - ⟨x, hx, refuses⟩
      exact fine x hx refuses
    · intro _
      exact .inr resumed
  | refused added silent still refusal =>
    simp only [Reports, Releases, StepRefused, added.newCalls, added.newEvents]
    constructor
    · rintro (⟨⟨e, he, told⟩, -⟩ | ⟨x, hx, resumed⟩)
      · rw [silent e he] at told
        cases told
      · exact absurd resumed (still x hx)
    · intro fine
      exact absurd refusal fine

/-- A debuggee with one thread, which stands in a method. -/
def inMethod : Debuggee :=
  ((({} : Debuggee).addThread 1 "main").setFrames 1
    [{ location := { className := "A", methodName := "m", line := 5 } }]).suspendThread 1

def refusing : Faulty Debuggee :=
  { machine := inMethod, plan := [⟨.createRequest, 0, 1, .timeout 5⟩] }

def arrival : VmEvent := .step 1 1 { className := "A", methodName := "m", line := 5 }

theorem attended_after_stray_arrival :
    arrival.thread? = some 1 ∧ arrival.halts = true ∧
      Releases 1 (start inMethod {} {}) ((start inMethod {} {}).after (.event arrival)) := by
  refine ⟨rfl, rfl, ?_⟩
  have attended := (attended_iff (start inMethod {} {}) arrival rfl rfl).2 (by decide +kernel)
  exact attended.resolve_left (by decide +kernel)

/-- The step of a halted thread into a method has not moved on, and cannot be made again. -/
def stuckStep : Session (Faulty Debuggee) :=
  [.event (.exception 1 1 { className := "A", methodName := "m", line := 5 } ⟨7, "E", .plain⟩ true),
    .message ⟨1, "request", "stepIn", some (.obj [("threadId", .ofInt 1)])⟩,
    .debuggee refusing].foldl after (start { machine := inMethod } {} {})

theorem refused_step_left_hanging :
    Reachable stuckStep ∧ arrival.thread? = some 1 ∧ arrival.halts = true ∧
      (∀ x ∈ (stuckStep.after (.event arrival)).calls, x.failure ≠ some .disconnected) ∧
      ¬ (Reports 1 stuckStep (stuckStep.after (.event arrival)) ∨
        Releases 1 stuckStep (stuckStep.after (.event arrival))) := by
  refine ⟨?_, rfl, rfl, by decide +kernel, by decide +kernel⟩
  exact Reachable.foldl ⟨_, {}, {}, .refl⟩ _ (by decide +kernel)

end Session
end DebugSession
