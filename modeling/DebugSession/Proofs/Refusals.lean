import DebugSession.Debuggee.Faults
import DebugSession.Proofs.Calls
import DebugSession.Proofs.Runs
/-!
Threads that were to run on and do not: the debuggee has refused something. What the session holds
of a halt is given up before the debuggee is asked to resume the thread, so a refusal by then leaves
the client without the halt. Only a step may be refused earlier, and then everything stays.
-/

namespace DebugSession

variable {V : Type}

namespace Session

variable {s s₁ s' : Session V} {thread : ThreadId}

/-- What the client can look into stays, steps apart, and no thread is let run. -/
structure Retains (s s' : Session V) : Prop where
  quiet : Quiet s s'
  snapshots : s'.snapshots = s.snapshots
  exceptions : s'.exceptions = s.exceptions
  results : s'.results = s.results

instance : Composes (Retains (V := V)) where
  refl _ := ⟨Composes.refl _, rfl, rfl, rfl⟩
  trans h h' := ⟨Composes.trans h.quiet h'.quiet, h'.snapshots.trans h.snapshots,
    h'.exceptions.trans h.exceptions, h'.results.trans h.results⟩

section

variable [Machine V]

instance : Ambient (Retains (V := V)) where
  advance _ _ := ⟨.of_eq rfl rfl rfl rfl, rfl, rfl, rfl⟩
  cancel _ := ⟨.of_eq rfl rfl rfl rfl, rfl, rfl, rfl⟩

theorem Retains.allows {c : Call} (stays : c.resumes = false) : Allows (Retains (V := V)) c :=
  allows_of_parts (fun _ => ⟨.of_eq rfl rfl rfl rfl, rfl, rfl, rfl⟩)
    (fun _ => ⟨.of_eq rfl rfl rfl rfl, rfl, rfl, rfl⟩) fun _ r =>
      ⟨⟨Nat.le_refl _, rfl, rfl, [.ofReply c r], rfl, by simp [stays]⟩, rfl, rfl, rfl⟩

instance : Treads (Retains (V := V)) where
  delete _ := Retains.allows rfl
  steps _ _ := ⟨.of_eq rfl rfl rfl rfl, rfl, rfl, rfl⟩
  tokens _ _ := ⟨.of_eq rfl rfl rfl rfl, rfl, rfl, rfl⟩
  stride _ _ _ := Retains.allows rfl

end

/-- What the session holds of a thread's halt is the same. -/
structure SameHalt (thread : ThreadId) (s s' : Session V) : Prop where
  stopped : s'.stopped.get? thread = s.stopped.get? thread
  frames : ∀ p, s.stopped.get? thread = some p → s'.framesOf p = s.framesOf p
  handles : ∀ reference e, e.owner = thread →
    (s'.resolve? reference = some e ↔ s.resolve? reference = some e)
  exceptions : s'.exceptions.get? thread = s.exceptions.get? thread
  results : s'.results.get? thread = s.results.get? thread

/-- Whether the debuggee was asked meanwhile to let a thread run. -/
def AsksToResume (thread : ThreadId) (s s' : Session V) : Prop :=
  ∃ x ∈ s'.calls.drop s.calls.length, x.call = .resume thread ∨ x.call = .resumeAll

instance : Decidable (AsksToResume thread s s') :=
  inferInstanceAs (Decidable (∃ x ∈ s'.calls.drop s.calls.length, _))

theorem Retains.sameHalt (h : Retains s s') : SameHalt thread s s' where
  stopped := by rw [h.quiet.stopped]
  frames p _ := by rw [framesOf, framesOf, h.snapshots]
  handles reference e _ := by rw [resolve?, resolve?, h.quiet.handles]
  exceptions := by rw [h.exceptions]
  results := by rw [h.results]

theorem Retains.not_asksToResume (h : Retains s s') : ¬ AsksToResume thread s s' := by
  rintro ⟨x, mem, asked⟩
  obtain ⟨xs, calls, none⟩ := h.quiet.calls
  rw [calls, List.drop_left] at mem
  refine none x mem ?_
  rcases asked with asked | asked <;> rw [asked] <;> rfl

/-- The halt is forgotten, and then the debuggee is asked to let the thread run. -/
structure Relinquishes (thread : ThreadId) (s s' : Session V) : Prop where
  forgotten : s'.stopped.get? thread = none
  asked : AsksToResume thread s s'

/-- How a client lets threads run. -/
inductive Resumption where
  /-- A thread makes a step. -/
  | step (kind : StepKind)
  /-- A thread runs on. -/
  | alone
  /-- All threads run on. -/
  | all
  deriving DecidableEq, Repr

variable [Machine V]

def Resumption.perform (r : Resumption) (thread : ThreadId) : Action V Unit :=
  match r with
  | .step kind => Session.step thread kind
  | .alone => resumeThread thread
  | .all => continueAll

/-- Asking comes last, and whatever the answer is, the halt is gone by then. -/
private theorem relinquishes_of_call {c : Call} {wrap : RemoteError → SessionError}
    (calls : ∃ xs, s₁.calls = s.calls ++ xs) (forgotten : s₁.stopped.get? thread = none)
    (lets : c = .resume thread ∨ c = .resumeAll) :
    Settles ((call c).orFail wrap) s₁ fun _ s' => Relinquishes thread s s' := by
  rw [settles_orFail]
  apply (tryCall_ends c s₁).mono
  rintro r s' ⟨machine, clock, cancelled, rfl, -⟩
  obtain ⟨xs, calls⟩ := calls
  refine ⟨forgotten, .ofReply c r, ?_, by simpa using lets⟩
  rw [called_calls, calls, List.append_assoc, List.drop_left]
  simp

omit [Machine V] in
private theorem Retains.exists_calls (h : Retains s s') : ∃ xs, s'.calls = s.calls ++ xs := by
  obtain ⟨xs, calls, -⟩ := h.quiet.calls
  exact ⟨xs, calls⟩

private theorem resumeThread_relinquishes (thread : ThreadId) (s : Session V) :
    Settles (resumeThread thread) s fun _ s' => Relinquishes thread s s' := by
  have dropped : Task.Ends (dropStep thread) s fun _ s' => Retains s s' :=
    (dropStep_moves thread).ends Ambient.advance s
  apply dropped.andThen
  intro _ s₁ retains
  rw [settles_bind, settles_modify]
  refine relinquishes_of_call ?_ (by simp [Table.get?_erase]) (.inl rfl)
  rw [threadResumed_calls]
  exact retains.exists_calls

private theorem continueAll_relinquishes (thread : ThreadId) (s : Session V) :
    Settles continueAll s fun _ s' => Relinquishes thread s s' := by
  have dropped : Task.Ends dropAllSteps s fun _ s' => Retains s s' :=
    dropAllSteps_moves.ends Ambient.advance s
  apply dropped.andThen
  intro _ s₁ retains
  rw [settles_bind, settles_modify]
  refine relinquishes_of_call ?_ (by rw [allResumed_stopped]; rfl) (.inr rfl)
  rw [allResumed_calls]
  exact retains.exists_calls

/-- A step that cannot begin changes nothing of the halt. -/
private theorem step_settles_either (thread : ThreadId) (kind : StepKind) (s : Session V) :
    Settles (step thread kind) s fun _ s' => Retains s s' ∨ Relinquishes thread s s' := by
  have stood : Settles (liftExcept (s.standing thread) : Action V _) s
      fun _ s' => Retains s s' := (settles_liftExcept _).2 (Composes.refl s)
  rw [step, settles_bind, settles_get]
  refine stood.andThen (fun found s₁ first => ?_) fun _ s₁ retains => .inl retains
  have begun : Settles (beginStep thread kind found.1 found.2 s.settings.stepping) s₁
      fun _ s' => Retains s₁ s' :=
    (beginStep_stirs ..).settles Ambient.advance s₁
  refine begun.andThen (fun _ s₂ second => ?_)
    fun _ s₂ second => .inl (Composes.trans first second)
  rw [settles_bind, settles_modify]
  refine (relinquishes_of_call ?_ (by simp [Table.get?_erase]) (.inl rfl)).mono fun _ _ => .inr
  rw [threadResumed_calls]
  exact (Composes.trans first second).exists_calls

/-- However a thread was to run on and whatever has failed: what is held of its halt is as before
if and only if the debuggee was not asked to let it run, and only a step can fail before that. -/
theorem sameHalt_iff_not_asked (halted : (s.stopped.get? thread).isSome = true) (r : Resumption) :
    Settles (r.perform thread) s fun answer s' => ∀ e, answer = .error e →
      (SameHalt thread s s' ↔ ¬ AsksToResume thread s s') ∧
        (¬ AsksToResume thread s s' → ∃ kind, r = .step kind) := by
  have relinquished : ∀ {s'}, Relinquishes thread s s' →
      (SameHalt thread s s' ↔ ¬ AsksToResume thread s s') := by
    intro s' given
    refine ⟨fun same => ?_, fun unasked => absurd given.asked unasked⟩
    rw [← same.stopped, given.forgotten] at halted
    cases halted
  cases r with
  | step kind =>
    refine (step_settles_either thread kind s).mono fun _ s' either _ _ =>
      ⟨?_, fun _ => ⟨kind, rfl⟩⟩
    rcases either with retains | given
    · exact ⟨fun _ => retains.not_asksToResume, fun _ => retains.sameHalt⟩
    · exact relinquished given
  | alone =>
    exact (resumeThread_relinquishes thread s).mono fun _ _ given _ _ =>
      ⟨relinquished given, fun unasked => absurd given.asked unasked⟩
  | all =>
    exact (continueAll_relinquishes thread s).mono fun _ _ given _ _ =>
      ⟨relinquished given, fun unasked => absurd given.asked unasked⟩

/-! ## A thread with an exception -/

/-- A debuggee whose first call of a kind is not answered in time, before it has done anything. -/
def unresponsive (kind : CallKind) : Faulty Debuggee where
  machine := ((({} : Debuggee).addThread 1 "main").setFrames 1
    [{ location := { className := "A", methodName := "m", line := 5 } }]).suspendThread 1
  plan := [⟨kind, 0, 1, .timeout 5⟩]

def exceptionThrown : Input (Faulty Debuggee) :=
  .event (.exception 1 1 { className := "A", methodName := "m", line := 5 } ⟨7, "E", .plain⟩ true)

/-- Its thread is halted by an exception. -/
def haltedBefore (kind : CallKind) : Session (Faulty Debuggee) :=
  (start (unresponsive kind) {} {}).after exceptionThrown

/-- Then its thread was to run on. -/
def haltedAfter (kind : CallKind) (r : Resumption) :
    Except SessionError Unit × Session (Faulty Debuggee) :=
  Task.run advance (r.perform 1).run (haltedBefore kind)

theorem sameHalt_after_refused_step :
    (haltedAfter .createRequest (.step .into)).1 = .error (stepFailed 1 (.timeout 5)) ∧
      SameHalt 1 (haltedBefore .createRequest) (haltedAfter .createRequest (.step .into)).2 := by
  have halted : ((haltedBefore .createRequest).stopped.get? 1).isSome = true := by decide +kernel
  have failed : (haltedAfter .createRequest (.step .into)).1 =
      .error (stepFailed 1 (.timeout 5)) := by decide +kernel
  have unasked : ¬ AsksToResume 1 (haltedBefore .createRequest)
      (haltedAfter .createRequest (.step .into)).2 := by decide +kernel
  exact ⟨failed, ((sameHalt_iff_not_asked halted (.step .into)) _ failed).1.2 unasked⟩

/-- A resume that is not answered in time has not resumed the thread, but its halt and the exception
are forgotten. -/
theorem refused_resume_loses_halt : Reachable (haltedBefore .resume) ∧
    ((haltedBefore .resume).stopped.get? 1).isSome = true ∧
    (haltedAfter .resume .alone).1 = .error (.remote (.timeout 5)) ∧
    ((haltedAfter .resume .alone).2.machine.machine.threads.get? 1).any (·.suspended) = true ∧
    (haltedAfter .resume .alone).2.exceptions.get? 1 = none ∧
    ¬ SameHalt 1 (haltedBefore .resume) (haltedAfter .resume .alone).2 := by
  have reachable : Reachable (haltedBefore .resume) :=
    ⟨unresponsive .resume, {}, {}, .step exceptionThrown .refl trivial (by decide +kernel)⟩
  have lost : (haltedAfter .resume .alone).2.stopped.get? 1 ≠
      (haltedBefore .resume).stopped.get? 1 := by decide +kernel
  exact ⟨reachable, by decide +kernel, by decide +kernel, by decide +kernel, by decide +kernel,
    fun same => lost same.stopped⟩

end Session
end DebugSession
