import DebugSession.Debuggee.Calls
import DebugSession.Proofs.Runs
/-!
Threads that are let run, and what the session still knows of their halts. A client that lets a
thread run has the halt forgotten first. An event that concerns nobody lets its thread run too, and
then the halt is only forgotten if there was none.
-/

namespace DebugSession.Session

variable {V : Type}

/-- The debuggee has let a thread run, on its own or with all others. -/
def LetsRun (thread : ThreadId) (s s' : Session V) : Prop :=
  ∃ x ∈ s'.calls.drop s.calls.length,
    x.failure = none ∧ (x.call = .resume thread ∨ x.call = .resumeAll)

instance (thread : ThreadId) (s s' : Session V) : Decidable (LetsRun thread s s') :=
  inferInstanceAs (Decidable (∃ x ∈ s'.calls.drop s.calls.length, _))

/-- There is no halt of the thread on record, and nothing that a client could look into for it. -/
def Forgets (s : Session V) (thread : ThreadId) : Prop :=
  s.stopped.get? thread = none ∧
    ∀ reference e, s.resolve? reference = some e → e.owner ≠ thread

section

variable {H : Pool Container → Pool Container → Prop} {P : Call → Prop} {thread : ThreadId}
variable {s s₁ s₂ s' : Session V}

theorem Keeps.letsRun (h : Keeps H P s s') (ran : LetsRun thread s s') :
    P (.resume thread) ∨ P .resumeAll := by
  obtain ⟨xs, calls, only⟩ := h.calls
  obtain ⟨x, hx, -, called⟩ := ran
  rw [calls, List.drop_left] at hx
  rcases called with called | called
  · have allowed := only x hx (by rw [called]; rfl)
    rw [called] at allowed
    exact .inl allowed
  · have allowed := only x hx (by rw [called]; rfl)
    rw [called] at allowed
    exact .inr allowed

theorem Quiet.not_letsRun (h : Quiet s s') : ¬ LetsRun thread s s' := fun ran =>
  (h.letsRun ran).elim id id

private theorem LetsRun.later (ran : LetsRun thread s s') (first : Quiet s s₁)
    (same : s₂.calls = s₁.calls) (last : Keeps H P s₂ s') : LetsRun thread s₂ s' := by
  obtain ⟨xs, calls, none⟩ := first.calls
  obtain ⟨ys, calls', -⟩ := last.calls
  obtain ⟨x, hx, done, called⟩ := ran
  refine ⟨x, ?_, done, called⟩
  rw [calls', List.drop_left]
  rw [calls', same, calls, List.append_assoc, List.drop_left] at hx
  rcases List.mem_append.1 hx with hx | hx
  · rcases called with called | called
    · exact (none x hx (by rw [called]; rfl)).elim
    · exact (none x hx (by rw [called]; rfl)).elim
  · exact hx

theorem Tidy.forgets_iff (tidy : s.Tidy) : s.Forgets thread ↔ s.stopped.get? thread = none := by
  constructor
  · exact fun h => h.1
  · intro h
    refine ⟨h, ?_⟩
    rintro reference e there rfl
    have halted := (tidy.resolved there).1
    rw [h] at halted
    cases halted

theorem Forgets.congr (h : s.Forgets thread) (stopped : s'.stopped = s.stopped)
    (handles : s'.handles = s.handles) : s'.Forgets thread := by
  have same : ∀ reference, s'.resolve? reference = s.resolve? reference := by
    intro reference
    unfold resolve?
    rw [handles]
  refine ⟨stopped ▸ h.1, ?_⟩
  intro reference e there
  rw [same] at there
  exact h.2 reference e there

theorem forgets_threadResumed (tidy : s.Tidy) (thread : ThreadId) :
    (threadResumed thread s).Forgets thread := by
  apply (tidy_threadResumed tidy thread).forgets_iff.2
  rw [threadResumed_stopped, Table.get?_erase, if_pos rfl]

theorem forgets_allResumed (tidy : s.Tidy) (thread : ThreadId) :
    (allResumed s).Forgets thread := by
  apply (tidy_allResumed tidy).forgets_iff.2
  rw [allResumed_stopped]
  rfl

/-- Of a thread that was let run nothing is left on record, unless the debuggee has reported
something about a thread that was on record as halted. -/
theorem Change.forgets_iff {Reported : Prop} {Spared : ThreadId → Prop}
    (h : Change Reported Spared s s') (tidy : s.Tidy) (ran : LetsRun thread s s') :
    s'.Forgets thread ↔ ¬ Reported ∨ s.stopped.get? thread = none := by
  cases h with
  | shows other halted h =>
    rcases h.letsRun ran with none | none <;> exact none.elim
  | passes h =>
    -- Only an event lets threads run without a change of what is on record.
    have reported : Reported := (h.letsRun ran).elim id id
    have same : s'.Forgets thread ↔ s'.stopped.get? thread = none := (tidy.of_quiet h).forgets_iff
    rw [same, h.stopped]
    constructor
    · exact .inr
    · rintro (absent | none)
      · exact absurd reported absent
      · exact none
  | halts other _ h =>
    obtain ⟨p, s₁, -, -, -, first, last⟩ := h
    have same : (recordHalt p s₁).calls = s₁.calls := rfl
    exact absurd (ran.later first same last) last.not_letsRun
  | resumes other _ h =>
    obtain ⟨s₁, first, last⟩ := h
    have tidy₁ := tidy.of_quiet first
    have ran' := ran.later first (threadResumed_calls other s₁) last
    rcases last.letsRun ran' with ⟨absent, same⟩ | ⟨-, same⟩
    · obtain rfl : thread = other := by simpa using same
      have gone := (forgets_threadResumed tidy₁ thread).congr last.stopped last.handles.symm
      exact ⟨fun _ => .inl absent, fun _ => gone⟩
    · cases same
  | resumesAll _ h =>
    obtain ⟨s₁, first, last⟩ := h
    have tidy₁ := tidy.of_quiet first
    have ran' := ran.later first (allResumed_calls s₁) last
    have absent : ¬ Reported := (last.letsRun ran').elim id id
    have gone := (forgets_allResumed tidy₁ thread).congr last.stopped last.handles.symm
    exact ⟨fun _ => .inl absent, fun _ => gone⟩

end

variable [Machine V]

/-- When dealing with something has let a thread run, its halt and its handles are forgotten,
except if that was an event and the thread was on record as halted. -/
theorem forgets_iff_of_letsRun {s : Session V} (h : Reachable s) (i : Input V)
    (thread : ThreadId) (ran : LetsRun thread s (s.after i)) :
    (s.after i).Forgets thread ↔ ¬ i.IsEvent ∨ s.stopped.get? thread = none :=
  (after_changes h.tidy i).forgets_iff h.tidy ran

def oneThread : Debuggee :=
  (({} : Debuggee).addThread 1 "main").suspendThread 1

/-- A step that the session knows nothing of. -/
def strayStep : Input Debuggee :=
  .event (.step 9 1 { className := "A", methodName := "m", line := 5 })

def haltingException : Input Debuggee :=
  .event (.exception 1 1 { className := "A", methodName := "m", line := 5 } ⟨7, "E", .plain⟩ true)

theorem forgets_after_stray_step :
    LetsRun 1 (start oneThread {} {}) ((start oneThread {} {}).after strayStep) ∧
      ((start oneThread {} {}).after strayStep).Forgets 1 := by
  have ran : LetsRun 1 (start oneThread {} {}) ((start oneThread {} {}).after strayStep) := by
    decide +kernel
  have reachable : Reachable (start oneThread {} {}) := ⟨oneThread, {}, {}, .refl⟩
  exact ⟨ran, (forgets_iff_of_letsRun reachable strayStep 1 ran).2 (.inr rfl)⟩

/-- The same step after the thread was reported as halted: it runs, but stays on record. -/
theorem stray_step_frees_recorded_halt :
    ∃ (s : Session Debuggee) (i : Input Debuggee), Reachable s ∧ LetsRun 1 s (s.after i) ∧
      (s.after i).stopped.get? 1 = some ⟨1, 1⟩ ∧ ¬ (s.after i).Forgets 1 := by
  refine ⟨(start oneThread {} {}).after haltingException, strayStep, ?_, ?_, ?_, ?_⟩
  · exact ⟨oneThread, {}, {}, .step haltingException .refl trivial (by decide +kernel)⟩
  · decide +kernel
  · decide +kernel
  · intro h
    have none := h.1
    revert none
    decide +kernel

end DebugSession.Session
