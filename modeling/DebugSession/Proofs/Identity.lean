import DebugSession.Proofs.Consistency
import DebugSession.Proofs.Installing
import DebugSession.Proofs.Sources
/-!
Breakpoints keep what they are known by. Whatever has happened to the breakpoints of a session, a
request for the lines of a source leaves one breakpoint on each line that is asked for: the one that
was there before, or a new one whose number was never given before.
-/

namespace DebugSession

namespace Session

variable {V : Type}

/-- Each breakpoint is still on its own line of its own source. -/
def Orderly (s s' : Session V) : Prop := s.breakpoints.Filed → s'.breakpoints.Filed

theorem Orderly.of_eq {s s' : Session V} (same : s'.breakpoints = s.breakpoints) : Orderly s s' :=
  fun filed => same ▸ filed

variable [Machine V]

instance : Composes (Orderly (V := V)) where
  refl _ := id
  trans h h' := h' ∘ h

instance : Ambient (Orderly (V := V)) where
  advance _ _ := .of_eq rfl
  cancel _ := .of_eq rfl

private theorem orderly_allows (c : Call) : Allows (Orderly (V := V)) c :=
  allows_of_parts (fun _ => .of_eq rfl) (fun _ => .of_eq rfl) fun _ _ => .of_eq rfl

instance : Relines (Orderly (V := V)) where
  delete _ := orderly_allows _
  steps _ _ := .of_eq rfl
  tokens _ _ := .of_eq rfl
  loaded _ := orderly_allows _
  create _ := orderly_allows _
  beside _ _ h filed := filed.congr h.sources
  breakpoints _ _ h filed := h.filed filed

instance : Enlists (Orderly (V := V)) where
  line _ _ := .of_eq rfl

/-! ## Breakpoints to which anything may have happened -/

end Session

open Session

section

variable {V : Type} [Machine V]

/-- What an operation does, its answer apart. -/
def BreakpointOperation.task : BreakpointOperation → Task (Session V) Unit
  | .setLines source specs modified => do
    let _ ← (setBreakpoints source specs modified).run
  | .setFields specs => do
    let _ ← (setWatchpoints specs).run
  | .setExceptions caught uncaught => do
    let _ ← (setExceptionBreakpoints caught uncaught).run
  | .removeAll => removeBreakpoints

theorem BreakpointOperation.task_moves {R : Session V → Session V → Prop} [Relines R] [Enlists R]
    (op : BreakpointOperation) : Task.Moves R (op.task : Task (Session V) Unit) := by
  cases op with
  | setLines source specs modified =>
    exact .bind (setBreakpoints_stirs source specs modified) fun _ => .pure _
  | setFields specs => exact .bind (setWatchpoints_stirs specs) fun _ => .pure _
  | setExceptions caught uncaught =>
    exact .bind (setExceptionBreakpoints_stirs caught uncaught) fun _ => .pure _
  | removeAll => exact removeBreakpoints_moves

theorem BreakpointOperation.run_task (op : BreakpointOperation) (s : Session V) :
    (op.task.run advance s).2 = s.afterOperation op := by
  cases op <;> simp only [task, afterOperation, Task.run_bind, Task.run_pure]

end

namespace Session

variable {V : Type}

section

variable [Machine V]

/-- A session to whose breakpoints anything may have happened since it began. Operations may take
turns between their waits. -/
inductive Managed : Session V → Prop
  | start (machine : V) (settings : Settings) (providers : Providers) :
    Managed (start machine settings providers)
  | turn {s s' : Session V} (op : BreakpointOperation) (h : Managed s)
    (t : (op.task : Task (Session V) Unit).Turn s s') : Managed s'
  | hit {s : Session V} {request : RequestId} {i : Installed} (h : Managed s)
    (found : s.breakpoints.installed? request = some i) :
    Managed { s with breakpoints := (s.breakpoints.hit i).2 }
  /-- Anything else happens. -/
  | beside {s s' : Session V} (h : Managed s) (same : s'.breakpoints = s.breakpoints) : Managed s'

theorem Managed.filed {s : Session V} (h : Managed s) : s.breakpoints.Filed := by
  induction h with
  | start machine settings providers => exact .empty rfl
  | turn op _ t filed => exact (op.task_moves (R := Orderly)).turn t filed
  | hit _ _ filed => exact filed.hit _
  | beside _ same filed => exact filed.congr (congrArg Breakpoints.sources same)

private theorem Managed.run {α : Type} {x : Step (Session V) α} (h : Managed x.state)
    (turns : ∀ s s', Managed s → x.Turn s s' → Managed s') : Managed (x.run advance).2 := by
  induction x with
  | done a s => exact h
  | wait time ready s resume ih =>
    -- The wait goes by with nothing but the clock changed.
    have now : Managed (time.elim s fun time => advance time s) := by
      cases time with
      | none => exact h
      | some time => exact h.beside rfl
    exact ih _ (turns _ _ now (.next time ready s resume _)) fun s₁ s₂ before t =>
      turns s₁ s₂ before (.later time ready s t)

/-- Operations may also be carried out one after the other. -/
theorem Managed.operation {s : Session V} (h : Managed s) (op : BreakpointOperation) :
    Managed (s.afterOperation op) := by
  rw [← op.run_task]
  exact Managed.run (h.turn op (.first s)) fun _ _ before t => before.turn op (.next t)

end

/-! ## A request for lines -/

variable {source : String} {specs : List BreakpointSpec} {modified : Bool}
  {answer : List Breakpoint} {xs : List Exchange} {s s' : Session V}

private theorem Reconciled.ids {kept : UInt32 → Option Breakpoint}
    (h : Reconciled source kept specs answer xs s s') :
    (missing kept specs).map (fun spec => (s'.breakpoints.breakpoint? source spec.line).map
      Breakpoint.id) =
      ((List.range (missing kept specs).length).map fun k =>
        numberAfter (s.breakpoints.issued + k)).map some := by
  apply List.ext_getElem (by simp)
  intro k hk hk'
  have here : k < (missing kept specs).length := by simpa using hk
  obtain ⟨bp, stored, created⟩ := h.created k _ (List.getElem?_eq_getElem here)
  rw [List.getElem_map, stored, created.same]
  simp [BreakpointSpec.breakpoint]

/-- What has become of the lines of a source. -/
structure Identified (source : String) (specs : List BreakpointSpec) (modified : Bool)
    (answer : List Breakpoint) (xs : List Exchange) (s s' : Session V) : Prop where
  /-- There is one answer for each entry: what is kept on its line from now on. -/
  answer : answer.map some =
    specs.map fun spec => s'.breakpoints.breakpoint? source spec.line
  lines : ∀ line, (s'.breakpoints.breakpoint? source line).isSome = true ↔
    line ∈ specs.map BreakpointSpec.line
  /-- What stays is the same breakpoint, with the hits that were counted. -/
  kept : ∀ line ∈ specs.map BreakpointSpec.line, ∀ old,
    staying s.breakpoints source modified line = some old →
    ∃ new, s'.breakpoints.breakpoint? source line = some new ∧
      new = { old with installation := new.installation } ∧
      new.installation.hits = old.installation.hits
  calls : xs.map Exchange.call = plan s.breakpoints s.providers.lookup source specs modified
  /-- No call is planned for what stays under its condition. -/
  unstirred : ∀ spec ∈ BreakpointSpec.leading specs, ∀ old,
    staying s.breakpoints source modified spec.line = some old →
    spec.condition.bind Text.nonBlank = old.installation.options.condition → old.revising spec = []
  /-- Numbers of new breakpoints increase, from all those that were ever given. -/
  numbered : s'.breakpoints.issued < UInt32.size → ∃ ids : List UInt32,
    (missing (staying s.breakpoints source modified) specs).map (fun spec =>
      (s'.breakpoints.breakpoint? source spec.line).map Breakpoint.id) = ids.map some ∧
    ids.Pairwise (· < ·) ∧
    ∀ id ∈ ids, ∀ count < s.breakpoints.issued, numberAfter count < id

private theorem Reconciled.identified
    (h : Reconciled source (staying s.breakpoints source modified) specs answer xs s s')
    (planned : xs.map Exchange.call =
      plan s.breakpoints s.providers.lookup source specs modified) :
    Identified source specs modified answer xs s s' where
  answer := h.answer
  lines := h.lines
  kept := by
    intro line asked old stays
    obtain ⟨spec, leads, rfl⟩ := BreakpointSpec.exists_leading asked
    obtain ⟨new, stored, revised⟩ := h.revised spec leads old stays
    exact ⟨new, stored, revised.same, revised.hits⟩
  calls := planned
  unstirred := by
    intro spec leads old stays same
    have unchanged : old.installation.options.condition = spec.options.1.condition := same.symm
    simp [Breakpoint.revising, unchanged]
  numbered := by
    intro room
    rw [h.issued] at room
    refine ⟨_, h.ids, ?_, ?_⟩
    · rw [List.pairwise_map]
      refine List.pairwise_lt_range.imp_of_mem ?_
      intro k k' _ mem' less
      have bound := List.mem_range.1 mem'
      exact numberAfter_lt (by omega) (by omega)
    · intro id mem count given
      obtain ⟨k, mem', rfl⟩ := List.mem_map.1 mem
      have bound := List.mem_range.1 mem'
      exact numberAfter_lt (by omega) (by omega)

variable [Machine V]

/-- A request for the breakpoints on the lines of a source fails if the debuggee is lost, and
otherwise leaves exactly those that are asked for. Other sources and the watchpoints are left
alone. -/
theorem setBreakpoints_identifies (h : Managed s) (source : String) (specs : List BreakpointSpec)
    (modified : Bool) :
    Settles (setBreakpoints source specs modified) s fun r s' =>
      ∃ xs, Worked source xs s s' ∧
        match r with
        | .ok answer => Identified source specs modified answer xs s s'
        | .error e => e = .vmTerminated ∧ ∃ x ∈ xs, x.IsLost := by
  apply (setBreakpoints_works source specs modified h.filed).mono
  intro r s' carried
  cases r with
  | ok answer =>
    obtain ⟨xs, worked, planned, reconciled⟩ := carried
    exact ⟨xs, worked, reconciled.identified planned⟩
  | error e =>
    obtain ⟨xs, worked, lost⟩ := carried
    exact ⟨xs, worked, lost⟩

/-- The breakpoint that was there keeps its number, which is asked for last. -/
theorem identified_when_asked_again :
    let s := (start reluctant {} oneLine).afterOperation
      (.setLines "A.java" [{ line := 7 }] false)
    let specs : List BreakpointSpec := [{ line := 9 }, { line := 9 }, { line := 7 }]
    let done := (setBreakpoints "A.java" specs false).run.run advance s
    (done.1.toOption.map fun answer => answer.map fun b => (b.line, b.id)) =
        some [(9, 2), (9, 2), (7, 1)] ∧ done.2.breakpoints.issued < UInt32.size ∧
      ∃ xs, Worked "A.java" xs s done.2 ∧
        match done.1 with
        | .ok answer => Identified "A.java" specs false answer xs s done.2
        | .error e => e = .vmTerminated ∧ ∃ x ∈ xs, x.IsLost :=
  ⟨by decide +kernel, by decide +kernel,
    setBreakpoints_identifies ((Managed.start reluctant {} oneLine).operation _) _ _ _⟩

end Session
end DebugSession
