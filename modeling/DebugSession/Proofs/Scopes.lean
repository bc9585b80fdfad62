import DebugSession.Proofs.Expressions
/-!
What the scope of a frame is listed as: the value that a method has returned, `this`, and the
variables of the frame with their values. Without debug information there are the arguments.
-/

namespace DebugSession

/-- The value of a local that the frame has. -/
def Frame.stored (f : Frame) (l : LocalVariable) : Value :=
  (Debuggee.Frame.value f l).toOption.getD .null

/-- The locals of a frame, with their values and under their own names. -/
def Frame.named (f : Frame) : List Variable :=
  f.locals.map fun e => Variable.ofLocal e.1 (f.stored e.1)

/-- The variables of a frame as they are listed. -/
def Frame.variables (f : Frame) : List Variable :=
  if f.native then []
  else if f.absentInformation then f.arguments.mapIdx Variable.ofArgument
  else Variable.resolveNames f.named

namespace Session

variable {p : FrameProxy} {f : Frame} {s : Session Debuggee}

/-- What stands before the variables of a frame: the value that a method has returned, and `this`. -/
def scopeHead (s : Session Debuggee) (p : FrameProxy) (f : Frame) : List Variable :=
  (if p.depth = 0 then (s.results.get? p.thread).map resultVariable else none).toList ++
    (f.this.map thisVariable).toList

/-- The scope of a frame as it is listed. -/
def scopeOf (s : Session Debuggee) (p : FrameProxy) (f : Frame) : List Variable :=
  s.scopeHead p f ++ f.variables

theorem mem_resolveNames {vs : List Variable} {v : Variable} (mem : v ∈ Variable.resolveNames vs) :
    ∃ w ∈ vs, v = { w with name := Variable.nameAmong vs w } := by
  obtain ⟨w, there, same⟩ := List.mem_map.1 mem
  exact ⟨w, there, same.symm⟩

/-- The frame has a value for each of its locals. -/
theorem value_of_mem {l : LocalVariable} (mem : l ∈ f.locals.map (·.1)) :
    Debuggee.Frame.value f l = .ok (f.stored l) := by
  unfold Frame.stored Debuggee.Frame.value
  cases found : f.locals.find? fun e => e.1 = l with
  | some e => rfl
  | none =>
    obtain ⟨e, there, rfl⟩ := List.mem_map.1 mem
    exact absurd (decide_eq_true rfl) (List.find?_eq_none.1 found e there)

private theorem mapM_value {vs : List LocalVariable} (within : vs ⊆ f.locals.map (·.1)) :
    vs.mapM (Debuggee.Frame.value f) = .ok (vs.map f.stored) := by
  induction vs with
  | nil => rfl
  | cons l rest ih =>
    obtain ⟨first, others⟩ := List.cons_subset.1 within
    rw [List.mapM_cons, value_of_mem first, ih others]
    rfl

private theorem listNamed_produces (h : Facing p f s) (policy : FetchPolicy) :
    Produces (Peruses [p]) (listNamed p policy (f.locals.map (·.1))) s fun r _ =>
      r = .ok (Variable.resolveNames f.named) := by
  have pages : Produces (Peruses [p]) (fetchPaged policy (f.locals.map (·.1)) fun page => do
      return List.zipWith Variable.ofLocal page (← localValues p page)) s fun r _ =>
        r = .ok ((f.locals.map (·.1)).map fun l => Variable.ofLocal l (f.stored l)) := by
    refine fetchPaged_map _ fun page within s' moved => ?_
    have asked := (h.surveys moved.toSurveys).through (.localValues page) rfl
    have brought : ((FrameOperation.localValues page).onFrame f).1 = .ok (page.map f.stored) :=
      mapM_value within
    rw [brought] at asked
    refine asked.bind_ok fun _ _ => .pure ?_
    rw [List.zipWith_map_right, List.zipWith_self]
  unfold listNamed
  refine pages.bind_ok fun _ _ => .pure ?_
  rw [List.map_map]
  rfl

private theorem listLocals_produces (h : Facing p f s) (policy : FetchPolicy) :
    Produces (Peruses [p]) (listLocals p policy) s fun r _ => r = .ok f.variables := by
  unfold listLocals Frame.variables
  refine .attempt_bind (h.through .visibleVariables rfl) ?_
  rintro r s₁ moved rfl
  have h₁ := h.surveys moved.toSurveys
  dsimp only [FrameOperation.onFrame]
  have arguments : Produces (Peruses [p]) (argumentValues p) s₁ fun r _ =>
      r = if f.native then .error .opaqueFrame else .ok f.arguments :=
    h₁.through .argumentValues rfl
  cases native : f.native with
  | true =>
    rw [native] at arguments
    refine .attempt_bind arguments ?_
    rintro r s₂ - rfl
    exact .pure rfl
  | false =>
    rw [native] at arguments
    cases f.absentInformation with
    | true =>
      refine .attempt_bind arguments ?_
      rintro r s₂ - rfl
      exact .pure rfl
    | false => exact listNamed_produces h₁ policy

/-- The scope of a frame, if the session gets its answers. -/
theorem listScope_produces (h : Facing p f s) (policy : FetchPolicy) :
    Produces (Peruses [p]) (listScope p policy) s fun r _ => r = .ok (s.scopeOf p f) := by
  unfold listScope
  refine .get_bind ?_
  dsimp only
  refine .attempt_bind (h.through .thisObject rfl) ?_
  rintro r s₁ moved rfl
  dsimp only [FrameOperation.onFrame]
  rw [pure_bind]
  exact (listLocals_produces (h.surveys moved.toSurveys) policy).bind_ok fun _ _ => .pure rfl

end Session
end DebugSession
