import DebugSession.Proofs.Exploring
/-!
What showing a halted thread to a client does to a session, with the relation left open: what is
handed to the client is an argument of each lemma. Where it depends on what the session knows when
it begins to answer, the lemma is about the session at that time.
-/

namespace DebugSession

variable {V α β ε ε' : Type}

/-- The session after the client was given a handle for a container. -/
def Session.handOut (owner : ThreadId) (c : Container) (s : Session V) : Session V :=
  { s with handles := (s.handles.add owner c).2 }

section

variable {R : Session V → Session V → Prop} {s : Session V}

/-- Every move of a computation that begins in one state is in `R`. -/
def MovesFrom (R : Session V → Session V → Prop) (s : Session V) (x : Task (Session V) α) : Prop :=
  (x s).Moves R s

/-- The same of a computation that may fail. -/
def StirsFrom (R : Session V → Session V → Prop) (s : Session V)
    (x : ExceptT ε (Task (Session V)) α) : Prop :=
  MovesFrom R s x.run

theorem MovesFrom.get_bind {f : Session V → Task (Session V) α} (h : MovesFrom R s (f s)) :
    MovesFrom R s (get >>= f) := h

theorem MovesFrom.bind [Composes R] {x : Task (Session V) α} {f : α → Task (Session V) β}
    (h : MovesFrom R s x) (rest : ∀ a, Task.Moves R (f a)) : MovesFrom R s (x >>= f) :=
  Step.Moves.bind h fun a => (rest a).step

/-- What follows something that is done at once and leaves the state as it is. -/
theorem MovesFrom.known {x : Task (Session V) α} {f : α → Task (Session V) β} {a : α}
    (done : x s = .done a s) (rest : MovesFrom R s (f a)) : MovesFrom R s (x >>= f) := by
  show ((x s).bind f).Moves R s
  rw [done]
  exact rest

theorem MovesFrom.ends [Composes R] (passes : ∀ time s, R s (Session.advance time s))
    {x : Task (Session V) α} (h : MovesFrom R s x) : Task.Ends x s fun _ s' => R s s' :=
  h.run passes

namespace StirsFrom

theorem settles [Composes R] (passes : ∀ time s, R s (Session.advance time s))
    {x : ExceptT ε (Task (Session V)) α} (h : StirsFrom R s x) : Settles x s fun _ s' => R s s' :=
  MovesFrom.ends passes h

theorem of_stirs {x : ExceptT ε (Task (Session V)) α} (h : Stirs R x) : StirsFrom R s x := h.step s

theorem get_bind {f : Session V → ExceptT ε (Task (Session V)) α} (h : StirsFrom R s (f s)) :
    StirsFrom R s (get >>= f) := h

theorem bind [Composes R] {x : ExceptT ε (Task (Session V)) α}
    {f : α → ExceptT ε (Task (Session V)) β} (h : StirsFrom R s x)
    (rest : ∀ a, Stirs R (f a)) : StirsFrom R s (x >>= f) := by
  unfold StirsFrom
  rw [ExceptT.run_bind]
  refine MovesFrom.bind h ?_
  intro r
  cases r with
  | ok a => exact rest a
  | error e => exact Stirs.throw e

theorem adapt [Composes R] (wrap : ε' → ε) {x : ExceptT ε' (Task (Session V)) α}
    (h : StirsFrom R s x) : StirsFrom R s (ExceptT.adapt wrap x) := by
  unfold StirsFrom ExceptT.adapt
  rw [ExceptT.run_mk, map_eq_pure_bind]
  exact MovesFrom.bind h fun _ => .pure _

theorem known [Composes R] {wrap : ε' → ε} {x : ExceptT ε' (Task (Session V)) α}
    {f : α → ExceptT ε (Task (Session V)) β} {r : Except ε' α} (done : x.run s = .done r s)
    (rest : ∀ a, r = .ok a → Stirs R (f a)) : StirsFrom R s (ExceptT.adapt wrap x >>= f) := by
  have adapted : (ExceptT.adapt wrap x).run s = .done (r.mapError wrap) s := by
    show (x.run s).bind (fun r s => .done (r.mapError wrap) s) = _
    rw [done]
    rfl
  unfold StirsFrom
  rw [ExceptT.run_bind]
  refine MovesFrom.known adapted ?_
  cases r with
  | ok a => exact (rest a rfl).step s
  | error e => exact Composes.refl s

theorem quietly [Composes R] {x : Task (Session V) α} (h : MovesFrom R s x) :
    StirsFrom R s (DebugSession.quietly x : ExceptT ε (Task (Session V)) α) := by
  unfold StirsFrom DebugSession.quietly
  rw [ExceptT.run_lift, map_eq_pure_bind]
  exact MovesFrom.bind h fun _ => .pure _

end StirsFrom

end

namespace Session

variable [Machine V] {R : Session V → Session V → Prop} [Evaluates R]

/-! ## Frames -/

omit [Machine V] [Evaluates R] in
theorem addHandle_moves {owner : ThreadId} {c : Container} (hand : ∀ s, R s (handOut owner c s)) :
    Task.Moves R (addHandle owner c : Task (Session V) _) :=
  .modifyGet hand

private theorem describeFrame_moves (p : Suspension) (depth : Nat) (l : Location)
    (hand : ∀ x s, x.key.suspension = p → R s (handOut p.thread (.frame x) s)) :
    Task.Moves R (describeFrame p depth l : Task (Session V) _) :=
  ⟨fun s => Composes.trans (Explores.openFrame s p depth) (hand (s.openFrame p depth).1 _ rfl)⟩

private theorem describeFrames_moves (p : Suspension) (shown : List (FrameInfo × Nat))
    (hand : ∀ x s, x.key.suspension = p → R s (handOut p.thread (.frame x) s)) :
    Task.Moves R (describeFrames p shown : Task (Session V) _) := by
  induction shown with
  | nil => exact .pure _
  | cons frame rest ih =>
    obtain ⟨f, depth⟩ := frame
    exact .bind (describeFrame_moves p depth f.location hand) fun _ => .bind ih fun _ => .pure _

theorem stackTrace_stirs (thread : ThreadId) (start levels : Nat) (s : Session V)
    (hand : ∀ p, s.stopped.get? thread = some p → ∀ x s', x.key.suspension = p →
      R s' (handOut p.thread (.frame x) s')) :
    StirsFrom R s (stackTrace thread start levels : Action V _) := by
  unfold stackTrace
  refine .get_bind ?_
  dsimp only
  split
  · exact .of_stirs (.pure _)
  · split
    · exact .of_stirs (.throw _)
    · rename_i p halted
      have frames := fun shown => describeFrames_moves p shown (hand p halted)
      split <;> exact .of_stirs (.bind (.quietly (frames _)) fun _ => .pure _)

theorem stackFrame?_moves (thread : ThreadId) (depth : Nat) (s : Session V)
    (hand : ∀ p, s.stopped.get? thread = some p → ∀ x s', x.key.suspension = p →
      R s' (handOut p.thread (.frame x) s')) :
    MovesFrom R s (stackFrame? thread depth) := by
  unfold stackFrame?
  refine .get_bind ?_
  split
  · exact Composes.refl s
  · rename_i p f found
    obtain ⟨q, halted, shown⟩ := Option.bind_eq_some_iff.1 found
    obtain ⟨f', -, same⟩ := Option.map_eq_some_iff.1 shown
    obtain ⟨rfl, rfl⟩ := Prod.mk.inj same
    exact (Task.Moves.bind (describeFrame_moves q depth _ (hand q halted)) fun _ => .pure _).step s

theorem scopes_moves (frameId : Int64) (s : Session V)
    (hand : ∀ owner p, s.resolve? frameId = some ⟨owner, .frame p⟩ → ∀ c s',
      c.proxy? = some p → R s' (handOut p.thread c s')) :
    MovesFrom R s (scopes frameId) := by
  unfold scopes
  refine .get_bind ?_
  split
  · rename_i owner p found
    have added := fun c same => addHandle_moves fun s' => hand owner p found c s' same
    refine (Task.Moves.bind (added (.locals p) rfl) fun locals => ?_).step s
    dsimp only
    split
    · split
      · exact .bind (added (.statics p _) rfl) fun _ => .pure _
      · exact .pure _
    · exact .pure _
  · exact Composes.refl s

/-! ## Variables -/

private theorem openObject_stirs (thread : ThreadId) (o : ObjectRef)
    (evaluateName : Option String) (showLogical : Bool)
    (hand : ∀ o n s, R s (handOut thread (.object o n) s)) :
    Stirs R (openObject thread o evaluateName showLogical : Remote V _) := by
  rw [openObject_eq]
  exact .bind (measureObject_stirs thread o showLogical) fun _ =>
    .bind (.quietly (addHandle_moves (hand o evaluateName))) fun _ => .pure _

theorem describeVariable_stirs (thread : ThreadId) (settings : VariableSettings) (v : Variable)
    (hand : ∀ o n s, R s (handOut thread (.object o n) s)) :
    Stirs R (describeVariable thread settings v : Remote V _) := by
  have opened : Stirs R (openValue thread settings v : Remote V _) := by
    unfold openValue
    split
    · split
      · exact .pure _
      · exact openObject_stirs thread _ _ _ hand
    · exact .pure _
  rw [describeVariable_eq]
  exact .bind opened (describeOpened_stirs settings v)

theorem listVariables_stirs (reference : Int64) (start : Nat) (count : Option Nat) (s : Session V)
    (hand : ∀ e, s.resolve? reference = some e →
      ∀ o n s', R s' (handOut e.owner (.object o n) s')) :
    StirsFrom R s (listVariables reference start count : Action V _) := by
  unfold listVariables
  refine .get_bind ?_
  dsimp only
  split
  · exact .of_stirs (.pure _)
  · rename_i owner c found
    refine .of_stirs (.bind (.orFail _ (listContainer_stirs _ _ _ _ _)) fun _ => ?_)
    exact .orFail _ (.mapM fun v => describeVariable_stirs _ _ v (hand ⟨owner, c⟩ found))

omit [Evaluates R] in
theorem setVariable_stirs [Assigns R] (reference : Int64) (name text : String) (s : Session V)
    (hand : ∀ e, s.resolve? reference = some e →
      ∀ o n s', R s' (handOut e.owner (.object o n) s')) :
    StirsFrom R s (setVariable reference name text : Action V _) := by
  unfold setVariable
  refine .get_bind ?_
  dsimp only
  split
  · exact .of_stirs (.throw _)
  · rename_i owner c found
    refine .of_stirs (.bind (.orFail _ (listContainer_stirs _ _ _ _ _)) fun listed => ?_)
    split
    · exact .throw _
    · exact .bind (assign_stirs _ _ _) fun value => .bind
        (.orFail _ (describeVariable_stirs _ _ _ (hand ⟨owner, c⟩ found))) fun _ => .pure _

theorem evaluation_stirs (expression : String) (frameId : Option Int64) (s : Session V)
    (hand : ∀ owner p, frameId.bind s.resolve? = some ⟨owner, .frame p⟩ → ∀ o n s',
      R s' (handOut p.thread (.object o n) s')) :
    StirsFrom R s (evaluate expression frameId : Attempt V _) := by
  have rest : ∀ e p, (∀ o n s', R s' (handOut p.thread (.object o n) s')) →
      Stirs R (evaluateAt expression (e, p) : Attempt V _) := fun e p hand =>
    .bind (evaluateInFrame_stirs e p expression) fun value => .bind .get fun _ =>
      .bind ((describeVariable_stirs _ _ _ hand).adapt _) fun _ => .pure _
  obtain ⟨r, done, found⟩ := evaluationSite_done frameId s
  rw [evaluate_eq]
  refine .known done ?_
  rintro ⟨e, p⟩ same
  obtain ⟨owner, there⟩ := found e p same
  exact rest e p (hand owner p there)

end Session
end DebugSession
