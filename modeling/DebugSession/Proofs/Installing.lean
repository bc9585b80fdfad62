import DebugSession.Proofs.Conditions
import DebugSession.Proofs.Exploring
import DebugSession.Proofs.Lines
import DebugSession.Session.DataBreakpoints
/-!
What changing breakpoints and steps does to a session, again with the relation left open: requests
are created and deleted, and what is known of them changes.
-/

namespace DebugSession

variable {V α : Type} {R : Session V → Session V → Prop} [Machine V]

/-- The thread that a request names if it is one for a step. -/
def EventRequest.strider? : EventRequest → Option ThreadId
  | .step thread _ _ | .methodExit thread _ => some thread
  | _ => none

/-- A relation that allows steps to end, on the debuggee and in the session. -/
class Paces (R : Session V → Session V → Prop) : Prop extends Composes R where
  delete : ∀ request, Allows R (.deleteRequest request)
  steps : ∀ (s : Session V) steps, R s { s with steps }
  tokens : ∀ (s : Session V) tokens, R s { s with tokens }

/-- A relation that allows steps to begin as well. -/
class Treads (R : Session V → Session V → Prop) : Prop extends Paces R where
  stride : ∀ request thread, request.strider? = some thread → Allows R (.createRequest request)

/-- The breakpoints on lines are the same, and numbers may have been given. -/
structure Breakpoints.Beside (b b' : Breakpoints) : Prop where
  sources : b'.sources = b.sources
  issued : b.issued ≤ b'.issued
  checkable : b.Checkable → b'.Checkable

/-- Each breakpoint on a line is still on its own, and numbers may have been given. -/
structure Breakpoints.Relined (b b' : Breakpoints) : Prop where
  filed : b.Filed → b'.Filed
  issued : b.issued ≤ b'.issued
  checkable : b.Checkable → b'.Checkable

theorem Breakpoints.relined_put {b : Breakpoints} {bp : Breakpoint}
    (new : b.Checkable → bp.installation.Checkable) : b.Relined (b.putBreakpoint bp) :=
  ⟨fun filed => filed.put bp, Nat.le_refl _,
    fun checkable => checkable.putBreakpoint (new checkable)⟩

theorem Breakpoints.beside_put {b : Breakpoints} {wp : Watchpoint}
    (new : b.Checkable → wp.installation.Checkable) : b.Beside (b.putWatchpoint wp) :=
  ⟨rfl, Nat.le_refl _, fun checkable => checkable.putWatchpoint (new checkable)⟩

/-- A relation that allows requests other than those for steps to be made and deleted, and all to
change that is beside the breakpoints on lines. -/
class Places (R : Session V → Session V → Prop) : Prop extends Composes R where
  delete : ∀ request, Allows R (.deleteRequest request)
  loaded : ∀ typeName, Allows R (.referenceType typeName)
  plant : ∀ request, request.strider? = none → Allows R (.createRequest request)
  aside : ∀ (s : Session V) f, s.breakpoints.Beside (f s.breakpoints) →
    R s (Session.modifyBreakpoints f s)

/-- A relation that allows breakpoints on lines to change as well, while each stays on its own. -/
class Arranges (R : Session V → Session V → Prop) : Prop extends Places R where
  lines : ∀ (s : Session V) f, s.breakpoints.Relined (f s.breakpoints) →
    R s (Session.modifyBreakpoints f s)

/-- A relation that allows requests and steps to begin as well, and all to change that is beside
the breakpoints on lines. -/
class Installs (R : Session V → Session V → Prop) : Prop extends Paces R where
  loaded : ∀ typeName, Allows R (.referenceType typeName)
  create : ∀ request, Allows R (.createRequest request)
  beside : ∀ (s : Session V) f, s.breakpoints.Beside (f s.breakpoints) →
    R s (Session.modifyBreakpoints f s)

/-- A relation that allows breakpoints on lines to change as well, while each stays on its own. -/
class Relines (R : Session V → Session V → Prop) : Prop extends Installs R where
  breakpoints : ∀ (s : Session V) f, s.breakpoints.Relined (f s.breakpoints) →
    R s (Session.modifyBreakpoints f s)

instance [Installs R] : Treads R where
  stride request _ _ := Installs.create request

instance [Installs R] : Places R where
  delete := Paces.delete
  loaded := Installs.loaded
  plant request _ := Installs.create request
  aside := Installs.beside

instance [Relines R] : Arranges R where
  lines := Relines.breakpoints

/-- A relation that allows the line of those who want something to change. -/
class Enlists (R : Session V → Session V → Prop) : Prop where
  line : ∀ (s : Session V) line, R s { s with line }

namespace Session

section

variable [Composes R] [Enlists R]

omit [Machine V]

theorem exclusively_moves {what : Shared} {x : Task (Session V) α} (h : Task.Moves R x) :
    Task.Moves R (exclusively what x) :=
  .bind (.modifyGet fun s => Enlists.line s _) fun _ => .bind (.await _ Enlists.line) fun _ =>
    .bind h fun _ => .bind (.modify fun s => Enlists.line s _) fun _ => .pure _

theorem exclusively_stirs {what : Shared} {x : Action V α} (h : Stirs R x) :
    Stirs R (Action.exclusively what x) :=
  exclusively_moves h

end

section

variable [Places R]

theorem deleteRequests_moves (rs : List RequestId) :
    Task.Moves R (deleteRequests rs : Task (Session V) _) := by
  induction rs with
  | nil => exact .pure _
  | cons r rest ih =>
    exact .bind (.modify fun s => Places.aside s _ ⟨rfl, Nat.le_refl _, id⟩) fun _ =>
      .bind (Places.delete r) fun _ => ih

private theorem installRequest_stirs {q : EventRequest} (other : q.strider? = none) :
    Stirs R (installRequest q : Action V _) := by
  unfold installRequest
  refine .bind (.attempt (Places.plant q other)) ?_
  intro r
  split
  · exact .pure _
  · split
    · exact .throw _
    · exact .pure _

theorem setOwner_changes (o : Owner) (outcome : Except String RequestId)
    (s : Session V) : R s (setOwner o outcome s) := by
  cases outcome with
  | ok id => exact Places.aside (R := R) s (fun b =>
      { b with owners := b.owners.insert id o }) ⟨rfl, Nat.le_refl _, fun checkable => checkable⟩
  | error text => exact Composes.refl s

private theorem takeBreakpointId_moves :
    Task.Moves R (takeBreakpointId : Task (Session V) _) :=
  .modifyGet fun s => Places.aside (R := R) s (fun b => b.takeId.2) ⟨rfl, Nat.le_succ _, id⟩

omit [Machine V] [Places R] in
private theorem emptied_options (i : Installation) :
    ({ i with requests := [] } : Installation).options = i.options := rfl

omit [Machine V] [Places R] in
private theorem noteOutcome_options (outcome : Except String RequestId) (i : Installation) :
    (noteOutcome outcome i).options = i.options := by
  cases outcome <;> rfl

end

/-! ## Lines -/

section

variable [Arranges R]

/-- To install a breakpoint changes nothing that the client has asked for. -/
private theorem placeBreakpoint_bind {bp : Breakpoint}
    {rest : (Installation → Installation) → Action V α}
    (h : ∀ change, (∀ i, (change i).options = i.options) → Stirs R (rest change)) :
    Stirs R (placeBreakpoint bp >>= rest) := by
  unfold placeBreakpoint
  split
  · rw [pure_bind]
    exact h _ fun _ => rfl
  · simp only [bind_assoc, pure_bind]
    exact .bind (installRequest_stirs rfl) fun outcome =>
      .bind (.modify (setOwner_changes _ _)) fun _ => h _ (noteOutcome_options outcome)

private theorem amendBreakpoint_changes {f : Installation → Installation}
    (keeps : ∀ i, (f i).options = i.options) (source : String) (line : UInt32) (s : Session V) :
    R s (amendBreakpoint source line f s) := by
  unfold amendBreakpoint
  split
  · exact Composes.refl s
  · rename_i bp found
    exact Arranges.lines s _ (Breakpoints.relined_put fun checkable =>
      (checkable.breakpoint? found).congr (keeps bp.installation))

private theorem reviseBreakpoint_stirs (bp : Breakpoint) (spec : BreakpointSpec) :
    Stirs R (reviseBreakpoint bp spec : Action V _) := by
  unfold reviseBreakpoint
  refine .bind (.modify fun s => Arranges.lines s _ (Breakpoints.relined_put fun _ =>
    Installation.checkable_of_line rfl)) ?_
  intro _
  split
  · exact .bind (.modify (amendBreakpoint_changes emptied_options _ _)) fun _ =>
      .bind (.quietly (deleteRequests_moves _)) fun _ => placeBreakpoint_bind fun _ keeps =>
        .modify (amendBreakpoint_changes keeps _ _)
  · exact .pure _

private theorem reviseAll_stirs (source : String) (visited : List UInt32)
    (specs : List BreakpointSpec) : Stirs R (reviseAll source visited specs : Action V _) := by
  induction specs generalizing visited with
  | nil => exact .pure _
  | cons spec rest ih =>
    unfold reviseAll
    refine .bind .get ?_
    intro s
    dsimp only
    split
    · split
      · exact .bind (reviseBreakpoint_stirs _ _) fun _ => ih _
      · exact ih _
    · exact ih _

private theorem removeLines_moves (source : String) (lines : List UInt32) :
    Task.Moves R (removeLines source lines : Task (Session V) _) := by
  induction lines with
  | nil => exact .pure _
  | cons line rest ih =>
    unfold removeLines
    refine .bind .get ?_
    intro s
    dsimp only
    split
    · exact ih
    · have dropped := fun s : Session V => Arranges.lines (R := R) s
        (fun b => b.dropBreakpoint source line) ⟨fun filed => filed.drop source line, Nat.le_refl _,
          fun checkable => checkable.dropBreakpoint source line⟩
      exact .bind (.modify dropped) fun _ => .bind (deleteRequests_moves _) fun _ => ih

private theorem createMissing_stirs (source : String) (specs : List BreakpointSpec) :
    Stirs R (createMissing source specs : Action V _) := by
  have create : ∀ spec, Stirs R (createBreakpoint source spec : Action V _) := fun spec =>
    .bind .get fun s => .bind (.quietly takeBreakpointId_moves) fun _ =>
      placeBreakpoint_bind fun _ keeps => .modify fun s => Arranges.lines s _
        (Breakpoints.relined_put fun _ => Installation.checkable_of_line (keeps _))
  induction specs with
  | nil => exact .pure _
  | cons spec rest ih =>
    unfold createMissing
    refine .bind .get ?_
    intro s
    dsimp only
    split
    · exact .bind (create spec) fun _ => ih
    · exact ih

private theorem bringInLine_stirs (source : String) (specs : List BreakpointSpec) :
    Stirs R (bringInLine source specs : Action V _) :=
  .bind (reviseAll_stirs source [] specs) fun _ => .bind .get fun _ =>
    .bind (.quietly (removeLines_moves source _)) fun _ =>
      .bind (createMissing_stirs source specs) fun _ => .bind .get fun _ => .pure _

theorem reconcileLines_stirs (source : String) (specs : List BreakpointSpec) (modified : Bool) :
    Stirs R (reconcileLines source specs modified : Action V _) := by
  cases modified with
  | true =>
    rw [reconcileLines_modified]
    exact .bind (.quietly (.bind .get fun _ => removeLines_moves source _)) fun _ =>
      bringInLine_stirs source specs
  | false =>
    rw [reconcileLines_unmodified]
    exact bringInLine_stirs source specs

theorem setBreakpoints_stirs [Enlists R] (source : String) (specs : List BreakpointSpec)
    (modified : Bool) : Stirs R (setBreakpoints source specs modified : Action V _) :=
  exclusively_stirs (reconcileLines_stirs source specs modified)

end

/-! ## Fields -/

section

variable [Places R]

theorem placeWatchpoint_stirs (wp : Watchpoint) :
    Stirs R (placeWatchpoint wp : Action V _) :=
  .bind (installRequest_stirs rfl) fun _ => .bind (.modify (setOwner_changes _ _)) fun _ => .pure _

/-- To install a watchpoint changes nothing that the client has asked for. -/
private theorem placeWatchpoint_bind {wp : Watchpoint}
    {rest : (Installation → Installation) → Action V α}
    (h : ∀ change, (∀ i, (change i).options = i.options) → Stirs R (rest change)) :
    Stirs R (placeWatchpoint wp >>= rest) := by
  simp only [placeWatchpoint, bind_assoc, pure_bind]
  exact .bind (installRequest_stirs rfl) fun outcome =>
    .bind (.modify (setOwner_changes _ _)) fun _ => h _ (noteOutcome_options outcome)

private theorem amendWatchpoint_changes {f : Installation → Installation}
    (keeps : ∀ i, (f i).options = i.options) (key : String × String) (s : Session V) :
    R s (amendWatchpoint key f s) := by
  unfold amendWatchpoint
  split
  · exact Composes.refl s
  · rename_i wp found
    exact Places.aside s _ (Breakpoints.beside_put fun checkable =>
      (checkable.watchpoint? found).congr (keeps wp.installation))

private theorem reviseWatchpoint_stirs (wp : Watchpoint) (spec : WatchpointSpec) :
    Stirs R (reviseWatchpoint wp spec : Action V _) := by
  unfold reviseWatchpoint
  refine .bind (.modify fun s => Places.aside s _ (Breakpoints.beside_put fun _ =>
    Installation.checkable_reviseField spec wp.installation)) ?_
  intro _
  split
  · exact .bind (.modify (amendWatchpoint_changes emptied_options _)) fun _ =>
      .bind (.quietly (deleteRequests_moves _)) fun _ => placeWatchpoint_bind fun _ keeps =>
        .modify (amendWatchpoint_changes keeps _)
  · exact .pure _

theorem reviseWatchpoints_stirs (kept : List (String × String))
    (specs : List WatchpointSpec) : Stirs R (reviseWatchpoints kept specs : Action V _) := by
  induction specs generalizing kept with
  | nil => exact .pure _
  | cons spec rest ih =>
    unfold reviseWatchpoints
    refine .bind .get ?_
    intro s
    split
    · split
      · split
        · exact .bind (reviseWatchpoint_stirs _ _) fun _ => ih _
        · exact ih _
      · exact ih _
    · exact ih _

theorem removeFields_moves (keys : List (String × String)) :
    Task.Moves R (removeFields keys : Task (Session V) _) := by
  induction keys with
  | nil => exact .pure _
  | cons key rest ih =>
    unfold removeFields
    refine .bind .get ?_
    intro s
    dsimp only
    split
    · exact ih
    · exact .bind (.modify fun s => Places.aside s _ ⟨rfl, Nat.le_refl _,
        fun checkable => checkable.dropWatchpoint key⟩) fun _ =>
          .bind (deleteRequests_moves _) fun _ => ih

private theorem createWatchpoint_stirs (spec : WatchpointSpec) :
    Stirs R (createWatchpoint spec : Action V _) := by
  have declares : Stirs R (declaresField spec : Action V _) := by
    unfold declaresField
    refine .bind (.attempt (Places.loaded _)) ?_
    intro r
    split
    · split
      · exact .throw _
      · exact .pure _
    · split <;> exact .pure _
  unfold createWatchpoint
  dsimp only
  refine .bind (.quietly takeBreakpointId_moves) fun id => .bind declares ?_
  intro r
  split
  · exact placeWatchpoint_bind fun _ keeps => .modify fun s => Places.aside s _
      (Breakpoints.beside_put fun _ => Installation.checkable_of_field (keeps _))
  · rw [pure_bind]
    exact .modify fun s => Places.aside s _
      (Breakpoints.beside_put fun _ => Installation.checkable_of_field rfl)

theorem createMissingWatchpoints_stirs (specs : List WatchpointSpec) :
    Stirs R (createMissingWatchpoints specs : Action V _) := by
  induction specs with
  | nil => exact .pure _
  | cons spec rest ih =>
    unfold createMissingWatchpoints
    refine .bind .get ?_
    intro s
    split
    · split
      · exact .bind ih fun _ => .pure _
      · exact .bind (.quietly takeBreakpointId_moves) fun _ => .bind ih fun _ => .pure _
    · exact .bind (createWatchpoint_stirs spec) fun _ => .bind ih fun _ => .pure _

theorem reconcileFields_stirs (specs : List WatchpointSpec) :
    Stirs R (reconcileFields specs : Action V _) :=
  .bind (reviseWatchpoints_stirs [] specs) fun _ => .bind .get fun _ =>
    .bind (.quietly (removeFields_moves _)) fun _ =>
      .bind (createMissingWatchpoints_stirs specs) fun _ => .bind .get fun _ => .pure _

theorem setWatchpoints_stirs [Enlists R] (specs : List WatchpointSpec) :
    Stirs R (setWatchpoints specs : Action V _) :=
  exclusively_stirs (reconcileFields_stirs specs)

/-! ## Exceptions, and all together -/

theorem removeExceptionRequest_moves :
    Task.Moves R (removeExceptionRequest : Task (Session V) _) := by
  unfold removeExceptionRequest
  refine .bind .get ?_
  intro s
  split
  · exact .pure _
  · exact .bind (.modify fun s => Places.aside s _ ⟨rfl, Nat.le_refl _, id⟩) fun _ =>
      .bind (Places.delete _) fun _ => .pure _

/-- The request for exceptions is made anew. -/
theorem renewExceptionRequest_stirs (caught uncaught : Bool) : Stirs R (do
    quietly removeExceptionRequest
    if caught || uncaught then
      let id ← (call (.createRequest (.exception none caught uncaught))).orFail
        (SessionError.ofRemote .setExceptionBreakpointFailed)
      modify (modifyBreakpoints fun b => { b with exceptionRequest := some id }) :
        Action V PUnit) := by
  refine .bind (.quietly removeExceptionRequest_moves) ?_
  intro _
  split
  · exact .bind (.orFail _ (Places.plant _ rfl)) fun _ =>
      .modify fun s => Places.aside s _ ⟨rfl, Nat.le_refl _, id⟩
  · exact .pure _

theorem setExceptionBreakpoints_stirs [Enlists R] (caught uncaught : Bool) :
    Stirs R (setExceptionBreakpoints caught uncaught : Action V _) :=
  exclusively_stirs (renewExceptionRequest_stirs caught uncaught)

end

theorem deleteGivenUp_moves [Places R] (gone : List Installed) :
    Task.Moves R (deleteGivenUp gone : Task (Session V) _) := by
  induction gone with
  | nil => exact .pure _
  | cons i rest ih =>
    exact .bind (.modify fun s => Places.aside s _ ⟨rfl, Nat.le_refl _,
      fun checkable => checkable.forget i⟩) fun _ => .bind (deleteRequests_moves _) fun _ => ih

omit [Machine V] in
theorem listBreakpoints_moves [Composes R] [Enlists R] :
    Task.Moves R (listBreakpoints : Task (Session V) _) :=
  .bind (exclusively_moves (.bind .get fun _ => .pure _)) fun _ =>
    .bind (exclusively_moves (.bind .get fun _ => .pure _)) fun _ => .pure _

section

variable [Arranges R]

theorem giveUpLines_moves : Task.Moves R (giveUp Breakpoints.giveUpLines : Task (Session V) _) :=
  .modifyGet fun s => Arranges.lines (R := R) s (fun b => b.giveUpLines.2)
    ⟨fun _ => .empty rfl, Nat.le_refl _, Breakpoints.Checkable.giveUpLines⟩

theorem giveUpFields_moves :
    Task.Moves R (giveUp Breakpoints.giveUpFields : Task (Session V) _) :=
  .modifyGet fun s => Arranges.lines (R := R) s (fun b => b.giveUpFields.2)
    ⟨fun filed => filed.congr rfl, Nat.le_refl _, Breakpoints.Checkable.giveUpFields⟩

theorem removeBreakpoints_moves [Enlists R] :
    Task.Moves R (removeBreakpoints : Task (Session V) _) :=
  .bind (exclusively_moves giveUpLines_moves) fun gone =>
    .bind (deleteGivenUp_moves gone) fun _ =>
      .bind (exclusively_moves giveUpFields_moves) fun gone =>
        .bind (deleteGivenUp_moves gone) fun _ => exclusively_moves removeExceptionRequest_moves

end

theorem dataBreakpointInfo_stirs [Browses R] (reference : Option Int64) (name : String) :
    Stirs R (dataBreakpointInfo reference name : Action V _) := by
  unfold dataBreakpointInfo
  refine .bind .get ?_
  intro s
  split
  · exact .pure _
  · refine .bind (.orFail _ (allFields_stirs _)) ?_
    intro fields
    split <;> exact .pure _

/-! ## Steps -/

section

variable [Paces R]

private theorem deleteIfAny_moves (r : Option RequestId) :
    Task.Moves R (deleteIfAny r : Task (Session V) _) := by
  cases r with
  | none => exact .pure _
  | some r => exact .bind (Paces.delete r) fun _ => .pure _

theorem teardown_moves (p : PendingStep) : Task.Moves R (teardown p : Task (Session V) _) :=
  .bind (deleteIfAny_moves _) fun _ => .bind (deleteIfAny_moves _) fun _ =>
    .bind (.modify fun s => Paces.tokens s _) fun _ => .pure _

theorem takeStep_moves (thread : ThreadId) :
    Task.Moves R (takeStep thread : Task (Session V) _) :=
  .modifyGet fun s => Paces.steps (R := R) s _

theorem dropStep_moves (thread : ThreadId) :
    Task.Moves R (dropStep thread : Task (Session V) _) := by
  unfold dropStep
  refine .bind (takeStep_moves thread) ?_
  intro found
  split
  · exact .pure _
  · exact .bind (teardown_moves _) fun _ => .pure _

theorem dropAllSteps_moves : Task.Moves R (dropAllSteps : Task (Session V) _) := by
  have all : ∀ steps, Task.Moves R (teardownAll steps : Task (Session V) _) := by
    intro steps
    induction steps with
    | nil => exact .pure _
    | cons p rest ih => exact .bind (teardown_moves p) fun _ => ih
  exact .bind (.modifyGet fun s => Paces.steps (R := R) s _) all

theorem handleMethodExit_moves (thread : ThreadId) (request : RequestId) (location : Location)
    (depth : Nat) (value : Value) :
    Task.Moves R (handleMethodExit thread request location depth value :
      Task (Session V) _) := by
  refine .modifyGet ?_
  intro s
  split
  · exact Composes.refl s
  · split
    · exact Paces.steps s _
    · exact Composes.refl s

end

section

variable [Treads R]

theorem beginStep_stirs (thread : ThreadId) (kind : StepKind) (depth : Nat) (location : Location)
    (settings : SteppingSettings) :
    Stirs R (beginStep thread kind depth location settings : Action V _) := by
  have exit : Stirs R (requestExit thread kind location : Action V _) := by
    unfold requestExit
    split
    · exact .pure _
    · refine .bind (.attempt (Treads.stride _ thread rfl)) ?_
      intro r
      split
      · exact .pure _
      · split
        · exact .throw _
        · exact .pure _
  exact .bind (.quietly (dropStep_moves thread)) fun _ =>
    .bind (.orFail _ (Treads.stride _ thread rfl)) fun _ => .bind exit fun _ =>
      .bind (.modifyGet fun s => Paces.tokens (R := R) s _) fun _ =>
        .bind (.modify fun s => Paces.steps s _) fun _ => .pure _

private theorem restep_stirs (thread : ThreadId) (request : RequestId) (kind : StepKind)
    (settings : SteppingSettings) : Stirs R (restep thread request kind settings : Action V _) :=
  .bind (.quietly (deleteIfAny_moves _)) fun _ =>
    .bind (.orFail _ (Treads.stride _ thread rfl)) fun _ =>
      .modify fun s => Paces.steps s _

theorem handleStep_stirs (thread : ThreadId) (request : RequestId) (location : Location)
    (depth : Nat) (settings : SteppingSettings) :
    Stirs R (handleStep thread request location depth settings : Action V _) := by
  unfold handleStep
  refine .bind .get ?_
  intro s
  split
  · exact .pure _
  · split
    · exact .pure _
    · split
      · exact .bind (restep_stirs _ _ _ _) fun _ => .pure _
      · split
        · exact .bind (restep_stirs _ _ _ _) fun _ => .pure _
        · refine .bind (.quietly (takeStep_moves thread)) ?_
          intro found
          split
          · exact .pure _
          · exact .bind (.quietly (teardown_moves _)) fun _ => .pure _

end

end Session
end DebugSession
