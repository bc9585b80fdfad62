import DebugSession.Proofs.Moves
import DebugSession.Session.Inspection
/-!
What looking at a debuggee does to a session. The relations are left open: whatever allows some
calls, and what goes with them, allows all that a listing or an evaluation does.
-/

namespace DebugSession

variable {V α β ε : Type} {R : Session V → Session V → Prop}

/-- Whether a call only asks for something. -/
def Call.isQuery : Call → Bool
  | .version | .allThreads | .isSuspended _ | .frames _ | .frameLocation _ | .visibleVariables _
  | .localValues _ _ | .argumentValues _ | .thisObject _ | .referenceType _ | .fieldValues _ _
  | .staticFieldValues _ _ | .arrayLength _ | .arrayValues _ _ _ | .stringValue _ => true
  | _ => false

/-- A relation that allows what may happen at any time: time passes and the session ends. -/
class Ambient (R : Session V → Session V → Prop) : Prop extends Composes R where
  advance : ∀ time s, R s (s.advance time)
  cancel : ∀ s, R s s.cancel

variable [Machine V]

/-- A relation that allows a call. -/
abbrev Allows (R : Session V → Session V → Prop) (c : Call) : Prop :=
  Task.Moves R (Session.tryCall c)

/-- A relation that allows questions to the debuggee, and what they bring to be kept. -/
class Browses (R : Session V → Session V → Prop) : Prop extends Composes R where
  query : ∀ c : Call, c.isQuery = true → Allows R c
  snapshot : ∀ s version frames, R s { s with snapshots := s.snapshots.insert version frames }
  cell : ∀ s p f, R s (Session.setCachedFrame p f s)

/-- A relation that allows methods of the debuggee to run as well. -/
class Explores (R : Session V → Session V → Prop) : Prop extends Browses R where
  invoke : ∀ thread object method arguments,
    Allows R (.invokeMethod thread object method arguments)
  openFrame : ∀ s p depth, R s (Session.openFrame s p depth).2

namespace Session

omit [Machine V] in
private theorem tell_eq (s : Session V) (notices : List (Listener × SettingsChange)) :
    ∃ callMode threads, s.tell notices = { s with callMode, threads } := by
  induction notices generalizing s with
  | nil => exact ⟨s.callMode, s.threads, rfl⟩
  | cons notice rest ih =>
    obtain ⟨listener, change⟩ := notice
    have heard : ∃ callMode threads, s.hear change listener = { s with callMode, threads } := by
      cases listener with
      | callMode =>
        simp only [hear]
        split <;> exact ⟨_, _, rfl⟩
      | threads =>
        simp only [hear]
        split <;> exact ⟨_, _, rfl⟩
      | observer number => exact ⟨_, _, rfl⟩
    obtain ⟨callMode, threads, same⟩ := heard
    obtain ⟨callMode', threads', same'⟩ := ih (s.hear change listener)
    exact ⟨callMode', threads', by rw [tell, List.foldl_cons, ← tell, same', same]⟩

omit [Machine V] in
/-- New settings concern nothing else but the call mode and the memory of threads. -/
theorem update_eq {s s' : Session V} {settings : Settings}
    {notices : List (Listener × SettingsChange)} (h : s.update settings = .ok (notices, s')) :
    ∃ callMode threads, s' = { s with settings, callMode, threads } := by
  cases valid : settings.validate with
  | error e =>
    simp only [update, SettingsHandle.update, valid] at h
    cases h
  | ok _ =>
    simp only [update, SettingsHandle.update, valid] at h
    cases h
    exact tell_eq _ _

/-! ## Calls -/

section

variable [Composes R] {c : Call}

private theorem complete_moves
    (perform : ∀ s, R s { s with machine := (Machine.perform c s.machine).2 }) (lost : Bool) :
    Task.Moves R (complete c lost) := by
  unfold complete
  split
  · exact .pure _
  · exact .modifyGet perform

omit [Machine V] in
private theorem paused_moves (s : Session V) (delay : Nat)
    {x : Task (Session V) (Except RemoteError c.Reply)} (h : Task.Moves R x) :
    Task.Moves R (if 0 < min delay s.waitLimit then do
        Task.sleep (s.clock + min delay s.waitLimit) fun s' =>
          s'.cancelled || s.clock + min delay s.waitLimit ≤ s'.clock
        if (← get).cancelled then return .error .disconnected else x
      else x) := by
  split
  · refine .bind (.sleep fun _ reached => ?_) fun _ => .bind .get fun s' => ?_
    · simp [reached]
    · split
      · exact .pure _
      · exact h
  · exact h

private theorem answerAfter_moves
    (perform : ∀ s, R s { s with machine := (Machine.perform c s.machine).2 }) (delay : Nat)
    (lost : Bool) : Task.Moves R (answerAfter c delay lost) := by
  unfold answerAfter
  refine .bind .get ?_
  intro s
  split
  · exact paused_moves s delay (.pure _)
  · exact paused_moves s delay (complete_moves perform lost)

/-- Until a call is noted, only the debuggee changes. -/
theorem issue_moves (submit : ∀ s, R s { s with machine := (Machine.submit c s.machine).2 })
    (perform : ∀ s, R s { s with machine := (Machine.perform c s.machine).2 }) :
    Task.Moves R (issue c) := by
  unfold issue
  refine .bind (.modifyGet submit) ?_
  intro admission
  cases admission with
  | refused e => exact .pure _
  | accepted delay lost => exact answerAfter_moves perform delay lost

end

section

variable [Ambient R] {c : Call}

/-- It is enough to allow a call to be made, to have its effect and to be noted. -/
theorem allows_of_parts (submit : ∀ s, R s { s with machine := (Machine.submit c s.machine).2 })
    (perform : ∀ s, R s { s with machine := (Machine.perform c s.machine).2 })
    (note : ∀ s r, R s (Session.note c r s)) : Allows R c := by
  have asked : Task.Moves R (ask c) := by
    unfold ask
    refine .bind (issue_moves submit perform) ?_
    intro r
    split
    · exact .bind (.modify Ambient.cancel) fun _ => .pure _
    · exact .pure _
  have noted : ∀ r, Task.Moves R (do modify (Session.note c r); return r) :=
    fun r => .bind (.modify fun s => note s r) fun _ => .pure _
  unfold Allows tryCall
  refine .bind .get ?_
  intro s
  split
  · exact .bind (.pure _) noted
  · exact .bind asked noted

end

section

variable [Browses R]

theorem query_stirs {c : Call} (h : c.isQuery = true) : Stirs R (call c) := Browses.query c h

/-! ## Frames -/

theorem queryFrames_moves (thread : ThreadId) :
    Task.Moves R (queryFrames thread : Task (Session V) _) := by
  unfold queryFrames
  refine .bind (Browses.query _ rfl) ?_
  intro r
  split
  · refine .bind (Browses.query _ rfl) ?_
    intro r
    split <;> exact .pure _
  · exact .pure _

/-- The halt of a thread is recorded with its frames as they are then. -/
theorem threadHalted_moves (thread : ThreadId)
    (counted : ∀ (s : Session V) suspensions, R s { s with suspensions })
    (recorded : ∀ p s, R s (recordHalt p s)) :
    Task.Moves R (threadHalted thread : Task (Session V) _) := by
  refine .bind (.bind (.modifyGet fun s => counted s _) fun version => ?_) fun p => ?_
  · refine .bind (queryFrames_moves thread) ?_
    intro found
    cases found with
    | none => exact .pure _
    | some frames => exact .bind (.modify fun s => Browses.snapshot s _ _) fun _ => .pure _
  · exact .bind (.modify (recorded p)) fun _ => .pure _

theorem refresh_moves (p : Suspension) (depth : Nat) :
    Task.Moves R (refresh p depth : Task (Session V) _) := by
  unfold refresh
  refine .bind (queryFrames_moves _) ?_
  intro found
  split
  · exact .pure _
  · exact .bind (.modify fun s => Browses.snapshot s _ _) fun _ => .pure _

private theorem retry_stirs (p : FrameProxy) {op : FrameId → Remote V α}
    (h : ∀ f, Stirs R (op f)) (e : RemoteError) : Stirs R (retry p op e) := by
  unfold retry
  refine .bind (.quietly (refresh_moves _ _)) ?_
  intro found
  split
  · exact .bind (.modify fun s => Browses.cell s _ _) fun _ => h _
  · exact .bind (.modify fun s => Browses.cell s _ _) fun _ => .throw _

theorem withFrame_stirs (p : FrameProxy) {op : FrameId → Remote V α}
    (h : ∀ f, Stirs R (op f)) : Stirs R (withFrame p op) := by
  unfold withFrame
  refine .bind .get ?_
  intro s
  split
  · exact retry_stirs p h _
  · refine .bind (.attempt (h _)) ?_
    intro r
    split
    · exact .pure _
    · split
      · exact retry_stirs p h _
      · exact .throw _

theorem visibleVariables_stirs (p : FrameProxy) : Stirs R (visibleVariables p : Remote V _) :=
  withFrame_stirs p fun _ => query_stirs rfl

theorem localValues_stirs (p : FrameProxy) (vs : List LocalVariable) :
    Stirs R (localValues p vs : Remote V _) :=
  withFrame_stirs p fun _ => query_stirs rfl

theorem argumentValues_stirs (p : FrameProxy) : Stirs R (argumentValues p : Remote V _) :=
  withFrame_stirs p fun _ => query_stirs rfl

theorem thisObject_stirs (p : FrameProxy) : Stirs R (thisObject p : Remote V _) :=
  withFrame_stirs p fun _ => query_stirs rfl

/-! ## Listings -/

/-- Pages may be read one after the other or side by side. -/
theorem fetchPaged_stirs (policy : FetchPolicy) (items : List α)
    {fetch : List α → Remote V (List β)} (h : ∀ page, Stirs R (fetch page)) :
    Stirs R (fetchPaged policy items fetch) := by
  unfold fetchPaged
  split
  · exact .bind (.mapM h) fun _ => .pure _
  · refine .bind (.quietly (.all fun x hx => ?_)) fun results => ?_
    · obtain ⟨page, -, rfl⟩ := List.mem_map.1 hx
      exact h page
    · split
      · exact .pure _
      · exact .throw _

theorem listLocals_stirs (p : FrameProxy) (policy : FetchPolicy) :
    Stirs R (listLocals p policy : Remote V _) := by
  unfold listLocals
  refine .bind (.attempt (visibleVariables_stirs p)) ?_
  intro r
  split
  · unfold listNamed
    refine .bind (fetchPaged_stirs _ _ fun page => ?_) fun _ => .pure _
    exact .bind (localValues_stirs p page) fun _ => .pure _
  · unfold listArguments
    refine .bind (.attempt (argumentValues_stirs p)) ?_
    intro r
    split
    · exact .pure _
    · exact .pure _
    · exact .throw _
  · exact .pure _
  · exact .throw _

theorem fieldsFrom_stirs (first : String) (count : Nat) (known : List String) (next : String) :
    Stirs R (fieldsFrom first count known next : Remote V _) := by
  induction count generalizing known next with
  | zero => exact .pure _
  | succ count ih =>
    unfold fieldsFrom
    split
    · exact .pure _
    · refine .bind (.attempt (query_stirs rfl)) ?_
      intro r
      split
      · split
        · exact .throw _
        · exact .pure _
      · exact .throw _
      · split
        · exact .pure _
        · exact .bind (ih _ _) fun _ => .pure _

theorem allFields_stirs (typeName : String) : Stirs R (allFields typeName : Remote V _) :=
  .bind .get fun _ => fieldsFrom_stirs _ _ _ _

theorem fieldValue?_stirs (o : ObjectRef) (name : String) :
    Stirs R (fieldValue? o name : Remote V _) := by
  unfold fieldValue?
  split
  · split
    · exact .pure _
    · exact .bind (query_stirs rfl) fun _ => .pure _
  · refine .bind (allFields_stirs _) ?_
    intro fields
    split
    · exact .pure _
    · split
      · exact .bind (query_stirs rfl) fun _ => .pure _
      · exact .bind (query_stirs rfl) fun _ => .pure _

private theorem listStaticFields_stirs (typeName : String) (policy : FetchPolicy)
    (fields : List Field) : Stirs R (listStaticFields typeName policy fields : Remote V _) :=
  fetchPaged_stirs _ _ fun _ => .bind (query_stirs rfl) fun _ => .pure _

theorem listFields_stirs (o : ObjectRef) (withStatic : Bool) (policy : FetchPolicy)
    (parent : Option String) : Stirs R (listFields o withStatic policy parent : Remote V _) := by
  unfold listFields
  refine .bind (allFields_stirs _) ?_
  intro fields
  refine .bind (fetchPaged_stirs _ _ fun _ => ?_) fun own => ?_
  · exact .bind (query_stirs rfl) fun _ => .pure _
  · dsimp only
    split
    · exact .bind (listStaticFields_stirs _ _ _) fun _ => .pure _
    · exact .bind (.pure _) fun _ => .pure _

theorem listStatics_stirs (typeName : String) (policy : FetchPolicy) :
    Stirs R (listStatics typeName policy : Remote V _) :=
  .bind (allFields_stirs _) fun _ => .bind (listStaticFields_stirs _ _ _) fun _ => .pure _

theorem listElements_stirs (o : ObjectRef) (start : Nat) (count : Option Nat)
    (policy : FetchPolicy) (parent : Option String) :
    Stirs R (listElements o start count policy parent : Remote V _) := by
  unfold listElements
  split
  · refine .bind (query_stirs rfl) fun length => fetchPaged_stirs _ _ ?_
    intro page
    split
    · exact .pure _
    · exact .bind (query_stirs rfl) fun _ => .pure _
  · exact .throw _

theorem formatValue_stirs (value : Value) (size : Option Nat) (options : FormatOptions) :
    Stirs R (formatValue value size options : Remote V _) := by
  unfold formatValue
  split
  · unfold formatObject
    split
    · exact .bind (query_stirs rfl) fun _ => .pure _
    · exact .bind (query_stirs rfl) fun _ => .pure _
    · exact .pure _
    · split <;> exact .pure _
  · exact .pure _

end

end Session
end DebugSession
