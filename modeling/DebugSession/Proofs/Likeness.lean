import DebugSession.Proofs.FrameHandles
import DebugSession.Proofs.Handing
import DebugSession.Proofs.Installing
import DebugSession.Server.Handler
/-!
What looking at a debuggee leaves alone, which is all that can be looked at. Methods may run, so
that handles of frames go stale, but frames, objects, classes and requests stay as they are.
-/

namespace DebugSession

/-- A thread regardless of how often it has run. -/
def VmThread.paused (t : VmThread) : VmThread := { t with generation := 0 }

/-- Whether a call only asks for something that has nothing to do with frames. -/
def Call.isLookup : Call → Bool
  | .referenceType _ | .fieldValues _ _ | .staticFieldValues _ _ | .arrayLength _
  | .arrayValues _ _ _ | .stringValue _ => true
  | _ => false

theorem Call.isQuery_of_isLookup {c : Call} (h : c.isLookup = true) : c.isQuery = true := by
  cases c <;> first | rfl | cases h

namespace Debuggee

/-- All that can be looked at is the same: threads and their frames with locals and arguments,
types, objects with their fields and elements, statics, the results of methods and requests.
Threads may have run methods, and handles of frames may have been given out. -/
structure Same (d d' : Debuggee) : Prop where
  threads : ∀ thread,
    (d'.threads.get? thread).map VmThread.paused = (d.threads.get? thread).map VmThread.paused
  types : d'.types = d.types
  objects : d'.objects = d.objects
  statics : d'.statics = d.statics
  invokeResults : d'.invokeResults = d.invokeResults
  requests : d'.requests = d.requests
  failingFieldReads : d'.failingFieldReads = d.failingFieldReads
  latency : d'.latency = d.latency
  disconnected : d'.disconnected = d.disconnected

/-- The debuggee was only asked: handles may have been given out. -/
structure Reads (d d' : Debuggee) : Prop extends Issues d d' where
  same : Same d d'

section

variable {d d' d'' : Debuggee}

theorem Same.refl (d : Debuggee) : Same d d := ⟨fun _ => rfl, rfl, rfl, rfl, rfl, rfl, rfl, rfl, rfl⟩

theorem Same.symm (h : Same d d') : Same d' d where
  threads thread := (h.threads thread).symm
  types := h.types.symm
  objects := h.objects.symm
  statics := h.statics.symm
  invokeResults := h.invokeResults.symm
  requests := h.requests.symm
  failingFieldReads := h.failingFieldReads.symm
  latency := h.latency.symm
  disconnected := h.disconnected.symm

theorem Same.trans (h : Same d d') (h' : Same d' d'') : Same d d'' where
  threads thread := (h'.threads thread).trans (h.threads thread)
  types := h'.types.trans h.types
  objects := h'.objects.trans h.objects
  statics := h'.statics.trans h.statics
  invokeResults := h'.invokeResults.trans h.invokeResults
  requests := h'.requests.trans h.requests
  failingFieldReads := h'.failingFieldReads.trans h.failingFieldReads
  latency := h'.latency.trans h.latency
  disconnected := h'.disconnected.trans h.disconnected

theorem Same.thread (h : Same d d') {thread : ThreadId} {t : VmThread}
    (known : d.threads.get? thread = some t) :
    ∃ t', d'.threads.get? thread = some t' ∧ t'.alive = t.alive ∧ t'.suspended = t.suspended ∧
      t'.frames = t.frames := by
  have same := h.threads thread
  rw [known] at same
  obtain ⟨t', known', paused⟩ := Option.map_eq_some_iff.1 same
  injection paused with _ alive suspended frames
  exact ⟨t', known', alive, suspended, frames⟩

theorem Same.unknown (h : Same d d') {thread : ThreadId} (unknown : d.threads.get? thread = none) :
    d'.threads.get? thread = none := by
  have same := h.threads thread
  rw [unknown] at same
  exact Option.map_eq_none_iff.1 same

theorem Same.standing (h : Same d d') (thread : ThreadId) (depth : Nat) :
    d'.standing? thread depth = d.standing? thread depth := by
  unfold standing?
  cases known : d.threads.get? thread with
  | none => rw [h.unknown known]
  | some t =>
    obtain ⟨t', known', alive, suspended, frames⟩ := h.thread known
    rw [known', Option.bind_some, Option.bind_some, alive, suspended, frames]

theorem Same.frameAt (h : Same d d') (thread : ThreadId) (depth : Nat) :
    d'.frameAt thread depth = d.frameAt thread depth := by
  unfold Debuggee.frameAt
  cases known : d.threads.get? thread with
  | none => rw [h.unknown known]
  | some t =>
    obtain ⟨t', known', -, -, frames⟩ := h.thread known
    rw [known', Option.bind_some, Option.bind_some, frames]

theorem Reads.refl (d : Debuggee) : Reads d d := ⟨.refl d, .refl d⟩

theorem Reads.trans (h : Reads d d') (h' : Reads d' d'') : Reads d d'' :=
  ⟨h.toIssues.trans h'.toIssues, h.same.trans h'.same⟩

/-! ## Calls -/

private theorem issueFrames_eq (d : Debuggee) (thread : ThreadId) (generation depth : Nat)
    (fs : List Frame) :
    (d.issueFrames thread generation depth fs).2 =
      { d with
        nextFrame := (d.issueFrames thread generation depth fs).2.nextFrame
        frameHandles := (d.issueFrames thread generation depth fs).2.frameHandles } := by
  induction fs generalizing d depth with
  | nil => rfl
  | cons f rest ih => exact ih _ _

private theorem frames_same (d : Debuggee) (thread : ThreadId) : Same d (d.frames thread).2 := by
  have counted : Same d { d with framesCalls := d.framesCalls + 1 } :=
    ⟨fun _ => rfl, rfl, rfl, rfl, rfl, rfl, rfl, rfl, rfl⟩
  unfold frames
  dsimp only
  split
  · exact counted
  · split
    · exact counted
    · split
      · exact counted
      · rw [issueFrames_eq]
        exact ⟨fun _ => rfl, rfl, rfl, rfl, rfl, rfl, rfl, rfl, rfl⟩

theorem reads_perform {c : Call} (asks : c.isQuery = true) (d : Debuggee) :
    Reads d (perform c d).2 := by
  have same : Same d (perform c d).2 := by
    cases c with
    | frames thread => exact frames_same d thread
    | _ => first
      | exact ⟨fun _ => rfl, rfl, rfl, rfl, rfl, rfl, rfl, rfl, rfl⟩
      | cases asks
  refine ⟨?_, same⟩
  cases c with
  | frames thread => exact frames_issues d thread
  | _ => first
    | exact .of_eq rfl rfl rfl rfl rfl
    | cases asks

/-- A frame that was found by a handle is still found by it. -/
theorem Issues.frame (h : Issues d d') {id : FrameId} {thread : ThreadId} {depth : Nat}
    (named : d.Names id thread depth) : d'.frame id = d.frame id := by
  obtain ⟨below, generation, found⟩ := named
  unfold Debuggee.frame handle Debuggee.thread
  rw [found, h.keeps id _ below found, h.threads]

private theorem error_bind {α β : Type} {x : Except RemoteError α} {f : α → Except RemoteError β}
    {e : RemoteError} (h : (x >>= f) = .error e) : x = .error e ∨ ∃ a, f a = .error e := by
  cases x with
  | ok a => exact .inr ⟨a, h⟩
  | error e' => exact .inl (congrArg Except.error (Except.error.inj h))

private theorem connected_bind {α β : Type} {x : Except RemoteError α}
    {f : α → Except RemoteError β} (first : x ≠ .error .disconnected)
    (rest : ∀ a, f a ≠ .error .disconnected) : (x >>= f) ≠ .error .disconnected := by
  intro lost
  rcases error_bind lost with lost | ⟨a, lost⟩
  · exact first lost
  · exact rest a lost

private theorem connected_map {α β : Type} {x : Except RemoteError α} {f : α → β}
    (h : x ≠ .error .disconnected) : x.map f ≠ .error .disconnected :=
  connected_bind h fun _ => nofun

private theorem object_connected (d : Debuggee) (id : ObjectId) :
    d.object id ≠ .error .disconnected := by
  unfold object
  split <;> exact nofun

private theorem referenceType_connected (d : Debuggee) (name : String) :
    d.referenceType name ≠ .error .disconnected := by
  unfold referenceType
  split <;> exact nofun

private theorem thread_connected (d : Debuggee) (id : ThreadId) :
    d.thread id ≠ .error .disconnected := by
  unfold Debuggee.thread
  split <;> exact nofun

/-- Without a frame there is no such frame, or not even its thread. -/
theorem frame_error {d : Debuggee} {id : FrameId} {e : RemoteError} (bad : d.frame id = .error e) :
    e = .invalidStackFrame ∨ ∃ thread, e = .invalidThread thread := by
  rcases error_bind bad with missing | ⟨h, bad⟩
  · unfold handle at missing
    split at missing
    · cases missing
    · exact .inl (Except.error.inj missing).symm
  · rcases error_bind bad with missing | ⟨t, bad⟩
    · unfold Debuggee.thread at missing
      split at missing
      · cases missing
      · exact .inr ⟨_, (Except.error.inj missing).symm⟩
    · dsimp only at bad
      split at bad
      · exact .inl (Except.error.inj bad).symm
      · split at bad
        · cases bad
        · exact .inl (Except.error.inj bad).symm

private theorem frame_connected (d : Debuggee) (id : FrameId) :
    d.frame id ≠ .error .disconnected := by
  intro bad
  rcases frame_error bad with same | ⟨thread, same⟩ <;> cases same

private theorem value_connected (f : Frame) (v : LocalVariable) :
    Frame.value f v ≠ .error .disconnected := by
  unfold Frame.value
  split <;> exact nofun

private theorem values_connected (f : Frame) (vs : List LocalVariable) :
    vs.mapM (Frame.value f) ≠ .error .disconnected := by
  induction vs with
  | nil => exact nofun
  | cons v rest ih =>
    rw [List.mapM_cons]
    exact connected_bind (value_connected f v) fun _ => connected_bind ih fun _ => nofun

/-- Only a debuggee that is lost answers that it is. -/
theorem answer_connected {c : Call} (asks : c.isQuery = true) (d : Debuggee) :
    (perform c d).1 ≠ .error .disconnected := by
  cases c with
  | version | allThreads => rintro ⟨⟩
  | isSuspended thread => exact connected_map (thread_connected d thread)
  | frames thread =>
    rcases frames_shows d thread with ⟨infos, answered, -⟩ | ⟨⟨e, failed, reason⟩, -⟩
    · intro lost
      cases answered.symm.trans lost
    · exact fun lost => reason (Except.error.inj (failed.symm.trans lost))
  | frameLocation frame => exact connected_map (frame_connected d frame)
  | thisObject frame => exact connected_map (frame_connected d frame)
  | visibleVariables frame =>
    refine connected_bind (frame_connected d frame) fun f => ?_
    dsimp only
    split <;> rintro ⟨⟩
  | localValues frame targets =>
    exact connected_bind (frame_connected _ frame) fun f => values_connected f targets
  | argumentValues frame =>
    refine connected_bind (frame_connected d frame) fun f => ?_
    dsimp only
    split <;> rintro ⟨⟩
  | referenceType name => exact referenceType_connected d name
  | fieldValues object fields =>
    simp only [perform, fieldValues, answer]
    split
    · rintro ⟨⟩
    · exact connected_bind (object_connected _ object) fun _ => by rintro ⟨⟩
  | staticFieldValues typeName fields =>
    exact connected_bind (referenceType_connected _ typeName) fun _ => by rintro ⟨⟩
  | arrayLength array => exact connected_map (object_connected d array)
  | arrayValues array start length =>
    refine connected_bind (object_connected d array) fun o => ?_
    dsimp only
    split <;> rintro ⟨⟩
  | stringValue string =>
    refine connected_bind (object_connected d string) fun o => ?_
    split <;> rintro ⟨⟩
  | _ => cases asks

theorem invoke_connected (d : Debuggee) (thread : ThreadId) (object : ObjectId)
    (method : MethodCall) (arguments : List Value) :
    (perform (.invokeMethod thread object method arguments) d).1 ≠ .error .disconnected := by
  simp only [perform, invokeMethod, Debuggee.thread]
  cases d.threads.get? thread with
  | none => rintro ⟨⟩
  | some t =>
    dsimp only
    split
    · rintro ⟨⟩
    · split <;> rintro ⟨⟩

theorem invoke_same (d : Debuggee) (thread : ThreadId) (object : ObjectId) (method : MethodCall)
    (arguments : List Value) : Same d (perform (.invokeMethod thread object method arguments) d).2 := by
  have ran : ∀ invocations, Same d { d with
      threads := d.threads.modify thread fun t => { t with generation := t.generation + 1 }
      invocations } := by
    intro invocations
    refine ⟨fun t => ?_, rfl, rfl, rfl, rfl, rfl, rfl, rfl, rfl⟩
    dsimp only
    rw [Table.get?_modify]
    split
    · cases d.threads.get? t <;> rfl
    · rfl
  simp only [perform, invokeMethod]
  split
  · exact .refl d
  · split
    · exact .refl d
    · split <;> exact ran _

/-- What is answered to a question that has nothing to do with frames depends only on what can be
looked at. -/
theorem Same.reply (h : Same d d') {c : Call} (asks : c.isLookup = true) :
    (perform c d').1 = (perform c d).1 := by
  cases c with
  | referenceType name => simp only [perform, answer, referenceType, h.types]
  | fieldValues object fields =>
    simp only [perform, answer, fieldValues, Debuggee.object, h.objects, h.failingFieldReads]
  | staticFieldValues typeName fields =>
    simp only [perform, answer, staticFieldValues, referenceType, h.types, h.statics]
  | arrayLength array => simp only [perform, answer, Debuggee.object, h.objects]
  | arrayValues array start length =>
    simp only [perform, answer, arrayValues, Debuggee.object, h.objects]
  | stringValue string => simp only [perform, answer, stringValue, Debuggee.object, h.objects]
  | _ => cases asks

theorem Same.invoked (h : Same d d') (thread : ThreadId) (object : ObjectId) (method : MethodCall)
    (arguments : List Value) :
    (perform (.invokeMethod thread object method arguments) d').1 =
      (perform (.invokeMethod thread object method arguments) d).1 := by
  simp only [perform, invokeMethod, Debuggee.thread]
  cases known : d.threads.get? thread with
  | none =>
    rw [h.unknown known]
  | some t =>
    obtain ⟨t', known', -, suspended, -⟩ := h.thread known
    rw [known', h.invokeResults]
    dsimp only
    rw [suspended]
    split
    · rfl
    · split <;> rfl

end

end Debuggee

/-- Whether a client only wants to look at something. -/
def Request.isReadOnly : Request → Bool
  | .threads | .stackTrace _ _ _ | .stackFrame _ _ | .refreshStackFrames _ | .scopes _
  | .listVariables _ _ _ | .evaluate _ _ | .dataBreakpointInfo _ _ | .exceptionInfo _
  | .getBreakpoints => true
  | _ => false

namespace Session

variable {V : Type} [Machine V]

/-- All that a listing shows is the same, but for the handles that it refers to. -/
structure Alike (s s' : Session Debuggee) : Prop where
  machine : Debuggee.Same s.machine s'.machine
  settings : s'.settings = s.settings
  providers : s'.providers = s.providers
  callMode : s'.callMode = s.callMode
  stopped : s'.stopped = s.stopped
  results : s'.results = s.results

section

variable {s s' s'' : Session Debuggee}

theorem Alike.of_eq (machine : s'.machine = s.machine) (settings : s'.settings = s.settings)
    (providers : s'.providers = s.providers) (callMode : s'.callMode = s.callMode)
    (stopped : s'.stopped = s.stopped) (results : s'.results = s.results) : Alike s s' :=
  ⟨machine ▸ .refl _, settings, providers, callMode, stopped, results⟩

theorem Alike.refl (s : Session Debuggee) : Alike s s := .of_eq rfl rfl rfl rfl rfl rfl

theorem Alike.symm (h : Alike s s') : Alike s' s where
  machine := h.machine.symm
  settings := h.settings.symm
  providers := h.providers.symm
  callMode := h.callMode.symm
  stopped := h.stopped.symm
  results := h.results.symm

theorem Alike.trans (h : Alike s s') (h' : Alike s' s'') : Alike s s'' where
  machine := h.machine.trans h'.machine
  settings := h'.settings.trans h.settings
  providers := h'.providers.trans h.providers
  callMode := h'.callMode.trans h.callMode
  stopped := h'.stopped.trans h.stopped
  results := h'.results.trans h.results

end

instance : Composes Alike := ⟨Alike.refl, Alike.trans⟩

instance : Ambient Alike where
  advance _ _ := .of_eq rfl rfl rfl rfl rfl rfl
  cancel _ := .of_eq rfl rfl rfl rfl rfl rfl

private theorem Alike.allows {c : Call} (same : ∀ d, Debuggee.Same d (Debuggee.perform c d).2) :
    Allows Alike c :=
  allows_of_parts (fun _ => .of_eq rfl rfl rfl rfl rfl rfl)
    (fun s => ⟨same s.machine, rfl, rfl, rfl, rfl, rfl⟩) fun _ _ => .of_eq rfl rfl rfl rfl rfl rfl

instance : Evaluates Alike where
  query _ asks := Alike.allows fun d => (Debuggee.reads_perform asks d).same
  snapshot _ _ _ := .of_eq rfl rfl rfl rfl rfl rfl
  cell _ _ _ := .of_eq rfl rfl rfl rfl rfl rfl
  invoke _ _ _ _ := Alike.allows fun d => Debuggee.invoke_same d _ _ _ _
  openFrame _ _ _ := .of_eq rfl rfl rfl rfl rfl rfl
  evaluations _ _ _ := .of_eq rfl rfl rfl rfl rfl rfl

instance : Enlists Alike where
  line _ _ := .of_eq rfl rfl rfl rfl rfl rfl

/-- Whoever only wants to look does nothing that is not in a relation that allows handles to be
given out, evaluations to begin and threads to be noted. -/
theorem performAny_looks {R : Session V → Session V → Prop} [Ambient R] [Evaluates R] [Enlists R]
    (hand : ∀ owner c s, R s (handOut owner c s)) (note : ∀ s threads, R s { s with threads })
    {r : Request} (h : r.isReadOnly = true) (s : Session V) :
    Settles (performAny r) s fun _ s' => R s s' := by
  have answered : ∀ {α : Type} {x : Action V α} (f : α → Result), StirsFrom R s x →
      Settles (ExceptT.adapt Failure.error (do return f (← x))) s fun _ s' => R s s' :=
    fun f stirs => ((stirs.bind fun _ => .pure _).adapt _).settles Ambient.advance
  cases r with
  | threads =>
    refine answered _ (.of_stirs (.bind (.orFail _ (query_stirs rfl)) fun _ => ?_))
    exact .bind (.modify fun s => note s _) fun _ => .pure _
  | stackTrace thread start levels =>
    exact answered _ (stackTrace_stirs thread start levels s fun _ _ _ _ _ => hand ..)
  | stackFrame thread depth =>
    exact answered _ (.quietly (stackFrame?_moves thread depth s fun _ _ _ _ _ => hand ..))
  | refreshStackFrames thread => exact answered _ (.of_stirs (.quietly (refreshThread_moves thread)))
  | scopes frameId =>
    exact answered _ (.quietly (scopes_moves frameId s fun _ _ _ _ _ _ => hand ..))
  | listVariables reference start count =>
    exact answered _ (listVariables_stirs reference start count s fun _ _ _ _ _ => hand ..)
  | evaluate expression frameId =>
    have evaluated : StirsFrom R s (Session.evaluate expression frameId : Attempt V _) :=
      evaluation_stirs expression frameId s fun _ _ _ _ _ _ => hand ..
    exact (evaluated.bind fun _ => .pure _).settles Ambient.advance
  | dataBreakpointInfo reference name =>
    exact answered _ (.of_stirs (dataBreakpointInfo_stirs reference name))
  | exceptionInfo thread => exact answered _ (.of_stirs (exceptionInfo_stirs thread))
  | getBreakpoints => exact answered _ (.of_stirs (.quietly listBreakpoints_moves))
  | _ => cases h

/-- Whoever only wants to look changes nothing that can be looked at, in whatever state the session
and the debuggee are. -/
theorem performAny_alike {r : Request} (h : r.isReadOnly = true) (s : Session Debuggee) :
    Settles (performAny r) s fun _ s' => Alike s s' :=
  performAny_looks (fun _ _ _ => .of_eq rfl rfl rfl rfl rfl rfl)
    (fun _ _ => .of_eq rfl rfl rfl rfl rfl rfl) h s

end Session
end DebugSession
