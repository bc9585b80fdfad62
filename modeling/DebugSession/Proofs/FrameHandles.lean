import DebugSession.Debuggee.Calls
import DebugSession.Proofs.Tables
/-!
Handles of frames. What a handle was given out for never changes, so a handle that is good now is
one for the frame that is now at its depth, whatever has happened to the thread.
-/

namespace DebugSession

inductive FrameOperation where
  | location
  | visibleVariables
  | localValues (targets : List LocalVariable)
  | argumentValues
  | thisObject
  | setLocalValue (target : LocalVariable) (value : Value)
  deriving DecidableEq, Repr

namespace FrameOperation

@[reducible] def Reply : FrameOperation → Type
  | location => Location
  | visibleVariables => List LocalVariable
  | localValues _ | argumentValues => List Value
  | thisObject => Option ObjectRef
  | setLocalValue _ _ => Unit

/-- What a frame answers, and the frame afterwards. -/
def onFrame : (op : FrameOperation) → Frame → Except RemoteError op.Reply × Frame
  | location, f => (.ok f.location, f)
  | visibleVariables, f =>
    (if f.native || f.absentInformation then .error .absentInformation
      else .ok (f.locals.map (·.1)), f)
  | localValues targets, f => (targets.mapM (Debuggee.Frame.value f), f)
  | argumentValues, f => (if f.native then .error .opaqueFrame else .ok f.arguments, f)
  | thisObject, f => (.ok f.this, f)
  | setLocalValue target value, f =>
    match (do
      Debuggee.checkAssignable target.signature value
      Debuggee.Frame.value f target) with
    | .error e => (.error e, f)
    | .ok _ => (.ok (), Debuggee.Frame.assign f target value)

def perform : (op : FrameOperation) → FrameId → Debuggee → Except RemoteError op.Reply × Debuggee
  | location, id, d => Debuggee.perform (.frameLocation id) d
  | visibleVariables, id, d => Debuggee.perform (.visibleVariables id) d
  | localValues targets, id, d => Debuggee.perform (.localValues id targets) d
  | argumentValues, id, d => Debuggee.perform (.argumentValues id) d
  | thisObject, id, d => Debuggee.perform (.thisObject id) d
  | setLocalValue target value, id, d => Debuggee.perform (.setLocalValue id target value) d

end FrameOperation

namespace Debuggee

/-- The frame at a depth of a thread. -/
def frameAt (d : Debuggee) (thread : ThreadId) (depth : Nat) : Option Frame :=
  (d.threads.get? thread).bind fun t => t.frames[depth]?

/-- The frame at a depth of a thread that lives and stands still. -/
def standing? (d : Debuggee) (thread : ThreadId) (depth : Nat) : Option Frame :=
  (d.threads.get? thread).bind fun t => if t.alive && t.suspended then t.frames[depth]? else none

/-- A handle that was given out for a frame at a depth of a thread. -/
def Names (d : Debuggee) (id : FrameId) (thread : ThreadId) (depth : Nat) : Prop :=
  id < d.nextFrame ∧ ∃ generation, d.frameHandles.get? id = some ⟨thread, generation, depth⟩

/-- Handles may have been given out, and all others are what they were. -/
structure Extends (d d' : Debuggee) : Prop where
  next : d.nextFrame ≤ d'.nextFrame
  keeps : ∀ id h, id < d.nextFrame → d.frameHandles.get? id = some h →
    d'.frameHandles.get? id = some h

/-- Handles may have been given out, and nothing else has happened that frames depend on. -/
structure Issues (d d' : Debuggee) : Prop extends Extends d d' where
  threads : d'.threads = d.threads
  latency : d'.latency = d.latency
  disconnected : d'.disconnected = d.disconnected

/-- What is known of the frame at a depth of a thread: a good handle, or that there is no frame. -/
def Shows (d : Debuggee) (thread : ThreadId) (depth : Nat) : Option FrameInfo → Prop
  | some info =>
    d.Names info.id thread depth ∧ ∃ f, d.standing? thread depth = some f ∧ d.frame info.id = .ok f
  | none => d.standing? thread depth = none

section

variable {d d' d'' : Debuggee} {id : FrameId} {thread : ThreadId} {depth : Nat}

theorem Extends.of_eq (handles : d'.frameHandles = d.frameHandles)
    (next : d'.nextFrame = d.nextFrame) : Extends d d' :=
  ⟨Nat.le_of_eq next.symm, fun _ _ _ found => handles ▸ found⟩

theorem Extends.refl (d : Debuggee) : Extends d d := .of_eq rfl rfl

theorem Extends.trans (h : Extends d d') (h' : Extends d' d'') : Extends d d'' :=
  ⟨Nat.le_trans h.next h'.next, fun id x below found =>
    h'.keeps id x (Nat.lt_of_lt_of_le below h.next) (h.keeps id x below found)⟩

theorem Issues.of_eq (handles : d'.frameHandles = d.frameHandles)
    (next : d'.nextFrame = d.nextFrame) (threads : d'.threads = d.threads)
    (latency : d'.latency = d.latency) (disconnected : d'.disconnected = d.disconnected) :
    Issues d d' :=
  ⟨.of_eq handles next, threads, latency, disconnected⟩

theorem Issues.refl (d : Debuggee) : Issues d d := .of_eq rfl rfl rfl rfl rfl

theorem Issues.trans (h : Issues d d') (h' : Issues d' d'') : Issues d d'' where
  toExtends := h.toExtends.trans h'.toExtends
  threads := h'.threads.trans h.threads
  latency := h'.latency.trans h.latency
  disconnected := h'.disconnected.trans h.disconnected

theorem Issues.standing (h : Issues d d') (thread : ThreadId) (depth : Nat) :
    d'.standing? thread depth = d.standing? thread depth := by
  unfold standing?
  rw [h.threads]

theorem Issues.frameAt (h : Issues d d') (thread : ThreadId) (depth : Nat) :
    d'.frameAt thread depth = d.frameAt thread depth := by
  unfold Debuggee.frameAt
  rw [h.threads]

theorem Names.mono (named : d.Names id thread depth) (h : Extends d d') :
    d'.Names id thread depth := by
  obtain ⟨below, generation, found⟩ := named
  exact ⟨Nat.lt_of_lt_of_le below h.next, generation, h.keeps id _ below found⟩

/-! ## Frames behind handles -/

private theorem frame_eq {h : FrameHandle} (found : d.frameHandles.get? id = some h) :
    d.frame id =
      match d.threads.get? h.thread with
      | none => .error (.invalidThread h.thread)
      | some t =>
        if FrameHandle.valid h t then
          match t.frames[h.depth]? with
          | some f => .ok f
          | none => .error .invalidStackFrame
        else .error .invalidStackFrame := by
  unfold frame handle Debuggee.thread
  rw [found]
  simp only [bind, Except.bind]
  cases d.threads.get? h.thread with
  | none => rfl
  | some t =>
    dsimp only
    cases FrameHandle.valid h t with
    | false => rfl
    | true => cases t.frames[h.depth]? <;> rfl

/-- A handle brings the frame that stands at its depth, or else an error; if a frame stands there,
the error is that the handle is stale. -/
theorem frame_of_handle {h : FrameHandle} (found : d.frameHandles.get? id = some h) :
    (∃ f, d.frame id = .ok f ∧ d.standing? h.thread h.depth = some f) ∨
      ∃ e, d.frame id = .error e ∧
        (e = .invalidStackFrame ∨ d.standing? h.thread h.depth = none) := by
  rw [frame_eq found]
  unfold standing?
  cases d.threads.get? h.thread with
  | none => exact .inr ⟨_, rfl, .inr rfl⟩
  | some t =>
    dsimp only [Option.bind_some]
    by_cases valid : FrameHandle.valid h t = true
    · have still : (t.alive && t.suspended) = true := by
        unfold FrameHandle.valid at valid
        exact (Bool.and_eq_true_iff.1 valid).1
      rw [if_pos valid, if_pos still]
      cases t.frames[h.depth]? with
      | none => exact .inr ⟨_, rfl, .inl rfl⟩
      | some f => exact .inl ⟨f, rfl, rfl⟩
    · rw [if_neg valid]
      exact .inr ⟨_, rfl, .inl rfl⟩

theorem frame_of_present {h : FrameHandle} (found : d.frameHandles.get? id = some h) {t : VmThread}
    (known : d.threads.get? h.thread = some t) (present : h.generation = t.generation) {f : Frame}
    (stands : d.standing? h.thread h.depth = some f) : d.frame id = .ok f := by
  unfold standing? at stands
  rw [known, Option.bind_some] at stands
  split at stands
  · rename_i still
    have valid : FrameHandle.valid h t = true := by
      unfold FrameHandle.valid
      rw [still, present]
      simp
    rw [frame_eq found, known]
    dsimp only
    rw [if_pos valid, stands]
  · cases stands

theorem frameAt_of_standing {f : Frame} (h : d.standing? thread depth = some f) :
    d.frameAt thread depth = some f := by
  obtain ⟨t, known, there⟩ := Option.bind_eq_some_iff.1 h
  split at there
  · exact Option.bind_eq_some_iff.2 ⟨t, known, there⟩
  · cases there

end

/-! ## Giving out handles -/

section

private theorem issues_handle (d : Debuggee) (h : FrameHandle) :
    Issues d { d with
      nextFrame := d.nextFrame + 1
      frameHandles := d.frameHandles.insert d.nextFrame h } := by
  refine ⟨⟨Nat.le_succ _, fun id x below found => ?_⟩, rfl, rfl, rfl⟩
  rw [Table.get?_insert, if_neg (Nat.ne_of_lt below)]
  exact found

private theorem issueFrames_issues (d : Debuggee) (thread : ThreadId) (generation depth : Nat)
    (fs : List Frame) : Issues d (d.issueFrames thread generation depth fs).2 := by
  induction fs generalizing d depth with
  | nil => exact .refl d
  | cons f rest ih => exact (issues_handle d ⟨thread, generation, depth⟩).trans (ih _ (depth + 1))

private theorem issueFrames_handles (d : Debuggee) (thread : ThreadId) (generation depth : Nat)
    (fs : List Frame) :
    (d.issueFrames thread generation depth fs).1.length = fs.length ∧
      ∀ i info, (d.issueFrames thread generation depth fs).1[i]? = some info →
        info.id < (d.issueFrames thread generation depth fs).2.nextFrame ∧
          (d.issueFrames thread generation depth fs).2.frameHandles.get? info.id =
            some ⟨thread, generation, depth + i⟩ := by
  induction fs generalizing d depth with
  | nil => exact ⟨rfl, fun i info there => nomatch there⟩
  | cons f rest ih =>
    have first : Table.get? (d.frameHandles.insert d.nextFrame ⟨thread, generation, depth⟩)
        d.nextFrame = some ⟨thread, generation, depth⟩ := by
      rw [Table.get?_insert, if_pos rfl]
    let issued : Debuggee := { d with
      nextFrame := d.nextFrame + 1
      frameHandles := d.frameHandles.insert d.nextFrame ⟨thread, generation, depth⟩ }
    have later : Issues issued (issued.issueFrames thread generation (depth + 1) rest).2 :=
      issueFrames_issues issued thread generation (depth + 1) rest
    obtain ⟨lengths, handles⟩ := ih issued (depth + 1)
    refine ⟨congrArg Nat.succ lengths, ?_⟩
    intro i info there
    cases i with
    | zero =>
      cases there
      exact ⟨Nat.lt_of_lt_of_le (Nat.lt_succ_self _) later.next,
        later.keeps _ _ (Nat.lt_succ_self _) first⟩
    | succ i =>
      have deeper := handles i info there
      rw [Nat.add_assoc, Nat.add_comm 1 i] at deeper
      exact deeper

theorem frames_issues (d : Debuggee) (thread : ThreadId) : Issues d (d.frames thread).2 := by
  have counted : Issues d { d with framesCalls := d.framesCalls + 1 } :=
    .of_eq rfl rfl rfl rfl rfl
  unfold frames
  dsimp only
  split
  · exact counted
  · rename_i t _
    split
    · exact counted
    · split
      · exact counted
      · exact counted.trans (issueFrames_issues _ thread t.generation 0 t.frames)

private theorem standing_of_still {d : Debuggee} {thread : ThreadId} {t : VmThread}
    (known : d.threads.get? thread = some t) (still : (t.alive && t.suspended) = true)
    (depth : Nat) : d.standing? thread depth = t.frames[depth]? := by
  unfold standing?
  rw [known, Option.bind_some, if_pos still]

private theorem standing_of_moving {d : Debuggee} {thread : ThreadId} {t : VmThread}
    (known : d.threads.get? thread = some t) (moving : (t.alive && t.suspended) = false)
    (depth : Nat) : d.standing? thread depth = none := by
  unfold standing?
  rw [known, Option.bind_some, moving]
  rfl

theorem isSuspended_shows (d : Debuggee) (thread : ThreadId) :
    (∃ still, (perform (.isSuspended thread) d).1 = .ok still ∧
        (still = false → ∀ depth, d.standing? thread depth = none)) ∨
      (∃ e, (perform (.isSuspended thread) d).1 = .error e ∧ e ≠ .disconnected) ∧
        ∀ depth, d.standing? thread depth = none := by
  simp only [perform, answer, Debuggee.thread]
  cases known : d.threads.get? thread with
  | none =>
    refine .inr ⟨⟨_, rfl, fun same => by cases same⟩, ?_⟩
    intro depth
    unfold standing?
    rw [known, Option.bind_none]
  | some t => exact .inl ⟨_, rfl, standing_of_moving known⟩

private theorem frames_of_still {d : Debuggee} {thread : ThreadId} {t : VmThread}
    (known : d.threads.get? thread = some t) (still : (t.alive && t.suspended) = true) :
    ∃ infos, (d.frames thread).1 = .ok infos ∧
      ∀ depth, (d.frames thread).2.Shows thread depth infos[depth]? := by
  let counted : Debuggee := { d with framesCalls := d.framesCalls + 1 }
  have answered : d.frames thread =
      (.ok (counted.issueFrames thread t.generation 0 t.frames).1,
        (counted.issueFrames thread t.generation 0 t.frames).2) := by
    obtain ⟨alive, suspended⟩ := Bool.and_eq_true_iff.1 still
    unfold frames Debuggee.thread
    simp only [known, alive, suspended, Bool.not_true, Bool.false_eq_true, if_false]
    rfl
  have issues : Issues d (counted.issueFrames thread t.generation 0 t.frames).2 := by
    have h := frames_issues d thread
    rw [answered] at h
    exact h
  obtain ⟨lengths, handles⟩ := issueFrames_handles counted thread t.generation 0 t.frames
  rw [answered]
  refine ⟨_, rfl, fun depth => ?_⟩
  have now := (issues.standing thread depth).trans (standing_of_still known still depth)
  cases shown : (counted.issueFrames thread t.generation 0 t.frames).1[depth]? with
  | none =>
    refine now.trans (List.getElem?_eq_none ?_)
    rw [← lengths]
    exact List.getElem?_eq_none_iff.1 shown
  | some info =>
    obtain ⟨below, found⟩ := handles depth info shown
    rw [Nat.zero_add] at found
    have inside : depth < t.frames.length := by
      rw [← lengths]
      exact (List.getElem?_eq_some_iff.1 shown).1
    have stands := now.trans (List.getElem?_eq_getElem inside)
    refine ⟨⟨below, _, found⟩, _, stands, ?_⟩
    exact frame_of_present found (by rw [issues.threads]; exact known) rfl stands

private theorem frames_of_moving {d : Debuggee} {thread : ThreadId} {t : VmThread}
    (known : d.threads.get? thread = some t) (moving : (t.alive && t.suspended) = false) :
    ∃ e, (d.frames thread).1 = .error e ∧ e ≠ .disconnected := by
  unfold frames Debuggee.thread
  simp only [known]
  cases alive : t.alive with
  | false => exact ⟨_, rfl, fun same => by cases same⟩
  | true =>
    rw [alive, Bool.true_and] at moving
    simp only [moving]
    exact ⟨_, rfl, fun same => by cases same⟩

/-- The frames of a thread that lives and stands still, all with good handles. Of another thread
there are none. -/
theorem frames_shows (d : Debuggee) (thread : ThreadId) :
    (∃ infos, (d.frames thread).1 = .ok infos ∧
        ∀ depth, (d.frames thread).2.Shows thread depth infos[depth]?) ∨
      (∃ e, (d.frames thread).1 = .error e ∧ e ≠ .disconnected) ∧
        ∀ depth, d.standing? thread depth = none := by
  cases known : d.threads.get? thread with
  | none =>
    right
    unfold frames Debuggee.thread standing?
    simp only [known]
    exact ⟨⟨_, rfl, fun same => by cases same⟩, fun _ => rfl⟩
  | some t =>
    cases still : t.alive && t.suspended with
    | true => exact .inl (frames_of_still known still)
    | false => exact .inr ⟨frames_of_moving known still, standing_of_moving known still⟩

theorem runThread_eq (d : Debuggee) (thread : ThreadId) :
    (d.runThread thread).frameHandles = d.frameHandles ∧
      (d.runThread thread).nextFrame = d.nextFrame := by
  unfold runThread
  split <;> exact ⟨rfl, rfl⟩

private theorem runThread_extends (d : Debuggee) (thread : ThreadId) :
    Extends d (d.runThread thread) :=
  .of_eq (d.runThread_eq thread).1 (d.runThread_eq thread).2

/-- No call changes what a handle was given out for. -/
theorem extends_perform (c : Call) (d : Debuggee) : Extends d (perform c d).2 := by
  cases c with
  | frames thread => exact (frames_issues d thread).toExtends
  | resumeAll =>
    have run_all : ∀ (threads : List ThreadId) (d : Debuggee),
        Extends d (threads.foldl runThread d) := by
      intro threads
      induction threads with
      | nil => exact .refl
      | cons thread rest ih => exact fun d => (runThread_extends d thread).trans (ih _)
    exact run_all d.suspendedThreads d
  | resume thread =>
    simp only [perform, resume]
    split
    · exact .refl d
    · exact runThread_extends d thread
  | suspend thread =>
    simp only [perform, suspend]
    split <;> exact .of_eq rfl rfl
  | setLocalValue frame target value =>
    simp only [perform, setLocalValue]
    split <;> exact .of_eq rfl rfl
  | setFieldValue object field value =>
    simp only [perform, setFieldValue]
    split
    · exact .refl d
    · exact .of_eq rfl rfl
    · split <;> exact .of_eq rfl rfl
  | invokeMethod thread object method arguments =>
    simp only [perform, invokeMethod]
    split
    · exact .refl d
    · split
      · exact .refl d
      · split <;> exact .of_eq rfl rfl
  | deleteRequest request =>
    simp only [perform, deleteRequest]
    split <;> exact .of_eq rfl rfl
  | _ => exact .of_eq rfl rfl

end

/-! ## Operations -/

section

variable {d d' : Debuggee} {id : FrameId}

/-- The frames of one debuggee are those of another, except for one. -/
def Replaces (d d' : Debuggee) (thread : ThreadId) (depth : Nat) (f : Frame) : Prop :=
  ∀ t i, d'.frameAt t i = if t = thread ∧ i = depth then some f else d.frameAt t i

private theorem replaces_same {thread : ThreadId} {depth : Nat} {f : Frame}
    (there : d.frameAt thread depth = some f) (same : d'.threads = d.threads) :
    Replaces d d' thread depth f := by
  intro t i
  have unchanged : d'.frameAt t i = d.frameAt t i := by
    unfold frameAt
    rw [same]
  rw [unchanged]
  split
  · rename_i here
    rw [here.1, here.2, there]
  · rfl

private theorem replaces_set {thread : ThreadId} {depth : Nat} {f : Frame} (g : Frame)
    (there : d.frameAt thread depth = some f)
    (changed : d'.threads = d.threads.modify thread fun t =>
      { t with frames := t.frames.set depth g }) : Replaces d d' thread depth g := by
  obtain ⟨x, known, found⟩ := Option.bind_eq_some_iff.1 there
  have inside : depth < x.frames.length := (List.getElem?_eq_some_iff.1 found).1
  intro t i
  unfold frameAt
  rw [changed, Table.get?_modify]
  by_cases here : t = thread
  · subst here
    rw [if_pos rfl, known]
    by_cases at_depth : i = depth
    · subst at_depth
      simp [inside]
    · simp [at_depth, List.getElem?_set_ne (Ne.symm at_depth)]
  · simp [here]

/-- A good handle gives what its frame answers, and does to the debuggee what that does to it. -/
theorem perform_of_ok (op : FrameOperation) {h : FrameHandle}
    (found : d.frameHandles.get? id = some h) {f : Frame} (good : d.frame id = .ok f) :
    (op.perform id d).1 = (op.onFrame f).1 ∧
      Replaces d (op.perform id d).2 h.thread h.depth (op.onFrame f).2 := by
  have there : d.frameAt h.thread h.depth = some f := by
    rcases frame_of_handle found with ⟨g, ok, stands⟩ | ⟨e, failed, -⟩
    · rw [good] at ok
      cases ok
      exact frameAt_of_standing stands
    · rw [good] at failed
      cases failed
  cases op with
  | location =>
    refine ⟨?_, replaces_same there rfl⟩
    simp only [FrameOperation.perform, perform, answer, good]
    rfl
  | visibleVariables =>
    refine ⟨?_, replaces_same there rfl⟩
    simp only [FrameOperation.perform, perform, answer, visibleVariables, good, bind, Except.bind,
      FrameOperation.onFrame]
    split <;> rfl
  | localValues targets =>
    refine ⟨?_, replaces_same there rfl⟩
    have good' : frame { d with localBatches := d.localBatches ++ [targets.length] } id = .ok f :=
      good
    simp only [FrameOperation.perform, perform, answer, localValues, good']
    rfl
  | argumentValues =>
    refine ⟨?_, replaces_same there rfl⟩
    simp only [FrameOperation.perform, perform, answer, argumentValues, good, bind, Except.bind,
      FrameOperation.onFrame]
    split <;> rfl
  | thisObject =>
    refine ⟨?_, replaces_same there rfl⟩
    simp only [FrameOperation.perform, perform, answer, good]
    rfl
  | setLocalValue target value =>
    have given : d.handle id = .ok h := by
      unfold handle
      rw [found]
    simp only [FrameOperation.perform, perform, setLocalValue, FrameOperation.onFrame, good, given,
      bind, Except.bind]
    cases checkAssignable target.signature value with
    | error e => exact ⟨rfl, replaces_same there rfl⟩
    | ok _ =>
      cases Frame.value f target with
      | error e => exact ⟨rfl, replaces_same there rfl⟩
      | ok _ => exact ⟨rfl, replaces_set _ there rfl⟩

private theorem value_error {f : Frame} {v : LocalVariable} {e : RemoteError}
    (h : Frame.value f v = .error e) : e = unknownLocal v := by
  unfold Frame.value at h
  split at h
  · cases h
  · cases h
    rfl

private theorem checkAssignable_error {signature : String} {value : Value} {e : RemoteError}
    (h : checkAssignable signature value = .error e) :
    e = .invalidType (Signature.typeName signature) := by
  unfold checkAssignable at h
  split at h
  · cases h
  · cases h
    rfl

/-- Without a frame the debuggee stays, and the error is the one that stands in for the frame, or
one that any frame would give. -/
theorem perform_of_error (op : FrameOperation) {e : RemoteError} (bad : d.frame id = .error e) :
    Issues d (op.perform id d).2 ∧
      ((op.perform id d).1 = .error e ∨
        ∃ e', (op.perform id d).1 = .error e' ∧ e'.isStale = false ∧ e' ≠ .disconnected ∧
          ∀ f, op.onFrame f = (.error e', f)) := by
  cases op with
  | location =>
    refine ⟨.of_eq rfl rfl rfl rfl rfl, .inl ?_⟩
    simp only [FrameOperation.perform, perform, answer, bad]
    rfl
  | visibleVariables =>
    refine ⟨.of_eq rfl rfl rfl rfl rfl, .inl ?_⟩
    simp only [FrameOperation.perform, perform, answer, visibleVariables, bad]
    rfl
  | localValues targets =>
    refine ⟨.of_eq rfl rfl rfl rfl rfl, .inl ?_⟩
    have bad' : frame { d with localBatches := d.localBatches ++ [targets.length] } id =
        .error e := bad
    simp only [FrameOperation.perform, perform, answer, localValues, bad']
    rfl
  | argumentValues =>
    refine ⟨.of_eq rfl rfl rfl rfl rfl, .inl ?_⟩
    simp only [FrameOperation.perform, perform, answer, argumentValues, bad]
    rfl
  | thisObject =>
    refine ⟨.of_eq rfl rfl rfl rfl rfl, .inl ?_⟩
    simp only [FrameOperation.perform, perform, answer, bad]
    rfl
  | setLocalValue target value =>
    simp only [FrameOperation.perform, perform, setLocalValue, FrameOperation.onFrame, bad, bind,
      Except.bind]
    cases checked : checkAssignable target.signature value with
    | error e' =>
      rw [checkAssignable_error checked]
      exact ⟨.refl d, .inr ⟨_, rfl, rfl, nofun, fun _ => rfl⟩⟩
    | ok _ => exact ⟨.refl d, .inl rfl⟩

private theorem values_error {f : Frame} {vs : List LocalVariable} {e : RemoteError}
    (h : vs.mapM (Frame.value f) = .error e) : ∃ v, e = unknownLocal v := by
  induction vs with
  | nil => cases h
  | cons v rest ih =>
    rw [List.mapM_cons] at h
    cases first : Frame.value f v with
    | error e' =>
      rw [first] at h
      cases h
      exact ⟨v, value_error first⟩
    | ok x =>
      rw [first] at h
      cases others : rest.mapM (Frame.value f) with
      | error e' =>
        rw [others] at h
        cases h
        exact ih others
      | ok xs =>
        rw [others] at h
        cases h

/-- The errors of a frame are never that a handle is stale or the connection lost. -/
theorem onFrame_error (op : FrameOperation) {f : Frame} {e : RemoteError}
    (h : (op.onFrame f).1 = .error e) : e.isStale = false ∧ e ≠ .disconnected := by
  cases op with
  | location => cases h
  | visibleVariables =>
    simp only [FrameOperation.onFrame] at h
    split at h
    · cases h
      exact ⟨rfl, nofun⟩
    · cases h
  | localValues targets =>
    obtain ⟨v, rfl⟩ : ∃ v, e = unknownLocal v := values_error h
    exact ⟨rfl, nofun⟩
  | argumentValues =>
    simp only [FrameOperation.onFrame] at h
    split at h
    · cases h
      exact ⟨rfl, nofun⟩
    · cases h
  | thisObject => cases h
  | setLocalValue target value =>
    simp only [FrameOperation.onFrame, bind, Except.bind] at h
    cases checked : checkAssignable target.signature value with
    | error e' =>
      rw [checked] at h
      cases h
      rw [checkAssignable_error checked]
      exact ⟨rfl, nofun⟩
    | ok _ =>
      rw [checked] at h
      cases found : Frame.value f target with
      | error e' =>
        simp only [found] at h
        cases h
        rw [value_error found]
        exact ⟨rfl, nofun⟩
      | ok _ =>
        simp only [found] at h
        cases h

end

end Debuggee
end DebugSession
