import DebugSession.Debuggee.Calls
import DebugSession.Proofs.Runs
/-!
How long what a client was shown of a thread can be looked into. A frame or a scope lasts as long
as the halt of its thread. An object shares its handle with an equal one; the handle lasts as long
as the halt of the thread for which the object was shown first.
-/

namespace DebugSession

variable {V : Type} [Machine V]

/-- The references that a client is told in answer to an inquiry. -/
def Inquiry.reported (q : Inquiry) (s : Session V) : List Int64 :=
  Session.referencesIn id (q.references.run.run Session.advance s).1

namespace Session

def StaysHalted (thread : ThreadId) (s s' : Session V) : Prop :=
  s'.stopped.get? thread = s.stopped.get? thread

/-- A reference stands for a container of a thread, and goes on to do so as long as the halt of the
thread stays on record. -/
def Isolated (s : Session V) (thread : ThreadId) (reference : Int64) (c : Container) : Prop :=
  ∀ s', Run (StaysHalted thread) s s' → s'.resolve? reference = some ⟨thread, c⟩

section

variable {s s' : Session V} {thread : ThreadId}

section

omit [Machine V]

@[simp] theorem recordHalt_stopped (p : Suspension) (s : Session V) :
    (recordHalt p s).stopped = s.stopped.insert p.thread p := rfl

private theorem resolve?_mono {e : Pooled Container} {reference : Int64}
    (keeps : ∀ handle, s.handles.get? handle = some e → s'.handles.get? handle = some e)
    (there : s.resolve? reference = some e) : s'.resolve? reference = some e := by
  obtain ⟨handle, number, found⟩ := Option.bind_eq_some_iff.1 there
  exact Option.bind_eq_some_iff.2 ⟨handle, number, keeps handle found⟩

theorem Change.staysHalted {Reported : Prop} {Spared : ThreadId → Prop}
    (h : Change Reported Spared s s') (spared : Spared thread) : StaysHalted thread s s' := by
  have other : ∀ t, ¬ Spared t → thread ≠ t := by
    rintro t concerned rfl
    exact concerned spared
  unfold StaysHalted
  cases h with
  | shows t halted h => rw [h.stopped]
  | passes h => rw [h.stopped]
  | halts t concerned h =>
    obtain ⟨p, s₁, rfl, -, -, first, last⟩ := h
    rw [last.stopped, recordHalt_stopped, Table.get?_insert, if_neg (other _ concerned),
      first.stopped]
  | resumes t concerned h =>
    obtain ⟨s₁, first, last⟩ := h
    rw [last.stopped, threadResumed_stopped, Table.get?_erase, if_neg (other _ concerned),
      first.stopped]
  | resumesAll concerned _ => exact absurd spared (concerned thread)

/-- The handles of a thread last as long as its halt. -/
theorem Change.resolve? {Reported : Prop} {Spared : ThreadId → Prop}
    (h : Change Reported Spared s s') (tidy : s.Tidy) (room : s'.HasRoom)
    (stays : StaysHalted thread s s') {c : Container} {reference : Int64}
    (there : s.resolve? reference = some ⟨thread, c⟩) :
    s'.resolve? reference = some ⟨thread, c⟩ := by
  obtain ⟨q, halted⟩ := Option.isSome_iff_exists.1 (tidy.resolved there).1
  have still : s'.stopped.get? thread = some q := stays.trans halted
  cases h with
  | shows t _ h => exact resolve?_of_shown h tidy.sound room there
  | passes h => exact resolve?_mono (fun handle found => h.handles ▸ found) there
  | halts t _ h =>
    obtain ⟨p, s₁, rfl, new, -, first, last⟩ := h
    have other : thread ≠ p.thread := by
      rintro rfl
      rw [last.stopped, recordHalt_stopped, Table.get?_insert, if_pos rfl] at still
      rw [Option.some.inj still] at new
      exact absurd (tidy.recent _ q halted) (Nat.not_le_of_lt new)
    refine resolve?_mono (fun handle found => ?_) there
    rw [first.handles] at found
    have sound := first.handles ▸ tidy.sound
    rw [← last.handles]
    unfold recordHalt
    dsimp only
    split
    · exact (Pool.get?_removeOwner sound _).2 ⟨found, other⟩
    · exact found
  | resumes t _ h =>
    obtain ⟨s₁, first, last⟩ := h
    have other : thread ≠ t := by
      rintro rfl
      rw [last.stopped, threadResumed_stopped, Table.get?_erase, if_pos rfl] at still
      cases still
    refine resolve?_mono (fun handle found => ?_) there
    rw [first.handles] at found
    rw [← last.handles, threadResumed_handles]
    exact (Pool.get?_removeOwner (first.handles ▸ tidy.sound) _).2 ⟨found, other⟩
  | resumesAll _ h =>
    obtain ⟨s₁, first, last⟩ := h
    rw [last.stopped, allResumed_stopped] at still
    cases still

end

/-- What happens to other threads leaves the halt of a thread on record. -/
theorem staysHalted_of_spares (tidy : s.Tidy) {i : Input V} (spares : i.Spares thread) :
    StaysHalted thread s (s.after i) :=
  (after_changes tidy i).staysHalted spares

theorem Run.resolve? (h : Run (StaysHalted thread) s s') (tidy : s.Tidy) {c : Container}
    {reference : Int64} (there : s.resolve? reference = some ⟨thread, c⟩) :
    s'.resolve? reference = some ⟨thread, c⟩ := by
  induction h with
  | refl => exact there
  | step i before stays room ih =>
    have tidy' := before.tidy tidy
    exact (after_changes tidy' i).resolve? tidy' room stays ih

theorem isolated_iff_owner (tidy : s.Tidy) {reference : Int64} {e : Pooled Container}
    (there : s.resolve? reference = some e) :
    Isolated s thread reference e.object ↔ e.owner = thread := by
  constructor
  · intro isolated
    have now := isolated s .refl
    rw [there] at now
    rw [Option.some.inj now]
  · rintro rfl s' run
    exact run.resolve? tidy there

omit [Machine V] in
/-- After an answer about a thread, a container is the thread's own unless an equal one was shown
for another thread before. -/
theorem Presents.owner_iff {ns : List Int64} (h : Presents thread ns s s') (sound : s.handles.Sound)
    (room : s'.HasRoom) {reference : Int64} {e : Pooled Container}
    (there : s'.resolve? reference = some e) :
    e.owner = thread ↔
      ∀ e' ∈ s.handles.entries.values, (e'.object == e.object) = true → e'.owner = thread := by
  obtain ⟨handle, number, found⟩ := Option.bind_eq_some_iff.1 there
  constructor
  · intro own e' he' equal
    obtain ⟨⟨handle', e''⟩, there', rfl⟩ := List.mem_map.1 he'
    have before := Table.get?_of_mem sound.distinct there'
    have still := h.shown.handles.keeps sound room before
    have sound' := h.shown.handles.sound sound room
    obtain rfl := sound'.apart handle' handle e'' e still found equal
    rw [found] at still
    rw [← Option.some.inj still]
    exact own
  · intro apart
    rcases h.shown.handles.origin sound room found with old | ⟨own, -⟩
    · exact apart e (Table.mem_values old) BEq.rfl
    · exact own

theorem presents_of_reported (tidy : s.Tidy) {m : Protocol.RequestMessage} {q : Inquiry}
    (asked : Request.ofMessage m = .ok q.request) (about : q.thread? s = some thread)
    {reference : Int64} (reported : reference ∈ q.reported s) :
    Presents thread (q.reported s) s (s.after (.message m)) := by
  have same : s.after (.message m) = (q.references.run.run advance s).2 := by
    have handled : Settles (handle m) s fun _ s' => s' = (q.references.run.run advance s).2 := by
      unfold handle
      rw [asked]
      exact (settles_performAny_inquiry q s _).2 rfl
    have responded : Task.Ends (respond m) s fun _ s' =>
        s' = (q.references.run.run advance s).2 := Task.Ends.bind handled fun _ _ h => h
    exact responded
  have answers := references_settles tidy q
  rw [same]
  rcases answers with ⟨a, known, -, presents⟩ | ⟨nothing, -⟩
  · rw [about] at known
    obtain rfl := Option.some.inj known
    exact presents
  · unfold Inquiry.reported at reported
    rw [nothing] at reported
    cases reported

end

/-- What a client is told about a thread is isolated from other threads exactly if nothing equal
was shown for another thread before. -/
theorem isolated_iff_apart {s : Session V} (h : Reachable s) {m : Protocol.RequestMessage}
    {q : Inquiry} (asked : Request.ofMessage m = .ok q.request) {thread : ThreadId}
    (about : q.thread? s = some thread) (room : (s.after (.message m)).HasRoom)
    {reference : Int64} (reported : reference ∈ q.reported s) (nonzero : reference ≠ 0) :
    ∃ e, (s.after (.message m)).resolve? reference = some e ∧
      (Isolated (s.after (.message m)) thread reference e.object ↔
        ∀ e' ∈ s.handles.entries.values, (e'.object == e.object) = true → e'.owner = thread) := by
  have tidy := h.tidy
  have presents := presents_of_reported tidy asked about reported
  obtain ⟨e, there, -⟩ := presents.held tidy.sound room reference reported nonzero
  have tidy' := (after_changes tidy (.message m)).tidy tidy room
  refine ⟨e, there, ?_⟩
  rw [isolated_iff_owner tidy' there]
  exact presents.owner_iff tidy.sound room there

def sharedArray : ObjectRef := ⟨7, "int[]", .array "I"⟩

def twoThreads : Debuggee :=
  let frame : Frame := { location := { className := "A", methodName := "m", line := 5 } }
  ((({} : Debuggee).addObject { reference := sharedArray }).addThread 1 "a" |>.addThread 2 "b"
    |>.setFrames 1 [frame] |>.setFrames 2 [frame]).suspendThread 1 |>.suspendThread 2

/-- A session in which the value of each expression is the array. -/
def twoThreadSession : Session Debuggee :=
  start twoThreads {} { evaluator := some (.constant (.object sharedArray)) }

def exceptionIn (thread : ThreadId) : Input Debuggee :=
  .event (.exception 1 thread { className := "A", methodName := "m", line := 5 } ⟨9, "E", .plain⟩
    true)

def stackTraceOf (thread : Int) : Input Debuggee :=
  .message ⟨1, "request", "stackTrace", some (.obj [("threadId", .ofInt thread)])⟩

def evaluateIn (frame : Int) : Protocol.RequestMessage :=
  ⟨1, "request", "evaluate", some (.obj [("expression", .str "x"), ("frameId", .ofInt frame)])⟩

theorem isolated_of_one_thread :
    let s := [exceptionIn 1, exceptionIn 2, stackTraceOf 1].foldl after twoThreadSession
    ∃ e, (s.after (.message (evaluateIn 1))).resolve? 2 = some e ∧
      Isolated (s.after (.message (evaluateIn 1))) 1 2 e.object := by
  intro s
  have began : Reachable twoThreadSession := ⟨_, _, _, .refl⟩
  have reachable : Reachable s := began.foldl _ (by decide +kernel)
  have asked : Request.ofMessage (evaluateIn 1) = .ok (Inquiry.evaluate "x" (some 1)).request := rfl
  have about : (Inquiry.evaluate "x" (some 1)).thread? s = some 1 := by decide +kernel
  obtain ⟨e, there, isolated⟩ := isolated_iff_apart reachable asked about (by decide +kernel)
    (show (2 : Int64) ∈ _ by decide +kernel) (by decide)
  have own : ∀ e' ∈ s.handles.entries.values, e'.owner = 1 := by decide +kernel
  exact ⟨e, there, isolated.2 fun e' he' _ => own e' he'⟩

/-- What is shown of the second thread has the handle that the array got for the first one, and the
end of the first thread takes it away. -/
theorem shared_object_lost :
    let s := [exceptionIn 1, exceptionIn 2, stackTraceOf 1, stackTraceOf 2,
      .message (evaluateIn 1)].foldl after twoThreadSession
    let s' := s.after (.message (evaluateIn 2))
    let death : Input Debuggee := .event (.threadDeath 1)
    Reachable s ∧
      Request.ofMessage (evaluateIn 2) = .ok (Inquiry.evaluate "x" (some 2)).request ∧
      (Inquiry.evaluate "x" (some 2)).thread? s = some 2 ∧
      3 ∈ (Inquiry.evaluate "x" (some 2)).reported s ∧
      (s'.resolve? 3).map Pooled.owner = some 1 ∧ death.Spares 2 ∧
      (s'.after death).resolve? 3 = none := by
  refine ⟨?_, rfl, by decide +kernel, by decide +kernel, by decide +kernel, ?_, ?_⟩
  · have began : Reachable twoThreadSession := ⟨_, _, _, .refl⟩
    exact began.foldl _ (by decide +kernel)
  · simp [Input.Spares, VmEvent.thread?]
  · rw [← Option.isNone_iff_eq_none]
    decide +kernel

/-- Frames and scopes are isolated in any case. -/
theorem isolated_of_frame {s : Session V} (h : Reachable s) {m : Protocol.RequestMessage}
    {q : Inquiry} (asked : Request.ofMessage m = .ok q.request) {thread : ThreadId}
    (about : q.thread? s = some thread) (room : (s.after (.message m)).HasRoom)
    {reference : Int64} (reported : reference ∈ q.reported s) (nonzero : reference ≠ 0)
    {e : Pooled Container} (there : (s.after (.message m)).resolve? reference = some e)
    {p : FrameProxy} (frame : e.object.proxy? = some p) :
    Isolated (s.after (.message m)) thread reference e.object := by
  have tidy := h.tidy
  have presents := presents_of_reported tidy asked about reported
  have tidy' := (after_changes tidy (.message m)).tidy tidy room
  obtain ⟨e', there', belongs⟩ := presents.held tidy.sound room reference reported nonzero
  obtain rfl : e = e' := Option.some.inj (there.symm.trans there')
  apply (isolated_iff_owner tidy' there).2
  exact ((tidy'.resolved there).2 p frame).symm.trans (belongs p frame)

end Session
end DebugSession
