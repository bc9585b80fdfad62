import DebugSession.Proofs.Perusal
/-!
Computations that find the same whenever the same is to be found. Some may be under way side by
side, since they let no thread run; others have to be alone. Either way the session keeps track of
all frames, even if the debuggee does not answer.
-/

namespace DebugSession

variable {α β ε ε' : Type}

namespace Session

/-- A session that keeps track of all frames. If it counts on answers, it gets them, the client sees
the frames of the thread as they are, and the known proxies have their frames. -/
structure Informed (answered : Prop) (known : List FrameProxy) (thread : ThreadId)
    (s : Session Debuggee) : Prop where
  tracks : Tracks known s
  responsive : answered → s.Responsive
  current : answered → s.Current thread
  standing : answered → ∀ q ∈ known, ∃ f, s.machine.standing? q.thread q.depth = some f

variable {answered : Prop} {known : List FrameProxy} {thread : ThreadId} {s s' : Session Debuggee}

theorem Informed.surveys (h : Informed answered known thread s) (moved : Surveys known s s') :
    Informed answered known thread s' where
  tracks := moved.tracks h.tracks
  responsive counts := moved.responsive (h.responsive counts)
  current counts := moved.current h.tracks thread (h.current counts)
  standing counts q mem := by
    rw [moved.alike.machine.standing]
    exact h.standing counts q mem

/-- What a computation has come to is what it comes to on its own in every session alike, if
answers are counted on. -/
def Determined (answered : Prop) (known : List FrameProxy) (thread : ThreadId)
    (x : Task (Session Debuggee) α) (s : Session Debuggee) (a : α) : Prop :=
  answered → ∀ t, Informed answered known thread t → Alike s t → a = (x.run advance t).1

/-- A computation that lets no thread run, and finds the same whenever the same is to be found,
whoever else looks at frames meanwhile. -/
structure Looks (answered : Prop) (known : List FrameProxy) (thread : ThreadId)
    (x : Task (Session Debuggee) α) : Prop where
  yields : ∀ s, Informed answered known thread s →
    Task.Yields (Peruses known) x s fun a _ => Determined answered known thread x s a

/-- A computation that finds the same whenever the same is to be found, on its own. -/
structure Finds (answered : Prop) (known : List FrameProxy) (thread : ThreadId)
    (x : Task (Session Debuggee) α) : Prop where
  ends : ∀ s, Informed answered known thread s → Task.Ends x s fun a s' =>
    Surveys known s s' ∧ Determined answered known thread x s a

/-! ## On its own -/

theorem Looks.finds {x : Task (Session Debuggee) α} (h : Looks answered known thread x) :
    Finds answered known thread x := by
  refine ⟨fun s informed => ((h.yields s informed).ends Peruses.advance).mono ?_⟩
  rintro a s' ⟨moved, agrees⟩
  exact ⟨moved.toSurveys, agrees⟩

/-- Two sessions that are alike bring the same. -/
theorem Finds.same {x : Task (Session Debuggee) α} (h : Finds answered known thread x)
    (counts : answered) {t : Session Debuggee} (informed : Informed answered known thread s)
    (informed' : Informed answered known thread t) (alike : Alike s t) :
    (x.run advance s).1 = (x.run advance t).1 :=
  (h.ends s informed).2 counts t informed' alike

theorem Finds.pure (a : α) :
    Finds answered known thread (pure a : Task (Session Debuggee) α) :=
  ⟨fun s _ => ⟨Composes.refl s, fun _ _ _ _ => rfl⟩⟩

private theorem Determined.bind {x : Task (Session Debuggee) α} {f : α → Task (Session Debuggee) β}
    {a : α} {b : β} (first : Finds answered known thread x)
    (h : Determined answered known thread x s a) (alike : Alike s s')
    (h' : Determined answered known thread (f a) s' b) :
    Determined answered known thread (x >>= f) s b := by
  intro counts t informed alike'
  obtain ⟨moved, -⟩ := first.ends t informed
  rw [Task.run_bind]
  dsimp only
  rw [← h counts t informed alike']
  exact h' counts _ (informed.surveys moved) (alike.symm.trans (alike'.trans moved.alike))

private theorem Determined.get_bind {f : Session Debuggee → Task (Session Debuggee) α}
    (same : ∀ s t, Alike s t → f t = f s) {a : α}
    (h : Determined answered known thread (f s) s a) : Determined answered known thread (get >>= f) s a := by
  intro counts t informed alike
  show a = (Task.run advance (f t) t).1
  rw [same s t alike]
  exact h counts t informed alike

theorem Finds.bind {x : Task (Session Debuggee) α} {f : α → Task (Session Debuggee) β}
    (first : Finds answered known thread x) (rest : ∀ a, Finds answered known thread (f a)) :
    Finds answered known thread (x >>= f) := by
  refine ⟨fun s informed => Task.Ends.bind (first.ends s informed) ?_⟩
  rintro a s₁ ⟨moved, agrees⟩
  refine ((rest a).ends s₁ (informed.surveys moved)).mono ?_
  rintro b s₂ ⟨more, agrees'⟩
  exact ⟨Composes.trans moved more, agrees.bind first moved.alike agrees'⟩

/-- What the session itself is looked at for is the same in sessions that are alike. -/
theorem Finds.get_bind {f : Session Debuggee → Task (Session Debuggee) α}
    (same : ∀ s t, Alike s t → f t = f s) (h : ∀ s, Finds answered known thread (f s)) :
    Finds answered known thread (get >>= f) := by
  refine ⟨fun s informed => ?_⟩
  obtain ⟨moved, agrees⟩ := (h s).ends s informed
  exact ⟨moved, agrees.get_bind same⟩

/-! ## Side by side -/

theorem Looks.pure (a : α) :
    Looks answered known thread (pure a : Task (Session Debuggee) α) :=
  ⟨fun _ _ => .pure fun _ _ _ _ => rfl⟩

theorem Looks.bind {x : Task (Session Debuggee) α} {f : α → Task (Session Debuggee) β}
    (first : Looks answered known thread x) (rest : ∀ a, Looks answered known thread (f a)) :
    Looks answered known thread (x >>= f) := by
  refine ⟨fun s informed => Task.Yields.bind (first.yields s informed) ?_⟩
  intro a s₁ moved agrees
  refine ((rest a).yields s₁ (informed.surveys moved.toSurveys)).mono ?_
  intro b s₂ agrees'
  exact agrees.bind first.finds moved.alike agrees'

theorem Looks.get_bind {f : Session Debuggee → Task (Session Debuggee) α}
    (same : ∀ s t, Alike s t → f t = f s) (h : ∀ s, Looks answered known thread (f s)) :
    Looks answered known thread (get >>= f) :=
  ⟨fun s informed => .get_bind (((h s).yields s informed).mono fun _ _ agrees =>
    agrees.get_bind same)⟩

/-- What is asked, and looked up without frames, is the same in sessions that are alike. -/
theorem Looks.tryCall {c : Call} (asks : c.isLookup = true) :
    Looks answered known thread (tryCall c) := by
  refine ⟨fun s informed => (tryCall_yields (Call.isQuery_of_isLookup asks) s).mono ?_⟩
  intro r s' heard counts t informedT alike
  have there : (Task.run advance (Session.tryCall c) t).1 = (Debuggee.perform c t.machine).1 :=
    (tryCall_answered (informedT.responsive counts) c).reply
  rw [there, alike.machine.reply asks]
  exact heard.lookup asks (informed.responsive counts)

private theorem Looks.both {x : Task (Session Debuggee) α} {y : Task (Session Debuggee) β}
    (hx : Looks answered known thread x) (hy : Looks answered known thread y)
    (s : Session Debuggee) (informed : Informed answered known thread s) :
    Task.Yields (Peruses known) (Task.both x y) s fun r _ => answered →
      ∀ t, Informed answered known thread t → Alike s t →
        r = ((x.run advance t).1, (y.run advance t).1) := by
  have second : ∀ s', Peruses known s s' →
      Task.Yields (Peruses known) y s' fun b _ => Determined answered known thread y s b := by
    intro s' moved
    refine (hy.yields s' (informed.surveys moved.toSurveys)).mono fun b _ agrees counts t informedT alike => ?_
    exact agrees counts t informedT (moved.alike.symm.trans alike)
  refine (Task.Yields.both (hx.yields s informed) second).mono ?_
  rintro r _ ⟨agrees, agrees'⟩ counts t informedT alike
  exact Prod.ext (agrees counts t informedT alike) (agrees' counts t informedT alike)

theorem Looks.all {xs : List (Task (Session Debuggee) α)}
    (h : ∀ x ∈ xs, Looks answered known thread x) : Looks answered known thread (Task.all xs) := by
  induction xs with
  | nil => exact .pure []
  | cons x rest ih =>
    have first := h x List.mem_cons_self
    have others := ih fun y mem => h y (List.mem_cons_of_mem x mem)
    have pair : Looks answered known thread (Task.both x (Task.all rest)) := by
      refine ⟨fun s informed => (Looks.both first others s informed).mono ?_⟩
      intro r _ same counts t informedT alike
      have there := ((Looks.both first others t informedT).ends Peruses.advance).2
      rw [same counts t informedT alike]
      exact (there counts t informedT (.refl t)).symm
    exact pair.bind fun _ => .pure _

/-! ## What may fail -/

/-- The same as `Looks` of a computation that may fail. -/
def Views (answered : Prop) (known : List FrameProxy) (thread : ThreadId)
    (x : ExceptT ε (Task (Session Debuggee)) α) : Prop :=
  Looks answered known thread x.run

/-- The same as `Finds` of a computation that may fail. -/
def Learns (answered : Prop) (known : List FrameProxy) (thread : ThreadId)
    (x : ExceptT ε (Task (Session Debuggee)) α) : Prop :=
  Finds answered known thread x.run

namespace Views

theorem learns {x : ExceptT ε (Task (Session Debuggee)) α} (h : Views answered known thread x) :
    Learns answered known thread x := Looks.finds h

theorem pure (a : α) :
    Views answered known thread (pure a : ExceptT ε (Task (Session Debuggee)) α) := Looks.pure _

theorem throw (e : ε) :
    Views answered known thread (throw e : ExceptT ε (Task (Session Debuggee)) α) := Looks.pure _

theorem bind {x : ExceptT ε (Task (Session Debuggee)) β}
    {f : β → ExceptT ε (Task (Session Debuggee)) α} (first : Views answered known thread x)
    (rest : ∀ b, Views answered known thread (f b)) : Views answered known thread (x >>= f) := by
  unfold Views
  rw [ExceptT.run_bind]
  refine Looks.bind first ?_
  intro r
  cases r with
  | ok b => exact rest b
  | error e => exact .pure _

theorem get_bind {f : Session Debuggee → ExceptT ε (Task (Session Debuggee)) α}
    (same : ∀ s t, Alike s t → f t = f s) (h : ∀ s, Views answered known thread (f s)) :
    Views answered known thread (get >>= f) :=
  Looks.get_bind (f := fun s => (f s).run) (fun s t alike => congrArg ExceptT.run (same s t alike)) h

theorem quietly {x : Task (Session Debuggee) α} (h : Looks answered known thread x) :
    Views answered known thread
      (quietly x : ExceptT ε (Task (Session Debuggee)) α) := by
  unfold Views DebugSession.quietly
  rw [ExceptT.run_lift, map_eq_pure_bind]
  exact Looks.bind h fun _ => .pure _

theorem attempt {x : ExceptT ε' (Task (Session Debuggee)) α} (h : Views answered known thread x) :
    Views answered known thread
      (attempt x : ExceptT ε (Task (Session Debuggee)) (Except ε' α)) :=
  Views.quietly h

theorem adapt (wrap : ε' → ε) {x : ExceptT ε' (Task (Session Debuggee)) α}
    (h : Views answered known thread x) : Views answered known thread (ExceptT.adapt wrap x) := by
  unfold Views ExceptT.adapt
  rw [ExceptT.run_mk, map_eq_pure_bind]
  exact Looks.bind h fun _ => .pure _

theorem orFail (wrap : RemoteError → SessionError) {x : Remote Debuggee α}
    (h : Views answered known thread x) : Views answered known thread (x.orFail wrap) :=
  h.adapt wrap

theorem liftExcept (x : Except ε α) :
    Views answered known thread (liftExcept x : ExceptT ε (Task (Session Debuggee)) α) := by
  cases x with
  | ok a => exact .pure a
  | error e => exact .throw e

theorem mapM {f : α → ExceptT ε (Task (Session Debuggee)) β} {xs : List α}
    (h : ∀ a, Views answered known thread (f a)) : Views answered known thread (xs.mapM f) := by
  induction xs with
  | nil => exact pure []
  | cons a rest ih =>
    rw [List.mapM_cons]
    exact (h a).bind fun _ => ih.bind fun _ => pure _

end Views

namespace Learns

theorem pure (a : α) :
    Learns answered known thread (pure a : ExceptT ε (Task (Session Debuggee)) α) := Finds.pure _

theorem throw (e : ε) :
    Learns answered known thread (throw e : ExceptT ε (Task (Session Debuggee)) α) := Finds.pure _

theorem bind {x : ExceptT ε (Task (Session Debuggee)) β}
    {f : β → ExceptT ε (Task (Session Debuggee)) α} (first : Learns answered known thread x)
    (rest : ∀ b, Learns answered known thread (f b)) : Learns answered known thread (x >>= f) := by
  unfold Learns
  rw [ExceptT.run_bind]
  refine Finds.bind first ?_
  intro r
  cases r with
  | ok b => exact rest b
  | error e => exact .pure _

theorem get_bind {f : Session Debuggee → ExceptT ε (Task (Session Debuggee)) α}
    (same : ∀ s t, Alike s t → f t = f s) (h : ∀ s, Learns answered known thread (f s)) :
    Learns answered known thread (get >>= f) :=
  Finds.get_bind (f := fun s => (f s).run) (fun s t alike => congrArg ExceptT.run (same s t alike)) h

theorem quietly {x : Task (Session Debuggee) α} (h : Finds answered known thread x) :
    Learns answered known thread
      (quietly x : ExceptT ε (Task (Session Debuggee)) α) := by
  unfold Learns DebugSession.quietly
  rw [ExceptT.run_lift, map_eq_pure_bind]
  exact Finds.bind h fun _ => .pure _

theorem attempt {x : ExceptT ε' (Task (Session Debuggee)) α} (h : Learns answered known thread x) :
    Learns answered known thread
      (attempt x : ExceptT ε (Task (Session Debuggee)) (Except ε' α)) :=
  Learns.quietly h

theorem mapM {f : α → ExceptT ε (Task (Session Debuggee)) β} {xs : List α}
    (h : ∀ a, Learns answered known thread (f a)) : Learns answered known thread (xs.mapM f) := by
  induction xs with
  | nil => exact pure []
  | cons a rest ih =>
    rw [List.mapM_cons]
    exact (h a).bind fun _ => ih.bind fun _ => pure _

end Learns

/-! ## Frames -/

/-- An operation through a known proxy that only asks. -/
theorem Views.through {q : FrameProxy} (mem : q ∈ known) (op : FrameOperation)
    (reads : op.isRead = true) : Views answered known thread (op.through q) := by
  refine ⟨fun s informed => (through_produces mem reads informed.tracks).mono ?_⟩
  intro r _ sees counts t informedT alike
  obtain ⟨f, stands⟩ := informed.standing counts q mem
  have here := sees (informed.responsive counts)
  have there := ((through_produces mem reads informedT.tracks).settles Peruses.advance).2
    (informedT.responsive counts)
  rw [alike.machine.standing] at there
  rw [stands] at here there
  exact here.trans there.symm

end Session
end DebugSession
