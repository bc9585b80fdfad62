import DebugSession.Proofs.Reconcile
import DebugSession.Proofs.Tending
/-!
What holds of a session whenever a computation has to wait, which is when others get to see it. A
call to the debuggee may take its time, so that what holds in all waits, however long calls take,
holds at any moment.
-/

namespace DebugSession

variable {V α β ε ε' : Type} {J : Session V → Prop} {s : Session V}

/-! ## Waits -/

/-- What holds in each state in which a computation on its own has to wait. -/
def Step.Meanwhile (J : Session V → Prop) : Step (Session V) α → Prop
  | .done _ _ => True
  | .wait time _ s resume => J s ∧ (resume (time.elim s fun t => s.advance t)).Meanwhile J

theorem Step.meanwhile_bind (x : Step (Session V) α) (f : α → Session V → Step (Session V) β) :
    (x.bind f).Meanwhile J ↔ x.Meanwhile J ∧
      (f (x.run Session.advance).1 (x.run Session.advance).2).Meanwhile J := by
  induction x with
  | done a s => exact ⟨fun h => ⟨trivial, h⟩, And.right⟩
  | wait time ready s resume ih =>
    rw [Step.bind, Meanwhile, ih, Meanwhile, and_assoc]
    rfl

namespace Task

def Meanwhile (x : Task (Session V) α) (s : Session V) (J : Session V → Prop) : Prop :=
  (x s).Meanwhile J

theorem ends_of_forall {x : Task (Session V) α} {Q : α → Session V → Prop} (h : ∀ a s', Q a s') :
    Ends x s Q :=
  h _ _

@[simp] theorem meanwhile_pure (a : α) : Meanwhile (pure a) s J := trivial

@[simp] theorem meanwhile_get : Meanwhile (get : Task (Session V) (Session V)) s J := trivial

@[simp] theorem meanwhile_modifyGet (f : Session V → α × Session V) :
    Meanwhile (modifyGet f : Task (Session V) α) s J := trivial

@[simp] theorem meanwhile_modify (f : Session V → Session V) :
    Meanwhile (modify f : Task (Session V) PUnit) s J := trivial

@[simp] theorem meanwhile_bind (x : Task (Session V) β) (f : β → Task (Session V) α) :
    Meanwhile (x >>= f) s J ↔ Meanwhile x s J ∧ Ends x s fun b s' => Meanwhile (f b) s' J :=
  Step.meanwhile_bind (x s) f

theorem meanwhile_sleep (time : Nat) (ready : Session V → Bool) :
    Meanwhile (sleep time ready) s J ↔ J s := and_iff_left trivial

theorem meanwhile_await {ready : Session V → Bool} (h : J s) :
    Meanwhile (await ready) s J := by
  unfold Meanwhile await
  split
  · trivial
  · exact ⟨h, trivial⟩

theorem meanwhile_map (x : Task (Session V) β) (f : β → α) :
    Meanwhile (f <$> x) s J ↔ Meanwhile x s J := by
  rw [map_eq_pure_bind, meanwhile_bind]
  exact and_iff_left trivial

theorem meanwhile_exclusively {what : Shared} {x : Task (Session V) α}
    (waiting : J { s with line := (s.line.join what).2 })
    (h : Meanwhile x { s with line := (s.line.join what).2 } J) :
    Meanwhile (Session.exclusively what x) s J := by
  unfold Session.exclusively Session.standInLine Session.leaveLine
  simp only [meanwhile_bind, meanwhile_modifyGet, meanwhile_modify, meanwhile_pure,
    ends_modifyGet, ends_await, ends_modify, true_and]
  exact ⟨meanwhile_await waiting, h, trivial⟩

end Task

/-- The same of a computation that may fail. -/
def Meanwhile (x : ExceptT ε (Task (Session V)) α) (s : Session V) (J : Session V → Prop) : Prop :=
  Task.Meanwhile x.run s J

@[simp] theorem meanwhile_pure (a : α) :
    Meanwhile (pure a : ExceptT ε (Task (Session V)) α) s J := trivial

@[simp] theorem meanwhile_throw (e : ε) :
    Meanwhile (throw e : ExceptT ε (Task (Session V)) α) s J := trivial

@[simp] theorem meanwhile_get :
    Meanwhile (get : ExceptT ε (Task (Session V)) (Session V)) s J := trivial

@[simp] theorem meanwhile_modify (f : Session V → Session V) :
    Meanwhile (modify f : ExceptT ε (Task (Session V)) PUnit) s J := trivial

@[simp] theorem meanwhile_quietly (x : Task (Session V) α) :
    Meanwhile (quietly x : ExceptT ε (Task (Session V)) α) s J ↔ Task.Meanwhile x s J := by
  unfold Meanwhile quietly
  rw [ExceptT.run_lift, Task.meanwhile_map]

@[simp] theorem meanwhile_attempt (x : ExceptT ε' (Task (Session V)) α) :
    Meanwhile (attempt x : ExceptT ε (Task (Session V)) (Except ε' α)) s J ↔ Meanwhile x s J := by
  unfold attempt
  rw [Meanwhile, ExceptT.run_lift, Task.meanwhile_map]
  rfl

/-- One thing after the other: what follows has to wait only where it begins. -/
theorem meanwhile_bind (x : ExceptT ε (Task (Session V)) β)
    (f : β → ExceptT ε (Task (Session V)) α) :
    Meanwhile (x >>= f) s J ↔ Meanwhile x s J ∧
      Settles x s fun r s' => ∀ b, r = .ok b → Meanwhile (f b) s' J := by
  unfold Meanwhile Settles
  rw [ExceptT.run_bind, Task.meanwhile_bind]
  refine and_congr_right fun _ => ?_
  constructor
  · refine fun h => h.mono fun r s' rest => ?_
    rintro b rfl
    exact rest
  · refine fun h => h.mono fun r s' rest => ?_
    cases r with
    | ok b => exact rest b rfl
    | error e => trivial

theorem Meanwhile.andThen {x : ExceptT ε (Task (Session V)) β}
    {f : β → ExceptT ε (Task (Session V)) α} {P : Except ε β → Session V → Prop}
    (first : Meanwhile x s J) (done : Settles x s P)
    (rest : ∀ b s', P (.ok b) s' → Meanwhile (f b) s' J) : Meanwhile (x >>= f) s J := by
  refine (meanwhile_bind x f).2 ⟨first, done.mono fun r s' holds => ?_⟩
  rintro b rfl
  exact rest b s' holds

theorem Task.Meanwhile.andThen {x : Task (Session V) β} {f : β → ExceptT ε (Task (Session V)) α}
    {P : β → Session V → Prop} (first : Task.Meanwhile x s J) (done : Task.Ends x s P)
    (rest : ∀ b s', P b s' → DebugSession.Meanwhile (f b) s' J) :
    DebugSession.Meanwhile (quietly x >>= f) s J := by
  refine (DebugSession.meanwhile_bind _ f).2
    ⟨(meanwhile_quietly x).2 first, (settles_quietly x).2 ?_⟩
  refine done.mono fun b s' holds => ?_
  rintro _ ⟨⟩
  exact rest b s' holds

/-- A look at the state that comes first. -/
@[simp] theorem meanwhile_get_bind (f : Session V → ExceptT ε (Task (Session V)) α) :
    Meanwhile (get >>= f) s J ↔ Meanwhile (f s) s J := by
  refine (meanwhile_bind _ f).trans (and_iff_right trivial |>.trans ?_)
  exact ⟨fun h => h s rfl, fun h b same => Except.ok.inj same ▸ h⟩

/-- A change that comes first. -/
@[simp] theorem meanwhile_modify_bind (f : Session V → Session V)
    (x : PUnit → ExceptT ε (Task (Session V)) α) :
    Meanwhile (modify f >>= x) s J ↔ Meanwhile (x ⟨⟩) (f s) J := by
  refine (meanwhile_bind _ x).trans (and_iff_right trivial |>.trans ?_)
  exact ⟨fun h => h ⟨⟩ rfl, fun h _ _ => h⟩

@[simp] theorem meanwhile_modifyGet_bind (f : Session V → β × Session V)
    (x : β → ExceptT ε (Task (Session V)) α) :
    Meanwhile (quietly (modifyGet f) >>= x) s J ↔ Meanwhile (x (f s).1) (f s).2 J := by
  refine (meanwhile_bind _ x).trans (and_iff_right trivial |>.trans ?_)
  exact ⟨fun h => h (f s).1 rfl, fun h b same => Except.ok.inj same ▸ h⟩

/-- What comes last, if it never has to wait. -/
theorem Meanwhile.last {x : ExceptT ε (Task (Session V)) β}
    {f : β → ExceptT ε (Task (Session V)) α} (h : Meanwhile x s J)
    (last : ∀ b s', Meanwhile (f b) s' J) : Meanwhile (x >>= f) s J :=
  (meanwhile_bind x f).2 ⟨h, Task.ends_of_forall fun _ s' b _ => last b s'⟩

namespace Session

variable [Machine V]

private theorem complete_meanwhile (c : Call) (lost : Bool) :
    Task.Meanwhile (complete c lost) s J := by
  unfold complete
  split <;> trivial

private theorem answerAfter_meanwhile (c : Call) (delay : Nat) (lost : Bool) (h : J s) :
    Task.Meanwhile (answerAfter c delay lost) s J := by
  have rest : ∀ s₁ : Session V, Task.Meanwhile (if s.waitLimit < delay then
      pure (.error (.timeout s.timeout)) else complete c lost) s₁ J := by
    intro s₁
    split
    · trivial
    · exact complete_meanwhile c lost
  unfold answerAfter
  simp only [Task.meanwhile_bind, Task.meanwhile_get, Task.ends_get, true_and]
  split
  · simp only [Task.meanwhile_bind, Task.meanwhile_get, Task.ends_get, Task.ends_sleep, true_and]
    refine ⟨(Task.meanwhile_sleep _ _).2 h, ?_⟩
    split
    · trivial
    · exact rest _
  · exact rest s

/-- A call keeps the session waiting at most once, after the debuggee has been handed it and before
it has an effect. -/
theorem tryCall_meanwhile {c : Call}
    (h : J { s with machine := (Machine.submit c s.machine).2 }) :
    Task.Meanwhile (tryCall c) s J := by
  have asked : Task.Meanwhile (ask c) s J := by
    unfold ask issue
    simp only [Task.meanwhile_bind, Task.meanwhile_modifyGet, Task.ends_modifyGet, true_and]
    refine ⟨?_, Task.ends_of_forall fun r s' => ?_⟩
    · split
      · trivial
      · exact answerAfter_meanwhile c _ _ h
    · split <;> trivial
  unfold tryCall
  simp only [Task.meanwhile_bind, Task.meanwhile_get, Task.ends_get, true_and]
  split
  · trivial
  · rw [Task.meanwhile_bind]
    exact ⟨asked, Task.ends_of_forall fun r s' => trivial⟩

end Session

end DebugSession
