import DebugSession.Session.Call
import Mathlib.Data.List.Forall2
/-!
What holds when a computation that is carried through on its own has come to its end. Such a
computation ends in one way only, so the rules are equivalences; they follow the way in which the
computation is put together.
-/

namespace DebugSession

variable {V α β ε ε' : Type}

/-- What holds of the result and the last state of a computation on its own. -/
def Task.Ends (x : Task (Session V) α) (s : Session V) (Q : α → Session V → Prop) : Prop :=
  Q (x.run Session.advance s).1 (x.run Session.advance s).2

/-- The same of a computation that may fail. -/
def Settles (x : ExceptT ε (Task (Session V)) α) (s : Session V)
    (Q : Except ε α → Session V → Prop) : Prop :=
  Task.Ends x.run s Q

namespace Task

variable {s : Session V} {Q Q' : α → Session V → Prop}

theorem Ends.mono {x : Task (Session V) α} (h : Ends x s Q) (imp : ∀ a s', Q a s' → Q' a s') :
    Ends x s Q' :=
  imp _ _ h

theorem Ends.and {x : Task (Session V) α} (h : Ends x s Q) (h' : Ends x s Q') :
    Ends x s fun a s' => Q a s' ∧ Q' a s' :=
  ⟨h, h'⟩

/-- What is done at once. -/
theorem Ends.of_done {x : Task (Session V) α} {a : α} {s' : Session V} (done : x s = .done a s')
    (h : Q a s') : Ends x s Q := by
  unfold Ends run
  rw [done]
  exact h

@[simp] theorem ends_pure (a : α) : Ends (pure a) s Q ↔ Q a s := Iff.rfl

@[simp] theorem ends_bind (x : Task (Session V) β) (f : β → Task (Session V) α) :
    Ends (x >>= f) s Q ↔ Ends x s fun b s' => Ends (f b) s' Q := by
  simp only [Ends, run_bind]

theorem Ends.bind {x : Task (Session V) β} {f : β → Task (Session V) α}
    {P : β → Session V → Prop} (first : Ends x s P)
    (rest : ∀ b s', P b s' → Ends (f b) s' Q) : Ends (x >>= f) s Q :=
  (ends_bind x f).2 (first.mono rest)

theorem ends_return (x : Task (Session V) β) (f : β → α) (Q : Session V → Prop) :
    Ends (do return f (← x)) s (fun _ s' => Q s') ↔ Ends x s fun _ s' => Q s' :=
  ends_bind x _

@[simp] theorem ends_map (x : Task (Session V) β) (f : β → α) :
    Ends (f <$> x) s Q ↔ Ends x s fun b s' => Q (f b) s' := by
  rw [map_eq_pure_bind, ends_bind]
  rfl

@[simp] theorem ends_get {Q : Session V → Session V → Prop} :
    Ends (get : Task (Session V) (Session V)) s Q ↔ Q s s := Iff.rfl

@[simp] theorem ends_modifyGet (f : Session V → α × Session V) :
    Ends (modifyGet f : Task (Session V) α) s Q ↔ Q (f s).1 (f s).2 := Iff.rfl

@[simp] theorem ends_modify (f : Session V → Session V) {Q : PUnit → Session V → Prop} :
    Ends (modify f : Task (Session V) PUnit) s Q ↔ Q ⟨⟩ (f s) := Iff.rfl

@[simp] theorem ends_sleep (time : Nat) (ready : Session V → Bool)
    {Q : Unit → Session V → Prop} : Ends (sleep time ready) s Q ↔ Q () (s.advance time) := Iff.rfl

@[simp] theorem ends_await (ready : Session V → Bool) {Q : Unit → Session V → Prop} :
    Ends (await ready) s Q ↔ Q () s := by
  simp only [Ends, run_await]

/-- What is done while one has something, as seen by what is done. -/
theorem ends_exclusively (what : Shared) (x : Task (Session V) α) :
    Ends (Session.exclusively what x) s Q ↔
      Ends x { s with line := (s.line.join what).2 } fun a s' =>
        Q a { s' with line := s'.line.leave (s.line.join what).1 } := by
  simp only [Session.exclusively, Session.standInLine, Session.leaveLine, ends_bind,
    ends_modifyGet, ends_await, ends_modify, ends_pure]

end Task

section

variable {s : Session V} {Q Q' : Except ε α → Session V → Prop}

theorem Settles.mono {x : ExceptT ε (Task (Session V)) α} (h : Settles x s Q)
    (imp : ∀ r s', Q r s' → Q' r s') : Settles x s Q' :=
  imp _ _ h

@[simp] theorem settles_pure (a : α) :
    Settles (pure a : ExceptT ε (Task (Session V)) α) s Q ↔ Q (.ok a) s := Iff.rfl

@[simp] theorem settles_throw (e : ε) :
    Settles (throw e : ExceptT ε (Task (Session V)) α) s Q ↔ Q (.error e) s := Iff.rfl

@[simp] theorem settles_liftExcept (r : Except ε α) :
    Settles (liftExcept r : ExceptT ε (Task (Session V)) α) s Q ↔ Q r s := by
  cases r <;> exact Iff.rfl

@[simp] theorem settles_bind (x : ExceptT ε (Task (Session V)) β)
    (f : β → ExceptT ε (Task (Session V)) α) :
    Settles (x >>= f) s Q ↔ Settles x s fun r s' =>
      match r with
      | .ok b => Settles (f b) s' Q
      | .error e => Q (.error e) s' := by
  unfold Settles
  rw [ExceptT.run_bind, Task.ends_bind]
  constructor <;> refine fun h => h.mono fun r s' => ?_ <;> cases r <;> exact id

/-- What follows a computation relies on what holds where it succeeds; an error is passed on. -/
theorem Settles.andThen {x : ExceptT ε (Task (Session V)) β}
    {f : β → ExceptT ε (Task (Session V)) α} {P : Except ε β → Session V → Prop}
    (first : Settles x s P) (rest : ∀ b s', P (.ok b) s' → Settles (f b) s' Q)
    (failed : ∀ e s', P (.error e) s' → Q (.error e) s') : Settles (x >>= f) s Q := by
  rw [settles_bind]
  apply first.mono
  intro r s' holds
  cases r with
  | ok b => exact rest b s' holds
  | error e => exact failed e s' holds

theorem settles_return (x : ExceptT ε (Task (Session V)) α) (f : α → β)
    (Q : Session V → Prop) :
    Settles (do return f (← x)) s (fun _ s' => Q s') ↔ Settles x s fun _ s' => Q s' := by
  rw [settles_bind]
  constructor <;> refine fun h => h.mono fun r s' => ?_ <;> cases r <;> exact id

/-- What is made of a result succeeds with something if there is a result of which it is made. -/
theorem settles_return_ok {x : ExceptT ε (Task (Session V)) α} {f : α → β} {b : β} :
    Settles (do return f (← x)) s (fun r _ => r = .ok b) ↔
      ∃ a, Settles x s (fun r _ => r = .ok a) ∧ f a = b := by
  rw [settles_bind]
  unfold Settles Task.Ends
  constructor
  · intro mapped
    dsimp only at mapped
    split at mapped
    · rename_i a same
      exact ⟨a, same, Except.ok.inj mapped⟩
    · cases mapped
  · rintro ⟨a, same, rfl⟩
    rw [same]
    rfl

/-- If a computation succeeds, so does its first part, and the rest goes on from there. -/
theorem Settles.of_bind_ok {x : ExceptT ε (Task (Session V)) β}
    {f : β → ExceptT ε (Task (Session V)) α} {a : α} {P : Except ε β → Session V → Prop}
    (succeeds : Settles (x >>= f) s fun r _ => r = .ok a) (first : Settles x s P) :
    ∃ b s', P (.ok b) s' ∧ Settles (f b) s' fun r _ => r = .ok a := by
  rw [settles_bind] at succeeds
  obtain ⟨holds, rest⟩ := Task.Ends.and first succeeds
  cases same : (Task.run Session.advance x.run s).1 with
  | ok b =>
    rw [same] at holds rest
    exact ⟨b, _, holds, rest⟩
  | error e =>
    rw [same] at rest
    exact nomatch rest

/-- Where each result is as it should be, and what it relies on stays, all of them are. -/
theorem settles_mapM {f : α → ExceptT ε (Task (Session V)) β} {R : α → β → Prop}
    {I : Session V → Prop}
    (h : ∀ a s, I s → Settles (f a) s fun r s' => I s' ∧ ∀ b, r = .ok b → R a b)
    (items : List α) (holds : I s) :
    Settles (items.mapM f) s fun r _ => ∀ found, r = .ok found → List.Forall₂ R items found := by
  induction items generalizing s with
  | nil =>
    rintro found same
    obtain rfl := Except.ok.inj same
    exact .nil
  | cons a rest ih =>
    rw [List.mapM_cons]
    refine (h a s holds).andThen (fun b s₁ ⟨holds, related⟩ => ?_) fun _ _ _ _ => nofun
    refine (ih holds).andThen (fun others s₂ more => ?_) fun _ _ _ _ => nofun
    rintro found same
    obtain rfl := Except.ok.inj same
    exact .cons (related b rfl) (more others rfl)

theorem Settles.bind {x : ExceptT ε (Task (Session V)) β}
    {f : β → ExceptT ε (Task (Session V)) α} {I : Session V → Prop}
    (first : Settles x s fun _ s' => I s')
    (rest : ∀ b s', I s' → Settles (f b) s' fun _ s' => I s') :
    Settles (x >>= f) s fun _ s' => I s' :=
  first.andThen rest fun _ _ holds => holds

@[simp] theorem settles_quietly (x : Task (Session V) α) :
    Settles (quietly x : ExceptT ε (Task (Session V)) α) s Q ↔
      Task.Ends x s fun a s' => Q (.ok a) s' := by
  unfold Settles quietly
  rw [ExceptT.run_lift, Task.ends_map]

theorem Task.Ends.andThen {x : Task (Session V) β} {f : β → ExceptT ε (Task (Session V)) α}
    {P : β → Session V → Prop} (first : Task.Ends x s P)
    (rest : ∀ b s', P b s' → Settles (f b) s' Q) : Settles (quietly x >>= f) s Q := by
  rw [settles_bind, settles_quietly]
  exact first.mono rest

@[simp] theorem settles_attempt (x : ExceptT ε' (Task (Session V)) α)
    {Q : Except ε (Except ε' α) → Session V → Prop} :
    Settles (attempt x : ExceptT ε (Task (Session V)) (Except ε' α)) s Q ↔
      Settles x s fun r s' => Q (.ok r) s' := by
  unfold attempt
  rw [Settles, ExceptT.run_lift, Task.ends_map]
  rfl

@[simp] theorem settles_get {Q : Except ε (Session V) → Session V → Prop} :
    Settles (get : ExceptT ε (Task (Session V)) (Session V)) s Q ↔ Q (.ok s) s := Iff.rfl

@[simp] theorem settles_modify (f : Session V → Session V)
    {Q : Except ε PUnit → Session V → Prop} :
    Settles (modify f : ExceptT ε (Task (Session V)) PUnit) s Q ↔ Q (.ok ⟨⟩) (f s) := Iff.rfl

@[simp] theorem settles_modifyGet (f : Session V → α × Session V) :
    Settles (modifyGet f : ExceptT ε (Task (Session V)) α) s Q ↔ Q (.ok (f s).1) (f s).2 := Iff.rfl

theorem settles_adapt (wrap : ε' → ε) (x : ExceptT ε' (Task (Session V)) α) :
    Settles (ExceptT.adapt wrap x) s Q ↔ Settles x s fun r s' => Q (r.mapError wrap) s' := by
  unfold ExceptT.adapt Settles
  rw [ExceptT.run_mk, Task.ends_map]
  exact Iff.rfl

/-- An answer changes what its computation changes. -/
theorem Settles.answered {x : ExceptT ε' (Task (Session V)) α} {Q : Session V → Prop}
    (wrap : ε' → ε) (f : α → β) (h : Settles x s fun _ s' => Q s') :
    Settles (ExceptT.adapt wrap (do return f (← x))) s fun _ s' => Q s' :=
  (settles_adapt _ _).2 ((settles_return _ f Q).2 h)

theorem settles_orFail (wrap : RemoteError → SessionError) (x : Remote V α)
    {Q : Except SessionError α → Session V → Prop} :
    Settles (x.orFail wrap) s Q ↔ Settles x s fun r s' => Q (r.mapError wrap) s' :=
  settles_adapt wrap x

/-- Whatever the failures are called, the same succeeds. -/
theorem settles_orFail_ok {wrap : RemoteError → SessionError} {x : Remote V α} {a : α} :
    Settles (x.orFail wrap) s (fun r _ => r = .ok a) ↔ Settles x s fun r _ => r = .ok a := by
  rw [settles_orFail]
  unfold Settles Task.Ends
  cases (Task.run Session.advance x.run s).1 with
  | ok b =>
    show (.ok b : Except SessionError α) = .ok a ↔ (.ok b : Except RemoteError α) = .ok a
    rw [Except.ok.injEq, Except.ok.injEq]
  | error e => exact ⟨nofun, nofun⟩

theorem settles_exclusively (what : Shared) (x : Action V α)
    {Q : Except SessionError α → Session V → Prop} :
    Settles (Action.exclusively what x) s Q ↔
      Settles x { s with line := (s.line.join what).2 } fun r s' =>
        Q r { s' with line := s'.line.leave (s.line.join what).1 } := by
  unfold Settles Action.exclusively
  rw [ExceptT.run_mk, Task.ends_exclusively]

end

end DebugSession
