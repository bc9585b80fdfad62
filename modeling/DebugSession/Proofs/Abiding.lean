import DebugSession.Proofs.Moves
/-!
What a computation does where others go on while it waits, but keep to terms. A computation on its
own needs no terms, as nothing else happens meanwhile; here each move may rely on what the last one
has left, as far as others leave it alone.
-/

namespace DebugSession

variable {V α β ε ε' : Type}

/-- What a computation and all others owe each other. -/
structure Terms (σ : Type) where
  /-- What holds whenever the computation waits, and when it goes on. -/
  standing : σ → Prop
  /-- What others may do while it waits. -/
  others : σ → σ → Prop
  /-- What it may do itself between two waits. -/
  own : σ → σ → Prop

/-- Each move of a computation keeps to the terms if others do, the first one from a state `s`, and
`Q` holds at the end. -/
def Step.Abides {σ : Type} (t : Terms σ) (Q : α → σ → Prop) : Step σ α → σ → Prop
  | done a s', s => t.own s s' ∧ Q a s'
  | wait _ _ s' resume, s =>
    t.own s s' ∧ t.standing s' ∧
      ∀ now, t.standing now → t.others s' now → (resume now).Abides t Q now

/-- The same of a computation that begins in a state. -/
def Task.Abides {σ : Type} (t : Terms σ) (x : Task σ α) (s : σ) (Q : α → σ → Prop) : Prop :=
  (x s).Abides t Q s

/-- The same of a computation that may fail. -/
def Honours {σ : Type} (t : Terms σ) (x : ExceptT ε (Task σ) α) (s : σ)
    (Q : Except ε α → σ → Prop) : Prop :=
  Task.Abides t x.run s Q

variable {t : Terms (Session V)} {s : Session V}

namespace Step

variable {Q Q' : α → Session V → Prop}

theorem Abides.mono {x : Step (Session V) α} (h : x.Abides t Q s)
    (imp : ∀ a s', Q a s' → Q' a s') : x.Abides t Q' s := by
  induction x generalizing s with
  | done a s' => exact ⟨h.1, imp a s' h.2⟩
  | wait time ready s' resume ih =>
    exact ⟨h.1, h.2.1, fun now stands left => ih now (h.2.2 now stands left)⟩

variable [Composes t.own]

theorem Abides.after {x : Step (Session V) α} {s' : Session V} (first : t.own s s')
    (h : x.Abides t Q s') : x.Abides t Q s := by
  cases x with
  | done a s'' => exact ⟨Composes.trans first h.1, h.2⟩
  | wait time ready s'' resume => exact ⟨Composes.trans first h.1, h.2⟩

theorem Abides.bind {x : Step (Session V) β} {f : β → Session V → Step (Session V) α}
    {P : β → Session V → Prop} (h : x.Abides t P s)
    (rest : ∀ b s', P b s' → (f b s').Abides t Q s') : (x.bind f).Abides t Q s := by
  induction x generalizing s with
  | done b s' => exact (rest b s' h.2).after h.1
  | wait time ready s' resume ih =>
    exact ⟨h.1, h.2.1, fun now stands left => ih now (h.2.2 now stands left)⟩

end Step

namespace Task

variable {Q Q' : α → Session V → Prop}

theorem Abides.mono {x : Task (Session V) α} (h : Abides t x s Q)
    (imp : ∀ a s', Q a s' → Q' a s') : Abides t x s Q' :=
  Step.Abides.mono h imp

/-- What follows a look at the state begins in the state that was seen. -/
theorem Abides.get_bind {f : Session V → Task (Session V) α} (rest : Abides t (f s) s Q) :
    Abides t (get >>= f) s Q := rest

variable [Composes t.own]

theorem Abides.pure {a : α} (holds : Q a s) : Abides t (pure a) s Q := ⟨Composes.refl s, holds⟩

theorem Abides.bind {x : Task (Session V) β} {f : β → Task (Session V) α}
    {P : β → Session V → Prop} (first : Abides t x s P)
    (rest : ∀ b s', P b s' → Abides t (f b) s' Q) : Abides t (x >>= f) s Q :=
  Step.Abides.bind first rest

theorem Abides.modify_bind {f : Session V → Session V} {x : PUnit → Task (Session V) α}
    (own : t.own s (f s)) (rest : Abides t (x ⟨⟩) (f s) Q) : Abides t (modify f >>= x) s Q :=
  Step.Abides.after own rest

theorem Abides.modifyGet_bind {f : Session V → β × Session V} {x : β → Task (Session V) α}
    (own : t.own s (f s).2) (rest : Abides t (x (f s).1) (f s).2 Q) :
    Abides t (MonadStateOf.modifyGet f >>= x) s Q :=
  Step.Abides.after own rest

/-- A wait, in which others may go on. -/
theorem Abides.sleep {time : Nat} {ready : Session V → Bool} {Q : Unit → Session V → Prop}
    (stands : t.standing s) (rest : ∀ now, t.standing now → t.others s now → Q () now) :
    Abides t (sleep time ready) s Q :=
  ⟨Composes.refl s, stands, fun now stands left => ⟨Composes.refl now, rest now stands left⟩⟩

theorem Abides.await {ready : Session V → Bool} {Q : Unit → Session V → Prop}
    (stands : t.standing s) (here : Q () s)
    (rest : ∀ now, t.standing now → t.others s now → Q () now) : Abides t (await ready) s Q := by
  unfold Abides Task.await
  split
  · exact ⟨Composes.refl s, here⟩
  · exact ⟨Composes.refl s, stands, fun now stands left =>
      ⟨Composes.refl now, rest now stands left⟩⟩

/-- What is done while one has something. Others may go on before it is one's turn. -/
theorem Abides.exclusively {what : Shared} {x : Task (Session V) α} {I : Session V → Prop}
    (lines : ∀ (s : Session V) line, t.own s { s with line })
    (stands : t.standing { s with line := (s.line.join what).2 })
    (body : ∀ now, t.standing now → Abides t x now fun _ s' => I s')
    (left : ∀ (s : Session V) line, I s → I { s with line }) :
    Abides t (Session.exclusively what x) s fun _ s' => I s' := by
  unfold Session.exclusively Session.standInLine Session.leaveLine
  refine .modifyGet_bind (lines s _) ?_
  have turn : Abides t (Task.await fun s' => s'.line.isFirst what (s.line.join what).1)
      { s with line := (s.line.join what).2 } fun _ now => t.standing now :=
    .await stands stands fun now stands _ => stands
  refine turn.bind fun _ now stands => ?_
  refine (body now stands).bind fun a s' holds => ?_
  exact .modify_bind (lines s' _) (.pure (left s' _ holds))

end Task

/-! ## What may fail -/

namespace Honours

variable {Q Q' : Except ε α → Session V → Prop}

theorem get_bind {f : Session V → ExceptT ε (Task (Session V)) α}
    (rest : Honours t (f s) s Q) : Honours t (get >>= f) s Q := rest

/-- A change that comes last. -/
theorem of_modify {f : Session V → Session V} {Q : Except ε PUnit → Session V → Prop}
    (own : t.own s (f s)) (holds : Q (.ok ⟨⟩) (f s)) :
    Honours t (modify f : ExceptT ε (Task (Session V)) PUnit) s Q := ⟨own, holds⟩

variable [Composes t.own]

theorem pure {a : α} (holds : Q (.ok a) s) :
    Honours t (pure a : ExceptT ε (Task (Session V)) α) s Q :=
  Task.Abides.pure holds

theorem throw {e : ε} (holds : Q (.error e) s) :
    Honours t (throw e : ExceptT ε (Task (Session V)) α) s Q :=
  Task.Abides.pure holds

/-- What follows a computation relies on what holds where it succeeds; an error is passed on. -/
theorem andThen {x : ExceptT ε (Task (Session V)) β} {f : β → ExceptT ε (Task (Session V)) α}
    {P : Except ε β → Session V → Prop} (first : Honours t x s P)
    (rest : ∀ b s', P (.ok b) s' → Honours t (f b) s' Q)
    (failed : ∀ e s', P (.error e) s' → Q (.error e) s') : Honours t (x >>= f) s Q := by
  unfold Honours
  rw [ExceptT.run_bind]
  refine Task.Abides.bind first ?_
  intro r s' holds
  cases r with
  | ok b => exact rest b s' holds
  | error e => exact .pure (failed e s' holds)

/-- What holds whether or not a part fails holds of all of it. -/
theorem bind {x : ExceptT ε (Task (Session V)) β} {f : β → ExceptT ε (Task (Session V)) α}
    {I : Session V → Prop} (first : Honours t x s fun _ s' => I s')
    (rest : ∀ b s', I s' → Honours t (f b) s' fun _ s' => I s') :
    Honours t (x >>= f) s fun _ s' => I s' :=
  first.andThen rest fun _ _ holds => holds

theorem modify_bind {f : Session V → Session V} {x : PUnit → ExceptT ε (Task (Session V)) α}
    (own : t.own s (f s)) (rest : Honours t (x ⟨⟩) (f s) Q) : Honours t (modify f >>= x) s Q :=
  Step.Abides.after own rest

theorem quietly_bind {x : Task (Session V) β} {f : β → ExceptT ε (Task (Session V)) α}
    {P : β → Session V → Prop} (first : Task.Abides t x s P)
    (rest : ∀ b s', P b s' → Honours t (f b) s' Q) : Honours t (quietly x >>= f) s Q := by
  unfold Honours quietly
  rw [ExceptT.run_bind, ExceptT.run_lift, bind_map_left]
  exact first.bind rest

theorem modifyGet_bind {f : Session V → β × Session V} {x : β → ExceptT ε (Task (Session V)) α}
    (own : t.own s (f s).2) (rest : Honours t (x (f s).1) (f s).2 Q) :
    Honours t (DebugSession.quietly (modifyGet f) >>= x) s Q :=
  Step.Abides.after own rest

/-- What follows an attempt relies on what has become of it. -/
theorem attempt_bind {x : ExceptT ε' (Task (Session V)) β}
    {f : Except ε' β → ExceptT ε (Task (Session V)) α} {P : Except ε' β → Session V → Prop}
    (first : Honours t x s P) (rest : ∀ r s', P r s' → Honours t (f r) s' Q) :
    Honours t (attempt x >>= f) s Q :=
  quietly_bind first rest

end Honours
end DebugSession
