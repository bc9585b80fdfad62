import DebugSession.Proofs.Moves
/-!
What a computation comes to while others are under way. The others move as a relation allows, and
so does the computation itself; then more may be known of its result than when nothing is known of
the states in which it goes on.
-/

namespace DebugSession

variable {V α β ε ε' : Type} {R : Session V → Session V → Prop}

namespace Step

/-- From the state `s` on, and as long as others move as `R` allows, a computation moves so itself
and comes to a result and a state that `Q` holds of. -/
def Yields (R : Session V → Session V → Prop) (Q : α → Session V → Prop) :
    Step (Session V) α → Session V → Prop
  | done a s', s => R s s' ∧ Q a s'
  | wait _ _ s' resume, s => R s s' ∧ ∀ now, R s' now → (resume now).Yields R Q now

theorem Yields.mono {Q Q' : α → Session V → Prop} {x : Step (Session V) α} {s : Session V}
    (h : x.Yields R Q s) (imp : ∀ a s', Q a s' → Q' a s') : x.Yields R Q' s := by
  induction x generalizing s with
  | done a s' => exact ⟨h.1, imp a s' h.2⟩
  | wait time ready s' resume ih => exact ⟨h.1, fun now moved => ih now (h.2 now moved)⟩

variable [Composes R]

theorem Yields.after {Q : α → Session V → Prop} {x : Step (Session V) α} {s s' : Session V}
    (first : R s s') (h : x.Yields R Q s') : x.Yields R Q s := by
  cases x with
  | done a s'' => exact ⟨Composes.trans first h.1, h.2⟩
  | wait time ready s'' resume => exact ⟨Composes.trans first h.1, h.2⟩

theorem Yields.bind {P : α → Session V → Prop} {Q : β → Session V → Prop}
    {x : Step (Session V) α} {f : α → Session V → Step (Session V) β} {s : Session V}
    (h : x.Yields R P s) (rest : ∀ a s', R s s' → P a s' → (f a s').Yields R Q s') :
    (x.bind f).Yields R Q s := by
  induction x generalizing s with
  | done a s' => exact (rest a s' h.1 h.2).after h.1
  | wait time ready s' resume ih =>
    refine ⟨h.1, fun now moved => ih now (h.2 now moved) fun a s'' more => ?_⟩
    exact rest a s'' (Composes.trans (Composes.trans h.1 moved) more)

variable {P : α → Prop} {Q : β → Prop}

private theorem yields_alongside {time : Option Nat} {ready : Session V → Bool}
    {resume : Session V → Step (Session V) α}
    {go : Session V → (Session V → Step (Session V) β) → Step (Session V) (α × β)}
    {waiting : Session V}
    (resumes : ∀ now, R waiting now → (resume now).Yields R (fun a _ => P a) now)
    (goes : ∀ now y, R waiting now →
      (∀ s, R now s → (y s).Yields R (fun b _ => Q b) s) →
      (go now y).Yields R (fun r _ => P r.1 ∧ Q r.2) now)
    {y : Step (Session V) β} {s : Session V} (since : R waiting s)
    (h : y.Yields R (fun b _ => Q b) s) :
    (alongside time ready resume go y).Yields R (fun r _ => P r.1 ∧ Q r.2) s := by
  induction y generalizing s with
  | done b s' =>
    refine ⟨h.1, fun now moved => ?_⟩
    have reached := Composes.trans (Composes.trans since h.1) moved
    exact (resumes now reached).bind fun a s'' _ holds => ⟨Composes.refl s'', holds, h.2⟩
  | wait time' ready' s' resume' ih =>
    refine ⟨h.1, fun now moved => ?_⟩
    have reached := Composes.trans (Composes.trans since h.1) moved
    simp only
    split
    · refine goes now _ reached fun s'' more => ⟨Composes.refl s'', fun now' later => ?_⟩
      exact h.2 now' (Composes.trans (Composes.trans moved more) later)
    · exact ih now reached (h.2 now moved)

/-- Two computations side by side come to what each of them comes to. -/
theorem Yields.both {x : Step (Session V) α} {y : Session V → Step (Session V) β} {s : Session V}
    (hx : x.Yields R (fun a _ => P a) s)
    (hy : ∀ s', R s s' → (y s').Yields R (fun b _ => Q b) s') :
    (x.both y).Yields R (fun r _ => P r.1 ∧ Q r.2) s := by
  induction x generalizing s y with
  | done a s' =>
    have paired : ((y s').bind fun b s'' => .done (a, b) s'').Yields R
        (fun r _ => P r.1 ∧ Q r.2) s' :=
      (hy s' hx.1).bind fun b s'' _ holds => ⟨Composes.refl s'', hx.2, holds⟩
    exact paired.after hx.1
  | wait time ready s' resume ih =>
    obtain ⟨first, resumes⟩ := hx
    refine Yields.after first (yields_alongside resumes ?_ (Composes.refl s') (hy s' first))
    exact fun now y reached h => ih now (resumes now reached) h

theorem Yields.givenUpWhen {Q : α → Session V → Prop} {x : Step (Session V) α}
    {stop : Session V → Bool} {s : Session V} (h : x.Yields R Q s) :
    (x.givenUpWhen stop).Yields R (fun _ _ => True) s := by
  induction x generalizing s with
  | done a s' => exact ⟨h.1, trivial⟩
  | wait time ready s' resume ih =>
    refine ⟨h.1, fun now moved => ?_⟩
    simp only
    split
    · exact ⟨Composes.refl now, trivial⟩
    · exact ih now (h.2 now moved)

theorem Yields.run {advance : Nat → Session V → Session V} (passes : ∀ time s, R s (advance time s))
    {Q : α → Session V → Prop} {x : Step (Session V) α} {s : Session V} (h : x.Yields R Q s) :
    R s (x.run advance).2 ∧ Q (x.run advance).1 (x.run advance).2 := by
  induction x generalizing s with
  | done a s' => exact h
  | wait time ready s' resume ih =>
    have waited : R s' (time.elim s' fun t => advance t s') := by
      cases time with
      | none => exact Composes.refl s'
      | some t => exact passes t s'
    obtain ⟨moved, holds⟩ := ih _ (h.2 _ waited)
    exact ⟨Composes.trans h.1 (Composes.trans waited moved), holds⟩

end Step

namespace Task

/-- The same of a computation that begins in a state `s`. -/
def Yields (R : Session V → Session V → Prop) (x : Task (Session V) α) (s : Session V)
    (Q : α → Session V → Prop) : Prop :=
  (x s).Yields R Q s

variable [Composes R] {x : Task (Session V) α} {s : Session V} {Q Q' : α → Session V → Prop}

omit [Composes R] in
theorem Yields.mono (h : Yields R x s Q) (imp : ∀ a s', Q a s' → Q' a s') : Yields R x s Q' :=
  Step.Yields.mono h imp

theorem Yields.pure {a : α} (h : Q a s) : Yields R (pure a) s Q := ⟨Composes.refl s, h⟩

theorem Yields.bind {y : Task (Session V) β} {f : β → Task (Session V) α}
    {P : β → Session V → Prop} (first : Yields R y s P)
    (rest : ∀ b s', R s s' → P b s' → Yields R (f b) s' Q) : Yields R (y >>= f) s Q :=
  Step.Yields.bind first rest

omit [Composes R] in
theorem Yields.get_bind {f : Session V → Task (Session V) α} (h : Yields R (f s) s Q) :
    Yields R (MonadState.get >>= f) s Q := h

theorem Yields.modify_bind {f : Session V → Session V} {g : PUnit → Task (Session V) α}
    (moved : R s (f s)) (h : Yields R (g ⟨⟩) (f s) Q) : Yields R (modify f >>= g) s Q :=
  Step.Yields.after moved h

theorem Yields.modifyGet_bind {f : Session V → β × Session V} {g : β → Task (Session V) α}
    (moved : R s (f s).2) (h : Yields R (g (f s).1) (f s).2 Q) :
    Yields R (modifyGet f >>= g) s Q :=
  Step.Yields.after moved h

theorem Yields.sleep_bind (time : Nat) (ready : Session V → Bool) {g : Unit → Task (Session V) α}
    (h : ∀ now, R s now → Yields R (g ()) now Q) : Yields R (sleep time ready >>= g) s Q :=
  ⟨Composes.refl s, h⟩

theorem Yields.both {y : Task (Session V) β} {P : α → Prop} {Q : β → Prop}
    (hx : Yields R x s fun a _ => P a) (hy : ∀ s', R s s' → Yields R y s' fun b _ => Q b) :
    Yields R (both x y) s fun r _ => P r.1 ∧ Q r.2 :=
  Step.Yields.both hx hy

/-- Computations side by side come to what each of them comes to. -/
theorem Yields.all {f : β → Task (Session V) α} {result : β → α} {items : List β}
    (h : ∀ b ∈ items, ∀ s', R s s' → Yields R (f b) s' fun a _ => a = result b) :
    Yields R (Task.all (items.map f)) s fun as _ => as = items.map result := by
  induction items generalizing s with
  | nil => exact .pure rfl
  | cons b rest ih =>
    obtain ⟨first, others⟩ := List.forall_mem_cons.1 h
    have along : ∀ s', R s s' →
        Yields R (Task.all (rest.map f)) s' fun as _ => as = rest.map result :=
      fun s' moved => ih fun b mem s'' more => others b mem s'' (Composes.trans moved more)
    refine .bind (.both (first s (Composes.refl s)) along) ?_
    rintro ⟨a, as⟩ s' - ⟨rfl, rfl⟩
    exact .pure rfl

theorem Yields.givenUpWhen (stop : Session V → Bool) (h : Yields R x s Q) :
    Yields R (givenUpWhen stop x) s fun _ _ => True :=
  Step.Yields.givenUpWhen h

/-- What a computation has come to when nobody else was under way. -/
theorem Yields.ends (passes : ∀ time s, R s (Session.advance time s)) (h : Yields R x s Q) :
    Ends x s fun a s' => R s s' ∧ Q a s' :=
  Step.Yields.run passes h

end Task

/-! ## What may fail -/

/-- The same of a computation that may fail. -/
def Produces (R : Session V → Session V → Prop) (x : ExceptT ε (Task (Session V)) α)
    (s : Session V) (Q : Except ε α → Session V → Prop) : Prop :=
  Task.Yields R x.run s Q

namespace Produces

variable [Composes R] {s : Session V} {Q Q' : Except ε α → Session V → Prop}

omit [Composes R] in
theorem mono {x : ExceptT ε (Task (Session V)) α} (h : Produces R x s Q)
    (imp : ∀ r s', Q r s' → Q' r s') : Produces R x s Q' :=
  Task.Yields.mono h imp

theorem pure {a : α} (h : Q (.ok a) s) :
    Produces R (pure a : ExceptT ε (Task (Session V)) α) s Q := Task.Yields.pure h

theorem throw {e : ε} (h : Q (.error e) s) :
    Produces R (throw e : ExceptT ε (Task (Session V)) α) s Q := Task.Yields.pure h

theorem bind {x : ExceptT ε (Task (Session V)) β} {f : β → ExceptT ε (Task (Session V)) α}
    {P : Except ε β → Session V → Prop} (first : Produces R x s P)
    (rest : ∀ b s', R s s' → P (.ok b) s' → Produces R (f b) s' Q)
    (failed : ∀ e s', P (.error e) s' → Q (.error e) s') : Produces R (x >>= f) s Q := by
  unfold Produces
  rw [ExceptT.run_bind]
  refine Task.Yields.bind first ?_
  intro r s' moved holds
  cases r with
  | ok b => exact rest b s' moved holds
  | error e => exact .pure (failed e s' holds)

theorem throw_bind {e : ε} {f : β → ExceptT ε (Task (Session V)) α} (h : Q (.error e) s) :
    Produces R (MonadExcept.throw e >>= f) s Q :=
  bind (P := fun r s' => r = .error e ∧ s' = s) (throw ⟨rfl, rfl⟩)
    (fun _ _ _ failed => nomatch failed.1) fun _ _ failed => by
      obtain ⟨same, rfl⟩ := failed
      exact Except.error.inj same ▸ h

theorem quietly_bind {x : Task (Session V) β} {f : β → ExceptT ε (Task (Session V)) α}
    {P : β → Session V → Prop} (first : Task.Yields R x s P)
    (rest : ∀ b s', R s s' → P b s' → Produces R (f b) s' Q) :
    Produces R (quietly x >>= f) s Q := by
  unfold Produces quietly
  rw [ExceptT.run_bind, ExceptT.run_lift, map_eq_pure_bind, bind_assoc]
  refine Task.Yields.bind first ?_
  intro b s' moved holds
  rw [pure_bind]
  exact rest b s' moved holds

theorem attempt_bind {x : ExceptT ε' (Task (Session V)) β}
    {f : Except ε' β → ExceptT ε (Task (Session V)) α} {P : Except ε' β → Session V → Prop}
    (first : Produces R x s P) (rest : ∀ r s', R s s' → P r s' → Produces R (f r) s' Q) :
    Produces R (attempt x >>= f) s Q :=
  quietly_bind first rest

omit [Composes R] in
theorem get_bind {f : Session V → ExceptT ε (Task (Session V)) α} (h : Produces R (f s) s Q) :
    Produces R (MonadState.get >>= f) s Q := h

theorem modify_bind {f : Session V → Session V} {g : PUnit → ExceptT ε (Task (Session V)) α}
    (moved : R s (f s)) (h : Produces R (g ⟨⟩) (f s) Q) : Produces R (modify f >>= g) s Q :=
  Step.Yields.after moved h

theorem adapt {wrap : ε' → ε} {x : ExceptT ε' (Task (Session V)) α}
    {P : Except ε' α → Session V → Prop} (h : Produces R x s P)
    (imp : ∀ r s', P r s' → Q (r.mapError wrap) s') : Produces R (ExceptT.adapt wrap x) s Q := by
  unfold Produces ExceptT.adapt
  rw [ExceptT.run_mk, map_eq_pure_bind]
  exact Task.Yields.bind h fun r s' _ holds => .pure (imp r s' holds)

/-- A computation that succeeds, and brings what is known. -/
theorem bind_ok {x : ExceptT ε (Task (Session V)) β} {f : β → ExceptT ε (Task (Session V)) α}
    {b : β} (first : Produces R x s fun r _ => r = .ok b)
    (rest : ∀ s', R s s' → Produces R (f b) s' Q) : Produces R (x >>= f) s Q := by
  refine first.bind ?_ ?_
  · rintro b' s' moved same
    obtain rfl := Except.ok.inj same
    exact rest s' moved
  · rintro e s' same
    cases same

/-- Where a computation fails, nothing follows. -/
theorem bind_error {x : ExceptT ε (Task (Session V)) β}
    {f : β → ExceptT ε (Task (Session V)) α} {e : ε}
    (first : Produces R x s fun r _ => r = .error e) :
    Produces R (x >>= f) s fun r _ => r = .error e :=
  first.bind (fun _ _ _ same => nomatch same) fun _ _ same => congrArg _ (Except.error.inj same)

/-- One after the other, computations that succeed bring what each of them brings. -/
theorem mapM {f : β → ExceptT ε (Task (Session V)) α} {result : β → α} {items : List β}
    (h : ∀ b ∈ items, ∀ s', R s s' → Produces R (f b) s' fun r _ => r = .ok (result b)) :
    Produces R (items.mapM f) s fun r _ => r = .ok (items.map result) := by
  induction items generalizing s with
  | nil => exact .pure rfl
  | cons b rest ih =>
    obtain ⟨first, others⟩ := List.forall_mem_cons.1 h
    rw [List.mapM_cons]
    refine (first s (Composes.refl s)).bind_ok fun s₁ moved => ?_
    have along : ∀ b ∈ rest, ∀ s', R s₁ s' → Produces R (f b) s' fun r _ => r = .ok (result b) :=
      fun b mem s' more => others b mem s' (Composes.trans moved more)
    exact (ih along).bind_ok fun _ _ => .pure rfl

theorem settles (passes : ∀ time s, R s (Session.advance time s))
    {x : ExceptT ε (Task (Session V)) α} (h : Produces R x s Q) :
    Settles x s fun r s' => R s s' ∧ Q r s' :=
  Task.Yields.ends passes h

end Produces
end DebugSession
