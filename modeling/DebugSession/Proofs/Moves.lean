import DebugSession.Proofs.Ends
/-!
What a computation does to a session between its waits, whatever others do meanwhile. If each of
its moves is one of a relation, so are those of computations side by side, and so is the run of
the computation on its own.
-/

namespace DebugSession

variable {V α β : Type}

/-- Reflexive and transitive, as a change of a state by any number of moves is. -/
class Composes {σ : Type} (R : σ → σ → Prop) : Prop where
  refl : ∀ s, R s s
  trans : ∀ {s s' s''}, R s s' → R s' s'' → R s s''

variable {R : Session V → Session V → Prop}

/-- A wait is over once its deadline has come. One without a deadline is for something that others
have, and `R` does not heed the line of those who want it. -/
def Waits (R : Session V → Session V → Prop) (ready : Session V → Bool) : Option Nat → Prop
  | some time => ∀ s, time ≤ s.clock → ready s = true
  | none => ∀ s line, R s { s with line }

theorem Waits.merge {ready ready' : Session V → Bool} {time time' : Option Nat}
    (h : Waits R ready time) (h' : Waits R ready' time') :
    Waits R (fun s => ready s || ready' s) (Option.merge min time time') := by
  cases time with
  | none =>
    cases time' with
    | none => exact h
    | some t' =>
      intro s reached
      simp [h' s reached]
  | some t =>
    cases time' with
    | none =>
      intro s reached
      simp [h s reached]
    | some t' =>
      intro s reached
      have either : t ≤ s.clock ∨ t' ≤ s.clock := by
        have : min t t' ≤ s.clock := reached
        omega
      rcases either with reached | reached
      · simp [h s reached]
      · simp [h' s reached]

theorem Waits.orElse {ready : Session V → Bool} {time : Option Nat} (h : Waits R ready time)
    (stop : Session V → Bool) : Waits R (fun s => ready s || stop s) time := by
  cases time with
  | none => exact h
  | some t =>
    intro s reached
    simp [h s reached]

theorem Waits.mono {R' : Session V → Session V → Prop} {ready : Session V → Bool}
    {time : Option Nat} (h : Waits R ready time) (more : ∀ s s', R s s' → R' s s') :
    Waits R' ready time := by
  cases time with
  | none => exact fun s line => more _ _ (h s line)
  | some t => exact h

namespace Step

/-- Every move of a computation is in `R`, the first one from a state `s`. Nothing is known of the
state in which it goes on after a wait. -/
def Moves (R : Session V → Session V → Prop) : Step (Session V) α → Session V → Prop
  | done _ s', s => R s s'
  | wait time ready s' resume, s =>
    R s s' ∧ Waits R ready time ∧ ∀ now, (resume now).Moves R now

theorem Moves.after [Composes R] {x : Step (Session V) α} {s s' : Session V} (first : R s s')
    (h : x.Moves R s') : x.Moves R s := by
  cases x with
  | done a s'' => exact Composes.trans first h
  | wait time ready s'' resume => exact ⟨Composes.trans first h.1, h.2⟩

theorem Moves.bind [Composes R] {x : Step (Session V) α} {f : α → Session V → Step (Session V) β}
    {s : Session V} (h : x.Moves R s) (rest : ∀ a s', (f a s').Moves R s') :
    (x.bind f).Moves R s := by
  induction x generalizing s with
  | done a s' => exact (rest a s').after h
  | wait time ready s' resume ih => exact ⟨h.1, h.2.1, fun now => ih now (h.2.2 now)⟩

private theorem moves_alongside [Composes R] {time : Option Nat} {ready : Session V → Bool}
    {resume : Session V → Step (Session V) α}
    {go : Session V → (Session V → Step (Session V) β) → Step (Session V) (α × β)}
    (waits : Waits R ready time) (resumes : ∀ now, (resume now).Moves R now)
    (goes : ∀ now y, (∀ now, (y now).Moves R now) → (go now y).Moves R now)
    {y : Step (Session V) β} {s : Session V} (h : y.Moves R s) :
    (alongside time ready resume go y).Moves R s := by
  induction y generalizing s with
  | done b s' => exact ⟨h, waits, fun now => (resumes now).bind fun a s' => Composes.refl s'⟩
  | wait time' ready' s' resume' ih =>
    refine ⟨h.1, waits.merge h.2.1, ?_⟩
    intro now
    simp only
    split
    · exact goes now _ fun now => ⟨Composes.refl now, h.2⟩
    · exact ih now (h.2.2 now)

theorem Moves.both [Composes R] {x : Step (Session V) α} {y : Session V → Step (Session V) β}
    {s : Session V} (hx : x.Moves R s) (hy : ∀ s', (y s').Moves R s') : (x.both y).Moves R s := by
  induction x generalizing s y with
  | done a s' =>
    have paired : ((y s').bind fun b s'' => .done (a, b) s'').Moves R s' :=
      (hy s').bind fun b s'' => Composes.refl s''
    exact paired.after hx
  | wait time ready s' resume ih =>
    obtain ⟨first, waits, resumes⟩ := hx
    exact (moves_alongside waits resumes (fun now y h => ih now (resumes now) h) (hy s')).after
      first

theorem Moves.givenUpWhen [Composes R] {x : Step (Session V) α} {stop : Session V → Bool}
    {s : Session V} (h : x.Moves R s) : (x.givenUpWhen stop).Moves R s := by
  induction x generalizing s with
  | done a s' => exact h
  | wait time ready s' resume ih =>
    refine ⟨h.1, h.2.1.orElse stop, ?_⟩
    intro now
    simp only
    split
    · exact Composes.refl now
    · exact ih now (h.2.2 now)

theorem Moves.run [Composes R] {advance : Nat → Session V → Session V}
    (passes : ∀ time s, R s (advance time s)) {x : Step (Session V) α} {s : Session V}
    (h : x.Moves R s) : R s (x.run advance).2 := by
  induction x generalizing s with
  | done a s' => exact h
  | wait time ready s' resume ih =>
    obtain ⟨first, -, resumes⟩ := h
    apply Composes.trans first
    cases time with
    | none => exact ih s' (resumes s')
    | some time => exact Composes.trans (passes time s') (ih _ (resumes _))

/-- A computation that waits can go on from the first state, and then comes to the second one
before it waits again. It may have gone on in any states before. -/
inductive Turn {σ : Type} : Step σ α → σ → σ → Prop
  | next (time : Option Nat) (ready : σ → Bool) (waiting : σ) (resume : σ → Step σ α) (s : σ) :
    Turn (wait time ready waiting resume) s (resume s).state
  | later (time : Option Nat) (ready : σ → Bool) (waiting : σ) {resume : σ → Step σ α}
    {now s s' : σ} (h : Turn (resume now) s s') : Turn (wait time ready waiting resume) s s'

theorem Moves.state {x : Step (Session V) α} {s : Session V} (h : x.Moves R s) : R s x.state := by
  cases x with
  | done a s' => exact h
  | wait time ready s' resume => exact h.1

theorem Moves.turn {x : Step (Session V) α} {s₀ s s' : Session V} (h : x.Moves R s₀)
    (t : x.Turn s s') : R s s' := by
  induction t generalizing s₀ with
  | next time ready waiting resume s => exact (h.2.2 s).state
  | later time ready waiting _ ih => exact ih (h.2.2 _)

/-- Every move but the last one is in `R`, and the last one, with the result, in `Q`. -/
def Finishes {σ : Type} (R : σ → σ → Prop) (Q : α → σ → σ → Prop) : Step σ α → σ → Prop
  | done a s', s => Q a s s'
  | wait _ _ s' resume, s => R s s' ∧ ∀ now, (resume now).Finishes R Q now

theorem Finishes.after [Composes R] {Q : α → Session V → Session V → Prop}
    {x : Step (Session V) α} {s s' : Session V}
    (more : ∀ a s s' s'', R s s' → Q a s' s'' → Q a s s'') (first : R s s')
    (h : x.Finishes R Q s') : x.Finishes R Q s := by
  cases x with
  | done a s'' => exact more a s s' s'' first h
  | wait time ready s'' resume => exact ⟨Composes.trans first h.1, h.2⟩

theorem Moves.finishes [Composes R] {Q : β → Session V → Session V → Prop}
    {x : Step (Session V) α} {f : α → Session V → Step (Session V) β} {s : Session V}
    (more : ∀ b s s' s'', R s s' → Q b s' s'' → Q b s s'')
    (h : x.Moves R s) (rest : ∀ a s', (f a s').Finishes R Q s') : (x.bind f).Finishes R Q s := by
  induction x generalizing s with
  | done a s' => exact (rest a s').after more h
  | wait time ready s' resume ih => exact ⟨h.1, fun now => ih now (h.2.2 now)⟩

end Step

namespace Task

/-- Every move of a computation is in `R`, in whatever state it begins. -/
structure Moves (R : Session V → Session V → Prop) (x : Task (Session V) α) : Prop where
  step : ∀ s, (x s).Moves R s

/-- A move of a computation that begins, or that goes on after a wait. -/
inductive Turn {σ : Type} (x : Task σ α) : σ → σ → Prop
  | first (s : σ) : Turn x s (x s).state
  | next {s₀ s s' : σ} (h : (x s₀).Turn s s') : Turn x s s'

theorem Moves.turn {x : Task (Session V) α} {s s' : Session V} (h : Moves R x)
    (t : x.Turn s s') : R s s' := by
  cases t with
  | first => exact (h.step s).state
  | next t => exact (h.step _).turn t

theorem Moves.pure [Composes R] (a : α) : Moves R (pure a : Task (Session V) α) :=
  ⟨Composes.refl (R := R)⟩

theorem Moves.bind [Composes R] {x : Task (Session V) α} {f : α → Task (Session V) β}
    (h : Moves R x) (rest : ∀ a, Moves R (f a)) : Moves R (x >>= f) :=
  ⟨fun s => (h.step s).bind fun a => (rest a).step⟩

theorem Moves.get [Composes R] : Moves R (get : Task (Session V) (Session V)) :=
  ⟨Composes.refl (R := R)⟩

/-- What follows a look at the state begins in the state that was seen. -/
theorem Moves.get_bind {f : Session V → Task (Session V) α} (h : ∀ s, (f s s).Moves R s) :
    Moves R (MonadState.get >>= f : Task (Session V) α) := ⟨h⟩

theorem Moves.modifyGet {f : Session V → α × Session V} (h : ∀ s, R s (f s).2) :
    Moves R (modifyGet f : Task (Session V) α) := ⟨h⟩

theorem Moves.modify {f : Session V → Session V} (h : ∀ s, R s (f s)) :
    Moves R (modify f : Task (Session V) PUnit) := ⟨h⟩

theorem Moves.sleep [Composes R] {time : Nat} {ready : Session V → Bool}
    (wakes : ∀ s : Session V, time ≤ s.clock → ready s = true) : Moves R (sleep time ready) :=
  ⟨fun s => ⟨Composes.refl s, wakes, Composes.refl (R := R)⟩⟩

theorem Moves.await [Composes R] (ready : Session V → Bool)
    (lines : ∀ s line, R s { s with line }) : Moves R (await ready) := by
  refine ⟨?_⟩
  intro s
  unfold Task.await
  split
  · exact Composes.refl s
  · exact ⟨Composes.refl s, lines, Composes.refl (R := R)⟩

theorem Moves.both [Composes R] {x : Task (Session V) α} {y : Task (Session V) β}
    (hx : Moves R x) (hy : Moves R y) : Moves R (both x y) :=
  ⟨fun s => (hx.step s).both hy.step⟩

theorem Moves.all [Composes R] {xs : List (Task (Session V) α)} (h : ∀ x ∈ xs, Moves R x) :
    Moves R (all xs) := by
  induction xs with
  | nil => exact Moves.pure []
  | cons x rest ih =>
    have first := h x List.mem_cons_self
    have others := ih fun y hy => h y (List.mem_cons_of_mem x hy)
    exact (first.both others).bind fun _ => Moves.pure _

theorem Moves.givenUpWhen [Composes R] {x : Task (Session V) α} (stop : Session V → Bool)
    (h : Moves R x) : Moves R (givenUpWhen stop x) :=
  ⟨fun s => (h.step s).givenUpWhen⟩

theorem Moves.mono {R' : Session V → Session V → Prop} {x : Task (Session V) α} (h : Moves R x)
    (more : ∀ s s', R s s' → R' s s') : Moves R' x := by
  have steps : ∀ (x : Step (Session V) α) s, x.Moves R s → x.Moves R' s := by
    intro x
    induction x with
    | done a s' => exact fun s h => more s s' h
    | wait time ready s' resume ih =>
      exact fun s h => ⟨more s s' h.1, h.2.1.mono more, fun now => ih now now (h.2.2 now)⟩
  exact ⟨fun s => steps (x s) s (h.step s)⟩

end Task

/-! ## What may fail -/

variable {ε ε' : Type}

/-- The same of a computation that may fail. -/
def Stirs (R : Session V → Session V → Prop) (x : ExceptT ε (Task (Session V)) α) : Prop :=
  Task.Moves R x.run

namespace Stirs

theorem pure [Composes R] (a : α) : Stirs R (pure a : ExceptT ε (Task (Session V)) α) :=
  Task.Moves.pure _

theorem throw [Composes R] (e : ε) : Stirs R (throw e : ExceptT ε (Task (Session V)) α) :=
  Task.Moves.pure _

theorem bind [Composes R] {x : ExceptT ε (Task (Session V)) α}
    {f : α → ExceptT ε (Task (Session V)) β} (h : Stirs R x) (rest : ∀ a, Stirs R (f a)) :
    Stirs R (x >>= f) := by
  unfold Stirs
  rw [ExceptT.run_bind]
  apply Task.Moves.bind h
  intro r
  cases r with
  | ok a => exact rest a
  | error e => exact Task.Moves.pure _

theorem get [Composes R] :
    Stirs R (get : ExceptT ε (Task (Session V)) (Session V)) := ⟨Composes.refl (R := R)⟩

theorem modify {f : Session V → Session V} (h : ∀ s, R s (f s)) :
    Stirs R (modify f : ExceptT ε (Task (Session V)) PUnit) := ⟨h⟩

theorem modifyGet {f : Session V → α × Session V} (h : ∀ s, R s (f s).2) :
    Stirs R (modifyGet f : ExceptT ε (Task (Session V)) α) := ⟨h⟩

theorem quietly [Composes R] {x : Task (Session V) α} (h : Task.Moves R x) :
    Stirs R (quietly x : ExceptT ε (Task (Session V)) α) := by
  unfold Stirs DebugSession.quietly
  rw [ExceptT.run_lift, map_eq_pure_bind]
  exact Task.Moves.bind h fun _ => Task.Moves.pure _

theorem attempt [Composes R] {x : ExceptT ε' (Task (Session V)) α} (h : Stirs R x) :
    Stirs R (attempt x : ExceptT ε (Task (Session V)) (Except ε' α)) :=
  Stirs.quietly h

theorem adapt [Composes R] (wrap : ε' → ε) {x : ExceptT ε' (Task (Session V)) α}
    (h : Stirs R x) : Stirs R (ExceptT.adapt wrap x) := by
  unfold Stirs ExceptT.adapt
  rw [ExceptT.run_mk, map_eq_pure_bind]
  exact Task.Moves.bind h fun _ => Task.Moves.pure _

theorem orFail [Composes R] (wrap : RemoteError → SessionError) {x : Remote V α}
    (h : Stirs R x) : Stirs R (x.orFail wrap) := h.adapt wrap

theorem mapM [Composes R] {f : α → ExceptT ε (Task (Session V)) β} {xs : List α}
    (h : ∀ a, Stirs R (f a)) : Stirs R (xs.mapM f) := by
  induction xs with
  | nil => exact pure []
  | cons a rest ih =>
    rw [List.mapM_cons]
    exact (h a).bind fun _ => ih.bind fun _ => pure _

end Stirs

/-! ## On its own -/

/-- What a computation has done once it has come to its end on its own. -/
theorem Task.Moves.ends [Composes R] (passes : ∀ time s, R s (Session.advance time s))
    {x : Task (Session V) α} (h : Moves R x) (s : Session V) :
    Ends x s fun _ s' => R s s' :=
  (h.step s).run passes

theorem Stirs.settles [Composes R] (passes : ∀ time s, R s (Session.advance time s))
    {x : ExceptT ε (Task (Session V)) α} (h : Stirs R x) (s : Session V) :
    Settles x s fun _ s' => R s s' :=
  Task.Moves.ends passes h s

end DebugSession
