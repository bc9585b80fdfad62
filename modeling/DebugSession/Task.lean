/-!
Computations that share a state and may have to wait. Between two waits nothing else runs; while
one waits, others may change the state.

`run` carries a computation through on its own. It satisfies the equations of a plain state
machine, `run_pure` and `run_bind`, so that what is done one at a time needs no thought of waiting.
-/

namespace DebugSession

/-- What a computation has come to: a result, or a wait. `ready` says of a state whether it may go
on. If there is a `deadline`, it is ready at that time at the latest; if there is none, it is for
others to make it ready. -/
inductive Step (σ α : Type) : Type where
  | done (a : α) (s : σ)
  | wait (deadline : Option Nat) (ready : σ → Bool) (s : σ) (resume : σ → Step σ α)

namespace Step

variable {σ α β : Type}

def state : Step σ α → σ
  | done _ s => s
  | wait _ _ s _ => s

def bind : Step σ α → (α → σ → Step σ β) → Step σ β
  | done a s, f => f a s
  | wait t ready s resume, f => wait t ready s fun s => (resume s).bind f

/-- Carries a step through; `advance` lets the time come for which it waits. -/
def run (advance : Nat → σ → σ) : Step σ α → α × σ
  | done a s => (a, s)
  | wait t _ s resume => (resume (t.elim s fun t => advance t s)).run advance

@[simp] theorem run_done (advance : Nat → σ → σ) (a : α) (s : σ) :
    (done a s).run advance = (a, s) := rfl

theorem run_bind (advance : Nat → σ → σ) (x : Step σ α) (f : α → σ → Step σ β) :
    (x.bind f).run advance =
      let (a, s) := x.run advance
      (f a s).run advance := by
  induction x with
  | done a s => rfl
  | wait t ready s resume ih => exact ih _

theorem bind_done (x : Step σ α) : x.bind done = x := by
  induction x with
  | done a s => rfl
  | wait t ready s resume ih => simp [bind, ih]

theorem bind_assoc {γ : Type} (x : Step σ α) (f : α → σ → Step σ β) (g : β → σ → Step σ γ) :
    (x.bind f).bind g = x.bind fun a s => (f a s).bind g := by
  induction x with
  | done a s => rfl
  | wait t ready s resume ih => simp [bind, ih]

/-- Goes on with whichever of two computations is ready, the first before the second. `go` is how
the first goes on while the second still waits. -/
def alongside (t : Option Nat) (ready : σ → Bool) (resume : σ → Step σ α)
    (go : σ → (σ → Step σ β) → Step σ (α × β)) : Step σ β → Step σ (α × β)
  | done b s => wait t ready s fun s => (resume s).bind fun a s => done (a, b) s
  | wait t' ready' s resume' =>
    wait (Option.merge min t t') (fun s => ready s || ready' s) s fun now =>
      if ready now || !ready' now then go now fun s => wait t' ready' s resume'
      else alongside t ready resume go (resume' now)

/-- A computation under way side by side with another, which starts where the first one has to
wait. -/
def both : Step σ α → (σ → Step σ β) → Step σ (α × β)
  | done a s, y => (y s).bind fun b s => done (a, b) s
  | wait t ready s resume, y =>
    alongside t ready resume (fun now y => (resume now).both y) (y s)

/-- Gives up, while the computation has to wait, as soon as `stop` holds of the state. -/
def givenUpWhen (stop : σ → Bool) : Step σ α → Step σ (Option α)
  | done a s => done (some a) s
  | wait t ready s resume =>
    wait t (fun s => ready s || stop s) s fun now =>
      if stop now && !ready now then done none now else (resume now).givenUpWhen stop

end Step

/-- A computation from a state. -/
def Task (σ α : Type) : Type := σ → Step σ α

namespace Task

variable {σ α β : Type}

instance : Monad (Task σ) where
  pure a := fun s => .done a s
  bind x f := fun s => (x s).bind f

instance : LawfulMonad (Task σ) :=
  LawfulMonad.mk' (Task σ)
    (fun x => funext fun s => Step.bind_done (x s))
    (fun _ _ => rfl)
    (fun x f g => funext fun s => Step.bind_assoc (x s) f g)

instance : MonadStateOf σ (Task σ) where
  get := fun s => .done s s
  set s := fun _ => .done ⟨⟩ s
  modifyGet f := fun s =>
    let (a, s) := f s
    .done a s

/-- Waits until the state is ready, which it is at some time at the latest. -/
def sleep (deadline : Nat) (ready : σ → Bool) : Task σ Unit :=
  fun s => .wait (some deadline) ready s fun s => .done () s

/-- Waits until others have made the state ready, unless it is. -/
def await (ready : σ → Bool) : Task σ Unit := fun s =>
  if ready s then .done () s else .wait none ready s fun s => .done () s

/-- Two computations side by side. -/
def both (x : Task σ α) (y : Task σ β) : Task σ (α × β) := fun s => (x s).both y

/-- Computations side by side, with their results in the same order. -/
def all : List (Task σ α) → Task σ (List α)
  | [] => pure []
  | x :: xs => do
    let (a, rest) ← both x (all xs)
    return a :: rest

/-- A computation that is given up as soon as it waits in a state that `stop` holds of. -/
def givenUpWhen (stop : σ → Bool) (x : Task σ α) : Task σ (Option α) := fun s =>
  (x s).givenUpWhen stop

/-! ## On its own -/

/-- The result and the last state of a computation on its own. -/
def run (advance : Nat → σ → σ) (x : Task σ α) (s : σ) : α × σ := (x s).run advance

@[simp] theorem run_pure (advance : Nat → σ → σ) (a : α) (s : σ) :
    run advance (pure a : Task σ α) s = (a, s) := rfl

@[simp] theorem run_bind (advance : Nat → σ → σ) (x : Task σ α) (f : α → Task σ β) (s : σ) :
    run advance (x >>= f) s =
      let (a, s) := run advance x s
      run advance (f a) s :=
  Step.run_bind advance (x s) f

@[simp] theorem run_get (advance : Nat → σ → σ) (s : σ) :
    run advance (get : Task σ σ) s = (s, s) := rfl

@[simp] theorem run_set (advance : Nat → σ → σ) (s s' : σ) :
    run advance (set s' : Task σ PUnit) s = (⟨⟩, s') := rfl

@[simp] theorem run_modifyGet (advance : Nat → σ → σ) (f : σ → α × σ) (s : σ) :
    run advance (modifyGet f : Task σ α) s = f s := rfl

@[simp] theorem run_sleep (advance : Nat → σ → σ) (t : Nat) (ready : σ → Bool) (s : σ) :
    run advance (sleep t ready) s = ((), advance t s) := rfl

@[simp] theorem run_await (advance : Nat → σ → σ) (ready : σ → Bool) (s : σ) :
    run advance (await ready) s = ((), s) := by
  unfold run await
  split <;> rfl

end Task
end DebugSession
