import DebugSession.Proofs.Inputs
/-!
Sessions that things have happened to. All of them are tidy.
-/

namespace DebugSession.Session

variable {V : Type}

/-! ## Tidiness -/

section

variable {s s' : Session V}

@[simp] theorem threadResumed_stopped (thread : ThreadId) (s : Session V) :
    (threadResumed thread s).stopped = s.stopped.erase thread := by
  unfold threadResumed
  dsimp only
  split <;> rfl

@[simp] theorem threadResumed_handles (thread : ThreadId) (s : Session V) :
    (threadResumed thread s).handles = s.handles.removeOwner thread := by
  unfold threadResumed
  dsimp only
  split <;> rfl

@[simp] theorem threadResumed_exceptions (thread : ThreadId) (s : Session V) :
    (threadResumed thread s).exceptions = s.exceptions.erase thread := by
  unfold threadResumed
  dsimp only
  split <;> rfl

@[simp] theorem threadResumed_results (thread : ThreadId) (s : Session V) :
    (threadResumed thread s).results = s.results.erase thread := by
  unfold threadResumed
  dsimp only
  split <;> rfl

@[simp] theorem threadResumed_suspensions (thread : ThreadId) (s : Session V) :
    (threadResumed thread s).suspensions = s.suspensions := by
  unfold threadResumed
  dsimp only
  split <;> rfl

@[simp] theorem threadResumed_calls (thread : ThreadId) (s : Session V) :
    (threadResumed thread s).calls = s.calls := by
  unfold threadResumed
  dsimp only
  split <;> rfl

/-- Only tokens are revoked. -/
theorem foldl_revoke (tokens : List Nat) (s : Session V) :
    tokens.foldl revoke s = { s with tokens := (tokens.foldl revoke s).tokens } := by
  induction tokens generalizing s with
  | nil => rfl
  | cons token rest ih => exact ih (s.revoke token)

@[simp] theorem allResumed_stopped (s : Session V) : (allResumed s).stopped = {} := by
  unfold allResumed
  rw [foldl_revoke]

@[simp] theorem allResumed_handles (s : Session V) : (allResumed s).handles = s.handles.clear := by
  unfold allResumed
  rw [foldl_revoke]

@[simp] theorem allResumed_exceptions (s : Session V) : (allResumed s).exceptions = {} := by
  unfold allResumed
  rw [foldl_revoke]

@[simp] theorem allResumed_results (s : Session V) : (allResumed s).results = {} := by
  unfold allResumed
  rw [foldl_revoke]

@[simp] theorem allResumed_suspensions (s : Session V) :
    (allResumed s).suspensions = s.suspensions := by
  unfold allResumed
  rw [foldl_revoke]

@[simp] theorem allResumed_calls (s : Session V) : (allResumed s).calls = s.calls := by
  unfold allResumed
  rw [foldl_revoke]

theorem Tidy.of_quiet {P : Call → Prop} (tidy : s.Tidy) (h : Keeps Eq P s s') : s'.Tidy where
  named := by rw [h.stopped]; exact tidy.named
  recent := by
    intro t q found
    rw [h.stopped] at found
    exact Nat.le_trans (tidy.recent t q found) h.suspensions
  sound := h.handles ▸ tidy.sound
  owned := by rw [h.stopped, ← h.handles]; exact tidy.owned
  placed := h.handles ▸ tidy.placed

private theorem tidy_shown {thread : ThreadId} (tidy : s.Tidy)
    (halted : (s.stopped.get? thread).isSome = true) (h : Shown thread s s')
    (room : s'.HasRoom) : s'.Tidy where
  named := by rw [h.stopped]; exact tidy.named
  recent := by
    intro t q found
    rw [h.stopped] at found
    exact Nat.le_trans (tidy.recent t q found) h.suspensions
  sound := h.handles.sound tidy.sound room
  owned := by
    intro handle e there
    rw [h.stopped]
    rcases h.handles.origin tidy.sound room there with old | ⟨rfl, -⟩
    · exact tidy.owned handle e old
    · exact halted
  placed := by
    intro handle e there
    rcases h.handles.origin tidy.sound room there with old | ⟨rfl, belongs⟩
    · exact tidy.placed handle e old
    · exact belongs

private theorem tidy_recordHalt (tidy : s.Tidy) {p : Suspension}
    (known : p.version ≤ s.suspensions) : (recordHalt p s).Tidy := by
  have recorded : ∀ t q, (s.stopped.insert p.thread p).get? t = some q →
      q.thread = t ∧ q.version ≤ s.suspensions := by
    intro t q h
    rw [Table.get?_insert] at h
    split at h
    · rename_i same
      rw [same, ← Option.some.inj h]
      exact ⟨rfl, known⟩
    · exact ⟨tidy.named t q h, tidy.recent t q h⟩
  have named := fun t q h => (recorded t q h).1
  have recent := fun t q h => (recorded t q h).2
  have halted : ∀ t, (s.stopped.get? t).isSome = true →
      ((s.stopped.insert p.thread p).get? t).isSome = true := by
    intro t h
    rw [Table.get?_insert]
    split
    · rfl
    · exact h
  unfold recordHalt
  dsimp only
  split
  · exact ⟨named, recent, Pool.sound_removeOwner tidy.sound _,
      fun handle e h => halted _ (tidy.owned handle e ((Pool.get?_removeOwner tidy.sound _).1 h).1),
      fun handle e h => tidy.placed handle e ((Pool.get?_removeOwner tidy.sound _).1 h).1⟩
  · have owned := fun handle e there => halted _ (tidy.owned handle e there)
    exact ⟨named, recent, tidy.sound, owned, tidy.placed⟩

theorem tidy_threadResumed (tidy : s.Tidy) (thread : ThreadId) :
    (threadResumed thread s).Tidy where
  named := by
    intro t q h
    rw [threadResumed_stopped, Table.get?_erase] at h
    split at h
    · cases h
    · exact tidy.named t q h
  recent := by
    intro t q h
    rw [threadResumed_stopped, Table.get?_erase] at h
    rw [threadResumed_suspensions]
    split at h
    · cases h
    · exact tidy.recent t q h
  sound := by
    rw [threadResumed_handles]
    exact Pool.sound_removeOwner tidy.sound thread
  owned := by
    intro handle e h
    rw [threadResumed_handles, Pool.get?_removeOwner tidy.sound] at h
    rw [threadResumed_stopped, Table.get?_erase, if_neg h.2]
    exact tidy.owned handle e h.1
  placed := by
    intro handle e h
    rw [threadResumed_handles, Pool.get?_removeOwner tidy.sound] at h
    exact tidy.placed handle e h.1

theorem tidy_allResumed (tidy : s.Tidy) : (allResumed s).Tidy where
  named := by
    intro t q h
    rw [allResumed_stopped] at h
    cases h
  recent := by
    intro t q h
    rw [allResumed_stopped] at h
    cases h
  sound := by
    rw [allResumed_handles]
    exact Pool.sound_clear tidy.sound
  owned := by
    intro handle e h
    rw [allResumed_handles, Pool.get?_clear] at h
    cases h
  placed := by
    intro handle e h
    rw [allResumed_handles, Pool.get?_clear] at h
    cases h

theorem Change.tidy {Reported : Prop} {Spared : ThreadId → Prop} (h : Change Reported Spared s s')
    (tidy : s.Tidy) (room : s'.HasRoom) : s'.Tidy := by
  cases h with
  | shows thread halted h => exact tidy_shown tidy halted h room
  | passes h => exact tidy.of_quiet h
  | halts thread _ h =>
    obtain ⟨p, s₁, -, -, known, first, last⟩ := h
    exact (tidy_recordHalt (tidy.of_quiet first) known).of_quiet last
  | resumes thread _ h =>
    obtain ⟨s₁, first, last⟩ := h
    exact (tidy_threadResumed (tidy.of_quiet first) thread).of_quiet last
  | resumesAll _ h =>
    obtain ⟨s₁, first, last⟩ := h
    exact (tidy_allResumed (tidy.of_quiet first)).of_quiet last

theorem tidy_start (machine : V) (settings : Settings) (providers : Providers) :
    (start machine settings providers).Tidy where
  named := fun _ _ h => by cases h
  recent := fun _ _ h => by cases h
  sound := Pool.sound_empty
  owned := fun _ _ h => by cases h
  placed := fun _ _ h => by cases h

end

/-! ## Runs -/

variable [Machine V]

/-- A session to which things have happened, each as `P` allows of the states before and after it,
while there were handles left. -/
inductive Run (P : Session V → Session V → Prop) (s : Session V) : Session V → Prop
  | refl : Run P s s
  | step {s' : Session V} (i : Input V) (before : Run P s s') (allowed : P s' (s'.after i))
    (room : (s'.after i).HasRoom) : Run P s (s'.after i)

/-- A session that anything may have happened to since it began. -/
def Reachable (s : Session V) : Prop :=
  ∃ machine settings providers, Run (fun _ _ => True) (start machine settings providers) s

theorem Run.tidy {P : Session V → Session V → Prop} {s s' : Session V} (h : Run P s s')
    (tidy : s.Tidy) : s'.Tidy := by
  induction h with
  | refl => exact tidy
  | step i before allowed room ih => exact (after_changes ih i).tidy ih room

theorem Reachable.tidy {s : Session V} (h : Reachable s) : s.Tidy := by
  obtain ⟨machine, settings, providers, run⟩ := h
  exact run.tidy (tidy_start machine settings providers)

theorem Reachable.foldl {s : Session V} (h : Reachable s) (is : List (Input V))
    (room : ∀ n < is.length, ((is.take (n + 1)).foldl after s).HasRoom) :
    Reachable (is.foldl after s) := by
  induction is generalizing s with
  | nil => exact h
  | cons i rest ih =>
    obtain ⟨machine, settings, providers, run⟩ := h
    have first : (s.after i).HasRoom := room 0 (Nat.succ_pos _)
    apply ih ⟨machine, settings, providers, .step i run trivial first⟩
    intro n hn
    exact room (n + 1) (Nat.succ_lt_succ hn)

end DebugSession.Session
