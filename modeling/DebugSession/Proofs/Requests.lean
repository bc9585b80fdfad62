import DebugSession.Proofs.Handing
import DebugSession.Proofs.Numbering
import DebugSession.Proofs.Runs
/-!
What leaves the requests on a debuggee alone, and what makes or deletes only some of them, whatever
calls fail.
-/

namespace DebugSession

variable {V : Type} [Machine V] [Ledger V] [Numbers V]

/-- The requests on the debuggee are the same. -/
structure SameRequests (v v' : V) : Prop where
  sound : Ledger.Sound v → Ledger.Sound v'
  live : Ledger.Sound v → Ledger.live v' = Ledger.live v
  last : Numbers.last v ≤ Numbers.last v'

theorem SameRequests.refl (v : V) : SameRequests v v := ⟨id, fun _ => rfl, Nat.le_refl _⟩

theorem SameRequests.trans {v v' v'' : V} (h : SameRequests v v') (h' : SameRequests v' v'') :
    SameRequests v v'' where
  sound := h'.sound ∘ h.sound
  live sound := (h'.live (h.sound sound)).trans (h.live sound)
  last := Nat.le_trans h.last h'.last

theorem sameRequests_submit (c : Call) (v : V) : SameRequests v (Machine.submit c v).2 where
  sound := Ledger.sound_submit c v
  live := Ledger.live_submit c v
  last := Nat.le_of_eq (Numbers.last_submit c v).symm

theorem sameRequests_perform {c : Call} (create : ∀ q, c ≠ .createRequest q)
    (delete : ∀ r, c ≠ .deleteRequest r) (v : V) : SameRequests v (Machine.perform c v).2 where
  sound := Ledger.sound_perform c v
  live sound := by
    have effect := Ledger.effect c v sound
    cases c with
    | createRequest q => exact absurd rfl (create q)
    | deleteRequest r => exact absurd rfl (delete r)
    | _ => exact effect
  last := Numbers.last_perform c v

namespace Session

variable {s s₁ s' : Session V}

/-! ## What leaves the requests alone -/

/-- Neither what is known of requests nor what stands on the debuggee has changed. -/
structure Calm (s s' : Session V) : Prop where
  steps : s'.steps = s.steps
  breakpoints : s'.breakpoints = s.breakpoints
  calls : s.calls <+: s'.calls
  machine : SameRequests s.machine s'.machine

theorem Calm.of_eq (machine : s'.machine = s.machine) (steps : s'.steps = s.steps)
    (breakpoints : s'.breakpoints = s.breakpoints) (calls : s'.calls = s.calls) : Calm s s' where
  steps := steps
  breakpoints := breakpoints
  calls := calls ▸ List.prefix_rfl
  machine := machine ▸ .refl _

instance : Composes (Calm (V := V)) where
  refl _ := .of_eq rfl rfl rfl rfl
  trans h h' :=
    ⟨h'.steps.trans h.steps, h'.breakpoints.trans h.breakpoints, h.calls.trans h'.calls,
      h.machine.trans h'.machine⟩

theorem Calm.advance (time : Nat) (s : Session V) : Calm s (s.advance time) :=
  .of_eq rfl rfl rfl rfl

instance : Ambient (Calm (V := V)) where
  advance := Calm.advance
  cancel _ := .of_eq rfl rfl rfl rfl

theorem Calm.allows {c : Call} (create : ∀ q, c ≠ .createRequest q)
    (delete : ∀ r, c ≠ .deleteRequest r) : Allows (Calm (V := V)) c :=
  allows_of_parts (fun s => ⟨rfl, rfl, List.prefix_rfl, sameRequests_submit c s.machine⟩)
    (fun s => ⟨rfl, rfl, List.prefix_rfl, sameRequests_perform create delete s.machine⟩)
    fun _ _ => ⟨rfl, rfl, List.prefix_append .., .refl _⟩

instance : Assigns (Calm (V := V)) where
  query c asks := Calm.allows (by rintro _ rfl; cases asks) (by rintro _ rfl; cases asks)
  snapshot _ _ _ := .of_eq rfl rfl rfl rfl
  cell _ _ _ := .of_eq rfl rfl rfl rfl
  invoke _ _ _ _ := Calm.allows nofun nofun
  openFrame _ _ _ := .of_eq rfl rfl rfl rfl
  setLocal _ _ _ := Calm.allows nofun nofun
  setField _ _ _ := Calm.allows nofun nofun
  evaluations _ _ _ := .of_eq rfl rfl rfl rfl

instance : Enlists (Calm (V := V)) where
  line _ _ := .of_eq rfl rfl rfl rfl

theorem Calm.allResumed (s : Session V) : Calm s (allResumed s) := by
  unfold Session.allResumed
  rw [foldl_revoke]
  exact .of_eq rfl rfl rfl rfl

theorem Calm.threadResumed (thread : ThreadId) (s : Session V) :
    Calm s (threadResumed thread s) := by
  unfold Session.threadResumed
  dsimp only
  split <;> exact .of_eq rfl rfl rfl rfl

theorem Calm.threadHalted (thread : ThreadId) :
    Task.Moves Calm (threadHalted thread : Task (Session V) _) :=
  threadHalted_moves thread (fun _ _ => .of_eq rfl rfl rfl rfl) fun _ _ => .of_eq rfl rfl rfl rfl

/-- Only requests that are not for steps were made, with new numbers, and any were deleted. -/
structure Plants (s s' : Session V) : Prop where
  steps : s'.steps = s.steps
  calls : s.calls <+: s'.calls
  sound : Ledger.Sound s.machine → Ledger.Sound s'.machine
  last : Numbers.last s.machine ≤ Numbers.last s'.machine
  live : Ledger.Sound s.machine → ∀ r q, Ledger.live s'.machine r = some q →
    Ledger.live s.machine r = some q ∨ q.strider? = none ∧ Numbers.last s.machine < r

theorem Calm.plants (h : Calm s s') : Plants s s' where
  steps := h.steps
  calls := h.calls
  sound := h.machine.sound
  last := h.machine.last
  live sound _ _ live := .inl (h.machine.live sound ▸ live)

instance : Composes (Plants (V := V)) where
  refl s := (Composes.refl (R := Calm) s).plants
  trans h h' :=
    { steps := h'.steps.trans h.steps
      calls := h.calls.trans h'.calls
      sound := h'.sound ∘ h.sound
      last := Nat.le_trans h.last h'.last
      live := by
        intro sound r q live
        rcases h'.live (h.sound sound) r q live with live | ⟨other, new⟩
        · exact h.live sound r q live
        · exact .inr ⟨other, Nat.lt_of_le_of_lt h.last new⟩ }

instance : Ambient (Plants (V := V)) where
  advance time s := (Calm.advance time s).plants
  cancel s := (Ambient.cancel (R := Calm) s).plants

private theorem plants_delete (request : RequestId) :
    Allows (Plants (V := V)) (.deleteRequest request) := by
  refine allows_of_parts (fun s => ?_) (fun s => ?_) fun s r => ?_
  · exact Calm.plants ⟨rfl, rfl, List.prefix_rfl, sameRequests_submit _ s.machine⟩
  · refine ⟨rfl, List.prefix_rfl, Ledger.sound_perform _ _, Numbers.last_perform _ _, ?_⟩
    intro sound r q live
    have effect := Ledger.effect (.deleteRequest request) s.machine sound
    generalize (Machine.perform (.deleteRequest request) s.machine).1 = answer at effect
    cases answer with
    | ok _ =>
      have after : Ledger.live (Machine.perform (.deleteRequest request) s.machine).2 =
        Function.update (Ledger.live s.machine) request none := effect
      rw [after, Function.update_apply] at live
      split at live
      · cases live
      · exact .inl live
    | error _ =>
      have after : Ledger.live (Machine.perform (.deleteRequest request) s.machine).2 =
        Ledger.live s.machine := effect
      exact .inl (after ▸ live)
  · exact Calm.plants ⟨rfl, rfl, List.prefix_append .., .refl _⟩

private theorem plants_create {request : EventRequest} (other : request.strider? = none) :
    Allows (Plants (V := V)) (.createRequest request) := by
  refine allows_of_parts (fun s => ?_) (fun s => ?_) fun s r => ?_
  · exact Calm.plants ⟨rfl, rfl, List.prefix_rfl, sameRequests_submit _ s.machine⟩
  · refine ⟨rfl, List.prefix_rfl, Ledger.sound_perform _ _, Numbers.last_perform _ _, ?_⟩
    intro sound r q live
    have effect := Ledger.effect (.createRequest request) s.machine sound
    have fresh := Numbers.fresh request s.machine
    generalize (Machine.perform (.createRequest request) s.machine).1 = answer at effect fresh
    cases answer with
    | ok id =>
      obtain ⟨-, after⟩ : _ ∧ Ledger.live (Machine.perform (.createRequest request) s.machine).2 =
        Function.update (Ledger.live s.machine) id (some request) := effect
      rw [after, Function.update_apply] at live
      split at live
      · rename_i here
        rw [← Option.some.inj live, here]
        exact .inr ⟨other, fresh id rfl⟩
      · exact .inl live
    | error _ =>
      have after : Ledger.live (Machine.perform (.createRequest request) s.machine).2 =
        Ledger.live s.machine := effect
      exact .inl (after ▸ live)
  · exact Calm.plants ⟨rfl, rfl, List.prefix_append .., .refl _⟩

instance : Arranges (Plants (V := V)) where
  delete := plants_delete
  loaded typeName :=
    (Calm.allows (c := .referenceType typeName) nofun nofun).mono fun _ _ => Calm.plants
  plant _ := plants_create
  aside _ _ _ := ⟨rfl, List.prefix_rfl, id, Nat.le_refl _, fun _ _ _ => .inl⟩
  lines _ _ _ := ⟨rfl, List.prefix_rfl, id, Nat.le_refl _, fun _ _ _ => .inl⟩

instance : Enlists (Plants (V := V)) where
  line s line := (Enlists.line (R := Calm) s line).plants

/-- What is known of breakpoints is the same, and numbers may have been given to requests. -/
structure Apart (s s' : Session V) : Prop where
  breakpoints : s'.breakpoints = s.breakpoints
  last : Numbers.last s.machine ≤ Numbers.last s'.machine

instance : Composes (Apart (V := V)) where
  refl _ := ⟨rfl, Nat.le_refl _⟩
  trans h h' := ⟨h'.breakpoints.trans h.breakpoints, Nat.le_trans h.last h'.last⟩

theorem Apart.advance (time : Nat) (s : Session V) : Apart s (s.advance time) :=
  ⟨rfl, Nat.le_refl _⟩

instance : Ambient (Apart (V := V)) where
  advance := Apart.advance
  cancel _ := ⟨rfl, Nat.le_refl _⟩

theorem Apart.allows (c : Call) : Allows (Apart (V := V)) c :=
  allows_of_parts (fun s => ⟨rfl, Nat.le_of_eq (Numbers.last_submit c s.machine).symm⟩)
    (fun s => ⟨rfl, Numbers.last_perform c s.machine⟩) fun _ _ => ⟨rfl, Nat.le_refl _⟩

instance : Treads (Apart (V := V)) where
  delete _ := Apart.allows _
  stride _ _ _ := Apart.allows _
  steps _ _ := ⟨rfl, Nat.le_refl _⟩
  tokens _ _ := ⟨rfl, Nat.le_refl _⟩

end Session
end DebugSession
