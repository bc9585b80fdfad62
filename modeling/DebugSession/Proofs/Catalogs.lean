import DebugSession.Proofs.Calls
import DebugSession.Proofs.Installing
import DebugSession.Debuggee.Faults
/-!
Debuggees on which some classes are loaded and others are not. A call about a class that is not
loaded may fail for that reason. What is done with watchpoints succeeds as far as no call fails for
any other.
-/

namespace DebugSession

/-- Whether a call has to do with event requests, or finds out what can be requested. -/
def Call.arranges : Call → Bool
  | .referenceType _ | .createRequest _ | .deleteRequest _ => true
  | _ => false

/-- The class that a call is about. -/
def Call.className? : Call → Option String
  | .referenceType typeName => typeName
  | .createRequest (.watchpoint className _ _ _) => className
  | .createRequest (.breakpoint className _ _ _) => className
  | _ => none

/-- A machine with classes. What is done about event requests loads none, and who asks for one gets
what is loaded. -/
class Catalog (V : Type) [Machine V] where
  loaded : V → String → Option ReferenceType
  loaded_submit : ∀ c v, loaded (Machine.submit c v).2 = loaded v
  loaded_perform : ∀ (c : Call) v, c.arranges = true → loaded (Machine.perform c v).2 = loaded v
  told : ∀ typeName v t,
    (Machine.perform (.referenceType typeName) v).1 = .ok t → loaded v typeName = some t

/-- A call that has failed at most because the class that it is about is not loaded. -/
def Exchange.Excused (loaded : String → Option ReferenceType) (x : Exchange) : Prop :=
  ∀ e ∈ x.failure, ∃ typeName ∈ x.call.className?,
    e = .classNotLoaded typeName ∧ loaded typeName = none

instance (loaded : String → Option ReferenceType) (x : Exchange) : Decidable (x.Excused loaded) :=
  inferInstanceAs (Decidable (∀ e ∈ x.failure, ∃ typeName ∈ x.call.className?,
    e = .classNotLoaded typeName ∧ loaded typeName = none))

/-! ## In memory -/

private theorem types_perform {c : Call} (arranges : c.arranges = true) (d : Debuggee) :
    (d.perform c).2.types = d.types := by
  cases c with
  | referenceType typeName => rfl
  | createRequest request => rfl
  | deleteRequest request =>
    simp only [Debuggee.perform, Debuggee.deleteRequest]
    split <;> rfl
  | _ => cases arranges

instance : Catalog Debuggee where
  loaded d := d.types.get?
  loaded_submit _ _ := rfl
  loaded_perform c d arranges := congrArg Table.get? (types_perform arranges d)
  told typeName d t answer := by
    have found : d.referenceType typeName = .ok t := answer
    rw [Debuggee.referenceType] at found
    cases loaded : d.types.get? typeName with
    | none =>
      rw [loaded] at found
      cases found
    | some t' =>
      rw [loaded] at found
      exact congrArg some (Except.ok.inj found)

instance {V : Type} [Machine V] [Catalog V] : Catalog (Faulty V) where
  loaded m := Catalog.loaded m.machine
  loaded_submit c m := by
    simp only [Machine.submit]
    split
    · rfl
    · exact Catalog.loaded_submit c m.machine
  loaded_perform c m := Catalog.loaded_perform c m.machine
  told typeName m := Catalog.told typeName m.machine

/-! ## Sessions -/

section

variable {V α β : Type} [Machine V] [Catalog V]

namespace Machine.Answers

variable {v v' : V}

theorem loaded {c : Call} {r : Except RemoteError c.Reply} (h : Machine.Answers c v r v')
    (arranges : c.arranges = true) : Catalog.loaded v' = Catalog.loaded v := by
  cases h with
  | unasked => rfl
  | undone e => exact Catalog.loaded_submit c v
  | done => rw [Catalog.loaded_perform c _ arranges, Catalog.loaded_submit]

theorem told {typeName : String} {t : ReferenceType}
    (h : Machine.Answers (.referenceType typeName) v (.ok t) v') :
    Catalog.loaded v typeName = some t := by
  generalize answer : (Except.ok t : Except RemoteError (Call.referenceType typeName).Reply) = r
    at h
  cases h with
  | unasked => cases answer
  | undone e => cases answer
  | done =>
    rw [← Catalog.loaded_submit (.referenceType typeName) v]
    exact Catalog.told typeName _ t answer.symm

end Machine.Answers

namespace Session

variable {s s₁ s' : Session V}

/-- There may be more calls, and the same classes are loaded. -/
structure Grown (s s' : Session V) : Prop where
  calls : s.calls <+: s'.calls
  loaded : Catalog.loaded s'.machine = Catalog.loaded s.machine

theorem Grown.of_eq (calls : s'.calls = s.calls) (machine : s'.machine = s.machine) :
    Grown s s' :=
  ⟨calls ▸ List.prefix_rfl, machine ▸ rfl⟩

instance : Composes (Grown (V := V)) where
  refl _ := .of_eq rfl rfl
  trans h h' := ⟨h.calls.trans h'.calls, h'.loaded.trans h.loaded⟩

instance : Ambient (Grown (V := V)) where
  advance _ _ := .of_eq rfl rfl
  cancel _ := .of_eq rfl rfl

theorem Grown.allows {c : Call} (arranges : c.arranges = true) : Allows (Grown (V := V)) c :=
  allows_of_parts (fun _ => ⟨List.prefix_rfl, Catalog.loaded_submit c _⟩)
    (fun _ => ⟨List.prefix_rfl, Catalog.loaded_perform c _ arranges⟩) fun _ _ =>
      ⟨List.prefix_append .., rfl⟩

instance : Places (Grown (V := V)) where
  delete _ := Grown.allows rfl
  loaded _ := Grown.allows rfl
  plant _ _ := Grown.allows rfl
  aside _ _ _ := .of_eq rfl rfl

/-- No call has failed meanwhile but for a class that is not loaded. -/
def Excused (s s' : Session V) : Prop :=
  ∀ x ∈ s'.calls.drop s.calls.length, x.Excused (Catalog.loaded s.machine)

instance (s s' : Session V) : Decidable (Excused s s') :=
  inferInstanceAs (Decidable (∀ x ∈ s'.calls.drop s.calls.length, _))

theorem Grown.excused_iff (h : Grown s s₁) (h' : Grown s₁ s') :
    Excused s s' ↔ Excused s s₁ ∧ Excused s₁ s' := by
  obtain ⟨xs, calls⟩ := h.calls
  obtain ⟨xs', calls'⟩ := h'.calls
  have drop : s₁.calls.drop s.calls.length = xs := by rw [← calls, List.drop_left]
  have drop' : s'.calls.drop s₁.calls.length = xs' := by rw [← calls', List.drop_left]
  have drops : s'.calls.drop s.calls.length = xs ++ xs' := by
    rw [← calls', ← calls, List.append_assoc, List.drop_left]
  rw [Excused, Excused, Excused, drop, drop', drops, h.loaded, List.forall_mem_append]

/-- A computation comes to what `Q` says as far as no call fails but for a class that is not
loaded. -/
def Fares (s : Session V) (Q : α → Session V → Prop) (r : Except SessionError α)
    (s' : Session V) : Prop :=
  Grown s s' ∧ (Excused s s' → ∃ a, r = .ok a ∧ Q a s')

section

variable {P : α → Session V → Prop} {Q : β → Session V → Prop} {r : Except SessionError α}

theorem fares_mono {x : Action V α} {P' : α → Session V → Prop} (h : Settles x s₁ (Fares s P))
    (imp : ∀ a s', Grown s s' → P a s' → P' a s') : Settles x s₁ (Fares s P') := by
  apply h.mono
  rintro r s' ⟨grown, holds⟩
  refine ⟨grown, fun excused => ?_⟩
  obtain ⟨a, answer, holds⟩ := holds excused
  exact ⟨a, answer, imp a s' grown holds⟩

theorem Fares.after (h : Fares s₁ P r s') (first : Grown s s₁) : Fares s P r s' :=
  ⟨Composes.trans first h.1, fun excused => h.2 ((first.excused_iff h.1).1 excused).2⟩

theorem fares_pure {a : α} (holds : P a s) : Settles (pure a : Action V α) s (Fares s P) :=
  ⟨Composes.refl s, fun _ => ⟨a, rfl, holds⟩⟩

theorem fares_quietly {x : Task (Session V) α}
    (h : Task.Ends x s fun a s' => Grown s s' ∧ P a s') : Settles (quietly x) s (Fares s P) :=
  (settles_quietly x).2 (h.mono fun a _ ⟨grown, holds⟩ => ⟨grown, fun _ => ⟨a, rfl, holds⟩⟩)

theorem fares_modify {f : Session V → Session V} {Q : Session V → Prop} (grown : Grown s (f s))
    (holds : Q (f s)) : Settles (modify f : Action V _) s (Fares s fun _ => Q) :=
  ⟨grown, fun _ => ⟨⟨⟩, rfl, holds⟩⟩

/-- A change that comes before the first call. -/
theorem fares_first {x : Action V α} {f : Session V → Session V} (first : Grown s (f s))
    (h : Settles x (f s) (Fares (f s) P)) : Settles (do modify f; x) s (Fares s P) := by
  rw [settles_bind, settles_modify]
  exact Settles.mono h fun _ _ fares => fares.after first

/-- One thing after the other. Once a call has failed for another reason, it does not matter what
the rest comes to. -/
theorem fares_bind {x : Action V α} {f : α → Action V β} (first : Settles x s (Fares s P))
    (more : ∀ a, Stirs Grown (f a))
    (rest : ∀ a s₁, Grown s s₁ → P a s₁ → Settles (f a) s₁ (Fares s₁ Q)) :
    Settles (x >>= f) s (Fares s Q) := by
  refine first.andThen ?_ ?_
  · rintro a s₁ ⟨grown, holds⟩
    by_cases excused : Excused s s₁
    · obtain ⟨a, ⟨⟩, holds⟩ := holds excused
      exact (rest a s₁ grown holds).mono fun _ _ fares => fares.after grown
    · refine ((more a).settles Ambient.advance s₁).mono fun _ s' grown' => ?_
      exact ⟨Composes.trans grown grown',
        fun all => absurd ((grown.excused_iff grown').1 all).1 excused⟩
  · rintro e s₁ ⟨grown, holds⟩
    refine ⟨grown, fun excused => ?_⟩
    obtain ⟨a, answer, -⟩ := holds excused
    cases answer

end

/-- A call about a class leaves the breakpoints as they are. If it has an excuse for its failure,
the class is not loaded. -/
theorem tryCall_grown {c : Call} {typeName : String} (arranges : c.arranges = true)
    (about : c.className? = some typeName) (s : Session V) :
    Task.Ends (tryCall c) s fun r s' => Grown s s' ∧ s'.breakpoints = s.breakpoints ∧
      (∃ v, Machine.Answers c s.machine r v) ∧
      ∀ e, r = .error e → Excused s s' →
        e = .classNotLoaded typeName ∧ Catalog.loaded s.machine typeName = none := by
  apply (tryCall_ends c s).mono
  rintro r s' ⟨machine, clock, cancelled, rfl, answers⟩
  refine ⟨⟨List.prefix_append .., answers.loaded arranges⟩, rfl, ⟨machine, answers⟩, ?_⟩
  rintro e rfl excused
  rw [Excused, called_calls, List.drop_left] at excused
  obtain ⟨other, named, rfl, none⟩ := excused _ (List.mem_singleton_self _) e rfl
  obtain rfl := Option.some.inj (about.symm.trans named)
  exact ⟨rfl, none⟩

end Session

end

end DebugSession
