import DebugSession.Proofs.Elements
/-!
Whether an object is shown by what it holds, and by which structure. This is fixed by the classes
that are loaded and by the providers, whatever else becomes of the debuggee.
-/

namespace DebugSession.Session

variable {α β ε ε' : Type}

/-- What a computation comes to is fixed by the classes that are loaded and by the providers, if
the session gets its answers. -/
def Classified (types : Table String ReferenceType) (providers : Providers)
    (x : ExceptT ε (Task (Session Debuggee)) α) : Prop :=
  ∃ r, ∀ s : Session Debuggee, s.Responsive → s.machine.types = types → s.providers = providers →
    Produces (Peruses []) x s fun r' _ => r' = r

namespace Classified

variable {types : Table String ReferenceType} {providers : Providers}

theorem pure (a : α) :
    Classified types providers (pure a : ExceptT ε (Task (Session Debuggee)) α) :=
  ⟨.ok a, fun _ _ _ _ => .pure rfl⟩

theorem throw (e : ε) :
    Classified types providers (throw e : ExceptT ε (Task (Session Debuggee)) α) :=
  ⟨.error e, fun _ _ _ _ => .throw rfl⟩

theorem attempt_bind {x : ExceptT ε' (Task (Session Debuggee)) β}
    {f : Except ε' β → ExceptT ε (Task (Session Debuggee)) α}
    (first : Classified types providers x) (rest : ∀ r, Classified types providers (f r)) :
    Classified types providers (attempt x >>= f) := by
  obtain ⟨r, brings⟩ := first
  obtain ⟨r', brings'⟩ := rest r
  refine ⟨r', fun s responsive loaded same => .attempt_bind (brings s responsive loaded same) ?_⟩
  rintro _ s' moved rfl
  exact brings' s' (moved.responsive responsive) (moved.machine.same.types.trans loaded)
    (moved.alike.providers.trans same)

theorem bind {x : ExceptT ε (Task (Session Debuggee)) β}
    {f : β → ExceptT ε (Task (Session Debuggee)) α} (first : Classified types providers x)
    (rest : ∀ b, Classified types providers (f b)) : Classified types providers (x >>= f) := by
  obtain ⟨r, brings⟩ := first
  cases r with
  | error e => exact ⟨.error e, fun s responsive loaded same =>
      (brings s responsive loaded same).bind_error⟩
  | ok b =>
    obtain ⟨r', brings'⟩ := rest b
    refine ⟨r', fun s responsive loaded same => (brings s responsive loaded same).bind_ok ?_⟩
    exact fun s' moved => brings' s' (moved.responsive responsive)
      (moved.machine.same.types.trans loaded) (moved.alike.providers.trans same)

theorem get_bind {f : Session Debuggee → ExceptT ε (Task (Session Debuggee)) α}
    {x : ExceptT ε (Task (Session Debuggee)) α}
    (known : ∀ s : Session Debuggee, s.machine.types = types → s.providers = providers → f s = x)
    (h : Classified types providers x) : Classified types providers (get >>= f) := by
  obtain ⟨r, brings⟩ := h
  refine ⟨r, fun s responsive loaded same => .get_bind ?_⟩
  rw [known s loaded same]
  exact brings s responsive loaded same

theorem referenceType (name : String) :
    Classified types providers (call (.referenceType name) : Remote Debuggee _) := by
  refine ⟨({ types } : Debuggee).referenceType name, fun s responsive loaded _ => ?_⟩
  refine (lookup_produces rfl responsive).mono ?_
  rintro r s' rfl
  simp only [Debuggee.perform, Debuggee.answer, Debuggee.referenceType, loaded]

end Classified

section

variable {types : Table String ReferenceType} {providers : Providers}

private theorem addTypes_classified {first : String}
    {more : List String → List String → Remote Debuggee (List String)}
    (h : ∀ queue known, Classified types providers (more queue known))
    (queue known : List String) : Classified types providers (addTypes first more queue known) := by
  induction queue generalizing known with
  | nil => exact .pure _
  | cons name queue ih =>
    unfold addTypes
    split
    · exact ih known
    · refine .attempt_bind (.referenceType name) fun r => ?_
      split
      · split
        · exact .throw _
        · exact ih _
      · exact .throw _
      · exact h _ _

private theorem supertypesFrom_classified (first : String) (count : Nat)
    (queue known : List String) :
    Classified types providers (supertypesFrom first count queue known) := by
  induction count generalizing queue known with
  | zero => exact addTypes_classified (fun _ _ => .pure _) queue known
  | succ count ih => exact addTypes_classified ih queue known

private theorem findStructure_classified (o : ObjectRef) :
    Classified types providers (findStructure o : Remote Debuggee _) := by
  have ancestry : Classified types providers (supertypes o.typeName : Remote Debuggee _) := by
    refine .get_bind (fun s loaded _ => ?_) (supertypesFrom_classified o.typeName
      (types.size + Number.twoPow 40) [o.typeName] [])
    show supertypesFrom o.typeName (s.machine.types.size + Number.twoPow 40) [o.typeName] [] = _
    rw [loaded]
  unfold findStructure
  split
  · exact .pure _
  · refine .bind ancestry fun known => .get_bind (fun s _ same => ?_)
      (.pure (LogicalStructure.select (providers.logical.getD LogicalStructure.standard) known))
    unfold Session.logical
    rw [same]

/-- Whether and how an object is shown by what it holds is fixed by the classes that are loaded. -/
theorem structure?_classified (types : Table String ReferenceType) (providers : Providers)
    (o : ObjectRef) : ∃ shape, ∀ s : Session Debuggee, s.Responsive → s.machine.types = types →
      s.providers = providers → Task.Yields (Peruses []) (structure? o) s fun r _ => r = shape := by
  obtain ⟨r, brings⟩ : Classified types providers (findStructure o : Remote Debuggee _) :=
    findStructure_classified o
  refine ⟨r.toOption.join, fun s responsive loaded same => ?_⟩
  unfold structure?
  refine .bind (brings s responsive loaded same) ?_
  intro result s' _ same
  rw [← same]
  cases result <;> exact .pure rfl

end

end DebugSession.Session
