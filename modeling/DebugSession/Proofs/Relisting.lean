import DebugSession.Proofs.Scopes
import DebugSession.Proofs.Shapes
import DebugSession.Proofs.Spots
import DebugSession.Proofs.Tracking
/-!
Listing a container again after values have changed. The same variables come in the same order and
under the same names, each with the value that is in its spot by then.
-/

namespace DebugSession.Session

variable {s t : Session Debuggee} {thread : ThreadId} {found : List Variable}

/-! ## What cannot be given a value -/

private theorem listElements_fixed (responsive : s.Responsive) {o : ObjectRef} {start : Nat}
    {count : Option Nat} {policy : FetchPolicy} {parent : Option String}
    (listed : Settles (listElements o start count policy parent) s fun r _ => r = .ok found) :
    ∀ v ∈ found, v.signature? = none := by
  obtain ⟨component, values, listing⟩ := listElements_found responsive listed
  obtain rfl := Except.ok.inj (listed.symm.trans (listing start count))
  intro v mem
  obtain ⟨i, -, rfl⟩ := List.mem_mapIdx.1 (mem_of_mem_window mem)
  rfl

/-- Whatever a child of an object comes to, it is no place where a value could be stored. -/
private theorem ofChild_fixed (x : Remote Debuggee Value) {name type : String}
    {evaluateName : Option String} :
    Settles (do return { Variable.ofValue name (← x) type with evaluateName }) s fun r _ =>
      ∀ v, r = .ok v → v.signature? = none := by
  have evaluated : Settles x s fun _ _ => True := trivial
  refine evaluated.andThen (fun value s₁ _ => ?_) fun e s₁ _ => ?_
  · rintro v same
    obtain rfl := Except.ok.inj same
    rfl
  · rintro v same
    cases same

private theorem logicalChildren_fixed (tracks : Tracks [] s) (responsive : s.Responsive)
    {scope : LogicalScope} {shape : LogicalStructure} {o : ObjectRef} {start : Nat}
    {count : Option Nat} {policy : FetchPolicy} {parent : Option String}
    (listed : Settles (logicalChildren scope shape o start count policy parent) s fun r _ =>
      r = .ok found) : ∀ v ∈ found, v.signature? = none := by
  obtain ⟨typeName, kind, size⟩ := shape
  cases kind with
  | elements chain =>
    have unanswered : Informed False [] 0 s := tracks.informed
    have evaluated := (evaluateChain_learns scope (.object o) chain).ends s unanswered
    obtain ⟨value, s₁, ⟨moved, -⟩, listed⟩ := Settles.of_bind_ok listed evaluated
    cases value with
    | object array =>
      obtain ⟨elements, brought, rfl⟩ := settles_return_ok.1 listed
      intro v mem
      obtain ⟨w, there, rfl⟩ := List.mem_map.1 mem
      exact listElements_fixed (moved.responsive responsive) brought w there
    | _ =>
      have none : Except.ok [] = Except.ok found := (settles_pure _).1 listed
      exact Except.ok.inj none ▸ List.forall_mem_nil _
  | properties children =>
    have each : Settles (children.mapM fun child => do
        let value ← evaluateLogical scope o child.2
        return { Variable.ofValue child.1 value "java.lang.Object" with
          evaluateName := parent.bind fun p => child.2.evaluateName p }) s fun r _ =>
            ∀ vs, r = .ok vs → List.Forall₂ (fun _ v => v.signature? = none) children vs :=
      settles_mapM (I := fun _ => True) (fun _ _ _ => ⟨trivial, ofChild_fixed _⟩) children trivial
    obtain ⟨each, same⟩ := Task.Ends.and each listed
    intro v mem
    obtain ⟨child, -, fixed⟩ := exists_left_of_forall₂ (each found same) mem
    exact fixed

/-! ## The same listing with other values -/

/-- In the session `t` the same is to be listed in a container as in `s`, but for the values. -/
structure Mirrors (c : Container) (s t : Session Debuggee) : Prop where
  tracks : Tracks c.listed t
  responsive : t.Responsive
  outlines : Debuggee.Outlines s.machine t.machine
  settings : t.settings = s.settings
  providers : t.providers = s.providers
  callMode : t.callMode = s.callMode
  results : t.results = s.results

/-- What has been listed in a container. All that can be given a value has a spot there is, none
shares its spot with one of another name, and with other values the same is listed. -/
structure Register (thread : ThreadId) (c : Container) (s : Session Debuggee)
    (found : List Variable) : Prop where
  held : ∀ v ∈ found, ∀ signature, v.signature? = some signature →
    ∃ p, c.spot? v = some p ∧ s.machine.Holds p
  apart : ∀ v ∈ found, ∀ w ∈ found, ∀ p, c.spot? v = some p → c.spot? w = some p →
    v.name = w.name
  again : (∃ v ∈ found, ∃ signature, v.signature? = some signature) → ∀ t, Mirrors c s t →
    Settles (listContainer thread c 0 none t.settings.display) t fun r _ =>
      r = .ok (found.map (c.refreshed t.machine))

theorem Register.of_fixed {c : Container} (fixed : ∀ v ∈ found, v.signature? = none) :
    Register thread c s found where
  held v mem _ typed := nomatch (fixed v mem).symm.trans typed
  apart v mem _ _ p spot := nomatch (c.spot?_of_fixed (fixed v mem)).symm.trans spot
  again := by
    rintro ⟨v, mem, signature, typed⟩
    cases (fixed v mem).symm.trans typed

/-- It is enough to know the variables before their names are resolved, behind those that cannot be
given a value. -/
theorem Register.of_resolved {c : Container} {front body : List Variable}
    (fixed : ∀ v ∈ front, v.signature? = none) (plain : ∀ v ∈ body, v.Plain)
    (held : ∀ v ∈ body, ∃ p, c.spot? v = some p ∧ s.machine.Holds p)
    (again : ∀ t, Mirrors c s t →
      Settles (listContainer thread c 0 none t.settings.display) t fun r _ =>
        r = .ok (front ++ Variable.resolveNames (body.map (c.refreshed t.machine)))) :
    Register thread c s (front ++ Variable.resolveNames body) := by
  have behind : ∀ v ∈ front ++ Variable.resolveNames body, ∀ p, c.spot? v = some p →
      ∃ w ∈ body, v = { w with name := Variable.nameAmong body w } := by
    intro v mem p spot
    rcases List.mem_append.1 mem with mem | mem
    · cases (c.spot?_of_fixed (fixed v mem)).symm.trans spot
    · exact mem_resolveNames mem
  refine ⟨fun v mem signature typed => ?_, fun v mem w mem' p spot spot' => ?_, fun _ t mirrors => ?_⟩
  · rcases List.mem_append.1 mem with mem | mem
    · cases (fixed v mem).symm.trans typed
    · obtain ⟨w, there, rfl⟩ := mem_resolveNames mem
      exact held w there
  · obtain ⟨x, there, rfl⟩ := behind v mem p spot
    obtain ⟨y, there', rfl⟩ := behind w mem' p spot'
    obtain ⟨name, declared⟩ := (plain x there).same_of_spot (plain y there') spot spot'
    exact Variable.nameAmong_congr body name declared
  · have same : front.map (c.refreshed t.machine) = front := by
      conv_rhs => rw [← List.map_id front]
      exact List.map_congr_left fun v mem => c.refreshed_of_fixed (fixed v mem) _
    rw [List.map_append, same, ← Variable.resolveNames_refreshed]
    exact again t mirrors

/-! ## Scopes of frames -/

theorem Mirrors.facing {q : FrameProxy} {f : Frame} (h : Mirrors (.locals q) s t)
    (readable : s.machine.failingFieldReads = [])
    (stands : s.machine.standing? q.thread q.depth = some f) :
    ∃ f', Facing q f' t ∧ f'.outline = f.outline := by
  have same := h.outlines.standing q.thread q.depth
  rw [stands] at same
  obtain ⟨f', stands', outline⟩ := Option.map_eq_some_iff.1 same
  exact ⟨f', ⟨h.tracks, h.responsive, h.outlines.failingFieldReads.trans readable, stands'⟩, outline⟩

private theorem listContainer_locals {q : FrameProxy} {f : Frame} (h : Facing q f s)
    (settings : VariableSettings) :
    Settles (listContainer thread (.locals q) 0 none settings) s fun r _ =>
      r = .ok (s.scopeOf q f) := by
  unfold listContainer
  rw [settles_bind, settles_get]
  refine settles_return_ok.2 ⟨s.scopeOf q f, ?_, rfl⟩
  exact ((listScope_produces h s.fetchPolicy).settles Peruses.advance).2

private theorem valueAt?_of_facing {q : FrameProxy} {f : Frame} (h : Facing q f s)
    {l : LocalVariable} (mem : l ∈ f.locals.map (·.1)) :
    s.machine.valueAt? (.slot q.thread q.depth l) = some (f.stored l) := by
  simp only [Debuggee.valueAt?, Debuggee.frameAt_of_standing h.stands, Option.bind_some,
    value_of_mem mem]
  rfl

private theorem named_refreshed {q : FrameProxy} {f f' : Frame} (h : Facing q f' t)
    (same : f'.locals.map (·.1) = f.locals.map (·.1)) :
    f.named.map (Container.refreshed (.locals q) t.machine) = f'.named := by
  have apart : ∀ g : Frame, g.named =
      (g.locals.map (·.1)).map fun l => Variable.ofLocal l (g.stored l) := fun g => by
    rw [List.map_map]
    rfl
  rw [apart f, apart f', ← same, List.map_map]
  refine List.map_congr_left fun l mem => ?_
  rw [Function.comp_apply, Container.refreshed_of_spot rfl rfl]
  show Variable.ofLocal l ((t.machine.valueAt? (.slot q.thread q.depth l)).getD _) = _
  rw [valueAt?_of_facing h mem]
  rfl

private theorem scopeHead_fixed {q : FrameProxy} {f : Frame} :
    ∀ v ∈ s.scopeHead q f, v.signature? = none := by
  intro v mem
  rcases List.mem_append.1 mem with mem | mem
  · rw [Option.mem_toList] at mem
    split at mem
    · obtain ⟨r, -, rfl⟩ := Option.map_eq_some_iff.1 mem
      rfl
    · cases mem
  · obtain ⟨o, -, rfl⟩ := Option.map_eq_some_iff.1 (Option.mem_toList.1 mem)
    rfl

private theorem locals_register {q : FrameProxy} {f : Frame} (h : Facing q f s) :
    Register thread (.locals q) s (s.scopeOf q f) := by
  by_cases seen : f.native = false ∧ f.absentInformation = false
  · have listed : ∀ g : Frame, g.native = false ∧ g.absentInformation = false →
        g.variables = Variable.resolveNames g.named := by
      rintro g ⟨native, absent⟩
      unfold Frame.variables
      rw [native, absent]
      rfl
    unfold scopeOf
    rw [listed f seen]
    refine .of_resolved scopeHead_fixed (fun v mem => ?_) (fun v mem => ?_) fun t mirrors => ?_
    · obtain ⟨e, -, rfl⟩ := List.mem_map.1 mem
      exact Variable.plain_ofLocal _ _
    · obtain ⟨e, there, rfl⟩ := List.mem_map.1 mem
      have known := value_of_mem (List.mem_map_of_mem there)
      exact ⟨_, rfl, f, h.stands, _, known⟩
    · obtain ⟨f', h', outline⟩ := mirrors.facing h.readable h.stands
      obtain ⟨-, -, -, this, absent, native⟩ := Frame.mk.inj outline
      have again : Settles (listContainer thread (.locals q) 0 none t.settings.display) t _ :=
        listContainer_locals h' t.settings.display
      unfold scopeOf scopeHead at again
      rw [mirrors.results, this, listed f' ⟨native.trans seen.1, absent.trans seen.2⟩] at again
      rw [named_refreshed h' (Frame.locals_of_outline outline)]
      exact again
  · refine .of_fixed fun v mem => ?_
    rcases List.mem_append.1 mem with mem | mem
    · exact scopeHead_fixed v mem
    · unfold Frame.variables at mem
      split at mem
      · cases mem
      · rename_i code
        rw [if_pos (by simpa [code] using seen)] at mem
        obtain ⟨i, -, rfl⟩ := List.mem_mapIdx.1 mem
        rfl

/-! ## Fields -/

/-- The fields with which an object is listed, under their own names. -/
def fieldsNamed (d : Debuggee) (o : ObjectRef) (withStatic : Bool) (parent : Option String) :
    List Variable :=
  ((d.objects.get? o.id).elim [] fun h => d.ownVariables h o.typeName parent) ++
    if withStatic then d.staticVariables o.typeName else []

/-- The own fields of an object are listed at all, if only because there are none or because pages
that fail are left out. -/
def Fielded (d : Debuggee) (o : ObjectRef) (mode : CallMode) : Prop :=
  (d.objects.get? o.id).isSome ∨
    ¬ (mode = .synchronous ∧ ((d.fieldsOf o.typeName).filter fun f => !f.isStatic) ≠ [])

section

variable {d d' : Debuggee} {o : ObjectRef} {q : FrameProxy} {typeName : String}
  {withStatic : Bool} {policy : FetchPolicy} {parent : Option String}

private theorem fieldsOf_outlines (h : Debuggee.Outlines d d') (typeName : String) :
    d'.fieldsOf typeName = d.fieldsOf typeName := by
  unfold Debuggee.fieldsOf
  rw [h.types]

private theorem Fielded.outlines {mode : CallMode} (h : Debuggee.Outlines d d')
    (fielded : Fielded d o mode) : Fielded d' o mode := by
  unfold Fielded
  rw [h.objects, fieldsOf_outlines h]
  exact fielded

private theorem listFields_named (responsive : s.Responsive)
    (readable : s.machine.failingFieldReads = []) {type : ReferenceType}
    (loaded : s.machine.referenceType o.typeName = .ok type)
    (fielded : Fielded s.machine o policy.mode) :
    Settles (listFields o withStatic policy parent) s fun r _ =>
      r = .ok (Variable.resolveNames (fieldsNamed s.machine o withStatic parent)) := by
  unfold fieldsNamed
  cases there : s.machine.objects.get? o.id with
  | some h =>
    have known : s.machine.object o.id = .ok h := by
      unfold Debuggee.object
      rw [there]
    exact ((listFields_produces [] responsive known (by simp [readable]) loaded withStatic
      policy parent).settles Peruses.advance).2
  | none =>
    have missing := ((listFields_missing [] responsive there readable loaded withStatic policy
      parent).settles Peruses.advance).2
    rw [if_neg (fielded.resolve_left (by simp [there]))] at missing
    exact missing

/-- Whoever lists the fields of an object finds its class loaded and its own fields listed. -/
private theorem fielded_of_listed (responsive : s.Responsive)
    (readable : s.machine.failingFieldReads = [])
    (listed : Settles (listFields o withStatic policy parent) s fun r _ => r = .ok found) :
    (∃ type, s.machine.referenceType o.typeName = .ok type) ∧ Fielded s.machine o policy.mode := by
  obtain ⟨type, loaded⟩ := loaded_of_allFields responsive listed
  refine ⟨⟨type, loaded⟩, ?_⟩
  unfold Fielded
  cases there : s.machine.objects.get? o.id with
  | some h => exact .inl rfl
  | none =>
    have missing := ((listFields_missing [] responsive there readable loaded withStatic policy
      parent).settles Peruses.advance).2
    refine .inr fun refused => ?_
    rw [if_pos refused] at missing
    cases listed.symm.trans missing

private theorem statics_refreshed (h : Debuggee.Outlines d d') {c : Container}
    (apart : ∀ f : Field, f.isStatic = true → c.target? f = none) (typeName : String) :
    (d.staticVariables typeName).map (c.refreshed d') = d'.staticVariables typeName := by
  unfold Debuggee.staticVariables
  rw [fieldsOf_outlines h, List.map_map]
  refine List.map_congr_left fun f mem => ?_
  have spot : c.spot? (Variable.ofField f (Debuggee.storedValue d.statics f)
      (some f.declaringType)) = some (f.spot none) := by
    rw [← apart f (List.mem_filter.1 mem).2]
    rfl
  rw [Function.comp_apply, c.refreshed_of_spot spot rfl]
  rfl

private theorem own_refreshed (h : Debuggee.Outlines d d') {x x' : HeapObject}
    (there' : d'.objects.get? o.id = some x') :
    (d.ownVariables x o.typeName parent).map (Container.refreshed (.object o parent) d') =
      d'.ownVariables x' o.typeName parent := by
  unfold Debuggee.ownVariables
  rw [fieldsOf_outlines h, List.map_map]
  refine List.map_congr_left fun f mem => ?_
  have own : f.isStatic = false := by simpa using (List.mem_filter.1 mem).2
  have spot : Container.spot? (.object o parent) (Variable.ofField f
      (Debuggee.storedValue x.fields f) parent) = some (f.spot (some o.id)) := by
    show some (f.spot (if f.isStatic then none else some o.id)) = _
    rw [own, if_neg Bool.false_ne_true]
  rw [Function.comp_apply, Container.refreshed_of_spot spot rfl]
  show Variable.ofField f ((d'.fieldValue? o.id f.declaringType f.name).getD _) parent = _
  unfold Debuggee.fieldValue?
  rw [there']
  rfl

private theorem fieldsNamed_refreshed (h : Debuggee.Outlines d d') :
    (fieldsNamed d o withStatic parent).map (Container.refreshed (.object o parent) d') =
      fieldsNamed d' o withStatic parent := by
  have static : ∀ f : Field, f.isStatic = true →
      Container.target? (.object o parent) f = none := fun f static => if_pos static
  have same := h.objects o.id
  unfold fieldsNamed
  rw [List.map_append]
  congr 1
  · cases there : d.objects.get? o.id with
    | none =>
      rw [there] at same
      cases there' : d'.objects.get? o.id with
      | none => rfl
      | some x' => rw [there'] at same; cases same
    | some x =>
      rw [there] at same
      obtain ⟨x', there'⟩ := Option.isSome_iff_exists.1 same
      rw [there']
      exact own_refreshed h there'
  · split
    · exact statics_refreshed h static o.typeName
    · rfl

private theorem plain_of_mem_fieldsNamed {v : Variable}
    (mem : v ∈ fieldsNamed d o withStatic parent) :
    v.Plain ∧ ∃ p, Container.spot? (.object o parent) v = some p ∧ d.Holds p := by
  have holds : ∀ f : Field, (f.isStatic = false → ∃ x, d.objects.get? o.id = some x) →
      d.Holds (f.spot (Container.target? (.object o parent) f)) := by
    intro f there
    show d.Holds (f.spot (if f.isStatic then none else some o.id))
    cases static : f.isStatic with
    | true => exact trivial
    | false => exact there static
  rcases List.mem_append.1 mem with mem | mem
  · cases there : d.objects.get? o.id with
    | none =>
      rw [there] at mem
      cases mem
    | some x =>
      rw [there] at mem
      obtain ⟨f, -, rfl⟩ := List.mem_map.1 mem
      exact ⟨Variable.plain_ofField _ _ _, _, rfl, holds f fun _ => ⟨x, there⟩⟩
  · split at mem
    · obtain ⟨f, chosen, rfl⟩ := List.mem_map.1 mem
      refine ⟨Variable.plain_ofField _ _ _, _, rfl, holds f fun own => ?_⟩
      cases own.symm.trans (List.mem_filter.1 chosen).2
    · cases mem

private theorem statics_register (responsive : s.Responsive)
    (listed : Settles (listContainer thread (.statics q typeName) 0 none s.settings.display) s
      fun r _ => r = .ok found) : Register thread (.statics q typeName) s found := by
  have listing : ∀ t : Session Debuggee, t.Responsive → ∀ type,
      t.machine.referenceType typeName = .ok type →
      Settles (listContainer thread (.statics q typeName) 0 none t.settings.display) t fun r _ =>
        r = .ok (Variable.resolveNames (t.machine.staticVariables typeName)) := by
    intro t responsive type loaded
    unfold listContainer
    rw [settles_bind, settles_get]
    refine settles_return_ok.2 ⟨_, ?_, rfl⟩
    exact ((listStatics_produces [] responsive loaded t.fetchPolicy).settles Peruses.advance).2
  obtain ⟨type, loaded⟩ : ∃ type, s.machine.referenceType typeName = .ok type := by
    unfold listContainer at listed
    rw [settles_bind, settles_get] at listed
    obtain ⟨vs, brought, -⟩ := settles_return_ok.1 listed
    exact loaded_of_allFields responsive brought
  obtain rfl := Except.ok.inj (listed.symm.trans (listing s responsive type loaded))
  show Register thread _ s ([] ++ Variable.resolveNames (s.machine.staticVariables typeName))
  refine .of_resolved (List.forall_mem_nil _) (fun v mem => ?_) (fun v mem => ?_) fun t mirrors => ?_
  · obtain ⟨f, -, rfl⟩ := List.mem_map.1 mem
    exact Variable.plain_ofField _ _ _
  · obtain ⟨f, -, rfl⟩ := List.mem_map.1 mem
    exact ⟨_, rfl, trivial⟩
  · rw [statics_refreshed mirrors.outlines (fun _ _ => rfl)]
    refine listing t mirrors.responsive type ?_
    unfold Debuggee.referenceType at *
    rw [mirrors.outlines.types, loaded]

/-- An object that is shown neither by what it holds nor as an array is listed by its fields. -/
private theorem listContainer_unshaped {shape : Option LogicalStructure} (responsive : s.Responsive)
    (readable : s.machine.failingFieldReads = [])
    (shaped : Task.Yields (Peruses []) (structure? o) s fun r _ => r = shape)
    (plain : s.settings.display.showLogicalStructure = true → shape = none)
    (single : o.isArray = false) {type : ReferenceType}
    (loaded : s.machine.referenceType o.typeName = .ok type)
    (fielded : Fielded s.machine o s.callMode) :
    Settles (listContainer thread (.object o parent) 0 none s.settings.display) s fun r _ =>
      r = .ok (Variable.resolveNames
        (fieldsNamed s.machine o s.settings.display.showStaticVariables parent)) := by
  have rest : ∀ s₁, Peruses [] s s₁ → Settles (do
      return window (← listFields o s.settings.display.showStaticVariables s.fetchPolicy parent) 0
        none) s₁ fun r _ => r = .ok (Variable.resolveNames
          (fieldsNamed s.machine o s.settings.display.showStaticVariables parent)) := by
    intro s₁ moved
    have same := moved.machine.same
    have loaded₁ : s₁.machine.referenceType o.typeName = .ok type := by
      unfold Debuggee.referenceType at *
      rw [same.types, loaded]
    have named : fieldsNamed s₁.machine o s.settings.display.showStaticVariables parent =
        fieldsNamed s.machine o s.settings.display.showStaticVariables parent := by
      unfold fieldsNamed Debuggee.ownVariables Debuggee.staticVariables
      simp only [same.objects, same.statics, same.fieldsOf]
    refine settles_return_ok.2 ⟨_, ?_, rfl⟩
    rw [← named]
    exact listFields_named (moved.responsive responsive) (same.failingFieldReads.trans readable)
      loaded₁ (fielded.outlines same.outlines)
  unfold listContainer
  rw [settles_bind, settles_get]
  dsimp only
  cases logical : s.settings.display.showLogicalStructure with
  | false =>
    rw [listObject_plain logical, listShaped_fields single]
    exact rest s (Composes.refl s)
  | true =>
    rw [listObject_logical logical]
    refine Task.Ends.andThen (shaped.ends Peruses.advance) ?_
    rintro r s₁ ⟨moved, rfl⟩
    rw [plain logical, listShaped_fields single]
    exact rest s₁ moved

/-- Whatever an object is listed by, unless by its fields, cannot be given a value. -/
private theorem fixed_or_fields {shape : Option LogicalStructure} (tracks : Tracks [] s)
    (responsive : s.Responsive) (readable : s.machine.failingFieldReads = [])
    (shaped : Task.Yields (Peruses []) (structure? o) s fun r _ => r = shape)
    (listed : Settles (listContainer thread (.object o parent) 0 none s.settings.display) s
      fun r _ => r = .ok found) :
    (∀ v ∈ found, v.signature? = none) ∨
      (s.settings.display.showLogicalStructure = true → shape = none) ∧ o.isArray = false ∧
        (∃ type, s.machine.referenceType o.typeName = .ok type) ∧
          Fielded s.machine o s.callMode := by
  have rest : ∀ s₁, Peruses [] s s₁ →
      Settles (listShaped thread o parent 0 none s.settings.display s.fetchPolicy none) s₁
        (fun r _ => r = .ok found) →
      (∀ v ∈ found, v.signature? = none) ∨ o.isArray = false ∧
        (∃ type, s.machine.referenceType o.typeName = .ok type) ∧
          Fielded s.machine o s.callMode := by
    intro s₁ moved listed
    have same := moved.machine.same
    unfold listShaped at listed
    dsimp only at listed
    split at listed
    · exact .inl (listElements_fixed (moved.responsive responsive) listed)
    · rename_i single
      obtain ⟨vs, brought, -⟩ := settles_return_ok.1 listed
      obtain ⟨⟨type, loaded⟩, fielded⟩ := fielded_of_listed (moved.responsive responsive)
        (same.failingFieldReads.trans readable) brought
      refine .inr ⟨by simpa using single, ⟨type, ?_⟩, fielded.outlines same.symm.outlines⟩
      unfold Debuggee.referenceType at *
      rw [← same.types, loaded]
  unfold listContainer at listed
  rw [settles_bind, settles_get] at listed
  dsimp only at listed
  cases logical : s.settings.display.showLogicalStructure with
  | false =>
    rw [listObject_plain logical] at listed
    exact (rest s (Composes.refl s) listed).imp_right fun h => ⟨nofun, h⟩
  | true =>
    rw [listObject_logical logical] at listed
    have shaped' : Settles (quietly (structure? o) : Remote Debuggee _) s fun r s' =>
        Peruses [] s s' ∧ r = .ok shape :=
      (settles_quietly _).2 ((shaped.ends Peruses.advance).mono fun _ _ h => ⟨h.1, h.2 ▸ rfl⟩)
    obtain ⟨found', s₁, ⟨moved, same⟩, listed⟩ := Settles.of_bind_ok listed shaped'
    obtain rfl := Except.ok.inj same
    cases found' with
    | none => exact (rest s₁ moved listed).imp_right fun h => ⟨fun _ => rfl, h⟩
    | some shape =>
      have opened : Settles (quietly (logicalScope thread) : Remote Debuggee _) s₁ fun _ s' =>
          Surveys [] s₁ s' :=
        (settles_quietly _).2 (logicalScope_surveys (moved.tracks tracks).informed)
      obtain ⟨scope, s₂, moved₂, listed⟩ := Settles.of_bind_ok listed opened
      have all := Composes.trans moved.toSurveys moved₂
      exact .inl (logicalChildren_fixed (all.tracks tracks) (all.responsive responsive) listed)

private theorem object_register (tracks : Tracks [] s) (responsive : s.Responsive)
    (readable : s.machine.failingFieldReads = [])
    (listed : Settles (listContainer thread (.object o parent) 0 none s.settings.display) s
      fun r _ => r = .ok found) : Register thread (.object o parent) s found := by
  obtain ⟨shape, shaped⟩ := structure?_classified s.machine.types s.providers o
  have shaped' := shaped s responsive rfl rfl
  rcases fixed_or_fields tracks responsive readable shaped' listed with
    fixed | ⟨plain, single, ⟨type, loaded⟩, fielded⟩
  · exact .of_fixed fixed
  · have listing : Settles (listContainer thread (.object o parent) 0 none s.settings.display) s _ :=
      listContainer_unshaped responsive readable shaped' plain single loaded fielded
    obtain rfl := Except.ok.inj (listed.symm.trans listing)
    show Register thread _ s ([] ++ Variable.resolveNames (fieldsNamed ..))
    refine .of_resolved (List.forall_mem_nil _) (fun v mem => (plain_of_mem_fieldsNamed mem).1)
      (fun v mem => (plain_of_mem_fieldsNamed mem).2) fun t mirrors => ?_
    have loaded' : t.machine.referenceType o.typeName = .ok type := by
      unfold Debuggee.referenceType at *
      rw [mirrors.outlines.types, loaded]
    have again : Settles (listContainer thread (.object o parent) 0 none t.settings.display) t _ :=
      listContainer_unshaped mirrors.responsive (mirrors.outlines.failingFieldReads.trans readable)
        (shaped t mirrors.responsive mirrors.outlines.types mirrors.providers)
        (by rw [mirrors.settings]; exact plain) single loaded'
        (by rw [mirrors.callMode]; exact fielded.outlines mirrors.outlines)
    rw [fieldsNamed_refreshed mirrors.outlines, ← mirrors.settings]
    exact again

end

/-- Whatever is listed in a container, the same is listed there when values are others. -/
theorem listContainer_register {c : Container} (tracks : Tracks c.listed s)
    (responsive : s.Responsive) (readable : s.machine.failingFieldReads = [])
    (listed : Settles (listContainer thread c 0 none s.settings.display) s fun r _ =>
      r = .ok found) : Register thread c s found := by
  cases c with
  | frame q =>
    have none : Except.ok [] = Except.ok found := listed
    obtain rfl := Except.ok.inj none
    exact .of_fixed (List.forall_mem_nil _)
  | locals q =>
    obtain ⟨f, stands⟩ : ∃ f, s.machine.standing? q.thread q.depth = some f := by
      unfold listContainer at listed
      rw [settles_bind, settles_get] at listed
      obtain ⟨vs, brought, -⟩ := settles_return_ok.1 listed
      obtain ⟨stands, same⟩ :=
        Task.Ends.and (listScope_stands tracks responsive s.fetchPolicy) brought
      exact stands vs same
    have h : Facing q f s := ⟨tracks, responsive, readable, stands⟩
    obtain rfl := Except.ok.inj (listed.symm.trans (listContainer_locals h s.settings.display))
    exact locals_register h
  | statics q typeName => exact statics_register responsive listed
  | object o parent => exact object_register tracks responsive readable listed

end DebugSession.Session
