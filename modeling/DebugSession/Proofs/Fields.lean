import DebugSession.Proofs.Elements
/-!
The fields of a class and all its superclasses. A class that comes again on the way up ends it, and
so does one that is not loaded. Whatever the size of the pages, and whether or not they are read
side by side, a listing brings each of the fields once, with the value that is kept for it.
-/

namespace DebugSession

theorem exists_left_of_forall₂ {α β : Type} {R : α → β → Prop} {as : List α} {bs : List β}
    (h : List.Forall₂ R as bs) {b : β} (mem : b ∈ bs) : ∃ a ∈ as, R a b := by
  induction h with
  | nil => cases mem
  | cons first rest ih =>
    rcases List.mem_cons.1 mem with rfl | mem
    · exact ⟨_, List.mem_cons_self, first⟩
    · obtain ⟨a, there, related⟩ := ih mem
      exact ⟨a, List.mem_cons_of_mem _ there, related⟩

theorem exists_right_of_forall₂ {α β : Type} {R : α → β → Prop} {as : List α} {bs : List β}
    (h : List.Forall₂ R as bs) {a : α} (mem : a ∈ as) : ∃ b ∈ bs, R a b :=
  exists_left_of_forall₂ h.flip mem

namespace ReferenceType

variable {types : Table String ReferenceType} {known : List String} {next : String}
  {t : ReferenceType}

/-- How many entries there are for classes that are not among the known ones. -/
def unseen (types : Table String ReferenceType) (known : List String) : Nat :=
  (types.entries.filter fun e => e.1 ∉ known).length

theorem unseen_le (types : Table String ReferenceType) (known : List String) :
    unseen types known ≤ types.size :=
  List.length_filter_le ..

theorem unseen_lt (new : next ∉ known) (loaded : types.get? next = some t) :
    unseen types (next :: known) < unseen types known := by
  have fewer : (types.entries.filter fun e => e.1 ∉ next :: known) =
      (types.entries.filter fun e => e.1 ∉ known).filter fun e => e.1 ≠ next := by
    rw [List.filter_filter]
    refine List.filter_congr fun e _ => ?_
    simp [not_or]
  have there : (next, t) ∈ types.entries.filter fun e => e.1 ∉ known :=
    List.mem_filter.2 ⟨Table.mem_of_get? loaded, decide_eq_true new⟩
  unfold unseen
  rw [fewer]
  exact List.length_filter_lt_length_iff_exists.2 ⟨(next, t), there, by simp⟩

/-- The loaded classes from `next` on up through superclasses, as long as none comes that is
known. -/
def ancestry (types : Table String ReferenceType) (known : List String) (next : String) :
    List ReferenceType :=
  if new : next ∈ known then []
  else
    match loaded : types.get? next with
    | none => []
    | some t =>
      have := unseen_lt new loaded
      t :: match t.superclass with
        | none => []
        | some super => ancestry types (next :: known) super
termination_by unseen types known

theorem ancestry_of_known (h : next ∈ known) : ancestry types known next = [] := by
  rw [ancestry, dif_pos h]

theorem ancestry_of_unloaded (h : types.get? next = none) : ancestry types known next = [] := by
  rw [ancestry]
  split
  · rfl
  · split
    · rfl
    · rename_i loaded
      exact nomatch h.symm.trans loaded

theorem ancestry_of_loaded (new : next ∉ known) (h : types.get? next = some t) :
    ancestry types known next =
      t :: t.superclass.elim [] (ancestry types (next :: known)) := by
  rw [ancestry, dif_neg new]
  split
  · rename_i unloaded
    exact nomatch h.symm.trans unloaded
  · rename_i t' loaded
    obtain rfl := Option.some.inj (h.symm.trans loaded)
    cases t.superclass <;> rfl

end ReferenceType

/-- The fields of a class and all its superclasses, those of the class itself first. -/
def Debuggee.fieldsOf (d : Debuggee) (typeName : String) : List Field :=
  (ReferenceType.ancestry d.types [] typeName).flatMap ReferenceType.fields

/-- The fields that an object has itself, with their values. -/
def Debuggee.ownVariables (d : Debuggee) (h : HeapObject) (typeName : String)
    (parent : Option String) : List Variable :=
  ((d.fieldsOf typeName).filter fun f => !f.isStatic).map fun f =>
    Variable.ofField f (storedValue h.fields f) parent

/-- The static fields of a class and its superclasses, with their values. -/
def Debuggee.staticVariables (d : Debuggee) (typeName : String) : List Variable :=
  ((d.fieldsOf typeName).filter Field.isStatic).map fun f =>
    Variable.ofField f (storedValue d.statics f) (some f.declaringType)

theorem Debuggee.fieldsOf_unloaded {d : Debuggee} {typeName : String} {e : RemoteError}
    (h : d.referenceType typeName = .error e) : d.fieldsOf typeName = [] := by
  unfold Debuggee.referenceType at h
  unfold Debuggee.fieldsOf
  cases there : d.types.get? typeName with
  | some t => rw [there] at h; cases h
  | none => rw [ReferenceType.ancestry_of_unloaded there]; rfl

namespace Session

open ReferenceType (unseen unseen_le unseen_lt ancestry ancestry_of_known ancestry_of_unloaded
  ancestry_of_loaded)

variable {α β : Type} {known : List FrameProxy} {s : Session Debuggee}

theorem referenceType_produces (responsive : s.Responsive) (typeName : String) :
    Produces (Peruses known) (call (.referenceType typeName)) s fun r _ =>
      r = s.machine.referenceType typeName :=
  lookup_produces rfl responsive

/-- The way up as it is listed: `count` is enough for all classes that are yet to be seen. -/
private theorem fieldsFrom_produces {types : Table String ReferenceType} {first : String}
    {t : ReferenceType} (loaded : types.get? first = some t) {count : Nat} {seen : List String}
    {next : String} (enough : unseen types seen < count) (same : s.machine.types = types)
    (responsive : s.Responsive) :
    Produces (Peruses known) (fieldsFrom first count seen next) s fun r _ =>
      r = .ok ((ancestry types seen next).flatMap ReferenceType.fields) := by
  induction count generalizing seen next s with
  | zero => exact absurd enough (Nat.not_lt_zero _)
  | succ count ih =>
    unfold fieldsFrom
    by_cases again : next ∈ seen
    · rw [if_pos (List.contains_iff_mem.2 again), ancestry_of_known again]
      exact .pure rfl
    · rw [if_neg (mt List.contains_iff_mem.1 again)]
      refine .attempt_bind (referenceType_produces responsive next) ?_
      rintro r s₁ moved rfl
      unfold Debuggee.referenceType
      rw [same]
      cases there : types.get? next with
      | none =>
        have other : next ≠ first := by
          rintro rfl
          cases there.symm.trans loaded
        dsimp only
        rw [if_neg other, ancestry_of_unloaded there]
        exact .pure rfl
      | some t =>
        rw [ancestry_of_loaded again there]
        dsimp only
        cases t.superclass with
        | none => exact .pure (by simp)
        | some super =>
          have fewer := unseen_lt again there
          have rest : Produces (Peruses known) (fieldsFrom first count (next :: seen) super) s₁ _ :=
            ih (by omega) (moved.machine.same.types.trans same) (moved.responsive responsive)
          exact rest.bind_ok fun _ _ => .pure (by simp)

private theorem fieldsFrom_unloaded (responsive : s.Responsive) {first : String}
    (missing : s.machine.referenceType first = .error (.classNotLoaded first)) (count : Nat) :
    Produces (Peruses known) (fieldsFrom first (count + 1) [] first) s fun r _ =>
      r = .error (.classNotLoaded first) := by
  unfold fieldsFrom
  refine .attempt_bind (referenceType_produces responsive first) ?_
  rintro r s₁ - rfl
  rw [missing]
  dsimp only
  rw [if_pos rfl]
  exact .throw rfl

/-- The fields of a class, if it is loaded. -/
theorem allFields_produces (known : List FrameProxy) (responsive : s.Responsive)
    (typeName : String) :
    Produces (Peruses known) (allFields typeName) s fun r _ =>
      r = (s.machine.referenceType typeName).map fun _ => s.machine.fieldsOf typeName := by
  have enough : unseen s.machine.types [] ≤ s.walkLimit :=
    Nat.le_trans (unseen_le s.machine.types []) (Nat.le_add_right ..)
  unfold allFields
  refine .get_bind ?_
  generalize s.walkLimit = limit at enough
  cases there : s.machine.types.get? typeName with
  | some t =>
    have found : s.machine.referenceType typeName = .ok t := by
      unfold Debuggee.referenceType
      rw [there]
    rw [found]
    exact fieldsFrom_produces there (Nat.lt_succ_of_le enough) rfl responsive
  | none =>
    have missing : s.machine.referenceType typeName = .error (.classNotLoaded typeName) := by
      unfold Debuggee.referenceType
      rw [there]
    rw [missing]
    exact fieldsFrom_unloaded responsive missing limit

/-- Where something is made of the fields of a class, it is loaded. -/
theorem loaded_of_allFields {typeName : String} {f : List Field → Remote Debuggee β} {b : β}
    (responsive : s.Responsive)
    (made : Settles (allFields typeName >>= f) s fun r _ => r = .ok b) :
    ∃ t, s.machine.referenceType typeName = .ok t := by
  have found := ((allFields_produces [] responsive typeName).settles Peruses.advance)
  obtain ⟨fields, s', ⟨-, brought⟩, -⟩ := made.of_bind_ok found
  cases loaded : s.machine.referenceType typeName with
  | ok t => exact ⟨t, rfl⟩
  | error e =>
    rw [loaded] at brought
    cases brought

/-! ## Values -/

/-- Where each page brings what is made of it, this is made of all. -/
theorem fetchPaged_map {policy : FetchPolicy} {items : List α}
    {fetch : List α → Remote Debuggee (List β)} (f : α → β)
    (h : ∀ page, page ⊆ items → ∀ s', Peruses known s s' →
      Produces (Peruses known) (fetch page) s' fun r _ => r = .ok (page.map f)) :
    Produces (Peruses known) (fetchPaged policy items fetch) s fun r _ =>
      r = .ok (items.map f) := by
  refine (fetchPaged_produces (fun page => page.map f) fun page mem => h page ?_).mono ?_
  · exact fun a there => pages_flatten policy.pageSize items ▸ List.mem_flatten_of_mem mem there
  · rintro r s' rfl
    rw [← List.map_flatten, pages_flatten]

theorem staticFieldValues_produces (known : List FrameProxy) (responsive : s.Responsive)
    {typeName : String} {t : ReferenceType} (loaded : s.machine.referenceType typeName = .ok t)
    (fields : List Field) :
    Produces (Peruses known) (call (.staticFieldValues typeName fields)) s fun r _ =>
      r = .ok (fields.map (Debuggee.storedValue s.machine.statics)) := by
  refine (lookup_produces rfl responsive).mono ?_
  rintro r s' rfl
  show (s.machine.referenceType typeName >>= fun _ => _) = _
  rw [loaded]
  rfl

theorem fieldValues_produces (known : List FrameProxy) (responsive : s.Responsive)
    {fields : List Field} (readable : ∀ f ∈ fields, f.name ∉ s.machine.failingFieldReads)
    (id : ObjectId) :
    Produces (Peruses known) (call (.fieldValues id fields)) s fun r _ =>
      r = (s.machine.object id).map fun h => fields.map (Debuggee.storedValue h.fields) := by
  refine (lookup_produces rfl responsive).mono ?_
  rintro r s' rfl
  have answered : (fields.any fun f => s.machine.failingFieldReads.contains f.name) = false := by
    simpa using readable
  show (do
    if fields.any fun f => s.machine.failingFieldReads.contains f.name then
      throw (.commandFailed 113)
    return fields.map (Debuggee.storedValue (← s.machine.object id).fields) :
      Except RemoteError (List Value)) = _
  rw [answered]
  rfl

/-- The static fields as they are listed. -/
theorem listStaticFields_produces (known : List FrameProxy) (responsive : s.Responsive)
    {typeName : String} {t : ReferenceType} (loaded : s.machine.referenceType typeName = .ok t)
    (policy : FetchPolicy) (fields : List Field) :
    Produces (Peruses known) (listStaticFields typeName policy fields) s fun r _ =>
      r = .ok (fields.map fun f => Variable.ofField f (Debuggee.storedValue s.machine.statics f)
        (some f.declaringType)) := by
  unfold listStaticFields
  refine fetchPaged_map _ fun page _ s' moved => ?_
  have same := moved.machine.same
  have loaded' : s'.machine.referenceType typeName = .ok t := by
    unfold Debuggee.referenceType at *
    rw [same.types, loaded]
  have asked := staticFieldValues_produces known (moved.responsive responsive) loaded'
    page
  rw [same.statics] at asked
  refine asked.bind_ok fun _ _ => .pure ?_
  rw [List.zipWith_map_right, List.zipWith_self]

/-- The fields of an object as they are listed. -/
theorem listOwnFields_produces (known : List FrameProxy) (responsive : s.Responsive)
    {o : ObjectRef} {h : HeapObject} (there : s.machine.object o.id = .ok h)
    {fields : List Field} (readable : ∀ f ∈ fields, f.name ∉ s.machine.failingFieldReads)
    (policy : FetchPolicy) (parent : Option String) :
    Produces (Peruses known) (fetchPaged policy fields fun page => do
      let values ← call (.fieldValues o.id page)
      return List.zipWith (fun f value => Variable.ofField f value parent) page values) s
      fun r _ => r = .ok (fields.map fun f =>
        Variable.ofField f (Debuggee.storedValue h.fields f) parent) := by
  refine fetchPaged_map _ fun page part s' moved => ?_
  have same := moved.machine.same
  have there' : s'.machine.object o.id = .ok h := by
    unfold Debuggee.object at *
    rw [same.objects, there]
  have readable' : ∀ f ∈ page, f.name ∉ s'.machine.failingFieldReads := by
    rw [same.failingFieldReads]
    exact fun f mem => readable f (part mem)
  have asked := fieldValues_produces known (moved.responsive responsive) readable' o.id
  rw [there'] at asked
  refine asked.bind_ok fun _ _ => .pure ?_
  rw [List.zipWith_map_right, List.zipWith_self]

/-- The listing of the fields of an object, once it is known what its own are listed as. -/
private theorem listFields_of_own (known : List FrameProxy) (responsive : s.Responsive)
    {o : ObjectRef} {t : ReferenceType} (loaded : s.machine.referenceType o.typeName = .ok t)
    (withStatic : Bool) (policy : FetchPolicy) (parent : Option String)
    (brought : Except RemoteError (List Variable))
    (own : ∀ s', Peruses known s s' → Produces (Peruses known)
      (fetchPaged policy ((s.machine.fieldsOf o.typeName).filter fun f => !f.isStatic) fun page => do
        let values ← call (.fieldValues o.id page)
        return List.zipWith (fun f value => Variable.ofField f value parent) page values) s'
      fun r _ => r = brought) :
    Produces (Peruses known) (listFields o withStatic policy parent) s fun r _ =>
      r = brought.map fun own => Variable.resolveNames (own ++
        if withStatic then s.machine.staticVariables o.typeName else []) := by
  unfold listFields
  have fields := allFields_produces known responsive o.typeName
  rw [loaded] at fields
  refine fields.bind_ok fun s₁ moved => ?_
  have listed := own s₁ moved
  cases brought with
  | error e => exact listed.bind_error
  | ok vs =>
    refine listed.bind_ok fun s₂ moved₂ => ?_
    have same := Composes.trans moved moved₂
    have loaded₂ : s₂.machine.referenceType o.typeName = .ok t := by
      unfold Debuggee.referenceType at *
      rw [same.machine.same.types, loaded]
    have shared := listStaticFields_produces known (same.responsive responsive) loaded₂
      policy ((s.machine.fieldsOf o.typeName).filter Field.isStatic)
    rw [same.machine.same.statics] at shared
    dsimp only
    split
    · rename_i wanted
      rw [if_pos (Bool.and_eq_true_iff.1 wanted).1]
      exact shared.bind_ok fun _ _ => .pure rfl
    · rename_i unwanted
      rw [pure_bind]
      refine .pure ?_
      cases withStatic with
      | false => rfl
      | true =>
        have none : (s.machine.fieldsOf o.typeName).filter Field.isStatic = [] := by
          simpa using unwanted
        unfold Debuggee.staticVariables
        rw [none]
        rfl

theorem listFields_produces (known : List FrameProxy) (responsive : s.Responsive)
    {o : ObjectRef} {h : HeapObject} (there : s.machine.object o.id = .ok h)
    (readable : ∀ f ∈ s.machine.fieldsOf o.typeName, f.isStatic = false →
      f.name ∉ s.machine.failingFieldReads) {t : ReferenceType}
    (loaded : s.machine.referenceType o.typeName = .ok t) (withStatic : Bool)
    (policy : FetchPolicy) (parent : Option String) :
    Produces (Peruses known) (listFields o withStatic policy parent) s fun r _ =>
      r = .ok (Variable.resolveNames (s.machine.ownVariables h o.typeName parent ++
        if withStatic then s.machine.staticVariables o.typeName else [])) := by
  refine listFields_of_own known responsive loaded withStatic policy parent
    (.ok (s.machine.ownVariables h o.typeName parent)) fun s₁ moved => ?_
  have there₁ : s₁.machine.object o.id = .ok h := by
    unfold Debuggee.object at *
    rw [moved.machine.same.objects, there]
  refine listOwnFields_produces known (moved.responsive responsive) there₁ ?_ policy parent
  rw [moved.machine.same.failingFieldReads]
  intro f mem
  obtain ⟨listed, own⟩ := List.mem_filter.1 mem
  exact readable f listed (by simpa using own)

/-- Of an object that is not there only static fields are listed, if its own are read side by side
or if it has none. -/
theorem listFields_missing (known : List FrameProxy) (responsive : s.Responsive)
    {o : ObjectRef} (missing : s.machine.objects.get? o.id = none)
    (readable : s.machine.failingFieldReads = []) {t : ReferenceType}
    (loaded : s.machine.referenceType o.typeName = .ok t) (withStatic : Bool)
    (policy : FetchPolicy) (parent : Option String) :
    Produces (Peruses known) (listFields o withStatic policy parent) s fun r _ =>
      r = if policy.mode = .synchronous ∧
          ((s.machine.fieldsOf o.typeName).filter fun f => !f.isStatic) ≠ [] then
        .error (.invalidObject o.id)
      else .ok (Variable.resolveNames
        (if withStatic then s.machine.staticVariables o.typeName else [])) := by
  refine (listFields_of_own known responsive loaded withStatic policy parent
    (if policy.mode = .synchronous ∧
      ((s.machine.fieldsOf o.typeName).filter fun f => !f.isStatic) ≠ [] then
        .error (.invalidObject o.id) else .ok []) fun s₁ moved => ?_).mono ?_
  · refine fetchPaged_error rfl fun page _ s₂ moved₂ => ?_
    have same := Composes.trans moved moved₂
    have readable₂ : ∀ f ∈ page, f.name ∉ s₂.machine.failingFieldReads := by
      simp [same.machine.same.failingFieldReads.trans readable]
    have asked := fieldValues_produces known (same.responsive responsive) readable₂ o.id
    have unknown : s₂.machine.object o.id = .error (.invalidObject o.id) := by
      unfold Debuggee.object
      rw [same.machine.same.objects, missing]
    rw [unknown] at asked
    exact asked.bind_error
  · rintro r s' rfl
    rw [apply_ite (Except.map _)]
    rfl

/-- The static fields of a class and its superclasses as they are listed. -/
theorem listStatics_produces (known : List FrameProxy) (responsive : s.Responsive)
    {typeName : String} {t : ReferenceType} (loaded : s.machine.referenceType typeName = .ok t)
    (policy : FetchPolicy) :
    Produces (Peruses known) (listStatics typeName policy) s fun r _ =>
      r = .ok (Variable.resolveNames (s.machine.staticVariables typeName)) := by
  unfold listStatics
  have fields := allFields_produces known responsive typeName
  rw [loaded] at fields
  refine fields.bind_ok fun s₁ moved => ?_
  have same := moved.machine.same
  have loaded₁ : s₁.machine.referenceType typeName = .ok t := by
    unfold Debuggee.referenceType at *
    rw [same.types, loaded]
  have found := listStaticFields_produces known (moved.responsive responsive) loaded₁
    policy ((s.machine.fieldsOf typeName).filter Field.isStatic)
  rw [same.statics] at found
  exact found.bind_ok fun _ _ => .pure rfl

end Session
end DebugSession
