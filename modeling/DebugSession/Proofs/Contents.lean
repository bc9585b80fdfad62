import DebugSession.Proofs.Expressions
/-!
What the listing of an object comes to. An object is shown by what it holds: elements, or properties
that have names. Otherwise it is shown by its fields.
-/

namespace DebugSession.Session

variable {s : Session Debuggee} {thread : ThreadId} {o : ObjectRef} {parent : Option String}
  {start : Nat} {count : Option Nat} {found : List Variable}

/-- What may be found in an object for which there may be an expression. -/
inductive Contents (s : Session Debuggee) (o : ObjectRef) (parent : Option String) (start : Nat)
    (count : Option Nat) (found : List Variable) : Prop
  | elements (each : ∀ v ∈ found, v.field = none ∧ ∃ (q : Option String) (i : Nat),
      v.evaluateName = q.map fun q => s!"{q}[{i}]")
  | properties (each : ∀ v ∈ found, v.field = none ∧ ∃ e : LogicalExpression,
      v.evaluateName = parent.bind e.evaluateName ∧
        ∀ name, e = .field name → s.machine.fieldOf? o name = some v.value)
  | fields (single : o.isArray = false) (h : HeapObject)
      (there : s.machine.object o.id = .ok h) (t : ReferenceType)
      (loaded : s.machine.referenceType o.typeName = .ok t)
      (same : found = window (Variable.resolveNames
        (s.machine.ownVariables h o.typeName parent ++
          if s.settings.display.showStaticVariables then s.machine.staticVariables o.typeName
          else [])) start count)

theorem Contents.alike {t : Session Debuggee} (alike : Alike s t)
    (h : Contents t o parent start count found) : Contents s o parent start count found := by
  have same := alike.machine
  cases h with
  | elements each => exact .elements each
  | properties each =>
    simp only [same.fieldOf?] at each
    exact .properties each
  | fields single h there type loaded listed =>
    refine .fields single h ?_ type ?_ ?_
    · unfold Debuggee.object at *
      rw [← same.objects, there]
    · unfold Debuggee.referenceType at *
      rw [← same.types, loaded]
    · unfold Debuggee.ownVariables Debuggee.staticVariables at *
      rw [listed, alike.settings, same.fieldsOf, same.statics]

private theorem listElements_contents (responsive : s.Responsive) {policy : FetchPolicy}
    (listed : Settles (listElements o start count policy parent) s fun r _ => r = .ok found) :
    ∀ v ∈ found, v.field = none ∧ ∃ i : Nat, v.evaluateName = parent.map fun q => s!"{q}[{i}]" := by
  obtain ⟨component, values, listing⟩ := listElements_found responsive listed
  obtain rfl := Except.ok.inj (listed.symm.trans (listing start count))
  intro v mem
  obtain ⟨i, -, rfl⟩ := List.mem_mapIdx.1 (mem_of_mem_window mem)
  exact ⟨rfl, i, rfl⟩

/-- What a property stands for, if that is a field. -/
private theorem evaluateLogical_field (tracks : Tracks [] s) (responsive : s.Responsive)
    (readable : s.machine.failingFieldReads = []) (scope : LogicalScope) (e : LogicalExpression) :
    Settles (evaluateLogical scope o e) s fun r s' => Surveys [] s s' ∧
      ∀ value, r = .ok value → ∀ name, e = .field name →
        s.machine.fieldOf? o name = some value := by
  have unanswered : Informed False [] 0 s := ⟨tracks, False.elim, False.elim, False.elim⟩
  obtain ⟨moved, -⟩ := (evaluateLogical_learns scope o e).ends s unanswered
  refine ⟨moved, ?_⟩
  show Settles (evaluateLogical scope o e) s fun r _ => ∀ value, r = .ok value →
    ∀ name, e = .field name → s.machine.fieldOf? o name = some value
  cases e with
  | field name =>
    have read := (fieldValue?_produces [] responsive readable o name).settles
      Peruses.advance
    refine read.andThen ?_ fun _ _ _ _ failed => nomatch failed
    rintro found s₁ ⟨-, brought⟩
    cases found with
    | none => exact fun _ failed => nomatch failed
    | some value =>
      rintro _ same _ ⟨⟩
      obtain rfl := Except.ok.inj same
      exact brought.symm
  | method call arguments => exact fun _ _ _ same => nomatch same
  | snippet code => exact fun _ _ _ same => nomatch same

private theorem logicalChildren_contents (tracks : Tracks [] s) (responsive : s.Responsive)
    (readable : s.machine.failingFieldReads = []) (scope : LogicalScope)
    (shape : LogicalStructure) (policy : FetchPolicy)
    (listed : Settles (logicalChildren scope shape o start count policy parent) s fun r _ =>
      r = .ok found) : Contents s o parent start count found := by
  obtain ⟨typeName, kind, size⟩ := shape
  cases kind with
  | elements chain =>
    have unanswered : Informed False [] 0 s := ⟨tracks, False.elim, False.elim, False.elim⟩
    have evaluated := (evaluateChain_learns scope (.object o) chain).ends s unanswered
    obtain ⟨value, s₁, ⟨moved, -⟩, listed⟩ := Settles.of_bind_ok listed evaluated
    refine .elements ?_
    cases value with
    | object array =>
      obtain ⟨elements, brought, rfl⟩ := settles_return_ok.1 listed
      intro v mem
      obtain ⟨w, there, rfl⟩ := List.mem_map.1 mem
      obtain ⟨none, i, named⟩ :=
        listElements_contents (moved.responsive responsive) brought w there
      exact ⟨none, Option.none, i, named⟩
    | _ =>
      have none : Except.ok [] = Except.ok found := (settles_pure _).1 listed
      exact Except.ok.inj none ▸ List.forall_mem_nil _
  | properties children =>
    let property (child : String × LogicalExpression) (v : Variable) : Prop :=
      v.field = none ∧ v.evaluateName = parent.bind child.2.evaluateName ∧
        ∀ name, child.2 = .field name → s.machine.fieldOf? o name = some v.value
    have each : Settles (children.mapM fun child => do
        let value ← evaluateLogical scope o child.2
        return { Variable.ofValue child.1 value "java.lang.Object" with
          evaluateName := parent.bind fun p => child.2.evaluateName p }) s fun r _ =>
            ∀ vs, r = .ok vs → List.Forall₂ property children vs := by
      refine settles_mapM (I := Surveys [] s) (fun child s₁ moved => ?_) children (Composes.refl s)
      have same := moved.alike.machine
      have read := evaluateLogical_field (o := o) (moved.tracks tracks)
        (moved.responsive responsive) (same.failingFieldReads.trans readable) scope child.2
      simp only [same.fieldOf?] at read
      refine read.andThen (fun value s₂ ⟨moved₂, field⟩ => ?_) fun e s₂ ⟨moved₂, _⟩ =>
        ⟨Composes.trans moved moved₂, fun _ failed => nomatch failed⟩
      refine ⟨Composes.trans moved moved₂, fun v same => ?_⟩
      obtain rfl := Except.ok.inj same
      exact ⟨rfl, rfl, field value rfl⟩
    obtain ⟨each, same⟩ := Task.Ends.and each listed
    refine .properties fun v mem => ?_
    obtain ⟨child, -, none, named, field⟩ := exists_left_of_forall₂ (each found same) mem
    exact ⟨none, child.2, named, field⟩

/-- Unless an object is shown by what it holds, it is shown as an array, or by its fields. -/
private theorem shown_contents (tracks : Tracks [] s) (responsive : s.Responsive)
    (readable : s.machine.failingFieldReads = []) {h : HeapObject}
    (there : s.machine.object o.id = .ok h) (thread : ThreadId) (shape : Option LogicalStructure)
    (policy : FetchPolicy)
    (listed : Settles (listShaped thread o parent start count s.settings.display policy shape) s
      fun r _ => r = .ok found) : Contents s o parent start count found := by
  unfold listShaped at listed
  cases shape with
  | some shape =>
    have unanswered : Informed False [] thread s := ⟨tracks, False.elim, False.elim, False.elim⟩
    have opened : Settles (quietly (logicalScope thread) : Remote Debuggee _) s fun _ s' =>
        Surveys [] s s' := (settles_quietly _).2 (logicalScope_surveys unanswered)
    obtain ⟨scope, s₁, moved, listed⟩ := Settles.of_bind_ok listed opened
    exact (logicalChildren_contents (moved.tracks tracks) (moved.responsive responsive)
      (moved.alike.machine.failingFieldReads.trans readable) scope shape policy listed).alike
        moved.alike
  | none =>
    dsimp only at listed
    split at listed
    · refine .elements fun v mem => ?_
      obtain ⟨none, i, named⟩ := listElements_contents responsive listed v mem
      exact ⟨none, parent, i, named⟩
    · rename_i single
      obtain ⟨vs, brought, rfl⟩ := settles_return_ok.1 listed
      obtain ⟨t, loaded⟩ := loaded_of_allFields responsive brought
      have listing := (listFields_produces [] responsive there (by simp [readable]) loaded
        s.settings.display.showStaticVariables policy parent).settles Peruses.advance
      obtain rfl := Except.ok.inj (brought.symm.trans listing.2)
      exact .fields (by simpa using single) h there t loaded rfl

/-- Whatever is found in an object that is there, if the debuggee answers. -/
theorem listObject_contents (tracks : Tracks [] s) (responsive : s.Responsive)
    (readable : s.machine.failingFieldReads = []) {h : HeapObject}
    (there : s.machine.object o.id = .ok h)
    (listed : Settles (listContainer thread (.object o parent) start count s.settings.display) s
      fun r _ => r = .ok found) : Contents s o parent start count found := by
  unfold listContainer at listed
  rw [settles_bind, settles_get] at listed
  dsimp only at listed
  cases logical : s.settings.display.showLogicalStructure with
  | false =>
    rw [listObject_plain logical] at listed
    exact shown_contents tracks responsive readable there thread none _ listed
  | true =>
    rw [listObject_logical logical] at listed
    have unanswered : Informed False [] thread s := ⟨tracks, False.elim, False.elim, False.elim⟩
    have shaped : Settles (quietly (structure? o) : Remote Debuggee _) s fun _ s' =>
        Surveys [] s s' :=
      (settles_quietly _).2 (((structure?_looks o).finds.ends s unanswered).mono fun _ _ h => h.1)
    obtain ⟨shape, s₁, moved, listed⟩ := Settles.of_bind_ok listed shaped
    have same := moved.alike.machine
    have there₁ : s₁.machine.object o.id = .ok h := by
      unfold Debuggee.object at *
      rw [same.objects, there]
    rw [← moved.alike.settings] at listed
    exact (shown_contents (moved.tracks tracks) (moved.responsive responsive)
      (same.failingFieldReads.trans readable) there₁ thread shape _ listed).alike moved.alike

end DebugSession.Session
