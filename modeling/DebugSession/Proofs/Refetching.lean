import DebugSession.Proofs.FieldNames
import DebugSession.Proofs.Scopes
/-!
Expressions that are shown with variables, for their values to be had again. Such an expression is
made of names only, so it brings the value of the first variable or the foremost field of a name,
which need not be the one that was shown.
-/

namespace DebugSession.Session

variable {p : FrameProxy} {f : Frame} {s t : Session Debuggee} {d : Debuggee}

/-! ## Scopes -/

/-- What is shown of a frame: `this`, a variable, or what there is no expression for. -/
inductive InScope (f : Frame) (v : Variable) : Prop
  | unnamed (none : v.evaluateName = none)
  | this (o : ObjectRef) (self : f.this = some o) (none : v.slot = none)
      (named : v.evaluateName = some "this") (value : v.value = .object o)
  | slot (l : LocalVariable) (held : v.slot = some l) (named : v.evaluateName = some l.name)
      (visible : (f.native || f.absentInformation) = false)
      (value : Debuggee.Frame.value f l = .ok v.value)

private theorem inScope_of_mem {v : Variable} (mem : v ∈ s.scopeOf p f) : InScope f v := by
  rcases List.mem_append.1 mem with front | mem
  · rcases List.mem_append.1 front with result | self
    · rw [Option.mem_toList] at result
      split at result
      · obtain ⟨returned, -, rfl⟩ := Option.map_eq_some_iff.1 result
        exact .unnamed rfl
      · cases result
    · obtain ⟨o, same, rfl⟩ := Option.map_eq_some_iff.1 (Option.mem_toList.1 self)
      exact .this o same rfl rfl rfl
  · unfold Frame.variables at mem
    split at mem
    · cases mem
    · rename_i code
      split at mem
      · obtain ⟨i, -, rfl⟩ := List.mem_mapIdx.1 mem
        exact .unnamed rfl
      · rename_i informed
        obtain ⟨w, there, rfl⟩ := mem_resolveNames mem
        obtain ⟨e, listed, rfl⟩ := List.mem_map.1 there
        refine .slot e.1 rfl rfl (by simp [code, informed]) ?_
        exact value_of_mem (List.mem_map_of_mem listed)

theorem listScope_inScope (h : Facing p f s) (policy : FetchPolicy) :
    Produces (Peruses [p]) (listScope p policy) s fun r _ =>
      ∀ found, r = .ok found → ∀ v ∈ found, InScope f v := by
  refine (listScope_produces h policy).mono ?_
  rintro r s' rfl found same v mem
  obtain rfl := Except.ok.inj same
  exact inScope_of_mem mem

/-! ## Chains of objects -/

/-- A session that is looked at: it can be reached, gets its answers from a debuggee in a given
state, and its client has a reference that has to do with the frame of a proxy. -/
structure Inspects (p : FrameProxy) (d : Debuggee) (t : Session Debuggee) : Prop where
  faithful : t.Faithful
  shown : ∃ reference e, t.resolve? reference = some e ∧ e.object.proxy? = some p
  responsive : t.Responsive
  same : Debuggee.Same d t.machine

theorem Inspects.facing (h : Inspects p d t) (readable : d.failingFieldReads = [])
    (stands : d.standing? p.thread p.depth = some f) : Facing p f t where
  tracks := by
    obtain ⟨reference, e, resolved, about⟩ := h.shown
    obtain ⟨handle, -, there⟩ := Option.bind_eq_some_iff.1 resolved
    exact h.faithful.tracks.shown there about
  responsive := h.responsive
  readable := h.same.failingFieldReads.trans readable
  stands := (h.same.standing _ _).trans stands

/-- Variables that were reached from the scope of a frame, through one object after the other: the
last one comes first. -/
inductive Reached (p : FrameProxy) (d : Debuggee) : List Variable → Prop
  | scope {t : Session Debuggee} {thread : ThreadId} {start : Nat} {count : Option Nat}
      {found : List Variable} {v : Variable} (inspects : Inspects p d t)
      (listed : Settles (listContainer thread (.locals p) start count t.settings.display) t
        fun r _ => r = .ok found) (mem : v ∈ found) : Reached p d [v]
  | inside {t : Session Debuggee} {thread : ThreadId} {start : Nat} {count : Option Nat}
      {found : List Variable} {v u : Variable} {way : List Variable} {o : ObjectRef}
      {h : HeapObject} (reached : Reached p d (u :: way)) (opened : u.value = .object o)
      (there : d.object o.id = .ok h) (inspects : Inspects p d t)
      (listed : Settles (listContainer thread (.object o u.evaluateName) start count
        t.settings.display) t fun r _ => r = .ok found) (mem : v ∈ found) :
      Reached p d (v :: u :: way)

/-- Where a variable was found, none of the same name comes before it; and it has been found through
one for which there is an expression. -/
def Foremost (d : Debuggee) (f : Frame) (v : Variable) : List Variable → Prop
  | [] => ∀ l, v.slot = some l → l.name ≠ "this" ∧ Text.Simple l.name ∧
      (f.locals.map (·.1)).find? (fun l' => l'.name = l.name) = some l
  | u :: _ =>
    (∀ parent name, u.evaluateName = some parent →
      v.evaluateName = some (parent ++ "." ++ name) → Text.Simple name) ∧
    ∀ g, v.field = some g → g.isStatic = false ∧ u.evaluateName.isSome ∧
      ∀ o, u.value = .object o →
        (d.fieldsOf o.typeName).find? (fun g' => g'.name = g.name) = some g

/-- On the way to a variable, each is the foremost of its name, unless its expression stands for
nothing. -/
def Straight (d : Debuggee) (f : Frame) : List Variable → Prop
  | [] => True
  | v :: way =>
    (Foremost d f v way ∨ ∀ e, v.evaluateName = some e → d.denoted? f e = none) ∧
      Straight d f way

private theorem InScope.denoted {v : Variable} (h : InScope f v) (foremost : Foremost d f v [])
    {e : String} (named : v.evaluateName = some e) {w : Value}
    (stands : d.denoted? f e = some w) : w = v.value := by
  cases h with
  | unnamed none => exact nomatch none.symm.trans named
  | this o self _ named' value =>
    obtain rfl := Option.some.inj (named'.symm.trans named)
    have known := Debuggee.denoted?_name (by decide) stands
    unfold Debuggee.named? at known
    rw [if_pos rfl, self] at known
    exact (Option.some.inj known).symm.trans value.symm
  | slot l held named' visible value =>
    obtain rfl := Option.some.inj (named'.symm.trans named)
    obtain ⟨other, simple, first⟩ := foremost l held
    have known := Debuggee.denoted?_name simple stands
    rw [List.find?_map] at first
    obtain ⟨⟨l', w'⟩, found, rfl⟩ := Option.map_eq_some_iff.1 first
    have own : w' = v.value := Except.ok.inj ((value_of_named found).symm.trans value)
    have shown : f.valueOf? l'.name = some w' := by
      unfold Frame.valueOf?
      rw [visible, if_neg Bool.false_ne_true]
      exact congrArg (Option.map _) found
    unfold Debuggee.named? at known
    rw [if_neg other, shown] at known
    exact (Option.some.inj known).symm.trans own

/-- An expression that ends in a bracket stands for nothing. -/
private theorem denoted?_bracketed (body : String) {close : String}
    (bracket : close = "]" ∨ close = "()") : d.denoted? f (body ++ close) = none := by
  have mem : ∀ {c}, c ∈ close.toList → c ∈ (body ++ close).toList := fun there => by
    rw [String.toList_append]
    exact List.mem_append_right _ there
  rcases bracket with rfl | rfl
  · exact Debuggee.denoted?_of_mem (c := ']') (mem (by decide)) (by decide) (by decide)
      (by decide +kernel)
  · exact Debuggee.denoted?_of_mem (c := ')') (mem (by decide)) (by decide) (by decide)
      (by decide +kernel)

/-- Behind the expression for an object, the name of a field stands for what is read by it. -/
private theorem denoted?_field {u : Variable} {o : ObjectRef} (opened : u.value = .object o)
    {parent name : String} (simple : Text.Simple name)
    (own : ∀ w, d.denoted? f parent = some w → w = u.value) {w : Value}
    (stands : d.denoted? f (parent ++ "." ++ name) = some w) : d.fieldOf? o name = some w := by
  obtain ⟨value, before, last⟩ := Debuggee.denoted?_path simple stands
  obtain rfl := (own value before).trans opened
  rwa [Debuggee.member?_object o (Debuggee.isIdentifier_of_member? last)] at last

/-- What is found in an object for which there is an expression. -/
private theorem Contents.denoted {u v : Variable} {way : List Variable} {o : ObjectRef}
    {start : Nat} {count : Option Nat} {found : List Variable} (opened : u.value = .object o)
    (h : Contents t o u.evaluateName start count found) (same : Debuggee.Same d t.machine)
    (mem : v ∈ found) (foremost : Foremost d f v (u :: way))
    (own : ∀ e, u.evaluateName = some e → ∀ w, d.denoted? f e = some w → w = u.value)
    {e : String} (named : v.evaluateName = some e) {w : Value}
    (stands : d.denoted? f e = some w) : w = v.value := by
  obtain ⟨simple, first⟩ := foremost
  cases h with
  | elements each =>
    obtain ⟨-, q, i, expression⟩ := each v mem
    obtain ⟨q', -, rfl⟩ := Option.map_eq_some_iff.1 (expression.symm.trans named)
    exact nomatch (denoted?_bracketed _ (.inl rfl)).symm.trans stands
  | properties each =>
    obtain ⟨-, expression, parted, field⟩ := each v mem
    obtain ⟨parent, above, spelled⟩ := Option.bind_eq_some_iff.1 (parted.symm.trans named)
    cases expression with
    | field name =>
      obtain rfl := Option.some.inj spelled
      have read := denoted?_field opened (simple parent name above named) (own parent above) stands
      rw [← same.fieldOf?, field name rfl] at read
      exact (Option.some.inj read).symm
    | method call arguments =>
      cases arguments with
      | nil =>
        obtain rfl := Option.some.inj spelled
        exact nomatch (denoted?_bracketed _ (.inr rfl)).symm.trans stands
      | cons _ _ => cases spelled
    | snippet code => cases spelled
  | fields single h there type loaded listed =>
    subst listed
    obtain ⟨x, listed, rfl⟩ := mem_resolveNames (mem_of_mem_window mem)
    rcases List.mem_append.1 listed with listed | listed
    · obtain ⟨g, -, rfl⟩ := List.mem_map.1 listed
      obtain ⟨plain, above, first⟩ := first g rfl
      obtain ⟨parent, above⟩ := Option.isSome_iff_exists.1 above
      rw [above] at simple named own
      obtain rfl := Option.some.inj named
      have read := denoted?_field opened (simple parent g.name rfl rfl) (own parent rfl) stands
      rw [← same.fieldOf?, Debuggee.fieldOf?_foremost single there plain ?_] at read
      · exact (Option.some.inj read).symm
      · rw [same.fieldsOf]
        exact first o opened
    · -- Static fields have their class in front of them, not the object.
      split at listed
      · obtain ⟨g, shared, rfl⟩ := List.mem_map.1 listed
        exact nomatch (first g rfl).1.symm.trans (List.mem_filter.1 shared).2
      · cases listed

theorem Reached.denoted {chain : List Variable} (reached : Reached p d chain)
    (readable : d.failingFieldReads = []) (stands : d.standing? p.thread p.depth = some f)
    (straight : Straight d f chain) : ∀ v ∈ chain.head?, ∀ e, v.evaluateName = some e →
      ∀ w, d.denoted? f e = some w → w = v.value := by
  induction reached with
  | @scope t thread start count found v inspects listed mem =>
    rintro _ ⟨⟩ e named w brought
    rcases straight.1 with foremost | nothing
    · have facing := inspects.facing readable stands
      unfold listContainer at listed
      rw [settles_bind, settles_get] at listed
      obtain ⟨vs, scope, rfl⟩ := settles_return_ok.1 listed
      have each := ((listScope_inScope facing t.fetchPolicy).settles Peruses.advance).2 vs scope
      exact (each v (mem_of_mem_window mem)).denoted foremost named brought
    · exact nomatch (nothing e named).symm.trans brought
  | @inside t thread start count found v u way o h reached opened there inspects listed mem ih =>
    rintro _ ⟨⟩ e named w brought
    rcases straight.1 with foremost | nothing
    · have facing := inspects.facing readable stands
      have there' : t.machine.object o.id = .ok h := by
        unfold Debuggee.object at *
        rw [inspects.same.objects, there]
      have contents := listObject_contents inspects.faithful.tracks inspects.responsive
        facing.readable there' listed
      exact contents.denoted opened inspects.same mem foremost
        (ih straight.2 u rfl) named brought
    · exact nomatch (nothing e named).symm.trans brought

/-- What an expression brings is what it stands for. -/
private theorem denoted?_of_evaluated (readable : d.failingFieldReads = [])
    (stands : d.standing? p.thread p.depth = some f) (inspects : Inspects p d t) {e : String}
    {w : Value}
    (evaluated : (Task.run advance (Evaluator.names.evaluate p e).run t).1 = .ok w) :
    d.denoted? f e = some w := by
  have adapted : Settles (Evaluator.names.evaluate p e) t fun r _ =>
      r.toOption = t.machine.denoted? f e := by
    unfold Evaluator.evaluate
    rw [settles_adapt]
    refine (evaluateNames_settles (inspects.facing readable stands) e).mono fun r _ same => ?_
    rw [← same]
    cases r <;> rfl
  unfold Settles Task.Ends at adapted
  rw [evaluated, inspects.same.denoted?] at adapted
  exact adapted.symm

/-- Behind the expression for an object, a name brings the foremost field of that name, whichever
field of that name was shown. -/
theorem evaluate_foremost (stands : d.standing? p.thread p.depth = some f)
    (readable : d.failingFieldReads = []) {u : Variable} {way : List Variable}
    (reached : Reached p d (u :: way)) (straight : Straight d f (u :: way)) {o : ObjectRef}
    (opened : u.value = .object o) {parent name : String} (named : u.evaluateName = some parent)
    (simple : Text.Simple name) (inspects : Inspects p d t) {w : Value}
    (evaluated : (Task.run advance
      (Evaluator.names.evaluate p (parent ++ "." ++ name)).run t).1 = .ok w) :
    d.fieldOf? o name = some w :=
  denoted?_field opened simple (reached.denoted readable stands straight u rfl parent named)
    (denoted?_of_evaluated readable stands inspects evaluated)

/-- The expression that is shown with a variable brings the value of that variable if it brings
any, whatever objects were opened on the way and in whatever order: as long as all variables on the
way are the foremost of their names, or have expressions that stand for nothing. -/
theorem evaluate_refetches (stands : d.standing? p.thread p.depth = some f)
    (readable : d.failingFieldReads = []) {v : Variable} {way : List Variable}
    (reached : Reached p d (v :: way)) (straight : Straight d f (v :: way)) {e : String}
    (named : v.evaluateName = some e) (inspects : Inspects p d t) {w : Value}
    (evaluated : (Task.run advance (Evaluator.names.evaluate p e).run t).1 = .ok w) :
    w = v.value :=
  reached.denoted readable stands straight v rfl e named w
    (denoted?_of_evaluated readable stands inspects evaluated)

/-- A proxy of the frame whose variables the client has seen. -/
def outermost : FrameProxy := ⟨⟨⟨1, 1⟩, 0⟩, 0⟩

/-- The object of which the client has seen the fields. -/
def derivedVariable : Variable :=
  Variable.ofLocal ⟨"o", "Lcom/example/Derived;", false, 0⟩ (.object derivedObject)

private theorem inspects_derived (isStatic : Bool) :
    Inspects outermost (openedSession (derived isStatic)).machine
      (openedSession (derived isStatic)) := by
  have resolved : (((openedSession (derived isStatic)).resolve? 2).bind fun e =>
      e.object.proxy?).map (fun q => (q.key, q.cell)) = some (outermost.key, outermost.cell) := by
    cases isStatic <;> decide +kernel
  obtain ⟨⟨key, cell⟩, about, same⟩ := Option.map_eq_some_iff.1 resolved
  obtain ⟨rfl, rfl⟩ := Prod.mk.inj same
  obtain ⟨e, there, about⟩ := Option.bind_eq_some_iff.1 about
  refine ⟨openedSession_derived_faithful isStatic, ⟨2, e, there, about⟩, ?_, .refl _⟩
  cases isStatic <;> decide +kernel

/-- The fields that are listed behind the variable are reached. -/
private theorem reached_derived {isStatic : Bool} {found : List Variable}
    (listed : (Task.run advance (listContainer 1 (.object derivedObject (some "o")) 0 none
      (openedSession (derived isStatic)).settings.display).run
        (openedSession (derived isStatic))).1 = .ok found) {v : Variable} (mem : v ∈ found) :
    Reached outermost (openedSession (derived isStatic)).machine [v, derivedVariable] := by
  have scope : (Task.run advance (listContainer 1 (.locals outermost) 0 none
      (openedSession (derived isStatic)).settings.display).run
        (openedSession (derived isStatic))).1 = .ok [derivedVariable] := by
    cases isStatic <;> decide +kernel
  have known : ((openedSession (derived isStatic)).machine.object 10).isOk = true := by
    cases isStatic <;> decide +kernel
  have inspects := inspects_derived isStatic
  have reached := Reached.scope inspects scope List.mem_cons_self
  cases there : (openedSession (derived isStatic)).machine.object 10 with
  | error e => rw [there] at known; cases known
  | ok h => exact .inside reached rfl there inspects listed mem

/-- The foremost of two fields of the same name is had again. -/
theorem evaluate_refetches_derived : ∃ v : Variable,
    Reached outermost (openedSession (derived false)).machine [v, derivedVariable] ∧
      v.name = "x (Derived)" ∧ v.evaluateName = some "o.x" ∧
      (Task.run advance (Evaluator.names.evaluate outermost "o.x").run
        (openedSession (derived false))).1 = .ok (.int 8) ∧ .int 8 = v.value := by
  have listed : (Task.run advance (listContainer 1 (.object derivedObject (some "o")) 0 none
      (openedSession (derived false)).settings.display).run (openedSession (derived false))).1 =
        .ok [
          { Variable.ofField (derivedField false) (.int 8) (some "o") with name := "x (Derived)" },
          { Variable.ofField baseField (.int 7) (some "o") with name := "x (Base)" }] := by
    decide +kernel
  have reached := reached_derived listed List.mem_cons_self
  have evaluated : (Task.run advance (Evaluator.names.evaluate outermost "o.x").run
      (openedSession (derived false))).1 = .ok (.int 8) := by decide +kernel
  refine ⟨_, reached, rfl, rfl, evaluated, ?_⟩
  have frames : ((openedSession (derived false)).machine.standing? 1 0).map Frame.locals =
      some [(⟨"o", "Lcom/example/Derived;", false, 0⟩, .object derivedObject)] := by decide +kernel
  obtain ⟨f, stands, locals'⟩ := Option.map_eq_some_iff.1 frames
  refine evaluate_refetches (p := outermost) stands (by decide +kernel) reached
    ⟨.inl ?_, .inl ?_, trivial⟩ rfl (inspects_derived false) evaluated
  · refine ⟨?_, ?_⟩
    · rintro parent name ⟨⟩ same
      have spelled : "x" = name := (String.append_right_inj _).1 (Option.some.inj same)
      rw [← spelled]
      decide
    · rintro g ⟨⟩
      refine ⟨rfl, rfl, ?_⟩
      rintro o ⟨⟩
      decide +kernel
  · rintro l ⟨⟩
    rw [locals']
    decide

/-- The field of the superclass is shown, but the static field of the subclass is had. -/
theorem hidden_field_missed : ∃ v : Variable,
    Reached outermost (openedSession (derived true)).machine [v, derivedVariable] ∧
      v.evaluateName = some "o.x" ∧ v.value = .int 7 ∧
      (Task.run advance (Evaluator.names.evaluate outermost "o.x").run
        (openedSession (derived true))).1 = .ok (.int 0) := by
  have listed : (Task.run advance (listContainer 1 (.object derivedObject (some "o")) 0 none
      (openedSession (derived true)).settings.display).run (openedSession (derived true))).1 =
        .ok [Variable.ofField baseField (.int 7) (some "o")] := by decide +kernel
  exact ⟨_, reached_derived listed List.mem_cons_self, rfl, rfl, by decide +kernel⟩

end DebugSession.Session
