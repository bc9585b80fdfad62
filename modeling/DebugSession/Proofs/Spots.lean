import DebugSession.Proofs.Storage
import DebugSession.Variable.Container
/-!
The spots of variables that were listed. Variables under their own names that share a spot are under
the same name when names are resolved, which depends on no value.
-/

namespace DebugSession

/-! ## The spots of variables -/

/-- The declared type of a variable that can be given a value, which is a local or a field. -/
def Variable.signature? (v : Variable) : Option String :=
  match v.slot, v.field with
  | some l, _ => some l.signature
  | none, some f => some f.signature
  | none, none => none

namespace Container

variable {c : Container} {d : Debuggee} {v w : Variable} {p : Spot}

/-- The object with which a field is kept that was listed here. -/
def target? (c : Container) (f : Field) : Option ObjectId :=
  match c with
  | .object o _ => if f.isStatic then none else some o.id
  | _ => none

/-- Where the value of a variable is kept that was listed here. -/
def spot? (c : Container) (v : Variable) : Option Spot :=
  match v.slot, v.field with
  | some l, _ => c.proxy?.map fun p => .slot p.thread p.depth l
  | none, some f => some (f.spot (c.target? f))
  | none, none => none

/-- A variable that was listed here with the value that is in its spot. -/
def refreshed (c : Container) (d : Debuggee) (v : Variable) : Variable :=
  match c.spot? v, v.signature? with
  | some p, some signature => { v with value := (d.valueAt? p).getD (Value.default signature) }
  | _, _ => v

@[simp] theorem refreshed_name (c : Container) (d : Debuggee) (v : Variable) :
    (c.refreshed d v).name = v.name := by
  unfold refreshed
  split <;> rfl

@[simp] theorem refreshed_declaringType (c : Container) (d : Debuggee) (v : Variable) :
    (c.refreshed d v).declaringType = v.declaringType := by
  unfold refreshed
  split <;> rfl

theorem refreshed_rename (c : Container) (d : Debuggee) (v : Variable) (name : String) :
    c.refreshed d { v with name } = { c.refreshed d v with name } := by
  show (match c.spot? v, v.signature? with
    | some p, some signature =>
      { v with name, value := (d.valueAt? p).getD (Value.default signature) }
    | _, _ => { v with name }) = _
  unfold refreshed
  split <;> rfl

theorem spot?_of_fixed (fixed : v.signature? = none) (c : Container) : c.spot? v = none := by
  unfold Variable.signature? at fixed
  unfold spot?
  split at fixed
  · cases fixed
  · cases fixed
  · rfl

theorem refreshed_of_fixed (fixed : v.signature? = none) (c : Container) (d : Debuggee) :
    c.refreshed d v = v := by
  unfold refreshed
  rw [spot?_of_fixed fixed]

theorem exists_signature (h : c.spot? v = some p) : ∃ signature, v.signature? = some signature := by
  cases found : v.signature? with
  | some signature => exact ⟨signature, rfl⟩
  | none => cases h.symm.trans (spot?_of_fixed found c)

theorem refreshed_of_spot {signature : String} (h : c.spot? v = some p)
    (typed : v.signature? = some signature) (d : Debuggee) :
    c.refreshed d v = { v with value := (d.valueAt? p).getD (Value.default signature) } := by
  unfold refreshed
  rw [h, typed]

theorem refreshed_congr {d' : Debuggee}
    (same : ∀ p, c.spot? v = some p → d'.valueAt? p = d.valueAt? p) :
    c.refreshed d' v = c.refreshed d v := by
  unfold refreshed
  split
  · rename_i p signature spot typed
    rw [same p spot]
  · rfl

end Container

namespace Variable

variable {v w : Variable}

/-- A local or a field under its own name. -/
inductive Plain (v : Variable) : Prop
  | slot (l : LocalVariable) (held : v.slot = some l) (none : v.field = none)
      (name : v.name = l.name) (type : v.declaredType = Signature.typeName l.signature)
  | field (f : Field) (none : v.slot = none) (held : v.field = some f) (name : v.name = f.name)

theorem plain_ofLocal (l : LocalVariable) (value : Value) : (ofLocal l value).Plain :=
  .slot l rfl rfl rfl rfl

theorem plain_ofField (f : Field) (value : Value) (parent : Option String) :
    (ofField f value parent).Plain :=
  .field f rfl rfl rfl

/-- Variables that are kept in one spot have the same name, and the same type declares them. -/
theorem Plain.same_of_spot {c : Container} {p : Spot} (hv : v.Plain) (hw : w.Plain)
    (h : c.spot? v = some p) (h' : c.spot? w = some p) :
    v.name = w.name ∧ v.declaringType = w.declaringType := by
  unfold Container.spot? at h h'
  cases hv with
  | slot l held none name type =>
    rw [held] at h
    obtain ⟨q, -, rfl⟩ := Option.map_eq_some_iff.1 h
    cases hw with
    | slot l' held' none' name' type' =>
      rw [held'] at h'
      obtain ⟨q', -, same⟩ := Option.map_eq_some_iff.1 h'
      obtain ⟨-, -, rfl⟩ := Spot.slot.inj same
      unfold declaringType
      rw [none, none', name, name', type, type']
      exact ⟨rfl, rfl⟩
    | field g none' held' name' =>
      rw [none', held'] at h'
      exact absurd (Option.some.inj h') (g.spot_ne_slot _)
  | field f none held name =>
    rw [none, held] at h
    obtain rfl := Option.some.inj h
    cases hw with
    | slot l' held' none' name' type' =>
      rw [held'] at h'
      obtain ⟨q', -, same⟩ := Option.map_eq_some_iff.1 h'
      exact absurd same.symm (f.spot_ne_slot _)
    | field g none' held' name' =>
      rw [none', held'] at h'
      obtain ⟨declared, named⟩ := Field.eq_of_spot (Option.some.inj h')
      unfold declaringType
      rw [held, held', name, name', named]
      exact ⟨rfl, declared.symm⟩

/-! ## Names -/

theorem nameAmong_congr (vs : List Variable) (name : v.name = w.name)
    (declared : v.declaringType = w.declaringType) : nameAmong vs v = nameAmong vs w := by
  unfold nameAmong
  rw [name, declared]

/-- What changes neither names nor declaring types does not change what names are resolved to. -/
theorem resolveNames_map {g : Variable → Variable} (name : ∀ v, (g v).name = v.name)
    (declared : ∀ v, (g v).declaringType = v.declaringType)
    (rename : ∀ (v : Variable) n, g { v with name := n } = { g v with name := n })
    (vs : List Variable) : resolveNames (vs.map g) = (resolveNames vs).map g := by
  have among : ∀ v, nameAmong (vs.map g) (g v) = nameAmong vs v := by
    intro v
    unfold nameAmong
    simp only [name, declared, List.filter_map, List.length_map, Function.comp_def]
  unfold resolveNames
  rw [List.map_map, List.map_map]
  refine List.map_congr_left fun v _ => ?_
  show { g v with name := nameAmong (vs.map g) (g v) } = g { v with name := nameAmong vs v }
  rw [among]
  exact (rename v _).symm

theorem resolveNames_refreshed (c : Container) (d : Debuggee) (vs : List Variable) :
    resolveNames (vs.map (c.refreshed d)) = (resolveNames vs).map (c.refreshed d) :=
  resolveNames_map (c.refreshed_name d) (c.refreshed_declaringType d) (c.refreshed_rename d) vs

end Variable

end DebugSession
