import DebugSession.Proofs.Likeness
import DebugSession.Variable.Format
/-!
The spots in which a debuggee keeps values. To store a value in one of them changes no other, and
nothing else that can be looked at.
-/

namespace DebugSession

/-- Where a debuggee keeps a value. -/
inductive Spot where
  | slot (thread : ThreadId) (depth : Nat) (target : LocalVariable)
  | field (object : ObjectId) (declaringType name : String)
  | static (declaringType name : String)
  | element (array : ObjectId) (index : Nat)
  deriving DecidableEq, Repr

namespace Debuggee

/-- The value in a spot, unless nothing was ever put there. -/
def valueAt? (d : Debuggee) : Spot → Option Value
  | .slot thread depth target => (d.frameAt thread depth).bind fun f =>
    (Frame.value f target).toOption
  | .field object declaringType name => d.fieldValue? object declaringType name
  | .static declaringType name => d.statics.get? (declaringType, name)
  | .element array index => (d.objects.get? array).bind fun o => o.elements[index]?

/-- There is such a spot, and values can be stored in it. -/
def Holds (d : Debuggee) : Spot → Prop
  | .slot thread depth target => ∃ f, d.standing? thread depth = some f ∧
    ∃ v, Frame.value f target = .ok v
  | .field object _ _ => ∃ o, d.objects.get? object = some o
  | .static _ _ => True
  | .element array index => ∃ o, d.objects.get? array = some o ∧ index < o.elements.length

/-- The debuggee with a value in a spot, and all else as it was. -/
def store (d : Debuggee) : Spot → Value → Debuggee
  | .slot thread depth target, value =>
    match d.frameAt thread depth with
    | some f => { d with
        threads := d.threads.modify thread fun t =>
          { t with frames := t.frames.set depth (Frame.assign f target value) } }
    | none => d
  | .field object declaringType name, value =>
    match d.objects.get? object with
    | some o =>
      let fields := o.fields.insert (declaringType, name) value
      { d with objects := d.objects.insert object { o with fields } }
    | none => d
  | .static declaringType name, value =>
    { d with statics := d.statics.insert (declaringType, name) value }
  | .element array index, value =>
    match d.objects.get? array with
    | some o =>
      let elements := o.elements.set index value
      { d with objects := d.objects.insert array { o with elements } }
    | none => d

variable {d d' d'' : Debuggee} {p q : Spot} {v : Value}

/-! ## Locals -/

section

variable {f : Frame} {target l : LocalVariable}

private theorem find?_go (ls : List (LocalVariable × Value)) :
    (Frame.assign.go target v ls).find? (fun e => e.1 = l) =
      if l = target then (ls.find? fun e => e.1 = l).map fun _ => (target, v)
      else ls.find? fun e => e.1 = l := by
  induction ls with
  | nil => simp [Frame.assign.go]
  | cons e rest ih =>
    obtain ⟨l₀, v₀⟩ := e
    unfold Frame.assign.go
    by_cases first : l₀ = target
    · subst first
      by_cases asked : l = l₀
      · simp [asked]
      · simp [asked, Ne.symm asked]
    · rw [if_neg first]
      by_cases here : l₀ = l
      · subst here
        simp [first]
      · simpa [here] using ih

/-- A local that was given a value has it, and all others have theirs. -/
theorem value_assign {w : Value} (known : Frame.value f target = .ok w) (l : LocalVariable) :
    Frame.value (Frame.assign f target v) l = if l = target then .ok v else Frame.value f l := by
  have found : (Frame.assign f target v).locals.find? (fun e => e.1 = l) = _ := find?_go f.locals
  unfold Frame.value at *
  rw [found]
  by_cases same : l = target
  · subst same
    cases there : f.locals.find? fun e => e.1 = l with
    | none => rw [there] at known; cases known
    | some e => simp
  · rw [if_neg same, if_neg same]

theorem mem_of_value {w : Value} (known : Frame.value f l = .ok w) : l ∈ f.locals.map (·.1) := by
  unfold Frame.value at known
  split at known
  · rename_i first _ found
    have same : first = l := by simpa using List.find?_some found
    exact same ▸ List.mem_map_of_mem (List.mem_of_find?_eq_some found)
  · cases known

theorem map_assign (f : Frame) (target : LocalVariable) (v : Value) :
    (Frame.assign f target v).locals.map (·.1) = f.locals.map (·.1) := by
  show (Frame.assign.go target v f.locals).map (·.1) = _
  induction f.locals with
  | nil => rfl
  | cons e rest ih =>
    obtain ⟨l₀, v₀⟩ := e
    unfold Frame.assign.go
    split
    · rfl
    · rw [List.map_cons, ih]
      rfl

end

/-! ## Stored values -/

/-- What becomes of the frames of a debuggee when a value is stored in one of them. -/
theorem frameAt_store_slot {thread : ThreadId} {depth : Nat} {target : LocalVariable} {f : Frame}
    (there : d.frameAt thread depth = some f) (v : Value) (t : ThreadId) (i : Nat) :
    (d.store (.slot thread depth target) v).frameAt t i =
      if t = thread ∧ i = depth then some (Frame.assign f target v) else d.frameAt t i := by
  obtain ⟨x, known, found⟩ := Option.bind_eq_some_iff.1 there
  have inside : depth < x.frames.length := (List.getElem?_eq_some_iff.1 found).1
  simp only [store, there]
  unfold frameAt
  dsimp only
  rw [Table.get?_modify]
  by_cases here : t = thread
  · subst here
    rw [if_pos rfl, known]
    by_cases level : i = depth
    · subst level
      simp [inside]
    · simp [level, List.getElem?_set_ne (Ne.symm level)]
  · simp [here]

theorem frameAt_store (other : ∀ thread depth target, p ≠ .slot thread depth target) (v : Value)
    (t : ThreadId) (i : Nat) : (d.store p v).frameAt t i = d.frameAt t i := by
  cases p with
  | slot thread depth target => exact absurd rfl (other thread depth target)
  | static => rfl
  | field | element =>
    unfold store
    dsimp only
    split <;> rfl

private theorem valueAt?_store_slot {thread : ThreadId} {depth : Nat} {target : LocalVariable}
    (held : d.Holds (.slot thread depth target)) (v : Value) (q : Spot) :
    (d.store (.slot thread depth target) v).valueAt? q =
      if q = .slot thread depth target then some v else d.valueAt? q := by
  obtain ⟨f, stands, w, known⟩ := held
  have there := frameAt_of_standing stands
  cases q with
  | slot t i l =>
    simp only [valueAt?, frameAt_store_slot there]
    by_cases here : t = thread ∧ i = depth
    · obtain ⟨rfl, rfl⟩ := here
      rw [if_pos ⟨rfl, rfl⟩, there, Option.bind_some, Option.bind_some, value_assign known]
      by_cases same : l = target
      · subst same
        simp [Except.toOption]
      · simp [same]
    · rw [if_neg here, if_neg]
      rintro ⟨⟩
      exact here ⟨rfl, rfl⟩
  | _ => simp only [store, there, valueAt?, fieldValue?, reduceCtorEq, if_false]

private theorem valueAt?_store_field {object : ObjectId} {declaringType name : String}
    (held : d.Holds (.field object declaringType name)) (v : Value) (q : Spot) :
    (d.store (.field object declaringType name) v).valueAt? q =
      if q = .field object declaringType name then some v else d.valueAt? q := by
  obtain ⟨o, there⟩ := held
  cases q with
  | slot => simp [valueAt?, frameAt_store]
  | static => simp only [store, there, valueAt?, reduceCtorEq, if_false]
  | field object' declaringType' name' =>
    simp only [store, there, valueAt?, fieldValue?, Table.get?_insert, Spot.field.injEq]
    by_cases here : object' = object
    · subst here
      simp [there, Table.get?_insert]
    · simp [here]
  | element array index =>
    simp only [store, there, valueAt?, Table.get?_insert, reduceCtorEq, if_false]
    by_cases here : array = object
    · simp [here, there]
    · simp [here]

private theorem valueAt?_store_element {array : ObjectId} {index : Nat}
    (held : d.Holds (.element array index)) (v : Value) (q : Spot) :
    (d.store (.element array index) v).valueAt? q =
      if q = .element array index then some v else d.valueAt? q := by
  obtain ⟨o, there, inside⟩ := held
  cases q with
  | slot => simp [valueAt?, frameAt_store]
  | static => simp only [store, there, valueAt?, reduceCtorEq, if_false]
  | field object declaringType name =>
    simp only [store, there, valueAt?, fieldValue?, Table.get?_insert, reduceCtorEq, if_false]
    by_cases here : object = array
    · simp [here, there]
    · simp [here]
  | element array' index' =>
    simp only [store, there, valueAt?, Table.get?_insert, Spot.element.injEq]
    by_cases here : array' = array
    · subst here
      by_cases at_index : index' = index
      · subst at_index
        simp [inside]
      · simp [there, at_index, List.getElem?_set_ne (Ne.symm at_index)]
    · simp [here]

/-- A stored value is in its spot, and in every other spot there is what there was. -/
theorem valueAt?_store (held : d.Holds p) (v : Value) (q : Spot) :
    (d.store p v).valueAt? q = if q = p then some v else d.valueAt? q := by
  cases p with
  | slot => exact valueAt?_store_slot held v q
  | field => exact valueAt?_store_field held v q
  | element => exact valueAt?_store_element held v q
  | static declaringType name =>
    cases q with
    | static => simp [store, valueAt?, Table.get?_insert]
    | slot => simp [valueAt?, frameAt_store]
    | _ => simp only [store, valueAt?, fieldValue?, reduceCtorEq, if_false]

/-! ## Debuggees that are the same -/

theorem Same.valueAt? (h : Same d d') (p : Spot) : d'.valueAt? p = d.valueAt? p := by
  unfold Debuggee.valueAt? fieldValue?
  simp only [h.frameAt, h.objects, h.statics]

theorem Same.holds (h : Same d d') (p : Spot) : d'.Holds p ↔ d.Holds p := by
  unfold Holds
  simp only [h.standing, h.objects]

theorem Same.store (h : Same d d') (p : Spot) (v : Value) :
    Same (d.store p v) (d'.store p v) := by
  cases p with
  | slot thread depth target =>
    unfold Debuggee.store
    dsimp only
    rw [h.frameAt]
    cases d.frameAt thread depth with
    | none => exact h
    | some f =>
      refine { h with threads := fun t => ?_ }
      dsimp only
      rw [Table.get?_modify, Table.get?_modify]
      by_cases here : t = thread
      · have same := h.threads t
        rw [if_pos here, if_pos here, Option.map_map, Option.map_map]
        have apart : VmThread.paused ∘ (fun t : VmThread =>
            { t with frames := t.frames.set depth (Frame.assign f target v) }) =
              (fun t : VmThread =>
                { t with frames := t.frames.set depth (Frame.assign f target v) }) ∘
                  VmThread.paused := rfl
        rw [apart, ← Option.map_map, ← Option.map_map, same]
      · rw [if_neg here, if_neg here]
        exact h.threads t
  | static declaringType name =>
    exact { h with statics := by simp only [Debuggee.store, h.statics] }
  | field object declaringType name =>
    unfold Debuggee.store
    dsimp only
    rw [h.objects]
    cases d.objects.get? object with
    | none => exact h
    | some o => exact { h with objects := rfl }
  | element array index =>
    unfold Debuggee.store
    dsimp only
    rw [h.objects]
    cases d.objects.get? array with
    | none => exact h
    | some o => exact { h with objects := rfl }

/-! ## Calls that store -/

theorem checkAssignable_of_fits {signature : String} (fits : v.fits signature = true) :
    checkAssignable signature v = .ok () := by
  unfold checkAssignable
  rw [if_pos fits]

theorem setLocalValue_store {id : FrameId} {h : FrameHandle} {f : Frame} {target : LocalVariable}
    {w : Value} (found : d.frameHandles.get? id = some h) (good : d.frame id = .ok f)
    (known : Frame.value f target = .ok w) (fits : v.fits target.signature = true) :
    d.setLocalValue id target v = (.ok (), d.store (.slot h.thread h.depth target) v) := by
  have handled : d.handle id = .ok h := by
    unfold handle
    rw [found]
  have there : d.frameAt h.thread h.depth = some f := by
    rcases frame_of_handle found with ⟨g, ok, stands⟩ | ⟨e, bad, -⟩
    · obtain rfl := Except.ok.inj (good.symm.trans ok)
      exact frameAt_of_standing stands
    · cases good.symm.trans bad
  simp only [setLocalValue, checkAssignable_of_fits fits, good, handled, known, store, there, bind,
    Except.bind]
  rfl

end Debuggee

/-- Where a field is kept: with an object, or with the class that declares it. -/
def Field.spot (f : Field) : Option ObjectId → Spot
  | some id => .field id f.declaringType f.name
  | none => .static f.declaringType f.name

theorem Field.spot_ne_slot (f : Field) (target : Option ObjectId) {thread : ThreadId} {depth : Nat}
    {l : LocalVariable} : f.spot target ≠ .slot thread depth l := by
  cases target <;> exact Spot.noConfusion

theorem Field.eq_of_spot {f g : Field} {target other : Option ObjectId}
    (same : f.spot target = g.spot other) :
    f.declaringType = g.declaringType ∧ f.name = g.name := by
  cases target <;> cases other
  · exact Spot.static.inj same
  · cases same
  · cases same
  · exact (Spot.field.inj same).2

theorem Debuggee.setFieldValue_store {d : Debuggee} {target : Option ObjectId} {f : Field}
    {v : Value} (held : d.Holds (f.spot target)) (fits : v.fits f.signature = true) :
    d.setFieldValue target f v = (.ok (), d.store (f.spot target) v) := by
  unfold setFieldValue
  rw [checkAssignable_of_fits fits]
  cases target with
  | none => rfl
  | some id =>
    obtain ⟨o, there⟩ := held
    simp only [Field.spot, store, object, there]

/-! ## Debuggees that differ in values -/

/-- A frame regardless of the values of its locals. -/
def Frame.outline (f : Frame) : Frame := { f with locals := f.locals.map fun e => (e.1, .null) }

theorem Frame.outline_assign (f : Frame) (target : LocalVariable) (v : Value) :
    (Debuggee.Frame.assign f target v).outline = f.outline := by
  have same := congrArg (List.map fun l => (l, Value.null)) (Debuggee.map_assign f target v)
  rw [List.map_map, List.map_map] at same
  exact congrArg (fun locals => { f with locals }) same

theorem Frame.locals_of_outline {f f' : Frame} (h : f'.outline = f.outline) :
    f'.locals.map (·.1) = f.locals.map (·.1) := by
  have same := congrArg (List.map Prod.fst) (congrArg Frame.locals h)
  unfold Frame.outline at same
  rwa [List.map_map, List.map_map] at same

namespace Debuggee

/-- The classes, the objects and the frames that stand are the same, but for the values in them. -/
structure Outlines (d d' : Debuggee) : Prop where
  types : d'.types = d.types
  failingFieldReads : d'.failingFieldReads = d.failingFieldReads
  latency : d'.latency = d.latency
  disconnected : d'.disconnected = d.disconnected
  objects : ∀ id, (d'.objects.get? id).isSome = (d.objects.get? id).isSome
  standing : ∀ thread depth, (d'.standing? thread depth).map Frame.outline =
    (d.standing? thread depth).map Frame.outline

variable {d d' d'' : Debuggee}

theorem Outlines.trans (h : Outlines d d') (h' : Outlines d' d'') : Outlines d d'' where
  types := h'.types.trans h.types
  failingFieldReads := h'.failingFieldReads.trans h.failingFieldReads
  latency := h'.latency.trans h.latency
  disconnected := h'.disconnected.trans h.disconnected
  objects id := (h'.objects id).trans (h.objects id)
  standing thread depth := (h'.standing thread depth).trans (h.standing thread depth)

theorem Same.outlines (h : Same d d') : Outlines d d' where
  types := h.types
  failingFieldReads := h.failingFieldReads
  latency := h.latency
  disconnected := h.disconnected
  objects id := by rw [h.objects]
  standing thread depth := by rw [h.standing]

private theorem standing_store_slot {thread : ThreadId} {depth : Nat} (target : LocalVariable)
    {f : Frame} (there : d.frameAt thread depth = some f) (v : Value) (t : ThreadId) (i : Nat) :
    ((d.store (.slot thread depth target) v).standing? t i).map Frame.outline =
      (d.standing? t i).map Frame.outline := by
  obtain ⟨x, known, found⟩ := Option.bind_eq_some_iff.1 there
  have inside : depth < x.frames.length := (List.getElem?_eq_some_iff.1 found).1
  have first : x.frames[depth] = f := (List.getElem?_eq_some_iff.1 found).2
  simp only [store, there]
  unfold standing?
  dsimp only
  rw [Table.get?_modify]
  by_cases here : t = thread
  · subst here
    rw [if_pos rfl, known]
    by_cases level : i = depth
    · subst level
      cases x.alive && x.suspended <;> simp [inside, first, Frame.outline_assign]
    · simp [List.getElem?_set_ne (Ne.symm level)]
  · rw [if_neg here]

theorem outlines_store (d : Debuggee) (p : Spot) (v : Value) : Outlines d (d.store p v) := by
  cases p with
  | slot thread depth target =>
    cases there : d.frameAt thread depth with
    | none =>
      have same : d.store (.slot thread depth target) v = d := by simp only [store, there]
      rw [same]
      exact (Same.refl d).outlines
    | some f =>
      have standing := standing_store_slot target there v
      simp only [store, there] at standing ⊢
      exact ⟨rfl, rfl, rfl, rfl, fun _ => rfl, standing⟩
  | static declaringType name => exact ⟨rfl, rfl, rfl, rfl, fun _ => rfl, fun _ _ => rfl⟩
  | field | element =>
    unfold store
    dsimp only
    split
    · rename_i o there
      refine ⟨rfl, rfl, rfl, rfl, fun id => ?_, fun _ _ => rfl⟩
      dsimp only
      rw [Table.get?_insert]
      split
      · rename_i here
        rw [here, there]
        rfl
      · rfl
    · exact (Same.refl d).outlines

end Debuggee

/-! ## Values that are typed -/

namespace Value

variable {text signature : String} {cs : List Char} {v : Value}

private theorem fits_readPrimitive (read : readPrimitive signature cs = some v) :
    v.fits signature = true ∧ v.asObject? = none := by
  unfold readPrimitive at read
  split at read
  all_goals first
    | cases read
    | obtain ⟨w, -, rfl⟩ := Option.map_eq_some_iff.1 read
      exact ⟨rfl, rfl⟩

/-- A value that was typed for a variable fits it, and is no object. -/
theorem fits_parse (read : parse text signature = .ok v) :
    v.fits signature = true ∧ v.asObject? = none := by
  unfold parse at read
  dsimp only at read
  split at read
  · split at read
    · rename_i found
      obtain rfl := Except.ok.inj read
      exact fits_readPrimitive found
    · cases read
  · rename_i plain
    split at read
    · obtain rfl := Except.ok.inj read
      exact ⟨by simpa [fits] using plain, rfl⟩
    · cases read

end Value
end DebugSession
