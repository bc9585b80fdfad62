import DebugSession.Proofs.Fields
import Mathlib.Data.List.Chain
import Mathlib.Logic.ExistsUnique
/-!
The classes from that of an object on up, and the fields that are listed along them. The way up may
lead back into itself, or to a class that is not loaded; it ends there. Each field of each class
that was passed is listed once, also if a subclass has one of that name.
-/

namespace DebugSession

namespace ReferenceType

variable {types : Table String ReferenceType} {first last next : String}
  {names names' known : List String} {t : ReferenceType}

/-! ## The way up -/

/-- The superclass of a class that is loaded. -/
def superOf (types : Table String ReferenceType) (name : String) : Option String :=
  (types.get? name).bind ReferenceType.superclass

/-- The fields that a class declares itself, if it is loaded. -/
def declared (types : Table String ReferenceType) (name : String) : List Field :=
  ((types.get? name).map ReferenceType.fields).getD []

/-- Loaded classes, each of them the superclass of the one before it, and none of them twice. -/
structure Climb (types : Table String ReferenceType) (first : String) (names : List String) :
    Prop where
  begins : names.head? = some first
  rises : names.IsChain fun name super => superOf types name = some super
  loaded : ∀ name ∈ names, (types.get? name).isSome
  once : names.Nodup

/-- A way up that cannot go on. -/
structure Lineage (types : Table String ReferenceType) (first : String) (names : List String) : Prop
    extends Climb types first names where
  ends : ∀ last ∈ names.getLast?, ∀ super ∈ superOf types last,
    types.get? super = none ∨ super ∈ names

theorem superOf_eq (h : types.get? next = some t) : superOf types next = t.superclass := by
  rw [superOf, h, Option.bind_some]

theorem declared_eq (h : types.get? next = some t) : declared types next = t.fields := by
  simp [declared, h]

theorem climb_singleton (h : types.get? first = some t) : Climb types first [first] where
  begins := rfl
  rises := .singleton first
  loaded := by simp [h]
  once := List.nodup_singleton first

theorem Climb.snoc (h : Climb types first names) (top : names.getLast? = some last)
    (up : superOf types last = some next) (new : next ∉ names) (there : types.get? next = some t) :
    Climb types first (names ++ [next]) where
  begins := by simp [h.begins]
  rises := by
    refine List.isChain_append.2 ⟨h.rises, .singleton next, ?_⟩
    intro x hx y hy
    simp_all
  loaded := by
    intro name mem
    rcases List.mem_append.1 mem with old | new
    · exact h.loaded name old
    · rw [List.mem_singleton.1 new, there]
      rfl
  once := by
    rw [List.nodup_append]
    refine ⟨h.once, List.nodup_singleton next, ?_⟩
    rintro a ha b hb rfl
    exact new (List.mem_singleton.1 hb ▸ ha)

/-- From every point on, what is walked through and what has been passed make up a whole way. -/
theorem exists_lineage_append (h : Climb types first names) (top : names.getLast? = some last)
    (same : ∀ name, name ∈ known ↔ name ∈ names) :
    ∃ more, Lineage types first (names ++ more) ∧
      ((superOf types last).elim [] (ancestry types known)).flatMap ReferenceType.fields =
        more.flatMap (declared types) := by
  -- With each class that is passed, fewer are left that have not been seen.
  induction fewer : unseen types known using Nat.strong_induction_on
    generalizing names known last with
  | _ n ih =>
    have ended : (∀ super ∈ superOf types last, types.get? super = none ∨ super ∈ names) →
        Lineage types first (names ++ []) := by
      intro stops
      rw [List.append_nil]
      refine ⟨h, fun top' mem => ?_⟩
      rw [top, Option.mem_def, Option.some.injEq] at mem
      exact mem ▸ stops
    cases up : superOf types last with
    | none => exact ⟨[], ended (by simp [up]), rfl⟩
    | some next =>
      by_cases again : next ∈ known
      · refine ⟨[], ended (by simp [up, (same next).1 again]), ?_⟩
        simp [ancestry_of_known again]
      · cases there : types.get? next with
        | none =>
          refine ⟨[], ended (by simp [up, there]), ?_⟩
          simp [ancestry_of_unloaded there]
        | some t =>
          have new : next ∉ names := fun mem => again ((same next).2 mem)
          have climbed := h.snoc top up new there
          have passed : ∀ name, name ∈ next :: known ↔ name ∈ names ++ [next] := by
            intro name
            simp [same, or_comm]
          obtain ⟨more, whole, fields⟩ := ih _ (fewer ▸ unseen_lt again there) climbed
            (List.getLast?_concat ..) passed rfl
          refine ⟨next :: more, by simpa using whole, ?_⟩
          rw [superOf_eq there] at fields
          simp [ancestry_of_loaded again there, fields, declared_eq there]

/-- A class that is loaded has a way up, which is the one that is walked. -/
theorem exists_lineage (h : types.get? first = some t) : ∃ names, Lineage types first names ∧
    (ancestry types [] first).flatMap ReferenceType.fields = names.flatMap (declared types) := by
  have top : [first].getLast? = some first := rfl
  obtain ⟨more, whole, fields⟩ := exists_lineage_append (climb_singleton h) top fun _ => Iff.rfl
  refine ⟨first :: more, whole, ?_⟩
  rw [superOf_eq h] at fields
  simp [ancestry_of_loaded List.not_mem_nil h, fields, declared_eq h]

/-! ## There is one way -/

theorem prefix_or_prefix {R : String → String → Prop} (single : ∀ a b b', R a b → R a b' → b = b')
    (h : names.IsChain R) (h' : names'.IsChain R) (begins : names.head? = names'.head?) :
    names <+: names' ∨ names' <+: names := by
  induction names generalizing names' with
  | nil => exact .inl (List.nil_prefix ..)
  | cons a rest ih =>
    rcases names' with _ | ⟨a', rest'⟩
    · exact .inr (List.nil_prefix ..)
    · obtain rfl : a = a' := by simpa using begins
      have next : rest.head? = rest'.head? ∨ rest = [] ∨ rest' = [] := by
        rcases rest with _ | ⟨b, rest⟩
        · exact .inr (.inl rfl)
        · rcases rest' with _ | ⟨b', rest'⟩
          · exact .inr (.inr rfl)
          · have up := (List.isChain_cons_cons.1 h).1
            have up' := (List.isChain_cons_cons.1 h').1
            exact .inl (congrArg some (single a b b' up up'))
      rcases next with next | rfl | rfl
      · refine (ih h.tail h'.tail next).imp ?_ ?_ <;>
          exact fun shorter => (List.prefix_cons_inj a).2 shorter
      · exact .inl ⟨rest', rfl⟩
      · exact .inr ⟨rest, rfl⟩

theorem Lineage.eq_of_prefix (h : Lineage types first names) (h' : Climb types first names')
    (shorter : names <+: names') : names = names' := by
  obtain ⟨more, rfl⟩ := shorter
  rcases more with _ | ⟨next, more⟩
  · exact (List.append_nil _).symm
  · -- The longer way goes on from where the shorter one ends, though that one cannot.
    obtain ⟨last, top⟩ : ∃ last, names.getLast? = some last := by
      rcases names with _ | ⟨a, rest⟩
      · cases h.begins
      · exact ⟨_, List.getLast?_cons⟩
    have up := (List.isChain_append.1 h'.rises).2.2 last top next rfl
    have there := h'.loaded next (by simp)
    rcases h.ends last top next up with missing | passed
    · rw [missing] at there
      cases there
    · exact absurd rfl ((List.nodup_append.1 h'.once).2.2 next passed next List.mem_cons_self)

theorem Lineage.unique (h : Lineage types first names) (h' : Lineage types first names') :
    names = names' := by
  have single : ∀ a b b', superOf types a = some b → superOf types a = some b' → b = b' :=
    fun a b b' up up' => Option.some.inj (up.symm.trans up')
  rcases prefix_or_prefix single h.rises h'.rises (h.begins.trans h'.begins.symm) with pre | pre
  · exact h.eq_of_prefix h'.toClimb pre
  · exact (h'.eq_of_prefix h.toClimb pre).symm

theorem Lineage.fieldsOf {d : Debuggee} (h : Lineage d.types first names) :
    d.fieldsOf first = names.flatMap (declared d.types) := by
  have begins := h.loaded first (List.mem_of_mem_head? h.begins)
  obtain ⟨t, there⟩ := Option.isSome_iff_exists.1 begins
  obtain ⟨names', whole, fields⟩ := exists_lineage there
  rw [h.unique whole]
  exact fields

end ReferenceType

namespace Session

open ReferenceType (Lineage declared exists_lineage)

variable {s : Session Debuggee}

/-- Along the one way up from the class of an object, its fields are listed once each: those that
the object has itself, and then the static ones if they are wanted, each with the value that is kept
for it under its own class, whatever the size of the pages and whether or not they are read side by
side. -/
theorem listFields_lineage (responsive : s.Responsive) {o : ObjectRef} {t : ReferenceType}
    (loaded : s.machine.types.get? o.typeName = some t) {h : HeapObject}
    (there : s.machine.objects.get? o.id = some h) :
    (∃! names, Lineage s.machine.types o.typeName names) ∧
      ∀ names, Lineage s.machine.types o.typeName names →
        let fields := names.flatMap (declared s.machine.types)
        (∀ f ∈ fields, f.isStatic = false → f.name ∉ s.machine.failingFieldReads) →
        ∀ (withStatic : Bool) (policy : FetchPolicy) (parent : Option String),
          Settles (listFields o withStatic policy parent) s fun r _ =>
            r = .ok (Variable.resolveNames (
              ((fields.filter fun f => f.isStatic = false).map fun f =>
                Variable.ofField f ((h.fields.get? (f.declaringType, f.name)).getD
                  (Value.default f.signature)) parent) ++
              if withStatic then
                (fields.filter fun f => f.isStatic = true).map fun f =>
                  Variable.ofField f ((s.machine.statics.get? (f.declaringType, f.name)).getD
                    (Value.default f.signature)) (some f.declaringType)
              else [])) := by
  constructor
  · obtain ⟨names, whole, -⟩ := exists_lineage loaded
    exact ⟨names, whole, fun names' whole' => whole'.unique whole⟩
  · intro names whole fields readable withStatic policy parent
    have all : s.machine.fieldsOf o.typeName = fields := whole.fieldsOf
    have known : s.machine.object o.id = .ok h := by
      unfold Debuggee.object
      rw [there]
    have found : s.machine.referenceType o.typeName = .ok t := by
      unfold Debuggee.referenceType
      rw [loaded]
    have listed := listFields_produces [] responsive known (all ▸ readable) found withStatic policy
      parent
    refine (listed.settles Peruses.advance).mono ?_
    rintro r s' ⟨-, rfl⟩
    unfold Debuggee.ownVariables Debuggee.staticVariables Debuggee.storedValue
    rw [all]
    simp

/-- Two classes that are each other's superclass, and an object of one of them. Both have a field of
one name. -/
private def ring : Debuggee :=
  let x (declaringType : String) : Field := { name := "x", declaringType, signature := "I" }
  let y : Field := { name := "y", declaringType := "demo.Base", signature := "J" }
  let total : Field :=
    { name := "total", declaringType := "demo.Derived", signature := "I", isStatic := true }
  let derived : ReferenceType :=
    { name := "demo.Derived", superclass := some "demo.Base", interfaces := []
      isInterface := false, fields := [total, x "demo.Derived"] }
  let base : ReferenceType :=
    { name := "demo.Base", superclass := some "demo.Derived", interfaces := []
      isInterface := false, fields := [x "demo.Base", y] }
  let values := (Table.insert {} ("demo.Derived", "x") (.int 1)).insert ("demo.Base", "x") (.int 2)
  ((({} : Debuggee).addType derived).addType base).setStatic "demo.Derived" "total" (.int 7)
    |>.addObject { reference := ⟨30, "demo.Derived", .plain⟩, fields := values }

/-- Each of the two classes comes once, and each field has its own value. -/
theorem listFields_lineage_ring :
    Settles (listFields ⟨30, "demo.Derived", .plain⟩ true ⟨2, .pipelined⟩ none) (start ring {} {})
      fun r _ => r.map (List.map fun v => (v.name, v.value)) = .ok
        [("x (Derived)", .int 1), ("x (Base)", .int 2), ("y", .long 0), ("total", .int 7)] := by
  let o : ObjectRef := ⟨30, "demo.Derived", .plain⟩
  have responsive : (start ring {} {}).Responsive := by decide +kernel
  have whole : Lineage ring.types "demo.Derived" ["demo.Derived", "demo.Base"] :=
    { begins := rfl
      rises := by decide +kernel
      loaded := by decide +kernel
      once := by decide +kernel
      ends := by decide +kernel }
  have readable : ∀ f ∈ ["demo.Derived", "demo.Base"].flatMap (declared ring.types),
      f.isStatic = false → f.name ∉ ring.failingFieldReads := by decide +kernel
  obtain ⟨-, listed⟩ := listFields_lineage responsive (o := o) rfl rfl
  refine (listed _ whole readable true ⟨2, .pipelined⟩ none).mono ?_
  rintro r s' rfl
  decide +kernel

end Session
end DebugSession
