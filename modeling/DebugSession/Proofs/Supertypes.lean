import DebugSession.Proofs.Fields
import Mathlib.Logic.Relation
/-!
The types that the type of an object leads to, through superclasses and interfaces, in whatever way
they lead into each other. A search that looks at each of them once finds just these; of the
structures that apply to one of them the first one is taken.
-/

namespace DebugSession

namespace ReferenceType

variable {types : Table String ReferenceType} {first name super : String}
  {queue known : List String} {t : ReferenceType}

/-! ## What leads where -/

/-- A type that is loaded has the other one as its superclass or as an interface. -/
def LeadsTo (types : Table String ReferenceType) (name super : String) : Prop :=
  ∃ t, types.get? name = some t ∧ (t.superclass = some super ∨ super ∈ t.interfaces)

/-- A type and all that it leads to, also types that are not loaded. -/
def Reaches (types : Table String ReferenceType) : String → String → Prop :=
  Relation.ReflTransGen (LeadsTo types)

/-- The types that a type leads to directly. -/
def supersOf (types : Table String ReferenceType) (name : String) : List String :=
  (types.get? name).elim [] fun t => t.superclass.toList ++ t.interfaces

theorem leadsTo_iff : LeadsTo types name super ↔ super ∈ supersOf types name := by
  unfold LeadsTo supersOf
  cases types.get? name <;> simp

theorem mem_of_reaches (begun : first ∈ known)
    (closed : ∀ name ∈ known, ∀ super ∈ supersOf types name, super ∈ known)
    (h : Reaches types first name) : name ∈ known := by
  induction h with
  | refl => exact begun
  | tail _ leads ih => exact closed _ ih _ (leadsTo_iff.1 leads)

theorem unseen_cons_le (types : Table String ReferenceType) (name : String) (known : List String) :
    unseen types (name :: known) ≤ unseen types known := by
  refine (List.monotone_filter_right _ fun e => ?_).length_le
  simp

/-! ## The search -/

/-- What holds between two looks at types: what is known has been looked at, and what it leads to is
known or waits. -/
structure Searched (types : Table String ReferenceType) (first : String)
    (queue known : List String) : Prop where
  once : known.Nodup
  reached : ∀ name, name ∈ queue ∨ name ∈ known → Reaches types first name
  begun : first ∈ queue ∨ first ∈ known
  followed : ∀ name ∈ known, ∀ super ∈ supersOf types name, super ∈ queue ∨ super ∈ known

theorem searched_start : Searched types first [first] [] where
  once := List.nodup_nil
  reached := by
    rintro name (here | none)
    · rw [List.mem_singleton.1 here]
      exact .refl
    · cases none
  begun := .inl List.mem_cons_self
  followed := nofun

theorem Searched.skip (h : Searched types first (name :: queue) known) (seen : name ∈ known) :
    Searched types first queue known := by
  have drop : ∀ other, other ∈ name :: queue ∨ other ∈ known → other ∈ queue ∨ other ∈ known := by
    rintro other (here | there)
    · rcases List.mem_cons.1 here with rfl | later
      · exact .inr seen
      · exact .inl later
    · exact .inr there
  exact ⟨h.once, fun other mem => h.reached other (mem.imp_left (List.mem_cons_of_mem _)),
    drop first h.begun, fun other mem super leads => drop super (h.followed other mem super leads)⟩

theorem Searched.look (h : Searched types first (name :: queue) known) (new : name ∉ known) :
    Searched types first (queue ++ supersOf types name) (name :: known) := by
  have keep : ∀ other, other ∈ name :: queue ∨ other ∈ known →
      other ∈ queue ++ supersOf types name ∨ other ∈ name :: known := by
    rintro other (here | there)
    · rcases List.mem_cons.1 here with rfl | later
      · exact .inr List.mem_cons_self
      · exact .inl (List.mem_append_left _ later)
    · exact .inr (List.mem_cons_of_mem _ there)
  have here := h.reached name (.inl List.mem_cons_self)
  refine ⟨List.nodup_cons.2 ⟨new, h.once⟩, ?_, keep first h.begun, ?_⟩
  · rintro other (waits | mem)
    · rcases List.mem_append.1 waits with later | leads
      · exact h.reached other (.inl (List.mem_cons_of_mem _ later))
      · exact here.tail (leadsTo_iff.2 leads)
    · rcases List.mem_cons.1 mem with rfl | there
      · exact here
      · exact h.reached other (.inr there)
  · intro other mem super leads
    rcases List.mem_cons.1 mem with rfl | there
    · exact .inl (List.mem_append_right _ leads)
    · exact keep super (h.followed other there super leads)

/-- When nothing waits, just what is reached is known. -/
theorem Searched.mem_iff (h : Searched types first [] known) :
    name ∈ known ↔ Reaches types first name := by
  refine ⟨fun mem => h.reached name (.inr mem), mem_of_reaches ?_ ?_⟩
  · exact h.begun.resolve_left List.not_mem_nil
  · exact fun other mem super leads =>
      (h.followed other mem super leads).resolve_left List.not_mem_nil

end ReferenceType

namespace LogicalStructure

theorem foldl_register (added known : List LogicalStructure) :
    added.foldl register known = added.reverse ++ known := by
  induction added generalizing known with
  | nil => rfl
  | cons s added ih =>
    rw [List.foldl_cons, ih, register, List.reverse_cons, List.append_assoc]
    rfl

theorem select_eq_some_iff {known : List LogicalStructure} {names : List String}
    {shape : LogicalStructure} : select known names = some shape ↔
      ∃ before after, known = before ++ shape :: after ∧ shape.typeName ∈ names ∧
        ∀ other ∈ before, other.typeName ∉ names := by
  unfold select
  rw [List.find?_eq_some_iff_append]
  simp only [List.contains_iff_mem, Bool.not_eq_true', Bool.eq_false_iff, ne_eq]
  constructor
  · rintro ⟨applies, before, after, split, others⟩
    exact ⟨before, after, split, applies, others⟩
  · rintro ⟨before, after, split, applies, others⟩
    exact ⟨applies, before, after, split, others⟩

theorem select_eq_none_iff {known : List LogicalStructure} {names : List String} :
    select known names = none ↔ ∀ shape ∈ known, shape.typeName ∉ names := by
  unfold select
  simp [List.find?_eq_none]

end LogicalStructure

namespace Session

open ReferenceType (Reaches Searched supersOf searched_start unseen unseen_le unseen_lt
  unseen_cons_le mem_of_reaches leadsTo_iff)

variable {s s₁ s' : Session Debuggee}

/-! ## Looking at types -/

/-- What comes of looking at types one after the other: each look is a call. -/
structure Looked (names : List String) (s s' : Session Debuggee) : Prop where
  responsive : s'.Responsive
  types : s'.machine.types = s.machine.types
  asked : s'.calls.map Exchange.call = s.calls.map Exchange.call ++ names.map Call.referenceType
  logical : s'.logical = s.logical

theorem Looked.trans {names names' : List String} (h : Looked names s s₁)
    (h' : Looked names' s₁ s') : Looked (names ++ names') s s' where
  responsive := h'.responsive
  types := h'.types.trans h.types
  asked := by rw [h'.asked, h.asked, List.map_append, List.append_assoc]
  logical := h'.logical.trans h.logical

private theorem referenceType_looked (responsive : s.Responsive) (name : String) :
    Settles (call (.referenceType name)) s fun r s' =>
      r = s.machine.referenceType name ∧ Looked [name] s s' := by
  have answered := (@referenceType_produces [] s responsive name).settles Peruses.advance
  refine (Task.Ends.and answered (tryCall_ends (.referenceType name) s)).mono ?_
  rintro r s' ⟨⟨moved, rfl⟩, machine, clock, cancelled, rfl, -⟩
  exact ⟨rfl, moved.responsive responsive, moved.machine.same.types, by simp, rfl⟩

/-- What a search comes to that goes on from some point: nothing is left to be looked at, and what
was not yet known has been looked at once. -/
def Completes (first : String) (known : List String) (s : Session Debuggee)
    (r : Except RemoteError (List String)) (s' : Session Debuggee) : Prop :=
  ∃ news, r = .ok (news ++ known) ∧ Searched s.machine.types first [] (news ++ known) ∧
    Looked news.reverse s s'

theorem Completes.after {first name : String} {known : List String}
    {r : Except RemoteError (List String)} (h : Completes first (name :: known) s₁ r s')
    (looked : Looked [name] s s₁) : Completes first known s r s' := by
  obtain ⟨news, rfl, searched, later⟩ := h
  rw [looked.types] at searched
  refine ⟨news ++ [name], by simp, by simpa using searched, ?_⟩
  rw [List.reverse_append]
  exact looked.trans later

private theorem addTypes_completes {first : String} {t : ReferenceType}
    {more : List String → List String → Remote Debuggee (List String)} {queue known : List String}
    (responsive : s.Responsive) (loaded : s.machine.types.get? first = some t)
    (h : Searched s.machine.types first queue known)
    (rest : ∀ queue' known' s', s'.Responsive → s'.machine.types = s.machine.types →
      unseen s.machine.types known' < unseen s.machine.types known →
      Searched s.machine.types first queue' known' →
      Settles (more queue' known') s' (Completes first known' s')) :
    Settles (addTypes first more queue known) s (Completes first known s) := by
  induction queue generalizing known s with
  | nil =>
    unfold addTypes
    exact ⟨[], rfl, h, responsive, rfl, by simp, rfl⟩
  | cons name queue ih =>
    unfold addTypes
    by_cases seen : name ∈ known
    · rw [if_pos (List.contains_iff_mem.2 seen)]
      exact ih responsive loaded (h.skip seen) rest
    · rw [if_neg (mt List.contains_iff_mem.1 seen), settles_bind, settles_attempt]
      refine (referenceType_looked responsive name).mono ?_
      rintro r s₁ ⟨rfl, looked⟩
      have same := looked.types
      have searched := h.look seen
      unfold Debuggee.referenceType
      cases there : s.machine.types.get? name with
      | none =>
        -- A type that is not loaded counts, but leads nowhere: the same round goes on.
        have other : name ≠ first := by
          rintro rfl
          cases there.symm.trans loaded
        rw [supersOf, there, Option.elim_none, List.append_nil] at searched
        dsimp only
        rw [if_neg other]
        refine (ih looked.responsive (same ▸ loaded) (same ▸ searched) ?_).mono fun r s' done =>
          done.after looked
        rw [same]
        exact fun queue' known' s' ready alike fewer => rest queue' known' s' ready alike
          (Nat.lt_of_lt_of_le fewer (unseen_cons_le s.machine.types name known))
      | some u =>
        rw [supersOf, there, Option.elim_some, ← List.append_assoc] at searched
        exact (rest _ _ s₁ looked.responsive same (unseen_lt seen there) searched).mono
          fun r s' done => done.after looked

private theorem supertypesFrom_completes {first : String} {t : ReferenceType} {count : Nat}
    {queue known : List String} (responsive : s.Responsive)
    (loaded : s.machine.types.get? first = some t)
    (enough : unseen s.machine.types known ≤ count)
    (h : Searched s.machine.types first queue known) :
    Settles (supertypesFrom first count queue known) s (Completes first known s) := by
  induction count generalizing queue known s with
  | zero =>
    refine addTypes_completes responsive loaded h fun queue' known' s' _ _ fewer => ?_
    exact absurd (Nat.lt_of_lt_of_le fewer enough) (Nat.not_lt_zero _)
  | succ count ih =>
    refine addTypes_completes responsive loaded h ?_
    intro queue' known' s' ready same fewer searched
    rw [← same] at loaded enough fewer searched
    exact ih ready loaded (Nat.le_of_lt_succ (Nat.lt_of_lt_of_le fewer enough)) searched

private theorem supertypes_completes {typeName : String} {t : ReferenceType}
    (responsive : s.Responsive) (loaded : s.machine.types.get? typeName = some t) :
    Settles (supertypes typeName) s (Completes typeName [] s) := by
  have enough : unseen s.machine.types [] ≤ s.walkLimit :=
    Nat.le_trans (unseen_le s.machine.types []) (Nat.le_add_right ..)
  unfold supertypes
  rw [settles_bind, settles_get]
  exact supertypesFrom_completes responsive loaded enough searched_start

/-! ## The structure of an object -/

/-- Of the type of an object just what it leads to is found, and each type is looked at once. The
structure that was registered last counts first; arrays and strings have none. -/
theorem findStructure_exact (responsive : s.Responsive) {added : List LogicalStructure}
    (registry : s.logical = added.foldl LogicalStructure.register LogicalStructure.standard) :
    (∀ typeName t, s.machine.types.get? typeName = some t →
      Settles (supertypes typeName) s fun r s' => ∃ names, r = .ok names ∧ names.Nodup ∧
        (∀ name, name ∈ names ↔ Reaches s.machine.types typeName name) ∧
        s'.calls.map Exchange.call =
          s.calls.map Exchange.call ++ names.reverse.map Call.referenceType) ∧
      (∀ o : ObjectRef, (o.isArray || o.isString) = true →
        Settles (findStructure o) s fun r _ => r = .ok none) ∧
      ∀ o : ObjectRef, (o.isArray || o.isString) = false →
        ∀ t, s.machine.types.get? o.typeName = some t →
        Settles (findStructure o) s fun r _ => ∃ found, r = .ok found ∧
          (∀ shape, found = some shape ↔ ∃ before after,
            added.reverse ++ LogicalStructure.standard = before ++ shape :: after ∧
              Reaches s.machine.types o.typeName shape.typeName ∧
              ∀ other ∈ before, ¬ Reaches s.machine.types o.typeName other.typeName) ∧
          (found = none ↔ ∀ shape ∈ added.reverse ++ LogicalStructure.standard,
            ¬ Reaches s.machine.types o.typeName shape.typeName) := by
  refine ⟨fun typeName t loaded => ?_, fun o apart => ?_, fun o plain t loaded => ?_⟩
  · refine (supertypes_completes responsive loaded).mono ?_
    rintro r s' ⟨names, rfl, searched, looked⟩
    rw [List.append_nil] at searched ⊢
    exact ⟨names, rfl, searched.once, fun name => searched.mem_iff, looked.asked⟩
  · unfold findStructure
    rw [if_pos apart]
    rfl
  · unfold findStructure
    rw [plain, if_neg Bool.false_ne_true, settles_bind]
    refine (supertypes_completes responsive loaded).mono ?_
    rintro r s' ⟨names, rfl, searched, looked⟩
    rw [List.append_nil] at searched ⊢
    have known : s'.logical = added.reverse ++ LogicalStructure.standard := by
      rw [looked.logical, registry, LogicalStructure.foldl_register]
    show Settles _ s' _
    rw [settles_bind, settles_get]
    refine ⟨_, rfl, fun shape => ?_, ?_⟩
    · rw [known, LogicalStructure.select_eq_some_iff]
      simp only [searched.mem_iff]
    · rw [known, LogicalStructure.select_eq_none_iff]
      simp only [searched.mem_iff]

/-- A type that has another one as an interface in two ways and leads back to itself. One of its
supertypes is not loaded. -/
private def lattice : Debuggee :=
  let type (name : String) (superclass : Option String) (interfaces : List String) :
    ReferenceType := { name, superclass, interfaces, isInterface := false, fields := [] }
  [type "demo.Queue" (some "demo.Base") ["demo.Left", "demo.Right"],
    type "demo.Base" (some "demo.Gone") [],
    type "demo.Left" none ["java.util.Collection"],
    type "demo.Right" none ["java.util.Collection"],
    type "java.util.Collection" none ["demo.Queue"]].foldl Debuggee.addType {}

/-- The structure of a supertype that is not loaded comes ahead of the standard ones. -/
theorem findStructure_exact_lattice :
    let gone : LogicalStructure := ⟨"demo.Gone", .elements [.field "items"], none⟩
    let other : LogicalStructure := ⟨"demo.Other", .elements [.field "items"], none⟩
    let registry := [gone, other].foldl LogicalStructure.register LogicalStructure.standard
    let s := start lattice {} { logical := some registry }
    Settles (supertypes "demo.Queue") s (fun r _ => ∃ names, r = .ok names ∧
        names.Perm ["demo.Queue", "demo.Base", "demo.Gone", "demo.Left", "demo.Right",
          "java.util.Collection"]) ∧
      Settles (findStructure ⟨50, "demo.Queue", .array "I"⟩) s (fun r _ => r = .ok none) ∧
      Settles (findStructure ⟨51, "demo.Queue", .plain⟩) s fun r _ => r = .ok (some gone) := by
  intro gone other registry s
  have responsive : s.Responsive := by decide +kernel
  obtain ⟨search, apart, first⟩ := @findStructure_exact s responsive [gone, other] rfl
  let all := ["demo.Queue", "demo.Base", "demo.Gone", "demo.Left", "demo.Right",
    "java.util.Collection"]
  have step : ∀ name super, super ∈ supersOf lattice.types name →
      Reaches lattice.types name super := fun _ _ leads => .single (leadsTo_iff.2 leads)
  have base : Reaches lattice.types "demo.Queue" "demo.Base" := step _ _ (by decide +kernel)
  have left : Reaches lattice.types "demo.Queue" "demo.Left" := step _ _ (by decide +kernel)
  have right : Reaches lattice.types "demo.Queue" "demo.Right" := step _ _ (by decide +kernel)
  have missing : Reaches lattice.types "demo.Queue" "demo.Gone" :=
    base.trans (step _ _ (by decide +kernel))
  have collection : Reaches lattice.types "demo.Queue" "java.util.Collection" :=
    left.trans (step _ _ (by decide +kernel))
  have inside : ∀ name, Reaches lattice.types "demo.Queue" name → name ∈ all := fun _ reached =>
    mem_of_reaches (by decide +kernel) (by decide +kernel) reached
  refine ⟨(search "demo.Queue" _ rfl).mono ?_, apart _ rfl, (first _ rfl _ rfl).mono ?_⟩
  · rintro r s' ⟨names, rfl, once, exact, -⟩
    refine ⟨names, rfl, (List.perm_ext_iff_of_nodup once (by decide +kernel)).2 fun name => ?_⟩
    refine (exact name).trans ⟨inside name, fun mem => ?_⟩
    simp only [List.mem_cons, List.not_mem_nil, or_false] at mem
    rcases mem with rfl | rfl | rfl | rfl | rfl | rfl
    · exact .refl
    · exact base
    · exact missing
    · exact left
    · exact right
    · exact collection
  · rintro r s' ⟨found, rfl, one, -⟩
    have unreached : ∀ shape ∈ [other], ¬ Reaches lattice.types "demo.Queue" shape.typeName := by
      intro shape mem reached
      rw [List.mem_singleton.1 mem] at reached
      exact absurd (inside _ reached) (by decide +kernel)
    rw [(one gone).2 ⟨[other], LogicalStructure.standard, rfl, missing, unreached⟩]

end Session
end DebugSession
