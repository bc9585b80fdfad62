import DebugSession.Proofs.FieldNames
import Mathlib.Data.List.Dedup
/-!
Telling variables of one name apart. Each of them has its declaring type put behind its name, in
full where the short forms do not differ. After that no two names are the same, and it makes no
difference which of the repeated names is dealt with first.
-/

namespace DebugSession

theorem Text.cut?_eq_none {cs : List Char} (h : ¬ opening <:+: cs) : cut? opening cs = none := by
  cases cut : cut? opening cs with
  | none => rfl
  | some parts => exact absurd ⟨parts.1, parts.2, (eq_of_cut? cut).symm⟩ h

namespace Signature

theorem simpleName_of_no_point {name : String} (h : '.' ∉ name.toList) :
    simpleName name = name := by
  unfold simpleName
  rw [List.takeWhile_eq_self_iff.2, List.reverse_reverse, String.ofList_toList]
  intro c mem
  have other : c ≠ '.' := fun same => h (same ▸ List.mem_reverse.1 mem)
  simpa using other

@[simp] theorem simpleName_simpleName (name : String) :
    simpleName (simpleName name) = simpleName name :=
  simpleName_of_no_point (simpleName_no_point name)

end Signature

namespace Variable

open Signature (simpleName)

variable {vs : List Variable} {v w : Variable} {name name' q q' : String}

/-! ## Names with a type behind them -/

theorem qualifiedName_eq (name q : String) : qualifiedName name q = name ++ " (" ++ q ++ ")" := by
  apply String.toList_injective
  rw [Field.toList_qualifiedName]
  simp [Text.opening]

theorem qualifiedName_right_inj : qualifiedName name q = qualifiedName name q' ↔ q = q' := by
  constructor
  · intro same
    have texts := congrArg String.toList same
    rw [Field.toList_qualifiedName, Field.toList_qualifiedName] at texts
    exact String.toList_injective (List.append_cancel_right (List.append_cancel_left texts))
  · rintro rfl
    rfl

/-- A name without a part in parentheses is none that has a type behind it. -/
theorem ne_qualifiedName (plain : ¬ [' ', '('] <:+: name.toList) (name' q : String) :
    name ≠ qualifiedName name' q := by
  rintro rfl
  refine plain ⟨name'.toList, q.toList ++ [')'], ?_⟩
  rw [Field.toList_qualifiedName]
  rfl

/-- What stands before the type, and the type, can be told from the whole. -/
theorem qualifiedName_inj (plain : ¬ [' ', '('] <:+: name.toList)
    (plain' : ¬ [' ', '('] <:+: name'.toList)
    (same : qualifiedName name q = qualifiedName name' q') :
    name = name' ∧ q = q' := by
  have cut := congrArg (fun text => Text.cut? Text.opening text.toList) same
  rw [Field.toList_qualifiedName, Field.toList_qualifiedName,
    Text.cut?_append_of_none (Text.cut?_eq_none plain),
    Text.cut?_append_of_none (Text.cut?_eq_none plain')] at cut
  have heads : name.toList = name'.toList := (Prod.mk.inj (Option.some.inj cut)).1
  obtain rfl := String.toList_injective heads
  exact ⟨rfl, qualifiedName_right_inj.1 same⟩

/-! ## Names among others -/

/-- The variables that have a name. -/
def havingName (vs : List Variable) (name : String) : List Variable :=
  vs.filter fun w => w.name = name

theorem mem_havingName : w ∈ havingName vs name ↔ w ∈ vs ∧ w.name = name := by
  simp [havingName]

theorem count_name (vs : List Variable) (name : String) :
    (vs.map Variable.name).count name = (havingName vs name).length := by
  unfold havingName
  rw [List.count, List.countP_map, List.countP_eq_length_filter]
  congr 2

/-- The declaring type as it stands behind a name that others have as well. -/
def qualifierAmong (vs : List Variable) (v : Variable) : String :=
  let short := simpleName v.declaringType
  let alike := (havingName vs v.name).filter fun w => simpleName w.declaringType = short
  if alike.length < 2 then short else v.declaringType

theorem nameAmong_of_single (h : (havingName vs v.name).length < 2) :
    nameAmong vs v = v.name := by
  unfold nameAmong
  exact if_pos h

theorem nameAmong_of_several (h : ¬ (havingName vs v.name).length < 2) :
    nameAmong vs v = qualifiedName v.name (qualifierAmong vs v) := by
  unfold nameAmong
  exact if_neg h

theorem qualifierAmong_cases (vs : List Variable) (v : Variable) :
    qualifierAmong vs v = simpleName v.declaringType ∨ qualifierAmong vs v = v.declaringType := by
  unfold qualifierAmong
  dsimp only
  split
  · exact .inl rfl
  · exact .inr rfl

private theorem eq_of_few {l : List Variable} (few : l.length < 2) (hv : v ∈ l) (hw : w ∈ l) :
    v = w := by
  rcases l with _ | ⟨u, _ | ⟨u', rest⟩⟩
  · cases hv
  · rw [List.mem_singleton.1 hv, List.mem_singleton.1 hw]
  · simp only [List.length_cons] at few
    omega

/-- A type that stands behind a name in its short form is no other one's, short or in full. -/
private theorem eq_of_short (hv : v ∈ vs) (hw : w ∈ vs) (named : v.name = w.name)
    (short : (((havingName vs v.name).filter fun u =>
      simpleName u.declaringType = simpleName v.declaringType).length < 2))
    (same : qualifierAmong vs w = simpleName v.declaringType) : v = w := by
  have alike : simpleName w.declaringType = simpleName v.declaringType := by
    rcases qualifierAmong_cases vs w with it | it
    · rw [← it, same]
    · -- A full name that is some type's short form has no point in it.
      rw [← it, same, Signature.simpleName_simpleName]
  refine eq_of_few short ?_ ?_
  · simp [mem_havingName, hv]
  · simp [mem_havingName, hw, named, alike]

private theorem eq_of_qualifierAmong (hv : v ∈ vs) (hw : w ∈ vs) (named : v.name = w.name)
    (same : qualifierAmong vs v = qualifierAmong vs w) :
    v.declaringType = w.declaringType := by
  by_cases short : ((havingName vs v.name).filter fun u =>
      simpleName u.declaringType = simpleName v.declaringType).length < 2
  · have it : qualifierAmong vs v = simpleName v.declaringType := if_pos short
    rw [eq_of_short hv hw named short (same.symm.trans it)]
  · by_cases short' : ((havingName vs w.name).filter fun u =>
        simpleName u.declaringType = simpleName w.declaringType).length < 2
    · have it : qualifierAmong vs w = simpleName w.declaringType := if_pos short'
      rw [eq_of_short hw hv named.symm short' (same.trans it)]
    · have full : qualifierAmong vs v = v.declaringType := if_neg short
      have full' : qualifierAmong vs w = w.declaringType := if_neg short'
      rw [← full, ← full', same]

/-- Variables of one name among others differ in their declaring types. -/
theorem eq_of_nameAmong (plain : ∀ u ∈ vs, ¬ [' ', '('] <:+: u.name.toList) (hv : v ∈ vs)
    (hw : w ∈ vs) (same : nameAmong vs v = nameAmong vs w) :
    v.name = w.name ∧ v.declaringType = w.declaringType := by
  by_cases single : (havingName vs v.name).length < 2 <;>
    by_cases single' : (havingName vs w.name).length < 2
  · rw [nameAmong_of_single single, nameAmong_of_single single'] at same
    have equal : v = w :=
      eq_of_few single (mem_havingName.2 ⟨hv, rfl⟩) (mem_havingName.2 ⟨hw, same.symm⟩)
    exact ⟨same, congrArg declaringType equal⟩
  · rw [nameAmong_of_single single, nameAmong_of_several single'] at same
    exact absurd same (ne_qualifiedName (plain v hv) _ _)
  · rw [nameAmong_of_several single, nameAmong_of_single single'] at same
    exact absurd same.symm (ne_qualifiedName (plain w hw) _ _)
  · rw [nameAmong_of_several single, nameAmong_of_several single'] at same
    obtain ⟨named, qualified⟩ := qualifiedName_inj (plain v hv) (plain w hw) same
    exact ⟨named, eq_of_qualifierAmong hv hw named qualified⟩

/-! ## One name after the other -/

/-- The places of the variables that have a name. -/
def placesOf (vs : List Variable) (name : String) : List Nat :=
  (vs.zipIdx.filter fun p => p.1.name = name).map Prod.snd

/-- Gives the variables at some places, which share a name, their new ones: the short form of the
declaring type stands behind the name, or all of it if another one of them would be called the same.
A single variable keeps its name. -/
def nameGroup (ws : List Variable) (name : String) (places : List Nat) : List Variable :=
  if places.length < 2 then ws
  else
    let candidate (v : Variable) := qualifiedName name (simpleName v.declaringType)
    let candidates := (places.filterMap fun i => ws[i]?).map candidate
    ws.mapIdx fun i v =>
      if i ∈ places then
        { v with name :=
            if 1 < candidates.count (candidate v) then qualifiedName name v.declaringType
            else candidate v }
      else v

/-- Tells variables apart by dealing with one name after the other. -/
def resolveNamesBy (order : List String) (vs : List Variable) : List Variable :=
  order.foldl (fun ws name => nameGroup ws name (placesOf vs name)) vs

/-- The variables when some of the names have been dealt with. -/
def namedSoFar (vs : List Variable) (finished : List String) : List Variable :=
  vs.map fun v => if v.name ∈ finished then { v with name := nameAmong vs v } else v

theorem mem_placesOf {i : Nat} : i ∈ placesOf vs name ↔ ∃ v, vs[i]? = some v ∧ v.name = name := by
  simp [placesOf, List.mk_mem_zipIdx_iff_getElem?]

theorem length_placesOf (vs : List Variable) (name : String) :
    (placesOf vs name).length = (havingName vs name).length := by
  have firsts : (vs.zipIdx.filter fun p => p.1.name = name).map Prod.fst = havingName vs name := by
    unfold havingName
    conv_rhs => rw [← List.zipIdx_map_fst 0 vs, List.filter_map]
    rfl
  rw [placesOf, List.length_map, ← firsts, List.length_map]

variable {finished : List String}

/-- What a name that is yet to be dealt with belongs to is still as it was. -/
theorem filterMap_placesOf (new : name ∉ finished) :
    (placesOf vs name).filterMap (fun i => (namedSoFar vs finished)[i]?) = havingName vs name := by
  unfold placesOf
  rw [List.filterMap_map]
  have there : ∀ p ∈ vs.zipIdx.filter fun p => p.1.name = name,
      ((fun i => (namedSoFar vs finished)[i]?) ∘ Prod.snd) p = some p.1 := by
    rintro ⟨v, i⟩ mem
    obtain ⟨mem, named⟩ := List.mem_filter.1 mem
    have named : v.name = name := by simpa using named
    have unchanged : v.name ∉ finished := named ▸ new
    simp [namedSoFar, List.mk_mem_zipIdx_iff_getElem?.1 mem, unchanged]
  rw [List.filterMap_congr there, List.filterMap_eq_map']
  unfold havingName
  conv_rhs => rw [← List.zipIdx_map_fst 0 vs, List.filter_map]
  rfl

/-- Candidates for new names are the same for those whose types have the same short form. -/
theorem count_candidates (l : List Variable) (name : String) (v : Variable) :
    (l.map fun w => qualifiedName name (simpleName w.declaringType)).count
        (qualifiedName name (simpleName v.declaringType)) =
      (l.filter fun w => simpleName w.declaringType = simpleName v.declaringType).length := by
  rw [List.count, List.countP_map, List.countP_eq_length_filter]
  congr 1
  refine List.filter_congr fun w _ => ?_
  rw [Function.comp_apply, Bool.eq_iff_iff, beq_iff_eq, decide_eq_true_iff]
  exact qualifiedName_right_inj

theorem nameGroup_namedSoFar (new : name ∉ finished) :
    nameGroup (namedSoFar vs finished) name (placesOf vs name) =
      namedSoFar vs (name :: finished) := by
  apply List.ext_getElem?
  intro i
  unfold nameGroup
  rw [length_placesOf, filterMap_placesOf new]
  cases there : vs[i]? with
  | none =>
    split <;> simp [namedSoFar, there]
  | some v =>
    by_cases named : v.name = name
    · subst named
      have place : i ∈ placesOf vs v.name := mem_placesOf.2 ⟨v, there, rfl⟩
      by_cases single : (havingName vs v.name).length < 2
      · simp [namedSoFar, there, new, single, nameAmong_of_single single]
      · have several := nameAmong_of_several single
        unfold qualifierAmong at several
        simp only [if_neg single, namedSoFar, List.getElem?_mapIdx, List.getElem?_map, there,
          Option.map_some, if_neg new, if_pos place, List.mem_cons_self, if_pos, count_candidates,
          several]
        split <;> split <;> first | rfl | omega
    · have elsewhere : i ∉ placesOf vs name := by
        rintro mem
        obtain ⟨w, found, same⟩ := mem_placesOf.1 mem
        obtain rfl := Option.some.inj (there.symm.trans found)
        exact named same
      split <;> simp [namedSoFar, there, named, elsewhere]

theorem foldl_nameGroup {order : List String} (once : order.Nodup)
    (new : ∀ name ∈ order, name ∉ finished) :
    order.foldl (fun ws name => nameGroup ws name (placesOf vs name)) (namedSoFar vs finished) =
      namedSoFar vs (order.reverse ++ finished) := by
  induction order generalizing finished with
  | nil => rfl
  | cons name rest ih =>
    obtain ⟨other, once⟩ := List.nodup_cons.1 once
    have still : ∀ name' ∈ rest, name' ∉ name :: finished := by
      intro name' mem
      rw [List.mem_cons, not_or]
      exact ⟨fun same => other (same ▸ mem), new name' (List.mem_cons_of_mem _ mem)⟩
    rw [List.foldl_cons, nameGroup_namedSoFar (new name List.mem_cons_self), ih once still]
    simp

/-- In whatever order the names are dealt with, the variables come out the same. -/
theorem resolveNamesBy_eq {order : List String} (h : order.Perm (vs.map Variable.name).dedup) :
    resolveNamesBy order vs = resolveNames vs := by
  have start : vs = namedSoFar vs [] := by simp [namedSoFar]
  have once : order.Nodup := h.nodup_iff.2 (List.nodup_dedup _)
  unfold resolveNamesBy
  conv_lhs => arg 2; rw [start]
  rw [foldl_nameGroup once (fun _ _ => List.not_mem_nil), List.append_nil]
  unfold namedSoFar resolveNames
  refine List.map_congr_left fun v mem => if_pos ?_
  rw [List.mem_reverse, h.mem_iff, List.mem_dedup]
  exact List.mem_map_of_mem mem

/-! ## Names that differ -/

/-- What becomes of a variable when it is told from others. -/
structure Renamed (vs : List Variable) (v w : Variable) : Prop where
  once : (vs.map Variable.name).count v.name = 1 → w = v
  repeated : 1 < (vs.map Variable.name).count v.name →
    ∃ type, (type = simpleName v.declaringType ∨ type = v.declaringType) ∧
      w = { v with name := v.name ++ " (" ++ type ++ ")" }

theorem renamed_nameAmong (vs : List Variable) (v : Variable) :
    Renamed vs v { v with name := nameAmong vs v } where
  once single := by
    rw [count_name] at single
    rw [nameAmong_of_single (by omega)]
  repeated several := by
    rw [count_name] at several
    refine ⟨qualifierAmong vs v, qualifierAmong_cases vs v, ?_⟩
    rw [nameAmong_of_several (by omega), qualifiedName_eq]

/-- Variables that differ in their names or declaring types have different names when they have been
told apart, in whatever order that was done, and nothing else of them has changed. -/
theorem resolveNames_distinct {vs : List Variable}
    (plain : ∀ v ∈ vs, ¬ [' ', '('] <:+: v.name.toList)
    (apart : (vs.map fun v => (v.name, v.declaringType)).Nodup) :
    ((resolveNames vs).map Variable.name).Nodup ∧
      (∀ order : List String, order.Perm (vs.map Variable.name).dedup →
        resolveNamesBy order vs = resolveNames vs) ∧
      List.Forall₂ (Renamed vs) vs (resolveNames vs) := by
  refine ⟨?_, fun order h => resolveNamesBy_eq h, ?_⟩
  · rw [resolveNames, List.map_map]
    refine List.Nodup.map_on ?_ apart.of_map
    intro v hv w hw same
    obtain ⟨named, typed⟩ := eq_of_nameAmong plain hv hw same
    exact List.inj_on_of_nodup_map apart hv hw (Prod.ext named typed)
  · rw [resolveNames, List.forall₂_map_right_iff]
    exact List.forall₂_same.2 fun v _ => renamed_nameAmong vs v

/-- One of the types has no package, so that its name in full is short as well. -/
theorem resolveNames_distinct_mixed :
    let field (name declaringType : String) := Variable.ofField
      { name, declaringType, signature := "I" } (.int 0) none
    let vs := [field "x" "com.a.Base", field "x" "Base", field "y" "Base", field "x" "Derived"]
    (resolveNames vs).map Variable.name = ["x (com.a.Base)", "x (Base)", "y", "x (Derived)"] ∧
      ((resolveNames vs).map Variable.name).Nodup ∧
      resolveNamesBy ["y", "x"] vs = resolveNames vs := by
  intro field vs
  obtain ⟨distinct, ordered, -⟩ :=
    @resolveNames_distinct vs (by decide +kernel) (by decide +kernel)
  exact ⟨by decide +kernel, distinct, ordered _ (by decide +kernel)⟩

end Variable
end DebugSession
