import DebugSession.Proofs.Records
import Mathlib.Data.List.Nodup
/-!
Values in which the keys of every object are sorted. To sort them again changes nothing, and a
record is read from them as from the value itself: the order of the keys does not matter.
-/

namespace DebugSession.Json

variable {α β : Type} {key name : String} {j value : Json} {e : String × Json}
  {entries sorted : List (String × Json)}

/-! ## Sorting keys -/

/-- Every key is below those behind it, and in every value the keys are sorted. -/
structure Sorted (entries : List (String × Json)) : Prop where
  keys : entries.Pairwise fun e e' => e.1 < e'.1
  values : ∀ e ∈ entries, e.2.canonical = e.2

private theorem mem_insertSorted (mem : e ∈ insertSorted key value sorted) :
    e = (key, value) ∨ e ∈ sorted := by
  induction sorted with
  | nil => exact .inl (List.mem_singleton.1 mem)
  | cons first rest ih =>
    simp only [insertSorted] at mem
    split at mem
    · exact List.mem_cons.1 mem
    · split at mem
      · exact (List.mem_cons.1 mem).imp_right (List.mem_cons_of_mem _)
      · rcases List.mem_cons.1 mem with rfl | mem
        · exact .inr List.mem_cons_self
        · exact (ih mem).imp_right (List.mem_cons_of_mem _)

private theorem Sorted.insert (h : Sorted sorted) (settled : value.canonical = value) :
    Sorted (insertSorted key value sorted) := by
  refine ⟨?_, fun e mem => ?_⟩
  · have keys := h.keys
    clear h
    induction sorted with
    | nil => exact List.pairwise_singleton _ _
    | cons first rest ih =>
      obtain ⟨above, keys⟩ := List.pairwise_cons.1 keys
      simp only [insertSorted]
      split
      · rename_i below
        refine List.pairwise_cons.2 ⟨fun e mem => ?_, List.pairwise_cons.2 ⟨above, keys⟩⟩
        rcases List.mem_cons.1 mem with rfl | mem
        · exact below
        · exact String.lt_trans below (above e mem)
      · rename_i notBelow
        split
        · rename_i same
          exact List.pairwise_cons.2 ⟨fun e mem => same ▸ above e mem, keys⟩
        · rename_i apart
          have higher : first.1 < key := by
            refine Decidable.byContradiction fun notHigher => apart ?_
            exact String.le_antisymm (String.not_lt.1 notHigher) (String.not_lt.1 notBelow)
          refine List.pairwise_cons.2 ⟨fun e mem => ?_, ih keys⟩
          rcases mem_insertSorted mem with rfl | mem
          · exact higher
          · exact above e mem
  · rcases mem_insertSorted mem with rfl | mem
    · exact settled
    · exact h.values e mem

private theorem insertSorted_last (above : ∀ e ∈ sorted, e.1 < key) :
    insertSorted key value sorted = sorted ++ [(key, value)] := by
  induction sorted with
  | nil => rfl
  | cons first rest ih =>
    have higher := above first List.mem_cons_self
    have notBelow : ¬ key < first.1 :=
      fun below => String.lt_irrefl _ (String.lt_trans below higher)
    have apart : key ≠ first.1 := fun same => String.lt_irrefl _ (same ▸ higher)
    simp only [insertSorted, if_neg notBelow, if_neg apart, List.cons_append]
    rw [ih fun e mem => above e (List.mem_cons_of_mem _ mem)]

private theorem canonicalEntries_of_sorted (h : Sorted (sorted ++ entries)) :
    canonicalEntries entries sorted = sorted ++ entries := by
  induction entries generalizing sorted with
  | nil => rw [canonicalEntries, List.append_nil]
  | cons first rest ih =>
    obtain ⟨k, v⟩ := first
    have settled : v.canonical = v := h.values (k, v) (by simp)
    have above : ∀ e ∈ sorted, e.1 < k := fun e mem =>
      (List.pairwise_append.1 h.keys).2.2 e mem (k, v) List.mem_cons_self
    rw [canonicalEntries, settled, insertSorted_last above]
    rw [List.append_cons] at h
    rw [ih h, ← List.append_cons]

mutual

/-- To sort the keys again changes nothing. -/
theorem canonical_canonical : ∀ j : Json, j.canonical.canonical = j.canonical
  | .arr items => by rw [canonical, canonical, canonicalItems_canonicalItems items]
  | .obj entries => by
    have h : Sorted ([] ++ canonicalEntries entries []) :=
      sorted_canonicalEntries entries ⟨.nil, nofun⟩
    rw [canonical, canonical, canonicalEntries_of_sorted h, List.nil_append]
  | .null | .bool _ | .num _ | .str _ => rfl

private theorem canonicalItems_canonicalItems :
    ∀ items : List Json, canonicalItems (canonicalItems items) = canonicalItems items
  | [] => rfl
  | j :: rest => by
    rw [canonicalItems, canonicalItems, canonical_canonical j, canonicalItems_canonicalItems rest]

private theorem sorted_canonicalEntries : ∀ (entries : List (String × Json))
    {sorted : List (String × Json)}, Sorted sorted → Sorted (canonicalEntries entries sorted)
  | [], _, h => h
  | (_, v) :: rest, _, h => by
    rw [canonicalEntries]
    exact sorted_canonicalEntries rest (h.insert (canonical_canonical v))

end

/-! ## Looking up keys -/

theorem canonicalItems_eq_map (items : List Json) : canonicalItems items = items.map canonical := by
  induction items with
  | nil => rfl
  | cons j rest ih => rw [canonicalItems, ih, List.map_cons]

/-- An entry with the keys in its value sorted. -/
def sortValue (e : String × Json) : String × Json := (e.1, e.2.canonical)

private theorem find?_insertSorted (k : String) :
    (insertSorted key value sorted).find? (fun e => e.1 = k) =
      if k = key then some (key, value) else sorted.find? fun e => e.1 = k := by
  induction sorted with
  | nil => by_cases same : k = key <;> simp [insertSorted, same, eq_comm]
  | cons first rest ih =>
    obtain ⟨k₀, v₀⟩ := first
    simp only [insertSorted]
    split
    · by_cases same : k = key
      · simp [same]
      · simp [List.find?_cons, Ne.symm same, same]
    · split
      · rename_i same
        by_cases found : k = key
        · simp [found]
        · have other : k₀ ≠ k := fun is => found (is ▸ same).symm
          simp [Ne.symm found, found, other]
      · rename_i apart
        rw [List.find?_cons, List.find?_cons]
        by_cases found : k₀ = k
        · have other : k ≠ key := fun is => apart (is ▸ found).symm
          simp [found, other]
        · simpa [found] using ih

private theorem find?_canonicalEntries (k : String) :
    (canonicalEntries entries sorted).find? (fun e => e.1 = k) =
      ((entries.reverse.find? fun e => e.1 = k).map sortValue).or
        (sorted.find? fun e => e.1 = k) := by
  induction entries generalizing sorted with
  | nil => rw [canonicalEntries, List.reverse_nil, List.find?_nil, Option.map_none, Option.none_or]
  | cons first rest ih =>
    obtain ⟨key, value⟩ := first
    rw [canonicalEntries, ih, find?_insertSorted, List.reverse_cons, List.find?_append]
    cases rest.reverse.find? fun e => e.1 = k with
    | some e => rfl
    | none =>
      by_cases same : k = key
      · simp [same, sortValue]
      · simp [same, Ne.symm same]

private theorem mem_canonicalEntries (mem : e ∈ canonicalEntries entries sorted) :
    e ∈ sorted ∨ ∃ e₀ ∈ entries, e = sortValue e₀ := by
  induction entries generalizing sorted with
  | nil => exact .inl mem
  | cons first rest ih =>
    rw [canonicalEntries] at mem
    rcases ih mem with mem | ⟨e₀, mem, same⟩
    · rcases mem_insertSorted mem with same | mem
      · exact .inr ⟨first, List.mem_cons_self, same⟩
      · exact .inl mem
    · exact .inr ⟨e₀, List.mem_cons_of_mem _ mem, same⟩

/-! ## Records -/

namespace Schema

/-- The keys that are among the names of fields. -/
private def knownKeys (checks : List (String × Reader Unit)) (entries : List (String × Json)) :
    List String :=
  (entries.map Prod.fst).filter fun k => (checks.find? fun c => c.1 = k).isSome

private theorem visit_cons_some {checks : List (String × Reader Unit)} {seen : List String}
    {c : String × Reader Unit} (known : checks.find? (fun c => c.1 = key) = some c) :
    visit checks seen ((key, value) :: entries) = .ok () ↔
      key ∉ seen ∧ c.2 value = .ok () ∧ visit checks (key :: seen) entries = .ok () := by
  rw [visit, known]
  dsimp only
  by_cases repeated : key ∈ seen
  · simp [repeated, bind, Except.bind, throw, throwThe, MonadExceptOf.throw]
  · cases suits : c.2 value <;> simp [repeated, bind, Except.bind]

/-- Of the keys that are known none is repeated, and their values suit. -/
private theorem visit_eq_ok_iff {checks : List (String × Reader Unit)} {seen : List String} :
    visit checks seen entries = .ok () ↔
      (∀ e ∈ entries, ∀ c, checks.find? (fun c => c.1 = e.1) = some c → c.2 e.2 = .ok ()) ∧
        (knownKeys checks entries).Nodup ∧ ∀ k ∈ knownKeys checks entries, k ∉ seen := by
  induction entries generalizing seen with
  | nil => simp [visit, knownKeys]
  | cons first rest ih =>
    obtain ⟨k, j⟩ := first
    rw [List.forall_mem_cons]
    cases found : checks.find? fun c => c.1 = k with
    | none =>
      have same : knownKeys checks ((k, j) :: rest) = knownKeys checks rest := by
        simp [knownKeys, found]
      rw [same, visit, found]
      simp only [ih, reduceCtorEq, false_implies, implies_true, true_and]
    | some c =>
      have same : knownKeys checks ((k, j) :: rest) = k :: knownKeys checks rest := by
        simp [knownKeys, found]
      rw [same, visit_cons_some found, ih, List.nodup_cons, List.forall_mem_cons]
      constructor
      · rintro ⟨new, suits, others, distinct, fresh⟩
        refine ⟨⟨?_, others⟩, ⟨fun mem => fresh k mem List.mem_cons_self, distinct⟩, new, ?_⟩
        · rintro _ ⟨⟩
          exact suits
        · exact fun k' mem seen => fresh k' mem (List.mem_cons_of_mem _ seen)
      · rintro ⟨⟨suits, others⟩, ⟨once, distinct⟩, new, fresh⟩
        refine ⟨new, suits c rfl, others, distinct, fun k' mem seen => ?_⟩
        rcases List.mem_cons.1 seen with rfl | seen
        · exact once mem
        · exact fresh k' mem seen

/-- Where a known key is not repeated, its last entry is its first one. -/
private theorem find?_reverse {checks : List (String × Reader Unit)}
    (distinct : (knownKeys checks entries).Nodup)
    (known : (checks.find? fun c => c.1 = key).isSome = true) :
    entries.reverse.find? (fun e => e.1 = key) = entries.find? fun e => e.1 = key := by
  have kept : (entries.filter fun e => e.1 = key).map Prod.fst =
      (knownKeys checks entries).filter (· = key) := by
    rw [knownKeys, List.filter_filter, List.filter_map]
    congr 1
    refine List.filter_congr fun e _ => ?_
    by_cases same : e.1 = key <;> simp [same, known]
  have few : (entries.filter fun e => e.1 = key).length ≤ 1 := by
    have once := List.nodup_iff_count_le_one.1 distinct key
    rw [← List.length_map Prod.fst, kept, ← List.countP_eq_length_filter]
    exact once
  rw [← List.head?_filter, ← List.head?_filter, List.filter_reverse]
  cases there : entries.filter fun e => e.1 = key with
  | nil => rfl
  | cons e rest =>
    rw [there, List.length_cons] at few
    rw [List.eq_nil_of_length_eq_zero (Nat.le_zero.1 (Nat.le_of_succ_le_succ few))]
    rfl

/-- A value that suits a field suits it as well, and as the same, when its keys are sorted. -/
def Sorts {α : Type} : Schema α → Prop
  | .done => True
  | .field f rest => (∀ {j a}, f.read j = .ok a → f.read j.canonical = .ok a) ∧ rest.Sorts

private theorem checks_sort {schema : Schema α} (sorts : schema.Sorts) :
    ∀ c ∈ schema.checks, c.2 value = .ok () → c.2 value.canonical = .ok () := by
  induction schema with
  | done => exact nofun
  | field f rest ih =>
    intro c mem suits
    rcases List.mem_cons.1 mem with rfl | mem
    · cases found : f.read value with
      | error e =>
        simp only [found] at suits
        cases suits
      | ok a =>
        simp only [sorts.1 found]
        rfl
    · exact ih sorts.2 c mem suits

theorem build_field_eq_ok {f : Field α} {rest : Schema β} {row : Row} {index : Nat} {ab : α × β} :
    (Schema.field f rest).build row index = .ok ab ↔
      get row index f = .ok ab.1 ∧ rest.build row (index + 1) = .ok ab.2 := by
  rw [build]
  cases get row index f with
  | error e => exact ⟨fun h => (by cases h), fun h => (by cases h.1)⟩
  | ok a =>
    cases rest.build row (index + 1) with
    | error e => exact ⟨fun h => (by cases h), fun h => (by cases h.2)⟩
    | ok b =>
      constructor
      · rintro ⟨⟩
        exact ⟨rfl, rfl⟩
      · rintro ⟨⟨⟩, ⟨⟩⟩
        rfl

private theorem get_sorted {f : Field α} {row row' : Row} {index : Nat} {a : α}
    (sorts : ∀ {j a}, f.read j = .ok a → f.read j.canonical = .ok a)
    (same : row'.listed = row.listed)
    (found : row'.entries.find? (fun e => e.1 = f.name) =
      (row.entries.find? fun e => e.1 = f.name).map sortValue)
    (h : get row index f = .ok a) : get row' index f = .ok a := by
  simp only [get, same, found] at h ⊢
  cases there : row.entries.find? fun e => e.1 = f.name with
  | none => simpa only [there, Option.map_none] using h
  | some e =>
    simp only [there] at h
    exact sorts h

/-- If each field finds the same as before, with its keys sorted, so does the record. -/
private theorem build_sorted {schema : Schema α} (sorts : schema.Sorts) {row row' : Row}
    {index : Nat} {a : α} (h : schema.build row index = .ok a) (same : row'.listed = row.listed)
    (found : ∀ k ∈ schema.names, row'.entries.find? (fun e => e.1 = k) =
      (row.entries.find? fun e => e.1 = k).map sortValue) : schema.build row' index = .ok a := by
  induction schema generalizing index with
  | done => exact h
  | field f rest ih =>
    rw [names_field, List.forall_mem_cons] at found
    obtain ⟨first, others⟩ := build_field_eq_ok.1 h
    exact build_field_eq_ok.2 ⟨get_sorted sorts.1 same found.1 first, ih sorts.2 others found.2⟩

private theorem read_obj_iff {schema : Schema α} {a : α} :
    schema.read name (.obj entries) = .ok a ↔
      visit schema.checks [] entries = .ok () ∧ schema.build ⟨entries, none⟩ 0 = .ok a := by
  simp only [Schema.read]
  cases visit schema.checks [] entries with
  | error e => exact ⟨fun h => (by cases h), fun h => (by cases h.1)⟩
  | ok _ => exact ⟨fun h => ⟨rfl, h⟩, fun h => h.2⟩

private theorem read_arr_iff (name : String) (schema : Schema α) :
    ∃ expected, ∀ items a, schema.read name (.arr items) = .ok a ↔
      schema.build ⟨schema.names.zip items, some expected⟩ 0 = .ok a ∧
        ¬ schema.names.length < items.length := by
  refine ⟨s!"struct {name} with {schema.names.length} element" ++
    (if schema.names.length = 1 then "" else "s"), fun items a => ?_⟩
  have bounded : ∀ found : Except Mismatch α, (found.bind fun result =>
      if schema.names.length < items.length then
        .error (.length items.length "fewer elements in array")
      else .ok result) = .ok a ↔ found = .ok a ∧ ¬ schema.names.length < items.length := by
    intro found
    cases found with
    | error e => exact ⟨fun h => (by cases h), fun h => (by cases h.1)⟩
    | ok b =>
      simp only [Except.bind]
      split
      · rename_i more
        exact ⟨fun h => (by cases h), fun h => absurd more h.2⟩
      · rename_i few
        exact ⟨fun h => ⟨h, few⟩, fun h => h.1⟩
  exact bounded _

/-- Whatever is read was built from some entries. -/
theorem build_of_read {schema : Schema α} {a : α} (h : schema.read name j = .ok a) :
    ∃ row, schema.build row 0 = .ok a := by
  cases j with
  | obj entries => exact ⟨_, (read_obj_iff.1 h).2⟩
  | arr items =>
    obtain ⟨expected, reads⟩ := read_arr_iff name schema
    exact ⟨_, ((reads items a).1 h).1⟩
  | null | bool _ | num _ | str _ => cases h

/-- A record is read as the same whatever the order of the keys, and whether it is read from an
object or from a list. -/
theorem read_canonical {schema : Schema α} (sorts : schema.Sorts) {a : α}
    (h : schema.read name j = .ok a) : schema.read name j.canonical = .ok a := by
  cases j with
  | obj entries =>
    obtain ⟨visited, built⟩ := read_obj_iff.1 h
    obtain ⟨suit, distinct, -⟩ := visit_eq_ok_iff.1 visited
    have sorted : Sorted (canonicalEntries entries []) :=
      sorted_canonicalEntries entries ⟨.nil, nofun⟩
    rw [canonical]
    refine read_obj_iff.2 ⟨visit_eq_ok_iff.2 ⟨?_, ?_, fun _ _ => List.not_mem_nil⟩, ?_⟩
    · intro e mem c known
      obtain ⟨e₀, there, rfl⟩ := (mem_canonicalEntries mem).resolve_left List.not_mem_nil
      exact checks_sort sorts c (List.mem_of_find?_eq_some known) (suit e₀ there c known)
    · refine List.Nodup.filter _ (List.pairwise_map.2 (sorted.keys.imp ?_))
      intro e e' below same
      exact String.lt_irrefl _ (same ▸ below)
    · refine build_sorted sorts built rfl fun k mem => ?_
      have known : (schema.checks.find? fun c => c.1 = k).isSome = true := by
        obtain ⟨c, there, rfl⟩ := List.mem_map.1 mem
        exact List.find?_isSome.2 ⟨c, there, decide_eq_true rfl⟩
      rw [find?_canonicalEntries, List.find?_nil, Option.or_none, find?_reverse distinct known]
  | arr items =>
    obtain ⟨expected, reads⟩ := read_arr_iff name schema
    obtain ⟨built, few⟩ := (reads items a).1 h
    rw [canonical, canonicalItems_eq_map]
    refine (reads _ a).2 ⟨build_sorted sorts built rfl fun k _ => ?_, by simpa using few⟩
    have sorted : schema.names.zip (items.map canonical) =
        (schema.names.zip items).map sortValue := List.zip_map_right ..
    rw [sorted, List.find?_map]
    rfl
  | null | bool _ | num _ | str _ => exact h

end Schema

end DebugSession.Json
