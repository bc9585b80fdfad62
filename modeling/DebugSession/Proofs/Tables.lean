import DebugSession.Table
/-!
The entries of a table and what is looked up in it. A key that is looked up gives its first entry,
so the two views agree where no key is repeated. Inserting and erasing repeat none.
-/

namespace DebugSession.Table

variable {κ α : Type} [DecidableEq κ]

theorem mem_of_get? {t : Table κ α} {k : κ} {a : α} (h : t.get? k = some a) :
    (k, a) ∈ t.entries := by
  obtain ⟨e, found, rfl⟩ := Option.map_eq_some_iff.1 h
  have key : e.1 = k := by simpa using List.find?_some found
  rw [← key]
  exact List.mem_of_find?_eq_some found

theorem mem_keys {t : Table κ α} {k : κ} {a : α} (h : t.get? k = some a) : k ∈ t.keys :=
  List.mem_map_of_mem (mem_of_get? h)

theorem mem_values {t : Table κ α} {k : κ} {a : α} (h : t.get? k = some a) : a ∈ t.values :=
  List.mem_map_of_mem (mem_of_get? h)

theorem mem_values_insert {t : Table κ α} {k : κ} {a b : α} (h : a ∈ (t.insert k b).values) :
    a ∈ t.values ∨ a = b := by
  obtain ⟨es⟩ := t
  simp only [values, insert] at *
  induction es with
  | nil => exact .inr (by simpa [insertEntry] using h)
  | cons e es ih =>
    obtain ⟨k₀, a₀⟩ := e
    by_cases here : k₀ = k
    · rw [insertEntry, if_pos here, List.map_cons, List.mem_cons] at h
      exact h.symm.imp_left (List.mem_cons_of_mem _)
    · rw [insertEntry, if_neg here, List.map_cons, List.mem_cons] at h
      rcases h with rfl | h
      · exact .inl List.mem_cons_self
      · exact (ih h).imp_left (List.mem_cons_of_mem _)

theorem mem_values_erase {t : Table κ α} {k : κ} {a : α} (h : a ∈ (t.erase k).values) :
    a ∈ t.values := by
  obtain ⟨e, kept, rfl⟩ := List.mem_map.1 h
  exact List.mem_map_of_mem (List.mem_filter.1 kept).1

theorem mem_values_modify {t : Table κ α} {k : κ} {f : α → α} {a : α}
    (h : a ∈ (t.modify k f).values) : ∃ b ∈ t.values, a = b ∨ a = f b := by
  obtain ⟨e, modified, rfl⟩ := List.mem_map.1 h
  obtain ⟨e', there, rfl⟩ := List.mem_map.1 modified
  refine ⟨e'.2, List.mem_map_of_mem there, ?_⟩
  split
  · exact .inr rfl
  · exact .inl rfl

theorem get?_of_mem {t : Table κ α} (distinct : t.keys.Nodup) {k : κ} {a : α}
    (h : (k, a) ∈ t.entries) : t.get? k = some a := by
  obtain ⟨es⟩ := t
  simp only [keys, get?] at *
  induction es with
  | nil => cases h
  | cons e es ih =>
    obtain ⟨new, rest⟩ := List.nodup_cons.1 distinct
    rcases List.mem_cons.1 h with rfl | h
    · simp
    · have other : e.1 ≠ k := by
        rintro rfl
        exact new (List.mem_map.2 ⟨_, h, rfl⟩)
      simpa [other] using ih rest h

theorem isSome_get? {t : Table κ α} {k : κ} : (t.get? k).isSome = true ↔ k ∈ t.keys := by
  constructor
  · intro h
    obtain ⟨a, found⟩ := Option.isSome_iff_exists.1 h
    exact mem_keys found
  · intro h
    obtain ⟨e, he, rfl⟩ := List.mem_map.1 h
    rw [← contains_eq_isSome]
    exact List.any_eq_true.2 ⟨e, he, by simp⟩

theorem mem_keys_insert {t : Table κ α} {k k' : κ} {a : α} :
    k' ∈ (t.insert k a).keys ↔ k' = k ∨ k' ∈ t.keys := by
  rw [← isSome_get?, ← isSome_get?, get?_insert]
  split
  · rename_i same
    exact iff_of_true rfl (.inl same)
  · rename_i other
    exact (or_iff_right other).symm

theorem mem_keys_erase {t : Table κ α} {k k' : κ} :
    k' ∈ (t.erase k).keys ↔ k' ≠ k ∧ k' ∈ t.keys := by
  rw [← isSome_get?, ← isSome_get?, get?_erase]
  split
  · rename_i same
    exact iff_of_false Bool.false_ne_true fun h => h.1 same
  · rename_i other
    exact (and_iff_right other).symm

private theorem keys_insertEntry (k : κ) (a : α) (es : List (κ × α)) :
    (insertEntry k a es).map (·.1) =
      if k ∈ es.map (·.1) then es.map (·.1) else es.map (·.1) ++ [k] := by
  induction es with
  | nil => simp [insertEntry]
  | cons e es ih =>
    obtain ⟨k₀, a₀⟩ := e
    by_cases h : k₀ = k
    · simp [insertEntry, h]
    · rw [insertEntry, if_neg h, List.map_cons, ih]
      by_cases hk : k ∈ es.map (·.1)
      · have there : k ∈ ((k₀, a₀) :: es).map (·.1) := List.mem_cons_of_mem _ hk
        rw [if_pos hk, if_pos there]
        rfl
      · have away : k ∉ ((k₀, a₀) :: es).map (·.1) := by simpa [Ne.symm h] using hk
        rw [if_neg hk, if_neg away]
        rfl

theorem nodup_insert {t : Table κ α} (distinct : t.keys.Nodup) (k : κ) (a : α) :
    (t.insert k a).keys.Nodup := by
  simp only [keys, insert, keys_insertEntry] at *
  split
  · exact distinct
  · rename_i new
    refine List.nodup_append.2 ⟨distinct, by simp, ?_⟩
    rintro x hx y hy rfl
    rw [List.mem_singleton.1 hy] at hx
    exact new hx

theorem nodup_erase {t : Table κ α} (distinct : t.keys.Nodup) (k : κ) : (t.erase k).keys.Nodup := by
  simp only [keys, erase] at *
  exact distinct.sublist (List.filter_sublist.map _)

@[simp] theorem keys_modify (t : Table κ α) (k : κ) (f : α → α) : (t.modify k f).keys = t.keys := by
  simp only [keys, modify, List.map_map]
  refine List.map_congr_left fun e _ => ?_
  simp only [Function.comp_apply]
  split <;> rfl

theorem get?_modify (t : Table κ α) (k k' : κ) (f : α → α) :
    (t.modify k f).get? k' = if k' = k then (t.get? k').map f else t.get? k' := by
  obtain ⟨es⟩ := t
  simp only [modify, get?]
  induction es with
  | nil => simp
  | cons e es ih =>
    obtain ⟨k₀, a₀⟩ := e
    have head : (if k₀ = k then (k₀, f a₀) else (k₀, a₀)).1 = k₀ := by split <;> rfl
    rw [List.map_cons, List.find?_cons, List.find?_cons]
    by_cases here : k₀ = k'
    · subst here
      by_cases h : k₀ = k
      · simp [h]
      · simp [h]
    · simp only [head, here, decide_false]
      exact ih

theorem size_insert (t : Table κ α) (k : κ) (a : α) : t.size ≤ (t.insert k a).size := by
  have lengths := congrArg List.length (keys_insertEntry k a t.entries)
  simp only [List.length_map] at lengths
  simp only [size, insert, lengths]
  split <;> simp

end DebugSession.Table
