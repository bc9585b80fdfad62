import DebugSession.Pool
import DebugSession.Proofs.Tables
import Mathlib.Data.Finset.Card
import Mathlib.Data.Finset.Image
import Mathlib.Data.Finset.Range
import Mathlib.Data.Nat.ModEq
/-!
Handles that are given out and dropped. As long as not all handles are taken, a new one is free, so
that what was given out before keeps its handle. Until the last one is given out, a new one has
never been given out before.
-/

namespace DebugSession.Pool

variable {α : Type}

/-- A number that is ever given out as a handle. -/
def IsHandle (handle : Nat) : Prop := 1 ≤ handle ∧ handle ≤ maxHandle

/-- Handles are numbers for clients, and an object has the handle that stands for it. -/
structure Sound [BEq α] (p : Pool α) : Prop where
  distinct : p.entries.keys.Nodup
  keys : ∀ handle ∈ p.entries.keys, IsHandle handle
  next : IsHandle p.next
  inverse : ∀ x handle,
    p.handle? x = some handle ↔ ∃ e, p.get? handle = some e ∧ (e.object == x) = true

/-- No two handles stand for equal objects. -/
theorem Sound.apart [BEq α] [ReflBEq α] {p : Pool α} (sound : p.Sound) (handle handle' : Nat)
    (e e' : Pooled α) (there : p.get? handle = some e) (there' : p.get? handle' = some e')
    (equal : (e.object == e'.object) = true) : handle = handle' :=
  Option.some.inj (((sound.inverse _ _).2 ⟨e, there, equal⟩).symm.trans
    ((sound.inverse _ _).2 ⟨e', there', BEq.rfl⟩))

private theorem maxHandle_pos : 0 < maxHandle :=
  Nat.sub_pos_of_lt (Nat.one_lt_two_pow (by decide))

theorem sound_empty [BEq α] : Sound (empty : Pool α) where
  distinct := List.nodup_nil
  keys := fun _ h => absurd h List.not_mem_nil
  next := ⟨Nat.le_refl 1, maxHandle_pos⟩
  inverse := fun _ _ => ⟨nofun, fun ⟨_, there, _⟩ => nomatch there⟩

/-! ## The search for a free handle -/

theorem isHandle_following {handle : Nat} (h : IsHandle handle) : IsHandle (following handle) := by
  have positive := maxHandle_pos
  unfold following
  unfold IsHandle at *
  split <;> omega

private theorem isHandle_firstFree (p : Pool α) (count : Nat) {handle : Nat}
    (h : IsHandle handle) : IsHandle (p.firstFree count handle) := by
  induction count generalizing handle with
  | zero => exact h
  | succ count ih =>
    unfold firstFree
    split
    · exact ih (isHandle_following h)
    · exact h

private theorem following_iterate {handle : Nat} (h : IsHandle handle) (i : Nat) :
    following^[i] handle = (handle - 1 + i) % maxHandle + 1 := by
  obtain ⟨low, high⟩ := h
  have positive := maxHandle_pos
  induction i with
  | zero =>
    rw [Nat.add_zero, Nat.mod_eq_of_lt (by omega)]
    exact (Nat.sub_add_cancel low).symm
  | succ i ih =>
    rw [Function.iterate_succ_apply', ih, ← Nat.add_assoc]
    have below := Nat.mod_lt (handle - 1 + i) positive
    have step : (handle - 1 + i + 1) % maxHandle =
        ((handle - 1 + i) % maxHandle + 1) % maxHandle := by simp
    rw [step]
    unfold following
    split
    · have last : (handle - 1 + i) % maxHandle + 1 = maxHandle := by omega
      simp [last]
    · have unchanged : ((handle - 1 + i) % maxHandle + 1) % maxHandle =
          (handle - 1 + i) % maxHandle + 1 := Nat.mod_eq_of_lt (by omega)
      rw [unchanged]

private theorem following_injective {handle i j : Nat} (h : IsHandle handle)
    (hi : i < maxHandle) (hj : j < maxHandle)
    (same : following^[i] handle = following^[j] handle) : i = j := by
  rw [following_iterate h, following_iterate h] at same
  have equal : Nat.ModEq maxHandle (handle - 1 + i) (handle - 1 + j) := Nat.succ.inj same
  have offsets : Nat.ModEq maxHandle i j := Nat.ModEq.add_left_cancel' (handle - 1) equal
  simpa [Nat.ModEq, Nat.mod_eq_of_lt hi, Nat.mod_eq_of_lt hj] using offsets

/-- A search that ends at a taken handle has met taken ones only. -/
private theorem taken_before (p : Pool α) (count handle : Nat)
    (taken : p.entries.contains (p.firstFree count handle) = true) :
    ∀ i ≤ count, p.entries.contains (following^[i] handle) = true := by
  induction count generalizing handle with
  | zero =>
    intro i hi
    obtain rfl : i = 0 := by omega
    exact taken
  | succ count ih =>
    unfold firstFree at taken
    split at taken
    · rename_i first
      intro i hi
      cases i with
      | zero => exact first
      | succ i => exact ih (following handle) taken i (by omega)
    · rename_i free
      exact absurd taken free

/-- With as many steps as there are handles taken, the search finds a free one, if there is one. -/
private theorem firstFree_free {p : Pool α} (room : p.size < maxHandle) {handle : Nat}
    (h : IsHandle handle) : p.entries.get? (p.firstFree p.size handle) = none := by
  by_contra taken
  have met := taken_before p p.size handle (by
    rw [Table.contains_eq_isSome]
    exact Option.isSome_iff_ne_none.2 taken)
  -- All that the search has visited is taken, and that is one more than there are handles taken.
  let visited := (Finset.range (p.size + 1)).image fun i => following^[i] handle
  have inside : visited ⊆ p.entries.keys.toFinset := by
    intro x hx
    obtain ⟨i, hi, rfl⟩ := Finset.mem_image.1 hx
    have there := met i (Nat.le_of_lt_succ (Finset.mem_range.1 hi))
    rw [Table.contains_eq_isSome] at there
    exact List.mem_toFinset.2 (Table.isSome_get?.1 there)
  have many : visited.card = p.size + 1 := by
    rw [Finset.card_image_of_injOn, Finset.card_range]
    intro i hi j hj same
    have hi := Finset.mem_range.1 hi
    have hj := Finset.mem_range.1 hj
    exact following_injective h (by omega) (by omega) same
  have few : p.entries.keys.toFinset.card ≤ p.size := by
    have bound := List.toFinset_card_le p.entries.keys
    simpa [Table.keys, size, Table.size] using bound
  have bound := Finset.card_le_card inside
  omega

/-! ## Giving out -/

theorem get?_enter (p : Pool α) (handle : Nat) (owner : ThreadId) (x : α) (k : Nat) :
    (p.enter handle owner x).get? k = if k = handle then some ⟨owner, x⟩ else p.get? k :=
  Table.get?_insert ..

section

variable [BEq α]

theorem handle?_enter (p : Pool α) (handle : Nat) (owner : ThreadId) (x y : α) :
    (p.enter handle owner x).handle? y =
      if (x == y) = true then some handle else p.handle? y := by
  cases equal : x == y <;> simp [enter, handle?, equal]

theorem handle?_eq_none {p : Pool α} (sound : p.Sound) {x : α} (h : p.handle? x = none)
    {handle : Nat} {e : Pooled α} (there : p.get? handle = some e) : (e.object == x) = false := by
  rw [← Bool.not_eq_true]
  intro equal
  rw [(sound.inverse x handle).2 ⟨e, there, equal⟩] at h
  cases h

theorem mem_add {p : Pool α} {owner : ThreadId} {x : α} {e : Pooled α}
    (h : e ∈ (p.add owner x).2.entries.values) :
    e ∈ p.entries.values ∨ e = ⟨owner, x⟩ := by
  unfold add at h
  split at h
  · exact .inl h
  · exact Table.mem_values_insert h

theorem size_add (p : Pool α) (owner : ThreadId) (x : α) : p.size ≤ (p.add owner x).2.size := by
  unfold add
  split
  · exact Nat.le_refl _
  · exact Table.size_insert _ _ _

/-- A handle that is given out is that of an equal object, or it was free. -/
theorem add_cases {p : Pool α} (sound : p.Sound) (room : p.size < maxHandle) (owner : ThreadId)
    (x : α) :
    (∃ handle e, p.add owner x = (handle, p) ∧ p.get? handle = some e ∧
      (e.object == x) = true) ∨
    (∃ handle, p.add owner x = (handle, p.enter handle owner x) ∧
      p.handle? x = none ∧ IsHandle handle ∧ p.get? handle = none) := by
  cases h : p.handle? x with
  | some handle =>
    obtain ⟨e, there, equal⟩ := (sound.inverse x handle).1 h
    exact .inl ⟨handle, e, by simp only [add, h], there, equal⟩
  | none =>
    exact .inr ⟨p.firstFree p.size p.next, by simp only [add, h, size], rfl,
      isHandle_firstFree p _ sound.next, firstFree_free room sound.next⟩

theorem sound_enter [EquivBEq α] {p : Pool α} (sound : p.Sound) {handle : Nat}
    (is : IsHandle handle) (free : p.get? handle = none) {x : α} (new : p.handle? x = none)
    (owner : ThreadId) : (p.enter handle owner x).Sound where
  distinct := Table.nodup_insert sound.distinct _ _
  keys k hk := by
    rcases Table.mem_keys_insert.1 hk with rfl | old
    · exact is
    · exact sound.keys k old
  next := isHandle_following is
  inverse y k := by
    rw [handle?_enter, get?_enter]
    by_cases equal : (x == y) = true
    · -- Nothing equal to the new object was there.
      rw [if_pos equal]
      constructor
      · rintro ⟨⟩
        exact ⟨_, if_pos rfl, equal⟩
      · rintro ⟨e, there, equal'⟩
        split at there
        · rename_i here
          rw [here]
        · have differ := handle?_eq_none sound new there
          rw [BEq.trans equal' (BEq.symm equal)] at differ
          cases differ
    · rw [if_neg equal, sound.inverse]
      split
      · rename_i here
        rw [here, free]
        refine iff_of_false (fun ⟨_, there, _⟩ => nomatch there) ?_
        rintro ⟨e, ⟨⟩, equal'⟩
        exact equal equal'
      · exact Iff.rfl

theorem sound_add [EquivBEq α] {p : Pool α} (sound : p.Sound) (room : p.size < maxHandle)
    (owner : ThreadId) (x : α) : (p.add owner x).2.Sound := by
  rcases add_cases sound room owner x with
    ⟨handle, e, added, -, -⟩ | ⟨handle, added, new, is, free⟩
  · rw [added]
    exact sound
  · rw [added]
    exact sound_enter sound is free new owner

theorem get?_add {p : Pool α} [ReflBEq α] (sound : p.Sound) (room : p.size < maxHandle)
    (owner : ThreadId) (x : α) :
    ∃ e, (p.add owner x).2.get? (p.add owner x).1 = some e ∧ (e.object == x) = true := by
  rcases add_cases sound room owner x with ⟨handle, e, added, there, equal⟩ | ⟨handle, added, -⟩
  · rw [added]
    exact ⟨e, there, equal⟩
  · rw [added]
    exact ⟨⟨owner, x⟩, by rw [get?_enter, if_pos rfl], BEq.rfl⟩

/-- What has a handle is given that one again. -/
theorem add_of_get? {p : Pool α} (sound : p.Sound) {handle : Nat} {e : Pooled α}
    (there : p.get? handle = some e) {x : α} (equal : (e.object == x) = true) (owner : ThreadId) :
    p.add owner x = (handle, p) := by
  simp only [add, (sound.inverse x handle).2 ⟨e, there, equal⟩]

end

/-! ## Many at once -/

/-- A pool to which objects that satisfy `C` were added for one owner. -/
inductive Grows [BEq α] (owner : ThreadId) (C : α → Prop) (p : Pool α) : Pool α → Prop
  | refl : Grows owner C p p
  | add {q : Pool α} {x : α} (before : Grows owner C p q) (h : C x) :
    Grows owner C p (q.add owner x).2

namespace Grows

variable [BEq α] {owner : ThreadId} {C : α → Prop} {p q r : Pool α}

theorem trans (h : Grows owner C p q) (h' : Grows owner C q r) : Grows owner C p r := by
  induction h' with
  | refl => exact h
  | add before allowed ih => exact ih.add allowed

theorem one {x : α} (h : C x) : Grows owner C p (p.add owner x).2 := Grows.refl.add h

theorem size_le (h : Grows owner C p q) : p.size ≤ q.size := by
  induction h with
  | refl => exact Nat.le_refl _
  | add before allowed ih => exact Nat.le_trans ih (size_add _ _ _)

variable [EquivBEq α]

theorem sound (h : Grows owner C p q) (start : p.Sound) (room : q.size < maxHandle) :
    q.Sound := by
  induction h with
  | refl => exact start
  | @add q x before allowed ih =>
    have room' := Nat.lt_of_le_of_lt (size_add q owner x) room
    exact sound_add (ih room') room' owner x

theorem keeps (h : Grows owner C p q) (start : p.Sound) (room : q.size < maxHandle) {handle : Nat}
    {e : Pooled α} (there : p.get? handle = some e) : q.get? handle = some e := by
  induction h with
  | refl => exact there
  | @add q x before allowed ih =>
    have room' := Nat.lt_of_le_of_lt (size_add q owner x) room
    have held := ih room'
    rcases add_cases (before.sound start room') room' owner x with
      ⟨k, e', added, -, -⟩ | ⟨k, added, -, -, free⟩
    · rw [added]
      exact held
    · rw [added, get?_enter]
      split
      · rename_i same
        rw [same, free] at held
        cases held
      · exact held

/-- What has a handle had it before, or has it for the owner. -/
theorem origin (h : Grows owner C p q) (start : p.Sound) (room : q.size < maxHandle)
    {handle : Nat} {e : Pooled α} (there : q.get? handle = some e) :
    p.get? handle = some e ∨ e.owner = owner ∧ C e.object := by
  induction h with
  | refl => exact .inl there
  | @add q x before allowed ih =>
    have room' := Nat.lt_of_le_of_lt (size_add q owner x) room
    rcases add_cases (before.sound start room') room' owner x with
      ⟨k, e', added, -, -⟩ | ⟨k, added, -, -, -⟩
    · rw [added] at there
      exact ih room' there
    · rw [added, get?_enter] at there
      split at there
      · rw [← Option.some.inj there]
        exact .inr ⟨rfl, allowed⟩
      · exact ih room' there

end Grows

/-! ## Before the handles start again -/

section

variable [BEq α] {owner : ThreadId} {C : α → Prop} {p q : Pool α}

/-- All handles that are taken come before the next one. It is so until the last handle is given
out, after which they start again from one. -/
def Below (p : Pool α) : Prop := ∀ handle e, p.get? handle = some e → handle < p.next

/-- Only handles were given out that had not been given out before. -/
structure Climbs (p q : Pool α) : Prop where
  next : p.next ≤ q.next
  below : q.Below
  old : ∀ handle e, q.get? handle = some e → handle < p.next → p.get? handle = some e

/-- What has no handle yet is given the next one. -/
theorem add_of_below (below : p.Below) {x : α} (new : p.handle? x = none) (owner : ThreadId) :
    p.add owner x = (p.next, p.enter p.next owner x) := by
  have free : p.entries.contains p.next = false := by
    rw [Table.contains_eq_isSome, Option.isSome_eq_false_iff, Option.isNone_iff_eq_none,
      Option.eq_none_iff_forall_ne_some]
    intro e taken
    exact absurd (below _ e taken) (Nat.lt_irrefl _)
  have first : ∀ count, p.firstFree count p.next = p.next := by
    intro count
    cases count with
    | zero => rfl
    | succ count => simp [firstFree, free]
  simp only [add, new, first]

theorem Grows.climbs [EquivBEq α] (h : Grows owner C p q) (start : p.Sound)
    (room : q.size < maxHandle) (below : p.Below) (unspent : q.get? maxHandle = none) :
    Climbs p q := by
  induction h with
  | refl => exact ⟨Nat.le_refl _, below, fun _ _ there _ => there⟩
  | @add q x before allowed ih =>
    have room' := Nat.lt_of_le_of_lt (size_add q owner x) room
    have sound := before.sound start room'
    have unspent' : q.get? maxHandle = none := by
      cases taken : q.get? maxHandle with
      | none => rfl
      | some e =>
        have single : Grows owner C q (q.add owner x).2 := .one allowed
        rw [single.keeps sound room taken] at unspent
        cases unspent
    have climbs := ih room' unspent'
    cases known : q.handle? x with
    | some handle =>
      have same : (q.add owner x).2 = q := by simp only [Pool.add, known]
      rw [same]
      exact climbs
    | none =>
      rw [add_of_below climbs.below known owner] at unspent ⊢
      have more : q.next < maxHandle := by
        refine Nat.lt_of_le_of_ne sound.next.2 fun last => ?_
        rw [get?_enter, if_pos last.symm] at unspent
        cases unspent
      have next : following q.next = q.next + 1 := if_neg (Nat.not_le_of_lt more)
      refine ⟨?_, ?_, ?_⟩
      · show p.next ≤ following q.next
        rw [next]
        exact Nat.le_succ_of_le climbs.next
      · intro k e there
        show k < following q.next
        rw [get?_enter] at there
        rw [next]
        split at there
        · rename_i here
          exact Nat.lt_succ_of_le (Nat.le_of_eq here)
        · exact Nat.lt_succ_of_lt (climbs.below k e there)
      · intro k e there old
        rw [get?_enter, if_neg (Nat.ne_of_lt (Nat.lt_of_lt_of_le old climbs.next))] at there
        exact climbs.old k e there old

end

/-! ## Dropping -/

section

variable [BEq α]

@[simp] theorem next_remove (p : Pool α) (handle : Nat) : (p.remove handle).next = p.next := by
  unfold remove
  split <;> rfl

theorem entries_remove (p : Pool α) (handle : Nat) :
    (p.remove handle).entries = p.entries.erase handle := by
  unfold remove
  split
  · rename_i none
    have other : ∀ e ∈ p.entries.entries, e.1 ≠ handle := by
      simpa [get?, Table.get?] using none
    have all : p.entries.entries.filter (fun e => e.1 ≠ handle) = p.entries.entries :=
      List.filter_eq_self.2 fun e he => decide_eq_true (other e he)
    show p.entries = ⟨_⟩
    rw [all]
  · rfl

theorem get?_remove (p : Pool α) (handle k : Nat) :
    (p.remove handle).get? k = if k = handle then none else p.get? k := by
  rw [get?, entries_remove, Table.get?_erase]
  rfl

/-- An object that is dropped has no handle any more; all others keep theirs. -/
theorem handle?_remove [EquivBEq α] {p : Pool α} {handle : Nat} {e : Pooled α}
    (there : p.get? handle = some e) (x : α) :
    (p.remove handle).handle? x = if (e.object == x) = true then none else p.handle? x := by
  simp only [remove, there, handle?, List.find?_filter]
  split
  · rename_i equal
    rw [Option.map_eq_none_iff, List.find?_eq_none]
    intro entry _ both
    obtain ⟨other, equal'⟩ := of_decide_eq_true both
    rw [BEq.trans equal' (BEq.symm equal)] at other
    cases other
  · rename_i other
    congr 2
    funext entry
    cases equal' : entry.1 == x with
    | false => simp
    | true =>
      have kept : (entry.1 == e.object) = false := by
        rw [← Bool.not_eq_true]
        intro same
        exact other (BEq.trans (BEq.symm same) equal')
      simp [kept]

theorem sound_remove [EquivBEq α] {p : Pool α} (sound : p.Sound) (handle : Nat) :
    (p.remove handle).Sound where
  distinct := by
    rw [entries_remove]
    exact Table.nodup_erase sound.distinct handle
  keys k hk := by
    rw [entries_remove] at hk
    exact sound.keys k (Table.mem_keys_erase.1 hk).2
  next := by
    rw [next_remove]
    exact sound.next
  inverse x k := by
    cases there : p.get? handle with
    | none =>
      have same : p.remove handle = p := by simp only [remove, there]
      rw [same]
      exact sound.inverse x k
    | some e =>
      rw [handle?_remove there, get?_remove]
      by_cases here : k = handle
      · rw [if_pos here]
        refine iff_of_false ?_ fun ⟨_, gone, _⟩ => nomatch gone
        split
        · exact nofun
        · rename_i other
          intro found
          obtain ⟨e', there', equal⟩ := (sound.inverse x k).1 found
          rw [here, there] at there'
          cases there'
          exact other equal
      · rw [if_neg here]
        split
        · rename_i equal
          refine iff_of_false nofun ?_
          rintro ⟨e', there', equal'⟩
          exact here (sound.apart k handle e' e there' there (BEq.trans equal' (BEq.symm equal)))
        · exact sound.inverse x k

/-! ### The handles of a thread -/

@[simp] theorem next_foldl_remove (p : Pool α) (handles : List Nat) :
    (handles.foldl remove p).next = p.next := by
  induction handles generalizing p with
  | nil => rfl
  | cons handle handles ih => rw [List.foldl_cons, ih, next_remove]

theorem mem_foldl_remove {p : Pool α} {handles : List Nat} {entry : Nat × Pooled α} :
    entry ∈ (handles.foldl remove p).entries.entries ↔
      entry ∈ p.entries.entries ∧ entry.1 ∉ handles := by
  induction handles generalizing p with
  | nil => simp
  | cons handle handles ih =>
    rw [List.foldl_cons, ih, entries_remove, Table.erase, List.mem_filter, decide_eq_true_iff,
      List.mem_cons, not_or, and_assoc]

theorem get?_foldl_remove (p : Pool α) (handles : List Nat) (k : Nat) :
    (handles.foldl remove p).get? k = if k ∈ handles then none else p.get? k := by
  induction handles generalizing p with
  | nil => simp
  | cons handle handles ih =>
    rw [List.foldl_cons, ih, get?_remove]
    by_cases here : k = handle <;> simp [here]

theorem sound_foldl_remove [EquivBEq α] {p : Pool α} (sound : p.Sound) (handles : List Nat) :
    (handles.foldl remove p).Sound := by
  induction handles generalizing p with
  | nil => exact sound
  | cons handle handles ih => exact ih (sound_remove sound handle)

@[simp] theorem next_removeOwner (p : Pool α) (owner : ThreadId) :
    (p.removeOwner owner).next = p.next := next_foldl_remove p _

omit [BEq α] in
theorem mem_owned {p : Pool α} (distinct : p.entries.keys.Nodup) {owner : ThreadId}
    {handle : Nat} : handle ∈ p.owned owner ↔ ∃ e, p.get? handle = some e ∧ e.owner = owner := by
  simp only [owned, List.mem_map, List.mem_filter, decide_eq_true_iff]
  constructor
  · rintro ⟨entry, ⟨there, own⟩, rfl⟩
    exact ⟨entry.2, Table.get?_of_mem distinct there, own⟩
  · rintro ⟨e, there, own⟩
    exact ⟨(handle, e), ⟨Table.mem_of_get? there, own⟩, rfl⟩

theorem get?_removeOwner {p : Pool α} (sound : p.Sound) (owner : ThreadId) {handle : Nat}
    {e : Pooled α} :
    (p.removeOwner owner).get? handle = some e ↔ p.get? handle = some e ∧ e.owner ≠ owner := by
  rw [removeOwner, release, get?_foldl_remove]
  constructor
  · intro h
    split at h
    · cases h
    · rename_i away
      exact ⟨h, fun own => away ((mem_owned sound.distinct).2 ⟨e, h, own⟩)⟩
  · rintro ⟨there, other⟩
    rw [if_neg, there]
    intro own
    obtain ⟨e', there', own⟩ := (mem_owned sound.distinct).1 own
    rw [there] at there'
    cases there'
    exact other own

theorem mem_removeOwner {p : Pool α} {owner : ThreadId} {e : Pooled α}
    (h : e ∈ (p.removeOwner owner).entries.values) : e ∈ p.entries.values ∧ e.owner ≠ owner := by
  obtain ⟨entry, kept, rfl⟩ := List.mem_map.1 h
  obtain ⟨there, away⟩ := mem_foldl_remove.1 kept
  refine ⟨List.mem_map_of_mem there, fun own => away ?_⟩
  exact List.mem_map_of_mem (List.mem_filter.2 ⟨there, decide_eq_true own⟩)

theorem sound_removeOwner [EquivBEq α] {p : Pool α} (sound : p.Sound) (owner : ThreadId) :
    (p.removeOwner owner).Sound := sound_foldl_remove sound _

theorem sound_clear {p : Pool α} (sound : p.Sound) : p.clear.Sound where
  distinct := List.nodup_nil
  keys := fun _ h => absurd h List.not_mem_nil
  next := sound.next
  inverse := fun _ _ => ⟨nofun, fun ⟨_, there, _⟩ => nomatch there⟩

end

theorem get?_clear (p : Pool α) (handle : Nat) : p.clear.get? handle = none := rfl

theorem Climbs.of_dropped {p q : Pool α} (below : p.Below) (next : q.next = p.next)
    (dropped : ∀ handle e, q.get? handle = some e → p.get? handle = some e) : Climbs p q where
  next := Nat.le_of_eq next.symm
  below handle e there := next ▸ below handle e (dropped handle e there)
  old handle e there _ := dropped handle e there

end DebugSession.Pool
