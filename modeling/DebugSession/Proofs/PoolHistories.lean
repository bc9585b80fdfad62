import DebugSession.Proofs.Pools
import Mathlib.Data.Set.Card
/-!
Histories of a pool. Main statement: as long as the handles have not started again, what a handle
stands for and which handle an object has are inverse to each other after every history, and a
handle stands for one object all its life. Once it stands for nothing, it never does again.
-/

namespace DebugSession.Pool

variable {α : Type}

/-- What is done to a pool. -/
inductive Operation (α : Type) where
  | add (owner : ThreadId) (object : α)
  | remove (handle : Nat)
  | removeOwner (owner : ThreadId)
  | clear

section

variable [BEq α]

def perform (p : Pool α) : Operation α → Pool α
  | .add owner x => (p.add owner x).2
  | .remove handle => p.remove handle
  | .removeOwner owner => p.removeOwner owner
  | .clear => p.clear

def after (p : Pool α) (ops : List (Operation α)) : Pool α := ops.foldl perform p

/-- The handle that is given out by an operation, and what for. An object that has a handle already
is given no new one. -/
def issue (p : Pool α) : Operation α → List (Nat × Pooled α)
  | .add owner x => if (p.handle? x).isNone then [((p.add owner x).1, ⟨owner, x⟩)] else []
  | _ => []

/-- All handles that are given out in a history, in turn. -/
def issued (p : Pool α) : List (Operation α) → List (Nat × Pooled α)
  | [] => []
  | op :: ops => p.issue op ++ (p.perform op).issued ops

theorem after_append (p : Pool α) (ops ops' : List (Operation α)) :
    p.after (ops ++ ops') = (p.after ops).after ops' := List.foldl_append

theorem issued_append (p : Pool α) (ops ops' : List (Operation α)) :
    p.issued (ops ++ ops') = p.issued ops ++ (p.after ops).issued ops' := by
  induction ops generalizing p with
  | nil => rfl
  | cons op ops ih =>
    simp only [List.cons_append, issued, ih, List.append_assoc]
    rfl

/-! ## What an operation does -/

/-- A pool that has given out the handles of a log and no others. -/
structure Numbered (p : Pool α) (log : List (Nat × Pooled α)) : Prop where
  sound : p.Sound
  /-- The handles were given out in turn. -/
  handles : log.map Prod.fst = List.range' 1 log.length
  next : log.length < maxHandle → p.next = log.length + 1
  live : ∀ handle e, p.get? handle = some e → (handle, e) ∈ log

/-- A pool in which a handle of the log stands for something only if it did so before. -/
def Lasts (log : List (Nat × Pooled α)) (p q : Pool α) : Prop :=
  ∀ entry ∈ log, p.get? entry.1 = none → q.get? entry.1 = none

namespace Numbered

variable {p : Pool α} {log : List (Nat × Pooled α)}

theorem mem_handles (h : p.Numbered log) {entry : Nat × Pooled α} (mem : entry ∈ log) :
    1 ≤ entry.1 ∧ entry.1 ≤ log.length := by
  have there : entry.1 ∈ log.map Prod.fst := List.mem_map_of_mem mem
  rw [h.handles, List.mem_range'_1] at there
  omega

/-- A handle was given out once. -/
theorem unique (h : p.Numbered log) {handle : Nat} {e e' : Pooled α} (mem : (handle, e) ∈ log)
    (mem' : (handle, e') ∈ log) : e = e' := by
  have distinct : (log.map Prod.fst).Nodup := by
    rw [h.handles]
    exact List.nodup_range'
  exact congrArg Prod.snd (List.inj_on_of_nodup_map distinct mem mem' rfl)

theorem below (h : p.Numbered log) (more : log.length < maxHandle) : p.Below := by
  intro handle e there
  rw [h.next more]
  exact Nat.lt_succ_of_le (h.mem_handles (h.live handle e there)).2

/-- A new handle comes after all that were given out. -/
theorem enter [EquivBEq α] (h : p.Numbered log) (more : log.length < maxHandle) {x : α}
    (new : p.handle? x = none) (owner : ThreadId) :
    (p.enter p.next owner x).Numbered (log ++ [(p.next, ⟨owner, x⟩)]) ∧
      Lasts log p (p.enter p.next owner x) := by
  have next := h.next more
  have free : p.get? p.next = none := by
    rw [Option.eq_none_iff_forall_ne_some]
    intro e taken
    exact absurd (h.below more _ e taken) (Nat.lt_irrefl _)
  refine ⟨⟨sound_enter h.sound h.sound.next free new owner, ?_, ?_, ?_⟩, ?_⟩
  · rw [List.map_append, h.handles, List.length_append, List.length_singleton,
      List.range'_concat, next, Nat.one_mul, Nat.add_comm 1]
    rfl
  · intro more'
    rw [List.length_append, List.length_singleton] at more' ⊢
    show following p.next = _
    rw [next]
    exact if_neg (Nat.not_le_of_lt more')
  · intro k e there
    rw [get?_enter] at there
    split at there
    · rename_i here
      cases there
      exact List.mem_append_right _ (here ▸ List.mem_singleton_self _)
    · exact List.mem_append_left _ (h.live k e there)
  · intro entry mem gone
    have other : entry.1 ≠ p.next := by
      have bound := (h.mem_handles mem).2
      omega
    rw [get?_enter, if_neg other]
    exact gone

/-- What drops handles and gives out none. -/
theorem drop {q : Pool α} (h : p.Numbered log) (sound : q.Sound) (next : q.next = p.next)
    (dropped : ∀ handle e, q.get? handle = some e → p.get? handle = some e) :
    q.Numbered log ∧ Lasts log p q := by
  refine ⟨⟨sound, h.handles, fun more => next.trans (h.next more),
    fun handle e there => h.live handle e (dropped handle e there)⟩, ?_⟩
  intro entry mem gone
  rw [Option.eq_none_iff_forall_ne_some] at gone ⊢
  exact fun e there => gone e (dropped _ e there)

theorem perform [EquivBEq α] (h : p.Numbered log) (op : Operation α)
    (within : (log ++ p.issue op).length ≤ maxHandle) :
    (p.perform op).Numbered (log ++ p.issue op) ∧ Lasts log p (p.perform op) := by
  cases op with
  | add owner x =>
    cases known : p.handle? x with
    | some handle =>
      have same : p.perform (.add owner x) = p := by simp only [Pool.perform, add, known]
      have nothing : p.issue (.add owner x) = [] := by simp [issue, known]
      rw [same, nothing, List.append_nil]
      exact ⟨h, fun _ _ gone => gone⟩
    | none =>
      simp only [issue, known, Option.isNone_none, if_true, List.length_append,
        List.length_singleton] at within ⊢
      rw [Pool.perform, add_of_below (h.below within) known owner]
      exact h.enter within known owner
  | remove handle =>
    rw [show p.issue (.remove handle) = [] from rfl, List.append_nil]
    refine h.drop (sound_remove h.sound handle) (next_remove p handle) fun k e there => ?_
    rw [Pool.perform, get?_remove] at there
    split at there
    · cases there
    · exact there
  | removeOwner owner =>
    rw [show p.issue (.removeOwner owner) = [] from rfl, List.append_nil]
    exact h.drop (sound_removeOwner h.sound owner) (next_removeOwner p owner)
      fun k e there => ((get?_removeOwner h.sound owner).1 there).1
  | clear =>
    rw [show p.issue .clear = [] from rfl, List.append_nil]
    refine h.drop (sound_clear h.sound) rfl fun k e there => ?_
    cases there

/-- An object is given the handle that stands for it, or one that was never given out. -/
theorem add [EquivBEq α] (h : p.Numbered log) (owner : ThreadId) (x : α)
    (within : (log ++ p.issue (.add owner x)).length ≤ maxHandle) :
    IsHandle (p.add owner x).1 ∧ (p.add owner x).2.handle? x = some (p.add owner x).1 ∧
      ((∃ e, p.get? (p.add owner x).1 = some e ∧ (e.object == x) = true) ∨
        ∀ e, ((p.add owner x).1, e) ∉ log) := by
  cases known : p.handle? x with
  | some handle =>
    obtain ⟨e, there, equal⟩ := (h.sound.inverse x handle).1 known
    have same : p.add owner x = (handle, p) := by simp only [Pool.add, known]
    rw [same]
    exact ⟨h.sound.keys handle (Table.mem_keys there), known, .inl ⟨e, there, equal⟩⟩
  | none =>
    simp only [issue, known, Option.isNone_none, if_true, List.length_append,
      List.length_singleton] at within
    rw [add_of_below (h.below within) known owner]
    refine ⟨h.sound.next, by rw [handle?_enter, if_pos BEq.rfl], .inr fun e mem => ?_⟩
    have bound : p.next ≤ log.length := (h.mem_handles mem).2
    rw [h.next within] at bound
    exact Nat.not_succ_le_self _ bound

/-! ## What a history does -/

theorem after [EquivBEq α] (h : p.Numbered log) (ops : List (Operation α))
    (within : (log ++ p.issued ops).length ≤ maxHandle) :
    (p.after ops).Numbered (log ++ p.issued ops) ∧ Lasts log p (p.after ops) := by
  induction ops generalizing p log with
  | nil =>
    rw [issued, List.append_nil]
    exact ⟨h, fun _ _ gone => gone⟩
  | cons op ops ih =>
    rw [issued, ← List.append_assoc] at within ⊢
    have first : (log ++ p.issue op).length ≤ maxHandle :=
      Nat.le_trans (List.prefix_append _ _).length_le within
    obtain ⟨numbered, lasts⟩ := h.perform op first
    obtain ⟨numbered', lasts'⟩ := ih numbered within
    exact ⟨numbered', fun entry mem gone =>
      lasts' entry (List.mem_append_left _ mem) (lasts entry mem gone)⟩

end Numbered

theorem numbered_empty : (empty : Pool α).Numbered [] where
  sound := sound_empty
  handles := rfl
  next := fun _ => rfl
  live := fun _ _ there => nomatch there

/-- At each point of a history that gives out no more handles than there are, those were given out
in turn. -/
theorem numbered_after [EquivBEq α] {earlier later : List (Operation α)}
    (within : ((empty : Pool α).issued (earlier ++ later)).length ≤ maxHandle) :
    ((empty : Pool α).after earlier).Numbered (empty.issued earlier) := by
  rw [issued_append] at within
  have reached := numbered_empty.after earlier
    (Nat.le_trans (List.prefix_append _ _).length_le within)
  exact reached.1

/-! ## The main statement -/

/-- What handles stand for and which handles objects have are inverse to each other: equal objects
have one handle, and objects that differ have two. -/
structure Inverse (p : Pool α) : Prop where
  agree : ∀ x handle,
    p.handle? x = some handle ↔ ∃ e, p.get? handle = some e ∧ (e.object == x) = true
  single : ∀ handle handle' e e', p.get? handle = some e → p.get? handle' = some e' →
    (handle = handle' ↔ (e.object == e'.object) = true)

theorem Sound.maps_inverse [EquivBEq α] {p : Pool α} (sound : p.Sound) : p.Inverse where
  agree := sound.inverse
  single handle handle' e e' there there' := by
    constructor
    · rintro rfl
      rw [there] at there'
      cases there'
      exact BEq.rfl
    · exact sound.apart handle handle' e e' there there'

/-- Only what a thread owns goes, and all of it, and it is counted. -/
structure Releases (p : Pool α) (owner : ThreadId) : Prop where
  count : (p.release owner).1 = {handle | ∃ e, p.get? handle = some e ∧ e.owner = owner}.ncard
  kept : ∀ handle e,
    (p.release owner).2.get? handle = some e ↔ p.get? handle = some e ∧ e.owner ≠ owner
  inverse : (p.release owner).2.Inverse

theorem Sound.releases [EquivBEq α] {p : Pool α} (sound : p.Sound) (owner : ThreadId) :
    p.Releases owner where
  count := by
    have distinct : (p.owned owner).Nodup :=
      sound.distinct.sublist (List.filter_sublist.map _)
    have same : {handle | ∃ e, p.get? handle = some e ∧ e.owner = owner} =
        ((p.owned owner).toFinset : Set Nat) := by
      ext handle
      rw [List.coe_toFinset]
      exact (mem_owned sound.distinct).symm
    rw [same, Set.ncard_coe_finset, List.toFinset_card_of_nodup distinct]
    rfl
  kept handle e := get?_removeOwner sound owner
  inverse := (sound_removeOwner sound owner).maps_inverse

/-- As long as no more handles were given out than there are, a handle stands for one object all its
life, and it has but one life. -/
theorem handles_never_return [EquivBEq α] (ops : List (Operation α))
    (within : ((empty : Pool α).issued ops).length ≤ maxHandle) :
    (empty.after ops).Inverse ∧
    (∀ handle e, (empty.after ops).get? handle = some e → 1 ≤ handle ∧ handle ≤ 2147483647) ∧
    (∀ owner, (empty.after ops).Releases owner) ∧
    (∀ earlier later, ops = earlier ++ later → ∀ handle e, (handle, e) ∈ empty.issued earlier →
      ((empty.after earlier).get? handle = none → (empty.after ops).get? handle = none) ∧
      ∀ e', (empty.after ops).get? handle = some e' → e' = e) ∧
    (∀ earlier owner x later, ops = earlier ++ .add owner x :: later →
      (1 ≤ ((empty.after earlier).add owner x).1 ∧
        ((empty.after earlier).add owner x).1 ≤ 2147483647) ∧
      ((empty.after earlier).add owner x).2.handle? x =
        some ((empty.after earlier).add owner x).1 ∧
      ((∃ e, (empty.after earlier).get? ((empty.after earlier).add owner x).1 = some e ∧
          (e.object == x) = true) ∨
        ∀ e, (((empty.after earlier).add owner x).1, e) ∉ empty.issued earlier)) := by
  have numbered : ((empty : Pool α).after ops).Numbered (empty.issued ops) := by
    rw [← List.append_nil ops] at within
    exact numbered_after within
  refine ⟨numbered.sound.maps_inverse,
    fun handle e there => numbered.sound.keys handle (Table.mem_keys there),
    numbered.sound.releases, ?_, ?_⟩
  · rintro earlier later rfl handle e mem
    have before := numbered_after within
    rw [issued_append] at within numbered
    refine ⟨?_, fun e' there => numbered.unique (numbered.live handle e' there)
      (List.mem_append_left _ mem)⟩
    rw [after_append]
    exact (before.after later within).2 _ mem
  · rintro earlier owner x later rfl
    have before := numbered_after within
    rw [issued_append, issued, ← List.append_assoc] at within
    exact before.add owner x (Nat.le_trans (List.prefix_append _ _).length_le within)

/-- An object that loses its handle with its owner is given another one. -/
theorem handles_never_return_two_threads :
    let ops : List (Operation String) :=
      [.add 1 "a", .add 2 "b", .add 1 "b", .removeOwner 1, .remove 5, .add 1 "a"]
    ((empty : Pool String).issued ops).length ≤ maxHandle ∧
      empty.issued ops = [(1, ⟨1, "a"⟩), (2, ⟨2, "b"⟩), (3, ⟨1, "a"⟩)] ∧
      (empty.after ops).Inverse ∧ (empty.after ops).get? 1 = none := by
  intro ops
  have within : ((empty : Pool String).issued ops).length ≤ maxHandle := by decide +kernel
  have main := handles_never_return ops within
  have never := main.2.2.2.1 (ops.take 4) (ops.drop 4) rfl 1 ⟨1, "a"⟩ (by decide +kernel)
  exact ⟨within, by decide +kernel, main.1, never.1 (by decide +kernel)⟩

end
end DebugSession.Pool
