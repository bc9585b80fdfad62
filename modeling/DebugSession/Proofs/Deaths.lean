import DebugSession.Proofs.Tables
import DebugSession.ThreadCache
import Mathlib.Data.List.Induction
import Mathlib.Data.List.Nodup
/-!
Which threads are remembered to have ended. Main statement: after every history, these are the ones
that have ended and have neither started nor been forgotten since, and they are no more than there
is room for. A thread is forgotten only when there are more, and then it is the one that has been
remembered for the longest time.
-/

namespace DebugSession.ThreadCache

/-- What is done to the memory of threads. -/
inductive Operation where
  | started (thread : ThreadId) (name : String)
  | died (thread : ThreadId)
  | setCapacity (capacity : Nat)

def perform (c : ThreadCache) : Operation → ThreadCache
  | .started thread name => c.started thread name
  | .died thread => c.died thread
  | .setCapacity capacity => c.setCapacity capacity

def after (c : ThreadCache) (ops : List Operation) : ThreadCache := ops.foldl perform c

/-- What becomes of threads, and of the room for them. -/
inductive Moment where
  | started (thread : ThreadId)
  | died (thread : ThreadId)
  | resized (capacity : Nat)
  | evicted (thread : ThreadId)
  deriving DecidableEq

/-- Those of a queue that are not known to have ended any more. -/
def lost (c : ThreadCache) (queue : List ThreadId) : List Moment :=
  (queue.filter fun thread => !c.isDead thread).map .evicted

/-- An operation, and whom it makes forgotten: who was remembered or has just ended, and is not
remembered after it. -/
def moments (c : ThreadCache) : Operation → List Moment
  | .started thread _ => [.started thread]
  | .died thread =>
    .died thread :: (c.died thread).lost (if c.isDead thread then c.dead else c.dead ++ [thread])
  | .setCapacity capacity => .resized capacity :: (c.setCapacity capacity).lost c.dead

def history (c : ThreadCache) : List Operation → List Moment
  | [] => []
  | op :: ops => c.moments op ++ (c.perform op).history ops

theorem after_concat (c : ThreadCache) (ops : List Operation) (op : Operation) :
    c.after (ops ++ [op]) = (c.after ops).perform op := by
  rw [after, List.foldl_append]
  rfl

theorem history_concat (c : ThreadCache) (ops : List Operation) (op : Operation) :
    c.history (ops ++ [op]) = c.history ops ++ (c.after ops).moments op := by
  induction ops generalizing c with
  | nil => exact List.append_nil _
  | cons first rest ih =>
    rw [List.cons_append, history, ih, history, List.append_assoc]
    rfl

/-! ## Histories -/

/-- The thread has ended, and has neither started nor been forgotten since. -/
def Remembered (ms : List Moment) (thread : ThreadId) : Prop :=
  ∃ before later, ms = before ++ .died thread :: later ∧
    .started thread ∉ later ∧ .evicted thread ∉ later

/-- When the thread ended for the first time since it was last started or forgotten. -/
def FirstDied (ms : List Moment) (thread : ThreadId) (time : Nat) : Prop :=
  ∃ before later, ms = before ++ .died thread :: later ∧ before.length = time ∧
    .started thread ∉ later ∧ .evicted thread ∉ later ∧ ¬ Remembered before thread

/-- One thread has been remembered for longer than another. -/
def Earlier (ms : List Moment) (thread other : ThreadId) : Prop :=
  ∃ time time', FirstDied ms thread time ∧ FirstDied ms other time' ∧ time < time'

/-- How many threads there is room for, if it was `capacity` at first. -/
def room (capacity : Nat) (ms : List Moment) : Nat :=
  ms.foldl (fun n m => match m with
    | .resized n' => n'
    | _ => n) capacity

/-- A thread is to be forgotten: there are too many, and it has been remembered for the longest
time. -/
structure Due (capacity : Nat) (ms : List Moment) (thread : ThreadId) : Prop where
  exceeded : ∃ many : List ThreadId, many.Nodup ∧ (∀ t ∈ many, Remembered ms t) ∧
    room capacity ms < many.length
  remembered : Remembered ms thread
  oldest : ∀ other, Remembered ms other → other ≠ thread → Earlier ms thread other

/-- No thread was forgotten unless it was due. -/
def Fair (capacity : Nat) (ms : List Moment) : Prop :=
  ∀ before thread later, ms = before ++ .evicted thread :: later → Due capacity before thread

section

variable {ms before later : List Moment} {m x : Moment} {thread other : ThreadId}
  {capacity time : Nat}

private theorem concat_eq_append_cons : ms ++ [m] = before ++ x :: later ↔
    (ms = before ∧ m = x ∧ later = []) ∨
      ∃ rest, ms = before ++ x :: rest ∧ later = rest ++ [m] := by
  constructor
  · intro same
    rcases List.eq_nil_or_concat later with rfl | ⟨rest, last, rfl⟩
    · obtain ⟨front, back⟩ := List.append_inj' same rfl
      exact .inl ⟨front, (List.cons.inj back).1, rfl⟩
    · rw [List.concat_eq_append, ← List.cons_append, ← List.append_assoc] at same
      obtain ⟨front, back⟩ := List.append_inj' same rfl
      obtain rfl := (List.cons.inj back).1
      exact .inr ⟨rest, front, List.concat_eq_append⟩
  · rintro (⟨rfl, rfl, rfl⟩ | ⟨rest, rfl, rfl⟩)
    · rfl
    · simp

theorem remembered_concat : Remembered (ms ++ [m]) thread ↔
    m = .died thread ∨ Remembered ms thread ∧ m ≠ .started thread ∧ m ≠ .evicted thread := by
  constructor
  · rintro ⟨before, later, same, away, kept⟩
    rcases concat_eq_append_cons.1 same with ⟨-, rfl, -⟩ | ⟨rest, rfl, rfl⟩
    · exact .inl rfl
    · simp only [List.mem_append, List.mem_singleton, not_or] at away kept
      exact .inr ⟨⟨before, rest, rfl, away.1, kept.1⟩, Ne.symm away.2, Ne.symm kept.2⟩
  · rintro (rfl | ⟨⟨before, later, rfl, away, kept⟩, apart, apart'⟩)
    · exact ⟨ms, [], rfl, List.not_mem_nil, List.not_mem_nil⟩
    · refine ⟨before, later ++ [m], by simp, ?_, ?_⟩
      · simpa [away] using Ne.symm apart
      · simpa [kept] using Ne.symm apart'

theorem FirstDied.concat (h : FirstDied ms thread time) (apart : m ≠ .started thread)
    (apart' : m ≠ .evicted thread) : FirstDied (ms ++ [m]) thread time := by
  obtain ⟨before, later, rfl, rfl, away, kept, first⟩ := h
  refine ⟨before, later ++ [m], by simp, rfl, ?_, ?_, first⟩
  · simpa [away] using Ne.symm apart
  · simpa [kept] using Ne.symm apart'

theorem firstDied_died (h : ¬ Remembered ms thread) :
    FirstDied (ms ++ [.died thread]) thread ms.length :=
  ⟨ms, [], rfl, rfl, List.not_mem_nil, List.not_mem_nil, h⟩

/-- Who is remembered has ended for the first time at some moment. -/
theorem Remembered.first (h : Remembered ms thread) :
    ∃ time < ms.length, FirstDied ms thread time := by
  induction ms using List.reverseRecOn with
  | nil =>
    obtain ⟨before, later, same, -⟩ := h
    simp at same
  | append_singleton ms m ih =>
    rw [List.length_append, List.length_singleton]
    by_cases before : Remembered ms thread
    · obtain ⟨time, past, first⟩ := ih before
      refine ⟨time, Nat.lt_succ_of_lt past, ?_⟩
      rcases remembered_concat.1 h with rfl | ⟨-, apart, apart'⟩
      · exact first.concat nofun nofun
      · exact first.concat apart apart'
    · obtain rfl := (remembered_concat.1 h).resolve_right fun h => before h.1
      exact ⟨ms.length, Nat.lt_succ_self _, firstDied_died before⟩

theorem Earlier.concat (h : Earlier ms thread other)
    (stays : ∀ t, t = thread ∨ t = other → m ≠ .started t ∧ m ≠ .evicted t) :
    Earlier (ms ++ [m]) thread other := by
  obtain ⟨time, time', first, first', less⟩ := h
  obtain ⟨apart, apart'⟩ := stays thread (.inl rfl)
  obtain ⟨away, away'⟩ := stays other (.inr rfl)
  exact ⟨time, time', first.concat apart apart', first'.concat away away', less⟩

theorem fair_concat :
    Fair capacity (ms ++ [m]) ↔ Fair capacity ms ∧ ∀ t, m = .evicted t → Due capacity ms t := by
  constructor
  · intro fair
    refine ⟨fun before t later same => fair before t (later ++ [m]) (by simp [same]), ?_⟩
    rintro t rfl
    exact fair ms t [] rfl
  · rintro ⟨fair, due⟩ before t later same
    rcases concat_eq_append_cons.1 same with ⟨rfl, last, -⟩ | ⟨rest, front, -⟩
    · exact due t last
    · exact fair before t rest front

end

/-! ## What is remembered -/

/-- A queue of those that are remembered, the longest first, and the room for them. -/
structure Recalls (capacity : Nat) (ms : List Moment) (queue : List ThreadId) (space : Nat) :
    Prop where
  space : room capacity ms = space
  distinct : queue.Nodup
  remembered : ∀ thread, thread ∈ queue ↔ Remembered ms thread
  ordered : queue.Pairwise (Earlier ms)

namespace Recalls

variable {capacity space : Nat} {ms : List Moment} {queue rest : List ThreadId} {thread : ThreadId}

theorem nil (capacity : Nat) : Recalls capacity [] [] capacity where
  space := rfl
  distinct := .nil
  remembered := by
    intro thread
    refine ⟨fun mem => absurd mem List.not_mem_nil, ?_⟩
    rintro ⟨before, later, same, -⟩
    simp at same
  ordered := .nil

private theorem ordered_concat {m : Moment} (ordered : queue.Pairwise (Earlier ms))
    (stays : ∀ t ∈ queue, m ≠ .started t ∧ m ≠ .evicted t) :
    queue.Pairwise (Earlier (ms ++ [m])) := by
  refine ordered.imp_of_mem fun mem mem' earlier => earlier.concat ?_
  rintro t (rfl | rfl)
  · exact stays t mem
  · exact stays t mem'

theorem started (h : Recalls capacity ms queue space) (thread : ThreadId) :
    Recalls capacity (ms ++ [.started thread]) (queue.filter (· ≠ thread)) space where
  space := by
    rw [room, List.foldl_append]
    exact h.space
  distinct := h.distinct.filter _
  remembered := by
    intro t
    rw [remembered_concat, List.mem_filter, h.remembered, decide_eq_true_eq]
    constructor
    · rintro ⟨known, apart⟩
      refine .inr ⟨known, ?_, nofun⟩
      rintro ⟨⟩
      exact apart rfl
    · intro kept
      obtain ⟨known, apart, -⟩ := kept.resolve_left nofun
      exact ⟨known, fun same => apart (same ▸ rfl)⟩
  ordered := by
    refine ordered_concat (h.ordered.sublist List.filter_sublist) fun t mem => ⟨?_, nofun⟩
    rintro ⟨⟩
    exact absurd (List.mem_filter.1 mem).2 (by simp)

/-- Who is remembered already keeps its place. -/
theorem again (h : Recalls capacity ms queue space) (known : thread ∈ queue) :
    Recalls capacity (ms ++ [.died thread]) queue space where
  space := by
    rw [room, List.foldl_append]
    exact h.space
  distinct := h.distinct
  remembered := by
    intro t
    rw [remembered_concat, ← h.remembered]
    refine ⟨fun mem => .inr ⟨mem, nofun, nofun⟩, ?_⟩
    rintro (⟨⟨⟩⟩ | ⟨mem, -⟩)
    · exact known
    · exact mem
  ordered := ordered_concat h.ordered fun _ _ => ⟨nofun, nofun⟩

theorem died (h : Recalls capacity ms queue space) (new : thread ∉ queue) :
    Recalls capacity (ms ++ [.died thread]) (queue ++ [thread]) space where
  space := by
    rw [room, List.foldl_append]
    exact h.space
  distinct := List.nodup_append.2 ⟨h.distinct, List.nodup_singleton _, fun t mem t' mem' same =>
    new (List.mem_singleton.1 mem' ▸ same ▸ mem)⟩
  remembered := by
    intro t
    rw [remembered_concat, List.mem_append, List.mem_singleton, h.remembered]
    constructor
    · rintro (mem | rfl)
      · exact .inr ⟨mem, nofun, nofun⟩
      · exact .inl rfl
    · rintro (⟨⟨⟩⟩ | ⟨mem, -⟩)
      · exact .inr rfl
      · exact .inl mem
  ordered := by
    have unknown : ¬ Remembered ms thread := fun known => new ((h.remembered _).2 known)
    refine List.pairwise_append.2 ⟨ordered_concat h.ordered fun _ _ => ⟨nofun, nofun⟩,
      List.pairwise_singleton _ _, fun t mem t' mem' => ?_⟩
    obtain rfl := List.mem_singleton.1 mem'
    obtain ⟨time, past, first⟩ := ((h.remembered t).1 mem).first
    exact ⟨time, ms.length, first.concat nofun nofun, firstDied_died unknown, past⟩

theorem resized (h : Recalls capacity ms queue space) (space' : Nat) :
    Recalls capacity (ms ++ [.resized space']) queue space' where
  space := by
    rw [room, List.foldl_append]
    rfl
  distinct := h.distinct
  remembered := by
    intro t
    rw [remembered_concat, h.remembered]
    exact ⟨fun mem => .inr ⟨mem, nofun, nofun⟩, fun h => (h.resolve_left nofun).1⟩
  ordered := ordered_concat h.ordered fun _ _ => ⟨nofun, nofun⟩

theorem evicted (h : Recalls capacity ms (thread :: rest) space) :
    Recalls capacity (ms ++ [.evicted thread]) rest space where
  space := by
    rw [room, List.foldl_append]
    exact h.space
  distinct := (List.nodup_cons.1 h.distinct).2
  remembered := by
    intro t
    have new := (List.nodup_cons.1 h.distinct).1
    rw [remembered_concat, ← h.remembered, List.mem_cons]
    constructor
    · intro mem
      refine .inr ⟨.inr mem, nofun, ?_⟩
      rintro ⟨⟩
      exact new mem
    · intro kept
      obtain ⟨mem, -, apart⟩ := kept.resolve_left nofun
      exact mem.resolve_left fun same => apart (same ▸ rfl)
  ordered := by
    refine ordered_concat (List.pairwise_cons.1 h.ordered).2 fun t mem => ⟨nofun, ?_⟩
    rintro ⟨⟩
    exact (List.nodup_cons.1 h.distinct).1 mem

/-- Whoever is first in the queue is to be forgotten when there are too many. -/
theorem due (h : Recalls capacity ms (thread :: rest) space) (many : space < rest.length + 1) :
    Due capacity ms thread where
  exceeded := ⟨thread :: rest, h.distinct, fun t mem => (h.remembered t).1 mem, by
    rw [h.space]
    exact many⟩
  remembered := (h.remembered thread).1 List.mem_cons_self
  oldest := by
    intro other known apart
    have mem := (List.mem_cons.1 ((h.remembered other).2 known)).resolve_left apart
    exact (List.pairwise_cons.1 h.ordered).1 other mem

/-- As many are forgotten as there are too many. -/
theorem evict (h : Recalls capacity ms queue space) (fair : Fair capacity ms) :
    Recalls capacity (ms ++ (queue.take (queue.length - space)).map .evicted)
        (queue.drop (queue.length - space)) space ∧
      Fair capacity (ms ++ (queue.take (queue.length - space)).map .evicted) := by
  induction queue generalizing ms with
  | nil => exact ⟨by simpa using h, by simpa using fair⟩
  | cons first rest ih =>
    by_cases many : space < rest.length + 1
    · have count : (first :: rest).length - space = rest.length - space + 1 := by
        rw [List.length_cons]
        omega
      rw [count, List.take_succ_cons, List.drop_succ_cons, List.map_cons, List.append_cons]
      refine ih h.evicted (fair_concat.2 ⟨fair, ?_⟩)
      rintro t ⟨⟩
      exact h.due many
    · have count : (first :: rest).length - space = 0 := by
        rw [List.length_cons]
        omega
      rw [count]
      exact ⟨by simpa using h, by simpa using fair⟩

end Recalls

/-! ## What the memory does -/

private theorem contains_erase (set : Table ThreadId Unit) (thread thread' : ThreadId) :
    (set.erase thread).contains thread' = true ↔
      set.contains thread' = true ∧ thread' ≠ thread := by
  rw [Table.contains_eq_isSome, Table.get?_erase, Table.contains_eq_isSome]
  split <;> simp [*]

private theorem contains_insert (set : Table ThreadId Unit) (thread thread' : ThreadId) :
    (set.insert thread ()).contains thread' = true ↔
      set.contains thread' = true ∨ thread' = thread := by
  rw [Table.contains_eq_isSome, Table.get?_insert, Table.contains_eq_isSome]
  split <;> simp [*]

/-- The queue and the set stay the same threads. -/
private theorem contains_evictFrom {capacity : Nat} {queue : List ThreadId}
    {set : Table ThreadId Unit} (distinct : queue.Nodup)
    (same : ∀ thread, set.contains thread = true ↔ thread ∈ queue) (thread : ThreadId) :
    (evictFrom capacity queue set).2.contains thread = true ↔
      thread ∈ (evictFrom capacity queue set).1 := by
  induction queue generalizing set with
  | nil => exact same thread
  | cons oldest rest ih =>
    rw [evictFrom]
    split
    · obtain ⟨new, distinct⟩ := List.nodup_cons.1 distinct
      refine ih distinct fun t => ?_
      rw [contains_erase, same, List.mem_cons]
      constructor
      · exact fun h => h.1.resolve_left h.2
      · exact fun mem => ⟨.inr mem, fun same => new (same ▸ mem)⟩
    · exact same thread

variable {capacity : Nat} {ms : List Moment} {c : ThreadCache}

/-- What is remembered is in order, while there may be too much. -/
structure Sound (c : ThreadCache) : Prop where
  distinct : c.dead.Nodup
  listed : ∀ thread, c.isDead thread = true ↔ thread ∈ c.dead
  apart : ∀ thread ∈ c.dead, c.name? thread = none

theorem Sound.evict (h : c.Sound) : c.evict.Sound where
  distinct := by
    show (evictFrom c.capacity c.dead c.deadSet).1.Nodup
    rw [evictFrom_fst]
    exact h.distinct.sublist (List.drop_sublist _ _)
  listed := contains_evictFrom h.distinct h.listed
  apart := by
    intro thread mem
    have mem : thread ∈ (evictFrom c.capacity c.dead c.deadSet).1 := mem
    rw [evictFrom_fst] at mem
    exact h.apart thread (List.mem_of_mem_drop mem)

/-- Whoever is missing from the queue afterwards was at its front. -/
private theorem Sound.lost_evict (h : c.Sound) :
    c.evict.lost c.dead = (c.dead.take (c.dead.length - c.capacity)).map .evicted := by
  have kept : ∀ thread, c.evict.isDead thread = true ↔
      thread ∈ c.dead.drop (c.dead.length - c.capacity) := by
    intro thread
    rw [h.evict.listed, ← evictFrom_fst c.capacity c.dead c.deadSet]
    rfl
  have parts := List.take_append_drop (c.dead.length - c.capacity) c.dead
  have distinct := h.distinct
  rw [← parts] at distinct
  have gone : ∀ thread ∈ c.dead.take (c.dead.length - c.capacity),
      (!c.evict.isDead thread) = true := by
    intro thread mem
    rw [Bool.not_eq_true', ← Bool.not_eq_true, kept]
    exact fun mem' => (List.nodup_append.1 distinct).2.2 thread mem thread mem' rfl
  have stays : ∀ thread ∈ c.dead.drop (c.dead.length - c.capacity),
      ¬ (!c.evict.isDead thread) = true := by
    intro thread mem
    rw [Bool.not_eq_true', (kept thread).2 mem]
    exact nofun
  have filtered := List.filter_append (p := fun thread => !c.evict.isDead thread)
    (c.dead.take (c.dead.length - c.capacity)) (c.dead.drop (c.dead.length - c.capacity))
  rw [parts, List.filter_eq_self.2 gone, List.filter_eq_nil_iff.2 stays,
    List.append_nil] at filtered
  rw [lost, filtered]

/-- What is remembered is what a history has left, and there is room for it. -/
structure Kept (capacity : Nat) (ms : List Moment) (c : ThreadCache) : Prop extends c.Sound where
  recalls : Recalls capacity ms c.dead c.capacity
  bounded : c.dead.length ≤ c.capacity
  fair : Fair capacity ms

theorem Sound.kept_evict (h : c.Sound) (recalls : Recalls capacity ms c.dead c.capacity)
    (fair : Fair capacity ms) : Kept capacity (ms ++ c.evict.lost c.dead) c.evict := by
  have dead : c.evict.dead = c.dead.drop (c.dead.length - c.capacity) :=
    evictFrom_fst c.capacity c.dead c.deadSet
  obtain ⟨recalls, fair⟩ := recalls.evict fair
  rw [← h.lost_evict] at recalls fair
  refine ⟨h.evict, ?_, ?_, fair⟩
  · rw [dead]
    exact recalls
  · exact bounded_evict c

theorem kept_new (capacity : Nat) : Kept capacity [] { capacity } where
  distinct := .nil
  listed _ := by simp [isDead, Table.contains]
  apart _ mem := absurd mem List.not_mem_nil
  recalls := .nil capacity
  bounded := Nat.zero_le _
  fair _ _ _ same := by simp at same

/-! ## Histories of the memory -/

namespace Kept

private theorem fair_of_kept {m : Moment} (fair : Fair capacity ms)
    (keeps : ∀ thread, m ≠ .evicted thread) : Fair capacity (ms ++ [m]) :=
  fair_concat.2 ⟨fair, fun thread same => absurd same (keeps thread)⟩

theorem started (h : c.Kept capacity ms) (thread : ThreadId) (name : String) :
    (c.started thread name).Kept capacity (ms ++ [.started thread]) := by
  have recalls := h.recalls.started thread
  have fair : Fair capacity (ms ++ [.started thread]) := fair_of_kept h.fair nofun
  have named : ∀ t ≠ thread, (c.live.insert thread name).get? t = c.live.get? t := fun t apart => by
    rw [Table.get?_insert, if_neg apart]
  unfold ThreadCache.started
  dsimp only
  split
  · refine ⟨⟨h.distinct.filter _, fun t => ?_, fun t mem => ?_⟩, recalls, ?_, fair⟩
    · show (c.deadSet.erase thread).contains t = true ↔ _
      rw [contains_erase, List.mem_filter, decide_eq_true_eq]
      exact and_congr_left' (h.listed t)
    · obtain ⟨mem, apart⟩ := List.mem_filter.1 mem
      exact (named t (of_decide_eq_true apart)).trans (h.apart t mem)
    · exact Nat.le_trans (List.length_filter_le _ _) h.bounded
  · rename_i unknown
    have apart : ∀ t ∈ c.dead, t ≠ thread := fun t mem same => unknown (same ▸ (h.listed t).2 mem)
    rw [List.filter_eq_self.2 fun t mem => decide_eq_true (apart t mem)] at recalls
    exact ⟨⟨h.distinct, h.listed, fun t mem => (named t (apart t mem)).trans (h.apart t mem)⟩,
      recalls, h.bounded, fair⟩

private theorem gone_erase {thread t : ThreadId} (gone : c.name? t = none) :
    (c.live.erase thread).get? t = none := by
  rw [Table.get?_erase]
  split
  · rfl
  · exact gone

theorem died (h : c.Kept capacity ms) (thread : ThreadId) :
    (c.died thread).Kept capacity (ms ++ c.moments (.died thread)) := by
  have fair : Fair capacity (ms ++ [.died thread]) := fair_of_kept h.fair nofun
  unfold moments
  rw [List.append_cons]
  by_cases known : c.isDead thread = true
  · have same : c.died thread = { c with live := c.live.erase thread } := if_pos known
    have none_lost : lost { c with live := c.live.erase thread } c.dead = [] := by
      have kept : ∀ t ∈ c.dead, ¬ (!c.isDead t) = true := fun t mem => by
        simp [(h.listed t).2 mem]
      exact congrArg (List.map Moment.evicted) (List.filter_eq_nil_iff.2 kept)
    rw [if_pos known, same, none_lost, List.append_nil]
    exact ⟨⟨h.distinct, h.listed, fun t mem => gone_erase (h.apart t mem)⟩,
      h.recalls.again ((h.listed thread).1 known), h.bounded, fair⟩
  · have new : thread ∉ c.dead := fun mem => known ((h.listed thread).2 mem)
    let longer : ThreadCache := { c with
      live := c.live.erase thread
      dead := c.dead ++ [thread]
      deadSet := c.deadSet.insert thread () }
    have same : c.died thread = longer.evict := if_neg known
    have recalls : Recalls capacity (ms ++ [.died thread]) longer.dead longer.capacity :=
      h.recalls.died new
    have sound : longer.Sound := by
      refine ⟨recalls.distinct, fun t => ?_, fun t mem => ?_⟩
      · show (c.deadSet.insert thread ()).contains t = true ↔ t ∈ c.dead ++ [thread]
        rw [contains_insert, List.mem_append, List.mem_singleton]
        exact or_congr_left (h.listed t)
      · rcases List.mem_append.1 mem with mem | mem
        · exact gone_erase (h.apart t mem)
        · show (c.live.erase thread).get? t = none
          rw [Table.get?_erase, if_pos (List.mem_singleton.1 mem)]
    rw [if_neg known, same]
    exact sound.kept_evict recalls fair

theorem setCapacity (h : c.Kept capacity ms) (space : Nat) :
    (c.setCapacity space).Kept capacity (ms ++ c.moments (.setCapacity space)) := by
  have sound : Sound { c with capacity := space } := ⟨h.distinct, h.listed, h.apart⟩
  have fair : Fair capacity (ms ++ [.resized space]) := fair_of_kept h.fair nofun
  rw [moments, List.append_cons]
  exact sound.kept_evict (h.recalls.resized space) fair

theorem perform (h : c.Kept capacity ms) (op : Operation) :
    (c.perform op).Kept capacity (ms ++ c.moments op) := by
  cases op with
  | started thread name => exact h.started thread name
  | died thread => exact h.died thread
  | setCapacity space => exact h.setCapacity space

/-- That a thread has ended which is remembered already changes nothing. -/
theorem died_again (h : c.Kept capacity ms) {thread : ThreadId} (known : c.isDead thread = true) :
    c.died thread = c := by
  have gone : c.live.erase thread = c.live := by
    have none_named : ∀ e ∈ c.live.entries, decide (e.1 ≠ thread) = true := by
      intro e mem
      have found : (c.live.get? thread).isSome = false := by
        rw [show c.live.get? thread = none from h.apart thread ((h.listed thread).1 known)]
        rfl
      refine decide_eq_true fun same => ?_
      have there : thread ∈ c.live.keys := same ▸ List.mem_map_of_mem mem
      rw [Table.isSome_get?.2 there] at found
      cases found
    exact congrArg Table.mk (List.filter_eq_self.2 none_named)
  have same : c.died thread = { c with live := c.live.erase thread } := if_pos known
  rw [same, gone]

end Kept

theorem kept_after (capacity : Nat) (ops : List Operation) :
    Kept capacity (({ capacity } : ThreadCache).history ops)
      (({ capacity } : ThreadCache).after ops) := by
  induction ops using List.reverseRecOn with
  | nil => exact kept_new capacity
  | append_singleton ops op ih =>
    rw [history_concat, after_concat]
    exact ih.perform op

/-- After every history, with any room at first, the queue and the set of those that have ended are
the same threads, of which none lives, and no more than there is room for. They are the ones that
have ended and have neither started nor been forgotten since. Whoever was forgotten had to be
then. -/
theorem remembers_in_order (capacity : Nat) (ops : List Operation) :
    let c := ({ capacity } : ThreadCache).after ops
    let ms := ({ capacity } : ThreadCache).history ops
    (c.dead.Nodup ∧ (∀ thread, thread ∈ c.dead ↔ c.deadSet.contains thread = true) ∧
        (∀ thread ∈ c.dead, c.name? thread = none) ∧
        c.capacity = room capacity ms ∧ c.dead.length ≤ c.capacity) ∧
      (∀ thread, c.isDead thread = true ↔ Remembered ms thread) ∧
      (∀ before thread later, ms = before ++ .evicted thread :: later →
        Due capacity before thread) ∧
      ∀ thread, c.isDead thread = true → c.died thread = c := by
  intro c ms
  have kept : Kept capacity ms c := kept_after capacity ops
  refine ⟨⟨kept.distinct, fun thread => (kept.listed thread).symm, kept.apart,
    kept.recalls.space.symm, kept.bounded⟩, fun thread => ?_, kept.fair, fun _ => kept.died_again⟩
  rw [kept.listed, kept.recalls.remembered]

/-! ## Deaths that are forgotten -/

/-- When the thread ended for the first time since it was last started, whether it was forgotten
since or not. -/
def FirstDiedSinceStart (ms : List Moment) (thread : ThreadId) (time : Nat) : Prop :=
  ∃ before later, ms = before ++ .died thread :: later ∧ before.length = time ∧
    .started thread ∉ later ∧
    ∀ front back, before = front ++ .died thread :: back → .started thread ∈ back

/-- A thread that was forgotten and is then said again to have ended counts as the last one that
has, so that another one is forgotten that ended after it at first. -/
theorem forgets_later_death :
    ¬ ∀ before thread later,
      ({ capacity := 2 } : ThreadCache).history [.died 1, .died 2, .died 3, .died 1] =
          before ++ .evicted thread :: later →
        ∀ other, Remembered before other → other ≠ thread →
          ∀ time time', FirstDiedSinceStart before thread time →
            FirstDiedSinceStart before other time' → time < time' := by
  intro oldest
  let before : List Moment := [.died 1, .died 2, .died 3, .evicted 1, .died 1]
  have again : Remembered before 1 := ⟨before.take 4, [], rfl, List.not_mem_nil, List.not_mem_nil⟩
  have second : FirstDiedSinceStart before 2 1 := by
    refine ⟨before.take 1, before.drop 2, rfl, rfl, by decide, fun front back same => ?_⟩
    have mem : Moment.died 2 ∈ before.take 1 := same ▸ by simp
    exact absurd mem (by decide)
  have first : FirstDiedSinceStart before 1 0 := by
    refine ⟨[], before.drop 1, rfl, rfl, by decide, fun front back same => ?_⟩
    simp at same
  exact absurd (oldest before 2 [] (by decide) 1 again (by decide) 1 0 second first) (by decide)

end DebugSession.ThreadCache
