import DebugSession.Proofs.Ledgers
import DebugSession.Proofs.Tables
/-!
Machines that give out the numbers of requests one after the other, and on which no thread stands
still once all were let run. A debuggee held in memory is one, also behind a plan of faults.
-/

namespace DebugSession

variable {V : Type} [Machine V]

/-- No request gets a number that another one has had before. -/
class Numbers (V : Type) [Machine V] [Ledger V] where
  /-- The last number that was given out. -/
  last : V → RequestId
  known : ∀ v, Ledger.Sound v → ∀ r q, Ledger.live v r = some q → r ≤ last v
  last_submit : ∀ c v, last (Machine.submit c v).2 = last v
  last_perform : ∀ c v, last v ≤ last (Machine.perform c v).2
  fresh : ∀ q v id, (Machine.perform (.createRequest q) v).1 = .ok id → last v < id

/-- Threads stand still or run, and run once all were let run. -/
class Halting (V : Type) [Machine V] where
  halted : V → ThreadId → Prop
  resumed : ∀ v, (Machine.perform .resumeAll v).1 = .ok () →
    ∀ thread, ¬ halted (Machine.perform .resumeAll v).2 thread

namespace Machine.Answers

variable {v v' : V}

theorem last [Ledger V] [Numbers V] {c : Call} {r : Except RemoteError c.Reply}
    (h : Machine.Answers c v r v') : Numbers.last v ≤ Numbers.last v' := by
  cases h with
  | unasked => exact Nat.le_refl _
  | undone => exact Nat.le_of_eq (Numbers.last_submit c v).symm
  | done =>
    rw [← Numbers.last_submit c v]
    exact Numbers.last_perform c _

theorem fresh [Ledger V] [Numbers V] {q : EventRequest} {id : RequestId}
    (h : Machine.Answers (.createRequest q) v (.ok id) v') : Numbers.last v < id := by
  generalize answer : (Except.ok id : Except RemoteError (Call.createRequest q).Reply) = r at h
  cases h with
  | unasked => cases answer
  | undone => cases answer
  | done =>
    rw [← Numbers.last_submit (.createRequest q) v]
    exact Numbers.fresh q _ id answer.symm

theorem resumed [Halting V] (h : Machine.Answers .resumeAll v (.ok ()) v') (thread : ThreadId) :
    ¬ Halting.halted v' thread := by
  generalize answer : (Except.ok () : Except RemoteError Call.resumeAll.Reply) = r at h
  cases h with
  | unasked => cases answer
  | undone => cases answer
  | done => exact Halting.resumed _ answer.symm thread

end Machine.Answers

/-! ## In memory -/

namespace Debuggee

instance : Numbers Debuggee where
  last d := d.lastRequest
  known _ sound r q := sound r q
  last_submit _ _ := rfl
  last_perform c d := by
    by_cases create : ∃ q, c = .createRequest q
    · obtain ⟨q, rfl⟩ := create
      exact Nat.le_succ _
    · by_cases delete : ∃ r, c = .deleteRequest r
      · obtain ⟨r, rfl⟩ := delete
        show d.lastRequest ≤ (d.deleteRequest r).2.lastRequest
        unfold deleteRequest
        simp only
        split <;> exact Nat.le_refl _
      · have same := book_perform c d (not_exists.1 create) (not_exists.1 delete)
        exact Nat.le_of_eq (Prod.mk.inj same).2.symm
  fresh := by
    rintro q d id ⟨⟩
    exact Nat.lt_succ_self _

def Halted (d : Debuggee) (thread : ThreadId) : Prop :=
  ∃ t, d.threads.get? thread = some t ∧ t.suspended = true

instance (d : Debuggee) (thread : ThreadId) : Decidable (d.Halted thread) :=
  decidable_of_iff ((d.threads.get? thread).any VmThread.suspended = true)
    (by simp only [Halted, Option.any_eq_true])

private theorem halted_runThread {d : Debuggee} {thread t : ThreadId}
    (h : (d.runThread thread).Halted t) : t ≠ thread ∧ d.Halted t := by
  unfold runThread at h
  split at h
  · obtain ⟨x, found, suspended⟩ := h
    simp only [Table.get?_modify] at found
    split at found
    · obtain ⟨y, -, rfl⟩ := Option.map_eq_some_iff.1 found
      cases suspended
    · rename_i other
      exact ⟨other, x, found, suspended⟩
  · rename_i unknown
    obtain ⟨x, found, suspended⟩ := h
    refine ⟨?_, x, found, suspended⟩
    rintro rfl
    rw [Table.contains_eq_isSome, found] at unknown
    exact unknown rfl

private theorem halted_foldl {threads : List ThreadId} {d : Debuggee} {t : ThreadId}
    (h : (threads.foldl runThread d).Halted t) : t ∉ threads ∧ d.Halted t := by
  induction threads generalizing d with
  | nil => exact ⟨List.not_mem_nil, h⟩
  | cons thread rest ih =>
    obtain ⟨away, stood⟩ := ih h
    obtain ⟨other, stands⟩ := halted_runThread stood
    exact ⟨List.not_mem_cons_of_ne_of_not_mem other away, stands⟩

private theorem mem_suspendedThreads {d : Debuggee} {t : ThreadId} (h : d.Halted t) :
    t ∈ d.suspendedThreads := by
  obtain ⟨x, found, suspended⟩ := h
  have listed : (t, x) ∈ d.threads.sortedBy id := List.mem_mergeSort.2 (Table.mem_of_get? found)
  exact List.mem_map.2 ⟨(t, x), List.mem_filter.2 ⟨listed, suspended⟩, rfl⟩

instance : Halting Debuggee where
  halted := Halted
  resumed _ _ _ stands :=
    have ⟨away, stood⟩ := halted_foldl stands
    away (mem_suspendedThreads stood)

end Debuggee

namespace Faulty

instance [Ledger V] [Numbers V] : Numbers (Faulty V) where
  last m := Numbers.last m.machine
  known m sound := Numbers.known m.machine sound
  last_submit c m := by
    simp only [Machine.submit]
    split
    · rfl
    · exact Numbers.last_submit c m.machine
  last_perform c m := Numbers.last_perform c m.machine
  fresh q m id made := Numbers.fresh q m.machine id made

instance [Halting V] : Halting (Faulty V) where
  halted m := Halting.halted m.machine
  resumed m := Halting.resumed m.machine

end Faulty
end DebugSession
