import DebugSession.Proofs.Ledgers
import DebugSession.Proofs.Reconcile
/-!
After any operations on breakpoints, what the session knows of event requests and what stands on
the debuggee agree. Operations may fail at any call and be left at any point.
-/

namespace DebugSession

/-- What can be asked of the breakpoints of a session. -/
inductive BreakpointOperation where
  | setLines (source : String) (specs : List BreakpointSpec) (modified : Bool)
  | setFields (specs : List WatchpointSpec)
  | setExceptions (caught uncaught : Bool)
  | removeAll
  deriving DecidableEq, Repr

namespace Session

section

variable {V : Type} [Machine V]

def afterOperation (s : Session V) : BreakpointOperation → Session V
  | .setLines source specs modified =>
    ((setBreakpoints source specs modified).run.run advance s).2
  | .setFields specs => ((setWatchpoints specs).run.run advance s).2
  | .setExceptions caught uncaught =>
    ((setExceptionBreakpoints caught uncaught).run.run advance s).2
  | .removeAll => (removeBreakpoints.run advance s).2

def afterOperations (s : Session V) (ops : List BreakpointOperation) : Session V :=
  ops.foldl afterOperation s

end

variable {V : Type} [Machine V] [Ledger V]

/-- What a session knows of its event requests is so. -/
structure Consistent (s : Session V) : Prop where
  /-- A request leads to what is kept at its place and counts on it, and to nothing else. -/
  exact : ∀ r i, s.breakpoints.installed? r = some i ↔
    s.breakpoints.at? i.place = some i ∧ r ∈ i.requests
  keyed : ∀ p i, s.breakpoints.at? p = some i → i.place = p
  single : ∀ p i, s.breakpoints.at? p = some i → i.requests.length ≤ 1
  /-- Every request that is noted leads somewhere. -/
  total : ∀ r ∈ s.breakpoints.owners.keys, ∃ i, s.breakpoints.installed? r = some i
  standing : ∀ r ∈ s.breakpoints.owners.keys,
    ∃ q, Ledger.live s.machine r = some q ∧ q.isPlaced = true
  covered : ∀ r q, Ledger.live s.machine r = some q → q.isPlaced = true →
    r ∈ s.breakpoints.owners.keys ∨ s.DeleteFailed r
  remembered : ∀ r, s.breakpoints.exceptionRequest = some r →
    ∃ q, Ledger.live s.machine r = some q ∧ q.isException = true
  sole : ∀ r q, Ledger.live s.machine r = some q → q.isException = true →
    s.breakpoints.exceptionRequest = some r ∨ s.DeleteFailed r

private theorem ofOwner?_of_at {b : Breakpoints} {i : Installed}
    (there : b.at? i.place = some i) : b.ofOwner? i.owner = some i := by
  have there : b.at? i.owner.place = some i := there
  rw [Breakpoints.ofOwner?_eq, there, Option.filter_some, Installed.owner_id]
  simp

omit [Machine V] [Ledger V] in
/-- While no request is loose, one leads to what is kept at its place and counts on it. -/
theorem installed?_iff {live : RequestId → Option EventRequest} {failed : RequestId → Prop}
    {b : Breakpoints} (h : Balanced live failed [] b) (r : RequestId) (i : Installed) :
    b.installed? r = some i ↔ b.at? i.place = some i ∧ r ∈ i.requests := by
  unfold Breakpoints.installed?
  constructor
  · intro found
    obtain ⟨o, noted, leads⟩ := Option.bind_eq_some_iff.1 found
    obtain ⟨j, there, rfl, mem⟩ := (h.kept r o noted).resolve_left (by simp)
    rw [ofOwner?_of_at there] at leads
    obtain rfl := Option.some.inj leads
    exact ⟨there, mem⟩
  · rintro ⟨there, mem⟩
    rw [h.noted i.place i there r mem]
    exact ofOwner?_of_at there

private theorem Booked.consistent {s : Session V} (h : s.Booked []) : s.Consistent where
  exact := installed?_iff h.books
  keyed := h.books.keyed
  single := h.books.single
  total := by
    intro r noted
    obtain ⟨o, noted⟩ := Option.isSome_iff_exists.1 (Table.isSome_get?.2 noted)
    obtain ⟨j, there, rfl, mem⟩ := (h.books.kept r o noted).resolve_left (by simp)
    refine ⟨j, ?_⟩
    unfold Breakpoints.installed?
    rw [noted]
    exact ofOwner?_of_at there
  standing := by
    intro r noted
    obtain ⟨o, noted⟩ := Option.isSome_iff_exists.1 (Table.isSome_get?.2 noted)
    exact h.books.standing r o noted
  covered r q stands placed := (h.books.covered r q stands placed).imp_left Table.isSome_get?.1
  remembered := h.books.remembered
  sole := h.books.sole

private theorem afterOperation_booked {s : Session V} (h : s.Booked [])
    (op : BreakpointOperation) : (s.afterOperation op).Booked [] := by
  cases op with
  | setLines source specs modified => exact setBreakpoints_settles source specs modified h
  | setFields specs => exact setWatchpoints_settles specs h
  | setExceptions caught uncaught => exact setExceptionBreakpoints_settles caught uncaught h
  | removeAll => exact removeBreakpoints_ends h

theorem afterOperations_booked {s : Session V} (h : s.Booked [])
    (ops : List BreakpointOperation) : (s.afterOperations ops).Booked [] := by
  induction ops generalizing s with
  | nil => exact h
  | cons op rest ih => exact ih (afterOperation_booked h op)

theorem start_booked {machine : V} (settings : Settings) (providers : Providers)
    (sound : Ledger.Sound machine) (fresh : ∀ r, Ledger.live machine r = none) :
    (start machine settings providers).Booked [] where
  sound := sound
  books :=
    { keyed := by rintro (_ | _) i ⟨⟩
      single := by rintro (_ | _) i ⟨⟩
      matched := by rintro (_ | _) i ⟨⟩
      noted := by rintro (_ | _) i ⟨⟩
      kept := by rintro r o ⟨⟩
      free := by simp
      standing := by rintro r o ⟨⟩
      covered := by
        intro r q stands
        exact absurd ((fresh r).symm.trans stands) (by simp)
      remembered := by rintro r ⟨⟩
      sole := by
        intro r q stands
        exact absurd ((fresh r).symm.trans stands) (by simp)
      distinct := List.nodup_nil }

/-- A session that begins with a debuggee without event requests is consistent after any
operations on breakpoints, whichever calls fail. -/
theorem consistent_afterOperations (machine : V) (settings : Settings) (providers : Providers)
    (sound : Ledger.Sound machine) (fresh : ∀ r, Ledger.live machine r = none)
    (ops : List BreakpointOperation) :
    ((start machine settings providers).afterOperations ops).Consistent :=
  (afterOperations_booked (start_booked settings providers sound fresh) ops).consistent

/-- A debuggee behind a plan by which the first deletion fails. -/
def reluctant : Faulty Debuggee :=
  { machine := {}, plan := [⟨.deleteRequest, 0, 1, .timeout 5⟩] }

def oneLine : Providers where
  lookup := some (.known [⟨"A.java", 7, none, ⟨"A", none, none, 7, []⟩⟩] [])

/-- A changed condition leaves the request that could not be deleted on the debuggee, beside the
new one and that for exceptions. -/
theorem consistent_after_failed_deletion :
    let s := (start reluctant {} oneLine).afterOperations
      [.setLines "A.java" [{ line := 7 }] false,
        .setLines "A.java" [{ line := 7, condition := some "x" }] false, .setExceptions true false]
    s.machine.machine.requests.keys = [1, 2, 3] ∧ s.breakpoints.owners.keys = [2] ∧
      s.breakpoints.exceptionRequest = some 3 ∧ s.Consistent := by
  refine ⟨by decide +kernel, by decide +kernel, by decide +kernel, ?_⟩
  refine consistent_afterOperations reluctant {} oneLine ?_ (fun _ => rfl) _
  intro r request found
  cases found

end Session
end DebugSession
