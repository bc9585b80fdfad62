import DebugSession.Proofs.Identity
import DebugSession.Proofs.Watchlists
/-!
Sessions whose breakpoints have been changed by one operation after the other since they began.
Their books are balanced, breakpoints and watchpoints are where they belong, and the numbers of
watchpoints were all given out.
-/

namespace DebugSession

namespace Session

variable {V : Type} {s s' : Session V}

/-! ## Numbers -/

/-- Numbers are never taken back. -/
def Counts (s s' : Session V) : Prop := s.breakpoints.issued ≤ s'.breakpoints.issued

theorem Counts.of_eq (same : s'.breakpoints = s.breakpoints) : Counts s s' :=
  Nat.le_of_eq (by rw [same])

variable [Machine V]

instance : Composes (Counts (V := V)) where
  refl _ := Nat.le_refl _
  trans := Nat.le_trans

instance : Ambient (Counts (V := V)) where
  advance _ _ := .of_eq rfl
  cancel _ := .of_eq rfl

private theorem counts_allows (c : Call) : Allows (Counts (V := V)) c :=
  allows_of_parts (fun _ => .of_eq rfl) (fun _ => .of_eq rfl) fun _ _ => .of_eq rfl

instance : Relines (Counts (V := V)) where
  delete _ := counts_allows _
  steps _ _ := .of_eq rfl
  tokens _ _ := .of_eq rfl
  loaded _ := counts_allows _
  create _ := counts_allows _
  beside _ _ h := h.issued
  breakpoints _ _ h := h.issued

instance : Enlists (Counts (V := V)) where
  line _ _ := .of_eq rfl

theorem afterOperation_counts (s : Session V) (op : BreakpointOperation) :
    Counts s (s.afterOperation op) := by
  rw [← op.run_task]
  exact (op.task_moves (R := Counts)).ends Ambient.advance s

private theorem deleteGivenUp_fields (gone : List Installed) (s : Session V) :
    Task.Ends (deleteGivenUp gone) s fun _ s' =>
      s'.breakpoints.watchpoints = s.breakpoints.watchpoints := by
  induction gone generalizing s with
  | nil => rfl
  | cons i rest ih =>
    unfold deleteGivenUp
    rw [Task.ends_bind, Task.ends_modify, Task.ends_bind]
    apply (deleteRequests_tended i.requests _).mono
    rintro _ s₁ ⟨-, -, -, owners, same⟩
    apply (ih s₁).mono
    intro _ s' left
    rw [left, same]
    rfl

private theorem removeExceptionRequest_fields (s : Session V) :
    Task.Ends removeExceptionRequest s fun _ s' =>
      s'.breakpoints.watchpoints = s.breakpoints.watchpoints := by
  unfold removeExceptionRequest
  rw [Task.ends_bind, Task.ends_get]
  split
  · rfl
  · simp only [Task.ends_bind, Task.ends_modify, Task.ends_pure]
    apply (tryCall_ends _ _).mono
    rintro r s' ⟨machine, clock, cancelled, rfl, -⟩
    rfl

private theorem setExceptionBreakpoints_fields (caught uncaught : Bool) (s : Session V) :
    Settles (setExceptionBreakpoints caught uncaught) s fun _ s' =>
      s'.breakpoints.watchpoints = s.breakpoints.watchpoints := by
  unfold setExceptionBreakpoints
  rw [settles_exclusively, settles_bind, settles_quietly]
  apply (removeExceptionRequest_fields _).mono
  intro _ s₁ same
  dsimp only
  split
  · simp only [settles_bind, settles_orFail, settles_modify]
    refine (tryCall_ends (.createRequest (.exception none caught uncaught)) s₁).mono ?_
    rintro r s₂ ⟨machine, clock, cancelled, rfl, -⟩
    cases r with
    | ok id => exact same
    | error e => exact same
  · exact same

private theorem removeBreakpoints_fields (s : Session V) :
    Task.Ends removeBreakpoints s fun _ s' => s'.breakpoints.watchpoints = {} := by
  unfold removeBreakpoints giveUp
  simp only [Task.ends_bind, Task.ends_exclusively, Task.ends_modifyGet]
  apply (deleteGivenUp_fields _ _).mono
  rintro _ s₁ -
  apply (deleteGivenUp_fields _ _).mono
  intro _ s₂ none_left
  apply (removeExceptionRequest_fields _).mono
  intro _ s₃ same
  exact same.trans none_left

variable [Ledger V]

theorem Booked.watchpoint_keyed {loose : List RequestId} (h : s.Booked loose) :
    s.breakpoints.Keyed :=
  fun _ _ found => (h.books.watchpoint_stored found).1.symm

private theorem afterOperation_numbered (booked : s.Booked []) (filed : s.breakpoints.Filed)
    (h : s.breakpoints.Numbered) (op : BreakpointOperation) :
    (s.afterOperation op).breakpoints.Numbered := by
  have counts := afterOperation_counts s op
  cases op with
  | setLines source specs modified =>
    have carried := setBreakpoints_works source specs modified filed
    refine h.congr ?_ counts
    unfold Settles Task.Ends Carried at carried
    split at carried
    · obtain ⟨xs, worked, -⟩ := carried
      exact worked.watchpoints
    · obtain ⟨xs, worked, -⟩ := carried
      exact worked.watchpoints
  | setFields specs =>
    have tends := setWatchpoints_tends specs booked.watchpoint_keyed booked.books.distinct
    unfold Settles Task.Ends Tends at tends
    split at tends
    · obtain ⟨xs, tended, -⟩ := tends
      exact tended.numbered h
    · obtain ⟨xs, tended, -⟩ := tends
      exact tended.numbered h
  | setExceptions caught uncaught =>
    exact h.congr (setExceptionBreakpoints_fields caught uncaught s) counts
  | removeAll =>
    intro key w found
    have none_left : (s.afterOperation .removeAll).breakpoints.watchpoints = {} :=
      removeBreakpoints_fields s
    simp [Breakpoints.watchpoint?, none_left, Table.get?] at found

private theorem hit_numbered {request : RequestId} {i : Installed} (booked : s.Booked [])
    (h : s.breakpoints.Numbered) (found : s.breakpoints.installed? request = some i) :
    (s.breakpoints.hit i).2.Numbered := by
  unfold Breakpoints.hit Breakpoints.put
  dsimp only
  split
  · exact h.congr rfl (Nat.le_refl _)
  · rename_i stays
    cases i with
    | breakpoint bp => exact h.congr rfl (Nat.le_refl _)
    | watchpoint w =>
      have there := booked.books.at?_of_installed found stays
      obtain ⟨w', stored, same⟩ := Option.map_eq_some_iff.1 there
      obtain rfl := Installed.watchpoint.inj same
      exact h.put (h _ w' stored)

/-! ## One operation after the other -/

/-- A session to whose breakpoints one operation after the other has been done since it began, with
hits in between. Whatever else happens leaves requests for breakpoints, watchpoints and exceptions
on the debuggee, and makes no others. -/
inductive Maintained : Session V → Prop
  | start (machine : V) (settings : Settings) (providers : Providers)
    (sound : Ledger.Sound machine) (bare : ∀ r, Ledger.live machine r = none) :
    Maintained (start machine settings providers)
  | operation {s : Session V} (h : Maintained s) (op : BreakpointOperation) :
    Maintained (s.afterOperation op)
  | hit {s : Session V} {request : RequestId} {i : Installed} (h : Maintained s)
    (found : s.breakpoints.installed? request = some i) :
    Maintained { s with breakpoints := (s.breakpoints.hit i).2 }
  | beside {s s' : Session V} (h : Maintained s) (same : s'.breakpoints = s.breakpoints)
    (sound : Ledger.Sound s'.machine)
    (requests : ∀ r q, q.isPlaced = true ∨ q.isException = true →
      (Ledger.live s'.machine r = some q ↔ Ledger.live s.machine r = some q))
    (failed : ∀ r, s.DeleteFailed r → s'.DeleteFailed r) : Maintained s'

theorem Maintained.managed (h : Maintained s) : Managed s := by
  induction h with
  | start machine settings providers => exact .start machine settings providers
  | operation _ op managed => exact managed.operation op
  | hit _ found managed => exact managed.hit found
  | beside _ same _ _ _ managed => exact managed.beside same

theorem Maintained.booked (h : Maintained s) : s.Booked [] := by
  induction h with
  | start machine settings providers sound bare =>
    exact start_booked settings providers sound bare
  | operation _ op booked => exact afterOperations_booked booked [op]
  | hit _ found booked => exact ⟨booked.sound, booked.books.hit found⟩
  | beside _ same sound requests failed booked =>
    have books := booked.books.renew requests failed
    rw [← same] at books
    exact ⟨sound, books⟩

theorem Maintained.numbered (h : Maintained s) : s.breakpoints.Numbered := by
  induction h with
  | start machine settings providers =>
    intro key w found
    cases found
  | operation before op numbered =>
    exact afterOperation_numbered before.booked before.managed.filed numbered op
  | hit before found numbered => exact hit_numbered before.booked numbered found
  | beside _ same _ _ _ numbered => exact same ▸ numbered

end Session
end DebugSession
