import DebugSession.Proofs.Revisions
import DebugSession.Proofs.Watches
/-!
What bringing single watchpoints in line comes to, whichever calls fail: the calls that are made for
it, in order, and what is kept of the field. It is cut short by the loss of the debuggee only.
-/

namespace DebugSession

/-- Each watchpoint has a number that was given out. -/
def Breakpoints.Numbered (b : Breakpoints) : Prop :=
  ∀ key w, b.watchpoint? key = some w → ∃ count < b.issued, w.id = numberAfter count

theorem Breakpoints.Numbered.congr {b b' : Breakpoints} (h : b.Numbered)
    (fields : b'.watchpoints = b.watchpoints) (issued : b.issued ≤ b'.issued) : b'.Numbered := by
  intro key w found
  rw [watchpoint?, fields] at found
  obtain ⟨count, given, number⟩ := h key w found
  exact ⟨count, Nat.lt_of_lt_of_le given issued, number⟩

theorem Breakpoints.Numbered.put {b : Breakpoints} (h : b.Numbered) {w : Watchpoint}
    (number : ∃ count < b.issued, w.id = numberAfter count) : (b.putWatchpoint w).Numbered := by
  intro key w' found
  rw [watchpoint?_put, Function.update_apply] at found
  split at found
  · rw [← Option.some.inj found]
    exact number
  · exact h key w' found

theorem Breakpoints.Numbered.drop {b : Breakpoints} (h : b.Numbered) (key : String × String) :
    (b.dropWatchpoint key).Numbered := by
  intro key' w found
  rw [watchpoint?_drop, Function.update_apply] at found
  split at found
  · cases found
  · exact h key' w found

/-! ## What is planned -/

/-- The calls for a watchpoint that stays. There are none unless its condition changes. -/
def Watchpoint.revising (w : Watchpoint) (spec : WatchpointSpec) : List Call :=
  if w.installation.options.condition ≠ spec.options.1.condition && w.installation.verified then
    w.installation.removing ++ [.createRequest (Session.watchpointRequest (w.revised spec))]
  else []

/-- A watchpoint that stays, before and after an entry for its field has revised it. -/
structure Watchpoint.Continued (spec : WatchpointSpec) (old new : Watchpoint) : Prop where
  same : new = { old with installation := new.installation }
  options : new.installation.options = (old.revised spec).installation.options

namespace WatchpointSpec

/-- The request for a field that was not watched before. -/
def request (spec : WatchpointSpec) : EventRequest :=
  .watchpoint spec.className spec.fieldName spec.access spec.options.1.condition

/-- The calls for a field that was not watched before: its class is looked for first. -/
def creating (spec : WatchpointSpec) (declared : Bool) : List Call :=
  .referenceType spec.className :: if declared then [.createRequest spec.request] else []

/-- The watchpoint that is made of an entry for a field that was not watched before. -/
def watchpoint (spec : WatchpointSpec) (id : UInt32) (installation : Installation) : Watchpoint :=
  { id, className := spec.className, fieldName := spec.fieldName, access := spec.access
    installation }

end WatchpointSpec

/-- A new watchpoint. -/
structure Watchpoint.Made (spec : WatchpointSpec) (id : UInt32) (w : Watchpoint) : Prop where
  same : w = spec.watchpoint id w.installation
  options : w.installation.options = spec.options.1

namespace Session

variable {V α β : Type} {s s₁ s' : Session V} {xs xs' : List Exchange}

/-! ## Work on fields -/

/-- Calls were made, and watchpoints were changed at the most. -/
structure Tended (xs : List Exchange) (s s' : Session V) : Prop where
  calls : s'.calls = s.calls ++ xs
  sources : s'.breakpoints.sources = s.breakpoints.sources
  issued : s.breakpoints.issued ≤ s'.breakpoints.issued
  numbered : s.breakpoints.Numbered → s'.breakpoints.Numbered
  distinct : s.breakpoints.watchpoints.keys.Nodup → s'.breakpoints.watchpoints.keys.Nodup

theorem Tended.trans (h : Tended xs s s₁) (h' : Tended xs' s₁ s') :
    Tended (xs ++ xs') s s' where
  calls := by rw [h'.calls, h.calls, List.append_assoc]
  sources := h'.sources.trans h.sources
  issued := Nat.le_trans h.issued h'.issued
  numbered := h'.numbered ∘ h.numbered
  distinct := h'.distinct ∘ h.distinct

/-- Watchpoints are left alone. -/
theorem tended_beside (calls : s'.calls = s.calls ++ xs)
    (sources : s'.breakpoints.sources = s.breakpoints.sources)
    (watchpoints : s'.breakpoints.watchpoints = s.breakpoints.watchpoints)
    (issued : s.breakpoints.issued ≤ s'.breakpoints.issued) : Tended xs s s' :=
  ⟨calls, sources, issued, fun numbered => numbered.congr watchpoints issued,
    fun distinct => watchpoints ▸ distinct⟩

theorem tended_refl (s : Session V) : Tended [] s s :=
  tended_beside (List.append_nil _).symm rfl rfl (Nat.le_refl _)

/-- It does not matter who waits. -/
theorem Tended.in_line {line : Line} (h : Tended xs { s with line } s') (line' : Line) :
    Tended xs s { s' with line := line' } :=
  ⟨h.calls, h.sources, h.issued, h.numbered, h.distinct⟩

theorem tended_put {w : Watchpoint}
    (number : s.breakpoints.Numbered → ∃ count < s.breakpoints.issued, w.id = numberAfter count) :
    Tended [] s (modifyBreakpoints (fun b => b.putWatchpoint w) s) :=
  ⟨(List.append_nil _).symm, rfl, Nat.le_refl _, fun numbered => numbered.put (number numbered),
    fun distinct => Table.nodup_insert distinct _ _⟩

theorem tended_drop (s : Session V) (key : String × String) :
    Tended [] s (modifyBreakpoints (fun b => b.dropWatchpoint key) s) :=
  ⟨(List.append_nil _).symm, rfl, Nat.le_refl _, fun numbered => numbered.drop key,
    fun distinct => Table.nodup_erase distinct _⟩

/-- Work has come to what `Q` says with the calls that were made for it, or it has failed because
the debuggee is lost. -/
def Tends (s : Session V) (Q : α → List Exchange → Session V → Prop) :
    Except SessionError α → Session V → Prop
  | .ok a, s' => ∃ xs, Tended xs s s' ∧ Q a xs s'
  | .error e, s' => ∃ xs, Tended xs s s' ∧ e = .vmTerminated ∧ ∃ x ∈ xs, x.IsLost

section

variable {P : α → List Exchange → Session V → Prop} {Q : β → List Exchange → Session V → Prop}

theorem Tends.mono {r : Except SessionError α} {P' : α → List Exchange → Session V → Prop}
    (h : Tends s P r s') (imp : ∀ a xs, Tended xs s s' → P a xs s' → P' a xs s') :
    Tends s P' r s' := by
  cases r with
  | error e => exact h
  | ok a =>
    obtain ⟨xs, tended, holds⟩ := h
    exact ⟨xs, tended, imp a xs tended holds⟩

theorem Tends.after {r : Except SessionError α} (h : Tends s₁ P r s') (first : Tended [] s s₁) :
    Tends s P r s' := by
  cases r with
  | ok a =>
    obtain ⟨xs, tended, holds⟩ := h
    exact ⟨xs, first.trans tended, holds⟩
  | error e =>
    obtain ⟨xs, tended, lost⟩ := h
    exact ⟨xs, first.trans tended, lost⟩

theorem tends_mono {x : Action V α} {P' : α → List Exchange → Session V → Prop}
    (h : Settles x s (Tends s P)) (imp : ∀ a xs s', Tended xs s s' → P a xs s' → P' a xs s') :
    Settles x s (Tends s P') :=
  Settles.mono h fun _ s' tends => tends.mono fun a xs => imp a xs s'

/-- One thing after the other. -/
theorem tends_bind {x : Action V α} {f : α → Action V β} (first : Settles x s (Tends s P))
    (rest : ∀ a xs s₁, Tended xs s s₁ → P a xs s₁ →
      Settles (f a) s₁ (Tends s₁ fun b xs' => Q b (xs ++ xs'))) :
    Settles (x >>= f) s (Tends s Q) := by
  refine first.andThen ?_ fun _ _ failed => failed
  rintro a s₁ ⟨xs, tended, holds⟩
  refine (rest a xs s₁ tended holds).mono ?_
  intro r s' after
  cases r with
  | ok b =>
    obtain ⟨xs', tended', holds'⟩ := after
    exact ⟨xs ++ xs', tended.trans tended', holds'⟩
  | error e =>
    obtain ⟨xs', tended', terminated, x, hx, lost⟩ := after
    exact ⟨xs ++ xs', tended.trans tended', terminated, x, List.mem_append_right _ hx, lost⟩

theorem tends_pure {a : α} (holds : P a [] s) : Settles (pure a : Action V α) s (Tends s P) :=
  ⟨[], tended_refl s, holds⟩

theorem tends_quietly {x : Task (Session V) α}
    (h : Task.Ends x s fun a s' => ∃ xs, Tended xs s s' ∧ P a xs s') :
    Settles (quietly x) s (Tends s P) :=
  (settles_quietly x).2 h

/-- A change that comes before the first call. -/
theorem tends_first {x : Action V α} {f : Session V → Session V} (first : Tended [] s (f s))
    (h : Settles x (f s) (Tends (f s) P)) : Settles (do modify f; x) s (Tends s P) := by
  rw [settles_bind, settles_modify]
  exact Settles.mono h fun _ _ tends => tends.after first

theorem tends_modify {f : Session V → Session V} {P : List Exchange → Session V → Prop}
    (changed : Tended [] s (f s)) (holds : P [] (f s)) :
    Settles (modify f : Action V _) s (Tends s fun _ => P) :=
  ⟨[], changed, holds⟩

end

/-! ## Single watchpoints -/

/-- What is kept of a field is changed. -/
private theorem amend_tended {key : String × String} {w : Watchpoint}
    (stored : s.breakpoints.watchpoint? key = some w) (keyed : w.key = key)
    (f : Installation → Installation) :
    Tended [] s (amendWatchpoint key f s) ∧
      (amendWatchpoint key f s).breakpoints.issued = s.breakpoints.issued ∧
      (amendWatchpoint key f s).breakpoints.watchpoint? =
        Function.update s.breakpoints.watchpoint? key
          (some { w with installation := f w.installation }) := by
  simp only [amendWatchpoint, stored]
  refine ⟨tended_put fun numbered => numbered key w stored, rfl, ?_⟩
  rw [← keyed]
  exact Breakpoints.watchpoint?_put s.breakpoints { w with installation := f w.installation }

private theorem setOwner_tended (o : Owner) (outcome : Except String RequestId) (s : Session V) :
    Tended [] s (setOwner o outcome s) ∧
      ∃ owners, (setOwner o outcome s).breakpoints = { s.breakpoints with owners } := by
  cases outcome with
  | ok id => exact ⟨tended_beside (List.append_nil _).symm rfl rfl (Nat.le_refl _), _, rfl⟩
  | error text => exact ⟨tended_refl s, s.breakpoints.owners, rfl⟩

variable [Machine V]

private theorem tryCall_tended (c : Call) (s : Session V) :
    Task.Ends (tryCall c) s fun r s' =>
      Tended [.ofReply c r] s s' ∧ s'.breakpoints = s.breakpoints := by
  apply (tryCall_ends c s).mono
  rintro r s' ⟨machine, clock, cancelled, rfl, -⟩
  exact ⟨tended_beside rfl rfl rfl (Nat.le_refl _), rfl⟩

theorem deleteRequests_tended (rs : List RequestId) (s : Session V) :
    Task.Ends (deleteRequests rs) s fun _ s' =>
      ∃ xs, Tended xs s s' ∧ xs.map Exchange.call = rs.map .deleteRequest ∧
        ∃ owners, s'.breakpoints = { s.breakpoints with owners } := by
  apply (deleteRequests_works "" rs s).mono
  rintro _ s' ⟨xs, worked, deleted, owners, same⟩
  refine ⟨xs, tended_beside worked.calls ?_ ?_ ?_, deleted, owners, same⟩
  · rw [same]
  · rw [same]
  · exact Nat.le_of_eq (by rw [same])

omit [Machine V] in
/-- A call has failed. Without the debuggee all is over; else it is told why. -/
private theorem refused_tends {c : Call} {e : RemoteError} {γ : Type}
    (called : Tended [.ofReply c (.error e)] s s₁) (same : s₁.breakpoints = s.breakpoints) :
    Settles (if e.isDisconnect then throw .vmTerminated else return .error e.message :
      Action V (Except String γ)) s₁ (Tends s fun _ xs s' => xs.map Exchange.call = [c] ∧
        s'.breakpoints = s.breakpoints) := by
  split
  · rename_i gone
    refine ⟨_, called, rfl, _, List.mem_singleton_self _, ?_⟩
    cases e <;> simp_all [RemoteError.isDisconnect, Exchange.IsLost, Exchange.ofReply]
  · exact ⟨_, called, rfl, same⟩

private theorem installRequest_tends (q : EventRequest) (s : Session V) :
    Settles (installRequest q) s (Tends s fun _ xs s' =>
      xs.map Exchange.call = [.createRequest q] ∧ s'.breakpoints = s.breakpoints) := by
  unfold installRequest call
  simp only [settles_bind, settles_attempt]
  apply (tryCall_tended _ _).mono
  rintro answer s₁ ⟨called, same⟩
  cases answer with
  | ok id => exact ⟨_, called, rfl, same⟩
  | error e => exact refused_tends called same

private theorem placeWatchpoint_tends (w : Watchpoint) (s : Session V) :
    Settles (placeWatchpoint w) s (Tends s fun change xs s' =>
      xs.map Exchange.call = [.createRequest (watchpointRequest w)] ∧
        (∀ i, (change i).options = i.options) ∧
        ∃ owners, s'.breakpoints = { s.breakpoints with owners }) := by
  refine tends_bind (installRequest_tends _ s) ?_
  rintro outcome xs s₁ - ⟨planned, same⟩
  obtain ⟨noted, owners, same'⟩ :=
    setOwner_tended (.watchpoint w.className w.fieldName w.id) outcome s₁
  refine ⟨[], noted, ?_, ?_, owners, same'.trans (by rw [same])⟩
  · rwa [List.append_nil]
  · cases outcome <;> exact fun _ => rfl

/-- What is kept of a field is installed anew. -/
private theorem replaceWatchpoint_tends {key : String × String} {w : Watchpoint}
    (stored : s.breakpoints.watchpoint? key = some w) (keyed : w.key = key) :
    Settles (reinstall (amendWatchpoint key) w.installation.requests (placeWatchpoint w)) s
      (Tends s fun _ xs s' =>
        xs.map Exchange.call =
          w.installation.removing ++ [.createRequest (watchpointRequest w)] ∧
        s'.breakpoints.issued = s.breakpoints.issued ∧
        ∃ i, i.options = w.installation.options ∧ s'.breakpoints.watchpoint? =
          Function.update s.breakpoints.watchpoint? key (some { w with installation := i })) := by
  obtain ⟨emptied, issued, fields⟩ := amend_tended stored keyed fun i => { i with requests := [] }
  refine tends_first emptied (tends_bind (tends_quietly (deleteRequests_tended _ _)) ?_)
  rintro _ xs s₁ - ⟨deleted, owners, same⟩
  refine tends_bind (placeWatchpoint_tends w s₁) ?_
  rintro change xs' s₂ - ⟨placed, options, owners', same'⟩
  have there : s₂.breakpoints.watchpoint? key =
      some { w with installation := { w.installation with requests := [] } } := by
    rw [same', same]
    exact (congrFun fields key).trans (Function.update_self ..)
  obtain ⟨amended, issued', fields'⟩ := amend_tended there keyed change
  refine tends_modify amended ⟨?_, ?_, change { w.installation with requests := [] },
    options _, ?_⟩
  · simp [deleted, placed, Installation.removing]
  · rw [issued', same', same]
    exact issued
  · have left : s₂.breakpoints.watchpoint? =
        (amendWatchpoint key (fun i => { i with requests := [] }) s).breakpoints.watchpoint? := by
      rw [same', same]
      rfl
    rw [fields', left, fields, Function.update_idem]

/-- An entry for a field that is watched for the same access revises what is kept of it. -/
theorem reviseWatchpoint_tends {w : Watchpoint} {spec : WatchpointSpec}
    (stored : s.breakpoints.watchpoint? spec.key = some w) (keyed : w.key = spec.key) :
    Settles (reviseWatchpoint w spec) s (Tends s fun _ xs s' =>
      xs.map Exchange.call = w.revising spec ∧
        s'.breakpoints.issued = s.breakpoints.issued ∧
        ∃ w', w.Continued spec w' ∧ s'.breakpoints.watchpoint? =
          Function.update s.breakpoints.watchpoint? spec.key (some w')) := by
  have put : (s.breakpoints.putWatchpoint (w.revised spec)).watchpoint? =
      Function.update s.breakpoints.watchpoint? spec.key (some (w.revised spec)) :=
    keyed ▸ Breakpoints.watchpoint?_put s.breakpoints (w.revised spec)
  unfold reviseWatchpoint
  refine tends_first (tended_put fun numbered => numbered spec.key w stored) ?_
  split
  · rename_i changed
    have plan : w.revising spec =
        w.installation.removing ++ [.createRequest (watchpointRequest (w.revised spec))] :=
      if_pos changed
    have there := (congrFun put spec.key).trans (Function.update_self ..)
    refine tends_mono (replaceWatchpoint_tends (w := w.revised spec) there keyed) ?_
    rintro _ xs s' - ⟨planned, issued, i, options, fields⟩
    refine ⟨planned.trans plan.symm, issued, { w.revised spec with installation := i },
      ⟨rfl, options⟩, fields.trans ?_⟩
    exact (congrArg (Function.update · _ _) put).trans (Function.update_idem ..)
  · rename_i same
    exact tends_pure ⟨(if_neg same).symm, rfl, _, ⟨rfl, rfl⟩, put⟩

private theorem declaresField_tends (spec : WatchpointSpec) (s : Session V) :
    Settles (declaresField spec) s (Tends s fun _ xs s' =>
      xs.map Exchange.call = [.referenceType spec.className] ∧
        s'.breakpoints = s.breakpoints) := by
  unfold declaresField call
  simp only [settles_bind, settles_attempt]
  apply (tryCall_tended _ _).mono
  rintro answer s₁ ⟨called, same⟩
  cases answer with
  | ok t =>
    dsimp only
    split <;> exact ⟨_, called, rfl, same⟩
  | error e => exact refused_tends called same

/-- An entry for a field that is not watched is given the next number. -/
theorem createWatchpoint_tends (spec : WatchpointSpec) (s : Session V) :
    Settles (createWatchpoint spec) s (Tends s fun _ xs s' =>
      (∃ declared, xs.map Exchange.call = spec.creating declared) ∧
        s'.breakpoints.issued = s.breakpoints.issued + 1 ∧
        ∃ w : Watchpoint, w.Made spec (numberAfter s.breakpoints.issued) ∧
          s'.breakpoints.watchpoint? =
            Function.update s.breakpoints.watchpoint? spec.key (some w)) := by
  have stores : ∀ (i : Installation) (s₁ : Session V),
      (∃ owners, s₁.breakpoints = { s.breakpoints.takeId.2 with owners }) →
      Tended [] s₁ (modifyBreakpoints (fun b => b.putWatchpoint
        (spec.watchpoint (numberAfter s.breakpoints.issued) i)) s₁) ∧
      s₁.breakpoints.issued = s.breakpoints.issued + 1 ∧
      (s₁.breakpoints.putWatchpoint
          (spec.watchpoint (numberAfter s.breakpoints.issued) i)).watchpoint? =
        Function.update s.breakpoints.watchpoint? spec.key
          (some (spec.watchpoint (numberAfter s.breakpoints.issued) i)) := by
    rintro i s₁ ⟨owners, same⟩
    refine ⟨tended_put fun _ => ⟨s.breakpoints.issued, ?_, rfl⟩, ?_, ?_⟩
    · rw [same]
      exact Nat.lt_succ_self _
    · rw [same]
      rfl
    · rw [Breakpoints.watchpoint?_put, same]
      rfl
  unfold createWatchpoint takeBreakpointId
  dsimp only
  rw [settles_bind, settles_quietly, Task.ends_modifyGet]
  refine Settles.mono (Q := Tends (modifyBreakpoints (fun b => b.takeId.2) s) _) ?_
    fun _ _ tends => tends.after (tended_beside (List.append_nil _).symm rfl rfl (Nat.le_succ _))
  refine tends_bind (declaresField_tends spec _) ?_
  rintro declared xs s₁ - ⟨asked, same⟩
  cases declared with
  | ok _ =>
    refine tends_bind (placeWatchpoint_tends _ s₁) ?_
    rintro change xs' s₂ - ⟨placed, options, owners, same'⟩
    obtain ⟨tended, issued, fields⟩ := stores
      (change { options := spec.options.1, message := spec.options.2 }) s₂
      ⟨owners, by rw [same', same]⟩
    refine tends_modify tended ⟨⟨true, ?_⟩, issued, _, ⟨rfl, options _⟩, fields⟩
    simp [asked, placed, WatchpointSpec.creating, WatchpointSpec.request, watchpointRequest]
  | error text =>
    rw [settles_bind, settles_pure]
    obtain ⟨tended, issued, fields⟩ := stores
      { options := spec.options.1, message := some text } s₁
      ⟨s.breakpoints.owners, same⟩
    refine tends_modify tended ⟨⟨false, ?_⟩, issued, _, ⟨rfl, rfl⟩, fields⟩
    simp [asked, WatchpointSpec.creating]

end Session
end DebugSession
