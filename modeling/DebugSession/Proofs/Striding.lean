import DebugSession.Proofs.StepRequests
/-!
The requests that are noted for pending steps. An operation on steps makes and deletes no others.
-/

namespace DebugSession.Session

variable {V : Type} [Machine V] [Ledger V] {s s₁ s' : Session V}

/-- A request is noted for a pending step. -/
def Stepping (s : Session V) (r : RequestId) : Prop := ∃ p ∈ s.steps.values, r ∈ p.requests

/-- Other requests than those for steps stand on the debuggee as before. -/
def SameOthers (s s' : Session V) : Prop :=
  ∀ r q, q.strider? = none →
    (Ledger.live s'.machine r = some q ↔ Ledger.live s.machine r = some q)

/-- A request is noted that was noted before, or that is for a step. -/
def Arises (s s' : Session V) (r : RequestId) : Prop :=
  s.Stepping r ∨ ∃ q, Ledger.live s'.machine r = some q ∧ q.strider? ≠ none

private theorem sameOthers_deletes {rs : List RequestId} (h : Deletes rs s s')
    (strides : ∀ r ∈ rs, ∀ q, Ledger.live s.machine r = some q → q.strider? ≠ none) :
    SameOthers s s' := by
  intro r q other
  refine ⟨h.standing r q, fun live => ?_⟩
  by_cases mem : r ∈ rs
  · exact absurd other (strides r mem q live)
  · rw [h.others r mem, live]

private theorem sameOthers_asks {q : EventRequest} {answer : Option RequestId}
    (h : Asks q s answer s') {thread : ThreadId} (names : q.strider? = some thread) :
    SameOthers s s' := by
  intro r q' other
  cases answer with
  | none => rw [(h.refused rfl).1]
  | some id =>
    obtain ⟨unused, after⟩ := h.made id rfl
    rw [after, Function.update_apply]
    split
    · rename_i here
      subst here
      rw [unused]
      constructor
      · intro same
        rw [Option.some.inj same, other] at names
        cases names
      · nofun
    · rfl

private theorem SameOthers.trans (h : SameOthers s s₁) (h' : SameOthers s₁ s') :
    SameOthers s s' := fun r q other => (h' r q other).trans (h r q other)

/-- What stands is one of the requests for steps that are noted. -/
private theorem live_asks {q : EventRequest} {id : RequestId} (h : Asks q s (some id) s') :
    Ledger.live s'.machine id = some q := by
  rw [(h.made id rfl).2, Function.update_self]

private theorem live_still {q q' : EventRequest} {r : RequestId} {answer : Option RequestId}
    (h : Asks q s answer s') (live : Ledger.live s.machine r = some q') :
    Ledger.live s'.machine r = some q' := by
  cases answer with
  | none => rw [(h.refused rfl).1, live]
  | some id =>
    obtain ⟨unused, after⟩ := h.made id rfl
    have other : r ≠ id := by
      rintro rfl
      rw [unused] at live
      cases live
    rw [after, Function.update_of_ne other, live]

private theorem Ended.stepping {ps : List PendingStep} {left : Table ThreadId PendingStep}
    (h : Ended ps left s s') (subset : ∀ p ∈ left.values, p ∈ s.steps.values) {r : RequestId}
    (noted : s'.Stepping r) : s.Stepping r := by
  obtain ⟨p, mem, used⟩ := noted
  exact ⟨p, subset p (h.steps ▸ mem), used⟩

/-- The requests that are noted for steps are for steps, as far as they stand. -/
def Striding (s : Session V) : Prop :=
  ∀ r, s.Stepping r → ∀ q, Ledger.live s.machine r = some q → q.strider? ≠ none

private theorem Ended.sameOthers {ps : List PendingStep} {left : Table ThreadId PendingStep}
    (h : Ended ps left s s') (past : ∀ p ∈ ps, p ∈ s.steps.values)
    (strides : s.Striding) : SameOthers s s' := by
  refine sameOthers_deletes h.deletes fun r mem => ?_
  obtain ⟨p, mem, used⟩ := List.mem_flatMap.1 mem
  exact strides r ⟨p, past p mem, used⟩

/-- What an operation on steps does to the requests: it leaves those alone that are not for
steps, and notes none of them. -/
structure Strode (s s' : Session V) : Prop where
  others : SameOthers s s'
  origin : ∀ r, s'.Stepping r → Arises s s' r

private theorem strode_of_eq (machine : s'.machine = s.machine)
    (noted : ∀ r, s'.Stepping r → s.Stepping r) : Strode s s' where
  others r q _ := by rw [machine]
  origin r stepping := .inl (noted r stepping)

private theorem Ended.strode {ps : List PendingStep} {left : Table ThreadId PendingStep}
    (h : Ended ps left s s') (subset : ∀ p ∈ left.values, p ∈ s.steps.values)
    (past : ∀ p ∈ ps, p ∈ s.steps.values) (strides : s.Striding) : Strode s s' where
  others := h.sameOthers past strides
  origin _ noted := .inl (h.stepping subset noted)

omit [Machine V] [Ledger V] in
theorem stepping_of_steps (same : s'.steps = s.steps) {r : RequestId}
    (noted : s'.Stepping r) : s.Stepping r := by
  rw [Stepping, same] at noted
  exact noted

private theorem Watches.sameOthers {thread : ThreadId} {kind : StepKind} {l : Location}
    {answer : Except SessionError (Option RequestId)} (h : Watches thread kind l s answer s') :
    SameOthers s s' := by
  cases h with
  | never => exact fun _ _ _ => Iff.rfl
  | asked _ asks => exact sameOthers_asks asks rfl
  | lost asks => exact sameOthers_asks asks rfl

private theorem Watches.live {thread : ThreadId} {kind : StepKind} {l : Location}
    {answer : Except SessionError (Option RequestId)} (h : Watches thread kind l s answer s')
    {r : RequestId} {q : EventRequest} (live : Ledger.live s.machine r = some q) :
    Ledger.live s'.machine r = some q := by
  cases h with
  | never => exact live
  | asked _ asks => exact live_still asks live
  | lost asks => exact live_still asks live

private theorem Begins.strode {thread : ThreadId} {kind : StepKind} {depth : Nat}
    {location : Location} {settings : SteppingSettings} {answer : Except SessionError Nat}
    (h : Begins thread kind depth location settings s answer s') : Strode s s' := by
  cases h with
  | refused asks =>
    exact ⟨sameOthers_asks asks rfl, fun _ noted => .inl (stepping_of_steps asks.steps noted)⟩
  | lost asks watches =>
    have steps := watches.same.steps.trans asks.steps
    exact ⟨(sameOthers_asks asks rfl).trans watches.sameOthers,
      fun _ noted => .inl (stepping_of_steps steps noted)⟩
  | @begun id exitRequest s₁ s₂ asks watches =>
    have steps := watches.same.steps.trans asks.steps
    have others : SameOthers s s₂ :=
      (sameOthers_asks asks rfl).trans watches.sameOthers
    refine ⟨others, ?_⟩
    rintro r ⟨p, mem, used⟩
    rcases Table.mem_values_insert mem with old | rfl
    · exact .inl ⟨p, steps ▸ old, used⟩
    · right
      rcases List.mem_append.1 used with first | second
      · obtain rfl : r = id := by simpa using first
        exact ⟨_, watches.live (live_asks asks), Option.some_ne_none _⟩
      · obtain rfl : exitRequest = some r := by simpa using second
        obtain _ | ⟨-, asks⟩ := watches
        have live : Ledger.live s₂.machine r = _ := live_asks asks
        exact ⟨_, live, Option.some_ne_none _⟩

private theorem Resteps.strode {thread : ThreadId} {request : RequestId} {kind : StepKind}
    {settings : SteppingSettings} {answer : Except SessionError Unit} {p : PendingStep}
    (expected : s.Expects thread request p) (strides : s.Striding)
    (h : Resteps thread request kind settings s answer s') : Strode s s' := by
  have noted : s.Stepping request := by
    refine ⟨p, Table.mem_values expected.pending, ?_⟩
    simp [PendingStep.requests, expected.current]
  have own : ∀ r ∈ [request], ∀ q, Ledger.live s.machine r = some q → q.strider? ≠ none := by
    intro r mem
    rw [List.mem_singleton.1 mem]
    exact strides request noted
  cases h with
  | refused deletes same asks =>
    exact ⟨(sameOthers_deletes deletes own).trans (sameOthers_asks asks rfl),
      fun _ noted => .inl (stepping_of_steps (asks.steps.trans same.steps) noted)⟩
  | @made id s₁ s₂ deletes same asks =>
    have steps := asks.steps.trans same.steps
    have others : SameOthers s s₂ :=
      (sameOthers_deletes deletes own).trans (sameOthers_asks asks rfl)
    refine ⟨others, ?_⟩
    rintro r ⟨p', mem, used⟩
    obtain ⟨p, there, rfl | rfl⟩ := Table.mem_values_modify mem
    · exact .inl ⟨p', steps ▸ there, used⟩
    · rcases List.mem_append.1 used with first | second
      · obtain rfl : r = id := by simpa using first
        have live : Ledger.live s₂.machine r = _ := live_asks asks
        exact .inr ⟨_, live, Option.some_ne_none _⟩
      · exact .inl ⟨p, steps ▸ there, List.mem_append_right _ second⟩

theorem Takes.strode {op : StepOperation} {answer : StepAnswer} (h : Takes s op answer s')
    (strides : s.Striding) : Strode s s' := by
  have pending : ∀ {thread p}, p ∈ (s.steps.get? thread).toList → p ∈ s.steps.values :=
    fun mem => Table.mem_values (Option.mem_toList.1 mem)
  cases h with
  | begin ended begins =>
    have first := ended.strode (fun _ => Table.mem_values_erase) (fun _ => pending) strides
    have second := begins.strode
    refine ⟨first.others.trans second.others, fun r noted => ?_⟩
    rcases second.origin r noted with old | new
    · exact .inl (ended.stepping (fun _ => Table.mem_values_erase) old)
    · exact .inr new
  | arrive arrives =>
    cases arrives with
    | ignored => exact strode_of_eq rfl fun _ => id
    | again expected _ resteps => exact resteps.strode expected strides
    | failed expected _ resteps => exact resteps.strode expected strides
    | completed expected _ ended =>
      refine ended.strode (fun _ => Table.mem_values_erase) (fun p mem => ?_) strides
      rw [List.mem_singleton.1 mem]
      exact Table.mem_values expected.pending
  | noted pending _ =>
    refine strode_of_eq rfl ?_
    rintro r ⟨p', mem, used⟩
    rcases Table.mem_values_insert mem with old | rfl
    · exact ⟨p', old, used⟩
    · exact ⟨_, Table.mem_values pending, used⟩
  | unnoted => exact strode_of_eq rfl fun _ => id
  | drop ended => exact ended.strode (fun _ => Table.mem_values_erase) (fun _ => pending) strides
  | dropAll ended => exact ended.strode nofun (fun _ => id) strides
  | cancel => exact strode_of_eq rfl fun _ => id

end DebugSession.Session
