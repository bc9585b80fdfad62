import DebugSession.Proofs.Leases
import DebugSession.Proofs.Ledgers
/-!
Requests for steps do not outlive the steps that they were made for, and the token of a step is
revoked when the step is over and not before. Steps of any threads may begin and end in any order,
and calls may fail.
-/

namespace DebugSession

/-- Request `r`, which asks for `q`, is one of the pending step of the thread that `q` names. -/
def Stands (steps : Table ThreadId PendingStep) (r : RequestId) (q : EventRequest) : Prop :=
  ∃ thread p, q.strider? = some thread ∧ steps.get? thread = some p ∧ p.standIn? q = some r

section

variable {steps : Table ThreadId PendingStep} {r : RequestId} {q : EventRequest}
  {thread : ThreadId} {p : PendingStep}

theorem Stands.erase (h : Stands steps r q) (thread : ThreadId) :
    r ∈ (steps.get? thread).toList.flatMap PendingStep.requests ∨
      Stands (steps.erase thread) r q := by
  obtain ⟨t, p, names, pending, stands⟩ := h
  by_cases same : t = thread
  · subst same
    rw [pending]
    exact .inl (List.mem_flatMap.2
      ⟨p, List.mem_singleton_self p, PendingStep.mem_requests_of_standIn? stands⟩)
  · exact .inr ⟨t, p, names, by rw [Table.get?_erase, if_neg same, pending], stands⟩

/-- A request stays while its thread has a step with the same requests. -/
theorem Stands.insert (h : Stands steps r q)
    (kept : ∀ p', steps.get? thread = some p' → p.standIn? q = p'.standIn? q) :
    Stands (steps.insert thread p) r q := by
  obtain ⟨t, p', names, pending, stands⟩ := h
  by_cases same : t = thread
  · subst same
    exact ⟨t, p, names, by rw [Table.get?_insert, if_pos rfl], (kept p' pending).trans stands⟩
  · exact ⟨t, p', names, by rw [Table.get?_insert, if_neg same, pending], stands⟩

theorem stands_insert (names : q.strider? = some thread) (stands : p.standIn? q = some r) :
    Stands (steps.insert thread p) r q :=
  ⟨thread, p, names, by rw [Table.get?_insert, if_pos rfl], stands⟩

end

namespace Session

variable {V : Type} [Machine V] [Ledger V] {s s₁ s' : Session V}
  {steps steps' : Table ThreadId PendingStep} {spare : List (RequestId × EventRequest)}

/-! ## Requests -/

/-- Each request for a step on the debuggee is one of a pending step, but for the spare ones and
those that could not be deleted. -/
def Accounted (steps : Table ThreadId PendingStep) (spare : List (RequestId × EventRequest))
    (s : Session V) : Prop :=
  ∀ r q, Ledger.live s.machine r = some q → q.strider? ≠ none →
    (r, q) ∈ spare ∨ s.DeleteFailed r ∨ Stands steps r q

private theorem Accounted.assign (h : Accounted steps spare s)
    (placed : ∀ r q, (r, q) ∈ spare → Stands steps' r q)
    (kept : ∀ r q, Stands steps r q → Stands steps' r q) : Accounted steps' [] s := by
  intro r q live names
  rcases h r q live names with mem | failed | stands
  · exact .inr (.inr (placed r q mem))
  · exact .inr (.inl failed)
  · exact .inr (.inr (kept r q stands))

private theorem Accounted.deletes {rs : List RequestId} (h : Accounted steps [] s)
    (deletes : Deletes rs s s') (kept : ∀ r q, Stands steps r q → r ∈ rs ∨ Stands steps' r q) :
    Accounted steps' [] s' := by
  intro r q live names
  rcases h r q (deletes.standing r q live) names with mem | failed | stands
  · cases mem
  · exact .inr (.inl (failed.mono deletes.calls))
  · rcases kept r q stands with asked | stands
    · rcases deletes.tried r asked with gone | failed
      · rw [gone] at live
        cases live
      · exact .inr (.inl failed)
    · exact .inr (.inr stands)

private theorem Accounted.asks (h : Accounted steps spare s) {q : EventRequest}
    {answer : Option RequestId} (asks : Asks q s answer s') :
    Accounted steps (answer.toList.map (·, q) ++ spare) s' := by
  intro r q' live names
  have known : Ledger.live s.machine r = some q' →
      (r, q') ∈ spare ∨ s'.DeleteFailed r ∨ Stands steps r q' := fun live =>
    (h r q' live names).imp_right (.imp_left fun failed => failed.mono asks.calls)
  cases answer with
  | none =>
    rw [(asks.refused rfl).1] at live
    exact known live
  | some id =>
    rw [(asks.made id rfl).2, Function.update_apply] at live
    split at live
    · rename_i here
      rw [here, Option.some.inj live]
      exact .inl (List.mem_append_left _ (List.mem_singleton_self _))
    · exact (known live).imp_left (List.mem_append_right _)

private theorem Accounted.watches (h : Accounted steps spare s) {thread : ThreadId}
    {kind : StepKind} {l : Location} {exitRequest : Option RequestId}
    (watches : Watches thread kind l s (.ok exitRequest) s') :
    Accounted steps (exitRequest.toList.map (·, .methodExit thread (some l.className)) ++ spare)
      s' := by
  cases watches with
  | never => exact h
  | asked _ asks => exact h.asks asks

private theorem Accounted.begins (h : Accounted s.steps [] s) {thread : ThreadId}
    {kind : StepKind} {depth : Nat} {location : Location} {settings : SteppingSettings}
    {answer : Except SessionError Nat} (idle : s.steps.get? thread = none)
    (begins : Begins thread kind depth location settings s answer s')
    (calls : ∀ x ∈ s'.calls, ¬ x.IsLost) : Accounted s'.steps [] s' := by
  cases begins with
  | refused asks =>
    rw [asks.steps]
    exact h.asks asks
  | lost asks watches =>
    obtain _ | _ | ⟨_, x, made, lost⟩ := watches
    exact absurd lost (calls x made)
  | @begun id exitRequest s₁ s₂ asks watches =>
    have same : s₂.steps = s.steps := watches.same.steps.trans asks.steps
    have accounted := (h.asks asks).watches watches
    rw [← same] at accounted idle
    refine accounted.assign (fun r q mem => ?_) fun r q stands => ?_
    · simp only [List.mem_append, List.mem_map, Option.mem_toList, Prod.mk.injEq,
        List.append_nil] at mem
      rcases mem with ⟨_, rfl, rfl, rfl⟩ | ⟨_, ⟨⟩, rfl, rfl⟩
      · exact stands_insert rfl rfl
      · exact stands_insert rfl rfl
    · refine stands.insert fun p pending => ?_
      rw [idle] at pending
      cases pending

private theorem Accounted.resteps (h : Accounted s.steps [] s) {thread : ThreadId}
    {request : RequestId} {kind : StepKind} {settings : SteppingSettings}
    {answer : Except SessionError Unit} {p : PendingStep} (expected : s.Expects thread request p)
    (resteps : Resteps thread request kind settings s answer s') : Accounted s'.steps [] s' := by
  cases resteps with
  | refused deletes same asks =>
    rw [asks.steps, same.steps]
    exact (h.deletes deletes fun r q stands => .inr stands).asks asks
  | @made id s₁ s₂ deletes same asks =>
    -- Only the request that was deleted is no longer one of the step.
    have kept : ∀ r q, Stands s.steps r q → r ∈ [request] ∨ Stands (s.steps.modify thread
        fun p => { p with stepRequest := some id }) r q := by
      rintro r q ⟨t, p', names, pending, stands⟩
      by_cases here : t = thread
      · subst here
        obtain rfl := Option.some.inj (expected.pending.symm.trans pending)
        have modified : (s.steps.modify t fun p => { p with stepRequest := some id }).get? t =
            some { p with stepRequest := some id } := by
          rw [Table.get?_modify, if_pos rfl, pending, Option.map_some]
        cases q with
        | step _ _ _ =>
          obtain rfl := Option.some.inj (expected.current.symm.trans stands)
          exact .inl (List.mem_singleton_self _)
        | methodExit _ _ => exact .inr ⟨t, _, names, modified, stands⟩
        | _ => cases names
      · exact .inr ⟨t, p', names, by rw [Table.get?_modify, if_neg here, pending], stands⟩
    have placed : Stands (s.steps.modify thread fun p => { p with stepRequest := some id }) id
        (.step thread kind settings.classFilters) :=
      ⟨thread, { p with stepRequest := some id }, rfl,
        by rw [Table.get?_modify, if_pos rfl, expected.pending, Option.map_some], rfl⟩
    rw [asks.steps, same.steps]
    refine ((h.deletes deletes kept).asks asks).assign (fun r q mem => ?_) fun _ _ stands => stands
    simp only [Option.toList_some, List.map_singleton, List.append_nil, List.mem_singleton,
      Prod.mk.injEq] at mem
    obtain ⟨rfl, rfl⟩ := mem
    exact placed

theorem Accounted.takes (h : Accounted s.steps [] s) {op : StepOperation}
    {answer : StepAnswer} (takes : Takes s op answer s') (calls : ∀ x ∈ s'.calls, ¬ x.IsLost) :
    Accounted s'.steps [] s' := by
  have ended : ∀ {ps left s₁}, Ended ps left s s₁ →
      (∀ r q, Stands s.steps r q → r ∈ ps.flatMap PendingStep.requests ∨ Stands left r q) →
      Accounted s₁.steps [] s₁ := by
    intro ps left s₁ ended kept
    rw [ended.steps]
    exact h.deletes ended.deletes kept
  cases takes with
  | @begin thread _ _ _ _ _ _ _ past begins =>
    refine (ended past fun r q stands => stands.erase thread).begins ?_ begins calls
    rw [past.steps, Table.get?_erase, if_pos rfl]
  | @arrive thread _ _ _ _ _ _ arrives =>
    cases arrives with
    | ignored => exact h
    | again expected _ resteps => exact h.resteps expected resteps
    | failed expected _ resteps => exact h.resteps expected resteps
    | @completed p _ expected _ past =>
      refine ended past fun r q stands => ?_
      have erased := stands.erase thread
      rwa [expected.pending] at erased
  | noted pending =>
    refine h.assign (by simp) fun r q stands => stands.insert fun p' pending' => ?_
    obtain rfl := Option.some.inj (pending.symm.trans pending')
    cases q <;> rfl
  | unnoted => exact h
  | @drop thread _ past => exact ended past fun r q stands => stands.erase thread
  | dropAll past =>
    refine ended past fun r q stands => ?_
    obtain ⟨thread, p, -, pending, stands⟩ := stands
    exact .inl (List.mem_flatMap.2
      ⟨p, Table.mem_values pending, PendingStep.mem_requests_of_standIn? stands⟩)
  | cancel => exact h

/-! ## Runs -/

variable {moments : List (Moment V)}

private theorem Accounted.walks (h : Accounted s.steps [] s) (walks : Walks s moments s')
    (calls : ∀ x ∈ s'.calls, ¬ x.IsLost) : Accounted s'.steps [] s' := by
  induction walks with
  | nil => exact h
  | cons _ takes rest ih =>
    have before := fun x made => calls x (rest.calls.subset made)
    exact ih (h.takes takes before) calls

/-- Each request for a step on the debuggee is one of the pending step of the very thread that it
names, unless it could not be deleted. -/
structure Unleaked (s : Session V) : Prop where
  owned : ∀ r q thread, Ledger.live s.machine r = some q → q.strider? = some thread →
    (∃ p, s.steps.get? thread = some p ∧ p.standIn? q = some r) ∨ s.DeleteFailed r
  oneStep : ∀ r r' thread kind kind' filters filters',
    Ledger.live s.machine r = some (.step thread kind filters) →
    Ledger.live s.machine r' = some (.step thread kind' filters') →
    ¬ s.DeleteFailed r → ¬ s.DeleteFailed r' → r = r'
  oneExit : ∀ r r' thread className className',
    Ledger.live s.machine r = some (.methodExit thread className) →
    Ledger.live s.machine r' = some (.methodExit thread className') →
    ¬ s.DeleteFailed r → ¬ s.DeleteFailed r' → r = r'

private theorem Accounted.unleaked (h : Accounted s.steps [] s) : s.Unleaked := by
  have owned : ∀ r q thread, Ledger.live s.machine r = some q → q.strider? = some thread →
      (∃ p, s.steps.get? thread = some p ∧ p.standIn? q = some r) ∨ s.DeleteFailed r := by
    intro r q thread live names
    rcases h r q live (by rw [names]; nofun) with mem | failed | ⟨t, p, names', pending, stands⟩
    · cases mem
    · exact .inr failed
    · obtain rfl := Option.some.inj (names.symm.trans names')
      exact .inl ⟨p, pending, stands⟩
  -- Two requests of one sort would both be the one that the step has of that sort.
  have one : ∀ r r' q q' thread, (∀ p : PendingStep, p.standIn? q = p.standIn? q') →
      q.strider? = some thread → q'.strider? = some thread → Ledger.live s.machine r = some q →
      Ledger.live s.machine r' = some q' → ¬ s.DeleteFailed r → ¬ s.DeleteFailed r' → r = r' := by
    intro r r' q q' thread sort names names' live live' kept kept'
    obtain ⟨p, pending, stands⟩ := (owned r q thread live names).resolve_right kept
    obtain ⟨p', pending', stands'⟩ := (owned r' q' thread live' names').resolve_right kept'
    obtain rfl := Option.some.inj (pending.symm.trans pending')
    exact Option.some.inj (stands.symm.trans ((sort p).trans stands'))
  exact
    { owned
      oneStep := fun r r' _ _ _ _ _ => one r r' _ _ _ (fun _ => rfl) rfl rfl
      oneExit := fun r r' _ _ _ => one r r' _ _ _ (fun _ => rfl) rfl rfl }

/-- A session begins with a debuggee on which no thread is to step. After any operations, whichever
calls fail, no request for a step is left over, unless the debuggee was lost; and the token of a
step that has begun is revoked exactly if the session is over or the step has ended. -/
theorem steps_accounted (machine : V) (settings : Settings) (providers : Providers)
    (sound : Ledger.Sound machine)
    (fresh : ∀ r q, Ledger.live machine r = some q → q.strider? = none)
    (ops : List StepOperation) :
    let run := (start machine settings providers).stepRun ops
    ((∀ x ∈ run.2.calls, ¬ x.IsLost) → run.2.Unleaked) ∧
      ∀ before m after thread kind depth location stepping token, run.1 = before ++ m :: after →
        m.op = .begin thread kind depth location stepping → m.answer = .begun (.ok token) →
        (run.2.isRevoked token = true ↔
          run.2.cancelled = true ∨ ∃ e ∈ after, e.isEnd thread = true) := by
  have walks := stepRun_walks (s := start machine settings providers) ops sound
  have leased := leased_start machine settings providers
  refine ⟨fun calls => Accounted.unleaked (Accounted.walks ?_ walks calls), ?_⟩
  · intro r q live names
    exact absurd (fresh r q live) names
  · intro before m after thread kind depth location stepping token split begins told
    rw [split] at walks
    obtain ⟨s₁, first, rest⟩ := walks.split
    cases rest with
    | cons _ takes rest =>
      subst begins told
      cases takes with
      | begin ended begins =>
        have leased₁ := (leased.walks first).takes (.begin ended begins)
        rw [isRevoked, Bool.or_eq_true, List.contains_iff_mem, rest.lease leased₁ begins.lends.lent]

/-- A debuggee behind a plan by which the first deletion fails, and the fourth request is
refused. -/
def faltering : Faulty Debuggee :=
  { machine := {}
    plan := [⟨.deleteRequest, 0, 1, .timeout 5⟩, ⟨.createRequest, 3, 1, .timeout 5⟩] }

def firstLine : Location := { className := "A", methodName := "m", line := 5 }

/-- One step is made again, without its old request being deleted, and then dropped; another one
begins without a request for the return. -/
theorem steps_accounted_after_failures :
    let run := (start faltering {} {}).stepRun
      [.begin 1 .into 1 firstLine {}, .arrive 1 1 firstLine 1 {}, .begin 2 .over 1 firstLine {},
        .drop 1]
    run.2.machine.machine.requests.keys = [1, 3] ∧ run.2.Unleaked ∧ run.2.isRevoked 0 = true := by
  obtain ⟨unleaked, tokens⟩ := steps_accounted faltering {} {} (by intro r q found; cases found)
    (by intro r q found; cases found)
    [.begin 1 .into 1 firstLine {}, .arrive 1 1 firstLine 1 {}, .begin 2 .over 1 firstLine {},
      .drop 1]
  refine ⟨by decide +kernel, unleaked (by decide +kernel), ?_⟩
  have revoked := tokens [] _ _ 1 .into 1 firstLine {} 0 rfl rfl rfl
  exact revoked.2 (.inr ⟨_, .tail _ (.tail _ (.head _)), rfl⟩)

end Session
end DebugSession
