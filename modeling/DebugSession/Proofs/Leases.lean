import DebugSession.Proofs.Strides
/-!
The tokens of steps: the pending step of a thread has one that no other step has, and it is revoked
by the operation that ends the step.
-/

namespace DebugSession.Session

variable {V : Type} [Machine V] [Ledger V] {s s₁ s' : Session V}

/-- The token of the pending step of a thread. -/
def lease? (s : Session V) (thread : ThreadId) : Option Nat :=
  (s.steps.get? thread).map PendingStep.subscription

/-- The steps of the threads `past` have ended. -/
structure Lets (past : ThreadId → Prop) (s s' : Session V) : Prop where
  single : s.steps.keys.Nodup → s'.steps.keys.Nodup
  issued : s'.tokens.issued = s.tokens.issued
  revoked : ∀ n, n ∈ s'.tokens.revoked ↔
    n ∈ s.tokens.revoked ∨ ∃ thread, past thread ∧ s.lease? thread = some n
  gone : ∀ thread, past thread → s'.lease? thread = none
  kept : ∀ thread, ¬ past thread → s'.lease? thread = s.lease? thread

/-- A step of the thread has begun, with a new token. -/
structure Lends (thread : ThreadId) (n : Nat) (s s' : Session V) : Prop where
  single : s.steps.keys.Nodup → s'.steps.keys.Nodup
  token : n = s.tokens.issued
  issued : s'.tokens.issued = n + 1
  revoked : s'.tokens.revoked = s.tokens.revoked
  lent : s'.lease? thread = some n
  kept : ∀ t, t ≠ thread → s'.lease? t = s.lease? t

/-- No token of a pending step is revoked, or is the token of two steps. -/
structure Leased (s : Session V) : Prop where
  single : s.steps.keys.Nodup
  issued : ∀ n ∈ s.tokens.revoked, n < s.tokens.issued
  pending : ∀ thread n, s.lease? thread = some n → n < s.tokens.issued ∧ n ∉ s.tokens.revoked
  distinct : ∀ thread thread' n, s.lease? thread = some n → s.lease? thread' = some n →
    thread = thread'

omit [Machine V] [Ledger V] in
theorem Leased.lets {past : ThreadId → Prop} (h : s.Leased) (lets : Lets past s s') :
    s'.Leased := by
  have before : ∀ t n, s'.lease? t = some n → ¬ past t ∧ s.lease? t = some n := by
    intro t n held
    have on : ¬ past t := fun past => by
      rw [lets.gone t past] at held
      cases held
    exact ⟨on, lets.kept t on ▸ held⟩
  constructor
  case single => exact lets.single h.single
  case issued =>
    intro n revoked
    rw [lets.issued]
    rcases (lets.revoked n).1 revoked with old | ⟨t, -, held⟩
    · exact h.issued n old
    · exact (h.pending t n held).1
  case pending =>
    intro t n held
    obtain ⟨on, held⟩ := before t n held
    obtain ⟨issued, unrevoked⟩ := h.pending t n held
    refine ⟨lets.issued ▸ issued, fun revoked => ?_⟩
    rcases (lets.revoked n).1 revoked with old | ⟨t', past, held'⟩
    · exact unrevoked old
    · exact on (h.distinct t' t n held' held ▸ past)
  case distinct =>
    intro t t' n held held'
    exact h.distinct t t' n (before t n held).2 (before t' n held').2

omit [Machine V] [Ledger V] in
theorem Leased.lends {thread : ThreadId} {n : Nat} (h : s.Leased) (lends : Lends thread n s s') :
    s'.Leased := by
  have before : ∀ t m, s'.lease? t = some m → t = thread ∧ m = n ∨ s.lease? t = some m := by
    intro t m held
    by_cases here : t = thread
    · subst here
      exact .inl ⟨rfl, (Option.some.inj (lends.lent.symm.trans held)).symm⟩
    · exact .inr (lends.kept t here ▸ held)
  have new : ∀ t, s.lease? t ≠ some n := by
    intro t held
    have issued := (h.pending t n held).1
    exact absurd lends.token (Nat.ne_of_lt issued)
  constructor
  case single => exact lends.single h.single
  case issued =>
    intro m revoked
    rw [lends.revoked] at revoked
    have issued := h.issued m revoked
    have next := lends.issued
    have token := lends.token
    omega
  case pending =>
    intro t m held
    have next := lends.issued
    have token := lends.token
    rw [lends.revoked]
    rcases before t m held with ⟨-, rfl⟩ | held
    · refine ⟨by omega, fun revoked => ?_⟩
      have issued := h.issued m revoked
      omega
    · obtain ⟨issued, unrevoked⟩ := h.pending t m held
      exact ⟨by omega, unrevoked⟩
  case distinct =>
    intro t t' m held held'
    rcases before t m held with ⟨rfl, rfl⟩ | old
    · rcases before t' m held' with ⟨rfl, -⟩ | old'
      · rfl
      · exact absurd old' (new t')
    · rcases before t' m held' with ⟨rfl, rfl⟩ | old'
      · exact absurd old (new t)
      · exact h.distinct t t' m old old'

private theorem Ended.lets {ps : List PendingStep} {left : Table ThreadId PendingStep}
    {past : ThreadId → Prop} (h : Ended ps left s s')
    (single : s.steps.keys.Nodup → left.keys.Nodup)
    (those : ∀ p, p ∈ ps ↔ ∃ t, past t ∧ s.steps.get? t = some p)
    (gone : ∀ t, past t → left.get? t = none)
    (kept : ∀ t, ¬ past t → left.get? t = s.steps.get? t) : Lets past s s' where
  single := by
    rw [h.steps]
    exact single
  issued := h.issued
  revoked := by
    intro n
    rw [h.revoked]
    refine or_congr_right ⟨?_, ?_⟩
    · rintro ⟨p, mem, rfl⟩
      obtain ⟨t, past, pending⟩ := (those p).1 mem
      exact ⟨t, past, by rw [lease?, pending, Option.map_some]⟩
    · rintro ⟨t, past, held⟩
      obtain ⟨p, pending, same⟩ := Option.map_eq_some_iff.1 held
      exact ⟨p, (those p).2 ⟨t, past, pending⟩, same⟩
  gone := by
    intro t past
    rw [lease?, h.steps, gone t past, Option.map_none]
  kept := by
    intro t on
    rw [lease?, h.steps, kept t on, lease?]

private theorem Ended.lets_one {thread : ThreadId}
    (h : Ended (s.steps.get? thread).toList (s.steps.erase thread) s s') :
    Lets (fun t => t = thread) s s' := by
  refine h.lets (fun single => Table.nodup_erase single thread) (fun p => ?_) (fun t past => ?_)
    fun t on => ?_
  · rw [Option.mem_toList, exists_eq_left]
  · rw [Table.get?_erase, if_pos past]
  · rw [Table.get?_erase, if_neg on]

private theorem Ended.lets_all (h : Ended s.steps.values {} s s') (single : s.steps.keys.Nodup) :
    Lets (fun _ => True) s s' := by
  refine h.lets (fun _ => List.nodup_nil) (fun p => ?_) (fun _ _ => rfl) fun _ on => (on ⟨⟩).elim
  constructor
  · intro mem
    obtain ⟨⟨t, p⟩, there, rfl⟩ := List.mem_map.1 mem
    exact ⟨t, ⟨⟩, Table.get?_of_mem single there⟩
  · rintro ⟨t, -, pending⟩
    exact Table.mem_values pending

omit [Machine V] [Ledger V] in
/-- As far as tokens go, nothing has happened. -/
private theorem lets_none (single : s.steps.keys.Nodup → s'.steps.keys.Nodup)
    (tokens : s'.tokens = s.tokens) (kept : ∀ t, s'.lease? t = s.lease? t) :
    Lets (fun _ => False) s s' where
  single := single
  issued := congrArg Tokens.issued tokens
  revoked := by simp [tokens]
  gone := nofun
  kept t _ := kept t

private theorem Resteps.lets {thread : ThreadId} {request : RequestId} {kind : StepKind}
    {settings : SteppingSettings} {answer : Except SessionError Unit}
    (h : Resteps thread request kind settings s answer s') : Lets (fun _ => False) s s' := by
  cases h with
  | refused _ same asks =>
    have steps := asks.steps.trans same.steps
    refine lets_none (fun single => steps ▸ single) (asks.tokens.trans same.tokens) fun t => ?_
    rw [lease?, steps, lease?]
  | @made id s₁ s₂ _ same asks =>
    have steps := asks.steps.trans same.steps
    refine lets_none (fun single => ?_) (asks.tokens.trans same.tokens) fun t => ?_
    · rw [Table.keys_modify, steps]
      exact single
    · simp only [lease?, Table.get?_modify, steps]
      split
      · rw [Option.map_map]
        rfl
      · rfl

theorem Begins.lends {thread : ThreadId} {kind : StepKind} {depth : Nat}
    {location : Location} {settings : SteppingSettings} {n : Nat}
    (h : Begins thread kind depth location settings s (.ok n) s') : Lends thread n s s' := by
  obtain _ | _ | ⟨asks, watches⟩ := h
  rename_i id exitRequest s₁ s₂
  have steps : s₂.steps = s.steps := watches.same.steps.trans asks.steps
  have tokens : s₂.tokens = s.tokens := watches.same.tokens.trans asks.tokens
  constructor
  case single => exact fun single => Table.nodup_insert (steps ▸ single) _ _
  case token => rw [tokens]
  case issued => rfl
  case revoked => rw [← tokens]; rfl
  case lent => simp only [lease?, Table.get?_insert, if_pos, Option.map_some]
  case kept =>
    intro t other
    simp only [lease?, Table.get?_insert, if_neg other, steps]

omit [Machine V] [Ledger V] in
private theorem Lets.still {past : ThreadId → Prop} (h : Lets past s s₁) (same : SameSteps s₁ s') :
    Lets past s s' := by
  have leases : ∀ t, s'.lease? t = s₁.lease? t := fun t => by rw [lease?, same.steps, lease?]
  constructor
  case single => exact fun single => same.steps ▸ h.single single
  case issued => rw [same.tokens, h.issued]
  case revoked => exact fun n => same.tokens ▸ h.revoked n
  case gone => exact fun t past => (leases t).trans (h.gone t past)
  case kept => exact fun t on => (leases t).trans (h.kept t on)

private theorem Begins.same {thread : ThreadId} {kind : StepKind} {depth : Nat}
    {location : Location} {settings : SteppingSettings} {e : SessionError}
    (h : Begins thread kind depth location settings s (.error e) s') : SameSteps s s' := by
  cases h with
  | refused asks => exact asks.toSameSteps
  | lost asks watches =>
    exact ⟨watches.same.steps.trans asks.steps, watches.same.tokens.trans asks.tokens⟩

/-- What an operation does to the tokens of steps: it revokes those of the steps that it ends,
and it may then issue one for a step that it begins. -/
private theorem takes_lets (single : s.steps.keys.Nodup) {op : StepOperation}
    {answer : StepAnswer} (h : Takes s op answer s') :
    Lets (fun t => op.isEnd t answer = true) s s' ∨
      ∃ thread n s₁, op.isEnd thread answer = true ∧
        Lets (fun t => op.isEnd t answer = true) s s₁ ∧ Lends thread n s₁ s' := by
  have none_over : ∀ {s'}, Lets (fun _ => False) s s' → (∀ t, op.isEnd t answer = false) →
      Lets (fun t => op.isEnd t answer = true) s s' := by
    intro s' lets on
    simpa only [on, Bool.false_eq_true] using lets
  have one_over : ∀ {s' thread}, Lets (fun t => t = thread) s s' →
      (∀ t, op.isEnd t answer = decide (t = thread)) →
      Lets (fun t => op.isEnd t answer = true) s s' := by
    intro s' thread lets on
    simpa only [on, decide_eq_true_eq] using lets
  cases h with
  | @begin thread _ _ _ _ answer s₁ _ ended begins =>
    have past := one_over ended.lets_one fun _ => rfl
    cases answer with
    | ok n => exact .inr ⟨thread, n, s₁, decide_eq_true rfl, past, begins.lends⟩
    | error e => exact .inl (past.still begins.same)
  | arrive arrives =>
    cases arrives with
    | ignored => exact .inl (none_over (lets_none id rfl fun _ => rfl) fun _ => rfl)
    | again _ _ resteps => exact .inl (none_over resteps.lets fun _ => rfl)
    | failed _ _ resteps => exact .inl (none_over resteps.lets fun _ => rfl)
    | completed expected _ ended =>
      have one : [_] = (s.steps.get? _).toList := congrArg Option.toList expected.pending.symm
      exact .inl (one_over (one ▸ ended).lets_one fun _ => rfl)
  | noted pending =>
    refine .inl (none_over (lets_none (fun single => Table.nodup_insert single _ _) rfl ?_)
      fun _ => rfl)
    intro t
    simp only [lease?, Table.get?_insert]
    split
    · rename_i here
      rw [here, pending]
      rfl
    · rfl
  | unnoted => exact .inl (none_over (lets_none id rfl fun _ => rfl) fun _ => rfl)
  | drop ended => exact .inl (one_over ended.lets_one fun _ => rfl)
  | dropAll ended => exact .inl (by simpa only [StepOperation.isEnd] using ended.lets_all single)
  | cancel => exact .inl (none_over (lets_none id rfl fun _ => rfl) fun _ => rfl)

theorem Leased.takes (h : s.Leased) {op : StepOperation} {answer : StepAnswer}
    (takes : Takes s op answer s') : s'.Leased := by
  rcases takes_lets h.single takes with lets | ⟨thread, n, s₁, -, lets, lends⟩
  · exact h.lets lets
  · exact (h.lets lets).lends lends

/-- A token stays with the step of its thread until an operation ends that step and revokes it. -/
private theorem Takes.lease {op : StepOperation} {answer : StepAnswer} {thread : ThreadId} {n : Nat}
    (h : Takes s op answer s') (single : s.steps.keys.Nodup) (held : s.lease? thread = some n) :
    if op.isEnd thread answer then n ∈ s'.tokens.revoked else s'.lease? thread = some n := by
  rcases takes_lets single h with lets | ⟨t, m, s₁, past, lets, lends⟩
  · split
    · rename_i past
      exact (lets.revoked n).2 (.inr ⟨thread, past, held⟩)
    · rename_i on
      exact (lets.kept thread on).trans held
  · split
    · rename_i past
      rw [lends.revoked]
      exact (lets.revoked n).2 (.inr ⟨thread, past, held⟩)
    · rename_i on
      have other : thread ≠ t := by
        rintro rfl
        exact on past
      exact (lends.kept thread other).trans ((lets.kept thread on).trans held)

private theorem Takes.revoked {op : StepOperation} {answer : StepAnswer} {n : Nat}
    (h : Takes s op answer s') (single : s.steps.keys.Nodup) (old : n ∈ s.tokens.revoked) :
    n ∈ s'.tokens.revoked := by
  rcases takes_lets single h with lets | ⟨_, _, s₁, -, lets, lends⟩
  · exact (lets.revoked n).2 (.inl old)
  · rw [lends.revoked]
    exact (lets.revoked n).2 (.inl old)

/-! ## Runs -/

variable {moments : List (Moment V)}

theorem Leased.walks (h : s.Leased) (walks : Walks s moments s') : s'.Leased := by
  induction walks with
  | nil => exact h
  | cons _ takes rest ih => exact ih (h.takes takes)

private theorem Walks.revoked (h : Walks s moments s') (leased : s.Leased) {n : Nat}
    (old : n ∈ s.tokens.revoked) : n ∈ s'.tokens.revoked := by
  induction h with
  | nil => exact old
  | cons _ takes rest ih => exact ih (leased.takes takes) (takes.revoked leased.single old)

/-- The token of a step is revoked by the operation that ends it. -/
theorem Walks.lease (h : Walks s moments s') (leased : s.Leased) {thread : ThreadId} {n : Nat}
    (held : s.lease? thread = some n) :
    n ∈ s'.tokens.revoked ↔ ∃ m ∈ moments, m.isEnd thread = true := by
  induction h with
  | nil => simpa using (leased.pending thread n held).2
  | cons _ takes rest ih =>
    have lease := takes.lease leased.single held
    have leased₁ := leased.takes takes
    simp only [List.mem_cons, exists_eq_or_imp]
    split at lease
    · rename_i past
      exact iff_of_true (rest.revoked leased₁ lease) (.inl past)
    · rename_i on
      rw [ih leased₁ lease]
      exact (or_iff_right on).symm

omit [Machine V] [Ledger V] in
theorem leased_start (machine : V) (settings : Settings) (providers : Providers) :
    (start machine settings providers).Leased where
  single := List.nodup_nil
  issued := nofun
  pending := nofun
  distinct := nofun

end DebugSession.Session
