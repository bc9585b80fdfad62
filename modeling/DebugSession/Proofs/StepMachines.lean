import DebugSession.Proofs.Leases
import DebugSession.Proofs.Ledgers
/-!
The steps of a thread are a machine of their own: while calls succeed and the session goes on, what
operations come to for a thread depends on the operations on this thread and on nothing else, and
not on the numbers that the debuggee gives to requests.
-/

namespace DebugSession

/-! ## The machine of one thread -/

/-- A step that is under way, as its thread alone knows it. -/
structure Stride where
  kind : StepKind
  depth : Nat
  location : Location
  stepRequest : Option RequestId
  exitRequest : Option RequestId
  result : Option MethodResult
  deriving DecidableEq, Repr

inductive StrideAnswer where
  | begun
  | completed (w : Stride)
  | continue
  | ignored
  | exited (accepted : Bool)
  | dropped (any : Bool)
  | done
  deriving DecidableEq, Repr

/-- An operation on the step of a thread, and the requests that the thread has after it: the
machine takes new requests from these. -/
structure StrideInput where
  op : StepOperation
  given : List RequestId

/-- What a return leaves to show; there is nothing to show of a method without a value. -/
def MethodResult.of? (l : Location) : Value → Option MethodResult
  | .void => none
  | value => some ⟨l.methodName, value⟩

namespace Stride

/-- Whether a step that arrives somewhere goes on: it steps into methods and has come to code that
is skipped, or it has come to where it began. -/
def goesOn (w : Stride) (l : Location) (depth : Nat) (settings : SteppingSettings) : Bool :=
  w.kind = .into && ((w.depth < depth && settings.skips l) ||
    (depth = w.depth && l.line = w.location.line && l.methodName = w.location.methodName &&
      l.className = w.location.className))

/-- Whether a return is the one from the method in which the step began. -/
def accepts (w : Stride) (request : RequestId) (l : Location) (depth : Nat) : Bool :=
  w.exitRequest = some request && depth = w.depth && l.className = w.location.className &&
    l.methodName = w.location.methodName

def next (given : List RequestId) (w? : Option Stride) (op : StepOperation) :
    StrideAnswer × Option Stride :=
  match w?, op with
  | _, .begin _ kind depth location _ =>
    (.begun, some { kind, depth, location, stepRequest := given[0]?
                    exitRequest := if kind = .into then none else given[1]?, result := none })
  | some w, .arrive _ request l depth settings =>
    if w.stepRequest ≠ some request then (.ignored, some w)
    else if w.goesOn l depth settings then (.continue, some { w with stepRequest := given[0]? })
    else (.completed { w with stepRequest := none, exitRequest := none }, none)
  | none, .arrive _ _ _ _ _ => (.ignored, none)
  | some w, .exit _ request l depth value =>
    if w.accepts request l depth then
      (.exited true, some { w with result := MethodResult.of? l value })
    else (.exited false, some w)
  | none, .exit _ _ _ _ _ => (.exited false, none)
  | w?, .drop _ => (.dropped w?.isSome, none)
  | _, .dropAll => (.done, none)
  | w?, .cancel => (.done, w?)

def run (w? : Option Stride) : List StrideInput → List StrideAnswer × Option Stride
  | [] => ([], w?)
  | i :: rest =>
    let (answer, w?) := next i.given w? i.op
    let (answers, last?) := run w? rest
    (answer :: answers, last?)

end Stride

/-! ## Names of requests -/

section

variable (ρ : RequestId → RequestId)

def StepOperation.rename : StepOperation → StepOperation
  | .arrive thread request l depth settings => .arrive thread (ρ request) l depth settings
  | .exit thread request l depth value => .exit thread (ρ request) l depth value
  | op => op

def StrideInput.rename (i : StrideInput) : StrideInput := ⟨i.op.rename ρ, i.given.map ρ⟩

def Stride.rename (w : Stride) : Stride :=
  { w with stepRequest := w.stepRequest.map ρ, exitRequest := w.exitRequest.map ρ }

variable {ρ}

private theorem map_eq_some_iff_of_injective (injective : Function.Injective ρ)
    (request? : Option RequestId) (request : RequestId) :
    request?.map ρ = some (ρ request) ↔ request? = some request := by
  rw [← Option.map_some, (Option.map_injective injective).eq_iff]

theorem Stride.next_rename (injective : Function.Injective ρ) (given : List RequestId)
    (w? : Option Stride) (op : StepOperation) :
    next (given.map ρ) (w?.map (rename ρ)) (op.rename ρ) =
      ((next given w? op).1, (next given w? op).2.map (rename ρ)) := by
  cases op with
  | begin thread kind depth location settings =>
    simp only [StepOperation.rename, next, List.getElem?_map, Option.map_some, rename]
    split <;> rfl
  | arrive thread request l depth settings =>
    cases w? with
    | none => rfl
    | some w =>
      have same : (w.rename ρ).stepRequest = some (ρ request) ↔ w.stepRequest = some request :=
        map_eq_some_iff_of_injective injective w.stepRequest request
      have goesOn : (w.rename ρ).goesOn l depth settings = w.goesOn l depth settings := rfl
      simp only [StepOperation.rename, next, Option.map_some, ne_eq, same, goesOn]
      split
      · rfl
      · split
        · simp [rename]
        · rfl
  | exit thread request l depth value =>
    cases w? with
    | none => rfl
    | some w =>
      have current := map_eq_some_iff_of_injective injective w.exitRequest request
      have same : (w.rename ρ).accepts (ρ request) l depth = w.accepts request l depth := by
        unfold accepts rename
        rw [decide_eq_decide.2 current]
      simp only [StepOperation.rename, next, Option.map_some, same]
      split <;> rfl
  | drop thread => cases w? <;> rfl
  | dropAll => rfl
  | cancel => rfl

theorem Stride.run_rename (injective : Function.Injective ρ) (is : List StrideInput)
    (w? : Option Stride) :
    (run (w?.map (rename ρ)) (is.map (StrideInput.rename ρ))).1 = (run w? is).1 := by
  induction is generalizing w? with
  | nil => rfl
  | cons i rest ih =>
    simp only [List.map_cons, run, StrideInput.rename, next_rename injective, ih]

end

/-! ## The session as such machines -/

def PendingStep.stride (p : PendingStep) : Stride :=
  { kind := p.kind, depth := p.depth, location := p.location, stepRequest := p.stepRequest
    exitRequest := p.exitRequest, result := p.result }

/-- What an answer tells the thread that it concerns, if nothing has failed. -/
def StepAnswer.told? : StepAnswer → Option StrideAnswer
  | .begun (.ok _) => some .begun
  | .arrived (.ok (.completed p)) => some (.completed p.stride)
  | .arrived (.ok .continue) => some .continue
  | .arrived (.ok .ignored) => some .ignored
  | .begun (.error _) | .arrived (.error _) => none
  | .exited accepted => some (.exited accepted)
  | .dropped any => some (.dropped any)
  | .done => some .done

def StepOperation.concerns (thread : ThreadId) : StepOperation → Bool
  | .begin t _ _ _ _ | .arrive t _ _ _ _ | .exit t _ _ _ _ | .drop t => thread = t
  | .dropAll => true
  | .cancel => false

theorem PendingStep.again?_isSome (p : PendingStep) (l : Location) (depth : Nat)
    (settings : SteppingSettings) :
    (p.again? l depth settings).isSome = p.stride.goesOn l depth settings := by
  have unmoved : (depth = p.depth && l.line = p.location.line &&
      l.methodName = p.location.methodName && l.className = p.location.className) =
      !p.hasAdvanced l depth := by simp [hasAdvanced]
  have goesOn : p.stride.goesOn l depth settings = (p.kind = .into &&
      ((p.depth < depth && settings.skips l) || !p.hasAdvanced l depth)) :=
    congrArg (fun same => p.kind = .into && ((p.depth < depth && settings.skips l) || same)) unmoved
  rw [goesOn, again?]
  by_cases into : p.kind = .into
  · by_cases skipped : (p.depth < depth && settings.skips l) = true
    · simp [into, skipped]
    · cases stays : p.hasAdvanced l depth <;> simp [into, skipped]
  · simp [into]

theorem PendingStep.kind_of_again? {p : PendingStep} {l : Location} {depth : Nat}
    {settings : SteppingSettings} {kind : StepKind} (h : p.again? l depth settings = some kind) :
    kind = if p.depth < depth ∧ settings.skips l = true then .out else .into := by
  unfold again? at h
  by_cases into : p.kind = .into
  · by_cases skipped : p.depth < depth ∧ settings.skips l = true
    · rw [if_pos skipped]
      simpa [into, skipped] using h.symm
    · rw [if_neg skipped]
      simp only [into, decide_true, Bool.true_and, Bool.and_eq_true, decide_eq_true_eq,
        if_neg skipped] at h
      split at h
      · exact (Option.some.inj h).symm
      · cases h
  · simp [into] at h

namespace Session

variable {V : Type}

def stride? (s : Session V) (thread : ThreadId) : Option Stride :=
  (s.steps.get? thread).map PendingStep.stride

/-- The requests of the pending step of a thread. -/
def given (s : Session V) (thread : ThreadId) : List RequestId :=
  (s.steps.get? thread).elim [] PendingStep.requests

variable [Machine V] [Ledger V] {s s₁ s' : Session V} {op : StepOperation} {answer : StepAnswer}
  {thread : ThreadId}

/-- An operation that does not concern a thread leaves its step alone. -/
private theorem Takes.unconcerned (h : Takes s op answer s') (apart : op.concerns thread = false) :
    s'.steps.get? thread = s.steps.get? thread := by
  cases h with
  | begin ended begins =>
    have other := of_decide_eq_false apart
    exact (begins.others other).trans (ended.others other)
  | arrive arrives =>
    have other := of_decide_eq_false apart
    cases arrives with
    | ignored => rfl
    | again _ _ resteps => exact resteps.others other
    | failed _ _ resteps => exact resteps.others other
    | completed _ _ ended => exact ended.others other
  | noted pending => exact (Table.get?_insert ..).trans (if_neg (of_decide_eq_false apart))
  | unnoted => rfl
  | drop ended => exact ended.others (of_decide_eq_false apart)
  | dropAll => cases apart
  | cancel => rfl

omit [Machine V] [Ledger V] in
/-- In a session that goes on, every pending step is one whose thread is expected. -/
private theorem expects_of_pending (leased : s.Leased) (alive : s.cancelled = false)
    {request : RequestId} {p : PendingStep} (pending : s.steps.get? thread = some p)
    (current : p.stepRequest = some request) : s.Expects thread request p := by
  refine ⟨pending, current, ?_⟩
  have unrevoked := (leased.pending thread p.subscription (by rw [lease?, pending]; rfl)).2
  simpa [isRevoked, alive] using unrevoked

private theorem Asks.exists {q : EventRequest} {request? : Option RequestId}
    (h : Asks q s request? s₁) (calls : s₁.calls <+: s'.calls)
    (flawless : ∀ x ∈ s'.calls, x.failure = none) : ∃ id, request? = some id := by
  cases request? with
  | none =>
    obtain ⟨-, x, made, failed⟩ := h.refused rfl
    exact absurd (flawless x (calls.subset made)) failed
  | some id => exact ⟨id, rfl⟩

/-- What an operation comes to for a thread is what it comes to for the machine of the thread. -/
structure Accords (thread : ThreadId) (op : StepOperation) (answer : StepAnswer)
    (s s' : Session V) : Prop where
  told : answer.told? = some (Stride.next (s'.given thread) (s.stride? thread) op).1
  stride : s'.stride? thread = (Stride.next (s'.given thread) (s.stride? thread) op).2

private theorem Begins.accords {kind : StepKind} {depth : Nat} {location : Location}
    {settings : SteppingSettings} {told : Except SessionError Nat}
    (h : Begins thread kind depth location settings s₁ told s')
    (flawless : ∀ x ∈ s'.calls, x.failure = none) :
    Accords thread (.begin thread kind depth location settings) (.begun told) s s' := by
  cases h with
  | refused asks =>
    obtain ⟨_, made⟩ := asks.exists List.prefix_rfl flawless
    cases made
  | lost asks watches =>
    obtain _ | _ | ⟨asks, -⟩ := watches
    obtain ⟨_, made⟩ := asks.exists List.prefix_rfl flawless
    cases made
  | @begun id exitRequest s₂ s₃ asks watches =>
    have exit : exitRequest = if kind = .into then none else ([id] ++ exitRequest.toList)[1]? := by
      cases watches with
      | never into => rw [if_pos into]
      | asked away asks =>
        obtain ⟨exit, rfl⟩ := asks.exists List.prefix_rfl flawless
        rw [if_neg away]
        rfl
    constructor
    case told => rfl
    case stride =>
      simp only [stride?, given, Table.get?_insert, if_pos, Option.map_some, Option.elim_some,
        Stride.next, PendingStep.stride, PendingStep.requests, Option.toList_some]
      rw [← exit]
      rfl

private theorem Arrives.accords {request : RequestId} {location : Location} {depth : Nat}
    {settings : SteppingSettings} {told : Except SessionError StepOutcome}
    (h : Arrives thread request location depth settings s told s') (leased : s.Leased)
    (alive : s.cancelled = false) (flawless : ∀ x ∈ s'.calls, x.failure = none) :
    Accords thread (.arrive thread request location depth settings) (.arrived told) s s' := by
  have known : ∀ p, s.Expects thread request p → s.stride? thread = some p.stride ∧
      p.stride.stepRequest = some request := fun p expected =>
    ⟨by rw [stride?, expected.pending, Option.map_some], expected.current⟩
  cases h with
  | ignored unknown =>
    have ignored : Stride.next (s.given thread) (s.stride? thread)
        (.arrive thread request location depth settings) = (.ignored, s.stride? thread) := by
      cases pending : s.steps.get? thread with
      | none => rw [stride?, pending]; rfl
      | some p =>
        have other : p.stride.stepRequest ≠ some request := fun current =>
          unknown p (expects_of_pending leased alive pending current)
        rw [stride?, pending, Option.map_some, Stride.next, if_pos other]
    exact ⟨by rw [ignored]; rfl, by rw [ignored]⟩
  | @again p kind _ expected goes resteps =>
    obtain ⟨pending, current⟩ := known p expected
    have goesOn : p.stride.goesOn location depth settings = true := by
      rw [← PendingStep.again?_isSome, goes]
      rfl
    cases resteps with
    | @made id s₁ s₂ _ same asks =>
      have steps : s₂.steps = s.steps := asks.steps.trans same.steps
      constructor
      case told => rw [pending, Stride.next, if_neg (not_not_intro current), if_pos goesOn]; rfl
      case stride =>
        rw [pending, Stride.next, if_neg (not_not_intro current), if_pos goesOn]
        simp only [stride?, given, Table.get?_modify, if_pos, steps, expected.pending,
          Option.map_some, Option.elim_some]
        rfl
  | failed _ _ resteps =>
    obtain ⟨_, _, asks⟩ := resteps
    obtain ⟨_, made⟩ := asks.exists List.prefix_rfl flawless
    cases made
  | @completed p _ expected past ended =>
    obtain ⟨pending, current⟩ := known p expected
    have stops : ¬ p.stride.goesOn location depth settings = true := by
      rw [← PendingStep.again?_isSome, past]
      exact Bool.false_ne_true
    constructor
    case told => rw [pending, Stride.next, if_neg (not_not_intro current), if_neg stops]; rfl
    case stride =>
      rw [pending, Stride.next, if_neg (not_not_intro current), if_neg stops, stride?, ended.steps,
        Table.get?_erase, if_pos rfl]
      rfl

private theorem Takes.accords (h : Takes s op answer s') (leased : s.Leased)
    (alive : s.cancelled = false) (flawless : ∀ x ∈ s'.calls, x.failure = none)
    (concerned : op.concerns thread = true) : Accords thread op answer s s' := by
  cases h with
  | begin ended begins =>
    obtain rfl := of_decide_eq_true concerned
    exact begins.accords flawless
  | arrive arrives =>
    obtain rfl := of_decide_eq_true concerned
    exact arrives.accords leased alive flawless
  | @noted _ request location depth value p pending watched =>
    obtain rfl := of_decide_eq_true concerned
    have accepts : p.stride.accepts request location depth = true := watched
    constructor
    case told => rw [stride?, pending, Option.map_some, Stride.next, if_pos accepts]; rfl
    case stride =>
      rw [stride?, stride?, pending, Option.map_some, Stride.next, if_pos accepts,
        Table.get?_insert, if_pos rfl]
      cases value <;> rfl
  | @unnoted _ request location depth value unwatched =>
    obtain rfl := of_decide_eq_true concerned
    cases pending : s.steps.get? thread with
    | none => exact ⟨by rw [stride?, pending]; rfl, by rw [stride?, pending]; rfl⟩
    | some p =>
      have refuses : ¬ p.stride.accepts request location depth = true :=
        Bool.eq_false_iff.1 (unwatched p pending)
      constructor
      case told => rw [stride?, pending, Option.map_some, Stride.next, if_neg refuses]; rfl
      case stride => rw [stride?, pending, Option.map_some, Stride.next, if_neg refuses]
  | drop ended =>
    obtain rfl := of_decide_eq_true concerned
    constructor
    case told => rw [Stride.next, stride?, Option.isSome_map]; rfl
    case stride => rw [stride?, ended.steps, Table.get?_erase, if_pos rfl]; rfl
  | dropAll ended =>
    constructor
    case told => rfl
    case stride => rw [stride?, ended.steps]; rfl
  | cancel => cases concerned

/-! ## Runs -/

/-- What an operation of a moment is to the machine of a thread. -/
def Moment.input? (thread : ThreadId) (m : Moment V) : Option StrideInput :=
  if m.op.concerns thread then some ⟨m.op, m.after.given thread⟩ else none

/-- What a return that was accepted for a thread leaves to show. -/
def Moment.returned? (thread : ThreadId) (m : Moment V) : Option (Option MethodResult) :=
  match m.op, m.answer with
  | .exit t _ l _ value, .exited true =>
    if thread = t then some (MethodResult.of? l value) else none
  | _, _ => none

omit [Machine V] [Ledger V] in
private theorem returned?_of_unconcerned {m : Moment V} (apart : m.op.concerns thread = false) :
    m.returned? thread = none := by
  obtain ⟨before, op, answer, after⟩ := m
  unfold Moment.returned?
  split
  · rename_i _ _ same _
    obtain rfl : op = _ := same
    exact if_neg (of_decide_eq_false apart)
  · rfl

variable {moments : List (Moment V)}

private theorem Walks.accords (h : Walks s moments s') (leased : s.Leased)
    (alive : s.cancelled = false) (lives : ∀ m ∈ moments, m.after.cancelled = false)
    (flawless : ∀ x ∈ s'.calls, x.failure = none) (thread : ThreadId) :
    (Stride.run (s.stride? thread) (moments.filterMap (Moment.input? thread))).1.map some =
        (moments.filter fun m => m.op.concerns thread).map (fun m => m.answer.told?) ∧
      (Stride.run (s.stride? thread) (moments.filterMap (Moment.input? thread))).2 =
        s'.stride? thread := by
  induction h with
  | nil => exact ⟨rfl, rfl⟩
  | @cons s after s' op answer moments _ takes rest ih =>
    have alive' := lives _ List.mem_cons_self
    obtain ⟨told, last⟩ := ih (leased.takes takes) alive'
      (fun m mem => lives m (List.mem_cons_of_mem _ mem)) flawless
    cases concerned : op.concerns thread with
    | true =>
      have accords := takes.accords leased alive
        (fun x made => flawless x (rest.calls.subset made)) concerned
      simp only [List.filterMap_cons, List.filter_cons, Moment.input?, concerned, if_true,
        Stride.run, List.map_cons, accords.told, ← accords.stride, told, last, and_self]
    | false =>
      have same : after.stride? thread = s.stride? thread :=
        congrArg (Option.map _) (takes.unconcerned concerned)
      simp only [List.filterMap_cons, List.filter_cons, Moment.input?, concerned,
        Bool.false_eq_true, if_false, ← same, told, last, and_self]

/-- A step stays as it began until it ends, but for its request and what its method returns. -/
private theorem Takes.steady (h : Takes s op answer s') {p : PendingStep}
    (pending : s.steps.get? thread = some p) (on : op.isEnd thread answer = false) :
    ∃ p', s'.steps.get? thread = some p' ∧ p'.kind = p.kind ∧ p'.depth = p.depth ∧
      p'.location = p.location ∧
      p'.result = (Moment.returned? thread ⟨s, op, answer, s'⟩).getD p.result := by
  cases concerned : op.concerns thread with
  | false =>
    rw [h.unconcerned concerned, returned?_of_unconcerned concerned]
    exact ⟨p, pending, rfl, rfl, rfl, rfl⟩
  | true =>
    cases h with
    | begin => exact absurd (concerned.symm.trans on) Bool.noConfusion
    | arrive arrives =>
      obtain rfl := of_decide_eq_true concerned
      cases arrives with
      | ignored => exact ⟨p, pending, rfl, rfl, rfl, rfl⟩
      | again _ _ resteps =>
        cases resteps with
        | @made id _ _ _ same asks =>
          refine ⟨{ p with stepRequest := some id }, ?_, rfl, rfl, rfl, rfl⟩
          rw [Table.get?_modify, if_pos rfl, asks.steps, same.steps, pending, Option.map_some]
      | failed _ _ resteps =>
        obtain ⟨_, same, asks⟩ := resteps
        exact ⟨p, by rw [asks.steps, same.steps, pending], rfl, rfl, rfl, rfl⟩
      | completed => exact absurd (concerned.symm.trans on) Bool.noConfusion
    | @noted _ _ location _ value p' pending' =>
      obtain rfl := of_decide_eq_true concerned
      obtain rfl := Option.some.inj (pending.symm.trans pending')
      refine ⟨p.noteResult location value, ?_, rfl, rfl, rfl, ?_⟩
      · rw [Table.get?_insert, if_pos rfl]
      · simp only [Moment.returned?, if_pos, Option.getD_some]
        cases value <;> rfl
    | unnoted => exact ⟨p, pending, rfl, rfl, rfl, rfl⟩
    | drop => exact absurd (concerned.symm.trans on) Bool.noConfusion
    | dropAll => cases on
    | cancel => cases concerned

private theorem Walks.steady (h : Walks s moments s') {p : PendingStep}
    (pending : s.steps.get? thread = some p) (on : ∀ m ∈ moments, m.isEnd thread = false) :
    ∃ p', s'.steps.get? thread = some p' ∧ p'.kind = p.kind ∧ p'.depth = p.depth ∧
      p'.location = p.location ∧
      p'.result = (moments.filterMap (Moment.returned? thread)).getLast?.getD p.result := by
  induction h generalizing p with
  | nil => exact ⟨p, pending, rfl, rfl, rfl, rfl⟩
  | @cons s after s' op answer moments _ takes rest ih =>
    obtain ⟨p₁, pending₁, kind₁, depth₁, location₁, result₁⟩ :=
      takes.steady pending (on _ List.mem_cons_self)
    obtain ⟨p', pending', kind, depth, location, result⟩ :=
      ih pending₁ fun m mem => on m (List.mem_cons_of_mem _ mem)
    refine ⟨p', pending', kind.trans kind₁, depth.trans depth₁, location.trans location₁, ?_⟩
    rw [result, result₁, List.filterMap_cons]
    cases Moment.returned? thread ⟨s, op, answer, after⟩ with
    | none => rfl
    | some returned => rw [List.getLast?_cons]; rfl

/-- What the arrival of a thread comes to while calls succeed. -/
inductive Lands (thread : ThreadId) (request : RequestId) (location : Location) (depth : Nat)
    (settings : SteppingSettings) (s : Session V) : StepAnswer → Session V → Prop
  /-- The thread is not to arrive by this request: nothing changes. -/
  | astray (other : ∀ p, s.steps.get? thread = some p → p.stepRequest ≠ some request) :
      Lands thread request location depth settings s (.arrived (.ok .ignored)) s
  /-- A new request, which steps out of code that is skipped, takes the place of the old one. -/
  | onward {p : PendingStep} {id : RequestId} {s' : Session V}
      (pending : s.steps.get? thread = some p) (current : p.stepRequest = some request)
      (goesOn : p.stride.goesOn location depth settings = true)
      (unused : Function.update (Ledger.live s.machine) request none id = none)
      (replaced : Ledger.live s'.machine =
        Function.update (Function.update (Ledger.live s.machine) request none) id
          (some (.step thread
            (if p.depth < depth ∧ settings.skips location = true then .out else .into)
            settings.classFilters)))
      (pending' : s'.steps.get? thread = some { p with stepRequest := some id }) :
      Lands thread request location depth settings s (.arrived (.ok .continue)) s'
  | past {p : PendingStep} {s' : Session V} (pending : s.steps.get? thread = some p)
      (current : p.stepRequest = some request)
      (stops : p.stride.goesOn location depth settings = false)
      (idle : s'.steps.get? thread = none) :
      Lands thread request location depth settings s
        (.arrived (.ok (.completed { p with stepRequest := none, exitRequest := none }))) s'

private theorem Deletes.live {request : RequestId} (h : Deletes [request] s s₁)
    (calls : s₁.calls <+: s'.calls) (flawless : ∀ x ∈ s'.calls, x.failure = none) :
    Ledger.live s₁.machine = Function.update (Ledger.live s.machine) request none := by
  funext r
  rw [Function.update_apply]
  split
  · rename_i same
    subst same
    refine (h.tried r (List.mem_singleton_self r)).resolve_right ?_
    rintro ⟨e, failed⟩
    exact Option.some_ne_none e (flawless _ (calls.subset failed))
  · rename_i other
    exact h.others r (List.mem_singleton.not.2 other)

private theorem Arrives.lands {request : RequestId} {location : Location} {depth : Nat}
    {settings : SteppingSettings} {told : Except SessionError StepOutcome}
    (h : Arrives thread request location depth settings s told s') (leased : s.Leased)
    (alive : s.cancelled = false) (flawless : ∀ x ∈ s'.calls, x.failure = none) :
    Lands thread request location depth settings s (.arrived told) s' := by
  cases h with
  | ignored unknown =>
    refine .astray fun p pending current => ?_
    exact unknown p (expects_of_pending leased alive pending current)
  | @again p kind _ expected goes resteps =>
    have goesOn : p.stride.goesOn location depth settings = true := by
      rw [← PendingStep.again?_isSome, goes]
      rfl
    cases resteps with
    | @made id s₁ s₂ deletes same asks =>
      have deleted := deletes.live asks.calls flawless
      obtain ⟨unused, made⟩ := asks.made id rfl
      refine .onward expected.pending expected.current goesOn (deleted ▸ unused) ?_ ?_
      · rw [made, deleted, PendingStep.kind_of_again? goes]
      · rw [Table.get?_modify, if_pos rfl, asks.steps, same.steps, expected.pending,
          Option.map_some]
  | failed _ _ resteps =>
    obtain ⟨_, _, asks⟩ := resteps
    obtain ⟨_, made⟩ := asks.exists List.prefix_rfl flawless
    cases made
  | @completed p _ expected past ended =>
    refine .past expected.pending expected.current ?_ ?_
    · rw [← PendingStep.again?_isSome, past]
      rfl
    · rw [ended.steps, Table.get?_erase, if_pos rfl]

private theorem Walks.mem (h : Walks s moments s') (leased : s.Leased)
    (alive : s.cancelled = false) (lives : ∀ m ∈ moments, m.after.cancelled = false) {m : Moment V}
    (mem : m ∈ moments) : m.before.Leased ∧ m.before.cancelled = false ∧
      Takes m.before m.op m.answer m.after ∧ m.after.calls <+: s'.calls := by
  induction h with
  | nil => cases mem
  | @cons s after s' op answer moments _ takes rest ih =>
    rcases List.mem_cons.1 mem with rfl | mem
    · exact ⟨leased, alive, takes, rest.calls⟩
    · exact ih (leased.takes takes) (lives _ List.mem_cons_self)
        (fun m mem => lives m (List.mem_cons_of_mem _ mem)) mem

/-- The step of a thread in a run that ended in `s` is that of a machine of its own. -/
structure Independent (thread : ThreadId) (moments : List (Moment V)) (s : Session V) : Prop where
  /-- The machine is given the operations on the thread only, and the numbers of its requests. -/
  told : (Stride.run none (moments.filterMap (Moment.input? thread))).1.map some =
    (moments.filter fun m => m.op.concerns thread).map fun m => m.answer.told?
  stride : (Stride.run none (moments.filterMap (Moment.input? thread))).2 = s.stride? thread
  /-- It does not depend on these numbers. -/
  unnamed : ∀ ρ, Function.Injective ρ →
    (Stride.run none ((moments.filterMap (Moment.input? thread)).map (StrideInput.rename ρ))).1 =
      (Stride.run none (moments.filterMap (Moment.input? thread))).1
  steady : ∀ before m mid kind depth location settings, moments = before ++ m :: mid →
    m.op = .begin thread kind depth location settings → (∀ e ∈ mid, e.isEnd thread = false) →
    ∃ p, s.steps.get? thread = some p ∧ p.kind = kind ∧ p.depth = depth ∧ p.location = location ∧
      p.result = (mid.filterMap (Moment.returned? thread)).getLast?.join
  completed : ∀ before m mid e after kind depth location settings request l d stepping p,
    moments = before ++ m :: mid ++ e :: after →
    m.op = .begin thread kind depth location settings → (∀ e ∈ mid, e.isEnd thread = false) →
    e.op = .arrive thread request l d stepping → e.answer = .arrived (.ok (.completed p)) →
    p.kind = kind ∧ p.depth = depth ∧ p.location = location ∧
      p.result = (mid.filterMap (Moment.returned? thread)).getLast?.join
  lands : ∀ m ∈ moments, ∀ request location depth settings,
    m.op = .arrive thread request location depth settings →
    Lands thread request location depth settings m.before m.answer m.after
  exits : ∀ m ∈ moments, ∀ request location depth value,
    m.op = .exit thread request location depth value →
    ∃ accepted, m.answer = .exited accepted ∧
      (accepted = true ↔ ∃ p, m.before.steps.get? thread = some p ∧
        p.exitRequest = some request ∧ depth = p.depth ∧
        location.className = p.location.className ∧ location.methodName = p.location.methodName)

private theorem Takes.exits {request : RequestId} {location : Location} {depth : Nat}
    {value : Value} (h : Takes s (.exit thread request location depth value) answer s') :
    ∃ accepted, answer = .exited accepted ∧
      (accepted = true ↔ ∃ p, s.steps.get? thread = some p ∧ p.exitRequest = some request ∧
        depth = p.depth ∧ location.className = p.location.className ∧
        location.methodName = p.location.methodName) := by
  have watches_iff : ∀ p : PendingStep, p.watchesExit request location depth = true ↔
      p.exitRequest = some request ∧ depth = p.depth ∧
        location.className = p.location.className ∧
          location.methodName = p.location.methodName := by
    intro p
    simp [PendingStep.watchesExit, and_assoc]
  cases h with
  | @noted _ _ _ _ _ p pending watched =>
    exact ⟨true, rfl, iff_of_true rfl ⟨p, pending, (watches_iff p).1 watched⟩⟩
  | unnoted unwatched =>
    refine ⟨false, rfl, iff_of_false Bool.false_ne_true ?_⟩
    rintro ⟨p, pending, watched⟩
    exact Bool.eq_false_iff.1 (unwatched p pending) ((watches_iff p).2 watched)

private theorem Begins.pending {kind : StepKind} {depth : Nat} {location : Location}
    {settings : SteppingSettings} {told : Except SessionError Nat}
    (h : Begins thread kind depth location settings s told s')
    (flawless : ∀ x ∈ s'.calls, x.failure = none) :
    ∃ p, s'.steps.get? thread = some p ∧ p.kind = kind ∧ p.depth = depth ∧
      p.location = location ∧ p.result = none := by
  cases h with
  | refused asks =>
    obtain ⟨_, made⟩ := asks.exists List.prefix_rfl flawless
    cases made
  | lost _ watches =>
    obtain _ | _ | ⟨asks, -⟩ := watches
    obtain ⟨_, made⟩ := asks.exists List.prefix_rfl flawless
    cases made
  | begun => exact ⟨_, by rw [Table.get?_insert, if_pos rfl], rfl, rfl, rfl, rfl⟩

/-- The step that has begun, until it ends. -/
private theorem Walks.begun (h : Walks s moments s') {before mid : List (Moment V)} {m : Moment V}
    {kind : StepKind} {depth : Nat} {location : Location} {settings : SteppingSettings}
    (split : moments = before ++ m :: mid)
    (begins : m.op = .begin thread kind depth location settings)
    (on : ∀ e ∈ mid, e.isEnd thread = false) (flawless : ∀ x ∈ s'.calls, x.failure = none) :
    ∃ p, s'.steps.get? thread = some p ∧ p.kind = kind ∧ p.depth = depth ∧
      p.location = location ∧
      p.result = (mid.filterMap (Moment.returned? thread)).getLast?.join := by
  rw [split] at h
  obtain ⟨s₁, -, rest⟩ := h.split
  cases rest with
  | cons _ takes rest =>
    subst begins
    cases takes with
    | begin ended begins =>
      obtain ⟨p, pending, rfl, rfl, rfl, none_yet⟩ := begins.pending fun x made =>
        flawless x (rest.calls.subset made)
      obtain ⟨p', pending', kind, depth, location, result⟩ := rest.steady pending on
      refine ⟨p', pending', kind, depth, location, ?_⟩
      rw [result, none_yet]
      cases (mid.filterMap (Moment.returned? thread)).getLast? <;> rfl

/-- While calls succeed and the session goes on, the steps of each thread are independent of those
of other threads. -/
theorem strides_independent (machine : V) (settings : Settings) (providers : Providers)
    (sound : Ledger.Sound machine) (ops : List StepOperation)
    (lives : ∀ m ∈ ((start machine settings providers).stepRun ops).1, m.after.cancelled = false)
    (flawless : ∀ x ∈ ((start machine settings providers).stepRun ops).2.calls, x.failure = none)
    (thread : ThreadId) :
    Independent thread ((start machine settings providers).stepRun ops).1
      ((start machine settings providers).stepRun ops).2 := by
  have walks := stepRun_walks (s := start machine settings providers) ops sound
  have leased := leased_start machine settings providers
  have accords := walks.accords leased rfl lives flawless thread
  constructor
  case told => exact accords.1
  case stride => exact accords.2
  case unnamed => exact fun ρ injective => Stride.run_rename injective _ none
  case steady =>
    intro before m mid kind depth location stepping split begins on
    exact walks.begun split begins on flawless
  case completed =>
    intro before m mid e after kind depth location stepping request l d stepping' p split begins on
      arrives completes
    rw [split] at walks
    obtain ⟨s₁, first, second⟩ := walks.split
    have whole := fun x made => flawless x (second.calls.subset made)
    obtain ⟨p₁, pending, kind, depth, location, result⟩ := first.begun rfl begins on whole
    cases second with
    | cons _ takes rest =>
      subst arrives completes
      cases takes with
      | arrive arrives =>
        cases arrives with
        | completed expected =>
          obtain rfl := Option.some.inj (pending.symm.trans expected.pending)
          exact ⟨kind, depth, location, result⟩
  case lands =>
    intro m mem request location depth stepping arrives
    obtain ⟨leased, alive, takes, calls⟩ := walks.mem leased rfl lives mem
    rw [arrives] at takes
    obtain ⟨before, op, answer, after⟩ := m
    cases takes with
    | arrive arrives =>
      exact arrives.lands leased alive fun x made => flawless x (calls.subset made)
  case exits =>
    intro m mem request location depth value exits
    obtain ⟨-, -, takes, -⟩ := walks.mem leased rfl lives mem
    rw [exits] at takes
    exact takes.exits

/-- Two threads step at the same time. The first one comes to where it began and is to go on by a
new request; the old one is of no use any more. The second one is told what its method
returned. -/
theorem strides_independent_of_two_threads :
    let line : Location := { className := "A", methodName := "m", line := 5 }
    let ops : List StepOperation :=
      [.begin 1 .into 1 line {}, .begin 2 .over 1 line {}, .arrive 1 1 line 1 {},
        .exit 2 3 line 1 (.int 7), .arrive 1 1 { line with line := 6 } 1 {},
        .arrive 2 2 { line with line := 6 } 1 {}]
    let run := (start ({} : Debuggee) {} {}).stepRun ops
    run.1.map (fun m => m.answer.told?) =
        [some .begun, some .begun, some .continue, some (.exited true), some .ignored,
          some (.completed ⟨.over, 1, line, none, none, some ⟨"m", .int 7⟩⟩)] ∧
      Independent 1 run.1 run.2 ∧ Independent 2 run.1 run.2 := by
  refine ⟨by decide +kernel, ?_, ?_⟩
  all_goals
    refine strides_independent ({} : Debuggee) {} {} ?_ _ (by decide +kernel) (by decide +kernel) _
    intro r request found
    cases found

end Session
end DebugSession
