import DebugSession.Proofs.Balance
import DebugSession.Proofs.Calls
import DebugSession.Proofs.Phases
/-!
Bringing breakpoints in line keeps the books of a session balanced, whichever calls fail and
whether or not it comes to its end. Each thing that is done to the debuggee is one step of the
books; what is loose in between is the argument of each proof.
-/

namespace DebugSession.Session

variable {V : Type}

/-- It was tried to delete the request, which failed. -/
def DeleteFailed (s : Session V) (r : RequestId) : Prop :=
  ∃ e, (⟨.deleteRequest r, some e⟩ : Exchange) ∈ s.calls

theorem deleteFailed_called {s : Session V} {machine : V} {clock : Nat} {cancelled : Bool}
    {x : Exchange} {r : RequestId} : (s.called machine clock cancelled x).DeleteFailed r ↔
      s.DeleteFailed r ∨ ∃ e, x = ⟨.deleteRequest r, some e⟩ := by
  simp only [DeleteFailed, called_calls, List.mem_append, List.mem_singleton]
  constructor
  · rintro ⟨e, mem | rfl⟩
    · exact .inl ⟨e, mem⟩
    · exact .inr ⟨e, rfl⟩
  · rintro (⟨e, mem⟩ | ⟨e, rfl⟩)
    · exact ⟨e, .inl mem⟩
    · exact ⟨e, .inr rfl⟩

variable [Machine V] [Ledger V]

/-- The books of a session agree with its debuggee, but for the loose requests. -/
structure Booked (loose : List RequestId) (s : Session V) : Prop where
  sound : Ledger.Sound s.machine
  books : Balanced (Ledger.live s.machine) s.DeleteFailed loose s.breakpoints

/-! ## Steps -/

theorem Booked.called {s : Session V} {loose : List RequestId} (h : s.Booked loose) {machine : V}
    (sound : Ledger.Sound machine) (same : Ledger.live machine = Ledger.live s.machine)
    (clock : Nat) (cancelled : Bool) (x : Exchange) :
    (s.called machine clock cancelled x).Booked loose where
  sound := sound
  books := by
    have books := h.books
    rw [← same] at books
    exact books.remember fun r failed => deleteFailed_called.2 (.inl failed)

private theorem delete_effect (s : Session V) {machine : V} (clock : Nat) (cancelled : Bool)
    {r : RequestId} {answer : Except RemoteError (Call.deleteRequest r).Reply}
    (effect : (Call.deleteRequest r).Effect answer (Ledger.live s.machine) (Ledger.live machine)) :
    (∀ r', r' ≠ r → Ledger.live machine r' = Ledger.live s.machine r') ∧
      (Ledger.live machine r = none ∨
        (s.called machine clock cancelled
          (.ofReply (.deleteRequest r) answer)).DeleteFailed r) := by
  cases answer with
  | ok _ =>
    have after : Ledger.live machine = Function.update (Ledger.live s.machine) r none := effect
    rw [after]
    exact ⟨fun r' away => Function.update_of_ne away .., .inl (Function.update_self ..)⟩
  | error e =>
    have after : Ledger.live machine = Ledger.live s.machine := effect
    rw [after]
    exact ⟨fun _ _ => rfl, .inr (deleteFailed_called.2 (.inr ⟨e, rfl⟩))⟩

theorem deleteRequests_ends {loose : List RequestId} (rs : List RequestId) {s : Session V}
    (h : s.Booked loose) (free : ∀ r ∈ rs, s.breakpoints.Free r) :
    Task.Ends (deleteRequests rs) s fun _ s' =>
      (∃ loose', s'.Booked loose' ∧ ∀ r ∈ loose', r ∈ loose ∧ r ∉ rs) ∧
      ∃ owners, s'.breakpoints = { s.breakpoints with owners } := by
  -- Fewer are loose after each attempt, whether or not the deletion succeeds.
  induction rs generalizing loose s with
  | nil => exact ⟨⟨loose, h, by simp⟩, s.breakpoints.owners, rfl⟩
  | cons r rest ih =>
    unfold deleteRequests
    simp only [Task.ends_bind, Task.ends_modify]
    apply (tryCall_ends _ _).mono
    rintro answer s₁ ⟨machine, clock, cancelled, rfl, answers⟩
    obtain ⟨sound, effect⟩ := answers.effect h.sound
    obtain ⟨others, tried⟩ := delete_effect s clock cancelled effect
    have books := h.books.delete (free r List.mem_cons_self) others
      (fun r' failed => deleteFailed_called.2 (.inl failed)) tried
    have tidied : ((modifyBreakpoints (fun b => { b with owners := b.owners.erase r }) s).called
        machine clock cancelled (.ofReply (.deleteRequest r) answer)).Booked
          (loose.filter (· ≠ r)) := ⟨sound, books⟩
    refine (ih tidied fun r' hr' => ?_).mono fun _ s' => ?_
    · have there := free r' (List.mem_cons_of_mem r hr')
      exact ⟨there.unkept, there.other⟩
    · rintro ⟨⟨loose', booked, subset⟩, owners, same⟩
      refine ⟨⟨loose', booked, fun r' hr' => ?_⟩, owners, same⟩
      obtain ⟨mem, away⟩ := subset r' hr'
      obtain ⟨mem, other⟩ := List.mem_filter.1 mem
      exact ⟨mem, List.not_mem_cons_of_ne_of_not_mem (of_decide_eq_true other) away⟩

theorem deleteLoose_ends {rs : List RequestId} {s : Session V} (h : s.Booked rs) :
    Task.Ends (deleteRequests rs) s fun _ s' =>
      s'.Booked [] ∧ ∃ owners, s'.breakpoints = { s.breakpoints with owners } := by
  apply (deleteRequests_ends rs h h.books.free).mono
  rintro _ s' ⟨⟨loose, booked, subset⟩, same⟩
  have none_left : loose = [] := by
    apply List.eq_nil_iff_forall_not_mem.2
    intro r hr
    exact (subset r hr).2 (subset r hr).1
  exact ⟨none_left ▸ booked, same⟩

/-- What an attempt to install what asks for `q?` leaves: perhaps a loose request, which is noted
and will be counted on. -/
def Placed (o : Owner) (q? : Option EventRequest) (s : Session V) :
    Except SessionError (Installation → Installation) → Session V → Prop
  | .ok change, s' =>
    (∃ rs, rs.length ≤ 1 ∧ s'.Booked rs ∧ (∀ i, (change i).requests = i.requests ++ rs) ∧
      (∀ i, (change i).options = i.options) ∧
      ∀ r ∈ rs, s'.breakpoints.owners.get? r = some o ∧ Ledger.live s'.machine r = q?) ∧
    ∃ owners, s'.breakpoints = { s.breakpoints with owners }
  | .error _, s' => s'.Booked []

private theorem installRequest_settles {q : EventRequest} (placed : q.isPlaced = true) (o : Owner)
    {s : Session V} (h : s.Booked []) :
    Settles (installRequest q) s fun r s' =>
      s'.breakpoints = s.breakpoints ∧
      match r with
      | .ok (.ok id) =>
        (setOwner o (.ok id) s').Booked [id] ∧ Ledger.live s'.machine id = some q
      | _ => s'.Booked [] := by
  unfold installRequest call
  simp only [settles_bind, settles_attempt]
  apply (tryCall_ends (.createRequest q) s).mono
  rintro answer s₁ ⟨machine, clock, cancelled, rfl, answers⟩
  obtain ⟨sound, effect⟩ := answers.effect h.sound
  cases answer with
  | ok id =>
    obtain ⟨unused, after⟩ := effect
    have books := h.books.create unused placed o
    rw [← after] at books
    have still : ∀ r, s.DeleteFailed r →
        (s.called machine clock cancelled (.ofReply (.createRequest q) (.ok id))).DeleteFailed r :=
      fun r failed => deleteFailed_called.2 (.inl failed)
    have stands : Ledger.live machine id = some q := by rw [after, Function.update_self]
    exact ⟨rfl, ⟨sound, books.remember still⟩, stands⟩
  | error e =>
    have booked := h.called sound effect clock cancelled (.ofReply (.createRequest q) (.error e))
    simp only
    split
    · exact ⟨rfl, booked⟩
    · exact ⟨rfl, booked⟩

theorem plant_settles {q : EventRequest} (placed : q.isPlaced = true) (o : Owner) {s : Session V}
    (h : s.Booked []) : Settles (plant o q) s (Placed o (some q) s) := by
  unfold plant
  simp only [settles_bind, settles_modify, settles_pure]
  apply (installRequest_settles placed o h).mono
  rintro r s₁ ⟨same, booked⟩
  cases r with
  | error e => exact booked
  | ok outcome =>
    cases outcome with
    | ok id =>
      obtain ⟨booked, stands⟩ := booked
      refine ⟨⟨[id], by simp, booked, fun i => rfl, fun i => rfl, fun r hr => ?_⟩, ?_⟩
      · rw [List.mem_singleton.1 hr]
        exact ⟨by simp [setOwner, modifyBreakpoints, Table.get?_insert], stands⟩
      · rw [← same]
        exact ⟨s₁.breakpoints.owners.insert id o, rfl⟩
    | error text =>
      refine ⟨⟨[], by simp, booked, fun i => ?_, fun i => rfl, by simp⟩,
        s.breakpoints.owners, same⟩
      simp [noteOutcome]

/-- What is kept at a place, and was perhaps revised, is installed anew. `make` is what is kept
there by its installation, and `amend` changes that installation. -/
private theorem reinstall_settles {p : Place} {o : Owner} (make : Installation → Installed)
    {amend : (Installation → Installation) → Session V → Session V}
    {place : Action V (Installation → Installation)}
    (at_place : o.place = p) (owner : ∀ i, (make i).owner = o)
    (requests : ∀ i, (make i).requests = i.requests)
    (asks : ∀ i i', i'.options = i.options → (make i').request? = (make i).request?)
    (amends : ∀ f s i, s.breakpoints.at? p = some (make i) →
      ∃ b, amend f s = modifyBreakpoints (fun _ => b) s ∧
        s.breakpoints.Swap b p (some (make (f i))))
    {i : Installation}
    (placing : ∀ s, s.Booked [] → Settles place s (Placed o (make i).request? s))
    {s : Session V} (h : s.Booked []) {j : Installed} (stored : s.breakpoints.at? p = some j)
    (same_owner : j.owner = o) (same_requests : j.requests = i.requests) {b : Breakpoints}
    (revised : s.breakpoints.Swap b p (some (make i))) :
    Settles (reinstall amend i.requests place) (modifyBreakpoints (fun _ => b) s)
      fun _ s' => s'.Booked [] := by
  unfold reinstall
  simp only [settles_bind, settles_modify, settles_quietly]
  obtain ⟨b₀, same, swapped⟩ := amends (fun i => { i with requests := [] })
    (modifyBreakpoints (fun _ => b) s) i revised.at_self
  have swapped : s.breakpoints.Swap b₀ p (some (make { i with requests := [] })) :=
    revised.again swapped
  rw [same]
  -- Between the deletion and the new request nothing is counted on, so both may fail.
  have emptied : (modifyBreakpoints (fun _ => b₀) s).Booked i.requests := by
    have books := h.books.release stored (some (make { i with requests := [] }))
      (by rintro k ⟨⟩; exact ⟨(owner _).trans same_owner.symm, requests _⟩) swapped
    rw [same_requests] at books
    exact ⟨h.sound, books⟩
  apply (deleteLoose_ends emptied).mono
  rintro _ s₁ ⟨booked, owners, same₁⟩
  apply (placing s₁ booked).mono
  intro r s₂ placed
  cases r with
  | error e => exact placed
  | ok change =>
    obtain ⟨⟨rs, single, booked, adds, options, noted⟩, owners', same₂⟩ := placed
    have still : s₂.breakpoints.at? p = some (make { i with requests := [] }) := by
      rw [same₂, same₁]
      exact swapped.at_self
    obtain ⟨b', same, swapped⟩ := amends change s₂ _ still
    show (amend change s₂).Booked []
    rw [same]
    have rs_eq : (make (change { i with requests := [] })).requests = rs := by
      rw [requests, adds]
      rfl
    have asked : (make (change { i with requests := [] })).request? = (make i).request? :=
      asks i _ (options _)
    refine ⟨booked.sound, booked.books.fill ?_ rs_eq single ?_ ?_ ?_ swapped⟩
    · exact (congrArg Owner.place (owner _)).trans at_place
    · rw [asked]
      exact fun r hr => (noted r hr).2
    · rw [owner]
      exact fun r hr => (noted r hr).1
    · intro j there
      obtain rfl := Option.some.inj (still.symm.trans there)
      exact requests _

private theorem store_booked {p : Place} {o : Owner} {i : Installation}
    (make : Installation → Installed) {change : Installation → Installation}
    (at_place : o.place = p) (owner : ∀ i, (make i).owner = o)
    (requests : ∀ i, (make i).requests = i.requests)
    (asks : ∀ i i', i'.options = i.options → (make i').request? = (make i).request?)
    (bare : i.requests = [])
    {s s' : Session V} (placed : Placed o (make i).request? s (.ok change) s')
    (vacant : s.breakpoints.at? p = none) {b : Breakpoints}
    (swapped : s'.breakpoints.Swap b p (some (make (change i)))) :
    (modifyBreakpoints (fun _ => b) s').Booked [] := by
  obtain ⟨⟨rs, single, booked, adds, options, noted⟩, owners, same⟩ := placed
  have rs_eq : (make (change i)).requests = rs := by
    rw [requests, adds, bare]
    rfl
  have still : s'.breakpoints.at? p = none := by
    rw [same]
    exact vacant
  refine ⟨booked.sound, booked.books.fill ?_ rs_eq single ?_ ?_ ?_ swapped⟩
  · exact (congrArg Owner.place (owner _)).trans at_place
  · rw [asks i _ (options i)]
    exact fun r hr => (noted r hr).2
  · rw [owner]
    exact fun r hr => (noted r hr).1
  · intro j there
    rw [still] at there
    cases there

/-! ## Lines -/

private theorem placeBreakpoint_settles (bp : Breakpoint) {s : Session V} (h : s.Booked []) :
    Settles (placeBreakpoint bp) s
      (Placed (.breakpoint bp.source bp.line bp.id) (Installed.breakpoint bp).request? s) := by
  cases known : bp.location with
  | none =>
    rw [placeBreakpoint_unlocated known]
    exact ⟨⟨[], by simp, h, fun i => (List.append_nil _).symm, fun i => rfl, by simp⟩,
      s.breakpoints.owners, rfl⟩
  | some l =>
    rw [placeBreakpoint_located known, Installed.request?_located known]
    exact plant_settles rfl _ h

omit [Machine V] [Ledger V] in
theorem amendBreakpoint_swap {s : Session V} (bp : Breakpoint)
    (f : Installation → Installation)
    (there : s.breakpoints.at? (.line bp.source bp.line) = some (.breakpoint bp)) :
    ∃ b, amendBreakpoint bp.source bp.line f s = modifyBreakpoints (fun _ => b) s ∧
      s.breakpoints.Swap b (.line bp.source bp.line)
        (some (.breakpoint { bp with installation := f bp.installation })) := by
  unfold amendBreakpoint
  rw [Breakpoints.at?_eq_breakpoint.1 there]
  exact ⟨_, rfl, Breakpoints.swap_putBreakpoint s.breakpoints _⟩

private theorem replaceBreakpoint_settles {bp : Breakpoint} {i : Installation} {s : Session V}
    (h : s.Booked [])
    (stored : s.breakpoints.at? (.line bp.source bp.line) = some (.breakpoint bp))
    (requests : bp.installation.requests = i.requests) :
    Settles (replaceBreakpoint { bp with installation := i })
      (modifyBreakpoints (fun b => b.putBreakpoint { bp with installation := i }) s)
      fun _ s' => s'.Booked [] := by
  rw [replaceBreakpoint_eq]
  refine reinstall_settles (fun i => .breakpoint { bp with installation := i }) (i := i)
    (o := .breakpoint bp.source bp.line bp.id) rfl (fun _ => rfl) (fun _ => rfl)
    (fun _ _ same => Installed.request?_breakpoint (congrArg _ same)) ?_
    (fun s booked => placeBreakpoint_settles _ booked) h stored rfl requests
    (Breakpoints.swap_putBreakpoint s.breakpoints { bp with installation := i })
  exact fun f s i there => amendBreakpoint_swap { bp with installation := i } f there

omit [Machine V] [Ledger V] in
theorem kept_condition {i i' : Installation}
    (unchanged : ¬ (decide (i.options.condition ≠ i'.options.condition) && i.verified) = true)
    (counted : i.requests ≠ []) : i'.options.condition = i.options.condition := by
  have verified : i.verified = true := by simpa [Installation.verified] using counted
  have same : i.options.condition = i'.options.condition := by simpa [verified] using unchanged
  exact same.symm

theorem reviseBreakpoint_settles {bp : Breakpoint} (spec : BreakpointSpec) {s : Session V}
    (h : s.Booked [])
    (stored : s.breakpoints.at? (.line bp.source bp.line) = some (.breakpoint bp)) :
    Settles (reviseBreakpoint bp spec) s fun _ s' => s'.Booked [] := by
  unfold reviseBreakpoint
  simp only [settles_bind, settles_modify]
  split
  · exact replaceBreakpoint_settles h stored rfl
  · rename_i unchanged
    refine ⟨h.sound, h.books.revise stored (.breakpoint
      { bp with installation := BreakpointSpec.revise spec bp.installation }) rfl rfl ?_
      (Breakpoints.swap_putBreakpoint s.breakpoints _)⟩
    exact fun counted => Installed.request?_breakpoint (i := bp.installation)
      (kept_condition unchanged counted)

theorem reviseAll_settles (source : String) (visited : List UInt32) (specs : List BreakpointSpec)
    {s : Session V} (h : s.Booked []) :
    Settles (reviseAll source visited specs) s fun _ s' => s'.Booked [] := by
  induction specs generalizing visited s with
  | nil => exact h
  | cons spec rest ih =>
    unfold reviseAll
    simp only [settles_bind, settles_get]
    split
    · rename_i bp found
      obtain ⟨-, -, stored⟩ := h.books.breakpoint_stored found
      split
      · exact (reviseBreakpoint_settles spec h stored).bind fun _ s₁ booked => ih _ booked
      · exact ih _ h
    · exact ih _ h

private theorem drop_ends {p : Place} {i : Installed} {s : Session V} (h : s.Booked [])
    (stored : s.breakpoints.at? p = some i) {b : Breakpoints}
    (swapped : s.breakpoints.Swap b p none) :
    Task.Ends (deleteRequests i.requests) (modifyBreakpoints (fun _ => b) s)
      fun _ s' => s'.Booked [] := by
  have books := h.books.release stored none (by rintro j ⟨⟩) swapped
  have dropped : (modifyBreakpoints (fun _ => b) s).Booked i.requests := ⟨h.sound, books⟩
  exact (deleteLoose_ends dropped).mono fun _ _ after => after.1

theorem removeLines_ends (source : String) (lines : List UInt32) {s : Session V}
    (h : s.Booked []) : Task.Ends (removeLines source lines) s fun _ s' => s'.Booked [] := by
  induction lines generalizing s with
  | nil => exact h
  | cons line rest ih =>
    unfold removeLines
    simp only [Task.ends_bind, Task.ends_get]
    split
    · exact ih h
    · rename_i bp found
      have swapped := Breakpoints.swap_dropBreakpoint s.breakpoints source line
      exact (drop_ends h (Breakpoints.at?_eq_breakpoint.2 found) swapped).bind fun _ _ booked => ih booked

theorem clearSource_ends (source : String) {s : Session V} (h : s.Booked []) :
    Task.Ends (clearSource source) s fun _ s' => s'.Booked [] := by
  unfold clearSource
  rw [Task.ends_bind, Task.ends_get]
  exact removeLines_ends source _ h

theorem createBreakpoint_settles {source : String} {spec : BreakpointSpec} {s : Session V}
    (h : s.Booked []) (vacant : s.breakpoints.breakpoint? source spec.line = none) :
    Settles (createBreakpoint source spec) s fun _ s' => s'.Booked [] := by
  unfold createBreakpoint takeBreakpointId
  simp only [settles_bind, settles_get, settles_quietly, Task.ends_modifyGet, settles_modify]
  have numbered : ({ s with breakpoints := s.breakpoints.takeId.2 } : Session V).Booked [] :=
    ⟨h.sound, h.books.congr rfl rfl rfl rfl⟩
  apply (placeBreakpoint_settles _ numbered).mono
  intro r s₁ placed
  cases r with
  | error e => exact placed
  | ok change =>
    have none_there : s.breakpoints.at? (.line source spec.line) = none := by
      simp [Breakpoints.at?, vacant]
    exact store_booked (fun i => .breakpoint
        { id := s.breakpoints.takeId.1, source, line := spec.line, column := spec.column
          location := s.providers.lookup.bind fun l =>
            l.resolveBreakpoint source spec.line spec.column
          installation := i })
      rfl (fun _ => rfl) (fun _ => rfl)
      (fun _ _ same => by simp only [Installed.request?, same]) rfl placed none_there
      (Breakpoints.swap_putBreakpoint s₁.breakpoints _)

theorem createMissing_settles (source : String) (specs : List BreakpointSpec) {s : Session V}
    (h : s.Booked []) : Settles (createMissing source specs) s fun _ s' => s'.Booked [] := by
  induction specs generalizing s with
  | nil => exact h
  | cons spec rest ih =>
    unfold createMissing
    simp only [settles_bind, settles_get]
    split
    · rename_i vacant
      exact (createBreakpoint_settles h (Option.isNone_iff_eq_none.1 vacant)).bind
        fun _ s₁ booked => ih booked
    · exact ih h

private theorem bringInLine_settles (source : String) (specs : List BreakpointSpec)
    {s : Session V} (h : s.Booked []) :
    Settles (bringInLine source specs) s fun _ s' => s'.Booked [] := by
  apply (reviseAll_settles source [] specs h).bind
  intro _ s₁ booked
  simp only [settles_bind, settles_get, settles_quietly]
  apply (removeLines_ends source _ booked).mono
  intro _ s₂ booked
  apply (createMissing_settles source specs booked).mono
  intro r s₃ booked
  cases r with
  | error e => exact booked
  | ok _ => exact booked

theorem Booked.line {s : Session V} {loose : List RequestId} (h : s.Booked loose)
    (line : Line) : ({ s with line } : Session V).Booked loose :=
  ⟨h.sound, h.books⟩

theorem setBreakpoints_settles (source : String) (specs : List BreakpointSpec) (modified : Bool)
    {s : Session V} (h : s.Booked []) :
    Settles (setBreakpoints source specs modified) s fun _ s' => s'.Booked [] := by
  unfold setBreakpoints
  rw [settles_exclusively]
  suffices reconciled : Settles (reconcileLines source specs modified)
      { s with line := (s.line.join .lines).2 } fun _ s' => s'.Booked [] from
    reconciled.mono fun _ _ booked => booked.line _
  have booked := h.line (s.line.join .lines).2
  cases modified with
  | true =>
    rw [reconcileLines_modified]
    exact Settles.bind (I := Booked []) ((settles_quietly _).2 (clearSource_ends source booked))
      fun _ s₁ booked => bringInLine_settles source specs booked
  | false =>
    rw [reconcileLines_unmodified]
    exact bringInLine_settles source specs booked

/-! ## Fields -/

private theorem placeWatchpoint_settles (wp : Watchpoint) {s : Session V} (h : s.Booked []) :
    Settles (placeWatchpoint wp) s (Placed (.watchpoint wp.className wp.fieldName wp.id)
      (Installed.watchpoint wp).request? s) := by
  rw [placeWatchpoint_eq]
  exact plant_settles rfl _ h

omit [Machine V] [Ledger V] in
theorem amendWatchpoint_swap {s : Session V} (wp : Watchpoint)
    (f : Installation → Installation)
    (there : s.breakpoints.at? (.field wp.className wp.fieldName) = some (.watchpoint wp)) :
    ∃ b, amendWatchpoint (wp.className, wp.fieldName) f s = modifyBreakpoints (fun _ => b) s ∧
      s.breakpoints.Swap b (.field wp.className wp.fieldName)
        (some (.watchpoint { wp with installation := f wp.installation })) := by
  unfold amendWatchpoint
  rw [Breakpoints.at?_eq_watchpoint.1 there]
  exact ⟨_, rfl, Breakpoints.swap_putWatchpoint s.breakpoints _⟩

private theorem replaceWatchpoint_settles {key : String × String} {wp : Watchpoint}
    {i : Installation} {s : Session V} (same : key = (wp.className, wp.fieldName))
    (h : s.Booked [])
    (stored : s.breakpoints.at? (.field wp.className wp.fieldName) = some (.watchpoint wp))
    (requests : wp.installation.requests = i.requests) :
    Settles (reinstall (amendWatchpoint key) i.requests
        (placeWatchpoint { wp with installation := i }))
      (modifyBreakpoints (fun b => b.putWatchpoint { wp with installation := i }) s)
      fun _ s' => s'.Booked [] := by
  refine reinstall_settles (fun i => .watchpoint { wp with installation := i }) (i := i)
    (o := .watchpoint wp.className wp.fieldName wp.id) rfl (fun _ => rfl) (fun _ => rfl)
    (fun _ _ same => Installed.request?_watchpoint (congrArg _ same)) ?_
    (fun s booked => placeWatchpoint_settles _ booked) h stored rfl requests
    (Breakpoints.swap_putWatchpoint s.breakpoints { wp with installation := i })
  rw [same]
  exact fun f s i there => amendWatchpoint_swap { wp with installation := i } f there

theorem reviseWatchpoint_settles {wp : Watchpoint} (spec : WatchpointSpec) {s : Session V}
    (h : s.Booked []) (key : spec.key = (wp.className, wp.fieldName))
    (stored : s.breakpoints.at? (.field wp.className wp.fieldName) = some (.watchpoint wp)) :
    Settles (reviseWatchpoint wp spec) s fun _ s' => s'.Booked [] := by
  unfold reviseWatchpoint
  obtain ⟨i, revised, requests⟩ : ∃ i, WatchpointSpec.revise spec wp.installation = i ∧
      i.requests = wp.installation.requests := ⟨_, rfl, rfl⟩
  rw [revised, settles_bind, settles_modify, ← requests]
  simp only
  split
  · exact replaceWatchpoint_settles key h stored requests.symm
  · rename_i unchanged
    refine ⟨h.sound, h.books.revise stored (.watchpoint { wp with installation := i }) rfl
      requests ?_ (Breakpoints.swap_putWatchpoint s.breakpoints _)⟩
    exact fun counted => Installed.request?_watchpoint (i := wp.installation)
      (kept_condition unchanged counted)

theorem reviseWatchpoints_settles (kept : List (String × String)) (specs : List WatchpointSpec)
    {s : Session V} (h : s.Booked []) :
    Settles (reviseWatchpoints kept specs) s fun _ s' => s'.Booked [] := by
  induction specs generalizing kept s with
  | nil => exact h
  | cons spec rest ih =>
    unfold reviseWatchpoints
    simp only [settles_bind, settles_get]
    split
    · rename_i wp found
      obtain ⟨key, stored⟩ := h.books.watchpoint_stored found
      split
      · split
        · exact (reviseWatchpoint_settles spec h key stored).bind fun _ s₁ booked => ih _ booked
        · exact ih _ h
      · exact ih _ h
    · exact ih _ h

theorem removeFields_ends (keys : List (String × String)) {s : Session V} (h : s.Booked []) :
    Task.Ends (removeFields keys) s fun _ s' => s'.Booked [] := by
  induction keys generalizing s with
  | nil => exact h
  | cons key rest ih =>
    unfold removeFields
    simp only [Task.ends_bind, Task.ends_get]
    split
    · exact ih h
    · rename_i wp found
      have swapped := Breakpoints.swap_dropWatchpoint s.breakpoints key.1 key.2
      exact (drop_ends h (Breakpoints.at?_eq_watchpoint.2 found) swapped).bind fun _ _ booked => ih booked

theorem declaresField_settles (spec : WatchpointSpec) {s : Session V} (h : s.Booked []) :
    Settles (declaresField spec) s fun _ s' =>
      s'.Booked [] ∧ s'.breakpoints = s.breakpoints := by
  unfold declaresField call
  simp only [settles_bind, settles_attempt]
  apply (tryCall_ends (.referenceType spec.className) s).mono
  rintro answer s₁ ⟨machine, clock, cancelled, rfl, answers⟩
  obtain ⟨sound, effect⟩ := answers.effect h.sound
  have booked := h.called sound effect clock cancelled (.ofReply (.referenceType spec.className)
    answer)
  cases answer with
  | ok t => simp only; split <;> exact ⟨booked, rfl⟩
  | error e => simp only; split <;> exact ⟨booked, rfl⟩

theorem createWatchpoint_settles {spec : WatchpointSpec} {s : Session V}
    (h : s.Booked []) (vacant : s.breakpoints.watchpoint? spec.key = none) :
    Settles (createWatchpoint spec) s fun _ s' => s'.Booked [] := by
  unfold createWatchpoint takeBreakpointId
  obtain ⟨options, message⟩ := spec.options
  simp only [settles_bind, settles_quietly, Task.ends_modifyGet]
  have numbered : ({ s with breakpoints := s.breakpoints.takeId.2 } : Session V).Booked [] :=
    ⟨h.sound, h.books.congr rfl rfl rfl rfl⟩
  have none_there : s.breakpoints.at? (.field spec.className spec.fieldName) = none := by
    have vacant : s.breakpoints.watchpoint? (spec.className, spec.fieldName) = none := vacant
    simp [Breakpoints.at?, vacant]
  apply (declaresField_settles spec numbered).mono
  rintro r s₁ ⟨booked, same⟩
  have none_there₁ : s₁.breakpoints.at? (.field spec.className spec.fieldName) = none := by
    rw [same]
    exact none_there
  have stores := fun change s₂ (placed : Placed
      (.watchpoint spec.className spec.fieldName s.breakpoints.takeId.1)
      (Installed.watchpoint
        { id := s.breakpoints.takeId.1, className := spec.className, fieldName := spec.fieldName
          access := spec.access, installation := { options, message } }).request?
      s₁ (.ok change) s₂) =>
    store_booked (fun i => .watchpoint
        { id := s.breakpoints.takeId.1, className := spec.className, fieldName := spec.fieldName
          access := spec.access, installation := i })
      (i := { options, message }) rfl (fun _ => rfl) (fun _ => rfl)
      (fun _ _ same => by simp only [Installed.request?, watchpointRequest, same]) rfl placed
      none_there₁
      (Breakpoints.swap_putWatchpoint s₂.breakpoints
        { id := s.breakpoints.takeId.1, className := spec.className, fieldName := spec.fieldName
          access := spec.access, installation := change { options, message } })
  cases r with
  | error e => exact booked
  | ok declared =>
    cases declared with
    | ok _ =>
      simp only [settles_bind, settles_modify]
      apply (placeWatchpoint_settles _ booked).mono
      intro r s₂ placed
      cases r with
      | error e => exact placed
      | ok change => exact stores change s₂ placed
    | error text =>
      simp only [settles_bind, settles_pure, settles_modify]
      apply stores (fun i => { i with message := some text }) s₁
      exact ⟨⟨[], by simp, booked, fun i => (List.append_nil _).symm, fun i => rfl, by simp⟩,
        s₁.breakpoints.owners, rfl⟩

theorem createMissingWatchpoints_settles (specs : List WatchpointSpec) {s : Session V}
    (h : s.Booked []) :
    Settles (createMissingWatchpoints specs) s fun _ s' => s'.Booked [] := by
  induction specs generalizing s with
  | nil => exact h
  | cons spec rest ih =>
    have more : ∀ (o : Option Watchpoint) (s : Session V), s.Booked [] →
        Settles (do return o :: (← createMissingWatchpoints rest) : Action V _) s
          fun _ s' => s'.Booked [] :=
      fun o s booked => (ih booked).bind fun _ _ booked => booked
    unfold createMissingWatchpoints takeBreakpointId
    simp only [settles_bind, settles_get]
    split
    · split
      · exact more _ s h
      · rw [settles_bind, settles_quietly, Task.ends_modifyGet]
        exact more _ _ ⟨h.sound, h.books.congr rfl rfl rfl rfl⟩
    · rename_i vacant
      exact (createWatchpoint_settles h vacant).bind fun _ s₁ booked => more _ s₁ booked

theorem setWatchpoints_settles (specs : List WatchpointSpec) {s : Session V} (h : s.Booked []) :
    Settles (setWatchpoints specs) s fun _ s' => s'.Booked [] := by
  unfold setWatchpoints
  rw [settles_exclusively]
  suffices reconciled : Settles (reconcileFields specs)
      { s with line := (s.line.join .fields).2 } fun _ s' => s'.Booked [] from
    reconciled.mono fun _ _ booked => booked.line _
  unfold reconcileFields
  apply (reviseWatchpoints_settles [] specs (h.line _)).bind
  intro kept s₁ booked
  simp only [settles_bind, settles_get, settles_quietly]
  apply (removeFields_ends _ booked).mono
  intro _ s₂ booked
  apply (createMissingWatchpoints_settles specs booked).mono
  intro r s₃ booked
  cases r with
  | error e => exact booked
  | ok obstacles => exact booked

/-! ## Exceptions -/

private theorem removeExceptionRequest_ends {s : Session V} (h : s.Booked []) :
    Task.Ends removeExceptionRequest s fun _ s' =>
      s'.Booked [] ∧ s'.breakpoints.exceptionRequest = none := by
  unfold removeExceptionRequest
  simp only [Task.ends_bind, Task.ends_get]
  split
  · rename_i none_yet
    exact ⟨h, none_yet⟩
  · rename_i r current
    simp only [Task.ends_bind, Task.ends_modify, Task.ends_pure]
    apply (tryCall_ends _ _).mono
    rintro answer s₁ ⟨machine, clock, cancelled, rfl, answers⟩
    obtain ⟨sound, effect⟩ := answers.effect h.sound
    obtain ⟨others, tried⟩ := delete_effect s clock cancelled effect
    have books := h.books.dropException current others
      (fun r' failed => deleteFailed_called.2 (.inl failed)) tried
    exact ⟨⟨sound, books⟩, rfl⟩

theorem setExceptionBreakpoints_settles (caught uncaught : Bool) {s : Session V}
    (h : s.Booked []) :
    Settles (setExceptionBreakpoints caught uncaught) s fun _ s' => s'.Booked [] := by
  unfold setExceptionBreakpoints
  rw [settles_exclusively, settles_bind, settles_quietly]
  apply (removeExceptionRequest_ends (h.line _)).mono
  rintro _ s₁ ⟨booked, none_yet⟩
  simp only
  split
  · simp only [settles_bind, settles_orFail, settles_modify]
    refine (tryCall_ends (.createRequest (.exception none caught uncaught)) s₁).mono
      ?_
    rintro answer s₂ ⟨machine, clock, cancelled, rfl, answers⟩
    obtain ⟨sound, effect⟩ := answers.effect booked.sound
    cases answer with
    | ok id =>
      obtain ⟨unused, after⟩ := effect
      have books := booked.books.setException (q := .exception none caught uncaught)
        none_yet unused rfl
      rw [← after] at books
      have still : ∀ r, s₁.DeleteFailed r → (s₁.called machine clock cancelled
          (.ofReply (.createRequest (.exception none caught uncaught)) (.ok id))).DeleteFailed r :=
        fun r failed => deleteFailed_called.2 (.inl failed)
      exact ⟨sound, books.remember still⟩
    | error e => exact (booked.called sound effect clock cancelled _).line _
  · exact booked.line _

/-! ## All together -/

private theorem deleteGivenUp_ends (gone : List Installed) {s : Session V}
    (h : s.Booked (gone.flatMap Installed.requests)) :
    Task.Ends (deleteGivenUp gone) s fun _ s' => s'.Booked [] := by
  induction gone generalizing s with
  | nil => exact h
  | cons i rest ih =>
    unfold deleteGivenUp
    rw [Task.ends_bind, Task.ends_modify]
    have forgotten : (modifyBreakpoints (Breakpoints.forget i) s).Booked
        ((i :: rest).flatMap Installed.requests) := ⟨h.sound, h.books.congr rfl rfl rfl rfl⟩
    refine (deleteRequests_ends i.requests forgotten fun r hr => ?_).bind fun _ s₁ => ?_
    · exact forgotten.books.free r (List.mem_flatMap.2 ⟨i, List.mem_cons_self, hr⟩)
    · rintro ⟨⟨loose, booked, subset⟩, owners, same⟩
      refine ih ⟨booked.sound, booked.books.loosen (fun r hr => ?_) fun r hr => ?_⟩
      · obtain ⟨mem, away⟩ := subset r hr
        obtain ⟨j, hj, hr⟩ := List.mem_flatMap.1 mem
        rcases List.mem_cons.1 hj with rfl | hj
        · exact absurd hr away
        · exact List.mem_flatMap.2 ⟨j, hj, hr⟩
      · obtain ⟨j, hj, hr⟩ := List.mem_flatMap.1 hr
        have there := forgotten.books.free r
          (List.mem_flatMap.2 ⟨j, List.mem_cons_of_mem i hj, hr⟩)
        rw [same]
        exact ⟨there.unkept, there.other⟩

theorem removeBreakpoints_ends {s : Session V} (h : s.Booked []) :
    Task.Ends removeBreakpoints s fun _ s' => s'.Booked [] := by
  unfold removeBreakpoints giveUp
  simp only [Task.ends_bind, Task.ends_exclusively, Task.ends_modifyGet]
  have lines : ({ s with breakpoints := s.breakpoints.giveUpLines.2 } : Session V).Booked
      (s.breakpoints.giveUpLines.1.flatMap Installed.requests) :=
    ⟨h.sound, h.books.giveUpLines⟩
  apply (deleteGivenUp_ends _ (lines.line _)).mono
  intro _ s₁ booked
  have fields : ({ s₁ with breakpoints := s₁.breakpoints.giveUpFields.2 } : Session V).Booked
      (s₁.breakpoints.giveUpFields.1.flatMap Installed.requests) :=
    ⟨booked.sound, booked.books.giveUpFields⟩
  apply (deleteGivenUp_ends _ (fields.line _)).mono
  intro _ s₂ booked
  exact (removeExceptionRequest_ends (booked.line _)).mono fun _ _ after => after.1.line _

end DebugSession.Session
