import DebugSession.Proofs.Consistency
import DebugSession.Proofs.Sources
import Mathlib.Logic.Equiv.Basic
/-!
A history of requests for breakpoints on lines leaves what the last request for each source alone
would leave, as far as no call fails: the same on each line, and as many requests of each kind on
the debuggee.
-/

namespace DebugSession

/-! ## Histories -/

/-- A request for the breakpoints on the lines of a source. -/
structure LineRequest where
  source : String
  specs : List BreakpointSpec
  modified : Bool
  deriving DecidableEq, Repr

namespace LineRequest

def operation (r : LineRequest) : BreakpointOperation := .setLines r.source r.specs r.modified

/-- The last request for each source. -/
def latest : List LineRequest → List LineRequest
  | [] => []
  | r :: rest => if rest.any (·.source = r.source) then latest rest else r :: latest rest

/-- What was asked for last of a source. -/
def asked (history : List LineRequest) (source : String) : List BreakpointSpec :=
  (history.reverse.find? (·.source = source)).elim [] LineRequest.specs

theorem asked_concat (history : List LineRequest) (r : LineRequest) (source : String) :
    asked (history ++ [r]) source =
      if r.source = source then r.specs else asked history source := by
  rw [asked, List.reverse_append, List.reverse_singleton, List.singleton_append, List.find?_cons,
    asked]
  by_cases same : r.source = source <;> simp [same]

private theorem find_latest (history : List LineRequest) (source : String) :
    (latest history).reverse.find? (·.source = source) =
      history.reverse.find? (·.source = source) := by
  induction history with
  | nil => rfl
  | cons r rest ih =>
    rw [latest, List.reverse_cons, List.find?_append, ← ih]
    split
    · rename_i again
      by_cases same : r.source = source
      · subst same
        have found : ((latest rest).reverse.find? (·.source = r.source)).isSome = true := by
          rw [ih]
          simpa using again
        rw [Option.or_of_isSome found]
      · simp [same]
    · rw [List.reverse_cons, List.find?_append]

theorem asked_latest (history : List LineRequest) : asked (latest history) = asked history := by
  funext source
  rw [asked, find_latest, asked]

end LineRequest

/-! ## What is shown -/

/-- What a client sees of a breakpoint, its number apart. -/
structure BreakpointView where
  location : Option BreakpointLocation
  verified : Bool
  options : BreakpointOptions
  deriving DecidableEq, Repr

def Breakpoint.view (b : Breakpoint) : BreakpointView :=
  { location := b.location, verified := b.installation.verified, options := b.installation.options }

/-- What is to be seen of a breakpoint when no call fails. -/
def BreakpointSpec.view (lookup : Option SourceLookup) (source : String) (spec : BreakpointSpec) :
    BreakpointView :=
  { location := spec.location lookup source
    verified := (spec.location lookup source).isSome
    options := spec.options.1 }

/-- The place of a line in loaded code does not depend on columns. -/
def Steady (lookup : Option SourceLookup) : Prop :=
  ∀ l, lookup = some l → ∀ source line column column',
    l.resolveBreakpoint source line column = l.resolveBreakpoint source line column'

theorem Steady.location {lookup : Option SourceLookup} (h : Steady lookup) (source : String)
    {spec spec' : BreakpointSpec} (same : spec.line = spec'.line) :
    spec.location lookup source = spec'.location lookup source := by
  cases lookup with
  | none => rfl
  | some l => exact (h l rfl source spec.line _ spec'.column).trans (by rw [same]; rfl)

namespace Session

variable {V : Type} {source : String} {specs : List BreakpointSpec} {modified : Bool}
  {answer : List Breakpoint} {xs : List Exchange} {s s' : Session V}

/-- On the lines of a source is to be seen what is asked for, first entries first. -/
def Shows (s : Session V) (source : String) (specs : List BreakpointSpec) : Prop :=
  ∀ line, (s.breakpoints.breakpoint? source line).map Breakpoint.view =
    (specs.find? (·.line = line)).map (BreakpointSpec.view s.providers.lookup source)

theorem Shows.seen (h : Shows s source specs) {line : UInt32} {bp : Breakpoint}
    (stored : s.breakpoints.breakpoint? source line = some bp) :
    ∃ spec : BreakpointSpec, spec.line = line ∧
      bp.location = spec.location s.providers.lookup source ∧
      bp.installation.verified = bp.location.isSome := by
  have seen := h line
  rw [stored, Option.map_some] at seen
  obtain ⟨spec, found, same⟩ := Option.map_eq_some_iff.1 seen.symm
  have location : spec.location s.providers.lookup source = bp.location :=
    congrArg BreakpointView.location same
  have verified : (spec.location s.providers.lookup source).isSome = bp.installation.verified :=
    congrArg BreakpointView.verified same
  exact ⟨spec, by simpa using List.find?_some found, location.symm, location ▸ verified.symm⟩

private theorem view_eq {lookup : Option SourceLookup} {spec : BreakpointSpec} {bp : Breakpoint}
    (location : bp.location = spec.location lookup source)
    (verified : bp.installation.verified = bp.location.isSome)
    (options : bp.installation.options = spec.options.1) :
    bp.view = spec.view lookup source := by
  rw [Breakpoint.view, BreakpointSpec.view, verified, location, options]

theorem stays_there {b : Breakpoints} {line : UInt32} {bp : Breakpoint}
    (h : staying b source modified line = some bp) : b.breakpoint? source line = some bp := by
  unfold staying at h
  split at h
  · cases h
  · exact h

private theorem Reconciled.shows {specs₀ : List BreakpointSpec}
    (h : Reconciled source (staying s.breakpoints source modified) specs answer xs s s')
    (smooth : Smooth xs) (steady : Steady s.providers.lookup) (before : Shows s source specs₀)
    (providers : s'.providers = s.providers) : Shows s' source specs := by
  intro line
  rw [providers]
  by_cases asked : line ∈ specs.map BreakpointSpec.line
  · obtain ⟨spec, leads, rfl⟩ := BreakpointSpec.exists_leading asked
    rw [BreakpointSpec.find_leading leads, Option.map_some]
    cases stays : staying s.breakpoints source modified spec.line with
    | some old =>
      obtain ⟨new, stored, revised⟩ := h.revised spec leads old stays
      obtain ⟨spec₀, line, location, verified⟩ := before.seen (stays_there stays)
      rw [stored, Option.map_some, view_eq ?_ (revised.verified smooth verified) revised.options]
      rw [revised.same]
      exact location.trans (steady.location source line)
    | none =>
      obtain ⟨k, found⟩ := exists_missing leads stays
      obtain ⟨bp, stored, created⟩ := h.created k spec found
      rw [stored, Option.map_some, view_eq ?_ (created.verified smooth) created.options]
      rw [created.same]
      rfl
  · have vacant := Option.not_isSome_iff_eq_none.1 (mt (h.lines line).1 asked)
    have unasked : specs.find? (·.line = line) = none := by
      simpa [List.find?_eq_none] using asked
    rw [vacant, unasked]
    rfl

/-! ## One request after the other -/

/-- A session that has dealt with some requests shows what was asked for last. -/
structure Follows (providers : Providers) (history : List LineRequest) (s : Session V) : Prop where
  filed : s.breakpoints.Filed
  providers : s.providers = providers
  shows : Smooth s.calls → ∀ source, Shows s source (LineRequest.asked history source)

theorem follows_start (machine : V) (settings : Settings) (providers : Providers) :
    Follows providers [] (start machine settings providers) :=
  ⟨.empty rfl, rfl, fun _ _ _ => rfl⟩

variable [Machine V]

def afterRequests (s : Session V) (history : List LineRequest) : Session V :=
  s.afterOperations (history.map LineRequest.operation)

theorem Follows.step {providers : Providers} {history : List LineRequest}
    (h : Follows providers history s) (steady : Steady providers.lookup) (r : LineRequest) :
    Follows providers (history ++ [r]) (s.afterOperation r.operation) := by
  have carried : Carried r.source _ s _
      ((setBreakpoints r.source r.specs r.modified).run.run advance s).1
      (s.afterOperation r.operation) := setBreakpoints_works r.source r.specs r.modified h.filed
  obtain ⟨xs, worked⟩ := carried.worked
  refine ⟨worked.filed h.filed, worked.providers.trans h.providers, fun smooth source => ?_⟩
  obtain ⟨smooth, answer, xs, -, smooth', worked, reconciled⟩ := carried.of_smooth smooth
  have before := h.shows smooth
  rw [LineRequest.asked_concat]
  split
  · rename_i same
    subst same
    exact reconciled.shows smooth' (h.providers ▸ steady) (before r.source) worked.providers
  · rename_i other
    intro line
    rw [Breakpoints.breakpoint?, worked.others source (Ne.symm other), worked.providers]
    exact before source line

private theorem Follows.run {providers : Providers} {history : List LineRequest}
    (h : Follows providers history s) (steady : Steady providers.lookup)
    (rest : List LineRequest) : Follows providers (history ++ rest) (s.afterRequests rest) := by
  induction rest generalizing history s with
  | nil => exact (List.append_nil history).symm ▸ h
  | cons r rest ih =>
    have after := ih (h.step steady r)
    rwa [List.append_assoc] at after

end Session

/-! ## What stands on the debuggee -/

def EventRequest.isBreakpoint : EventRequest → Bool
  | breakpoint _ _ _ _ => true
  | _ => false

theorem EventRequest.isPlaced_of_isBreakpoint {q : EventRequest} (h : q.isBreakpoint = true) :
    q.isPlaced = true := by
  cases q <;> simp_all [isBreakpoint, isPlaced]

/-- The request for what is to be seen. -/
def BreakpointView.request? (v : BreakpointView) : Option EventRequest :=
  v.location.map fun l => Session.breakpointRequest l v.options.condition

section

variable {V : Type} [Machine V] [Ledger V]

/-- The requests for breakpoints that stand on a debuggee. -/
abbrev Ledger.Standing (machine : V) : Type :=
  { r : RequestId // ∃ q, Ledger.live machine r = some q ∧ q.isBreakpoint = true }

end

namespace Session

variable {V : Type} {s : Session V}

/-- The request for what is kept on a line. -/
def asks (s : Session V) (x : String × UInt32) : Option EventRequest :=
  ((s.breakpoints.breakpoint? x.1 x.2).map Breakpoint.view).bind BreakpointView.request?

private theorem asks_eq_some {x : String × UInt32} {q : EventRequest} (h : s.asks x = some q) :
    ∃ bp, s.breakpoints.breakpoint? x.1 x.2 = some bp ∧ bp.location.isSome = true ∧
      (Installed.breakpoint bp).request? = some q ∧ q.isBreakpoint = true := by
  obtain ⟨v, seen, asked⟩ := Option.bind_eq_some_iff.1 h
  obtain ⟨bp, stored, rfl⟩ := Option.map_eq_some_iff.1 seen
  obtain ⟨l, known, rfl⟩ := Option.map_eq_some_iff.1 asked
  exact ⟨bp, stored, by rw [show bp.location = some l from known]; rfl, asked, rfl⟩

variable [Machine V] [Ledger V]

/-- What is installed on a line counts on one request, which stands. -/
private theorem Booked.stands (h : s.Booked [])
    (verified : ∀ source line bp, s.breakpoints.breakpoint? source line = some bp →
      bp.installation.verified = bp.location.isSome)
    {x : String × UInt32} {q : EventRequest} (asked : s.asks x = some q) :
    ∃ r, Ledger.live s.machine r = some q ∧ q.isBreakpoint = true ∧
      ∃ i, s.breakpoints.at? (.line x.1 x.2) = some i ∧ r ∈ i.requests := by
  obtain ⟨bp, stored, known, request, breakpoint⟩ := asks_eq_some asked
  have there := Breakpoints.at?_eq_breakpoint.2 stored
  have counted : bp.installation.requests ≠ [] := by
    have installed := (verified _ _ bp stored).trans known
    simpa [Installation.verified] using installed
  obtain ⟨r, mem⟩ := List.exists_mem_of_ne_nil _ counted
  exact ⟨r, (h.books.matched _ _ there r mem).trans request, breakpoint, _, there, mem⟩

/-- What stands is counted on by what is installed on a line. -/
private theorem Booked.counts (h : s.Booked []) (smooth : Smooth s.calls) {r : RequestId}
    {q : EventRequest} (stands : Ledger.live s.machine r = some q)
    (breakpoint : q.isBreakpoint = true) :
    ∃ x, s.asks x = some q ∧ ∃ i, s.breakpoints.at? (.line x.1 x.2) = some i ∧ r ∈ i.requests := by
  have noted : (s.breakpoints.owners.get? r).isSome = true := by
    rcases h.books.covered r q stands (EventRequest.isPlaced_of_isBreakpoint breakpoint) with
      noted | ⟨e, failed⟩
    · exact noted
    · cases smooth _ failed
  obtain ⟨o, noted⟩ := Option.isSome_iff_exists.1 noted
  obtain ⟨i, there, rfl, mem⟩ := (h.books.kept r o noted).resolve_left List.not_mem_nil
  have request : i.request? = some q := (h.books.matched _ i there r mem).symm.trans stands
  cases i with
  | watchpoint w =>
    obtain rfl := Option.some.inj request
    cases breakpoint
  | breakpoint bp =>
    obtain ⟨bp', stored, same⟩ := Option.map_eq_some_iff.1 there
    obtain rfl := Installed.breakpoint.inj same
    exact ⟨(bp'.source, bp'.line), by rw [asks, stored]; exact request, _, there, mem⟩

/-- The lines with something installed correspond to the requests that stand. -/
theorem Booked.standing (h : s.Booked []) (smooth : Smooth s.calls)
    (verified : ∀ source line bp, s.breakpoints.breakpoint? source line = some bp →
      bp.installation.verified = bp.location.isSome) :
    ∃ g : { x // (s.asks x).isSome = true } ≃ Ledger.Standing s.machine,
      ∀ x, Ledger.live s.machine (g x).1 = s.asks x.1 := by
  have there : ∀ x : { x // (s.asks x).isSome = true }, ∃ r : Ledger.Standing s.machine,
      Ledger.live s.machine r.1 = s.asks x.1 ∧
      ∃ i, s.breakpoints.at? (.line x.1.1 x.1.2) = some i ∧ r.1 ∈ i.requests := by
    rintro ⟨x, asked⟩
    obtain ⟨q, asked⟩ := Option.isSome_iff_exists.1 asked
    obtain ⟨r, stands, breakpoint, counted⟩ := h.stands verified asked
    exact ⟨⟨r, q, stands, breakpoint⟩, stands.trans asked.symm, counted⟩
  choose f same counted using there
  -- No two lines count on one request, and no line counts on two.
  refine ⟨Equiv.ofBijective f ⟨?_, ?_⟩, same⟩
  · intro x x' equal
    obtain ⟨i, stored, mem⟩ := counted x
    obtain ⟨i', stored', mem'⟩ := counted x'
    rw [← equal] at mem'
    obtain ⟨source, line⟩ := Place.line.inj (h.books.same_place stored mem stored' mem')
    exact Subtype.ext (Prod.ext source.symm line.symm)
  · rintro ⟨r, q, stands, breakpoint⟩
    obtain ⟨x, asked, i, stored, mem⟩ := h.counts smooth stands breakpoint
    refine ⟨⟨x, by rw [asked]; rfl⟩, Subtype.ext ?_⟩
    obtain ⟨i', stored', mem'⟩ := counted ⟨x, by rw [asked]; rfl⟩
    obtain rfl := Option.some.inj (stored.symm.trans stored')
    exact h.books.sole_request stored mem mem'

/-! ## Two ways to the same -/

/-- In two sessions the same is to be seen on each line, and as many requests of each kind stand on
the debuggees. -/
structure Agrees (s s' : Session V) : Prop where
  lines : ∀ source line, (s.breakpoints.breakpoint? source line).map Breakpoint.view =
    (s'.breakpoints.breakpoint? source line).map Breakpoint.view
  requests : ∃ e : Ledger.Standing s.machine ≃ Ledger.Standing s'.machine,
    ∀ r, Ledger.live s'.machine (e r).1 = Ledger.live s.machine r.1

private theorem agrees_of_lines {s' : Session V} (lines : ∀ source line,
      (s.breakpoints.breakpoint? source line).map Breakpoint.view =
        (s'.breakpoints.breakpoint? source line).map Breakpoint.view)
    (standing : ∃ g : { x // (s.asks x).isSome = true } ≃ Ledger.Standing s.machine,
      ∀ x, Ledger.live s.machine (g x).1 = s.asks x.1)
    (standing' : ∃ g : { x // (s'.asks x).isSome = true } ≃ Ledger.Standing s'.machine,
      ∀ x, Ledger.live s'.machine (g x).1 = s'.asks x.1) : Agrees s s' := by
  obtain ⟨g, same⟩ := standing
  obtain ⟨g', same'⟩ := standing'
  have asks : ∀ x, s.asks x = s'.asks x := fun x => by rw [Session.asks, lines, Session.asks]
  refine ⟨lines, g.symm.trans ((Equiv.subtypeEquivRight fun x => by rw [asks]).trans g'), ?_⟩
  intro r
  have there := same (g.symm r)
  rw [Equiv.apply_symm_apply] at there
  rw [there, asks]
  exact same' _

/-- What sessions agree on depends on nothing but what was asked for last of each source. -/
theorem agrees_of_asked {machine machine' : V} {settings settings' : Settings}
    {providers : Providers} (sound : Ledger.Sound machine) (sound' : Ledger.Sound machine')
    (fresh : ∀ r, Ledger.live machine r = none) (fresh' : ∀ r, Ledger.live machine' r = none)
    (steady : Steady providers.lookup) {history history' : List LineRequest}
    (same : LineRequest.asked history' = LineRequest.asked history)
    (smooth : Smooth ((start machine settings providers).afterRequests history).calls)
    (smooth' : Smooth ((start machine' settings' providers).afterRequests history').calls) :
    Agrees ((start machine settings providers).afterRequests history)
      ((start machine' settings' providers).afterRequests history') := by
  have follows := (follows_start machine settings providers).run steady history
  have follows' := (follows_start machine' settings' providers).run steady history'
  have booked := afterOperations_booked (start_booked settings providers sound fresh)
    (history.map LineRequest.operation)
  have booked' := afterOperations_booked (start_booked settings' providers sound' fresh')
    (history'.map LineRequest.operation)
  have shows := follows.shows smooth
  have shows' := follows'.shows smooth'
  refine agrees_of_lines ?_ (booked.standing smooth ?_) (booked'.standing smooth' ?_)
  · intro source line
    rw [shows source line, shows' source line, follows.providers, follows'.providers,
      List.nil_append, List.nil_append, same]
  · intro source line bp stored
    obtain ⟨spec, -, -, verified⟩ := (shows source).seen stored
    exact verified
  · intro source line bp stored
    obtain ⟨spec, -, -, verified⟩ := (shows' source).seen stored
    exact verified

/-- Any requests for breakpoints on lines, one after the other, come to what the last request for
each source comes to alone. -/
theorem agrees_latest (machine machine' : V) (settings settings' : Settings)
    (providers : Providers) (sound : Ledger.Sound machine) (sound' : Ledger.Sound machine')
    (fresh : ∀ r, Ledger.live machine r = none) (fresh' : ∀ r, Ledger.live machine' r = none)
    (steady : Steady providers.lookup) (history : List LineRequest)
    (smooth : Smooth ((start machine settings providers).afterRequests history).calls)
    (smooth' : Smooth ((start machine' settings' providers).afterRequests
      (LineRequest.latest history)).calls) :
    Agrees ((start machine settings providers).afterRequests history)
      ((start machine' settings' providers).afterRequests (LineRequest.latest history)) :=
  agrees_of_asked sound sound' fresh fresh' steady (LineRequest.asked_latest history) smooth
    smooth'

/-- A line is asked for twice, under a condition that it did not have. -/
def changedCondition : List LineRequest :=
  [⟨"A.java", [{ line := 7 }], false⟩, ⟨"B.java", [{ line := 1 }], true⟩,
    ⟨"A.java", [{ line := 7, condition := some "x" }, { line := 7 }], false⟩]

theorem agrees_after_changed_condition :
    let s := (start ({} : Debuggee) {} oneLine).afterRequests changedCondition
    let s' := (start ({} : Debuggee) {} oneLine).afterRequests (LineRequest.latest changedCondition)
    s.machine.requests.values = [.breakpoint "A" none 7 (some "x")] ∧ Agrees s s' := by
  have sound : Ledger.Sound ({} : Debuggee) := by
    intro r request found
    cases found
  have steady : Steady oneLine.lookup := by
    rintro l ⟨⟩ source line column column'
    rfl
  refine ⟨by decide +kernel, ?_⟩
  exact agrees_latest ({} : Debuggee) {} {} {} oneLine sound sound (fun _ => rfl) (fun _ => rfl)
    steady changedCondition (by decide +kernel) (by decide +kernel)

end Session
end DebugSession
