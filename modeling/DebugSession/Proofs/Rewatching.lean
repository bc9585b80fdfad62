import DebugSession.Proofs.Consistency
import DebugSession.Proofs.Watches
import Mathlib.Logic.Equiv.Basic
/-!
Whether watchpoints depend on what was asked for before. What is kept of a field is not looked at
again: a class that was loaded since, or entries that now come in another order, change nothing of
it. Wherever what is kept is up to date, a request for watchpoints comes to what it comes to in a
new session.
-/

namespace DebugSession

/-- The field that a request watches. -/
def EventRequest.field? : EventRequest → Option (String × String)
  | .watchpoint className fieldName _ _ => (className, fieldName)
  | _ => none

theorem EventRequest.isPlaced_of_field {q : EventRequest} {key : String × String}
    (h : q.field? = some key) : q.isPlaced = true := by
  cases q <;> simp_all [field?, isPlaced]

/-- The requests on a debuggee that watch a field. -/
abbrev Ledger.Watching {V : Type} [Machine V] [Ledger V] (machine : V) (key : String × String) :
    Type :=
  { r : RequestId // ∃ q, Ledger.live machine r = some q ∧ q.field? = some key }

/-- The request for what is to be seen. -/
def WatchpointView.request? (v : WatchpointView) : Option EventRequest :=
  if v.verified then some (.watchpoint v.className v.fieldName v.access v.condition) else none

/-! ## What is up to date -/

/-- What is kept of a field is what the first entry for it would make of it now. -/
structure Watchpoint.Current (loaded : String → Option ReferenceType) (lead : WatchpointSpec)
    (w : Watchpoint) : Prop where
  access : w.access = lead.access
  verified : w.installation.verified = (lead.view loaded).verified
  message : (w.revised lead).installation.message = (lead.view loaded).message

section

variable {loaded : String → Option ReferenceType} {specs : List WatchpointSpec}
  {key : String × String} {spec lead : WatchpointSpec} {w w' : Watchpoint} {w? : Option Watchpoint}

theorem Watchpoint.Current.view (h : w.Current loaded lead) (key : w.key = lead.key) :
    (w.revised lead).view = lead.view loaded := by
  obtain ⟨className, fieldName⟩ := Prod.mk.inj key
  have verified : (w.revised lead).installation.verified = (lead.view loaded).verified :=
    h.verified
  have condition : (w.revised lead).installation.options.condition = lead.options.1.condition :=
    rfl
  rw [Watchpoint.view, verified, h.message, condition]
  simp only [Watchpoint.revised, WatchpointSpec.view, className, fieldName, h.access]

namespace WatchpointSpec

theorem key_of_leading (h : leading? specs key = some lead) : lead.key = key := by
  simpa using List.find?_some h

theorem mem_of_keeping (h : keeping? specs key w? = some spec) :
    spec ∈ specs ∧ spec.key = key := by
  obtain ⟨w, -, found⟩ := Option.bind_eq_some_iff.1 h
  exact ⟨List.mem_of_find?_eq_some found, (by simpa using List.find?_some found : _ ∧ _).1⟩

theorem exists_leading (h : keeping? specs key w? = some spec) :
    ∃ lead, leading? specs key = some lead := by
  obtain ⟨mem, keyed⟩ := mem_of_keeping h
  exact Option.isSome_iff_exists.1 (List.find?_isSome.2 ⟨spec, mem, by simpa using keyed⟩)

theorem keeping?_of_leading (leads : leading? specs key = some lead)
    (access : w.access = lead.access) : keeping? specs key (some w) = some lead := by
  induction specs with
  | nil => cases leads
  | cons spec rest ih =>
    rw [leading?_cons] at leads
    split at leads
    · rename_i here
      subst here
      obtain rfl := Option.some.inj leads
      exact keeping?_first access rest
    · rename_i away
      rw [keeping?_skip (fun _ _ here => absurd here away), ih leads]

end WatchpointSpec

/-- What is kept of a field tells what is in its way now, and nothing else. -/
structure Watchpoint.Fresh (loaded : String → Option ReferenceType) (w : Watchpoint) : Prop where
  verified : w.installation.verified = (obstacle? loaded w.key).isNone
  message : w.installation.message = obstacle? loaded w.key

theorem obstacle?_congr {loaded' : String → Option ReferenceType}
    (same : loaded' key.1 = loaded key.1) : obstacle? loaded' key = obstacle? loaded key := by
  rw [obstacle?, obstacle?, same]

namespace Watchpoint.Fresh

theorem congr (h : w.Fresh loaded) (same : w'.view = w.view) : w'.Fresh loaded := by
  have key : w'.key = w.key := Prod.ext (congrArg WatchpointView.className same)
    (congrArg WatchpointView.fieldName same)
  constructor
  · rw [key]
    exact (congrArg WatchpointView.verified same).trans h.verified
  · rw [key]
    exact (congrArg WatchpointView.message same).trans h.message

theorem known (h : w.Fresh loaded) (verified : w.installation.verified = true) :
    (loaded w.className).isSome = true := by
  rw [h.verified, Option.isNone_iff_eq_none] at verified
  exact loaded_of_obstacle verified

theorem of_view (seen : w.view = spec.view loaded) (clear : spec.options.2 = none) :
    w.Fresh loaded := by
  have key : w.key = spec.key := Prod.ext (congrArg WatchpointView.className seen)
    (congrArg WatchpointView.fieldName seen)
  have message : w.installation.message = (obstacle? loaded spec.key <|> spec.options.2) :=
    congrArg WatchpointView.message seen
  constructor
  · rw [key]
    exact congrArg WatchpointView.verified seen
  · rw [key, message, clear]
    cases obstacle? loaded spec.key <;> rfl

theorem revised (h : w.Fresh loaded) (clear : spec.options.2 = none) :
    (w.revised spec).Fresh loaded := by
  refine ⟨h.verified, ?_⟩
  have message : (w.revised spec).installation.message =
      if spec.options.2.isSome then spec.options.2 else w.installation.message := rfl
  rw [message, clear]
  exact h.message

/-- Where the first entry for a field keeps what is watched of it, and its hit condition is not
refused or nothing else is to be told of it. -/
theorem current (h : w.Fresh loaded) (key : w.key = spec.key) (access : w.access = spec.access)
    (clear : spec.options.2 = none ∨ obstacle? loaded spec.key = none) :
    w.Current loaded spec := by
  have message : (w.revised spec).installation.message =
      if spec.options.2.isSome then spec.options.2 else w.installation.message := rfl
  have expected : (spec.view loaded).message =
      (obstacle? loaded spec.key <|> spec.options.2) := rfl
  refine ⟨access, ?_, ?_⟩
  · rw [h.verified, key]
    rfl
  · rw [message, expected, h.message, key]
    rcases clear with clear | clear
    · rw [clear]
      cases obstacle? loaded spec.key <;> rfl
    · rw [clear]
      cases spec.options.2 <;> rfl

end Watchpoint.Fresh

/-- If an entry keeps what is watched of a field, that is up to date. -/
def UpToDate (loaded : String → Option ReferenceType) (specs : List WatchpointSpec)
    (key : String × String) (w? : Option Watchpoint) : Prop :=
  ∀ w ∈ w?, ∀ lead ∈ WatchpointSpec.leading? specs key,
    (WatchpointSpec.keeping? specs key w?).isSome = true → w.Current loaded lead

/-- If an entry keeps what is watched of a field, the first entry for the field does, and there is
one thing at most to be told of it. -/
def GoesOn (loaded : String → Option ReferenceType) (specs : List WatchpointSpec)
    (key : String × String) (w? : Option Watchpoint) : Prop :=
  ∀ w ∈ w?, ∀ lead ∈ WatchpointSpec.leading? specs key,
    (WatchpointSpec.keeping? specs key w?).isSome = true →
      w.access = lead.access ∧ (lead.options.2 = none ∨ obstacle? loaded key = none)

instance (loaded : String → Option ReferenceType) (specs : List WatchpointSpec)
    (key : String × String) (w? : Option Watchpoint) : Decidable (GoesOn loaded specs key w?) :=
  inferInstanceAs (Decidable (∀ w ∈ w?, ∀ lead ∈ WatchpointSpec.leading? specs key, _ → _))

theorem GoesOn.upToDate (h : GoesOn loaded specs key w?)
    (fresh : ∀ w ∈ w?, w.key = key ∧ w.Fresh loaded) : UpToDate loaded specs key w? := by
  intro w there lead leads keeps
  obtain ⟨access, clear⟩ := h w there lead leads keeps
  obtain ⟨here, fresh⟩ := fresh w there
  have same := WatchpointSpec.key_of_leading leads
  exact fresh.current (here.trans same.symm) access (same ▸ clear)

/-- Some entry for a field has a hit condition that is refused. -/
def Refuses (specs : List WatchpointSpec) (key : String × String) : Prop :=
  ∃ spec ∈ specs, spec.key = key ∧ spec.options.2.isSome = true

theorem clear_of_not_refuses (accepted : ¬ Refuses specs key) (mem : spec ∈ specs)
    (here : spec.key = key) : spec.options.2 = none :=
  Option.not_isSome_iff_eq_none.1 fun refused => accepted ⟨spec, mem, here, refused⟩

end

namespace Session

variable {V : Type} [Machine V]

/-- What a request for watchpoints is answered, and the session after it. -/
def rewatch (specs : List WatchpointSpec) (s : Session V) :
    Except SessionError (List Watchpoint) × Session V :=
  (setWatchpoints specs).run.run advance s

variable [Ledger V] [Catalog V]

/-- A session in which watchpoints were asked for since it began. No call about them has failed but
for a class that was not loaded at the time. What is watched is hit, and anything else happens. A
field is `dirty` if since it is watched something was loaded as its class, or an entry for it had a
hit condition that was refused. -/
inductive Watched : (dirty : String × String → Prop) → Session V → Prop
  | start (machine : V) (settings : Settings) (providers : Providers)
      (sound : Ledger.Sound machine) (bare : ∀ r, Ledger.live machine r = none) :
    Watched (fun _ => False) (start machine settings providers)
  | request {dirty : String × String → Prop} {s : Session V} (h : Watched dirty s)
      (specs : List WatchpointSpec) (excused : Excused s (s.rewatch specs).2) :
    Watched (fun key => dirty key ∧ (WatchpointSpec.keeping? specs key
      (s.breakpoints.watchpoint? key)).isSome = true ∨ Refuses specs key) (s.rewatch specs).2
  | hit {dirty : String × String → Prop} {s : Session V} {request : RequestId} {i : Installed}
      (h : Watched dirty s) (found : s.breakpoints.installed? request = some i) :
    Watched dirty { s with breakpoints := (s.breakpoints.hit i).2 }
  | beside {dirty : String × String → Prop} {s s' : Session V} (h : Watched dirty s)
      (sound : Ledger.Sound s'.machine)
      (live : Ledger.live s'.machine = Ledger.live s.machine)
      (breakpoints : s'.breakpoints = s.breakpoints)
      (deletions : ∀ r, s'.DeleteFailed r → s.DeleteFailed r) :
    Watched (fun key => dirty key ∨
      Catalog.loaded s'.machine key.1 ≠ Catalog.loaded s.machine key.1) s'

variable {dirty : String × String → Prop} {s s' : Session V}

/-- The books agree with the debuggee, and no request was left behind. -/
structure Clean (s : Session V) : Prop where
  booked : s.Booked []
  undeleted : ∀ r, ¬ s.DeleteFailed r

omit [Catalog V] in
theorem Clean.keyed (h : Clean s) : s.breakpoints.Keyed :=
  fun _ _ found => (h.booked.books.watchpoint_stored found).1.symm

omit [Ledger V] in
private theorem not_deleteFailed (before : ∀ r, ¬ s.DeleteFailed r) (grown : Grown s s')
    (excused : Excused s s') (r : RequestId) : ¬ s'.DeleteFailed r := by
  rintro ⟨e, mem⟩
  obtain ⟨xs, calls⟩ := grown.calls
  rw [← calls, List.mem_append] at mem
  rcases mem with old | new
  · exact before r ⟨e, old⟩
  · rw [Excused, ← calls, List.drop_left] at excused
    obtain ⟨typeName, named, -⟩ := excused _ new e rfl
    cases named

theorem Clean.request (h : Clean s) {specs : List WatchpointSpec}
    (excused : Excused s (s.rewatch specs).2) : Clean (s.rewatch specs).2 := by
  have grown : Grown s (s.rewatch specs).2 := (setWatchpoints_fares specs h.keyed).1
  exact ⟨setWatchpoints_settles specs h.booked, not_deleteFailed h.undeleted grown excused⟩

omit [Catalog V] in
theorem clean_start {machine : V} (settings : Settings) (providers : Providers)
    (sound : Ledger.Sound machine) (bare : ∀ r, Ledger.live machine r = none) :
    Clean (start machine settings providers) := by
  refine ⟨start_booked settings providers sound bare, ?_⟩
  rintro r ⟨e, mem⟩
  cases mem

theorem Watched.clean (h : Watched dirty s) : Clean s := by
  induction h with
  | start machine settings providers sound bare => exact clean_start settings providers sound bare
  | request _ specs excused clean => exact clean.request excused
  | hit _ found clean => exact ⟨⟨clean.booked.sound, clean.booked.books.hit found⟩, clean.undeleted⟩
  | beside _ sound live breakpoints deletions clean =>
    refine ⟨⟨sound, ?_⟩, fun r failed => clean.undeleted r (deletions r failed)⟩
    rw [live, breakpoints]
    exact clean.booked.books.remember fun r failed => absurd failed (clean.undeleted r)

omit [Catalog V] in
/-- A hit is not seen. -/
private theorem Clean.view_hit (h : Clean s) {request : RequestId} {i : Installed}
    (found : s.breakpoints.installed? request = some i) (key : String × String) :
    ((s.breakpoints.hit i).2.watchpoint? key).map Watchpoint.view =
      (s.breakpoints.watchpoint? key).map Watchpoint.view := by
  unfold Breakpoints.hit
  simp only
  unfold Breakpoints.put
  split
  · rfl
  · rename_i stays
    cases i with
    | breakpoint b => rfl
    | watchpoint w =>
      have stored := h.booked.books.at?_of_installed found stays
      obtain ⟨w', there, same⟩ := Option.map_eq_some_iff.1 stored
      obtain rfl := Installed.watchpoint.inj same
      have hit := congrFun (Breakpoints.watchpoint?_put s.breakpoints
        { w' with installation := w'.installation.hit.2 }) key
      refine (congrArg (Option.map _) hit).trans ?_
      rw [Function.update_apply]
      split
      · rename_i here
        subst here
        have same : (s.breakpoints.watchpoint? w'.key).map Watchpoint.view = some w'.view :=
          congrArg (Option.map _) there
        exact same.symm
      · rfl

/-- What is kept of a field that is not dirty is what is known of the field. -/
theorem Watched.fresh (h : Watched dirty s) {key : String × String} (spotless : ¬ dirty key)
    {w : Watchpoint} (stored : s.breakpoints.watchpoint? key = some w) :
    w.Fresh (Catalog.loaded s.machine) := by
  induction h generalizing w with
  | start => cases stored
  | @request dirty s h specs excused ih =>
    obtain ⟨grown, holds⟩ := setWatchpoints_fares specs h.clean.keyed
    obtain ⟨answers, -, rewatched⟩ := holds excused
    rw [not_or] at spotless
    have settled := rewatched.fields key
    unfold Settled at settled
    rw [show Catalog.loaded (s.rewatch specs).2.machine = Catalog.loaded s.machine from
      grown.loaded]
    split at settled
    · rename_i spec keeps
      obtain ⟨old, new, there, here, kept⟩ := settled
      obtain rfl := Option.some.inj (stored.symm.trans here)
      have fresh := ih (fun soiled => spotless.1 ⟨soiled, by rw [keeps]; rfl⟩) there
      have asked := WatchpointSpec.mem_of_keeping keeps
      exact (fresh.revised (clear_of_not_refuses spotless.2 asked.1 asked.2)).congr
        (kept.view fresh.known)
    · obtain ⟨lead, leads, seen⟩ := Option.map_eq_some_iff.1
        (settled.symm.trans (congrArg (Option.map Watchpoint.view) stored))
      exact .of_view seen.symm (clear_of_not_refuses spotless.2
        (List.mem_of_find?_eq_some leads) (WatchpointSpec.key_of_leading leads))
  | hit h found ih =>
    have same := h.clean.view_hit found key
    rw [stored] at same
    obtain ⟨old, there, seen⟩ := Option.map_eq_some_iff.1 same.symm
    exact (ih spotless there).congr seen.symm
  | beside h _ _ breakpoints _ ih =>
    rw [not_or, not_not] at spotless
    rw [breakpoints] at stored
    have fresh := ih spotless.1 stored
    have here := h.clean.keyed key w stored
    have same := obstacle?_congr (here ▸ spotless.2)
    exact ⟨fresh.verified.trans (by rw [same]), fresh.message.trans same.symm⟩

/-! ## Requests on the debuggee -/

/-- The request for what is to be seen of a field. -/
def requestFor? (s : Session V) (key : String × String) : Option EventRequest :=
  ((s.breakpoints.watchpoint? key).map Watchpoint.view).bind WatchpointView.request?

omit [Machine V] [Ledger V] [Catalog V] in
private theorem requestFor?_eq_some {key : String × String} {q : EventRequest} :
    s.requestFor? key = some q ↔ ∃ w, s.breakpoints.watchpoint? key = some w ∧
      w.installation.requests ≠ [] ∧ q = watchpointRequest w := by
  have verified : ∀ i : Installation, i.verified = true ↔ i.requests ≠ [] := by
    simp [Installation.verified]
  rw [requestFor?]
  cases s.breakpoints.watchpoint? key with
  | none => simp
  | some w =>
    simp only [Option.map_some, Option.bind_some, WatchpointView.request?, Watchpoint.view,
      watchpointRequest, verified]
    by_cases bare : w.installation.requests = [] <;> simp [bare, eq_comm]

omit [Catalog V] in
/-- Whatever watches a field is counted on by what is kept of it. -/
private theorem Clean.counted (h : Clean s) {key : String × String}
    (r : Ledger.Watching s.machine key) :
    Ledger.live s.machine r.1 = s.requestFor? key ∧
      ∃ i, s.breakpoints.at? (.field key.1 key.2) = some i ∧ r.1 ∈ i.requests := by
  obtain ⟨r, q, stands, field⟩ := r
  have books := h.booked.books
  have noted : (s.breakpoints.owners.get? r).isSome = true :=
    (books.covered r q stands (EventRequest.isPlaced_of_field field)).resolve_right
      (h.undeleted r)
  obtain ⟨o, noted⟩ := Option.isSome_iff_exists.1 noted
  obtain ⟨i, there, rfl, mem⟩ := (books.kept r o noted).resolve_left List.not_mem_nil
  have asked : i.request? = some q := (books.matched _ i there r mem).symm.trans stands
  cases i with
  | breakpoint b =>
    obtain ⟨l, -, rfl⟩ := Option.map_eq_some_iff.1 asked
    cases field
  | watchpoint w =>
    obtain rfl := Option.some.inj asked
    obtain rfl := Option.some.inj field
    obtain ⟨w', stored, same⟩ := Option.map_eq_some_iff.1 there
    obtain rfl := Installed.watchpoint.inj same
    refine ⟨stands.trans (requestFor?_eq_some.2 ⟨w', stored, List.ne_nil_of_mem mem, rfl⟩).symm,
      .watchpoint w', there, mem⟩

omit [Catalog V] in
private theorem Clean.isEmpty (h : Clean s) {key : String × String}
    (unasked : s.requestFor? key = none) : IsEmpty (Ledger.Watching s.machine key) := by
  refine ⟨fun r => ?_⟩
  obtain ⟨q, stands, -⟩ := r.2
  cases (stands.symm.trans (h.counted r).1).trans unasked

omit [Catalog V] in
private theorem Clean.stands (h : Clean s) {key : String × String} {q : EventRequest}
    (asked : s.requestFor? key = some q) :
    ∃ r : Ledger.Watching s.machine key, ∀ r', r' = r := by
  obtain ⟨w, stored, counted, rfl⟩ := requestFor?_eq_some.1 asked
  obtain ⟨r, mem⟩ := List.exists_mem_of_ne_nil _ counted
  have there := Breakpoints.at?_eq_watchpoint.2 stored
  have stands := h.booked.books.matched _ _ there r mem
  have field : (watchpointRequest w).field? = some key := congrArg some (h.keyed key w stored)
  refine ⟨⟨r, _, stands, field⟩, fun r' => Subtype.ext ?_⟩
  obtain ⟨-, i, there', mem'⟩ := h.counted r'
  obtain rfl := Option.some.inj (there.symm.trans there')
  exact h.booked.books.sole_request there mem mem'

omit [Catalog V] in
/-- Where the same is to be seen of a field, the same watches it on the debuggee. -/
private theorem Clean.equiv {s' : Session V} (h : Clean s) (h' : Clean s') {key : String × String}
    (same : (s.breakpoints.watchpoint? key).map Watchpoint.view =
      (s'.breakpoints.watchpoint? key).map Watchpoint.view) :
    ∃ e : Ledger.Watching s.machine key ≃ Ledger.Watching s'.machine key,
      ∀ r, Ledger.live s'.machine (e r).1 = Ledger.live s.machine r.1 := by
  have asked : s'.requestFor? key = s.requestFor? key := by rw [requestFor?, ← same, requestFor?]
  have live : ∀ (r : Ledger.Watching s.machine key) (r' : Ledger.Watching s'.machine key),
      Ledger.live s'.machine r'.1 = Ledger.live s.machine r.1 :=
    fun r r' => by rw [(h.counted r).1, (h'.counted r').1, asked]
  cases request : s.requestFor? key with
  | none =>
    have := h.isEmpty request
    have := h'.isEmpty (asked.trans request)
    exact ⟨Equiv.equivOfIsEmpty _ _, fun r => live r _⟩
  | some q =>
    obtain ⟨r, only⟩ := h.stands request
    obtain ⟨r', only'⟩ := h'.stands (asked.trans request)
    refine ⟨⟨fun _ => r', fun _ => r, fun x => (only x).symm, fun x => (only' x).symm⟩, ?_⟩
    exact fun x => live x r'

/-! ## A new session -/

/-- What two requests for the same watchpoints have come to for a field: its entries are answered
alike, and the same watches it on the debuggees. -/
structure SameWatch (specs : List WatchpointSpec) (key : String × String)
    (answers answers' : List Watchpoint) (s s' : Session V) : Prop where
  answers : ∀ (i : Nat) (spec : WatchpointSpec), specs[i]? = some spec → spec.key = key →
    answers[i]?.map Watchpoint.view = answers'[i]?.map Watchpoint.view
  requests : ∃ e : Ledger.Watching s.machine key ≃ Ledger.Watching s'.machine key,
    ∀ r, Ledger.live s'.machine (e r).1 = Ledger.live s.machine r.1

omit [Machine V] [Ledger V] [Catalog V] in
private theorem Settled.seen {loaded : String → Option ReferenceType} {specs : List WatchpointSpec}
    {key : String × String} {old new : Option Watchpoint} (h : Settled loaded specs key old new)
    (keyed : ∀ w, old = some w → w.key = key) (current : UpToDate loaded specs key old) :
    new.map Watchpoint.view =
      (WatchpointSpec.leading? specs key).map (WatchpointSpec.view loaded) := by
  unfold Settled at h
  split at h
  · rename_i spec keeps
    obtain ⟨w, w', rfl, rfl, kept⟩ := h
    obtain ⟨lead, leads⟩ := WatchpointSpec.exists_leading keeps
    have current := current w rfl lead leads (by rw [keeps]; rfl)
    obtain rfl : spec = lead := Option.some.inj
      (keeps.symm.trans (WatchpointSpec.keeping?_of_leading leads current.access))
    have same : w.key = spec.key :=
      (keyed w rfl).trans (WatchpointSpec.key_of_leading leads).symm
    have known : w.installation.verified = true → (loaded w.className).isSome = true := by
      intro verified
      rw [current.verified] at verified
      rw [(Prod.mk.inj same).1]
      exact loaded_of_obstacle (Option.isNone_iff_eq_none.1 verified)
    rw [leads, Option.map_some, Option.map_some, kept.view known, current.view same]
  · exact h

omit [Machine V] [Ledger V] [Catalog V] in
private theorem answer_at {specs : List WatchpointSpec} {answers : List Watchpoint}
    (h : List.Forall₂ (fun spec a => ∃ w, s.breakpoints.watchpoint? spec.key = some w ∧
      a.view = spec.answer w) specs answers) {i : Nat} {spec : WatchpointSpec}
    (entry : specs[i]? = some spec) :
    answers[i]?.map Watchpoint.view =
      (s.breakpoints.watchpoint? spec.key).map spec.answer := by
  induction h generalizing i with
  | nil => cases entry
  | cons first _ ih =>
    cases i with
    | zero =>
      obtain rfl := Option.some.inj entry
      obtain ⟨w, stored, seen⟩ := first
      simp [stored, seen]
    | succ i => exact ih entry

omit [Machine V] [Ledger V] [Catalog V] in
private theorem answer_eq {w? w'? : Option Watchpoint} (spec : WatchpointSpec)
    (same : w?.map Watchpoint.view = w'?.map Watchpoint.view) :
    w?.map spec.answer = w'?.map spec.answer := by
  cases w? with
  | none => rw [Option.map_eq_none_iff.1 same.symm]
  | some w =>
    obtain ⟨w', rfl, seen⟩ := Option.map_eq_some_iff.1 same.symm
    exact congrArg some (spec.answer_congr seen.symm)

/-- A request for watchpoints comes to what it comes to in a new session with a debuggee on which
the same classes are loaded, for every field of which nothing is kept or what is kept is up to date.
It is up to date if the field is not dirty and the first entry for it goes on with it. What is kept
stays for the access for which it is watched, and it stays verified or not. -/
theorem rewatch_as_new (h : Watched dirty s) (specs : List WatchpointSpec) (machine : V)
    (settings : Settings) (providers : Providers) (sound : Ledger.Sound machine)
    (bare : ∀ r, Ledger.live machine r = none)
    (loaded : Catalog.loaded machine = Catalog.loaded s.machine)
    (excused : Excused s (s.rewatch specs).2)
    (excused' : Excused (start machine settings providers)
      ((start machine settings providers).rewatch specs).2) :
    ∃ answers answers', (s.rewatch specs).1 = .ok answers ∧
      ((start machine settings providers).rewatch specs).1 = .ok answers' ∧
      answers.length = specs.length ∧ answers'.length = specs.length ∧
      ∀ key,
        (UpToDate (Catalog.loaded s.machine) specs key (s.breakpoints.watchpoint? key) →
          SameWatch specs key answers answers' (s.rewatch specs).2
            ((start machine settings providers).rewatch specs).2) ∧
        (¬ dirty key →
          GoesOn (Catalog.loaded s.machine) specs key (s.breakpoints.watchpoint? key) →
          UpToDate (Catalog.loaded s.machine) specs key (s.breakpoints.watchpoint? key)) ∧
        ∀ w spec, s.breakpoints.watchpoint? key = some w →
          WatchpointSpec.keeping? specs key (some w) = some spec →
          (w.installation.verified = true →
            (Catalog.loaded s.machine w.className).isSome = true) →
          ∃ w', (s.rewatch specs).2.breakpoints.watchpoint? key = some w' ∧
            w'.access = w.access ∧ w'.installation.verified = w.installation.verified := by
  have clean := h.clean
  have clean' := clean_start settings providers sound bare
  obtain ⟨answers, answer, rewatched⟩ := (setWatchpoints_fares specs clean.keyed).2 excused
  obtain ⟨answers', answer', rewatched'⟩ := (setWatchpoints_fares specs clean'.keyed).2 excused'
  refine ⟨answers, answers', answer, answer', rewatched.answers.length_eq.symm,
    rewatched'.answers.length_eq.symm, fun key => ⟨fun current => ?_, fun spotless goesOn => ?_,
      fun w spec stored keeps known => ?_⟩⟩
  · have seen := (rewatched.fields key).seen (fun w => clean.keyed key w) current
    have seen' := (rewatched'.fields key).seen (fun w => clean'.keyed key w) (by rintro w ⟨⟩)
    have same : ((s.rewatch specs).2.breakpoints.watchpoint? key).map Watchpoint.view =
        (((start machine settings providers).rewatch specs).2.breakpoints.watchpoint? key).map
          Watchpoint.view := by
      rw [← loaded] at seen
      exact seen.trans seen'.symm
    have requests := (clean.request excused).equiv (clean'.request excused') same
    refine ⟨fun i spec entry here => ?_, requests⟩
    subst here
    rw [answer_at rewatched.answers entry, answer_at rewatched'.answers entry]
    exact answer_eq spec same
  · exact goesOn.upToDate fun w there => ⟨clean.keyed key w there, h.fresh spotless there⟩
  · have settled := rewatched.fields key
    unfold Settled at settled
    rw [stored, keeps] at settled
    obtain ⟨_, w', ⟨⟩, there, kept⟩ := settled
    exact ⟨w', there, kept.access, congrArg WatchpointView.verified (kept.view known)⟩

/-! ## Two fields -/

/-- A class that declares one field. -/
def classWith (className fieldName : String) : ReferenceType where
  name := className
  superclass := none
  interfaces := []
  isInterface := false
  fields := [{ name := fieldName, declaringType := className, signature := "I" }]

/-- A new session with a debuggee on which the first class is loaded. -/
def oneLoaded : Session Debuggee := start (({} : Debuggee).addType (classWith "A" "f")) {} {}

/-- Two fields were asked for. -/
def watchedBefore : Session Debuggee :=
  (oneLoaded.rewatch [⟨"A", "f", .write, none, none⟩, ⟨"B", "g", .read, none, none⟩]).2

/-- The first field under a condition and for another access, and the second one as before. -/
def wantedNow : List WatchpointSpec :=
  [⟨"A", "f", .write, some "x", none⟩, ⟨"A", "f", .read, none, none⟩, ⟨"B", "g", .read, none, none⟩]

private theorem watched_start {d : Debuggee} (bare : ∀ r, d.requests.get? r = none) :
    Watched (fun _ => False) (start d {} {}) := by
  refine .start d {} {} ?_ bare
  intro r request found
  cases (bare r).symm.trans found

/-- In both entries nothing is refused. -/
private theorem watched_before : ∃ dirty, Watched dirty watchedBefore ∧ ∀ key, ¬ dirty key := by
  refine ⟨_, .request (watched_start fun _ => rfl) _ (by decide +kernel), ?_⟩
  rintro key (⟨⟨⟩, -⟩ | ⟨spec, mem, -, refused⟩)
  have accepted : ∀ spec ∈ ([⟨"A", "f", .write, none, none⟩, ⟨"B", "g", .read, none, none⟩] :
      List WatchpointSpec), spec.options.2.isSome = false := by decide
  cases refused.symm.trans (accepted spec mem)

theorem rewatch_as_new_under_condition :
    ∃ answers answers', (watchedBefore.rewatch wantedNow).1 = .ok answers ∧
      (oneLoaded.rewatch wantedNow).1 = .ok answers' ∧
      ∀ key ∈ wantedNow.map WatchpointSpec.key, SameWatch wantedNow key answers answers'
        (watchedBefore.rewatch wantedNow).2 (oneLoaded.rewatch wantedNow).2 := by
  have began : Watched (fun _ => False) oneLoaded := watched_start fun _ => rfl
  obtain ⟨dirty, watched, spotless⟩ := watched_before
  have grown : Grown oneLoaded watchedBefore := (setWatchpoints_fares _ began.clean.keyed).1
  obtain ⟨answers, answers', answer, answer', -, -, fields⟩ :=
    rewatch_as_new watched wantedNow oneLoaded.machine {} {} began.clean.booked.sound
      (fun _ => rfl) grown.loaded.symm (by decide +kernel) (by decide +kernel)
  have goesOn : ∀ key ∈ wantedNow.map WatchpointSpec.key,
      GoesOn (Catalog.loaded watchedBefore.machine) wantedNow key
        (watchedBefore.breakpoints.watchpoint? key) := by decide +kernel
  refine ⟨answers, answers', answer, answer', fun key mem => ?_⟩
  obtain ⟨alike, upToDate, -⟩ := fields key
  exact alike (upToDate (spotless key) (goesOn key mem))

private theorem Watched.load {dirty : String × String → Prop} {s : Session Debuggee}
    (h : Watched dirty s) (t : ReferenceType) :
    ∃ dirty, Watched dirty { s with machine := s.machine.addType t } :=
  ⟨_, .beside h h.clean.booked.sound rfl rfl fun _ => id⟩

/-- A class that is loaded late is not looked for again, and of two entries for a field not the
first one counts, but the one for the access that was asked for before. -/
theorem kept_differs_from_new :
    let both : Session Debuggee :=
      start ((({} : Debuggee).addType (classWith "A" "f")).addType (classWith "B" "g")) {} {}
    let late : Session Debuggee :=
      { watchedBefore with machine := watchedBefore.machine.addType (classWith "B" "g") }
    let read := (both.rewatch [⟨"A", "f", .read, none, none⟩]).2
    let verified (s : Session Debuggee) (specs : List WatchpointSpec) :=
      (s.rewatch specs).1.map (List.map fun w => w.installation.verified)
    ((∃ dirty, Watched dirty late) ∧ Excused late (late.rewatch wantedNow).2 ∧
      late.machine.types.entries = both.machine.types.entries ∧
      verified late wantedNow = .ok [true, false, false]) ∧
    ((∃ dirty, Watched dirty read) ∧ Excused read (read.rewatch wantedNow).2 ∧
      read.machine.types.entries = both.machine.types.entries ∧
      verified read wantedNow = .ok [false, true, true]) ∧
    Excused both (both.rewatch wantedNow).2 ∧
    verified both wantedNow = .ok [true, false, true] := by
  obtain ⟨dirty, watched, -⟩ := watched_before
  refine ⟨⟨watched.load _, ?_, ?_, ?_⟩,
    ⟨⟨_, .request (watched_start fun _ => rfl) _ ?_⟩, ?_, ?_, ?_⟩, ?_, ?_⟩ <;> decide +kernel

end Session
end DebugSession
