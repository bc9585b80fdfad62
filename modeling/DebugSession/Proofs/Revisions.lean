import DebugSession.Proofs.Calls
import DebugSession.Proofs.Lines
import DebugSession.Session.Breakpoints
/-!
What bringing the lines of a source in line comes to: the calls that are made for it, in order, and
what is on the lines afterwards, whichever calls fail. The calls are known before the first one is
made; only the loss of the debuggee cuts them short.
-/

namespace DebugSession

/-! ## What is planned -/

/-- The calls that remove something installed. -/
def Installation.removing (i : Installation) : List Call := i.requests.map .deleteRequest

/-- The call that installs something, if its place in loaded code is known. -/
def placing (location : Option BreakpointLocation) (condition : Option String) : List Call :=
  (location.map fun l => Call.createRequest (Session.breakpointRequest l condition)).toList

/-- The calls for a breakpoint that stays. There are none unless its condition changes. -/
def Breakpoint.revising (bp : Breakpoint) (spec : BreakpointSpec) : List Call :=
  if bp.installation.options.condition ≠ spec.options.1.condition &&
      bp.installation.verified then
    bp.installation.removing ++ placing bp.location spec.options.1.condition
  else []

/-- The place in loaded code of what is asked for. -/
def BreakpointSpec.location (lookup : Option SourceLookup) (source : String)
    (spec : BreakpointSpec) : Option BreakpointLocation :=
  lookup.bind fun l => l.resolveBreakpoint source spec.line spec.column

/-- The breakpoint that is made of what is asked for. -/
def BreakpointSpec.breakpoint (lookup : Option SourceLookup) (source : String)
    (spec : BreakpointSpec) (id : UInt32) (installation : Installation) : Breakpoint :=
  { id, source, line := spec.line, column := spec.column, location := spec.location lookup source
    installation }

/-- The calls for a breakpoint that is new. -/
def BreakpointSpec.creating (lookup : Option SourceLookup) (source : String)
    (spec : BreakpointSpec) : List Call :=
  placing (spec.location lookup source) spec.options.1.condition

/-- No call has failed. -/
def Smooth (xs : List Exchange) : Prop := ∀ x ∈ xs, x.failure = none

instance (xs : List Exchange) : Decidable (Smooth xs) :=
  inferInstanceAs (Decidable (∀ x ∈ xs, x.failure = none))

theorem Smooth.sub {xs xs' : List Exchange} (h : Smooth xs') (sub : xs ⊆ xs') : Smooth xs :=
  fun x hx => h x (sub hx)

/-- What there is to say of a breakpoint: that its place is not known, or else what is wrong with
its hit condition. -/
def Breakpoint.due (bp : Breakpoint) (warning : Option String) : Option String :=
  if bp.location.isSome then warning else some bp.unresolvedText

/-- A breakpoint that stays, before and after such calls as `xs`. -/
structure Breakpoint.Revised (spec : BreakpointSpec) (xs : List Exchange) (old new : Breakpoint) :
    Prop where
  same : new = { old with installation := new.installation }
  hits : new.installation.hits = old.installation.hits
  options : new.installation.options = spec.options.1
  verified : Smooth xs → old.installation.verified = old.location.isSome →
    new.installation.verified = new.location.isSome
  message : Smooth xs → old.installation.verified = old.location.isSome →
    new.installation.message = (Session.BreakpointSpec.revise spec old.installation).message

theorem Breakpoint.Revised.more {spec : BreakpointSpec} {xs xs' : List Exchange}
    {old new : Breakpoint} (h : old.Revised spec xs new) (sub : xs ⊆ xs') :
    old.Revised spec xs' new :=
  { h with
    verified := fun smooth => h.verified (smooth.sub sub)
    message := fun smooth => h.message (smooth.sub sub) }

/-- A new breakpoint, after such calls as `xs`. -/
structure Breakpoint.Created (lookup : Option SourceLookup) (source : String)
    (spec : BreakpointSpec) (id : UInt32) (xs : List Exchange) (bp : Breakpoint) : Prop where
  same : bp = spec.breakpoint lookup source id bp.installation
  hits : bp.installation.hits = 0
  options : bp.installation.options = spec.options.1
  verified : Smooth xs → bp.installation.verified = bp.location.isSome
  message : Smooth xs → bp.installation.message = bp.due spec.options.2

theorem Breakpoint.Created.more {lookup : Option SourceLookup} {source : String}
    {spec : BreakpointSpec} {id : UInt32} {xs xs' : List Exchange} {bp : Breakpoint}
    (h : bp.Created lookup source spec id xs) (sub : xs ⊆ xs') :
    bp.Created lookup source spec id xs' :=
  { h with
    verified := fun smooth => h.verified (smooth.sub sub)
    message := fun smooth => h.message (smooth.sub sub) }

namespace Session

variable {V α β : Type} {source : String} {s s₁ s' : Session V} {xs xs' : List Exchange}

/-! ## Work on a source -/

/-- Calls were made, and breakpoints were changed on the lines of a source at the most. -/
structure Worked (source : String) (xs : List Exchange) (s s' : Session V) : Prop where
  calls : s'.calls = s.calls ++ xs
  providers : s'.providers = s.providers
  others : ∀ other, other ≠ source → s'.breakpoints.ofSource other = s.breakpoints.ofSource other
  watchpoints : s'.breakpoints.watchpoints = s.breakpoints.watchpoints
  filed : s.breakpoints.Filed → s'.breakpoints.Filed

theorem Worked.trans (h : Worked source xs s s₁) (h' : Worked source xs' s₁ s') :
    Worked source (xs ++ xs') s s' where
  calls := by rw [h'.calls, h.calls, List.append_assoc]
  providers := h'.providers.trans h.providers
  others other away := (h'.others other away).trans (h.others other away)
  watchpoints := h'.watchpoints.trans h.watchpoints
  filed := h'.filed ∘ h.filed

theorem worked_refl (source : String) (s : Session V) : Worked source [] s s :=
  ⟨by simp, rfl, fun _ _ => rfl, rfl, id⟩

/-- It does not matter who waits. -/
theorem Worked.in_line {line : Line} (h : Worked source xs { s with line } s')
    (line' : Line) : Worked source xs s { s' with line := line' } :=
  ⟨h.calls, h.providers, h.others, h.watchpoints, h.filed⟩

theorem worked_put (s : Session V) (bp : Breakpoint) :
    Worked bp.source [] s (modifyBreakpoints (fun b => b.putBreakpoint bp) s) where
  calls := (List.append_nil _).symm
  providers := rfl
  others _ away := (Breakpoints.ofSource_insert _ _ _ _).trans (if_neg away)
  watchpoints := rfl
  filed h := h.put bp

theorem worked_drop (s : Session V) (source : String) (line : UInt32) :
    Worked source [] s (modifyBreakpoints (fun b => b.dropBreakpoint source line) s) where
  calls := (List.append_nil _).symm
  providers := rfl
  others _ away := (Breakpoints.ofSource_insert _ _ _ _).trans (if_neg away)
  watchpoints := rfl
  filed h := h.drop source line

/-- What changes beside the breakpoints on lines. -/
theorem worked_beside (s : Session V) {f : Breakpoints → Breakpoints}
    (sources : (f s.breakpoints).sources = s.breakpoints.sources)
    (watchpoints : (f s.breakpoints).watchpoints = s.breakpoints.watchpoints) :
    Worked source [] s (modifyBreakpoints f s) where
  calls := (List.append_nil _).symm
  providers := rfl
  others other _ := by simp [modifyBreakpoints, Breakpoints.ofSource, sources]
  watchpoints := watchpoints
  filed h := h.congr sources

/-- Work has made the calls that were planned and come to what `Q` says, or it has failed because
the debuggee is lost. -/
def Carried (source : String) (plan : List Call) (s : Session V)
    (Q : α → List Exchange → Session V → Prop) : Except SessionError α → Session V → Prop
  | .ok a, s' => ∃ xs, Worked source xs s s' ∧ xs.map Exchange.call = plan ∧ Q a xs s'
  | .error e, s' => ∃ xs, Worked source xs s s' ∧ e = .vmTerminated ∧ ∃ x ∈ xs, x.IsLost

section

variable {plan plan' : List Call} {Q : β → List Exchange → Session V → Prop}
  {P : α → List Exchange → Session V → Prop}

theorem Carried.mono {r : Except SessionError α} {P' : α → List Exchange → Session V → Prop}
    (h : Carried source plan s P r s')
    (imp : ∀ a xs, Worked source xs s s' → P a xs s' → P' a xs s') :
    Carried source plan s P' r s' := by
  cases r with
  | error e => exact h
  | ok a =>
    obtain ⟨xs, worked, planned, holds⟩ := h
    exact ⟨xs, worked, planned, imp a xs worked holds⟩

theorem Carried.worked {r : Except SessionError α} (h : Carried source plan s P r s') :
    ∃ xs, Worked source xs s s' := by
  cases r with
  | ok a =>
    obtain ⟨xs, worked, -⟩ := h
    exact ⟨xs, worked⟩
  | error e =>
    obtain ⟨xs, worked, -⟩ := h
    exact ⟨xs, worked⟩

/-- Work during which no call fails does not fail. -/
theorem Carried.of_smooth {r : Except SessionError α} (h : Carried source plan s P r s')
    (smooth : Smooth s'.calls) : Smooth s.calls ∧
      ∃ a xs, r = .ok a ∧ Smooth xs ∧ Worked source xs s s' ∧ P a xs s' := by
  cases r with
  | ok a =>
    obtain ⟨xs, worked, -, holds⟩ := h
    rw [worked.calls] at smooth
    exact ⟨smooth.sub (List.subset_append_left _ _), a, xs, rfl,
      smooth.sub (List.subset_append_right _ _), worked, holds⟩
  | error e =>
    obtain ⟨xs, worked, -, x, mem, lost⟩ := h
    have success := smooth x (worked.calls ▸ List.mem_append_right _ mem)
    rw [Exchange.IsLost, success] at lost
    cases lost

/-- One thing after the other, as planned for each. -/
theorem carried_bind {x : Action V α} {f : α → Action V β}
    (first : Settles x s (Carried source plan s P))
    (rest : ∀ a xs s₁, Worked source xs s s₁ → P a xs s₁ →
      Settles (f a) s₁ (Carried source plan' s₁ fun b xs' => Q b (xs ++ xs'))) :
    Settles (x >>= f) s (Carried source (plan ++ plan') s Q) := by
  refine first.andThen ?_ ?_
  · rintro a s₁ ⟨xs, worked, planned, holds⟩
    refine (rest a xs s₁ worked holds).mono ?_
    intro r s' after
    cases r with
    | ok b =>
      obtain ⟨xs', worked', planned', holds'⟩ := after
      exact ⟨xs ++ xs', worked.trans worked', by rw [List.map_append, planned, planned'], holds'⟩
    | error e =>
      obtain ⟨xs', worked', terminated, x, hx, lost⟩ := after
      exact ⟨xs ++ xs', worked.trans worked', terminated, x, List.mem_append_right _ hx, lost⟩
  · exact fun _ _ failed => failed

theorem carried_quietly {x : Task (Session V) α}
    (h : Task.Ends x s fun a s' =>
      ∃ xs, Worked source xs s s' ∧ xs.map Exchange.call = plan ∧ P a xs s') :
    Settles (quietly x) s (Carried source plan s P) :=
  (settles_quietly x).2 h

/-- A change that comes after the last call. -/
theorem carried_modify {x : Action V α} {f : α → Session V → Session V}
    {Q : List Exchange → Session V → Prop} (first : Settles x s (Carried source plan s P))
    (last : ∀ a xs s₁, Worked source xs s s₁ → P a xs s₁ →
      Worked source [] s₁ (f a s₁) ∧ Q xs (f a s₁)) :
    Settles (do let a ← x; modify (f a)) s (Carried source plan s fun _ => Q) := by
  rw [← List.append_nil plan]
  refine carried_bind first ?_
  intro a xs s₁ worked holds
  obtain ⟨changed, holds'⟩ := last a xs s₁ worked holds
  have holds' : Q (xs ++ []) (f a s₁) := by rwa [List.append_nil]
  exact ⟨[], changed, rfl, holds'⟩

/-- A look at the state that comes after the last call. -/
theorem carried_read {x : Action V α} {f : Session V → β}
    (first : Settles x s (Carried source plan s P))
    (last : ∀ a xs s₁, Worked source xs s s₁ → P a xs s₁ → Q (f s₁) xs s₁) :
    Settles (do let _ ← x; return f (← get)) s (Carried source plan s Q) := by
  rw [← List.append_nil plan]
  refine carried_bind first ?_
  intro a xs s₁ worked holds
  have read : Q (f s₁) (xs ++ []) s₁ := by
    rw [List.append_nil]
    exact last a xs s₁ worked holds
  exact ⟨[], worked_refl source s₁, rfl, read⟩

/-- Changes that come before the first call. -/
theorem Carried.after {r : Except SessionError α} (h : Carried source plan s₁ P r s')
    (first : Worked source [] s s₁) : Carried source plan s P r s' := by
  cases r with
  | ok a =>
    obtain ⟨xs, worked, planned, holds⟩ := h
    exact ⟨xs, first.trans worked, planned, holds⟩
  | error e =>
    obtain ⟨xs, worked, lost⟩ := h
    exact ⟨xs, first.trans worked, lost⟩

theorem carried_first {x : Action V α} {f : Session V → Session V}
    (first : Worked source [] s (f s)) (h : Settles x (f s) (Carried source plan (f s) P)) :
    Settles (do modify f; x) s (Carried source plan s P) := by
  rw [settles_bind, settles_modify]
  exact Settles.mono h fun _ _ carried => carried.after first

end

/-! ## Single breakpoints -/

/-- Something else is kept on one line of a source, and no numbers are given. -/
structure Refiled (source : String) (line : UInt32) (new : Option Breakpoint)
    (s s' : Session V) : Prop where
  lines : s'.breakpoints.breakpoint? source =
    Function.update (s.breakpoints.breakpoint? source) line new
  issued : s'.breakpoints.issued = s.breakpoints.issued

private theorem Refiled.again {line : UInt32} {new new' : Option Breakpoint}
    (h : Refiled source line new s s₁) (h' : Refiled source line new' s₁ s') :
    Refiled source line new' s s' :=
  ⟨by rw [h'.lines, h.lines, Function.update_idem], h'.issued.trans h.issued⟩

private theorem Refiled.beside {line : UInt32} {new : Option Breakpoint}
    {owners : Table RequestId Owner} (h : Refiled source line new s s₁)
    (same : s'.breakpoints = { s₁.breakpoints with owners }) : Refiled source line new s s' :=
  ⟨by rw [same]; exact h.lines, by rw [same]; exact h.issued⟩

theorem refiled_put (s : Session V) (bp : Breakpoint) :
    Refiled bp.source bp.line (some bp) s (modifyBreakpoints (fun b => b.putBreakpoint bp) s) :=
  ⟨Breakpoints.breakpoint?_put s.breakpoints bp, rfl⟩

private theorem amend_works {line : UInt32} {bp : Breakpoint}
    (stored : s.breakpoints.breakpoint? source line = some bp)
    (keyed : bp.source = source ∧ bp.line = line) (f : Installation → Installation) :
    Worked source [] s (amendBreakpoint source line f s) ∧
      Refiled source line (some { bp with installation := f bp.installation }) s
        (amendBreakpoint source line f s) := by
  obtain ⟨rfl, rfl⟩ := keyed
  have put := refiled_put s { bp with installation := f bp.installation }
  simp only [amendBreakpoint, stored]
  exact ⟨worked_put s { bp with installation := f bp.installation }, put⟩

private theorem setOwner_works (source : String) (o : Owner) (outcome : Except String RequestId)
    (s : Session V) : Worked source [] s (setOwner o outcome s) ∧
      ∃ owners, (setOwner o outcome s).breakpoints = { s.breakpoints with owners } := by
  cases outcome with
  | ok id =>
    let f (b : Breakpoints) : Breakpoints := { b with owners := b.owners.insert id o }
    exact ⟨worked_beside (f := f) s rfl rfl, s.breakpoints.owners.insert id o, rfl⟩
  | error text => exact ⟨worked_refl source s, s.breakpoints.owners, rfl⟩

/-- What an attempt to install a breakpoint makes of an installation without requests. -/
structure Notes (bp : Breakpoint) (xs : List Exchange) (change : Installation → Installation) :
    Prop where
  options : ∀ i, (change i).options = i.options
  hits : ∀ i, (change i).hits = i.hits
  verified : Smooth xs → ∀ i, i.requests = [] → (change i).verified = bp.location.isSome
  message : Smooth xs → ∀ i, (change i).message = bp.due i.message

variable [Machine V]

private theorem tryCall_works (source : String) (c : Call) (s : Session V) :
    Task.Ends (tryCall c) s fun r s' =>
      Worked source [.ofReply c r] s s' ∧ s'.breakpoints = s.breakpoints := by
  apply (tryCall_ends c s).mono
  rintro r s' ⟨machine, clock, cancelled, rfl, -⟩
  exact ⟨⟨rfl, rfl, fun _ _ => rfl, rfl, id⟩, rfl⟩

theorem deleteRequests_works (source : String) (rs : List RequestId) (s : Session V) :
    Task.Ends (deleteRequests rs) s fun _ s' =>
      ∃ xs, Worked source xs s s' ∧ xs.map Exchange.call = rs.map .deleteRequest ∧
        ∃ owners, s'.breakpoints = { s.breakpoints with owners } := by
  induction rs generalizing s with
  | nil => exact ⟨[], worked_refl source s, rfl, s.breakpoints.owners, rfl⟩
  | cons r rest ih =>
    unfold deleteRequests
    simp only [Task.ends_bind, Task.ends_modify]
    apply (tryCall_works source _ _).mono
    rintro answer s₁ ⟨called, same⟩
    apply (ih s₁).mono
    rintro _ s' ⟨xs, worked, deleted, owners, same'⟩
    have erased : Worked source [] s
        (modifyBreakpoints (fun b => { b with owners := b.owners.erase r }) s) :=
      worked_beside s rfl rfl
    refine ⟨_, erased.trans (called.trans worked), ?_, owners, ?_⟩
    · simp [deleted]
    · rw [same', same]
      rfl

private theorem installRequest_works (source : String) (q : EventRequest) (s : Session V) :
    Settles (installRequest q) s (Carried source [.createRequest q] s fun outcome xs s' =>
      s'.breakpoints = s.breakpoints ∧ (Smooth xs → ∃ id, outcome = .ok id)) := by
  unfold installRequest call
  simp only [settles_bind, settles_attempt]
  apply (tryCall_works source _ _).mono
  rintro answer s₁ ⟨called, same⟩
  cases answer with
  | ok id => exact ⟨_, called, rfl, same, fun _ => ⟨id, rfl⟩⟩
  | error e =>
    simp only
    split
    · rename_i gone
      refine ⟨_, called, rfl, _, List.mem_singleton_self _, ?_⟩
      cases e <;> simp_all [RemoteError.isDisconnect, Exchange.IsLost, Exchange.ofReply]
    · refine ⟨_, called, rfl, same, fun smooth => ?_⟩
      cases smooth _ (List.mem_singleton_self _)

private theorem placeBreakpoint_works (source : String) (bp : Breakpoint) (s : Session V) :
    Settles (placeBreakpoint bp) s
      (Carried source (placing bp.location bp.installation.options.condition) s fun change xs s' =>
        (∃ owners, s'.breakpoints = { s.breakpoints with owners }) ∧
          Notes bp xs change) := by
  unfold placeBreakpoint placing
  split
  · rename_i unknown
    refine ⟨[], worked_refl source s, by simp [unknown], ⟨s.breakpoints.owners, rfl⟩, ?_⟩
    refine ⟨fun _ => rfl, fun _ => rfl, ?_, ?_⟩
    · intro _ i bare
      simp [Installation.verified, unknown, bare]
    · intro _ i
      simp [Breakpoint.due, unknown]
  · rename_i l known
    rw [known]
    change Settles _ s (Carried source ([.createRequest _] ++ []) s _)
    refine carried_bind (installRequest_works source _ s) ?_
    rintro outcome xs s₁ worked ⟨same, succeeds⟩
    obtain ⟨noted, owners, same'⟩ :=
      setOwner_works source (.breakpoint bp.source bp.line bp.id) outcome s₁
    refine ⟨[], noted, rfl, ⟨owners, same'.trans (by rw [same])⟩, ?_⟩
    cases outcome with
    | ok id =>
      refine ⟨fun _ => rfl, fun _ => rfl, ?_, ?_⟩
      · simp [Installation.verified, noteOutcome, known]
      · simp [noteOutcome, Breakpoint.due, known]
    | error text =>
      have failed : ¬ Smooth (xs ++ []) := by
        intro smooth
        obtain ⟨id, success⟩ := succeeds (smooth.sub (List.subset_append_left _ _))
        cases success
      exact ⟨fun _ => rfl, fun _ => rfl, fun smooth => absurd smooth failed,
        fun smooth => absurd smooth failed⟩

private theorem replaceBreakpoint_works {bp : Breakpoint}
    (stored : s.breakpoints.breakpoint? bp.source bp.line = some bp) :
    Settles (replaceBreakpoint bp) s
      (Carried bp.source
        (bp.installation.removing ++ placing bp.location bp.installation.options.condition) s
        fun _ xs s' => ∃ i, Refiled bp.source bp.line (some { bp with installation := i }) s s' ∧
          i.options = bp.installation.options ∧ i.hits = bp.installation.hits ∧
          (Smooth xs → i.verified = bp.location.isSome ∧
            i.message = bp.due bp.installation.message)) := by
  obtain ⟨worked, emptied⟩ := amend_works stored ⟨rfl, rfl⟩ fun i => { i with requests := [] }
  refine carried_first worked (carried_bind
    (carried_quietly (deleteRequests_works bp.source bp.installation.requests _)) ?_)
  rintro _ xs s₁ - ⟨owners, same⟩
  refine carried_modify (placeBreakpoint_works bp.source bp s₁) ?_
  rintro change xs' s₂ - ⟨⟨owners', same'⟩, notes⟩
  have emptied := (emptied.beside same).beside same'
  have stored' := (congrFun emptied.lines bp.line).trans (Function.update_self ..)
  obtain ⟨worked, amended⟩ := amend_works stored' ⟨rfl, rfl⟩ change
  refine ⟨worked, _, emptied.again amended, notes.options _, notes.hits _, ?_⟩
  intro smooth
  have smooth := smooth.sub (List.subset_append_right _ _)
  exact ⟨notes.verified smooth _ rfl, notes.message smooth _⟩

theorem reviseBreakpoint_works (bp : Breakpoint) (spec : BreakpointSpec)
    (s : Session V) :
    Settles (reviseBreakpoint bp spec) s
      (Carried bp.source (bp.revising spec) s fun _ xs s' =>
        ∃ new, Refiled bp.source bp.line (some new) s s' ∧ bp.Revised spec xs new) := by
  have put := refiled_put s
    { bp with installation := BreakpointSpec.revise spec bp.installation }
  have kept := (congrFun put.lines bp.line).trans (Function.update_self ..)
  refine carried_first (worked_put s
    { bp with installation := BreakpointSpec.revise spec bp.installation }) ?_
  split
  · rename_i changed
    have plan : bp.revising spec =
        bp.installation.removing ++ placing bp.location spec.options.1.condition := if_pos changed
    rw [plan]
    refine (replaceBreakpoint_works kept).mono ?_
    intro r s' carried
    refine carried.mono ?_
    rintro _ xs - ⟨i, again, options, hits, rest⟩
    refine ⟨_, put.again again, rfl, hits, options, fun smooth _ => (rest smooth).1, ?_⟩
    intro smooth located
    have installed : bp.installation.verified = true := (Bool.and_eq_true_iff.1 changed).2
    exact (rest smooth).2.trans (if_pos (located.symm.trans installed))
  · rename_i same
    have plan : bp.revising spec = [] := if_neg same
    rw [plan]
    exact ⟨[], worked_refl _ _, rfl, _, put, rfl, rfl, rfl, fun _ verified => verified,
      fun _ _ => rfl⟩

theorem createBreakpoint_works (spec : BreakpointSpec) (s : Session V) :
    Settles (createBreakpoint source spec) s
      (Carried source (spec.creating s.providers.lookup source) s fun _ xs s' =>
        s'.breakpoints.issued = s.breakpoints.issued + 1 ∧
        ∃ bp, s'.breakpoints.breakpoint? source =
            Function.update (s.breakpoints.breakpoint? source) spec.line (some bp) ∧
          bp.Created s.providers.lookup source spec (numberAfter s.breakpoints.issued) xs) := by
  unfold createBreakpoint takeBreakpointId
  rw [settles_bind, settles_get]
  dsimp only
  rw [settles_bind, settles_quietly, Task.ends_modifyGet]
  refine Settles.mono (Q := Carried source _ (modifyBreakpoints (fun b => b.takeId.2) s) _) ?_
    fun _ _ carried => carried.after (worked_beside s rfl rfl)
  refine carried_modify (placeBreakpoint_works source _ _) ?_
  rintro change xs s₁ - ⟨⟨owners, same⟩, notes⟩
  obtain ⟨bp, made⟩ : ∃ bp, bp = spec.breakpoint s.providers.lookup source
    (numberAfter s.breakpoints.issued)
    (change { options := spec.options.1, message := spec.options.2 }) := ⟨_, rfl⟩
  have put := refiled_put s₁ bp
  have worked := worked_put s₁ bp
  have created :
      bp.Created s.providers.lookup source spec (numberAfter s.breakpoints.issued) xs := by
    rw [made]
    exact ⟨rfl, notes.hits _, notes.options _, fun smooth => notes.verified smooth _ rfl,
      fun smooth => notes.message smooth _⟩
  subst made
  exact ⟨worked, put.issued.trans (by rw [same]; rfl), _, put.lines.trans (by rw [same]; rfl),
    created⟩

end Session
end DebugSession
