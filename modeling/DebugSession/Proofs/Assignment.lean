import DebugSession.Proofs.FieldNames
import DebugSession.Proofs.Relisting
/-!
A variable is given a value. If the name stands for a local or a field and the text for a value of
its type, the value is in the spot of the variable afterwards and nothing else has changed, even if
the handle of the frame was stale. Otherwise nothing has changed at all.
-/

namespace DebugSession.Session

variable {s s₁ s' : Session Debuggee} {thread : ThreadId} {found : List Variable}
  {p : Spot} {v : Variable} {value : Value}

/-! ## Storing a value -/

/-- A value was stored in a spot of the debuggee, and the session went on as it was. -/
structure Stored (s : Session Debuggee) (p : Spot) (value : Value) (s' : Session Debuggee) :
    Prop where
  machine : Debuggee.Same (s.machine.store p value) s'.machine
  responsive : s'.Responsive
  settings : s'.settings = s.settings
  providers : s'.providers = s.providers
  callMode : s'.callMode = s.callMode
  results : s'.results = s.results
  handles : s'.handles = s.handles

/-- What is looked at before a value is stored makes no difference. -/
theorem Stored.after {known : List FrameProxy} (h : Stored s₁ p value s')
    (moved : Surveys known s s₁) (handles : s₁.handles = s.handles) : Stored s p value s' where
  machine := (moved.alike.machine.store p value).trans h.machine
  responsive := h.responsive
  settings := h.settings.trans moved.alike.settings
  providers := h.providers.trans moved.alike.providers
  callMode := h.callMode.trans moved.alike.callMode
  results := h.results.trans moved.alike.results
  handles := h.handles.trans handles

theorem Responsive.outlines (responsive : s.Responsive)
    (h : Debuggee.Outlines s.machine s'.machine) (going : s'.cancelled = false)
    (settings : s'.settings = s.settings) : s'.Responsive where
  going := going
  connected := h.disconnected.trans responsive.connected
  prompt := by
    unfold waitLimit timeout
    rw [settings, h.latency]
    exact responsive.prompt

private theorem call_stores (responsive : s.Responsive) {c : Call} {a : c.Reply}
    (performed : Debuggee.perform c s.machine = (.ok a, s.machine.store p value)) :
    Settles (call c) s fun r s' => r = .ok a ∧ Stored s p value s' := by
  refine ((tryCall_answered responsive c).and (tryCall_ends c s)).mono ?_
  rintro r s' ⟨answered, machine, clock, cancelled, rfl, -⟩
  have reply := answered.reply
  have now := answered.machine
  rw [performed] at reply now
  subst reply
  have same : Debuggee.Same (s.machine.store p value)
      (s.called machine clock cancelled (.ofReply c (.ok a))).machine := by
    rw [now]
    exact .refl _
  refine ⟨rfl, same, ?_, rfl, rfl, rfl, rfl, rfl⟩
  exact responsive.outlines ((Debuggee.outlines_store _ p value).trans same.outlines)
    (answered.going nofun) rfl

/-- A call that the debuggee refuses because a handle is stale leaves everything as it is. -/
private theorem call_stale (known : List FrameProxy) (responsive : s.Responsive) {c : Call}
    (performed : Debuggee.perform c s.machine = (.error .invalidStackFrame, s.machine)) :
    Settles (call c) s fun r s' => r = .error .invalidStackFrame ∧ Peruses known s s' := by
  refine ((tryCall_answered responsive c).and (tryCall_ends c s)).mono ?_
  rintro r s' ⟨answered, machine, clock, cancelled, rfl, -⟩
  have reply := answered.reply
  have now := answered.machine
  rw [performed] at reply now
  subst reply
  obtain rfl : machine = s.machine := now
  have going := answered.going nofun
  exact ⟨rfl, .of_leaves ⟨rfl, rfl, rfl, rfl, .refl _⟩ (.refl _) (.of_eq rfl rfl rfl rfl rfl rfl) rfl
    fun h => ⟨going, h.connected, h.prompt⟩⟩

section

variable {q : FrameProxy} {f : Frame} {l : LocalVariable}

private theorem named_stores (h : Facing q f s) (mem : l ∈ f.locals.map (·.1))
    (fits : value.fits l.signature = true) {id : FrameId}
    (named : s.machine.Names id q.thread q.depth) (good : s.machine.frame id = .ok f) :
    Settles (call (.setLocalValue id l value)) s fun r s' =>
      r = .ok () ∧ Stored s (.slot q.thread q.depth l) value s' := by
  obtain ⟨-, generation, handled⟩ := named
  exact call_stores h.responsive
    (Debuggee.setLocalValue_store handled good (value_of_mem mem) fits)

private theorem retry_stores (h : Facing q f s) (mem : l ∈ f.locals.map (·.1))
    (fits : value.fits l.signature = true) (e : RemoteError) :
    Settles (retry q (fun id => call (.setLocalValue id l value)) e) s fun r s' =>
      r = .ok () ∧ Stored s (.slot q.thread q.depth l) value s' := by
  unfold retry
  have looked := refresh_yields q.depth h.tracks (.inl ⟨q, List.mem_singleton_self q, rfl⟩)
  refine Task.Ends.andThen (looked.ends Peruses.advance) ?_
  rintro r s₁ ⟨moved, shows, nothing⟩
  cases r with
  | none => exact nomatch h.stands.symm.trans (nothing rfl h.responsive)
  | some info =>
    obtain ⟨named, g, stands, good⟩ := shows info rfl
    have kept : Peruses [q] s₁ (setCachedFrame q (some info) s₁) := by
      refine .keep (List.mem_singleton_self q) fun info' same => ?_
      cases same
      exact named
    have all := Composes.trans moved kept
    have h₁ := h.surveys all.toSurveys
    obtain rfl := Option.some.inj (stands.symm.trans h₁.stands)
    rw [settles_bind, settles_modify]
    refine (named_stores h₁ mem fits named good).mono ?_
    exact fun r s₂ ⟨ok, stored⟩ => ⟨ok, stored.after all.toSurveys all.handles⟩

/-- A value that is stored through a proxy is stored in the frame that is there, even if the proxy
has to find it again first. -/
theorem setLocalValue_stores (h : Facing q f s) (mem : l ∈ f.locals.map (·.1))
    (fits : value.fits l.signature = true) :
    Settles (setLocalValue q l value) s fun r s' =>
      r = .ok () ∧ Stored s (.slot q.thread q.depth l) value s' := by
  unfold setLocalValue withFrame
  rw [settles_bind, settles_get]
  dsimp only
  cases cached : cachedFrame s q with
  | none => exact retry_stores h mem fits _
  | some info =>
    have named : s.machine.Names info.id q.thread q.depth := by
      obtain ⟨ps, qs, traced, -, -, listed⟩ := h.tracks
      exact traced.cached q (listed q (List.mem_singleton_self q)) info cached
    obtain ⟨-, generation, handled⟩ := id named
    dsimp only
    rw [settles_bind, settles_attempt]
    rcases Debuggee.frame_of_handle handled with ⟨g, good, stands⟩ | ⟨e, bad, reason⟩
    · obtain rfl := Option.some.inj (stands.symm.trans h.stands)
      refine (named_stores h mem fits named good).mono ?_
      rintro r s₁ ⟨rfl, stored⟩
      exact ⟨rfl, stored⟩
    · obtain rfl := reason.resolve_right fun nothing =>
        Option.some_ne_none _ (h.stands.symm.trans nothing)
      have refused : Debuggee.perform (.setLocalValue info.id l value) s.machine =
          (.error .invalidStackFrame, s.machine) := by
        simp only [Debuggee.perform, Debuggee.setLocalValue, Debuggee.checkAssignable_of_fits fits,
          bad, bind, Except.bind]
      refine (call_stale [q] h.responsive refused).mono ?_
      rintro r s₁ ⟨rfl, moved⟩
      refine (retry_stores (h.surveys moved.toSurveys) mem fits _).mono ?_
      rintro r s₂ ⟨ok, stored⟩
      exact ⟨ok, stored.after moved.toSurveys moved.handles⟩

end

/-- Whoever assigns a value that was typed to a local or a field stores it in the spot of that. -/
private theorem assign_stores {c : Container} {text signature : String}
    (tracks : ∀ q, c.proxy? = some q → Tracks [q] s) (responsive : s.Responsive)
    (readable : s.machine.failingFieldReads = []) (spot : c.spot? v = some p)
    (held : s.machine.Holds p) (typed : v.signature? = some signature)
    (parsed : Value.parse text signature = .ok value) :
    Settles (assign c v text) s fun r s' => r = .ok value ∧ Stored s p value s' := by
  obtain ⟨fits, -⟩ := Value.fits_parse parsed
  unfold Container.spot? at spot
  unfold Variable.signature? at typed
  unfold assign
  cases slot : v.slot with
  | some l =>
    rw [slot] at spot typed
    obtain rfl := Option.some.inj typed
    obtain ⟨q, about, rfl⟩ := Option.map_eq_some_iff.1 spot
    obtain ⟨f, stands, w, known⟩ := held
    have facing : Facing q f s := ⟨tracks q about, responsive, readable, stands⟩
    dsimp only
    rw [parsed, settles_bind, settles_liftExcept]
    dsimp only
    rw [about]
    dsimp only
    rw [settles_bind, settles_orFail]
    refine (setLocalValue_stores facing (Debuggee.mem_of_value known) fits).mono ?_
    rintro r s' ⟨rfl, stored⟩
    exact ⟨rfl, stored⟩
  | none =>
    rw [slot] at spot typed
    cases field : v.field with
    | none => rw [field] at typed; cases typed
    | some f =>
      rw [field] at spot typed
      obtain rfl := Option.some.inj typed
      obtain rfl := Option.some.inj spot
      have performed : Debuggee.perform (.setFieldValue (c.target? f) f value) s.machine =
          (.ok (), s.machine.store (f.spot (c.target? f)) value) :=
        Debuggee.setFieldValue_store held fits
      dsimp only
      rw [parsed, settles_bind, settles_liftExcept]
      dsimp only
      rw [settles_bind, settles_orFail]
      refine (call_stores responsive performed).mono ?_
      rintro r s' ⟨rfl, stored⟩
      exact ⟨rfl, stored⟩

/-- What is no object is described without a question to the debuggee. -/
private theorem describeVariable_plain (settings : VariableSettings)
    (plain : v.value.asObject? = none) :
    Settles (describeVariable thread settings v : Remote Debuggee _) s fun r s' =>
      (∃ shown, r = .ok shown) ∧ s' = s := by
  obtain ⟨name, value⟩ := v
  cases value with
  | object o => cases plain
  | _ => exact ⟨⟨_, rfl⟩, rfl⟩

/-! ## Exact updates -/

/-- A text stands for a value of a variable that was listed under a name, a local or a field. -/
structure Settable (found : List Variable) (name text : String) (v : Variable) (value : Value) :
    Prop where
  mem : v ∈ found
  named : v.name = name
  parsed : ∃ signature, v.signature? = some signature ∧ Value.parse text signature = .ok value

/-- A variable behind a reference has a value, which is in its spot, and all else is as it was. -/
structure Revalued (reference : Int64) (e : Pooled Container) (found : List Variable)
    (v : Variable) (value : Value) (s s' : Session Debuggee) : Prop where
  kept : s'.resolve? reference = some e
  relisted : Settles (listContainer e.owner e.object 0 none s'.settings.display) s' fun r _ =>
    r = .ok (found.map fun w => if w.name = v.name then { w with value } else w)
  stored : ∃ p, e.object.spot? v = some p ∧ Debuggee.Same (s.machine.store p value) s'.machine ∧
    s'.machine.valueAt? p = some value ∧
    ∀ q, q ≠ p → s'.machine.valueAt? q = s.machine.valueAt? q

variable {c : Container}

/-- With a value stored in the spot of one variable, the others are listed with what they had. -/
private theorem map_refreshed (register : Register thread c s found)
    (listed : found.map (c.refreshed s.machine) = found) (distinct : (found.map (·.name)).Nodup)
    (mem : v ∈ found) (spot : c.spot? v = some p) {d : Debuggee} (here : d.valueAt? p = some value)
    (others : ∀ q, q ≠ p → d.valueAt? q = s.machine.valueAt? q) :
    found.map (c.refreshed d) =
      found.map fun w => if w.name = v.name then { w with value } else w := by
  refine List.map_congr_left fun w mem' => ?_
  by_cases same : w.name = v.name
  · obtain rfl : w = v := List.inj_on_of_nodup_map distinct mem' mem same
    obtain ⟨signature, typed⟩ := Container.exists_signature spot
    rw [if_pos rfl, c.refreshed_of_spot spot typed, here]
    rfl
  · rw [if_neg same, c.refreshed_congr (d := s.machine)]
    · have fixed := List.map_inj_left.1 (listed.trans (List.map_id found).symm) w mem'
      exact fixed
    · refine fun q spot' => others q ?_
      rintro rfl
      exact same (register.apart w mem' v mem q spot' spot)

section

variable {reference : Int64} {e : Pooled Container} {name text : String}

/-- What has been listed is looked through for the name. -/
private theorem setVariable_of_found (there : s.resolve? reference = some e) (tracks : Tracks [] s)
    (listed : Settles (listContainer e.owner e.object 0 none s.settings.display) s fun r _ =>
      r = .ok found) {Q : Except SessionError Protocol.SetVariableResponseBody → Session Debuggee → Prop}
    (rest : ∀ s₁, Surveys [] s s₁ → s₁.handles = s.handles →
      Settles (match found.find? fun v => v.name = name with
        | none => throw (.setVariableFailed s!"No variable named '{name}'")
        | some v => do
          let value ← assign e.object v text
          let shown ← (describeVariable e.owner s.settings.display { v with value }).orFail
            assignmentFailed
          return {
            value := shown.value
            typeName := shown.typeName
            variablesReference := shown.variablesReference }) s₁ Q) :
    Settles (setVariable reference name text) s Q := by
  unfold setVariable
  rw [settles_bind, settles_get]
  dsimp only
  rw [there]
  dsimp only
  rw [settles_bind, settles_orFail]
  refine ((listContainer_surveys there tracks s.settings.display).and listed).mono ?_
  rintro r s₁ ⟨⟨moved, handles, -⟩, rfl⟩
  exact rest s₁ moved handles

private theorem assign_refuses {c : Container} (refused : ∀ signature value,
    v.signature? = some signature → Value.parse text signature ≠ .ok value) :
    Settles (assign c v text) s fun r s' => (∃ e, r = .error e) ∧ s' = s := by
  have unparsed : ∀ signature, v.signature? = some signature →
      ∃ e, Value.parse text signature = .error e := by
    intro signature typed
    cases parsed : Value.parse text signature with
    | ok value => exact absurd parsed (refused signature value typed)
    | error e => exact ⟨e, rfl⟩
  unfold Variable.signature? at unparsed
  unfold assign
  cases slot : v.slot with
  | some l =>
    rw [slot] at unparsed
    obtain ⟨e, bad⟩ := unparsed l.signature rfl
    dsimp only
    rw [bad, settles_bind, settles_liftExcept]
    exact ⟨⟨e, rfl⟩, rfl⟩
  | none =>
    rw [slot] at unparsed
    cases field : v.field with
    | none => exact ⟨⟨_, rfl⟩, rfl⟩
    | some f =>
      rw [field] at unparsed
      obtain ⟨e, bad⟩ := unparsed f.signature rfl
      dsimp only
      rw [bad, settles_bind, settles_liftExcept]
      exact ⟨⟨e, rfl⟩, rfl⟩

/-- A request fails that no variable was listed for, and nothing has changed then. -/
private theorem setVariable_refuses (there : s.resolve? reference = some e) (tracks : Tracks [] s)
    (listed : Settles (listContainer e.owner e.object 0 none s.settings.display) s fun r _ =>
      r = .ok found) (nothing : ∀ v value, ¬ Settable found name text v value) :
    Settles (setVariable reference name text) s fun r s' =>
      (∃ e, r = .error e) ∧ Debuggee.Same s.machine s'.machine := by
  refine setVariable_of_found there tracks listed fun s₁ moved _ => ?_
  split
  · exact ⟨⟨_, rfl⟩, moved.alike.machine⟩
  · rename_i v first
    have named : v.name = name := by simpa using List.find?_some first
    have mem := List.mem_of_find?_eq_some first
    rw [settles_bind]
    refine (assign_refuses fun signature value typed parsed =>
      nothing v value ⟨mem, named, signature, typed, parsed⟩).mono ?_
    rintro r s₂ ⟨⟨e, rfl⟩, rfl⟩
    exact ⟨⟨e, rfl⟩, moved.alike.machine⟩

theorem Settable.find (h : Settable found name text v value)
    (distinct : (found.map (·.name)).Nodup) : found.find? (fun w => w.name = name) = some v := by
  cases first : found.find? fun w => w.name = name with
  | none => exact absurd h.named (by simpa using List.find?_eq_none.1 first v h.mem)
  | some w =>
    have named : w.name = name := by simpa using List.find?_some first
    have mem := List.mem_of_find?_eq_some first
    rw [List.inj_on_of_nodup_map distinct mem h.mem (named.trans h.named.symm)]

/-- A request that a variable was listed for stores the value in the spot of that variable. -/
private theorem setVariable_stores (there : s.resolve? reference = some e) (tracks : Tracks [] s)
    (responsive : s.Responsive) (readable : s.machine.failingFieldReads = [])
    (listed : Settles (listContainer e.owner e.object 0 none s.settings.display) s fun r _ =>
      r = .ok found) (distinct : (found.map (·.name)).Nodup)
    (spot : e.object.spot? v = some p) (held : s.machine.Holds p)
    (settable : Settable found name text v value) :
    Settles (setVariable reference name text) s fun r s' =>
      (∃ body, r = .ok body) ∧ Stored s p value s' := by
  refine setVariable_of_found there tracks listed fun s₁ moved handles => ?_
  rw [settable.find distinct]
  obtain ⟨signature, typed, parsed⟩ := settable.parsed
  have known : ∀ q, e.object.proxy? = some q → Tracks [q] s₁ := by
    intro q about
    obtain ⟨handle, -, found⟩ := Option.bind_eq_some_iff.1 there
    exact (moved.tracks tracks).shown (handles ▸ found) about
  have readable₁ := moved.alike.machine.failingFieldReads.trans readable
  dsimp only
  rw [settles_bind]
  refine (assign_stores known (moved.responsive responsive) readable₁ spot
    ((moved.alike.machine.holds p).2 held) typed parsed).mono ?_
  rintro r s₂ ⟨rfl, stored⟩
  dsimp only
  rw [settles_bind, settles_orFail]
  refine (describeVariable_plain s.settings.display (Value.fits_parse parsed).2).mono ?_
  rintro r s₃ ⟨⟨shown, rfl⟩, rfl⟩
  exact ⟨⟨_, rfl⟩, stored.after moved handles⟩

private theorem Stored.mirrors (h : Stored s p value s') {c : Container}
    (tracks : Tracks c.listed s') : Mirrors c s s' where
  tracks := tracks
  responsive := h.responsive
  outlines := (Debuggee.outlines_store _ p value).trans h.machine.outlines
  settings := h.settings
  providers := h.providers
  callMode := h.callMode
  results := h.results

/-- Once a value is stored in the spot of a variable, listing the container again shows it. -/
private theorem Stored.revalued (h : Stored s p value s') (there : s.resolve? reference = some e)
    (tracks : Tracks e.object.listed s) (tracks' : Tracks [] s') (responsive : s.Responsive)
    (register : Register e.owner e.object s found)
    (listed : Settles (listContainer e.owner e.object 0 none s.settings.display) s fun r _ =>
      r = .ok found) (distinct : (found.map (·.name)).Nodup) (mem : v ∈ found)
    (spot : e.object.spot? v = some p) (held : s.machine.Holds p) :
    Revalued reference e found v value s s' := by
  have kept : s'.resolve? reference = some e := by
    unfold resolve?
    rw [h.handles]
    exact there
  have at' : ∀ q, s'.machine.valueAt? q = if q = p then some value else s.machine.valueAt? q :=
    fun q => (h.machine.valueAt? q).trans (Debuggee.valueAt?_store held value q)
  have here : s'.machine.valueAt? p = some value := (at' p).trans (if_pos rfl)
  have others : ∀ q, q ≠ p → s'.machine.valueAt? q = s.machine.valueAt? q :=
    fun q other => (at' q).trans (if_neg other)
  have typed := Container.exists_signature spot
  have unchanged : Mirrors e.object s s := ⟨tracks, responsive, (Debuggee.Same.refl _).outlines, rfl, rfl, rfl, rfl⟩
  have same : found.map (e.object.refreshed s.machine) = found :=
    Except.ok.inj ((register.again ⟨v, mem, typed⟩ s unchanged).symm.trans listed)
  have known : Tracks e.object.listed s' := by
    obtain ⟨handle, -, found⟩ := Option.bind_eq_some_iff.1 kept
    exact tracks'.listed found
  refine ⟨kept, ?_, p, spot, h.machine, here, others⟩
  rw [← map_refreshed register same distinct mem spot here others]
  exact register.again ⟨v, mem, typed⟩ s' (h.mirrors known)

/-- A variable behind a reference can be given a value just if it was listed under the name, is a
local or a field, and the text stands for a value of its type. It has that value then, and nothing
else has changed; otherwise nothing has changed at all. -/
theorem setVariable_exact (faithful : s.Faithful) (responsive : s.Responsive)
    (readable : s.machine.failingFieldReads = []) (there : s.resolve? reference = some e)
    (listed : Settles (listContainer e.owner e.object 0 none s.settings.display) s fun r _ =>
      r = .ok found) (distinct : (found.map (·.name)).Nodup) (name text : String) :
    Settles (setVariable reference name text) s fun r s' =>
      ((∃ body, r = .ok body) ↔ ∃ v value, Settable found name text v value) ∧
        (∀ v value, Settable found name text v value → Revalued reference e found v value s s') ∧
          ((∀ body, r ≠ .ok body) → Debuggee.Same s.machine s'.machine) := by
  have tracks : Tracks e.object.listed s := by
    obtain ⟨handle, -, found⟩ := Option.bind_eq_some_iff.1 there
    exact faithful.tracks.listed found
  have register := listContainer_register tracks responsive readable listed
  by_cases some : ∃ v value, Settable found name text v value
  · obtain ⟨v, value, settable⟩ := id some
    obtain ⟨signature, typed, parsed⟩ := settable.parsed
    obtain ⟨p, spot, held⟩ := register.held v settable.mem signature typed
    have stores := setVariable_stores there faithful.tracks responsive readable listed distinct spot
      held settable
    refine (Task.Ends.and stores (setVariable_tracks reference name text faithful.tracks)).mono ?_
    rintro r s' ⟨⟨⟨body, rfl⟩, stored⟩, tracks'⟩
    refine ⟨⟨fun _ => some, fun _ => ⟨body, rfl⟩⟩, fun w value' settable' => ?_,
      fun failed => absurd rfl (failed body)⟩
    obtain rfl : v = w :=
      Option.some.inj ((settable.find distinct).symm.trans (settable'.find distinct))
    obtain ⟨signature', typed', parsed'⟩ := settable'.parsed
    obtain rfl := Option.some.inj (typed.symm.trans typed')
    obtain rfl := Except.ok.inj (parsed.symm.trans parsed')
    exact stored.revalued there tracks tracks' responsive register listed distinct settable.mem spot
      held
  · refine (setVariable_refuses there faithful.tracks listed fun v value h => some ⟨v, value, h⟩).mono
      ?_
    rintro r s' ⟨⟨e, rfl⟩, same⟩
    exact ⟨⟨nofun, fun h => absurd h some⟩, fun v value h => absurd ⟨v, value, h⟩ some, fun _ => same⟩

end

/-- The field of the superclass is shown with the class behind its name. It is given a value under
that name, and the field that hides it keeps its own. -/
theorem setVariable_exact_derived : ∃ e, (openedSession (derived false)).resolve? 3 = some e ∧
    Settles (setVariable 3 "x (Base)" "9") (openedSession (derived false)) fun r s' =>
      (∃ body, r = .ok body) ∧
        Settles (listContainer e.owner e.object 0 none s'.settings.display) s' (fun r _ => r = .ok [
          { Variable.ofField (derivedField false) (.int 8) (some "o") with name := "x (Derived)" },
          { Variable.ofField baseField (.int 9) (some "o") with name := "x (Base)" }]) ∧
        s'.machine.fieldValue? 10 "com.example.Base" "x" = some (.int 9) ∧
        s'.machine.fieldValue? 10 "com.example.Derived" "x" = some (.int 8) := by
  have known : ((openedSession (derived false)).resolve? 3).map
      (fun e => (e.owner, e.object.key)) = some (1, .object derivedObject (some "o")) := by
    decide +kernel
  obtain ⟨⟨owner, c⟩, there, same⟩ := Option.map_eq_some_iff.1 known
  obtain ⟨rfl, keyed⟩ := Prod.mk.inj same
  obtain rfl := eq_object_of_key keyed
  let base : Variable :=
    { Variable.ofField baseField (.int 7) (some "o") with name := "x (Base)" }
  let found : List Variable := [
    { Variable.ofField (derivedField false) (.int 8) (some "o") with name := "x (Derived)" }, base]
  have listed : (Task.run advance (listContainer 1 (.object derivedObject (some "o")) 0 none
      (openedSession (derived false)).settings.display).run (openedSession (derived false))).1 =
        .ok found := by
    decide +kernel
  have settable : Settable found "x (Base)" "9" base (.int 9) :=
    ⟨.tail _ (.head _), rfl, "I", rfl, by decide +kernel⟩
  refine ⟨_, there, Settles.mono (setVariable_exact (openedSession_derived_faithful false)
    (by decide +kernel) (by decide +kernel) there listed (by decide) "x (Base)" "9") ?_⟩
  rintro r s' ⟨succeeds, revalued, -⟩
  obtain ⟨-, relisted, p, spot, -, here, others⟩ := revalued base (.int 9) settable
  obtain rfl : Spot.field 10 "com.example.Base" "x" = p := Option.some.inj spot
  refine ⟨succeeds.2 ⟨base, _, settable⟩, relisted, here, ?_⟩
  have kept := others (.field 10 "com.example.Derived" "x") (by decide)
  have hidden : (openedSession (derived false)).machine.fieldValue? 10 "com.example.Derived" "x" =
      some (.int 8) := by
    decide +kernel
  exact kept.trans hidden

end DebugSession.Session
