import DebugSession.Proofs.Catalogs
/-!
The fields that are watched after a request for watchpoints. Each field is dealt with on its own: if
the access for which it is watched is asked for, the first such entry revises what is kept of it;
else the first entry for it decides, as for a field that was not watched before.
-/

namespace DebugSession

/-! ## What is to be seen -/

/-- What a client sees of a watchpoint, its number apart, and the condition it is under. -/
structure WatchpointView where
  className : String
  fieldName : String
  access : AccessType
  condition : Option String
  verified : Bool
  message : Option String
  deriving DecidableEq, Repr

/-- What is in the way of watching a field. -/
def obstacle? (loaded : String → Option ReferenceType) (key : String × String) : Option String :=
  match loaded key.1 with
  | none => (RemoteError.classNotLoaded key.1).message
  | some t =>
    if t.fields.any fun f => f.name = key.2 then none else s!"{key.1} has no field '{key.2}'"

theorem loaded_of_obstacle {loaded : String → Option ReferenceType} {key : String × String}
    (free : obstacle? loaded key = none) : (loaded key.1).isSome = true := by
  unfold obstacle? at free
  split at free
  · cases free
  · rename_i t found
    rw [found]
    rfl

namespace Watchpoint

def key (w : Watchpoint) : String × String := (w.className, w.fieldName)

def view (w : Watchpoint) : WatchpointView :=
  { className := w.className, fieldName := w.fieldName, access := w.access
    condition := w.installation.options.condition
    verified := w.installation.verified
    message := w.installation.message }

/-- What is kept of a field, with the options now asked for. -/
def revised (w : Watchpoint) (spec : WatchpointSpec) : Watchpoint :=
  { w with installation := Session.WatchpointSpec.revise spec w.installation }

/-- What is kept of a field, before and after an entry for it has revised it. A class of which a
field is watched can be unloaded only from outside, and then it is open what is to be seen. -/
structure Kept (loaded : String → Option ReferenceType) (spec : WatchpointSpec)
    (w w' : Watchpoint) : Prop where
  key : w'.key = w.key
  access : w'.access = w.access
  view : (w.installation.verified = true → (loaded w.className).isSome = true) →
    w'.view = (w.revised spec).view

end Watchpoint

namespace WatchpointSpec

/-- The first entry for a field. -/
def leading? (specs : List WatchpointSpec) (key : String × String) : Option WatchpointSpec :=
  specs.find? fun spec => spec.key = key

theorem leading?_cons (spec : WatchpointSpec) (rest : List WatchpointSpec)
    (key : String × String) :
    leading? (spec :: rest) key = if spec.key = key then some spec else leading? rest key := by
  rw [leading?, List.find?_cons]
  by_cases here : spec.key = key <;> simp [here, leading?]

/-- The first entry for a field that asks for the access for which it is watched. -/
def keeping? (specs : List WatchpointSpec) (key : String × String) (w? : Option Watchpoint) :
    Option WatchpointSpec :=
  w?.bind fun w => specs.find? fun spec => spec.key = key && spec.access = w.access

/-- What is to be seen of a field that was not watched before. -/
def view (loaded : String → Option ReferenceType) (spec : WatchpointSpec) : WatchpointView :=
  { className := spec.className, fieldName := spec.fieldName, access := spec.access
    condition := spec.options.1.condition
    verified := (obstacle? loaded spec.key).isNone
    message := obstacle? loaded spec.key <|> spec.options.2 }

/-- The answer to an entry for a field of which `w` is kept. -/
def answer (spec : WatchpointSpec) (w : Watchpoint) : WatchpointView :=
  if w.access = spec.access then w.view else (Session.conflicting spec w w.id).view

theorem answer_congr (spec : WatchpointSpec) {w w' : Watchpoint} (same : w.view = w'.view) :
    spec.answer w = spec.answer w' := by
  have access : w.access = w'.access := congrArg WatchpointView.access same
  rw [answer, answer, access, same]
  split
  · rfl
  · simp [Session.conflicting, Watchpoint.view, access, Installation.verified]

theorem keeping?_first {spec : WatchpointSpec} {w : Watchpoint} (access : w.access = spec.access)
    (rest : List WatchpointSpec) : keeping? (spec :: rest) spec.key (some w) = some spec := by
  rw [keeping?, Option.bind_some, List.find?_cons_of_pos (by simp [access])]

theorem keeping?_skip {spec : WatchpointSpec} {key : String × String} {w? : Option Watchpoint}
    (nothing : ∀ w, w? = some w → spec.key = key → w.access ≠ spec.access)
    (rest : List WatchpointSpec) : keeping? (spec :: rest) key w? = keeping? rest key w? := by
  cases w? with
  | none => rfl
  | some w =>
    rw [keeping?, keeping?, Option.bind_some, Option.bind_some, List.find?_cons_of_neg]
    simpa using fun here access => nothing w rfl here access.symm

end WatchpointSpec

namespace Breakpoints

/-- What is watched is kept where it belongs. -/
def Keyed (b : Breakpoints) : Prop := ∀ key w, b.watchpoint? key = some w → w.key = key

theorem watchpoint?_put (b : Breakpoints) (w : Watchpoint) :
    (b.putWatchpoint w).watchpoint? = Function.update b.watchpoint? w.key (some w) := by
  funext key
  rw [Function.update_apply, watchpoint?, putWatchpoint, Table.get?_insert]
  rfl

theorem watchpoint?_drop (b : Breakpoints) (key : String × String) :
    (b.dropWatchpoint key).watchpoint? = Function.update b.watchpoint? key none := by
  funext key'
  rw [Function.update_apply, watchpoint?, dropWatchpoint, Table.get?_erase]
  rfl

theorem Keyed.update {b b' : Breakpoints} (h : b.Keyed) {key : String × String} {w : Watchpoint}
    (keyed : w.key = key)
    (fields : b'.watchpoint? = Function.update b.watchpoint? key (some w)) : b'.Keyed := by
  intro key' w' found
  rw [fields, Function.update_apply] at found
  split at found
  · rename_i same
    rw [← Option.some.inj found, keyed, same]
  · exact h key' w' found

end Breakpoints

namespace Session

variable {V : Type} {R : Session V → Session V → Prop} [Machine V] [Catalog V] {s : Session V}

/-! ## Single watchpoints -/

omit [Machine V] [Catalog V] in
private theorem watchpoint?_amend {key : String × String} {w : Watchpoint}
    (stored : s.breakpoints.watchpoint? key = some w) (keyed : w.key = key)
    (f : Installation → Installation) :
    (amendWatchpoint key f s).breakpoints.watchpoint? =
      Function.update s.breakpoints.watchpoint? key
        (some { w with installation := f w.installation }) := by
  have put := Breakpoints.watchpoint?_put s.breakpoints
    { w with installation := f w.installation }
  rw [← keyed] at stored ⊢
  simp only [amendWatchpoint, stored]
  exact put

private theorem deleteRequests_grown (rs : List RequestId) (s : Session V) :
    Task.Ends (deleteRequests rs) s fun _ s' =>
      Grown s s' ∧ s'.breakpoints.watchpoint? = s.breakpoints.watchpoint? := by
  refine ((deleteRequests_moves rs).ends Ambient.advance s).and ?_
  induction rs generalizing s with
  | nil => rfl
  | cons r rest ih =>
    unfold deleteRequests
    simp only [Task.ends_bind, Task.ends_modify]
    apply (tryCall_ends _ _).mono
    rintro answer s₁ ⟨machine, clock, cancelled, rfl, -⟩
    exact ih _

/-- A call about a class that is not loaded does not end the session. -/
private theorem refused_fares {γ : Type} {s s₁ : Session V} {typeName : String} {e : RemoteError}
    (grown : Grown s s₁) (unloaded : Excused s s₁ →
      e = .classNotLoaded typeName ∧ Catalog.loaded s.machine typeName = none) :
    Settles (if e.isDisconnect then throw .vmTerminated else return .error e.message :
      Action V (Except String γ)) s₁ (Fares s fun r s' => s' = s₁ ∧
        Catalog.loaded s.machine typeName = none ∧
        r = .error (RemoteError.classNotLoaded typeName).message) := by
  split
  · rename_i gone
    refine ⟨grown, fun excused => ?_⟩
    rw [(unloaded excused).1] at gone
    cases gone
  · refine ⟨grown, fun excused => ?_⟩
    obtain ⟨rfl, none⟩ := unloaded excused
    exact ⟨_, rfl, rfl, none, rfl⟩

private theorem installRequest_fares {className fieldName : String} {access : AccessType}
    {condition : Option String} (s : Session V) :
    Settles (installRequest (.watchpoint className fieldName access condition)) s
      (Fares s fun outcome s' => s'.breakpoints = s.breakpoints ∧
        ((Catalog.loaded s.machine className).isSome = true → ∃ id, outcome = .ok id)) := by
  unfold installRequest call
  simp only [settles_bind, settles_attempt]
  apply (tryCall_grown rfl rfl s).mono
  rintro answer s₁ ⟨grown, same, -, unloaded⟩
  cases answer with
  | ok id => exact ⟨grown, fun _ => ⟨_, rfl, same, fun _ => ⟨id, rfl⟩⟩⟩
  | error e =>
    refine fares_mono (refused_fares grown (unloaded e rfl)) ?_
    rintro _ _ - ⟨rfl, none, -⟩
    exact ⟨same, by simp [none]⟩

private theorem placeWatchpoint_fares (w : Watchpoint) (s : Session V) :
    Settles (placeWatchpoint w) s (Fares s fun change s' =>
      s'.breakpoints.watchpoint? = s.breakpoints.watchpoint? ∧
      ∃ outcome, change = noteOutcome outcome ∧
        ((Catalog.loaded s.machine w.className).isSome = true → ∃ id, outcome = .ok id)) := by
  have more : ∀ outcome, Stirs Grown (do
      modify (setOwner (.watchpoint w.className w.fieldName w.id) outcome)
      return noteOutcome outcome : Action V _) :=
    fun outcome => .bind (.modify (setOwner_changes _ _)) fun _ => .pure _
  refine fares_bind (installRequest_fares s) more ?_
  rintro outcome s₁ - ⟨same, succeeds⟩
  have owned : Grown s₁ (setOwner (.watchpoint w.className w.fieldName w.id) outcome s₁) :=
    setOwner_changes _ _ _
  refine ⟨owned, fun _ => ⟨_, rfl, ?_, outcome, rfl, succeeds⟩⟩
  rw [← same]
  cases outcome <;> rfl

/-- What is kept of a field is installed anew. If its class is loaded, nothing of that is seen. -/
private theorem replaceWatchpoint_fares {key : String × String} {w : Watchpoint}
    (stored : s.breakpoints.watchpoint? key = some w) (keyed : w.key = key)
    (verified : w.installation.verified = true) (rs : List RequestId) :
    Settles (reinstall (amendWatchpoint key) rs (placeWatchpoint w)) s (Fares s fun _ s' =>
        ∃ i, s'.breakpoints.watchpoint? =
            Function.update s.breakpoints.watchpoint? key (some { w with installation := i }) ∧
          ((Catalog.loaded s.machine w.className).isSome = true →
            { w with installation := i }.view = w.view)) := by
  have amends : ∀ f (s : Session V), Grown s (amendWatchpoint key f s) := by
    intro f s
    unfold amendWatchpoint
    split
    · exact Composes.refl s
    · exact .of_eq rfl rfl
  have places : ∀ change, Stirs Grown (modify (amendWatchpoint key change) : Action V _) :=
    fun change => .modify (amends change)
  have emptied := watchpoint?_amend stored keyed fun i => { i with requests := [] }
  have first := amends (fun i => { i with requests := [] }) s
  refine fares_first first (fares_bind (fares_quietly (deleteRequests_grown rs _))
    (fun _ => .bind (placeWatchpoint_stirs w) places) ?_)
  rintro _ s₂ deleted same
  refine fares_bind (placeWatchpoint_fares w s₂) places ?_
  rintro _ s₃ - ⟨same', outcome, rfl, succeeds⟩
  have there : s₃.breakpoints.watchpoint? key =
      some { w with installation := { w.installation with requests := [] } } := by
    rw [same', same, emptied, Function.update_self]
  refine fares_modify (amends _ _)
    ⟨noteOutcome outcome { w.installation with requests := [] }, ?_, fun loaded => ?_⟩
  · rw [watchpoint?_amend there keyed, same', same, emptied, Function.update_idem]
  · rw [deleted.loaded, first.loaded] at succeeds
    obtain ⟨id, rfl⟩ := succeeds loaded
    simp only [Watchpoint.view, verified]
    rfl

/-- An entry for a field that is watched for the same access revises what is kept of it. -/
private theorem reviseWatchpoint_fares {w : Watchpoint} {spec : WatchpointSpec}
    (keyed : w.key = spec.key) :
    Settles (reviseWatchpoint w spec) s (Fares s fun _ s' =>
      ∃ w', s'.breakpoints.watchpoint? =
          Function.update s.breakpoints.watchpoint? spec.key (some w') ∧
        w.Kept (Catalog.loaded s.machine) spec w') := by
  have put : (s.breakpoints.putWatchpoint (w.revised spec)).watchpoint? =
      Function.update s.breakpoints.watchpoint? spec.key (some (w.revised spec)) :=
    keyed ▸ Breakpoints.watchpoint?_put s.breakpoints (w.revised spec)
  unfold reviseWatchpoint
  refine fares_first (.of_eq rfl rfl) ?_
  split
  · rename_i changed
    have verified : w.installation.verified = true := (Bool.and_eq_true_iff.1 changed).2
    have there := (congrFun put spec.key).trans (Function.update_self ..)
    refine fares_mono (replaceWatchpoint_fares (w := w.revised spec) there keyed verified
      w.installation.requests) ?_
    rintro _ _ - ⟨i, fields, unseen⟩
    refine ⟨{ w.revised spec with installation := i }, fields.trans ?_, rfl, rfl,
      fun known => unseen (known verified)⟩
    exact (congrArg (Function.update · _ _) put).trans (Function.update_idem ..)
  · exact fares_pure ⟨w.revised spec, put, rfl, rfl, fun _ => rfl⟩

/-- A number is given. -/
private theorem fares_takeId {α : Type} {P : α → Session V → Prop}
    {f : UInt32 → Action V α}
    (h : Settles (f s.breakpoints.takeId.1) (modifyBreakpoints (fun b => b.takeId.2) s)
      (Fares (modifyBreakpoints (fun b => b.takeId.2) s) P)) :
    Settles (do
      let id ← quietly takeBreakpointId
      f id) s (Fares s P) := by
  unfold takeBreakpointId
  rw [settles_bind, settles_quietly, Task.ends_modifyGet]
  exact Settles.mono h fun _ _ fares => fares.after (.of_eq rfl rfl)

private theorem declaresField_fares (spec : WatchpointSpec) (s : Session V) :
    Settles (declaresField spec) s (Fares s fun declared s' =>
      s'.breakpoints = s.breakpoints ∧
        declared = (obstacle? (Catalog.loaded s.machine) spec.key).elim (.ok ()) .error) := by
  unfold declaresField call
  simp only [settles_bind, settles_attempt]
  apply (tryCall_grown rfl rfl s).mono
  rintro answer s₁ ⟨grown, same, ⟨v, answers⟩, unloaded⟩
  cases answer with
  | ok t =>
    have obstacle : obstacle? (Catalog.loaded s.machine) spec.key =
        if t.fields.any fun f => f.name = spec.fieldName then none
        else s!"{spec.className} has no field '{spec.fieldName}'" := by
      have loaded : Catalog.loaded s.machine spec.key.1 = some t := answers.told
      rw [obstacle?, loaded]
      rfl
    simp only [obstacle]
    split
    · exact ⟨grown, fun _ => ⟨_, rfl, same, rfl⟩⟩
    · exact ⟨grown, fun _ => ⟨_, rfl, same, rfl⟩⟩
  | error e =>
    refine fares_mono (refused_fares grown (unloaded e rfl)) ?_
    rintro _ _ - ⟨rfl, none, rfl⟩
    exact ⟨same, by simp [obstacle?, WatchpointSpec.key, none]⟩

private theorem putWatchpoint_grown (w : Watchpoint) :
    Stirs Grown (modify (modifyBreakpoints fun b => b.putWatchpoint w) : Action V _) :=
  .modify fun _ => .of_eq rfl rfl

private theorem putWatchpoint_fares {w : Watchpoint} {v : WatchpointView}
    {fields : String × String → Option Watchpoint} (seen : w.view = v)
    (there : s.breakpoints.watchpoint? = fields) :
    Settles (modify (modifyBreakpoints fun b => b.putWatchpoint w) : Action V _) s
      (Fares s fun _ s' => ∃ w', s'.breakpoints.watchpoint? =
        Function.update fields w.key (some w') ∧ w'.view = v) :=
  fares_modify (.of_eq rfl rfl) ⟨w, there ▸ Breakpoints.watchpoint?_put s.breakpoints w, seen⟩

/-- A field that was not watched before is watched unless something is in the way. -/
private theorem createWatchpoint_fares (spec : WatchpointSpec) (s : Session V) :
    Settles (createWatchpoint spec) s (Fares s fun _ s' =>
      ∃ w, s'.breakpoints.watchpoint? =
          Function.update s.breakpoints.watchpoint? spec.key (some w) ∧
        w.view = spec.view (Catalog.loaded s.machine)) := by
  unfold createWatchpoint
  dsimp only
  refine fares_takeId (fares_bind (declaresField_fares spec _) ?_ ?_)
  · intro declared
    split
    · exact .bind (placeWatchpoint_stirs _) fun _ => putWatchpoint_grown _
    · exact .bind (.pure _) fun _ => putWatchpoint_grown _
  · rintro declared s₁ grown ⟨same, found⟩
    have fields : s₁.breakpoints.watchpoint? = s.breakpoints.watchpoint? := by rw [same]; rfl
    have loaded : Catalog.loaded s₁.machine = Catalog.loaded s.machine := grown.loaded
    cases obstacle : obstacle? (Catalog.loaded s.machine) spec.key with
    | none =>
      obtain rfl : declared = .ok () := found.trans (congrArg (Option.elim · _ _) obstacle)
      refine fares_bind (placeWatchpoint_fares _ s₁) (fun _ => putWatchpoint_grown _) ?_
      rintro _ s₂ - ⟨same', outcome, rfl, succeeds⟩
      obtain ⟨id, rfl⟩ := succeeds (loaded ▸ loaded_of_obstacle obstacle)
      refine putWatchpoint_fares ?_ (same'.trans fields)
      simp [Watchpoint.view, WatchpointSpec.view, obstacle, noteOutcome, Installation.verified]
    | some text =>
      obtain rfl : declared = .error text := found.trans (congrArg (Option.elim · _ _) obstacle)
      rw [settles_bind, settles_pure]
      refine putWatchpoint_fares ?_ fields
      simp [Watchpoint.view, WatchpointSpec.view, obstacle, Installation.verified]

/-! ## What is kept -/

/-- What is watched of a field that no entry has kept so far. -/
def unkept (kept : List (String × String)) (there : String × String → Option Watchpoint)
    (key : String × String) : Option Watchpoint :=
  if key ∈ kept then none else there key

/-- Entries have been gone through. What they keep is revised, and all else is left alone. -/
structure Reviewed (loaded : String → Option ReferenceType) (specs : List WatchpointSpec)
    (kept kept' : List (String × String)) (s s' : Session V) : Prop where
  keyed : s'.breakpoints.Keyed
  untouched : ∀ key,
    WatchpointSpec.keeping? specs key (unkept kept s.breakpoints.watchpoint? key) = none →
    s'.breakpoints.watchpoint? key = s.breakpoints.watchpoint? key ∧ (key ∈ kept' ↔ key ∈ kept)
  revised : ∀ key spec,
    WatchpointSpec.keeping? specs key (unkept kept s.breakpoints.watchpoint? key) = some spec →
    key ∈ kept' ∧ ∃ w w', s.breakpoints.watchpoint? key = some w ∧
      s'.breakpoints.watchpoint? key = some w' ∧ w.Kept loaded spec w'

section

variable {loaded : String → Option ReferenceType} {spec : WatchpointSpec}
  {rest : List WatchpointSpec} {kept kept' : List (String × String)} {s₁ s' : Session V}

omit [Machine V] [Catalog V]

private theorem Reviewed.congr {kept₁ : List (String × String)}
    (h : Reviewed loaded rest kept₁ kept' s s') (same : ∀ key, key ∈ kept₁ ↔ key ∈ kept) :
    Reviewed loaded rest kept kept' s s' := by
  have unkept_eq : unkept kept₁ s.breakpoints.watchpoint? =
      unkept kept s.breakpoints.watchpoint? := by
    funext key
    simp only [unkept, same]
  obtain ⟨keyed, untouched, revised⟩ := h
  rw [unkept_eq] at untouched revised
  exact ⟨keyed, fun key none => (untouched key none).imp_right fun h => h.trans (same key),
    revised⟩

/-- An entry that keeps nothing. -/
private theorem Reviewed.skip (h : Reviewed loaded rest kept kept' s s')
    (nothing : ∀ w, unkept kept s.breakpoints.watchpoint? spec.key = some w →
      w.access ≠ spec.access) : Reviewed loaded (spec :: rest) kept kept' s s' := by
  have same : ∀ key, WatchpointSpec.keeping? (spec :: rest) key
      (unkept kept s.breakpoints.watchpoint? key) = WatchpointSpec.keeping? rest key
        (unkept kept s.breakpoints.watchpoint? key) := by
    intro key
    refine WatchpointSpec.keeping?_skip ?_ rest
    rintro w there rfl
    exact nothing w there
  refine ⟨h.keyed, ?_, ?_⟩
  · intro key
    rw [same]
    exact h.untouched key
  · intro key
    rw [same]
    exact h.revised key

/-- An entry that keeps what is watched of its field. -/
private theorem Reviewed.cons {w w' : Watchpoint} (new : spec.key ∉ kept)
    (stored : s.breakpoints.watchpoint? spec.key = some w) (access : w.access = spec.access)
    (fields : s₁.breakpoints.watchpoint? =
      Function.update s.breakpoints.watchpoint? spec.key (some w'))
    (revised : w.Kept loaded spec w')
    (h : Reviewed loaded rest (spec.key :: kept) kept' s₁ s') :
    Reviewed loaded (spec :: rest) kept kept' s s' := by
  have here : WatchpointSpec.keeping? (spec :: rest) spec.key
      (unkept kept s.breakpoints.watchpoint? spec.key) = some spec := by
    rw [unkept, if_neg new, stored, WatchpointSpec.keeping?_first access]
  have away : ∀ key, key ≠ spec.key → WatchpointSpec.keeping? (spec :: rest) key
      (unkept kept s.breakpoints.watchpoint? key) = WatchpointSpec.keeping? rest key
        (unkept (spec.key :: kept) s₁.breakpoints.watchpoint? key) := by
    intro key other
    have same : unkept (spec.key :: kept) s₁.breakpoints.watchpoint? key =
        unkept kept s.breakpoints.watchpoint? key := by
      simp [unkept, other, fields]
    rw [same]
    exact WatchpointSpec.keeping?_skip (fun _ _ here => absurd here.symm other) rest
  refine ⟨h.keyed, ?_, ?_⟩
  · intro key none
    have other : key ≠ spec.key := by
      rintro rfl
      rw [here] at none
      cases none
    rw [away key other] at none
    obtain ⟨same, mem⟩ := h.untouched key none
    rw [same, fields, Function.update_of_ne other]
    simpa [other] using mem
  · intro key keeper keeps
    by_cases same : key = spec.key
    · subst same
      obtain rfl := Option.some.inj (here.symm.trans keeps)
      have seen : unkept (spec.key :: kept) s₁.breakpoints.watchpoint? spec.key = none := by
        simp [unkept]
      obtain ⟨left, mem⟩ := h.untouched spec.key (by rw [seen]; rfl)
      refine ⟨mem.2 List.mem_cons_self, w, w', stored, ?_, revised⟩
      rw [left, fields, Function.update_self]
    · rw [away key same] at keeps
      have there := h.revised key keeper keeps
      rwa [fields, Function.update_of_ne same] at there

end

private theorem reviseWatchpoints_fares (kept : List (String × String))
    (specs : List WatchpointSpec) (keyed : s.breakpoints.Keyed) :
    Settles (reviseWatchpoints kept specs) s (Fares s fun kept' s' =>
      Reviewed (Catalog.loaded s.machine) specs kept kept' s s') := by
  induction specs generalizing kept s with
  | nil => exact fares_pure ⟨keyed, fun _ _ => ⟨rfl, Iff.rfl⟩, by simp [WatchpointSpec.keeping?]⟩
  | cons spec rest ih =>
    have skips : (∀ w, unkept kept s.breakpoints.watchpoint? spec.key = some w →
        w.access ≠ spec.access) → Settles (reviseWatchpoints kept rest) s
          (Fares s fun kept' s' =>
            Reviewed (Catalog.loaded s.machine) (spec :: rest) kept kept' s s') :=
      fun nothing => fares_mono (ih kept keyed) fun _ _ _ reviewed => reviewed.skip nothing
    unfold reviseWatchpoints
    rw [settles_bind, settles_get]
    dsimp only
    split
    · rename_i w found
      split
      · rename_i access
        split
        · rename_i new
          have new : spec.key ∉ kept := by simpa using new
          refine fares_bind (reviseWatchpoint_fares (keyed _ _ found))
            (fun _ => reviseWatchpoints_stirs _ _) ?_
          rintro _ s₁ grown ⟨w', fields, revised⟩
          have keyed' := keyed.update (revised.key.trans (keyed _ _ found)) fields
          refine fares_mono (ih (spec.key :: kept) keyed') fun _ _ _ reviewed => ?_
          rw [grown.loaded] at reviewed
          exact reviewed.cons new found access fields revised
        · rename_i seen
          have seen : spec.key ∈ kept := by simpa using seen
          refine fares_mono (ih (spec.key :: kept) keyed) fun _ _ _ reviewed => ?_
          refine (reviewed.congr fun key => ?_).skip ?_
          · have same : key ∈ spec.key :: kept ↔ key ∈ kept := by
              rw [List.mem_cons, or_iff_right_of_imp]
              rintro rfl
              exact seen
            exact same
          · simp [unkept, seen]
      · rename_i other
        refine skips fun w' there => ?_
        rw [unkept] at there
        split at there
        · cases there
        · rwa [← Option.some.inj (found.symm.trans there)]
    · rename_i vacant
      exact skips (by simp [unkept, vacant])

/-! ## What goes, and what is new -/

theorem removeFields_grown (keys : List (String × String)) (s : Session V) :
    Task.Ends (removeFields keys) s fun _ s' => Grown s s' ∧
      ∀ key, s'.breakpoints.watchpoint? key =
        if key ∈ keys then none else s.breakpoints.watchpoint? key := by
  refine ((removeFields_moves keys).ends Ambient.advance s).and ?_
  induction keys generalizing s with
  | nil => simp [removeFields]
  | cons first rest ih =>
    unfold removeFields
    rw [Task.ends_bind, Task.ends_get]
    dsimp only
    split
    · rename_i vacant
      apply (ih s).mono
      intro _ s' left key
      rw [left]
      by_cases same : key = first <;> simp [same, vacant]
    · rename_i w found
      simp only [Task.ends_bind, Task.ends_modify]
      apply (deleteRequests_grown w.installation.requests _).mono
      rintro _ s₁ ⟨-, same⟩
      have fields : s₁.breakpoints.watchpoint? =
          Function.update s.breakpoints.watchpoint? first none :=
        same.trans (Breakpoints.watchpoint?_drop s.breakpoints first)
      apply (ih s₁).mono
      intro _ s' left key
      rw [left, fields, Function.update_apply]
      by_cases same : key = first <;> simp [same]

/-- What is in the way of an entry: its field is watched for another access. -/
def Blocked (s : Session V) (spec : WatchpointSpec) (o : Option Watchpoint) : Prop :=
  ∃ w, s.breakpoints.watchpoint? spec.key = some w ∧
    if w.access = spec.access then o = none else ∃ id, o = some (conflicting spec w id)

/-- Fields that were not watched are watched as the first entries for them say. -/
structure Filled (loaded : String → Option ReferenceType) (specs : List WatchpointSpec)
    (obstacles : List (Option Watchpoint)) (s s' : Session V) : Prop where
  untouched : ∀ key w, s.breakpoints.watchpoint? key = some w →
    s'.breakpoints.watchpoint? key = some w
  created : ∀ key, s.breakpoints.watchpoint? key = none →
    (s'.breakpoints.watchpoint? key).map Watchpoint.view =
      (WatchpointSpec.leading? specs key).map (WatchpointSpec.view loaded)
  obstacles : List.Forall₂ (Blocked s') specs obstacles

section

variable {loaded : String → Option ReferenceType} {spec : WatchpointSpec}
  {rest : List WatchpointSpec} {obstacles : List (Option Watchpoint)} {s₁ s' : Session V}

omit [Machine V] [Catalog V]

/-- An entry for a field that is watched already. -/
private theorem Filled.skip {o : Option Watchpoint} {w : Watchpoint}
    (stored : s.breakpoints.watchpoint? spec.key = some w)
    (obstacle : if w.access = spec.access then o = none else ∃ id, o = some (conflicting spec w id))
    (h : Filled loaded rest obstacles s s') :
    Filled loaded (spec :: rest) (o :: obstacles) s s' := by
  refine ⟨h.untouched, fun key vacant => ?_,
    .cons ⟨w, h.untouched _ w stored, obstacle⟩ h.obstacles⟩
  rw [h.created key vacant, WatchpointSpec.leading?_cons, if_neg]
  rintro rfl
  cases stored.symm.trans vacant

/-- An entry for a field that was not watched before. -/
private theorem Filled.cons {w : Watchpoint}
    (vacant : s.breakpoints.watchpoint? spec.key = none)
    (fields : s₁.breakpoints.watchpoint? =
      Function.update s.breakpoints.watchpoint? spec.key (some w))
    (seen : w.view = spec.view loaded) (h : Filled loaded rest obstacles s₁ s') :
    Filled loaded (spec :: rest) (none :: obstacles) s s' := by
  have there : s'.breakpoints.watchpoint? spec.key = some w :=
    h.untouched _ w (by rw [fields, Function.update_self])
  have access : w.access = spec.access := congrArg WatchpointView.access seen
  refine ⟨fun key w' found => h.untouched key w' ?_, fun key none => ?_,
    .cons ⟨w, there, by simp [access]⟩ h.obstacles⟩
  · have away : key ≠ spec.key := by
      rintro rfl
      cases vacant.symm.trans found
    rw [fields, Function.update_of_ne away, found]
  · by_cases same : key = spec.key
    · subst same
      simp [there, seen, WatchpointSpec.leading?_cons]
    · rw [h.created key (by rw [fields, Function.update_of_ne same, none]),
        WatchpointSpec.leading?_cons, if_neg (Ne.symm same)]

end

private theorem createMissingWatchpoints_fares (specs : List WatchpointSpec) (s : Session V) :
    Settles (createMissingWatchpoints specs) s (Fares s fun obstacles s' =>
      Filled (Catalog.loaded s.machine) specs obstacles s s') := by
  induction specs generalizing s with
  | nil =>
    refine fares_pure ⟨fun _ _ => id, fun key none => ?_, .nil⟩
    rw [none]
    rfl
  | cons spec rest ih =>
    unfold createMissingWatchpoints
    rw [settles_bind, settles_get]
    dsimp only
    split
    · rename_i w found
      split
      · rename_i access
        refine fares_bind (ih s) (fun _ => .pure _) fun obstacles s' _ filled => ?_
        exact fares_pure (filled.skip found (by simp [access]))
      · rename_i other
        refine fares_takeId (fares_bind (ih _) (fun _ => .pure _) ?_)
        intro obstacles s' _ filled
        refine fares_pure ?_
        have filled : Filled (Catalog.loaded s.machine) rest obstacles s s' :=
          ⟨filled.untouched, filled.created, filled.obstacles⟩
        exact filled.skip found (by simp [other])
    · rename_i vacant
      refine fares_bind (createWatchpoint_fares spec s)
        (fun _ => .bind (createMissingWatchpoints_stirs rest) fun _ => .pure _) ?_
      rintro _ s₁ grown ⟨w, fields, seen⟩
      refine fares_bind (ih s₁) (fun _ => .pure _) fun obstacles s' _ filled => fares_pure ?_
      rw [grown.loaded] at filled
      exact filled.cons vacant fields seen

/-! ## All entries -/

/-- What has become of a field. What was watched of it is kept if some entry keeps it. -/
def Settled (loaded : String → Option ReferenceType) (specs : List WatchpointSpec)
    (key : String × String) (old new : Option Watchpoint) : Prop :=
  match WatchpointSpec.keeping? specs key old with
  | some spec => ∃ w w', old = some w ∧ new = some w' ∧ w.Kept loaded spec w'
  | none => new.map Watchpoint.view =
      (WatchpointSpec.leading? specs key).map (WatchpointSpec.view loaded)

/-- Watchpoints are as they were asked for, and each entry is answered by what is watched of its
field. -/
structure Rewatched (specs : List WatchpointSpec) (answers : List Watchpoint)
    (s s' : Session V) : Prop where
  fields : ∀ key, Settled (Catalog.loaded s.machine) specs key (s.breakpoints.watchpoint? key)
    (s'.breakpoints.watchpoint? key)
  answers : List.Forall₂ (fun spec a => ∃ w, s'.breakpoints.watchpoint? spec.key = some w ∧
    a.view = spec.answer w) specs answers

omit [Machine V] [Catalog V] in
private theorem answers_of_blocked {specs : List WatchpointSpec}
    {obstacles : List (Option Watchpoint)} (h : List.Forall₂ (Blocked s) specs obstacles) :
    List.Forall₂ (fun spec a => ∃ w, s.breakpoints.watchpoint? spec.key = some w ∧
        a.view = spec.answer w) specs
      ((List.zip specs obstacles).filterMap fun (spec, obstacle) =>
        obstacle <|> s.breakpoints.watchpoint? spec.key) := by
  induction h with
  | nil => exact .nil
  | @cons spec o rest obstacles blocked _ ih =>
    obtain ⟨w, found, obstacle⟩ := blocked
    have answered : ∃ a, (o <|> s.breakpoints.watchpoint? spec.key) = some a ∧
        a.view = spec.answer w := by
      unfold WatchpointSpec.answer
      by_cases access : w.access = spec.access
      · rw [if_pos access] at obstacle ⊢
        exact ⟨w, by rw [obstacle]; exact found, rfl⟩
      · rw [if_neg access] at obstacle ⊢
        obtain ⟨id, rfl⟩ := obstacle
        exact ⟨_, rfl, rfl⟩
    obtain ⟨a, answer, seen⟩ := answered
    simp only [List.zip_cons_cons, List.filterMap_cons, answer]
    exact .cons ⟨w, found, seen⟩ ih

omit [Machine V] [Catalog V] in
private theorem settled_of_phases {loaded : String → Option ReferenceType}
    {specs : List WatchpointSpec} {kept : List (String × String)}
    {obstacles : List (Option Watchpoint)} {s₁ s₂ s' : Session V}
    (reviewed : Reviewed loaded specs [] kept s s₁)
    (removed : ∀ key, s₂.breakpoints.watchpoint? key =
      if key ∈ s₁.breakpoints.watchpoints.keys.filter (fun key => !kept.contains key) then none
      else s₁.breakpoints.watchpoint? key)
    (filled : Filled loaded specs obstacles s₂ s') (key : String × String) :
    Settled loaded specs key (s.breakpoints.watchpoint? key) (s'.breakpoints.watchpoint? key) := by
  unfold Settled
  split
  · rename_i spec keeps
    obtain ⟨mem, w, w', stored, there, revised⟩ := reviewed.revised key spec keeps
    refine ⟨w, w', stored, filled.untouched key w' ?_, revised⟩
    rw [removed, there]
    simp [mem]
  · rename_i unkept
    refine filled.created key ?_
    obtain ⟨-, mem⟩ := reviewed.untouched key unkept
    have new : key ∉ kept := by simpa using mem
    rw [removed]
    split
    · rfl
    · rename_i stays
      have absent : key ∉ s₁.breakpoints.watchpoints.keys := by simpa [new] using stays
      rw [← Table.isSome_get?] at absent
      exact Option.not_isSome_iff_eq_none.1 absent

private theorem reconcileFields_fares (specs : List WatchpointSpec)
    (keyed : s.breakpoints.Keyed) :
    Settles (reconcileFields specs) s (Fares s fun answers s' => Rewatched specs answers s s') := by
  have fills : Stirs Grown (do
      let obstacles ← createMissingWatchpoints specs
      let b := (← get).breakpoints
      return (List.zip specs obstacles).filterMap fun (spec, obstacle) =>
        obstacle <|> b.watchpoint? spec.key : Action V _) :=
    .bind (createMissingWatchpoints_stirs specs) fun _ => .bind .get fun _ => .pure _
  unfold reconcileFields
  refine fares_bind (reviseWatchpoints_fares [] specs keyed)
    (fun _ => .bind .get fun _ => .bind (.quietly (removeFields_moves _)) fun _ => fills) ?_
  rintro kept s₁ grown reviewed
  rw [settles_bind, settles_get]
  refine fares_bind (fares_quietly (removeFields_grown _ s₁)) (fun _ => fills) ?_
  rintro _ s₂ grown' removed
  refine fares_bind (createMissingWatchpoints_fares specs s₂)
    (fun _ => .bind .get fun _ => .pure _) ?_
  rintro obstacles s₃ - filled
  rw [grown'.loaded, grown.loaded] at filled
  rw [settles_bind, settles_get]
  exact fares_pure ⟨settled_of_phases reviewed removed filled, answers_of_blocked filled.obstacles⟩

/-- A request for watchpoints makes of each field what its entries and the loaded classes say. -/
theorem setWatchpoints_fares (specs : List WatchpointSpec) (keyed : s.breakpoints.Keyed) :
    Settles (setWatchpoints specs) s (Fares s fun answers s' => Rewatched specs answers s s') := by
  unfold setWatchpoints
  rw [settles_exclusively]
  have reconciled := reconcileFields_fares (s := { s with line := (s.line.join .fields).2 })
    specs keyed
  apply reconciled.mono
  rintro r s' ⟨grown, holds⟩
  refine ⟨⟨grown.calls, grown.loaded⟩, fun excused => ?_⟩
  obtain ⟨answers, same, rewatched⟩ := holds excused
  exact ⟨answers, same, rewatched.fields, rewatched.answers⟩

end Session
end DebugSession
