import DebugSession.Proofs.Showing
import DebugSession.Proofs.Surveying
/-!
What was described to the client once is described in the same words again, as long as the same is
to be found: what has a handle is given the same one.
-/

namespace DebugSession

/-- The proxies through which a container is listed. -/
def Container.listed : Container → List FrameProxy
  | .locals q => [q]
  | _ => []

namespace Session

variable {α β : Type} {answered : Prop} {thread : ThreadId} {s s' s'' t t' : Session Debuggee}

/-- In the session `t` the same is to be found as in `s`, and the client still has the handles that
it had there. -/
structure Later (thread : ThreadId) (s t : Session Debuggee) : Prop where
  informed : Informed True [] thread t
  alike : Alike s t
  sound : t.handles.Sound
  keeps : ∀ handle e, s.handles.get? handle = some e → t.handles.get? handle = some e

/-- A computation comes to this whenever it is carried out later on, without any new handle. -/
def Repeats (thread : ThreadId) (x : Remote Debuggee α) (r : Except RemoteError α)
    (s : Session Debuggee) : Prop :=
  ∀ t, Later thread s t → Settles x t fun r' t' => r' = r ∧ t'.handles = t.handles

/-- A computation that may give out handles, and then comes to the same again and again if answers
are counted on. -/
structure Retells (answered : Prop) (thread : ThreadId) (x : Remote Debuggee α) : Prop where
  settles : ∀ s, Informed answered [] thread s → Settles x s fun r s' => Surveys [] s s' ∧
    Pool.Grows thread (Container.BelongsTo thread) s.handles s'.handles ∧
      (answered → s.handles.Sound → s'.HasRoom → Repeats thread x r s')

theorem Later.after (h : Later thread s t) (moved : Surveys [] t t')
    (handles : t'.handles = t.handles) : Later thread s t' where
  informed := h.informed.surveys moved
  alike := h.alike.trans moved.alike
  sound := handles ▸ h.sound
  keeps := handles ▸ h.keeps

theorem Later.before {C : Container → Prop} (h : Later thread s' t) (moved : Surveys [] s s')
    (grows : Pool.Grows thread C s.handles s'.handles) (sound : s.handles.Sound)
    (room : s'.HasRoom) : Later thread s t where
  informed := h.informed
  alike := moved.alike.trans h.alike
  sound := h.sound
  keeps handle e there := h.keeps handle e (grows.keeps sound room there)

theorem Repeats.moved {C : Container → Prop} {x : Remote Debuggee α} {r : Except RemoteError α}
    (h : Repeats thread x r s) (moved : Surveys [] s s')
    (grows : Pool.Grows thread C s.handles s'.handles) (sound : s.handles.Sound)
    (room : s'.HasRoom) : Repeats thread x r s' :=
  fun t later => h t (later.before moved grows sound room)

theorem Informed.weaken {known : List FrameProxy} (h : Informed True known thread s) :
    Informed answered known thread s :=
  ⟨h.tracks, fun _ => h.responsive trivial, fun _ => h.current trivial, fun _ => h.standing trivial⟩

namespace Retells

/-- Without handles that were given out. -/
theorem of_learns {x : Remote Debuggee α} (learns : Learns answered [] thread x)
    (quiet : Stirs Quiet x) : Retells answered thread x := by
  refine ⟨fun s informed => ?_⟩
  have handles : ∀ s, Settles x s fun _ s' => s'.handles = s.handles := fun s =>
    (keeps_settles quiet s).mono fun _ _ h => h.handles.symm
  have found := (learns.ends s informed).and (handles s)
  refine Settles.mono (x := x) found ?_
  rintro r s' ⟨⟨moved, agrees⟩, same⟩
  refine ⟨moved, same ▸ .refl, fun counts _ _ t later => ?_⟩
  exact ⟨(agrees counts t later.informed.weaken (moved.alike.trans later.alike)).symm, handles t⟩

theorem handle (o : ObjectRef) (evaluateName : Option String) : Retells answered thread
    (quietly (addHandle thread (.object o evaluateName)) : Remote Debuggee _) := by
  refine ⟨fun s _ => (settles_quietly _).2 ⟨.handOut thread nofun, .one nofun, ?_⟩⟩
  intro _ sound room t later
  have room' : s.handles.size < maxHandle := Nat.lt_of_le_of_lt (Pool.size_add ..) room
  obtain ⟨e, there, equal⟩ := Pool.get?_add sound room' thread (.object o evaluateName)
  have again := Pool.add_of_get? later.sound (later.keeps _ e there) equal thread
  refine (settles_quietly _).2 ⟨?_, ?_⟩
  · show Except.ok (Int64.ofNat (t.handles.add thread (.object o evaluateName)).1) = _
    rw [again]
    rfl
  · show (t.handles.add thread (.object o evaluateName)).2 = _
    rw [again]

theorem bind {x : Remote Debuggee β} {f : β → Remote Debuggee α} (first : Retells answered thread x)
    (rest : ∀ b, Retells answered thread (f b)) : Retells answered thread (x >>= f) := by
  refine ⟨fun s informed => (first.settles s informed).andThen ?_ ?_⟩
  · rintro b s₁ ⟨moved, grows, repeats⟩
    refine ((rest b).settles s₁ (informed.surveys moved)).mono ?_
    rintro r s₂ ⟨moved', grows', repeats'⟩
    refine ⟨Composes.trans moved moved', grows.trans grows', fun counts sound room t later => ?_⟩
    have room' : s₁.HasRoom := Nat.lt_of_le_of_lt grows'.size_le room
    have sound' := grows.sound sound room'
    have said := repeats counts sound room' t (later.before moved' grows' sound' room)
    refine Settles.andThen (Task.Ends.and said (first.settles t later.informed.weaken)) ?_ ?_
    · rintro b' t₁ ⟨⟨same, kept⟩, more, -⟩
      cases same
      refine (repeats' counts sound' room t₁ (later.after more kept)).mono ?_
      rintro r' t₂ ⟨same, kept'⟩
      exact ⟨same, kept'.trans kept⟩
    · rintro e t₁ ⟨⟨same, -⟩, -⟩
      cases same
  · rintro e s₁ ⟨moved, grows, repeats⟩
    refine ⟨moved, grows, fun counts sound room t later => ?_⟩
    refine (repeats counts sound room t later).andThen ?_ ?_
    · rintro b t₁ ⟨same, -⟩
      cases same
    · rintro e' t₁ ⟨same, kept⟩
      cases same
      exact ⟨rfl, kept⟩

theorem pure (a : α) : Retells answered thread (pure a : Remote Debuggee α) :=
  of_learns (.pure a) (.pure a)

end Retells

/-! ## Descriptions -/

private theorem openObject_retells (o : ObjectRef) (evaluateName : Option String)
    (showLogical : Bool) : Retells answered thread
      (openObject thread o evaluateName showLogical : Remote Debuggee _) := by
  have measured : Retells answered thread (measureObject thread o showLogical : Remote Debuggee _) :=
    .of_learns (measureObject_learns o showLogical) (measureObject_stirs thread o showLogical)
  rw [openObject_eq]
  exact measured.bind fun _ => (Retells.handle o evaluateName).bind fun _ => .pure _

theorem describeVariable_retells (settings : VariableSettings) (v : Variable) :
    Retells answered thread (describeVariable thread settings v : Remote Debuggee _) := by
  have opened : Retells answered thread (openValue thread settings v : Remote Debuggee _) := by
    unfold openValue
    split
    · split
      · exact .pure _
      · exact openObject_retells _ _ _
    · exact .pure _
  have described : ∀ found, Learns answered [] thread
      (describeOpened settings v found : Remote Debuggee _) := fun _ =>
    .bind (formatValue_views _ _ _).learns fun _ => .pure _
  rw [describeVariable_eq]
  exact opened.bind fun found => .of_learns (described found) (describeOpened_stirs settings v found)

theorem Retells.each {f : β → Remote Debuggee α} (h : ∀ b, Retells answered thread (f b))
    (items : List β) : Retells answered thread (items.mapM f) := by
  induction items with
  | nil => exact .pure []
  | cons b rest ih =>
    rw [List.mapM_cons]
    exact (h b).bind fun _ => ih.bind fun _ => .pure _

/-- Each of the things that were told is told again in the same way. -/
theorem Retells.mapM {f : β → Remote Debuggee α} (h : ∀ b, Retells answered thread (f b)) (items : List β)
    (informed : Informed answered [] thread s) :
    Settles (items.mapM f) s fun r s' => Surveys [] s s' ∧
      Pool.Grows thread (Container.BelongsTo thread) s.handles s'.handles ∧
        ∀ told, r = .ok told → answered → s.handles.Sound → s'.HasRoom →
          List.Forall₂ (fun b a => Repeats thread (f b) (.ok a) s') items told := by
  induction items generalizing s with
  | nil =>
    refine ⟨Composes.refl s, .refl, fun told same _ _ _ => ?_⟩
    cases same
    exact .nil
  | cons b rest ih =>
    rw [List.mapM_cons]
    refine ((h b).settles s informed).andThen ?_ ?_
    · rintro a s₁ ⟨moved, grows, repeats⟩
      refine (ih (informed.surveys moved)).andThen ?_ ?_
      · rintro others s₂ ⟨moved', grows', each⟩
        refine ⟨Composes.trans moved moved', grows.trans grows', fun told same counts sound room => ?_⟩
        cases same
        have room' : s₁.HasRoom := Nat.lt_of_le_of_lt grows'.size_le room
        have sound' := grows.sound sound room'
        exact .cons ((repeats counts sound room').moved moved' grows' sound' room)
          (each others rfl counts sound' room)
      · rintro e s₂ ⟨moved', grows', -⟩
        exact ⟨Composes.trans moved moved', grows.trans grows', nofun⟩
    · rintro e s₁ ⟨moved, grows, -⟩
      exact ⟨moved, grows, nofun⟩

theorem Repeats.mapM {f : β → Remote Debuggee α} (h : ∀ b, Retells True thread (f b)) {items : List β}
    {told : List α} (each : List.Forall₂ (fun b a => Repeats thread (f b) (.ok a) s) items told) :
    Repeats thread (items.mapM f) (.ok told) s := by
  induction each with
  | nil => exact fun t _ => ⟨rfl, rfl⟩
  | @cons b a rest told first others ih =>
    intro t later
    rw [List.mapM_cons]
    refine Settles.andThen (Task.Ends.and (first t later) ((h b).settles t later.informed)) ?_ ?_
    · rintro a' t₁ ⟨⟨same, kept⟩, moved, -⟩
      cases same
      refine (ih t₁ (later.after moved kept)).andThen ?_ ?_
      · rintro told' t₂ ⟨same, kept'⟩
        cases same
        exact ⟨rfl, kept'.trans kept⟩
      · rintro e t₂ ⟨same, -⟩
        cases same
    · rintro e t₁ ⟨⟨same, -⟩, -⟩
      cases same


/-! ## Listings -/

/-- This is what a listing finds, whenever the same is to be found. -/
structure Finding (e : Pooled Container) (start : Nat) (count : Option Nat) (found : List Variable)
    (s : Session Debuggee) : Prop where
  informed : Informed True e.object.listed e.owner s
  found : Settles (listContainer e.owner e.object start count s.settings.display) s fun r _ =>
    r = .ok found

variable {e : Pooled Container} {start : Nat} {count : Option Nat} {found : List Variable}

theorem Tracks.listed {known : List FrameProxy} (h : Tracks known s) {handle : Nat}
    (there : s.handles.get? handle = some e) : Tracks e.object.listed s := by
  obtain ⟨owner, c⟩ := e
  cases c with
  | locals q =>
    refine (h.shown there rfl).of_subset fun q' mem => ?_
    exact List.mem_singleton.1 mem ▸ List.mem_cons_self
  | _ => exact h.of_subset nofun

private theorem mem_listed {c : Container} {q : FrameProxy} (h : c = .locals q) : q ∈ c.listed := by
  rw [h]
  exact List.mem_cons_self

private theorem container_learns (e : Pooled Container) (answered : Prop) (start : Nat)
    (count : Option Nat) (settings : VariableSettings) :
    Learns answered e.object.listed e.owner
      (listContainer e.owner e.object start count settings : Remote Debuggee _) :=
  listContainer_learns (fun _ => mem_listed) start count settings

/-- What was found was found through a proxy whose frame is there. -/
theorem Informed.of_found (tracks : Tracks [] s) (responsive : s.Responsive)
    (current : s.Current e.owner) {handle : Nat} (there : s.handles.get? handle = some e)
    (listed : Settles (listContainer e.owner e.object start count s.settings.display) s fun r _ =>
      r = .ok found) : Informed True e.object.listed e.owner s where
  tracks := tracks.listed there
  responsive _ := responsive
  current _ := current
  standing _ q mem := by
    have known := tracks.listed there
    obtain ⟨owner, c⟩ := e
    cases c with
    | locals q' =>
      obtain rfl := List.mem_singleton.1 mem
      have stands := listScope_stands known responsive s.fetchPolicy
      simp only [listContainer, settles_bind, settles_get, settles_pure] at listed
      have said : Settles (listScope q s.fetchPolicy) s fun _ _ =>
          ∃ f, s.machine.standing? q.thread q.depth = some f := by
        refine (Task.Ends.and listed stands).mono ?_
        rintro r s' ⟨brought, stands⟩
        cases r with
        | ok vs => exact stands vs rfl
        | error e => cases brought
      exact said
    | _ => cases mem

private theorem Informed.listed {handle : Nat} (h : Informed True e.object.listed e.owner s)
    (there : t.handles.get? handle = some e) (informed : Informed True [] e.owner t)
    (alike : Alike s t) : Informed True e.object.listed e.owner t where
  tracks := informed.tracks.listed there
  responsive := informed.responsive
  current := informed.current
  standing counts q mem := by
    rw [alike.machine.standing]
    exact h.standing counts q mem

/-- What was found is found in every session alike. -/
theorem Finding.alike {handle : Nat} (h : Finding e start count found s)
    (there : t.handles.get? handle = some e) (informed : Informed True [] e.owner t)
    (alike : Alike s t) : Finding e start count found t where
  informed := h.informed.listed there informed alike
  found := by
    have same := (container_learns e True start count s.settings.display).same trivial
      h.informed (h.informed.listed there informed alike) alike
    rw [alike.settings]
    exact same.symm.trans h.found

/-- What a listing has come to: descriptions of what was found, which will be repeated. -/
structure Told (e : Pooled Container) (start : Nat) (count : Option Nat)
    (shown : List Protocol.Variable) (s s' : Session Debuggee) : Prop where
  found : ∃ found, Finding e start count found s ∧ List.Forall₂ (fun v x => Repeats e.owner
    (describeVariable e.owner s.settings.display v) (.ok x) s') found shown

theorem listContainer_surveys {reference : Int64} (there : s.resolve? reference = some e)
    (tracks : Tracks [] s) (settings : VariableSettings) :
    Settles (listContainer e.owner e.object start count settings) s fun r s' =>
      Surveys [] s s' ∧ s'.handles = s.handles ∧
        Settles (listContainer e.owner e.object start count settings) s fun r' _ => r' = r := by
  obtain ⟨handle, -, there⟩ := Option.bind_eq_some_iff.1 there
  have known := tracks.listed there
  have moved := (container_learns e False start count settings).ends s
    ⟨known, False.elim, False.elim, False.elim⟩
  have quiet : Settles (listContainer e.owner e.object start count settings) s fun _ s' =>
      Quiet s s' := keeps_settles (listContainer_stirs ..) s
  exact ⟨moved.1.of_known known, quiet.handles.symm, rfl⟩

theorem listVariables_told (informed : Informed answered [] e.owner s) {reference : Int64}
    (there : s.resolve? reference = some e) :
    Settles (listVariables reference start count) s fun r s' => Surveys [] s s' ∧
      Pool.Grows e.owner (Container.BelongsTo e.owner) s.handles s'.handles ∧
        ∀ shown, r = .ok shown → answered → s.handles.Sound → s'.HasRoom →
          Told e start count shown s s' := by
  unfold listVariables
  rw [settles_bind, settles_get]
  dsimp only
  rw [there]
  dsimp only
  rw [settles_bind, settles_orFail]
  refine (listContainer_surveys there informed.tracks _).mono ?_
  rintro r s₁ ⟨moved, handles, brought⟩
  cases r with
  | error error => exact ⟨moved, handles ▸ .refl, nofun⟩
  | ok found =>
    obtain ⟨handle, -, there⟩ := Option.bind_eq_some_iff.1 there
    have finding : answered → Finding e start count found s := fun counts =>
      ⟨.of_found informed.tracks (informed.responsive counts) (informed.current counts) there
        brought, brought⟩
    show Settles ((found.mapM (describeVariable e.owner s.settings.display)).orFail _) s₁ _
    rw [settles_orFail]
    refine (Retells.mapM (describeVariable_retells s.settings.display) found
      (informed.surveys moved)).mono ?_
    rintro r s' ⟨moved', grows, each⟩
    refine ⟨Composes.trans moved moved', handles ▸ grows, fun shown same counts sound room => ?_⟩
    cases r with
    | error error => cases same
    | ok told =>
      obtain rfl : told = shown := Except.ok.inj same
      exact ⟨found, finding counts, each told rfl counts (handles ▸ sound) room⟩

/-- The client has been told of what was found behind a reference, and would be told the same. -/
structure Recalls (reference : Int64) (e : Pooled Container) (found : List Variable)
    (shown : List Protocol.Variable) (t : Session Debuggee) : Prop where
  resolved : t.resolve? reference = some e
  told : ∃ s, Later e.owner s t ∧ List.Forall₂ (fun v x => Repeats e.owner
    (describeVariable e.owner t.settings.display v) (.ok x) s) found shown

/-- A listing that finds something goes on to describe that. -/
private theorem listVariables_of_found {reference : Int64} (there : t.resolve? reference = some e)
    (tracks : Tracks [] t) (finding : Finding e start count found t)
    {Q : Except SessionError (List Protocol.Variable) → Session Debuggee → Prop}
    (described : ∀ t₁, Surveys [] t t₁ → t₁.handles = t.handles →
      Settles (found.mapM (describeVariable e.owner t.settings.display)) t₁ fun r t₂ =>
        Q (r.mapError listingFailed) t₂) : Settles (listVariables reference start count) t Q := by
  unfold listVariables
  rw [settles_bind, settles_get]
  dsimp only
  rw [there]
  dsimp only
  rw [settles_bind, settles_orFail]
  refine ((listContainer_surveys there tracks _).and finding.found).mono ?_
  rintro r t₁ ⟨⟨moved, handles, -⟩, rfl⟩
  exact (settles_orFail _ _).2 (described t₁ moved handles)

/-- A listing that finds what the client has been told of is answered in the same words. -/
theorem Recalls.again {reference : Int64} {shown : List Protocol.Variable}
    (h : Recalls reference e found shown t) (finding : Finding e start count found t) :
    Settles (listVariables reference start count) t fun r _ => r = .ok shown := by
  obtain ⟨s, later, each⟩ := h.told
  refine listVariables_of_found h.resolved later.informed.tracks finding fun t₁ moved handles => ?_
  have repeated := Repeats.mapM (describeVariable_retells t.settings.display) each t₁
    (later.after moved handles)
  refine repeated.mono ?_
  rintro r t₂ ⟨rfl, -⟩
  rfl

/-- What a listing is answered, be it an error, it is answered again if it finds the same. -/
theorem listVariables_repeats {reference : Int64} (there : s.resolve? reference = some e)
    (informed : Informed True [] e.owner s) (sound : s.handles.Sound)
    (finding : Finding e start count found s) :
    Settles (listVariables reference start count) s fun r s' => s'.HasRoom → ∀ t,
      Later e.owner s' t → t.resolve? reference = some e → Finding e start count found t →
        Settles (listVariables reference start count) t fun r' _ => r' = r := by
  refine listVariables_of_found there informed.tracks finding fun s₁ moved handles => ?_
  have settles := (Retells.each (describeVariable_retells s.settings.display) found).settles s₁
    (informed.surveys moved)
  refine settles.mono ?_
  rintro r s' ⟨moved', grows, repeats⟩ room t later there' finding'
  refine listVariables_of_found there' later.informed.tracks finding' fun t₁ more same => ?_
  rw [((moved.alike.trans moved'.alike).trans later.alike).settings]
  refine (repeats trivial (handles ▸ sound) room t₁ (later.after more same)).mono ?_
  rintro r' t₂ ⟨rfl, -⟩
  rfl

end Session
end DebugSession
