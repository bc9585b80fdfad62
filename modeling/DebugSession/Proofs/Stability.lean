import DebugSession.Proofs.Tracking
/-!
What a client has been shown stays as it was shown, as long as it only looks. Looking lets methods
of the debuggee run, but nothing changes that can be looked at.
-/

namespace DebugSession

/-- Whoever sends the message only wants to look at something, or is not understood. -/
def Protocol.RequestMessage.LooksOnly (m : Protocol.RequestMessage) : Prop :=
  ∀ r, Request.ofMessage m = .ok r → r.isReadOnly = true

theorem Request.spares_of_isReadOnly {r : Request} (h : r.isReadOnly = true) (thread : ThreadId) :
    r.Spares thread := by
  cases r <;> first | exact trivial | cases h

instance (m : Protocol.RequestMessage) : Decidable m.LooksOnly :=
  match known : Request.ofMessage m with
  | .ok r => decidable_of_iff (r.isReadOnly = true)
      ⟨fun h _ same => Except.ok.inj (known.symm.trans same) ▸ h, fun h => h r known⟩
  | .error _ => .isTrue fun _ same => nomatch known.symm.trans same

namespace Session

variable {thread : ThreadId} {s s' t : Session Debuggee} {m : Protocol.RequestMessage}

/-! ## Halts -/

/-- When a halt is recorded, and the debuggee answers, the client sees frames exactly if there are
any. -/
theorem threadHalted_current (tracks : Tracks [] s) (responsive : s.Responsive)
    (thread : ThreadId) : Task.Ends (threadHalted thread) s fun _ s' => s'.Current thread := by
  obtain ⟨ps, qs, traced, -⟩ := tracks
  let counted : Session Debuggee := { s with suspensions := s.suspensions + 1 }
  have asked : Task.Ends (queryFrames thread) counted fun r s' =>
      (Peruses [] counted s' ∧ Found counted thread r s') ∧ Leaves counted s' := by
    refine ((queryFrames_yields thread counted).ends Peruses.advance).and ?_
    exact (queryFrames_lists thread counted).mono fun _ _ h => h.1
  unfold threadHalted capture
  rw [Task.ends_bind, Task.ends_bind, Task.ends_modifyGet]
  refine Task.Ends.bind asked ?_
  rintro r s₁ ⟨⟨moved, found⟩, leaves⟩
  let p : Suspension := ⟨thread, s.suspensions + 1⟩
  have recorded : ∀ s₂ : Session Debuggee, (s₂.framesOf p = [] ↔
      s₂.machine.standing? thread 0 = none) → (recordHalt p s₂).Current thread := by
    intro s₂ seen
    exact ⟨s.suspensions + 1, (Table.get?_insert ..).trans (if_pos rfl), seen⟩
  cases r with
  | none =>
    refine recorded s₁ ⟨fun _ => ?_, fun _ => ?_⟩
    · rw [moved.alike.machine.standing]
      exact found.nothing rfl ⟨responsive.going, responsive.connected, responsive.prompt⟩ 0
    · -- Nothing was seen of the new suspension yet.
      unfold framesOf
      rw [leaves.snapshots, traced.fresh _ (Nat.lt_succ_self _)]
      rfl
  | some infos =>
    refine recorded { s₁ with snapshots := s₁.snapshots.insert (s.suspensions + 1) infos } ?_
    unfold framesOf
    rw [Table.get?_insert, if_pos rfl]
    exact found.empty

/-! ## Looking -/

/-- Looking leaves alone all that can be looked at. -/
theorem after_alike (looks : m.LooksOnly) (s : Session Debuggee) :
    Alike s (s.after (.message m)) :=
  respond_of_performAny m (Alike.refl s) fun r known => performAny_alike (looks r known) s

/-- One pool has as many handles as another, or more. -/
private def Larger (p q : Pool Container) : Prop := p.size ≤ q.size

private instance : Composes Larger := ⟨fun _ => Nat.le_refl _, Nat.le_trans⟩

private theorem performAny_size {r : Request} (looks : r.isReadOnly = true)
    (s : Session Debuggee) :
    Settles (performAny r) s fun _ s' => s.handles.size ≤ s'.handles.size := by
  let R : Session Debuggee → Session Debuggee → Prop := Keeps Larger fun _ => False
  have hand : ∀ owner c s, R s (handOut owner c s) := fun owner c s =>
    ⟨Nat.le_refl _, rfl, Pool.size_add s.handles owner c, [], (List.append_nil _).symm, by simp⟩
  have note : ∀ s threads, R s { s with threads } := fun _ _ => .of_eq rfl rfl rfl rfl
  exact (performAny_looks hand note looks s).mono fun _ _ moved => moved.handles

private theorem after_size (looks : m.LooksOnly) (s : Session Debuggee) :
    s.handles.size ≤ (s.after (.message m)).handles.size :=
  respond_of_performAny m (Nat.le_refl s.handles.size) fun r known =>
    performAny_size (looks r known) s

private theorem after_keeps (tidy : s.Tidy) (looks : m.LooksOnly)
    (room : (s.after (.message m)).HasRoom) {handle : Nat} {e : Pooled Container}
    (there : s.handles.get? handle = some e) :
    (s.after (.message m)).handles.get? handle = some e := by
  have spared : ∀ thread, (Input.message (V := Debuggee) m).Spares thread :=
    fun thread r known => Request.spares_of_isReadOnly (looks r known) thread
  cases after_changes tidy (.message m) with
  | shows thread halted shown => exact shown.handles.keeps tidy.sound room there
  | passes kept => exact kept.handles ▸ there
  | halts thread concerned => exact absurd (spared thread) concerned
  | resumes thread concerned => exact absurd (spared thread) concerned
  | resumesAll concerned => exact absurd (spared 0) (concerned 0)

/-- A session whose handles are in order, and that is informed about the frames of a thread. -/
structure Ready (thread : ThreadId) (s : Session Debuggee) : Prop where
  informed : Informed True [] thread s
  tidy : s.Tidy

theorem Faithful.ready (faithful : s.Faithful) (responsive : s.Responsive)
    (current : s.Current thread) : Ready thread s :=
  ⟨⟨faithful.tracks, fun _ => responsive, fun _ => current, nofun⟩, faithful.tidy⟩

theorem Later.trans {u : Session Debuggee} (h : Later thread s t) (h' : Later thread t u) :
    Later thread s u :=
  ⟨h'.informed, h.alike.trans h'.alike, h'.sound, fun handle e there =>
    h'.keeps handle e (h.keeps handle e there)⟩

theorem Ready.later (h : Ready thread s) : Later thread s s :=
  ⟨h.informed, .refl s, h.tidy.sound, fun _ _ => id⟩

theorem Ready.message (h : Ready thread s) (looks : m.LooksOnly)
    (room : (s.after (.message m)).HasRoom) :
    Ready thread (s.after (.message m)) ∧ Later thread s (s.after (.message m)) := by
  have informed : Informed True [] thread (s.after (.message m)) :=
    h.informed.surveys (respond_of_performAny m (Composes.refl s) fun r known =>
      performAny_surveys (looks r known) h.informed.tracks)
  have tidy := (after_changes h.tidy (.message m)).tidy h.tidy room
  refine ⟨⟨informed, tidy⟩, informed, after_alike looks s, tidy.sound, ?_⟩
  exact fun _ _ there => after_keeps h.tidy looks room there

/-- The session after it has answered messages, one after the other. -/
def afterMessages (s : Session Debuggee) (ms : List Protocol.RequestMessage) : Session Debuggee :=
  ms.foldl (fun s m => s.after (.message m)) s

private theorem afterMessages_size {ms : List Protocol.RequestMessage}
    (looks : ∀ m ∈ ms, m.LooksOnly) (s : Session Debuggee) :
    s.handles.size ≤ (s.afterMessages ms).handles.size := by
  induction ms generalizing s with
  | nil => exact Nat.le_refl _
  | cons m rest ih =>
    obtain ⟨first, others⟩ := List.forall_mem_cons.1 looks
    exact Nat.le_trans (after_size first s) (ih others _)

/-- Whatever is looked at, the same is to be found later. -/
theorem Ready.messages (h : Ready thread s) {ms : List Protocol.RequestMessage}
    (looks : ∀ m ∈ ms, m.LooksOnly) (room : (s.afterMessages ms).HasRoom) :
    Ready thread (s.afterMessages ms) ∧ Later thread s (s.afterMessages ms) := by
  induction ms generalizing s with
  | nil => exact ⟨h, h.later⟩
  | cons m rest ih =>
    obtain ⟨first, others⟩ := List.forall_mem_cons.1 looks
    have room' : (s.after (.message m)).HasRoom :=
      Nat.lt_of_le_of_lt (afterMessages_size others _) room
    obtain ⟨ready, later⟩ := h.message first room'
    obtain ⟨ready', later'⟩ := ih ready others room
    exact ⟨ready', later.trans later'⟩

theorem room_of_afterMessages {ms : List Protocol.RequestMessage} (looks : ∀ m ∈ ms, m.LooksOnly)
    (room : (s.afterMessages ms).HasRoom) : s.HasRoom :=
  Nat.lt_of_le_of_lt (afterMessages_size looks s) room

/-! ## Listing -/

section

variable {e : Pooled Container} {reference : Int64} {start : Nat} {count : Option Nat}
  {r : Except SessionError (List Protocol.Variable)} {shown : List Protocol.Variable}

theorem room_of_listing
    (asked : Task.run advance (listVariables reference start count).run s = (r, s'))
    (room : s'.HasRoom) : s.HasRoom := by
  let listing : Request := .listVariables reference start count
  have answered : Settles (performAny listing) s fun _ s' => s.handles.size ≤ s'.handles.size :=
    performAny_size rfl s
  have larger : Settles (listVariables reference start count) s fun _ s' =>
      s.handles.size ≤ s'.handles.size :=
    (settles_return _ _ _).1 ((settles_adapt _ _).1 answered)
  simp only [Settles, Task.Ends, asked] at larger
  exact Nat.lt_of_le_of_lt larger room

/-- A listing is one more way of looking. -/
theorem Ready.listing (h : Ready e.owner s) (there : s.resolve? reference = some e)
    (asked : Task.run advance (listVariables reference start count).run s = (r, s'))
    (room : s'.HasRoom) : Ready e.owner s' ∧ Later e.owner s s' ∧
      ∀ shown, r = .ok shown → Told e start count shown s s' := by
  have settles := Task.Ends.and (listVariables_told h.informed there)
    (listVariables_settles h.tidy reference start count)
  simp only [Task.Ends, asked] at settles
  obtain ⟨⟨moved, grows, told⟩, answers⟩ := settles
  have change : Change False (fun _ => True) s s' := answers.change
  have ready : Ready e.owner s' := ⟨h.informed.surveys moved, change.tidy h.tidy room⟩
  exact ⟨ready, ready.later.before moved grows h.tidy.sound room, fun shown same =>
    told shown same trivial h.tidy.sound room⟩

theorem Later.resolve (h : Later thread s t) (there : s.resolve? reference = some e) :
    t.resolve? reference = some e := by
  obtain ⟨handle, known, held⟩ := Option.bind_eq_some_iff.1 there
  exact Option.bind_eq_some_iff.2 ⟨handle, known, h.keeps handle e held⟩

/-- What a client was told of when it had a listing is there to be found later. -/
theorem Told.recalled (told : Told e start count shown s s') (later : Later e.owner s s')
    (since : Later e.owner s' t) (there : s.resolve? reference = some e) :
    ∃ found, Finding e start count found t ∧ Recalls reference e found shown t := by
  obtain ⟨handle, -, held⟩ := Option.bind_eq_some_iff.1 there
  obtain ⟨found, finding, each⟩ := told.found
  have whole := later.trans since
  have still := finding.alike (whole.keeps handle e held) whole.informed whole.alike
  refine ⟨found, still, whole.resolve there, s', since, ?_⟩
  rw [whole.alike.settings]
  exact each

end

/-- What a client has been shown behind a reference it is shown again, names, values, types and
references alike, after whatever else it has looked at; and looking at something changes nothing
of the debuggee that can be looked at. -/
theorem listVariables_stable (faithful : s.Faithful) (responsive : s.Responsive)
    {reference : Int64} {e : Pooled Container} (there : s.resolve? reference = some e)
    (current : s.Current e.owner) {start : Nat} {count : Option Nat}
    {shown : List Protocol.Variable}
    (listed : Task.run advance (listVariables reference start count).run s = (.ok shown, s'))
    {ms : List Protocol.RequestMessage} (looks : ∀ m ∈ ms, m.LooksOnly)
    (room : (s'.afterMessages ms).HasRoom) :
    (Task.run advance (listVariables reference start count).run (s'.afterMessages ms)).1 =
        .ok shown ∧
      ∀ m : Protocol.RequestMessage, m.LooksOnly → ∀ t : Session Debuggee,
        Debuggee.Same t.machine (t.after (.message m)).machine := by
  refine ⟨?_, fun m looks t => (after_alike looks t).machine⟩
  have ready : Ready e.owner s := faithful.ready responsive current
  obtain ⟨ready', later, told⟩ := ready.listing there listed (room_of_afterMessages looks room)
  obtain ⟨-, since⟩ := ready'.messages looks room
  obtain ⟨found, finding, recalls⟩ := (told shown rfl).recalled later since there
  exact recalls.again finding

/-- A thread at a place where one variable can be seen. -/
def standingAt (machine : Debuggee) (name signature : String) (o : ObjectRef) : Debuggee :=
  let frame : Frame := { location := { className := "A", methodName := "m", line := 5 } }
  (machine.addThread 1 "main").setFrames 1 [frame.addLocal name signature (.object o) false]

def messageOf (command : String) (arguments : List (String × Int)) : Protocol.RequestMessage :=
  ⟨1, "request", command, some (.obj (arguments.map fun a => (a.1, .ofInt a.2)))⟩

/-- The thread was halted, and the client has seen its frame and the scope of that. -/
def haltedSession (machine : Debuggee) : Session Debuggee :=
  (start machine {} { evaluator := some .names }).afterMessages
    [messageOf "pause" [("threadId", 1)], messageOf "stackTrace" [("threadId", 1)],
      messageOf "scopes" [("frameId", 1)]]

/-- A list of two numbers. -/
def cities : Debuggee :=
  let list : ObjectRef := ⟨10, "java.util.ArrayList", .plain⟩
  let array : ObjectRef := ⟨20, "java.lang.Object[]", .array "Ljava/lang/Object;"⟩
  let machine := ({} : Debuggee).addType ⟨"java.util.ArrayList", none, ["java.util.List"], false, []⟩
    |>.addObject { reference := list }
    |>.addObject { reference := array, elements := [.int 3, .int 4] }
    |>.setInvokeResult 10 "size" (.int 2) |>.setInvokeResult 10 "toArray" (.object array)
  standingAt machine "cities" "Ljava/util/List;" list

theorem faithful_cities : (haltedSession cities).Faithful :=
  .step (.message _) (.step (.message _) (.step (.message _) (.start ..) nofun
    (by decide +kernel)) nofun (by decide +kernel)) nofun (by decide +kernel)

/-- What the client looks at in between: the elements of the list, for which methods run, the frames
of the thread, and the scopes. -/
def furtherLooks : List Protocol.RequestMessage :=
  [messageOf "variables" [("variablesReference", 3)],
    messageOf "refreshStackFrames" [("threadId", 1)], messageOf "scopes" [("frameId", 1)]]

theorem listVariables_stable_cities : ∃ s' shown,
    Task.run advance (listVariables 2 0 none).run (haltedSession cities) = (.ok shown, s') ∧
      shown.map (·.value) = ["ArrayList (id=10) size=2"] ∧
      (Task.run advance (listVariables 2 0 none).run (s'.afterMessages furtherLooks)).1 =
        .ok shown := by
  let s' := (Task.run advance (listVariables 2 0 none).run (haltedSession cities)).2
  let shown : List Protocol.Variable := [{
    name := "cities", value := "ArrayList (id=10) size=2", typeName := some "List"
    evaluateName := some "cities", variablesReference := 3, indexedVariables := some 2 }]
  have listed : Task.run advance (listVariables 2 0 none).run (haltedSession cities) =
      (.ok shown, s') := Prod.ext (by decide +kernel) rfl
  have known : ((haltedSession cities).resolve? 2).map Pooled.owner = some 1 := by decide +kernel
  obtain ⟨e, there, owned⟩ := Option.map_eq_some_iff.1 known
  have current : (haltedSession cities).Current e.owner := by
    rw [owned]
    decide +kernel
  refine ⟨s', shown, listed, rfl, ?_⟩
  exact (listVariables_stable faithful_cities (by decide +kernel) there current listed
    (by decide +kernel) (by decide +kernel)).1

end Session
end DebugSession
