import DebugSession.Proofs.Likeness
import DebugSession.Proofs.Pools
import DebugSession.Proofs.Transparency
import DebugSession.Proofs.Yields
/-!
Looking at frames while others look as well. Nobody lets a thread run meanwhile, so that each
operation through a proxy answers what the frame at its depth answers, even if the proxy has to
find the frame again first.
-/

namespace DebugSession

/-- Whether an operation only asks for something. -/
def FrameOperation.isRead : FrameOperation → Bool
  | .setLocalValue _ _ => false
  | _ => true

namespace Session

variable {s s' s'' : Session Debuggee} {known : List FrameProxy}

/-- All handles of frames that are kept were given out for the frames that they are kept for: in
the snapshots of recorded halts, and by the proxies that have a reference or are known otherwise. -/
def Tracks (known : List FrameProxy) (s : Session Debuggee) : Prop :=
  ∃ ps qs, Traced s ps qs ∧ (∀ thread p, s.stopped.get? thread = some p → p ∈ ps) ∧
    (∀ e ∈ s.handles.entries.values, ∀ q, e.object.proxy? = some q → q ∈ qs) ∧ ∀ q ∈ known, q ∈ qs

/-- The client sees frames of a halted thread if and only if there are any. -/
def Current (s : Session Debuggee) (thread : ThreadId) : Prop :=
  ∃ version, s.stopped.get? thread = some ⟨thread, version⟩ ∧
    (s.framesOf ⟨thread, version⟩ = [] ↔ s.machine.standing? thread 0 = none)

instance (s : Session Debuggee) (thread : ThreadId) : Decidable (s.Current thread) :=
  decidable_of_iff (∃ p ∈ s.stopped.get? thread, p.thread = thread ∧
    (s.framesOf p).isEmpty = (s.machine.standing? thread 0).isNone) (by
      have same : ∀ p, (s.framesOf p).isEmpty = (s.machine.standing? thread 0).isNone ↔
          (s.framesOf p = [] ↔ s.machine.standing? thread 0 = none) := fun p => by
        rw [Bool.eq_iff_iff, List.isEmpty_iff, Option.isNone_iff_eq_none]
      constructor
      · rintro ⟨⟨_, version⟩, halted, rfl, seen⟩
        exact ⟨version, halted, (same _).1 seen⟩
      · rintro ⟨version, halted, seen⟩
        exact ⟨_, halted, rfl, (same _).2 seen⟩)

/-- What goes on while frames are looked at, among them those of the known proxies, and methods run.
Handles may have been given out. -/
structure Surveys (known : List FrameProxy) (s s' : Session Debuggee) : Prop where
  tracks : Tracks known s → Tracks known s'
  alike : Alike s s'
  responsive : s.Responsive → s'.Responsive
  current : Tracks known s → ∀ thread, s.Current thread → s'.Current thread

/-- The same while no methods run, and no handles are given to the client. -/
structure Peruses (known : List FrameProxy) (s s' : Session Debuggee) : Prop
    extends Surveys known s s' where
  machine : Debuggee.Reads s.machine s'.machine
  handles : s'.handles = s.handles

theorem Tracks.leaves (h : Tracks known s) (leaves : Leaves s s')
    (stopped : s'.stopped = s.stopped) (handles : s'.handles = s.handles) : Tracks known s' := by
  obtain ⟨ps, qs, traced, halts, shown, listed⟩ := h
  exact ⟨ps, qs, traced.leaves leaves, stopped ▸ halts, handles ▸ shown, listed⟩

theorem Tracks.of_subset {fewer : List FrameProxy} (h : Tracks known s)
    (subset : ∀ q ∈ fewer, q ∈ known) : Tracks fewer s := by
  obtain ⟨ps, qs, traced, halts, shown, listed⟩ := h
  exact ⟨ps, qs, traced, halts, shown, fun q mem => listed q (subset q mem)⟩

/-- The client knows the proxies that have references. -/
theorem Tracks.shown (h : Tracks known s) {handle : Nat} {e : Pooled Container}
    (there : s.handles.get? handle = some e) {q : FrameProxy} (about : e.object.proxy? = some q) :
    Tracks (q :: known) s := by
  obtain ⟨ps, qs, traced, halts, shown, listed⟩ := h
  refine ⟨ps, qs, traced, halts, shown, List.forall_mem_cons.2 ⟨?_, listed⟩⟩
  exact shown e (Table.mem_values there) q about

theorem Tracks.openFrame (h : Tracks known s) {thread : ThreadId} {p : Suspension}
    (halted : s.stopped.get? thread = some p) (depth : Nat) :
    Tracks ((openFrame s p depth).1 :: known) (openFrame s p depth).2 := by
  obtain ⟨ps, qs, traced, halts, shown, listed⟩ := h
  refine ⟨ps, _, traced.openFrame (halts thread p halted) depth, halts, ?_, ?_⟩
  · exact fun e mem q about => List.mem_cons_of_mem _ (shown e mem q about)
  · refine List.forall_mem_cons.2 ⟨List.mem_cons_self, fun q mem => ?_⟩
    exact List.mem_cons_of_mem _ (listed q mem)

theorem Tracks.handOut (h : Tracks known s) (owner : ThreadId) {c : Container}
    (about : ∀ q, c.proxy? = some q → q ∈ known) : Tracks known (handOut owner c s) := by
  obtain ⟨ps, qs, traced, halts, shown, listed⟩ := h
  refine ⟨ps, qs, traced.leaves ⟨rfl, rfl, rfl, rfl, .refl _⟩, halts, ?_, listed⟩
  intro e mem q same
  rcases Pool.mem_add mem with old | rfl
  · exact shown e old q same
  · exact listed q (about q same)

theorem Surveys.of_leaves (leaves : Leaves s s') (alike : Alike s s')
    (handles : s'.handles = s.handles) (responsive : s.Responsive → s'.Responsive) :
    Surveys known s s' where
  tracks h := h.leaves leaves alike.stopped handles
  alike := alike
  responsive := responsive
  current := by
    rintro - thread ⟨version, halted, seen⟩
    refine ⟨version, alike.stopped ▸ halted, ?_⟩
    unfold framesOf
    rw [leaves.snapshots, alike.machine.standing]
    exact seen

instance : Composes (Surveys known) where
  refl s := .of_leaves (.refl s) (.refl s) rfl id
  trans h h' :=
    { tracks := h'.tracks ∘ h.tracks
      alike := h.alike.trans h'.alike
      responsive := h'.responsive ∘ h.responsive
      current := fun tracks thread seen => h'.current (h.tracks tracks) thread
        (h.current tracks thread seen) }

theorem Surveys.of_known (h : Surveys known s s') (tracks : Tracks known s) : Surveys [] s s' where
  tracks _ := (h.tracks tracks).of_subset nofun
  alike := h.alike
  responsive := h.responsive
  current _ := h.current tracks

theorem Surveys.openFrame {thread : ThreadId} {p : Suspension}
    (halted : s.stopped.get? thread = some p) (depth : Nat) :
    Surveys known s (openFrame s p depth).2 where
  tracks h := (h.openFrame halted depth).of_subset fun _ mem => List.mem_cons_of_mem _ mem
  alike := .of_eq rfl rfl rfl rfl rfl rfl
  responsive h := ⟨h.going, h.connected, h.prompt⟩
  current _ _ seen := seen

theorem Surveys.handOut (owner : ThreadId) {c : Container}
    (about : ∀ q, c.proxy? = some q → q ∈ known) : Surveys known s (handOut owner c s) where
  tracks h := h.handOut owner about
  alike := .of_eq rfl rfl rfl rfl rfl rfl
  responsive h := ⟨h.going, h.connected, h.prompt⟩
  current _ _ seen := seen

theorem Peruses.of_leaves (leaves : Leaves s s') (machine : Debuggee.Reads s.machine s'.machine)
    (alike : Alike s s') (handles : s'.handles = s.handles)
    (responsive : s.Responsive → s'.Responsive) : Peruses known s s' :=
  ⟨.of_leaves leaves alike handles responsive, machine, handles⟩

instance : Composes (Peruses known) where
  refl s := .of_leaves (.refl s) (.refl _) (.refl s) rfl id
  trans h h' := ⟨Composes.trans h.toSurveys h'.toSurveys, h.machine.trans h'.machine,
    h'.handles.trans h.handles⟩

theorem Peruses.advance (time : Nat) (s : Session Debuggee) : Peruses known s (s.advance time) :=
  .of_leaves ⟨rfl, rfl, rfl, rfl, .refl _⟩ (.refl _) (.of_eq rfl rfl rfl rfl rfl rfl) rfl
    fun h => ⟨h.going, h.connected, h.prompt⟩

/-! ## Questions -/

/-- A question that was answered by a debuggee that was only asked meanwhile; if it was not, the
session does not get all its answers. -/
def Heard (c : Call) (s : Session Debuggee) (r : Except RemoteError c.Reply)
    (s' : Session Debuggee) : Prop :=
  ∃ d, Debuggee.Reads s.machine d ∧
    (r = (Debuggee.perform c d).1 ∧ s'.machine = (Debuggee.perform c d).2 ∨
      (∃ e, r = .error e) ∧ ¬ s.Responsive ∧ s'.machine = d)

private theorem peruses_machine {d : Debuggee} (h : Debuggee.Reads s.machine d) :
    Peruses known s { s with machine := d } :=
  .of_leaves ⟨rfl, rfl, rfl, rfl, h.toExtends⟩ h ⟨h.same, rfl, rfl, rfl, rfl, rfl⟩ rfl
    fun responsive => ⟨responsive.going, h.disconnected.trans responsive.connected,
      Nat.le_trans (Nat.le_of_eq h.latency) responsive.prompt⟩

private theorem issue_yields {c : Call} (asks : c.isQuery = true) (s : Session Debuggee) :
    Task.Yields (Peruses known) (issue c) s fun r s' =>
      Heard c s r s' ∧ (r = .error .disconnected → ¬ s'.Responsive) := by
  have completed : ∀ now, Peruses known s now →
      Task.Yields (Peruses known) (complete c s.machine.disconnected) now fun r s' =>
        Heard c s r s' ∧ (r = .error .disconnected → ¬ s'.Responsive) := by
    intro now moved
    unfold complete
    split
    · rename_i lost
      refine .pure ⟨⟨now.machine, moved.machine, .inr ⟨⟨_, rfl⟩, fun h => ?_, rfl⟩⟩, fun _ h => ?_⟩
      · exact Bool.false_ne_true (h.connected.symm.trans lost)
      · exact Bool.false_ne_true (h.connected.symm.trans (moved.machine.disconnected.trans lost))
    · refine ⟨peruses_machine (Debuggee.reads_perform asks now.machine), ?_, fun lost => ?_⟩
      · exact ⟨now.machine, moved.machine, .inl ⟨rfl, rfl⟩⟩
      · exact absurd lost (Debuggee.answer_connected asks now.machine)
  have rest : ∀ now, Peruses known s now → Task.Yields (Peruses known)
      (if s.waitLimit < s.machine.latency then return .error (.timeout s.timeout)
        else complete c s.machine.disconnected) now fun r s' =>
          Heard c s r s' ∧ (r = .error .disconnected → ¬ s'.Responsive) := by
    intro now moved
    split
    · rename_i late
      refine .pure ⟨⟨now.machine, moved.machine, .inr ⟨⟨_, rfl⟩, fun h => ?_, rfl⟩⟩, nofun⟩
      exact absurd h.prompt (Nat.not_le_of_lt late)
    · exact completed now moved
  have submitted : Machine.submit c s.machine =
      (.accepted s.machine.latency s.machine.disconnected, s.machine) := rfl
  have paused : Task.Yields (Peruses known) (answerAfter c s.machine.latency s.machine.disconnected)
      s fun r s' => Heard c s r s' ∧ (r = .error .disconnected → ¬ s'.Responsive) := by
    unfold answerAfter
    refine .get_bind ?_
    dsimp only
    split
    · refine .sleep_bind _ _ fun now moved => .get_bind ?_
      split
      · rename_i ended
        refine .pure ⟨⟨now.machine, moved.machine, .inr ⟨⟨_, rfl⟩, fun h => ?_, rfl⟩⟩, fun _ h => ?_⟩
        · exact Bool.false_ne_true ((moved.responsive h).going.symm.trans ended)
        · exact Bool.false_ne_true (h.going.symm.trans ended)
      · exact rest now moved
    · exact rest s (Composes.refl s)
  unfold issue
  refine .modifyGet_bind ?_ ?_
  · exact Composes.refl s
  · exact paused

theorem tryCall_yields {c : Call} (asks : c.isQuery = true) (s : Session Debuggee) :
    Task.Yields (Peruses known) (tryCall c) s fun r s' => Heard c s r s' := by
  have noted : ∀ r s', Heard c s r s' →
      Task.Yields (Peruses known) (do modify (note c r); return r) s' fun r s' =>
        Heard c s r s' := by
    intro r s' heard
    refine .modify_bind ?_ (.pure heard)
    exact .of_leaves ⟨rfl, rfl, rfl, rfl, .refl _⟩ (.refl _) (.of_eq rfl rfl rfl rfl rfl rfl) rfl
      fun h => ⟨h.going, h.connected, h.prompt⟩
  unfold tryCall
  refine .get_bind ?_
  split
  · rename_i ended
    refine noted _ s ⟨s.machine, .refl _, .inr ⟨⟨_, rfl⟩, fun h => ?_, rfl⟩⟩
    exact Bool.false_ne_true (h.going.symm.trans ended)
  · unfold ask
    simp only [bind_assoc]
    refine .bind (issue_yields asks s) ?_
    rintro r s' - ⟨heard, lost⟩
    split
    · -- Whoever is told that the debuggee is lost does not get all answers in any case.
      simp only [bind_assoc, pure_bind]
      refine .modify_bind ?_ (noted _ s'.cancel heard)
      exact .of_leaves ⟨rfl, rfl, rfl, rfl, .refl _⟩ (.refl _) (.of_eq rfl rfl rfl rfl rfl rfl) rfl
        fun h => absurd h (lost rfl)
    · exact noted r s' heard

theorem Heard.lookup {c : Call} {r : Except RemoteError c.Reply} (h : Heard c s r s')
    (asks : c.isLookup = true) (responsive : s.Responsive) :
    r = (Debuggee.perform c s.machine).1 := by
  obtain ⟨d, reads, ⟨reply, -⟩ | ⟨-, mute, -⟩⟩ := h
  · rw [reply, reads.same.reply asks]
  · exact absurd responsive mute

theorem Heard.reads {c : Call} {r : Except RemoteError c.Reply} (h : Heard c s r s')
    (asks : c.isQuery = true) : Debuggee.Reads s.machine s'.machine := by
  obtain ⟨d, reads, ⟨-, machine⟩ | ⟨-, -, machine⟩⟩ := h
  · rw [machine]
    exact reads.trans (Debuggee.reads_perform asks d)
  · rw [machine]
    exact reads

/-! ## Looking at the frames again -/

/-- The frames that were found are those of the thread, with good handles. If none were found there
are none, or the session does not get all its answers. -/
structure Found (s : Session Debuggee) (thread : ThreadId) (r : Option (List FrameInfo))
    (s' : Session Debuggee) : Prop where
  shows : ∀ infos, r = some infos → ∀ depth, s'.machine.Shows thread depth infos[depth]?
  nothing : r = none → s.Responsive → ∀ depth, s.machine.standing? thread depth = none

theorem queryFrames_yields (thread : ThreadId) (s : Session Debuggee) :
    Task.Yields (Peruses known) (queryFrames thread) s fun r s' => Found s thread r s' := by
  unfold queryFrames
  refine .bind (tryCall_yields rfl s) ?_
  rintro r s₁ moved ⟨d, reads, answer⟩
  rcases answer with ⟨reply, -⟩ | ⟨⟨e, rfl⟩, mute, -⟩
  · rcases Debuggee.isSuspended_shows d thread with ⟨still, said, moving⟩ | ⟨⟨e, failed, -⟩, unknown⟩
    · obtain rfl : r = .ok still := reply.trans said
      cases still with
      | false =>
        refine .pure ⟨nofun, fun _ _ depth => ?_⟩
        rw [← reads.same.standing]
        exact moving rfl depth
      | true =>
        refine .bind (tryCall_yields rfl s₁) ?_
        rintro r s₂ - ⟨d', reads', answer⟩
        rcases answer with ⟨reply, machine⟩ | ⟨⟨e, rfl⟩, mute, -⟩
        · rcases Debuggee.frames_shows d' thread with
            ⟨infos, answered, shows⟩ | ⟨⟨e, failed, -⟩, nothing⟩
          · obtain rfl : r = .ok infos := reply.trans answered
            refine .pure ⟨fun infos' same => ?_, nofun⟩
            cases same
            rw [machine]
            exact shows
          · obtain rfl : r = .error e := reply.trans failed
            refine .pure ⟨nofun, fun _ _ depth => ?_⟩
            rw [← moved.machine.same.standing, ← reads'.same.standing]
            exact nothing depth
        · exact .pure ⟨nofun, fun _ h => absurd (moved.responsive h) mute⟩
    · obtain rfl : r = .error e := reply.trans failed
      refine .pure ⟨nofun, fun _ _ depth => ?_⟩
      rw [← reads.same.standing]
      exact unknown depth
  · exact .pure ⟨nofun, fun _ h => absurd h mute⟩

theorem Found.lists {thread : ThreadId} {infos : List FrameInfo}
    (h : Found s thread (some infos) s') : s'.machine.Lists thread infos := by
  intro depth info there
  have shown := h.shows infos rfl depth
  rw [there] at shown
  exact shown.1

theorem Found.empty {thread : ThreadId} {infos : List FrameInfo}
    (h : Found s thread (some infos) s') :
    infos = [] ↔ s'.machine.standing? thread 0 = none := by
  have first := h.shows infos rfl 0
  cases infos with
  | nil => exact ⟨fun _ => first, fun _ => rfl⟩
  | cons info rest =>
    obtain ⟨-, f, stands, -⟩ := first
    exact ⟨nofun, fun nothing => nomatch nothing.symm.trans stands⟩

/-- What is seen of a suspension that is recorded, or whose frames have proxies that are known, is
what there is. -/
private theorem peruses_look {p : Suspension} (tracks : Tracks known s)
    (own : (∃ q ∈ known, q.key.suspension = p) ∨ ∃ thread, s.stopped.get? thread = some p)
    {infos : List FrameInfo} {s₀ : Session Debuggee} (found : Found s₀ p.thread (some infos) s) :
    Peruses known s { s with snapshots := s.snapshots.insert p.version infos } := by
  have charted : ∀ {ps qs}, Traced s ps qs → (∀ thread p, s.stopped.get? thread = some p → p ∈ ps) →
      (∀ q ∈ known, q ∈ qs) → p ∈ ps := by
    rintro ps qs traced halts listed
    rcases own with ⟨q, mem, rfl⟩ | ⟨thread, halted⟩
    · exact traced.opened q (listed q mem)
    · exact halts thread p halted
  refine ⟨⟨?_, .of_eq rfl rfl rfl rfl rfl rfl, fun h => ⟨h.1, h.2, h.3⟩, ?_⟩, .refl _, rfl⟩
  · rintro ⟨ps, qs, traced, halts, shown, listed⟩
    exact ⟨ps, qs, traced.look (charted traced halts listed) found.lists, halts, shown, listed⟩
  · rintro - thread ⟨version, halted, seen⟩
    obtain ⟨ps, qs, traced, halts, -, listed⟩ := tracks
    refine ⟨version, halted, ?_⟩
    unfold framesOf
    rw [Table.get?_insert]
    split
    · rename_i same
      have here := traced.distinct _ (halts thread _ halted) p (charted traced halts listed) same
      have empty := found.empty
      rw [← here] at empty
      exact empty
    · exact seen

theorem refresh_yields {p : Suspension} (depth : Nat) (tracks : Tracks known s)
    (own : (∃ q ∈ known, q.key.suspension = p) ∨ ∃ thread, s.stopped.get? thread = some p) :
    Task.Yields (Peruses known) (refresh p depth) s fun r s' =>
      (∀ info, r = some info → s'.machine.Shows p.thread depth (some info)) ∧
        (r = none → s.Responsive → s.machine.standing? p.thread depth = none) := by
  unfold refresh
  refine .bind (queryFrames_yields p.thread s) ?_
  intro r s₁ moved found
  cases r with
  | none => exact .pure ⟨nofun, fun _ h => found.nothing rfl h depth⟩
  | some infos =>
    have own' : (∃ q ∈ known, q.key.suspension = p) ∨ ∃ thread, s₁.stopped.get? thread = some p := by
      rw [moved.alike.stopped]
      exact own
    refine .modify_bind (peruses_look (moved.tracks tracks) own' found) (.pure ⟨?_, ?_⟩)
    · intro info there
      rw [← there]
      exact found.shows infos rfl depth
    · intro nothing _
      have shown := found.shows infos rfl depth
      rw [nothing] at shown
      rw [← moved.machine.same.standing]
      exact shown

/-! ## Operations through proxies -/

theorem ask_produces {op : FrameOperation} (reads : op.isRead = true) (id : FrameId)
    (s : Session Debuggee) :
    Produces (Peruses known) (op.ask id) s fun r _ =>
      ∃ d, Debuggee.Reads s.machine d ∧
        (r = (op.perform id d).1 ∨ (∃ e, r = .error e) ∧ ¬ s.Responsive) := by
  have asked : ∀ {c : Call}, c.isQuery = true →
      Task.Yields (Peruses known) (tryCall c) s fun r _ =>
        ∃ d, Debuggee.Reads s.machine d ∧
          (r = (Debuggee.perform c d).1 ∨ (∃ e, r = .error e) ∧ ¬ s.Responsive) :=
    fun asks => (tryCall_yields asks s).mono fun r s' ⟨d, reads, answer⟩ =>
      ⟨d, reads, answer.imp (fun h => h.1) fun h => ⟨h.1, h.2.1⟩⟩
  cases op with
  | setLocalValue target value => cases reads
  | _ => exact asked rfl

theorem Peruses.keep {q : FrameProxy} (mem : q ∈ known) {kept : Option FrameInfo}
    (named : ∀ info, kept = some info → s.machine.Names info.id q.thread q.depth) :
    Peruses known s (setCachedFrame q kept s) where
  tracks := by
    rintro ⟨ps, qs, traced, halts, shown, listed⟩
    exact ⟨ps, qs, traced.keep (listed q mem) named, halts, shown, listed⟩
  machine := .refl _
  alike := .of_eq rfl rfl rfl rfl rfl rfl
  handles := rfl
  responsive h := ⟨h.going, h.connected, h.prompt⟩
  current _ _ h := h

/-- What an operation through a proxy comes to, if the session gets its answers: what it comes to on
the frame that is there. Without a frame it fails, and not as on a frame of native code unless it
does so on every frame. -/
def Sees (s : Session Debuggee) (op : FrameOperation) (q : FrameProxy)
    (r : Except RemoteError op.Reply) : Prop :=
  s.Responsive → match s.machine.standing? q.thread q.depth with
    | some f => r = (op.onFrame f).1
    | none => ∃ e, r = .error e ∧ (e = .opaqueFrame → ∀ f, (op.onFrame f).1 = .error e)

section

variable {op : FrameOperation} {q : FrameProxy} {r : Except RemoteError op.Reply}

private theorem Sees.of_moved (moved : Peruses known s s') (h : Sees s' op q r) : Sees s op q r := by
  intro responsive
  rw [← moved.machine.same.standing]
  exact h (moved.responsive responsive)

private theorem Sees.of_some {f : Frame} (stands : s.machine.standing? q.thread q.depth = some f)
    (same : s.Responsive → r = (op.onFrame f).1) : Sees s op q r := by
  intro responsive
  rw [stands]
  exact same responsive

private theorem Sees.of_none {e : RemoteError}
    (nothing : s.Responsive → s.machine.standing? q.thread q.depth = none)
    (clear : e ≠ .opaqueFrame) : Sees s op q (.error e) := by
  intro responsive
  rw [nothing responsive]
  exact ⟨e, rfl, fun same => absurd same clear⟩

private theorem Sees.of_refusal {e : RemoteError} (always : ∀ f, op.onFrame f = (.error e, f)) :
    Sees s op q (.error e) := by
  intro _
  split
  · rw [always]
  · exact ⟨e, rfl, fun _ f => by rw [always]⟩

end

private theorem opaque_of_stale {e : RemoteError} (stale : e.isStale = true) : e ≠ .opaqueFrame := by
  rintro rfl
  cases stale

private theorem retry_produces {q : FrameProxy} (mem : q ∈ known) {op : FrameOperation}
    (reads : op.isRead = true) {e : RemoteError} (stale : e.isStale = true)
    (tracks : Tracks known s) :
    Produces (Peruses known) (retry q op.ask e) s fun r _ => Sees s op q r := by
  unfold retry
  refine .quietly_bind (refresh_yields q.depth tracks (.inl ⟨q, mem, rfl⟩)) ?_
  rintro r s₁ moved ⟨shows, nothing⟩
  cases r with
  | none =>
    exact .modify_bind (Peruses.keep mem nofun) (.throw (.of_none (nothing rfl)
      (opaque_of_stale stale)))
  | some info =>
    obtain ⟨named, f, stands, good⟩ := shows info rfl
    refine .modify_bind (Peruses.keep mem fun info' same => ?_) ?_
    · cases same
      exact named
    · refine (ask_produces reads info.id _).mono ?_
      rintro r _ ⟨d, since, answer⟩
      refine .of_some ((moved.machine.same.standing _ _).symm.trans stands) fun responsive => ?_
      rcases answer with reply | ⟨-, mute⟩
      · -- Nobody has let the thread run since the handle was given out.
        obtain ⟨-, generation, found⟩ := named.mono since.toExtends
        have still : d.frame info.id = .ok f := (since.frame named).trans good
        exact reply.trans (Debuggee.perform_of_ok op found still).1
      · exact absurd (moved.responsive responsive) fun h => mute ⟨h.going, h.connected, h.prompt⟩

/-- An operation that only asks answers what the frame at the depth of its proxy answers, whoever
else looks at frames meanwhile. -/
theorem through_produces {q : FrameProxy} (mem : q ∈ known) {op : FrameOperation}
    (reads : op.isRead = true) (tracks : Tracks known s) :
    Produces (Peruses known) (op.through q) s fun r _ => Sees s op q r := by
  rw [FrameOperation.through_eq]
  unfold withFrame
  refine .get_bind ?_
  cases cached : cachedFrame s q with
  | none => exact retry_produces mem reads rfl tracks
  | some info =>
    have named : s.machine.Names info.id q.thread q.depth := by
      obtain ⟨ps, qs, traced, -, -, listed⟩ := tracks
      exact traced.cached q (listed q mem) info cached
    refine .attempt_bind (ask_produces reads info.id s) ?_
    rintro r s₁ moved ⟨d, since, answer⟩
    have again : ∀ {e}, e.isStale = true →
        Produces (Peruses known) (retry q op.ask e) s₁ fun r _ => Sees s op q r := fun stale =>
      (retry_produces mem reads stale (moved.tracks tracks)).mono fun _ _ sees =>
        sees.of_moved moved
    obtain ⟨-, generation, found⟩ := named.mono since.toExtends
    rcases answer with reply | ⟨⟨e, rfl⟩, mute⟩
    · rcases Debuggee.frame_of_handle found with ⟨f, good, stands⟩ | ⟨e, bad, reason⟩
      · have sees : Sees s op q r := .of_some ((since.same.standing _ _).symm.trans stands) fun _ =>
          reply.trans (Debuggee.perform_of_ok op found good).1
        cases r with
        | ok a => exact .pure sees
        | error e =>
          dsimp only
          split
          · exact again ‹_›
          · exact .throw sees
      · rcases (Debuggee.perform_of_error op bad).2 with failed | ⟨e', failed, -, -, always⟩
        · obtain rfl : r = .error e := reply.trans failed
          dsimp only
          split
          · exact again ‹_›
          · -- The handle is not stale, so there is no frame.
            rename_i fresh
            refine .throw (.of_none (fun _ => ?_) ?_)
            · rcases reason with rfl | nothing
              · exact absurd rfl fresh
              · exact (since.same.standing _ _).symm.trans nothing
            · rcases Debuggee.frame_error bad with rfl | ⟨thread, rfl⟩ <;> exact nofun
        · obtain rfl : r = .error e' := reply.trans failed
          dsimp only
          split
          · exact again ‹_›
          · exact .throw (.of_refusal always)
    · dsimp only
      split
      · exact again ‹_›
      · exact .throw fun responsive => absurd responsive mute

end Session
end DebugSession
