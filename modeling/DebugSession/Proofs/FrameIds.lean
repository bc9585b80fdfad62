import DebugSession.Proofs.Portrayal
/-!
The ids of frames along all that happens to a session. While a halt of a thread lasts, a depth has
one id, and it is no other depth's; until handles start again from one, it never stands for anything
else. So the parts of a trace that a client asks for one by one make up the trace.
-/

namespace DebugSession

namespace Session

variable {V : Type} {s s' : Session V}

/-! ## One step -/

section

variable {Reported : Prop} {Spared : ThreadId → Prop}

/-- No suspension comes back on record. -/
theorem Change.of_recorded (h : Change Reported Spared s s') {p : Suspension}
    (old : p.version ≤ s.suspensions) (now : s'.stopped.get? p.thread = some p) :
    s.stopped.get? p.thread = some p := by
  cases h with
  | shows t _ h => rwa [← h.stopped]
  | passes h => rwa [← h.stopped]
  | halts t _ h =>
    obtain ⟨q, s₁, -, new, -, first, last⟩ := h
    rw [last.stopped, recordHalt_stopped, Table.get?_insert, first.stopped] at now
    split at now
    · rw [Option.some.inj now] at new
      exact absurd old (Nat.not_le_of_lt new)
    · exact now
  | resumes t _ h =>
    obtain ⟨s₁, first, last⟩ := h
    rw [last.stopped, threadResumed_stopped, Table.get?_erase, first.stopped] at now
    split at now
    · cases now
    · exact now
  | resumesAll _ h =>
    obtain ⟨s₁, first, last⟩ := h
    rw [last.stopped, allResumed_stopped] at now
    cases now

theorem Change.suspensions (h : Change Reported Spared s s') : s.suspensions ≤ s'.suspensions := by
  cases h with
  | shows t _ h => exact h.suspensions
  | passes h => exact h.suspensions
  | halts t _ h =>
    obtain ⟨q, s₁, -, -, -, first, last⟩ := h
    exact Nat.le_trans first.suspensions last.suspensions
  | resumes t _ h =>
    obtain ⟨s₁, first, last⟩ := h
    exact Nat.le_trans first.suspensions (threadResumed_suspensions t s₁ ▸ last.suspensions)
  | resumesAll _ h =>
    obtain ⟨s₁, first, last⟩ := h
    exact Nat.le_trans first.suspensions (allResumed_suspensions s₁ ▸ last.suspensions)

/-- Until the last handle is given out, only such are given out as have not been before. -/
theorem Change.climbs (h : Change Reported Spared s s') (tidy : s.Tidy) (room : s'.HasRoom)
    (below : s.handles.Below) (unspent : s'.handles.get? maxHandle = none) :
    Pool.Climbs s.handles s'.handles := by
  have removed : ∀ t, Pool.Climbs s.handles (s.handles.removeOwner t) := fun t =>
    .of_dropped below (Pool.next_removeOwner _ t) fun _ _ there =>
      ((Pool.get?_removeOwner tidy.sound t).1 there).1
  have same : Pool.Climbs s.handles s.handles := .of_dropped below rfl fun _ _ there => there
  cases h with
  | shows t _ h => exact h.handles.climbs tidy.sound room below unspent
  | passes h => exact h.handles ▸ same
  | halts t _ h =>
    obtain ⟨q, s₁, -, -, -, first, last⟩ := h
    rw [← last.handles]
    unfold recordHalt
    dsimp only
    rw [← first.handles]
    split
    · exact removed q.thread
    · exact same
  | resumes t _ h =>
    obtain ⟨s₁, first, last⟩ := h
    rw [← last.handles, threadResumed_handles, ← first.handles]
    exact removed t
  | resumesAll _ h =>
    obtain ⟨s₁, first, last⟩ := h
    rw [← last.handles, allResumed_handles, ← first.handles]
    exact .of_dropped below rfl nofun

/-- What stands for a frame does so as long as its suspension is on record. -/
theorem Change.denotes (h : Change Reported Spared s s') (tidy : s.Tidy) (room : s'.HasRoom)
    {k : FrameKey} (stays : StaysHalted k.suspension.thread s s') {n : Int64}
    (stands : s.Denotes n (.frame k)) : s'.Denotes n (.frame k) := by
  obtain ⟨⟨owner, c⟩, there, same⟩ := stands
  refine ⟨⟨owner, c⟩, ?_, same⟩
  cases c with
  | frame q =>
    obtain rfl := Container.Key.frame.inj same
    have own : q.thread = owner := (tidy.resolved there).2 q rfl
    subst own
    exact h.resolve? tidy room stays there
  | _ => cases same

end

/-! ## Histories -/

/-- A session and what there has been of it. -/
structure Chronicle (V : Type) where
  session : Session V
  /-- What the client was told about frames. -/
  answers : List FrameAnswer := []
  /-- What handles have stood for at any time. -/
  uses : List (Nat × Container.Key) := []
  /-- Whether the last handle has been given out, after which they start again from one. -/
  wrapped : Bool := false

namespace Chronicle

section

variable [Machine V]

def after (r : Chronicle V) (i : Input V) : Chronicle V where
  session := r.session.after i
  answers := r.answers ++ r.session.frameAnswers i
  uses := r.uses ++
    (r.session.after i).handles.entries.entries.map fun x => (x.1, x.2.object.key)
  wrapped := r.wrapped || (r.session.after i).handles.entries.contains maxHandle

/-- Anything may have happened to the session since it began, while there were handles left. -/
inductive Reached : Chronicle V → Prop
  | start (machine : V) (settings : Settings) (providers : Providers) :
      Reached { session := start machine settings providers }
  | step {r : Chronicle V} (i : Input V) (before : Reached r)
      (room : (r.session.after i).HasRoom) : Reached (r.after i)

end

/-- All frames of a suspension that were shown so far have one id for each depth. -/
def Steady (answers : List FrameAnswer) : Prop :=
  ∀ a ∈ answers, ∀ a' ∈ answers, a.suspension = a'.suspension →
    ∀ depth depth' f f', a.Shows depth f → a'.Shows depth' f' → (f.id = f'.id ↔ depth = depth')

/-- All that handles of a pool have stood for: no handle ever for two things. -/
structure Logged (p : Pool Container) (uses : List (Nat × Container.Key)) : Prop where
  below : p.Below
  earlier : ∀ u ∈ uses, u.1 < p.next
  present : ∀ handle e, p.get? handle = some e → (handle, e.object.key) ∈ uses
  one : ∀ u ∈ uses, ∀ u' ∈ uses, u.1 = u'.1 → u.2 = u'.2

theorem Logged.climbs {p q : Pool Container} {uses : List (Nat × Container.Key)}
    (h : Logged p uses) (climbs : Pool.Climbs p q) (sound : q.Sound) :
    Logged q (uses ++ q.entries.entries.map fun x => (x.1, x.2.object.key)) := by
  have held : ∀ u ∈ q.entries.entries.map fun x => (x.1, x.2.object.key),
      ∃ e, q.get? u.1 = some e ∧ e.object.key = u.2 := by
    intro u mem
    obtain ⟨⟨handle, e⟩, there, rfl⟩ := List.mem_map.1 mem
    exact ⟨e, Table.get?_of_mem sound.distinct there, rfl⟩
  -- A handle that stood for something before stands for the same thing now, or for nothing.
  have agree : ∀ u ∈ uses, ∀ e, q.get? u.1 = some e → u.2 = e.object.key := by
    intro u mem e there
    have before := climbs.old u.1 e there (h.earlier u mem)
    exact h.one u mem _ (h.present u.1 e before) rfl
  constructor
  case below => exact climbs.below
  case earlier =>
    intro u mem
    rcases List.mem_append.1 mem with old | new
    · exact Nat.lt_of_lt_of_le (h.earlier u old) climbs.next
    · obtain ⟨e, there, -⟩ := held u new
      exact climbs.below u.1 e there
  case present =>
    intro handle e there
    exact List.mem_append_right _ (List.mem_map.2 ⟨_, Table.mem_of_get? there, rfl⟩)
  case one =>
    intro u mem u' mem' same
    rcases List.mem_append.1 mem with old | new <;> rcases List.mem_append.1 mem' with old' | new'
    · exact h.one u old u' old' same
    · obtain ⟨e, there, is⟩ := held u' new'
      rw [← is]
      exact agree u old e (same ▸ there)
    · obtain ⟨e, there, is⟩ := held u new
      rw [← is]
      exact (agree u' old' e (same ▸ there)).symm
    · obtain ⟨e, there, is⟩ := held u new
      obtain ⟨e', there', is'⟩ := held u' new'
      rw [same, there'] at there
      rw [← is, ← is', Option.some.inj there]

/-- What every history keeps to. -/
structure Kept (r : Chronicle V) : Prop where
  tidy : r.session.Tidy
  recent : ∀ a ∈ r.answers, a.suspension.version ≤ r.session.suspensions
  faithful : ∀ a ∈ r.answers, a.Faithful r.session.providers.lookup
  /-- As long as a suspension is on record, all ids that were told of its frames stand for them. -/
  stands : ∀ a ∈ r.answers,
    r.session.stopped.get? a.suspension.thread = some a.suspension →
      ∀ depth f, a.Shows depth f → r.session.Denotes f.id (.frame ⟨a.suspension, depth⟩)
  steady : Steady r.answers
  logged : r.wrapped = false → Logged r.session.handles r.uses
  used : ∀ a ∈ r.answers, ∀ depth f, a.Shows depth f →
    ∃ handle, handle ≤ maxHandle ∧ f.id = Int64.ofNat handle ∧
      (handle, .frame ⟨a.suspension, depth⟩) ∈ r.uses

theorem kept_start (machine : V) (settings : Settings) (providers : Providers) :
    Kept { session := start machine settings providers } where
  tidy := tidy_start machine settings providers
  recent := nofun
  faithful := nofun
  stands := nofun
  steady := nofun
  logged _ := ⟨nofun, nofun, nofun, nofun⟩
  used := nofun

section

variable {r : Chronicle V}

/-- Until handles start again from one, an id stands for its frame only. -/
theorem Kept.alone (h : r.Kept) (unwrapped : r.wrapped = false) {a : FrameAnswer}
    (mem : a ∈ r.answers) {depth : Nat} {f : Protocol.StackFrame} (shows : a.Shows depth f)
    {u : Nat × Container.Key} (used : u ∈ r.uses) (same : f.id = Int64.ofNat u.1) :
    u.2 = .frame ⟨a.suspension, depth⟩ := by
  have logged := h.logged unwrapped
  obtain ⟨handle, small, number, there⟩ := h.used a mem depth f shows
  have small' : u.1 ≤ maxHandle :=
    Nat.le_of_lt (Nat.lt_of_lt_of_le (logged.earlier u used) h.tidy.sound.next.2)
  have equal : u.1 = handle := by
    have numbers := congrArg Int64.toInt (same.symm.trans number)
    rw [toInt_handle small', toInt_handle small] at numbers
    exact Int.ofNat.inj numbers
  exact logged.one u used _ there equal

private theorem forall₂_portion {α β : Type} {R : α → β → Prop} {l : List α} {l' : List β}
    (h : List.Forall₂ R l l') (start levels : Nat) :
    List.Forall₂ R (portion l start levels) (portion l' start levels) := by
  unfold portion
  split
  · exact List.forall₂_drop _ h
  · exact List.forall₂_take _ (List.forall₂_drop _ h)

/-- A part of a trace is that part of the whole, with the same ids. -/
theorem Kept.page_eq (h : r.Kept) {p : Suspension} {stack : List Location} {start levels : Nat}
    {body full : Protocol.StackTraceResponseBody}
    (part : .page p stack start levels body ∈ r.answers)
    (whole : .page p stack 0 0 full ∈ r.answers) :
    body.stackFrames = portion full.stackFrames start levels := by
  obtain ⟨likeness, -⟩ := h.faithful _ part
  obtain ⟨likeness', -⟩ := h.faithful _ whole
  have parts : List.Forall₂ _ (portion stack start levels)
      (portion full.stackFrames start levels) := forall₂_portion likeness' start levels
  refine List.ext_getElem (likeness.length_eq.symm.trans parts.length_eq) fun k bound bound' => ?_
  have there := List.getElem?_eq_getElem bound
  have there' := getElem?_portion (List.getElem?_eq_getElem bound')
  have ids := (h.steady _ part _ whole rfl (start + k) (start + k) _ _ ⟨k, rfl, there⟩
    ⟨start + k, (Nat.zero_add _).symm, there'⟩).2 rfl
  have inside : k < (portion stack start levels).length := likeness.length_eq ▸ bound
  have like := likeness.get inside bound
  have like' := parts.get inside bound'
  rw [List.get_eq_getElem, List.get_eq_getElem] at like like'
  rw [like, like', ids]

end

variable [Machine V] {r : Chronicle V}

section

variable {i : Input V} {a : FrameAnswer}

private theorem Kept.recent_before (h : r.Kept) (mem : a ∈ (r.after i).answers) :
    a.suspension.version ≤ r.session.suspensions := by
  rcases List.mem_append.1 mem with old | new
  · exact h.recent a old
  · exact h.tidy.recent _ _ (reveals_of_answered h.tidy new).recorded

private theorem Kept.stands_after (h : r.Kept) (room : (r.session.after i).HasRoom)
    (mem : a ∈ (r.after i).answers)
    (recorded : (r.session.after i).stopped.get? a.suspension.thread = some a.suspension)
    {depth : Nat} {f : Protocol.StackFrame} (shows : a.Shows depth f) :
    (r.session.after i).Denotes f.id (.frame ⟨a.suspension, depth⟩) := by
  rcases List.mem_append.1 mem with old | new
  · have change := after_changes h.tidy i
    have before := change.of_recorded (h.recent a old) recorded
    have stays : StaysHalted a.suspension.thread r.session (r.session.after i) :=
      recorded.trans before.symm
    exact change.denotes h.tidy room stays (h.stands a old before depth f shows)
  · exact (reveals_of_answered h.tidy new).stands h.tidy.sound room depth f shows

/-- If one of two answers is new, the suspension of both is on record. -/
private theorem Kept.steady_after (h : r.Kept) (room : (r.session.after i).HasRoom) :
    Steady (r.after i).answers := by
  intro a mem a' mem' of_one depth depth' f f' shows shows'
  have both : (r.session.after i).stopped.get? a.suspension.thread = some a.suspension →
      (f.id = f'.id ↔ depth = depth') := by
    intro recorded
    have first := h.stands_after room mem recorded shows
    have second := h.stands_after room mem' (of_one ▸ recorded) shows'
    rw [← of_one] at second
    rw [first.eq_iff ((after_changes h.tidy i).tidy h.tidy room).sound second]
    simp
  have still : ∀ a ∈ r.session.frameAnswers i,
      (r.session.after i).stopped.get? a.suspension.thread = some a.suspension := by
    intro a new
    have told := reveals_of_answered h.tidy new
    exact told.shown.stopped ▸ told.recorded
  rcases List.mem_append.1 mem with old | new
  · rcases List.mem_append.1 mem' with old' | new'
    · exact h.steady a old a' old' of_one depth depth' f f' shows shows'
    · exact both (of_one ▸ still a' new')
  · exact both (still a new)

private theorem Kept.used_after (h : r.Kept) (room : (r.session.after i).HasRoom)
    (mem : a ∈ (r.after i).answers) {depth : Nat} {f : Protocol.StackFrame}
    (shows : a.Shows depth f) : ∃ handle, handle ≤ maxHandle ∧ f.id = Int64.ofNat handle ∧
      (handle, .frame ⟨a.suspension, depth⟩) ∈ (r.after i).uses := by
  rcases List.mem_append.1 mem with old | new
  · obtain ⟨handle, small, number, there⟩ := h.used a old depth f shows
    exact ⟨handle, small, number, List.mem_append_left _ there⟩
  · have sound := ((after_changes h.tidy i).tidy h.tidy room).sound
    obtain ⟨e, there, is⟩ :=
      (reveals_of_answered h.tidy new).stands h.tidy.sound room depth f shows
    obtain ⟨handle, number, found⟩ := Option.bind_eq_some_iff.1 there
    have bound := (sound.keys handle (Table.mem_keys found)).2
    have same : f.id = Int64.ofNat handle := by
      rw [← Int64.ofInt_toInt f.id, Int.mem_toNat?.1 number]
      rfl
    refine ⟨handle, bound, same, List.mem_append_right _ (List.mem_map.2 ?_)⟩
    exact ⟨(handle, e), Table.mem_of_get? found, by rw [is]⟩

end

theorem Kept.after (h : r.Kept) (i : Input V) (room : (r.session.after i).HasRoom) :
    (r.after i).Kept := by
  have change := after_changes h.tidy i
  have tidy := change.tidy h.tidy room
  constructor
  case tidy => exact tidy
  case recent => exact fun a mem => Nat.le_trans (h.recent_before mem) change.suspensions
  case faithful =>
    intro a mem
    show a.Faithful (r.session.after i).providers.lookup
    rw [after_providers r.session i]
    rcases List.mem_append.1 mem with old | new
    · exact h.faithful a old
    · exact (reveals_of_answered h.tidy new).faithful
  case stands => exact fun a mem recorded depth f shows => h.stands_after room mem recorded shows
  case steady => exact h.steady_after room
  case logged =>
    intro unwrapped
    obtain ⟨before, unspent⟩ := Bool.or_eq_false_iff.1 unwrapped
    rw [Table.contains_eq_isSome, Option.isSome_eq_false_iff, Option.isNone_iff_eq_none] at unspent
    have logged := h.logged before
    exact logged.climbs (change.climbs h.tidy room logged.below unspent) tidy.sound
  case used => exact fun a mem depth f shows => h.used_after room mem shows

theorem Reached.kept (h : r.Reached) : r.Kept := by
  induction h with
  | start machine settings providers => exact kept_start machine settings providers
  | step i before room ih => exact ih.after i room

theorem Reached.foldl (h : r.Reached) (is : List (Input V))
    (room : ∀ n < is.length, ((is.take (n + 1)).foldl after r).session.HasRoom) :
    (is.foldl after r).Reached := by
  induction is generalizing r with
  | nil => exact h
  | cons i rest ih =>
    apply ih (.step i h (room 0 (Nat.succ_pos _)))
    intro n hn
    exact room (n + 1) (Nat.succ_lt_succ hn)

/-! ## What a client is told -/

/-- What a client is told about frames fits together. -/
structure Coherent (r : Chronicle V) : Prop where
  /-- Within a suspension, a depth has one id, and other depths have others. -/
  steady : Steady r.answers
  /-- Ids of frames of other suspensions are others. -/
  apart : r.wrapped = false → ∀ a ∈ r.answers, ∀ a' ∈ r.answers, a.suspension ≠ a'.suspension →
    ∀ depth depth' f f', a.Shows depth f → a'.Shows depth' f' → f.id ≠ f'.id
  /-- Nor does an id stand for anything else at any time. -/
  alone : r.wrapped = false → ∀ a ∈ r.answers, ∀ depth f, a.Shows depth f →
    ∀ u ∈ r.uses, f.id = Int64.ofNat u.1 → u.2 = .frame ⟨a.suspension, depth⟩
  /-- Parts of a trace that has not changed are parts of the whole. -/
  pages : ∀ p stack start levels body full, .page p stack start levels body ∈ r.answers →
    .page p stack 0 0 full ∈ r.answers →
      body.stackFrames = portion full.stackFrames start levels ∧
        body.totalFrames = some (Int64.ofNat full.stackFrames.length)
  /-- Any part of the trace of a suspension on record is told to whoever asks for it. -/
  told : ∀ m thread start levels p, Request.ofMessage m = .ok (.stackTrace thread start levels) →
    r.session.stopped.get? thread = some p → ∃ body,
      r.session.frameAnswers (.message m) = [.page p (r.session.stackOf p) start levels body] ∧
        ((respond m).run advance r.session).1.response = .succeeded m (some (Json.write body))

theorem Reached.frames_coherent (h : r.Reached) : r.Coherent := by
  have kept := h.kept
  constructor
  case steady => exact kept.steady
  case apart =>
    intro unwrapped a mem a' mem' other depth depth' f f' shows shows' same
    obtain ⟨handle, -, number, there⟩ := kept.used a' mem' depth' f' shows'
    have one := kept.alone unwrapped mem shows there (same.trans number)
    exact other (FrameKey.mk.inj (Container.Key.frame.inj one)).1.symm
  case alone =>
    intro unwrapped a mem depth f shows u used same
    exact kept.alone unwrapped mem shows used same
  case pages =>
    intro p stack start levels body full part whole
    refine ⟨kept.page_eq part whole, ?_⟩
    obtain ⟨-, total⟩ := kept.faithful _ part
    obtain ⟨likeness, -⟩ := kept.faithful _ whole
    rw [total, ← likeness.length_eq]
    simp [portion]
  case told =>
    intro m thread start levels p asked halted
    exact stackTrace_answered kept.tidy asked halted

end Chronicle

/-- A thread that has come through three methods. -/
def threeDeep : Debuggee :=
  let frame (method : String) (line : UInt32) : Frame :=
    { location := { className := "A", methodName := method, line } }
  (({} : Debuggee).addThread 1 "a" |>.setFrames 1 [frame "m" 5, frame "n" 7, frame "o" 9])
    |>.suspendThread 1

def pageOf (start levels : Int) : Input Debuggee :=
  .message ⟨1, "request", "stackTrace",
    some (.obj [("threadId", .ofInt 1), ("startFrame", .ofInt start), ("levels", .ofInt levels)])⟩

/-- A frame on its own is told of first, then the whole trace, a part of it, and the same frame in
the next halt of the thread. -/
theorem coherent_over_two_halts :
    let alone : Input Debuggee := .message
      ⟨1, "request", "getStackFrame", some (.obj [("threadId", .ofInt 1), ("depth", .ofInt 2)])⟩
    let r := [exceptionIn 1, alone, pageOf 0 0, pageOf 1 1, exceptionIn 1, alone].foldl
      Chronicle.after { session := start threeDeep {} {} }
    r.answers.map (fun a => a.frames.map (·.id)) = [[1], [2, 3, 1], [3], [4]] ∧
      r.wrapped = false ∧ r.Coherent := by
  have began : Chronicle.Reached { session := start threeDeep {} {} } := .start _ _ _
  exact ⟨by decide +kernel, by decide +kernel, (began.foldl _ (by decide +kernel)).frames_coherent⟩

end Session
end DebugSession
