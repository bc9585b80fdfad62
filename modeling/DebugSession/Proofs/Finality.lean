import DebugSession.Proofs.Endings
/-!
The end of a session is final. Whatever is asked of the debuggee through a session that is over
fails at once, and the debuggee learns nothing of it. A session that is not over passes on what the
debuggee itself says, unless it is ended meanwhile or time runs out.
-/

namespace DebugSession

variable {V α β γ δ : Type}

/-! ## How an answer comes about -/

/-- All that is known of what others do: a session that is over stays so. -/
def Stays (s s' : Session V) : Prop := s.cancelled = true → s'.cancelled = true

instance : Composes (Stays (V := V)) where
  refl _ := id
  trans h h' := h' ∘ h

/-- A computation comes to a result and a last state, where it goes on after each wait in a state
that is ready. `awake` are these states. -/
inductive Step.Comes : Step (Session V) α → List (Session V) → α → Session V → Prop
  | done (a : α) (s : Session V) : Comes (.done a s) [] a s
  | wait {deadline : Option Nat} {ready : Session V → Bool} {s now s' : Session V}
      {resume : Session V → Step (Session V) α} {awake : List (Session V)} {a : α}
      (stays : Stays s now) (isReady : ready now = true) (rest : (resume now).Comes awake a s') :
      Comes (.wait deadline ready s resume) (now :: awake) a s'

theorem Step.Comes.of_done {a b : α} {s s' : Session V} {awake : List (Session V)}
    (came : (Step.done a s).Comes awake b s') : b = a ∧ s' = s := by
  cases came
  exact ⟨rfl, rfl⟩

theorem Step.Comes.of_bind {x : Step (Session V) α} {f : α → Session V → Step (Session V) β}
    {awake : List (Session V)} {b : β} {s' : Session V} (came : (x.bind f).Comes awake b s') :
    ∃ first rest a s, awake = first ++ rest ∧ x.Comes first a s ∧ (f a s).Comes rest b s' := by
  induction x generalizing awake with
  | done a s => exact ⟨[], awake, a, s, rfl, .done a s, came⟩
  | wait deadline ready s resume ih =>
    cases came with
    | wait stays isReady more =>
      obtain ⟨first, rest, a, s, rfl, came, last⟩ := ih _ more
      exact ⟨_ :: first, rest, a, s, rfl, .wait stays isReady came, last⟩

theorem Step.Moves.comes {x : Step (Session V) α} {s s' : Session V} {awake : List (Session V)}
    {a : α} (h : x.Moves Stays s) (came : x.Comes awake a s') : Stays s s' := by
  induction came generalizing s with
  | done a s' => exact h
  | wait stays isReady rest ih =>
    exact Composes.trans h.1 (Composes.trans stays (ih (h.2.2 _)))

namespace Step

/-- Two computations that wait in the same states, and as long as the session is not over also for
the same, until their results and last states are as `E` says. -/
def Tracks (E : α → Session V → β → Session V → Prop) :
    Step (Session V) α → Step (Session V) β → Prop
  | done a s, done b s' => E a s b s'
  | wait _ ready s resume, wait _ ready' s' resume' =>
    s = s' ∧ ∀ now, now.cancelled = false →
      ready now = ready' now ∧ (resume now).Tracks E (resume' now)
  | _, _ => False

variable {E : α → Session V → β → Session V → Prop}

theorem Tracks.flip {x : Step (Session V) α} {y : Step (Session V) β} (h : x.Tracks E y) :
    y.Tracks (fun b s' a s => E a s b s') x := by
  induction x generalizing y with
  | done a s =>
    cases y with
    | done b s' => exact h
    | wait => exact h.elim
  | wait t ready s resume ih =>
    cases y with
    | done => exact h.elim
    | wait t' ready' s' resume' =>
      refine ⟨h.1.symm, fun now going => ?_⟩
      obtain ⟨same, rest⟩ := h.2 now going
      exact ⟨same.symm, ih now rest⟩

theorem Tracks.bind {E' : γ → Session V → δ → Session V → Prop} {x : Step (Session V) α}
    {y : Step (Session V) β} {f : α → Session V → Step (Session V) γ}
    {g : β → Session V → Step (Session V) δ} (h : x.Tracks E y)
    (rest : ∀ a s b s', E a s b s' → (f a s).Tracks E' (g b s')) :
    (x.bind f).Tracks E' (y.bind g) := by
  induction x generalizing y with
  | done a s =>
    cases y with
    | done b s' => exact rest a s b s' h
    | wait => exact h.elim
  | wait t ready s resume ih =>
    cases y with
    | done => exact h.elim
    | wait t' ready' s' resume' =>
      refine ⟨h.1, fun now going => ?_⟩
      obtain ⟨same, more⟩ := h.2 now going
      exact ⟨same, ih now more⟩

/-- What the first computation does once it has its result has nothing to do with the other. -/
theorem Tracks.before {E' : γ → Session V → β → Session V → Prop} {x : Step (Session V) α}
    {y : Step (Session V) β} {f : α → Session V → Step (Session V) γ} (h : x.Tracks E y)
    (rest : ∀ a s b s', E a s b s' → (f a s).Tracks E' (done b s')) : (x.bind f).Tracks E' y := by
  rw [← bind_done y]
  exact h.bind rest

theorem Tracks.mono {E' : α → Session V → β → Session V → Prop} {x : Step (Session V) α}
    {y : Step (Session V) β} (h : x.Tracks E y) (imp : ∀ a s b s', E a s b s' → E' a s b s') :
    x.Tracks E' y := by
  rw [← bind_done x]
  exact h.before imp

/-- As long as the session is not over, the one comes to its end where the other does. -/
theorem Tracks.comes {x : Step (Session V) α} {y : Step (Session V) β} (h : x.Tracks E y)
    {awake : List (Session V)} {a : α} {s : Session V} (came : x.Comes awake a s)
    (going : ∀ now ∈ awake, now.cancelled = false) :
    ∃ b s', y.Comes awake b s' ∧ E a s b s' := by
  induction came generalizing y with
  | done a s =>
    cases y with
    | done b s' => exact ⟨b, s', .done b s', h⟩
    | wait => exact h.elim
  | wait stays isReady rest ih =>
    cases y with
    | done => exact h.elim
    | wait t' ready' s' resume' =>
      obtain ⟨rfl, both⟩ := h
      obtain ⟨goes, later⟩ := List.forall_mem_cons.1 going
      obtain ⟨same, more⟩ := both _ goes
      obtain ⟨b, s'', came, ends⟩ := ih more later
      exact ⟨b, s'', .wait stays (same ▸ isReady) came, ends⟩

end Step

/-- The same result in the same state, in which the session goes on. -/
def Agree (a : α) (s : Session V) (b : α) (s' : Session V) : Prop :=
  a = b ∧ s = s' ∧ s.cancelled = false

namespace Task

/-- Two computations that begin in a state `s` come to the same unless the session is ended. -/
def Mirrors (x y : Task (Session V) α) (s : Session V) : Prop := (x s).Tracks Agree (y s)

variable {s : Session V} {x y : Task (Session V) α}

theorem Mirrors.pure (going : s.cancelled = false) (a : α) :
    Mirrors (pure a) (pure a) s := ⟨rfl, rfl, going⟩

theorem Mirrors.bind {f g : α → Task (Session V) β} (first : Mirrors x y s)
    (rest : ∀ a now, now.cancelled = false → Mirrors (f a) (g a) now) :
    Mirrors (x >>= f) (y >>= g) s := by
  refine Step.Tracks.bind first ?_
  rintro a s' _ _ ⟨rfl, rfl, going⟩
  exact rest a s' going

theorem Mirrors.modifyGet {f : Session V → α × Session V} (going : (f s).2.cancelled = false) :
    Mirrors (modifyGet f) (modifyGet f) s := ⟨rfl, rfl, going⟩

/-- A look at the state that only the first computation takes. -/
theorem Mirrors.get_bind {f : Session V → Task (Session V) α} (h : Mirrors (f s) y s) :
    Mirrors (get >>= f) y s := h

theorem Mirrors.get_bind_both {f g : Session V → Task (Session V) α} (h : Mirrors (f s) (g s) s) :
    Mirrors (get >>= f) (get >>= g) s := h

theorem Mirrors.sleep {ready ready' : Session V → Bool} (time : Nat)
    (same : ∀ now, now.cancelled = false → ready now = ready' now) :
    Mirrors (sleep time ready) (sleep time ready') s :=
  ⟨rfl, fun now going => ⟨same now going, rfl, rfl, going⟩⟩

theorem Mirrors.await {ready ready' : Session V → Bool} (going : s.cancelled = false)
    (same : ∀ now, now.cancelled = false → ready now = ready' now) :
    Mirrors (await ready) (await ready') s := by
  unfold Mirrors Task.await
  rw [same s going]
  split
  · exact ⟨rfl, rfl, going⟩
  · exact ⟨rfl, fun now going => ⟨same now going, rfl, rfl, going⟩⟩

theorem Mirrors.run_bind {ε : Type} {x y : ExceptT ε (Task (Session V)) α}
    {f g : α → ExceptT ε (Task (Session V)) β} (first : Mirrors x.run y.run s)
    (rest : ∀ a now, now.cancelled = false → Mirrors (f a).run (g a).run now) :
    Mirrors (x >>= f).run (y >>= g).run s := by
  rw [ExceptT.run_bind, ExceptT.run_bind]
  refine first.bind fun r now going => ?_
  cases r with
  | ok a => exact rest a now going
  | error e => exact .pure going _

theorem Mirrors.quietly {ε : Type} (h : Mirrors x y s) :
    Mirrors (quietly x : ExceptT ε (Task (Session V)) α).run
      (DebugSession.quietly y : ExceptT ε (Task (Session V)) α).run s := by
  unfold DebugSession.quietly
  rw [ExceptT.run_lift, ExceptT.run_lift, map_eq_pure_bind, map_eq_pure_bind]
  exact h.bind fun a now going => .pure going _

end Task

/-! ## What is asked of the debuggee -/

/-- What may be asked of the debuggee through a session. -/
inductive Query where
  | call (c : Call)
  | nextEvent
  | dispose

namespace Query

@[reducible] def Answer : Query → Type
  | .call c => Except RemoteError c.Reply
  | .nextEvent => Except RemoteError (Option VmEvent)
  | .dispose => Except RemoteError Unit

/-- What a session that is over answers. -/
def refusal : (q : Query) → q.Answer
  | .call _ | .dispose => .error .disconnected
  | .nextEvent => .ok none

/-- Whether the session is over after an answer: the debuggee was found to be lost, or was let go.
To find it lost while one waits for an event does not count. -/
def Ends : (q : Query) → q.Answer → Prop
  | .call _, answer => answer = .error .disconnected
  | .nextEvent, _ => False
  | .dispose, _ => True

end Query

variable [Machine V]

namespace Session

/-- The answer to an accepted call of somebody who waits for it as long as it takes. -/
def awaitAnswer (c : Call) (delay : Nat) (lost : Bool) :
    Task (Session V) (Except RemoteError c.Reply) := do
  let s ← get
  if 0 < delay then
    let wake := s.clock + delay
    Task.sleep wake fun s => wake ≤ s.clock
  complete c lost

/-- A call as the debuggee itself answers it. -/
def directCall (c : Call) : Task (Session V) (Except RemoteError c.Reply) := do
  let admission ← modifyGet fun s =>
    let (admission, machine) := Machine.submit c s.machine
    (admission, { s with machine })
  match admission with
  | .refused e => return .error e
  | .accepted delay lost => awaitAnswer c delay lost

/-- The next event as the debuggee itself has it, whether or not the session is over. -/
def directEvent : Remote V (Option VmEvent) := do
  awaitEvent
  let number ← quietly (standInLine .events)
  quietly (Task.await fun s => s.line.isFirst .events number && hasEvent s)
  quietly (leaveLine number)
  quietly takeEvent

/-- The answer to a call takes longer than the settings allow. -/
def Outlasts (s : Session V) (c : Call) : Prop :=
  ∃ delay lost, (Machine.submit c s.machine).1 = .accepted delay lost ∧ s.waitLimit < delay

theorem complete_mirrors {c : Call} {lost : Bool} {s : Session V} (going : s.cancelled = false) :
    Task.Mirrors (complete c lost) (complete c lost) s := by
  unfold complete
  split
  · exact .pure going _
  · exact .modifyGet going

theorem answerAfter_mirrors {c : Call} {delay : Nat} {lost : Bool} {s : Session V}
    (going : s.cancelled = false) (inTime : delay ≤ s.waitLimit) :
    Task.Mirrors (answerAfter c delay lost) (awaitAnswer c delay lost) s := by
  unfold answerAfter awaitAnswer
  refine .get_bind_both ?_
  dsimp only
  rw [Nat.min_eq_left inTime]
  by_cases waits : 0 < delay
  · rw [if_pos waits, if_pos waits]
    have wakes : Task.Mirrors
        (Task.sleep (s.clock + delay) fun now => now.cancelled || s.clock + delay ≤ now.clock)
        (Task.sleep (s.clock + delay) fun now => s.clock + delay ≤ now.clock) s :=
      .sleep _ fun now goes => by simp [goes]
    refine wakes.bind fun _ now goes => .get_bind ?_
    rw [if_neg (Bool.eq_false_iff.1 goes)]
    simp only [Nat.not_lt.2 inTime, if_false]
    exact complete_mirrors goes
  · rw [if_neg waits, if_neg waits]
    simp only [Nat.not_lt.2 inTime, if_false]
    exact complete_mirrors going

theorem issue_mirrors {c : Call} {s : Session V} (going : s.cancelled = false)
    (inTime : ¬ s.Outlasts c) : Task.Mirrors (issue c) (directCall c) s := by
  show Task.Mirrors
    (match (Machine.submit c s.machine).1 with | .refused _ => _ | .accepted _ _ => _)
    (match (Machine.submit c s.machine).1 with | .refused _ => _ | .accepted _ _ => _)
    { s with machine := (Machine.submit c s.machine).2 }
  cases admitted : (Machine.submit c s.machine).1 with
  | refused e => exact ⟨rfl, rfl, going⟩
  | accepted delay lost =>
    refine answerAfter_mirrors going (Nat.not_lt.1 fun long => inTime ?_)
    exact ⟨delay, lost, admitted, long⟩

theorem tryCall_of_over (c : Call) {s : Session V} (ended : s.cancelled = true) :
    tryCall c s = .done (.error .disconnected) (note c (.error .disconnected) s) := by
  show (if s.cancelled then _ else _ : Task (Session V) _) s = _
  rw [if_pos ended]
  rfl

theorem tryCall_of_going (c : Call) {s : Session V} (going : s.cancelled = false) :
    tryCall c s = (ask c s).bind fun r s => .done r (note c r s) := by
  show (if s.cancelled then _ else _ : Task (Session V) _) s = _
  rw [if_neg (Bool.eq_false_iff.1 going)]
  rfl

/-- A call in time is answered by the debuggee. The session is over if it was lost. -/
theorem tryCall_tracks {c : Call} {s : Session V} (going : s.cancelled = false)
    (inTime : ¬ s.Outlasts c) :
    (tryCall c s).Tracks (fun a s b s' => a = b ∧ s.machine = s'.machine ∧
      (s.cancelled = true ↔ a = .error .disconnected)) (directCall c s) := by
  have asked : (ask c s).Tracks (fun a s b s' => a = b ∧ s.machine = s'.machine ∧
      (s.cancelled = true ↔ a = .error .disconnected)) (directCall c s) := by
    unfold ask
    refine (issue_mirrors going inTime).before ?_
    rintro a s _ _ ⟨rfl, rfl, goes⟩
    dsimp only
    split
    · exact ⟨rfl, rfl, fun _ => rfl, fun _ => rfl⟩
    · rename_i other
      exact ⟨rfl, rfl, by simp [goes], fun lost => absurd lost other⟩
  rw [tryCall_of_going c going]
  refine asked.before ?_
  rintro a s _ s' ⟨rfl, same, lost⟩
  exact ⟨rfl, same, lost⟩

theorem dispose_tracks {s : Session V} (going : s.cancelled = false)
    (inTime : ¬ s.Outlasts .dispose) :
    (dispose s).Tracks (fun a s b s' => a = b ∧ s.machine = s'.machine ∧ s.cancelled = true)
      (directCall .dispose s) := by
  refine (tryCall_tracks going inTime).before ?_
  rintro a s _ s' ⟨rfl, same, -⟩
  exact ⟨rfl, same, rfl⟩

theorem nextEvent_mirrors {s : Session V} (going : s.cancelled = false) :
    Task.Mirrors nextEvent.run directEvent.run s := by
  show Task.Mirrors (if s.cancelled then _ else _ : Remote V _).run _ s
  rw [if_neg (Bool.eq_false_iff.1 going)]
  have failed : Task.Mirrors awaitEvent.run awaitEvent.run s := by
    unfold awaitEvent
    refine .run_bind (.quietly (.modifyGet going)) fun failure now goes => ?_
    cases failure with
    | none => exact .pure goes _
    | some e => exact .pure goes _
  refine .run_bind failed fun _ s₁ going₁ => ?_
  refine .run_bind (.quietly (.modifyGet going₁)) fun number s₂ going₂ => ?_
  refine .run_bind (.quietly (.await going₂ fun now goes => ?_)) fun _ s₃ going₃ => ?_
  · simp [goes]
  refine .run_bind (.quietly (.modifyGet going₃)) fun _ s₄ going₄ => ?_
  show Task.Mirrors (if s₄.cancelled then _ else _ : Remote V _).run _ s₄
  rw [if_neg (Bool.eq_false_iff.1 going₄)]
  refine .quietly (.modifyGet ?_)
  split <;> exact going₄

/-- A session that has found the debuggee lost is over. -/
theorem over_of_tryCall {c : Call} {s s' : Session V} {awake : List (Session V)}
    (came : (tryCall c s).Comes awake (.error .disconnected) s') : s'.cancelled = true := by
  cases gone : s.cancelled with
  | true =>
    rw [tryCall_of_over c gone] at came
    obtain ⟨-, rfl⟩ := came.of_done
    exact gone
  | false =>
    rw [tryCall_of_going c gone] at came
    obtain ⟨_, _, _, s₁, -, asked, noted⟩ := came.of_bind
    obtain ⟨rfl, rfl⟩ := noted.of_done
    obtain ⟨_, _, r, s₂, -, -, settled⟩ := asked.of_bind
    cases r with
    | ok a => cases settled.of_done.1
    | error e =>
      cases e with
      | disconnected =>
        obtain ⟨-, rfl⟩ := settled.of_done
        rfl
      | _ => cases settled.of_done.1

end Session

namespace Query

/-- Asks through the session. -/
def guarded : (q : Query) → Task (Session V) q.Answer
  | .call c => Session.tryCall c
  | .nextEvent => Session.nextEvent.run
  | .dispose => Session.dispose

/-- Asks the debuggee itself. -/
def direct : (q : Query) → Task (Session V) q.Answer
  | .call c => Session.directCall c
  | .nextEvent => Session.directEvent.run
  | .dispose => Session.directCall .dispose

/-- Waiting for an event is not limited in time. -/
def TimesOut (s : Session V) : Query → Prop
  | .call c => s.Outlasts c
  | .nextEvent => False
  | .dispose => s.Outlasts .dispose

/-- A query that is made while another one waits keeps to what is known of others. -/
theorem guarded_stays (q : Query) : Task.Moves Stays (q.guarded : Task (Session V) q.Answer) := by
  have quiet : ∀ s s' : Session V, Session.Mute s s' → Stays s s' := by
    rintro s s' ⟨xs, es, -, -, gone⟩ ended
    exact gone.2 (.inl ended)
  have called : ∀ c, Task.Moves Stays (Session.tryCall c : Task (Session V) _) :=
    fun c => (Heeds.call c).mono quiet
  cases q with
  | call c => exact called c
  | nextEvent => exact Task.Moves.mono Session.nextEvent_stirs quiet
  | dispose => exact (called .dispose).bind fun _ => .bind (.modify fun _ _ => rfl) fun _ => .pure _

theorem refused {s : Session V} (ended : s.cancelled = true) (q : Query) :
    ∃ s', q.guarded s = .done q.refusal s' ∧ s'.machine = s.machine ∧ s'.cancelled = true := by
  cases q with
  | call c => exact ⟨_, Session.tryCall_of_over c ended, rfl, ended⟩
  | nextEvent =>
    refine ⟨s, ?_, rfl, ended⟩
    show (if s.cancelled then _ else _ : Remote V _).run s = _
    rw [if_pos ended]
    rfl
  | dispose =>
    refine ⟨(Session.note .dispose (.error .disconnected) s).cancel, ?_, rfl, rfl⟩
    show (Session.tryCall .dispose s).bind _ = _
    rw [Session.tryCall_of_over .dispose ended]
    rfl

/-- What is asked in time is answered as the debuggee itself answers it. -/
theorem tracks {s : Session V} (going : s.cancelled = false) {q : Query} (inTime : ¬ q.TimesOut s) :
    (q.guarded s).Tracks (fun a s b s' => a = b ∧ s.machine = s'.machine ∧
      (s.cancelled = true ↔ q.Ends a)) (q.direct s) := by
  cases q with
  | call c => exact Session.tryCall_tracks going inTime
  | nextEvent =>
    refine Step.Tracks.mono (Session.nextEvent_mirrors going) ?_
    rintro a s _ _ ⟨rfl, rfl, goes⟩
    exact ⟨rfl, rfl, by simp [goes, Ends]⟩
  | dispose =>
    refine (Session.dispose_tracks going inTime).mono ?_
    rintro a s _ s' ⟨rfl, same, ended⟩
    exact ⟨rfl, same, by simp [ended, Ends]⟩

/-- Where an answer ends the session, it is over. -/
theorem ended_of_ends {q : Query} {s s' : Session V} {awake : List (Session V)} {a : q.Answer}
    (came : (q.guarded s).Comes awake a s') (ends : q.Ends a) : s'.cancelled = true := by
  cases q with
  | call c =>
    obtain rfl : a = .error .disconnected := ends
    exact Session.over_of_tryCall came
  | nextEvent => exact ends.elim
  | dispose =>
    obtain ⟨_, _, r, s₁, -, -, last⟩ := came.of_bind
    obtain ⟨-, rfl⟩ := last.of_done
    rfl

end Query

namespace Session

/-- Whatever is asked fails at once, and the debuggee learns nothing of it. -/
def Refuses (s : Session V) : Prop :=
  ∀ q : Query, ∃ s', q.guarded s = .done q.refusal s' ∧ s'.machine = s.machine

/-- What is asked in time comes to the answer of the debuggee and leaves the same debuggee behind,
if nobody ends the session meanwhile. It ends the session itself if such is the answer. -/
def Relays (s : Session V) : Prop :=
  ∀ (q : Query) (awake : List (Session V)), ¬ q.TimesOut s →
    (∀ now ∈ awake, now.cancelled = false) →
    (∀ a s', (q.guarded s).Comes awake a s' → (s'.cancelled = true ↔ q.Ends a) ∧
      ∃ s'', (q.direct s).Comes awake a s'' ∧ s''.machine = s'.machine) ∧
    ∀ a s', (q.direct s).Comes awake a s' →
      ∃ s'', (q.guarded s).Comes awake a s'' ∧ s''.machine = s'.machine

end Session

/-- Something that was asked, and the answer. -/
structure Asked where
  query : Query
  answer : query.Answer

/-- What was asked through a session one after the other while it came from a state `s` to another,
and others did what they liked. -/
inductive Dealings (s : Session V) : List Asked → Session V → Prop
  | start : Dealings s [] s
  | others {asked : List Asked} {s₁ s' : Session V} (before : Dealings s asked s₁)
      (stays : Stays s₁ s') : Dealings s asked s'
  | ask {asked : List Asked} {s₁ s' : Session V} {awake : List (Session V)} {q : Query}
      {a : q.Answer} (before : Dealings s asked s₁) (came : (q.guarded s₁).Comes awake a s') :
      Dealings s (asked ++ [⟨q, a⟩]) s'

namespace Dealings

variable {s s' : Session V} {asked : List Asked}

theorem stays (h : Dealings s asked s') : Stays s s' := by
  induction h with
  | start => exact Composes.refl s
  | others _ stays ih => exact Composes.trans ih stays
  | ask _ came ih => exact Composes.trans ih (((Query.guarded_stays _).step _).comes came)

/-- An answer that ends the session ends it for good. -/
theorem ended_of_ends (h : Dealings s asked s') {x : Asked} (mem : x ∈ asked)
    (ends : x.query.Ends x.answer) : s'.cancelled = true := by
  induction h with
  | start => cases mem
  | others _ stays ih => exact stays (ih mem)
  | ask _ came ih =>
    rcases List.mem_append.1 mem with old | new
    · exact ((Query.guarded_stays _).step _).comes came (ih old)
    · obtain rfl := List.mem_singleton.1 new
      exact Query.ended_of_ends came ends

/-- Once the session is over, or an answer has ended it, it refuses whatever is asked, no matter
what comes in between. As long as it is not over it relays what the debuggee says. -/
theorem fails_fast (h : Dealings s asked s') :
    ((s.cancelled = true ∨ ∃ x ∈ asked, x.query.Ends x.answer) → s'.Refuses) ∧
    (s'.cancelled = false → s'.Relays) := by
  refine ⟨fun ended q => ?_, fun going q awake inTime goes => ?_⟩
  · have cancelled : s'.cancelled = true := by
      rcases ended with already | ⟨x, mem, ends⟩
      · exact h.stays already
      · exact h.ended_of_ends mem ends
    obtain ⟨s'', refused, same, -⟩ := q.refused cancelled
    exact ⟨s'', refused, same⟩
  · have tracks := Query.tracks going inTime
    refine ⟨fun a s₁ came => ?_, fun a s₁ came => ?_⟩
    · obtain ⟨_, s₂, direct, rfl, same, ends⟩ := tracks.comes came goes
      exact ⟨ends, s₂, direct, same.symm⟩
    · obtain ⟨_, s₂, guarded, rfl, same, -⟩ := tracks.flip.comes came goes
      exact ⟨s₂, guarded, same⟩

/-- A debuggee that answers once and is lost then does not hear what is asked of it next. -/
theorem fails_fast_lost : ∃ (s s' : Session (Faulty Debuggee)) (version : String),
    Dealings s [⟨.call .version, .ok version⟩, ⟨.call .allThreads, .error .disconnected⟩] s' ∧
      s'.machine.record = [.version, .allThreads] ∧ s.Relays ∧ s'.Refuses := by
  let s : Session (Faulty Debuggee) := .start { machine := {} } {} {}
  let lose (s : Session (Faulty Debuggee)) : Session (Faulty Debuggee) :=
    { s with machine := { s.machine with machine := s.machine.machine.disconnect } }
  have asked := Dealings.start.ask (s := s) (q := .call .version) (.done _ _)
  have parted : Dealings s _ (lose _) := asked.others id
  have lost := parted.ask (q := .call .allThreads) (.done _ _)
  have refuses := (fails_fast lost).1 (.inr ⟨⟨.call .allThreads, _⟩, ?_, rfl⟩)
  · exact ⟨s, _, _, lost, rfl, (fails_fast .start).2 rfl, refuses⟩
  · exact List.mem_cons_of_mem _ List.mem_cons_self

end Dealings

end DebugSession
