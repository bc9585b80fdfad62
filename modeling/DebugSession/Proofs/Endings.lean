import DebugSession.Debuggee.Faults
import DebugSession.Proofs.Answering
import DebugSession.Proofs.Calls
import DebugSession.Server.Basic
/-!
The end of a session, as its client hears of it. Requests are answered while the pump waits, and
go on while other answers wait; the pump tells the client of the end in its last move, unless the
session is over already. It is over already if a call has found the debuggee gone, and then the
client is told nothing.
-/

namespace DebugSession

namespace Session

variable {V α : Type} {s s₁ s' : Session V} {E : Protocol.Event → Prop}

/-- Only such events were queued as `E` holds of, and the session is over only if it was before or
a call has found the debuggee gone. -/
def Tells (E : Protocol.Event → Prop) (s s' : Session V) : Prop :=
  ∃ xs es, Adds xs es s s' ∧ (∀ e ∈ es, E e) ∧
    (s'.cancelled = true ↔ s.cancelled = true ∨ ∃ x ∈ xs, x.IsLost)

/-- Nothing was said. -/
abbrev Mute (s s' : Session V) : Prop := Tells (fun _ => False) s s'

/-- Nothing was said of an end. -/
abbrev Speaks (s s' : Session V) : Prop := Tells (fun e => e.isEnd = false) s s'

theorem Tells.of_eq (calls : s'.calls = s.calls) (pending : s'.pending = s.pending)
    (gone : s'.cancelled = s.cancelled) : Tells E s s' :=
  ⟨[], [], ⟨by simpa using calls, by simpa using pending⟩, by simp, by simp [gone]⟩

instance : Composes (Tells E (V := V)) where
  refl _ := .of_eq rfl rfl rfl
  trans := by
    rintro s s₁ s' ⟨xs, es, added, said, gone⟩ ⟨xs', es', added', said', gone'⟩
    refine ⟨xs ++ xs', es ++ es', added.trans added', List.forall_mem_append.2 ⟨said, said'⟩, ?_⟩
    rw [gone', gone, or_assoc]
    simp only [List.mem_append, or_and_right, exists_or]

theorem tells_announce {e : Protocol.Event} (h : E e) (s : Session V) :
    Tells E s (s.announce e) :=
  ⟨[], [e], ⟨by simp [announce], rfl⟩, by simpa using h, by simp [announce]⟩

private theorem tells_note (c : Call) (r : Except RemoteError c.Reply) (s s₁ : Session V)
    (calls : s₁.calls = s.calls) (pending : s₁.pending = s.pending)
    (gone : s₁.cancelled = true ↔ s.cancelled = true ∨ (Exchange.ofReply c r).IsLost) :
    Tells E s (note c r s₁) :=
  ⟨[.ofReply c r], [], ⟨by simp [note, calls], by simp [note, pending]⟩, by simp,
    by simpa [note] using gone⟩

/-- A turn of the pump that is not the last says nothing of an end; the last one may, in its last
move. -/
def Closes : (isOver : Bool) → Session V → Session V → Prop
  | true, s, s' => ∃ s₁, Speaks s s₁ ∧ s' = terminate s₁
  | false, s, s' => Speaks s s'

private theorem closes_after (isOver : Bool) (s s₁ s' : Session V) (first : Speaks s s₁)
    (h : Closes isOver s₁ s') : Closes isOver s s' := by
  cases isOver with
  | true =>
    obtain ⟨s₂, last, rfl⟩ := h
    exact ⟨s₂, Composes.trans first last, rfl⟩
  | false => exact Composes.trans (R := Speaks) first h

/-- What is left to do when an event was dealt with, and was not the last one. -/
private theorem acted_finishes {x : Action V Unit} (h : Stirs Speaks x) (s : Session V) :
    ((do
      match ← (do x; return false : Action V Bool).run with
      | .ok isOver => return isOver
      | .error e =>
        if e.isDisconnect then
          modify terminate
          return true
        else return false : Task (Session V) Bool) s).Finishes Speaks Closes s := by
  rw [ExceptT.run_bind, bind_assoc]
  refine Step.Moves.finishes closes_after (Task.Moves.step h s) ?_
  intro r s'
  have kept : Speaks s' s' := Composes.refl s'
  cases r with
  | ok _ => exact kept
  | error e =>
    simp only [pure_bind]
    split
    · exact ⟨s', kept, rfl⟩
    · exact kept

variable [Machine V]

/-- A call that finds the debuggee gone ends the session in the move in which it is noted. -/
private theorem tryCall_tells (c : Call) : Allows (Tells E (V := V)) c := by
  have issued : Task.Moves (Tells E) (issue c : Task (Session V) _) :=
    issue_moves (fun _ => .of_eq rfl rfl rfl) fun _ => .of_eq rfl rfl rfl
  unfold Allows tryCall
  refine .get_bind ?_
  intro s
  by_cases gone : s.cancelled = true
  · rw [if_pos gone]
    exact tells_note c _ s s rfl rfl (by simp [gone])
  · rw [if_neg gone]
    unfold ask
    rw [bind_assoc]
    refine (issued.step s).bind ?_
    intro r s'
    cases r with
    | ok a => exact tells_note c _ s' s' rfl rfl (by simp [Exchange.IsLost, Exchange.ofReply])
    | error e =>
      cases e with
      | disconnected =>
        exact tells_note c _ s' s'.cancel rfl rfl
          (by simp [Exchange.IsLost, Exchange.ofReply, cancel])
      | _ => exact tells_note c _ s' s' rfl rfl (by simp [Exchange.IsLost, Exchange.ofReply])

instance : Heeds (Tells E (V := V)) where
  call := tryCall_tells
  aside same := by
    simp only [heeded, Prod.mk.injEq] at same
    obtain ⟨⟨calls, pending, gone, -⟩, -⟩ := same
    exact .of_eq calls pending gone
  started _ _ _ := .of_eq rfl rfl rfl
  died _ _ := .of_eq rfl rfl rfl

instance : Enlists (Tells E (V := V)) where
  line _ _ := .of_eq rfl rfl rfl

instance : Announces (Speaks (V := V)) where
  announce h := tells_announce (E := fun e => e.isEnd = false) h

theorem respond_mute (m : Protocol.RequestMessage)
    (stays : ∀ terminate, Request.ofMessage m ≠ .ok (.disconnect terminate)) :
    Task.Moves Mute (respond m : Task (Session V) _) :=
  respond_moves m stays fun _ _ => .of_eq rfl rfl rfl

/-! ## The pump -/

private theorem pumpEvent_finishes (e : VmEvent) (s : Session V) :
    (pumpEvent e s).Finishes Speaks Closes s := by
  cases e with
  | breakpoint request thread location => exact acted_finishes (onHit_stirs _ _ _ _) s
  | watchpoint request thread location => exact acted_finishes (onHit_stirs _ _ _ _) s
  | step request thread location => exact acted_finishes (onStep_stirs _ _ _) s
  | methodExit request thread location value =>
    exact acted_finishes (onMethodExit_stirs _ _ _ _) s
  | exception request thread location exception caught =>
    exact acted_finishes (onException_stirs _ _ _ _) s
  | threadStart thread name => exact acted_finishes (onThreadStart_stirs thread name) s
  | threadDeath thread =>
    unfold pumpEvent
    rw [handleEvent_threadDeath]
    exact acted_finishes (onThreadDeath_stirs thread) s
  | death => exact ⟨s, Composes.refl s, rfl⟩
  | disconnected => exact ⟨s, Composes.refl s, rfl⟩

theorem pump_finishes (s : Session V) : (pump s).Finishes Speaks Closes s := by
  refine Step.Moves.finishes closes_after (Task.Moves.step nextEvent_stirs s) ?_
  intro r s'
  have ended : Closes true s' (terminate s') := ⟨s', Composes.refl s', rfl⟩
  match r with
  | .ok (some e) => exact pumpEvent_finishes e s'
  | .ok none => exact ended
  | .error _ => exact ended

end Session

/-! ## Side by side -/

variable {V : Type}

/-- Where the pump stands: it is about to wait for an event, it waits, or it has stopped. -/
inductive Pumping (V : Type) where
  | idle
  | waiting (rest : Paused (Session V) Bool)
  | stopped

/-- A session, its pump, the requests that are being answered and the events that were sent. -/
structure Scene (V : Type) where
  session : Session V
  pump : Pumping V := .idle
  answers : List (Paused (Session V) Reply) := []
  sent : List Protocol.Event := []

/-- What happens next. Whoever waits goes on only if it can. -/
inductive Act (V : Type) where
  | pump
  | ask (m : Protocol.RequestMessage)
  | answer (number : Nat)
  | debuggee (v : V)
  | settings (x : Settings)
  | time (time : Nat)
  | deliver

/-- The client does not ask to disconnect. -/
def Act.Stays : Act V → Prop
  | .ask m => ∀ terminate, Request.ofMessage m ≠ .ok (.disconnect terminate)
  | _ => True

namespace Scene

/-- What the pump has queued so far, whether it was sent or not. -/
def events (d : Scene V) : List Protocol.Event := d.sent ++ d.session.pending

def hasStopped (d : Scene V) : Bool :=
  match d.pump with
  | .stopped => true
  | _ => false

def pumped (d : Scene V) : Step (Session V) Bool → Scene V
  | .done isOver session => { d with session, pump := if isOver then .stopped else .idle }
  | .wait deadline ready session resume =>
    { d with session, pump := .waiting ⟨deadline, ready, resume⟩ }

def answered (d : Scene V) : Step (Session V) Reply → Scene V
  | .done _ session => { d with session }
  | .wait deadline ready session resume =>
    { d with session, answers := d.answers ++ [⟨deadline, ready, resume⟩] }

/-- The client was told of the end of the debuggee, once and at last. -/
def Concludes (d : Scene V) : Prop :=
  ∃ es, d.events = es ++ [.exited ⟨0⟩, .terminated] ∧ ∀ e ∈ es, e.isEnd = false

/-! ## What is said -/

variable {d d' : Scene V} {E : Protocol.Event → Prop}

/-- Whoever waits goes on as it may. -/
structure Fine (d : Scene V) : Prop where
  answers : ∀ rest ∈ d.answers, ∀ now, (rest.resume now).Moves Session.Mute now
  pump : ∀ rest, d.pump = .waiting rest →
    ∀ now, (rest.resume now).Finishes Session.Speaks Session.Closes now

/-- No end was told, and the session is over exactly if a call has found the debuggee gone. -/
structure Lasts (d : Scene V) : Prop where
  silent : ∀ e ∈ d.events, e.isEnd = false
  gone : d.session.cancelled = true ↔ ∃ x ∈ d.session.calls, x.IsLost

private theorem events_of_tells (h : Session.Tells E d.session d'.session)
    (sent : d'.sent = d.sent) : ∃ es, d'.events = d.events ++ es ∧ ∀ e ∈ es, E e := by
  obtain ⟨xs, es, added, said, -⟩ := h
  refine ⟨es, ?_, said⟩
  rw [events, events, sent, added.pending, List.append_assoc]

private theorem events_of_mute (h : Session.Mute d.session d'.session) (sent : d'.sent = d.sent) :
    d'.events = d.events := by
  obtain ⟨es, same, none⟩ := events_of_tells h sent
  have empty : es = [] := List.eq_nil_iff_forall_not_mem.2 none
  rw [same, empty, List.append_nil]

private theorem Lasts.tells (h : d.Lasts) (tells : Session.Tells E d.session d'.session)
    (quiet : ∀ e, E e → e.isEnd = false) (sent : d'.sent = d.sent) : d'.Lasts := by
  constructor
  · obtain ⟨es, same, said⟩ := events_of_tells tells sent
    rw [same]
    exact List.forall_mem_append.2 ⟨h.silent, fun e he => quiet e (said e he)⟩
  · obtain ⟨xs, es, added, -, gone⟩ := tells
    rw [gone, h.gone, added.calls]
    simp only [List.mem_append, or_and_right, exists_or]

private theorem Fine.pumped (h : d.Fine) {x : Step (Session V) Bool} {s : Session V}
    (turn : x.Finishes Session.Speaks Session.Closes s) : (d.pumped x).Fine := by
  cases x with
  | done isOver session =>
    refine ⟨h.answers, ?_⟩
    intro rest waiting
    simp only [Scene.pumped] at waiting
    split at waiting <;> cases waiting
  | wait deadline ready session resume =>
    refine ⟨h.answers, ?_⟩
    rintro rest ⟨⟩
    exact turn.2

private theorem Fine.answered (h : d.Fine) {x : Step (Session V) Reply} {s : Session V}
    (turn : x.Moves Session.Mute s) : (d.answered x).Fine := by
  cases x with
  | done r session => exact ⟨h.answers, h.pump⟩
  | wait deadline ready session resume =>
    refine ⟨?_, h.pump⟩
    intro rest hr
    rcases List.mem_append.1 hr with hr | hr
    · exact h.answers rest hr
    · rw [List.mem_singleton.1 hr]
      exact turn.2.2

private theorem answered_mute {x : Step (Session V) Reply} (turn : x.Moves Session.Mute d.session) :
    Session.Mute d.session (d.answered x).session ∧ (d.answered x).sent = d.sent ∧
      (d.answered x).pump = d.pump := by
  cases x with
  | done r session => exact ⟨turn, rfl, rfl⟩
  | wait deadline ready session resume => exact ⟨turn.1, rfl, rfl⟩

/-- A turn of the pump says nothing of an end, or it is the last one. -/
private theorem pumped_cases {x : Step (Session V) Bool}
    (turn : x.Finishes Session.Speaks Session.Closes d.session) :
    (d.pumped x).sent = d.sent ∧
      ((d.pumped x).hasStopped = false ∧ Session.Speaks d.session (d.pumped x).session ∨
        (d.pumped x).hasStopped = true ∧ ∃ s₁, Session.Speaks d.session s₁ ∧
          (d.pumped x).session = Session.terminate s₁) := by
  cases x with
  | done isOver session =>
    cases isOver with
    | false => exact ⟨rfl, .inl ⟨rfl, turn⟩⟩
    | true => exact ⟨rfl, .inr ⟨rfl, turn⟩⟩
  | wait deadline ready session resume => exact ⟨rfl, .inl ⟨rfl, turn.1⟩⟩

/-- The pump stands where it stood and has said nothing. -/
structure Aside (d d' : Scene V) : Prop where
  pump : d'.pump = d.pump
  events : d'.events = d.events
  lasts : d.Lasts → d'.Lasts

private theorem Aside.of_mute (mute : Session.Mute d.session d'.session) (sent : d'.sent = d.sent)
    (pump : d'.pump = d.pump) : Aside d d' :=
  ⟨pump, events_of_mute mute sent, fun h => h.tells mute (fun _ none => none.elim) sent⟩

theorem Lasts.not_concludes (h : d.Lasts) : ¬ d.Concludes := by
  rintro ⟨es, same, -⟩
  have told : Protocol.Event.terminated ∈ d.events := by simp [same]
  exact absurd (h.silent _ told) (by simp [Protocol.Event.isEnd])

/-- The last turn of the pump tells of the end, unless the session is over already. -/
private theorem concludes_terminate {s₁ : Session V}
    (lasts : ({ d with session := s₁ } : Scene V).Lasts)
    (session : d'.session = Session.terminate s₁) (sent : d'.sent = d.sent) :
    d'.Concludes ↔ ∀ x ∈ d'.session.calls, ¬ x.IsLost := by
  by_cases gone : s₁.cancelled = true
  · have same : d'.session = s₁ := by rw [session, Session.terminate, if_pos gone]
    obtain ⟨x, hx, lost⟩ := lasts.gone.1 gone
    have still : d'.Lasts := by
      constructor
      · rw [events, same, sent]
        exact lasts.silent
      · rw [same]
        exact lasts.gone
    constructor
    · exact fun concludes => absurd concludes still.not_concludes
    · intro none
      exact absurd lost (none x (same ▸ hx))
  · have same : d'.session =
        ((s₁.announce (.exited ⟨0⟩)).announce .terminated).cancel := by
      rw [session, Session.terminate, if_neg gone]
    have told : d'.events = (d.sent ++ s₁.pending) ++ [.exited ⟨0⟩, .terminated] := by
      rw [events, same, sent]
      simp [Session.announce, Session.cancel]
    constructor
    · intro _ x hx lost
      rw [same] at hx
      exact gone (lasts.gone.2 ⟨x, hx, lost⟩)
    · exact fun _ => ⟨_, told, lasts.silent⟩

def start (machine : V) (settings : Settings) (providers : Providers) : Scene V :=
  { session := .start machine settings providers }

theorem fine_start (machine : V) (settings : Settings) (providers : Providers) :
    (start machine settings providers).Fine ∧ (start machine settings providers).Lasts := by
  constructor
  · exact ⟨by simp [start], by simp [start]⟩
  · exact ⟨by simp [start, events, Session.start], by simp [start, Session.start]⟩

/-! ## What one act does -/

variable [Machine V]

def after (d : Scene V) : Act V → Scene V
  | .pump =>
    match d.pump with
    | .idle => d.pumped (Session.pump d.session)
    | .waiting rest => if rest.ready d.session then d.pumped (rest.resume d.session) else d
    | .stopped => d
  | .ask m => d.answered (Session.respond m d.session)
  | .answer number =>
    match d.answers[number]? with
    | none => d
    | some rest =>
      if rest.ready d.session then
        { d with answers := d.answers.eraseIdx number }.answered (rest.resume d.session)
      else d
  | .debuggee machine => { d with session := { d.session with machine } }
  | .settings x =>
    match d.session.update x with
    | .ok (_, session) => { d with session }
    | .error _ => d
  | .time time => { d with session := d.session.advance time }
  | .deliver =>
    { d with session := { d.session with pending := [] }, sent := d.events }

theorem Fine.after (h : d.Fine) {a : Act V} (stays : a.Stays) : (d.after a).Fine := by
  cases a with
  | pump =>
    simp only [Scene.after]
    split
    · exact h.pumped (Session.pump_finishes d.session)
    · rename_i rest waiting
      split
      · exact h.pumped (h.pump rest waiting d.session)
      · exact h
    · exact h
  | ask m => exact h.answered ((Session.respond_mute m stays).step d.session)
  | answer number =>
    simp only [Scene.after]
    split
    · exact h
    · rename_i rest found
      split
      · have fewer : ({ d with answers := d.answers.eraseIdx number } : Scene V).Fine :=
          ⟨fun rest' hr => h.answers rest' (List.mem_of_mem_eraseIdx hr), h.pump⟩
        exact fewer.answered (h.answers rest (List.mem_of_getElem? found) d.session)
      · exact h
  | debuggee v => exact ⟨h.answers, h.pump⟩
  | settings x =>
    simp only [Scene.after]
    split
    · exact ⟨h.answers, h.pump⟩
    · exact h
  | time time => exact ⟨h.answers, h.pump⟩
  | deliver => exact ⟨h.answers, h.pump⟩

/-- Only the pump itself can go on to say something. -/
theorem Fine.aside (h : d.Fine) {a : Act V} (stays : a.Stays) (other : a ≠ .pump) :
    Aside d (d.after a) := by
  have same : Aside d d := ⟨rfl, rfl, id⟩
  cases a with
  | pump => exact absurd rfl other
  | ask m =>
    obtain ⟨mute, sent, pump⟩ := answered_mute ((Session.respond_mute m stays).step d.session)
    exact .of_mute mute sent pump
  | answer number =>
    simp only [Scene.after]
    split
    · exact same
    · rename_i rest found
      split
      · have moves := h.answers rest (List.mem_of_getElem? found) d.session
        obtain ⟨mute, sent, pump⟩ :=
          answered_mute (d := { d with answers := d.answers.eraseIdx number }) moves
        exact .of_mute mute sent pump
      · exact same
  | debuggee v => exact .of_mute (.of_eq rfl rfl rfl) rfl rfl
  | settings x =>
    simp only [Scene.after]
    split
    · rename_i changed s' updated
      obtain ⟨callMode, threads, rfl⟩ := Session.update_eq updated
      exact .of_mute (.of_eq rfl rfl rfl) rfl rfl
    · exact same
  | time time => exact .of_mute (.of_eq rfl rfl rfl) rfl rfl
  | deliver =>
    have events : (d.after .deliver).events = d.events := List.append_nil _
    exact ⟨rfl, events, fun lasts => ⟨events ▸ lasts.silent, lasts.gone⟩⟩

/-- A turn of the pump is not the last one, or it tells of the end as it should. -/
theorem Fine.pump_cases (h : d.Fine) (going : d.hasStopped = false) (lasts : d.Lasts) :
    (d.after .pump).hasStopped = false ∧ (d.after .pump).Lasts ∨
      (d.after .pump).hasStopped = true ∧
        ((d.after .pump).Concludes ↔ ∀ x ∈ (d.after .pump).session.calls, ¬ x.IsLost) := by
  have turned : ∀ x : Step (Session V) Bool,
      x.Finishes Session.Speaks Session.Closes d.session →
      (d.pumped x).hasStopped = false ∧ (d.pumped x).Lasts ∨
        (d.pumped x).hasStopped = true ∧
          ((d.pumped x).Concludes ↔ ∀ y ∈ (d.pumped x).session.calls, ¬ y.IsLost) := by
    intro x turn
    obtain ⟨sent, ⟨goes, speaks⟩ | ⟨stops, s₁, speaks, session⟩⟩ := pumped_cases turn
    · exact .inl ⟨goes, lasts.tells speaks (fun _ => id) sent⟩
    · have still : ({ d with session := s₁ } : Scene V).Lasts :=
        lasts.tells speaks (fun _ => id) rfl
      exact .inr ⟨stops, concludes_terminate still session sent⟩
  simp only [Scene.after]
  split
  · exact turned _ (Session.pump_finishes d.session)
  · rename_i rest waiting
    split
    · exact turned _ (h.pump rest waiting d.session)
    · exact .inl ⟨going, lasts⟩
  · rename_i stopped
    simp [hasStopped, stopped] at going

/-! ## Runs -/

/-- The scene after some acts, one after the other. -/
def run (d : Scene V) (acts : List (Act V)) : Scene V := acts.foldl Scene.after d

theorem run_append (d : Scene V) (acts acts' : List (Act V)) :
    d.run (acts ++ acts') = (d.run acts).run acts' := List.foldl_append

private theorem fine_run (h : d.Fine) (acts : List (Act V))
    (stays : ∀ a ∈ acts, a.Stays) : (d.run acts).Fine := by
  induction acts generalizing d with
  | nil => exact h
  | cons a rest ih =>
    obtain ⟨first, others⟩ := List.forall_mem_cons.1 stays
    exact ih (h.after first) others

/-- Once the pump has stopped, nothing more is said. -/
theorem Fine.stopped (h : d.Fine) {a : Act V} (stays : a.Stays) (stopped : d.hasStopped = true) :
    (d.after a).hasStopped = true ∧ (d.after a).events = d.events := by
  by_cases turn : a = .pump
  · subst turn
    have same : d.after .pump = d := by
      simp only [hasStopped] at stopped
      simp only [Scene.after]
      split <;> simp_all
    rw [same]
    exact ⟨stopped, rfl⟩
  · have aside := h.aside stays turn
    refine ⟨?_, aside.events⟩
    rw [hasStopped, aside.pump]
    exact stopped

private theorem stopped_run (h : d.Fine) (stopped : d.hasStopped = true) (acts : List (Act V))
    (stays : ∀ a ∈ acts, a.Stays) :
    (d.run acts).hasStopped = true ∧ (d.run acts).events = d.events := by
  induction acts generalizing d with
  | nil => exact ⟨stopped, rfl⟩
  | cons a rest ih =>
    obtain ⟨first, others⟩ := List.forall_mem_cons.1 stays
    obtain ⟨still, same⟩ := h.stopped first stopped
    obtain ⟨last, said⟩ := ih (h.after first) still others
    exact ⟨last, said.trans same⟩

/-- While the pump has not stopped, nobody has told of an end. -/
private theorem lasts_run (h : d.Fine) (lasts : d.Lasts) (acts : List (Act V))
    (stays : ∀ a ∈ acts, a.Stays) (going : (d.run acts).hasStopped = false) :
    (d.run acts).Lasts := by
  induction acts generalizing d with
  | nil => exact lasts
  | cons a rest ih =>
    obtain ⟨first, others⟩ := List.forall_mem_cons.1 stays
    have fine := h.after first
    -- A pump that has stopped does not go on, so that it goes on after each act.
    have goes : (d.after a).hasStopped = false := by
      by_contra stopped
      have last := (stopped_run fine (by simpa using stopped) rest others).1
      have going : ((d.after a).run rest).hasStopped = false := going
      rw [last] at going
      cases going
    by_cases turn : a = .pump
    · subst turn
      have before : d.hasStopped = false := by
        by_contra stopped
        have still := (h.stopped first (by simpa using stopped)).1
        rw [goes] at still
        cases still
      rcases h.pump_cases before lasts with ⟨-, still⟩ | ⟨stops, -⟩
      · exact ih fine still others going
      · rw [goes] at stops
        cases stops
    · exact ih fine ((h.aside first turn).lasts lasts) others going

/-- When the pump stops, the client was told of the end, once and at last, and hears nothing more,
if and only if no call had found the debuggee gone until then. -/
theorem concludes_iff (machine : V) (settings : Settings) (providers : Providers)
    (before after : List (Act V)) (a : Act V) (stays : ∀ b ∈ before ++ a :: after, b.Stays)
    (going : ((start machine settings providers).run before).hasStopped = false)
    (stops : ((start machine settings providers).run (before ++ [a])).hasStopped = true) :
    ((start machine settings providers).run (before ++ a :: after)).Concludes ↔
      ∀ x ∈ ((start machine settings providers).run (before ++ [a])).session.calls,
        ¬ x.IsLost := by
  obtain ⟨fine, lasts⟩ := fine_start machine settings providers
  obtain ⟨early, late⟩ := List.forall_mem_append.1 stays
  obtain ⟨now, later⟩ := List.forall_mem_cons.1 late
  have here := fine_run fine before early
  have open_yet := lasts_run fine lasts before early going
  have split_run : (start machine settings providers).run (before ++ a :: after) =
      ((start machine settings providers).run (before ++ [a])).run after := by
    rw [← run_append, List.append_assoc]
    rfl
  have last : (start machine settings providers).run (before ++ [a]) =
      ((start machine settings providers).run before).after a := by
    rw [run_append]
    rfl
  have still := stopped_run (last ▸ here.after now) stops after later
  have same : ((start machine settings providers).run (before ++ a :: after)).Concludes ↔
      ((start machine settings providers).run (before ++ [a])).Concludes := by
    rw [Concludes, Concludes, split_run, still.2]
  rw [same, last]
  rw [last] at stops
  -- Only a turn of the pump itself can have been the act at which it stopped.
  by_cases turn : a = .pump
  · subst turn
    rcases here.pump_cases going open_yet with ⟨goes, -⟩ | ⟨-, told⟩
    · rw [goes] at stops
      cases stops
    · exact told
  · have aside := here.aside now turn
    rw [hasStopped, aside.pump] at stops
    rw [hasStopped] at going
    rw [going] at stops
    cases stops

/-! ## Two ends -/

/-- A debuggee that reports its end. -/
def ending : Debuggee := ({} : Debuggee).pushEvent .death

theorem concludes_of_death :
    ((start ending {} {}).run [.pump]).hasStopped = true ∧
      ((start ending {} {}).run [.pump, .deliver]).Concludes := by
  have stops : ((start ending {} {}).run [.pump]).hasStopped = true := by decide +kernel
  refine ⟨stops, ?_⟩
  refine (concludes_iff ending {} {} [] [.deliver] .pump ?_ rfl stops).2 (by decide +kernel)
  simp [Act.Stays]

/-- A debuggee that is lost when the thread of a step is let run. -/
def losing : Faulty Debuggee :=
  { machine := ({} : Debuggee).pushEvent
      (.step 9 1 { className := "A", methodName := "m", line := 5 })
    plan := [⟨.resume, 0, 1, .disconnected⟩] }

/-- The client is not told of the loss. -/
theorem lost_without_conclusion :
    (∀ a ∈ [(.pump : Act (Faulty Debuggee)), .deliver], a.Stays) ∧
      ((start losing {} {}).run [.pump]).hasStopped = true ∧
      ((start losing {} {}).run [.pump, .deliver]).events = [] ∧
      ¬ ((start losing {} {}).run [.pump, .deliver]).Concludes := by
  have silent : ((start losing {} {}).run [.pump, .deliver]).events = [] :=
    List.eq_nil_of_length_eq_zero (by decide +kernel)
  refine ⟨by simp [Act.Stays], by decide +kernel, silent, ?_⟩
  rintro ⟨es, same, -⟩
  rw [silent] at same
  simp at same

end Scene
end DebugSession
