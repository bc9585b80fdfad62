import DebugSession.Proofs.Timely
import DebugSession.Server.Basic
/-!
The turns of the tasks of a server. A task is known by its role: there is one reader, a pump for
each audience, and one task for each evaluation. What a turn does is said up to the order in which
the tasks stand.
-/

namespace DebugSession

open Protocol

variable {V α : Type}

/-- Whose turn it is. -/
inductive Role where
  | reader
  | pump (who : Audience)
  | evaluation (number : Nat)
  deriving DecidableEq, Repr

def Asker.role : Asker → Role
  | .reader => .reader
  | .evaluation number => .evaluation number

def Work.role : Work V → Role
  | .pump who | .pumping who _ => .pump who
  | .read | .closing _ | .join => .reader
  | .evaluate _ number => .evaluation number
  | .answer _ asker | .answering asker _ | .send _ asker => asker.role

namespace Server

/-- All tasks, whether they wait or not. -/
def tasks (s : Server V) : List (Work V) := s.queue ++ s.waiting

/-- There are new tasks, and whoever was in the queue still is. -/
structure Became (s s' : Server V) (new : List (Work V)) : Prop where
  tasks : s'.tasks.Perm (new ++ s.tasks)
  queue : ∀ w ∈ s.queue, w ∈ s'.queue

variable {s s₁ s' : Server V} {new new' : List (Work V)} {w : Work V}

theorem Became.of_eq (queue : s'.queue = s.queue) (waiting : s'.waiting = s.waiting) :
    Became s s' [] := by
  constructor
  · rw [Server.tasks, Server.tasks, queue, waiting]
    exact .refl _
  · rw [queue]
    exact fun _ => id

theorem Became.trans (h : Became s s₁ new) (h' : Became s₁ s' new') :
    Became s s' (new' ++ new) := by
  constructor
  · rw [List.append_assoc]
    exact h'.tasks.trans (h.tasks.append_left new')
  · exact fun w mem => h'.queue w (h.queue w mem)

theorem mem_tasks_of_queue (h : w ∈ s.queue) : w ∈ s.tasks := List.mem_append_left _ h

/-! ## Tasks come and go -/

theorem spawn_became : Became s (s.spawn w) [w] := by
  constructor
  · show ((s.queue ++ [w]) ++ s.waiting).Perm (w :: (s.queue ++ s.waiting))
    rw [List.append_assoc]
    exact List.perm_middle
  · exact fun _ mem => List.mem_append_left _ mem

@[simp] theorem spawn_session : (s.spawn w).session = s.session := rfl

@[simp] theorem spawn_connection : (s.spawn w).connection = s.connection := rfl

@[simp] theorem spawn_evaluations : (s.spawn w).evaluations = s.evaluations := rfl

theorem wake_became : Became s s.wake [] := by
  constructor
  · have sorted := List.mergeSort_perm (s.waiting.filter s.isReady) fun v w => s.place v ≤ s.place w
    have parts := List.filter_append_perm s.isReady s.waiting
    show ((s.queue ++ _) ++ _).Perm (s.queue ++ s.waiting)
    rw [List.append_assoc]
    exact ((sorted.append_right _).trans parts).append_left _
  · exact fun _ mem => List.mem_append_left _ mem

/-- Who can go on is in the queue after that. -/
theorem wake_queue (h : w ∈ s.tasks) (ready : s.isReady w = true) : w ∈ s.wake.queue := by
  rcases List.mem_append.1 h with queued | waits
  · exact wake_became.queue w queued
  · refine List.mem_append_right _ (List.mem_mergeSort.2 ?_)
    exact List.mem_filter.2 ⟨waits, ready⟩

@[simp] theorem wake_session : s.wake.session = s.session := rfl

@[simp] theorem wake_connection : s.wake.connection = s.connection := rfl

@[simp] theorem wake_evaluations : s.wake.evaluations = s.evaluations := rfl

theorem proceed_became : Became s (s.proceed w) [w] := by
  have woken := wake_became (s := s)
  unfold proceed
  dsimp only
  split
  · have front : Became s.wake { s.wake with queue := w :: s.wake.queue } [w] :=
      ⟨.refl _, fun _ mem => List.mem_cons_of_mem _ mem⟩
    exact woken.trans front
  · have last : Became s.wake { s.wake with waiting := s.wake.waiting ++ [w] } [w] := by
      constructor
      · show (s.wake.queue ++ (s.wake.waiting ++ [w])).Perm (w :: (s.wake.queue ++ s.wake.waiting))
        rw [← List.append_assoc]
        exact List.perm_append_singleton ..
      · exact fun _ => id
    exact woken.trans last

@[simp] theorem proceed_session : (s.proceed w).session = s.session := by
  unfold proceed
  dsimp only
  split <;> rfl

@[simp] theorem proceed_connection : (s.proceed w).connection = s.connection := by
  unfold proceed
  dsimp only
  split <;> rfl

@[simp] theorem proceed_evaluations : (s.proceed w).evaluations = s.evaluations := by
  unfold proceed
  dsimp only
  split <;> rfl

end Server

/-! ## Messages to the client -/

namespace Connection

/-- Messages with their numbers, the first one of which is 1. -/
def numbered (os : List Outgoing) : List Json := os.mapIdx fun i o => o.toJson (Int64.ofNat (i + 1))

def posts (c : Connection) (os : List Outgoing) : Connection := os.foldl post c

theorem posts_eq {c : Connection} {said : List Outgoing} (hears : c.deaf = false)
    (output : c.output = numbered said) (os : List Outgoing) :
    c.posts os = { c with output := numbered (said ++ os) } := by
  induction os generalizing c said with
  | nil =>
    rw [List.append_nil, ← output]
    rfl
  | cons o rest ih =>
    have first : c.post o = { c with output := numbered (said ++ [o]) } := by
      have count : c.output.length = said.length := by rw [output, numbered, List.length_mapIdx]
      unfold post
      rw [hears, count, output]
      simp [numbered, List.mapIdx_append]
    have others := @ih { c with output := numbered (said ++ [o]) } (said ++ [o]) hears rfl
    show (c.post o).posts rest = _
    rw [first, others, List.append_assoc]
    rfl

theorem posts_input (c : Connection) (os : List Outgoing) : (c.posts os).input = c.input := by
  induction os generalizing c with
  | nil => rfl
  | cons o rest ih =>
    have first : (c.post o).input = c.input := by
      unfold post
      split <;> rfl
    exact (ih (c.post o)).trans first

end Connection

/-! ## What comes of a turn -/

/-- What a turn comes to, whatever the order of the tasks: those that take the place of the one
whose turn it was, the session, what the client is sent or is noted of it, and how many evaluations
were begun. -/
structure Outcome (V : Type) where
  next : List (Work V)
  session : Session V
  client : Connection → Connection := id
  begun : Nat := 0

namespace Outcome

/-- A computation goes on later, or it has come to an end and there are other tasks. -/
def carry (pause : Paused (Session V) α → Work V) (next : α → List (Work V)) :
    Step (Session V) α → Outcome V
  | .wait deadline ready session resume => { next := [pause ⟨deadline, ready, resume⟩], session }
  | .done a session => { next := next a, session }

def ofEvent : Step (Session V) Bool → Outcome V :=
  carry (.pumping .client) fun isOver => if isOver then [] else [.pump .client]

/-- The client is told of the events that are there. -/
def ofPump (x : Step (Session V) Bool) : Outcome V :=
  { ofEvent x with
    session := { (ofEvent x).session with pending := [] }
    client := fun c => c.posts ((ofEvent x).session.pending.map Outgoing.event) }

def ofAnswer (asker : Asker) : Step (Session V) Reply → Outcome V :=
  carry (.answering asker) fun r => [.send r asker]

def ofClosing : Step (Session V) Unit → Outcome V := carry .closing fun _ => [.join]

theorem ofAnswer_client (asker : Asker) (x : Step (Session V) Reply) :
    (ofAnswer asker x).client = id := by
  cases x <;> rfl

theorem ofAnswer_roles (asker : Asker) (x : Step (Session V) Reply) :
    (ofAnswer asker x).next.map Work.role = [asker.role] ∧ (ofAnswer asker x).begun = 0 := by
  cases x <;> exact ⟨rfl, rfl⟩

theorem ofClosing_client (x : Step (Session V) Unit) : (ofClosing x).client = id := by
  cases x <;> rfl

theorem ofClosing_roles (x : Step (Session V) Unit) :
    (ofClosing x).next.map Work.role = [.reader] ∧ (ofClosing x).begun = 0 := by
  cases x <;> exact ⟨rfl, rfl⟩

/-- What comes of a text that was read, after `number` evaluations. -/
def ofText (number : Nat) (session : Session V) (text : String) : Outcome V :=
  match Server.request? text with
  | none => { next := [.read], session }
  | some m =>
    if m.command = "evaluate" then { next := [.read, .evaluate m number], session, begun := 1 }
    else { next := [.answer m .reader], session }

theorem ofText_reader (number : Nat) (session : Session V) (text : String) :
    ∃ v ∈ (ofText number session text).next, v.role = .reader := by
  unfold ofText
  split
  · exact ⟨.read, List.mem_cons_self, rfl⟩
  · rename_i m _
    split
    · exact ⟨.read, List.mem_cons_self, rfl⟩
    · exact ⟨.answer m .reader, List.mem_cons_self, rfl⟩

end Outcome

/-- A way to answer messages. In doing so it may ask for all but the events, and for nothing where
an evaluation is wanted, and it waits for calls only, or as an evaluation until the session is
over. -/
structure Handler (V : Type) [Machine V] where
  handle : RequestMessage → Attempt V Result
  punctual : ∀ m, Punctual Session.forRequests (fun _ => True) (handle m)
  evaluates : ∀ m, m.command = "evaluate" →
    Punctual (fun _ => false) (fun s => s.cancelled = true) (handle m)

section

variable [Machine V]

namespace Handler

/-- How a session answers messages. -/
def ofSession : Handler V where
  handle := Session.handle
  punctual := Session.handle_punctual
  evaluates _ evaluation := .of_stirs (Session.handle_discreet evaluation)

def respond (h : Handler V) (m : RequestMessage) : Task (Session V) Reply := do
  return Session.reply m (← (h.handle m).run)

end Handler

namespace Server

variable {s s' : Server V} {h : Handler V}

/-- A turn of a task where messages are answered in a given way. -/
def turnWith (h : Handler V) (s : Server V) : Work V → Server V
  | .answer m asker => s.afterAnswer asker (h.respond m s.session)
  | w => s.turn w

theorem turnWith_ofSession (s : Server V) (w : Work V) : s.turnWith .ofSession w = s.turn w := by
  cases w <;> rfl

def reading (s : Server V) : Framing.Reading :=
  (s.connection.map Connection.reading).getD .incomplete

/-- What comes of the reading of a message. -/
def readOutcome (s : Server V) : Outcome V :=
  match s.reading with
  | .message text rest =>
    let o := Outcome.ofText s.evaluations s.session text
    { o with client := fun c => { c with input := rest } }
  | .failed e => stopped (some e)
  | .ended => stopped none
  | .incomplete => { next := [.read], session := s.session }
where
  /-- What comes of it when no more is read. -/
  stopped (error : Option SessionError) : Outcome V :=
    let o : Outcome V :=
      if s.session.cancelled then { next := [.join], session := s.session }
      else .ofClosing (Session.disconnect false s.session)
    { o with client := fun c => { c with error } }

/-- What comes of a turn of a task that serves the client. -/
def outcome (h : Handler V) (s : Server V) : Work V → Outcome V
  | .pump _ => .ofPump (Session.pump s.session)
  | .pumping _ rest => .ofPump (rest.resume s.session)
  | .read => s.readOutcome
  | .evaluate m number => { next := [.answer m (.evaluation number)], session := s.session }
  | .answer m asker => .ofAnswer asker (h.respond m s.session)
  | .answering asker rest => .ofAnswer asker (rest.resume s.session)
  | .send r asker =>
    { next := match asker with
        | .reader => [.read]
        | .evaluation _ => []
      session := s.session
      client := fun c => c.posts (.response r.response :: r.events.map .event) }
  | .closing rest => .ofClosing (rest.resume s.session)
  | .join => { next := [], session := s.session, client := fun c => { c with finished := true } }

/-- The outcome is what has become of a server. -/
structure Shows (s s' : Server V) (o : Outcome V) : Prop where
  became : Became s s' o.next
  session : s'.session = o.session
  connection : s'.connection = s.connection.map o.client
  evaluations : s'.evaluations = s.evaluations + o.begun

omit [Machine V] in
theorem posted (os : List Outgoing) :
    os.foldl post s = s.modifyConnection fun c => c.posts os := by
  induction os generalizing s with
  | nil =>
    have same : (fun c : Connection => c.posts []) = id := rfl
    unfold modifyConnection
    rw [same, Option.map_id]
    rfl
  | cons o rest ih =>
    rw [List.foldl_cons, ih]
    unfold post modifyConnection
    rw [Option.map_map]
    rfl

omit [Machine V] in
theorem deliver_client : s.deliver .client =
    { s with
      session := { s.session with pending := [] }
      connection := s.connection.map fun c => c.posts (s.session.pending.map Outgoing.event) } := by
  unfold deliver
  dsimp only
  rw [posted]
  rfl

omit [Machine V] in
/-- A task that goes on in a changed session. -/
private theorem shows_proceed (session : Session V) (w : Work V) :
    Shows s (proceed { s with session } w) { next := [w], session } := by
  have changed : Became s { s with session } [] := .of_eq rfl rfl
  exact ⟨changed.trans proceed_became, by simp, by simp, by simp⟩

omit [Machine V] in
private theorem shows_pump (x : Step (Session V) Bool) :
    Shows s (s.afterEvent .client x) (.ofPump x) := by
  have told : ∀ session : Session V, Became s (deliver .client { s with session }) [] := by
    intro session
    rw [deliver_client]
    exact .of_eq rfl rfl
  cases x with
  | wait deadline ready session resume =>
    refine ⟨(told session).trans proceed_became, ?_, ?_, ?_⟩ <;>
      simp [afterEvent, deliver_client, Outcome.ofPump, Outcome.ofEvent, Outcome.carry]
  | done isOver session =>
    cases isOver with
    | true =>
      refine ⟨(told session).trans wake_became, ?_, ?_, ?_⟩ <;>
        simp [afterEvent, deliver_client, Outcome.ofPump, Outcome.ofEvent, Outcome.carry]
    | false =>
      have next := (told session).trans (proceed_became (w := .pump .client))
      refine ⟨next, ?_, ?_, ?_⟩ <;>
        simp [afterEvent, deliver_client, Outcome.ofPump, Outcome.ofEvent, Outcome.carry]

omit [Machine V] in
private theorem shows_answer (asker : Asker) (x : Step (Session V) Reply) :
    Shows s (s.afterAnswer asker x) (.ofAnswer asker x) := by
  cases x with
  | wait deadline ready session resume => exact shows_proceed session _
  | done r session =>
    have changed : Became s { s with session } [] := .of_eq rfl rfl
    exact ⟨(changed.trans wake_became).trans spawn_became, rfl,
      by simp [afterAnswer, Outcome.ofAnswer, Outcome.carry], rfl⟩

omit [Machine V] in
private theorem shows_closing (x : Step (Session V) Unit) :
    Shows s (s.afterClosing x) (.ofClosing x) := by
  cases x with
  | wait deadline ready session resume => exact shows_proceed session _
  | done _ session => exact shows_proceed session _

omit [Machine V] in
/-- What is noted of the client first stays. -/
private theorem Shows.noted {o : Outcome V} {f : Connection → Connection}
    (shows : Shows (s.modifyConnection f) s' o) (plain : o.client = id) :
    Shows s s' { o with client := f } := by
  have noted : Became s (s.modifyConnection f) [] := .of_eq rfl rfl
  refine ⟨?_, shows.session, ?_, shows.evaluations⟩
  · have next := noted.trans shows.became
    rwa [List.append_nil] at next
  · rw [shows.connection, plain, Option.map_id]
    rfl

omit [Machine V] in
private theorem shows_text (text : String) :
    Shows s (s.takeMessage text) (.ofText s.evaluations s.session text) := by
  unfold takeMessage Outcome.ofText
  cases request? text with
  | none => exact shows_proceed s.session .read
  | some m =>
    by_cases evaluation : m.command = "evaluate"
    · simp only [if_pos evaluation]
      have begun : Became s { s with evaluations := s.evaluations + 1 } [] := .of_eq rfl rfl
      exact ⟨(begun.trans spawn_became).trans proceed_became, by simp, by simp, by simp⟩
    · simp only [if_neg evaluation]
      exact ⟨spawn_became, rfl, by simp, rfl⟩

private theorem shows_stop (error : Option SessionError) :
    Shows s (s.stopReading error) (readOutcome.stopped s error) := by
  unfold stopReading readOutcome.stopped
  dsimp only
  by_cases past : s.session.cancelled = true
  · have past' : (s.modifyConnection fun c => { c with error }).session.cancelled = true := past
    rw [if_pos past, if_pos past']
    exact (shows_proceed s.session .join).noted rfl
  · have past' : ¬ (s.modifyConnection fun c => { c with error }).session.cancelled = true := past
    rw [if_neg past, if_neg past']
    exact (shows_closing _).noted (Outcome.ofClosing_client _)

private theorem shows_read (connected : s.connection.isSome = true) :
    Shows s s.turnRead s.readOutcome := by
  unfold turnRead readOutcome reading
  obtain ⟨c, here⟩ := Option.isSome_iff_exists.1 connected
  rw [here]
  dsimp only [Option.map_some, Option.getD_some]
  cases c.reading with
  | message text rest =>
    refine (shows_text text).noted ?_
    unfold Outcome.ofText
    split
    · rfl
    · split <;> rfl
  | failed e => exact shows_stop (some e)
  | ended => exact shows_stop none
  | incomplete => exact shows_proceed s.session .read

private theorem shows_send (r : Reply) (asker : Asker) :
    Shows s (s.turnSend r asker) (s.outcome h (.send r asker)) := by
  have sent : (r.events.map Outgoing.event).foldl post (s.post (.response r.response)) =
      s.modifyConnection fun c => c.posts (.response r.response :: r.events.map Outgoing.event) :=
    posted (.response r.response :: r.events.map Outgoing.event)
  have noted : Became s (s.modifyConnection fun c =>
      c.posts (.response r.response :: r.events.map Outgoing.event)) [] := .of_eq rfl rfl
  unfold turnSend
  rw [sent]
  cases asker with
  | reader =>
    refine ⟨noted.trans proceed_became, ?_, ?_, ?_⟩ <;> simp [outcome, modifyConnection]
  | evaluation number => exact ⟨noted.trans wake_became, rfl, rfl, rfl⟩

/-- What becomes of a server by the turn of a task that serves its client. -/
theorem shows_turn {w : Work V} (connected : s.connection.isSome = true)
    (serves : ∀ who, w.role = .pump who → who = .client) :
    Shows s (s.turnWith h w) (s.outcome h w) := by
  cases w with
  | pump who =>
    obtain rfl := serves who rfl
    exact shows_pump _
  | pumping who rest =>
    obtain rfl := serves who rfl
    exact shows_pump _
  | read => exact shows_read connected
  | evaluate m number => exact ⟨spawn_became, rfl, by simp [turnWith, turn, outcome], rfl⟩
  | answer m asker => exact shows_answer asker _
  | answering asker rest => exact shows_answer asker _
  | send r asker => exact shows_send r asker
  | closing rest => exact shows_closing _
  | join => exact ⟨.of_eq rfl rfl, rfl, rfl, rfl⟩

end Server

end

end DebugSession
