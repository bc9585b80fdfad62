import DebugSession.Framing
import DebugSession.Server.Handler
import DebugSession.Server.Pump
/-!
A server for a client, around a session. Its tasks take turns: the reader takes messages from the
client in order and has each answered before it takes the next, except that evaluations are answered
on the side; a pump deals with the events of the debuggee. A task that has to wait gives up its
turn. Time passes only when all tasks wait.
-/

namespace DebugSession

open Protocol

/-- What is left of a computation that waits. -/
structure Paused (σ α : Type) where
  deadline : Option Nat
  ready : σ → Bool
  resume : σ → Step σ α

/-- Who hears of the events of the debuggee. -/
inductive Audience where
  | observer
  | client
  deriving DecidableEq, Repr

/-- Who has a message answered: the reader, which then takes the next one, or a task for this one
evaluation, of which there were `number` before. -/
inductive Asker where
  | reader
  | evaluation (number : Nat)
  deriving DecidableEq, Repr

/-- What a task has to do in its next turn. -/
inductive Work (V : Type) where
  /-- Takes the next event. -/
  | pump (who : Audience)
  /-- Goes on with the next event. -/
  | pumping (who : Audience) (rest : Paused (Session V) Bool)
  /-- Takes a message from the client. -/
  | read
  /-- Has an evaluation answered. -/
  | evaluate (m : RequestMessage) (number : Nat)
  /-- Answers a message. -/
  | answer (m : RequestMessage) (asker : Asker)
  /-- Goes on with an answer. -/
  | answering (asker : Asker) (rest : Paused (Session V) Reply)
  /-- Sends a reply. -/
  | send (r : Reply) (asker : Asker)
  /-- Goes on ending the session of a client that has left. -/
  | closing (rest : Paused (Session V) Unit)
  /-- Waits for the other tasks for the client to end. -/
  | join

structure Connection where
  /-- The bytes from the client that are not read yet. -/
  input : Framing.Bytes := []
  /-- The client sends nothing more. -/
  ended : Bool := false
  /-- The client reads nothing more. -/
  deaf : Bool := false
  /-- What was sent to the client, in order. -/
  output : List Json := []
  /-- Why no more messages are read, if that is an error. -/
  error : Option SessionError := none
  /-- All tasks for the client have ended. -/
  finished : Bool := false

structure Server (V : Type) where
  session : Session V
  /-- The tasks whose turn it will be, in order. -/
  queue : List (Work V) := []
  /-- The tasks that wait, the longest waiting first. -/
  waiting : List (Work V) := []
  /-- How many evaluations there have been on the side. -/
  evaluations : Nat := 0
  connection : Option Connection := none
  /-- Events that went to no client. -/
  observed : List Event := []

namespace Connection

/-- Sends a message, with the next number. -/
def post (c : Connection) (o : Outgoing) : Connection :=
  if c.deaf then c
  else { c with output := c.output ++ [o.toJson (Int64.ofNat (c.output.length + 1))] }

/-- What the input holds next. -/
def reading (c : Connection) : Framing.Reading := Framing.read c.ended c.input

/-- Whether the client can still send. -/
def isOpen (c : Connection) : Bool := !c.ended && !c.finished

end Connection

namespace Work

variable {V : Type}

/-- Whether a task belongs to the client and is not the reader. -/
def servesClient : Work V → Bool
  | .pump who | .pumping who _ => who = .client
  | .evaluate _ _ => true
  | .answer _ asker | .answering asker _ | .send _ asker => asker ≠ .reader
  | .read | .closing _ | .join => false

/-- The time at which a task goes on at the latest, if there is one. -/
def deadline? : Work V → Option Nat
  | .pumping _ rest => rest.deadline
  | .answering _ rest => rest.deadline
  | .closing rest => rest.deadline
  | _ => none

end Work

namespace Server

variable {V : Type} [Machine V]

/-- A server that nothing runs on yet. -/
def ofSession (session : Session V) : Server V := { session }

/-- Whether a task can go on. -/
def isReady (s : Server V) : Work V → Bool
  | .pumping _ rest => rest.ready s.session
  | .answering _ rest => rest.ready s.session
  | .closing rest => rest.ready s.session
  | .read =>
    match s.connection.map Connection.reading with
    | some .incomplete => false
    | _ => true
  | .join => !(s.queue ++ s.waiting).any Work.servesClient
  | _ => true

/-- The place of a task among those that can go on at the same moment: evaluations that are given
up go on in the order in which they began, and all others in the order in which they have waited. -/
def place (s : Server V) : Work V → Nat
  | .answering (.evaluation number) rest =>
    if s.session.cancelled || rest.deadline.all (· ≤ s.session.clock) then 0 else number + 1
  | _ => 0

/-- Puts the tasks that can go on at the end of the queue. -/
def wake (s : Server V) : Server V :=
  { s with
    queue := s.queue ++
      (s.waiting.filter s.isReady).mergeSort fun v w => s.place v ≤ s.place w
    waiting := s.waiting.filter fun w => !s.isReady w }

/-- Puts a new task at the end of the queue. -/
def spawn (s : Server V) (w : Work V) : Server V := { s with queue := s.queue ++ [w] }

/-- Has a task go on at once if it can, or else wait. -/
def proceed (s : Server V) (w : Work V) : Server V :=
  let s := s.wake
  if s.isReady w then { s with queue := w :: s.queue } else { s with waiting := s.waiting ++ [w] }

def modifyConnection (f : Connection → Connection) (s : Server V) : Server V :=
  { s with connection := s.connection.map f }

/-- Sends a message to the client. -/
def post (s : Server V) (o : Outgoing) : Server V := s.modifyConnection fun c => c.post o

/-- Hands the events that the session has queued to those who hear of them. -/
def deliver (who : Audience) (s : Server V) : Server V :=
  let events := s.session.pending
  let s := { s with session := { s.session with pending := [] } }
  match who with
  | .observer => { s with observed := s.observed ++ events }
  | .client => (events.map Outgoing.event).foldl post s

/-! ## Turns -/

/-- What comes of waiting for an event and dealing with it: a wait, the next event, or the end of
the pump. -/
def afterEvent (s : Server V) (who : Audience) : Step (Session V) Bool → Server V
  | .wait deadline ready session resume =>
    ({ s with session }.deliver who).proceed (.pumping who ⟨deadline, ready, resume⟩)
  | .done isOver session =>
    let s := { s with session }.deliver who
    if isOver then s.wake else s.proceed (.pump who)

/-- What comes of an answer: a wait, or a reply for the one who asked. -/
def afterAnswer (s : Server V) (asker : Asker) : Step (Session V) Reply → Server V
  | .wait deadline ready session resume =>
    { s with session }.proceed (.answering asker ⟨deadline, ready, resume⟩)
  | .done r session => { s with session }.wake.spawn (.send r asker)

/-- What comes of ending a session: a wait, or the end of the connection once no other task is left
for it. -/
def afterClosing (s : Server V) : Step (Session V) Unit → Server V
  | .wait deadline ready session resume =>
    { s with session }.proceed (.closing ⟨deadline, ready, resume⟩)
  | .done () session => { s with session }.proceed .join

/-- Stops reading. The debuggee of a client that left without an end of the session runs on. -/
def stopReading (s : Server V) (error : Option SessionError) : Server V :=
  let s := s.modifyConnection fun c => { c with error }
  if s.session.cancelled then s.proceed .join
  else s.afterClosing (Session.disconnect false s.session)

/-- A request in the text of a message; other messages are of no concern. -/
def request? (text : String) : Option RequestMessage :=
  (RequestMessage.parse? text).filter fun m => m.kind = "request"

def takeMessage (s : Server V) (text : String) : Server V :=
  match request? text with
  | none => s.proceed .read
  | some m =>
    if m.command = "evaluate" then
      ({ s with evaluations := s.evaluations + 1 }.spawn (.evaluate m s.evaluations)).proceed .read
    else s.spawn (.answer m .reader)

def turnRead (s : Server V) : Server V :=
  match s.connection.map Connection.reading with
  | none => s
  | some (.message text rest) =>
    (s.modifyConnection fun c => { c with input := rest }).takeMessage text
  | some (.failed e) => s.stopReading (some e)
  | some .ended => s.stopReading none
  | some .incomplete => s.proceed .read

def turnSend (s : Server V) (r : Reply) (asker : Asker) : Server V :=
  let s := (r.events.map Outgoing.event).foldl post (s.post (.response r.response))
  match asker with
  | .reader => s.proceed .read
  | .evaluation _ => s.wake

/-- Gives a task its turn. -/
def turn (s : Server V) : Work V → Server V
  | .pump who => s.afterEvent who (Session.pump s.session)
  | .pumping who rest => s.afterEvent who (rest.resume s.session)
  | .read => s.turnRead
  | .evaluate m number => s.spawn (.answer m (.evaluation number))
  | .answer m asker => s.afterAnswer asker (Session.respond m s.session)
  | .answering asker rest => s.afterAnswer asker (rest.resume s.session)
  | .send r asker => s.turnSend r asker
  | .closing rest => s.afterClosing (rest.resume s.session)
  | .join => s.modifyConnection fun c => { c with finished := true }

/-! ## Running -/

/-- How many turns are taken before a run is given up, which it never is in practice. -/
def patience : Nat := Number.twoPow 40

/-- Gives the tasks in the queue their turns until it is empty. -/
def drain : (count : Nat) → Server V → Server V
  | 0, s => s
  | count + 1, s =>
    match s.queue with
    | [] => s
    | w :: queue => drain count ({ s with queue }.turn w)

/-- The time at which the next task goes on, or `time` if none does before. -/
def nextTime (s : Server V) (time : Option Nat) : Option Nat :=
  (s.waiting.map Work.deadline?).foldl (Option.merge min) time

/-- Lets the time come, and with it the turns of those who have waited for it. -/
def passTime (s : Server V) (time : Nat) : Server V :=
  { s with session := s.session.advance time }.wake

/-- Carries a computation through without the tasks, for which it would wait forever. -/
def finish (s : Server V) (x : Step (Session V) α) : α × Server V :=
  let (a, session) := x.run Session.advance
  (a, { s with session })

/-- Carries a computation through while the tasks of the server take their turns. It goes on before
they do when both can. -/
def runMain : (count : Nat) → Server V → Step (Session V) α → α × Server V
  | _, s, .done a session => (a, { s with session }.wake)
  | 0, s, x => s.finish x
  | count + 1, s, .wait deadline ready session resume =>
    let s := { s with session }.wake
    if ready s.session then runMain count s (resume s.session)
    else
      let s := drain patience s
      if ready s.session then runMain count s (resume s.session)
      else match s.nextTime deadline with
        | none => s.finish (resume s.session)
        | some time =>
          let s := s.passTime time
          runMain count s (.wait deadline ready s.session resume)

/-- What a computation over the session comes to, beside the tasks of the server. -/
def run (s : Server V) (x : Task (Session V) α) : α × Server V := s.runMain patience (x s.session)

/-- Lets time pass, in milliseconds. -/
def elapse (s : Server V) (ms : Nat) : Server V :=
  let time := s.session.clock + ms
  (s.run (Task.sleep time fun session => time ≤ session.clock)).2

/-! ## Clients -/

/-- Starts to tell an observer of events. -/
def observe (s : Server V) : Server V := s.spawn (.pump .observer)

/-- Opens the connection with a client. -/
def connect (s : Server V) : Server V :=
  ({ s with connection := some {} }.spawn (.pump .client)).spawn .read

/-- Bytes from the client; whether they can still be taken. -/
def receive (s : Server V) (bytes : Framing.Bytes) : Bool × Server V :=
  match s.connection with
  | none => (false, s)
  | some c =>
    if c.isOpen then
      (true, (s.modifyConnection fun c => { c with input := c.input ++ bytes }).wake)
    else (false, s)

/-- The client sends nothing more. -/
def endInput (s : Server V) : Server V :=
  (s.modifyConnection fun c => { c with ended := true }).wake

/-- The client is gone. -/
def hangUp (s : Server V) : Server V :=
  (s.modifyConnection fun c => { c with ended := true, deaf := true }).wake

end Server
end DebugSession
