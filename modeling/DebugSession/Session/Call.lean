import DebugSession.Number.Power
import DebugSession.Session.Turn
/-!
Calls to the debuggee and the events that come from it. A call fails at once when the session is
over, and within the time that the settings allow in any case. When the debuggee is lost the
session is over. Waiting for an event is not limited in time; one at a time waits for the next one.
-/

namespace DebugSession

variable {V : Type} [Machine V]

namespace Session

/-- The time after which the settings have a call given up, in milliseconds. -/
def timeout (s : Session V) : Nat := s.settings.remote.requestTimeoutSecs * 1000

/-- The time after which a call is given up when no clock reaches the time that the settings name:
thirty years, in milliseconds. -/
def longestWait : Nat := 30 * 365 * 24 * 60 * 60 * 1000

/-- The time after which a call is given up, in milliseconds. Clocks count seconds in 64 bits. -/
def waitLimit (s : Session V) : Nat :=
  if s.settings.remote.requestTimeoutSecs < Number.maxSigned 64 then s.timeout else longestWait

/-- The effect of a call that was accepted. -/
def complete (c : Call) (lost : Bool) : Task (Session V) (Except RemoteError c.Reply) :=
  if lost then pure (.error .disconnected)
  else modifyGet fun s =>
    let (r, machine) := Machine.perform c s.machine
    (r, { s with machine })

/-- The answer to an accepted call after its delay, unless the session ends or time runs out. -/
def answerAfter (c : Call) (delay : Nat) (lost : Bool) :
    Task (Session V) (Except RemoteError c.Reply) := do
  let s ← get
  let pause := min delay s.waitLimit
  if 0 < pause then
    let wake := s.clock + pause
    Task.sleep wake fun s => s.cancelled || wake ≤ s.clock
    if (← get).cancelled then return .error .disconnected
  if s.waitLimit < delay then return .error (.timeout s.timeout)
  else complete c lost

/-- Hands a call to the debuggee. -/
def issue (c : Call) : Task (Session V) (Except RemoteError c.Reply) := do
  let admission ← modifyGet fun s =>
    let (admission, machine) := Machine.submit c s.machine
    (admission, { s with machine })
  match admission with
  | .refused e => return .error e
  | .accepted delay lost => answerAfter c delay lost

/-- Hands a call to the debuggee. A session that has lost it is over. -/
def ask (c : Call) : Task (Session V) (Except RemoteError c.Reply) := do
  let r ← issue c
  match r with
  | .error .disconnected => modify cancel
  | _ => pure ()
  return r

/-- Notes what has become of a call. -/
def note (c : Call) (r : Except RemoteError c.Reply) (s : Session V) : Session V :=
  { s with calls := s.calls ++ [.ofReply c r] }

def tryCall (c : Call) : Task (Session V) (Except RemoteError c.Reply) := do
  let r ← if (← get).cancelled then pure (.error .disconnected) else ask c
  modify (note c r)
  return r

def call (c : Call) : Remote V c.Reply := tryCall c

/-- Ends the debuggee, and the session with it. -/
def dispose : Task (Session V) (Except RemoteError Unit) := do
  let r ← tryCall .dispose
  modify cancel
  return r

/-- At most how many classes a walk through superclasses looks at: all that are loaded, and more
than others can load while it waits. -/
def walkLimit (s : Session V) : Nat := Machine.typeCount s.machine + Number.twoPow 40

/-- Whether there is an event to take, or no more to wait for. -/
def hasEvent (s : Session V) : Bool :=
  match (Machine.takeEvent s.machine).1 with
  | .pending => false
  | _ => true

/-- Starts to wait for an event, which may fail. -/
def awaitEvent : Remote V Unit := do
  let failure ← quietly (modifyGet fun s =>
    let (failure, machine) := Machine.awaitEvent s.machine
    (failure, { s with machine }))
  match failure with
  | some e => throw e
  | none => return

/-- Takes the next event, if there is one. -/
def takeEvent : Task (Session V) (Option VmEvent) :=
  modifyGet fun s =>
    match Machine.takeEvent s.machine with
    | (.event e, machine) => (some e, { s with machine })
    | (_, machine) => (none, { s with machine })

/-- The next event, as soon as there is one; none when there are no more, or the session is over. -/
def nextEvent : Remote V (Option VmEvent) := do
  if (← get).cancelled then return none
  awaitEvent
  let number ← quietly (standInLine .events)
  quietly (Task.await fun s => s.cancelled || (s.line.isFirst .events number && hasEvent s))
  quietly (leaveLine number)
  if (← get).cancelled then return none
  quietly takeEvent

end Session
end DebugSession
