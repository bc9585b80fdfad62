import DebugSession.Breakpoint.Basic
import DebugSession.Line
import DebugSession.Logical.Basic
import DebugSession.Pool
import DebugSession.Protocol.Event
import DebugSession.Remote.Call
import DebugSession.Stepping
import DebugSession.Task
import DebugSession.ThreadCache
import DebugSession.Variable.Container
/-!
The state of a session: the debuggee and all that the session holds of it for its client. What the
session does is a task over this state, because calls to the debuggee take time.
-/

namespace DebugSession

/-- A way to evaluate expressions. -/
inductive Evaluator where
  /-- Names of variables and paths of fields, and nothing else. -/
  | names
  /-- One value for all. -/
  | constant (value : Value)
  | failing (reason : String)
  | crashing
  deriving DecidableEq, Repr

/-- What a session is given for tasks that depend on its surroundings. -/
structure Providers where
  lookup : Option SourceLookup := none
  evaluator : Option Evaluator := none
  /-- The structures that collections are shown by. -/
  logical : Option (List LogicalStructure) := none

namespace Providers

def count (p : Providers) : Nat :=
  p.lookup.isSome.toNat + p.evaluator.isSome.toNat + p.logical.isSome.toNat

/-- The name under which evaluators are looked for. -/
def evaluatorCapability : String := "dyn java_debug::adapter::providers::EvaluationProvider"

def lookupCapability : String := "dyn java_debug::adapter::providers::SourceLookupProvider"

end Providers

/-- The exception that has halted a thread. -/
structure ExceptionInfo where
  exception : ObjectRef
  location : Location
  caught : Bool
  deriving DecidableEq, Repr

/-- Signals that can be given once: each is a number. -/
structure Tokens where
  issued : Nat := 0
  revoked : List Nat := []

/-- Who hears of changed settings. -/
inductive Listener where
  /-- The choice of the call mode. -/
  | callMode
  /-- The memory of threads. -/
  | threads
  /-- Someone outside the session. -/
  | observer (number : Nat)
  deriving DecidableEq, Repr

structure Session (V : Type) where
  machine : V
  settings : Settings
  listeners : List Listener := [.callMode, .threads]
  providers : Providers
  /-- Milliseconds since the session began. -/
  clock : Nat := 0
  /-- The session is over; no call reaches the debuggee any more. -/
  cancelled : Bool := false
  /-- All calls so far, in the order in which they ended. This is history: nothing that a session
  does depends on it. -/
  calls : List Exchange := []
  /-- How long a call took when it was measured, in microseconds. -/
  latency : Option Nat := none
  callMode : CallMode
  /-- How many suspensions there have been. -/
  suspensions : Nat := 0
  /-- The frames of each suspension, as they were last seen, by its version. -/
  snapshots : Table Nat (List FrameInfo) := {}
  /-- The last known frame of each proxy. -/
  cells : Table Nat (Option FrameInfo) := {}
  cellCount : Nat := 0
  /-- The suspensions of the threads that the client knows to be halted. -/
  stopped : Table ThreadId Suspension := {}
  handles : Pool Container := {}
  breakpoints : Breakpoints := {}
  steps : Table ThreadId PendingStep := {}
  exceptions : Table ThreadId ExceptionInfo := {}
  results : Table ThreadId MethodResult := {}
  threads : ThreadCache
  tokens : Tokens := {}
  /-- The token that stops the evaluations of each thread. -/
  evaluations : Table ThreadId Nat := {}
  /-- Events for the client, which are yet to be sent. -/
  pending : List Protocol.Event := []
  /-- Who has what one at a time can have, and who waits for it. -/
  line : Line := {}

namespace Session

variable {V : Type}

/-- A new session with a debuggee. -/
def start (machine : V) (settings : Settings) (providers : Providers) : Session V :=
  { machine, settings, providers
    callMode := CallMode.choose 0 settings.remote
    threads := { capacity := settings.threads.deathCacheSize } }

/-- The structures that collections are shown by. -/
def logical (s : Session V) : List LogicalStructure :=
  s.providers.logical.getD LogicalStructure.standard

/-- Lets the time come. -/
def advance (time : Nat) (s : Session V) : Session V := { s with clock := max s.clock time }

def cancel (s : Session V) : Session V := { s with cancelled := true }

/-- Whether a token is revoked; when the session is over, all are. -/
def isRevoked (s : Session V) (token : Nat) : Bool := s.cancelled || s.tokens.revoked.contains token

def issueToken (s : Session V) : Nat × Session V :=
  (s.tokens.issued, { s with tokens := { s.tokens with issued := s.tokens.issued + 1 } })

def revoke (s : Session V) (token : Nat) : Session V :=
  { s with tokens := { s.tokens with revoked := token :: s.tokens.revoked } }

/-- Queues an event for the client. -/
def announce (s : Session V) (e : Protocol.Event) : Session V :=
  { s with pending := s.pending ++ [e] }

/-! ## Settings -/

/-- The settings as they are shared with those who listen. -/
def shared (s : Session V) : SettingsHandle Listener := ⟨s.settings, s.listeners⟩

/-- Someone outside listens from now on. -/
def observe (s : Session V) (number : Nat) : Session V :=
  { s with listeners := (s.shared.addListener (.observer number)).listeners }

/-- What a listener makes of changed settings: the call mode and the memory of threads are kept in
line with the parts that concern them. -/
def hear (s : Session V) (change : SettingsChange) : Listener → Session V
  | .callMode =>
    if change.old.remote = change.new.remote then s
    else { s with callMode := CallMode.choose (s.latency.getD 0) change.new.remote }
  | .threads =>
    if change.old.threads.deathCacheSize = change.new.threads.deathCacheSize then s
    else { s with threads := s.threads.setCapacity change.new.threads.deathCacheSize }
  | .observer _ => s

/-- Tells the listeners, one after the other. -/
def tell (s : Session V) (notices : List (Listener × SettingsChange)) : Session V :=
  notices.foldl (fun s (listener, change) => s.hear change listener) s

/-- New settings for the session; who has heard of the change. -/
def update (s : Session V) (settings : Settings) :
    Except SessionError (List (Listener × SettingsChange) × Session V) := do
  let (handle, notices) ← s.shared.update settings
  return (notices, { s with settings := handle.current }.tell notices)

/-- Chooses the call mode by a measured latency, in microseconds. -/
def recordLatency (s : Session V) (latency : Nat) : Session V :=
  { s with latency := some latency, callMode := CallMode.choose latency s.settings.remote }

end Session

abbrev Remote (V : Type) := ExceptT RemoteError (Task (Session V))

abbrev Action (V : Type) := ExceptT SessionError (Task (Session V))

section

variable {V ε ε' α : Type}

/-- What cannot fail, among what can. -/
def quietly (x : Task (Session V) α) : ExceptT ε (Task (Session V)) α := ExceptT.lift x

/-- What becomes of something that may fail. -/
def attempt (x : ExceptT ε' (Task (Session V)) α) :
    ExceptT ε (Task (Session V)) (Except ε' α) :=
  ExceptT.lift x.run

end

/-- A call whose failure is worded for the client. -/
def Remote.orFail {V α : Type} (wrap : RemoteError → SessionError) (x : Remote V α) : Action V α :=
  ExceptT.adapt wrap x

end DebugSession
