import DebugSession.Json.Record
/-!
What a client is told without having asked.
-/

namespace DebugSession.Protocol

open Json (record)

structure StoppedEventBody where
  reason : String
  description : Option String := none
  threadId : Option Int64 := none
  allThreadsStopped : Bool := false
  hitBreakpointIds : List UInt32 := []
  text : Option String := none
  deriving DecidableEq, Repr

instance : Json.Format StoppedEventBody :=
  record "StoppedEventBody"
    (.field (.required "reason") <|
      .field (.optional "description") <|
      .field (.optional "threadId") <|
      .field (.defaulting "allThreadsStopped" false) <|
      .field (.listed "hitBreakpointIds") <|
      .field (.optional "text") <|
      .done)
    (fun (reason, description, threadId, allThreadsStopped, hitBreakpointIds, text, _) =>
      ⟨reason, description, threadId, allThreadsStopped, hitBreakpointIds, text⟩)
    (fun x =>
      (x.reason, x.description, x.threadId, x.allThreadsStopped, x.hitBreakpointIds, x.text, ()))

structure OutputEventBody where
  category : Option String := none
  output : String
  deriving DecidableEq, Repr

instance : Json.Format OutputEventBody :=
  record "OutputEventBody"
    (.field (.nullable "category") <|
      .field (.required "output") <|
      .done)
    (fun (category, output, _) => ⟨category, output⟩)
    (fun x => (x.category, x.output, ()))

structure ThreadEventBody where
  reason : String
  threadId : Int64
  deriving DecidableEq, Repr

instance : Json.Format ThreadEventBody :=
  record "ThreadEventBody"
    (.field (.required "reason") <|
      .field (.required "threadId") <|
      .done)
    (fun (reason, threadId, _) => ⟨reason, threadId⟩)
    (fun x => (x.reason, x.threadId, ()))

structure ContinuedEventBody where
  threadId : Int64
  allThreadsContinued : Bool
  deriving DecidableEq, Repr

instance : Json.Format ContinuedEventBody :=
  record "ContinuedEventBody"
    (.field (.required "threadId") <|
      .field (.required "allThreadsContinued") <|
      .done)
    (fun (threadId, allThreadsContinued, _) => ⟨threadId, allThreadsContinued⟩)
    (fun x => (x.threadId, x.allThreadsContinued, ()))

structure ExitedEventBody where
  exitCode : Int32
  deriving DecidableEq, Repr

instance : Json.Format ExitedEventBody :=
  record "ExitedEventBody"
    (.field (.required "exitCode") <|
      .done)
    (fun (exitCode, _) => ⟨exitCode⟩)
    (fun x => (x.exitCode, ()))

inductive Event where
  | initialized
  | stopped (body : StoppedEventBody)
  | continued (body : ContinuedEventBody)
  | exited (body : ExitedEventBody)
  | terminated
  | thread (body : ThreadEventBody)
  | output (body : OutputEventBody)

namespace Event

def name : Event → String
  | .initialized => "initialized"
  | .stopped _ => "stopped"
  | .continued _ => "continued"
  | .exited _ => "exited"
  | .terminated => "terminated"
  | .thread _ => "thread"
  | .output _ => "output"

def body? : Event → Option Json
  | .initialized | .terminated => none
  | .stopped body => some (Json.write body)
  | .continued body => some (Json.write body)
  | .exited body => some (Json.write body)
  | .thread body => some (Json.write body)
  | .output body => some (Json.write body)

def halted (reason : String) (thread : Int64) (description : Option String)
    (hitBreakpointIds : List UInt32) : Event :=
  .stopped { reason, description, threadId := some thread, hitBreakpointIds }

def ofThread (reason : String) (thread : Int64) : Event := .thread { reason, threadId := thread }

def ofOutput (category text : String) : Event :=
  .output { category := some category, output := text }

end Event

end DebugSession.Protocol
