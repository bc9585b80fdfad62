import DebugSession.Error
import DebugSession.Json.Parser
import DebugSession.Protocol.Event
/-!
The messages of a session: requests from the client, a response to each, and events.
-/

namespace DebugSession.Protocol

open Json (record)

structure RequestMessage where
  seq : Int64
  kind : String
  command : String
  arguments : Option Json := none

instance : Json.Format RequestMessage :=
  record "RequestMessage"
    (.field (.required "seq") <|
      .field (.required "type") <|
      .field (.required "command") <|
      .field { Json.Field.optional "arguments" with short := some none } <|
      .done)
    (fun (seq, kind, command, arguments, _) => ⟨seq, kind, command, arguments⟩)
    (fun x => (x.seq, x.kind, x.command, x.arguments, ()))

def RequestMessage.parse? (text : String) : Option RequestMessage := do
  let j ← Json.parseRecord? ["seq", "type", "command", "arguments"] text
  (Json.Format.read j).toOption

structure ResponseMessage where
  seq : Int64
  kind : String
  requestSeq : Int64
  success : Bool
  command : String
  message : Option String := none
  body : Option Json := none

instance : Json.Format ResponseMessage :=
  record "ResponseMessage"
    (.field (.required "seq") <|
      .field (.required "type") <|
      .field (.required "request_seq") <|
      .field (.required "success") <|
      .field (.required "command") <|
      .field (.optional "message") <|
      .field (.optional "body") <|
      .done)
    (fun (seq, kind, requestSeq, success, command, message, body, _) =>
      ⟨seq, kind, requestSeq, success, command, message, body⟩)
    (fun x => (x.seq, x.kind, x.requestSeq, x.success, x.command, x.message, x.body, ()))

structure EventMessage where
  seq : Int64
  kind : String
  event : String
  body : Option Json := none

instance : Json.Format EventMessage :=
  record "EventMessage"
    (.field (.required "seq") <|
      .field (.required "type") <|
      .field (.required "event") <|
      .field (.optional "body") <|
      .done)
    (fun (seq, kind, event, body, _) => ⟨seq, kind, event, body⟩)
    (fun x => (x.seq, x.kind, x.event, x.body, ()))

/-- What a client learns of a failure. -/
def errorBody (e : SessionError) : Json :=
  .obj [("id", .ofNat e.code), ("format", .str e.message)]

namespace ResponseMessage

/-- The number in the output is given when the message is sent. -/
def succeeded (request : RequestMessage) (body : Option Json) : ResponseMessage :=
  { seq := 0, kind := "response", requestSeq := request.seq, success := true
    command := request.command, body }

def failed (request : RequestMessage) (e : SessionError) : ResponseMessage :=
  { seq := 0, kind := "response", requestSeq := request.seq, success := false
    command := request.command, message := some e.message
    body := some (.obj [("error", errorBody e)]) }

end ResponseMessage

def Event.toMessage (e : Event) : EventMessage :=
  { seq := 0, kind := "event", event := e.name, body := e.body? }

/-- What is sent to a client. -/
inductive Outgoing where
  | response (r : ResponseMessage)
  | event (e : Event)

/-- The message as the one of a given number. -/
def Outgoing.toJson (seq : Int64) : Outgoing → Json
  | .response r => Json.write { r with seq }
  | .event e => Json.write { e.toMessage with seq }

end DebugSession.Protocol
