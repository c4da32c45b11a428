import DeviceGateway.Json.Codec
import DeviceGateway.Json.Embedded
/-!
Entries of a device's log, and their text. What belongs to the protocol goes into `details`.
-/
namespace DeviceGateway.DeviceLog

open Json.Codec

/-- Which way the logged message went, if it was one. -/
inductive Heading where
  | up
  | down
  | na
deriving DecidableEq, Repr

def Heading.name : Heading → String
  | .up => "up"
  | .down => "down"
  | .na => "na"

def Heading.codec : Json.Codec Heading := .choice [("up", .up), ("down", .down), ("na", .na)] name

inductive Action where
  | auth
  | subscribe
  | publish
  | forward
deriving DecidableEq, Repr

def Action.name : Action → String
  | .auth => "auth"
  | .subscribe => "subscribe"
  | .publish => "publish"
  | .forward => "forward"

def Action.codec : Json.Codec Action :=
  .choice [("auth", .auth), ("subscribe", .subscribe), ("publish", .publish), ("forward", .forward)]
    name

inductive Outcome where
  | ok
  | denied
  | error
  | discarded
deriving DecidableEq, Repr

def Outcome.name : Outcome → String
  | .ok => "ok"
  | .denied => "denied"
  | .error => "error"
  | .discarded => "discarded"

def Outcome.codec : Json.Codec Outcome :=
  .choice [("ok", .ok), ("denied", .denied), ("error", .error), ("discarded", .discarded)] name

structure Entry where
  ts : String := ""
  deviceId : String := ""
  protocol : String := "mqtt"
  heading : Heading
  action : Action
  outcome : Outcome
  error : String := ""
  payload : String := ""
  details : List (String × Json) := []
deriving Repr

/-- Free members: any values, nested as deep as the whole entry may be, with documents in them. -/
def detailsCodec : Json.Codec (List (String × Json)) where
  write members := (Json.object members).write
  read := Json.Reader.object (Json.Reader.keep (Json.Reader.unfolded (Json.maxDepth - 2))) []

def Entry.fields : List (Json.Codec.Field Entry) :=
  [.plain "ts" .defaulted text (·.ts) fun e v => { e with ts := v },
    .plain "device_id" .defaulted text (·.deviceId) fun e v => { e with deviceId := v },
    .terse "protocol" text String.isEmpty (·.protocol) fun e v => { e with protocol := v },
    .plain "direction" .required Heading.codec (·.heading) fun e v => { e with heading := v },
    .plain "action" .required Action.codec (·.action) fun e v => { e with action := v },
    .plain "outcome" .required Outcome.codec (·.outcome) fun e v => { e with outcome := v },
    .terse "error" text String.isEmpty (·.error) fun e v => { e with error := v },
    .terse "payload" text String.isEmpty (·.payload) fun e v => { e with payload := v },
    .terse "meta" detailsCodec List.isEmpty (·.details) fun e v => { e with details := v }]

def Entry.blank : Entry := ⟨"", "", "", .na, .auth, .ok, "", "", []⟩

def Entry.codec : Json.Codec Entry := .record Entry.fields Entry.blank

namespace Entry

def withDetail (e : Entry) (name : String) (value : Json) : Entry :=
  { e with details := Json.insert name value e.details }

def withClient (e : Entry) (clientId username : String) : Entry :=
  (e.withDetail "client_id" (.text clientId)).withDetail "username" (.text username)

def withTopic (e : Entry) (topic : String) : Entry := e.withDetail "topic" (.text topic)

/-- Octets that are no character are logged as replacement characters. -/
def withPayload (e : Entry) (payload : Bytes) : Entry :=
  { e with payload := .ofList (Utf8.lossy (Utf8.decode payload)) }

def withError (e : Entry) (error : String) : Entry := { e with error }

end Entry

end DeviceGateway.DeviceLog
