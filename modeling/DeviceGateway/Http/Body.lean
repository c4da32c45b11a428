import DeviceGateway.Identity
import DeviceGateway.Json.Codec
/-!
Bodies of requests: JSON objects that name a client among the members of their own. The client's
members are looked at last, when the whole object was read.
-/
namespace DeviceGateway.Http

open Json.Codec

inductive Encoding where
  | plain
  | base64
deriving DecidableEq, Repr

def Encoding.name : Encoding → String
  | .plain => "plain"
  | .base64 => "base64"

def Encoding.codec : Json.Codec Encoding := .choice [("plain", .plain), ("base64", .base64)] name

/-- The parts of a body; each kind of request has some of them. -/
structure Body where
  password : String := ""
  topic : String := ""
  payload : String := ""
  encoding : Encoding := .plain
  reason : Option String := none
  /-- The members that are no fields of the request, in order. -/
  others : List (String × Json) := []

namespace Body

def passwordField : Json.Codec.Field Body :=
  .plain "password" .defaulted text (·.password) fun r v => { r with password := v }

def topicField : Json.Codec.Field Body :=
  .plain "topic" .required text (·.topic) fun r v => { r with topic := v }

def payloadField : Json.Codec.Field Body :=
  .plain "payload" .defaulted text (·.payload) fun r v => { r with payload := v }

def encodingField : Json.Codec.Field Body :=
  .plain "encoding" .defaulted Encoding.codec (·.encoding) fun r v => { r with encoding := v }

def reasonField : Json.Codec.Field Body :=
  .plain "reason" .defaulted (nullable text) (·.reason) fun r v => { r with reason := v }

/-- Keeps a member that is no field. -/
def keep (r : Body) (n : String) : Json.Reader Body := do
  let value ← Json.Reader.value (Json.maxDepth - 1)
  return { r with others := r.others ++ [(n, value)] }

/-- A string member, at most once; `start` stands for one that is not there. -/
def member? (others : List (String × Json)) (n : String) (start : Option String) : Option String :=
  match others.filter fun m => m.1 = n with
  | [] => start
  | [(_, .text s)] => some s
  | _ => none

def client? (r : Body) : Option Client := do
  let id ← member? r.others "client_id" none
  let username ← member? r.others "username" (some "")
  return ⟨id, username⟩

/-- Reads a body with the given fields, and the client that it names. -/
def read (fields : List (Json.Codec.Field Body)) : Json.Reader (Body × Client) := do
  Json.Reader.space
  let r ← readObject fields keep {}
  match r.client? with
  | some c => return (r, c)
  | none => Json.Reader.fail .mistyped

end Body

/-- A client on its own, which may also be given as an array. -/
def clientCodec : Json.Codec Client :=
  .record
    [.plain "client_id" .required text (·.id) fun c v => { c with id := v },
      .plain "username" .defaulted text (·.username) fun c v => { c with username := v }]
    ⟨"", ""⟩

end DeviceGateway.Http
