import DeviceGateway.Http.Body
import DeviceGateway.Http.MediaType
import DeviceGateway.Net.Url
import DeviceGateway.Plugin
import DeviceGateway.Text.Percent
/-!
The gateway over HTTP: one route for each event of the broker, one that forgets the snapshots of a
configuration, and one that says that the gateway is there. An answer of the gateway's own is a JSON
object with `success`, `data` and `error`; a request that never reaches it is answered by a status
alone.
-/
namespace DeviceGateway.Http

structure Request where
  method : String
  path : String
  contentType : Option String
  body : Bytes

structure Response where
  status : Nat
  body : Option Json := none

namespace Response

def ok (data : Json) : Response :=
  ⟨200, some (.ofMembers [("success", .bool true), ("data", data), ("error", .null)])⟩

def error (status : Nat) (code message : String) : Response :=
  ⟨status, some (.ofMembers [("success", .bool false), ("data", .null),
    ("error", .ofMembers [("code", .text code), ("message", .text message)])])⟩

def refused (r : Refusal) : Response :=
  match r with
  | .auth _ => error 401 "HOOK.AUTH" r.message
  | .permission _ => error 403 "HOOK.PERMISSION" r.message
  | .store _ => error 503 "HOOK.STORE" r.message

def invalid (message : String) : Response := error 400 "INVALID.REQUEST" message

def internal (message : String) : Response := error 500 "INTERNAL.ERROR" message

def allowed : Response := ok (.ofMembers [("allow", .bool true)])

/-- What became of a message; its payload is spelled in Base64. -/
def delivery : Delivery → Response
  | .deliver payload =>
    ok (.ofMembers [("action", .text "deliver"), ("payload", .text (Base64.text payload))])
  | .discarded topic payload =>
    ok (.ofMembers [("action", .text "discard"), ("payload", .text (Base64.text payload)),
      ("target_topic", .text topic)])
  | .rejected r => refused r

/-- Broken grammar, or a value of the wrong kind. -/
def unreadable : Json.Fault → Response
  | .malformed => ⟨400, none⟩
  | .mistyped => ⟨422, none⟩

end Response

inductive Route where
  | health
  | auth
  | connected
  | subscribe
  | publish
  | closed
  | invalidate (segment : String)
deriving DecidableEq, Repr

namespace Route

/-- What follows a scheme and two slashes, if a target begins with them. -/
def afterScheme? (target : List Char) : Option (List Char) := do
  let (_, rest) ← Net.Url.scheme? target
  "//".toList.isPrefixOf? rest

/-- The path of a target, without a query; before it may stand a scheme and an authority. -/
def plainPath (target : String) : String :=
  let target := target.toList
  let path := match afterScheme? target with
    | some rest => rest.dropWhile fun c => c ≠ '/' && c ≠ '?' && c ≠ '#'
    | none => target
  .ofList (path.takeWhile fun c => c ≠ '?' && c ≠ '#')

/-- What stands in a path between two given texts, if that is a single segment. -/
def segment? (before after : String) (path : String) : Option String := do
  let rest ← before.toList.isPrefixOf? path.toList
  let segment ← after.toList.isSuffixOf? rest
  if segment.contains '/' then none else return .ofList segment

def ofPath? (path : String) : Option Route :=
  if path = "/health" then some .health
  else if path = "/hooks/auth" then some .auth
  else if path = "/hooks/connected" then some .connected
  else if path = "/hooks/subscribe" then some .subscribe
  else if path = "/hooks/publish" then some .publish
  else if path = "/hooks/closed" then some .closed
  else (segment? "/api/topic-mappings/" "/invalidate" path).map .invalidate

/-- The gateway's presence is asked for, everything else is posted. -/
def allows (r : Route) (method : String) : Bool :=
  match r with
  | .health => method = "GET" || method = "HEAD"
  | _ => method = "POST"

end Route

/-- The largest body that is read, in octets. -/
def maxBody : Nat := 2097152

/-- Reads a JSON body from its start and answers with what was read. -/
def withBody {α : Type} (b : Backend) (req : Request) (reader : Json.Reader α)
    (answer : α → Response × Backend) : Response × Backend :=
  match req.contentType.bind MediaType.ofHeader? with
  | none => (⟨415, none⟩, b)
  | some m =>
    if !m.isJson then (⟨415, none⟩, b)
    else if maxBody < req.body.length then (⟨413, none⟩, b)
    else match reader.first? (Utf8.decode req.body) with
      | .error fault => (.unreadable fault, b)
      | .ok a => answer a

def verdict : Except Refusal Unit × Backend → Response × Backend
  | (.ok (), b) => (.allowed, b)
  | (.error r, b) => (.refused r, b)

/-- The octets of a message. -/
def payloadOf (r : Body) : Except Base64.Fault Bytes :=
  match r.encoding with
  | .plain => .ok (Bytes.ofString r.payload)
  | .base64 => Base64.decode? (Bytes.ofString r.payload)

def publish (p : Pipeline) (b : Backend) (client : Client) (r : Body) : Response × Backend :=
  match payloadOf r with
  | .error fault => (.invalid ("invalid base64 payload: " ++ fault.message), b)
  | .ok payload =>
    let (delivery, b) := p.publish b client r.topic payload
    (.delivery delivery, b)

/-- Forgets the snapshots of the configuration that a segment of the path names. -/
def invalidate (b : Backend) (segment : String) : Response × Backend :=
  match Bytes.toString? (Percent.decode (Bytes.ofString segment)) with
  | none => (⟨400, none⟩, b)
  | some configId =>
    match Mapping.Snapshot.invalidate b configId with
    | .ok b => (.ok (.ofMembers [("device_config_id", .text configId)]), b)
    | .error .blankConfig => (.invalid Mapping.blankConfigText, b)
    | .error e => (.internal e.message, b)

def handle (p : Pipeline) (b : Backend) (req : Request) : Route → Response × Backend
  | .health => (.ok (.ofMembers [("ok", .bool true), ("plugin", .text Plugin.name)]), b)
  | .auth => withBody b req (Body.read [Body.passwordField]) fun (r, client) =>
    verdict (p.authenticate b client client.username r.password)
  | .connected => withBody b req clientCodec.read fun client => (.allowed, p.connected b client)
  | .subscribe => withBody b req (Body.read [Body.topicField]) fun (r, client) =>
    verdict (p.subscribe b client r.topic)
  | .publish =>
    withBody b req (Body.read [Body.topicField, Body.payloadField, Body.encodingField])
      fun (r, client) => publish p b client r
  | .closed => withBody b req (Body.read [Body.reasonField]) fun (_, client) =>
    (.allowed, p.closed b client)
  | .invalidate segment => invalidate b segment

/-- Answers a request; no body goes out for `HEAD`. -/
def respond (p : Pipeline) (b : Backend) (req : Request) : Response × Backend :=
  match Route.ofPath? (Route.plainPath req.path) with
  | none => (⟨404, none⟩, b)
  | some route =>
    if !route.allows req.method then (⟨405, none⟩, b)
    else
      let (response, b) := handle p b req route
      if req.method = "HEAD" then ({ response with body := none }, b) else (response, b)

end DeviceGateway.Http
