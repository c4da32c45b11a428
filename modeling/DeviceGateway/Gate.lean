import DeviceGateway.DeviceLog.Sink
import DeviceGateway.Identity
import DeviceGateway.Mapping.Service
import DeviceGateway.Text.Base64
import DeviceGateway.Topic.Canonical
/-!
The gate: decides on what clients ask of the broker, wraps what devices publish, and forwards
messages between a device's own topics and the platform's. Each event gives a decision and the
backend after it.
-/
namespace DeviceGateway

inductive Refusal where
  | auth (reason : String)
  | permission (reason : String)
  | store (reason : String)
deriving DecidableEq, Repr

namespace Refusal

def message : Refusal → String
  | .auth reason => "auth error: " ++ reason
  | .permission reason => "permission denied: " ++ reason
  | .store reason => "store error: " ++ reason

def ofStore (e : StoreError) : Refusal := .store e.message

def ofMapping (e : Mapping.Error) : Refusal := .store e.message

end Refusal

/-- What becomes of a published message. -/
inductive Decision where
  | accept (payload : Bytes)
  | reject (refusal : Refusal)
  | redirect (topic : String) (payload : Bytes)
deriving DecidableEq, Repr

/-- The passwords of the two accounts that are no devices. -/
structure Credentials where
  root : String
  plugin : String
deriving DecidableEq, Repr

namespace Credentials

def accepts (c : Credentials) (username password : String) : Bool :=
  if username = rootUsername then c.root = password
  else if username = pluginUsername then c.plugin = password
  else false

def shown (_ : Credentials) : String := "PrivilegedCredentials \x7b .. \x7d"

end Credentials

structure Gate where
  credentials : Credentials
  /-- The seconds that a snapshot of rules lives. -/
  snapshotLifetime : Nat
deriving DecidableEq, Repr

/-- What a device published, wrapped for the platform. -/
def upEnvelope (deviceId : String) (payload : Bytes) : Bytes :=
  Bytes.ofString (.ofList (Json.write (.object
    [("device_id", .text deviceId), ("values", .text (Base64.text payload))])))

/-- Where it is said whether a device is connected. -/
def statusTopic (deviceId : String) : String := "devices/status/" ++ deviceId

def onlineStatus : String := "1"

def offlineStatus : String := "0"

/-- Writes a log entry as far as that works; nothing is logged for a device without an id. -/
def Backend.note (b : Backend) (deviceId : String) (e : DeviceLog.Entry) : Backend :=
  if deviceId.isEmpty then b else (DeviceLog.write b deviceId e).2

namespace Gate

/-- A refused client that gave a password is logged at the device that its name alone would find. -/
def noteRefusedAuth (b : Backend) (client : Client) (username password : String)
    (refusal : Refusal) : Backend :=
  if password.isEmpty then b
  else match Identity.deviceByVoucher b (voucher username "") with
    | (.ok (some d), b) =>
      b.note d.id (({ heading := .na, action := .auth, outcome := .denied } : DeviceLog.Entry)
        |>.withClient client.id username |>.withError refusal.message)
    | (_, b) => b

def refuseAuth (b : Backend) (client : Client) (username password : String) (refusal : Refusal) :
    Except Refusal Unit × Backend :=
  (.error refusal, noteRefusedAuth (b.count .authDenied) client username password refusal)

/-- Binds a client to the device that its credentials found. -/
def bindTo (b : Backend) (client : Client) (username : String) (d : Device) :
    Except Refusal Unit × Backend :=
  let entry := ({ heading := .na, action := .auth, outcome := .ok } : DeviceLog.Entry)
    |>.withClient client.id username
  match Identity.bind b client.id d.id with
  | .error e => (.error (.ofStore e), (b.count .authDenied).note d.id entry)
  | .ok b => (.ok (), (b.count .authOk).note d.id entry)

def authenticate (g : Gate) (b : Backend) (client : Client) (username password : String) :
    Except Refusal Unit × Backend :=
  if isPrivileged username then
    if g.credentials.accepts username password then (.ok (), b.count .authOk)
    else (.error (.auth "password error"), b.count .authDenied)
  else match Identity.deviceByVoucher b (voucher username password) with
    | (.error e, b) => refuseAuth b client username password (.ofStore e)
    | (.ok none, b) => refuseAuth b client username password (.auth "device not found")
    | (.ok (some d), b) => bindTo b client username d

/-- Tells the platform whether the device of a client is connected. -/
def reportStatus (b : Backend) (client : Client) (status : String) : Backend :=
  match Identity.boundDevice b client.id with
  | .ok (some deviceId) =>
    match b.send (statusTopic deviceId) (Bytes.ofString status) with
    | .ok b => b
    | .error _ => b.count .forwardFailures
  | _ => b

def connected (b : Backend) (client : Client) : Backend :=
  if client.isPrivileged then b else reportStatus b client onlineStatus

def closed (b : Backend) (client : Client) : Backend :=
  if client.isPrivileged then b else reportStatus b client offlineStatus

/-- Whether the rules of the client's device let it subscribe. -/
def subscribeByRules (g : Gate) (b : Backend) (deviceId topic : String) :
    Except Refusal Bool × Backend :=
  match Identity.boundConfig b deviceId with
  | .error e => (.error (.ofStore e), b)
  | .ok none => (.ok false, b)
  | .ok (some configId) =>
    match Mapping.allowsDown g.snapshotLifetime b configId topic with
    | (.error e, b) => (.error (.ofMapping e), b)
    | (.ok allowed, b) => (.ok allowed, b)

/-- Asks the rules once it is known whether the client is bound to a device. -/
def subscribeBound (g : Gate) (b : Backend) (binding : Except StoreError (Option String))
    (topic : String) : Except Refusal Bool × Backend :=
  match binding with
  | .error e => (.error (.ofStore e), b)
  | .ok none => (.ok false, b)
  | .ok (some deviceId) => subscribeByRules g b deviceId topic

def subscribe (g : Gate) (b : Backend) (client : Client) (topic : String) :
    Except Refusal Unit × Backend :=
  if client.isPrivileged then (.ok (), b)
  else
    let binding := Identity.boundDevice b client.id
    let deviceId := match binding with
      | .ok (some deviceId) => deviceId
      | _ => ""
    let entry := ({ heading := .na, action := .subscribe, outcome := .ok } : DeviceLog.Entry)
      |>.withClient client.id client.username |>.withTopic topic
    if Topic.Canonical.subscribable topic then
      (.ok (), (b.count .subscribeOk).note deviceId entry)
    else match subscribeBound g b binding topic with
      | (.ok true, b) =>
        (.ok (), (b.count .subscribeOk).note deviceId
          (entry.withDetail "custom_mapping_allowed" (.bool true)))
      | (.ok false, b) =>
        (.error (.permission ("subscribe to " ++ topic)), (b.count .subscribeDenied).note deviceId
          { entry with error := "permission denied", outcome := .denied })
      | (.error refusal, b) =>
        (.error refusal, (b.count .subscribeDenied).note deviceId
          { entry with error := refusal.message, outcome := .error })

/-- Hands a message of the platform to the device that it is meant for, on the device's own
topic. -/
def forwardDown (g : Gate) (b : Backend) (client : Client) (topic : String) (payload : Bytes) :
    Backend :=
  match Topic.Canonical.deviceNumber? topic with
  | none => b
  | some number =>
    match b.ask (.number number) with
    | .ok (some d) =>
      match d.config? with
      | none => b
      | some configId =>
        match Mapping.downRoute g.snapshotLifetime b configId topic number payload with
        | (.ok (some route), b) =>
          let entry := ({ heading := .down, action := .forward, outcome := .ok } : DeviceLog.Entry)
            |>.withClient client.id client.username |>.withTopic topic |>.withPayload payload
            |>.withDetail "mapped" (.bool true) |>.withDetail "target_topic" (.text topic)
            |>.withDetail "source_topic" (.text route.topic)
          match b.send route.topic route.payload with
          | .ok b => (b.count .downForwarded).note d.id entry
          | .error e =>
            (b.count .forwardFailures).note d.id
              { entry with error := e.message, outcome := .error }
        | (_, b) => b
    | _ => b

/-- Hands a device's message to the platform on another topic; the message itself goes no further,
even if the other did not get through. -/
def redirectUp (b : Backend) (deviceId target : String) (payload : Bytes) (e : DeviceLog.Entry) :
    Decision × Backend :=
  let wrapped := upEnvelope deviceId payload
  let entry := (e.withDetail "mapped" (.bool true)).withDetail "target_topic" (.text target)
  let b := match b.send target wrapped with
    | .ok b => b.note deviceId { entry with outcome := .discarded }
    | .error err =>
      (b.count .forwardFailures).note deviceId
        { entry with error := err.message, outcome := .error }
  (.redirect target wrapped, b.count .publishRedirected)

/-- Wraps a device's message that goes out under its own topic, if the topic is one of the
platform's. -/
def publishPlain (b : Backend) (deviceId topic : String) (payload : Bytes) (e : DeviceLog.Entry) :
    Decision × Backend :=
  if Topic.Canonical.publishable topic then
    (.accept (upEnvelope deviceId payload), (b.count .publishOk).note deviceId e)
  else
    (.reject (.permission ("publish to " ++ topic)), (b.count .publishDenied).note deviceId
      { e with error := "permission denied", outcome := .denied })

/-- A message of a bound device: its rules come first. -/
def publishFrom (g : Gate) (b : Backend) (deviceId topic : String) (payload : Bytes)
    (e : DeviceLog.Entry) : Decision × Backend :=
  match Identity.boundConfig b deviceId with
  | .error err => (.reject (.ofStore err), b.count .publishDenied)
  | .ok none => publishPlain b deviceId topic payload e
  | .ok (some configId) =>
    match Mapping.upTarget g.snapshotLifetime b configId topic with
    | (.error err, b) => (.reject (.ofMapping err), b.count .publishDenied)
    | (.ok none, b) => publishPlain b deviceId topic payload e
    | (.ok (some target), b) => redirectUp b deviceId target payload e

/-- A client publishes a message. What a privileged client publishes goes out as it is. -/
def publish (g : Gate) (b : Backend) (client : Client) (topic : String) (payload : Bytes) :
    Decision × Backend :=
  if client.isPrivileged then (.accept payload, forwardDown g b client topic payload)
  else match Identity.boundDevice b client.id with
    | .error e => (.reject (.ofStore e), b.count .publishDenied)
    | .ok none =>
      (.reject (.permission "client is not bound to a device"), b.count .publishDenied)
    | .ok (some deviceId) =>
      let entry := ({ heading := .up, action := .publish, outcome := .ok } : DeviceLog.Entry)
        |>.withClient client.id client.username |>.withTopic topic |>.withPayload payload
      publishFrom g b deviceId topic payload entry

end Gate

end DeviceGateway
