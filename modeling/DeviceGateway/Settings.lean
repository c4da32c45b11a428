import DeviceGateway.Decimal.Digits
import DeviceGateway.Settings.Environment
import DeviceGateway.Text.Shown
/-!
The settings of a gateway, read from the environment. Three must be given, all others have values of
their own; the first variable that is missing or cannot be read is the one that is named.
-/
namespace DeviceGateway

inductive SettingsError where
  | missing (name : String)
  | invalid (name value : String)
deriving DecidableEq, Repr

namespace SettingsError

def message : SettingsError → String
  | .missing name => "missing required env: " ++ name
  | .invalid name value => "invalid value for " ++ name ++ ": " ++ value

def shown : SettingsError → String
  | .missing name => "Missing(" ++ Text.shown name ++ ")"
  | .invalid name value => "Invalid(" ++ Text.shown name ++ ", " ++ Text.shown value ++ ")"

end SettingsError

structure Settings where
  httpAddress : String
  databaseUrl : String
  redisUrl : String
  rootPassword : String
  pluginPassword : String
  mqttHost : String
  mqttPort : Nat
  /-- The seconds that a snapshot of rules lives. -/
  snapshotLifetime : Nat
  /-- The seconds that a message may wait for a connection. -/
  readyWait : Nat
  /-- The seconds that a message may wait for a place in the queue. -/
  confirmTimeout : Nat
  qos : Nat
deriving DecidableEq, Repr

namespace Settings

/-- A number in decimal digits, with or without a plus sign in front. -/
def natural? (s : String) : Option Nat :=
  match s.toList with
  | '+' :: digits => Decimal.read? digits
  | digits => Decimal.read? digits

/-- A variable that must be given and may not be empty. -/
def required (env : Environment) (name : String) : Except SettingsError String :=
  match env.text? name with
  | some s => if s.isEmpty then .error (.missing name) else .ok s
  | none => .error (.missing name)

/-- A number up to `greatest`, or the value of a variable that is not given. -/
def number (env : Environment) (name : String) (greatest unset : Nat) : Except SettingsError Nat :=
  match env.text? name with
  | none => .ok unset
  | some s =>
    match natural? s with
    | some n => if n ≤ greatest then .ok n else .error (.invalid name s)
    | none => .error (.invalid name s)

/-- The quality of service, of which there are three; a greater number is shown without its sign and
leading zeros. -/
def quality (env : Environment) (name : String) (unset : Nat) : Except SettingsError Nat := do
  let n ← number env name 255 unset
  if n ≤ 2 then return n else throw (.invalid name (.ofList (Decimal.write n)))

def ofEnvironment (env : Environment) : Except SettingsError Settings := do
  let databaseUrl ← required env "TG_DATABASE_URL"
  let rootPassword ← required env "TG_MQTT_ROOT_PASSWORD"
  let pluginPassword ← required env "TG_MQTT_PLUGIN_PASSWORD"
  let mqttPort ← number env "TG_MQTT_PORT" 0xFFFF 1883
  let snapshotLifetime ← number env "TG_TOPICMAP_CACHE_TTL_SECONDS" 0xFFFFFFFFFFFFFFFF 86400
  let readyWait ← number env "TG_FORWARD_READY_WAIT_SECONDS" 0xFFFFFFFFFFFFFFFF 10
  let confirmTimeout ← number env "TG_FORWARD_CONFIRM_TIMEOUT_SECONDS" 0xFFFFFFFFFFFFFFFF 5
  let qos ← quality env "TG_FORWARD_QOS" 1
  return {
    httpAddress := (env.text? "TG_HTTP_ADDR").getD "127.0.0.1:8090"
    databaseUrl
    redisUrl := (env.text? "TG_REDIS_URL").getD "redis://127.0.0.1:6379"
    rootPassword
    pluginPassword
    mqttHost := (env.text? "TG_MQTT_HOST").getD "127.0.0.1"
    mqttPort
    snapshotLifetime
    readyWait
    confirmTimeout
    qos }

def names : List String :=
  ["TG_DATABASE_URL", "TG_MQTT_ROOT_PASSWORD", "TG_MQTT_PLUGIN_PASSWORD", "TG_HTTP_ADDR",
    "TG_REDIS_URL", "TG_MQTT_HOST", "TG_MQTT_PORT", "TG_TOPICMAP_CACHE_TTL_SECONDS",
    "TG_FORWARD_READY_WAIT_SECONDS", "TG_FORWARD_CONFIRM_TIMEOUT_SECONDS", "TG_FORWARD_QOS"]

end Settings

end DeviceGateway
