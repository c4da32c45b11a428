import DeviceGateway.Store.Backend
/-!
The rules of a configuration in order of priority, and snapshots of them in the key-value store. A
snapshot spares the query of the rules; when it cannot be read or written, the rules are queried and
all goes on.
-/
namespace DeviceGateway.Mapping

inductive Error where
  | blankConfig
  | store (e : StoreError)
deriving DecidableEq, Repr

def blankConfigText : String := "device_config_id required"

def Error.message : Error → String
  | .blankConfig => "validation error: " ++ blankConfigText
  | .store e => "store error: " ++ e.message

/-- Puts rules in order of priority; those of one priority keep theirs. -/
def byPriority (rules : List Rule) : List Rule :=
  rules.mergeSort fun r s => r.priority.toInt ≤ s.priority.toInt

/-- The enabled rules of a configuration in order of priority, from the rule store. -/
def load (b : Backend) (configId : String) (direction : Direction) :
    Except Error (List Rule) × Backend :=
  if Text.isBlank configId then (.error .blankConfig, b)
  else match b.queryRules configId direction with
    | (.error e, b) => (.error (.store e), b)
    | (.ok rules, b) => (.ok (byPriority (rules.filter (·.enabled))), b)

namespace Snapshot

/-- The seconds that a snapshot lives when nothing else is asked for: a day. -/
def defaultLifetime : Nat := 86400

def key (direction : Direction) (configId : String) : String :=
  "topicmap:" ++ direction.name ++ ":" ++ configId

def codec : Json.Codec (List Rule) := .list Rule.codec

def read (b : Backend) (configId : String) (direction : Direction) : Option (List Rule) :=
  match b.get (key direction configId) with
  | .ok (some raw) => codec.decode? raw
  | _ => none

/-- Writes a snapshot, which lives for a second at least; a store that fails is left as it is. -/
def write (lifetime : Nat) (b : Backend) (configId : String) (direction : Direction)
    (rules : List Rule) : Backend :=
  match b.set (key direction configId) (codec.encode rules) (some (max lifetime 1)) with
  | .ok b => b
  | .error _ => b

/-- The rules of a configuration, from the snapshot or else from the rule store. -/
def get (lifetime : Nat) (b : Backend) (configId : String) (direction : Direction) :
    Except Error (List Rule) × Backend :=
  if Text.isBlank configId then (.error .blankConfig, b)
  else match read b configId direction with
    | some rules => (.ok rules, b)
    | none =>
      match load b configId direction with
      | (.error e, b) => (.error e, b)
      | (.ok rules, b) => (.ok rules, write lifetime b configId direction rules)

/-- Forgets the snapshots of both directions. -/
def invalidate (b : Backend) (configId : String) : Except Error Backend :=
  if Text.isBlank configId then .error .blankConfig
  else (b.delete [key .up configId, key .down configId]).mapError .store

end Snapshot

end DeviceGateway.Mapping
