import DeviceGateway.DeviceLog.Entry
import DeviceGateway.DeviceLog.Policy
import DeviceGateway.Store.Backend
/-!
The logs of devices: kept in the key-value store, newest first, as long as each device's policy
says. An entry is written only while there is a policy in force.
-/
namespace DeviceGateway.DeviceLog

inductive Error where
  | emptyDevice
  | store (e : StoreError)
  | malformed
deriving DecidableEq, Repr

/-- The text of an error; a malformed policy has none of its own. -/
def Error.message? : Error → Option String
  | .emptyDevice => some "validation error: empty device_id"
  | .store e => some ("store error: " ++ e.message)
  | .malformed => none

def policyKey (deviceId : String) : String := "devdebug:cfg:" ++ deviceId

def logsKey (deviceId : String) : String := "devdebug:logs:" ++ deviceId

/-- The policy in force: set, enabled and not expired. -/
def policy (b : Backend) (deviceId : String) : Except Error (Option Policy) :=
  if deviceId.isEmpty then .error .emptyDevice
  else match b.get (policyKey deviceId) with
    | .error e => .error (.store e)
    | .ok none => .ok none
    | .ok (some raw) =>
      match Policy.codec.decode? raw with
      | none => .error .malformed
      | some p =>
        if !p.enabled || p.isExpired b.clock.seconds then .ok none else .ok (some p.normalized)

def setPolicy (b : Backend) (deviceId : String) (p : Policy) : Except Error Backend :=
  if deviceId.isEmpty then .error .emptyDevice
  else (b.set (policyKey deviceId) (Policy.codec.encode p) none).mapError .store

/-- Cuts the payload to the policy's limit, and marks the entry if anything was cut off. -/
def Entry.limited (e : Entry) (limit : Nat) : Entry :=
  if limit = 0 then { e with payload := "" }
  else if limit < Utf8.size e.payload.toList then
    let payload := .ofList (Utf8.truncate limit e.payload.toList)
    { e with payload }.withDetail "payload_truncated" (.bool true)
  else e

/-- The entry as it is logged: for the device, with a time, and with what the policy allows of its
payload. -/
def Entry.prepared (e : Entry) (deviceId : String) (now : Instant) (p : Policy) : Entry :=
  let ts := if e.ts.isEmpty then .ofList (now.timestamp.write .nanos) else e.ts
  { e with deviceId, ts }.limited p.payloadMaxBytes.toInt.toNat

/-- Writes an entry, and tells whether there was a policy to write it under. -/
def write (b : Backend) (deviceId : String) (e : Entry) : Except Error Bool × Backend :=
  match policy b deviceId with
  | .error err => (.error err, b)
  | .ok none => (.ok false, b)
  | .ok (some p) =>
    let raw := Entry.codec.encode (e.prepared deviceId b.clock p)
    match b.push (logsKey deviceId) raw p.maxItems.toInt.toNat (p.logLifetime b.clock.seconds) with
    | .error err => (.error (.store err), b)
    | .ok b => (.ok true, b)

/-- The entries of a device, newest first; items that are no entries are left out. -/
def entries (b : Backend) (deviceId : String) : Except Error (List Entry) :=
  match b.list (logsKey deviceId) with
  | .error e => .error (.store e)
  | .ok items => .ok (items.filterMap Entry.codec.decode?)

end DeviceGateway.DeviceLog
