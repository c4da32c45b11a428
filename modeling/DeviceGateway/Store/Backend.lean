import DeviceGateway.Rule
import DeviceGateway.Store.KeyValue
import DeviceGateway.Text.Utf8
/-!
What a gateway works with: a key-value store, the devices, the mapping rules, a link for forwarded
messages, a clock and counters. Any of them may be failing; an operation that fails changes nothing
but, for a query of rules, the number of queries.
-/
namespace DeviceGateway

inductive StoreError where
  | wrongType
  | failed (op : KeyValue.Op)
  | devicesUnavailable
  | rulesUnavailable
deriving DecidableEq, Repr

def StoreError.message : StoreError → String
  | .wrongType => "WRONGTYPE Operation against a key holding the wrong kind of value"
  | .failed op => "kv " ++ op.name ++ " failed"
  | .devicesUnavailable => "device store unavailable"
  | .rulesUnavailable => "mapping store unavailable"

inductive ForwardError where
  | unavailable
deriving DecidableEq, Repr

def ForwardError.message : ForwardError → String
  | .unavailable => "publish failed: transport unavailable"

inductive Counter where
  | authOk
  | authDenied
  | subscribeOk
  | subscribeDenied
  | publishOk
  | publishDenied
  | publishRedirected
  | downForwarded
  | forwardFailures
deriving DecidableEq, Repr

namespace Counter

def all : List Counter :=
  [.authOk, .authDenied, .subscribeOk, .subscribeDenied, .publishOk, .publishDenied,
    .publishRedirected, .downForwarded, .forwardFailures]

def name : Counter → String
  | .authOk => "auth_ok"
  | .authDenied => "auth_denied"
  | .subscribeOk => "subscribe_ok"
  | .subscribeDenied => "subscribe_denied"
  | .publishOk => "publish_ok"
  | .publishDenied => "publish_denied"
  | .publishRedirected => "publish_redirected"
  | .downForwarded => "down_forwarded"
  | .forwardFailures => "forward_failures"

end Counter

/-- How often each thing happened. -/
abbrev Tally := Counter → Nat

def Tally.zero : Tally := fun _ => 0

def Tally.bump (t : Tally) (c : Counter) : Tally := fun d => if d = c then t d + 1 else t d

/-- Rules in the order in which they were added, and the number of queries so far. A store that does
not select answers every query with all its rules. -/
structure RuleStore where
  rules : List Rule := []
  selects : Bool := true
  queries : Nat := 0
deriving DecidableEq, Repr

namespace RuleStore

def enabled (s : RuleStore) (configId : String) (direction : Direction) : List Rule :=
  if s.selects then
    s.rules.filter fun r => r.enabled && r.direction = direction && r.configId = configId
  else s.rules

def add (s : RuleStore) (r : Rule) : RuleStore := { s with rules := s.rules ++ [r] }

def remove (s : RuleStore) (id : Int64) : RuleStore :=
  { s with rules := s.rules.filter fun r => r.id ≠ id }

def has (s : RuleStore) (id : Int64) : Bool := s.rules.any fun r => r.id = id

end RuleStore

/-- Devices, one for each id. -/
structure Devices where
  records : List Device := []
deriving DecidableEq, Repr

namespace Devices

/-- Adds a device, in place of the one that has its id. -/
def put (ds : Devices) (d : Device) : Devices :=
  ⟨d :: ds.records.filter fun e => e.id ≠ d.id⟩

def byId (ds : Devices) (id : String) : Option Device := ds.records.find? fun d => d.id = id

def byNumber (ds : Devices) (n : String) : Option Device := ds.records.find? fun d => d.number = n

def byVoucher (ds : Devices) (v : String) : Option Device := ds.records.find? fun d => d.voucher = v

/-- What a device can be asked for by. -/
inductive Query where
  | id (id : String)
  | number (n : String)
  | voucher (v : String)
deriving DecidableEq, Repr

def find? (ds : Devices) : Query → Option Device
  | .id id => ds.byId id
  | .number n => ds.byNumber n
  | .voucher v => ds.byVoucher v

end Devices

/-- The parts that are failing, and the calls that are lost while the rest of their part works:
those on single keys, and single questions for a device. -/
structure Faults where
  keyValue : List KeyValue.Op := []
  lost : List (KeyValue.Op × String) := []
  devices : Bool := false
  unanswered : List Devices.Query := []
  rules : Bool := false
  forwarder : Bool := false
deriving DecidableEq, Repr

/-- A second counted from 1970 on, and the nanoseconds since. -/
structure Instant where
  seconds : Int64
  nano : Nat := 0
deriving DecidableEq, Repr

def Instant.timestamp (i : Instant) : Timestamp := .ofUnix i.seconds.toInt i.nano

/-- A message as it goes over the link. -/
structure Message where
  topic : String
  payload : Bytes
deriving DecidableEq, Repr

structure Backend where
  keyValue : KeyValue := {}
  devices : Devices := {}
  rules : RuleStore := {}
  /-- The messages forwarded so far, in order. -/
  sent : List Message := []
  /-- The writes to the key-value store so far, in order. -/
  journal : List KeyValue.Write := []
  tally : Tally := Tally.zero
  clock : Instant := ⟨2000, 0⟩
  faults : Faults := {}

namespace Backend

variable {α : Type}

/-- Whether an operation on some keys fails. -/
def fails (b : Backend) (op : KeyValue.Op) (keys : List String) : Bool :=
  b.faults.keyValue.contains op || keys.any fun key => b.faults.lost.contains (op, key)

/-- The answer of an operation on the key-value store; `none` stands for a key of the wrong type. -/
def attempt (b : Backend) (op : KeyValue.Op) (keys : List String) (answer : Option α) :
    Except StoreError α :=
  if b.fails op keys then .error (.failed op)
  else match answer with
    | some a => .ok a
    | none => .error .wrongType

def get (b : Backend) (key : String) : Except StoreError (Option String) :=
  b.attempt .get [key] (b.keyValue.text? key)

def list (b : Backend) (key : String) : Except StoreError (List String) :=
  b.attempt .list [key] (b.keyValue.items? key)

def ttl (b : Backend) (key : String) : Except StoreError (Option Nat) :=
  b.attempt .ttl [key] (some (b.keyValue.ttl? key))

def wrote (b : Backend) (w : KeyValue.Write) (kv : KeyValue) : Backend :=
  { b with keyValue := kv, journal := b.journal ++ [w] }

def set (b : Backend) (key value : String) (ttl : Option Nat) : Except StoreError Backend :=
  b.attempt .set [key] (some (b.wrote (.set key value ttl) (b.keyValue.set key value ttl)))

def delete (b : Backend) (keys : List String) : Except StoreError Backend :=
  b.attempt .delete keys (some (b.wrote (.delete keys) (b.keyValue.delete keys)))

def push (b : Backend) (key value : String) (maxItems : Nat) (ttl : Option Nat) :
    Except StoreError Backend :=
  b.attempt .push [key] ((b.keyValue.push? key value maxItems ttl).map
    (b.wrote (.push key value maxItems ttl)))

def device (b : Backend) (find : Devices → Option Device) : Except StoreError (Option Device) :=
  if b.faults.devices then .error .devicesUnavailable else .ok (find b.devices)

def ask (b : Backend) (q : Devices.Query) : Except StoreError (Option Device) :=
  if q ∈ b.faults.unanswered then .error .devicesUnavailable else b.device (·.find? q)

/-- Asks for the enabled rules of a configuration, in no particular order of priority. -/
def queryRules (b : Backend) (configId : String) (direction : Direction) :
    Except StoreError (List Rule) × Backend :=
  let asked := { b with rules := { b.rules with queries := b.rules.queries + 1 } }
  if b.faults.rules then (.error .rulesUnavailable, asked)
  else (.ok (b.rules.enabled configId direction), asked)

def send (b : Backend) (topic : String) (payload : Bytes) : Except ForwardError Backend :=
  if b.faults.forwarder then .error .unavailable
  else .ok { b with sent := b.sent ++ [⟨topic, payload⟩] }

def count (b : Backend) (c : Counter) : Backend := { b with tally := b.tally.bump c }

end Backend

end DeviceGateway
