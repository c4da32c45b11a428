import DeviceGateway.Gate
/-!
Hooks that are asked before the gate, in order. The first one to refuse ends the event, and the gate
never learns of it; a hook that accepts a message may change its payload for the next.
-/
namespace DeviceGateway

/-- A hook that keeps no state; what it does not decide on it accepts. -/
structure Hook where
  name : String
  onAuth : Client → String → String → Except Refusal Unit := fun _ _ _ => .ok ()
  onSubscribe : Client → String → Except Refusal Unit := fun _ _ => .ok ()
  onPublish : Client → String → Bytes → Decision := fun _ _ payload => .accept payload

/-- What the broker is told about a published message. -/
inductive Delivery where
  | deliver (payload : Bytes)
  | rejected (refusal : Refusal)
  | discarded (topic : String) (payload : Bytes)
deriving DecidableEq, Repr

def Decision.delivery : Decision → Delivery
  | .accept payload => .deliver payload
  | .reject refusal => .rejected refusal
  | .redirect topic payload => .discarded topic payload

/-- The hooks of other parts of the broker, and the gate after them. -/
structure Pipeline where
  hooks : List Hook
  gate : Gate

namespace Pipeline

def gateName : String := "topic-gate"

def names (p : Pipeline) : List String := p.hooks.map (·.name) ++ [gateName]

/-- Asks hooks in order up to the first refusal. -/
def askAll (ask : Hook → Except Refusal Unit) : List Hook → Except Refusal Unit
  | [] => .ok ()
  | h :: rest =>
    match ask h with
    | .ok () => askAll ask rest
    | .error refusal => .error refusal

/-- Passes a payload through hooks in order, up to the first that does not accept it. -/
def passAll (client : Client) (topic : String) : List Hook → Bytes → Decision
  | [], payload => .accept payload
  | h :: rest, payload =>
    match h.onPublish client topic payload with
    | .accept payload => passAll client topic rest payload
    | decision => decision

def authenticate (p : Pipeline) (b : Backend) (client : Client) (username password : String) :
    Except Refusal Unit × Backend :=
  match askAll (·.onAuth client username password) p.hooks with
  | .error refusal => (.error refusal, b)
  | .ok () => p.gate.authenticate b client username password

def connected (_ : Pipeline) (b : Backend) (client : Client) : Backend := Gate.connected b client

def subscribe (p : Pipeline) (b : Backend) (client : Client) (topic : String) :
    Except Refusal Unit × Backend :=
  match askAll (·.onSubscribe client topic) p.hooks with
  | .error refusal => (.error refusal, b)
  | .ok () => p.gate.subscribe b client topic

def publish (p : Pipeline) (b : Backend) (client : Client) (topic : String) (payload : Bytes) :
    Delivery × Backend :=
  match passAll client topic p.hooks payload with
  | .accept payload =>
    let (decision, b) := p.gate.publish b client topic payload
    (decision.delivery, b)
  | decision => (decision.delivery, b)

def closed (_ : Pipeline) (b : Backend) (client : Client) : Backend := Gate.closed b client

end Pipeline

namespace Hook

def passive (name : String) : Hook := { name }

def denyAuth (name : String) : Hook where
  name
  onAuth _ username _ := .error (.auth ("blocked " ++ username))

def denySubscribe (name : String) : Hook where
  name
  onSubscribe _ topic := .error (.permission ("blocked " ++ topic))

def denyPublish (name : String) (refusal : Refusal) : Hook where
  name
  onPublish _ _ _ := .reject refusal

def alter (name : String) (f : Bytes → Bytes) : Hook where
  name
  onPublish _ _ payload := .accept (f payload)

def divert (name : String) (f : String → String) : Hook where
  name
  onPublish _ topic payload := .redirect (f topic) payload

def upperOctet (b : UInt8) : UInt8 := if 97 ≤ b ∧ b ≤ 122 then b - 32 else b

/-- A hook by the name of its kind; an unknown kind accepts everything. -/
def ofKind (kind : String) : Hook :=
  if kind = "deny-auth" then denyAuth kind
  else if kind = "deny-subscribe" then denySubscribe kind
  else if kind = "deny-publish" then denyPublish kind (.permission "blocked publish")
  else if kind = "store-publish" then denyPublish kind (.store "upstream store")
  else if kind = "uppercase" then alter kind (·.map upperOctet)
  else if kind = "append" then alter kind (· ++ [33])
  else if kind = "redirect" then divert kind ("redirected/" ++ ·)
  else passive kind

end Hook

end DeviceGateway
