import DeviceGateway.Redis.Server
/-!
The key-value operations of the gateway as calls to a Redis server: the commands that each sends,
and what it makes of the replies. A call that sends nothing needs no server.
-/
namespace DeviceGateway.Redis

/-- Commands to be sent together; more than one go as a transaction. An answer of `none` is a
failure. -/
structure Call (α : Type) where
  commands : List Command
  answer? : List Reply → Option α

namespace Call

variable {α : Type}

def sent (c : Call α) : List (List String) :=
  match c.commands with
  | [] => []
  | [command] => [command.words]
  | commands => ["MULTI"] :: commands.map Command.words ++ [["EXEC"]]

/-- Makes a call to a server, or to none if there is none to be reached. -/
def perform (c : Call α) (server : Option Database) : Option α × Option Database :=
  if c.commands.isEmpty then (c.answer? [], server)
  else match server with
    | none => (none, none)
    | some db =>
      let (replies, db) := runAll c.commands db
      (c.answer? replies, some db)

end Call

/-- What counts is that no reply is an error. -/
def settled (replies : List Reply) : Option Unit :=
  if replies.any Reply.isError then none else some ()

def get (key : String) : Call (Option String) where
  commands := [.get key]
  answer?
    | [.text value] => some (some value)
    | [.missing] => some none
    | _ => none

/-- A time to live of zero seconds is none. -/
def set (key value : String) (ttl : Option Nat) : Call Unit where
  commands :=
    match ttl with
    | some (s + 1) => [.setFor key (s + 1) value]
    | _ => [.set key value]
  answer? := settled

def delete (keys : List String) : Call Unit where
  commands := if keys.isEmpty then [] else [.delete keys]
  answer? := settled

/-- The place of the last item that a list of at most `maxItems` keeps, in the signed words of the
server. -/
def lastPlace (maxItems : Nat) : Int := (Int64.ofNat (max maxItems 1) - 1).toInt

def push (key value : String) (maxItems : Nat) (ttl : Option Nat) : Call Unit where
  commands :=
    [.pushFront key value, .trim key 0 (lastPlace maxItems)] ++
      match ttl with
      | some (s + 1) => [.expire key (s + 1)]
      | _ => []
  answer? := settled

def list (key : String) : Call (List String) where
  commands := [.range key 0 (-1)]
  answer?
    | [.items values] => some values
    | _ => none

/-- A key without an expiry, or without an entry, has no time to live. -/
def ttl (key : String) : Call (Option Nat) where
  commands := [.ttl key]
  answer?
    | [.number n] => some (if 0 ≤ n then some n.toNat else none)
    | _ => none

end DeviceGateway.Redis
