import DeviceGateway.Redis.Command
import DeviceGateway.Store.KeyValue
/-!
What a Redis server does with commands, by its documentation. A list never is empty: the key goes
with its last item. No time passes by itself.
-/
namespace DeviceGateway.Redis

open KeyValue (Content Entry)

/-- What is stored at each key. -/
abbrev Database := String → Option Entry

namespace Database

def empty : Database := fun _ => none

def put (db : Database) (key : String) (entry : Option Entry) : Database :=
  fun k => if k = key then entry else db k

/-- Stores a list, or nothing if it is empty. -/
def putItems (db : Database) (key : String) (items : List String) (ttl : Option Nat) : Database :=
  db.put key (if items.isEmpty then none else some ⟨.list items, ttl⟩)

end Database

def wrongType : Reply :=
  .error "WRONGTYPE Operation against a key holding the wrong kind of value"

def badExpiry : Reply := .error "ERR invalid expire time"

/-- The most seconds from now on that the server's clock of milliseconds can tell the end of. -/
def maxSeconds : Nat := 0x8000000000000000 / 1000 - 0x100000000

/-- The items from `start` to `stop`, both included; a negative place counts from the end. -/
def slice (items : List String) (start stop : Int) : List String :=
  let size : Int := items.length
  let first := max 0 (if start < 0 then start + size else start)
  let last := if stop < 0 then stop + size else stop
  if last < first then [] else (items.drop first.toNat).take (last - first + 1).toNat

def Command.run (c : Command) (db : Database) : Reply × Database :=
  match c with
  | .get key =>
    match db key with
    | none => (.missing, db)
    | some ⟨.text value, _⟩ => (.text value, db)
    | some ⟨.list _, _⟩ => (wrongType, db)
  | .set key value => (.done, db.put key (some ⟨.text value, none⟩))
  | .setFor key seconds value =>
    if seconds = 0 ∨ maxSeconds < seconds then (badExpiry, db)
    else (.done, db.put key (some ⟨.text value, some seconds⟩))
  | .delete keys =>
    (.number (keys.eraseDups.filter fun k => (db k).isSome).length,
      keys.foldl (fun db k => db.put k none) db)
  | .pushFront key value =>
    match db key with
    | none => (.number 1, db.putItems key [value] none)
    | some ⟨.list items, left⟩ =>
      (.number (items.length + 1), db.putItems key (value :: items) left)
    | some ⟨.text _, _⟩ => (wrongType, db)
  | .trim key start stop =>
    match db key with
    | none => (.done, db)
    | some ⟨.list items, left⟩ => (.done, db.putItems key (slice items start stop) left)
    | some ⟨.text _, _⟩ => (wrongType, db)
  | .expire key seconds =>
    if maxSeconds < seconds then (badExpiry, db)
    else match db key with
      | none => (.number 0, db)
      | some ⟨content, _⟩ =>
        (.number 1, db.put key (if seconds = 0 then none else some ⟨content, some seconds⟩))
  | .range key start stop =>
    match db key with
    | none => (.items [], db)
    | some ⟨.list items, _⟩ => (.items (slice items start stop), db)
    | some ⟨.text _, _⟩ => (wrongType, db)
  | .ttl key =>
    match db key with
    | none => (.number (-2), db)
    | some ⟨_, none⟩ => (.number (-1), db)
    | some ⟨_, some seconds⟩ => (.number seconds, db)

/-- Runs commands in order; one that gives an error does not stop those after it. -/
def runAll : List Command → Database → List Reply × Database
  | [], db => ([], db)
  | c :: rest, db =>
    let (reply, db) := c.run db
    let (replies, db) := runAll rest db
    (reply :: replies, db)

end DeviceGateway.Redis
