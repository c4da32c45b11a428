import DeviceGateway.Decimal.Digits
/-!
The commands of a Redis server that the gateway sends, as words, and the replies to them.
-/
namespace DeviceGateway.Redis

inductive Command where
  | get (key : String)
  | set (key value : String)
  | setFor (key : String) (seconds : Nat) (value : String)
  | delete (keys : List String)
  | pushFront (key value : String)
  | trim (key : String) (start stop : Int)
  | expire (key : String) (seconds : Nat)
  | range (key : String) (start stop : Int)
  | ttl (key : String)
deriving DecidableEq, Repr

def word (i : Int) : String := .ofList (Decimal.writeInt i)

def Command.words : Command → List String
  | .get key => ["GET", key]
  | .set key value => ["SET", key, value]
  | .setFor key seconds value => ["SETEX", key, word seconds, value]
  | .delete keys => "DEL" :: keys
  | .pushFront key value => ["LPUSH", key, value]
  | .trim key start stop => ["LTRIM", key, word start, word stop]
  | .expire key seconds => ["EXPIRE", key, word seconds]
  | .range key start stop => ["LRANGE", key, word start, word stop]
  | .ttl key => ["TTL", key]

inductive Reply where
  | done
  | missing
  | text (value : String)
  | number (value : Int)
  | items (values : List String)
  | error (message : String)
deriving DecidableEq, Repr

def Reply.isError : Reply → Bool
  | .error _ => true
  | _ => false

end DeviceGateway.Redis
