import DeviceGateway.Store.Backend
/-!
The calls to a key-value store as data, and the answers that they get, one after the other.
-/
namespace DeviceGateway

namespace KeyValue

/-- A call to a key-value store. -/
inductive Request where
  | get (key : String)
  | set (key value : String) (ttl : Option Nat)
  | delete (keys : List String)
  | push (key value : String) (maxItems : Nat) (ttl : Option Nat)
  | list (key : String)
  | ttl (key : String)
deriving DecidableEq, Repr

namespace Request

/-- What is replied to a call that does not fail. -/
def Reply : Request → Type
  | .get _ => Option String
  | .set _ _ _ | .delete _ | .push _ _ _ _ => Unit
  | .list _ => List String
  | .ttl _ => Option Nat

abbrev Answered := (r : Request) × Option r.Reply

/-- What a store of any kind replies to calls in turn, and the store afterwards. -/
def answers {σ : Type} (serve : σ → (r : Request) → Option r.Reply × σ) :
    σ → List Request → List Answered × σ
  | s, [] => ([], s)
  | s, r :: rest =>
    let (reply, s) := serve s r
    let (replies, s) := answers serve s rest
    (⟨r, reply⟩ :: replies, s)

end Request

end KeyValue

namespace Backend

open KeyValue (Request)

/-- What is left of a call that writes; one that fails leaves the backend as it was. -/
def settle (b : Backend) : Except StoreError Backend → Except StoreError Unit × Backend
  | .ok after => (.ok (), after)
  | .error e => (.error e, b)

def serve (b : Backend) : (r : Request) → Except StoreError r.Reply × Backend
  | .get key => (b.get key, b)
  | .set key value ttl => b.settle (b.set key value ttl)
  | .delete keys => b.settle (b.delete keys)
  | .push key value maxItems ttl => b.settle (b.push key value maxItems ttl)
  | .list key => (b.list key, b)
  | .ttl key => (b.ttl key, b)

end Backend

end DeviceGateway
