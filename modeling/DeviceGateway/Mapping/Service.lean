import DeviceGateway.Mapping.Route
import DeviceGateway.Mapping.Snapshot
/-!
Mapping by the rules that a configuration has at the time.
-/
namespace DeviceGateway.Mapping

def ask {α : Type} (lifetime : Nat) (b : Backend) (configId : String) (direction : Direction)
    (question : List Rule → α) : Except Error α × Backend :=
  match Snapshot.get lifetime b configId direction with
  | (.error e, b) => (.error e, b)
  | (.ok rules, b) => (.ok (question rules), b)

def upTarget (lifetime : Nat) (b : Backend) (configId topic : String) :
    Except Error (Option String) × Backend :=
  ask lifetime b configId .up (upTarget? · topic)

def allowsDown (lifetime : Nat) (b : Backend) (configId topic : String) :
    Except Error Bool × Backend :=
  ask lifetime b configId .down (allowsSubscribe · topic)

def downRoute (lifetime : Nat) (b : Backend) (configId topic number : String) (payload : Bytes) :
    Except Error (Option Route) × Backend :=
  ask lifetime b configId .down (downRoute? · topic number payload)

end DeviceGateway.Mapping
