import DeviceGateway.Pipeline
/-!
The life of the gateway within a broker: it is loaded once, whatever is asked later, and once
unloaded it never comes back.
-/
namespace DeviceGateway

inductive LoadError where
  | emptyPassword
  | unloaded
deriving DecidableEq, Repr

def LoadError.message : LoadError → String
  | .emptyPassword => "config error: privileged passwords must not be empty"
  | .unloaded => "plugin unloaded"

/-- What a gateway is to be made of. -/
structure Context where
  credentials : Credentials
  snapshotLifetime : Nat
  hooks : List Hook

namespace Context

/-- The pipeline of a context: its hooks, and a gate after them. -/
def pipeline? (c : Context) : Except LoadError Pipeline :=
  if c.credentials.root.isEmpty || c.credentials.plugin.isEmpty then .error .emptyPassword
  else .ok ⟨c.hooks, ⟨c.credentials, c.snapshotLifetime⟩⟩

end Context

structure Plugin where
  /-- What the first load gave. -/
  first : Option (Except LoadError Pipeline) := none
  unloaded : Bool := false

namespace Plugin

def name : String := "thingspanel"

/-- Loads the gateway, or gives again what the first load gave. -/
def load (p : Plugin) (c : Context) : Except LoadError Pipeline × Plugin :=
  if p.unloaded then (.error .unloaded, p)
  else match p.first with
    | some result => (result, p)
    | none => (c.pipeline?, { p with first := some c.pipeline? })

def unload (p : Plugin) : Plugin := { p with unloaded := true }

def running? (p : Plugin) : Option Pipeline :=
  if p.unloaded then none else p.first.bind Except.toOption

end Plugin

end DeviceGateway
