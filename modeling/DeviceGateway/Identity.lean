import DeviceGateway.Store.Backend
/-!
Who a client is: the device whose credentials it presented, looked up by voucher, and the binding of
the client to that device.
-/
namespace DeviceGateway

/-- A connection, as the broker names it. -/
structure Client where
  id : String
  username : String
deriving DecidableEq, Repr

/-- The account of the platform itself. -/
def rootUsername : String := "root"

/-- The account of the gateway. -/
def pluginUsername : String := "plugin"

def isPrivileged (username : String) : Bool := username = rootUsername || username = pluginUsername

def Client.isPrivileged (c : Client) : Bool := DeviceGateway.isPrivileged c.username

/-- Credentials as devices are stored with them: nothing is escaped, and an empty password is left
out. -/
def voucher (username password : String) : String :=
  if password.isEmpty then "\x7b\"username\":\"" ++ username ++ "\"\x7d"
  else "\x7b\"username\":\"" ++ username ++ "\",\"password\":\"" ++ password ++ "\"\x7d"

/-- A configuration without a name counts as none. -/
def Device.config? (d : Device) : Option String :=
  d.configId.filter fun s => !s.isEmpty

namespace Identity

def bindingKey (clientId : String) : String := "client_id_binding:" ++ clientId

/-- Finds a device by its voucher in the device store, and keeps its id under the voucher. -/
def storedDevice (b : Backend) (v : String) : Except StoreError (Option Device) × Backend :=
  match b.ask (.voucher v) with
  | .error e => (.error e, b)
  | .ok none => (.ok none, b)
  | .ok (some d) =>
    match b.set v d.id none with
    | .error e => (.error e, b)
    | .ok b => (.ok (some d), b)

/-- Finds a device by its voucher: by the id kept under it, if there still is such a device. -/
def deviceByVoucher (b : Backend) (v : String) : Except StoreError (Option Device) × Backend :=
  match b.get v with
  | .error e => (.error e, b)
  | .ok none => storedDevice b v
  | .ok (some id) =>
    match b.ask (.id id) with
    | .error e => (.error e, b)
    | .ok (some d) => (.ok (some d), b)
    | .ok none => storedDevice b v

/-- Binds a client to a device, in place of any device before. -/
def bind (b : Backend) (clientId deviceId : String) : Except StoreError Backend :=
  b.set (bindingKey clientId) deviceId none

/-- The id of the device that a client is bound to; a client without a name is bound to none. -/
def boundDevice (b : Backend) (clientId : String) : Except StoreError (Option String) :=
  if clientId.isEmpty then .ok none
  else (b.get (bindingKey clientId)).map fun id => id.filter fun s => !s.isEmpty

/-- The configuration of a device, if it is stored and has one. -/
def boundConfig (b : Backend) (deviceId : String) : Except StoreError (Option String) :=
  (b.ask (.id deviceId)).map fun d => d.bind Device.config?

end Identity

end DeviceGateway
