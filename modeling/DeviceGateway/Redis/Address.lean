import DeviceGateway.Net.Url
/-!
Addresses of Redis servers. Over the network an address names a host, perhaps a user, and perhaps
the number of a database as its path; a socket on this machine is named by its path, and the number
may stand in the query. A connection is never encrypted.
-/
namespace DeviceGateway.Redis

open Net (Url)

/-- A whole number within 64 bits, in decimal digits with or without a sign. -/
def isDatabaseNumber (text : List Char) : Bool :=
  match text with
  | '-' :: digits => (Decimal.read? digits).any (· ≤ 0x8000000000000000)
  | '+' :: digits => (Decimal.read? digits).any (· < 0x8000000000000000)
  | digits => (Decimal.read? digits).any (· < 0x8000000000000000)

/-- Whether a locator names a server on the network. -/
def isRemote (u : Url) : Bool :=
  u.host ≠ [] && (u.pathText = [] || isDatabaseNumber u.pathText) &&
    (Url.unescaped? u.username).isSome && (Url.unescaped? u.password).isSome

/-- Whether a locator names a socket on this machine. -/
def isLocal (u : Url) : Bool :=
  (u.host = [] || u.host = "localhost".toList) && (u.path.getD []) ≠ [] &&
    ((u.values "db").getLast?.map isDatabaseNumber).getD true

/-- Whether a server could be looked for there. -/
def isAddress (address : String) : Bool :=
  match Url.parse? address with
  | none => false
  | some u =>
    if u.scheme = "redis".toList then isRemote u
    else if u.scheme = "unix".toList ∨ u.scheme = "redis+unix".toList then isLocal u
    else false

end DeviceGateway.Redis
