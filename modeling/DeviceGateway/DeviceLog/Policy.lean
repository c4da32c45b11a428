import DeviceGateway.Json.Codec
/-!
What of a device is logged, and until when.
-/
namespace DeviceGateway.DeviceLog

open Json.Codec

/-- `expireAt` is a second counted from 1970 on, and never if it is not positive. -/
structure Policy where
  enabled : Bool
  expireAt : Int64
  maxItems : Int64
  payloadMaxBytes : Int64
deriving DecidableEq, Repr

namespace Policy

def fields : List (Json.Codec.Field Policy) :=
  [.plain "enabled" .defaulted bool (·.enabled) fun p v => { p with enabled := v },
    .plain "expire_at" .defaulted int64 (·.expireAt) fun p v => { p with expireAt := v },
    .plain "max_items" .defaulted int64 (·.maxItems) fun p v => { p with maxItems := v },
    .plain "payload_max_bytes" .defaulted int64 (·.payloadMaxBytes)
      fun p v => { p with payloadMaxBytes := v }]

def codec : Json.Codec Policy := .record fields ⟨false, 0, 0, 0⟩

def isExpired (p : Policy) (now : Int64) : Bool := 0 < p.expireAt && p.expireAt < now

def defaultMaxItems : Int64 := 1000

def normalized (p : Policy) : Policy :=
  { p with
    maxItems := if p.maxItems ≤ 0 then defaultMaxItems else p.maxItems
    payloadMaxBytes := if p.payloadMaxBytes < 0 then 0 else p.payloadMaxBytes }

/-- The seconds that a log outlives its policy. -/
def grace : Int64 := 600

/-- A whole number brought within 64 bits. -/
def saturate (i : Int) : Int64 :=
  if i < Int64.minValue.toInt then Int64.minValue
  else if Int64.maxValue.toInt < i then Int64.maxValue
  else .ofInt i

/-- The seconds that a log has to live from `now` on, none if its policy does not expire. -/
def logLifetime (p : Policy) (now : Int64) : Option Nat :=
  if 0 < p.expireAt then
    let left := saturate (p.expireAt.toInt - now.toInt)
    let seconds := saturate (left.toInt + grace.toInt)
    if 0 < seconds then some seconds.toInt.toNat else none
  else none

end Policy

end DeviceGateway.DeviceLog
