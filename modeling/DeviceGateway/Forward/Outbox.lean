import DeviceGateway.Store.Backend
import DeviceGateway.Topic.Template
/-!
Messages on their way to the broker while there is no connection: each waits until the connection
would have been ready, and then for a place in a queue that nothing empties.
-/
namespace DeviceGateway.Forward

/-- How long to wait, in milliseconds. -/
structure Patience where
  /-- For a connection. -/
  ready : Nat
  /-- For a place in the queue. -/
  confirm : Nat
deriving DecidableEq, Repr

/-- The milliseconds between two looks at the connection. -/
def pollInterval : Nat := 1000

/-- The milliseconds until waiting for a connection ends, which is at a look. -/
def Patience.polled (p : Patience) : Nat :=
  (p.ready + pollInterval - 1) / pollInterval * pollInterval

/-- The messages that are queued, in order. -/
structure Outbox where
  queue : List Message := []
deriving DecidableEq, Repr

inductive Handover where
  | queued
  | wildcard
  | full
deriving DecidableEq, Repr

namespace Outbox

def capacity : Nat := 64

/-- Hands a message over; a topic that stands for several is refused at once. -/
def offer (box : Outbox) (m : Message) : Handover × Outbox :=
  if Topic.hasWildcard m.topic then (.wildcard, box)
  else if box.queue.length < capacity then (.queued, ⟨box.queue ++ [m]⟩)
  else (.full, box)

def offerTimes (box : Outbox) (m : Message) : Nat → List Handover × Outbox
  | 0 => ([], box)
  | n + 1 =>
    let (h, box) := box.offer m
    let (hs, box) := offerTimes box m n
    (h :: hs, box)

end Outbox

def failures (hs : List Handover) : Nat := hs.countP (· ≠ .queued)

/-- The milliseconds until the last of some messages, all sent at one time, has been dealt with. -/
def Patience.settled (p : Patience) (hs : List Handover) : Nat :=
  if hs.isEmpty then 0 else p.polled + (if hs.contains .full then p.confirm else 0)

end DeviceGateway.Forward
