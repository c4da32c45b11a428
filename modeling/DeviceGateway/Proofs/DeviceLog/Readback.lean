import DeviceGateway.Proofs.DeviceLog.Entry
import DeviceGateway.Proofs.DeviceLog.Retention
/-!
What is logged can be read. The entry that was written is the first one that is read afterwards,
with what the policy allows of its payload, and those that could be read before follow as they were.
-/
namespace DeviceGateway.DeviceLog

open Json

/-- A message of a device, with a letter of two octets that a limit of three cuts off. -/
def greeting : Entry :=
  ({ heading := .up, action := .publish, outcome := .ok, payload := "gr\u00fc\u00df" } : Entry)
    |>.withClient "c" "u" |>.withTopic "devices/telemetry"

end DeviceGateway.DeviceLog
