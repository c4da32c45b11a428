import DeviceGateway.Topic.Pattern
/-!
The platform's own topics: which of them devices may publish and subscribe to without a rule of
their own, and which device a downstream topic is meant for. Topics are compared level by level,
never across one.
-/
namespace DeviceGateway.Topic.Canonical

/-- What devices may publish to. -/
def publishTemplates : List String :=
  ["devices/telemetry/control", "devices/attributes/+", "devices/event/+", "ota/device/progress",
    "devices/attributes/set/response/+", "devices/command/response/+", "gateway/telemetry/control",
    "gateway/attributes/+", "gateway/event/+", "gateway/attributes/set/response/+",
    "gateway/command/response/+", "+/up"]

/-- What devices may subscribe to. -/
def subscribeTemplates : List String :=
  ["devices/telemetry/control/\x7bdevice_number\x7d",
    "devices/telemetry/control/\x7bdevice_number\x7d/+",
    "devices/attributes/set/\x7bdevice_number\x7d/+",
    "devices/attributes/get/\x7bdevice_number\x7d",
    "devices/command/\x7bdevice_number\x7d/+",
    "ota/devices/infrom/\x7bdevice_number\x7d",
    "devices/attributes/response/\x7bdevice_number\x7d/+",
    "devices/event/response/\x7bdevice_number\x7d/+",
    "gateway/telemetry/control/\x7bdevice_number\x7d",
    "gateway/attributes/set/\x7bdevice_number\x7d/+",
    "gateway/attributes/get/\x7bdevice_number\x7d",
    "gateway/command/\x7bdevice_number\x7d/+",
    "gateway/attributes/response/\x7bdevice_number\x7d/+",
    "gateway/event/response/\x7bdevice_number\x7d/+",
    "\x7bdevice_number\x7d/down",
    "devices/register/response/+",
    "devices/config/down/response/+"]

/-- The level that stands for the device's number. -/
def numberLevel : List Char := "\x7bdevice_number\x7d".toList

/-- The parts of a topic between the slashes. -/
def levels : List Char → List (List Char)
  | [] => [[]]
  | c :: rest =>
    if c = '/' then [] :: levels rest
    else match levels rest with
      | [] => [[c]]
      | level :: more => (c :: level) :: more

/-- A wildcard level lets anything pass, any other level itself alone. -/
def publishLevel (topic template : List Char) : Bool := template = ['+'] || topic = template

/-- The device's number has to be spelled out, and no level may stand for several. -/
def subscribeLevel (topic template : List Char) : Bool :=
  if template = numberLevel then topic ≠ ['+'] && topic ≠ ['#']
  else if template = ['+'] then topic ≠ ['#']
  else topic = template

/-- Compares two topics of equally many levels. -/
def agree (level : List Char → List Char → Bool) (topic template : String) : Bool :=
  let ts := levels topic.toList
  let ps := levels template.toList
  ts.length = ps.length && (ts.zip ps).all fun (t, p) => level t p

def publishable (topic : String) : Bool := publishTemplates.any (agree publishLevel topic)

def subscribable (topic : String) : Bool := subscribeTemplates.any (agree subscribeLevel topic)

/-- The downstream templates that name a device, less the one that is too broad. -/
def downTemplates : List String :=
  subscribeTemplates.filter fun t =>
    (levels t.toList).contains numberLevel && t ≠ "\x7bdevice_number\x7d/down"

/-- The number of the device that a downstream topic is meant for. -/
def deviceNumber? (topic : String) : Option String :=
  (downTemplates.filterMap fun t => extract? t topic).find? fun n => !n.isEmpty

theorem levels_ne_nil (topic : List Char) : levels topic ≠ [] := by
  cases topic with
  | nil => simp [levels]
  | cons c rest =>
    unfold levels
    split
    · simp
    · split <;> simp

end DeviceGateway.Topic.Canonical
