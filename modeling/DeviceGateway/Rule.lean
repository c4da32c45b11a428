import DeviceGateway.Json.Codec
import DeviceGateway.Text.Blank
import DeviceGateway.Time.Timestamp
/-!
Topic-mapping rules, the devices that they are for, and their texts.
-/
namespace DeviceGateway

open Json.Codec

/-- Which way a message goes: up from a device to the platform, or down to a device. -/
inductive Direction where
  | up
  | down
deriving DecidableEq, Repr

namespace Direction

def name : Direction → String
  | .up => "up"
  | .down => "down"

def ofName? (s : String) : Option Direction :=
  if s = "up" then some .up else if s = "down" then some .down else none

def unknownMessage (s : String) : String := "invalid direction: " ++ s

def codec : Json.Codec Direction := .choice [("up", .up), ("down", .down)] name

@[simp] theorem ofName?_name (d : Direction) : ofName? d.name = some d := by cases d <;> rfl

end Direction

/-- Maps topics of the devices of one configuration. `source` is the device's side and `target` the
platform's; of several rules the one with the least priority comes first. -/
structure Rule where
  id : Int64
  configId : String
  name : String
  direction : Direction
  source : String
  target : String
  dataIdentifier : Option String
  priority : Int32
  enabled : Bool
  description : Option String
  createdAt : Option Timestamp
  updatedAt : Option Timestamp
deriving DecidableEq, Repr

/-- The method that a rule is for: its identifier without blanks around it, if anything is left. -/
def identifierOf (raw : Option String) : Option String :=
  (raw.map fun s => String.ofList (Text.trim s.toList)).filter fun s => !s.isEmpty

def Rule.identifier (r : Rule) : Option String := identifierOf r.dataIdentifier

/-- A rule is for a method just if its data identifier is the name of the method, with or without
blanks around it; no rule is for the method without a name. -/
theorem Rule.identifier_eq_some_iff {r : Rule} {id : String} :
    r.identifier = some id ↔
      id ≠ "" ∧ ∃ raw, r.dataIdentifier = some raw ∧ String.ofList (Text.trim raw.toList) = id := by
  rw [identifier, identifierOf, Option.filter_eq_some_iff, Option.map_eq_some_iff,
    Bool.not_eq_true', ← Bool.not_eq_true, String.isEmpty_iff, and_comm]

/-- Timestamps are strings in RFC 3339. -/
def Timestamp.codec : Json.Codec Timestamp :=
  .spelled (fun t => .ofList (t.write .fewest)) fun s => read? s.toList

def Rule.fields : List (Json.Codec.Field Rule) :=
  [.plain "id" .required int64 (·.id) fun r v => { r with id := v },
    .plain "device_config_id" .required text (·.configId) fun r v => { r with configId := v },
    .plain "name" .required text (·.name) fun r v => { r with name := v },
    .plain "direction" .required Direction.codec (·.direction) fun r v => { r with direction := v },
    .plain "source_topic" .required text (·.source) fun r v => { r with source := v },
    .plain "target_topic" .required text (·.target) fun r v => { r with target := v },
    .plain "data_identifier" .optional (nullable text) (·.dataIdentifier)
      fun r v => { r with dataIdentifier := v },
    .plain "priority" .required int32 (·.priority) fun r v => { r with priority := v },
    .plain "enabled" .required bool (·.enabled) fun r v => { r with enabled := v },
    .plain "description" .optional (nullable text) (·.description)
      fun r v => { r with description := v },
    .plain "created_at" .optional (nullable Timestamp.codec) (·.createdAt)
      fun r v => { r with createdAt := v },
    .plain "updated_at" .optional (nullable Timestamp.codec) (·.updatedAt)
      fun r v => { r with updatedAt := v }]

def Rule.blank : Rule := ⟨0, "", "", .up, "", "", none, 0, false, none, none, none⟩

def Rule.codec : Json.Codec Rule := .record Rule.fields Rule.blank

/-- What is known of a device; without a configuration no rule is for it. -/
structure Device where
  id : String
  number : String
  voucher : String
  configId : Option String
deriving DecidableEq, Repr

def Device.fields : List (Json.Codec.Field Device) :=
  [.plain "id" .required text (·.id) fun d v => { d with id := v },
    .plain "device_number" .required text (·.number) fun d v => { d with number := v },
    .plain "voucher" .required text (·.voucher) fun d v => { d with voucher := v },
    .plain "device_config_id" .optional (nullable text) (·.configId)
      fun d v => { d with configId := v }]

def Device.codec : Json.Codec Device := .record Device.fields ⟨"", "", "", none⟩

end DeviceGateway
