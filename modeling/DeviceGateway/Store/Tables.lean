import DeviceGateway.Rule
/-!
Devices and rules in the tables of a relational database: the queries that are asked, and what is
read from the rows of an answer. Rows are taken as they come; it is the query that selects.
-/
namespace DeviceGateway.Tables

/-- A query with the texts that it is about. -/
structure Query where
  sql : String
  parameters : List String
deriving DecidableEq, Repr

namespace Query

def rules (configId : String) (direction : Direction) : Query where
  sql := "select id, device_config_id::text as device_config_id, name, direction, source_topic, " ++
    "target_topic, data_identifier, priority, enabled, description, created_at, updated_at " ++
    "from device_topic_mappings " ++
    "where device_config_id::text = $1 and direction = $2 and enabled = true"
  parameters := [configId, direction.name]

/-- One of the devices that have a value in a column. -/
def device (column value : String) : Query where
  sql := "select id::text as id, device_number, voucher, " ++
    "device_config_id::text as device_config_id from devices where " ++ column ++ " = $1 limit 1"
  parameters := [value]

def deviceById : String → Query := device "id::text"

def deviceByNumber : String → Query := device "device_number"

def deviceByVoucher : String → Query := device "voucher"

end Query

inductive Cell where
  | null
  | text (value : String)
  | whole (value : Int)
  | truth (value : Bool)
  | time (value : Timestamp)
deriving DecidableEq, Repr

/-- The cells of a row by the names of their columns. -/
abbrev Row := List (String × Cell)

inductive Fault where
  | unreachable
  | reported (message : String)
  | unreadable (column : String)
  | unknownDirection (name : String)
deriving DecidableEq, Repr

/-- The text of a fault, where it has one of its own. -/
def Fault.message? : Fault → Option String
  | .reported message => some ("error returned from database: " ++ message)
  | .unknownDirection name => some (Direction.unknownMessage name)
  | .unreachable | .unreadable _ => none

/-- A cell of the kind that its column should have. -/
def Row.cell {α : Type} (row : Row) (column : String) (kind? : Cell → Option α) : Except Fault α :=
  match (row.lookup column).bind kind? with
  | some a => .ok a
  | none => .error (.unreadable column)

namespace Cell

def text? : Cell → Option String
  | .text s => some s
  | _ => none

def whole? : Cell → Option Int
  | .whole i => some i
  | _ => none

def truth? : Cell → Option Bool
  | .truth b => some b
  | _ => none

def time? : Cell → Option Timestamp
  | .time t => some t
  | _ => none

def nullable? {α : Type} (kind? : Cell → Option α) (c : Cell) : Option (Option α) :=
  match c with
  | .null => some none
  | c => (kind? c).map some

end Cell

/-- A rule from its row; the direction is looked at first. -/
def ruleOf (row : Row) : Except Fault Rule := do
  let name ← row.cell "direction" Cell.text?
  match Direction.ofName? name with
  | none => throw (.unknownDirection name)
  | some direction =>
    return {
      id := .ofInt (← row.cell "id" Cell.whole?)
      configId := ← row.cell "device_config_id" Cell.text?
      name := ← row.cell "name" Cell.text?
      direction
      source := ← row.cell "source_topic" Cell.text?
      target := ← row.cell "target_topic" Cell.text?
      dataIdentifier := ← row.cell "data_identifier" (Cell.nullable? Cell.text?)
      priority := .ofInt (← row.cell "priority" Cell.whole?)
      enabled := ← row.cell "enabled" Cell.truth?
      description := ← row.cell "description" (Cell.nullable? Cell.text?)
      createdAt := ← row.cell "created_at" (Cell.nullable? Cell.time?)
      updatedAt := ← row.cell "updated_at" (Cell.nullable? Cell.time?) }

def deviceOf (row : Row) : Except Fault Device := do
  return {
    id := ← row.cell "id" Cell.text?
    number := ← row.cell "device_number" Cell.text?
    voucher := ← row.cell "voucher" Cell.text?
    configId := ← row.cell "device_config_id" (Cell.nullable? Cell.text?) }

/-- A database answers a query with rows, or says what is wrong. -/
abbrev Database := Query → Except String (List Row)

def connect (database : Option Database) : Except Fault Database :=
  match database with
  | some db => .ok db
  | none => .error .unreachable

def Database.rules (db : Database) (configId : String) (direction : Direction) :
    Except Fault (List Rule) :=
  match db (.rules configId direction) with
  | .error message => .error (.reported message)
  | .ok rows => rows.mapM ruleOf

/-- The device of the first row, if there is one. -/
def Database.device (db : Database) (query : Query) : Except Fault (Option Device) :=
  match db query with
  | .error message => .error (.reported message)
  | .ok [] => .ok none
  | .ok (row :: _) => (deviceOf row).map some

end DeviceGateway.Tables
