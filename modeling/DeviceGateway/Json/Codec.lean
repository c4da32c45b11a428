import DeviceGateway.Json.Reader
/-!
Codecs: a type's text and its reader, side by side. A record is written as an object with its fields
in order; it is read from an object, in any order, or from an array of the fields in order.
-/
namespace DeviceGateway.Json

structure Codec (α : Type) where
  write : α → List Char
  read : Reader α

namespace Codec

variable {α ρ : Type}

def encode (c : Codec α) (a : α) : String := .ofList (c.write a)

def decode (c : Codec α) (input : List Utf8.Piece) : Except Fault α := c.read.whole? input

def decode? (c : Codec α) (s : String) : Option α := (c.decode (piecesOf s)).toOption

def text : Codec String := ⟨fun s => quote s.toList, Reader.text⟩

def bool : Codec Bool := ⟨writeBool, Reader.bool⟩

def int64 : Codec Int64 where
  write n := Decimal.writeInt n.toInt
  read := do return .ofInt (← Reader.whole Int64.minValue.toInt Int64.maxValue.toInt)

def int32 : Codec Int32 where
  write n := Decimal.writeInt n.toInt
  read := do return .ofInt (← Reader.whole Int32.minValue.toInt Int32.maxValue.toInt)

def nullable (c : Codec α) : Codec (Option α) where
  write
    | none => writeNull
    | some a => c.write a
  read := Reader.nullable c.read

def list (c : Codec α) : Codec (List α) where
  write as := writeArray (as.map c.write)
  read := Reader.array c.read

/-- A string that has a meaning of its own; any other string is of the wrong kind. -/
def spelled (write : α → String) (read? : String → Option α) : Codec α where
  write a := quote (write a).toList
  read := do
    match read? (← Reader.text) with
    | some a => return a
    | none => Reader.fail .mistyped

/-- One of a few names, as a string or as an object whose only member has that name and no value. As
in any object, a name that is no string makes the text malformed: it is not taken for a value of the
wrong type, as it is where a field expects a string. -/
def choice (names : List (String × α)) (nameOf : α → String) : Codec α where
  write a := quote (nameOf a).toList
  read := do
    let chosen (n : String) : Reader α :=
      match names.lookup n with
      | some a => return a
      | none => Reader.fail .mistyped
    Reader.space
    if ← Reader.accept '"' then chosen (← Reader.contents)
    else if ← Reader.accept '\x7b' then do
      let a ← chosen (← Reader.name)
      let _ : Option Unit ← Reader.named (Reader.nullable Reader.mismatch)
      Reader.space
      Reader.expect '\x7d'
      return a
    else Reader.fail .malformed

/-- What becomes of a field that is not there: it must be, or it keeps its first value; only a
`defaulted` one may be missing from the end of an array. -/
inductive Presence where
  | required
  | optional
  | defaulted
deriving DecidableEq, Repr

/-- A field of a record; it is left out of the text when `write` gives none. -/
structure Field (ρ : Type) where
  name : String
  presence : Presence
  write : ρ → Option (List Char)
  read : ρ → Reader ρ

/-- A field that is always written. -/
def Field.plain (name : String) (presence : Presence) (c : Codec α) (get : ρ → α)
    (set : ρ → α → ρ) : Field ρ where
  name
  presence
  write r := some (c.write (get r))
  read r := do return set r (← c.read)

/-- A field that is written unless it holds what it would default to. -/
def Field.terse (name : String) (c : Codec α) (isDefault : α → Bool) (get : ρ → α)
    (set : ρ → α → ρ) : Field ρ where
  name
  presence := .defaulted
  write r := if isDefault (get r) then none else some (c.write (get r))
  read r := do return set r (← c.read)

/-- A record half read, and the names met so far. -/
structure Draft (ρ : Type) where
  record : ρ
  met : List String

/-- Takes one member, from its name on: a field only once, any other name as `other` says. -/
def takeMember (fields : List (Field ρ)) (other : ρ → String → Reader ρ) (d : Draft ρ)
    (n : String) : Reader (Draft ρ) :=
  match fields.find? fun f => f.name = n with
  | none => do return { d with record := ← Reader.named (other d.record n) }
  | some f =>
    if n ∈ d.met then Reader.fail .mistyped
    else do return ⟨← Reader.named (f.read d.record), n :: d.met⟩

/-- The record, once every required field was met. -/
def Draft.finish (fields : List (Field ρ)) (d : Draft ρ) : Reader ρ :=
  if fields.all fun f => f.presence ≠ .required || d.met.contains f.name then return d.record
  else Reader.fail .mistyped

/-- The fields in order, after the opening bracket. -/
def elements (fields : List (Field ρ)) (first : Bool) (r : ρ) : Reader ρ :=
  match fields with
  | [] => do
    Reader.space
    Reader.expect ']'
    return r
  | f :: rest => do
    Reader.space
    if ← Reader.accept ']' then
      if (f :: rest).all fun f => f.presence = .defaulted then return r else Reader.fail .mistyped
    else do
      unless first do Reader.expect ','
      elements rest false (← f.read r)

/-- The members of an object, with `other` for the names that are no fields. -/
def readObject (fields : List (Field ρ)) (other : ρ → String → Reader ρ) (start : ρ) :
    Reader ρ := do
  let d ← Reader.object (takeMember fields other) ⟨start, []⟩
  d.finish fields

/-- Names that are no fields are passed over. -/
def ignore (r : ρ) (_ : String) : Reader ρ := do
  Reader.skip
  return r

def readRecord (fields : List (Field ρ)) (start : ρ) : Reader ρ := do
  Reader.space
  if ← Reader.accept '[' then elements fields true start else readObject fields ignore start

def writeRecord (fields : List (Field ρ)) (r : ρ) : List Char :=
  writeObject (fields.filterMap fun f => (f.write r).map fun value => (f.name, value))

/-- A record by its fields; reading begins with `start`. -/
def record (fields : List (Field ρ)) (start : ρ) : Codec ρ :=
  ⟨writeRecord fields, readRecord fields start⟩

end Codec

end DeviceGateway.Json
