import DeviceGateway.Decimal.Shortest
/-!
JSON values and their compact text. Members of an object are kept in the order of their names, one
value a name; a number is whole within 64 bits, or a double given by its bits.
-/
namespace DeviceGateway

inductive Json.Number where
  | whole (value : Int)
  | real (bits : UInt64)
deriving DecidableEq, Repr

inductive Json where
  | null
  | bool (value : Bool)
  | number (value : Json.Number)
  | text (value : String)
  | array (items : List Json)
  | object (members : List (String × Json))
deriving Repr, Inhabited

namespace Json

/-- Doubles are positional from 1e-5 up to 1e16, with a sign on every exponent. -/
def realLayout : Decimal.Layout := ⟨-5, 15, ['+']⟩

def Number.write : Number → List Char
  | .whole i => Decimal.writeInt i
  | .real bits =>
    let magnitude := bits.toNat % 0x8000000000000000
    let sign := if bits.toNat < 0x8000000000000000 then [] else ['-']
    if magnitude = 0 then sign ++ ['0', '.', '0']
    else sign ++ realLayout.write (Decimal.Binary.ofBits bits).shortest

def hexDigit (n : Nat) : Char := if n < 10 then .ofNat (48 + n) else .ofNat (87 + n)

/-- A quote, a backslash and the control characters below U+0020 are escaped, nothing else is. -/
def escape (c : Char) : List Char :=
  if c = '"' then ['\\', '"']
  else if c = '\\' then ['\\', '\\']
  else if c = '\x08' then ['\\', 'b']
  else if c = '\t' then ['\\', 't']
  else if c = '\n' then ['\\', 'n']
  else if c = '\x0c' then ['\\', 'f']
  else if c = '\r' then ['\\', 'r']
  else if c.toNat < 32 then ['\\', 'u', '0', '0', hexDigit (c.toNat / 16), hexDigit (c.toNat % 16)]
  else [c]

def quote (text : List Char) : List Char := '"' :: text.flatMap escape ++ ['"']

def commas : List (List Char) → List Char
  | [] => []
  | [t] => t
  | t :: u :: rest => t ++ ',' :: commas (u :: rest)

def writeArray (items : List (List Char)) : List Char := '[' :: commas items ++ [']']

/-- An object's text from the names and texts of its members. -/
def writeObject (members : List (String × List Char)) : List Char :=
  '\x7b' :: commas (members.map fun (name, value) => quote name.toList ++ ':' :: value) ++ ['\x7d']

def writeBool (b : Bool) : List Char :=
  if b then ['t', 'r', 'u', 'e'] else ['f', 'a', 'l', 's', 'e']

def writeNull : List Char := ['n', 'u', 'l', 'l']

mutual

def write : Json → List Char
  | .null => writeNull
  | .bool b => writeBool b
  | .number n => n.write
  | .text s => quote s.toList
  | .array items => writeArray (writeItems items)
  | .object members => writeObject (writeMembers members)

def writeItems : List Json → List (List Char)
  | [] => []
  | j :: rest => write j :: writeItems rest

def writeMembers : List (String × Json) → List (String × List Char)
  | [] => []
  | (name, j) :: rest => (name, write j) :: writeMembers rest

end

/-- Puts a member in its place, over an older one of the same name. -/
def insert (name : String) (value : Json) : List (String × Json) → List (String × Json)
  | [] => [(name, value)]
  | (n, v) :: rest =>
    if name < n then (name, value) :: (n, v) :: rest
    else if name = n then (name, value) :: rest
    else (n, v) :: insert name value rest

/-- The object with the given members, the last of each name. -/
def ofMembers (members : List (String × Json)) : Json :=
  .object (members.foldl (fun kept (name, value) => insert name value kept) [])

def ofNat (n : Nat) : Json := .number (.whole n)

def ofOption : Option Json → Json
  | none => .null
  | some j => j

def get? (name : String) : Json → Option Json
  | .object members => members.lookup name
  | _ => none

theorem lookup_member (name other : String) (value : Json) (rest : List (String × Json)) :
    ((name, value) :: rest).lookup other =
      if other = name then some value else rest.lookup other := by
  by_cases h : other = name
  · subst h; simp
  · simp [List.lookup_cons, beq_false_of_ne h, h]

theorem lookup_insert (name other : String) (value : Json) (members : List (String × Json)) :
    (insert name value members).lookup other =
      if other = name then some value else members.lookup other := by
  induction members with
  | nil => simp [insert, lookup_member]
  | cons m rest ih =>
    obtain ⟨n, v⟩ := m
    unfold insert
    split
    · simp only [lookup_member]
    · split
      · next hn => subst hn; simp only [lookup_member]; split <;> rfl
      · next hn =>
        simp only [lookup_member, ih]
        split
        · next h => subst h; rw [if_neg (Ne.symm hn)]
        · rfl

end Json

end DeviceGateway
