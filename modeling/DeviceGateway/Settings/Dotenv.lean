import DeviceGateway.Settings.Environment
import DeviceGateway.Text.Alphanumeric
import DeviceGateway.Text.Blank
/-!
Files of variables: a name, an equals sign and a value on each line. A value may be quoted over
several lines, may have escapes, and may name other variables. What the environment has already
stays as it is, and reading ends at the first line that makes no sense.
-/
namespace DeviceGateway.Dotenv

/-! ## Lines -/

/-- Where the reading of a line stands: what a line break ends and what begins a comment go by
it. -/
inductive Place where
  | plain
  | blank
  | escape
  | weak
  | weakEscape
  | strong
  | strongEscape
deriving DecidableEq, Repr

def outside (c : Char) : Place :=
  if c = '\\' then .escape
  else if c = '"' then .weak
  else if c = '\x27' then .strong
  else .plain

/-- The place after a character, none if it begins a comment. -/
def Place.after? (p : Place) (c : Char) : Option Place :=
  match p with
  | .blank => if c = '#' then none else some (outside c)
  | .plain => some (if Text.isBlankChar c ∧ c ≠ '\n' ∧ c ≠ '\r' then .blank else outside c)
  | .escape => some .plain
  | .weak => some (if c = '\\' then .weakEscape else if c = '"' then .plain else .weak)
  | .weakEscape => some .weak
  | .strong => some (if c = '\\' then .strongEscape else if c = '\x27' then .plain else .strong)
  | .strongEscape => some .strong

/-- The text up to a comment, and the place after it if there is none. -/
def uncommented (p : Place) : List Char → List Char × Option Place
  | [] => ([], some p)
  | c :: rest =>
    match p.after? c with
    | none => ([], none)
    | some p =>
      let (text, last) := uncommented p rest
      (c :: text, last)

/-- The lines of a text, each with the line break that ends it. -/
def physicalLines : List Char → List (List Char)
  | [] => []
  | c :: rest =>
    if c = '\n' then [c] :: physicalLines rest
    else match physicalLines rest with
      | [] => [[c]]
      | line :: lines => (c :: line) :: lines

def chomp (line : List Char) : List Char :=
  match line.reverse with
  | '\n' :: '\r' :: rest => rest.reverse
  | '\n' :: rest => rest.reverse
  | _ => line

/-- Joins lines as long as a quotation is open, with `begun` for what was read of the first one;
none stands for a quotation that is never closed. -/
def joined (begun : List Char) (p : Place) : List (List Char) → List (Option (List Char))
  | [] => if p = .plain then [] else [none]
  | line :: lines =>
    let text := begun ++ line
    if (Text.trimStart text).head? = some '#' then some [] :: joined [] .plain lines
    else match uncommented p line with
      | (kept, none) => some (begun ++ kept) :: joined [] .plain lines
      | (_, some .plain) => some (chomp text) :: joined [] .plain lines
      | (_, some p) => joined text p lines

/-! ## Values -/

/-- Where the reading of a value stands; `weak` tells whether double quotes are open. -/
inductive Spot where
  | plain (weak : Bool)
  | escape (weak : Bool)
  | strong
  | name (weak : Bool) (spelt : List Char)
  | braced (weak : Bool) (spelt : List Char)
  | ended
  | comment
deriving DecidableEq, Repr

/-- The value of a variable that is named within a value, empty if it has none. -/
def valueOf (env : Environment) (name : List Char) : List Char :=
  ((env.text? (.ofList name)).getD "").toList

/-- One more character of a value, outside of escapes, names and single quotes. -/
def plainly (weak : Bool) (c : Char) : Spot × List Char :=
  if c = '$' then (.name weak [], [])
  else if c = '\\' then (.escape weak, [])
  else if c = '"' then (.plain !weak, [])
  else if weak then (.plain true, [c])
  else if c = '\x27' then (.strong, [])
  else if c = ' ' ∨ c = '\t' then (.ended, [])
  else (.plain false, [c])

/-- One more character of a value, and what it adds; none if it makes no sense there. -/
def Spot.after? (env : Environment) (s : Spot) (c : Char) : Option (Spot × List Char) :=
  match s with
  | .plain weak => some (plainly weak c)
  | .escape weak =>
    if ['\\', '\x27', '"', '$', ' '].contains c then some (.plain weak, [c])
    else if c = 'n' then some (.plain weak, ['\n'])
    else none
  | .strong => some (if c = '\x27' then (.plain false, []) else (.strong, [c]))
  | .name weak spelt =>
    if Text.isAlphanumeric c then some (.name weak (spelt ++ [c]), [])
    else if c = '\x7b' ∧ spelt = [] then some (.braced weak [], [])
    else if c = '$' then some (.name weak [], valueOf env spelt)
    else some (.plain weak, valueOf env spelt ++ [c])
  | .braced weak spelt =>
    if c = '\x7d' then some (.plain weak, valueOf env spelt)
    else some (.braced weak (spelt ++ [c]), [])
  | .ended =>
    if c = ' ' ∨ c = '\t' then some (.ended, [])
    else if c = '#' then some (.comment, [])
    else none
  | .comment => some (.comment, [])

/-- What the end of the line adds to a value; none if quotes or braces are still open. -/
def Spot.last? (env : Environment) : Spot → Option (List Char)
  | .plain weak | .escape weak => if weak then none else some []
  | .name weak spelt => if weak then none else some (valueOf env spelt)
  | .strong | .braced _ _ => none
  | .ended | .comment => some []

def valueFrom? (env : Environment) (s : Spot) : List Char → Option (List Char)
  | [] => s.last? env
  | c :: rest => do
    let (s, added) ← s.after? env c
    return added ++ (← valueFrom? env s rest)

/-! ## Assignments -/

/-- The name at the start of a text, and the text after it and after blanks. -/
def name? (text : List Char) : Option (String × List Char) :=
  match text with
  | c :: _ =>
    if c.isAlpha ∨ c = '_' then
      let name := text.takeWhile fun c => c.isAlphanum || c = '_' || c = '.'
      some (.ofList name, Text.trimStart (text.drop name.length))
    else none
  | [] => none

def equals? : List Char → Option (List Char)
  | '=' :: rest => some rest
  | _ => none

/-- The name that a line assigns to, and the text of the value; a name may come after `export`. -/
def target? (text : List Char) : Option (String × List Char) := do
  let (name, rest) ← name? text
  match equals? rest with
  | some value => return (name, value)
  | none =>
    if name = "export" then do
      let (name, rest) ← name? rest
      return (name, ← equals? rest)
    else none

def isIdle (text : List Char) : Bool := text = [] || text.head? = some '#'

def line? (env : Environment) (line : List Char) : Option Environment :=
  let text := Text.trim line
  if isIdle text then some env
  else do
    let (name, value) ← target? text
    let value := Text.trimStart value
    if isIdle value then return env.offer name ""
    else return env.offer name (.ofList (← valueFrom? env (.plain false) value))

def takeLines (env : Environment) : List (Option (List Char)) → Environment
  | [] => env
  | line :: lines =>
    match line.bind (line? env) with
    | some env => takeLines env lines
    | none => env

/-- The environment with the variables of a file, which may begin with a byte order mark. -/
def load (env : Environment) (file : String) : Environment :=
  let text := match file.toList with
    | '\uFEFF' :: rest => rest
    | text => text
  takeLines env (joined [] .plain (physicalLines text))

end DeviceGateway.Dotenv
