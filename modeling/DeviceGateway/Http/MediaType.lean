/-!
Media types as a Content-Type header gives them: a type, a subtype that may end in a suffix, and
parameters.
-/
namespace DeviceGateway.Http

def isTokenChar (c : Char) : Bool :=
  c.isAlphanum ||
    ['!', '#', '$', '%', '&', '\x27', '*', '+', '-', '.', '^', '_', '\x60', '|', '~'].contains c

/-- The characters that a header may hold and still be read. -/
def isHeaderChar (c : Char) : Bool := (32 ≤ c.toNat && c.toNat < 127) || c = '\t'

structure MediaType where
  type : List Char
  subtype : List Char
  suffix : Option (List Char)
deriving DecidableEq, Repr

namespace MediaType

/-- Where the reading of parameters stands. -/
inductive Place where
  | start
  | name
  | valueStart
  | value
  | quoted (empty : Bool)
  | afterQuote
deriving DecidableEq, Repr

def step? (p : Place) (c : Char) : Option Place :=
  match p with
  | .start => if c = ' ' then some .start else if isTokenChar c then some .name else none
  | .name => if c = '=' then some .valueStart else if isTokenChar c then some .name else none
  | .valueStart =>
    if c = '"' then some (.quoted true) else if isTokenChar c then some .value else none
  | .value => if c = ';' then some .start else if isTokenChar c then some .value else none
  | .quoted empty =>
    if c = '"' ∧ !empty then some .afterQuote
    else if 31 < c.toNat ∧ c.toNat ≠ 127 then some (.quoted false)
    else none
  | .afterQuote => if c = ';' then some .start else if c = ' ' then some .afterQuote else none

def Place.isEnd : Place → Bool
  | .start | .valueStart | .value | .afterQuote => true
  | .name | .quoted _ => false

/-- Whether the text after the first semicolon is a list of parameters. -/
def parametersFrom (p : Place) : List Char → Bool
  | [] => p.isEnd
  | c :: rest =>
    match step? p c with
    | some p => parametersFrom p rest
    | none => false

/-- Cuts a suffix off at the last plus sign, unless that is the first character. -/
def cutSuffix (name : List Char) : List Char × Option (List Char) :=
  let suffix := (name.reverse.takeWhile (· ≠ '+')).reverse
  let front := name.take (name.length - suffix.length - 1)
  if suffix.length < name.length ∧ front ≠ [] then (front, some suffix) else (name, none)

def ofHeader? (header : String) : Option MediaType :=
  let text := header.toList
  let type := text.takeWhile isTokenChar
  match text.drop type.length with
  | '/' :: rest =>
    let name := rest.takeWhile isTokenChar
    let parameters := rest.drop name.length
    let well := match parameters with
      | [] => true
      | c :: rest => c = ';' && name ≠ [] && parametersFrom .start rest
    if text.all isHeaderChar && type ≠ [] && well then
      let (subtype, suffix) := cutSuffix (name.map Char.toLower)
      some ⟨type.map Char.toLower, subtype, suffix⟩
    else none
  | _ => none

/-- JSON itself, or a format that says it is JSON. -/
def isJson (m : MediaType) : Bool :=
  m.type = "application".toList && (m.subtype = "json".toList || m.suffix = some "json".toList)

end MediaType

end DeviceGateway.Http
