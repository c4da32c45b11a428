/-!
Topic templates: plain text, `+` for any single level, and named variables in braces. A template is
cut into tokens without loss; anything that is not a well-formed variable is plain text.
-/
namespace DeviceGateway.Topic

inductive Token where
  | literal (text : List Char)
  | wildcard
  | variable (name : List Char)
deriving DecidableEq, Repr

namespace Token

/-- The text that a token was cut from. -/
def source : Token → List Char
  | .literal text => text
  | .wildcard => ['+']
  | .variable name => '\x7b' :: name ++ ['\x7d']

/-- Whether a token stands for any single level. -/
def isFree : Token → Bool
  | .literal _ => false
  | .wildcard | .variable _ => true

end Token

/-- Variable names are made of ASCII letters, digits and underscores. -/
def isNameChar (c : Char) : Bool := c.isAlphanum || c = '_'

/-- The name of the variable whose opening brace was just passed. -/
def variableName? (text : List Char) : Option (List Char) :=
  let name := text.takeWhile isNameChar
  if name ≠ [] ∧ (text.drop name.length).head? = some '\x7d' then some name else none

/-- Puts a character in front of plain text. -/
def prepend (c : Char) : List Token → List Token
  | .literal text :: rest => .literal (c :: text) :: rest
  | tokens => .literal [c] :: tokens

/-- The tokens of a text whose first `taken` characters belong to the token before. -/
def tokensFrom (taken : Nat) : List Char → List Token
  | [] => []
  | c :: rest =>
    match taken with
    | k + 1 => tokensFrom k rest
    | 0 =>
      if c = '+' then .wildcard :: tokensFrom 0 rest
      else if c = '\x7b' then
        match variableName? rest with
        | some name => .variable name :: tokensFrom (name.length + 1) rest
        | none => prepend c (tokensFrom 0 rest)
      else prepend c (tokensFrom 0 rest)

def tokens (template : String) : List Token := tokensFrom 0 template.toList

/-- The value given for a name; the first one counts. -/
def valueOf? (vars : List (String × String)) (name : List Char) : Option (List Char) :=
  (vars.find? fun v => v.1.toList = name).map fun v => v.2.toList

/-- A token with its variable filled in, if there is a value for it. -/
def renderToken (vars : List (String × String)) : Token → List Char
  | .variable name => (valueOf? vars name).getD (Token.variable name).source
  | token => token.source

/-- The template with the known variables filled in. -/
def render (template : String) (vars : List (String × String)) : String :=
  .ofList ((tokens template).flatMap (renderToken vars))

/-- Whether a topic still stands for more than one. -/
def hasWildcard (topic : String) : Bool := topic.toList.any fun c => c = '+' || c = '#'

/-- The one variable whose value can be read off a topic. -/
def deviceNumber : String := "device_number"

end DeviceGateway.Topic
