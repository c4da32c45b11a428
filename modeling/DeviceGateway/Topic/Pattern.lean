import DeviceGateway.Topic.Template
/-!
Matching topics against templates. A topic matches when it can be cut into one piece a token, where
a literal's piece is its text and any other piece is part of a single level and not empty. Which
suffixes of the topic match is worked out token by token from the end; the capture is then read off
greedily.
-/
namespace DeviceGateway.Topic

/-- Whether the value of the device-number variable is wanted. -/
inductive Mode where
  | plain
  | extract
deriving DecidableEq, Repr

inductive TemplateError where
  | empty
  | multiLevel (template : String)
  | tooLarge (template : String)
deriving DecidableEq, Repr

/-- The text of an error; a template that is too large has none of its own. -/
def TemplateError.message? : TemplateError → Option String
  | .empty => some "empty template"
  | .multiLevel template => some ("multi-level wildcard is not allowed: " ++ template)
  | .tooLarge _ => none

/-- A template that can be used. -/
structure Pattern where
  template : String
  mode : Mode
  tokens : List Token
deriving DecidableEq, Repr

def maxFree : Nat := 8192

namespace Pattern

def compile (template : String) (mode : Mode) : Except TemplateError Pattern :=
  if template.isEmpty then .error .empty
  else if template.toList.contains '#' then .error (.multiLevel template)
  else
    let ts := Topic.tokens template
    if maxFree < ts.countP Token.isFree then .error (.tooLarge template)
    else .ok ⟨template, mode, ts⟩

/-- For each suffix of a topic, longest first, whether something holds of it. -/
abbrev Row := List Bool

/-- The row of the empty token list: the empty suffix alone matches. -/
def lastRow (topic : List Char) : Row := topic.foldr (fun _ row => false :: row) [true]

/-- The row of a single level before what `after` describes. -/
def freeRow : List Char → Row → Row
  | c :: rest, _ :: after =>
    let row := freeRow rest after
    (c ≠ '/' && (after.headD false || row.headD false)) :: row
  | _, _ => [false]

/-- The row of a literal before what `after` describes. -/
def literalRow (text : List Char) : List Char → Row → Row
  | c :: rest, a :: after =>
    (text.isPrefixOf (c :: rest) && ((a :: after).drop text.length).headD false) ::
      literalRow text rest after
  | [], a :: _ => [text.isEmpty && a]
  | _, [] => []

def tokenRow (topic : List Char) (after : Row) : Token → Row
  | .literal text => literalRow text topic after
  | .wildcard | .variable _ => freeRow topic after

/-- The row of a token list. -/
def row (topic : List Char) : List Token → Row
  | [] => lastRow topic
  | t :: rest => tokenRow topic (row topic rest) t

def rows (topic : List Char) : List Token → List Row
  | [] => [lastRow topic]
  | t :: rest =>
    let more := rows topic rest
    tokenRow topic (more.headD []) t :: more

def isMatch (p : Pattern) (topic : String) : Bool := (row topic.toList p.tokens).headD false

/-- The length of the longest piece that a single level can take before what `after` describes. -/
def longest : List Char → Row → Nat
  | c :: rest, _ :: after =>
    if c = '/' then 0
    else
      let more := longest rest after
      if 0 < more then more + 1 else if after.headD false then 1 else 0
  | _, _ => 0

/-- Gives each token its piece in turn, the longest one that leaves a match. -/
def pieces (topic : List Char) : List Token → List Row → List (List Char)
  | .literal text :: rest, _ :: rows =>
    text :: pieces (topic.drop text.length) rest (rows.map (·.drop text.length))
  | _ :: rest, _ :: after :: rows =>
    let n := longest topic after
    topic.take n :: pieces (topic.drop n) rest ((after :: rows).map (·.drop n))
  | _, _ => []

/-- The piece of the first device-number variable, empty if there is none. -/
def captured : List Token → List (List Char) → List Char
  | .variable name :: tokens, piece :: more =>
    if name = deviceNumber.toList then piece else captured tokens more
  | _ :: tokens, _ :: more => captured tokens more
  | _, _ => []

/-- The device number in a matching topic; empty unless the pattern extracts one. -/
def capture? (p : Pattern) (topic : String) : Option String :=
  let table := rows topic.toList p.tokens
  if (table.headD []).headD false then
    match p.mode with
    | .plain => some ""
    | .extract => some (.ofList (captured p.tokens (pieces topic.toList p.tokens table)))
  else none

theorem headD_rows (topic : List Char) (ts : List Token) :
    (rows topic ts).headD [] = row topic ts := by
  induction ts with
  | nil => rfl
  | cons t rest ih => simp only [rows, row, List.headD_cons, ih]

end Pattern

/-- A template that cannot be used matches nothing. -/
def accepts (template topic : String) : Bool :=
  match Pattern.compile template .plain with
  | .ok p => p.isMatch topic
  | .error _ => false

/-- The device number that a template finds in a topic. -/
def extract? (template topic : String) : Option String :=
  match Pattern.compile template .extract with
  | .ok p => p.capture? topic
  | .error _ => none

end DeviceGateway.Topic
