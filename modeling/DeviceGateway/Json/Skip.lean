import DeviceGateway.Text.Utf8
/-!
Passing over a value whose content does not matter: only the grammar is checked. Open arrays and
objects are kept on a stack, so a value may be nested to any depth, and each piece is looked at
once.
-/
namespace DeviceGateway.Json

open Utf8 (Piece)

/-- An array or object that is still open. -/
inductive Frame where
  | array
  | object
deriving DecidableEq, Repr

/-- How far a number's spelling has come. -/
inductive Phase where
  | sign
  | zero
  | integer
  | point
  | fraction
  | exponent
  | exponentSign
  | exponentDigits
deriving DecidableEq, Repr

/-- Whether a number may end here. -/
def Phase.complete : Phase → Bool
  | .zero | .integer | .fraction | .exponentDigits => true
  | _ => false

/-- What may come next. -/
inductive Expect where
  | value
  | firstItem
  | firstName
  | name
  | colon
  | next
  | text (isName : Bool)
  | escape (isName : Bool)
  | hex (isName : Bool) (left : Nat)
  | word (letters : List Char)
  | number (phase : Phase)
deriving DecidableEq, Repr

/-- The outcome of one piece: the value goes on, is complete with it or was complete before it, or
the grammar is broken. -/
inductive Step where
  | more (frames : List Frame) (expect : Expect)
  | last
  | past
  | broken

def isSpace (c : Char) : Bool := c = ' ' || c = '\t' || c = '\n' || c = '\r'

def isDigit (c : Char) : Bool := 48 ≤ c.toNat && c.toNat ≤ 57

def isHexDigit (c : Char) : Bool :=
  isDigit c || (65 ≤ c.toNat && c.toNat ≤ 70) || (97 ≤ c.toNat && c.toNat ≤ 102)

/-- After the last piece of a value. -/
def closed (frames : List Frame) : Step :=
  match frames with
  | [] => .last
  | _ => .more frames .next

/-- The first piece of a value. -/
def begin (frames : List Frame) (c : Char) : Step :=
  if isSpace c then .more frames .value
  else if c = '"' then .more frames (.text false)
  else if c = '[' then .more (.array :: frames) .firstItem
  else if c = '\x7b' then .more (.object :: frames) .firstName
  else if c = '-' then .more frames (.number .sign)
  else if c = '0' then .more frames (.number .zero)
  else if isDigit c then .more frames (.number .integer)
  else if c = 't' then .more frames (.word ['r', 'u', 'e'])
  else if c = 'f' then .more frames (.word ['a', 'l', 's', 'e'])
  else if c = 'n' then .more frames (.word ['u', 'l', 'l'])
  else .broken

/-- Between the values of an open array or object. -/
def between (frames : List Frame) (c : Char) : Step :=
  match frames with
  | [] => .past
  | .array :: outer =>
    if isSpace c then .more frames .next
    else if c = ',' then .more frames .value
    else if c = ']' then closed outer
    else .broken
  | .object :: outer =>
    if isSpace c then .more frames .next
    else if c = ',' then .more frames .name
    else if c = '\x7d' then closed outer
    else .broken

/-- The phase that a character leads to, if it continues the number. -/
def Phase.advance (phase : Phase) (c : Char) : Option Phase :=
  match phase with
  | .sign => if c = '0' then some .zero else if isDigit c then some .integer else none
  | .zero => if c = '.' then some .point else if c = 'e' ∨ c = 'E' then some .exponent else none
  | .integer =>
    if isDigit c then some .integer
    else if c = '.' then some .point
    else if c = 'e' ∨ c = 'E' then some .exponent
    else none
  | .point => if isDigit c then some .fraction else none
  | .fraction =>
    if isDigit c then some .fraction else if c = 'e' ∨ c = 'E' then some .exponent else none
  | .exponent =>
    if c = '+' ∨ c = '-' then some .exponentSign
    else if isDigit c then some .exponentDigits
    else none
  | .exponentSign => if isDigit c then some .exponentDigits else none
  | .exponentDigits => if isDigit c then some .exponentDigits else none

/-- A digit after a leading zero breaks the number, anything else ends it if it may end. -/
def numberStep (frames : List Frame) (phase : Phase) (c : Char) : Step :=
  match phase.advance c with
  | some phase => .more frames (.number phase)
  | none =>
    if !phase.complete || (phase = .zero && isDigit c) then .broken else between frames c

def textStep (frames : List Frame) (isName : Bool) (c : Char) : Step :=
  if c = '"' then if isName then .more frames .colon else closed frames
  else if c = '\\' then .more frames (.escape isName)
  else if c.toNat < 32 then .broken
  else .more frames (.text isName)

def escapeStep (frames : List Frame) (isName : Bool) (c : Char) : Step :=
  if c = 'u' then .more frames (.hex isName 3)
  else if c = '"' ∨ c = '\\' ∨ c = '/' ∨ c = 'b' ∨ c = 'f' ∨ c = 'n' ∨ c = 'r' ∨ c = 't' then
    .more frames (.text isName)
  else .broken

def hexStep (frames : List Frame) (isName : Bool) (left : Nat) (c : Char) : Step :=
  if isHexDigit c then
    match left with
    | 0 => .more frames (.text isName)
    | n + 1 => .more frames (.hex isName n)
  else .broken

def charStep (frames : List Frame) (expect : Expect) (c : Char) : Step :=
  match expect with
  | .value => begin frames c
  | .firstItem =>
    if isSpace c then .more frames .firstItem
    else if c = ']' then closed frames.tail
    else begin frames c
  | .firstName =>
    if isSpace c then .more frames .firstName
    else if c = '"' then .more frames (.text true)
    else if c = '\x7d' then closed frames.tail
    else .broken
  | .name =>
    if isSpace c then .more frames .name
    else if c = '"' then .more frames (.text true)
    else .broken
  | .colon =>
    if isSpace c then .more frames .colon else if c = ':' then .more frames .value else .broken
  | .next => between frames c
  | .text isName => textStep frames isName c
  | .escape isName => escapeStep frames isName c
  | .hex isName left => hexStep frames isName left c
  | .word letters =>
    match letters with
    | [] => .broken
    | [l] => if c = l then closed frames else .broken
    | l :: rest => if c = l then .more frames (.word rest) else .broken
  | .number phase => numberStep frames phase c

/-- Octets that are no character may stand inside the quotes alone. -/
def junkStep (frames : List Frame) (expect : Expect) : Step :=
  match expect with
  | .text isName => .more frames (.text isName)
  | .number phase => if phase.complete && frames.isEmpty then .past else .broken
  | _ => .broken

/-- What follows the value, from its middle on. -/
def skipFrom? (frames : List Frame) (expect : Expect) : List Piece → Option (List Piece)
  | [] =>
    match expect with
    | .number phase => if phase.complete && frames.isEmpty then some [] else none
    | _ => none
  | p :: rest =>
    let step := match p with
      | .char c => charStep frames expect c
      | .junk _ => junkStep frames expect
    match step with
    | .more frames expect => skipFrom? frames expect rest
    | .last => some rest
    | .past => some (p :: rest)
    | .broken => none

/-- What follows the value at the start; none where the grammar is broken. -/
def skip? (input : List Piece) : Option (List Piece) := skipFrom? [] .value input

end DeviceGateway.Json
