import DeviceGateway.Json.Number
import DeviceGateway.Json.Text
import DeviceGateway.Json.Skip
/-!
Readers: each takes its value from the start of the input and leaves the rest. A reader stops at the
first fault it meets, and tells broken grammar from a value of the wrong kind.
-/
namespace DeviceGateway.Json

open Utf8 (Piece)

inductive Fault where
  | malformed
  | mistyped
deriving DecidableEq, Repr

abbrev Reader := StateT (List Piece) (Except Fault)

namespace Reader

variable {α σ : Type}

def fail (fault : Fault) : Reader α := fun _ => .error fault

def space : Reader Unit := fun input =>
  .ok ((), input.dropWhile fun | .char c => isSpace c | .junk _ => false)

def peek : Reader (Option Piece) := fun input => .ok (input.head?, input)

/-- Passes over a character if it comes next, and tells whether it did. -/
def accept (c : Char) : Reader Bool := fun input =>
  match input with
  | .char d :: rest => if d = c then .ok (true, rest) else .ok (false, input)
  | _ => .ok (false, input)

def expect (c : Char) : Reader Unit := do
  unless ← accept c do fail .malformed

def word : List Char → Reader Unit
  | [] => pure ()
  | c :: rest => do
    expect c
    word rest

/-- A partial function on the input; where it has no answer the grammar is broken. -/
def ofPartial (f : List Piece → Option (α × List Piece)) : Reader α := fun input =>
  match f input with
  | some answer => .ok answer
  | none => .error .malformed

/-- The characters up to the closing quote. -/
def contents : Reader String := do
  return .ofList (← ofPartial (contents? 0))

def digits : Reader Number := ofPartial number?

/-- A value that is not of the wanted kind: its grammar is checked as far as its kind takes. -/
def mismatch : Reader α := do
  match ← peek with
  | some (.char c) =>
    if c = '"' then do
      expect '"'
      let _ ← contents
      fail .mistyped
    else if c = '[' ∨ c = '\x7b' then fail .mistyped
    else if c = '-' ∨ isDigit c then do
      let _ ← digits
      fail .mistyped
    else if c = 't' then do
      word ['t', 'r', 'u', 'e']
      fail .mistyped
    else if c = 'f' then do
      word ['f', 'a', 'l', 's', 'e']
      fail .mistyped
    else if c = 'n' then do
      word ['n', 'u', 'l', 'l']
      fail .mistyped
    else fail .malformed
  | _ => fail .malformed

def text : Reader String := do
  space
  if ← accept '"' then contents else mismatch

def bool : Reader Bool := do
  space
  match ← peek with
  | some (.char 't') => do
    word ['t', 'r', 'u', 'e']
    return true
  | some (.char 'f') => do
    word ['f', 'a', 'l', 's', 'e']
    return false
  | _ => mismatch

/-- A whole number from `least` to `greatest`. -/
def whole (least greatest : Int) : Reader Int := do
  space
  match ← peek with
  | some (.char c) =>
    if c = '-' ∨ isDigit c then do
      match ← digits with
      | .whole i => if least ≤ i ∧ i ≤ greatest then return i else fail .mistyped
      | .real _ => fail .mistyped
    else mismatch
  | _ => mismatch

/-- Either `null` or a value. -/
def nullable (value : Reader α) : Reader (Option α) := do
  space
  match ← peek with
  | some (.char 'n') => do
    word ['n', 'u', 'l', 'l']
    return none
  | _ => return some (← value)

/-- The length of what is left, which bounds the number of items in it. -/
def remaining : Reader Nat := fun input => .ok (input.length, input)

/-- The items after the first one, at most `bound` of them. -/
def moreItems (item : Reader α) : Nat → Reader (List α)
  | 0 => fail .malformed
  | bound + 1 => do
    space
    if ← accept ',' then do
      let first ← item
      let rest ← moreItems item bound
      return first :: rest
    else do
      expect ']'
      return []

/-- The items after the opening bracket. -/
def items (item : Reader α) : Reader (List α) := do
  space
  if ← accept ']' then return []
  else do
    let first ← item
    let rest ← moreItems item (← remaining)
    return first :: rest

def array (item : Reader α) : Reader (List α) := do
  space
  if ← accept '[' then items item else mismatch

def name : Reader String := do
  space
  expect '"'
  contents

/-- A member from after its name on: a colon, then the value. -/
def named (value : Reader α) : Reader α := do
  space
  expect ':'
  value

/-- The members after the first one, at most `bound` of them; `member` goes on from a name. -/
def moreMembers (member : σ → String → Reader σ) : Nat → σ → Reader σ
  | 0, _ => fail .malformed
  | bound + 1, s => do
    space
    if ← accept ',' then do
      let s ← member s (← name)
      moreMembers member bound s
    else do
      expect '\x7d'
      return s

/-- The members after the opening brace, taken one after the other. -/
def members (member : σ → String → Reader σ) (s : σ) : Reader σ := do
  space
  if ← accept '\x7d' then return s
  else do
    let s ← member s (← name)
    moreMembers member (← remaining) s

def object (member : σ → String → Reader σ) (s : σ) : Reader σ := do
  space
  if ← accept '\x7b' then members member s else mismatch

def skip : Reader Unit := ofPartial fun input => (skip? input).map fun rest => ((), rest)

/-- A value's own text, without the white space around it. -/
def raw : Reader (List Char) := do
  space
  ofPartial fun input => do
    let rest ← skip? input
    let chars ← Utf8.text? (input.take (input.length - rest.length))
    return (chars, rest)

/-- A value, with readers for what begins with a bracket and with a brace. -/
def valueOver (bracketed braced : Reader Json) : Reader Json := do
  space
  match ← peek with
  | some (.char c) =>
    if c = '"' then do
      expect '"'
      return .text (← contents)
    else if c = '[' then bracketed
    else if c = '\x7b' then braced
    else if c = '-' ∨ isDigit c then return .number (← digits)
    else if c = 't' then do
      word ['t', 'r', 'u', 'e']
      return .bool true
    else if c = 'f' then do
      word ['f', 'a', 'l', 's', 'e']
      return .bool false
    else if c = 'n' then do
      word ['n', 'u', 'l', 'l']
      return .null
    else fail .malformed
  | _ => fail .malformed

/-- Puts a member that has the given name into its place. -/
def keep (value : Reader Json) (kept : List (String × Json)) (n : String) :
    Reader (List (String × Json)) := do
  return insert n (← named value) kept

/-- A value with at most `depth` arrays and objects within each other. -/
def value : Nat → Reader Json
  | 0 => valueOver (fail .malformed) (fail .malformed)
  | depth + 1 =>
    valueOver (do return .array (← array (value depth)))
      (do return .object (← object (keep (value depth)) []))

/-- Reads the whole input, which may end in white space only. -/
def whole? (reader : Reader α) (input : List Piece) : Except Fault α := do
  let (a, rest) ← reader input
  let ((), rest) ← space rest
  if rest.isEmpty then return a else throw .malformed

/-- Reads a value at the start of the input and does not look at the rest. -/
def first? (reader : Reader α) (input : List Piece) : Except Fault α := do
  let (a, _) ← reader input
  return a

end Reader

/-- At most this many arrays and objects within each other are kept. -/
def maxDepth : Nat := 127

/-- A string as reader's input. -/
def piecesOf (s : String) : List Piece := s.toList.map .char

end DeviceGateway.Json
