/-!
UTF-8: octets of a text, and octets read as characters and maximal invalid sequences. `encode`
writes, `decode` reads without loss: each octet belongs to exactly one piece, in order.
-/
namespace DeviceGateway

/-- Raw octets, as payloads and request bodies arrive. -/
abbrev Bytes := List UInt8

namespace Utf8

def encodeChar (c : Char) : Bytes :=
  let n := c.toNat
  if n < 0x80 then [.ofNat n]
  else if n < 0x800 then [.ofNat (0xC0 + n / 64), .ofNat (0x80 + n % 64)]
  else if n < 0x10000 then
    [.ofNat (0xE0 + n / 4096), .ofNat (0x80 + n / 64 % 64), .ofNat (0x80 + n % 64)]
  else
    [.ofNat (0xF0 + n / 262144), .ofNat (0x80 + n / 4096 % 64), .ofNat (0x80 + n / 64 % 64),
      .ofNat (0x80 + n % 64)]

def encode (text : List Char) : Bytes := text.flatMap encodeChar

/-- What octets are read as: a character, or a sequence that begins none and cannot be made
longer. -/
inductive Piece where
  | char (c : Char)
  | junk (octets : Bytes)
deriving DecidableEq, Repr

/-- The octets that a piece was read from. -/
def Piece.octets : Piece → Bytes
  | .char c => encodeChar c
  | .junk octets => octets

/-- A character begun: its octets so far, how many are missing, the range of the next one, and the
value of the bits so far. -/
structure Partial where
  seen : Bytes
  missing : Nat
  least : Nat
  greatest : Nat
  value : Nat

/-- Reads an octet where a character may begin. -/
def opening (b : UInt8) : List Piece × Option Partial :=
  let n := b.toNat
  if n < 0x80 then ([.char (.ofNat n)], none)
  else if n < 0xC2 then ([.junk [b]], none)
  else if n < 0xE0 then ([], some ⟨[b], 1, 0x80, 0xBF, n - 0xC0⟩)
  else if n = 0xE0 then ([], some ⟨[b], 2, 0xA0, 0xBF, 0⟩)
  else if n = 0xED then ([], some ⟨[b], 2, 0x80, 0x9F, 13⟩)
  else if n < 0xF0 then ([], some ⟨[b], 2, 0x80, 0xBF, n - 0xE0⟩)
  else if n = 0xF0 then ([], some ⟨[b], 3, 0x90, 0xBF, 0⟩)
  else if n < 0xF4 then ([], some ⟨[b], 3, 0x80, 0xBF, n - 0xF0⟩)
  else if n = 0xF4 then ([], some ⟨[b], 3, 0x80, 0x8F, 4⟩)
  else ([.junk [b]], none)

/-- Reads one more octet: the pieces that it completes, and the character that it leaves begun. -/
def feed (begun : Option Partial) (b : UInt8) : List Piece × Option Partial :=
  match begun with
  | none => opening b
  | some p =>
    if p.least ≤ b.toNat ∧ b.toNat ≤ p.greatest then
      let value := p.value * 64 + (b.toNat - 0x80)
      if p.missing ≤ 1 then ([.char (.ofNat value)], none)
      else ([], some ⟨p.seen ++ [b], p.missing - 1, 0x80, 0xBF, value⟩)
    else
      let (pieces, left) := opening b
      (.junk p.seen :: pieces, left)

def decodeFrom (begun : Option Partial) : Bytes → List Piece
  | [] => (begun.map fun p => Piece.junk p.seen).toList
  | b :: rest => (feed begun b).1 ++ decodeFrom (feed begun b).2 rest

/-- Octets as characters and maximal invalid sequences. -/
def decode (octets : Bytes) : List Piece := decodeFrom none octets

/-- The text, if every piece is a character. -/
def text? : List Piece → Option (List Char)
  | [] => some []
  | .char c :: rest => (text? rest).map (c :: ·)
  | .junk _ :: _ => none

/-- Each invalid sequence becomes one U+FFFD. -/
def lossy (pieces : List Piece) : List Char :=
  pieces.map fun
    | .char c => c
    | .junk _ => '\uFFFD'

/-- Whether an octet goes on with a character that another one began. -/
def isContinuation (b : UInt8) : Bool := 0x80 ≤ b.toNat && b.toNat < 0xC0

/-- Whether text may be cut at an index of its octets: at an end, or where a character begins. -/
def isBoundary (octets : Bytes) (index : Nat) : Bool :=
  index = 0 || index = octets.length || octets[index]?.any fun b => !isContinuation b

/-- The last boundary up to an index, looked for from the index downwards. -/
def floorBoundary (octets : Bytes) : Nat → Nat
  | 0 => 0
  | n + 1 => if isBoundary octets (n + 1) then n + 1 else floorBoundary octets n

/-- The text without its octets from the last boundary up to `limit` on. -/
def truncate (limit : Nat) (text : List Char) : List Char :=
  let octets := encode text
  lossy (decode (octets.take (floorBoundary octets (min limit octets.length))))

def size : List Char → Nat
  | [] => 0
  | c :: rest => c.utf8Size + size rest

@[simp] theorem encode_nil : encode [] = [] := rfl

@[simp] theorem encode_cons (c : Char) (text : List Char) :
    encode (c :: text) = encodeChar c ++ encode text := rfl

theorem encode_append (s t : List Char) : encode (s ++ t) = encode s ++ encode t := by
  simp [encode]

@[simp] theorem text?_map_char (text : List Char) : text? (text.map Piece.char) = some text := by
  induction text with
  | nil => rfl
  | cons c rest ih => simp [text?, ih]

@[simp] theorem lossy_map_char (text : List Char) : lossy (text.map Piece.char) = text := by
  simp [lossy, Function.comp_def]

end Utf8

def Bytes.ofString (s : String) : Bytes := Utf8.encode s.toList

/-- The string that the octets spell, if they are valid. -/
def Bytes.toString? (octets : Bytes) : Option String :=
  (Utf8.text? (Utf8.decode octets)).map String.ofList

end DeviceGateway
