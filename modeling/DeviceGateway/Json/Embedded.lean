import DeviceGateway.Json.Reader
/-!
Values with texts embedded in them: an object whose first member bears a reserved name stands for
the value that the text of that member spells. The text is a document of its own, so it may be as
deep as any, and may hold further texts.
-/
namespace DeviceGateway.Json

def embeddedName : String := "$serde_json::private::RawValue"

namespace Reader

def spelled (document : Reader Json) : Reader Json := do
  match document.whole? (piecesOf (← text)) with
  | .ok j => return j
  | .error _ => fail .mistyped

/-- What stands in braces: an object of values, or a document when the first name is reserved. -/
def bracedOver (value document : Reader Json) : Reader Json := do
  expect '\x7b'
  space
  if ← accept '\x7d' then return .object []
  else do
    let n ← name
    if n = embeddedName then do
      let j ← named (spelled document)
      space
      expect '\x7d'
      return j
    else do
      let first ← keep value [] n
      return .object (← moreMembers (keep value) (← remaining) first)

/-- A value with at most `depth` arrays and objects within each other, and documents in it. -/
def valueWith (document : Reader Json) : Nat → Reader Json
  | 0 => valueOver (fail .malformed) (fail .malformed)
  | depth + 1 =>
    valueOver (do return .array (← array (valueWith document depth)))
      (bracedOver (valueWith document depth) document)

/-- A document with at most `texts` texts within each other. -/
def documentWithin : Nat → Reader Json
  | 0 => fail .malformed
  | texts + 1 => fun input => valueWith (documentWithin texts) maxDepth input

/-- A value with documents in it; a text is shorter than what it is embedded in, so no more of them
than there are pieces left lie within each other. -/
def unfolded (depth : Nat) : Reader Json := do
  valueWith (documentWithin (← remaining)) depth

end Reader

end DeviceGateway.Json
