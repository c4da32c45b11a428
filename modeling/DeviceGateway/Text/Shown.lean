import DeviceGateway.Text.Unseen
/-!
Texts as a diagnosis shows them: in double quotes, with escapes for what could not be told apart
otherwise.
-/
namespace DeviceGateway.Text

/-- A character, or the escape that stands for it. -/
def showChar (c : Char) : List Char :=
  if c = '"' then ['\\', '"']
  else if c = '\\' then ['\\', '\\']
  else if c = '\t' then ['\\', 't']
  else if c = '\n' then ['\\', 'n']
  else if c = '\r' then ['\\', 'r']
  else if c = '\x00' then ['\\', '0']
  else if isUnseen c then ['\\', 'u', '\x7b'] ++ Nat.toDigits 16 c.toNat ++ ['\x7d']
  else [c]

def shown (s : String) : String := .ofList ('"' :: s.toList.flatMap showChar ++ ['"'])

end DeviceGateway.Text
