import DeviceGateway.Text.Utf8
/-!
The variables that a program is started with. A value is any octets; one that is no text counts as
unset.
-/
namespace DeviceGateway

structure Environment where
  values : List (String × Bytes) := []
deriving DecidableEq, Repr

namespace Environment

def text? (env : Environment) (name : String) : Option String :=
  (env.values.lookup name).bind Bytes.toString?

/-- Gives a variable a value, unless it has a text already. -/
def offer (env : Environment) (name value : String) : Environment :=
  match env.text? name with
  | some _ => env
  | none => ⟨(name, Bytes.ofString value) :: env.values⟩

end Environment

end DeviceGateway
