import DeviceGateway.Json.Codec
/-!
Calls that the platform sends down to devices: a method's name and its parameters, whose text is
kept as it stands.
-/
namespace DeviceGateway.Mapping

open Json.Codec

structure Call where
  method : String
  params : Option (List Char)
deriving DecidableEq, Repr

namespace Call

/-- Parameters are any value, and null is one too. -/
def paramsCodec : Json.Codec (Option (List Char)) where
  write params := params.getD Json.writeNull
  read := do return some (← Json.Reader.raw)

def fields : List (Json.Codec.Field Call) :=
  [.plain "method" .defaulted text (·.method) fun c v => { c with method := v },
    .plain "params" .defaulted paramsCodec (·.params) fun c v => { c with params := v }]

def codec : Json.Codec Call := .record fields ⟨"", none⟩

def ofPayload? (payload : Bytes) : Option Call := (codec.decode (Utf8.decode payload)).toOption

/-- The octets of the parameters; without any, those of an empty object. -/
def payload (c : Call) : Bytes := Utf8.encode (c.params.getD ['\x7b', '\x7d'])

end Call

end DeviceGateway.Mapping
