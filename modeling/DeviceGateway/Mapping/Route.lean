import DeviceGateway.Mapping.Call
import DeviceGateway.Rule
import DeviceGateway.Topic.Pattern
/-!
What rules make of a topic: where a device's message goes instead, whether a device may subscribe,
and where on the device's side a message of the platform goes. Rules are in order of priority; one
whose template cannot be used is passed over.
-/
namespace DeviceGateway.Mapping

/-- The platform's topic for a device's topic, from the first rule that matches; nothing is filled
in. -/
def upTarget? (rules : List Rule) (topic : String) : Option String :=
  (rules.find? fun r => Topic.accepts r.source topic).map fun r => Topic.render r.target []

/-- A device may subscribe to what any of its downward rules matches. -/
def allowsSubscribe (rules : List Rule) (topic : String) : Bool :=
  rules.any fun r => Topic.accepts r.source topic

/-- A message as a rule passes it on to a device. -/
structure Route where
  topic : String
  payload : Bytes
  ruleId : Int64
  /-- Whether the rule was found by the method that is called. -/
  byMethod : Bool
deriving DecidableEq, Repr

/-- The device's topic, if the rule is for the platform's topic and leaves no wildcard. -/
def sourceTopic? (r : Rule) (topic number : String) : Option String :=
  if Topic.accepts r.target topic then
    let source := Topic.render r.source [(Topic.deviceNumber, number)]
    if Topic.hasWildcard source then none else some source
  else none

/-- Goes through the rules with the route found so far. A rule with an identifier takes calls of
that method and ends the search; of those without, the first is kept and takes the whole payload. -/
def downRouteFrom (call : Option Call) (topic number : String) (payload : Bytes) :
    Option Route → List Rule → Option Route
  | found, [] => found
  | found, r :: rest =>
    match sourceTopic? r topic number with
    | none => downRouteFrom call topic number payload found rest
    | some source =>
      match r.identifier with
      | none =>
        let found := found.or (some ⟨source, payload, r.id, false⟩)
        downRouteFrom call topic number payload found rest
      | some method =>
        match call with
        | some c =>
          if c.method = method then some ⟨source, c.payload, r.id, true⟩
          else downRouteFrom call topic number payload found rest
        | none => downRouteFrom call topic number payload found rest

/-- Where a message of the platform goes on the side of the device with the given number. -/
def downRoute? (rules : List Rule) (topic number : String) (payload : Bytes) : Option Route :=
  downRouteFrom (Call.ofPayload? payload) topic number payload none rules

end DeviceGateway.Mapping
