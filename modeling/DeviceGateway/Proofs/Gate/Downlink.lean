import DeviceGateway.Proofs.Gate.Addressing
import DeviceGateway.Proofs.Gate.Subscribe
import DeviceGateway.Proofs.Topic.Render
/-!
What is sent down to a device can be received by it. The topic of a message is made from the source
of a rule with the device's number filled in, and the same rules are asked whether the device may
subscribe to it.
-/
namespace DeviceGateway

open Backend

namespace Mapping

/-- The rule that a message goes down by: of those that it may go by, the first for the method that
it calls, or else the first for no method. -/
def downRule? (rules : List Rule) (topic number : String) (payload : Bytes) : Option Rule :=
  ((Call.ofPayload? payload).bind fun c =>
      (eligible rules topic number).find? fun r => r.identifier = some c.method).or
    ((eligible rules topic number).find? fun r => r.identifier = none)

/-- A route that a rule makes: its topic is the rule's source with the number filled in. -/
structure Routed (rules : List Rule) (topic number : String) (payload : Bytes) (route : Route)
    (r : Rule) : Prop where
  chosen : downRule? rules topic number payload = some r
  ruleId : route.ruleId = r.id
  topic_eq : route.topic = sourceFor number r

theorem Routed.mem {rules : List Rule} {topic number : String} {payload : Bytes} {route : Route}
    {r : Rule} (h : Routed rules topic number payload route r) : r ∈ rules := by
  have hmem {p : Rule → Bool} (hr : (eligible rules topic number).find? p = some r) :
      r ∈ rules := (List.mem_filter.mp (List.mem_of_find?_eq_some hr)).1
  rcases Option.or_eq_some_iff.mp h.chosen with h | ⟨_, h⟩
  · obtain ⟨c, _, h⟩ := Option.bind_eq_some_iff.mp h
    exact hmem h
  · exact hmem h

theorem exists_routed {rules : List Rule} {topic number : String} {payload : Bytes} {route : Route}
    (h : downRoute? rules topic number payload = some route) :
    ∃ r, Routed rules topic number payload route r := by
  rw [downRoute?, downRouteFrom_eq, Option.none_or, Option.or_eq_some_iff] at h
  rcases h with h | ⟨hcall, h⟩
  · obtain ⟨c, hc, h⟩ := Option.bind_eq_some_iff.mp h
    obtain ⟨r, hr, h⟩ := Option.bind_eq_some_iff.mp h
    cases h
    refine ⟨r, ?_, rfl, rfl⟩
    rw [downRule?, hc, Option.bind_some, hr, Option.some_or]
  · obtain ⟨r, hr, rfl⟩ := Option.map_eq_some_iff.mp h
    refine ⟨r, ?_, rfl, rfl⟩
    have hnone : ((Call.ofPayload? payload).bind fun c =>
        (eligible rules topic number).find? fun r => r.identifier = some c.method) = none := by
      cases hc : Call.ofPayload? payload with
      | none => rfl
      | some c =>
          rw [hc] at hcall
          rw [Option.bind_some]
          refine Option.eq_none_iff_forall_ne_some.mpr fun r hr => ?_
          simp only [callRoute?, Option.bind_eq_bind, Option.bind_some, hr] at hcall
          cases hcall
    rw [downRule?, hnone, Option.none_or, hr]

/-- The rules that a message goes down by let its device subscribe to the topic that it gets. -/
theorem Routed.allowsSubscribe {rules : List Rule} {topic number : String} {payload : Bytes}
    {route : Route} {r : Rule} (h : Routed rules topic number payload route r)
    (hnumber : Topic.IsPiece number.toList) (husable : Topic.Usable r.source) :
    Mapping.allowsSubscribe rules route.topic = true := by
  refine List.any_eq_true.mpr ⟨r, h.mem, ?_⟩
  rw [h.topic_eq]
  exact Topic.accepts_render (.single hnumber) husable

end Mapping

namespace Gate

open Mapping

/-- How a message of the platform goes down to a device, by a rule of the device's configuration. -/
structure Downlink (g : Gate) (b : Backend) (topic : String) (payload : Bytes) where
  number : String
  device : Device
  configId : String
  rules : List Rule
  rule : Rule
  route : Route
  isFor : Topic.Canonical.deviceNumber? topic = some number
  known : b.ask (.number number) = .ok (some device)
  configured : device.config? = some configId
  found : (Snapshot.get g.snapshotLifetime b configId .down).1 = .ok rules
  routed : Routed rules topic number payload route rule

section

variable {g : Gate} {b : Backend} {topic : String} {payload : Bytes}

def Downlink.message (x : Downlink g b topic payload) : Message := ⟨x.route.topic, x.route.payload⟩

theorem Downlink.isPiece (x : Downlink g b topic payload) : Topic.IsPiece x.number.toList := by
  refine ⟨?_, Topic.Canonical.not_mem_of_deviceNumber? x.isFor⟩
  intro hnil
  exact Topic.Canonical.ne_empty_of_deviceNumber? x.isFor (String.toList_eq_nil_iff.mp hnil)

theorem exists_downlink {m : Message} (h : g.downward? b topic payload = some m) :
    ∃ x : Downlink g b topic payload, m = x.message := by
  obtain ⟨number, hnumber, h⟩ := Option.bind_eq_some_iff.mp h
  obtain ⟨d, hd, h⟩ := Option.bind_eq_some_iff.mp h
  obtain ⟨configId, hconfig, h⟩ := Option.bind_eq_some_iff.mp h
  obtain ⟨route, hroute, h⟩ := Option.bind_eq_some_iff.mp h
  cases h
  obtain ⟨rules, hrules, hroute⟩ := eq_of_ask hroute
  obtain ⟨r, hr⟩ := exists_routed hroute
  have hdevice : b.ask (.number number) = .ok (some d) := by
    cases hask : b.ask (.number number) with
    | error e =>
        rw [hask] at hd
        cases hd
    | ok found =>
        rw [hask] at hd
        exact congrArg _ hd
  exact ⟨⟨number, d, configId, rules, r, route, hnumber, hdevice, hconfig, hrules, hr⟩, rfl⟩

end

/-- A client that is bound to a device of a configuration may subscribe to what the rules of that
configuration match. -/
theorem subscribe_of_allowed (g : Gate) {b : Backend} {client : Client}
    (hclient : client.isPrivileged = false) {deviceId configId : String}
    (hbound : Identity.boundDevice b client.id = .ok (some deviceId))
    (hconfig : Identity.boundConfig b deviceId = .ok (some configId)) {rules : List Rule}
    (hrules : (Snapshot.get g.snapshotLifetime b configId .down).1 = .ok rules) {topic : String}
    (hallows : allowsSubscribe rules topic = true) : (g.subscribe b client topic).1 = .ok () := by
  have hasked := subscribeByRules_fst g b hconfig topic
  rw [hrules] at hasked
  simp only [subscribe, hclient, Bool.false_eq_true, if_false, hbound, subscribeBound]
  split
  · rfl
  · generalize g.subscribeByRules b deviceId topic = got at hasked ⊢
    obtain ⟨answer, after⟩ := got
    cases hasked
    simp [hallows]

end Gate

open Mapping

/-- A message that goes down by a rule whose source can be used gets a topic that the same rules let
its device subscribe to, whatever the number is: a part of a single level. This is so of the rules
that a configuration has at the time, and of all that a privileged client has sent: a client that is
bound to the device, under the same rules, may subscribe to the very topic. -/
theorem downRoute_subscribable :
    (∀ (rules : List Rule) (topic number : String) (payload : Bytes) (route : Route),
      Topic.IsPiece number.toList → downRoute? rules topic number payload = some route →
      ∃ r, Routed rules topic number payload route r ∧
        (Topic.Usable r.source → allowsSubscribe rules route.topic = true)) ∧
    (∀ (lifetime : Nat) (b : Backend) (configId topic number : String) (payload : Bytes)
        (route : Route), Topic.IsPiece number.toList →
      (downRoute lifetime b configId topic number payload).1 = .ok (some route) →
      ∃ rules r, (Snapshot.get lifetime b configId .down).1 = .ok rules ∧
        Routed rules topic number payload route r ∧
        (Topic.Usable r.source → ∀ (lifetime' : Nat) (b' : Backend),
          (Snapshot.get lifetime' b' configId .down).1 = .ok rules →
          (allowsDown lifetime' b' configId route.topic).1 = .ok true)) ∧
    ∀ (g : Gate) (b : Backend) (sender : Client) (topic : String) (payload : Bytes),
      sender.isPrivileged = true → ∀ m ∈ (g.publish b sender topic payload).2.sent,
      m ∈ b.sent ∨ ∃ x : Gate.Downlink g b topic payload, m = x.message ∧
        (Topic.Usable x.rule.source → ∀ (g' : Gate) (b' : Backend) (client : Client),
          client.isPrivileged = false →
          Identity.boundDevice b' client.id = .ok (some x.device.id) →
          Identity.boundConfig b' x.device.id = .ok (some x.configId) →
          (Snapshot.get g'.snapshotLifetime b' x.configId .down).1 = .ok x.rules →
          (g'.subscribe b' client m.topic).1 = .ok ()) := by
  refine ⟨?_, ?_, ?_⟩
  · intro rules topic number payload route hnumber hroute
    obtain ⟨r, hr⟩ := exists_routed hroute
    exact ⟨r, hr, hr.allowsSubscribe hnumber⟩
  · intro lifetime b configId topic number payload route hnumber hroute
    obtain ⟨rules, hrules, hroute⟩ := eq_of_ask (congrArg (·.toOption.join) hroute)
    obtain ⟨r, hr⟩ := exists_routed hroute
    refine ⟨rules, r, hrules, hr, ?_⟩
    intro husable lifetime' b' hrules'
    rw [allowsDown, Snapshot.ask_eq, hrules']
    exact congrArg _ (hr.allowsSubscribe hnumber husable)
  · intro g b sender topic payload hsender m hm
    have hhands := Gate.publish_hands g b sender topic payload
    rw [if_pos hsender] at hhands
    rcases hhands.mem_sent hm with hbefore | hm
    · exact .inl hbefore
    · obtain ⟨x, rfl⟩ := Gate.exists_downlink hm
      refine .inr ⟨x, rfl, ?_⟩
      intro husable g' b' client hclient hbound hconfig hrules
      exact g'.subscribe_of_allowed hclient hbound hconfig hrules
        (x.routed.allowsSubscribe x.isPiece husable)

/-- A rule for commands whose source has the number within a level, and a variable of its own. -/
def commandRule : Rule :=
  { ruleUp with
    direction := .down, source := "v/x{device_number}/{unit}"
    target := "devices/command/{device_number}/+" }

def commandLamp : Backend :=
  run lampGate
    { devices := ⟨[{ lamp with configId := some "c" }]⟩, rules := { rules := [commandRule] } }
    Pipeline.lampLogin

theorem commandLamp_rules :
    (Snapshot.get lampGate.snapshotLifetime commandLamp "c" .down).1 = .ok [commandRule] := by
  decide +kernel

theorem commandLamp_downlink
    (x : Gate.Downlink lampGate commandLamp "devices/command/n1/7" [72, 105]) :
    x.device.id = "d1" ∧ x.configId = "c" ∧ x.rules = [commandRule] ∧ x.rule = commandRule := by
  obtain ⟨number, device, configId, rules, rule, route, isFor, known, configured, found, routed⟩ :=
    x
  have hnumber : Topic.Canonical.deviceNumber? "devices/command/n1/7" = some "n1" := by
    decide +kernel
  cases hnumber.symm.trans isFor
  have hdevice : commandLamp.ask (.number "n1") =
      .ok (some { lamp with configId := some "c" }) := by
    decide +kernel
  cases hdevice.symm.trans known
  cases configured
  cases commandLamp_rules.symm.trans found
  exact ⟨rfl, rfl, rfl, List.mem_singleton.mp routed.mem⟩

theorem downRoute_subscribable_command :
    (Topic.IsPiece "n1".toList ∧
      downRoute? [commandRule] "devices/command/n1/7" "n1" [72, 105] =
        some ⟨"v/xn1/{unit}", [72, 105], 1, false⟩ ∧
      allowsSubscribe [commandRule] "v/xn1/{unit}" = true) ∧
    Client.isPrivileged ⟨"p", "plugin"⟩ = true ∧ Client.isPrivileged ⟨"k", "lamp"⟩ = false ∧
      (lampGate.publish commandLamp ⟨"p", "plugin"⟩ "devices/command/n1/7" [72, 105]).2.sent =
        [⟨"v/xn1/{unit}", [72, 105]⟩] ∧
      (lampGate.subscribe commandLamp ⟨"k", "lamp"⟩ "v/xn1/{unit}").1 = .ok () := by
  have hnumber : Topic.IsPiece "n1".toList := by decide
  have hroute : downRoute? [commandRule] "devices/command/n1/7" "n1" [72, 105] =
      some ⟨"v/xn1/{unit}", [72, 105], 1, false⟩ := by
    decide +kernel
  have husable : Topic.Usable commandRule.source := by decide +kernel
  have hsender : Client.isPrivileged ⟨"p", "plugin"⟩ = true := by decide
  have hclient : Client.isPrivileged ⟨"k", "lamp"⟩ = false := by decide
  have hsent : (lampGate.publish commandLamp ⟨"p", "plugin"⟩ "devices/command/n1/7"
      [72, 105]).2.sent = [⟨"v/xn1/{unit}", [72, 105]⟩] := by
    decide +kernel
  obtain ⟨hrules, _, hgate⟩ := downRoute_subscribable
  refine ⟨⟨hnumber, hroute, ?_⟩, hsender, hclient, hsent, ?_⟩
  · obtain ⟨r, hr, hallows⟩ := hrules _ _ _ _ _ hnumber hroute
    have heq : r = commandRule := List.mem_singleton.mp hr.mem
    exact hallows (heq ▸ husable)
  · have hmem : ⟨"v/xn1/{unit}", [72, 105]⟩ ∈ (lampGate.publish commandLamp ⟨"p", "plugin"⟩
        "devices/command/n1/7" [72, 105]).2.sent := by
      rw [hsent]
      exact List.mem_singleton_self _
    have hbefore : commandLamp.sent = [] := by decide +kernel
    rcases hgate lampGate commandLamp _ _ _ hsender _ hmem with hold | ⟨x, _, hsubscribe⟩
    · rw [hbefore] at hold
      cases hold
    · obtain ⟨hdevice, hconfig, hfound, hrule⟩ := commandLamp_downlink x
      apply hsubscribe (hrule ▸ husable) lampGate commandLamp ⟨"k", "lamp"⟩ hclient
      · rw [hdevice]
        decide +kernel
      · rw [hdevice, hconfig]
        decide +kernel
      · rw [hconfig, hfound]
        exact commandLamp_rules

end DeviceGateway
