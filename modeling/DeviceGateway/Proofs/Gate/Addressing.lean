import DeviceGateway.Proofs.Gate.Outbound
import DeviceGateway.Proofs.Identity.Binding
import DeviceGateway.Proofs.Mapping.Selection
import DeviceGateway.Proofs.Mapping.Stock
/-!
The topics under which messages are handed to the link. Those of reports are made by the gate, and
can be published to. Those of messages that rules are for are as good as the rules: downwards a rule
that leaves a wildcard is passed over, upwards the target is taken as it stands.
-/
namespace DeviceGateway

open Backend

namespace Topic

/-- A topic that messages can be published to: it is not empty, and stands for itself alone. -/
def Concrete (topic : String) : Prop := topic ≠ "" ∧ hasWildcard topic = false

instance : DecidablePred Concrete :=
  fun topic => inferInstanceAs (Decidable (topic ≠ "" ∧ hasWildcard topic = false))

theorem hasWildcard_append (s t : String) :
    hasWildcard (s ++ t) = (hasWildcard s || hasWildcard t) := by
  simp [hasWildcard]

theorem Canonical.ne_empty_of_deviceNumber? {topic number : String}
    (h : deviceNumber? topic = some number) : number ≠ "" := by
  rintro rfl
  cases List.find?_some h

end Topic

theorem statusTopic_concrete {deviceId : String} (h : Topic.hasWildcard deviceId = false) :
    Topic.Concrete (statusTopic deviceId) := by
  refine ⟨?_, ?_⟩
  · intro hempty
    exact absurd (String.append_eq_empty_iff.mp hempty).1 (by decide)
  · rw [statusTopic, Topic.hasWildcard_append, h]
    decide

namespace Mapping

theorem mem_of_upTarget? {rules : List Rule} {topic target : String}
    (h : upTarget? rules topic = some target) : ∃ r ∈ rules, target = r.target := by
  obtain ⟨r, hr, rfl⟩ := Option.map_eq_some_iff.mp h
  exact ⟨r, List.mem_of_find?_eq_some hr, Topic.render_nil r.target⟩

theorem mem_of_downRoute? {rules : List Rule} {topic number : String} {payload : Bytes}
    {route : Route} (h : downRoute? rules topic number payload = some route) :
    ∃ r ∈ rules, Eligible topic number r ∧ route.topic = sourceFor number r := by
  have hmem {p : Rule → Bool} {r : Rule}
      (hr : (eligible rules topic number).find? p = some r) :
      r ∈ rules ∧ Eligible topic number r := by
    obtain ⟨hr, he⟩ := List.mem_filter.mp (List.mem_of_find?_eq_some hr)
    exact ⟨hr, of_decide_eq_true he⟩
  rw [downRoute?, downRouteFrom_eq, Option.none_or, Option.or_eq_some_iff] at h
  rcases h with h | ⟨_, h⟩
  · obtain ⟨c, _, h⟩ := Option.bind_eq_some_iff.mp h
    obtain ⟨r, hr, h⟩ := Option.bind_eq_some_iff.mp h
    cases h
    exact ⟨r, (hmem hr).1, (hmem hr).2, rfl⟩
  · obtain ⟨r, hr, rfl⟩ := Option.map_eq_some_iff.mp h
    exact ⟨r, (hmem hr).1, (hmem hr).2, rfl⟩

/-- Down to a device nothing goes but under topics that can be published to, unless a rule's source
is empty. -/
theorem Eligible.sourceFor_concrete {topic number : String} {r : Rule}
    (h : Eligible topic number r) (hnumber : number ≠ "") :
    Topic.Concrete (sourceFor number r) ∨ r.source = "" ∧ sourceFor number r = "" := by
  have hvalues : ∀ v ∈ [(Topic.deviceNumber, number)], v.2 ≠ "" := by simpa using hnumber
  have hempty : sourceFor number r = "" ↔ r.source = "" :=
    Topic.render_eq_empty_iff hvalues r.source
  by_cases hsource : r.source = ""
  · exact .inr ⟨hsource, hempty.mpr hsource⟩
  · exact .inl ⟨fun heq => hsource (hempty.mp heq), (eligible_iff.mp h).2⟩

/-- What becomes the topic of a message because a rule says so, though nothing can be published to
it: an upward rule's target, or the empty source of a downward rule. -/
inductive Misleads (R : Rule → Prop) (s : RuleStore) : String → Prop
  | upward {configId : String} {r : Rule} : R r → s.Serves .up configId r →
      ¬ Topic.Concrete r.target → Misleads R s r.target
  | downward {configId : String} {r : Rule} : R r → s.Serves .down configId r → r.source = "" →
      Misleads R s ""

end Mapping

/-- What is answered by rules is answered by those that a lookup finds. -/
theorem Mapping.eq_of_ask {α : Type} {lifetime : Nat} {b : Backend} {configId : String}
    {direction : Direction} {question : List Rule → Option α} {a : α}
    (h : (ask lifetime b configId direction question).1.toOption.join = some a) :
    ∃ rules, (Snapshot.get lifetime b configId direction).1 = .ok rules ∧
      question rules = some a := by
  rw [Snapshot.ask_eq] at h
  cases hget : (Snapshot.get lifetime b configId direction).1 with
  | error e =>
      rw [hget] at h
      cases h
  | ok rules =>
      rw [hget] at h
      exact ⟨rules, rfl, h⟩

namespace Gate

open Mapping

variable {g : Gate} {b : Backend} {client : Client} {m : Message}

theorem report?_topic {status : String} (h : report? b client status = some m) :
    ∃ deviceId, Identity.boundDevice b client.id = .ok (some deviceId) ∧
      m.topic = statusTopic deviceId := by
  obtain ⟨_, _, h⟩ := Option.bind_eq_some_iff.mp h
  obtain ⟨deviceId, hbound, h⟩ := Option.bind_eq_some_iff.mp h
  cases h
  refine ⟨deviceId, ?_, rfl⟩
  cases hb : Identity.boundDevice b client.id with
  | error e =>
      rw [hb] at hbound
      cases hbound
  | ok bound =>
      rw [hb] at hbound
      cases hbound
      rfl

variable {R : Rule → Prop} (hstock : Stocked R b)
include hstock

theorem upward?_topic {topic : String} {payload : Bytes}
    (h : g.upward? b client topic payload = some m) :
    Topic.Concrete m.topic ∨ Misleads R b.rules m.topic := by
  obtain ⟨deviceId, _, h⟩ := Option.bind_eq_some_iff.mp h
  obtain ⟨configId, _, h⟩ := Option.bind_eq_some_iff.mp h
  obtain ⟨target, htarget, h⟩ := Option.bind_eq_some_iff.mp h
  cases h
  obtain ⟨rules, hget, htarget⟩ := eq_of_ask htarget
  obtain ⟨r, hr, rfl⟩ := mem_of_upTarget? htarget
  obtain ⟨hR, hserves⟩ := hstock.mem_get hget r hr
  by_cases hconcrete : Topic.Concrete r.target
  · exact .inl hconcrete
  · exact .inr (.upward hR hserves hconcrete)

theorem downward?_topic {topic : String} {payload : Bytes}
    (h : g.downward? b topic payload = some m) :
    Topic.Concrete m.topic ∨ Misleads R b.rules m.topic := by
  obtain ⟨number, hnumber, h⟩ := Option.bind_eq_some_iff.mp h
  obtain ⟨d, _, h⟩ := Option.bind_eq_some_iff.mp h
  obtain ⟨configId, _, h⟩ := Option.bind_eq_some_iff.mp h
  obtain ⟨route, hroute, h⟩ := Option.bind_eq_some_iff.mp h
  cases h
  obtain ⟨rules, hget, hroute⟩ := eq_of_ask hroute
  obtain ⟨r, hr, heligible, htopic⟩ := mem_of_downRoute? hroute
  obtain ⟨hR, hserves⟩ := hstock.mem_get hget r hr
  dsimp only
  rw [htopic]
  rcases heligible.sourceFor_concrete (Topic.Canonical.ne_empty_of_deviceNumber? hnumber) with
    hconcrete | ⟨hsource, hempty⟩
  · exact .inl hconcrete
  · rw [hempty]
    exact .inr (.downward hR hserves hsource)

end Gate

open Mapping

section

variable {g : Gate} {b : Backend} {R : Rule → Prop} {steps : List Step}

/-- Where clients are bound to devices with decent ids, rules alone are to blame for a topic that
nothing can be published to. -/
theorem Pipeline.outbound?_topic {p : Pipeline} (hstock : Stocked R b)
    (hbound : ∀ clientId deviceId, Identity.boundDevice b clientId = .ok (some deviceId) →
      Topic.hasWildcard deviceId = false) {e : Event} {m : Message}
    (h : p.outbound? b e = some m) : Topic.Concrete m.topic ∨ Misleads R b.rules m.topic := by
  have hreport {client : Client} {status : String} (h : Gate.report? b client status = some m) :
      Topic.Concrete m.topic := by
    obtain ⟨deviceId, hdevice, htopic⟩ := Gate.report?_topic h
    rw [htopic]
    exact statusTopic_concrete (hbound client.id deviceId hdevice)
  cases e with
  | auth client username password => cases h
  | subscribe client topic => cases h
  | connected client => exact .inl (hreport h)
  | closed client => exact .inl (hreport h)
  | publish client topic payload =>
      unfold outbound? at h
      dsimp only at h
      split at h
      · split at h
        · exact Gate.downward?_topic hstock h
        · exact Gate.upward?_topic hstock h
      · cases h

/-- Whether the store selects rules is settled from the start. -/
theorem Step.apply_selects (g : Gate) (b : Backend) (x : Step) :
    (x.apply g b).rules.selects = b.rules.selects := by
  cases hx : x.isOutside with
  | true => cases x <;> first | rfl | cases hx
  | false => exact (apply_sameParts g b hx).selects

theorem run_selects (g : Gate) (b : Backend) (steps : List Step) :
    (run g b steps).rules.selects = b.rules.selects := by
  induction steps generalizing b with
  | nil => rfl
  | cons x rest ih => exact (ih _).trans (x.apply_selects g b)

theorem Step.apply_sent (g : Gate) (b : Backend) {x : Step} (hx : ∀ hooks e, x ≠ .event hooks e) :
    (x.apply g b).sent = b.sent := by
  cases x with
  | event hooks e => exact absurd rfl (hx hooks e)
  | setFaults | setClock | lapse | putDevice | addRule | removeRule => rfl
  | lookUp configId direction => exact (Snapshot.get_unheard _ b configId direction).sent
  | invalidate configId =>
      simp only [apply, Snapshot.invalidate, delete_eq]
      split
      · rfl
      · split <;> rfl
  | setPolicy deviceId policy =>
      simp only [apply, DeviceLog.setPolicy, set_eq]
      split
      · rfl
      · split <;> rfl
  | writeLog deviceId entry =>
      have h : Frame (fun _ => True) False b (DeviceLog.write b deviceId entry).2 :=
        DeviceLog.write_frame b entry trivial
      exact h.sent id

theorem Mapping.Misleads.congr {s s' : RuleStore} (hselects : s'.selects = s.selects)
    {topic : String} (h : Misleads R s topic) : Misleads R s' topic := by
  have hserves {direction : Direction} {configId : String} {r : Rule}
      (hr : s.Serves direction configId r) : s'.Serves direction configId r :=
    ⟨hr.1, hselects ▸ hr.2⟩
  cases h with
  | upward hR hr hconcrete => exact .upward hR (hserves hr) hconcrete
  | downward hR hr hsource => exact .downward hR (hserves hr) hsource

variable (hR : ∀ r, R r → r.Valid)
variable (hunbound : ∀ clientId, b.keyValue.find? (Identity.bindingKey clientId) = none)
variable (hstock : Stocked R b) (hids : ∀ d ∈ b.devices.records, Topic.hasWildcard d.id = false)
include hR hunbound hstock hids

theorem outbound?_of_run (hadded : ∀ r, .addRule r ∈ steps → R r)
    (hput : ∀ d, .putDevice d ∈ steps → Topic.hasWildcard d.id = false) {p : Pipeline} {e : Event}
    {m : Message} (h : p.outbound? (run g b steps) e = some m) :
    Topic.Concrete m.topic ∨ Misleads R b.rules m.topic := by
  refine (Pipeline.outbound?_topic (hstock.run hR g hadded) ?_ h).imp_right
    (.congr (run_selects g b steps).symm)
  intro clientId deviceId hbound
  obtain ⟨d, hd, rfl⟩ := bound_of_run g hunbound hids hput hbound
  exact hd

theorem sent_of_run (hadded : ∀ r, .addRule r ∈ steps → R r)
    (hput : ∀ d, .putDevice d ∈ steps → Topic.hasWildcard d.id = false) {m : Message}
    (hm : m ∈ (run g b steps).sent) :
    m ∈ b.sent ∨ Topic.Concrete m.topic ∨ Misleads R b.rules m.topic := by
  induction steps using List.reverseRecOn with
  | nil => exact .inl hm
  | append_singleton before x ih =>
      have hadded' : ∀ r, .addRule r ∈ before → R r :=
        fun r hr => hadded r (List.mem_append_left _ hr)
      have hput' : ∀ d, .putDevice d ∈ before → Topic.hasWildcard d.id = false :=
        fun d hd => hput d (List.mem_append_left _ hd)
      rw [run_concat] at hm
      by_cases hx : ∃ hooks e, x = .event hooks e
      · obtain ⟨hooks, e, rfl⟩ := hx
        rcases (Pipeline.handle_hands ⟨hooks, g⟩ (run g b before) e).mem_sent hm with hm | hm
        · exact ih hadded' hput' hm
        · exact .inr (outbound?_of_run hR hunbound hstock hids hadded' hput' hm)
      · rw [x.apply_sent g _ fun hooks e heq => hx ⟨hooks, e, heq⟩] at hm
        exact ih hadded' hput' hm

end

/-- The rules that there are in a run: from its start, or since they were added. -/
def Step.Known (b : Backend) (steps : List Step) (r : Rule) : Prop :=
  r ∈ b.rules.rules ∨ .addRule r ∈ steps

/-- After any run from a start without bindings and snapshots an event hands over one message or
none, whether the link takes it or not. Where ids of devices leave no wildcards, its topic can be
published to, unless a rule misleads: an upward one with a target that is no such topic, or a
downward one with an empty source. So it is with all that was sent in the run. -/
theorem outbound_run (g : Gate) {b : Backend}
    (hunbound : ∀ clientId, b.keyValue.find? (Identity.bindingKey clientId) = none)
    (hunread : ∀ direction configId,
      b.keyValue.find? (Mapping.Snapshot.key direction configId) = none) (steps : List Step)
    (hids : ∀ d, d ∈ b.devices.records ∨ .putDevice d ∈ steps → Topic.hasWildcard d.id = false)
    (hvalid : ∀ r, Step.Known b steps r → r.Valid) :
    (∀ hooks e,
      Hands (Pipeline.outbound? ⟨hooks, g⟩ (run g b steps) e) (run g b steps)
          (Pipeline.handle ⟨hooks, g⟩ (run g b steps) e).2 ∧
        (Script.handle ⟨hooks, g⟩ e).handed (run g b steps) =
          (Pipeline.outbound? ⟨hooks, g⟩ (run g b steps) e).toList ∧
        ∀ m, Pipeline.outbound? ⟨hooks, g⟩ (run g b steps) e = some m →
          Topic.Concrete m.topic ∨ Misleads (Step.Known b steps) b.rules m.topic) ∧
    ∀ m ∈ (run g b steps).sent,
      m ∈ b.sent ∨ Topic.Concrete m.topic ∨ Misleads (Step.Known b steps) b.rules m.topic := by
  have hstock : Stocked (Step.Known b steps) b := by
    refine ⟨fun r hr => .inl hr, ?_⟩
    intro direction configId raw ttl rules hraw
    rw [hunread] at hraw
    cases hraw
  have hdevices : ∀ d ∈ b.devices.records, Topic.hasWildcard d.id = false :=
    fun d hd => hids d (.inl hd)
  have hput : ∀ d, .putDevice d ∈ steps → Topic.hasWildcard d.id = false :=
    fun d hd => hids d (.inr hd)
  have hadded : ∀ r, .addRule r ∈ steps → Step.Known b steps r := fun r hr => .inr hr
  refine ⟨?_, ?_⟩
  · intro hooks e
    exact ⟨Pipeline.handle_hands ⟨hooks, g⟩ _ e, Pipeline.handed_handle ⟨hooks, g⟩ _ e,
      fun m hm => outbound?_of_run hvalid hunbound hstock hdevices hadded hput hm⟩
  · intro m hm
    exact sent_of_run hvalid hunbound hstock hdevices hadded hput hm

/-- A lamp with a rule that sends its messages to a pattern. -/
def carelessLamp : Backend where
  devices := ⟨[{ lamp with configId := some "c" }]⟩
  rules := { rules := [{ ruleUp with target := "b/+" }] }

/-- It logs in, says that it is there, and publishes a message that the rule is for. -/
def carelessDay : List Step :=
  [.event [] (.auth ⟨"k", "lamp"⟩ "lamp" "pw"), .event [] (.connected ⟨"k", "lamp"⟩),
    .event [] (.publish ⟨"k", "lamp"⟩ "a" [72, 105])]

theorem outbound_run_lamp :
    (∀ clientId, carelessLamp.keyValue.find? (Identity.bindingKey clientId) = none) ∧
      (∀ direction configId,
        carelessLamp.keyValue.find? (Snapshot.key direction configId) = none) ∧
      (∀ d, d ∈ carelessLamp.devices.records ∨ .putDevice d ∈ carelessDay →
        Topic.hasWildcard d.id = false) ∧
      (∀ r, Step.Known carelessLamp carelessDay r → r.Valid) ∧
      (Pipeline.outbound? ⟨[], lampGate⟩ (run lampGate carelessLamp carelessDay)
          (.publish ⟨"k", "lamp"⟩ "a" [72, 105]) = some ⟨"b/+", upEnvelope "d1" [72, 105]⟩ ∧
        Misleads (Step.Known carelessLamp carelessDay) carelessLamp.rules "b/+") ∧
      ∀ m ∈ (run lampGate carelessLamp carelessDay).sent, Topic.Concrete m.topic ∨
        Misleads (Step.Known carelessLamp carelessDay) carelessLamp.rules m.topic := by
  have hunbound : ∀ clientId, carelessLamp.keyValue.find? (Identity.bindingKey clientId) = none :=
    fun _ => rfl
  have hunread : ∀ direction configId,
      carelessLamp.keyValue.find? (Snapshot.key direction configId) = none := fun _ _ => rfl
  have hids : ∀ d, d ∈ carelessLamp.devices.records ∨ .putDevice d ∈ carelessDay →
      Topic.hasWildcard d.id = false := by
    rintro d (hd | hd)
    · cases List.mem_singleton.mp hd
      decide
    · simp [carelessDay] at hd
  have hvalid : ∀ r, Step.Known carelessLamp carelessDay r → r.Valid := by
    have hrules : ∀ r ∈ carelessLamp.rules.rules, r.Valid := by decide
    rintro r (hr | hr)
    · exact hrules r hr
    · simp [carelessDay] at hr
  have hnext : Pipeline.outbound? ⟨[], lampGate⟩ (run lampGate carelessLamp carelessDay)
      (.publish ⟨"k", "lamp"⟩ "a" [72, 105]) = some ⟨"b/+", upEnvelope "d1" [72, 105]⟩ := by
    decide +kernel
  have hpattern : ¬ Topic.Concrete "b/+" := by decide
  obtain ⟨hevents, hsent⟩ := outbound_run lampGate hunbound hunread carelessDay hids hvalid
  refine ⟨hunbound, hunread, hids, hvalid, ⟨hnext, ?_⟩, ?_⟩
  · exact ((hevents [] _).2.2 _ hnext).resolve_left hpattern
  · exact fun m hm => (hsent m hm).resolve_left List.not_mem_nil

/-- The lamp's id is a plain text, and still a pattern goes to the link as a topic. -/
theorem sent_carelessLamp :
    (∀ d ∈ carelessLamp.devices.records, Topic.hasWildcard d.id = false) ∧
      (run lampGate carelessLamp carelessDay).sent.map (·.topic) = ["devices/status/d1", "b/+"] ∧
      ¬ Topic.Concrete "b/+" := by
  decide +kernel

end DeviceGateway
