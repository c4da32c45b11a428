import DeviceGateway.Proofs.Gate.Handover
import DeviceGateway.Proofs.Pipeline
import DeviceGateway.Proofs.Topic.Template
/-!
What becomes of a message that a device publishes: the first of its rules to match sends it
elsewhere, and without one it goes out under a topic of the platform or not at all.
-/
namespace DeviceGateway

open Backend

namespace Backend

/-- A backend later on: nothing was handed to the link. -/
structure Unheard (b b' : Backend) : Prop where
  sent : b'.sent = b.sent
  failures : b'.tally .forwardFailures = b.tally .forwardFailures
  faults : b'.faults = b.faults

variable {b b' b'' : Backend}

theorem Unheard.refl : Unheard b b := ⟨rfl, rfl, rfl⟩

theorem Unheard.trans (h : Unheard b b') (h' : Unheard b' b'') : Unheard b b'' :=
  ⟨h'.sent.trans h.sent, h'.failures.trans h.failures, h'.faults.trans h.faults⟩

theorem count_unheard (b : Backend) {c : Counter} (h : c ≠ .forwardFailures) :
    Unheard b (b.count c) :=
  ⟨rfl, if_neg h.symm, rfl⟩

theorem SameDone.unheard {P : String → Prop} {c c' : Backend} (h : SameDone P b b' c c') :
    Unheard b c :=
  h.keeps .refl (fun _ hc _ _ => hc.trans ⟨rfl, rfl, rfl⟩) fun hc => hc.trans ⟨rfl, rfl, rfl⟩

theorem note_unheard (b : Backend) (deviceId : String) (e : DeviceLog.Entry) :
    Unheard b (b.note deviceId e) := by
  rcases b.note_leaves deviceId e with h | ⟨raw, maxItems, ttl, kv, _, h⟩
  · rw [h]
    exact .refl
  · rw [h]
    exact ⟨rfl, rfl, rfl⟩

/-- One message is handed to the link, which takes it or fails. -/
def HandsOver (m : Message) (b b' : Backend) : Prop :=
  if b.faults.forwarder then
    b'.sent = b.sent ∧ b'.tally .forwardFailures = b.tally .forwardFailures + 1
  else b'.sent = b.sent ++ [m] ∧ b'.tally .forwardFailures = b.tally .forwardFailures

namespace HandsOver

variable {m : Message}

theorem after (h : HandsOver m b' b'') (hbefore : Unheard b b') : HandsOver m b b'' := by
  unfold HandsOver at h ⊢
  rw [hbefore.faults, hbefore.sent, hbefore.failures] at h
  exact h

theorem trans (h : HandsOver m b b') (hafter : Unheard b' b'') : HandsOver m b b'' := by
  unfold HandsOver at h ⊢
  rw [hafter.sent, hafter.failures]
  exact h

end HandsOver

theorem send_handsOver {topic : String} {payload : Bytes} (h : b.send topic payload = .ok b') :
    HandsOver ⟨topic, payload⟩ b b' := by
  unfold send at h
  split at h
  · cases h
  · next hforwarder =>
    cases h
    unfold HandsOver
    rw [if_neg hforwarder]
    exact ⟨rfl, rfl⟩

theorem count_handsOver {topic : String} {payload : Bytes} {e : ForwardError}
    (h : b.send topic payload = .error e) :
    HandsOver ⟨topic, payload⟩ b (b.count .forwardFailures) := by
  unfold send at h
  split at h
  · next hforwarder =>
    unfold HandsOver
    rw [if_pos hforwarder]
    exact ⟨rfl, by simp [count, Tally.bump]⟩
  · cases h

end Backend

namespace Mapping

theorem Snapshot.get_unheard (lifetime : Nat) (b : Backend) (configId : String)
    (direction : Direction) : Unheard b (get lifetime b configId direction).2 :=
  (get_congr lifetime .refl rfl).2.unheard

theorem ask_unheard {α : Type} (lifetime : Nat) (b : Backend) (configId : String)
    (direction : Direction) (question : List Rule → α) :
    Unheard b (ask lifetime b configId direction question).2 := by
  rw [Snapshot.ask_eq]
  exact Snapshot.get_unheard lifetime b configId direction

theorem Snapshot.get_eq_ok (lifetime : Nat) {b : Backend} (hrules : b.faults.rules = false)
    {configId : String} (hblank : Text.isBlank configId = false) (direction : Direction) :
    ∃ rules, (get lifetime b configId direction).1 = .ok rules := by
  cases hread : read b configId direction with
  | some rules => exact ⟨rules, congrArg Prod.fst (get_of_read lifetime hblank hread)⟩
  | none =>
      refine ⟨current b configId direction, ?_⟩
      rw [get_of_miss lifetime b hread, load_eq b hblank, hrules]
      rfl

/-- The first rule to match gives the target, as it stands in the rule. -/
theorem upTarget_of_rules (lifetime : Nat) {b : Backend} {configId : String} {rules : List Rule}
    (hrules : (Snapshot.get lifetime b configId .up).1 = .ok rules) (topic : String) :
    upTarget lifetime b configId topic =
      (.ok ((rules.find? fun r => Topic.accepts r.source topic).map (·.target)),
        (Snapshot.get lifetime b configId .up).2) := by
  unfold upTarget
  rw [Snapshot.ask_eq, hrules]
  simp only [Except.map, upTarget?, Topic.render_nil]

end Mapping

namespace Gate

variable (g : Gate) {b : Backend}

/-- The upward rules of a device, as they are looked up at the time; there are none for a device
without a configuration. -/
def upRules (b : Backend) (deviceId : String) : Except Mapping.Error (List Rule) :=
  match (b.devices.byId deviceId).bind Device.config? with
  | none => .ok []
  | some configId => (Mapping.Snapshot.get g.snapshotLifetime b configId .up).1

theorem upRules_eq_ok (h : b.StoresWork) {deviceId : String}
    (hconfig : ∀ configId, (b.devices.byId deviceId).bind Device.config? = some configId →
      Text.isBlank configId = false) : ∃ rules, g.upRules b deviceId = .ok rules := by
  unfold upRules
  cases hc : (b.devices.byId deviceId).bind Device.config? with
  | none => exact ⟨[], rfl⟩
  | some configId =>
      exact Mapping.Snapshot.get_eq_ok g.snapshotLifetime h.rules (hconfig configId hc) .up

/-- The first rule to match decides on a message, or else the platform's topics do. -/
theorem publishFrom_eq (h : b.StoresWork) {deviceId : String} {rules : List Rule}
    (hrules : g.upRules b deviceId = .ok rules) (topic : String) (payload : Bytes)
    (e : DeviceLog.Entry) :
    ∃ asked, Unheard b asked ∧ g.publishFrom b deviceId topic payload e =
      match rules.find? fun r => Topic.accepts r.source topic with
      | some r => redirectUp asked deviceId r.target payload e
      | none => publishPlain asked deviceId topic payload e := by
  unfold publishFrom
  unfold upRules at hrules
  rw [Identity.boundConfig_eq h]
  cases hc : (b.devices.byId deviceId).bind Device.config? with
  | none =>
      rw [hc] at hrules
      cases hrules
      exact ⟨b, .refl, rfl⟩
  | some configId =>
      rw [hc] at hrules
      refine ⟨_, Mapping.Snapshot.get_unheard g.snapshotLifetime b configId .up, ?_⟩
      dsimp only at hrules ⊢
      rw [Mapping.upTarget_of_rules _ hrules]
      cases rules.find? fun r => Topic.accepts r.source topic <;> rfl

theorem upward?_eq (h : b.StoresWork) {client : Client} {deviceId : String}
    (hbound : Identity.boundDevice b client.id = .ok (some deviceId)) {rules : List Rule}
    (hrules : g.upRules b deviceId = .ok rules) (topic : String) (payload : Bytes) :
    g.upward? b client topic payload =
      (rules.find? fun r => Topic.accepts r.source topic).map fun r =>
        ⟨r.target, upEnvelope deviceId payload⟩ := by
  unfold upward?
  unfold upRules at hrules
  rw [hbound]
  dsimp only [Except.toOption, Option.join, Option.bind_eq_bind, Option.bind_some, id]
  rw [Identity.boundConfig_eq h]
  cases hc : (b.devices.byId deviceId).bind Device.config? with
  | none =>
      rw [hc] at hrules
      cases hrules
      rfl
  | some configId =>
      rw [hc] at hrules
      dsimp only at hrules
      change (Mapping.upTarget g.snapshotLifetime b configId topic).1.toOption.join.bind _ = _
      rw [Mapping.upTarget_of_rules _ hrules]
      cases rules.find? fun r => Topic.accepts r.source topic <;> rfl

/-- What is sent elsewhere is handed to the link as the broker is told. -/
theorem redirectUp_handsOver (b : Backend) (deviceId target : String) (payload : Bytes)
    (e : DeviceLog.Entry) :
    HandsOver ⟨target, upEnvelope deviceId payload⟩ b
      (redirectUp b deviceId target payload e).2 := by
  unfold redirectUp
  dsimp only
  split
  · next h =>
    exact ((send_handsOver h).trans (note_unheard _ deviceId _)).trans (count_unheard _ nofun)
  · next h =>
    exact ((count_handsOver h).trans (note_unheard _ deviceId _)).trans (count_unheard _ nofun)

theorem publishPlain_unheard (b : Backend) (deviceId topic : String) (payload : Bytes)
    (e : DeviceLog.Entry) : Unheard b (publishPlain b deviceId topic payload e).2 := by
  unfold publishPlain
  split
  · exact (count_unheard b (c := .publishOk) (by decide)).trans (note_unheard _ deviceId _)
  · exact (count_unheard b (c := .publishDenied) (by decide)).trans (note_unheard _ deviceId _)

end Gate

namespace Pipeline

section

variable {client : Client} {topic : String}

theorem handed_of_passes (g : Gate) (b : Backend) {hooks : List Hook} {payload last : Bytes}
    (h : Passes client topic hooks payload last) :
    (Script.handle ⟨hooks, g⟩ (.publish client topic payload)).handed b =
      (Script.publish g client topic last).handed b := by
  simp only [Script.handle, passAll_of_passes h]
  rw [Script.handed_bind]
  exact List.append_nil _

theorem handed_of_stops (g : Gate) (b : Backend) {before : List Hook} {payload next : Bytes}
    (hbefore : Passes client topic before payload next) {h : Hook}
    (hstops : Stops client topic h next) (after : List Hook) :
    (Script.handle ⟨before ++ h :: after, g⟩ (.publish client topic payload)).handed b = [] := by
  simp only [Script.handle, passAll_of_stops hbefore hstops after]
  cases hdecision : h.onPublish client topic next with
  | accept altered => exact absurd hdecision (hstops altered)
  | reject refusal => rfl
  | redirect target altered => rfl

end

/-- A device's message is decided by the first hook to stop it, before the gate has a part in it.
Else the first rule to match sends it elsewhere, to the text of the rule's target; without a match
it goes out if the platform knows its topic. Nothing else is handed to the link, and that is so
whether the link takes it or fails. -/
theorem publish_routes (g : Gate) {b : Backend} (down : Bool)
    (hfaults : b.faults = { forwarder := down }) {client : Client}
    (hclient : client.isPrivileged = false) {deviceId : String}
    (hbound : Identity.boundDevice b client.id = .ok (some deviceId))
    (hconfig : ∀ configId, (b.devices.byId deviceId).bind Device.config? = some configId →
      Text.isBlank configId = false)
    (hooks : List Hook) (topic : String) (payload : Bytes) :
    ((∃ last, Passes client topic hooks payload last) ∨
      ∃ before h after next, hooks = before ++ h :: after ∧
        Passes client topic before payload next ∧ Stops client topic h next) ∧
    (∀ before h after next, hooks = before ++ h :: after → Passes client topic before payload next →
      Stops client topic h next → ∀ now, publish ⟨hooks, g⟩ now client topic payload =
        ((h.onPublish client topic next).delivery, now) ∧
          (Script.handle ⟨hooks, g⟩ (.publish client topic payload)).handed now = []) ∧
    ∀ last, Passes client topic hooks payload last →
      ∃ rules, g.upRules b deviceId = .ok rules ∧
        let (delivery, after) := publish ⟨hooks, g⟩ b client topic payload
        let handed := (Script.handle ⟨hooks, g⟩ (.publish client topic payload)).handed b
        match rules.find? fun r => Topic.accepts r.source topic with
        | some r =>
          delivery = .discarded r.target (upEnvelope deviceId last) ∧
            HandsOver ⟨r.target, upEnvelope deviceId last⟩ b after ∧
            handed = [⟨r.target, upEnvelope deviceId last⟩]
        | none =>
          delivery = (if Topic.Canonical.publishable topic then .deliver (upEnvelope deviceId last)
            else .rejected (.permission ("publish to " ++ topic))) ∧
            Unheard b after ∧ handed = [] := by
  have hworks := StoresWork.of_faults hfaults
  refine ⟨passes_or_stops client topic hooks payload, ?_, ?_⟩
  · rintro before h after next rfl hbefore hstops now
    exact ⟨publish_of_stops g now hbefore hstops after,
      handed_of_stops g now hbefore hstops after⟩
  · intro last hpasses
    obtain ⟨rules, hrules⟩ := g.upRules_eq_ok hworks hconfig
    refine ⟨rules, hrules, ?_⟩
    rw [publish_of_passes g b hpasses, handed_of_passes g b hpasses, Script.handed_publish,
      g.upward?_eq hworks hbound hrules]
    simp only [Gate.publish, hclient, hbound, Bool.false_eq_true, if_false]
    obtain ⟨asked, hasked, heq⟩ := g.publishFrom_eq hworks hrules topic last _
    rw [heq]
    cases rules.find? fun r => Topic.accepts r.source topic with
    | some r =>
        exact ⟨rfl, (Gate.redirectUp_handsOver asked deviceId r.target last _).after hasked, rfl⟩
    | none =>
        refine ⟨?_, hasked.trans (Gate.publishPlain_unheard asked deviceId topic last _), rfl⟩
        unfold Gate.publishPlain
        cases Topic.Canonical.publishable topic with
        | true => rfl
        | false => rfl

def boundLamp : Backend :=
  run lampGate { Mapping.ruleBackend with devices := ⟨[{ lamp with configId := some "c" }]⟩ }
    [.event [] (.auth ⟨"k", "lamp"⟩ "lamp" "pw")]

def exclaim : List Hook := [.alter "exclaim" (· ++ [33])]

theorem publish_routes_lamp :
    boundLamp.faults = { forwarder := false } ∧
      Client.isPrivileged ⟨"k", "lamp"⟩ = false ∧
      Identity.boundDevice boundLamp "k" = .ok (some "d1") ∧
      (∀ configId, (boundLamp.devices.byId "d1").bind Device.config? = some configId →
        Text.isBlank configId = false) ∧
      Passes ⟨"k", "lamp"⟩ "a" exclaim [72, 105] [72, 105, 33] ∧
      let (delivery, after) := publish ⟨exclaim, lampGate⟩ boundLamp ⟨"k", "lamp"⟩ "a" [72, 105]
      delivery = .discarded "b" (upEnvelope "d1" [72, 105, 33]) ∧
        HandsOver ⟨"b", upEnvelope "d1" [72, 105, 33]⟩ boundLamp after ∧
        (Script.handle ⟨exclaim, lampGate⟩ (.publish ⟨"k", "lamp"⟩ "a" [72, 105])).handed
          boundLamp = [⟨"b", upEnvelope "d1" [72, 105, 33]⟩] := by
  have hfaults : boundLamp.faults = { forwarder := false } := by decide +kernel
  have hclient : Client.isPrivileged ⟨"k", "lamp"⟩ = false := by decide
  have hbound : Identity.boundDevice boundLamp "k" = .ok (some "d1") := by decide +kernel
  have hconfig : ∀ configId, (boundLamp.devices.byId "d1").bind Device.config? = some configId →
      Text.isBlank configId = false := by
    have hc : (boundLamp.devices.byId "d1").bind Device.config? = some "c" := by decide +kernel
    rw [hc]
    intro configId heq
    cases heq
    decide
  have hpasses : Passes ⟨"k", "lamp"⟩ "a" exclaim [72, 105] [72, 105, 33] :=
    .cons rfl (.nil _)
  have hrules : lampGate.upRules boundLamp "d1" = .ok [Mapping.ruleUp] := by decide +kernel
  have hfirst : [Mapping.ruleUp].find? (fun r => Topic.accepts r.source "a") =
      some Mapping.ruleUp := by decide +kernel
  obtain ⟨rules, heq, hroutes⟩ := (publish_routes lampGate false hfaults hclient hbound hconfig
    exclaim "a" [72, 105]).2.2 [72, 105, 33] hpasses
  cases hrules.symm.trans heq
  rw [hfirst] at hroutes
  exact ⟨hfaults, hclient, hbound, hconfig, hpasses, hroutes⟩

end Pipeline

end DeviceGateway
