import DeviceGateway.Proofs.Gate.Subscribe
import DeviceGateway.Proofs.Topic.Breadth
/-!
How much a granted subscription may take in. The platform's templates keep it to one device and to
single levels; a rule does no such thing, and a free level of its source lets any wildcard through.
-/
namespace DeviceGateway

open Backend
open Topic.Canonical (levels numberLevel agree subscribeLevel subscribeTemplates subscribable)

variable {g : Gate} {b : Backend} {client : Client} {topic : String}

namespace Gate

theorem accepts_of_subscribeByRules {deviceId : String}
    (h : (g.subscribeByRules b deviceId topic).1 = .ok true) :
    ∃ configId rules, Identity.boundConfig b deviceId = .ok (some configId) ∧
      (Mapping.Snapshot.get g.snapshotLifetime b configId .down).1 = .ok rules ∧
      ∃ r ∈ rules, Topic.accepts r.source topic = true := by
  cases hconfig : Identity.boundConfig b deviceId with
  | error e =>
      rw [subscribeByRules, hconfig] at h
      cases h
  | ok config =>
      cases config with
      | none =>
          rw [subscribeByRules, hconfig] at h
          cases h
      | some configId =>
          rw [subscribeByRules_fst g b hconfig] at h
          cases hget : (Mapping.Snapshot.get g.snapshotLifetime b configId .down).1 with
          | error e =>
              rw [hget] at h
              cases h
          | ok rules =>
              rw [hget] at h
              exact ⟨configId, rules, rfl, hget, List.any_eq_true.mp (Except.ok.inj h)⟩

/-- A subscription is granted for a topic of the platform, or for what a rule matches that the
lookup of the client's rules yields. -/
theorem accepts_of_subscribe (hclient : client.isPrivileged = false)
    (hok : (g.subscribe b client topic).1 = .ok ()) :
    subscribable topic = true ∨
      ∃ deviceId configId rules, Identity.boundDevice b client.id = .ok (some deviceId) ∧
        Identity.boundConfig b deviceId = .ok (some configId) ∧
        (Mapping.Snapshot.get g.snapshotLifetime b configId .down).1 = .ok rules ∧
        ∃ r ∈ rules, Topic.accepts r.source topic = true := by
  simp only [subscribe, hclient, Bool.false_eq_true, if_false] at hok
  split at hok
  · next hstatic => exact .inl hstatic
  · have hallowed :
        (g.subscribeBound b (Identity.boundDevice b client.id) topic).1 = .ok true := by
      split at hok
      · next h => rw [h]
      · cases hok
      · cases hok
    unfold subscribeBound at hallowed
    split at hallowed
    · cases hallowed
    · cases hallowed
    · next deviceId hbound =>
      obtain ⟨configId, rules, hrule⟩ := accepts_of_subscribeByRules hallowed
      exact .inr ⟨deviceId, configId, rules, hbound, hrule⟩

end Gate

namespace Pipeline

/-- What the platform's templates grant is never too broad. What a rule grants is, where a free
level of its source meets a hash or the device's number a wildcard; the rules that grant nothing too
broad are those whose source has no free level. -/
theorem subscribe_breadth (p : Pipeline) (hclient : client.isPrivileged = false)
    (hok : (p.subscribe b client topic).1 = .ok ()) :
    (subscribable topic = true ∧ ∀ t ∈ subscribeTemplates, agree subscribeLevel topic t = true →
      ¬ Topic.TooBroad t topic) ∨
    ∃ deviceId configId rules, Identity.boundDevice b client.id = .ok (some deviceId) ∧
      Identity.boundConfig b deviceId = .ok (some configId) ∧
      (Mapping.Snapshot.get p.gate.snapshotLifetime b configId .down).1 = .ok rules ∧
      ∃ r ∈ rules, Topic.accepts r.source topic = true ∧
        (Topic.TooBroad r.source topic ↔
          ∃ piece level, (piece, level) ∈ (levels topic.toList).zip (levels r.source.toList) ∧
            (piece = ['#'] ∧ Topic.FreeLevel level ∨ piece = ['+'] ∧ level = numberLevel)) ∧
        ((∀ other, Topic.accepts r.source other = true → ¬ Topic.TooBroad r.source other) ↔
          ∀ level ∈ levels r.source.toList, ¬ Topic.FreeLevel level) := by
  have hgate : (p.gate.subscribe b client topic).1 = .ok () := by
    rcases p.subscribe_cases b client topic with ⟨refusal, h⟩ | h
    · rw [h] at hok
      cases hok
    · rw [← h]
      exact hok
  rcases Gate.accepts_of_subscribe hclient hgate with
    hstatic | ⟨deviceId, configId, rules, hbound, hconfig, hget, r, hr, haccepts⟩
  · exact .inl ⟨hstatic, fun t ht => Topic.not_tooBroad_of_agree ht⟩
  · exact .inr ⟨deviceId, configId, rules, hbound, hconfig, hget, r, hr, haccepts,
      Topic.tooBroad_iff haccepts, Topic.never_tooBroad_iff (Topic.accepts_iff.mp haccepts).1⟩

theorem subscribe_breadth_lamp :
    Client.isPrivileged ⟨"k", "lamp"⟩ = false ∧
      (subscribe ⟨[], lampGate⟩ lampBackend ⟨"k", "lamp"⟩ "devices/telemetry/control/n1").1 =
        .ok () ∧
      ∀ t ∈ subscribeTemplates, agree subscribeLevel "devices/telemetry/control/n1" t = true →
        ¬ Topic.TooBroad t "devices/telemetry/control/n1" := by
  have hclient : Client.isPrivileged ⟨"k", "lamp"⟩ = false := by decide
  have hok : (subscribe ⟨[], lampGate⟩ lampBackend ⟨"k", "lamp"⟩
      "devices/telemetry/control/n1").1 = .ok () := by decide +kernel
  refine ⟨hclient, hok, ?_⟩
  rcases subscribe_breadth ⟨[], lampGate⟩ hclient hok with
    ⟨_, htemplates⟩ | ⟨deviceId, _, _, hbound, _⟩
  · exact htemplates
  · have hnone : Identity.boundDevice lampBackend "k" = .ok none := by decide +kernel
    cases hnone.symm.trans hbound

/-- A rule for the commands of one device lets the device subscribe to those of all. -/
theorem subscribe_vendorLamp :
    let now := run lampGate vendorLamp lampLogin
    (subscribe ⟨[], lampGate⟩ now ⟨"k", "lamp"⟩ "vendor/+/cmd").1 = .ok () ∧
      subscribable "vendor/+/cmd" = false ∧
      now.rules.rules = [vendorRule] ∧ Topic.accepts vendorRule.source "vendor/+/cmd" = true ∧
      Topic.TooBroad vendorRule.source "vendor/+/cmd" := by
  have haccepts : Topic.accepts vendorRule.source "vendor/+/cmd" = true := by decide +kernel
  have hhooks : ∀ h ∈ ([] : List Hook), h.onSubscribe ⟨"k", "lamp"⟩ "vendor/+/cmd" = .ok () :=
    nofun
  refine ⟨?_, by decide +kernel, vendorLamp_frame.rules, haccepts, by decide +kernel⟩
  rw [subscribe_of_asked lampGate _ hhooks]
  apply (Gate.subscribe_eq_ok_iff lampGate vendorLamp_settled (by decide) vendorLamp_bound _).1.mpr
  exact .inr (vendorLamp_granted haccepts)

end Pipeline

end DeviceGateway
