import DeviceGateway.Proofs.Gate.Publish
import DeviceGateway.Proofs.Gate.Subscribe
import DeviceGateway.Proofs.Store.Typing
/-!
Refusals on behalf of a store. While the stores work nobody is let in or kept out by one, save for
the clients of a device whose configuration has a blank name: their rules cannot be asked for, and
that is put down to a store.
-/
namespace DeviceGateway

open Backend Purpose

namespace Identity

variable {b : Backend} (hworks : b.StoresWork) (htyped : b.keyValue.Typed)
include hworks htyped

theorem get_eq_ok {key : String} (hkey : ¬ Purpose.log.Names key) :
    ∃ value, b.get key = .ok value := by
  obtain ⟨value, htext⟩ := htyped.text? hkey
  refine ⟨value, ?_⟩
  rw [Backend.get, htext]
  exact attempt_eq_answer (hworks.keyValue _ _)

theorem boundDevice_of_typed (clientId : String) : ∃ bound, boundDevice b clientId = .ok bound := by
  obtain ⟨value, hget⟩ := get_eq_ok hworks htyped (not_log (names_bindingKey clientId) (by decide))
  unfold boundDevice
  rw [hget]
  split
  · exact ⟨none, rfl⟩
  · exact ⟨_, rfl⟩

theorem deviceByVoucher_of_typed (username password : String) :
    ∃ found, (deviceByVoucher b (voucher username password)).1 = .ok found := by
  have hstored (v : String) : ∃ found, (storedDevice b v).1 = .ok found := by
    unfold storedDevice
    rw [hworks.ask_eq]
    cases b.devices.find? (.voucher v) with
    | none => exact ⟨none, rfl⟩
    | some d =>
        dsimp only
        rw [set_eq, hworks.keyValue]
        exact ⟨some d, rfl⟩
  have hvoucher : ¬ Purpose.log.Names (voucher username password) :=
    not_log (names_voucher username password) (by decide)
  obtain ⟨kept, hget⟩ := get_eq_ok hworks htyped hvoucher
  unfold deviceByVoucher
  rw [hget]
  cases kept with
  | none => exact hstored _
  | some id =>
      dsimp only
      rw [hworks.ask_eq]
      cases b.devices.find? (.id id) with
      | none => exact hstored _
      | some d => exact ⟨some d, rfl⟩

end Identity

namespace Gate

variable (g : Gate) {b : Backend}

/-- Whether a client is bound to a device whose configuration has a name, but a blank one. -/
def Unnamed (b : Backend) (client : Client) : Prop :=
  ∃ deviceId d configId, Identity.boundDevice b client.id = .ok (some deviceId) ∧
    b.devices.byId deviceId = some d ∧ d.config? = some configId ∧ Text.isBlank configId = true

theorem authenticate_ne_store (hworks : b.StoresWork) (htyped : b.keyValue.Typed) (client : Client)
    (username password reason : String) :
    (g.authenticate b client username password).1 ≠ .error (.store reason) := by
  cases hu : isPrivileged username with
  | true =>
      simp only [authenticate, hu, if_true]
      split <;> simp
  | false =>
      obtain ⟨found, hfound⟩ := Identity.deviceByVoucher_of_typed hworks htyped username password
      have hlookup := Identity.deviceByVoucher_lookup b (voucher username password)
      simp only [authenticate, hu, Bool.false_eq_true, if_false]
      generalize Identity.deviceByVoucher b (voucher username password) = result at hfound hlookup
      obtain ⟨answer, after⟩ := result
      cases hfound
      cases found with
      | none => simp [refuseAuth]
      | some d =>
          have hfaults : after.faults = b.faults := (hlookup.frame (P := fun _ => True) (L := True)
            trivial).faults
          have hset : after.fails .set [Identity.bindingKey client.id] = false :=
            (hworks.keyValue.congr hfaults) _ _
          simp [bindTo, Identity.bind, set_eq, hset]

section

variable {client : Client} {deviceId : String}
variable (hbound : Identity.boundDevice b client.id = .ok (some deviceId))
include hbound

theorem Unnamed.iff_of_bound :
    Unnamed b client ↔ ∃ configId, (b.devices.byId deviceId).bind Device.config? = some configId ∧
      Text.isBlank configId = true := by
  constructor
  · rintro ⟨other, d, configId, hother, hd, hconfig, hblank⟩
    cases hbound.symm.trans hother
    exact ⟨configId, Option.bind_eq_some_iff.mpr ⟨d, hd, hconfig⟩, hblank⟩
  · rintro ⟨configId, hconfig, hblank⟩
    obtain ⟨d, hd, hconfig⟩ := Option.bind_eq_some_iff.mp hconfig
    exact ⟨deviceId, d, configId, hbound, hd, hconfig, hblank⟩

end

theorem not_unnamed {client : Client} (hbound : Identity.boundDevice b client.id = .ok none) :
    ¬ Unnamed b client := by
  rintro ⟨deviceId, d, configId, hother, _⟩
  cases hbound.symm.trans hother

/-- Of a client that is bound and not unnamed the rules can be asked for. -/
theorem named_of_bound {client : Client} {deviceId : String}
    (hbound : Identity.boundDevice b client.id = .ok (some deviceId)) (h : ¬ Unnamed b client) :
    ∀ configId, (b.devices.byId deviceId).bind Device.config? = some configId →
      Text.isBlank configId = false := by
  intro configId hconfig
  rw [Unnamed.iff_of_bound hbound] at h
  exact Bool.eq_false_iff.mpr fun hblank => h ⟨configId, hconfig, hblank⟩

theorem publishFrom_of_blank {deviceId configId : String}
    (hconfig : Identity.boundConfig b deviceId = .ok (some configId))
    (hblank : Text.isBlank configId = true) (topic : String) (payload : Bytes)
    (e : DeviceLog.Entry) :
    (g.publishFrom b deviceId topic payload e).1 = .reject (.ofMapping .blankConfig) := by
  unfold publishFrom
  rw [hconfig]
  dsimp only
  rw [Mapping.upTarget, Mapping.Snapshot.ask_eq, Mapping.Snapshot.get_of_blank _ b hblank]
  rfl

theorem publishFrom_ne_store (hworks : b.StoresWork) {deviceId : String}
    (hnamed : ∀ configId, (b.devices.byId deviceId).bind Device.config? = some configId →
      Text.isBlank configId = false) (topic : String) (payload : Bytes) (e : DeviceLog.Entry)
    (reason : String) :
    (g.publishFrom b deviceId topic payload e).1 ≠ .reject (.store reason) := by
  obtain ⟨rules, hrules⟩ := g.upRules_eq_ok hworks hnamed
  obtain ⟨asked, _, heq⟩ := g.publishFrom_eq hworks hrules topic payload e
  rw [heq]
  split
  · simp [redirectUp]
  · unfold publishPlain
    split <;> simp

theorem publish_store_iff (hworks : b.StoresWork) (htyped : b.keyValue.Typed) (client : Client)
    (topic : String) (payload : Bytes) (reason : String) :
    (g.publish b client topic payload).1 = .reject (.store reason) ↔
      client.isPrivileged = false ∧ Unnamed b client ∧
        reason = Mapping.Error.blankConfig.message := by
  cases hclient : client.isPrivileged with
  | true =>
      simp [publish, hclient]
  | false =>
      obtain ⟨bound, hbound⟩ := Identity.boundDevice_of_typed hworks htyped client.id
      simp only [publish, hclient, hbound, Bool.false_eq_true, if_false, true_and]
      cases bound with
      | none => simp [not_unnamed hbound]
      | some deviceId =>
          by_cases h : Unnamed b client
          · obtain ⟨configId, hconfig, hblank⟩ := (Unnamed.iff_of_bound hbound).mp h
            have hstored := (Identity.boundConfig_eq hworks deviceId).trans (congrArg _ hconfig)
            dsimp only
            rw [g.publishFrom_of_blank hstored hblank]
            constructor
            · intro heq
              cases heq
              exact ⟨h, rfl⟩
            · rintro ⟨_, rfl⟩
              rfl
          · exact ⟨fun heq => absurd heq (g.publishFrom_ne_store hworks (named_of_bound hbound h)
              topic payload _ reason), fun hunnamed => absurd hunnamed.1 h⟩

theorem subscribe_fst {client : Client} (hclient : client.isPrivileged = false) {topic : String}
    (hstatic : Topic.Canonical.subscribable topic = false) :
    (g.subscribe b client topic).1 =
      match (g.subscribeBound b (Identity.boundDevice b client.id) topic).1 with
      | .ok true => .ok ()
      | .ok false => .error (.permission ("subscribe to " ++ topic))
      | .error refusal => .error refusal := by
  simp only [subscribe, hclient, hstatic, Bool.false_eq_true, if_false]
  generalize g.subscribeBound b (Identity.boundDevice b client.id) topic = asked
  obtain ⟨answer, after⟩ := asked
  cases answer with
  | error refusal => rfl
  | ok allowed => cases allowed <;> rfl

theorem subscribeByRules_of_blank {deviceId configId : String}
    (hconfig : Identity.boundConfig b deviceId = .ok (some configId))
    (hblank : Text.isBlank configId = true) (topic : String) :
    (g.subscribeByRules b deviceId topic).1 = .error (.ofMapping .blankConfig) := by
  rw [subscribeByRules_fst g b hconfig, Mapping.Snapshot.get_of_blank _ b hblank]
  rfl

theorem subscribeByRules_eq_ok (hworks : b.StoresWork) {deviceId : String}
    (hnamed : ∀ configId, (b.devices.byId deviceId).bind Device.config? = some configId →
      Text.isBlank configId = false) (topic : String) :
    ∃ allowed, (g.subscribeByRules b deviceId topic).1 = .ok allowed := by
  have hstored := Identity.boundConfig_eq hworks deviceId
  cases hconfig : (b.devices.byId deviceId).bind Device.config? with
  | none =>
      rw [hconfig] at hstored
      exact ⟨false, by rw [subscribeByRules, hstored]⟩
  | some configId =>
      rw [hconfig] at hstored
      obtain ⟨rules, hrules⟩ := Mapping.Snapshot.get_eq_ok g.snapshotLifetime hworks.rules
        (hnamed configId hconfig) .down
      exact ⟨_, by rw [subscribeByRules_fst g b hstored, hrules]; rfl⟩

theorem subscribe_store_iff (hworks : b.StoresWork) (htyped : b.keyValue.Typed) (client : Client)
    (topic reason : String) :
    (g.subscribe b client topic).1 = .error (.store reason) ↔
      client.isPrivileged = false ∧ Topic.Canonical.subscribable topic = false ∧
        Unnamed b client ∧ reason = Mapping.Error.blankConfig.message := by
  cases hclient : client.isPrivileged with
  | true =>
      simp [subscribe, hclient]
  | false =>
      cases hstatic : Topic.Canonical.subscribable topic with
      | true =>
          simp [subscribe, hclient, hstatic]
      | false =>
          obtain ⟨bound, hbound⟩ := Identity.boundDevice_of_typed hworks htyped client.id
          rw [g.subscribe_fst hclient hstatic, hbound]
          simp only [true_and]
          cases bound with
          | none => simp [subscribeBound, not_unnamed hbound]
          | some deviceId =>
              simp only [subscribeBound]
              by_cases h : Unnamed b client
              · obtain ⟨configId, hconfig, hblank⟩ := (Unnamed.iff_of_bound hbound).mp h
                have hstored :=
                  (Identity.boundConfig_eq hworks deviceId).trans (congrArg _ hconfig)
                rw [g.subscribeByRules_of_blank hstored hblank]
                constructor
                · intro heq
                  cases heq
                  exact ⟨h, rfl⟩
                · rintro ⟨_, rfl⟩
                  rfl
              · obtain ⟨allowed, hallowed⟩ :=
                  g.subscribeByRules_eq_ok hworks (named_of_bound hbound h) topic
                rw [hallowed]
                cases allowed <;> simp [h]

/-- After any run that ends with the stores at work, nobody is refused on behalf of a store but the
clients of a device whose configuration has a blank name, and these are whatever they publish and
wherever they go beyond the platform's topics. -/
theorem store_refusal_iff (hb : b.keyValue.Typed) (steps : List Step)
    (hworks : (run g b steps).StoresWork) :
    let now := run g b steps
    (∀ client username password reason,
      (g.authenticate now client username password).1 ≠ .error (.store reason)) ∧
    (∀ client topic reason, (g.subscribe now client topic).1 = .error (.store reason) ↔
      client.isPrivileged = false ∧ Topic.Canonical.subscribable topic = false ∧
        Unnamed now client ∧ reason = Mapping.Error.blankConfig.message) ∧
    ∀ client topic payload reason,
      (g.publish now client topic payload).1 = .reject (.store reason) ↔
        client.isPrivileged = false ∧ Unnamed now client ∧
          reason = Mapping.Error.blankConfig.message := by
  have htyped := run_typed g hb steps
  exact ⟨g.authenticate_ne_store hworks htyped, g.subscribe_store_iff hworks htyped,
    g.publish_store_iff hworks htyped⟩

def unnamedLamp : Backend := { devices := ⟨[{ lamp with configId := some " " }]⟩ }

theorem store_refusal_iff_lamp :
    unnamedLamp.keyValue.Typed ∧ (run lampGate unnamedLamp Pipeline.lampLogin).StoresWork ∧
      Unnamed (run lampGate unnamedLamp Pipeline.lampLogin) ⟨"k", "lamp"⟩ ∧
      (lampGate.publish (run lampGate unnamedLamp Pipeline.lampLogin) ⟨"k", "lamp"⟩
        "devices/telemetry/control" [72, 105]).1 =
          .reject (.store Mapping.Error.blankConfig.message) := by
  have hfaults : (run lampGate unnamedLamp Pipeline.lampLogin).faults = { forwarder := false } := by
    decide +kernel
  have hworks := StoresWork.of_faults hfaults
  have hunnamed : Unnamed (run lampGate unnamedLamp Pipeline.lampLogin) ⟨"k", "lamp"⟩ :=
    ⟨"d1", { lamp with configId := some " " }, " ", by decide +kernel, by decide +kernel, by decide,
      by decide⟩
  exact ⟨KeyValue.typed_empty, hworks, hunnamed,
    ((store_refusal_iff lampGate KeyValue.typed_empty _ hworks).2.2 _ _ _ _).mpr
      ⟨by decide, hunnamed, rfl⟩⟩

/-- All stores work, and the platform takes the topic from any device. -/
theorem publish_unnamedLamp :
    (run lampGate unnamedLamp Pipeline.lampLogin).faults = {} ∧
      Topic.Canonical.publishable "devices/telemetry/control" = true ∧
      (lampGate.publish (run lampGate unnamedLamp Pipeline.lampLogin) ⟨"k", "lamp"⟩
        "devices/telemetry/control" [72, 105]).1 =
          .reject (.store "validation error: device_config_id required") := by
  decide +kernel

end Gate

end DeviceGateway
