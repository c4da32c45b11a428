import DeviceGateway.Proofs.Identity.Binding
import DeviceGateway.Proofs.Mapping.Snapshot
import DeviceGateway.Proofs.Pipeline
import DeviceGateway.Proofs.Topic.Match
/-!
Who may subscribe to what: to the platform's topics any client, and to what a downward rule of its
device matches the client that is bound to it.
-/
namespace DeviceGateway

open Backend Purpose

namespace Gate

variable (g : Gate) {b : Backend}

/-- The downward rules of the device that a client is bound to. -/
def OwnRule (b : Backend) (client : Client) (r : Rule) : Prop :=
  ∃ deviceId d configId, Identity.boundDevice b client.id = .ok (some deviceId) ∧
    b.devices.byId deviceId = some d ∧ d.config? = some configId ∧
    r ∈ b.rules.rules ∧ r.enabled = true ∧ r.direction = .down ∧ r.configId = configId

/-- Some rule of the client is for a topic. -/
def Granted (b : Backend) (client : Client) (topic : String) : Prop :=
  ∃ r, OwnRule b client r ∧ Topic.Usable r.source ∧
    Topic.Cut (Topic.tokens r.source) topic.toList

/-- No store fails, and what the stores hold is as the gateway keeps it: rules have times that
exist, configurations have names, and snapshots are of the rules that there are. -/
structure Settled (b : Backend) : Prop where
  works : b.StoresWork
  selects : b.rules.selects = true
  valid : ∀ r ∈ b.rules.rules, r.Valid
  named : ∀ d ∈ b.devices.records, ∀ configId, d.config? = some configId →
    Text.isBlank configId = false
  fresh : ∀ configId, Mapping.Snapshot.Fresh b configId .down

theorem subscribeByRules_fst (b : Backend) {deviceId configId : String}
    (h : Identity.boundConfig b deviceId = .ok (some configId)) (topic : String) :
    (g.subscribeByRules b deviceId topic).1 =
      ((Mapping.Snapshot.get g.snapshotLifetime b configId .down).1.map
        (Mapping.allowsSubscribe · topic)).mapError .ofMapping := by
  unfold subscribeByRules
  rw [h]
  dsimp only
  rw [Mapping.allowsDown, Mapping.Snapshot.ask_eq]
  cases (Mapping.Snapshot.get g.snapshotLifetime b configId .down).1 with
  | error e => rfl
  | ok rules => rfl

theorem allowsSubscribe_iff (h : Settled b) {configId topic : String} :
    Mapping.allowsSubscribe (Mapping.current b configId .down) topic = true ↔
      ∃ r, (r ∈ b.rules.rules ∧ r.enabled = true ∧ r.direction = .down ∧ r.configId = configId) ∧
        Topic.Usable r.source ∧ Topic.Cut (Topic.tokens r.source) topic.toList := by
  unfold Mapping.allowsSubscribe
  simp only [List.any_eq_true, Mapping.mem_current h.selects, Topic.accepts_iff]

/-- What the rules say of a client whose binding can be read. -/
theorem subscribeBound_eq (h : Settled b) {client : Client} {bound : Option String}
    (hbound : Identity.boundDevice b client.id = .ok bound) (topic : String) :
    ∃ allowed, (g.subscribeBound b (.ok bound) topic).1 = .ok allowed ∧
      (allowed = true ↔ Granted b client topic) := by
  cases bound with
  | none =>
      refine ⟨false, rfl, nofun, ?_⟩
      rintro ⟨r, ⟨deviceId, d, configId, heq, _⟩, _⟩
      rw [hbound] at heq
      cases heq
  | some deviceId =>
      have hconfig := Identity.boundConfig_eq h.works deviceId
      cases hc : (b.devices.byId deviceId).bind Device.config? with
      | none =>
          rw [hc] at hconfig
          refine ⟨false, by simp only [subscribeBound, subscribeByRules, hconfig], nofun, ?_⟩
          rintro ⟨r, ⟨other, d, configId, heq, hd, hdc, _⟩, _⟩
          rw [hbound] at heq
          cases heq
          rw [hd, Option.bind_some, hdc] at hc
          cases hc
      | some configId =>
          obtain ⟨d, hd, hdc⟩ := Option.bind_eq_some_iff.mp hc
          have hblank := h.named d (List.mem_of_find?_eq_some hd) configId hdc
          have hget := Mapping.Snapshot.get_of_fresh g.snapshotLifetime h.works.keyValue
            h.works.rules h.valid (h.fresh configId) hblank
          refine ⟨Mapping.allowsSubscribe (Mapping.current b configId .down) topic, ?_, ?_⟩
          · rw [subscribeBound, subscribeByRules_fst g b (hconfig.trans (congrArg _ hc)), hget]
            rfl
          · rw [allowsSubscribe_iff h]
            constructor
            · rintro ⟨r, hr, hmatches⟩
              exact ⟨r, ⟨deviceId, d, configId, hbound, hd, hdc, hr⟩, hmatches⟩
            · rintro ⟨r, ⟨other, e, otherId, heq, he, hec, hr⟩, hmatches⟩
              rw [hbound] at heq
              cases heq
              rw [hd] at he
              cases he
              rw [hdc] at hec
              cases hec
              exact ⟨r, hr, hmatches⟩

theorem subscribe_eq_ok_iff (h : Settled b) {client : Client}
    (hclient : client.isPrivileged = false) {bound : Option String}
    (hbound : Identity.boundDevice b client.id = .ok bound) (topic : String) :
    ((g.subscribe b client topic).1 = .ok () ↔
      Topic.Canonical.subscribable topic = true ∨ Granted b client topic) ∧
    ((g.subscribe b client topic).1 ≠ .ok () →
      (g.subscribe b client topic).1 = .error (.permission ("subscribe to " ++ topic))) := by
  obtain ⟨allowed, hallowed, hgranted⟩ := subscribeBound_eq g h hbound topic
  simp only [subscribe, hclient, Bool.false_eq_true, if_false, hbound]
  cases hstatic : Topic.Canonical.subscribable topic with
  | true => simp
  | false =>
      generalize g.subscribeBound b (.ok bound) topic = got at hallowed ⊢
      obtain ⟨answer, after⟩ := got
      cases hallowed
      cases allowed with
      | true => simpa using hgranted
      | false => simpa using hgranted

/-- Whatever topics the usable rules of a client match in one backend they match in the other. -/
def Offers (b b' : Backend) (client : Client) : Prop :=
  ∀ r, OwnRule b client r → Topic.Usable r.source →
    ∃ r', OwnRule b' client r' ∧ r'.source = r.source

theorem Granted.mono {b b' : Backend} {client : Client} {topic : String}
    (h : Granted b client topic) (hoffers : Offers b b' client) : Granted b' client topic := by
  obtain ⟨r, hr, husable, hmatches⟩ := h
  obtain ⟨r', hr', hsource⟩ := hoffers r hr husable
  rw [← hsource] at husable hmatches
  exact ⟨r', hr', husable, hmatches⟩

section

variable {b' : Backend} (h : Settled b) (h' : Settled b') {client : Client}
variable (hclient : client.isPrivileged = false) {bound : Option String}
variable (hbound : Identity.boundDevice b client.id = .ok bound)
variable (hbound' : Identity.boundDevice b' client.id = .ok bound)
include h h' hclient hbound hbound'

theorem subscribe_mono (hoffers : Offers b b' client) {topic : String}
    (hok : (g.subscribe b client topic).1 = .ok ()) : (g.subscribe b' client topic).1 = .ok () := by
  apply (subscribe_eq_ok_iff g h' hclient hbound' topic).1.mpr
  rcases (subscribe_eq_ok_iff g h hclient hbound topic).1.mp hok with hstatic | hgranted
  · exact .inl hstatic
  · exact .inr (hgranted.mono hoffers)

theorem subscribe_congr (hoffers : Offers b b' client) (hoffers' : Offers b' b client)
    (topic : String) : (g.subscribe b' client topic).1 = (g.subscribe b client topic).1 := by
  by_cases hok : (g.subscribe b client topic).1 = .ok ()
  · rw [hok]
    exact subscribe_mono g h h' hclient hbound hbound' hoffers hok
  · have hok' : (g.subscribe b' client topic).1 ≠ .ok () := fun heq =>
      hok (subscribe_mono g h' h hclient hbound' hbound hoffers' heq)
    rw [(subscribe_eq_ok_iff g h hclient hbound topic).2 hok,
      (subscribe_eq_ok_iff g h' hclient hbound' topic).2 hok']

end

end Gate

theorem Identity.boundDevice_eq_ok (g : Gate) {b : Backend}
    (hb : ∀ clientId, b.keyValue.find? (bindingKey clientId) = none) (steps : List Step)
    (hw : (run g b steps).KeyValueWorks) (clientId : String) :
    ∃ bound, boundDevice (run g b steps) clientId = .ok bound := by
  have hfind := run_binding g clientId b none steps (hb clientId)
  unfold boundDevice
  split
  · exact ⟨none, rfl⟩
  · unfold Backend.get
    rw [text?_deviceEntry hfind, attempt_eq_answer (hw _ _)]
    exact ⟨_, rfl⟩

namespace Pipeline

theorem subscribe_of_refused (g : Gate) (b : Backend) {client : Client} {topic : String}
    {before : List Hook} (hbefore : ∀ h ∈ before, h.onSubscribe client topic = .ok ()) {h : Hook}
    {refusal : Refusal} (hask : h.onSubscribe client topic = .error refusal) (after : List Hook) :
    subscribe ⟨before ++ h :: after, g⟩ b client topic = (.error refusal, b) := by
  unfold subscribe
  rw [askAll_of_refused (·.onSubscribe client topic) hbefore hask after]

theorem subscribe_of_asked (g : Gate) (b : Backend) {client : Client} {topic : String}
    {hooks : List Hook} (hhooks : ∀ h ∈ hooks, h.onSubscribe client topic = .ok ()) :
    subscribe ⟨hooks, g⟩ b client topic = g.subscribe b client topic := by
  unfold subscribe
  rw [askAll_eq_ok.mpr hhooks]

theorem subscribe_frame (p : Pipeline) (b : Backend) (client : Client) (topic : String) :
    Frame (Among [.snapshot .up, .snapshot .down, .log]) False b
      (p.subscribe b client topic).2 := by
  rcases p.subscribe_cases b client topic with ⟨refusal, h⟩ | h
  · rw [h]
    exact .refl
  · rw [h]
    apply Gate.subscribe_frame
    · exact fun deviceId => among_of_names (names_logsKey deviceId) (by decide)
    · exact fun direction configId => among_of_names (names_snapshotKey direction configId)
        (by cases direction <;> decide)

/-- The first hook to refuse a subscription decides it. If none does it is granted for a topic of
the platform and for what a usable rule of the client matches, and for nothing else; rules that
match the same topics, in whatever order they are, give the same answer, and more of them grant no
less. No binding and no voucher is touched, and nothing is sent. -/
theorem subscribe_decides (g : Gate) {b : Backend}
    (hb : ∀ clientId, b.keyValue.find? (Identity.bindingKey clientId) = none) (steps : List Step)
    (hsettled : Gate.Settled (run g b steps)) {client : Client}
    (hclient : client.isPrivileged = false) (hooks : List Hook) (topic : String) :
    let now := run g b steps
    let result := subscribe ⟨hooks, g⟩ now client topic
    (∀ before h after refusal, hooks = before ++ h :: after →
      (∀ k ∈ before, k.onSubscribe client topic = .ok ()) →
      h.onSubscribe client topic = .error refusal → result = (.error refusal, now)) ∧
    ((∀ h ∈ hooks, h.onSubscribe client topic = .ok ()) →
      (result.1 = .ok () ↔
        Topic.Canonical.subscribable topic = true ∨ Gate.Granted now client topic) ∧
      (result.1 ≠ .ok () → result.1 = .error (.permission ("subscribe to " ++ topic)))) ∧
    (∀ other, Gate.Settled other →
      Identity.boundDevice other client.id = Identity.boundDevice now client.id →
      Gate.Offers now other client →
        (result.1 = .ok () → (subscribe ⟨hooks, g⟩ other client topic).1 = .ok ()) ∧
        (Gate.Offers other now client →
          (subscribe ⟨hooks, g⟩ other client topic).1 = result.1)) ∧
    (∀ clientId, result.2.keyValue.find? (Identity.bindingKey clientId) =
      now.keyValue.find? (Identity.bindingKey clientId)) ∧
    (∀ username password, result.2.keyValue.find? (voucher username password) =
      now.keyValue.find? (voucher username password)) ∧
    result.2.sent = now.sent := by
  intro now result
  have hframe : Frame (Among [.snapshot .up, .snapshot .down, .log]) False now result.2 :=
    subscribe_frame ⟨hooks, g⟩ now client topic
  obtain ⟨bound, hbound⟩ :=
    Identity.boundDevice_eq_ok g hb steps hsettled.works.keyValue client.id
  have hdecides := Gate.subscribe_eq_ok_iff g hsettled hclient hbound topic
  refine ⟨?_, ?_, ?_, ?_, ?_, hframe.sent id⟩
  · rintro before h after refusal rfl hbefore hask
    exact subscribe_of_refused g now hbefore hask after
  · intro hhooks
    rw [show result = _ from subscribe_of_asked g now hhooks]
    exact hdecides
  · intro other hother heq hoffers
    have hother' := heq.trans hbound
    simp only [result, subscribe]
    cases askAll (·.onSubscribe client topic) hooks with
    | error refusal => exact ⟨nofun, fun _ => rfl⟩
    | ok _ =>
        exact ⟨Gate.subscribe_mono g hsettled hother hclient hbound hother' hoffers,
          fun hoffers' => Gate.subscribe_congr g hsettled hother hclient hbound hother' hoffers
            hoffers' topic⟩
  · intro clientId
    exact hframe.keys _ (not_among (names_bindingKey clientId) (by decide))
  · intro username password
    exact hframe.keys _ (not_among (names_voucher username password) (by decide))

def vendorRule : Rule :=
  { Mapping.ruleUp with direction := .down, source := "vendor/{device_number}/cmd" }

def vendorLamp : Backend :=
  { devices := ⟨[{ lamp with configId := some "c" }]⟩
    rules := { rules := [vendorRule] } }

def lampLogin : List Step := [.event [] (.auth ⟨"k", "lamp"⟩ "lamp" "pw")]

theorem vendorLamp_frame : Frame (Among [.voucher, .binding, .log]) False vendorLamp
    (run lampGate vendorLamp lampLogin) := by
  simp only [lampLogin, run, Step.apply, handle, authenticate, askAll]
  apply Gate.authenticate_frame
  · exact fun deviceId => among_of_names (names_logsKey deviceId) (by decide)
  · exact among_of_names (names_voucher "lamp" "pw") (by decide)
  · exact among_of_names (names_voucher "lamp" "") (by decide)
  · exact among_of_names (names_bindingKey "k") (by decide)

theorem vendorLamp_settled : Gate.Settled (run lampGate vendorLamp lampLogin) where
  works := .of_faults vendorLamp_frame.faults
  selects := vendorLamp_frame.selects
  valid := by
    rw [vendorLamp_frame.rules]
    decide
  named := by
    rw [vendorLamp_frame.devices]
    intro d hd configId hconfig
    cases List.mem_singleton.mp hd
    cases hconfig
    decide
  fresh configId := by
    left
    exact vendorLamp_frame.keys _ (not_among (names_snapshotKey .down configId) (by decide))

theorem vendorLamp_bound :
    Identity.boundDevice (run lampGate vendorLamp lampLogin) "k" = .ok (some "d1") := by
  decide +kernel

theorem vendorLamp_granted {topic : String} (h : Topic.accepts vendorRule.source topic = true) :
    Gate.Granted (run lampGate vendorLamp lampLogin) ⟨"k", "lamp"⟩ topic := by
  have hdevice : (run lampGate vendorLamp lampLogin).devices.byId "d1" =
      some { lamp with configId := some "c" } := by
    rw [vendorLamp_frame.devices]
    decide
  have hrule : vendorRule ∈ (run lampGate vendorLamp lampLogin).rules.rules := by
    rw [vendorLamp_frame.rules]
    exact List.mem_singleton.mpr rfl
  exact ⟨vendorRule, ⟨"d1", _, "c", vendorLamp_bound, hdevice, by decide, hrule, rfl, rfl, rfl⟩,
    Topic.accepts_iff.mp h⟩

theorem subscribe_decides_lamp :
    (∀ clientId, vendorLamp.keyValue.find? (Identity.bindingKey clientId) = none) ∧
      Gate.Settled (run lampGate vendorLamp lampLogin) ∧
      Client.isPrivileged ⟨"k", "lamp"⟩ = false ∧
      Gate.Granted (run lampGate vendorLamp lampLogin) ⟨"k", "lamp"⟩ "vendor/n1/cmd" ∧
      (subscribe ⟨[], lampGate⟩ (run lampGate vendorLamp lampLogin) ⟨"k", "lamp"⟩
        "vendor/n1/cmd").1 = .ok () := by
  have hb : ∀ clientId, vendorLamp.keyValue.find? (Identity.bindingKey clientId) = none :=
    fun _ => rfl
  have hclient : Client.isPrivileged ⟨"k", "lamp"⟩ = false := by decide
  have haccepts : Topic.accepts vendorRule.source "vendor/n1/cmd" = true := by decide +kernel
  have hgranted := vendorLamp_granted haccepts
  have hdecides := (subscribe_decides lampGate hb lampLogin vendorLamp_settled hclient []
    "vendor/n1/cmd").2.1 nofun
  exact ⟨hb, vendorLamp_settled, hclient, hgranted, hdecides.1.mpr (.inr hgranted)⟩

end Pipeline

end DeviceGateway
