import DeviceGateway.Proofs.DeviceLog.Entry
import DeviceGateway.Proofs.DeviceLog.Interference
/-!
What the log of a device says of the gate's decisions. While a device is logged, an event of its
leaves one entry with the outcome of the decision; but a login is recorded before it is known
whether the client can be bound, and a message that is refused on behalf of a store is not recorded.
-/
namespace DeviceGateway

open Backend Purpose

def KeyValue.Write.isPush : KeyValue.Write → Bool
  | .push _ _ _ _ => true
  | .set _ _ _ | .delete _ => false

/-- What was put into logs so far. -/
def Backend.pushes (b : Backend) : List KeyValue.Write := b.journal.filter (·.isPush)

/-- A backend later on: nothing was logged, and logs and policies are as they were. -/
structure Backend.Unlogged (b b' : Backend) : Prop where
  parts : SameParts b b'
  keys : ∀ key, DeviceLog.Owns key → b'.keyValue.find? key = b.keyValue.find? key
  pushes : b'.pushes = b.pushes

namespace Backend.Unlogged

variable {b b' b'' : Backend}

theorem refl (b : Backend) : Unlogged b b := ⟨.refl, fun _ _ => rfl, rfl⟩

theorem trans (h : Unlogged b b') (h' : Unlogged b' b'') : Unlogged b b'' :=
  ⟨h.parts.trans h'.parts, fun key hkey => (h'.keys key hkey).trans (h.keys key hkey),
    h'.pushes.trans h.pushes⟩

theorem wrote_set (b : Backend) {key : String} (hkey : ¬ DeviceLog.Owns key) (value : String)
    (ttl : Option Nat) :
    Unlogged b (b.wrote (.set key value ttl) (b.keyValue.set key value ttl)) := by
  refine ⟨wrote_set_frame trivial value ttl, ?_, ?_⟩
  · intro other hother
    refine (KeyValue.find?_set _ _ _ _ _).trans (if_neg ?_)
    rintro rfl
    exact hkey hother
  · unfold Backend.pushes wrote
    rw [List.filter_append]
    exact List.append_nil _

theorem of_done {P : String → Prop} {c c' : Backend} (h : SameDone P b b' c c')
    (hP : ∀ key, P key → ¬ DeviceLog.Owns key) : Unlogged b c :=
  h.keeps (I := Unlogged b) (refl b)
    (fun hkey ih value ttl => ih.trans (wrote_set _ (hP _ hkey) value ttl))
    fun ih => ⟨⟨ih.parts.keys, ih.parts.sent, ih.parts.devices, ih.parts.rules, ih.parts.selects,
      ih.parts.clock, ih.parts.faults⟩, ih.keys, ih.pushes⟩

theorem deviceByVoucher (b : Backend) (username password : String) :
    Unlogged b (Identity.deviceByVoucher b (voucher username password)).2 := by
  refine of_done (Identity.deviceByVoucher_congr .refl rfl).2 ?_
  rintro key rfl
  exact not_owns (names_voucher username password) nofun nofun

theorem ask {α : Type} (lifetime : Nat) (b : Backend) (configId : String) (direction : Direction)
    (question : List Rule → α) :
    Unlogged b (Mapping.ask lifetime b configId direction question).2 := by
  rw [Mapping.Snapshot.ask_eq]
  refine of_done (Mapping.Snapshot.get_congr lifetime .refl rfl).2 ?_
  rintro key rfl
  exact not_owns (names_snapshotKey direction configId) nofun nofun

theorem count (b : Backend) (c : Counter) : Unlogged b (b.count c) :=
  ⟨count_frame c, fun _ _ => rfl, rfl⟩

theorem sent (b : Backend) (sent : List Message) : Unlogged b { b with sent } :=
  ⟨⟨fun _ _ => rfl, fun hL => absurd trivial hL, rfl, rfl, rfl, rfl, rfl⟩, fun _ _ => rfl, rfl⟩

end Backend.Unlogged

namespace DeviceLog

/-- Whether a device is logged: there is a policy in force, and its log can be written. -/
structure Watched (b : Backend) (deviceId : String) : Prop where
  policy : ∃ p, policy b deviceId = .ok (some p)
  works : b.fails .push [logsKey deviceId] = false
  log : ∃ items, b.keyValue.items? (logsKey deviceId) = some items

/-- One entry about a device was put in front of its log, and nothing else was logged. -/
def Logged (b after : Backend) (deviceId : String) (action : Action) (outcome : Option Outcome) :
    Prop :=
  ∃ p e, policy b deviceId = .ok (some p) ∧ e.deviceId = deviceId ∧ e.action = action ∧
    outcome = some e.outcome ∧
    after.pushes = b.pushes ++ [.push (logsKey deviceId) (Entry.codec.encode e)
      p.maxItems.toInt.toNat (p.logLifetime b.clock.seconds)] ∧
    after.keyValue.items? (logsKey deviceId) = (b.keyValue.items? (logsKey deviceId)).map
      fun old => (Entry.codec.encode e :: old).take (max p.maxItems.toInt.toNat 1)

variable {b b' b'' : Backend} {deviceId : String} {action : Action} {outcome : Option Outcome}

theorem policy_congr (h : Unlogged b b') (deviceId : String) :
    DeviceLog.policy b' deviceId = DeviceLog.policy b deviceId := by
  simp only [DeviceLog.policy, h.parts.get_eq (h.keys _ (owns_policyKey deviceId)), h.parts.clock]

theorem items?_congr (h : Unlogged b b') (deviceId : String) :
    b'.keyValue.items? (logsKey deviceId) = b.keyValue.items? (logsKey deviceId) := by
  unfold KeyValue.items?
  rw [h.keys _ (owns_logsKey deviceId)]

theorem Watched.unlogged (h : Watched b deviceId) (hb : Unlogged b b') : Watched b' deviceId := by
  refine ⟨?_, ?_, ?_⟩
  · rw [policy_congr hb]
    exact h.policy
  · rw [hb.parts.fails_eq]
    exact h.works
  · rw [items?_congr hb]
    exact h.log

namespace Logged

theorem after (h : Logged b' b'' deviceId action outcome) (hb : Unlogged b b') :
    Logged b b'' deviceId action outcome := by
  obtain ⟨p, e, hp, hdevice, haction, houtcome, hpushes, hitems⟩ := h
  rw [policy_congr hb] at hp
  rw [hb.pushes, hb.parts.clock] at hpushes
  rw [items?_congr hb] at hitems
  exact ⟨p, e, hp, hdevice, haction, houtcome, hpushes, hitems⟩

theorem trans (h : Logged b b' deviceId action outcome) (hafter : Unlogged b' b'') :
    Logged b b'' deviceId action outcome := by
  obtain ⟨p, e, hp, hdevice, haction, houtcome, hpushes, hitems⟩ := h
  exact ⟨p, e, hp, hdevice, haction, houtcome, hafter.pushes.trans hpushes,
    (items?_congr hafter deviceId).trans hitems⟩

end Logged

end DeviceLog

open DeviceLog

theorem Backend.note_logged {b : Backend} {deviceId : String} (h : Watched b deviceId)
    (e : DeviceLog.Entry) :
    Logged b (b.note deviceId e) deviceId e.action (some e.outcome) := by
  obtain ⟨p, hp⟩ := h.policy
  obtain ⟨items, hitems⟩ := h.log
  have hne : deviceId.isEmpty = false := by
    unfold DeviceLog.policy at hp
    split at hp
    · cases hp
    · next hne => exact Bool.eq_false_iff.mpr hne
  obtain ⟨hdevice, _, _, _, haction, houtcome, _⟩ := e.prepared_loggedAs deviceId b.clock p
  generalize hentry : e.prepared deviceId b.clock p = entry at hdevice haction houtcome
  let push := KeyValue.Write.push (logsKey deviceId) (Entry.codec.encode entry)
    p.maxItems.toInt.toNat (p.logLifetime b.clock.seconds)
  have hpush : ∃ kv, b.keyValue.push? (logsKey deviceId) (Entry.codec.encode entry)
      p.maxItems.toInt.toNat (p.logLifetime b.clock.seconds) = some kv := by
    unfold KeyValue.push?
    rw [hitems]
    exact ⟨_, rfl⟩
  obtain ⟨kv, hkv⟩ := hpush
  have hnote : b.note deviceId e = b.wrote push kv := by
    have hpush : b.push (logsKey deviceId) (Entry.codec.encode entry) p.maxItems.toInt.toNat
        (p.logLifetime b.clock.seconds) = .ok (b.wrote push kv) := by
      unfold Backend.push
      rw [hkv]
      exact attempt_eq_answer h.works
    simp only [note, hne, DeviceLog.write, hp, hentry, hpush, Bool.false_eq_true, if_false]
  rw [hnote]
  refine ⟨p, entry, hp, hdevice, haction, congrArg some houtcome.symm, ?_,
    KeyValue.items?_push hkv⟩
  unfold pushes wrote
  rw [List.filter_append]
  rfl

theorem Backend.count_note_logged {b : Backend} {deviceId : String} (h : Watched b deviceId)
    (c : Counter) (e : DeviceLog.Entry) :
    Logged b ((b.count c).note deviceId e) deviceId e.action (some e.outcome) :=
  (note_logged (h.unlogged (.count b c)) e).after (.count b c)

/-- The outcome that a refusal is recorded with; of a client that is not known nothing is. -/
def Refusal.outcome? : Refusal → Option Outcome
  | .auth _ => none
  | .permission _ => some .denied
  | .store _ => some .error

/-- The outcome that goes with what a client is told. -/
def admissionOutcome? : Except Refusal Unit → Option Outcome
  | .ok _ => some .ok
  | .error refusal => refusal.outcome?

def Decision.outcome? (linkDown : Bool) : Decision → Option Outcome
  | .accept _ => some .ok
  | .reject refusal => refusal.outcome?
  | .redirect _ _ => some (if linkDown then .error else .discarded)

namespace Gate

variable (g : Gate) {b : Backend} {deviceId : String}

theorem bindTo_logged {d : Device} (h : Watched b d.id) (client : Client) (username : String) :
    Logged b (bindTo b client username d).2 d.id .auth (some .ok) ∧
      (bindTo b client username d).1 = if b.fails .set [Identity.bindingKey client.id] then
        .error (.ofStore (.failed .set)) else .ok () := by
  unfold bindTo Identity.bind
  rw [set_eq]
  cases b.fails .set [Identity.bindingKey client.id] with
  | true => exact ⟨count_note_logged h .authDenied _, rfl⟩
  | false =>
      have hbound := Unlogged.wrote_set b (not_owns (names_bindingKey client.id) nofun nofun) d.id
        none
      exact ⟨(count_note_logged (h.unlogged hbound) .authOk _).after hbound, rfl⟩

theorem authenticate_logged {d : Device} (h : Watched b d.id) (client : Client)
    {username password : String} (hu : isPrivileged username = false)
    (hfound : (Identity.deviceByVoucher b (voucher username password)).1 = .ok (some d)) :
    Logged b (g.authenticate b client username password).2 d.id .auth (some .ok) ∧
      (g.authenticate b client username password).1 =
        if b.fails .set [Identity.bindingKey client.id] then .error (.ofStore (.failed .set))
        else .ok () := by
  have hlookup := Unlogged.deviceByVoucher b username password
  simp only [authenticate, hu, Bool.false_eq_true, if_false]
  generalize Identity.deviceByVoucher b (voucher username password) = result at hfound hlookup
  obtain ⟨answer, found⟩ := result
  cases hfound
  obtain ⟨hlogged, hresult⟩ := bindTo_logged (h.unlogged hlookup) client username
  rw [hlookup.parts.fails_eq] at hresult
  exact ⟨hlogged.after hlookup, hresult⟩

/-- The rules say yes or no, or a store keeps them from being asked; nothing is logged yet. -/
theorem subscribeByRules_unlogged (b : Backend) (deviceId topic : String) :
    Unlogged b (g.subscribeByRules b deviceId topic).2 ∧
      ∀ refusal, (g.subscribeByRules b deviceId topic).1 = .error refusal →
        refusal.outcome? = some .error := by
  unfold subscribeByRules
  cases Identity.boundConfig b deviceId with
  | error e => exact ⟨.refl b, fun _ h => by cases h; rfl⟩
  | ok config =>
      cases config with
      | none => exact ⟨.refl b, nofun⟩
      | some configId =>
          have hasked := Unlogged.ask g.snapshotLifetime b configId .down
            (Mapping.allowsSubscribe · topic)
          dsimp only [Mapping.allowsDown]
          generalize Mapping.ask _ b configId .down _ = asked at hasked
          obtain ⟨answer, after⟩ := asked
          cases answer with
          | error e => exact ⟨hasked, fun _ h => by cases h; rfl⟩
          | ok allowed => exact ⟨hasked, nofun⟩

theorem subscribe_logged (h : Watched b deviceId) {client : Client}
    (hclient : client.isPrivileged = false)
    (hbound : Identity.boundDevice b client.id = .ok (some deviceId)) (topic : String) :
    Logged b (g.subscribe b client topic).2 deviceId .subscribe
      (admissionOutcome? (g.subscribe b client topic).1) := by
  simp only [subscribe, hclient, hbound, subscribeBound, Bool.false_eq_true, if_false]
  cases Topic.Canonical.subscribable topic with
  | true => exact count_note_logged h .subscribeOk _
  | false =>
      have hasked := g.subscribeByRules_unlogged b deviceId topic
      generalize g.subscribeByRules b deviceId topic = asked at hasked
      obtain ⟨answer, after⟩ := asked
      obtain ⟨hasked, hrefusal⟩ := hasked
      have hlogged (c : Counter) (e : DeviceLog.Entry) :
          Logged b ((after.count c).note deviceId e) deviceId e.action (some e.outcome) :=
        (count_note_logged (h.unlogged hasked) c e).after hasked
      cases answer with
      | error refusal =>
          change Logged _ _ _ _ refusal.outcome?
          rw [hrefusal refusal rfl]
          exact hlogged .subscribeDenied _
      | ok allowed =>
          cases allowed with
          | true => exact hlogged .subscribeOk _
          | false => exact hlogged .subscribeDenied _

/-- What is recorded of a message: the decision on it, unless that was made on behalf of a store. -/
def Recorded (b after : Backend) (deviceId : String) (decision : Decision) : Prop :=
  match decision with
  | .reject (.store _) => Unlogged b after
  | decision => Logged b after deviceId .publish (decision.outcome? b.faults.forwarder)

theorem Recorded.after {b' after : Backend} {decision : Decision}
    (h : Recorded b' after deviceId decision) (hb : Unlogged b b') :
    Recorded b after deviceId decision := by
  have hlogged (h : Logged b' after deviceId .publish (decision.outcome? b'.faults.forwarder)) :
      Logged b after deviceId .publish (decision.outcome? b.faults.forwarder) := by
    rw [← hb.parts.faults]
    exact h.after hb
  cases decision with
  | accept payload => exact hlogged h
  | redirect topic payload => exact hlogged h
  | reject refusal =>
      cases refusal with
      | auth reason => exact hlogged h
      | permission reason => exact hlogged h
      | store reason => exact hb.trans h

section

variable (h : Watched b deviceId) (topic : String) (payload : Bytes) {e : DeviceLog.Entry}
variable (haction : e.action = .publish)
include h haction

theorem publishPlain_recorded (houtcome : e.outcome = .ok) :
    Recorded b (publishPlain b deviceId topic payload e).2 deviceId
      (publishPlain b deviceId topic payload e).1 := by
  unfold publishPlain Recorded
  rw [← haction]
  cases Topic.Canonical.publishable topic with
  | true =>
      have hlogged := count_note_logged h .publishOk e
      rw [houtcome] at hlogged
      exact hlogged
  | false => exact count_note_logged h .publishDenied _

theorem redirectUp_recorded (target : String) :
    Recorded b (redirectUp b deviceId target payload e).2 deviceId
      (redirectUp b deviceId target payload e).1 := by
  unfold redirectUp Backend.send Recorded
  rw [← haction]
  cases b.faults.forwarder with
  | true =>
      have hlogged (e : DeviceLog.Entry) := (count_note_logged h .forwardFailures e).trans
        (.count _ .publishRedirected)
      exact hlogged _
  | false =>
      have hsent := Unlogged.sent b (b.sent ++ [⟨target, upEnvelope deviceId payload⟩])
      have hlogged (e : DeviceLog.Entry) := ((note_logged (h.unlogged hsent) e).after hsent).trans
        (.count _ .publishRedirected)
      exact hlogged _

theorem publishFrom_recorded (houtcome : e.outcome = .ok) :
    Recorded b (g.publishFrom b deviceId topic payload e).2 deviceId
      (g.publishFrom b deviceId topic payload e).1 := by
  unfold publishFrom
  cases Identity.boundConfig b deviceId with
  | error err => exact .count b .publishDenied
  | ok config =>
      cases config with
      | none => exact publishPlain_recorded h topic payload haction houtcome
      | some configId =>
          have hasked := Unlogged.ask g.snapshotLifetime b configId .up (Mapping.upTarget? · topic)
          dsimp only [Mapping.upTarget]
          generalize Mapping.ask _ b configId .up _ = asked at hasked
          obtain ⟨answer, after⟩ := asked
          have hwatched : Watched after deviceId := h.unlogged hasked
          cases answer with
          | error err => exact hasked.trans (.count after .publishDenied)
          | ok target =>
              cases target with
              | none =>
                  exact (publishPlain_recorded hwatched topic payload haction houtcome).after hasked
              | some target =>
                  exact (redirectUp_recorded hwatched payload haction target).after hasked

end

/-- While a device is logged, an event of its puts one entry in front of its log, and logs nothing
else. A subscription or a message is recorded with the outcome that goes with the decision, but a
message that is refused on behalf of a store is not recorded. A login is recorded as granted, even
if it is refused in the end as the client cannot be bound. -/
theorem logged_decisions (h : Watched b deviceId) (client : Client) :
    (∀ username password d, isPrivileged username = false →
      (Identity.deviceByVoucher b (voucher username password)).1 = .ok (some d) →
      d.id = deviceId →
      Logged b (g.authenticate b client username password).2 deviceId .auth (some .ok) ∧
        (g.authenticate b client username password).1 =
          if b.fails .set [Identity.bindingKey client.id] then .error (.ofStore (.failed .set))
          else .ok ()) ∧
    (client.isPrivileged = false → Identity.boundDevice b client.id = .ok (some deviceId) →
      (∀ topic, Logged b (g.subscribe b client topic).2 deviceId .subscribe
        (admissionOutcome? (g.subscribe b client topic).1)) ∧
      ∀ topic payload, Recorded b (g.publish b client topic payload).2 deviceId
        (g.publish b client topic payload).1) := by
  refine ⟨?_, ?_⟩
  · rintro username password d hu hfound rfl
    exact g.authenticate_logged h client hu hfound
  · intro hclient hbound
    refine ⟨g.subscribe_logged h hclient hbound, ?_⟩
    intro topic payload
    simp only [publish, hclient, hbound, Bool.false_eq_true, if_false]
    exact g.publishFrom_recorded h topic payload rfl rfl

def busyLamp : Backend := run lampGate watchedLamp lampDay

theorem busyLamp_watched : Watched busyLamp "d1" where
  policy := ⟨⟨true, 0, 1000, 0⟩, by decide +kernel⟩
  works := by decide +kernel
  log := Option.isSome_iff_exists.mp (by decide +kernel)

theorem busyLamp_found :
    (Identity.deviceByVoucher busyLamp (voucher "lamp" "pw")).1 = .ok (some lamp) := by
  decide +kernel

theorem logged_decisions_lamp :
    Watched busyLamp "d1" ∧
      (Identity.deviceByVoucher busyLamp (voucher "lamp" "pw")).1 = .ok (some lamp) ∧
      Logged busyLamp (lampGate.authenticate busyLamp ⟨"j", "lamp"⟩ "lamp" "pw").2 "d1" .auth
        (some .ok) ∧
      Client.isPrivileged ⟨"k", "lamp"⟩ = false ∧
      Identity.boundDevice busyLamp "k" = .ok (some "d1") ∧
      (lampGate.subscribe busyLamp ⟨"k", "lamp"⟩ "vendor/x").1 =
        .error (.permission "subscribe to vendor/x") ∧
      Logged busyLamp (lampGate.subscribe busyLamp ⟨"k", "lamp"⟩ "vendor/x").2 "d1" .subscribe
        (some .denied) := by
  have hlogin := (logged_decisions lampGate busyLamp_watched ⟨"j", "lamp"⟩).1 "lamp" "pw" lamp
    (by decide) busyLamp_found rfl
  have hclient : Client.isPrivileged ⟨"k", "lamp"⟩ = false := by decide
  have hbound : Identity.boundDevice busyLamp "k" = .ok (some "d1") := by decide +kernel
  have hrefused : (lampGate.subscribe busyLamp ⟨"k", "lamp"⟩ "vendor/x").1 =
      .error (.permission "subscribe to vendor/x") := by decide +kernel
  have hlogged := ((logged_decisions lampGate busyLamp_watched ⟨"k", "lamp"⟩).2 hclient
    hbound).1 "vendor/x"
  rw [hrefused] at hlogged
  exact ⟨busyLamp_watched, busyLamp_found, hlogin.1, hclient, hbound, hrefused, hlogged⟩

/-- The lamp while nobody can be bound. -/
def unbindableLamp : Backend := { busyLamp with faults := { keyValue := [.set] } }

/-- The lamp while no device can be asked for. -/
def darkLamp : Backend := { busyLamp with faults := { devices := true } }

/-- Reading and pushing work, and the lamp is logged. Yet a login is recorded as granted that a
store refuses, and a message that a store refuses is not recorded. -/
theorem lamp_misrecorded :
    Watched unbindableLamp "d1" ∧
      (lampGate.authenticate unbindableLamp ⟨"j", "lamp"⟩ "lamp" "pw").1 =
        .error (.store "kv set failed") ∧
      Logged unbindableLamp (lampGate.authenticate unbindableLamp ⟨"j", "lamp"⟩ "lamp" "pw").2 "d1"
        .auth (some .ok) ∧
      Watched darkLamp "d1" ∧ Identity.boundDevice darkLamp "k" = .ok (some "d1") ∧
      (lampGate.publish darkLamp ⟨"k", "lamp"⟩ "devices/telemetry/control" [72]).1 =
        .reject (.store "device store unavailable") ∧
      (lampGate.publish darkLamp ⟨"k", "lamp"⟩ "devices/telemetry/control" [72]).2.pushes =
        darkLamp.pushes := by
  have hunbindable : Watched unbindableLamp "d1" :=
    ⟨⟨⟨true, 0, 1000, 0⟩, by decide +kernel⟩, by decide +kernel,
      Option.isSome_iff_exists.mp (by decide +kernel)⟩
  have hdark : Watched darkLamp "d1" :=
    ⟨⟨⟨true, 0, 1000, 0⟩, by decide +kernel⟩, by decide +kernel,
      Option.isSome_iff_exists.mp (by decide +kernel)⟩
  have hfound : (Identity.deviceByVoucher unbindableLamp (voucher "lamp" "pw")).1 =
      .ok (some lamp) := by decide +kernel
  have hlogin := authenticate_logged lampGate hunbindable ⟨"j", "lamp"⟩ (by decide) hfound
  exact ⟨hunbindable, by decide +kernel, hlogin.1, hdark, by decide +kernel, by decide +kernel,
    by decide +kernel⟩

end Gate

end DeviceGateway
