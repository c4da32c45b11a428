import DeviceGateway.Proofs.Run
/-!
Bindings over whole runs. A client is bound to the device that its last login resolved to; nothing
else that happens, and no failure on the way, changes what any client is bound to.
-/
namespace DeviceGateway

open Backend Purpose

namespace Step

/-- Whether a step lets a client in as a device: an auth that is granted under a name that is not
privileged. -/
def logsIn (g : Gate) (b : Backend) (clientId : String) : Step → Bool
  | .event hooks (.auth client username password) =>
    client.id = clientId && !isPrivileged username &&
      (Pipeline.authenticate ⟨hooks, g⟩ b client username password).1.isOk
  | _ => false

/-- The device that the credentials of an auth resolve to. -/
def device? (b : Backend) : Step → Option Device
  | .event _ (.auth _ username password) => Identity.resolve b (voucher username password)
  | _ => none

end Step

/-- The device that a client's last login in a run resolved to; `last` is what was before the
run. -/
def lastLogin (g : Gate) (clientId : String) (last : Option Device) :
    Backend → List Step → Option Device
  | _, [] => last
  | b, x :: rest =>
    lastLogin g clientId (if x.logsIn g b clientId then x.device? b else last) (x.apply g b) rest

theorem Backend.Frame.binding {purposes : List Purpose} {b b' : Backend}
    (h : Frame (Among purposes) True b b') (hp : Purpose.binding ∉ purposes) (clientId : String) :
    b'.keyValue.find? (Identity.bindingKey clientId) =
      b.keyValue.find? (Identity.bindingKey clientId) :=
  h.keys _ (not_among (names_bindingKey clientId) hp)

namespace Gate

theorem noteRefusedAuth_binding (b : Backend) (client : Client) (username password : String)
    (refusal : Refusal) (clientId : String) :
    (noteRefusedAuth b client username password refusal).keyValue.find?
        (Identity.bindingKey clientId) =
      b.keyValue.find? (Identity.bindingKey clientId) := by
  have hlog (deviceId : String) : Among [.voucher, .log] (DeviceLog.logsKey deviceId) :=
    among_of_names (names_logsKey deviceId) (by decide)
  exact (noteRefusedAuth_frame hlog b client username password refusal
    (among_of_names (names_voucher username "") (by decide))).binding (by decide) clientId

theorem note_binding (b : Backend) (deviceId : String) (e : DeviceLog.Entry) (clientId : String) :
    (b.note deviceId e).keyValue.find? (Identity.bindingKey clientId) =
      b.keyValue.find? (Identity.bindingKey clientId) :=
  (note_frame b e (among_of_names (names_logsKey deviceId) (List.mem_singleton.mpr rfl))).binding
    (by decide) clientId

/-- An auth binds its client if it is granted, to the device that its credentials resolve to, and
otherwise no client. -/
theorem authenticate_binding (g : Gate) (b : Backend) (client : Client) (username password : String)
    (hu : isPrivileged username = false) (clientId : String) :
    (g.authenticate b client username password).2.keyValue.find? (Identity.bindingKey clientId) =
      if client.id = clientId ∧ (g.authenticate b client username password).1.isOk = true then
        (Identity.resolve b (voucher username password)).map deviceEntry
      else b.keyValue.find? (Identity.bindingKey clientId) := by
  have hv : Among [.voucher] (voucher username password) :=
    among_of_names (names_voucher username password) (List.mem_singleton.mpr rfl)
  have ha := authenticate_admission g b client password hu
  generalize g.authenticate b client username password = result at ha ⊢
  obtain ⟨answer, after⟩ := result
  dsimp only at ha ⊢
  cases ha with
  | turnedAway refusal hl _ hafter =>
      rw [if_neg fun h => Bool.false_ne_true h.2, hafter, noteRefusedAuth_binding]
      exact (hl.frame hv).binding (by decide) clientId
  | unbound e hl hafter =>
      rw [if_neg fun h => Bool.false_ne_true h.2, hafter, note_binding]
      exact (hl.frame hv).binding (by decide) clientId
  | @bound d found _ hl hres hafter =>
      rw [hafter, note_binding, hres]
      change (found.keyValue.set _ _ _).find? _ = _
      rw [KeyValue.find?_set]
      by_cases hc : client.id = clientId
      · rw [if_pos (congrArg _ hc.symm), if_pos ⟨hc, rfl⟩]
        rfl
      · rw [if_neg fun h => hc (Identity.bindingKey_inj h).symm, if_neg fun h => hc h.1]
        exact (hl.frame hv).binding (by decide) clientId

end Gate

theorem Step.logsIn_auth (p : Pipeline) (b : Backend) (client : Client) (username password : String)
    (clientId : String) :
    (Step.event p.hooks (.auth client username password)).logsIn p.gate b clientId =
      (client.id = clientId && !isPrivileged username &&
        (p.authenticate b client username password).1.isOk) := rfl

theorem Pipeline.authenticate_binding (p : Pipeline) (b : Backend) (client : Client)
    (username password : String) (clientId : String) :
    (p.authenticate b client username password).2.keyValue.find? (Identity.bindingKey clientId) =
      if (Step.event p.hooks (.auth client username password)).logsIn p.gate b clientId = true then
        (Identity.resolve b (voucher username password)).map deviceEntry
      else b.keyValue.find? (Identity.bindingKey clientId) := by
  rw [Step.logsIn_auth]
  rcases p.authenticate_cases b client username password with ⟨refusal, h⟩ | h
  · rw [h, if_neg]
    rw [Bool.and_eq_true]
    exact fun hx => Bool.false_ne_true hx.2
  · rw [h]
    cases hu : isPrivileged username with
    | true =>
        rw [Bool.not_true, Bool.and_false, Bool.false_and, if_neg Bool.false_ne_true]
        simp only [Gate.authenticate, hu, if_true]
        split <;> rfl
    | false =>
        rw [Gate.authenticate_binding p.gate b client username password hu clientId]
        simp only [Bool.not_false, Bool.and_true, Bool.and_eq_true, decide_eq_true_eq]

theorem Step.isAuth_of_logsIn {g : Gate} {b : Backend} {x : Step} {clientId : String}
    (h : x.logsIn g b clientId = true) : x.isAuth = true := by
  unfold logsIn at h
  split at h
  · rfl
  · cases h

/-- Of all that may happen, a login alone changes what a client is bound to. -/
theorem Step.apply_binding (g : Gate) {b : Backend} (x : Step) {clientId : String}
    (httl : b.keyValue.ttl? (Identity.bindingKey clientId) = none) :
    (x.apply g b).keyValue.find? (Identity.bindingKey clientId) =
      if x.logsIn g b clientId = true then (x.device? b).map deviceEntry
      else b.keyValue.find? (Identity.bindingKey clientId) := by
  cases hx : x.isAuth with
  | true =>
      unfold isAuth at hx
      split at hx
      · next hooks client username password =>
        exact Pipeline.authenticate_binding ⟨hooks, g⟩ b client username password clientId
      · cases hx
  | false =>
      rw [if_neg]
      · exact apply_find? g b hx (not_among (names_bindingKey clientId) (by decide)) httl
      · intro h
        rw [isAuth_of_logsIn h] at hx
        cases hx

theorem Step.device?_of_logsIn {g : Gate} {b : Backend} {x : Step} {clientId : String}
    (h : x.logsIn g b clientId = true) : (x.device? b).isSome = true := by
  unfold logsIn at h
  split at h
  · next hooks client username password =>
    simp only [Bool.and_eq_true, Bool.not_eq_true'] at h
    obtain ⟨⟨_, hu⟩, hok⟩ := h
    rcases Pipeline.authenticate_cases ⟨hooks, g⟩ b client username password with ⟨_, ha⟩ | ha
    · rw [ha] at hok
      cases hok
    · rw [ha] at hok
      have hadmission := Gate.authenticate_admission g b client password hu
      generalize g.authenticate b client username password = result at hadmission hok
      obtain ⟨answer, after⟩ := result
      cases hadmission with
      | turnedAway _ _ _ _ => cases hok
      | unbound _ _ _ => cases hok
      | bound _ hres _ =>
          change (Identity.resolve b _).isSome = true
          rw [hres]
          rfl
  · cases h

theorem run_binding (g : Gate) (clientId : String) (b : Backend) (last : Option Device)
    (steps : List Step)
    (h : b.keyValue.find? (Identity.bindingKey clientId) = last.map deviceEntry) :
    (run g b steps).keyValue.find? (Identity.bindingKey clientId) =
      (lastLogin g clientId last b steps).map deviceEntry := by
  induction steps generalizing b last with
  | nil => exact h
  | cons x rest ih =>
      apply ih
      rw [Step.apply_binding g x (ttl?_deviceEntry h), h]
      split <;> rfl

theorem Identity.mem_of_resolve {b : Backend} {v : String} {d : Device}
    (h : resolve b v = some d) : d ∈ b.devices.records := by
  have hlookup := deviceByVoucher_lookup b v
  unfold resolve at h
  generalize deviceByVoucher b v = result at h hlookup
  obtain ⟨answer, after⟩ := result
  cases hlookup with
  | failed e => cases h
  | missed => cases h
  | kept _ hid =>
      cases h
      exact List.mem_of_find?_eq_some hid
  | stored hvoucher =>
      cases h
      exact List.mem_of_find?_eq_some hvoucher

namespace Step

variable {g : Gate} {b : Backend} {x : Step} {d : Device}

theorem mem_apply_devices (h : d ∈ (x.apply g b).devices.records) :
    d ∈ b.devices.records ∨ x = .putDevice d := by
  rw [apply_devices] at h
  split at h
  · rcases List.mem_cons.mp h with rfl | h
    · exact .inr rfl
    · exact .inl (List.mem_filter.mp h).1
  · exact .inl h

theorem mem_of_device? (h : x.device? b = some d) : d ∈ b.devices.records := by
  unfold device? at h
  split at h
  · exact Identity.mem_of_resolve h
  · cases h

end Step

section

variable (g : Gate) {b : Backend} {P : Device → Prop} {steps : List Step}

/-- Clients log in as devices that there are at the time. -/
theorem lastLogin_mem (clientId : String) {last : Option Device} (hlast : ∀ d ∈ last, P d)
    (hdevices : ∀ d ∈ b.devices.records, P d) (hsteps : ∀ d, .putDevice d ∈ steps → P d) :
    ∀ d ∈ lastLogin g clientId last b steps, P d := by
  induction steps generalizing b last with
  | nil => exact hlast
  | cons x rest ih =>
      refine ih ?_ ?_ fun d hd => hsteps d (List.mem_cons_of_mem _ hd)
      · intro d hd
        split at hd
        · exact hdevices d (Step.mem_of_device? hd)
        · exact hlast d hd
      · intro d hd
        rcases Step.mem_apply_devices hd with hd | rfl
        · exact hdevices d hd
        · exact hsteps d List.mem_cons_self

/-- Whatever client is bound after a run, it is bound to a device that there was in it. -/
theorem bound_of_run (hb : ∀ clientId, b.keyValue.find? (Identity.bindingKey clientId) = none)
    (hdevices : ∀ d ∈ b.devices.records, P d) (hsteps : ∀ d, .putDevice d ∈ steps → P d)
    {clientId deviceId : String}
    (hbound : Identity.boundDevice (run g b steps) clientId = .ok (some deviceId)) :
    ∃ d, P d ∧ d.id = deviceId := by
  have htext := text?_deviceEntry (run_binding g clientId b none steps (hb clientId))
  have hnone : ∀ d ∈ (none : Option Device), P d := nofun
  have hlogin := lastLogin_mem g clientId hnone hdevices hsteps
  generalize lastLogin g clientId none b steps = login at htext hlogin
  unfold Identity.boundDevice Backend.get at hbound
  rw [htext] at hbound
  split at hbound
  · cases hbound
  · cases hget : (run g b steps).attempt .get [Identity.bindingKey clientId]
        (some (login.map (·.id))) with
    | error e =>
        rw [hget] at hbound
        cases hbound
    | ok found =>
        rw [hget] at hbound
        cases (attempt_eq_ok hget).2
        obtain ⟨hid, _⟩ := Option.filter_eq_some_iff.mp (Except.ok.inj hbound)
        obtain ⟨d, hd, hid⟩ := Option.map_eq_some_iff.mp hid
        exact ⟨d, hlogin d hd, hid⟩

end

/-- After any run, whatever failed in it, a client is bound to the device that its last login found.
Nothing but a login of the client itself changes that. -/
theorem boundDevice_run (g : Gate) (b : Backend) (steps : List Step)
    (hb : ∀ clientId, b.keyValue.find? (Identity.bindingKey clientId) = none) :
    (∀ clientId ≠ "", ∀ faults : Faults,
      ({ run g b steps with faults }).fails .get [Identity.bindingKey clientId] = false →
      Identity.boundDevice { run g b steps with faults } clientId =
        .ok (((lastLogin g clientId none b steps).map (·.id)).filter (!·.isEmpty))) ∧
    ∀ before x after, steps = before ++ x :: after → ∀ clientId,
      if x.logsIn g (run g b before) clientId then
        (x.device? (run g b before)).isSome = true
      else
        (run g b (before ++ [x])).keyValue.find? (Identity.bindingKey clientId) =
          (run g b before).keyValue.find? (Identity.bindingKey clientId) := by
  constructor
  · intro clientId hne faults hget
    have hfind := run_binding g clientId b none steps (hb clientId)
    unfold Identity.boundDevice
    rw [if_neg (by simpa using hne)]
    change ((Backend.attempt _ _ _ ((run g b steps).keyValue.text? _)).map _) = _
    rw [text?_deviceEntry hfind, attempt_eq_answer hget]
    rfl
  · intro before x after _ clientId
    have hfind := run_binding g clientId b none before (hb clientId)
    split
    · next hx => exact Step.device?_of_logsIn hx
    · next hx =>
      rw [run_append]
      change (x.apply g (run g b before)).keyValue.find? _ = _
      rw [Step.apply_binding g x (ttl?_deviceEntry hfind), if_neg hx]

/-- A lamp logs in, and is refused once bindings can no longer be written. -/
theorem boundDevice_run_lamp :
    (∀ clientId, lampBackend.keyValue.find? (Identity.bindingKey clientId) = none) ∧
      Identity.boundDevice { run lampGate lampBackend
        [.event [] (.auth ⟨"c", "lamp"⟩ "lamp" "pw"), .setFaults { keyValue := [.set] },
          .event [] (.auth ⟨"c", "lamp"⟩ "lamp" "pw")] with faults := {} } "c" =
        .ok (some "d1") := by
  have hb : ∀ clientId, lampBackend.keyValue.find? (Identity.bindingKey clientId) = none :=
    fun _ => rfl
  refine ⟨hb, ?_⟩
  rw [(boundDevice_run lampGate lampBackend _ hb).1 "c" (by decide) {} rfl]
  exact congrArg Except.ok (by decide +kernel)

end DeviceGateway
