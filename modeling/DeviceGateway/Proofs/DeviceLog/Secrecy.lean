import DeviceGateway.Proofs.DeviceLog.Record
import DeviceGateway.Proofs.Identity.Lookup
/-!
What the logs tell of a password: what became of the client that gave it, and which device it
belongs to. Two attempts under one name that end alike are told apart by nothing that is logged.
-/
namespace DeviceGateway

open Backend

namespace KeyValue

theorem push?_congr {kv kv' : KeyValue} {key : String} (h : kv'.find? key = kv.find? key)
    (value : String) (maxItems : Nat) (ttl : Option Nat) :
    (kv.push? key value maxItems ttl = none ∧ kv'.push? key value maxItems ttl = none) ∨
      ∃ entry, kv.push? key value maxItems ttl = some (kv.put key entry) ∧
        kv'.push? key value maxItems ttl = some (kv'.put key entry) := by
  have hitems : kv'.items? key = kv.items? key := by
    unfold items?
    rw [h]
  unfold push?
  rw [hitems, h]
  cases kv.items? key with
  | none => exact .inl ⟨rfl, rfl⟩
  | some items => exact .inr ⟨_, rfl, rfl⟩

end KeyValue

/-- Backends with the same logs and policies, in which the same was logged. -/
abbrev Backend.SameLogs (b b' : Backend) : Prop := Unlogged b b'

namespace Backend.SameLogs

variable {b b' c c' : Backend}

theorem symm (h : SameLogs b b') : SameLogs b' b :=
  ⟨h.parts.symm, fun key hkey => (h.keys key hkey).symm, h.pushes.symm⟩

theorem after (h : SameLogs b b') (hb : Unlogged b c) (hb' : Unlogged b' c') : SameLogs c c' :=
  (symm hb).trans (h.trans hb')

theorem pushed (h : SameLogs b b') (deviceId value : String) (maxItems : Nat) (ttl : Option Nat)
    (entry : KeyValue.Entry) :
    SameLogs
      (b.wrote (.push (DeviceLog.logsKey deviceId) value maxItems ttl)
        (b.keyValue.put (DeviceLog.logsKey deviceId) entry))
      (b'.wrote (.push (DeviceLog.logsKey deviceId) value maxItems ttl)
        (b'.keyValue.put (DeviceLog.logsKey deviceId) entry)) := by
  refine ⟨⟨fun _ hkey => absurd trivial hkey, fun hL => absurd trivial hL, h.parts.devices,
    h.parts.rules, h.parts.selects, h.parts.clock, h.parts.faults⟩, ?_, ?_⟩
  · intro key hkey
    refine (KeyValue.find?_put _ _ _ _).trans (Eq.trans ?_ (KeyValue.find?_put _ _ _ _).symm)
    rw [h.keys key hkey]
  · have hpushes := h.pushes
    unfold Backend.pushes at hpushes
    unfold Backend.pushes Backend.wrote
    rw [List.filter_append, List.filter_append, hpushes]

theorem write (h : SameLogs b b') (deviceId : String) (e : DeviceLog.Entry) :
    SameLogs (DeviceLog.write b deviceId e).2 (DeviceLog.write b' deviceId e).2 := by
  unfold DeviceLog.write
  rw [DeviceLog.policy_congr h, h.parts.clock]
  cases DeviceLog.policy b deviceId with
  | error err => exact h
  | ok p =>
      cases p with
      | none => exact h
      | some p =>
          dsimp only [Backend.push, attempt]
          rw [h.parts.fails_eq]
          cases b.fails .push [DeviceLog.logsKey deviceId] with
          | true => exact h
          | false =>
              obtain ⟨hnone, hnone'⟩ | ⟨entry, hsome, hsome'⟩ :=
                KeyValue.push?_congr (h.keys _ (DeviceLog.owns_logsKey deviceId))
                  (DeviceLog.Entry.codec.encode (e.prepared deviceId b.clock p))
                  p.maxItems.toInt.toNat (p.logLifetime b.clock.seconds)
              · rw [hnone, hnone']
                exact h
              · rw [hsome, hsome']
                exact h.pushed deviceId _ _ _ entry

theorem note (h : SameLogs b b') (deviceId : String) (e : DeviceLog.Entry) :
    SameLogs (b.note deviceId e) (b'.note deviceId e) := by
  unfold Backend.note
  split
  · exact h
  · exact h.write deviceId e

end Backend.SameLogs

namespace Gate

/-- The ends of an attempt under a name that is not privileged: no device was found, for lack of one
or for a store, or one was, and nothing is logged yet. -/
inductive Attempt (b : Backend) (client : Client) (username password : String) :
    Except Refusal Unit × Backend → Prop
  | refused {refusal : Refusal} :
      (refusal = .auth "device not found" ∨ ∃ e, refusal = .ofStore e) →
      Identity.resolve b (voucher username password) = none →
      Attempt b client username password (refuseAuth b client username password refusal)
  | identified {d : Device} {found : Backend} :
      Identity.resolve b (voucher username password) = some d → Unlogged b found →
      Attempt b client username password (bindTo found client username d)

theorem authenticate_attempt (g : Gate) (b : Backend) (client : Client) {username : String}
    (password : String) (hu : isPrivileged username = false) :
    Attempt b client username password (g.authenticate b client username password) := by
  have hlookup := Identity.deviceByVoucher_lookup b (voucher username password)
  have hunlogged := Unlogged.deviceByVoucher b username password
  unfold authenticate
  rw [hu, if_neg Bool.false_ne_true]
  cases hfound : Identity.deviceByVoucher b (voucher username password) with
  | mk answer found =>
      rw [hfound] at hlookup hunlogged
      -- A lookup that finds no device leaves everything as it was.
      cases answer with
      | error e =>
          cases hlookup
          refine .refused (.inr ⟨e, rfl⟩) ?_
          unfold Identity.resolve
          rw [hfound]
      | ok d =>
          cases d with
          | none =>
              cases hlookup
              exact .refused (.inl rfl) (Identity.resolve_eq hfound)
          | some d => exact .identified (Identity.resolve_eq hfound) hunlogged

/-- Of a password that no device is found by, it matters only whether it is one. -/
theorem refuseAuth_congr (b : Backend) (client : Client) (username : String) {p q : String}
    (hp : p ≠ "") (hq : q ≠ "") (refusal : Refusal) :
    refuseAuth b client username q refusal = refuseAuth b client username p refusal := by
  have hempty {s : String} (hs : s ≠ "") : s.isEmpty = false :=
    Bool.eq_false_iff.mpr (mt String.isEmpty_iff.mp hs)
  unfold refuseAuth noteRefusedAuth
  rw [hempty hp, hempty hq]

/-- Once a device is found, a client is refused on behalf of a store alone. -/
theorem bindTo_ne_auth (b : Backend) (client : Client) (username : String) (d : Device)
    (reason : String) : (bindTo b client username d).1 ≠ .error (.auth reason) := by
  unfold bindTo
  cases Identity.bind b client.id d.id with
  | error e => exact nofun
  | ok bound => exact nofun

/-- What is logged once a device is found depends on the device. -/
theorem bindTo_sameLogs {b b' : Backend} (h : SameLogs b b') (client : Client) (username : String)
    {d d' : Device} (hid : d'.id = d.id) :
    SameLogs (bindTo b client username d).2 (bindTo b' client username d').2 := by
  unfold bindTo Identity.bind
  rw [set_eq, set_eq, hid, h.parts.fails_eq]
  cases b.fails .set [Identity.bindingKey client.id] with
  | true => exact (h.after (.count _ _) (.count _ _)).note _ _
  | false =>
      have hkey := Purpose.not_owns (Purpose.names_bindingKey client.id) nofun nofun
      have hbound := h.after (.wrote_set b hkey d.id none) (.wrote_set b' hkey d.id none)
      exact (hbound.after (.count _ _) (.count _ _)).note _ _

namespace Attempt

variable {b : Backend} {client : Client} {username p q : String}
variable {result result' : Except Refusal Unit × Backend}

theorem eq_of_auth (h : Attempt b client username p result) {reason : String}
    (hrefused : result.1 = .error (.auth reason)) :
    result = refuseAuth b client username p (.auth "device not found") := by
  cases h with
  | refused hcause _ =>
      obtain rfl | ⟨e, rfl⟩ := hcause
      · rfl
      · cases hrefused
  | identified _ _ => exact absurd hrefused (bindTo_ne_auth _ client username _ reason)

/-- Attempts that end alike and lead to the same device, or to none, are logged alike. -/
theorem sameLogs (h : Attempt b client username p result) (h' : Attempt b client username q result')
    (hp : p ≠ "") (hq : q ≠ "") (houtcome : result'.1 = result.1)
    (hdevice : (Identity.resolve b (voucher username q)).map (·.id) =
      (Identity.resolve b (voucher username p)).map (·.id)) :
    SameLogs result.2 result'.2 := by
  cases h with
  | refused _ hnone =>
      rw [hnone] at hdevice
      cases h' with
      | refused _ _ =>
          cases houtcome
          rw [refuseAuth_congr b client username hp hq]
          exact .refl _
      | identified hsome _ =>
          rw [hsome] at hdevice
          cases hdevice
  | identified hsome hfound =>
      rw [hsome] at hdevice
      cases h' with
      | refused _ hnone =>
          rw [hnone] at hdevice
          cases hdevice
      | identified hsome' hfound' =>
          rw [hsome'] at hdevice
          exact bindTo_sameLogs ((SameLogs.symm hfound).trans hfound') client username
            (Option.some.inj hdevice)

end Attempt

/-- Passwords leave no trace in the logs. Two of them that no device is found by are refused with
the same words, and everything is the same afterwards: what was written, logged and counted. And
whatever becomes of two of them, if the outcome and the device are the same, so are the entries that
were logged, and so are the logs. -/
theorem passwords_leave_no_trace (g : Gate) (b : Backend) (client : Client)
    {username p q : String} (hu : isPrivileged username = false) (hp : p ≠ "") (hq : q ≠ "") :
    (∀ reason reason',
      (g.authenticate b client username p).1 = .error (.auth reason) →
      (g.authenticate b client username q).1 = .error (.auth reason') →
      g.authenticate b client username q = g.authenticate b client username p) ∧
    ((g.authenticate b client username q).1 = (g.authenticate b client username p).1 →
      (Identity.resolve b (voucher username q)).map (·.id) =
        (Identity.resolve b (voucher username p)).map (·.id) →
      (g.authenticate b client username q).2.pushes =
        (g.authenticate b client username p).2.pushes ∧
      ∀ deviceId,
        (g.authenticate b client username q).2.keyValue.find? (DeviceLog.logsKey deviceId) =
          (g.authenticate b client username p).2.keyValue.find? (DeviceLog.logsKey deviceId)) := by
  have hattempt := g.authenticate_attempt b client p hu
  have hattempt' := g.authenticate_attempt b client q hu
  refine ⟨?_, ?_⟩
  · intro reason reason' hrefused hrefused'
    rw [hattempt.eq_of_auth hrefused, hattempt'.eq_of_auth hrefused']
    exact refuseAuth_congr b client username hp hq _
  · intro houtcome hdevice
    have hlogs := hattempt.sameLogs hattempt' hp hq houtcome hdevice
    exact ⟨hlogs.pushes, fun deviceId => hlogs.keys _ (DeviceLog.owns_logsKey deviceId)⟩

/-- A lamp that is logged, and that was known by an older password and by its name alone. -/
def reissuedLamp : Backend :=
  { watchedLamp with
    keyValue := (watchedLamp.keyValue.set (voucher "lamp" "old") "d1" none).set (voucher "lamp" "")
      "d1" none }

theorem passwords_leave_no_trace_lamp :
    lampGate.authenticate reissuedLamp ⟨"k", "lamp"⟩ "lamp" "guess" =
        lampGate.authenticate reissuedLamp ⟨"k", "lamp"⟩ "lamp" "typo" ∧
      (lampGate.authenticate reissuedLamp ⟨"k", "lamp"⟩ "lamp" "guess").1 =
        .error (.auth "device not found") ∧
      (lampGate.authenticate reissuedLamp ⟨"k", "lamp"⟩ "lamp" "guess").2.pushes.length = 1 ∧
      (lampGate.authenticate reissuedLamp ⟨"k", "lamp"⟩ "lamp" "pw").1 = .ok () ∧
      (lampGate.authenticate reissuedLamp ⟨"k", "lamp"⟩ "lamp" "pw").2.pushes =
        (lampGate.authenticate reissuedLamp ⟨"k", "lamp"⟩ "lamp" "old").2.pushes ∧
      (lampGate.authenticate reissuedLamp ⟨"k", "lamp"⟩ "lamp" "pw").2.journal ≠
        (lampGate.authenticate reissuedLamp ⟨"k", "lamp"⟩ "lamp" "old").2.journal := by
  have hu : isPrivileged "lamp" = false := by decide
  have hguess : (lampGate.authenticate reissuedLamp ⟨"k", "lamp"⟩ "lamp" "guess").1 =
      .error (.auth "device not found") := by decide +kernel
  have hrefused := (passwords_leave_no_trace lampGate reissuedLamp ⟨"k", "lamp"⟩ hu
    (show "typo" ≠ "" by decide) (show "guess" ≠ "" by decide)).1 "device not found"
    "device not found" (by decide +kernel) hguess
  have hlogged := (passwords_leave_no_trace lampGate reissuedLamp ⟨"k", "lamp"⟩ hu
    (show "old" ≠ "" by decide) (show "pw" ≠ "" by decide)).2 (by decide +kernel)
    (by decide +kernel)
  exact ⟨hrefused, hguess, by decide +kernel, by decide +kernel, hlogged.1, by decide +kernel⟩

end Gate

end DeviceGateway
