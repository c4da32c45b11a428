import DeviceGateway.Proofs.DeviceLog.Interference
import DeviceGateway.Proofs.Gate.Downlink
/-!
What privileged clients publish. Their messages go out as they are, whatever fails. Besides, at most
one message is handed to the link, and while nothing fails it is the one that the rules of the
addressed device make; only snapshots of those rules and logs are written on the way.
-/
namespace DeviceGateway

open Backend Purpose

namespace Devices

/-- No two devices have the same number. -/
def Numbered (ds : Devices) : Prop :=
  ∀ d ∈ ds.records, ∀ e ∈ ds.records, d.number = e.number → d = e

theorem Numbered.byNumber_eq_some_iff {ds : Devices} (h : ds.Numbered) {number : String}
    {d : Device} : ds.byNumber number = some d ↔ d ∈ ds.records ∧ d.number = number := by
  constructor
  · intro hfound
    exact ⟨List.mem_of_find?_eq_some hfound, by simpa using List.find?_some hfound⟩
  · rintro ⟨hd, rfl⟩
    cases hfound : ds.byNumber d.number with
    | none =>
        have hnone := List.find?_eq_none.mp hfound d hd
        exact absurd (decide_eq_true rfl) hnone
    | some e =>
        have he : e.number = d.number := by simpa using List.find?_some hfound
        rw [h e (List.mem_of_find?_eq_some hfound) d hd he]

end Devices

namespace Backend

variable {P : String → Prop} {b b' b'' : Backend}

/-- A backend later on: only keys `P` were written, and all others hold what they held. -/
structure Writes (P : String → Prop) (b b' : Backend) : Prop where
  journal : ∃ ws, b'.journal = b.journal ++ ws ∧ ∀ w ∈ ws, ∀ key ∈ w.keys, P key
  keys : ∀ key, ¬ P key → b'.keyValue.find? key = b.keyValue.find? key

namespace Writes

theorem of_same (hjournal : b'.journal = b.journal) (hkeys : b'.keyValue = b.keyValue) :
    Writes P b b' :=
  ⟨⟨[], hjournal.trans (List.append_nil _).symm, nofun⟩, fun _ _ => hkeys ▸ rfl⟩

theorem refl : Writes P b b := .of_same rfl rfl

theorem trans (h : Writes P b b') (h' : Writes P b' b'') : Writes P b b'' := by
  obtain ⟨ws, hws, hkeys⟩ := h.journal
  obtain ⟨ws', hws', hkeys'⟩ := h'.journal
  refine ⟨⟨ws ++ ws', by rw [hws', hws, List.append_assoc], ?_⟩, ?_⟩
  · intro w hw
    rcases List.mem_append.mp hw with hw | hw
    · exact hkeys w hw
    · exact hkeys' w hw
  · intro key hkey
    exact (h'.keys key hkey).trans (h.keys key hkey)

theorem of_eq {α : Type} {x : α × Backend} {a : α} (h : Writes P b x.2) (hx : x = (a, b')) :
    Writes P b b' := by
  rw [hx] at h
  exact h

end Writes

theorem wrote_writes {key : String} (hP : P key) {w : KeyValue.Write} (hw : w.keys = [key])
    {kv : KeyValue} (hkv : ∀ other, other ≠ key → kv.find? other = b.keyValue.find? other) :
    Writes P b (b.wrote w kv) :=
  ⟨⟨[w], rfl, List.forall_mem_singleton.mpr (hw ▸ List.forall_mem_singleton.mpr hP)⟩,
    (wrote_frame (L := True) hP w hkv).keys⟩

theorem SameDone.writes {Q : String → Prop} {c c' : Backend} (h : SameDone Q b b' c c')
    (hQ : ∀ key, Q key → P key) : Writes P b c := by
  refine h.keeps .refl ?_ fun hc => hc.trans (.of_same rfl rfl)
  intro c key hkey hc value ttl
  exact hc.trans
    (wrote_writes (hQ key hkey) rfl fun other hne => by rw [KeyValue.find?_set, if_neg hne])

theorem note_count_writes (b : Backend) (c : Counter) {deviceId : String} (e : DeviceLog.Entry)
    (hP : P (DeviceLog.logsKey deviceId)) : Writes P b ((b.count c).note deviceId e) := by
  have hcount : Writes P b (b.count c) := .of_same rfl rfl
  rcases (b.count c).note_leaves deviceId e with h | ⟨raw, maxItems, ttl, kv, hkv, h⟩
  · rw [h]
    exact hcount
  · rw [h]
    exact hcount.trans (wrote_writes hP rfl fun other hne => KeyValue.find?_push hkv hne)

theorem send_writes {topic : String} {payload : Bytes} (h : b.send topic payload = .ok b') :
    Writes P b b' := by
  unfold send at h
  split at h
  · cases h
  · cases h
    exact .of_same rfl rfl

end Backend

theorem Mapping.ask_writes {α : Type} (lifetime : Nat) (b : Backend) {configId : String}
    {direction : Direction} (question : List Rule → α) {P : String → Prop}
    (hP : P (Snapshot.key direction configId)) :
    Writes P b (ask lifetime b configId direction question).2 := by
  rw [Snapshot.ask_eq]
  have hdone : SameDone (· = Snapshot.key direction configId) b b
      (Snapshot.get lifetime b configId direction).2
      (Snapshot.get lifetime b configId direction).2 :=
    (Snapshot.get_congr lifetime .refl rfl).2
  exact hdone.writes fun key hkey => hkey ▸ hP

theorem Mapping.not_blank_of_downRoute {lifetime : Nat} {b : Backend}
    {configId topic number : String} {payload : Bytes} {route : Option Route}
    (h : (downRoute lifetime b configId topic number payload).1 = .ok route) :
    Text.isBlank configId = false := by
  cases hblank : Text.isBlank configId with
  | false => rfl
  | true =>
      rw [downRoute, Snapshot.ask_eq, Snapshot.get_of_blank lifetime b hblank] at h
      cases h

namespace Gate

variable {P : String → Prop}

theorem forwardDown_writes (hlog : ∀ deviceId, P (DeviceLog.logsKey deviceId))
    (hsnapshot : ∀ configId, P (Mapping.Snapshot.key .down configId)) (g : Gate) (b : Backend)
    (client : Client) (topic : String) (payload : Bytes) :
    Writes P b (g.forwardDown b client topic payload) := by
  unfold forwardDown
  split
  · exact .refl
  · next number _ =>
    split
    · split
      · exact .refl
      · next configId _ =>
        have hasked := Mapping.ask_writes g.snapshotLifetime b
          (Mapping.downRoute? · topic number payload) (hsnapshot configId)
        unfold Mapping.downRoute
        split
        · next hroute =>
          have hrouted := hasked.of_eq hroute
          dsimp only
          split
          · next hsend =>
            exact (hrouted.trans (send_writes hsend)).trans (note_count_writes _ _ _ (hlog _))
          · exact hrouted.trans (note_count_writes _ _ _ (hlog _))
        · next hroute => exact hasked.of_eq hroute
    · exact .refl

variable {g : Gate} {b : Backend} {topic : String} {payload : Bytes}

/-- A message of the platform goes down to a device as the rules of its configuration have it. -/
def GoesDown (g : Gate) (b : Backend) (topic : String) (payload : Bytes) (number : String)
    (d : Device) (m : Message) : Prop :=
  ∃ configId route, d.configId = some configId ∧ Text.isBlank configId = false ∧
    (Mapping.downRoute g.snapshotLifetime b configId topic number payload).1 = .ok (some route) ∧
    m = ⟨route.topic, route.payload⟩

theorem config?_eq_some {d : Device} {configId : String} (h : d.configId = some configId)
    (hblank : Text.isBlank configId = false) : d.config? = some configId := by
  have hempty : configId.isEmpty = false := by
    cases hempty : configId.isEmpty with
    | false => rfl
    | true =>
        rw [String.isEmpty_iff.mp hempty, Text.isBlank_empty] at hblank
        cases hblank
  rw [Device.config?, h, Option.filter_some, hempty]
  rfl

theorem downward?_eq_some_iff (hb : b.faults = {}) {m : Message} :
    g.downward? b topic payload = some m ↔
      ∃ number d, Topic.Canonical.deviceNumber? topic = some number ∧
        b.devices.byNumber number = some d ∧ GoesDown g b topic payload number d m := by
  have hfaults : b.faults = { forwarder := false } := hb
  have hask (number : String) : b.ask (.number number) = .ok (b.devices.byNumber number) :=
    (StoresWork.of_faults hfaults).ask_eq _
  constructor
  · intro h
    obtain ⟨number, hnumber, h⟩ := Option.bind_eq_some_iff.mp h
    obtain ⟨d, hd, h⟩ := Option.bind_eq_some_iff.mp h
    obtain ⟨configId, hconfig, h⟩ := Option.bind_eq_some_iff.mp h
    obtain ⟨route, hroute, h⟩ := Option.bind_eq_some_iff.mp h
    rw [hask] at hd
    have hrouted := eq_ok_of_join hroute
    exact ⟨number, d, hnumber, hd, configId, route, (Option.filter_eq_some_iff.mp hconfig).1,
      Mapping.not_blank_of_downRoute hrouted, hrouted, (Option.some.inj h).symm⟩
  · rintro ⟨number, d, hnumber, hd, configId, route, hconfig, hblank, hroute, rfl⟩
    simp only [downward?, hnumber, hask, hd, config?_eq_some hconfig hblank, hroute,
      Except.toOption, Option.join_some, Option.bind_eq_bind, Option.bind_some]
    rfl

theorem sent_eq_iff (hb : b.faults = {}) (client : Client) {m : Message} :
    (g.forwardDown b client topic payload).sent = b.sent ++ [m] ↔
      g.downward? b topic payload = some m := by
  have hhands := g.forwardDown_hands b client topic payload
  cases hdown : g.downward? b topic payload with
  | none =>
      rw [hdown] at hhands
      rw [show (g.forwardDown b client topic payload).sent = b.sent from hhands.sent]
      simp
  | some n =>
      rw [hdown] at hhands
      have hsent : (g.forwardDown b client topic payload).sent = b.sent ++ [n] := by
        change HandsOver n b _ at hhands
        unfold HandsOver at hhands
        rw [hb] at hhands
        exact hhands.1
      rw [hsent, List.append_cancel_left_eq, List.singleton_inj, Option.some_inj]

/-- Whatever is failing, a message of a privileged client goes out as it is, nothing but snapshots
of rules and logs is written, and at most one message is handed to the link. While nothing fails,
that is the one which goes down to the device with the number that the topic names; which device
that is, the device store says, and as long as no number is given twice it is any that has it. -/
theorem publish_privileged (g : Gate) (b : Backend) {client : Client}
    (hclient : client.isPrivileged = true) (topic : String) (payload : Bytes) :
    (g.publish b client topic payload).1 = .accept payload ∧
    Writes (Among [.snapshot .down, .log]) b (g.publish b client topic payload).2 ∧
    (∃ handed : Option Message, Hands handed b (g.publish b client topic payload).2 ∧
      (Script.publish g client topic payload).handed b = handed.toList) ∧
    (b.faults = {} → ∀ m : Message,
      ((g.publish b client topic payload).2.sent = b.sent ++ [m] ↔
        ∃ number d, Topic.Canonical.deviceNumber? topic = some number ∧
          b.devices.byNumber number = some d ∧ GoesDown g b topic payload number d m) ∧
      (b.devices.Numbered →
        ((g.publish b client topic payload).2.sent = b.sent ++ [m] ↔
          ∃ number, Topic.Canonical.deviceNumber? topic = some number ∧
            ∃ d ∈ b.devices.records, d.number = number ∧
              GoesDown g b topic payload number d m))) := by
  have hpublish : g.publish b client topic payload =
      (.accept payload, g.forwardDown b client topic payload) := by
    rw [publish, if_pos hclient]
  have hlog (deviceId : String) : Among [.snapshot .down, .log] (DeviceLog.logsKey deviceId) :=
    among_of_names (names_logsKey deviceId) (by decide)
  have hsnapshot (configId : String) :
      Among [.snapshot .down, .log] (Mapping.Snapshot.key .down configId) :=
    among_of_names (names_snapshotKey .down configId) (by decide)
  have hhanded : (Script.publish g client topic payload).handed b =
      (g.downward? b topic payload).toList := by
    rw [Script.handed_publish, if_pos hclient]
  rw [hpublish]
  refine ⟨rfl, forwardDown_writes hlog hsnapshot g b client topic payload,
    ⟨_, g.forwardDown_hands b client topic payload, hhanded⟩, ?_⟩
  intro hb m
  have hstore : (g.forwardDown b client topic payload).sent = b.sent ++ [m] ↔ _ :=
    (sent_eq_iff hb client).trans (downward?_eq_some_iff hb)
  refine ⟨hstore, ?_⟩
  intro hnumbered
  rw [hstore]
  constructor
  · rintro ⟨number, d, hnumber, hd, hdown⟩
    obtain ⟨hmem, hhas⟩ := hnumbered.byNumber_eq_some_iff.mp hd
    exact ⟨number, hnumber, d, hmem, hhas, hdown⟩
  · rintro ⟨number, hnumber, d, hmem, hhas, hdown⟩
    exact ⟨number, d, hnumber, hnumbered.byNumber_eq_some_iff.mpr ⟨hmem, hhas⟩, hdown⟩

/-- A command for the lamp gets to it under the lamp's own topic. -/
theorem publish_privileged_command :
    Client.isPrivileged ⟨"p", "plugin"⟩ = true ∧ commandLamp.faults = {} ∧
    (lampGate.publish commandLamp ⟨"p", "plugin"⟩ "devices/command/n1/7" [72, 105]).1 =
      .accept [72, 105] ∧
    ∃ d, commandLamp.devices.byNumber "n1" = some d ∧
      GoesDown lampGate commandLamp "devices/command/n1/7" [72, 105] "n1" d
        ⟨"v/xn1/{unit}", [72, 105]⟩ := by
  have hclient : Client.isPrivileged ⟨"p", "plugin"⟩ = true := by decide
  have hfaults : commandLamp.faults = {} := by decide +kernel
  obtain ⟨haccept, _, _, hsent⟩ :=
    publish_privileged lampGate commandLamp hclient "devices/command/n1/7" [72, 105]
  have hdown : (lampGate.publish commandLamp ⟨"p", "plugin"⟩ "devices/command/n1/7"
      [72, 105]).2.sent = commandLamp.sent ++ [⟨"v/xn1/{unit}", [72, 105]⟩] := by
    decide +kernel
  obtain ⟨number, d, hnumber, hd, hgoes⟩ := (hsent hfaults _).1.mp hdown
  have hn1 : Topic.Canonical.deviceNumber? "devices/command/n1/7" = some "n1" := by
    decide +kernel
  cases hn1.symm.trans hnumber
  exact ⟨hclient, hfaults, haccept, d, hd, hgoes⟩

end Gate

end DeviceGateway
