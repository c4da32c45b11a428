import DeviceGateway.Proofs.Gate.Course
/-!
Logging interferes with nothing. Backends that differ at most under the keys of logs and policies,
whatever is there, answer a run alike, send and count the same, write the same under all other keys,
and in the end differ in no more than that.
-/
namespace DeviceGateway

open Backend Purpose

namespace DeviceLog

/-- How the keys of logs and of policies begin. -/
def area : String := "devdebug:"

/-- Whether a key is set aside for logs and policies. -/
def Owns (key : String) : Prop := area.toList <+: key.toList

instance : DecidablePred Owns := fun key =>
  inferInstanceAs (Decidable (area.toList <+: key.toList))

theorem owns_policyKey (deviceId : String) : Owns (policyKey deviceId) :=
  List.IsPrefix.trans (by decide) (names_policyKey deviceId)

theorem owns_logsKey (deviceId : String) : Owns (logsKey deviceId) :=
  List.IsPrefix.trans (by decide) (names_logsKey deviceId)

end DeviceLog

theorem Purpose.not_owns {p : Purpose} {key : String} (h : p.Names key) (hpolicy : p ≠ .policy)
    (hlog : p ≠ .log) : ¬ DeviceLog.Owns key := by
  intro howns
  have hprefix := List.prefix_or_prefix_of_prefix h howns
  cases p with
  | voucher | binding => revert hprefix; decide
  | snapshot direction => cases direction <;> revert hprefix <;> decide
  | policy => exact hpolicy rfl
  | log => exact hlog rfl

def KeyValue.Write.keys : KeyValue.Write → List String
  | .set key _ _ => [key]
  | .delete keys => keys
  | .push key _ _ _ => [key]

/-- Whether a write is to logs and policies alone. -/
def KeyValue.Write.Logs (w : KeyValue.Write) : Prop := ∀ key ∈ w.keys, DeviceLog.Owns key

instance : DecidablePred KeyValue.Write.Logs := fun w =>
  inferInstanceAs (Decidable (∀ key ∈ w.keys, DeviceLog.Owns key))

/-- The writes so far to other keys. -/
def Backend.otherWrites (b : Backend) : List KeyValue.Write :=
  b.journal.filter fun w => ¬ w.Logs

/-- Backends that differ at most in what is kept of logs and policies. -/
structure Backend.SameButLogs (b b' : Backend) : Prop where
  keys : ∀ key, ¬ DeviceLog.Owns key → b'.keyValue.find? key = b.keyValue.find? key
  devices : b'.devices = b.devices
  rules : b'.rules = b.rules
  sent : b'.sent = b.sent
  otherWrites : b'.otherWrites = b.otherWrites
  tally : b'.tally = b.tally
  clock : b'.clock = b.clock
  faults : b'.faults = b.faults

namespace Backend

variable {b b' b'' : Backend}

theorem otherWrites_wrote (b : Backend) (w : KeyValue.Write) (kv : KeyValue) :
    (b.wrote w kv).otherWrites = b.otherWrites ++ if w.Logs then [] else [w] := by
  unfold otherWrites wrote
  rw [List.filter_append]
  by_cases h : w.Logs
  · simp [h]
  · simp [h]

namespace SameButLogs

theorem refl (b : Backend) : SameButLogs b b := ⟨fun _ _ => rfl, rfl, rfl, rfl, rfl, rfl, rfl, rfl⟩

theorem symm (h : SameButLogs b b') : SameButLogs b' b :=
  ⟨fun key hkey => (h.keys key hkey).symm, h.devices.symm, h.rules.symm, h.sent.symm,
    h.otherWrites.symm, h.tally.symm, h.clock.symm, h.faults.symm⟩

theorem trans (h : SameButLogs b b') (h' : SameButLogs b' b'') : SameButLogs b b'' :=
  ⟨fun key hkey => (h'.keys key hkey).trans (h.keys key hkey), h'.devices.trans h.devices,
    h'.rules.trans h.rules, h'.sent.trans h.sent, h'.otherWrites.trans h.otherWrites,
    h'.tally.trans h.tally, h'.clock.trans h.clock, h'.faults.trans h.faults⟩

theorem parts (h : SameButLogs b b') : SameParts b b' :=
  ⟨fun _ hk => absurd trivial hk, fun hL => absurd trivial hL, h.devices,
    congrArg RuleStore.rules h.rules, congrArg RuleStore.selects h.rules, h.clock, h.faults⟩

theorem wrote (h : SameButLogs b b') (w : KeyValue.Write) {kv kv' : KeyValue}
    (hkeys : ∀ key, ¬ DeviceLog.Owns key → kv'.find? key = kv.find? key) :
    SameButLogs (b.wrote w kv) (b'.wrote w kv') :=
  ⟨hkeys, h.devices, h.rules, h.sent,
    by rw [otherWrites_wrote, otherWrites_wrote, h.otherWrites], h.tally, h.clock, h.faults⟩

theorem done {P : String → Prop} {c c' : Backend} (h : SameButLogs b b')
    (hdone : SameDone P b b' c c') : SameButLogs c c' := by
  induction hdone with
  | nothing => exact h
  | set _ value ttl _ ih =>
      refine ih.wrote _ ?_
      intro other hother
      rw [KeyValue.find?_set, KeyValue.find?_set, ih.keys other hother]
  | asked _ ih =>
      exact ⟨ih.keys, ih.devices, by rw [ih.rules], ih.sent, ih.otherWrites, ih.tally, ih.clock,
        ih.faults⟩

theorem of_pushed {deviceId : String} (h : DeviceLog.Pushed b deviceId b') : SameButLogs b b' := by
  have howns := DeviceLog.owns_logsKey deviceId
  obtain ⟨raw, maxItems, ttl, kv, hkv, rfl⟩ := h
  refine ⟨?_, rfl, rfl, rfl, ?_, rfl, rfl, rfl⟩
  · rintro key hkey
    refine KeyValue.find?_push hkv ?_
    rintro rfl
    exact hkey howns
  · rw [otherWrites_wrote, if_pos, List.append_nil]
    intro key hkey
    rw [List.mem_singleton.mp hkey]
    exact howns

theorem note (b : Backend) (deviceId : String) (e : DeviceLog.Entry) :
    SameButLogs b (b.note deviceId e) := by
  rcases b.note_leaves deviceId e with h | h
  · rw [h]
    exact .refl b
  · exact of_pushed h

theorem write (b : Backend) (deviceId : String) (e : DeviceLog.Entry) :
    SameButLogs b (DeviceLog.write b deviceId e).2 := by
  rcases DeviceLog.write_leaves b deviceId e with h | h
  · rw [h]
    exact .refl b
  · exact of_pushed h

theorem run (lifetime : Nat) (h : SameButLogs b b') (x : Effect) :
    SameButLogs (x.run lifetime b) (x.run lifetime b') := by
  cases x with
  | lookUp username password =>
      have hkey := h.keys _ (not_owns (names_voucher username password) nofun nofun)
      exact h.done (Identity.deviceByVoucher_congr h.parts hkey).2
  | fetch direction configId =>
      have hkey := h.keys _ (not_owns (names_snapshotKey direction configId) nofun nofun)
      exact h.done (Mapping.Snapshot.get_congr lifetime h.parts hkey).2
  | bind clientId deviceId =>
      rw [Effect.run_bind, Effect.run_bind, h.parts.fails_eq]
      split
      · exact h
      · exact h.done (P := fun _ => True) (.set trivial _ _ .nothing)
  | send topic payload =>
      rw [Effect.run_send, Effect.run_send, h.faults]
      split
      · exact h
      · exact ⟨h.keys, h.devices, h.rules, by rw [h.sent], h.otherWrites, h.tally, h.clock, rfl⟩
  | count c =>
      exact ⟨h.keys, h.devices, h.rules, h.sent, h.otherWrites, congrArg (Tally.bump · c) h.tally,
        h.clock, h.faults⟩
  | note deviceId e => exact (note b deviceId e).symm.trans (h.trans (note b' deviceId e))

/-- No client can tell from its own events what is logged. -/
theorem alike (lifetime : Nat) (clientId : String) :
    Course.Alike lifetime clientId SameButLogs where
  reply := by
    intro b b' h q _
    cases q with
    | linkDown => exact congrArg Faults.forwarder h.faults
    | fails op key => exact h.parts.fails_eq op [key]
    | device q => exact h.parts.ask_eq q
    | bound clientId =>
        exact Identity.boundDevice_congr h.parts
          (h.keys _ (not_owns (names_bindingKey clientId) nofun nofun))
    | found username password =>
        exact Identity.foundId_congr h.parts
          (h.keys _ (not_owns (names_voucher username password) nofun nofun))
    | rules direction configId =>
        exact (Mapping.Snapshot.get_congr lifetime h.parts
          (h.keys _ (not_owns (names_snapshotKey direction configId) nofun nofun))).1
  run h x _ := h.run lifetime x

theorem apply (g : Gate) (h : SameButLogs b b') (x : Step) :
    SameButLogs (x.apply g b) (x.apply g b') := by
  cases x with
  | event hooks e => exact (Pipeline.handle_alike ⟨hooks, g⟩ (alike _ _) h).2
  | setFaults faults =>
      exact ⟨h.keys, h.devices, h.rules, h.sent, h.otherWrites, h.tally, h.clock, rfl⟩
  | setClock now =>
      exact ⟨h.keys, h.devices, h.rules, h.sent, h.otherWrites, h.tally, rfl, h.faults⟩
  | lapse key =>
      refine ⟨?_, h.devices, h.rules, h.sent, h.otherWrites, h.tally, h.clock, h.faults⟩
      intro other hother
      exact KeyValue.find?_lapse_congr (h.keys other hother) key
  | putDevice device =>
      exact ⟨h.keys, congrArg (Devices.put · device) h.devices, h.rules, h.sent, h.otherWrites,
        h.tally, h.clock, h.faults⟩
  | addRule rule =>
      exact ⟨h.keys, h.devices, congrArg (RuleStore.add · rule) h.rules, h.sent, h.otherWrites,
        h.tally, h.clock, h.faults⟩
  | removeRule id =>
      exact ⟨h.keys, h.devices, congrArg (RuleStore.remove · id) h.rules, h.sent, h.otherWrites,
        h.tally, h.clock, h.faults⟩
  | lookUp configId direction => exact h.run g.snapshotLifetime (.fetch direction configId)
  | invalidate configId =>
      simp only [Step.apply, Mapping.Snapshot.invalidate, delete_eq, h.parts.fails_eq]
      split
      · exact h
      · split
        · exact h
        · refine h.wrote _ ?_
          intro key hkey
          rw [KeyValue.find?_delete, KeyValue.find?_delete, h.keys key hkey]
  | setPolicy deviceId policy =>
      simp only [Step.apply, DeviceLog.setPolicy, set_eq, h.parts.fails_eq]
      split
      · exact h
      · split
        · exact h
        · exact h.done (P := fun _ => True) (.set trivial _ _ .nothing)
  | writeLog deviceId entry =>
      exact (write b deviceId entry).symm.trans (h.trans (write b' deviceId entry))

end SameButLogs

end Backend

def Step.answer? (g : Gate) (b : Backend) : Step → Option Answer
  | .event hooks e => some (Pipeline.handle ⟨hooks, g⟩ b e).1
  | _ => none

def answers (g : Gate) : Backend → List Step → List Answer
  | _, [] => []
  | b, x :: rest => (x.answer? g b).toList ++ answers g (x.apply g b) rest

theorem Backend.SameButLogs.answer?_eq {b b' : Backend} (h : SameButLogs b b') (g : Gate)
    (x : Step) : x.answer? g b' = x.answer? g b := by
  cases x with
  | event hooks e =>
      exact congrArg some (Pipeline.handle_alike ⟨hooks, g⟩ (SameButLogs.alike _ _) h).1
  | _ => rfl

/-- Whatever is kept of logs and policies, and whatever fails on the way, a run gets the same
answers, sends the same messages, counts the same and writes the same to all other keys. It never
makes a difference beyond the logs and policies themselves. -/
theorem run_sameButLogs (g : Gate) {b b' : Backend} (h : SameButLogs b b') (steps : List Step) :
    answers g b' steps = answers g b steps ∧ SameButLogs (run g b steps) (run g b' steps) := by
  induction steps generalizing b b' with
  | nil => exact ⟨rfl, h⟩
  | cons x rest ih =>
      obtain ⟨hanswers, hafter⟩ := ih (h.apply g x)
      refine ⟨?_, hafter⟩
      rw [answers, answers, h.answer?_eq g x, hanswers]

def watchedLamp : Backend :=
  { lampBackend with
    keyValue :=
      lampBackend.keyValue.set (DeviceLog.policyKey "d1") "\x7b\"enabled\":true\x7d" none }

/-- A lamp whose policy is a list and whose log is a text. -/
def muddledLamp : Backend :=
  { lampBackend with
    keyValue := (lampBackend.keyValue.put (DeviceLog.policyKey "d1") ⟨.list ["x"], none⟩).set
      (DeviceLog.logsKey "d1") "x" none }

def lampDay : List Step :=
  [.event [] (.auth ⟨"k", "lamp"⟩ "lamp" "pw"),
    .event [] (.publish ⟨"k", "lamp"⟩ "devices/telemetry/control" [72, 105])]

theorem run_sameButLogs_lamp :
    SameButLogs watchedLamp muddledLamp ∧
      answers lampGate muddledLamp lampDay = answers lampGate watchedLamp lampDay ∧
      SameButLogs (run lampGate watchedLamp lampDay) (run lampGate muddledLamp lampDay) ∧
      (run lampGate watchedLamp lampDay).journal.length = 4 ∧
      (run lampGate muddledLamp lampDay).journal.length = 2 := by
  have hsame : SameButLogs watchedLamp muddledLamp := by
    refine ⟨?_, rfl, rfl, rfl, rfl, rfl, rfl, rfl⟩
    intro key hkey
    have hpolicy : key ≠ DeviceLog.policyKey "d1" := by
      rintro rfl
      exact hkey (DeviceLog.owns_policyKey "d1")
    have hlogs : key ≠ DeviceLog.logsKey "d1" := by
      rintro rfl
      exact hkey (DeviceLog.owns_logsKey "d1")
    simp only [watchedLamp, muddledLamp, KeyValue.find?_set, KeyValue.find?_put, if_neg hpolicy,
      if_neg hlogs]
  obtain ⟨hanswers, hafter⟩ := run_sameButLogs lampGate hsame lampDay
  exact ⟨hsame, hanswers, hafter, by decide +kernel, by decide +kernel⟩

end DeviceGateway
