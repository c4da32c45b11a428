import DeviceGateway.DeviceLog.Sink
import DeviceGateway.Identity
import DeviceGateway.Mapping.Snapshot
/-!
What the keys of the key-value store are for. The keys of each purpose begin alike, and no beginning
is part of another, so a key serves one purpose at most.
-/
namespace DeviceGateway

inductive Purpose where
  | voucher
  | binding
  | snapshot (direction : Direction)
  | policy
  | log
deriving DecidableEq, Repr

namespace Purpose

def opening : Purpose → String
  | .voucher => "\x7b\"username\":\""
  | .binding => "client_id_binding:"
  | .snapshot direction => "topicmap:" ++ direction.name ++ ":"
  | .policy => "devdebug:cfg:"
  | .log => "devdebug:logs:"

def Names (p : Purpose) (key : String) : Prop := p.opening.toList <+: key.toList

theorem names_of_append (p : Purpose) (rest : String) : p.Names (p.opening ++ rest) := by
  unfold Names
  rw [String.toList_append]
  exact List.prefix_append _ _

theorem names_voucher (username password : String) :
    Purpose.voucher.Names (DeviceGateway.voucher username password) := by
  unfold DeviceGateway.voucher
  split
  · rw [String.append_assoc]
    exact names_of_append .voucher _
  · rw [String.append_assoc, String.append_assoc, String.append_assoc]
    exact names_of_append .voucher _

theorem names_bindingKey (clientId : String) :
    Purpose.binding.Names (Identity.bindingKey clientId) :=
  names_of_append .binding clientId

theorem names_snapshotKey (direction : Direction) (configId : String) :
    (Purpose.snapshot direction).Names (Mapping.Snapshot.key direction configId) :=
  names_of_append (.snapshot direction) configId

theorem names_policyKey (deviceId : String) : Purpose.policy.Names (DeviceLog.policyKey deviceId) :=
  names_of_append .policy deviceId

theorem names_logsKey (deviceId : String) : Purpose.log.Names (DeviceLog.logsKey deviceId) :=
  names_of_append .log deviceId

theorem opening_inj {p q : Purpose} (h : p.opening.toList <+: q.opening.toList) : p = q := by
  cases p with
  | snapshot d => cases d <;> cases q with
    | snapshot e => cases e <;> revert h <;> decide
    | _ => revert h; decide
  | _ => cases q with
    | snapshot e => cases e <;> revert h <;> decide
    | _ => revert h; decide

theorem eq_of_names {p q : Purpose} {key : String} (hp : p.Names key) (hq : q.Names key) :
    p = q := by
  rcases List.prefix_or_prefix_of_prefix hp hq with h | h
  · exact opening_inj h
  · exact (opening_inj h).symm

def Among (purposes : List Purpose) (key : String) : Prop := ∃ p ∈ purposes, p.Names key

theorem among_of_names {purposes : List Purpose} {p : Purpose} {key : String} (hk : p.Names key)
    (hp : p ∈ purposes) : Among purposes key :=
  ⟨p, hp, hk⟩

theorem not_among {purposes : List Purpose} {q : Purpose} {key : String} (hq : q.Names key)
    (h : q ∉ purposes) : ¬ Among purposes key := by
  rintro ⟨p, hp, hk⟩
  exact h (eq_of_names hk hq ▸ hp)

theorem snapshotKey_inj {d d' : Direction} {c c' : String}
    (h : Mapping.Snapshot.key d c = Mapping.Snapshot.key d' c') : d = d' ∧ c = c' := by
  have hp : Purpose.snapshot d = Purpose.snapshot d' :=
    eq_of_names (names_snapshotKey d c) (h ▸ names_snapshotKey d' c')
  cases hp
  exact ⟨rfl, (String.append_right_inj _).mp h⟩

theorem mem_snapshotKeys {d : Direction} {c c' : String} :
    Mapping.Snapshot.key d c ∈ [Mapping.Snapshot.key .up c', Mapping.Snapshot.key .down c'] ↔
      c = c' := by
  constructor
  · intro h
    rcases List.mem_cons.mp h with h | h
    · exact (snapshotKey_inj h).2
    · exact (snapshotKey_inj (List.mem_singleton.mp h)).2
  · rintro rfl
    cases d with
    | up => exact List.mem_cons_self
    | down => exact List.mem_cons_of_mem _ List.mem_cons_self

end Purpose

theorem Identity.bindingKey_inj {c d : String} (h : bindingKey c = bindingKey d) : c = d :=
  (String.append_right_inj _).mp h

end DeviceGateway
