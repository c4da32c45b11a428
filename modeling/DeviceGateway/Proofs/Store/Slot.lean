import DeviceGateway.Proofs.Store.Request
import DeviceGateway.Proofs.Store.Typing
/-!
Where the gateway keeps things in the key-value store: a slot for each kind of thing and for each id
that it is kept under. Slots have keys of their own, but for those of vouchers, and whatever the
gateway does at a slot fits the type that its key has.
-/
namespace DeviceGateway

open Purpose

/-- A thing to be kept, with the ids that its key is made of. -/
inductive Slot where
  | voucher (username password : String)
  | binding (clientId : String)
  | snapshot (direction : Direction) (configId : String)
  | policy (deviceId : String)
  | log (deviceId : String)
deriving DecidableEq, Repr

namespace Slot

def key : Slot → String
  | .voucher username password => DeviceGateway.voucher username password
  | .binding clientId => Identity.bindingKey clientId
  | .snapshot direction configId => Mapping.Snapshot.key direction configId
  | .policy deviceId => DeviceLog.policyKey deviceId
  | .log deviceId => DeviceLog.logsKey deviceId

def purpose : Slot → Purpose
  | .voucher _ _ => .voucher
  | .binding _ => .binding
  | .snapshot direction _ => .snapshot direction
  | .policy _ => .policy
  | .log _ => .log

theorem names_key (s : Slot) : s.purpose.Names s.key := by
  cases s with
  | voucher username password => exact names_voucher username password
  | binding clientId => exact names_bindingKey clientId
  | snapshot direction configId => exact names_snapshotKey direction configId
  | policy deviceId => exact names_policyKey deviceId
  | log deviceId => exact names_logsKey deviceId

theorem purpose_eq_of_key {s t : Slot} (h : s.key = t.key) : s.purpose = t.purpose :=
  eq_of_names s.names_key (h ▸ t.names_key)

/-- But for vouchers, no key is for two ids. -/
theorem eq_of_key {s t : Slot} (h : s.key = t.key) (hs : s.purpose ≠ .voucher) : s = t := by
  have hpurpose := purpose_eq_of_key h
  cases s with
  | voucher username password => exact absurd rfl hs
  | binding clientId =>
      cases t with
      | binding other => exact congrArg _ (Identity.bindingKey_inj h)
      | voucher | snapshot | policy | log => cases hpurpose
  | snapshot direction configId =>
      cases t with
      | snapshot direction' other =>
          obtain ⟨rfl, rfl⟩ := snapshotKey_inj h
          rfl
      | voucher | binding | policy | log => cases hpurpose
  | policy deviceId =>
      cases t with
      | policy other => exact congrArg _ ((String.append_right_inj _).mp h)
      | voucher | binding | snapshot | log => cases hpurpose
  | log deviceId =>
      cases t with
      | log other => exact congrArg _ ((String.append_right_inj _).mp h)
      | voucher | binding | snapshot | policy => cases hpurpose

/-- Nothing is escaped in a voucher, so a name may spell another name with its password. -/
example : (Slot.voucher "a\",\"password\":\"b" "").key = (Slot.voucher "a" "b").key := by decide

end Slot

theorem Purpose.names_log_iff {key : String} :
    Purpose.log.Names key ↔ ∃ deviceId, key = DeviceLog.logsKey deviceId := by
  constructor
  · rintro ⟨rest, hrest⟩
    refine ⟨.ofList rest, String.toList_inj.mp ?_⟩
    change key.toList = (Purpose.log.opening ++ String.ofList rest).toList
    rw [String.toList_append, String.toList_ofList, hrest]
  · rintro ⟨deviceId, rfl⟩
    exact names_logsKey deviceId

/-- What the gateway does with the key-value store: it reads and sets the strings of slots, forgets
the snapshots of a configuration, and puts items on logs and reads them. -/
inductive Access where
  | get (s : Slot) (text : s.purpose ≠ .log)
  | set (s : Slot) (text : s.purpose ≠ .log) (value : String) (ttl : Option Nat)
  | forget (configId : String)
  | push (deviceId value : String) (maxItems : Nat) (ttl : Option Nat)
  | list (deviceId : String)

namespace Access

open KeyValue (Request)

def request : Access → Request
  | .get s _ => .get s.key
  | .set s _ value ttl => .set s.key value ttl
  | .forget configId =>
    .delete [Mapping.Snapshot.key .up configId, Mapping.Snapshot.key .down configId]
  | .push deviceId value maxItems ttl => .push (DeviceLog.logsKey deviceId) value maxItems ttl
  | .list deviceId => .list (DeviceLog.logsKey deviceId)

end Access

namespace Backend

variable {α : Type} {b : Backend}

/-- An operation that fits the type of its key never says that it does not. -/
theorem attempt_ne_wrongType {op : KeyValue.Op} {keys : List String} {answer : Option α}
    (h : ∃ a, answer = some a) : b.attempt op keys answer ≠ .error .wrongType := by
  obtain ⟨a, rfl⟩ := h
  unfold attempt
  split <;> nofun

theorem settle_fst_ne {e : StoreError} {result : Except StoreError Backend}
    (h : result ≠ .error e) : (b.settle result).1 ≠ .error e := by
  cases result with
  | ok after => nofun
  | error e' =>
      intro heq
      cases heq
      exact h rfl

theorem settle_snd_keeps {I : Backend → Prop} {result : Except StoreError Backend} (hb : I b)
    (h : ∀ after, result = .ok after → I after) : I (b.settle result).2 := by
  cases result with
  | ok after => exact h after rfl
  | error e => exact hb

end Backend

theorem KeyValue.Typed.items? {kv : KeyValue} (h : kv.Typed) {key : String}
    (hkey : Purpose.log.Names key) : ∃ items, kv.items? key = some items := by
  unfold KeyValue.items?
  split
  · exact ⟨_, rfl⟩
  · exact ⟨_, rfl⟩
  · next hfind => exact nomatch (h _ _ hfind).mpr hkey

open Backend

/-- Where keys keep their types, so they do after every access, and none meets a key of the wrong
type. -/
theorem Access.serve_typed {b : Backend} (hb : b.keyValue.Typed) (a : Access) :
    (b.serve a.request).1 ≠ .error .wrongType ∧ (b.serve a.request).2.keyValue.Typed := by
  cases a with
  | get s text =>
      exact ⟨attempt_ne_wrongType (hb.text? (not_log s.names_key text)), hb⟩
  | set s text value ttl =>
      refine ⟨settle_fst_ne (attempt_ne_wrongType ⟨_, rfl⟩), ?_⟩
      refine settle_snd_keeps (I := fun b => b.keyValue.Typed) hb ?_
      intro after h
      rw [set_eq_ok h]
      exact hb.set (not_log s.names_key text) value ttl
  | forget configId =>
      refine ⟨settle_fst_ne (attempt_ne_wrongType ⟨_, rfl⟩), ?_⟩
      refine settle_snd_keeps (I := fun b => b.keyValue.Typed) hb ?_
      intro after h
      obtain ⟨_, heq⟩ := attempt_eq_ok h
      cases heq
      exact hb.delete _
  | push deviceId value maxItems ttl =>
      have hkey : Purpose.log.Names (DeviceLog.logsKey deviceId) := names_logsKey deviceId
      obtain ⟨items, hitems⟩ := hb.items? hkey
      obtain ⟨kv, hkv⟩ : ∃ kv,
          b.keyValue.push? (DeviceLog.logsKey deviceId) value maxItems ttl = some kv := by
        unfold KeyValue.push?
        rw [hitems]
        exact ⟨_, rfl⟩
      refine ⟨settle_fst_ne (attempt_ne_wrongType ⟨_, by rw [hkv]; rfl⟩), ?_⟩
      refine settle_snd_keeps (I := fun b => b.keyValue.Typed) hb ?_
      intro after h
      obtain ⟨_, heq⟩ := attempt_eq_ok h
      rw [hkv] at heq
      cases heq
      exact hb.push hkey hkv
  | list deviceId =>
      exact ⟨attempt_ne_wrongType (hb.items? (names_logsKey deviceId)), hb⟩

end DeviceGateway
