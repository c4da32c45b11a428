import DeviceGateway.Proofs.Gate.Course
/-!
Keys keep their types: the keys of logs hold lists and all other keys strings, throughout any run.
-/
namespace DeviceGateway

open Backend Purpose

namespace KeyValue

def Content.isList : Content → Bool
  | .list _ => true
  | .text _ => false

/-- Nothing but logs are lists. -/
def Typed (kv : KeyValue) : Prop :=
  ∀ key entry, kv.find? key = some entry →
    (entry.content.isList = true ↔ Purpose.log.Names key)

variable {kv kv' : KeyValue} {key : String}

theorem typed_empty : Typed {} := fun _ _ h => nomatch h

namespace Typed

theorem text? (h : kv.Typed) (hkey : ¬ Purpose.log.Names key) :
    ∃ value, kv.text? key = some value := by
  unfold KeyValue.text?
  split
  · exact ⟨_, rfl⟩
  · exact ⟨_, rfl⟩
  · next hfind => exact absurd ((h _ _ hfind).mp rfl) hkey

theorem put (h : kv.Typed) {entry : Entry}
    (hentry : entry.content.isList = true ↔ Purpose.log.Names key) : (kv.put key entry).Typed := by
  intro other e hfind
  rw [find?_put] at hfind
  split at hfind
  · next heq =>
    cases hfind
    rw [heq]
    exact hentry
  · exact h other e hfind

theorem set (h : kv.Typed) (hkey : ¬ Purpose.log.Names key) (value : String) (ttl : Option Nat) :
    (kv.set key value ttl).Typed :=
  h.put ⟨nofun, fun hlog => absurd hlog hkey⟩

theorem push (h : kv.Typed) (hkey : Purpose.log.Names key) {value : String} {maxItems : Nat}
    {ttl : Option Nat} (hpush : kv.push? key value maxItems ttl = some kv') : kv'.Typed := by
  obtain ⟨items, _, rfl⟩ := Option.map_eq_some_iff.mp hpush
  exact h.put ⟨fun _ => hkey, fun _ => rfl⟩

theorem of_find? (h : kv.Typed)
    (hfind : ∀ key, kv'.find? key = kv.find? key ∨ kv'.find? key = none) : kv'.Typed := by
  intro key entry hentry
  rcases hfind key with heq | heq
  · exact h key entry (heq ▸ hentry)
  · rw [heq] at hentry
    cases hentry

theorem delete (h : kv.Typed) (keys : List String) : (kv.delete keys).Typed := by
  apply h.of_find?
  intro key
  rw [find?_delete]
  split
  · exact .inr rfl
  · exact .inl rfl

end Typed

end KeyValue

theorem DeviceLog.Pushed.typed {b after : Backend} {deviceId : String}
    (h : Pushed b deviceId after) (hb : b.keyValue.Typed) : after.keyValue.Typed := by
  obtain ⟨raw, maxItems, ttl, kv, hkv, rfl⟩ := h
  exact hb.push (names_logsKey deviceId) hkv

/-- What sets strings at keys that are for something else than logs keeps all types. -/
theorem Backend.SameDone.typed {P : String → Prop} {b b' c c' : Backend}
    (h : SameDone P b b' c c') (hP : ∀ key, P key → ¬ Purpose.log.Names key)
    (hb : b.keyValue.Typed) : c.keyValue.Typed :=
  h.keeps (I := fun b => b.keyValue.Typed) hb (fun hkey ih => ih.set (hP _ hkey)) id

theorem Purpose.not_log {p : Purpose} {key : String} (h : p.Names key) (hp : p ≠ .log) :
    ¬ Purpose.log.Names key :=
  fun hlog => hp (eq_of_names h hlog)

variable {b : Backend}

theorem Effect.run_typed {lifetime : Nat} (hb : b.keyValue.Typed) (x : Effect) :
    (x.run lifetime b).keyValue.Typed := by
  cases x with
  | lookUp username password =>
      refine (Identity.deviceByVoucher_congr .refl rfl).2.typed ?_ hb
      rintro key rfl
      exact not_log (names_voucher username password) (by decide)
  | fetch direction configId =>
      refine (Mapping.Snapshot.get_congr lifetime .refl rfl).2.typed ?_ hb
      rintro key rfl
      exact not_log (names_snapshotKey direction configId) (by cases direction <;> decide)
  | bind clientId deviceId =>
      rw [run_bind]
      split
      · exact hb
      · exact hb.set (not_log (names_bindingKey clientId) (by decide)) deviceId none
  | send topic payload =>
      rw [run_send]
      split
      · exact hb
      · exact hb
  | count c => exact hb
  | note deviceId e =>
      change (b.note deviceId e).keyValue.Typed
      rcases b.note_leaves deviceId e with h | h
      · rw [h]
        exact hb
      · exact h.typed hb

theorem Step.apply_typed (g : Gate) (hb : b.keyValue.Typed) (x : Step) :
    (x.apply g b).keyValue.Typed := by
  cases x with
  | event hooks e =>
      exact Pipeline.handle_invariant (I := fun b => b.keyValue.Typed) ⟨hooks, g⟩
        (fun _ x hb => Effect.run_typed hb x) hb e
  | setFaults | setClock | putDevice | addRule | removeRule => exact hb
  | lapse key => exact hb.of_find? (KeyValue.find?_lapse b.keyValue key)
  | lookUp configId direction => exact Effect.run_typed hb (.fetch direction configId)
  | invalidate configId =>
      simp only [Step.apply, Mapping.Snapshot.invalidate, delete_eq]
      split
      · exact hb
      · split
        · exact hb
        · exact hb.delete _
  | setPolicy deviceId policy =>
      simp only [Step.apply, DeviceLog.setPolicy, set_eq]
      split
      · exact hb
      · split
        · exact hb
        · exact hb.set (not_log (names_policyKey deviceId) (by decide)) _ none
  | writeLog deviceId entry =>
      change (DeviceLog.write b deviceId entry).2.keyValue.Typed
      rcases DeviceLog.write_leaves b deviceId entry with h | h
      · rw [h]
        exact hb
      · exact h.typed hb

theorem run_typed (g : Gate) (hb : b.keyValue.Typed) (steps : List Step) :
    (run g b steps).keyValue.Typed := by
  induction steps generalizing b with
  | nil => exact hb
  | cons x rest ih => exact ih (x.apply_typed g hb)

end DeviceGateway
