import DeviceGateway.Gate
import DeviceGateway.Proofs.Store.Frame
/-!
What logging does: nothing, or it puts one entry in front of the log of a device.
-/
namespace DeviceGateway

open Backend

variable {P : String → Prop} {L : Prop}

namespace DeviceLog

/-- Something was put in front of the log of a device. -/
def Pushed (b : Backend) (deviceId : String) (after : Backend) : Prop :=
  ∃ raw maxItems ttl kv, b.keyValue.push? (logsKey deviceId) raw maxItems ttl = some kv ∧
    after = b.wrote (.push (logsKey deviceId) raw maxItems ttl) kv

theorem Pushed.frame {b after : Backend} {deviceId : String} (h : Pushed b deviceId after)
    (hP : P (logsKey deviceId)) : Frame P L b after := by
  obtain ⟨raw, maxItems, ttl, kv, hkv, rfl⟩ := h
  exact wrote_frame hP _ fun other hne => KeyValue.find?_push hkv hne

theorem write_cases (b : Backend) (deviceId : String) (e : Entry) :
    (∃ p kv, policy b deviceId = .ok (some p) ∧
      b.keyValue.push? (logsKey deviceId) (Entry.codec.encode (e.prepared deviceId b.clock p))
        p.maxItems.toInt.toNat (p.logLifetime b.clock.seconds) = some kv ∧
      write b deviceId e = (.ok true, b.wrote (.push (logsKey deviceId)
        (Entry.codec.encode (e.prepared deviceId b.clock p)) p.maxItems.toInt.toNat
        (p.logLifetime b.clock.seconds)) kv)) ∨
    ((write b deviceId e).1 ≠ .ok true ∧ (write b deviceId e).2 = b) := by
  unfold write
  cases policy b deviceId with
  | error err => exact .inr ⟨nofun, rfl⟩
  | ok found =>
      cases found with
      | none => exact .inr ⟨nofun, rfl⟩
      | some p =>
          dsimp only
          split
          · exact .inr ⟨nofun, rfl⟩
          · next hpush =>
            obtain ⟨kv, hkv, rfl⟩ := Option.map_eq_some_iff.mp (attempt_eq_ok hpush).2
            exact .inl ⟨p, kv, rfl, hkv, rfl⟩

theorem write_leaves (b : Backend) (deviceId : String) (e : Entry) :
    (write b deviceId e).2 = b ∨ Pushed b deviceId (write b deviceId e).2 := by
  obtain ⟨p, kv, _, hkv, hwrite⟩ | ⟨_, hkept⟩ := write_cases b deviceId e
  · exact .inr ⟨_, _, _, kv, hkv, congrArg Prod.snd hwrite⟩
  · exact .inl hkept

theorem write_frame (b : Backend) {deviceId : String} (e : Entry) (hP : P (logsKey deviceId)) :
    Frame P L b (write b deviceId e).2 := by
  rcases write_leaves b deviceId e with h | h
  · rw [h]
    exact .refl
  · exact h.frame hP

theorem setPolicy_eq_ok {b set : Backend} {deviceId : String} {p : Policy}
    (h : setPolicy b deviceId p = .ok set) :
    deviceId ≠ "" ∧ set = b.wrote (.set (policyKey deviceId) (Policy.codec.encode p) none)
      (b.keyValue.set (policyKey deviceId) (Policy.codec.encode p) none) := by
  unfold setPolicy at h
  split at h
  · cases h
  · next hdevice =>
    refine ⟨fun hempty => hdevice (String.isEmpty_iff.mpr hempty), ?_⟩
    cases hset : b.set (policyKey deviceId) (Policy.codec.encode p) none with
    | error e =>
        rw [hset] at h
        cases h
    | ok after =>
        rw [hset] at h
        cases h
        exact set_eq_ok hset

theorem setPolicy_frame {b b' : Backend} {deviceId : String} {p : Policy}
    (hP : P (policyKey deviceId)) (h : setPolicy b deviceId p = .ok b') : Frame P L b b' := by
  rw [(setPolicy_eq_ok h).2]
  exact wrote_set_frame hP _ _

end DeviceLog

theorem Backend.note_leaves (b : Backend) (deviceId : String) (e : DeviceLog.Entry) :
    b.note deviceId e = b ∨ DeviceLog.Pushed b deviceId (b.note deviceId e) := by
  unfold note
  split
  · exact .inl rfl
  · exact DeviceLog.write_leaves b deviceId e

theorem Backend.note_frame (b : Backend) {deviceId : String} (e : DeviceLog.Entry)
    (hP : P (DeviceLog.logsKey deviceId)) : Frame P L b (b.note deviceId e) := by
  rcases b.note_leaves deviceId e with h | h
  · rw [h]
    exact .refl
  · exact h.frame hP

end DeviceGateway
