import DeviceGateway.Gate
import DeviceGateway.Proofs.Store.Frame
/-!
How a lookup by voucher can end, and what becomes of a client that asks to be let in.
-/
namespace DeviceGateway

/-- What stands for a device, under its voucher and for each client that is bound to it. -/
def deviceEntry (d : Device) : KeyValue.Entry := ⟨.text d.id, none⟩

theorem ttl?_deviceEntry {kv : KeyValue} {key : String} {d : Option Device}
    (h : kv.find? key = d.map deviceEntry) : kv.ttl? key = none := by
  unfold KeyValue.ttl?
  rw [h]
  cases d <;> rfl

theorem text?_deviceEntry {kv : KeyValue} {key : String} {d : Option Device}
    (h : kv.find? key = d.map deviceEntry) : kv.text? key = some (d.map (·.id)) := by
  unfold KeyValue.text?
  rw [h]
  cases d <;> rfl

namespace Identity

/-- The ends of a lookup by voucher: what it answers and the backend that it leaves. -/
inductive Lookup (b : Backend) (v : String) : Except StoreError (Option Device) → Backend → Prop
  | failed (e : StoreError) : Lookup b v (.error e) b
  | missed : Lookup b v (.ok none) b
  | kept {id : String} {d : Device} : b.keyValue.text? v = some (some id) →
      b.devices.byId id = some d → Lookup b v (.ok (some d)) b
  | stored {d : Device} : b.devices.byVoucher v = some d →
      Lookup b v (.ok (some d)) (b.wrote (.set v d.id none) (b.keyValue.set v d.id none))

theorem ask_eq_ok {b : Backend} {q : Devices.Query} {d : Option Device} (h : b.ask q = .ok d) :
    b.devices.find? q = d := by
  unfold Backend.ask Backend.device at h
  split at h
  · cases h
  · split at h
    · cases h
    · exact Except.ok.inj h

theorem boundConfig_eq {b : Backend} (h : b.StoresWork) (deviceId : String) :
    boundConfig b deviceId = .ok ((b.devices.byId deviceId).bind Device.config?) := by
  unfold boundConfig
  rw [h.ask_eq]
  rfl

theorem storedDevice_lookup (b : Backend) (v : String) :
    Lookup b v (storedDevice b v).1 (storedDevice b v).2 := by
  unfold storedDevice
  split
  · exact .failed _
  · exact .missed
  · next d hd =>
    split
    · exact .failed _
    · next hs =>
      rw [Backend.set_eq_ok hs]
      exact .stored (ask_eq_ok hd)

theorem deviceByVoucher_lookup (b : Backend) (v : String) :
    Lookup b v (deviceByVoucher b v).1 (deviceByVoucher b v).2 := by
  unfold deviceByVoucher
  split
  · exact .failed _
  · exact storedDevice_lookup b v
  · next id hg =>
    split
    · exact .failed _
    · next hd => exact .kept (Backend.attempt_eq_ok hg).2 (ask_eq_ok hd)
    · exact storedDevice_lookup b v

theorem Lookup.frame {b b' : Backend} {v : String} {answer : Except StoreError (Option Device)}
    (h : Lookup b v answer b') {P : String → Prop} {L : Prop} (hP : P v) :
    Backend.Frame P L b b' := by
  cases h with
  | failed e => exact .refl
  | missed => exact .refl
  | kept _ _ => exact .refl
  | stored _ => exact Backend.wrote_set_frame hP _ none

/-- The device that a lookup by voucher finds, if it finds one. -/
def resolve (b : Backend) (v : String) : Option Device :=
  match (deviceByVoucher b v).1 with
  | .ok found => found
  | .error _ => none

theorem resolve_eq {b b' : Backend} {v : String} {found : Option Device}
    (h : deviceByVoucher b v = (.ok found, b')) : resolve b v = found := by
  simp only [resolve, h]

theorem lookup_of_eq {b b' : Backend} {v : String} {answer : Except StoreError (Option Device)}
    (h : deviceByVoucher b v = (answer, b')) : Lookup b v answer b' := by
  have hl := deviceByVoucher_lookup b v
  rw [h] at hl
  exact hl

end Identity

namespace Gate

def authEntry (client : Client) (username : String) : DeviceLog.Entry :=
  ({ heading := .na, action := .auth, outcome := .ok } : DeviceLog.Entry)
    |>.withClient client.id username

/-- The ends of an auth under a name that is not privileged. -/
inductive Admission (b : Backend) (client : Client) (username password : String) :
    Except Refusal Unit → Backend → Prop
  | turnedAway {answer : Except StoreError (Option Device)} {found after : Backend}
      (refusal : Refusal) :
      Identity.Lookup b (voucher username password) answer found →
      (∀ d, answer ≠ .ok (some d)) →
      after = noteRefusedAuth (found.count .authDenied) client username password refusal →
      Admission b client username password (.error refusal) after
  | unbound {d : Device} {found after : Backend} (e : StoreError) :
      Identity.Lookup b (voucher username password) (.ok (some d)) found →
      after = (found.count .authDenied).note d.id (authEntry client username) →
      Admission b client username password (.error (.ofStore e)) after
  | bound {d : Device} {found after : Backend} :
      Identity.Lookup b (voucher username password) (.ok (some d)) found →
      Identity.resolve b (voucher username password) = some d →
      after = ((found.wrote (.set (Identity.bindingKey client.id) d.id none)
        (found.keyValue.set (Identity.bindingKey client.id) d.id none)).count .authOk).note d.id
          (authEntry client username) →
      Admission b client username password (.ok ()) after

theorem authenticate_admission (g : Gate) (b : Backend) (client : Client)
    {username : String} (password : String) (hu : isPrivileged username = false) :
    Admission b client username password (g.authenticate b client username password).1
      (g.authenticate b client username password).2 := by
  simp only [authenticate, hu, Bool.false_eq_true, if_false]
  split
  · next hd => exact .turnedAway _ (Identity.lookup_of_eq hd) (fun d h => by cases h) rfl
  · next hd => exact .turnedAway _ (Identity.lookup_of_eq hd) (fun d h => by cases h) rfl
  · next d found hd =>
    have hl := Identity.lookup_of_eq hd
    unfold bindTo
    dsimp only
    split
    · exact .unbound _ hl rfl
    · next hb =>
      have hb' := Backend.set_eq_ok (show found.set _ _ _ = .ok _ from hb)
      subst hb'
      exact .bound hl (Identity.resolve_eq hd) rfl

end Gate

end DeviceGateway
