import DeviceGateway.Proofs.Identity.Binding
import DeviceGateway.Proofs.Keyed
import Mathlib.Data.List.Induction
/-!
Credentials over whole runs. The id of a device is kept under its voucher for good, and is used as
long as a device of that id is stored. So credentials let a client in if they are the device's, or
were when somebody presented them earlier.
-/
namespace DeviceGateway

open Backend Purpose

namespace Devices

/-- There is one device for each id. -/
def DistinctIds (ds : Devices) : Prop := (ds.records.map (·.id)).Nodup

theorem DistinctIds.put {ds : Devices} (h : ds.DistinctIds) (d : Device) :
    (ds.put d).DistinctIds := by
  unfold DistinctIds at h ⊢
  rw [show (ds.put d).records = d :: ds.records.filter fun e => e.id ≠ d.id from rfl,
    List.map_cons, List.nodup_cons]
  constructor
  · intro hm
    obtain ⟨e, he, hid⟩ := List.mem_map.mp hm
    have hne := (List.mem_filter.mp he).2
    exact (of_decide_eq_true hne) hid
  · exact h.sublist (List.filter_sublist.map _)

theorem voucher_of_byVoucher {ds : Devices} {v : String} {d : Device}
    (h : ds.byVoucher v = some d) : d.voucher = v := key_of_find? h

theorem id_of_byId {ds : Devices} {id : String} {d : Device} (h : ds.byId id = some d) :
    d.id = id := key_of_find? h

theorem byId_of_byVoucher {ds : Devices} (hids : ds.DistinctIds) {v : String} {d : Device}
    (h : ds.byVoucher v = some d) : ds.byId d.id = some d :=
  find?_key hids (List.mem_of_find?_eq_some h)

end Devices

/-- What is kept under a voucher later on: what was, or else, if it was asked for, the device that
had it. -/
def Renewed (b b' : Backend) (asked : Prop) (v : String) : Prop :=
  b'.keyValue.find? v = b.keyValue.find? v ∨
    asked ∧ ∃ d, b.devices.byVoucher v = some d ∧ b'.keyValue.find? v = some (deviceEntry d)

namespace Renewed

variable {b b' b'' : Backend} {asked asked' : Prop} {v : String}

theorem of_frame {purposes : List Purpose} {L : Prop} (hv : Purpose.voucher.Names v)
    (h : Frame (Among purposes) L b b') (hp : Purpose.voucher ∉ purposes) : Renewed b b' asked v :=
  .inl (h.keys _ (not_among hv hp))

theorem mono (h : Renewed b b' asked v) (himp : asked → asked') : Renewed b b' asked' v := by
  rcases h with h | ⟨ha, h⟩
  · exact .inl h
  · exact .inr ⟨himp ha, h⟩

theorem trans (h : Renewed b b' asked v) (hd : b'.devices = b.devices)
    (h' : Renewed b' b'' asked v) : Renewed b b'' asked v := by
  rcases h' with h' | ⟨ha, d, hfound, h'⟩
  · rcases h with h | ⟨ha, d, hfound, h⟩
    · exact .inl (h'.trans h)
    · exact .inr ⟨ha, d, hfound, h'.trans h⟩
  · rw [hd] at hfound
    exact .inr ⟨ha, d, hfound, h'⟩

end Renewed

theorem Identity.Lookup.renewed {b b' : Backend} {w : String}
    {answer : Except StoreError (Option Device)} (h : Lookup b w answer b') (v : String) :
    Renewed b b' (v = w) v := by
  cases h with
  | failed e => exact .inl rfl
  | missed => exact .inl rfl
  | kept _ _ => exact .inl rfl
  | @stored d hd =>
      by_cases hv : v = w
      · subst hv
        refine .inr ⟨rfl, d, hd, ?_⟩
        exact (KeyValue.find?_set _ _ _ _ _).trans (if_pos rfl)
      · exact .inl ((KeyValue.find?_set _ _ _ _ _).trans (if_neg hv))

namespace Gate

variable {v : String} (hv : Purpose.voucher.Names v)
include hv

theorem noteRefusedAuth_renewed (b : Backend) (client : Client) (username password : String)
    (refusal : Refusal) :
    Renewed b (noteRefusedAuth b client username password refusal) (v = voucher username "") v := by
  unfold noteRefusedAuth
  split
  · exact .inl rfl
  · split
    · next d b' hd =>
      have hlookup := Identity.lookup_of_eq hd
      have hdevices : b'.devices = b.devices :=
        (hlookup.frame (P := fun _ => True) (L := False) trivial).devices
      refine (hlookup.renewed v).trans hdevices (.of_frame (L := False) hv
        (note_frame b' _ (among_of_names (names_logsKey d.id) (List.mem_singleton.mpr rfl))) ?_)
      decide
    · next hd => exact (Identity.lookup_of_eq hd).renewed v

/-- An auth keeps devices under the vouchers that it looks up, and changes no other. -/
theorem authenticate_renewed (g : Gate) (b : Backend) (client : Client)
    {username : String} (password : String) (hu : isPrivileged username = false) :
    Renewed b (g.authenticate b client username password).2
      (v = voucher username password ∨ v = voucher username "") v := by
  have hnote (b : Backend) (d : Device) (e : DeviceLog.Entry) {asked : Prop} :
      Renewed b (b.note d.id e) asked v :=
    .of_frame (L := False) hv (note_frame b e (among_of_names (names_logsKey d.id)
      (List.mem_singleton.mpr rfl))) (by decide)
  have ha := authenticate_admission g b client password hu
  generalize g.authenticate b client username password = result at ha ⊢
  obtain ⟨answer, after⟩ := result
  dsimp only at ha ⊢
  have hdevices {found : Backend} {answer : Except StoreError (Option Device)}
      (hl : Identity.Lookup b (voucher username password) answer found) :
      found.devices = b.devices := (hl.frame (P := fun _ => True) (L := False) trivial).devices
  cases ha with
  | @turnedAway _ found _ refusal hl _ hafter =>
      rw [hafter]
      have hrest := noteRefusedAuth_renewed hv (found.count .authDenied) client username password
        refusal
      exact ((hl.renewed v).mono .inl).trans (hdevices hl) (hrest.mono .inr)
  | unbound e hl hafter =>
      rw [hafter]
      exact ((hl.renewed v).mono .inl).trans (hdevices hl) (hnote _ _ _)
  | @bound d found _ hl _ hafter =>
      rw [hafter]
      have hbind : Frame (Among [.binding]) False found
          (found.wrote (.set (Identity.bindingKey client.id) d.id none)
            (found.keyValue.set (Identity.bindingKey client.id) d.id none)) :=
        wrote_set_frame (among_of_names (names_bindingKey client.id) (List.mem_singleton.mpr rfl)) _
          none
      have hlookup := (hl.renewed v).mono (Or.inl (b := v = voucher username ""))
      have hd := hdevices hl
      exact (hlookup.trans hd (.of_frame hv hbind (by decide))).trans hd (hnote _ _ _)

end Gate

namespace Step

/-- Whether a step may look a voucher up: an auth under a name that is not privileged, with the
credentials that the voucher spells, or the name that it spells alone. -/
def Presents (v : String) : Step → Prop
  | .event _ (.auth _ username password) =>
    isPrivileged username = false ∧ (v = voucher username password ∨ v = voucher username "")
  | _ => False

theorem apply_renewed (g : Gate) {b : Backend} (x : Step) {v : String}
    (hv : Purpose.voucher.Names v) (httl : b.keyValue.ttl? v = none) :
    Renewed b (x.apply g b) (x.Presents v) v := by
  cases hx : x.isAuth with
  | true =>
      unfold isAuth at hx
      split at hx
      · next hooks client username password =>
        simp only [apply, Pipeline.handle]
        rcases Pipeline.authenticate_cases ⟨hooks, g⟩ b client username password with ⟨_, h⟩ | h
        · rw [h]
          exact .inl rfl
        · rw [h]
          cases hu : isPrivileged username with
          | true =>
              left
              simp only [Gate.authenticate, hu, if_true]
              split <;> rfl
          | false =>
              exact (Gate.authenticate_renewed hv g b client password hu).mono fun ha => ⟨hu, ha⟩
      · cases hx
  | false => exact .inl (apply_find? g b hx (not_among hv (by decide)) httl)

end Step

/-- The device of a given id had a voucher when a step of a run presented it. -/
def Presented (g : Gate) (b : Backend) (steps : List Step) (v id : String) : Prop :=
  ∃ before x after, steps = before ++ x :: after ∧ x.Presents v ∧
    ∃ d, (run g b before).devices.byId id = some d ∧ d.voucher = v

theorem Presented.append {g : Gate} {b : Backend} {steps : List Step} {v id : String}
    (h : Presented g b steps v id) (more : List Step) : Presented g b (steps ++ more) v id := by
  obtain ⟨before, x, after, rfl, hx, hd⟩ := h
  exact ⟨before, x, after ++ more, by rw [List.append_assoc, List.cons_append], hx, hd⟩

theorem run_distinctIds (g : Gate) {b : Backend} (h : b.devices.DistinctIds) (steps : List Step) :
    (run g b steps).devices.DistinctIds := by
  induction steps generalizing b with
  | nil => exact h
  | cons x rest ih =>
      apply ih
      rw [Step.apply_devices]
      cases x with
      | putDevice device => exact h.put device
      | _ => exact h

/-- What is kept under a voucher is a device that had it when it was presented. -/
theorem run_presented (g : Gate) {b : Backend} {v : String} (hv : Purpose.voucher.Names v)
    (hb : b.keyValue.find? v = none) (hids : b.devices.DistinctIds) (steps : List Step)
    {entry : KeyValue.Entry} (h : (run g b steps).keyValue.find? v = some entry) :
    ∃ d, entry = deviceEntry d ∧ Presented g b steps v d.id := by
  induction steps using List.reverseRecOn generalizing entry with
  | nil =>
      rw [show (run g b []).keyValue.find? v = none from hb] at h
      cases h
  | append_singleton steps x ih =>
      rw [run_append] at h
      have httl : (run g b steps).keyValue.ttl? v = none := by
        cases hfind : (run g b steps).keyValue.find? v with
        | none => exact ttl?_deviceEntry (d := none) hfind
        | some old =>
            obtain ⟨d, rfl, _⟩ := ih hfind
            exact ttl?_deviceEntry (d := some d) hfind
      rcases Step.apply_renewed g x hv httl with hkept | ⟨hx, d, hd, hnew⟩
      · obtain ⟨d, he, hp⟩ := ih (hkept.symm.trans h)
        exact ⟨d, he, hp.append [x]⟩
      · have hid := Devices.byId_of_byVoucher (run_distinctIds g hids steps) hd
        refine ⟨d, Option.some.inj (h.symm.trans hnew), steps, x, [], rfl, hx, d, hid, ?_⟩
        exact Devices.voucher_of_byVoucher hd

/-- Which device a lookup finds after a run: one that has the voucher, or had it when it was
presented. -/
theorem Identity.Lookup.run_found {g : Gate} {b b' : Backend} {steps : List Step} {v : String}
    {d : Device} (h : Lookup (run g b steps) v (.ok (some d)) b') (hv : Purpose.voucher.Names v)
    (hb : b.keyValue.find? v = none) (hids : b.devices.DistinctIds) :
    (run g b steps).devices.byId d.id = some d ∧ (d.voucher = v ∨ Presented g b steps v d.id) := by
  cases h with
  | @kept id _ ht hd =>
      have hid := Devices.id_of_byId hd
      subst hid
      obtain ⟨ttl, he⟩ := KeyValue.find?_of_text? ht
      obtain ⟨e, hentry, hp⟩ := run_presented g hv hb hids steps he
      have hid : d.id = e.id := KeyValue.Content.text.inj (congrArg KeyValue.Entry.content hentry)
      rw [← hid] at hp
      exact ⟨hd, .inr hp⟩
  | stored hd =>
      exact ⟨Devices.byId_of_byVoucher (run_distinctIds g hids steps) hd,
        .inl (Devices.voucher_of_byVoucher hd)⟩

/-- Credentials that let a client in found a stored device. The device has them still, or it had
them when they were presented before: since then its id is kept under them, and nothing removes
it. -/
theorem authenticate_voucher_run (g : Gate) (b : Backend) (steps : List Step)
    (hb : ∀ username password, b.keyValue.find? (voucher username password) = none)
    (hids : b.devices.DistinctIds) (hooks : List Hook) (client : Client)
    (username password : String) (hu : isPrivileged username = false)
    (hok : (Pipeline.authenticate ⟨hooks, g⟩ (run g b steps) client username
      password).1.isOk = true) :
    ∃ d, (Pipeline.authenticate ⟨hooks, g⟩ (run g b steps) client username
        password).2.keyValue.find? (Identity.bindingKey client.id) = some (deviceEntry d) ∧
      (run g b steps).devices.byId d.id = some d ∧
      (d.voucher = voucher username password ∨
        Presented g b steps (voucher username password) d.id) := by
  have hv := names_voucher username password
  rcases Pipeline.authenticate_cases ⟨hooks, g⟩ (run g b steps) client username password with
    ⟨refusal, h⟩ | h
  · rw [h] at hok
    cases hok
  · rw [h] at hok ⊢
    have hbinding :=
      Gate.authenticate_binding g (run g b steps) client username password hu client.id
    have hadmission := Gate.authenticate_admission g (run g b steps) client password hu
    change ∃ d, (g.authenticate _ _ _ _).2.keyValue.find? _ = _ ∧ _
    generalize g.authenticate (run g b steps) client username password = result at *
    obtain ⟨answer, after⟩ := result
    cases hadmission with
    | turnedAway _ _ _ _ => cases hok
    | unbound _ _ _ => cases hok
    | @bound d _ _ hl hres _ =>
        rw [if_pos ⟨rfl, rfl⟩, hres] at hbinding
        exact ⟨d, hbinding, hl.run_found hv (hb username password) hids⟩

def lampReassigned : List Step :=
  [.event [] (.auth ⟨"c", "lamp"⟩ "lamp" "pw"),
    .putDevice { lamp with voucher := voucher "lamp" "new" }]

theorem authenticate_voucher_run_lamp :
    (∀ username password, lampBackend.keyValue.find? (voucher username password) = none) ∧
      lampBackend.devices.DistinctIds ∧ isPrivileged "lamp" = false ∧
      (Pipeline.authenticate ⟨[], lampGate⟩ (run lampGate lampBackend lampReassigned) ⟨"c", "lamp"⟩
        "lamp" "pw").1.isOk = true ∧
      ∃ d, (Pipeline.authenticate ⟨[], lampGate⟩ (run lampGate lampBackend lampReassigned)
          ⟨"c", "lamp"⟩ "lamp" "pw").2.keyValue.find? (Identity.bindingKey "c") =
            some (deviceEntry d) ∧
        (run lampGate lampBackend lampReassigned).devices.byId d.id = some d ∧
        (d.voucher = voucher "lamp" "pw" ∨
          Presented lampGate lampBackend lampReassigned (voucher "lamp" "pw") d.id) := by
  have hb : ∀ username password,
      lampBackend.keyValue.find? (voucher username password) = none := fun _ _ => rfl
  have hids : lampBackend.devices.DistinctIds := List.nodup_singleton _
  have hu : isPrivileged "lamp" = false := by decide
  have hok : (Pipeline.authenticate ⟨[], lampGate⟩ (run lampGate lampBackend lampReassigned)
      ⟨"c", "lamp"⟩ "lamp" "pw").1.isOk = true := by decide +kernel
  exact ⟨hb, hids, hu, hok, authenticate_voucher_run lampGate lampBackend lampReassigned hb hids []
    ⟨"c", "lamp"⟩ "lamp" "pw" hu hok⟩

/-- The credentials that the lamp no longer has still let it in. -/
theorem lamp_voucher_outlived :
    (Pipeline.authenticate ⟨[], lampGate⟩ (run lampGate lampBackend lampReassigned) ⟨"c", "lamp"⟩
        "lamp" "pw").1.isOk = true ∧
      (Pipeline.authenticate ⟨[], lampGate⟩ (run lampGate lampBackend lampReassigned) ⟨"c", "lamp"⟩
        "lamp" "pw").2.keyValue.find? (Identity.bindingKey "c") = some (deviceEntry lamp) ∧
      ((run lampGate lampBackend lampReassigned).devices.byId lamp.id).map (·.voucher) ≠
        some (voucher "lamp" "pw") := by
  decide +kernel

end DeviceGateway
