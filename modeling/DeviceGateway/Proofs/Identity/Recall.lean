import DeviceGateway.Proofs.Identity.Lookup
import DeviceGateway.Proofs.Keyed
import DeviceGateway.Proofs.Store.Agreement
/-!
A lookup by voucher depends on what is kept under the voucher, and what it keeps there itself leads
to the same device again.
-/
namespace DeviceGateway.Identity

open Backend

def foundId (b : Backend) (v : String) : Except StoreError (Option String) :=
  (deviceByVoucher b v).1.map (Option.map (·.id))

variable {b b' : Backend} {v : String}

section

variable {after : Backend}

theorem answer_of_foundId {r : Except StoreError (Option String)}
    (h : (foundId b v, (deviceByVoucher b v).2) = (r, after)) :
    ∃ answer : Except StoreError (Option Device),
      answer.map (Option.map (·.id)) = r ∧ deviceByVoucher b v = (answer, after) := by
  obtain ⟨hid, hafter⟩ := Prod.mk.inj h
  exact ⟨_, hid, Prod.ext rfl hafter⟩

theorem deviceByVoucher_of_error {e : StoreError}
    (h : (foundId b v, (deviceByVoucher b v).2) = (.error e, after)) :
    deviceByVoucher b v = (.error e, after) := by
  obtain ⟨answer, hid, heq⟩ := answer_of_foundId h
  cases answer with
  | error e' => cases hid; exact heq
  | ok found => cases hid

theorem deviceByVoucher_of_none (h : (foundId b v, (deviceByVoucher b v).2) = (.ok none, after)) :
    deviceByVoucher b v = (.ok none, after) := by
  obtain ⟨answer, hid, heq⟩ := answer_of_foundId h
  cases answer with
  | error e => cases hid
  | ok found =>
      cases found with
      | none => exact heq
      | some d => cases hid

theorem deviceByVoucher_of_some {id : String}
    (h : (foundId b v, (deviceByVoucher b v).2) = (.ok (some id), after)) :
    ∃ d, d.id = id ∧ deviceByVoucher b v = (.ok (some d), after) := by
  obtain ⟨answer, hid, heq⟩ := answer_of_foundId h
  cases answer with
  | error e => cases hid
  | ok found =>
      cases found with
      | none => cases hid
      | some d => cases hid; exact ⟨d, rfl, heq⟩

end

theorem storedDevice_congr (h : SameParts b b') (v : String) :
    (storedDevice b' v).1 = (storedDevice b v).1 ∧
      SameDone (· = v) b b' (storedDevice b v).2 (storedDevice b' v).2 := by
  unfold storedDevice
  rw [h.ask_eq]
  cases b.ask (.voucher v) with
  | error e => exact ⟨rfl, .nothing⟩
  | ok found =>
      cases found with
      | none => exact ⟨rfl, .nothing⟩
      | some d =>
          simp only [set_eq, h.fails_eq]
          cases b.fails .set [v] with
          | true => exact ⟨rfl, .nothing⟩
          | false => exact ⟨rfl, .set (by rfl) d.id none .nothing⟩

theorem deviceByVoucher_congr (h : SameParts b b')
    (hkey : b'.keyValue.find? v = b.keyValue.find? v) :
    (deviceByVoucher b' v).1 = (deviceByVoucher b v).1 ∧
      SameDone (· = v) b b' (deviceByVoucher b v).2 (deviceByVoucher b' v).2 := by
  have hstored := storedDevice_congr h v
  unfold deviceByVoucher
  rw [h.get_eq hkey]
  cases b.get v with
  | error e => exact ⟨rfl, .nothing⟩
  | ok kept =>
      cases kept with
      | none => exact hstored
      | some id =>
          dsimp only
          rw [h.ask_eq]
          cases b.ask (.id id) with
          | error e => exact ⟨rfl, .nothing⟩
          | ok found =>
              cases found with
              | none => exact hstored
              | some d => exact ⟨rfl, .nothing⟩

theorem foundId_congr (h : SameParts b b') (hkey : b'.keyValue.find? v = b.keyValue.find? v) :
    foundId b' v = foundId b v := by
  rw [foundId, foundId, (deviceByVoucher_congr h hkey).1]

theorem boundDevice_congr (h : SameParts b b') {clientId : String}
    (hkey : b'.keyValue.find? (bindingKey clientId) = b.keyValue.find? (bindingKey clientId)) :
    boundDevice b' clientId = boundDevice b clientId := by
  rw [boundDevice, boundDevice, h.get_eq hkey]

/-- A lookup that writes has read the voucher, and writes the device that has it. -/
theorem deviceByVoucher_cases (b : Backend) (v : String) :
    (deviceByVoucher b v).2 = b ∨
      ∃ d, b.fails .get [v] = false ∧ b.ask (.voucher v) = .ok (some d) ∧
        deviceByVoucher b v =
          (.ok (some d), b.wrote (.set v d.id none) (b.keyValue.set v d.id none)) := by
  have hstored (kept : Option String) (hg : b.get v = .ok kept) : (storedDevice b v).2 = b ∨
      ∃ d, b.fails .get [v] = false ∧ b.ask (.voucher v) = .ok (some d) ∧ storedDevice b v =
        (.ok (some d), b.wrote (.set v d.id none) (b.keyValue.set v d.id none)) := by
    unfold storedDevice
    cases ha : b.ask (.voucher v) with
    | error e => exact .inl rfl
    | ok found =>
        cases found with
        | none => exact .inl rfl
        | some d =>
            dsimp only
            rw [set_eq]
            cases b.fails .set [v] with
            | true => exact .inl rfl
            | false => exact .inr ⟨d, (attempt_eq_ok hg).1, rfl, rfl⟩
  unfold deviceByVoucher
  cases hg : b.get v with
  | error e => exact .inl rfl
  | ok kept =>
      cases kept with
      | none => exact hstored _ hg
      | some id =>
          dsimp only
          cases b.ask (.id id) with
          | error e => exact .inl rfl
          | ok found =>
              cases found with
              | none => exact hstored _ hg
              | some d => exact .inl rfl

/-- For a device that is stored there is one to be found by its id, this one or another. -/
theorem byId_of_mem {ds : Devices} {d : Device} (h : d ∈ ds.records) :
    ∃ e, ds.byId d.id = some e ∧ e.id = d.id := by
  have hsome : (ds.byId d.id).isSome = true :=
    List.find?_isSome.mpr ⟨d, h, decide_eq_true rfl⟩
  obtain ⟨e, he⟩ := Option.isSome_iff_exists.mp hsome
  exact ⟨e, he, key_of_find? he⟩

/-- Looked up again, a voucher leads to the same device: by the id that was kept under it, or as it
did before. -/
theorem foundId_again (hunanswered : b.faults.unanswered = []) (v : String) :
    foundId (deviceByVoucher b v).2 v = foundId b v := by
  rcases deviceByVoucher_cases b v with hsame | ⟨d, hget, hask, heq⟩
  · rw [hsame]
  · obtain ⟨e, he, hid⟩ := byId_of_mem (List.mem_of_find?_eq_some (ask_eq_ok hask))
    -- What answered for the voucher answers for the id.
    have hid' : b.ask (.id d.id) = .ok (some e) := by
      unfold ask device at hask ⊢
      rw [hunanswered, if_neg List.not_mem_nil] at hask ⊢
      split at hask
      · cases hask
      · next hdevices => exact (if_neg hdevices).trans (congrArg Except.ok he)
    have hparts : SameParts b (b.wrote (.set v d.id none) (b.keyValue.set v d.id none)) :=
      wrote_set_frame trivial d.id none
    have hread : (b.wrote (.set v d.id none) (b.keyValue.set v d.id none)).get v =
        .ok (some d.id) := by
      rw [Backend.get, KeyValue.text?, find?_wrote_set]
      exact attempt_eq_answer ((hparts.fails_eq _ _).trans hget)
    have hfound : foundId b v = .ok (some d.id) := by
      rw [foundId, heq]
      rfl
    rw [hfound, heq, foundId, deviceByVoucher, hread]
    dsimp only
    rw [hparts.ask_eq, hid']
    exact congrArg (fun id => Except.ok (some id)) hid

end DeviceGateway.Identity
