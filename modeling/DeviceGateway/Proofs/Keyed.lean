import Mathlib.Data.List.Nodup
/-!
Lists with one item for each key.
-/
namespace DeviceGateway

variable {α κ : Type} [DecidableEq κ] {key : α → κ} {l : List α} {a : α}

theorem key_of_find? {k : κ} (h : (l.find? fun b => key b = k) = some a) : key a = k := by
  simpa using List.find?_some h

theorem find?_key (h : (l.map key).Nodup) (ha : a ∈ l) :
    (l.find? fun b => key b = key a) = some a := by
  cases hfound : l.find? fun b => key b = key a with
  | none =>
      have hnone := List.find?_eq_none.mp hfound a ha
      exact absurd (decide_eq_true rfl) hnone
  | some b =>
      have hb : b ∈ l := List.mem_of_find?_eq_some hfound
      rw [List.inj_on_of_nodup_map h hb ha (key_of_find? hfound)]

end DeviceGateway
