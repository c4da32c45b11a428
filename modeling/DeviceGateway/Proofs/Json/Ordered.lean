import DeviceGateway.Json.Value
import Mathlib.Data.String.Basic
/-!
The members of an object are in the order of their names, one of each name. A member that is put in
its place keeps them so, and members that are in order already are put at the end one by one.
-/
namespace DeviceGateway.Json

/-- Members in the order of their names, one of each name. -/
def Ordered (members : List (String × Json)) : Prop := members.Pairwise (·.1 < ·.1)

theorem mem_insert {name : String} {value : Json} {members : List (String × Json)}
    {m : String × Json} (h : m ∈ insert name value members) : m = (name, value) ∨ m ∈ members := by
  induction members with
  | nil => exact .inl (List.mem_singleton.mp h)
  | cons first rest ih =>
      unfold insert at h
      split at h
      · exact List.mem_cons.mp h
      split at h
      · rcases List.mem_cons.mp h with h | h
        · exact .inl h
        · exact .inr (List.mem_cons_of_mem _ h)
      · rcases List.mem_cons.mp h with h | h
        · exact .inr (h ▸ List.mem_cons_self)
        · exact (ih h).imp_right (List.mem_cons_of_mem _)

namespace Ordered

variable {name : String} {members : List (String × Json)}

theorem insert (h : Ordered members) (name : String) (value : Json) :
    Ordered (insert name value members) := by
  induction members with
  | nil => exact List.pairwise_singleton _ _
  | cons first rest ih =>
      obtain ⟨hfirst, hrest⟩ := List.pairwise_cons.mp h
      unfold Json.insert
      split
      · next hless =>
        refine List.pairwise_cons.mpr ⟨?_, h⟩
        intro m hm
        rcases List.mem_cons.mp hm with rfl | hm
        · exact hless
        · exact hless.trans (hfirst m hm)
      split
      · next heq =>
        refine List.pairwise_cons.mpr ⟨?_, hrest⟩
        intro m hm
        exact heq ▸ hfirst m hm
      · next hnot hne =>
        have hgreater : first.1 < name := lt_of_le_of_ne (not_lt.mp hnot) (Ne.symm hne)
        refine List.pairwise_cons.mpr ⟨?_, ih hrest⟩
        intro m hm
        rcases mem_insert hm with rfl | hm
        · exact hgreater
        · exact hfirst m hm

theorem insert_last (h : ∀ m ∈ members, m.1 < name) (value : Json) :
    Json.insert name value members = members ++ [(name, value)] := by
  induction members with
  | nil => rfl
  | cons first rest ih =>
      obtain ⟨hfirst, hrest⟩ := List.forall_mem_cons.mp h
      unfold Json.insert
      rw [if_neg hfirst.asymm, if_neg hfirst.ne', ih hrest]
      rfl

/-- Members that are in order stay as they are when each is put in its place. -/
theorem foldl_insert {kept : List (String × Json)} (h : Ordered (kept ++ members)) :
    members.foldl (fun kept m => Json.insert m.1 m.2 kept) kept = kept ++ members := by
  induction members generalizing kept with
  | nil => exact (List.append_nil kept).symm
  | cons m rest ih =>
      have hlast : ∀ k ∈ kept, k.1 < m.1 := by
        intro k hk
        exact (List.pairwise_append.mp h).2.2 k hk m List.mem_cons_self
      have hshift : kept ++ m :: rest = (kept ++ [m]) ++ rest := by
        rw [List.append_assoc, List.singleton_append]
      rw [hshift] at h ⊢
      rw [List.foldl_cons, insert_last hlast]
      exact ih h

end Ordered

end DeviceGateway.Json
