import DeviceGateway.Decimal.Digits
import Mathlib.Data.Nat.Digits.Defs
/-!
Decimal spellings: their lengths, their first digits, zeros in front, and what is read as one.
-/
namespace DeviceGateway.Decimal

theorem write_eq_cons (n : Nat) : ∃ d rest, d < 10 ∧ write n = charOf d :: rest := by
  cases h : digits n with
  | nil => exact absurd h (digits_ne_nil n)
  | cons d ds =>
      refine ⟨d, ds.map charOf, lt_ten_of_mem_digits (n := n) ?_, ?_⟩
      · rw [h]
        exact List.mem_cons_self
      · rw [write, h, List.map_cons]

theorem digits_no_leading_zero (n d : Nat) (ds : List Nat) : digits n ≠ 0 :: d :: ds := by
  induction n using Nat.strongRecOn generalizing d ds with
  | ind n ih =>
      intro h
      rw [digits] at h
      split at h
      · cases h
      · next hn =>
        cases hq : digits (n / 10) with
        | nil => exact digits_ne_nil _ hq
        | cons e es =>
            rw [hq, List.cons_append, List.cons.injEq] at h
            obtain ⟨rfl, hes⟩ := h
            cases es with
            | nil =>
                have hv := value_digits (n / 10)
                rw [hq] at hv
                change 0 * 10 + 0 = n / 10 at hv
                omega
            | cons f fs => exact ih (n / 10) (by omega) f fs hq

theorem length_digits_le {n width : Nat} (hw : 0 < width) (h : n < 10 ^ width) :
    (digits n).length ≤ width := by
  induction width generalizing n with
  | zero => omega
  | succ width ih =>
      rw [digits]
      split
      · rw [List.length_singleton]
        omega
      · next hn =>
        rw [Nat.pow_succ] at h
        have hpos : 0 < width := by
          rcases Nat.eq_zero_or_pos width with rfl | hpos
          · rw [Nat.pow_zero] at h
            omega
          · exact hpos
        have hlen := ih hpos (n := n / 10) (by omega)
        rw [List.length_append, List.length_singleton]
        omega

theorem value_zeros (k : Nat) (ds : List Nat) : value (List.replicate k 0 ++ ds) = value ds := by
  induction k with
  | zero => rfl
  | succ k ih => exact ih

theorem read?_chars {ds : List Nat} (hne : ds ≠ []) (h : ∀ d ∈ ds, d < 10) :
    read? (ds.map charOf) = some (value ds) := by
  cases ds with
  | nil => exact absurd rfl hne
  | cons d ds =>
      change (((d :: ds).map charOf).mapM digit?).map value = _
      rw [mapM_digit?_map_charOf h]
      rfl

/-- Digits with zeros in front: at least as many as are asked for, and no more if they suffice. -/
structure Padded (width n : Nat) (ds : List Nat) : Prop where
  text : writePadded width n = ds.map charOf
  digit : ∀ d ∈ ds, d < 10
  value_eq : value ds = n
  ne_nil : ds ≠ []
  length : 0 < width → n < 10 ^ width → ds.length = width

theorem exists_padded (width n : Nat) : ∃ ds, Padded width n ds := by
  refine ⟨List.replicate (width - (write n).length) 0 ++ digits n, ?_, ?_, ?_, ?_, ?_⟩
  · rw [writePadded, List.map_append, List.map_replicate]
    rfl
  · intro d hd
    rcases List.mem_append.mp hd with hd | hd
    · rw [List.eq_of_mem_replicate hd]
      decide
    · exact lt_ten_of_mem_digits hd
  · rw [value_zeros, value_digits]
  · exact List.append_ne_nil_of_right_ne_nil _ (digits_ne_nil n)
  · intro hw hn
    have hlen := length_digits_le hw hn
    rw [List.length_append, List.length_replicate, write, List.length_map]
    omega

theorem digit?_eq_some_iff {c : Char} {d : Nat} :
    digit? c = some d ↔ c.isDigit = true ∧ c.toNat - 48 = d := by
  have hdigit : c.isDigit = true ↔ 48 ≤ c.toNat ∧ c.toNat ≤ 57 := by
    rw [Char.isDigit, Bool.and_eq_true, decide_eq_true_iff, decide_eq_true_iff]
    exact Iff.rfl
  rw [hdigit, digit?, Option.ite_none_right_eq_some, Option.some.injEq]

theorem mapM_digit?_eq_some_iff {text : List Char} {ds : List Nat} :
    text.mapM digit? = some ds ↔
      (∀ c ∈ text, c.isDigit = true) ∧ text.map (fun c => c.toNat - 48) = ds := by
  induction text generalizing ds with
  | nil => simp
  | cons c rest ih =>
      rw [List.mapM_cons, List.forall_mem_cons, List.map_cons]
      simp only [Option.bind_eq_bind, Option.bind_eq_some_iff, digit?_eq_some_iff, ih]
      constructor
      · rintro ⟨d, ⟨hc, rfl⟩, ds, ⟨hrest, rfl⟩, heq⟩
        exact ⟨⟨hc, hrest⟩, Option.some.inj heq⟩
      · rintro ⟨⟨hc, hrest⟩, rfl⟩
        exact ⟨_, ⟨hc, rfl⟩, _, ⟨hrest, rfl⟩, rfl⟩

theorem value_reverse (ds : List Nat) : value ds.reverse = Nat.ofDigits 10 ds := by
  induction ds with
  | nil => rfl
  | cons d ds ih =>
      rw [List.reverse_cons, value_append, ih, Nat.ofDigits_cons]
      omega

/-- What is read: one or more digits, the most significant first. -/
theorem read?_eq_some_iff {text : List Char} {n : Nat} :
    read? text = some n ↔
      text ≠ [] ∧ (∀ c ∈ text, c.isDigit = true) ∧
        Nat.ofDigits 10 (text.reverse.map fun c => c.toNat - 48) = n := by
  cases text with
  | nil => simp [read?]
  | cons c rest =>
      change ((c :: rest).mapM digit?).map value = some n ↔ _
      rw [← value_reverse, ← List.map_reverse, List.reverse_reverse]
      simp only [Option.map_eq_some_iff, mapM_digit?_eq_some_iff]
      constructor
      · rintro ⟨ds, ⟨hdigits, rfl⟩, hvalue⟩
        exact ⟨List.cons_ne_nil c rest, hdigits, hvalue⟩
      · rintro ⟨-, hdigits, hvalue⟩
        exact ⟨_, ⟨hdigits, rfl⟩, hvalue⟩

end DeviceGateway.Decimal
