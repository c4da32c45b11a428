import DeviceGateway.Json.Number
import DeviceGateway.Json.Skip
import DeviceGateway.Proofs.Decimal
import DeviceGateway.Proofs.Json.Text
/-!
A whole number of 64 bits is read back from its spelling when nothing follows it that could be part
of a number.
-/
namespace DeviceGateway

namespace Json

open Utf8 (Piece)

/-- What may follow a number: anything that is no part of one. -/
def EndsNumber (rest : List Piece) : Prop :=
  ∀ c left, rest = .char c :: left →
    Decimal.digit? c = none ∧ c ≠ '.' ∧ c ≠ 'e' ∧ c ≠ 'E'

theorem spanDigits_chars {ds : List Nat} (h : ∀ d ∈ ds, d < 10) {rest : List Piece}
    (hrest : EndsNumber rest) :
    spanDigits (pieces (ds.map Decimal.charOf) ++ rest) = (ds, rest) := by
  induction ds with
  | nil =>
      cases rest with
      | nil => rfl
      | cons p left =>
          cases p with
          | junk _ => rfl
          | char c =>
              simp only [List.map_nil, pieces_nil, List.nil_append, spanDigits,
                (hrest c left rfl).1]
  | cons d ds ih =>
      have hd := Decimal.digit?_charOf (h d List.mem_cons_self)
      simp only [List.map_cons, pieces_cons, List.cons_append, spanDigits, hd,
        ih fun e he => h e (List.mem_cons_of_mem _ he)]

theorem fraction?_ends {rest : List Piece} (h : EndsNumber rest) :
    fraction? rest = some ([], rest) := by
  unfold fraction?
  split
  · next left => exact absurd rfl (h '.' left rfl).2.1
  · rfl

theorem exponent?_ends {rest : List Piece} (h : EndsNumber rest) :
    exponent? rest = some (none, rest) := by
  unfold exponent?
  split
  · next c left =>
    rw [if_neg]
    obtain ⟨_, _, he, hE⟩ := h c left rfl
    exact fun hc => hc.elim he hE
  · rfl

theorem takeDigits_fit (n : Nat) (ds : List Nat)
    (h : ds.foldl (fun n d => n * 10 + d) n < 0x10000000000000000) :
    takeDigits n ds = (ds.foldl (fun n d => n * 10 + d) n, ds.length) := by
  have hle (ds : List Nat) (m : Nat) : m ≤ ds.foldl (fun n d => n * 10 + d) m := by
    induction ds generalizing m with
    | nil => exact Nat.le_refl m
    | cons d ds ih => exact Nat.le_trans (by omega) (ih (m * 10 + d))
  induction ds generalizing n with
  | nil => rfl
  | cons d ds ih =>
      have hd : n * 10 + d < 0x10000000000000000 := Nat.lt_of_le_of_lt (hle ds _) h
      simp only [takeDigits, if_pos hd, ih _ h, List.foldl_cons, List.length_cons]

theorem leadingSign_write (i : Int) (rest : List Piece) :
    leadingSign (pieces (Decimal.writeInt i) ++ rest) =
      (decide (i < 0), pieces (Decimal.write i.natAbs) ++ rest) := by
  cases i with
  | ofNat n =>
      obtain ⟨d, left, hd, hw⟩ := Decimal.write_eq_cons n
      have hall : ∀ d : Fin 10, Decimal.charOf d.val ≠ '-' := by decide
      have hne : Decimal.charOf d ≠ '-' := hall ⟨d, hd⟩
      have hsign : decide (Int.ofNat n < 0) = false :=
        decide_eq_false (Int.not_lt.mpr (Int.natCast_nonneg n))
      rw [hsign]
      simp only [Decimal.writeInt, Int.natAbs, hw, pieces_cons, List.cons_append]
      unfold leadingSign
      split
      · next h => exact absurd (Piece.char.inj (List.cons.inj h).1) hne
      · rfl
  | negSucc n =>
      have hsign : decide (Int.negSucc n < 0) = true := decide_eq_true (Int.negSucc_lt_zero n)
      rw [hsign]
      rfl

theorem spelling?_write (i : Int) {rest : List Piece} (hrest : EndsNumber rest) :
    spelling? (pieces (Decimal.writeInt i) ++ rest) =
      some (⟨decide (i < 0), Decimal.digits i.natAbs, [], none⟩, rest) := by
  have hspan : spanDigits (pieces (Decimal.write i.natAbs) ++ rest) =
      (Decimal.digits i.natAbs, rest) :=
    spanDigits_chars (fun _ => Decimal.lt_ten_of_mem_digits) hrest
  simp only [spelling?, leadingSign_write, hspan]
  split
  · next h => exact absurd h (Decimal.digits_ne_nil _)
  · next h => exact absurd h (Decimal.digits_no_leading_zero _ _ _)
  · simp only [fraction?_ends hrest, exponent?_ends hrest, Option.bind_eq_bind, Option.bind_some,
      Option.pure_def]

/-- A whole number of 64 bits, signed or not, is read back. -/
theorem number?_write {i : Int} (hleast : -0x8000000000000000 ≤ i)
    (hgreatest : i < 0x10000000000000000)
    {rest : List Piece} (hrest : EndsNumber rest) :
    number? (pieces (Decimal.writeInt i) ++ rest) = some (.whole i, rest) := by
  have hfit : (Decimal.digits i.natAbs).foldl (fun n d => n * 10 + d) 0 < 0x10000000000000000 := by
    change Decimal.value (Decimal.digits i.natAbs) < _
    rw [Decimal.value_digits]
    omega
  have htake : takeDigits 0 (Decimal.digits i.natAbs) =
      (i.natAbs, (Decimal.digits i.natAbs).length) := by
    rw [takeDigits_fit 0 _ hfit]
    exact congrArg (·, _) (Decimal.value_digits i.natAbs)
  have hnumber : (⟨decide (i < 0), Decimal.digits i.natAbs, [], none⟩ : Spelling).number? =
      some (.whole i) := by
    simp only [Spelling.number?, htake, Nat.sub_self, List.isEmpty_nil, Option.isNone_none,
      and_self, if_true, true_and]
    by_cases hneg : i < 0
    · rw [if_neg (by simp [hneg]), if_pos (by omega)]
      congr 2
      omega
    · rw [if_pos (by simp [hneg])]
      congr 2
      omega
  simp only [number?, spelling?_write i hrest, Option.bind_eq_bind, Option.bind_some, hnumber,
    Option.pure_def]

end Json

end DeviceGateway
