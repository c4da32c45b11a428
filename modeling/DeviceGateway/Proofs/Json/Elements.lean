import DeviceGateway.Proofs.Json.Members
/-!
Records as arrays. An array that has the fields of a record in their order is read as the record,
with white space around any of them; fields that have defaults may be missing at its end.
-/
namespace DeviceGateway.Json

open Utf8 (Piece)

variable {ρ : Type}

namespace Codec

/-- Elements that are read as the fields of a record, one after the other. The fields that are left
over have defaults. -/
inductive Fills : List (Field ρ) → ρ → List Item → ρ → Prop
  | nil {fields : List (Field ρ)} (r : ρ) : (∀ f ∈ fields, f.presence = .defaulted) →
      Fills fields r [] r
  | cons {f : Field ρ} {fields : List (Field ρ)} {r next last : ρ} {i : Item}
      {items : List Item} : i.Spaced → IsValue i.text →
      (∀ j : Item, j.Spaced → j.text = i.text → (f.read r).Gives j next) →
      Fills fields next items last → Fills (f :: fields) r (i :: items) last

namespace Fills

variable {fields : List (Field ρ)} {start r last : ρ} {items : List Item}

theorem elements_eq (h : Fills fields r items last) {blank : List Char} (hblank : Blank blank)
    (rest : List Piece) :
    elements fields false r
      (pieces blank ++ (pieces ((items.map Item.source).flatMap (',' :: ·)) ++ .char ']' :: rest)) =
        .ok (last, rest) := by
  induction h generalizing blank with
  | @nil fields r hfields =>
      have hspace := Reader.space_upTo hblank (c := ']') (by decide) rest
      cases fields with
      | nil =>
          unfold elements
          exact (Reader.bind_eq hspace _).trans (Reader.bind_eq (Reader.expect_eq ']' rest) _)
      | cons f fields =>
          have hall : (f :: fields).all fun f => f.presence = .defaulted := by
            simpa using hfields
          unfold elements
          refine (Reader.bind_eq hspace _).trans ?_
          rw [Reader.bind_eq (Reader.accept_eq ']' rest), if_pos rfl, if_pos hall]
          rfl
  | @cons f fields r next last i items hspaced hvalue hgives _ ih =>
      let left := pieces ((items.map Item.source).flatMap (',' :: ·)) ++ Piece.char ']' :: rest
      have hleft : pieces (((i :: items).map Item.source).flatMap (',' :: ·)) ++
          .char ']' :: rest = .char ',' :: (pieces i.source ++ left) := by
        simp [left, pieces_append, pieces_cons]
      have hread := hgives i hspaced rfl left (closes_more _ (.inr (.inl rfl)) rest)
      rw [hleft]
      unfold elements
      refine (Reader.bind_eq (Reader.space_upTo hblank (by decide) _) _).trans ?_
      rw [Reader.bind_eq (Reader.accept_ne (by decide) _), if_neg Bool.false_ne_true]
      refine (Reader.bind_eq (Reader.expect_eq ',' _) _).trans ?_
      exact (Reader.bind_eq hread _).trans (ih hspaced.2)

theorem array_eq (h : Fills fields r items last) (hitems : items ≠ []) (rest : List Piece) :
    elements fields true r (pieces (commas (items.map Item.source)) ++ .char ']' :: rest) =
      .ok (last, rest) := by
  cases h with
  | nil => exact absurd rfl hitems
  | @cons f fields _ next _ i items hspaced hvalue hgives hmore =>
      -- the white space before the first element goes before a bracket is looked for
      let first : Item := { i with before := [] }
      let left := pieces ((items.map Item.source).flatMap (',' :: ·)) ++ Piece.char ']' :: rest
      have hleft : pieces (commas ((i :: items).map Item.source)) ++ .char ']' :: rest =
          pieces i.before ++ (pieces first.source ++ left) := by
        simp [first, left, commas_cons, Item.source, pieces_append]
      have hread := hgives first ⟨blank_nil, hspaced.2⟩ rfl left
        (closes_more _ (.inr (.inl rfl)) rest)
      obtain ⟨c, tail, htext, hc, hclose⟩ := hvalue.head
      have hfirst : pieces first.source ++ left =
          .char c :: (pieces tail ++ (pieces i.after ++ left)) := by
        simp [first, Item.source, htext, pieces_append, pieces_cons]
      rw [hleft]
      unfold elements
      rw [hfirst] at hread ⊢
      refine (Reader.bind_eq (Reader.space_upTo hspaced.1 hc _) _).trans ?_
      rw [Reader.bind_eq (Reader.accept_ne hclose _), if_neg Bool.false_ne_true]
      exact (Reader.bind_eq hread _).trans (hmore.elements_eq hspaced.2 rest)

/-- A document is a record if it is an array of what fills the record, with white space around. -/
theorem decode_eq (h : Fills fields start items last) (hitems : items ≠ [])
    {lead trail : List Char} (hlead : Blank lead) (htrail : Blank trail) :
    (record fields start).decode
        (pieces (lead ++ '[' :: (commas (items.map Item.source) ++ ']' :: trail))) =
      .ok last := by
  have hread : readRecord fields start
      (pieces (lead ++ '[' :: (commas (items.map Item.source) ++ [']'])) ++ pieces trail) =
        .ok (last, pieces trail) := by
    simp only [pieces_append, pieces_cons, pieces_nil, List.append_assoc, List.cons_append,
      List.nil_append]
    unfold readRecord
    rw [Reader.bind_eq (Reader.space_upTo hlead (by decide) _),
      Reader.bind_eq (Reader.accept_eq '[' _), if_pos rfl]
    exact h.array_eq hitems (pieces trail)
  have hdecode := decode_of_read (c := record fields start) hread htrail
  simpa using hdecode

end Fills

end Codec

end DeviceGateway.Json
