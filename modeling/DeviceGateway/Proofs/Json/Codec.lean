import DeviceGateway.Json.Codec
import DeviceGateway.Proofs.Json.Number
/-!
What codecs write they read back: strings, numbers, truth values, options, lists and names, whatever
follows them in a compact text.
-/
namespace DeviceGateway.Json

open Utf8 (Piece)

variable {α β ρ : Type}

namespace Reader

theorem pure_eq (a : α) (input : List Piece) : (pure a : Reader α) input = .ok (a, input) := rfl

theorem bind_congr {x : Reader α} {input other : List Piece} (h : x input = x other)
    (f : α → Reader β) : (x >>= f) input = (x >>= f) other :=
  congrArg (fun r : Except Fault (α × List Piece) => r >>= fun p => f p.1 p.2) h

theorem bind_eq {x : Reader α} {input left : List Piece} {a : α} (h : x input = .ok (a, left))
    (f : α → Reader β) : (x >>= f) input = f a left := by
  change (x input >>= fun p => f p.1 p.2) = f a left
  rw [h]
  rfl

theorem space_eq {c : Char} (h : isSpace c = false) (rest : List Piece) :
    space (.char c :: rest) = .ok ((), .char c :: rest) := by
  simp only [space, List.dropWhile_cons, h, Bool.false_eq_true, if_false]

theorem accept_eq (c : Char) (rest : List Piece) :
    accept c (.char c :: rest) = .ok (true, rest) := by
  simp only [accept, if_true]

theorem accept_ne {c d : Char} (h : d ≠ c) (rest : List Piece) :
    accept c (.char d :: rest) = .ok (false, .char d :: rest) := by
  simp only [accept, if_neg h]

theorem expect_eq (c : Char) (rest : List Piece) : expect c (.char c :: rest) = .ok ((), rest) := by
  unfold expect
  rw [bind_eq (accept_eq c rest)]
  rfl

theorem contents_spelled {spelling : List Char} {s : String} (h : Spells spelling s.toList)
    (rest : List Piece) : contents (pieces spelling ++ .char '"' :: rest) = .ok (s, rest) := by
  have hcontents : ofPartial (contents? 0) (pieces spelling ++ .char '"' :: rest) =
      .ok (s.toList, rest) := by
    simp only [ofPartial, h.contents?_eq]
  unfold contents
  rw [bind_eq hcontents, String.ofList_toList]
  rfl

theorem text_spelled {spelling : List Char} {s : String} (h : Spells spelling s.toList)
    (rest : List Piece) : text (pieces ('"' :: (spelling ++ ['"'])) ++ rest) = .ok (s, rest) := by
  rw [pieces_cons, pieces_append, List.cons_append, List.append_assoc]
  unfold text
  rw [bind_eq (space_eq (by decide) _), bind_eq (accept_eq '"' _), if_pos rfl]
  exact contents_spelled h rest

theorem text_eq (s : String) (rest : List Piece) :
    text (pieces (quote s.toList) ++ rest) = .ok (s, rest) :=
  text_spelled (.flatMap_escape s.toList) rest

theorem bool_eq (b : Bool) (rest : List Piece) :
    bool (pieces (writeBool b) ++ rest) = .ok (b, rest) := by
  cases b <;> rfl

theorem writeInt_eq_cons (i : Int) :
    ∃ c rest, Decimal.writeInt i = c :: rest ∧ (c = '-' ∨ isDigit c = true) := by
  cases i with
  | ofNat n =>
      obtain ⟨d, rest, hd, hw⟩ := Decimal.write_eq_cons n
      have hall : ∀ d : Fin 10, isDigit (Decimal.charOf d.val) = true := by decide
      exact ⟨_, rest, hw, .inr (hall ⟨d, hd⟩)⟩
  | negSucc n => exact ⟨'-', Decimal.write (n + 1), rfl, .inl rfl⟩

theorem isSpace_of_number {c : Char} (h : c = '-' ∨ isDigit c = true) : isSpace c = false := by
  rcases h with rfl | h
  · decide
  · unfold isDigit at h
    unfold isSpace
    simp only [Bool.and_eq_true, decide_eq_true_eq] at h
    simp only [Bool.or_eq_false_iff, decide_eq_false_iff_not]
    refine ⟨⟨⟨?_, ?_⟩, ?_⟩, ?_⟩ <;> rintro rfl <;> exact absurd h (by decide)

theorem whole_eq (least greatest : Int) {i : Int} (hleast : -0x8000000000000000 ≤ least)
    (hgreatest : greatest < 0x10000000000000000) (h : least ≤ i ∧ i ≤ greatest) {rest : List Piece}
    (hrest : EndsNumber rest) :
    whole least greatest (pieces (Decimal.writeInt i) ++ rest) = .ok (i, rest) := by
  have hnumber : digits (pieces (Decimal.writeInt i) ++ rest) = .ok (.whole i, rest) := by
    simp only [digits, ofPartial, number?_write (i := i) (by omega) (by omega) hrest]
  obtain ⟨c, left, hw, hc⟩ := writeInt_eq_cons i
  have hpeek : peek (pieces (Decimal.writeInt i) ++ rest) =
      .ok (some (.char c), pieces (Decimal.writeInt i) ++ rest) := by
    rw [hw]
    rfl
  have hspace : space (pieces (Decimal.writeInt i) ++ rest) =
      .ok ((), pieces (Decimal.writeInt i) ++ rest) := by
    rw [hw]
    exact space_eq (isSpace_of_number hc) _
  unfold whole
  rw [bind_eq hspace, bind_eq hpeek]
  dsimp only
  rw [if_pos hc, bind_eq hnumber]
  dsimp only
  rw [if_pos h]
  rfl

end Reader

/-- What may follow a value in a compact text. -/
def Closes (rest : List Piece) : Prop :=
  ∀ c left, rest = .char c :: left → c = ',' ∨ c = ']' ∨ c = '\x7d'

theorem closes_nil : Closes [] := nofun

theorem closes_cons {c : Char} (h : c = ',' ∨ c = ']' ∨ c = '\x7d') (rest : List Piece) :
    Closes (.char c :: rest) := by
  rintro d left heq
  cases heq
  exact h

theorem Closes.endsNumber {rest : List Piece} (h : Closes rest) : EndsNumber rest := by
  intro c left heq
  rcases h c left heq with rfl | rfl | rfl <;> decide

/-- What may begin the text of an item of an array, or of what may be null. -/
def Opens (text : List Char) : Prop :=
  ∃ c rest, text = c :: rest ∧ isSpace c = false ∧ c ≠ ']' ∧ c ≠ 'n'

theorem opens_quote (text : List Char) : Opens (quote text) :=
  ⟨'"', text.flatMap escape ++ ['"'], rfl, by decide, by decide, by decide⟩

namespace Codec

/-- A codec reads a value back from what it wrote. -/
def Reads (c : Codec α) (a : α) : Prop :=
  ∀ rest, Closes rest → c.read (pieces (c.write a) ++ rest) = .ok (a, rest)

theorem Reads.decode?_encode {c : Codec α} {a : α} (h : c.Reads a) :
    c.decode? (c.encode a) = some a := by
  have hread : c.read (pieces (c.write a)) = .ok (a, []) := by
    have hnil := h [] closes_nil
    rwa [List.append_nil] at hnil
  unfold decode? decode encode Reader.whole?
  rw [show piecesOf (String.ofList (c.write a)) = pieces (c.write a) by
    rw [piecesOf, String.toList_ofList]; rfl, hread]
  rfl

theorem text_reads (s : String) : text.Reads s := fun rest _ => Reader.text_eq s rest

theorem bool_reads (b : Bool) : bool.Reads b := fun rest _ => Reader.bool_eq b rest

theorem int64_reads (n : Int64) : int64.Reads n := by
  intro rest hrest
  have h := Reader.whole_eq Int64.minValue.toInt Int64.maxValue.toInt (by decide) (by decide)
    ⟨Int64.minValue_le_toInt n, Int64.toInt_le n⟩ hrest.endsNumber
  unfold int64
  dsimp only
  rw [Reader.bind_eq h, Reader.pure_eq, Int64.ofInt_toInt]

theorem int32_reads (n : Int32) : int32.Reads n := by
  intro rest hrest
  have h := Reader.whole_eq Int32.minValue.toInt Int32.maxValue.toInt (by decide) (by decide)
    ⟨Int32.minValue_le_toInt n, Int32.toInt_le n⟩ hrest.endsNumber
  unfold int32
  dsimp only
  rw [Reader.bind_eq h, Reader.pure_eq, Int32.ofInt_toInt]

theorem nullable_reads {c : Codec α} {a : Option α} (h : ∀ b ∈ a, c.Reads b ∧ Opens (c.write b)) :
    (nullable c).Reads a := by
  intro rest hrest
  cases a with
  | none => rfl
  | some b =>
      obtain ⟨hreads, ch, tail, hw, hspace, _, hnull⟩ := h b rfl
      have hread := hreads rest hrest
      change Reader.nullable c.read (pieces (c.write b) ++ rest) = _
      rw [hw, pieces_cons, List.cons_append] at hread ⊢
      unfold Reader.nullable
      rw [Reader.bind_eq (Reader.space_eq hspace _),
        Reader.bind_eq (show Reader.peek _ = .ok (some (.char ch), _) from rfl)]
      have hnext : some (Piece.char ch) ≠ some (.char 'n') := by
        intro heq
        exact hnull (Piece.char.inj (Option.some.inj heq))
      generalize some (Piece.char ch) = next at hnext
      split
      · exact absurd rfl hnext
      · exact Reader.bind_eq hread _

theorem spelled_reads {write : α → String} {read? : String → Option α} {a : α}
    (h : read? (write a) = some a) : (spelled write read?).Reads a := by
  intro rest _
  unfold spelled
  dsimp only
  rw [Reader.bind_eq (Reader.text_eq _ rest), h]
  rfl

theorem choice_reads {names : List (String × α)} {nameOf : α → String} {a : α}
    (h : names.lookup (nameOf a) = some a) : (choice names nameOf).Reads a := by
  intro rest _
  unfold choice quote
  dsimp only
  simp only [List.cons_append, pieces_cons, pieces_append, pieces_nil, List.append_assoc,
    List.nil_append]
  rw [Reader.bind_eq (Reader.space_eq (by decide) _), Reader.bind_eq (Reader.accept_eq '"' _),
    if_pos rfl, Reader.bind_eq (Reader.contents_spelled (.flatMap_escape _) rest), h]
  rfl

end Codec

end DeviceGateway.Json
