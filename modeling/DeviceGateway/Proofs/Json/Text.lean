import DeviceGateway.Json.Text
/-!
A string is read as the text that it spells, whichever of its spellings it has and whatever follows
the closing quote. What is written for a text is one of its spellings.
-/
namespace DeviceGateway.Json

open Utf8 (Piece)

/-- Text as a reader sees it. -/
def pieces (text : List Char) : List Piece := text.map .char

@[simp] theorem pieces_nil : pieces [] = [] := rfl

@[simp] theorem pieces_cons (c : Char) (text : List Char) :
    pieces (c :: text) = .char c :: pieces text := rfl

@[simp] theorem pieces_append (text more : List Char) :
    pieces (text ++ more) = pieces text ++ pieces more := List.map_append

@[simp] theorem length_pieces (text : List Char) : (pieces text).length = text.length :=
  List.length_map _

/-! ### Spellings -/

def letterEscapes : List (Char × Char) :=
  [('"', '"'), ('\\', '\\'), ('/', '/'), ('b', '\x08'), ('f', '\x0c'), ('n', '\n'), ('r', '\r'),
    ('t', '\t')]

def HexDigit (c : Char) (n : Nat) : Prop := n < 16 ∧ (c = hexDigit n ∨ c = (hexDigit n).toUpper)

instance (c : Char) (n : Nat) : Decidable (HexDigit c n) :=
  inferInstanceAs (Decidable (n < 16 ∧ (c = hexDigit n ∨ c = (hexDigit n).toUpper)))

inductive HexUnit : List Char → Nat → Prop
  | digits {a b c d : Char} {i j k l : Nat} : HexDigit a i → HexDigit b j → HexDigit c k →
      HexDigit d l → HexUnit [a, b, c, d] (((i * 16 + j) * 16 + k) * 16 + l)

/-- What stands between quotes spells a text: each character as it is, by a letter, by its number,
or by a pair of surrogates. -/
inductive Spells : List Char → List Char → Prop
  | nil : Spells [] []
  | plain {c : Char} {rest text : List Char} : c ≠ '"' → c ≠ '\\' → 32 ≤ c.toNat →
      Spells rest text → Spells (c :: rest) (c :: text)
  | letter {d c : Char} {rest text : List Char} : (d, c) ∈ letterEscapes → Spells rest text →
      Spells ('\\' :: d :: rest) (c :: text)
  | number {digits rest text : List Char} {c : Char} : HexUnit digits c.toNat → Spells rest text →
      Spells ('\\' :: 'u' :: (digits ++ rest)) (c :: text)
  | surrogates {high low rest text : List Char} {c : Char} : 0x10000 ≤ c.toNat →
      HexUnit high (0xD800 + (c.toNat - 0x10000) / 0x400) →
      HexUnit low (0xDC00 + (c.toNat - 0x10000) % 0x400) → Spells rest text →
      Spells ('\\' :: 'u' :: (high ++ '\\' :: 'u' :: (low ++ rest))) (c :: text)

/-- Text that needs no escape. -/
def Unescaped (text : List Char) : Prop := ∀ c ∈ text, c ≠ '"' ∧ c ≠ '\\' ∧ 32 ≤ c.toNat

instance : DecidablePred Unescaped := List.decidableBAll _

/-! ### Reading -/

theorem HexDigit.hexValue? {c : Char} {n : Nat} (h : HexDigit c n) : hexValue? c = some n := by
  have hboth : ∀ n : Fin 16, Json.hexValue? (hexDigit n.val) = some n.val ∧
      Json.hexValue? (hexDigit n.val).toUpper = some n.val := by decide
  obtain ⟨hn, rfl | rfl⟩ := h
  · exact (hboth ⟨n, hn⟩).1
  · exact (hboth ⟨n, hn⟩).2

namespace HexUnit

variable {digits : List Char} {n : Nat}

theorem length_eq (h : HexUnit digits n) : digits.length = 4 := by
  cases h
  rfl

theorem unit?_eq (h : HexUnit digits n) (rest : List Piece) :
    unit? (pieces digits ++ rest) = some n := by
  cases h with
  | digits ha hb hc hd =>
      simp only [pieces_cons, pieces_nil, List.cons_append, List.nil_append, unit?, ha.hexValue?,
        hb.hexValue?, hc.hexValue?, hd.hexValue?, Option.bind_eq_bind, Option.bind_some,
        Option.pure_def]

end HexUnit

theorem hexUnit_octet {n : Nat} (h : n < 256) :
    HexUnit ['0', '0', hexDigit (n / 16), hexDigit (n % 16)] n := by
  have hunit : HexUnit _ (((0 * 16 + 0) * 16 + n / 16) * 16 + n % 16) :=
    .digits ⟨by decide, .inl rfl⟩ ⟨by decide, .inl rfl⟩ ⟨by omega, .inl rfl⟩ ⟨by omega, .inl rfl⟩
  have hvalue : ((0 * 16 + 0) * 16 + n / 16) * 16 + n % 16 = n := by omega
  rwa [hvalue] at hunit

theorem escaped?_number {digits : List Char} {c : Char} (h : HexUnit digits c.toNat)
    (rest : List Piece) :
    escaped? (pieces ('u' :: digits) ++ rest) = some (c, digits.length + 1) := by
  have hvalid : c.toNat < 0xD800 ∨ 0xDFFF < c.toNat ∧ c.toNat < 0x110000 := c.valid
  have hlow : isLowSurrogate c.toNat = false := by
    simp only [isLowSurrogate, Bool.and_eq_false_iff, decide_eq_false_iff_not]
    omega
  have hhigh : isHighSurrogate c.toNat = false := by
    simp only [isHighSurrogate, Bool.and_eq_false_iff, decide_eq_false_iff_not]
    omega
  simp only [pieces_cons, List.cons_append, escaped?, if_true, codePoint?, h.unit?_eq,
    Option.bind_eq_bind, Option.bind_some, hlow, hhigh, Bool.false_eq_true, if_false,
    Option.pure_def, Option.map_some, Char.ofNat_toNat, h.length_eq]

theorem codePoint?_surrogates {high low : List Char} {n m : Nat} (hhigh : HexUnit high n)
    (hlow : HexUnit low m) (hn : 0xD800 ≤ n ∧ n ≤ 0xDBFF) (hm : 0xDC00 ≤ m ∧ m ≤ 0xDFFF)
    (rest : List Piece) :
    codePoint? (pieces (high ++ '\\' :: 'u' :: low) ++ rest) =
      some (.ofNat (0x10000 + (n - 0xD800) * 0x400 + (m - 0xDC00)), 10) := by
  have hnlow : isLowSurrogate n = false := by
    simp only [isLowSurrogate, Bool.and_eq_false_iff, decide_eq_false_iff_not]
    omega
  have hnhigh : isHighSurrogate n = true := by
    simp only [isHighSurrogate, Bool.and_eq_true, decide_eq_true_eq]
    exact hn
  have hmlow : isLowSurrogate m = true := by
    simp only [isLowSurrogate, Bool.and_eq_true, decide_eq_true_eq]
    exact hm
  have hdrop : (pieces high ++ (pieces ('\\' :: 'u' :: low) ++ rest)).drop 4 =
      pieces ('\\' :: 'u' :: low) ++ rest :=
    List.drop_left' ((length_pieces high).trans hhigh.length_eq)
  have hsecond : lowSurrogate? (pieces ('\\' :: 'u' :: low) ++ rest) = some m := by
    simp only [pieces_cons, List.cons_append, lowSurrogate?, hlow.unit?_eq, Option.filter_some,
      hmlow, if_true]
  rw [pieces_append, List.append_assoc, codePoint?, hhigh.unit?_eq, hdrop, hsecond]
  simp only [Option.bind_eq_bind, Option.bind_some, hnlow, hnhigh, Bool.false_eq_true, if_false,
    if_true, Option.pure_def]

theorem escaped?_surrogates {high low : List Char} {c : Char} (hc : 0x10000 ≤ c.toNat)
    (hhigh : HexUnit high (0xD800 + (c.toNat - 0x10000) / 0x400))
    (hlow : HexUnit low (0xDC00 + (c.toNat - 0x10000) % 0x400)) (rest : List Piece) :
    escaped? (pieces ('u' :: (high ++ '\\' :: 'u' :: low)) ++ rest) = some (c, 11) := by
  have hvalid : c.toNat < 0xD800 ∨ 0xDFFF < c.toNat ∧ c.toNat < 0x110000 := c.valid
  have hpair := codePoint?_surrogates hhigh hlow (by omega) (by omega) rest
  have hvalue : 0x10000 + (0xD800 + (c.toNat - 0x10000) / 0x400 - 0xD800) * 0x400 +
      (0xDC00 + (c.toNat - 0x10000) % 0x400 - 0xDC00) = c.toNat := by omega
  rw [hvalue, Char.ofNat_toNat] at hpair
  rw [pieces_cons, List.cons_append, escaped?, if_pos rfl, hpair]
  rfl

theorem contents?_spelt (spelt : List Char) (rest : List Piece) :
    contents? spelt.length (pieces spelt ++ rest) = contents? 0 rest := by
  induction spelt with
  | nil => rfl
  | cons c spelt ih =>
      rw [pieces_cons, List.cons_append, List.length_cons, contents?]
      exact ih

/-- A character is read from its escape, from the backslash on. -/
theorem contents?_escaped {c : Char} {spelt : List Char} {rest : List Piece}
    (h : escaped? (pieces spelt ++ rest) = some (c, spelt.length)) :
    contents? 0 (.char '\\' :: (pieces spelt ++ rest)) =
      (contents? 0 rest).map fun (chars, left) => (c :: chars, left) := by
  rw [contents?]
  simp only [show ('\\' : Char) ≠ '"' by decide, if_false, if_true, h, Option.bind_eq_bind,
    Option.bind_some, contents?_spelt, Option.pure_def]
  cases contents? 0 rest <;> rfl

theorem contents?_letter {c d : Char} (hd : letter? d = some c) (hu : d ≠ 'u') (rest : List Piece) :
    contents? 0 (.char '\\' :: .char d :: rest) =
      (contents? 0 rest).map fun (chars, left) => (c :: chars, left) := by
  have he : escaped? (pieces [d] ++ rest) = some (c, 1) := by
    simp only [pieces_cons, pieces_nil, List.singleton_append, escaped?, if_neg hu, hd,
      Option.map_some]
  exact contents?_escaped he

theorem contents?_plain {c : Char} (hquote : c ≠ '"') (hslash : c ≠ '\\')
    (hcontrol : ¬ c.toNat < 32) (rest : List Piece) :
    contents? 0 (.char c :: rest) =
      (contents? 0 rest).map fun (chars, left) => (c :: chars, left) := by
  rw [contents?]
  simp only [if_neg hquote, if_neg hslash, if_neg hcontrol, Option.bind_eq_bind, Option.pure_def]
  cases contents? 0 rest <;> rfl

namespace Spells

variable {spelling text : List Char}

/-- What a string spells is what is read from it. -/
theorem contents?_eq (h : Spells spelling text) (rest : List Piece) :
    contents? 0 (pieces spelling ++ .char '"' :: rest) = some (text, rest) := by
  induction h with
  | nil => rfl
  | plain hquote hslash hcontrol _ ih =>
      rw [pieces_cons, List.cons_append, contents?_plain hquote hslash (by omega), ih]
      rfl
  | @letter d c _ _ hd _ ih =>
      have hletter : letter? d = some c ∧ d ≠ 'u' := by
        simp only [letterEscapes, List.mem_cons, Prod.mk.injEq, List.not_mem_nil, or_false] at hd
        rcases hd with ⟨rfl, rfl⟩ | ⟨rfl, rfl⟩ | ⟨rfl, rfl⟩ | ⟨rfl, rfl⟩ | ⟨rfl, rfl⟩ | ⟨rfl, rfl⟩ |
          ⟨rfl, rfl⟩ | ⟨rfl, rfl⟩ <;> decide
      rw [pieces_cons, pieces_cons, List.cons_append, List.cons_append,
        contents?_letter hletter.1 hletter.2, ih]
      rfl
  | @number digits _ _ _ hdigits _ ih =>
      rw [pieces_cons, ← List.cons_append, pieces_append, List.cons_append, List.append_assoc,
        contents?_escaped (escaped?_number hdigits _), ih]
      rfl
  | @surrogates high low left _ _ hc hhigh hlow _ ih =>
      have hspelt : ('u' :: (high ++ '\\' :: 'u' :: low)).length = 11 := by
        simp [hhigh.length_eq, hlow.length_eq]
      have hescaped := escaped?_surrogates hc hhigh hlow (pieces left ++ .char '"' :: rest)
      have hsplit : 'u' :: (high ++ '\\' :: 'u' :: (low ++ left)) =
          'u' :: (high ++ '\\' :: 'u' :: low) ++ left := by simp
      rw [← hspelt] at hescaped
      rw [pieces_cons, hsplit, pieces_append, List.cons_append, List.append_assoc,
        contents?_escaped hescaped, ih]
      rfl

/-! ### Writing -/

theorem self (h : Unescaped text) : Spells text text := by
  induction text with
  | nil => exact .nil
  | cons c text ih =>
      obtain ⟨⟨hquote, hslash, hcontrol⟩, h⟩ := List.forall_mem_cons.mp h
      exact .plain hquote hslash hcontrol (ih h)

theorem escape_append (c : Char) (h : Spells spelling text) :
    Spells (escape c ++ spelling) (c :: text) := by
  unfold escape
  split
  · next hc => exact .letter (by rw [hc]; decide) h
  split
  · next hc => exact .letter (by rw [hc]; decide) h
  split
  · next hc => exact .letter (by rw [hc]; decide) h
  split
  · next hc => exact .letter (by rw [hc]; decide) h
  split
  · next hc => exact .letter (by rw [hc]; decide) h
  split
  · next hc => exact .letter (by rw [hc]; decide) h
  split
  · next hc => exact .letter (by rw [hc]; decide) h
  split
  · next hcontrol => exact .number (hexUnit_octet (by omega)) h
  · next hquote hslash _ _ _ _ _ hcontrol =>
    exact .plain hquote hslash (Nat.le_of_not_lt hcontrol) h

theorem flatMap_escape (text : List Char) : Spells (text.flatMap escape) text := by
  induction text with
  | nil => exact .nil
  | cons c text ih => exact ih.escape_append c

end Spells

end DeviceGateway.Json
