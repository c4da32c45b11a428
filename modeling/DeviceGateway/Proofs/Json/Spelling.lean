import DeviceGateway.Proofs.Json.Text
import DeviceGateway.Proofs.Text.Utf8
import Mathlib.Tactic.SplitIfs
/-!
What is read as a string was spelled. Each escape that is read is one of those that stand for its
character, and so whatever was taken up to the closing quote spells the text that was read.
-/
namespace DeviceGateway.Json

open Utf8 (Piece)

theorem hexDigit_of_hexValue? {c : Char} {n : Nat} (h : hexValue? c = some n) : HexDigit c n := by
  have hall : ∀ k : Fin 128, ∀ n ∈ hexValue? (.ofNat k.val), HexDigit (.ofNat k.val) n := by
    decide +kernel
  have hascii : c.toNat < 128 := by
    simp only [hexValue?] at h
    split at h
    · omega
    split at h
    · omega
    split at h
    · omega
    · cases h
  have hdigit := hall ⟨c.toNat, hascii⟩ n
  rw [Char.ofNat_toNat] at hdigit
  exact hdigit h

theorem exists_of_unit? {input : List Piece} {n : Nat} (h : unit? input = some n) :
    ∃ digits rest, HexUnit digits n ∧ n < 65536 ∧ input = pieces digits ++ rest := by
  unfold unit? at h
  split at h
  · next a b c d rest =>
    obtain ⟨i, ha, h⟩ := Option.bind_eq_some_iff.mp h
    obtain ⟨j, hb, h⟩ := Option.bind_eq_some_iff.mp h
    obtain ⟨k, hc, h⟩ := Option.bind_eq_some_iff.mp h
    obtain ⟨l, hd, h⟩ := Option.bind_eq_some_iff.mp h
    cases h
    have ha := hexDigit_of_hexValue? ha
    have hb := hexDigit_of_hexValue? hb
    have hc := hexDigit_of_hexValue? hc
    have hd := hexDigit_of_hexValue? hd
    have hi := ha.1
    have hj := hb.1
    have hk := hc.1
    have hl := hd.1
    exact ⟨[a, b, c, d], rest, .digits ha hb hc hd, by omega, rfl⟩
  · cases h

/-- After a backslash, these characters spell a character. -/
def Escapes (spelt : List Char) (c : Char) : Prop :=
  ∀ rest text, Spells rest text → Spells ('\\' :: (spelt ++ rest)) (c :: text)

theorem exists_of_lowSurrogate? {input : List Piece} {m : Nat} (h : lowSurrogate? input = some m) :
    ∃ digits rest, HexUnit digits m ∧ 0xDC00 ≤ m ∧ m ≤ 0xDFFF ∧
      input = pieces ('\\' :: 'u' :: digits) ++ rest := by
  unfold lowSurrogate? at h
  split at h
  · obtain ⟨hunit, hlow⟩ := Option.filter_eq_some_iff.mp h
    obtain ⟨digits, rest, hdigits, _, rfl⟩ := exists_of_unit? hunit
    simp only [isLowSurrogate, Bool.and_eq_true, decide_eq_true_eq] at hlow
    exact ⟨digits, rest, hdigits, hlow.1, hlow.2, rfl⟩
  · cases h

/-- A pair of surrogates spells a character beyond the reach of one unit. -/
theorem escapes_surrogates {high low : List Char} {n m : Nat} (hhigh : HexUnit high n)
    (hlow : HexUnit low m) (hn : 0xD800 ≤ n ∧ n ≤ 0xDBFF) (hm : 0xDC00 ≤ m ∧ m ≤ 0xDFFF) :
    Escapes ('u' :: (high ++ '\\' :: 'u' :: low))
      (.ofNat (0x10000 + (n - 0xD800) * 0x400 + (m - 0xDC00))) := by
  intro rest text hrest
  generalize hvalue : 0x10000 + (n - 0xD800) * 0x400 + (m - 0xDC00) = value
  have hvalid : value.isValidChar := by
    unfold Nat.isValidChar
    omega
  have hfirst : n = 0xD800 + (value - 0x10000) / 0x400 := by omega
  have hsecond : m = 0xDC00 + (value - 0x10000) % 0x400 := by omega
  rw [hfirst, ← Utf8.toNat_ofNat hvalid] at hhigh
  rw [hsecond, ← Utf8.toNat_ofNat hvalid] at hlow
  have hlarge : 0x10000 ≤ (Char.ofNat value).toNat := by
    rw [Utf8.toNat_ofNat hvalid]
    omega
  simpa using Spells.surrogates hlarge hhigh hlow hrest

theorem exists_of_codePoint? {input : List Piece} {c : Char} {k : Nat}
    (h : codePoint? input = some (c, k)) :
    ∃ spelt rest, Escapes ('u' :: spelt) c ∧ spelt.length = k ∧ input = pieces spelt ++ rest := by
  obtain ⟨n, hn, h⟩ := Option.bind_eq_some_iff.mp h
  obtain ⟨digits, rest, hdigits, hlt, rfl⟩ := exists_of_unit? hn
  split at h
  · cases h
  next hlow =>
  simp only [isLowSurrogate, Bool.and_eq_true, decide_eq_true_eq, not_and] at hlow
  split at h
  · next hhigh =>
    simp only [isHighSurrogate, Bool.and_eq_true, decide_eq_true_eq] at hhigh
    obtain ⟨m, hm, h⟩ := Option.bind_eq_some_iff.mp h
    simp only [Option.pure_def, Option.some.injEq, Prod.mk.injEq] at h
    obtain ⟨rfl, rfl⟩ := h
    have hdrop : (pieces digits ++ rest).drop 4 = rest :=
      List.drop_left' ((length_pieces digits).trans hdigits.length_eq)
    rw [hdrop] at hm
    obtain ⟨low, more, hsecond, hleast, hgreatest, rfl⟩ := exists_of_lowSurrogate? hm
    refine ⟨digits ++ '\\' :: 'u' :: low, more,
      escapes_surrogates hdigits hsecond hhigh ⟨hleast, hgreatest⟩, ?_, ?_⟩
    · simp [hdigits.length_eq, hsecond.length_eq]
    · simp
  · next hhigh =>
    simp only [isHighSurrogate, Bool.and_eq_true, decide_eq_true_eq, not_and] at hhigh
    simp only [Option.pure_def, Option.some.injEq, Prod.mk.injEq] at h
    obtain ⟨rfl, rfl⟩ := h
    have hvalid : n.isValidChar := by
      unfold Nat.isValidChar
      omega
    refine ⟨digits, rest, ?_, hdigits.length_eq, rfl⟩
    intro more text hmore
    rw [← Utf8.toNat_ofNat hvalid] at hdigits
    exact .number hdigits hmore

theorem mem_letterEscapes {d c : Char} (h : letter? d = some c) : (d, c) ∈ letterEscapes := by
  unfold letter? at h
  split_ifs at h with hself
  · cases h
    rcases hself with rfl | rfl | rfl <;> decide
  all_goals
    cases h
    subst_vars
    decide

/-- What an escape is read from spells the character. -/
theorem exists_of_escaped? {input : List Piece} {c : Char} {k : Nat}
    (h : escaped? input = some (c, k)) :
    ∃ spelt rest, Escapes spelt c ∧ spelt.length = k ∧ input = pieces spelt ++ rest := by
  unfold escaped? at h
  split at h
  · next d rest =>
    split at h
    · next hu =>
      obtain ⟨⟨e, j⟩, hpoint, heq⟩ := Option.map_eq_some_iff.mp h
      cases heq
      obtain ⟨spelt, more, hescapes, rfl, rfl⟩ := exists_of_codePoint? hpoint
      exact ⟨'u' :: spelt, more, hescapes, rfl, by rw [hu]; rfl⟩
    · obtain ⟨e, hletter, heq⟩ := Option.map_eq_some_iff.mp h
      cases heq
      exact ⟨[d], rest, fun _ _ => .letter (mem_letterEscapes hletter), rfl, rfl⟩
  · cases h

theorem pieces_injective : Function.Injective pieces := by
  intro first second h
  have hlossy := congrArg Utf8.lossy h
  rwa [pieces, pieces, Utf8.lossy_map_char, Utf8.lossy_map_char] at hlossy

/-- What was taken up to the closing quote spells what was read; pieces that belong to an escape
before it are passed over. -/
theorem exists_of_contents? {input left : List Piece} {spelt : Nat} {chars : List Char}
    (h : contents? spelt input = some (chars, left)) :
    ∃ skipped spelling, skipped.length = spelt ∧ Spells spelling chars ∧
      input = pieces (skipped ++ (spelling ++ ['"'])) ++ left := by
  induction input generalizing spelt chars with
  | nil => cases h
  | cons p input ih =>
      cases p with
      | junk octets => cases h
      | char c =>
          unfold contents? at h
          cases spelt with
          | succ k =>
              obtain ⟨skipped, spelling, rfl, hspells, rfl⟩ := ih h
              exact ⟨c :: skipped, spelling, rfl, hspells, rfl⟩
          | zero =>
              dsimp only at h
              split at h
              · next hquote =>
                cases h
                exact ⟨[], [], rfl, .nil, by rw [hquote]; rfl⟩
              next hquote =>
              split at h
              · next hslash =>
                obtain ⟨⟨d, k⟩, hescaped, h⟩ := Option.bind_eq_some_iff.mp h
                obtain ⟨⟨rest, more⟩, hrest, h⟩ := Option.bind_eq_some_iff.mp h
                cases h
                obtain ⟨skipped, spelling, hlength, hspells, rfl⟩ := ih hrest
                obtain ⟨spelt, after, hescapes, hk, heq⟩ := exists_of_escaped? hescaped
                obtain rfl : skipped = spelt := by
                  rw [pieces_append, List.append_assoc] at heq
                  have hpieces : pieces skipped = pieces spelt := by
                    apply List.append_inj_left heq
                    rw [length_pieces, length_pieces, hlength, hk]
                  exact pieces_injective hpieces
                refine ⟨[], '\\' :: (skipped ++ spelling), rfl, hescapes _ _ hspells, ?_⟩
                simp [hslash]
              split at h
              · cases h
              · next hslash hcontrol =>
                obtain ⟨⟨rest, more⟩, hrest, h⟩ := Option.bind_eq_some_iff.mp h
                cases h
                obtain ⟨skipped, spelling, hlength, hspells, rfl⟩ := ih hrest
                obtain rfl := List.length_eq_zero_iff.mp hlength
                exact ⟨[], c :: spelling, rfl,
                  .plain hquote hslash (Nat.le_of_not_lt hcontrol) hspells, rfl⟩

end DeviceGateway.Json
