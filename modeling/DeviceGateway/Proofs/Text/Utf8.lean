import DeviceGateway.Text.Utf8
import Mathlib.Tactic.IntervalCases
/-!
Text is read back from its octets. A character's first octet tells how many follow it and bounds the
second one, so that no character has two spellings and none is spelled that is no character.
-/
namespace DeviceGateway.Utf8

theorem toNat_octet {n : Nat} (h : n < 256) : (UInt8.ofNat n).toNat = n :=
  UInt8.toNat_ofNat_of_lt' h

theorem toNat_ofNat {n : Nat} (h : n < 0xD800 ∨ 0xDFFF < n ∧ n < 0x110000) :
    (Char.ofNat n).toNat = n := by
  rw [Char.ofNat, dif_pos h]
  rfl

section

variable {seen : Bytes} {missing least greatest value n : Nat}

theorem decodeFrom_more (hleast : least ≤ 0x80 + n) (hgreatest : 0x80 + n ≤ greatest)
    (hn : n < 64) (rest : Bytes) :
    decodeFrom (some ⟨seen, missing + 2, least, greatest, value⟩) (.ofNat (0x80 + n) :: rest) =
      decodeFrom (some ⟨seen ++ [.ofNat (0x80 + n)], missing + 1, 0x80, 0xBF, value * 64 + n⟩)
        rest := by
  have hoctet : (UInt8.ofNat (0x80 + n)).toNat = 0x80 + n := toNat_octet (by omega)
  simp only [decodeFrom, feed, hoctet]
  rw [if_pos ⟨hleast, hgreatest⟩, if_neg (by omega), Nat.add_sub_cancel_left, List.nil_append]
  rfl

theorem decodeFrom_last (hleast : least ≤ 0x80 + n) (hgreatest : 0x80 + n ≤ greatest)
    (hn : n < 64) (rest : Bytes) :
    decodeFrom (some ⟨seen, 1, least, greatest, value⟩) (.ofNat (0x80 + n) :: rest) =
      .char (.ofNat (value * 64 + n)) :: decodeFrom none rest := by
  have hoctet : (UInt8.ofNat (0x80 + n)).toNat = 0x80 + n := toNat_octet (by omega)
  simp only [decodeFrom, feed, hoctet]
  rw [if_pos ⟨hleast, hgreatest⟩, if_pos (Nat.le_refl 1), Nat.add_sub_cancel_left,
    List.singleton_append]

end

theorem decodeFrom_two {n : Nat} (hleast : 2 ≤ n) (hn : n < 32) (rest : Bytes) :
    decodeFrom none (.ofNat (0xC0 + n) :: rest) =
      decodeFrom (some ⟨[.ofNat (0xC0 + n)], 1, 0x80, 0xBF, n⟩) rest := by
  have hoctet : (UInt8.ofNat (0xC0 + n)).toNat = 0xC0 + n := toNat_octet (by omega)
  have hopening : opening (.ofNat (0xC0 + n)) =
      ([], some ⟨[.ofNat (0xC0 + n)], 1, 0x80, 0xBF, n⟩) := by
    unfold opening
    simp only [hoctet]
    rw [if_neg (by omega), if_neg (by omega), if_pos (by omega), Nat.add_sub_cancel_left]
  rw [decodeFrom, feed, hopening, List.nil_append]

/-- The least octet that may follow the first of three, and the greatest: no character needs fewer,
and surrogates are none. -/
def secondOfThree (n : Nat) : Nat × Nat :=
  if n = 0 then (0xA0, 0xBF) else if n = 13 then (0x80, 0x9F) else (0x80, 0xBF)

theorem decodeFrom_three {n : Nat} (hn : n < 16) (rest : Bytes) :
    decodeFrom none (.ofNat (0xE0 + n) :: rest) =
      decodeFrom (some ⟨[.ofNat (0xE0 + n)], 2, (secondOfThree n).1, (secondOfThree n).2, n⟩)
        rest := by
  have hopening : opening (.ofNat (0xE0 + n)) =
      ([], some ⟨[.ofNat (0xE0 + n)], 2, (secondOfThree n).1, (secondOfThree n).2, n⟩) := by
    interval_cases n <;> rfl
  rw [decodeFrom, feed, hopening, List.nil_append]

/-- The same for the first of four. -/
def secondOfFour (n : Nat) : Nat × Nat :=
  if n = 0 then (0x90, 0xBF) else if n = 4 then (0x80, 0x8F) else (0x80, 0xBF)

theorem decodeFrom_four {n : Nat} (hn : n < 5) (rest : Bytes) :
    decodeFrom none (.ofNat (0xF0 + n) :: rest) =
      decodeFrom (some ⟨[.ofNat (0xF0 + n)], 3, (secondOfFour n).1, (secondOfFour n).2, n⟩)
        rest := by
  have hopening : opening (.ofNat (0xF0 + n)) =
      ([], some ⟨[.ofNat (0xF0 + n)], 3, (secondOfFour n).1, (secondOfFour n).2, n⟩) := by
    interval_cases n <;> rfl
  rw [decodeFrom, feed, hopening, List.nil_append]

theorem decodeFrom_encodeChar (c : Char) (rest : Bytes) :
    decodeFrom none (encodeChar c ++ rest) = .char c :: decodeFrom none rest := by
  have hvalid : c.toNat < 0xD800 ∨ 0xDFFF < c.toNat ∧ c.toNat < 0x110000 := c.valid
  have hchar : Char.ofNat c.toNat = c := Char.ofNat_toNat c
  generalize hn : c.toNat = n at hvalid hchar
  unfold encodeChar
  rw [hn]
  dsimp only
  split
  · next hone =>
    have hoctet : (UInt8.ofNat n).toNat = n := toNat_octet (by omega)
    rw [List.singleton_append, decodeFrom, feed, opening]
    simp only [hoctet, if_pos hone, hchar, List.singleton_append]
  split
  · next htwo =>
    rw [List.cons_append, List.singleton_append, decodeFrom_two (by omega) (by omega),
      decodeFrom_last (by omega) (by omega) (by omega)]
    rw [Nat.mul_comm, Nat.div_add_mod, hchar]
  split
  · next hthree =>
    have hsecond : (secondOfThree (n / 4096)).1 ≤ 0x80 + n / 64 % 64 ∧
        0x80 + n / 64 % 64 ≤ (secondOfThree (n / 4096)).2 := by
      unfold secondOfThree
      split
      · dsimp only
        omega
      · split <;> dsimp only <;> omega
    rw [List.cons_append, List.cons_append, List.singleton_append, decodeFrom_three (by omega),
      decodeFrom_more hsecond.1 hsecond.2 (by omega),
      decodeFrom_last (by omega) (by omega) (by omega)]
    have hvalue : (n / 4096 * 64 + n / 64 % 64) * 64 + n % 64 = n := by omega
    rw [hvalue, hchar]
  · next hfour =>
    have hsecond : (secondOfFour (n / 262144)).1 ≤ 0x80 + n / 4096 % 64 ∧
        0x80 + n / 4096 % 64 ≤ (secondOfFour (n / 262144)).2 := by
      unfold secondOfFour
      split
      · dsimp only
        omega
      · split <;> dsimp only <;> omega
    rw [List.cons_append, List.cons_append, List.cons_append, List.singleton_append,
      decodeFrom_four (by omega), decodeFrom_more hsecond.1 hsecond.2 (by omega),
      decodeFrom_more (by omega) (by omega) (by omega),
      decodeFrom_last (by omega) (by omega) (by omega)]
    have hvalue : ((n / 262144 * 64 + n / 4096 % 64) * 64 + n / 64 % 64) * 64 + n % 64 = n := by
      omega
    rw [hvalue, hchar]

/-- Text is read back from its octets, whatever follows them. -/
theorem decode_encode_append (text : List Char) (rest : Bytes) :
    decode (encode text ++ rest) = text.map .char ++ decode rest := by
  induction text with
  | nil => rfl
  | cons c text ih =>
      rw [encode_cons, List.append_assoc, decode, decodeFrom_encodeChar]
      exact congrArg (.char c :: ·) ih

theorem decode_encode (text : List Char) : decode (encode text) = text.map .char := by
  have happend := decode_encode_append text []
  rwa [List.append_nil, show decode [] = [] from rfl, List.append_nil] at happend

theorem encode_injective : Function.Injective encode := by
  intro text text' h
  have hread := congrArg decode h
  rw [decode_encode, decode_encode] at hread
  exact (List.map_inj_right fun _ _ => Piece.char.inj).mp hread

theorem encodeChar_ascii {b : UInt8} (h : b.toNat < 128) : encodeChar (.ofNat b.toNat) = [b] := by
  have hchar : ∀ n : Fin 128, encodeChar (.ofNat n.val) = [.ofNat n.val] := by decide
  rw [hchar ⟨b.toNat, h⟩, UInt8.ofNat_toNat]

/-- An ASCII character is one octet, and others have none of those octets. -/
theorem encodeChar_cases (c : Char) :
    (c.toNat < 0x80 ∧ encodeChar c = [.ofNat c.toNat]) ∨
      (0x80 ≤ c.toNat ∧ ∀ b ∈ encodeChar c, 0x80 ≤ b.toNat) := by
  have hc : c.toNat < 0x110000 := by
    have hvalid : c.toNat < 0xD800 ∨ 0xDFFF < c.toNat ∧ c.toNat < 0x110000 := c.valid
    omega
  have hhigh {n : Nat} (hn : 0x80 ≤ n) (hoctet : n < 256) : 0x80 ≤ (UInt8.ofNat n).toNat := by
    rwa [toNat_octet hoctet]
  unfold encodeChar
  dsimp only
  split
  · next hascii => exact .inl ⟨hascii, rfl⟩
  · next hascii =>
    refine .inr ⟨Nat.le_of_not_lt hascii, ?_⟩
    split
    · exact List.forall_mem_cons.mpr ⟨hhigh (by omega) (by omega),
        List.forall_mem_singleton.mpr (hhigh (by omega) (by omega))⟩
    split
    · exact List.forall_mem_cons.mpr ⟨hhigh (by omega) (by omega),
        List.forall_mem_cons.mpr ⟨hhigh (by omega) (by omega),
          List.forall_mem_singleton.mpr (hhigh (by omega) (by omega))⟩⟩
    · exact List.forall_mem_cons.mpr ⟨hhigh (by omega) (by omega),
        List.forall_mem_cons.mpr ⟨hhigh (by omega) (by omega),
          List.forall_mem_cons.mpr ⟨hhigh (by omega) (by omega),
            List.forall_mem_singleton.mpr (hhigh (by omega) (by omega))⟩⟩⟩

theorem eq_of_getElem?_encodeChar {c : Char} {n : Nat} {b : UInt8} (hb : b.toNat < 0x80)
    (h : (encodeChar c)[n]? = some b) : n = 0 ∧ c = .ofNat b.toNat := by
  rcases encodeChar_cases c with ⟨hascii, hc⟩ | ⟨_, hoctets⟩
  · rw [hc, List.getElem?_singleton] at h
    split at h
    · next hn =>
      cases h
      rw [toNat_octet (by omega), Char.ofNat_toNat]
      exact ⟨hn, rfl⟩
    · cases h
  · exact absurd hb (Nat.not_lt.mpr (hoctets b (List.mem_of_getElem? h)))

theorem length_encodeChar (c : Char) : (encodeChar c).length = c.utf8Size := by
  have hval (n : Nat) (hn : n < 2 ^ 32) : c.val ≤ .ofNatLT n hn ↔ c.toNat < n + 1 :=
    Nat.lt_succ_iff.symm
  unfold encodeChar Char.utf8Size
  simp only [hval, Nat.reduceAdd, apply_ite List.length]
  rfl

theorem length_encode (text : List Char) : (encode text).length = size text := by
  induction text with
  | nil => rfl
  | cons c rest ih => rw [encode_cons, List.length_append, length_encodeChar, ih, size]

end DeviceGateway.Utf8
