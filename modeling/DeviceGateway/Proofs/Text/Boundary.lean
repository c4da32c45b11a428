import DeviceGateway.Proofs.Text.Utf8
import Mathlib.Data.List.Infix
/-!
Where text may be cut. The indices that the octets show to be boundaries are the lengths of the
text's initial parts, so the search for the last boundary up to a limit ends where the longest part
within the limit does, and what is cut there is text again.
-/
namespace DeviceGateway.Utf8

/-- The octets of a character: one that begins it, and others that go on with it. -/
theorem exists_encodeChar_eq (c : Char) :
    ∃ first more, encodeChar c = first :: more ∧ isContinuation first = false ∧
      ∀ b ∈ more, isContinuation b = true := by
  have hc : c.toNat < 0x110000 := by
    have hvalid : c.toNat < 0xD800 ∨ 0xDFFF < c.toNat ∧ c.toNat < 0x110000 := c.valid
    omega
  have hfirst {n : Nat} (hn : n < 0x80 ∨ 0xC0 ≤ n) (hoctet : n < 256) :
      isContinuation (.ofNat n) = false := by
    unfold isContinuation
    rw [toNat_octet hoctet, Bool.and_eq_false_iff, decide_eq_false_iff_not,
      decide_eq_false_iff_not]
    omega
  have hmore {n : Nat} (hn : n < 64) : isContinuation (.ofNat (0x80 + n)) = true := by
    unfold isContinuation
    rw [toNat_octet (by omega), Bool.and_eq_true, decide_eq_true_eq, decide_eq_true_eq]
    omega
  unfold encodeChar
  dsimp only
  split
  · exact ⟨_, _, rfl, hfirst (by omega) (by omega), List.forall_mem_nil _⟩
  split
  · refine ⟨_, _, rfl, hfirst (by omega) (by omega), ?_⟩
    exact List.forall_mem_singleton.mpr (hmore (by omega))
  split
  · refine ⟨_, _, rfl, hfirst (by omega) (by omega), ?_⟩
    exact List.forall_mem_cons.mpr ⟨hmore (by omega),
      List.forall_mem_singleton.mpr (hmore (by omega))⟩
  · refine ⟨_, _, rfl, hfirst (by omega) (by omega), ?_⟩
    exact List.forall_mem_cons.mpr ⟨hmore (by omega), List.forall_mem_cons.mpr ⟨hmore (by omega),
      List.forall_mem_singleton.mpr (hmore (by omega))⟩⟩

theorem length_encodeChar_pos (c : Char) : 0 < (encodeChar c).length :=
  length_encodeChar c ▸ c.utf8Size_pos

theorem length_encode_pos {text : List Char} (h : text ≠ []) : 0 < (encode text).length := by
  obtain ⟨c, rest, rfl⟩ := List.exists_cons_of_ne_nil h
  rw [encode_cons, List.length_append]
  exact Nat.add_pos_left (length_encodeChar_pos c) _

theorem getElem?_encode (before : List Char) (c : Char) (rest : List Char) {n : Nat}
    (hn : n < (encodeChar c).length) :
    (encode (before ++ c :: rest))[(encode before).length + n]? = (encodeChar c)[n]? := by
  rw [encode_append, List.getElem?_append_right (Nat.le_add_right _ _), Nat.add_sub_cancel_left,
    encode_cons, List.getElem?_append_left hn]

/-! ### Boundaries -/

/-- Past the first character, the boundaries are those of the text behind it. -/
theorem isBoundary_encode_cons {c : Char} {rest : List Char} {n : Nat} :
    isBoundary (encode (c :: rest)) ((encodeChar c).length + n) = isBoundary (encode rest) n := by
  have hpos := length_encodeChar_pos c
  -- Where the text behind begins, its first octet is looked at, if there is one.
  have hzero : n = 0 → n = (encode rest).length ∨
      (encode rest)[n]?.any (fun b => !isContinuation b) = true := by
    rintro rfl
    cases rest with
    | nil => exact .inl rfl
    | cons d rest =>
        obtain ⟨first, more, hd, hfirst, _⟩ := exists_encodeChar_eq d
        rw [encode_cons, hd, List.cons_append, List.getElem?_cons_zero, Option.any_some, hfirst]
        exact .inr rfl
  unfold isBoundary
  rw [encode_cons, List.length_append, List.getElem?_append_right (Nat.le_add_right _ _),
    Nat.add_sub_cancel_left, Bool.eq_iff_iff]
  simp only [Bool.or_eq_true, decide_eq_true_eq]
  constructor
  · rintro ((h | h) | h)
    · omega
    · exact .inl (.inr (Nat.add_left_cancel h))
    · exact .inr h
  · rintro ((h | h) | h)
    · rcases hzero h with h | h
      · exact .inl (.inr (by rw [h]))
      · exact .inr h
    · exact .inl (.inr (by rw [h]))
    · exact .inr h

/-- Within a character there are none. -/
theorem isBoundary_within {c : Char} {rest : List Char} {n : Nat} (hpos : 0 < n)
    (hn : n < (encodeChar c).length) : isBoundary (encode (c :: rest)) n = false := by
  obtain ⟨first, more, hc, _, hmore⟩ := exists_encodeChar_eq c
  obtain ⟨k, rfl⟩ : ∃ k, n = k + 1 := ⟨n - 1, by omega⟩
  rw [hc, List.length_cons] at hn
  have hk : k < more.length := Nat.lt_of_succ_lt_succ hn
  have hoctet : (encode (c :: rest))[k + 1]? = some more[k] := by
    rw [encode_cons, hc, List.cons_append, List.getElem?_cons_succ, List.getElem?_append_left hk,
      List.getElem?_eq_getElem hk]
  have hlength : (encode (c :: rest)).length = more.length + 1 + (encode rest).length := by
    rw [encode_cons, List.length_append, hc, List.length_cons]
  unfold isBoundary
  rw [hoctet, hlength, Option.any_some, hmore _ (List.getElem_mem hk), Bool.not_true,
    Bool.or_false, Bool.or_eq_false_iff, decide_eq_false_iff_not, decide_eq_false_iff_not]
  omega

/-- The boundaries of a text are the numbers of octets of its initial parts. -/
theorem isBoundary_encode_iff {text : List Char} {n : Nat} :
    isBoundary (encode text) n = true ↔ ∃ part, part <+: text ∧ (encode part).length = n := by
  induction text generalizing n with
  | nil =>
      simp only [List.prefix_nil, exists_eq_left, encode_nil, List.length_nil]
      unfold isBoundary
      simp only [List.getElem?_nil, Option.any_none, Bool.or_false, List.length_nil, Bool.or_self,
        decide_eq_true_eq]
      exact eq_comm
  | cons c rest ih =>
      rcases Nat.eq_zero_or_pos n with rfl | hpos
      · exact ⟨fun _ => ⟨[], List.nil_prefix, rfl⟩, fun _ => rfl⟩
      rcases Nat.lt_or_ge n (encodeChar c).length with hn | hn
      · rw [isBoundary_within hpos hn]
        constructor
        · exact nofun
        · rintro ⟨part, hpart, hlength⟩
          cases part with
          | nil => exact absurd hlength (Nat.ne_of_lt hpos)
          | cons d part =>
              rw [(List.cons_prefix_cons.mp hpart).1, encode_cons, List.length_append] at hlength
              omega
      · obtain ⟨k, rfl⟩ : ∃ k, n = (encodeChar c).length + k := ⟨_, (Nat.add_sub_cancel' hn).symm⟩
        rw [isBoundary_encode_cons, ih]
        constructor
        · rintro ⟨part, hpart, rfl⟩
          exact ⟨c :: part, List.cons_prefix_cons.mpr ⟨rfl, hpart⟩, List.length_append⟩
        · rintro ⟨part, hpart, hlength⟩
          cases part with
          | nil =>
              rw [encode_nil, List.length_nil] at hlength
              omega
          | cons d part =>
              obtain ⟨rfl, hrest⟩ := List.cons_prefix_cons.mp hpart
              rw [encode_cons, List.length_append] at hlength
              exact ⟨part, hrest, Nat.add_left_cancel hlength⟩

/-! ### The search -/

variable {octets : Bytes} {n : Nat}

theorem floorBoundary_le : floorBoundary octets n ≤ n := by
  induction n with
  | zero => exact Nat.le_refl 0
  | succ n ih =>
      unfold floorBoundary
      split
      · exact Nat.le_refl _
      · exact Nat.le_succ_of_le ih

theorem isBoundary_floorBoundary : isBoundary octets (floorBoundary octets n) = true := by
  induction n with
  | zero => rfl
  | succ n ih =>
      unfold floorBoundary
      split
      · next hboundary => exact hboundary
      · exact ih

/-- The search passes no boundary over. -/
theorem le_floorBoundary {m : Nat} (hm : m ≤ n) (hboundary : isBoundary octets m = true) :
    m ≤ floorBoundary octets n := by
  induction n with
  | zero => exact hm
  | succ n ih =>
      unfold floorBoundary
      split
      · exact hm
      · next hnot =>
        refine ih (Nat.le_of_lt_succ (lt_of_le_of_ne hm ?_))
        rintro rfl
        exact hnot hboundary

/-! ### Texts that are cut -/

/-- The longest initial part of a text that has at most `limit` octets. -/
structure LongestPart (limit : Nat) (text part : List Char) : Prop where
  initial : part <+: text
  short : (encode part).length ≤ limit
  longest : ∀ other, other <+: text → (encode other).length ≤ limit → other <+: part

theorem length_encode_le {part text : List Char} (h : part <+: text) :
    (encode part).length ≤ (encode text).length := by
  obtain ⟨rest, rfl⟩ := h
  rw [encode_append, List.length_append]
  exact Nat.le_add_right _ _

/-- Of two initial parts, the one with no more octets is part of the other. -/
theorem prefix_of_length_le {part other text : List Char} (hpart : part <+: text)
    (hother : other <+: text) (hlength : (encode other).length ≤ (encode part).length) :
    other <+: part := by
  rcases List.prefix_or_prefix_of_prefix hother hpart with h | h
  · exact h
  · obtain ⟨rest, rfl⟩ := h
    cases rest with
    | nil => rw [List.append_nil]
    | cons c rest =>
        obtain ⟨first, more, hc, _, _⟩ := exists_encodeChar_eq c
        rw [encode_append, encode_cons, hc, List.length_append, List.cons_append,
          List.length_cons] at hlength
        omega

/-- What is left ends where the search ends, and nowhere within a character. -/
theorem encode_truncate (limit : Nat) (text : List Char) :
    truncate limit text <+: text ∧
      (encode (truncate limit text)).length =
        floorBoundary (encode text) (min limit (encode text).length) := by
  have hfloor : isBoundary (encode text)
      (floorBoundary (encode text) (min limit (encode text).length)) = true :=
    isBoundary_floorBoundary
  obtain ⟨part, hpart, hlength⟩ := isBoundary_encode_iff.mp hfloor
  have htake : (encode text).take (encode part).length = encode part := by
    obtain ⟨rest, rfl⟩ := hpart
    rw [encode_append, List.take_left']
    rfl
  have htruncate : truncate limit text = part := by
    unfold truncate
    dsimp only
    rw [← hlength, htake, decode_encode, lossy_map_char]
  rw [htruncate]
  exact ⟨hpart, hlength⟩

theorem longestPart_truncate (limit : Nat) (text : List Char) :
    LongestPart limit text (truncate limit text) := by
  obtain ⟨hinitial, hlength⟩ := encode_truncate limit text
  refine ⟨hinitial, ?_, ?_⟩
  · rw [hlength]
    exact floorBoundary_le.trans (min_le_left _ _)
  · intro other hother hshort
    apply prefix_of_length_le hinitial hother
    rw [hlength]
    exact le_floorBoundary (le_min hshort (length_encode_le hother))
      (isBoundary_encode_iff.mpr ⟨other, hother, rfl⟩)

theorem truncate_eq_self_iff {limit : Nat} {text : List Char} :
    truncate limit text = text ↔ size text ≤ limit := by
  have hlongest := longestPart_truncate limit text
  rw [← length_encode]
  constructor
  · intro h
    rw [← h]
    exact hlongest.short
  · intro h
    exact hlongest.initial.eq_of_length_le (hlongest.longest text List.prefix_rfl h).length_le

theorem truncate_zero (text : List Char) : truncate 0 text = [] := by
  have hshort := (longestPart_truncate 0 text).short
  cases h : truncate 0 text with
  | nil => rfl
  | cons c rest =>
      obtain ⟨first, more, hc, _, _⟩ := exists_encodeChar_eq c
      rw [h, encode_cons, hc, List.cons_append, List.length_cons] at hshort
      omega

end DeviceGateway.Utf8
