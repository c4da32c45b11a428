import DeviceGateway.Proofs.Text.Utf8
/-!
Octets are read as characters and invalid sequences without loss: written one after the other, the
pieces give back the octets. So octets spell a text only if they are the octets of that text.
-/
namespace DeviceGateway.Utf8

theorem octet_eq {b : UInt8} {n : Nat} (h : n = b.toNat) : UInt8.ofNat n = b := by
  rw [h, UInt8.ofNat_toNat]

section

variable {b c d e : UInt8} {n : Nat}

theorem encodeChar_of_two (hb : b.toNat = 0xC0 + n) (hn : 2 ≤ n ∧ n < 32)
    (hc : 0x80 ≤ c.toNat ∧ c.toNat ≤ 0xBF) :
    encodeChar (.ofNat (n * 64 + (c.toNat - 0x80))) = [b, c] := by
  rw [encodeChar, toNat_ofNat (by omega)]
  rw [if_neg (by omega), if_pos (by omega), octet_eq (b := b) (by omega),
    octet_eq (b := c) (by omega)]

theorem encodeChar_of_three (hb : b.toNat = 0xE0 + n) (hn : n < 16)
    (hc : 0x80 ≤ c.toNat ∧ c.toNat ≤ 0xBF) (hshort : n = 0 → 0xA0 ≤ c.toNat)
    (hsurrogate : n = 13 → c.toNat ≤ 0x9F) (hd : 0x80 ≤ d.toNat ∧ d.toNat ≤ 0xBF) :
    encodeChar (.ofNat ((n * 64 + (c.toNat - 0x80)) * 64 + (d.toNat - 0x80))) = [b, c, d] := by
  rw [encodeChar, toNat_ofNat (by omega)]
  rw [if_neg (by omega), if_neg (by omega), if_pos (by omega), octet_eq (b := b) (by omega),
    octet_eq (b := c) (by omega), octet_eq (b := d) (by omega)]

theorem encodeChar_of_four (hb : b.toNat = 0xF0 + n) (hn : n < 5)
    (hc : 0x80 ≤ c.toNat ∧ c.toNat ≤ 0xBF) (hshort : n = 0 → 0x90 ≤ c.toNat)
    (hlast : n = 4 → c.toNat ≤ 0x8F) (hd : 0x80 ≤ d.toNat ∧ d.toNat ≤ 0xBF)
    (he : 0x80 ≤ e.toNat ∧ e.toNat ≤ 0xBF) :
    encodeChar (.ofNat (((n * 64 + (c.toNat - 0x80)) * 64 + (d.toNat - 0x80)) * 64 +
      (e.toNat - 0x80))) = [b, c, d, e] := by
  rw [encodeChar, toNat_ofNat (by omega)]
  rw [if_neg (by omega), if_neg (by omega), if_neg (by omega), octet_eq (b := b) (by omega),
    octet_eq (b := c) (by omega), octet_eq (b := d) (by omega), octet_eq (b := e) (by omega)]

end

/-- A character begun whose octets so far begin each character that it may become. -/
inductive Begun : Partial → Prop
  | last {seen : Bytes} {least greatest value : Nat}
      (h : ∀ b : UInt8, least ≤ b.toNat → b.toNat ≤ greatest →
        encodeChar (.ofNat (value * 64 + (b.toNat - 0x80))) = seen ++ [b]) :
      Begun ⟨seen, 1, least, greatest, value⟩
  | more {seen : Bytes} {missing least greatest value : Nat}
      (h : ∀ b : UInt8, least ≤ b.toNat → b.toNat ≤ greatest →
        Begun ⟨seen ++ [b], missing + 1, 0x80, 0xBF, value * 64 + (b.toNat - 0x80)⟩) :
      Begun ⟨seen, missing + 2, least, greatest, value⟩

theorem begun_two {b : UInt8} (hleast : 0xC2 ≤ b.toNat) (hgreatest : b.toNat < 0xE0) :
    Begun ⟨[b], 1, 0x80, 0xBF, b.toNat - 0xC0⟩ :=
  .last fun _ h h' => encodeChar_of_two (by omega) (by omega) ⟨h, h'⟩

theorem begun_three {b : UInt8} {n least greatest : Nat} (hb : b.toNat = 0xE0 + n) (hn : n < 16)
    (hleast : 0x80 ≤ least ∧ (n = 0 → 0xA0 ≤ least))
    (hgreatest : greatest ≤ 0xBF ∧ (n = 13 → greatest ≤ 0x9F)) :
    Begun ⟨[b], 2, least, greatest, n⟩ :=
  .more fun _ h h' => .last fun _ hlast hlast' =>
    encodeChar_of_three hb hn (by omega) (by omega) (by omega) ⟨hlast, hlast'⟩

theorem begun_four {b : UInt8} {n least greatest : Nat} (hb : b.toNat = 0xF0 + n) (hn : n < 5)
    (hleast : 0x80 ≤ least ∧ (n = 0 → 0x90 ≤ least))
    (hgreatest : greatest ≤ 0xBF ∧ (n = 4 → greatest ≤ 0x8F)) :
    Begun ⟨[b], 3, least, greatest, n⟩ :=
  .more fun _ h h' => .more fun _ hthird hthird' => .last fun _ hlast hlast' =>
    encodeChar_of_four hb hn (by omega) (by omega) (by omega) ⟨hthird, hthird'⟩ ⟨hlast, hlast'⟩

/-- The octets of what was read, and of the character that is begun. -/
def spelled (pieces : List Piece) (begun : Option Partial) : Bytes :=
  pieces.flatMap Piece.octets ++ begun.elim [] Partial.seen

/-- An octet is read whole, and a character that it begins is begun well. -/
structure Lossless (before : Bytes) (read : List Piece × Option Partial) : Prop where
  spelled : spelled read.1 read.2 = before
  begun : ∀ p, read.2 = some p → Begun p

theorem opening_lossless (b : UInt8) : Lossless [b] (opening b) := by
  have hbegun {p : Partial} (hseen : p.seen = [b]) (hp : Begun p) : Lossless [b] ([], some p) :=
    ⟨hseen, fun q hq => Option.some.inj hq ▸ hp⟩
  have hread {piece : Piece} (h : piece.octets = [b]) : Lossless [b] ([piece], none) :=
    ⟨by simp [spelled, h], nofun⟩
  unfold opening
  dsimp only
  split
  · next hascii => exact hread (encodeChar_ascii hascii)
  split
  · exact hread rfl
  split
  · exact hbegun rfl (begun_two (by omega) (by omega))
  split
  · exact hbegun rfl (begun_three (by omega) (by decide) (by decide) (by decide))
  split
  · exact hbegun rfl (begun_three (by omega) (by decide) (by decide) (by decide))
  split
  · exact hbegun rfl (begun_three (by omega) (by omega) (by omega) (by omega))
  split
  · exact hbegun rfl (begun_four (by omega) (by decide) (by decide) (by decide))
  split
  · exact hbegun rfl (begun_four (by omega) (by omega) (by omega) (by omega))
  split
  · exact hbegun rfl (begun_four (by omega) (by decide) (by decide) (by decide))
  · exact hread rfl

theorem feed_lossless {begun : Option Partial} (h : ∀ p, begun = some p → Begun p) (b : UInt8) :
    Lossless (begun.elim [] Partial.seen ++ [b]) (feed begun b) := by
  cases begun with
  | none => exact opening_lossless b
  | some p =>
      unfold feed
      dsimp only
      split
      · next hrange =>
        cases h p rfl with
        | last hchar =>
            rw [if_pos (Nat.le_refl 1)]
            refine ⟨?_, nofun⟩
            rw [spelled, List.flatMap_singleton, Piece.octets, hchar b hrange.1 hrange.2]
            exact List.append_nil _
        | @more seen missing least greatest value hmore =>
            rw [if_neg (show ¬ missing + 2 ≤ 1 by omega)]
            exact ⟨rfl, fun q hq => Option.some.inj hq ▸ hmore b hrange.1 hrange.2⟩
      · -- What was begun stays unfinished, and the octet is read as the first of another character.
        have hopening := opening_lossless b
        refine ⟨?_, hopening.begun⟩
        rw [spelled, List.flatMap_cons, List.append_assoc, ← spelled, hopening.spelled]
        rfl

theorem octets_decodeFrom {begun : Option Partial} (h : ∀ p, begun = some p → Begun p)
    (octets : Bytes) :
    (decodeFrom begun octets).flatMap Piece.octets = begun.elim [] Partial.seen ++ octets := by
  induction octets generalizing begun with
  | nil => cases begun <;> simp [decodeFrom, Piece.octets]
  | cons b rest ih =>
      have hfeed := feed_lossless h b
      rw [decodeFrom, List.flatMap_append, ih hfeed.begun, ← List.append_assoc]
      rw [← spelled, hfeed.spelled, List.append_assoc, List.singleton_append]

theorem octets_decode (octets : Bytes) : (decode octets).flatMap Piece.octets = octets := by
  have hnone : ∀ p, (none : Option Partial) = some p → Begun p := nofun
  exact octets_decodeFrom hnone octets

theorem octets_of_text? {pieces : List Piece} {text : List Char} (h : text? pieces = some text) :
    pieces.flatMap Piece.octets = encode text := by
  induction pieces generalizing text with
  | nil =>
      cases h
      rfl
  | cons piece rest ih =>
      cases piece with
      | char c =>
          obtain ⟨after, hafter, rfl⟩ := Option.map_eq_some_iff.mp h
          rw [List.flatMap_cons, ih hafter, encode_cons]
          rfl
      | junk octets => cases h

/-- Octets spell a text exactly if they are its octets. -/
theorem text?_decode_eq_some_iff {octets : Bytes} {text : List Char} :
    text? (decode octets) = some text ↔ octets = encode text := by
  constructor
  · intro h
    rw [← octets_decode octets, octets_of_text? h]
  · rintro rfl
    rw [decode_encode, text?_map_char]

end DeviceGateway.Utf8

namespace DeviceGateway

theorem Bytes.toString?_eq_some_iff {octets : Bytes} {s : String} :
    octets.toString? = some s ↔ octets = .ofString s := by
  unfold Bytes.toString? Bytes.ofString
  rw [Option.map_eq_some_iff, ← Utf8.text?_decode_eq_some_iff]
  constructor
  · rintro ⟨text, htext, rfl⟩
    rw [htext, String.toList_ofList]
  · intro h
    exact ⟨s.toList, h, String.ofList_toList⟩

end DeviceGateway
