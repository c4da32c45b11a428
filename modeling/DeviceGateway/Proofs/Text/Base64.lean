import DeviceGateway.Proofs.Text.Utf8
import DeviceGateway.Text.Base64
/-!
Base64 as RFC 4648 has it: three octets and four symbols are digits of one number, to the bases 256
and 64, and a last group that is short of octets is filled up with zero bits and padding. Of each
octet string there is one such text, and it is the only one that is read as that string.
-/
namespace DeviceGateway.Base64

def alphabet : Bytes :=
  Bytes.ofString "ABCDEFGHIJKLMNOPQRSTUVWXYZabcdefghijklmnopqrstuvwxyz0123456789+/"

def Stands (b : UInt8) (digit : Nat) : Prop := alphabet[digit]? = some b

/-- A text is the Base64 of an octet string. -/
inductive Written : Bytes → Bytes → Prop
  | nil : Written [] []
  | one {a s t : UInt8} {i j : Nat} : Stands s i → Stands t j → a.toNat * 16 = i * 64 + j →
      Written [a] [s, t, pad, pad]
  | two {a b s t u : UInt8} {i j k : Nat} : Stands s i → Stands t j → Stands u k →
      (a.toNat * 256 + b.toNat) * 4 = (i * 64 + j) * 64 + k → Written [a, b] [s, t, u, pad]
  | three {a b c s t u v : UInt8} {i j k l : Nat} {octets text : Bytes} : Stands s i →
      Stands t j → Stands u k → Stands v l →
      (a.toNat * 256 + b.toNat) * 256 + c.toNat = ((i * 64 + j) * 64 + k) * 64 + l →
      Written octets text → Written (a :: b :: c :: octets) (s :: t :: u :: v :: text)

/-! ### Symbols -/

theorem stands_symbol {n : Nat} (h : n < 64) : Stands (symbol n) n := by
  have hall : ∀ n : Fin 64, alphabet[n.val]? = some (symbol n.val) := by decide +kernel
  exact hall ⟨n, h⟩

theorem stands_iff {b : UInt8} {n : Nat} : Stands b n ↔ group? b = some n := by
  have hread : ∀ b : Fin 256, ∀ n ∈ group? (.ofNat b.val), alphabet[n]? = some (.ofNat b.val) := by
    decide +kernel
  have hwritten : ∀ n : Fin 64, ∀ b ∈ alphabet[n.val]?, group? b = some n.val := by
    decide +kernel
  constructor
  · intro h
    obtain ⟨hn, _⟩ := List.getElem?_eq_some_iff.mp h
    exact hwritten ⟨n, hn⟩ b h
  · intro h
    have hoctet := hread ⟨b.toNat, b.toNat_lt⟩ n
    rw [UInt8.ofNat_toNat] at hoctet
    exact hoctet h

namespace Stands

variable {b : UInt8} {n : Nat}

theorem lt (h : Stands b n) : n < 64 := (List.getElem?_eq_some_iff.mp h).1

theorem eq_symbol (h : Stands b n) : b = symbol n :=
  Option.some.inj (h.symm.trans (stands_symbol h.lt))

theorem ne_pad (h : Stands b n) : b ≠ pad := by
  rintro rfl
  have hnone : group? pad = none := by decide
  exact nomatch hnone.symm.trans (stands_iff.mp h)

end Stands

/-! ### Writing -/

/-- What is written is the Base64 of the octets. -/
theorem written_encode (octets : Bytes) : Written octets (encode octets) := by
  induction octets using encode.induct with
  | case1 => exact .nil
  | case2 a =>
      have ha := a.toNat_lt
      exact .one (stands_symbol (by omega)) (stands_symbol (by omega)) (by omega)
  | case3 a b =>
      have ha := a.toNat_lt
      have hb := b.toNat_lt
      exact .two (stands_symbol (by omega)) (stands_symbol (by omega)) (stands_symbol (by omega))
        (by omega)
  | case4 a b c rest ih =>
      have ha := a.toNat_lt
      have hb := b.toNat_lt
      have hc := c.toNat_lt
      exact .three (stands_symbol (by omega)) (stands_symbol (by omega))
        (stands_symbol (by omega)) (stands_symbol (by omega)) (by omega) ih

/-- Octets have no other Base64 than what is written for them. -/
theorem Written.eq_encode {octets text : Bytes} (h : Written octets text) :
    text = encode octets := by
  induction h with
  | nil => rfl
  | @one a s t i j hs ht hvalue =>
      have hj := ht.lt
      obtain ⟨rfl, rfl⟩ : i = a.toNat / 4 ∧ j = a.toNat % 4 * 16 := by omega
      rw [hs.eq_symbol, ht.eq_symbol]
      rfl
  | @two a b s t u i j k hs ht hu hvalue =>
      have hj := ht.lt
      have hk := hu.lt
      have hb := b.toNat_lt
      obtain ⟨rfl, rfl, rfl⟩ : i = a.toNat / 4 ∧ j = a.toNat % 4 * 16 + b.toNat / 16 ∧
          k = b.toNat % 16 * 4 := by omega
      rw [hs.eq_symbol, ht.eq_symbol, hu.eq_symbol]
      rfl
  | @three a b c s t u v i j k l _ _ hs ht hu hv hvalue _ ih =>
      have hj := ht.lt
      have hk := hu.lt
      have hl := hv.lt
      have hb := b.toNat_lt
      have hc := c.toNat_lt
      obtain ⟨rfl, rfl, rfl, rfl⟩ : i = a.toNat / 4 ∧ j = a.toNat % 4 * 16 + b.toNat / 16 ∧
          k = b.toNat % 16 * 4 + c.toNat / 64 ∧ l = c.toNat % 64 := by omega
      rw [hs.eq_symbol, ht.eq_symbol, hu.eq_symbol, hv.eq_symbol, ih]
      rfl

theorem written_iff {octets text : Bytes} : Written octets text ↔ text = encode octets :=
  ⟨Written.eq_encode, fun h => h ▸ written_encode octets⟩

/-! ### Reading -/

theorem lastGroups_symbol {s : UInt8} {i : Nat} (h : Stands s i) (offset place : Nat)
    (rest : Bytes) :
    lastGroups offset place (s :: rest) =
      (lastGroups (offset + 1) (place + 1) rest).map fun (gs, pads) => (i :: gs, pads) := by
  rw [lastGroups, if_neg h.ne_pad, stands_iff.mp h]

theorem groupAt_eq {s : UInt8} {i : Nat} (h : Stands s i) (offset : Nat) :
    groupAt s offset = .ok i := by
  rw [groupAt, stands_iff.mp h]

theorem ofNat_eq {n : Nat} {a : UInt8} (h : n = a.toNat) : UInt8.ofNat n = a := by
  rw [h, UInt8.ofNat_toNat]

/-- A written text is read, wherever it stands. -/
theorem Written.octetsFrom_eq {octets text : Bytes} (h : Written octets text) (offset : Nat) :
    octetsFrom offset text = .ok octets := by
  induction h generalizing offset with
  | nil => rfl
  | @one a s t i j hs ht hvalue =>
      have ha : UInt8.ofNat (i * 4 + j / 16) = a := ofNat_eq (by omega)
      have hgroups : lastGroups offset 0 [s, t, pad, pad] = .ok ([i, j], 2) := by
        rw [lastGroups_symbol hs, lastGroups_symbol ht]
        rfl
      change lastOctets offset [s, t, pad, pad] = _
      have hj : j % 16 = 0 := by omega
      simp only [lastOctets, hgroups, bind, Except.bind, hj, ha]
      rfl
  | @two a b s t u i j k hs ht hu hvalue =>
      have hk := hu.lt
      have hb := b.toNat_lt
      have ha : UInt8.ofNat (i * 4 + j / 16) = a := ofNat_eq (by omega)
      have hb : UInt8.ofNat (j % 16 * 16 + k / 4) = b := ofNat_eq (by omega)
      have hgroups : lastGroups offset 0 [s, t, u, pad] = .ok ([i, j, k], 1) := by
        rw [lastGroups_symbol hs, lastGroups_symbol ht, lastGroups_symbol hu]
        rfl
      change lastOctets offset [s, t, u, pad] = _
      have hk : k % 4 = 0 := by omega
      simp only [lastOctets, hgroups, bind, Except.bind, hk, ha, hb]
      rfl
  | @three a b c s t u v i j k l octets text hs ht hu hv hvalue hrest ih =>
      have hl := hv.lt
      have hk := hu.lt
      have hj := ht.lt
      have hb := b.toNat_lt
      have hc := c.toNat_lt
      have ha : UInt8.ofNat (i * 4 + j / 16) = a := ofNat_eq (by omega)
      have hb : UInt8.ofNat (j % 16 * 16 + k / 4) = b := ofNat_eq (by omega)
      have hc : UInt8.ofNat (k % 4 * 64 + l) = c := ofNat_eq (by omega)
      cases text with
      | nil =>
          cases hrest
          have hgroups : lastGroups offset 0 [s, t, u, v] = .ok ([i, j, k, l], 0) := by
            rw [lastGroups_symbol hs, lastGroups_symbol ht, lastGroups_symbol hu,
              lastGroups_symbol hv]
            rfl
          change lastOctets offset [s, t, u, v] = _
          simp only [lastOctets, hgroups, bind, Except.bind, ha, hb, hc]
          rfl
      | cons e text =>
          rw [octetsFrom, groupAt_eq hs, groupAt_eq ht, groupAt_eq hu, groupAt_eq hv]
          simp only [bind, Except.bind, ih, ha, hb, hc]
          rfl

theorem exists_of_lastGroups {quad : Bytes} {offset place pads : Nat} {groups : List Nat}
    (h : lastGroups offset place quad = .ok (groups, pads)) :
    ∃ symbols, quad = symbols ++ List.replicate pads pad ∧
      List.Forall₂ Stands symbols groups := by
  induction quad generalizing offset place groups pads with
  | nil =>
      cases h
      exact ⟨[], rfl, .nil⟩
  | cons b rest ih =>
      rw [lastGroups] at h
      split at h
      · next hpad =>
        split at h
        · cases h
        split at h
        · next hall =>
          cases h
          refine ⟨[], ?_, .nil⟩
          rw [List.nil_append, List.replicate_succ, hpad]
          congr 1
          exact List.eq_replicate_of_mem (by simpa using hall)
        · cases h
      · split at h
        · cases h
        · next g hg =>
          cases hmore : lastGroups (offset + 1) (place + 1) rest with
          | error fault =>
              rw [hmore] at h
              cases h
          | ok more =>
              obtain ⟨gs, n⟩ := more
              rw [hmore] at h
              cases h
              obtain ⟨symbols, rfl, hsymbols⟩ := ih hmore
              exact ⟨b :: symbols, rfl, .cons (stands_iff.mpr hg) hsymbols⟩

theorem stands_of_groupAt {b : UInt8} {offset g : Nat} (h : groupAt b offset = .ok g) :
    Stands b g := by
  unfold groupAt at h
  split at h
  · next hg =>
    cases h
    exact stands_iff.mpr hg
  · cases h

/-- A last group that is read is written so: it is padded, and no bits are lost. -/
theorem written_of_lastOctets {quad octets : Bytes} {offset : Nat}
    (h : lastOctets offset quad = .ok octets) (hlength : quad.length ≤ 4) :
    Written octets quad := by
  unfold lastOctets at h
  cases hgroups : lastGroups offset 0 quad with
  | error fault =>
      rw [hgroups] at h
      cases h
  | ok found =>
      obtain ⟨groups, pads⟩ := found
      obtain ⟨symbols, rfl, hsymbols⟩ := exists_of_lastGroups hgroups
      rw [hgroups] at h
      simp only [bind, Except.bind, pure, Except.pure, throw, throwThe, MonadExceptOf.throw] at h
      rw [List.length_append, List.length_replicate] at hlength
      rcases hsymbols with _ | ⟨hs, _ | ⟨ht, _ | ⟨hu, _ | ⟨hv, hsymbols⟩⟩⟩⟩
      · cases h
      · cases h
      · have hi := hs.lt
        have hj := ht.lt
        dsimp only at h
        split at h
        · cases h
        next hpads =>
        split at h
        · cases h
        next hbits =>
        cases h
        rw [not_not.mp hpads]
        exact .one hs ht (by rw [Utf8.toNat_octet (by omega)]; omega)
      · have hi := hs.lt
        have hj := ht.lt
        have hk := hu.lt
        dsimp only at h
        split at h
        · cases h
        next hpads =>
        split at h
        · cases h
        next hbits =>
        cases h
        rw [not_not.mp hpads]
        refine .two hs ht hu ?_
        rw [Utf8.toNat_octet (by omega), Utf8.toNat_octet (by omega)]
        omega
      · have hi := hs.lt
        have hj := ht.lt
        have hk := hu.lt
        have hl := hv.lt
        cases h
        rcases hsymbols with _ | ⟨_, _⟩
        · obtain rfl : pads = 0 := by simpa using hlength
          refine .three hs ht hu hv ?_ .nil
          rw [Utf8.toNat_octet (by omega), Utf8.toNat_octet (by omega), Utf8.toNat_octet (by omega)]
          omega
        · simp only [List.length_cons] at hlength
          omega

theorem exists_of_bind {ε α β : Type} {x : Except ε α} {f : α → Except ε β} {b : β}
    (h : x >>= f = .ok b) : ∃ a, x = .ok a ∧ f a = .ok b := by
  cases x with
  | error e => cases h
  | ok a => exact ⟨a, rfl, h⟩

theorem written_of_octetsFrom {text octets : Bytes} {offset : Nat}
    (h : octetsFrom offset text = .ok octets) : Written octets text := by
  induction offset, text using octetsFrom.induct generalizing octets with
  | case1 offset s t u v e rest ih =>
      rw [octetsFrom] at h
      obtain ⟨i, hs, h⟩ := exists_of_bind h
      obtain ⟨j, ht, h⟩ := exists_of_bind h
      obtain ⟨k, hu, h⟩ := exists_of_bind h
      obtain ⟨l, hv, h⟩ := exists_of_bind h
      obtain ⟨more, hmore, h⟩ := exists_of_bind h
      have hs := stands_of_groupAt hs
      have ht := stands_of_groupAt ht
      have hu := stands_of_groupAt hu
      have hv := stands_of_groupAt hv
      have hi := hs.lt
      have hj := ht.lt
      have hk := hu.lt
      have hl := hv.lt
      cases h
      refine .three hs ht hu hv ?_ (ih hmore)
      rw [Utf8.toNat_octet (by omega), Utf8.toNat_octet (by omega), Utf8.toNat_octet (by omega)]
      omega
  | case2 offset =>
      cases h
      exact .nil
  | case3 offset quad hlong hempty =>
      rcases quad with _ | ⟨s, _ | ⟨t, _ | ⟨u, _ | ⟨v, _ | ⟨e, rest⟩⟩⟩⟩⟩
      · exact absurd rfl hempty
      · exact written_of_lastOctets h (by simp)
      · exact written_of_lastOctets h (by simp)
      · exact written_of_lastOctets h (by simp)
      · exact written_of_lastOctets h (by simp)
      · exact absurd rfl (hlong s t u v e rest)

/-- Symbols and padding come in fours. -/
theorem Written.length_mod_four {octets text : Bytes} (h : Written octets text) :
    text.length % 4 = 0 := by
  induction h with
  | nil => rfl
  | one | two => simp
  | three _ _ _ _ _ _ ih =>
      simp only [List.length_cons]
      omega

/-- A text is read as the octets that it is the Base64 of, and no other text is read. -/
theorem decode?_eq_ok_iff {text octets : Bytes} :
    decode? text = .ok octets ↔ Written octets text := by
  constructor
  · intro h
    unfold decode? at h
    split at h
    · cases h
    · exact written_of_octetsFrom h
  · intro h
    have hlone : loneOctet? text = none := by
      rw [loneOctet?, h.length_mod_four, if_neg (by decide)]
    rw [decode?, hlone]
    exact h.octetsFrom_eq 0

theorem encode_injective : Function.Injective encode := by
  intro octets octets' h
  have hread := decode?_eq_ok_iff.mpr (written_encode octets)
  rw [h, decode?_eq_ok_iff.mpr (written_encode octets')] at hread
  exact (Except.ok.inj hread).symm

/-! ### Texts -/

theorem Stands.ascii {b : UInt8} {n : Nat} (h : Stands b n) : b.toNat < 128 := by
  have hall : ∀ n : Fin 64, ∀ b ∈ alphabet[n.val]?, b.toNat < 128 := by decide +kernel
  exact hall ⟨n, h.lt⟩ b h

theorem Written.ascii {octets text : Bytes} (h : Written octets text) :
    ∀ b ∈ text, b.toNat < 128 := by
  have hpad : pad.toNat < 128 := by decide
  induction h with
  | nil => exact nofun
  | one hs ht _ => simp [hs.ascii, ht.ascii, hpad]
  | two hs ht hu _ => simp [hs.ascii, ht.ascii, hu.ascii, hpad]
  | three hs ht hu hv _ _ ih =>
      simp only [List.forall_mem_cons]
      exact ⟨hs.ascii, ht.ascii, hu.ascii, hv.ascii, ih⟩

theorem ofString_text (octets : Bytes) : Bytes.ofString (text octets) = encode octets := by
  have hascii := (written_encode octets).ascii
  rw [Bytes.ofString, text, String.toList_ofList, Utf8.encode, List.flatMap_map]
  generalize encode octets = written at hascii
  induction written with
  | nil => rfl
  | cons b rest ih =>
      obtain ⟨hb, hrest⟩ := List.forall_mem_cons.mp hascii
      rw [List.flatMap_cons, ih hrest, Utf8.encodeChar_ascii hb]
      rfl

theorem text_injective : Function.Injective text := by
  intro octets octets' h
  apply encode_injective
  rw [← ofString_text, h, ofString_text]

end DeviceGateway.Base64
