import DeviceGateway.Proofs.Json.Grammar
import DeviceGateway.Proofs.Json.Record
/-!
Records are read from objects as others write them: with white space, in any order, with members
that are no fields, and with names and strings spelled in any way.
-/
namespace DeviceGateway.Json

open Utf8 (Piece)

variable {ρ : Type}

structure Member.Spells (m : Member) (n : String) : Prop where
  spaced : m.Spaced
  name : Json.Spells m.name n.toList
  value : IsValue m.value.text

theorem writeMembers_eq_map (members : List (String × Json)) :
    writeMembers members = members.map fun m => (m.1, write m.2) := by
  induction members with
  | nil => rfl
  | cons m members ih => rw [writeMembers, ih, List.map_cons]

namespace Reader

variable {i : Item} {ms : List Member}

theorem skip_gives (hspaced : i.Spaced) (hvalue : IsValue i.text) : skip.Gives i () := by
  intro rest hrest
  have hskip : skip? (pieces i.source ++ rest) = some (pieces i.after ++ rest) := by
    rw [Item.source, pieces_append, pieces_append, List.append_assoc, List.append_assoc, skip?,
      skipFrom?_blank .value rfl hspaced.1]
    exact hvalue.skip?_eq (endsNumber_blank hspaced.2 hrest.endsNumber)
  simp only [skip, ofPartial, hskip, Option.map_some]

theorem raw_gives (hspaced : i.Spaced) (hvalue : IsValue i.text) : raw.Gives i i.text := by
  intro rest hrest
  let left := pieces i.after ++ rest
  have hspace : space (pieces i.before ++ (pieces i.text ++ left)) =
      .ok ((), pieces i.text ++ left) := by
    obtain ⟨c, tail, htext, hc, _⟩ := hvalue.head
    rw [htext]
    exact space_upTo hspaced.1 hc _
  have hskip : skip? (pieces i.text ++ left) = some left :=
    hvalue.skip?_eq (endsNumber_blank hspaced.2 hrest.endsNumber)
  have htake : (pieces i.text ++ left).take ((pieces i.text ++ left).length - left.length) =
      pieces i.text := by
    rw [List.length_append, Nat.add_sub_cancel, List.take_left]
  unfold raw
  rw [Item.source, pieces_append, pieces_append, List.append_assoc, List.append_assoc,
    bind_eq hspace]
  simp only [ofPartial, hskip, htake, Option.bind_eq_bind, Option.bind_some]
  rw [pieces, Utf8.text?_map_char]
  rfl

theorem text_gives (hspaced : i.Spaced) {spelling : List Char}
    (htext : i.text = '"' :: (spelling ++ ['"'])) {s : String} (h : Spells spelling s.toList) :
    text.Gives i s := by
  intro rest _
  rw [Item.source, pieces_append, pieces_append, List.append_assoc, List.append_assoc, htext]
  have hblank : text (pieces i.before ++ (pieces ('"' :: (spelling ++ ['"'])) ++
      (pieces i.after ++ rest))) = text (pieces ('"' :: (spelling ++ ['"'])) ++
      (pieces i.after ++ rest)) := bind_congr (space_blank hspaced.1 _) _
  rw [hblank]
  exact text_spelled h _

/-- A string is read as a value, with any readers for what is in brackets and in braces. -/
theorem valueOver_text (hspaced : i.Spaced) {spelling : List Char}
    (htext : i.text = '"' :: (spelling ++ ['"'])) {s : String} (h : Spells spelling s.toList)
    (bracketed braced : Reader Json) : (valueOver bracketed braced).Gives i (.text s) := by
  intro rest _
  let left := pieces i.after ++ rest
  have hsource : pieces i.source ++ rest =
      pieces i.before ++ .char '"' :: (pieces spelling ++ .char '"' :: left) := by
    simp [Item.source, htext, left]
  unfold valueOver
  rw [hsource, bind_eq (space_upTo hspaced.1 (by decide) _),
    bind_eq (show peek _ = .ok (some (.char '"'), _) from rfl)]
  dsimp only
  rw [if_pos rfl, bind_eq (expect_eq '"' _), bind_eq (contents_spelled h left)]
  rfl

theorem valueOver_bool (hspaced : i.Spaced) {b : Bool} (htext : i.text = writeBool b)
    (bracketed braced : Reader Json) : (valueOver bracketed braced).Gives i (.bool b) := by
  intro rest _
  let left := pieces i.after ++ rest
  have hsource : pieces i.source ++ rest = pieces i.before ++ (pieces (writeBool b) ++ left) := by
    simp [Item.source, htext, left]
  have hspace : space (pieces i.before ++ (pieces (writeBool b) ++ left)) =
      .ok ((), pieces (writeBool b) ++ left) := by
    cases b <;> exact space_upTo hspaced.1 (by decide) _
  unfold valueOver
  rw [hsource, bind_eq hspace]
  cases b <;> rfl

/-- Members go to their places, one after the other, if their values can be read. -/
theorem takesAll_keep {value : Reader Json} {members : List (String × Json)}
    (h : List.Forall₂
      (fun m p => m.Spaced ∧ Json.Spells m.name p.1.toList ∧ value.Gives m.value p.2) ms members)
    (kept : List (String × Json)) :
    TakesAll (keep value) kept ms (members.foldl (fun kept p => insert p.1 p.2 kept) kept) := by
  induction h generalizing kept with
  | nil => exact .nil kept
  | @cons m p _ _ hm _ ih =>
      obtain ⟨hspaced, hname, hvalue⟩ := hm
      have htakes : Takes (keep value) kept m (insert p.1 p.2 kept) := by
        refine takes_of_name hspaced.before hname ?_
        intro rest hrest
        exact bind_eq (hvalue.named hspaced.between hrest) _
      exact .cons hspaced htakes (ih _)

end Reader

namespace Codec

variable {fields : List (Field ρ)} {m : Member} {n : String}

/-- A member that is no field changes nothing. -/
theorem takes_ignored (hfields : ∀ f ∈ fields, f.name ≠ n) (hm : m.Spells n) (d : Draft ρ) :
    Reader.Takes (takeMember fields ignore) d m d := by
  refine Reader.takes_of_name hm.spaced.before hm.name ?_
  intro rest hrest
  have hfind : fields.find? (fun f => f.name = n) = none := by
    simpa using hfields
  have hignored : (ignore d.record n).Gives m.value d.record :=
    (Reader.skip_gives hm.spaced.value hm.value).map fun _ => d.record
  unfold takeMember
  rw [hfind]
  exact Reader.bind_eq (hignored.named hm.spaced.between hrest) _

/-- A document is what its reader makes of the start of it, if only white space is left. -/
theorem decode_of_read {c : Codec α} {text trail : List Char} {a : α}
    (hread : c.read (pieces text ++ pieces trail) = .ok (a, pieces trail)) (htrail : Blank trail) :
    c.decode (pieces (text ++ trail)) = .ok a := by
  have hend : Reader.space (pieces trail) = .ok ((), []) := by
    have hblank := Reader.space_blank htrail []
    rwa [List.append_nil] at hblank
  simp only [decode, Reader.whole?, pieces_append, hread, hend, bind, Except.bind]
  rfl

/-- A document is a record if its members can be taken, and those that must be there are among
them; it may have white space around it. -/
theorem record_decode {start : ρ} {ms : List Member} {last : Draft ρ}
    (h : Reader.TakesAll (takeMember fields ignore) ⟨start, []⟩ ms last)
    (hrequired : ∀ f ∈ fields, f.presence = .required → f.name ∈ last.met) {lead trail : List Char}
    (hlead : Blank lead) (htrail : Blank trail) :
    (record fields start).decode (pieces (lead ++ (braced ms ++ trail))) = .ok last.record := by
  rw [← List.append_assoc]
  exact decode_of_read (readRecord_eq h hrequired hlead (pieces trail)) htrail

end Codec

end DeviceGateway.Json
