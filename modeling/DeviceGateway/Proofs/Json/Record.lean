import DeviceGateway.Proofs.Json.Object
import DeviceGateway.Proofs.Keyed
/-!
What codecs of lists and of records write they read back, if those of their items and fields do.
-/
namespace DeviceGateway.Json

open Utf8 (Piece)

variable {α ρ : Type}

namespace Codec

variable {c : Codec α}

theorem moreItems_eq {as : List α} (h : ∀ a ∈ as, c.Reads a) (bound : Nat)
    (hb : as.length < bound) (rest : List Piece) :
    Reader.moreItems c.read bound (pieces ((as.map c.write).flatMap (',' :: ·)) ++
      .char ']' :: rest) = .ok (as, rest) := by
  induction as generalizing bound with
  | nil =>
      obtain ⟨bound, rfl⟩ : ∃ k, bound = k + 1 := ⟨bound - 1, by omega⟩
      rfl
  | cons a as ih =>
      obtain ⟨bound, rfl⟩ : ∃ k, bound = k + 1 := ⟨bound - 1, by omega⟩
      have hmore := ih (fun b hb' => h b (List.mem_cons_of_mem _ hb')) bound
        (by rw [List.length_cons] at hb; omega)
      have hcloses := closes_more (as.map c.write) (c := ']') (by decide) rest
      have hitem := h a List.mem_cons_self _ hcloses
      simp only [List.map_cons, List.flatMap_cons, List.cons_append, pieces_cons, pieces_append,
        List.append_assoc]
      unfold Reader.moreItems
      rw [Reader.bind_eq (Reader.space_eq (by decide) _), Reader.bind_eq (Reader.accept_eq ',' _),
        if_pos rfl, Reader.bind_eq hitem, Reader.bind_eq hmore]
      rfl

theorem list_reads {as : List α} (h : ∀ a ∈ as, c.Reads a ∧ Opens (c.write a)) :
    (list c).Reads as := by
  intro rest _
  unfold list writeArray
  dsimp only
  unfold Reader.array
  rw [List.cons_append, pieces_cons, List.cons_append,
    Reader.bind_eq (Reader.space_eq (by decide) _), Reader.bind_eq (Reader.accept_eq '[' _),
    if_pos rfl]
  unfold Reader.items
  cases as with
  | nil => rfl
  | cons a as =>
      obtain ⟨ch, tail, hw, hspace, hclose, _⟩ := (h a List.mem_cons_self).2
      have hcloses := closes_more (as.map c.write) (c := ']') (by decide) rest
      have hitem := (h a List.mem_cons_self).1 _ hcloses
      have hmore := moreItems_eq (fun b hb => (h b (List.mem_cons_of_mem _ hb)).1)
        (pieces ((as.map c.write).flatMap (',' :: ·)) ++ .char ']' :: rest).length (by
          have hlen := length_le_flatMap_comma (as.map c.write)
          rw [List.length_map] at hlen
          rw [List.length_append, length_pieces, List.length_cons]
          omega) rest
      rw [List.map_cons, commas_cons]
      simp only [pieces_append, pieces_cons, pieces_nil, List.append_assoc, List.cons_append,
        List.nil_append]
      rw [hw, pieces_cons, List.cons_append] at hitem ⊢
      rw [Reader.bind_eq (Reader.space_eq hspace _), Reader.bind_eq (Reader.accept_ne hclose _)]
      rw [if_neg Bool.false_ne_true, Reader.bind_eq hitem,
        Reader.bind_eq (show Reader.remaining _ = .ok (_, _) from rfl), Reader.bind_eq hmore]
      rfl

/-- Reading the fields of one record into another, in order: each that is written puts its value in,
and one that is left out, as only a field may be that need not be there, leaves all as it is. -/
inductive Transfers (source : ρ) : List (Field ρ) → ρ → ρ → Prop
  | nil (r : ρ) : Transfers source [] r r
  | written {f : Field ρ} {fields : List (Field ρ)} {r next last : ρ} {text : List Char} :
      f.write source = some text →
      (∀ rest, Closes rest → f.read r (pieces text ++ rest) = .ok (next, rest)) →
      Transfers source fields next last → Transfers source (f :: fields) r last
  | omitted {f : Field ρ} {fields : List (Field ρ)} {r last : ρ} :
      f.write source = none → f.presence ≠ .required →
      Transfers source fields r last → Transfers source (f :: fields) r last

theorem Transfers.required {source : ρ} {fields : List (Field ρ)} {r last : ρ}
    (h : Transfers source fields r last) :
    ∀ f ∈ fields, f.presence = .required → f.write source ≠ none := by
  induction h with
  | nil => exact List.forall_mem_nil _
  | written hw _ _ ih =>
      refine List.forall_mem_cons.mpr ⟨fun _ => ?_, ih⟩
      rw [hw]
      exact Option.some_ne_none _
  | omitted _ hfree _ ih => exact List.forall_mem_cons.mpr ⟨fun hneeded => absurd hneeded hfree, ih⟩

theorem Transfers.plain {source : ρ} {name : String} {presence : Presence} {c : Codec α}
    {get : ρ → α} {set : ρ → α → ρ} {fields : List (Field ρ)} {r last : ρ}
    (h : c.Reads (get source)) (hrest : Transfers source fields (set r (get source)) last) :
    Transfers source (.plain name presence c get set :: fields) r last := by
  refine .written rfl ?_ hrest
  intro rest hr
  exact Reader.bind_eq (h rest hr) _

/-- A field that is left out if it holds what it would default to: its value is read back, or the
record holds it already. -/
theorem Transfers.terse {source : ρ} {name : String} {c : Codec α} {isDefault : α → Bool}
    {get : ρ → α} {set : ρ → α → ρ} {fields : List (Field ρ)} {r last : ρ}
    (h : c.Reads (get source)) (hset : ∀ r a, get r = a → set r a = r)
    (hdefault : isDefault (get source) = true → get r = get source)
    (hrest : Transfers source fields (set r (get source)) last) :
    Transfers source (.terse name c isDefault get set :: fields) r last := by
  cases hd : isDefault (get source) with
  | true =>
      rw [hset r _ (hdefault hd)] at hrest
      exact .omitted (if_pos hd) nofun hrest
  | false =>
      refine .written (if_neg (Bool.eq_false_iff.mp hd)) ?_ hrest
      intro rest hr
      exact Reader.bind_eq (h rest hr) _

/-- The members that a record is written with. -/
def written (fields : List (Field ρ)) (r : ρ) : List (String × List Char) :=
  fields.filterMap fun f => (f.write r).map fun value => (f.name, value)

def writtenMember (m : String × List Char) : Member :=
  ⟨[], m.1.toList.flatMap escape, [], ⟨[], m.2, []⟩⟩

theorem writtenMember_spaced (m : String × List Char) : (writtenMember m).Spaced :=
  ⟨blank_nil, blank_nil, blank_nil, blank_nil⟩

theorem writeObject_eq (ms : List (String × List Char)) :
    writeObject ms = braced (ms.map writtenMember) := by
  have htext : (fun m : String × List Char => quote m.1.toList ++ ':' :: m.2) =
      Member.source ∘ writtenMember := by
    funext m
    simp only [Function.comp_apply, Member.source, Member.valued, Item.source, writtenMember, quote,
      List.nil_append, List.append_nil, List.cons_append, List.append_assoc]
  simp only [writeObject, braced, List.map_map, ← htext, List.cons_append]

theorem written_cons {f : Field ρ} {source : ρ} {text : List Char} (h : f.write source = some text)
    (fields : List (Field ρ)) :
    written (f :: fields) source = (f.name, text) :: written fields source := by
  simp only [written, List.filterMap_cons, h, Option.map_some]

theorem written_omitted {f : Field ρ} {source : ρ} (h : f.write source = none)
    (fields : List (Field ρ)) : written (f :: fields) source = written fields source := by
  simp only [written, List.filterMap_cons, h, Option.map_none]

/-- The names of the fields that are written are met. -/
def Met (source : ρ) (fields : List (Field ρ)) (met : List String) : Prop :=
  ∀ f ∈ fields, f.write source ≠ none → f.name ∈ met

namespace Met

variable {source : ρ} {f : Field ρ} {fields : List (Field ρ)} {met : List String}

theorem cons (h : Met source fields met) (hf : f.name ∈ met) : Met source (f :: fields) met := by
  intro g hg hne
  rcases List.mem_cons.mp hg with rfl | hg
  · exact hf
  · exact h g hg hne

theorem cons_omitted (h : Met source fields met) (hf : f.write source = none) :
    Met source (f :: fields) met := by
  intro g hg hne
  rcases List.mem_cons.mp hg with rfl | hg
  · exact absurd hf hne
  · exact h g hg hne

end Met

variable {fields : List (Field ρ)} {source : ρ}

/-- A member that is a field not met before is read into the record. -/
theorem takes_field {f : Field ρ} {n : String} (hf : fields.find? (fun f => f.name = n) = some f)
    {met : List String} (hmet : n ∉ met) {m : Member} (hspaced : m.Spaced)
    (hname : Spells m.name n.toList) {r next : ρ} (hread : (f.read r).Gives m.value next)
    (other : ρ → String → Reader ρ) :
    Reader.Takes (takeMember fields other) ⟨r, met⟩ m ⟨next, n :: met⟩ := by
  refine Reader.takes_of_name hspaced.before hname ?_
  intro rest hrest
  unfold takeMember
  rw [hf]
  dsimp only
  rw [if_neg hmet]
  exact Reader.bind_eq (hread.named hspaced.between hrest) _

/-- A record is read from an object whose members can be taken one after the other, if the fields
that must be there are among them. -/
theorem readRecord_eq {start : ρ} {ms : List Member} {last : Draft ρ}
    (h : Reader.TakesAll (takeMember fields ignore) ⟨start, []⟩ ms last)
    (hrequired : ∀ f ∈ fields, f.presence = .required → f.name ∈ last.met) {lead : List Char}
    (hlead : Blank lead) (rest : List Piece) :
    readRecord fields start (pieces (lead ++ braced ms) ++ rest) = .ok (last.record, rest) := by
  have hspace : Reader.space (pieces lead ++ (pieces (braced ms) ++ rest)) =
      .ok ((), pieces (braced ms) ++ rest) := Reader.space_upTo hlead (by decide) _
  have haccept : Reader.accept '[' (pieces (braced ms) ++ rest) =
      .ok (false, pieces (braced ms) ++ rest) := Reader.accept_ne (by decide) _
  have hall : fields.all fun f => f.presence ≠ .required || last.met.contains f.name := by
    simpa [← imp_iff_not_or] using hrequired
  unfold readRecord readObject
  rw [pieces_append, List.append_assoc, Reader.bind_eq hspace, Reader.bind_eq haccept,
    if_neg Bool.false_ne_true, Reader.bind_eq (h.object_eq rest), Draft.finish, if_pos hall]
  rfl

/-- The members of a record are taken as they were written. -/
theorem exists_takesAll {left : List (Field ρ)} {r last : ρ} (ht : Transfers source left r last)
    (hfind : ∀ f ∈ left, fields.find? (fun g => g.name = f.name) = some f)
    (hnodup : (left.map (·.name)).Nodup) {met : List String} (hmet : ∀ f ∈ left, f.name ∉ met)
    (other : ρ → String → Reader ρ) :
    ∃ met', (∀ n ∈ met, n ∈ met') ∧ Met source left met' ∧
      Reader.TakesAll (takeMember fields other) ⟨r, met⟩ ((written left source).map writtenMember)
        ⟨last, met'⟩ := by
  induction ht generalizing met with
  | nil r => exact ⟨met, fun _ h => h, nofun, .nil _⟩
  | @written f left r next last text hw hread _ ih =>
      rw [List.map_cons, List.nodup_cons] at hnodup
      have hfresh : ∀ g ∈ left, g.name ∉ f.name :: met := by
        intro g hg hm
        rcases List.mem_cons.mp hm with heq | hm
        · exact hnodup.1 (heq ▸ List.mem_map_of_mem hg)
        · exact hmet g (List.mem_cons_of_mem _ hg) hm
      obtain ⟨met', hkept, hnew, hmore⟩ :=
        ih (fun g hg => hfind g (List.mem_cons_of_mem _ hg)) hnodup.2 hfresh
      have hspaced := writtenMember_spaced (f.name, text)
      have hgives : (f.read r).Gives (writtenMember (f.name, text)).value next := by
        intro rest hrest
        have hsource : (writtenMember (f.name, text)).value.source = text := List.append_nil text
        rw [hsource]
        exact hread rest hrest
      have htakes := takes_field (hfind f List.mem_cons_self) (hmet f List.mem_cons_self) hspaced
        (.flatMap_escape f.name.toList) hgives other
      refine ⟨met', fun n hn => hkept n (List.mem_cons_of_mem _ hn),
        hnew.cons (hkept _ List.mem_cons_self), ?_⟩
      rw [written_cons hw, List.map_cons]
      exact .cons hspaced htakes hmore
  | @omitted f left r last hw _ _ ih =>
      rw [List.map_cons, List.nodup_cons] at hnodup
      obtain ⟨met', hkept, hnew, hmore⟩ := ih (fun g hg => hfind g (List.mem_cons_of_mem _ hg))
        hnodup.2 (fun g hg => hmet g (List.mem_cons_of_mem _ hg))
      rw [written_omitted hw]
      exact ⟨met', hkept, hnew.cons_omitted hw, hmore⟩

/-- A record is read back if its fields can be, one after the other. -/
theorem record_reads {start : ρ} (hnodup : (fields.map (·.name)).Nodup)
    (ht : Transfers source fields start source) : (record fields start).Reads source := by
  intro rest _
  obtain ⟨met, _, hmet, htakes⟩ := exists_takesAll ht (fun f hf => find?_key hnodup hf)
    hnodup (fun _ _ => List.not_mem_nil) ignore
  change readRecord fields start (pieces (writeObject (written fields source)) ++ rest) = _
  rw [writeObject_eq]
  exact readRecord_eq htakes (fun f hf hp => hmet f hf (ht.required f hf hp))
    (List.forall_mem_nil _) rest

end Codec

end DeviceGateway.Json
