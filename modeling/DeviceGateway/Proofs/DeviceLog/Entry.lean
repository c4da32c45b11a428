import DeviceGateway.DeviceLog.Sink
import DeviceGateway.Proofs.Json.Members
import DeviceGateway.Proofs.Json.Ordered
import DeviceGateway.Proofs.Text.Boundary
import DeviceGateway.Proofs.Time.Timestamp
/-!
What is logged of an entry, and that it is read back from its text if its details are strings and
truth values. What is empty is left out of the text, and is empty again when the text is read.
-/
namespace DeviceGateway

namespace Json

/-- A string or a truth value. -/
inductive Plain : Json → Prop
  | text (s : String) : Plain (.text s)
  | bool (b : Bool) : Plain (.bool b)

/-- A plain value is read back, however deep other values might have been. -/
theorem Plain.unfolded_gives {j : Json} (h : j.Plain) (depth : Nat) :
    (Reader.unfolded depth).Gives ⟨[], write j, []⟩ j := by
  have hspaced : Item.Spaced ⟨[], write j, []⟩ := ⟨blank_nil, blank_nil⟩
  have hread (bracketed braced : Reader Json) :
      (Reader.valueOver bracketed braced).Gives ⟨[], write j, []⟩ j := by
    cases h with
    | text s => exact Reader.valueOver_text hspaced rfl (.flatMap_escape s.toList) _ _
    | bool b => exact Reader.valueOver_bool hspaced rfl _ _
  cases depth with
  | zero => exact hread _ _
  | succ depth => exact fun rest => hread _ _ rest

end Json

namespace DeviceLog

open Json Json.Codec

/-- Details are plain values, in the order of their names. -/
structure Plain (details : List (String × Json)) : Prop where
  ordered : Ordered details
  values : ∀ m ∈ details, m.2.Plain

theorem Plain.nil : Plain [] := ⟨.nil, List.forall_mem_nil _⟩

theorem Plain.insert {details : List (String × Json)} (h : Plain details) (name : String)
    {value : Json} (hvalue : value.Plain) : Plain (Json.insert name value details) := by
  refine ⟨h.ordered.insert name value, ?_⟩
  intro m hm
  rcases mem_insert hm with rfl | hm
  · exact hvalue
  · exact h.values m hm

theorem Plain.detailsCodec_reads {details : List (String × Json)} (h : Plain details) :
    detailsCodec.Reads details := by
  intro rest _
  let value := Reader.unfolded (maxDepth - 2)
  have hmembers : List.Forall₂
      (fun m p => m.Spaced ∧ Spells m.name p.1.toList ∧ value.Gives m.value p.2)
      (details.map fun m => writtenMember (m.1, m.2.write)) details := by
    refine List.forall₂_map_left_iff.mpr (List.forall₂_same.mpr ?_)
    intro m hm
    exact ⟨writtenMember_spaced _, .flatMap_escape _, (h.values m hm).unfolded_gives _⟩
  have htakes := Reader.takesAll_keep hmembers []
  have hordered : Ordered ([] ++ details) := h.ordered
  rw [hordered.foldl_insert, List.nil_append] at htakes
  have hwrite : detailsCodec.write details =
      braced (details.map fun m => writtenMember (m.1, m.2.write)) := by
    change Json.write (.object details) = _
    rw [Json.write, writeMembers_eq_map, writeObject_eq, List.map_map]
    rfl
  rw [hwrite]
  exact htakes.object_eq rest

theorem Heading.codec_reads (heading : Heading) : Heading.codec.Reads heading :=
  choice_reads (by cases heading <;> rfl)

theorem Action.codec_reads (action : Action) : Action.codec.Reads action :=
  choice_reads (by cases action <;> rfl)

theorem Outcome.codec_reads (outcome : Outcome) : Outcome.codec.Reads outcome :=
  choice_reads (by cases outcome <;> rfl)

theorem Entry.codec_reads {e : Entry} (h : Plain e.details) : Entry.codec.Reads e := by
  have hnone {s : String} (hempty : s.isEmpty = true) : "" = s :=
    (String.isEmpty_iff.mp hempty).symm
  have ht : Transfers e Entry.fields Entry.blank e :=
    .plain (text_reads _) (.plain (text_reads _)
      (.terse (text_reads _) (by rintro r _ rfl; rfl) hnone
        (.plain e.heading.codec_reads (.plain e.action.codec_reads (.plain e.outcome.codec_reads
          (.terse (text_reads _) (by rintro r _ rfl; rfl) hnone
            (.terse (text_reads _) (by rintro r _ rfl; rfl) hnone
              (.terse h.detailsCodec_reads (by rintro r _ rfl; rfl)
                (fun hempty => (List.isEmpty_iff.mp hempty).symm) (.nil e)))))))))
  exact record_reads (by decide) ht

/-! ### What is logged of an entry -/

/-- What is to be logged of an entry: it is for the device and has a time, and as much of its
payload is there as the limit allows. It is marked if that is less than all, unless nothing is
allowed. -/
structure Entry.LoggedAs (e : Entry) (deviceId : String) (now : Instant) (limit : Nat)
    (logged : Entry) : Prop where
  deviceId : logged.deviceId = deviceId
  ts : logged.ts = if e.ts = "" then .ofList (now.timestamp.write .nanos) else e.ts
  protocol : logged.protocol = e.protocol
  heading : logged.heading = e.heading
  action : logged.action = e.action
  outcome : logged.outcome = e.outcome
  error : logged.error = e.error
  payload : Utf8.LongestPart limit e.payload.toList logged.payload.toList
  details : logged.details = if 0 < limit ∧ logged.payload ≠ e.payload then
    Json.insert "payload_truncated" (.bool true) e.details else e.details

theorem Entry.limited_eq (e : Entry) (limit : Nat) :
    e.limited limit =
      { e with
        payload := .ofList (Utf8.truncate limit e.payload.toList)
        details := if 0 < limit ∧ limit < Utf8.size e.payload.toList then
          Json.insert "payload_truncated" (.bool true) e.details else e.details } := by
  unfold limited
  split
  · next hzero =>
    rw [hzero, Utf8.truncate_zero, if_neg (by omega)]
  split
  · next hzero hlong =>
    rw [if_pos ⟨Nat.pos_of_ne_zero hzero, hlong⟩]
    rfl
  · next hshort =>
    rw [Utf8.truncate_eq_self_iff.mpr (Nat.not_lt.mp hshort), if_neg (by omega),
      String.ofList_toList]

theorem Entry.prepared_loggedAs (e : Entry) (deviceId : String) (now : Instant) (p : Policy) :
    e.LoggedAs deviceId now p.payloadMaxBytes.toInt.toNat (e.prepared deviceId now p) := by
  have hcut {limit : Nat} : limit < Utf8.size e.payload.toList ↔
      String.ofList (Utf8.truncate limit e.payload.toList) ≠ e.payload := by
    rw [← Nat.not_le, ← Utf8.truncate_eq_self_iff, ne_eq, ← String.toList_inj, String.toList_ofList]
  unfold prepared
  rw [limited_eq]
  refine ⟨rfl, ?_, rfl, rfl, rfl, rfl, rfl, ?_, ?_⟩
  · simp only [String.isEmpty_iff]
  · rw [String.toList_ofList]
    exact Utf8.longestPart_truncate _ _
  · simp only [hcut]

/-- An entry without a time is logged with that of the clock, and it can be read from what is
logged. -/
theorem Entry.LoggedAs.read?_ts {e logged : Entry} {deviceId : String} {now : Instant} {limit : Nat}
    (h : e.LoggedAs deviceId now limit logged) (hts : e.ts = "") (hnano : now.nano < 2000000000)
    (hyear : Timestamp.firstYear ≤ now.timestamp.year ∧ now.timestamp.year ≤ Timestamp.lastYear) :
    Timestamp.read? logged.ts.toList = some now.timestamp := by
  have hvalid : now.timestamp.Valid := Timestamp.valid_ofUnix hnano hyear
  rw [h.ts, if_pos hts, String.toList_ofList]
  exact Timestamp.read?_write hvalid .nanos

theorem Entry.LoggedAs.plain {e logged : Entry} {deviceId : String} {now : Instant} {limit : Nat}
    (h : e.LoggedAs deviceId now limit logged) (he : Plain e.details) : Plain logged.details := by
  rw [h.details]
  split
  · exact he.insert _ (.bool true)
  · exact he

end DeviceLog

end DeviceGateway
