import DeviceGateway.Gate
import DeviceGateway.Proofs.Json.Members
import DeviceGateway.Proofs.Text.Base64
/-!
What wraps a device's message is faithful. It is an object of two strings, one for the device and
one for the octets that it sent, and whoever reads it finds just those two; so what one device sends
is never wrapped as what another would be.
-/
namespace DeviceGateway

namespace Json

/-- A member is a string: its name spells `n`, and the string `s`. -/
structure Member.SpellsText (m : Member) (n s : String) : Prop where
  member : m.Spells n
  text : ∃ spelling, m.value.text = '"' :: (spelling ++ ['"']) ∧ Json.Spells spelling s.toList

/-- Octets are the text of an object that has just these members, all of them strings. -/
def StringObject (octets : Bytes) (members : List (String × String)) : Prop :=
  ∃ ms : List Member, octets = Utf8.encode (braced ms) ∧
    List.Forall₂ (fun m p => Member.SpellsText m p.1 p.2) ms members

def ofStrings (members : List (String × String)) : Json :=
  .ofMembers (members.map fun p => (p.1, .text p.2))

namespace Reader

variable {ms : List Member}

theorem value_text {m : Member} {n s : String} (h : m.SpellsText n s) (depth : Nat) :
    (value depth).Gives m.value (.text s) := by
  obtain ⟨spelling, htext, hspelling⟩ := h.text
  have hread := valueOver_text h.member.spaced.value htext hspelling
  cases depth with
  | zero => exact hread _ _
  | succ depth => exact hread _ _

theorem takesAll_strings {members : List (String × String)}
    (h : List.Forall₂ (fun m p => Member.SpellsText m p.1 p.2) ms members) (depth : Nat) :
    TakesAll (keep (value depth)) [] ms
      ((members.map fun p => (p.1, Json.text p.2)).foldl (fun kept p => insert p.1 p.2 kept)
        []) := by
  refine takesAll_keep (List.forall₂_map_right_iff.mpr (h.imp ?_)) []
  intro m p hm
  exact ⟨hm.member.spaced, hm.member.name, value_text hm depth⟩

theorem value_braced {depth : Nat} {last : List (String × Json)}
    (h : TakesAll (keep (value depth)) [] ms last) (rest : List Utf8.Piece) :
    value (depth + 1) (pieces (braced ms) ++ rest) = .ok (.object last, rest) := by
  have hobject := h.object_eq rest
  rw [braced, pieces_cons, List.cons_append] at hobject ⊢
  unfold value valueOver
  rw [bind_eq (space_eq (by decide) _),
    bind_eq (show peek _ = .ok (some (.char '\x7b'), _) from rfl)]
  exact bind_eq hobject _

end Reader

theorem StringObject.whole?_eq {octets : Bytes} {members : List (String × String)}
    (h : StringObject octets members) :
    (Reader.value maxDepth).whole? (Utf8.decode octets) = .ok (ofStrings members) := by
  obtain ⟨ms, rfl, hmembers⟩ := h
  have hread := Reader.value_braced (Reader.takesAll_strings hmembers 126) []
  rw [List.append_nil] at hread
  rw [Utf8.decode_encode, Reader.whole?]
  change (Reader.value maxDepth (pieces (braced ms)) >>= _) = _
  rw [show Reader.value maxDepth (pieces (braced ms)) = _ from hread]
  rfl

theorem writeMembers_strings (members : List (String × String)) :
    writeMembers (members.map fun p => (p.1, .text p.2)) =
      members.map fun p => (p.1, quote p.2.toList) := by
  simp only [writeMembers_eq_map, List.map_map, Function.comp_def, write]

theorem stringObject_write (members : List (String × String)) :
    StringObject
      (Bytes.ofString (.ofList (write (.object (members.map fun p => (p.1, .text p.2))))))
      members := by
  refine ⟨members.map fun p => Codec.writtenMember (p.1, quote p.2.toList), ?_, ?_⟩
  · rw [Bytes.ofString, String.toList_ofList, write, writeMembers_strings, Codec.writeObject_eq,
      List.map_map]
    rfl
  · refine List.forall₂_map_left_iff.mpr (List.forall₂_same.mpr ?_)
    intro p _
    have hspelling : Spells (p.2.toList.flatMap escape) p.2.toList := .flatMap_escape _
    have hspaced := Codec.writtenMember_spaced (p.1, quote p.2.toList)
    exact ⟨⟨hspaced, .flatMap_escape _, .text hspelling.isText⟩, _, rfl, hspelling⟩

end Json

theorem ofStrings_envelope (deviceId values : String) :
    Json.ofStrings [("device_id", deviceId), ("values", values)] =
      .object [("device_id", .text deviceId), ("values", .text values)] := by
  have hless : ¬ "values" < "device_id" := by decide
  have hne : "values" ≠ "device_id" := by decide
  simp only [Json.ofStrings, Json.ofMembers, List.map_cons, List.map_nil, List.foldl_cons,
    List.foldl_nil, Json.insert, if_neg hless, if_neg hne]

/-- What wraps a message is an object of two strings: the device's id, and the Base64 of the octets
that were sent, which alone they are read back as. So no other device and no other octets are ever
wrapped alike. -/
theorem upEnvelope_faithful (deviceId : String) (payload : Bytes) :
    (∃ values, Json.StringObject (upEnvelope deviceId payload)
        [("device_id", deviceId), ("values", values)] ∧
      (Json.Reader.value Json.maxDepth).whole? (Utf8.decode (upEnvelope deviceId payload)) =
        .ok (.object [("device_id", .text deviceId), ("values", .text values)]) ∧
      Base64.Written payload (Bytes.ofString values) ∧
      ∀ octets, Base64.decode? (Bytes.ofString values) = .ok octets ↔ octets = payload) ∧
    ∀ deviceId' payload', upEnvelope deviceId' payload' = upEnvelope deviceId payload ↔
      deviceId' = deviceId ∧ payload' = payload := by
  have hobject (deviceId : String) (payload : Bytes) :
      Json.StringObject (upEnvelope deviceId payload)
        [("device_id", deviceId), ("values", Base64.text payload)] := by
    unfold upEnvelope
    exact Json.stringObject_write [("device_id", deviceId), ("values", Base64.text payload)]
  have hread (deviceId : String) (payload : Bytes) :
      (Json.Reader.value Json.maxDepth).whole? (Utf8.decode (upEnvelope deviceId payload)) =
        .ok (.object [("device_id", .text deviceId), ("values", .text (Base64.text payload))]) := by
    rw [(hobject deviceId payload).whole?_eq, ofStrings_envelope]
  refine ⟨⟨Base64.text payload, hobject deviceId payload, hread deviceId payload, ?_, ?_⟩, ?_⟩
  · rw [Base64.ofString_text]
    exact Base64.written_encode payload
  · intro octets
    rw [Base64.ofString_text, Base64.decode?_eq_ok_iff, Base64.written_iff,
      Base64.encode_injective.eq_iff]
    exact eq_comm
  · intro deviceId' payload'
    constructor
    · intro h
      have hsame := hread deviceId payload
      rw [← h, hread deviceId' payload'] at hsame
      simp only [Except.ok.injEq, Json.object.injEq, List.cons.injEq, Prod.mk.injEq,
        Json.text.injEq, true_and, and_true] at hsame
      exact ⟨hsame.1, Base64.text_injective hsame.2⟩
    · rintro ⟨rfl, rfl⟩
      rfl

end DeviceGateway
