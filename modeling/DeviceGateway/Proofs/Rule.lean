import DeviceGateway.Proofs.Json.Record
import DeviceGateway.Proofs.Json.Yields
import DeviceGateway.Proofs.Time.Timestamp
import DeviceGateway.Rule
import Mathlib.Data.List.TakeWhile
/-!
Rules are read back from their texts, and the times of a rule that is read exist. Which rules are
for no method in particular.
-/
namespace DeviceGateway

namespace Text

/-- Nothing is left of a text just if it is blank throughout. -/
theorem trim_eq_nil_iff {text : List Char} : trim text = [] ↔ ∀ c ∈ text, isBlankChar c = true := by
  rw [trim, trimEnd, trimStart, List.reverse_eq_nil_iff, List.dropWhile_eq_nil_iff]
  constructor
  · intro h c hc
    rw [← List.takeWhile_append_dropWhile (p := isBlankChar) (l := text), List.mem_append] at hc
    rcases hc with hc | hc
    · exact List.mem_takeWhile_imp hc
    · exact h c (List.mem_reverse.mpr hc)
  · intro h c hc
    exact h c ((List.dropWhile_sublist isBlankChar).mem (List.mem_reverse.mp hc))

end Text

open Json Json.Codec

theorem Timestamp.codec_reads {t : Timestamp} (h : t.Valid) : Timestamp.codec.Reads t := by
  apply spelled_reads
  rw [String.toList_ofList]
  exact read?_write h .fewest

theorem Timestamp.codec_yields : Timestamp.codec.read.Yields Valid :=
  spelled_yields fun _ _ => valid_of_read?

theorem Direction.codec_reads (d : Direction) : Direction.codec.Reads d :=
  choice_reads (by cases d <;> rfl)

namespace Rule

/-- A rule is for no method in particular just if its data identifier is missing or blank. -/
theorem identifier_eq_none_iff {r : Rule} :
    r.identifier = none ↔ ∀ raw, r.dataIdentifier = some raw → Text.isBlank raw = true := by
  have hblank (raw : String) :
      String.ofList (Text.trim raw.toList) = "" ↔ Text.isBlank raw = true := by
    rw [← String.toList_inj, String.toList_ofList, Text.isBlank, List.all_eq_true]
    exact Text.trim_eq_nil_iff
  cases hraw : r.dataIdentifier with
  | none => simp [identifier, identifierOf, hraw]
  | some raw => simp [identifier, identifierOf, hraw, hblank]

def Valid (r : Rule) : Prop := (∀ t ∈ r.createdAt, t.Valid) ∧ ∀ t ∈ r.updatedAt, t.Valid

instance (r : Rule) : Decidable r.Valid := by unfold Valid; infer_instance

theorem codec_reads {r : Rule} (h : r.Valid) : Rule.codec.Reads r := by
  have htext (s : Option String) : (nullable text).Reads s :=
    nullable_reads fun v _ => ⟨text_reads v, opens_quote _⟩
  have htime {t : Option Timestamp} (ht : ∀ s ∈ t, s.Valid) :
      (nullable Timestamp.codec).Reads t :=
    nullable_reads fun s hs => ⟨Timestamp.codec_reads (ht s hs), opens_quote _⟩
  have ht : Transfers r Rule.fields Rule.blank r :=
    .plain (int64_reads _) (.plain (text_reads _) (.plain (text_reads _)
      (.plain (Direction.codec_reads _) (.plain (text_reads _) (.plain (text_reads _)
        (.plain (htext _) (.plain (int32_reads _) (.plain (bool_reads _) (.plain (htext _)
          (.plain (htime h.1) (.plain (htime h.2) (.nil r))))))))))))
  exact record_reads (by decide) ht

theorem codec_yields : Rule.codec.read.Yields Valid := by
  have htime : (nullable Timestamp.codec).read.Yields fun o => ∀ t ∈ o, t.Valid :=
    Timestamp.codec_yields.nullable
  have hfields : ∀ f ∈ Rule.fields, f.Keeps Valid := by
    simp only [Rule.fields, List.forall_mem_cons, List.not_mem_nil, false_implies, implies_true,
      and_true]
    refine ⟨?_, ?_, ?_, ?_, ?_, ?_, ?_, ?_, ?_, ?_, .plain htime fun _ _ hr hv => ⟨hv, hr.2⟩,
      .plain htime fun _ _ hr hv => ⟨hr.1, hv⟩⟩
    all_goals exact .aside fun _ _ hr => hr
  exact record_yields hfields (by decide)

end Rule

end DeviceGateway
