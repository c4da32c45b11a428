import DeviceGateway.Proofs.Topic.Match
import Mathlib.Data.List.Forall2
/-!
What a template denotes: the topics that are made up of one piece for each of its tokens. A template
that can be compiled matches the topics it denotes and no others, anchored at both ends.
-/
namespace DeviceGateway.Topic

/-- The topics that a template stands for. -/
def Denotes (template topic : String) : Prop :=
  ∃ pieces : List (List Char),
    pieces.flatten = topic.toList ∧ List.Forall₂ Token.Fits (tokens template) pieces

theorem cut_iff_pieces {ts : List Token} {topic : List Char} :
    Cut ts topic ↔
      ∃ pieces : List (List Char), pieces.flatten = topic ∧ List.Forall₂ Token.Fits ts pieces := by
  constructor
  · intro h
    induction h with
    | nil => exact ⟨[], rfl, .nil⟩
    | @cons t piece ts rest hpiece _ ih =>
        obtain ⟨pieces, rfl, hfits⟩ := ih
        exact ⟨piece :: pieces, rfl, .cons hpiece hfits⟩
  · rintro ⟨pieces, rfl, hfits⟩
    induction hfits with
    | nil => exact .nil
    | cons hpiece _ ih => exact .cons hpiece ih

theorem isMatch_iff_denotes {template topic : String} {mode : Mode} {p : Pattern}
    (h : Pattern.compile template mode = .ok p) :
    p.isMatch topic = true ↔ Denotes template topic := by
  rw [Pattern.isMatch_iff, (Pattern.compile_eq_ok h).2.2, cut_iff_pieces, Denotes]

theorem accepts_eq_false {template : String} {e : TemplateError}
    (h : Pattern.compile template .plain = .error e) (topic : String) :
    accepts template topic = false := by
  simp only [accepts, h]

theorem compile_empty (mode : Mode) : Pattern.compile "" mode = .error .empty := rfl

theorem compile_multiLevel {template : String} (hempty : template ≠ "")
    (hhash : '#' ∈ template.toList) (mode : Mode) :
    Pattern.compile template mode = .error (.multiLevel template) := by
  simp [Pattern.compile, hempty, hhash]

/-- A compiled template matches exactly the topics that it denotes. The empty template and those
with a multi-level wildcard are refused, the wildcard by name, and match nothing. -/
theorem compile_denotes (template : String) :
    (∀ mode p, Pattern.compile template mode = .ok p →
      ∀ topic, p.isMatch topic = true ↔ Denotes template topic) ∧
    (template = "" → ∀ mode, Pattern.compile template mode = .error .empty) ∧
    (template ≠ "" → '#' ∈ template.toList →
      ∀ mode, Pattern.compile template mode = .error (.multiLevel template)) ∧
    (template = "" ∨ '#' ∈ template.toList → ∀ topic, accepts template topic = false) := by
  refine ⟨?_, ?_, ?_, ?_⟩
  · intro mode p hp topic
    exact isMatch_iff_denotes hp
  · rintro rfl mode
    exact compile_empty mode
  · intro hempty hhash mode
    exact compile_multiLevel hempty hhash mode
  · intro hrefused topic
    by_cases hempty : template = ""
    · subst hempty
      exact accepts_eq_false (compile_empty .plain) topic
    · have hhash := hrefused.resolve_left hempty
      exact accepts_eq_false (compile_multiLevel hempty hhash .plain) topic

/-- Two single levels that touch need a character each, be it a line feed or a wildcard. -/
theorem compile_denotes_adjacent :
    (Denotes "v+\x7bx\x7d/c" "v\n+/c" ∧ ¬ Denotes "v+\x7bx\x7d/c" "v+/c") ∧
      Pattern.compile "" .extract = .error .empty ∧
      Pattern.compile "v/#" .plain = .error (.multiLevel "v/#") ∧
      accepts "v/#" "v/#" = false := by
  obtain ⟨hmatch, _, _, _⟩ := compile_denotes "v+\x7bx\x7d/c"
  have hlevels := hmatch .plain _ rfl
  obtain ⟨_, _, hhash, hrefused⟩ := compile_denotes "v/#"
  refine ⟨⟨(hlevels "v\n+/c").mp (by decide), ?_⟩, ?_, ?_, ?_⟩
  · intro h
    exact absurd ((hlevels "v+/c").mpr h) (by decide)
  · exact (compile_denotes "").2.1 rfl .extract
  · exact hhash (by decide) (by decide) .plain
  · exact hrefused (.inr (by decide)) "v/#"

end DeviceGateway.Topic
