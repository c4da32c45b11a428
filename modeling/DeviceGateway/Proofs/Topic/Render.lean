import DeviceGateway.Proofs.Topic.Denotation
import DeviceGateway.Proofs.Topic.Levels
/-!
A template that is filled in matches what comes out, and a device's number that was read off a topic
is fit to be filled in: both are parts of single levels.
-/
namespace DeviceGateway.Topic

/-- Part of a single level, which any token but a literal can stand for. -/
def IsPiece (text : List Char) : Prop := text ≠ [] ∧ '/' ∉ text

instance : DecidablePred IsPiece :=
  fun text => inferInstanceAs (Decidable (text ≠ [] ∧ '/' ∉ text))

theorem isPiece_source {name : List Char} (h : IsName name) :
    IsPiece (Token.variable name).source := by
  have hname : '/' ∉ name := h.not_mem (by decide)
  refine ⟨List.cons_ne_nil _ _, ?_⟩
  simp [Token.source, hname]

/-- The values are fit to be filled in. Of several that one name is given, the first counts. -/
def Fillable (vars : List (String × String)) : Prop :=
  ∀ name value, vars.lookup name = some value → IsPiece value.toList

/-- Only the names that are given need to be looked at. -/
theorem fillable_iff {vars : List (String × String)} :
    Fillable vars ↔ ∀ v ∈ vars, ∀ value ∈ vars.lookup v.1, IsPiece value.toList := by
  constructor
  · intro h v _ value hvalue
    exact h v.1 value hvalue
  · intro h name value hvalue
    obtain ⟨before, after, hvars, _⟩ := List.lookup_eq_some_iff.mp hvalue
    have hmem : (name, value) ∈ vars := hvars ▸ List.mem_append_right _ List.mem_cons_self
    exact h _ hmem value hvalue

instance (vars : List (String × String)) : Decidable (Fillable vars) :=
  decidable_of_iff _ fillable_iff.symm

theorem Fillable.single {name value : String} (h : IsPiece value.toList) :
    Fillable [(name, value)] := by
  intro other found hfound
  rw [List.lookup_cons] at hfound
  split at hfound
  · cases hfound
    exact h
  · cases hfound

theorem valueOf?_eq_lookup (vars : List (String × String)) (name : List Char) :
    valueOf? vars name = (vars.lookup (.ofList name)).map String.toList := by
  unfold valueOf?
  induction vars with
  | nil => rfl
  | cons v vars ih =>
      rw [List.find?_cons, List.lookup_cons]
      by_cases h : v.1.toList = name
      · subst h
        simp
      · have hne : (String.ofList name == v.1) = false := by
          refine beq_eq_false_iff_ne.mpr fun heq => h ?_
          rw [← heq, String.toList_ofList]
        simp [h, hne, ih]

/-- A variable is filled in with a piece, or stays as it is, which is one too. -/
theorem isPiece_renderToken {vars : List (String × String)} (h : Fillable vars)
    {name : List Char} (hname : IsName name) : IsPiece (renderToken vars (.variable name)) := by
  change IsPiece ((valueOf? vars name).getD (Token.variable name).source)
  rw [valueOf?_eq_lookup]
  cases hfound : vars.lookup (.ofList name) with
  | none => exact isPiece_source hname
  | some value => exact h _ value hfound

theorem fits_renderToken {vars : List (String × String)} (h : Fillable vars) {text : List Char}
    {t : Token} (ht : t ∈ tokensFrom 0 text) : t.Fits (renderToken vars t) := by
  cases t with
  | literal text => rfl
  | wildcard => exact (by decide : IsPiece ['+'])
  | «variable» name => exact isPiece_renderToken h (isName_of_mem_tokensFrom ht)

theorem forall₂_fits_map {f : Token → List Char} {ts : List Token} (h : ∀ t ∈ ts, t.Fits (f t)) :
    List.Forall₂ Token.Fits ts (ts.map f) := by
  rw [List.forall₂_map_right_iff, List.forall₂_same]
  exact h

/-- A template that can be used matches what is made of it, whichever variables are filled in. -/
theorem accepts_render {vars : List (String × String)} (h : Fillable vars)
    {template : String} (husable : Usable template) :
    accepts template (render template vars) = true := by
  refine accepts_iff.mpr ⟨husable, cut_iff_pieces.mpr ⟨_, ?_, forall₂_fits_map fun _ ht =>
    fits_renderToken h ht⟩⟩
  rw [render, String.toList_ofList, List.flatMap_def]

namespace Pattern

theorem not_mem_take_longest (topic : List Char) (after : Row) :
    '/' ∉ topic.take (longest topic after) := by
  induction topic generalizing after with
  | nil => simp
  | cons c rest ih =>
      cases after with
      | nil => simp [longest]
      | cons _ after =>
          by_cases hc : c = '/'
          · simp [longest, hc]
          · have hcons (n : Nat) (h : '/' ∉ rest.take n) : '/' ∉ (c :: rest).take (n + 1) := by
              rw [List.take_succ_cons, List.mem_cons, not_or]
              exact ⟨fun heq => hc heq.symm, h⟩
            simp only [longest, if_neg hc]
            split
            · exact hcons _ (ih after)
            · split
              · exact hcons 0 List.not_mem_nil
              · exact List.not_mem_nil

theorem not_mem_captured (ts : List Token) (topic : List Char) (rows : List Row) :
    '/' ∉ captured ts (pieces topic ts rows) := by
  induction ts generalizing topic rows with
  | nil => simp [captured]
  | cons t rest ih =>
      cases rows with
      | nil => cases t <;> simp [pieces, captured]
      | cons row rows =>
          cases t with
          | literal text =>
              simp only [pieces, captured]
              exact ih _ _
          | wildcard =>
              cases rows with
              | nil => simp [pieces, captured]
              | cons after rows =>
                  simp only [pieces, captured]
                  exact ih _ _
          | «variable» name =>
              cases rows with
              | nil => simp [pieces, captured]
              | cons after rows =>
                  simp only [pieces, captured]
                  split
                  · exact not_mem_take_longest topic after
                  · exact ih _ _

end Pattern

theorem not_mem_of_extract? {template topic number : String}
    (h : extract? template topic = some number) : '/' ∉ number.toList := by
  unfold extract? at h
  split at h
  · unfold Pattern.capture? at h
    dsimp only at h
    split at h
    · split at h
      · cases h
        exact List.not_mem_nil
      · cases h
        rw [String.toList_ofList]
        exact Pattern.not_mem_captured _ _ _
    · cases h
  · cases h

/-- The number of the device that a topic is meant for is within a single level. -/
theorem Canonical.not_mem_of_deviceNumber? {topic number : String}
    (h : deviceNumber? topic = some number) : '/' ∉ number.toList := by
  obtain ⟨template, _, htemplate⟩ := List.mem_filterMap.mp (List.mem_of_find?_eq_some h)
  exact not_mem_of_extract? htemplate

end DeviceGateway.Topic
