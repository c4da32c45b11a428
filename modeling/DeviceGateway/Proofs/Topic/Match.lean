import DeviceGateway.Proofs.Topic.Template
import DeviceGateway.Topic.Pattern
/-!
What matching means. A topic matches when it can be cut into one piece a token; the rows that
matching works out say of each suffix of the topic whether it can be cut so.
-/
namespace DeviceGateway.Topic

/-- What a token may stand for. -/
def Token.Fits : Token → List Char → Prop
  | .literal text, piece => piece = text
  | .wildcard, piece | .variable _, piece => piece ≠ [] ∧ '/' ∉ piece

/-- A topic cut into a piece for each token. -/
inductive Cut : List Token → List Char → Prop
  | nil : Cut [] []
  | cons {t : Token} {piece : List Char} {ts : List Token} {rest : List Char} :
      t.Fits piece → Cut ts rest → Cut (t :: ts) (piece ++ rest)

@[simp] theorem cut_nil {topic : List Char} : Cut [] topic ↔ topic = [] := by
  constructor
  · intro h
    cases h
    rfl
  · rintro rfl
    exact .nil

theorem cut_cons {t : Token} {ts : List Token} {topic : List Char} :
    Cut (t :: ts) topic ↔ ∃ piece rest, topic = piece ++ rest ∧ t.Fits piece ∧ Cut ts rest := by
  constructor
  · intro h
    cases h with
    | cons hpiece hrest => exact ⟨_, _, rfl, hpiece, hrest⟩
  · rintro ⟨piece, rest, rfl, hpiece, hrest⟩
    exact .cons hpiece hrest

namespace Pattern

/-- A row says of each suffix of a topic, longest first, whether `P` holds of it. -/
inductive Tells (P : List Char → Prop) : List Char → Row → Prop
  | nil {a : Bool} : (a = true ↔ P []) → Tells P [] [a]
  | cons {a : Bool} {c : Char} {rest : List Char} {after : Row} :
      (a = true ↔ P (c :: rest)) → Tells P rest after → Tells P (c :: rest) (a :: after)

namespace Tells

variable {P : List Char → Prop} {topic : List Char} {row : Row}

theorem headD (h : Tells P topic row) : row.headD false = true ↔ P topic := by
  cases h with
  | nil ha => exact ha
  | cons ha _ => exact ha

theorem drop_append {text rest : List Char} (h : Tells P (text ++ rest) row) :
    Tells P rest (row.drop text.length) := by
  induction text generalizing row with
  | nil => exact h
  | cons c text ih =>
      cases h with
      | cons _ hafter => exact ih hafter

end Tells

theorem lastRow_tells (topic : List Char) : Tells (Cut []) topic (lastRow topic) := by
  induction topic with
  | nil => exact .nil (by simp)
  | cons c rest ih => exact .cons (by simp) ih

/-- One character of a single level, and then what follows the level or more of it. -/
theorem free_cons {c : Char} {rest : List Char} {P : List Char → Prop} :
    (∃ piece left, c :: rest = piece ++ left ∧ (piece ≠ [] ∧ '/' ∉ piece) ∧ P left) ↔
      c ≠ '/' ∧ (P rest ∨
        ∃ piece left, rest = piece ++ left ∧ (piece ≠ [] ∧ '/' ∉ piece) ∧ P left) := by
  constructor
  · rintro ⟨piece, left, heq, ⟨hne, hslash⟩, hleft⟩
    cases piece with
    | nil => exact absurd rfl hne
    | cons d more =>
        rw [List.cons_append] at heq
        injection heq with hd hrest
        subst hd hrest
        rw [List.mem_cons, not_or] at hslash
        refine ⟨fun h => hslash.1 h.symm, ?_⟩
        cases more with
        | nil => exact .inl hleft
        | cons e more => exact .inr ⟨e :: more, left, rfl, ⟨by simp, hslash.2⟩, hleft⟩
  · rintro ⟨hc, hrest | ⟨piece, left, rfl, ⟨_, hslash⟩, hleft⟩⟩
    · exact ⟨[c], rest, rfl, ⟨by simp, by simpa using fun h => hc h.symm⟩, hrest⟩
    · refine ⟨c :: piece, left, rfl, ⟨by simp, ?_⟩, hleft⟩
      rw [List.mem_cons, not_or]
      exact ⟨fun h => hc h.symm, hslash⟩

theorem freeRow_tells {P : List Char → Prop} {topic : List Char} {after : Row}
    (h : Tells P topic after) :
    Tells (fun s => ∃ piece left, s = piece ++ left ∧ (piece ≠ [] ∧ '/' ∉ piece) ∧ P left) topic
      (freeRow topic after) := by
  induction h with
  | nil ha =>
      refine .nil ?_
      constructor
      · intro h
        cases h
      · rintro ⟨piece, left, heq, ⟨hne, _⟩, _⟩
        exact absurd (List.append_eq_nil_iff.mp heq.symm).1 hne
  | cons ha hafter ih =>
      refine .cons ?_ ih
      rw [free_cons]
      simp only [Bool.and_eq_true, Bool.or_eq_true, decide_eq_true_eq, hafter.headD, ih.headD]

theorem literalRow_tells {P : List Char → Prop} {topic : List Char} {after : Row}
    (h : Tells P topic after) (text : List Char) :
    Tells (fun s => ∃ piece left, s = piece ++ left ∧ piece = text ∧ P left) topic
      (literalRow text topic after) := by
  -- Where the text stands, what follows it is told by the row that follows, as far along.
  have hmem (s : List Char) (row : Row) (hs : Tells P s row) :
      (text.isPrefixOf s = true ∧ (row.drop text.length).headD false = true) ↔
        ∃ piece left, s = piece ++ left ∧ piece = text ∧ P left := by
    constructor
    · rintro ⟨hbegins, hrow⟩
      obtain ⟨left, rfl⟩ := List.isPrefixOf_iff_prefix.mp hbegins
      exact ⟨text, left, rfl, rfl, hs.drop_append.headD.mp hrow⟩
    · rintro ⟨piece, left, rfl, rfl, hleft⟩
      exact ⟨List.isPrefixOf_iff_prefix.mpr (List.prefix_append _ _),
        hs.drop_append.headD.mpr hleft⟩
  induction h with
  | nil ha =>
      refine .nil ?_
      rw [← hmem [] _ (.nil ha), Bool.and_eq_true]
      cases text <;> simp
  | cons ha hafter ih =>
      refine .cons ?_ ih
      rw [← hmem _ _ (.cons ha hafter), Bool.and_eq_true]

/-- The row of a token list tells which suffixes of the topic can be cut for it. -/
theorem row_tells (topic : List Char) (ts : List Token) : Tells (Cut ts) topic (row topic ts) := by
  induction ts with
  | nil => exact lastRow_tells topic
  | cons t ts ih =>
      have hcut : Cut (t :: ts) = fun s => ∃ piece left, s = piece ++ left ∧ t.Fits piece ∧
          Cut ts left := by
        funext s
        exact propext cut_cons
      rw [hcut]
      cases t with
      | literal text => exact literalRow_tells ih text
      | wildcard => exact freeRow_tells ih
      | «variable» name => exact freeRow_tells ih

theorem isMatch_iff (p : Pattern) (topic : String) :
    p.isMatch topic = true ↔ Cut p.tokens topic.toList :=
  (row_tells topic.toList p.tokens).headD

theorem compile_ok {template : String} (hempty : template ≠ "") (hhash : '#' ∉ template.toList)
    (hsize : (Topic.tokens template).countP Token.isFree ≤ maxFree) (mode : Mode) :
    compile template mode = .ok ⟨template, mode, Topic.tokens template⟩ := by
  simp [compile, hempty, hhash, Nat.not_lt.mpr hsize]

theorem compile_eq_ok {template : String} {mode : Mode} {p : Pattern}
    (h : compile template mode = .ok p) :
    template ≠ "" ∧ '#' ∉ template.toList ∧ p.tokens = Topic.tokens template := by
  unfold compile at h
  split at h
  · cases h
  · next hempty =>
    split at h
    · cases h
    · next hhash =>
      dsimp only at h
      split at h
      · cases h
      · cases h
        exact ⟨by simpa using hempty, by simpa using hhash, rfl⟩

end Pattern

/-- A template that can be compiled. -/
def Usable (template : String) : Prop := (Pattern.compile template .plain).isOk = true

instance (template : String) : Decidable (Usable template) := by unfold Usable; infer_instance

theorem accepts_iff {template topic : String} :
    accepts template topic = true ↔ Usable template ∧ Cut (tokens template) topic.toList := by
  unfold accepts Usable
  cases h : Pattern.compile template .plain with
  | error e => simp [Except.isOk, Except.toBool]
  | ok p =>
      simp only [Pattern.isMatch_iff, (Pattern.compile_eq_ok h).2.2, Except.isOk, Except.toBool,
        true_and]

theorem Usable.not_mem_hash {template : String} (h : Usable template) :
    '#' ∉ template.toList := by
  unfold Usable at h
  cases hc : Pattern.compile template .plain with
  | error e =>
      rw [hc] at h
      cases h
  | ok p => exact (Pattern.compile_eq_ok hc).2.1

end DeviceGateway.Topic
