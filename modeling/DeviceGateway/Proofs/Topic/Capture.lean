import DeviceGateway.Proofs.Topic.Denotation
import DeviceGateway.Proofs.Topic.Render
/-!
What a capture is. The pieces that the tokens of a matching template are given are a way to cut the
topic, and the number that is read off a topic is the piece of the first variable for it.
-/
namespace DeviceGateway.Topic

theorem Token.fits_iff_isPiece {t : Token} (h : t.isFree = true) {piece : List Char} :
    t.Fits piece ↔ IsPiece piece := by
  cases t with
  | literal text => cases h
  | wildcard => exact Iff.rfl
  | «variable» name => exact Iff.rfl

namespace Pattern

/-- Rows for a token list and for each of its suffixes. -/
inductive AllTell : List Token → List Char → List Row → Prop
  | nil {topic : List Char} {row : Row} : Tells (Cut []) topic row → AllTell [] topic [row]
  | cons {t : Token} {ts : List Token} {topic : List Char} {row : Row} {table : List Row} :
      Tells (Cut (t :: ts)) topic row → AllTell ts topic table →
      AllTell (t :: ts) topic (row :: table)

theorem rows_allTell (topic : List Char) (ts : List Token) : AllTell ts topic (rows topic ts) := by
  induction ts with
  | nil => exact .nil (lastRow_tells topic)
  | cons t ts ih =>
      have hrow : Tells (Cut (t :: ts)) topic (row topic (t :: ts)) := row_tells topic (t :: ts)
      rw [rows, headD_rows]
      exact .cons hrow ih

theorem AllTell.head {ts : List Token} {topic : List Char} {row : Row} {table : List Row}
    (h : AllTell ts topic (row :: table)) : Tells (Cut ts) topic row := by
  cases h with
  | nil hrow => exact hrow
  | cons hrow _ => exact hrow

theorem AllTell.drop_append {ts : List Token} {text rest : List Char} {table : List Row}
    (h : AllTell ts (text ++ rest) table) : AllTell ts rest (table.map (·.drop text.length)) := by
  induction ts generalizing table with
  | nil =>
      cases h with
      | nil hrow => exact .nil hrow.drop_append
  | cons t ts ih =>
      cases h with
      | cons hrow htable => exact .cons hrow.drop_append (ih htable)

theorem longest_le_length (topic : List Char) (after : Row) :
    longest topic after ≤ topic.length := by
  induction topic generalizing after with
  | nil => simp [longest]
  | cons c rest ih =>
      cases after with
      | nil => simp [longest]
      | cons _ after =>
          have hrest := ih after
          simp only [longest, List.length_cons]
          split
          · omega
          · split
            · omega
            · split <;> omega

theorem AllTell.exists_cons {ts : List Token} {topic : List Char} {table : List Row}
    (h : AllTell ts topic table) : ∃ row more, table = row :: more := by
  cases h with
  | nil _ => exact ⟨_, _, rfl⟩
  | cons _ _ => exact ⟨_, _, rfl⟩

/-- If a single level can take any piece, it takes one that leaves what `after` describes. -/
theorem longest_tells {P : List Char → Prop} {topic : List Char} {after : Row}
    (h : Tells P topic after) :
    (0 < longest topic after → P (topic.drop (longest topic after))) ∧
      ((∃ piece left, topic = piece ++ left ∧ (piece ≠ [] ∧ '/' ∉ piece) ∧ P left) →
        0 < longest topic after) := by
  induction h with
  | nil ha =>
      refine ⟨fun hpos => absurd hpos (by simp [longest]), ?_⟩
      rintro ⟨piece, left, heq, ⟨hne, _⟩, _⟩
      exact absurd (List.append_eq_nil_iff.mp heq.symm).1 hne
  | @cons a c rest after ha hafter ih =>
      obtain ⟨hleaves, hpos⟩ := ih
      rw [free_cons]
      by_cases hc : c = '/'
      · simp [longest, hc]
      · simp only [longest, hc, if_false]
        split
        · next hmore => exact ⟨fun _ => hleaves hmore, fun _ => Nat.succ_pos _⟩
        · next hmore =>
          split
          · next hnext => exact ⟨fun _ => hafter.headD.mp hnext, fun _ => Nat.one_pos⟩
          · next hnext =>
            refine ⟨fun h => absurd h (Nat.lt_irrefl 0), ?_⟩
            rintro ⟨_, hrest | hpiece⟩
            · exact absurd (hafter.headD.mpr hrest) hnext
            · exact absurd (hpos hpiece) hmore

/-- The piece that a single level is given, and what it leaves. -/
theorem longest_fits {ts : List Token} {topic : List Char} {after : Row}
    (h : Tells (Cut ts) topic after)
    (hpiece : ∃ piece left, topic = piece ++ left ∧ IsPiece piece ∧ Cut ts left) :
    IsPiece (topic.take (longest topic after)) ∧ Cut ts (topic.drop (longest topic after)) := by
  obtain ⟨hleaves, hpos⟩ := longest_tells h
  have htaken := hpos hpiece
  refine ⟨⟨?_, not_mem_take_longest topic after⟩, hleaves htaken⟩
  have hlength := longest_le_length topic after
  rw [← List.length_pos_iff, List.length_take]
  omega

theorem pieces_free {t : Token} (h : t.isFree = true) (ts : List Token) (topic : List Char)
    (row after : Row) (table : List Row) :
    pieces topic (t :: ts) (row :: after :: table) =
      topic.take (longest topic after) :: pieces (topic.drop (longest topic after)) ts
        ((after :: table).map (·.drop (longest topic after))) := by
  cases t with
  | literal text => cases h
  | wildcard => rfl
  | «variable» name => rfl

/-- The pieces that the tokens are given make up the topic. -/
theorem pieces_fit {ts : List Token} {topic : List Char} {table : List Row}
    (htable : AllTell ts topic table) (hcut : Cut ts topic) :
    (pieces topic ts table).flatten = topic ∧
      List.Forall₂ Token.Fits ts (pieces topic ts table) := by
  induction ts generalizing topic table with
  | nil =>
      rw [cut_nil] at hcut
      exact ⟨hcut.symm, .nil⟩
  | cons t ts ih =>
      cases htable with
      | @cons _ _ _ row table _ htable =>
      cases hfree : t.isFree with
      | false =>
          cases t with
          | literal text =>
              obtain ⟨_, left, rfl, rfl, hleft⟩ := cut_cons.mp hcut
              obtain ⟨hflatten, hfits⟩ := ih htable.drop_append hleft
              simp only [pieces, List.drop_left, List.flatten_cons, hflatten]
              exact ⟨trivial, .cons rfl hfits⟩
          | wildcard => cases hfree
          | «variable» name => cases hfree
      | true =>
          -- A level takes the longest piece that leaves something for the rest, and the rows that
          -- are left tell of what is left.
          obtain ⟨after, more, rfl⟩ := htable.exists_cons
          simp only [cut_cons, Token.fits_iff_isPiece hfree] at hcut
          obtain ⟨hpiece, hleft⟩ := longest_fits htable.head hcut
          have htopic := List.take_append_drop (longest topic after) topic
          have hlength : (topic.take (longest topic after)).length = longest topic after :=
            List.length_take_of_le (longest_le_length topic after)
          rw [← htopic] at htable
          obtain ⟨hflatten, hfits⟩ := ih htable.drop_append hleft
          rw [hlength] at hflatten hfits
          rw [pieces_free hfree, List.flatten_cons, hflatten]
          exact ⟨htopic, .cons ((Token.fits_iff_isPiece hfree).mpr hpiece) hfits⟩

theorem compile_extract (template : String) :
    compile template .extract =
      (compile template .plain).map fun p => { p with mode := .extract } := by
  unfold compile
  dsimp only
  split
  · rfl
  · split
    · rfl
    · split <;> rfl

end Pattern

/-- Whether a template compiles does not depend on what is wanted of it. -/
theorem usable_of_compile {template : String} {mode : Mode} {p : Pattern}
    (h : Pattern.compile template mode = .ok p) : Usable template := by
  unfold Usable
  cases hplain : Pattern.compile template .plain with
  | ok p => rfl
  | error e =>
      cases mode with
      | plain => rw [hplain] at h; cases h
      | extract => rw [Pattern.compile_extract, hplain] at h; cases h

/-- A topic cut into pieces, with the one that is read off it: that of the first variable for the
device's number. -/
def Reads (ts : List Token) (topic number : List Char) : Prop :=
  ∃ pieces, pieces.flatten = topic ∧ List.Forall₂ Token.Fits ts pieces ∧
    Pattern.captured ts pieces = number

/-- A template reads a number off the topics that it matches, and off no others. -/
theorem isSome_extract? (template topic : String) :
    (extract? template topic).isSome = accepts template topic := by
  unfold extract? accepts
  rw [Pattern.compile_extract]
  cases Pattern.compile template .plain with
  | error e => rfl
  | ok p =>
      simp only [Except.map, Pattern.capture?, Pattern.isMatch, Pattern.headD_rows]
      split <;> simp_all

theorem reads_of_extract? {template topic number : String}
    (h : extract? template topic = some number) :
    Reads (tokens template) topic.toList number.toList := by
  unfold extract? at h
  rw [Pattern.compile_extract] at h
  cases hp : Pattern.compile template .plain with
  | error e =>
      rw [hp] at h
      cases h
  | ok p =>
      rw [hp] at h
      simp only [Except.map, Pattern.capture?, Pattern.headD_rows] at h
      split at h
      · next hmatch =>
        cases h
        rw [String.toList_ofList, ← (Pattern.compile_eq_ok hp).2.2]
        obtain ⟨hflatten, hfits⟩ := Pattern.pieces_fit (Pattern.rows_allTell topic.toList p.tokens)
          ((Pattern.row_tells topic.toList p.tokens).headD.mp hmatch)
        exact ⟨_, hflatten, hfits, rfl⟩
      · cases h

end DeviceGateway.Topic
