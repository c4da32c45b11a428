import DeviceGateway.Proofs.Topic.Capture
import Mathlib.Data.List.Lex
/-!
Which cut of a topic a capture is read off. Where levels touch, a topic can be cut in several ways.
The one that counts gives the first level as much as it can have, then the second, and so on; it is
what a search comes upon first that tries longer pieces before shorter ones.
-/
namespace DeviceGateway.Topic

structure CutInto (ts : List Token) (topic : List Char) (pieces : List (List Char)) : Prop where
  flatten : pieces.flatten = topic
  fits : List.Forall₂ Token.Fits ts pieces

theorem cutInto_nil {topic : List Char} {pieces : List (List Char)} :
    CutInto [] topic pieces ↔ topic = [] ∧ pieces = [] := by
  constructor
  · rintro ⟨rfl, hfits⟩
    cases hfits
    exact ⟨rfl, rfl⟩
  · rintro ⟨rfl, rfl⟩
    exact ⟨rfl, .nil⟩

theorem cutInto_cons {t : Token} {ts : List Token} {topic : List Char}
    {pieces : List (List Char)} :
    CutInto (t :: ts) topic pieces ↔ ∃ piece more left, pieces = piece :: more ∧
      topic = piece ++ left ∧ t.Fits piece ∧ CutInto ts left more := by
  constructor
  · rintro ⟨rfl, hfits⟩
    cases hfits with
    | @cons _ piece _ more hpiece hmore =>
        exact ⟨piece, more, more.flatten, rfl, rfl, hpiece, rfl, hmore⟩
  · rintro ⟨piece, more, left, rfl, rfl, hpiece, rfl, hmore⟩
    exact ⟨rfl, .cons hpiece hmore⟩

theorem CutInto.cut {ts : List Token} {topic : List Char} {pieces : List (List Char)}
    (h : CutInto ts topic pieces) : Cut ts topic :=
  cut_iff_pieces.mpr ⟨pieces, h.flatten, h.fits⟩

/-- The lengths of the pieces that stand for any level, in the order of their tokens. -/
def freeLengths (ts : List Token) (pieces : List (List Char)) : List Nat :=
  ((ts.zip pieces).filter fun x => x.1.isFree).map fun x => x.2.length

@[simp] theorem freeLengths_literal (text : List Char) (ts : List Token) (piece : List Char)
    (pieces : List (List Char)) :
    freeLengths (.literal text :: ts) (piece :: pieces) = freeLengths ts pieces := rfl

theorem freeLengths_free {t : Token} (h : t.isFree = true) (ts : List Token) (piece : List Char)
    (pieces : List (List Char)) :
    freeLengths (t :: ts) (piece :: pieces) = piece.length :: freeLengths ts pieces := by
  simp [freeLengths, h]

/-- The piece of the first variable for the device's number; empty if there is none. -/
def numberPiece (ts : List Token) (pieces : List (List Char)) : List Char :=
  ((ts.zip pieces).lookup (.variable deviceNumber.toList)).getD []

theorem captured_eq_numberPiece (ts : List Token) (pieces : List (List Char)) :
    Pattern.captured ts pieces = numberPiece ts pieces := by
  induction ts generalizing pieces with
  | nil => simp [Pattern.captured, numberPiece]
  | cons t ts ih =>
      cases pieces with
      | nil => cases t <;> simp [Pattern.captured, numberPiece]
      | cons piece pieces =>
          have hskip (h : Token.variable deviceNumber.toList ≠ t) :
              numberPiece (t :: ts) (piece :: pieces) = numberPiece ts pieces := by
            simp [numberPiece, List.lookup_cons, beq_false_of_ne h]
          cases t with
          | literal text => exact (ih pieces).trans (hskip (by simp)).symm
          | wildcard => exact (ih pieces).trans (hskip (by simp)).symm
          | «variable» name =>
              by_cases hname : name = deviceNumber.toList
              · simp [Pattern.captured, numberPiece, hname]
              · rw [Pattern.captured, if_neg hname, ih pieces, hskip]
                intro heq
                exact hname (Token.variable.inj heq).symm

/-- The cut whose pieces for levels are longest, the first of them before the second and so on. -/
structure Greedy (ts : List Token) (topic : List Char) (pieces : List (List Char)) : Prop
    extends CutInto ts topic pieces where
  greatest : ∀ others, CutInto ts topic others → freeLengths ts others ≤ freeLengths ts pieces

theorem CutInto.eq_of_freeLengths {ts : List Token} {topic : List Char}
    {pieces others : List (List Char)} (h : CutInto ts topic pieces)
    (h' : CutInto ts topic others) (hlengths : freeLengths ts pieces = freeLengths ts others) :
    pieces = others := by
  induction ts generalizing topic pieces others with
  | nil => rw [(cutInto_nil.mp h).2, (cutInto_nil.mp h').2]
  | cons t ts ih =>
      obtain ⟨piece, more, left, rfl, rfl, hpiece, hmore⟩ := cutInto_cons.mp h
      obtain ⟨other, rest, left', rfl, htopic, hother, hrest⟩ := cutInto_cons.mp h'
      have hsame : piece.length = other.length ∧ freeLengths ts more = freeLengths ts rest := by
        cases hfree : t.isFree with
        | true =>
            rw [freeLengths_free hfree, freeLengths_free hfree] at hlengths
            exact List.cons.inj hlengths
        | false =>
            cases t with
            | literal text =>
                obtain rfl : piece = text := hpiece
                obtain rfl : other = piece := hother
                exact ⟨rfl, hlengths⟩
            | wildcard => cases hfree
            | «variable» name => cases hfree
      obtain ⟨rfl, rfl⟩ := List.append_inj htopic hsame.1
      rw [ih hmore hrest hsame.2]

theorem Greedy.unique {ts : List Token} {topic : List Char} {pieces others : List (List Char)}
    (h : Greedy ts topic pieces) (h' : Greedy ts topic others) : pieces = others :=
  h.toCutInto.eq_of_freeLengths h'.toCutInto
    (le_antisymm (h'.greatest _ h.toCutInto) (h.greatest _ h'.toCutInto))

namespace Pattern

/-- No piece is longer that leaves what `after` describes. -/
theorem le_longest {P : List Char → Prop} {topic : List Char} {after : Row}
    (h : Tells P topic after) {piece left : List Char} (htopic : topic = piece ++ left)
    (hpiece : IsPiece piece) (hleft : P left) : piece.length ≤ longest topic after := by
  induction h generalizing piece with
  | nil ha => exact absurd (List.append_eq_nil_iff.mp htopic.symm).1 hpiece.1
  | @cons a c rest after ha hafter ih =>
      obtain ⟨hne, hslash⟩ := hpiece
      cases piece with
      | nil => exact absurd rfl hne
      | cons d more =>
          obtain ⟨rfl, rfl⟩ := List.cons.inj htopic
          rw [List.mem_cons, not_or] at hslash
          have hc : c ≠ '/' := fun heq => hslash.1 heq.symm
          simp only [longest, if_neg hc, List.length_cons]
          cases more with
          | nil =>
              have hnext : after.headD false = true := hafter.headD.mpr hleft
              rw [if_pos hnext]
              split <;> simp
          | cons e more =>
              have hmore := ih rfl ⟨List.cons_ne_nil _ _, hslash.2⟩
              rw [List.length_cons] at hmore ⊢
              rw [if_pos (by omega)]
              omega

/-- The pieces that the tokens are given are no shorter than those of any other cut. -/
theorem le_freeLengths_pieces {ts : List Token} {topic : List Char} {table : List Row}
    (htable : AllTell ts topic table) {others : List (List Char)}
    (h : CutInto ts topic others) :
    freeLengths ts others ≤ freeLengths ts (pieces topic ts table) := by
  induction ts generalizing topic table others with
  | nil => exact le_refl _
  | cons t ts ih =>
      obtain ⟨piece, more, left, rfl, rfl, hpiece, hmore⟩ := cutInto_cons.mp h
      cases htable with
      | @cons _ _ _ row table _ htable =>
      cases hfree : t.isFree with
      | false =>
          cases t with
          | literal text =>
              obtain rfl : piece = text := hpiece
              simp only [pieces, freeLengths_literal, List.drop_left]
              exact ih htable.drop_append hmore
          | wildcard => cases hfree
          | «variable» name => cases hfree
      | true =>
          obtain ⟨after, rows, rfl⟩ := htable.exists_cons
          have hle := le_longest htable.head rfl ((Token.fits_iff_isPiece hfree).mp hpiece)
            hmore.cut
          rw [pieces_free hfree, freeLengths_free hfree, freeLengths_free hfree,
            List.length_take_of_le (longest_le_length _ _)]
          rcases Nat.lt_or_eq_of_le hle with hlt | heq
          · exact le_of_lt (List.cons_lt_cons_iff.mpr (.inl hlt))
          · -- The same piece is taken, so the same is left.
            rw [← heq, List.drop_left]
            exact List.cons_le_cons _ (ih htable.drop_append hmore)

theorem pieces_greedy {ts : List Token} {topic : List Char} {table : List Row}
    (htable : AllTell ts topic table) (hcut : Cut ts topic) :
    Greedy ts topic (pieces topic ts table) := by
  obtain ⟨hflatten, hfits⟩ := pieces_fit htable hcut
  exact ⟨⟨hflatten, hfits⟩, fun others => le_freeLengths_pieces htable⟩

end Pattern

/-! ### The search -/

/-- How long a piece at the start of a text may be, longest first. -/
def pieceLengths (topic : List Char) : List Nat :=
  (List.range' 1 (topic.takeWhile (· ≠ '/')).length).reverse

/-- The ways to cut a topic, as a search comes upon them that goes through the tokens in turn, tries
longer pieces first and goes back to the last choice when it is stuck. -/
def ways : List Token → List Char → List (List (List Char))
  | [], topic => if topic.isEmpty then [[]] else []
  | .literal text :: ts, topic =>
    if text.isPrefixOf topic then (ways ts (topic.drop text.length)).map (text :: ·) else []
  | .wildcard :: ts, topic | .variable _ :: ts, topic =>
    (pieceLengths topic).flatMap fun n => (ways ts (topic.drop n)).map (topic.take n :: ·)

theorem ways_free {t : Token} (h : t.isFree = true) (ts : List Token) (topic : List Char) :
    ways (t :: ts) topic =
      (pieceLengths topic).flatMap fun n => (ways ts (topic.drop n)).map (topic.take n :: ·) := by
  cases t with
  | literal text => cases h
  | wildcard => rfl
  | «variable» name => rfl

theorem length_mem_pieceLengths {piece : List Char} (h : IsPiece piece) (left : List Char) :
    piece.length ∈ pieceLengths (piece ++ left) := by
  have hlevel : ∀ c ∈ piece, decide (c ≠ '/') = true := by
    rintro c hc
    exact decide_eq_true fun heq => h.2 (heq ▸ hc)
  have hpos := List.length_pos_iff.mpr h.1
  rw [pieceLengths, List.mem_reverse, List.mem_range'_1, List.takeWhile_append_of_pos hlevel,
    List.length_append]
  omega

theorem isPiece_take {topic : List Char} {n : Nat} (h : n ∈ pieceLengths topic) :
    n ≤ topic.length ∧ IsPiece (topic.take n) := by
  rw [pieceLengths, List.mem_reverse, List.mem_range'_1] at h
  have hprefix : topic.takeWhile (· ≠ '/') <+: topic := List.takeWhile_prefix _
  have hlength := hprefix.length_le
  refine ⟨by omega, ?_, ?_⟩
  · rw [← List.length_pos_iff, List.length_take]
    omega
  · intro hmem
    have htake : topic.take n <+: topic.takeWhile (· ≠ '/') :=
      List.prefix_of_prefix_length_le (List.take_prefix n topic) hprefix (by
        rw [List.length_take]
        omega)
    have hslash := List.all_eq_true.mp List.all_takeWhile '/' (htake.subset hmem)
    exact absurd rfl (of_decide_eq_true hslash)

/-- A search comes upon all the ways to cut a topic. -/
theorem mem_ways {ts : List Token} {topic : List Char} {pieces : List (List Char)} :
    pieces ∈ ways ts topic ↔ CutInto ts topic pieces := by
  induction ts generalizing topic pieces with
  | nil =>
      rw [cutInto_nil]
      cases topic <;> simp [ways]
  | cons t ts ih =>
      rw [cutInto_cons]
      cases hfree : t.isFree with
      | false =>
          cases t with
          | literal text =>
              unfold ways
              split
              · next hprefix =>
                obtain ⟨left, rfl⟩ := List.isPrefixOf_iff_prefix.mp hprefix
                rw [List.drop_left, List.mem_map]
                constructor
                · rintro ⟨more, hmore, rfl⟩
                  exact ⟨text, more, left, rfl, rfl, rfl, ih.mp hmore⟩
                · rintro ⟨_, more, _, rfl, htopic, rfl, hmore⟩
                  obtain rfl := List.append_cancel_left htopic
                  exact ⟨more, ih.mpr hmore, rfl⟩
              · next hprefix =>
                refine iff_of_false List.not_mem_nil ?_
                rintro ⟨_, _, left, _, rfl, rfl, _⟩
                exact hprefix (List.isPrefixOf_iff_prefix.mpr (List.prefix_append _ left))
          | wildcard => cases hfree
          | «variable» name => cases hfree
      | true =>
          simp only [ways_free hfree, List.mem_flatMap, List.mem_map, ih,
            Token.fits_iff_isPiece hfree]
          constructor
          · rintro ⟨n, hn, more, hmore, rfl⟩
            exact ⟨_, more, _, rfl, (List.take_append_drop n topic).symm, (isPiece_take hn).2,
              hmore⟩
          · rintro ⟨piece, more, left, rfl, rfl, hpiece, hmore⟩
            refine ⟨piece.length, length_mem_pieceLengths hpiece left, more, ?_, ?_⟩
            · rwa [List.drop_left]
            · rw [List.take_left]

/-- A search comes upon a greater way before any smaller one. -/
theorem ways_sorted (ts : List Token) (topic : List Char) :
    (ways ts topic).Pairwise fun pieces others =>
      freeLengths ts others < freeLengths ts pieces := by
  induction ts generalizing topic with
  | nil =>
      unfold ways
      split
      · exact List.pairwise_singleton _ _
      · exact .nil
  | cons t ts ih =>
      cases hfree : t.isFree with
      | false =>
          cases t with
          | literal text =>
              unfold ways
              split
              · exact List.pairwise_map.mpr (ih _)
              · exact .nil
          | wildcard => cases hfree
          | «variable» name => cases hfree
      | true =>
          rw [ways_free hfree, List.pairwise_flatMap]
          refine ⟨?_, ?_⟩
          · intro n _
            refine List.pairwise_map.mpr ((ih _).imp ?_)
            intro pieces others hlt
            rw [freeLengths_free hfree, freeLengths_free hfree, List.cons_lt_cons_iff]
            exact .inr ⟨rfl, hlt⟩
          · have hdecreasing : (pieceLengths topic).Pairwise (· > ·) :=
              List.pairwise_reverse.mpr List.pairwise_lt_range'
            refine hdecreasing.imp_of_mem ?_
            intro n m hn hm hlt pieces hpieces others hothers
            obtain ⟨more, _, rfl⟩ := List.mem_map.mp hpieces
            obtain ⟨rest, _, rfl⟩ := List.mem_map.mp hothers
            rw [freeLengths_free hfree, freeLengths_free hfree, List.cons_lt_cons_iff,
              List.length_take_of_le (isPiece_take hn).1,
              List.length_take_of_le (isPiece_take hm).1]
            exact .inl hlt

/-- What a search comes upon first is the greedy cut. -/
theorem head?_ways {ts : List Token} {topic : List Char} {pieces : List (List Char)} :
    (ways ts topic).head? = some pieces ↔ Greedy ts topic pieces := by
  have hgreedy {first : List (List Char)} (h : (ways ts topic).head? = some first) :
      Greedy ts topic first := by
    obtain ⟨rest, hways⟩ := List.head?_eq_some_iff.mp h
    have hsorted := ways_sorted ts topic
    rw [hways, List.pairwise_cons] at hsorted
    refine ⟨mem_ways.mp (List.mem_of_mem_head? h), ?_⟩
    intro others hothers
    have hmem := mem_ways.mpr hothers
    rw [hways, List.mem_cons] at hmem
    rcases hmem with rfl | hmem
    · exact le_refl _
    · exact le_of_lt (hsorted.1 others hmem)
  refine ⟨hgreedy, fun h => ?_⟩
  cases hfirst : (ways ts topic).head? with
  | none =>
      have hmem := mem_ways.mpr h.toCutInto
      rw [List.head?_eq_none_iff.mp hfirst] at hmem
      cases hmem
  | some first => rw [(hgreedy hfirst).unique h]

/-! ### The capture -/

namespace Pattern

section

variable (template : String) {ts : List Token} {topic : String}

theorem isSome_capture? (mode : Mode) :
    ((⟨template, mode, ts⟩ : Pattern).capture? topic).isSome = true ↔ Cut ts topic.toList := by
  rw [← (row_tells topic.toList ts).headD]
  simp only [capture?, headD_rows]
  cases (row topic.toList ts).headD false with
  | false => simp
  | true => cases mode <;> simp

/-- What is captured is read off the greedy cut. -/
theorem capture?_eq_some_iff {number : String} :
    (⟨template, .extract, ts⟩ : Pattern).capture? topic = some number ↔
      ∃ pieces, Greedy ts topic.toList pieces ∧ number.toList = numberPiece ts pieces := by
  have hgreedy (h : Cut ts topic.toList) :
      Greedy ts topic.toList (pieces topic.toList ts (rows topic.toList ts)) :=
    pieces_greedy (rows_allTell topic.toList ts) h
  have hcapture (h : Cut ts topic.toList) :
      (⟨template, .extract, ts⟩ : Pattern).capture? topic =
        some (.ofList (numberPiece ts (pieces topic.toList ts (rows topic.toList ts)))) := by
    simp only [capture?, headD_rows, (row_tells topic.toList ts).headD.mpr h, if_true,
      captured_eq_numberPiece]
  constructor
  · intro h
    have hcut : Cut ts topic.toList :=
      (isSome_capture? template .extract).mp (Option.isSome_of_eq_some h)
    rw [hcapture hcut] at h
    exact ⟨_, hgreedy hcut, by rw [← Option.some.inj h, String.toList_ofList]⟩
  · rintro ⟨pieces, hpieces, hnumber⟩
    have hcut := hpieces.cut
    rw [hcapture hcut, (hgreedy hcut).unique hpieces, ← hnumber, String.ofList_toList]

end

end Pattern

/-- A template that can be compiled for matching can be for capturing, and then captures from the
topics that it matches and from no others. What it captures is the piece of the first variable for
the device's number in the greedy cut of the topic, empty if there is no such variable. The greedy
cut is the one that a search comes upon first. -/
theorem capture_greedy {template : String} (hempty : template ≠ "")
    (hhash : '#' ∉ template.toList)
    (hsize : (tokens template).countP Token.isFree ≤ maxFree) :
    ∃ capturing matching, Pattern.compile template .extract = .ok capturing ∧
      Pattern.compile template .plain = .ok matching ∧
      ∀ topic,
        ((capturing.capture? topic).isSome = true ↔ matching.isMatch topic = true) ∧
        (∀ number, capturing.capture? topic = some number ↔
          ∃ pieces, Greedy (tokens template) topic.toList pieces ∧
            number.toList = numberPiece (tokens template) pieces) ∧
        ∀ pieces, Greedy (tokens template) topic.toList pieces ↔
          (ways (tokens template) topic.toList).head? = some pieces := by
  refine ⟨_, _, Pattern.compile_ok hempty hhash hsize .extract,
    Pattern.compile_ok hempty hhash hsize .plain, fun topic => ⟨?_, ?_, ?_⟩⟩
  · rw [Pattern.isSome_capture?, Pattern.isMatch_iff]
  · intro number
    exact Pattern.capture?_eq_some_iff template
  · intro pieces
    exact head?_ways.symm

/-- A template with a wildcard before the number, and the number again in a level of its own. -/
def touchingTemplate : String := "+\x7bdevice_number\x7d/\x7bdevice_number\x7d"

/-- The wildcard takes what it can and leaves the first variable a single character. -/
theorem capture_greedy_touching :
    (touchingTemplate ≠ "" ∧ '#' ∉ touchingTemplate.toList ∧
      (tokens touchingTemplate).countP Token.isFree ≤ maxFree) ∧
    Greedy (tokens touchingTemplate) "abc/d".toList [['a', 'b'], ['c'], ['/'], ['d']] ∧
      extract? touchingTemplate "abc/d" = some "c" ∧ accepts touchingTemplate "abc/d" = true ∧
      accepts touchingTemplate "a/d" = false := by
  have hempty : touchingTemplate ≠ "" := by decide
  have hhash : '#' ∉ touchingTemplate.toList := by decide
  have hsize : (tokens touchingTemplate).countP Token.isFree ≤ maxFree := by decide
  obtain ⟨capturing, matching, hcapturing, hmatching, htopics⟩ :=
    capture_greedy hempty hhash hsize
  obtain ⟨hsome, hnumber, hfirst⟩ := htopics "abc/d"
  have hgreedy := (hfirst [['a', 'b'], ['c'], ['/'], ['d']]).mpr (by decide)
  have hcapture := (hnumber "c").mpr ⟨_, hgreedy, by decide⟩
  refine ⟨⟨hempty, hhash, hsize⟩, hgreedy, ?_, ?_, by decide⟩
  · simp only [extract?, hcapturing, hcapture]
  · simp only [accepts, hmatching]
    exact hsome.mp (Option.isSome_of_eq_some hcapture)

end DeviceGateway.Topic
