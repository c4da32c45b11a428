import DeviceGateway.Proofs.Json.Object
/-!
The grammar of JSON, and that whoever passes over a value stops right behind it. The machine that
passes over values keeps only the open arrays and objects; of each production it is shown in which
state the machine leaves it, whatever is open around it and whatever follows.
-/
namespace DeviceGateway.Json

open Utf8 (Piece)

/-! ### Numbers -/

def AllDigits (text : List Char) : Prop := ∀ c ∈ text, isDigit c = true

instance : DecidablePred AllDigits := List.decidableBAll _

/-- What stands before the point: no zero leads other digits. -/
inductive WholePart : List Char → Prop
  | zero : WholePart ['0']
  | digits {d : Char} {ds : List Char} : isDigit d = true → d ≠ '0' → AllDigits ds →
      WholePart (d :: ds)

inductive FractionPart : List Char → Prop
  | none : FractionPart []
  | digits {d : Char} {ds : List Char} : AllDigits (d :: ds) → FractionPart ('.' :: d :: ds)

inductive ExponentPart : List Char → Prop
  | none : ExponentPart []
  | digits {e d : Char} {sign ds : List Char} : e = 'e' ∨ e = 'E' →
      sign = [] ∨ sign = ['+'] ∨ sign = ['-'] → AllDigits (d :: ds) →
      ExponentPart (e :: (sign ++ d :: ds))

inductive IsNumber : List Char → Prop
  | unsigned {whole fraction exponent : List Char} : WholePart whole → FractionPart fraction →
      ExponentPart exponent → IsNumber (whole ++ (fraction ++ exponent))
  | minus {whole fraction exponent : List Char} : WholePart whole → FractionPart fraction →
      ExponentPart exponent → IsNumber ('-' :: (whole ++ (fraction ++ exponent)))

/-! ### Strings -/

/-- What may stand between quotes. An escape need not make up a character, as half a surrogate pair
does not. -/
inductive IsText : List Char → Prop
  | nil : IsText []
  | plain {c : Char} {rest : List Char} : c ≠ '"' → c ≠ '\\' → 32 ≤ c.toNat → IsText rest →
      IsText (c :: rest)
  | letter {c : Char} {rest : List Char} : c ∈ letterEscapes.map Prod.fst → IsText rest →
      IsText ('\\' :: c :: rest)
  | hex {digits rest : List Char} : digits.length = 4 → (∀ c ∈ digits, isHexDigit c = true) →
      IsText rest → IsText ('\\' :: 'u' :: (digits ++ rest))

theorem HexDigit.isHexDigit {c : Char} {n : Nat} (h : HexDigit c n) : isHexDigit c = true := by
  have hboth : ∀ n : Fin 16, Json.isHexDigit (hexDigit n.val) = true ∧
      Json.isHexDigit (hexDigit n.val).toUpper = true := by decide
  obtain ⟨hn, rfl | rfl⟩ := h
  · exact (hboth ⟨n, hn⟩).1
  · exact (hboth ⟨n, hn⟩).2

theorem HexUnit.isHexDigit {digits : List Char} {n : Nat} (h : HexUnit digits n) :
    ∀ c ∈ digits, isHexDigit c = true := by
  cases h with
  | digits ha hb hc hd =>
      simp only [List.forall_mem_cons, List.not_mem_nil, false_implies, implies_true, and_true]
      exact ⟨ha.isHexDigit, hb.isHexDigit, hc.isHexDigit, hd.isHexDigit⟩

theorem Spells.isText {spelling text : List Char} (h : Spells spelling text) : IsText spelling := by
  induction h with
  | nil => exact .nil
  | plain hquote hslash hcontrol _ ih => exact .plain hquote hslash hcontrol ih
  | letter hd _ ih => exact .letter (List.mem_map_of_mem hd) ih
  | number hdigits _ ih => exact .hex hdigits.length_eq hdigits.isHexDigit ih
  | surrogates _ hhigh hlow _ ih =>
      exact .hex hhigh.length_eq hhigh.isHexDigit (.hex hlow.length_eq hlow.isHexDigit ih)

/-! ### Values -/

inductive IsValue : List Char → Prop
  | null : IsValue writeNull
  | bool (b : Bool) : IsValue (writeBool b)
  | number {text : List Char} : IsNumber text → IsValue text
  | text {text : List Char} : IsText text → IsValue ('"' :: (text ++ ['"']))
  | emptyArray {blank : List Char} : Blank blank → IsValue ('[' :: (blank ++ [']']))
  | array {items : List Item} : items ≠ [] → (∀ i ∈ items, i.Spaced) →
      (∀ i ∈ items, IsValue i.text) →
      IsValue ('[' :: (commas (items.map Item.source) ++ [']']))
  | emptyObject {blank : List Char} : Blank blank → IsValue ('\x7b' :: (blank ++ ['\x7d']))
  | object {members : List Member} : members ≠ [] →
      (∀ m ∈ members, m.Spaced ∧ IsText m.name) → (∀ m ∈ members, IsValue m.value.text) →
      IsValue (braced members)

/-! ### Passing over values -/

/-- After a value: what is left, or what is left once the open arrays and objects are closed. -/
def resume (frames : List Frame) (rest : List Piece) : Option (List Piece) :=
  match frames with
  | [] => some rest
  | _ => skipFrom? frames .next rest

section

variable {frames : List Frame} {rest : List Piece}

theorem skipFrom?_more {expect after : Expect} {outer : List Frame} {c : Char}
    (h : charStep frames expect c = .more outer after) :
    skipFrom? frames expect (.char c :: rest) = skipFrom? outer after rest := by
  rw [skipFrom?, h]

theorem skipFrom?_closed {expect : Expect} {outer : List Frame} {c : Char}
    (h : charStep frames expect c = closed outer) :
    skipFrom? frames expect (.char c :: rest) = resume outer rest := by
  rw [skipFrom?, h]
  cases outer <;> rfl

def Expect.spacious : Expect → Bool
  | .value | .firstItem | .firstName | .name | .colon => true
  | _ => false

theorem skipFrom?_blank (expect : Expect) (h : expect.spacious = true) {blank : List Char}
    (hblank : Blank blank) :
    skipFrom? frames expect (pieces blank ++ rest) = skipFrom? frames expect rest := by
  induction blank with
  | nil => rfl
  | cons c blank ih =>
      obtain ⟨hc, hmore⟩ := List.forall_mem_cons.mp hblank
      have hstep : charStep frames expect c = .more frames expect := by
        cases expect <;> first | exact if_pos hc | cases h
      rw [pieces_cons, List.cons_append, skipFrom?_more hstep]
      exact ih hmore

theorem skipFrom?_word {letters : List Char} (h : letters ≠ []) :
    skipFrom? frames (.word letters) (pieces letters ++ rest) = resume frames rest := by
  induction letters with
  | nil => exact absurd rfl h
  | cons c letters ih =>
      rw [pieces_cons, List.cons_append]
      cases letters with
      | nil => exact skipFrom?_closed (if_pos rfl)
      | cons d letters =>
          have hstep : charStep frames (.word (c :: d :: letters)) c =
              .more frames (.word (d :: letters)) := if_pos rfl
          rw [skipFrom?_more hstep]
          exact ih (List.cons_ne_nil _ _)

/-! ### Passing over numbers -/

theorem isDigit_eq_false {c : Char} (h : Decimal.digit? c = none) : isDigit c = false := by
  unfold Decimal.digit? at h
  split at h
  · cases h
  · next hc => simpa [isDigit] using hc

/-- Nothing goes on with a number that may end but digits, a point, or an exponent. -/
theorem advance_eq_none {phase : Phase} (h : phase.complete = true) {c : Char}
    (hdigit : isDigit c = false) (hpoint : c ≠ '.') (he : c ≠ 'e') (hE : c ≠ 'E') :
    phase.advance c = none := by
  cases phase <;> simp_all [Phase.complete, Phase.advance]

theorem skipFrom?_numberEnd {phase : Phase} (h : phase.complete = true) (hrest : EndsNumber rest) :
    skipFrom? frames (.number phase) rest = resume frames rest := by
  cases rest with
  | nil => cases frames <;> simp [skipFrom?, resume, h]
  | cons p left =>
      cases p with
      | junk octets => cases frames <;> simp [skipFrom?, resume, junkStep, h]
      | char c =>
          obtain ⟨hdigit, hpoint, he, hE⟩ := hrest c left rfl
          have hdigit := isDigit_eq_false hdigit
          have hstep : charStep frames (.number phase) c = between frames c := by
            simp [charStep, numberStep, advance_eq_none h hdigit hpoint he hE, h, hdigit]
          rw [skipFrom?, hstep]
          cases frames <;> rfl

theorem skipFrom?_digits {phase : Phase} (h : ∀ d, isDigit d = true → phase.advance d = some phase)
    {ds : List Char} (hds : AllDigits ds) :
    skipFrom? frames (.number phase) (pieces ds ++ rest) =
      skipFrom? frames (.number phase) rest := by
  induction ds with
  | nil => rfl
  | cons d ds ih =>
      obtain ⟨hd, hmore⟩ := List.forall_mem_cons.mp hds
      have hstep : charStep frames (.number phase) d = .more frames (.number phase) := by
        simp only [charStep, numberStep, h d hd]
      rw [pieces_cons, List.cons_append, skipFrom?_more hstep]
      exact ih hmore

theorem skipFrom?_advance {phase after : Phase} {c : Char} (h : phase.advance c = some after) :
    skipFrom? frames (.number phase) (.char c :: rest) = skipFrom? frames (.number after) rest := by
  apply skipFrom?_more
  simp only [charStep, numberStep, h]

theorem ne_of_isDigit {c d : Char} (hd : isDigit d = true) (hc : isDigit c = false) : d ≠ c := by
  rintro rfl
  rw [hd] at hc
  cases hc

theorem advance_exponent {d : Char} (hd : isDigit d = true) :
    Phase.exponent.advance d = some .exponentDigits := by
  have hplus : d ≠ '+' := ne_of_isDigit hd (by decide)
  have hminus : d ≠ '-' := ne_of_isDigit hd (by decide)
  simp [Phase.advance, hplus, hminus, hd]

theorem skipFrom?_exponentDigits {phase : Phase}
    (h : ∀ d, isDigit d = true → phase.advance d = some .exponentDigits) {d : Char}
    {ds : List Char} (hds : AllDigits (d :: ds)) (hrest : EndsNumber rest) :
    skipFrom? frames (.number phase) (pieces (d :: ds) ++ rest) = resume frames rest := by
  obtain ⟨hd, hmore⟩ := List.forall_mem_cons.mp hds
  have hsame (e : Char) (he : isDigit e = true) :
      Phase.exponentDigits.advance e = some .exponentDigits := if_pos he
  rw [pieces_cons, List.cons_append, skipFrom?_advance (h d hd), skipFrom?_digits hsame hmore]
  exact skipFrom?_numberEnd rfl hrest

theorem skipFrom?_exponent {phase : Phase} (h : phase.complete = true)
    (he : ∀ e, e = 'e' ∨ e = 'E' → phase.advance e = some .exponent) {text : List Char}
    (htext : ExponentPart text) (hrest : EndsNumber rest) :
    skipFrom? frames (.number phase) (pieces text ++ rest) = resume frames rest := by
  have hsigned (d : Char) (hd : isDigit d = true) :
      Phase.exponentSign.advance d = some .exponentDigits := if_pos hd
  cases htext with
  | none => exact skipFrom?_numberEnd h hrest
  | @digits e d sign ds hletter hsign hds =>
      rw [pieces_cons, List.cons_append, skipFrom?_advance (he e hletter)]
      rcases hsign with rfl | rfl | rfl
      · exact skipFrom?_exponentDigits (fun _ => advance_exponent) hds hrest
      · exact (skipFrom?_advance rfl).trans (skipFrom?_exponentDigits hsigned hds hrest)
      · exact (skipFrom?_advance rfl).trans (skipFrom?_exponentDigits hsigned hds hrest)

theorem skipFrom?_fraction {phase : Phase} (h : phase = .zero ∨ phase = .integer)
    {fraction exponent : List Char} (hfraction : FractionPart fraction)
    (hexponent : ExponentPart exponent) (hrest : EndsNumber rest) :
    skipFrom? frames (.number phase) (pieces (fraction ++ exponent) ++ rest) =
      resume frames rest := by
  cases hfraction with
  | none =>
      rw [List.nil_append]
      rcases h with rfl | rfl
      · refine skipFrom?_exponent rfl ?_ hexponent hrest
        rintro e (rfl | rfl) <;> rfl
      · refine skipFrom?_exponent rfl ?_ hexponent hrest
        rintro e (rfl | rfl) <;> rfl
  | @digits d ds hds =>
      obtain ⟨hd, hmore⟩ := List.forall_mem_cons.mp hds
      have hpoint : phase.advance '.' = some .point := by
        rcases h with rfl | rfl <;> rfl
      have hfirst : Phase.point.advance d = some .fraction := if_pos hd
      have hsame (e : Char) (he : isDigit e = true) :
          Phase.fraction.advance e = some .fraction := if_pos he
      rw [List.cons_append, List.cons_append, pieces_cons, pieces_cons, pieces_append,
        List.cons_append, List.cons_append, List.append_assoc, skipFrom?_advance hpoint,
        skipFrom?_advance hfirst, skipFrom?_digits hsame hmore]
      refine skipFrom?_exponent rfl ?_ hexponent hrest
      rintro e (rfl | rfl) <;> rfl

theorem skipFrom?_whole {whole fraction exponent : List Char} (hwhole : WholePart whole)
    (hfraction : FractionPart fraction) (hexponent : ExponentPart exponent)
    (hrest : EndsNumber rest) :
    skipFrom? frames (.number .sign) (pieces (whole ++ (fraction ++ exponent)) ++ rest) =
      resume frames rest := by
  rw [pieces_append, List.append_assoc]
  cases hwhole with
  | zero =>
      rw [pieces_cons, pieces_nil, List.cons_append, skipFrom?_advance rfl]
      exact skipFrom?_fraction (.inl rfl) hfraction hexponent hrest
  | @digits d ds hd hzero hds =>
      have hfirst : Phase.sign.advance d = some .integer := by
        simp [Phase.advance, hzero, hd]
      have hsame (e : Char) (he : isDigit e = true) :
          Phase.integer.advance e = some .integer := if_pos he
      rw [pieces_cons, List.cons_append, skipFrom?_advance hfirst, skipFrom?_digits hsame hds]
      exact skipFrom?_fraction (.inr rfl) hfraction hexponent hrest

/-- A digit begins a number as it goes on after a sign. -/
theorem charStep_digit {d : Char} (hd : isDigit d = true) :
    charStep frames .value d = charStep frames (.number .sign) d := by
  have hspace : isSpace d = false := Reader.isSpace_of_number (.inr hd)
  have hquote : d ≠ '"' := ne_of_isDigit hd (by decide)
  have hbracket : d ≠ '[' := ne_of_isDigit hd (by decide)
  have hbrace : d ≠ '\x7b' := ne_of_isDigit hd (by decide)
  have hminus : d ≠ '-' := ne_of_isDigit hd (by decide)
  simp only [charStep, begin, numberStep, Phase.advance, hspace, hquote, hbracket, hbrace, hminus,
    hd, Bool.false_eq_true, if_false, if_true]
  split <;> rfl

theorem WholePart.head {whole : List Char} (h : WholePart whole) :
    ∃ d ds, whole = d :: ds ∧ isDigit d = true := by
  cases h with
  | zero => exact ⟨'0', [], rfl, rfl⟩
  | digits hd _ _ => exact ⟨_, _, rfl, hd⟩

theorem skipFrom?_number {text : List Char} (htext : IsNumber text) (hrest : EndsNumber rest) :
    skipFrom? frames .value (pieces text ++ rest) = resume frames rest := by
  cases htext with
  | unsigned hwhole hfraction hexponent =>
      rw [← skipFrom?_whole hwhole hfraction hexponent hrest]
      obtain ⟨d, ds, rfl, hd⟩ := hwhole.head
      rw [List.cons_append, pieces_cons, List.cons_append, skipFrom?, skipFrom?, charStep_digit hd]
  | minus hwhole hfraction hexponent =>
      rw [pieces_cons, List.cons_append, skipFrom?_more rfl]
      exact skipFrom?_whole hwhole hfraction hexponent hrest

/-! ### Passing over strings -/

/-- What comes after a string: a colon after a name, else whatever comes after a value. -/
def afterText (frames : List Frame) (isName : Bool) (rest : List Piece) : Option (List Piece) :=
  if isName then skipFrom? frames .colon rest else resume frames rest

theorem skipFrom?_hex {isName : Bool} {left : Nat} {digits : List Char}
    (hlength : digits.length = left + 1) (hdigits : ∀ c ∈ digits, isHexDigit c = true) :
    skipFrom? frames (.hex isName left) (pieces digits ++ rest) =
      skipFrom? frames (.text isName) rest := by
  induction digits generalizing left with
  | nil => cases hlength
  | cons c digits ih =>
      obtain ⟨hc, hmore⟩ := List.forall_mem_cons.mp hdigits
      have hleft : digits.length = left := Nat.succ.inj hlength
      rw [pieces_cons, List.cons_append]
      cases left with
      | zero =>
          rw [List.length_eq_zero_iff.mp hleft]
          exact skipFrom?_more (if_pos hc)
      | succ left =>
          have hstep : charStep frames (.hex isName (left + 1)) c =
              .more frames (.hex isName left) := if_pos hc
          rw [skipFrom?_more hstep]
          exact ih hleft hmore

theorem skipFrom?_text {isName : Bool} {text : List Char} (htext : IsText text) :
    skipFrom? frames (.text isName) (pieces text ++ .char '"' :: rest) =
      afterText frames isName rest := by
  induction htext with
  | nil =>
      cases isName with
      | true => exact skipFrom?_more rfl
      | false => exact skipFrom?_closed rfl
  | @plain c _ hquote hslash hcontrol _ ih =>
      have hstep : charStep frames (.text isName) c = .more frames (.text isName) := by
        simp [charStep, textStep, hquote, hslash, Nat.not_lt.mpr hcontrol]
      rw [pieces_cons, List.cons_append, skipFrom?_more hstep]
      exact ih
  | @letter c _ hc _ ih =>
      have hstep : charStep frames (.escape isName) c = .more frames (.text isName) := by
        simp only [letterEscapes, List.map_cons, List.map_nil, List.mem_cons, List.not_mem_nil,
          or_false] at hc
        rcases hc with rfl | rfl | rfl | rfl | rfl | rfl | rfl | rfl <;> rfl
      rw [pieces_cons, pieces_cons, List.cons_append, List.cons_append, skipFrom?_more rfl,
        skipFrom?_more hstep]
      exact ih
  | @hex digits _ hlength hdigits _ ih =>
      rw [pieces_cons, pieces_cons, pieces_append, List.cons_append, List.cons_append,
        List.append_assoc, skipFrom?_more rfl, skipFrom?_more rfl, skipFrom?_hex hlength hdigits]
      exact ih

/-! ### Passing over arrays and objects -/

theorem endsNumber_blank {blank : List Char} (h : Blank blank) (hrest : EndsNumber rest) :
    EndsNumber (pieces blank ++ rest) := by
  cases blank with
  | nil => exact hrest
  | cons c blank =>
      have hc : isSpace c = true := h c List.mem_cons_self
      rintro d left heq
      cases heq
      simp only [isSpace, Bool.or_eq_true, decide_eq_true_eq] at hc
      rcases hc with ((rfl | rfl) | rfl) | rfl <;> decide

/-- A text is passed over as a value, whatever is open around it and whatever follows it. -/
def Passed (text : List Char) : Prop :=
  ∀ (frames : List Frame) (rest : List Piece), EndsNumber rest →
    skipFrom? frames .value (pieces text ++ rest) = resume frames rest

theorem skipFrom?_nextBlank {frame : Frame} {blank : List Char} (hblank : Blank blank) :
    skipFrom? (frame :: frames) .next (pieces blank ++ rest) =
      skipFrom? (frame :: frames) .next rest := by
  induction blank with
  | nil => rfl
  | cons c blank ih =>
      obtain ⟨hc, hmore⟩ := List.forall_mem_cons.mp hblank
      have hstep : charStep (frame :: frames) .next c = .more (frame :: frames) .next := by
        cases frame <;> exact if_pos hc
      rw [pieces_cons, List.cons_append, skipFrom?_more hstep]
      exact ih hmore

theorem skipFrom?_item {frame : Frame} {i : Item} (hspaced : i.Spaced) (hpassed : Passed i.text)
    (hrest : EndsNumber rest) :
    skipFrom? (frame :: frames) .value (pieces i.source ++ rest) =
      skipFrom? (frame :: frames) .next rest := by
  rw [Item.source, pieces_append, pieces_append, List.append_assoc, List.append_assoc,
    skipFrom?_blank .value rfl hspaced.1, hpassed _ _ (endsNumber_blank hspaced.2 hrest)]
  exact skipFrom?_nextBlank hspaced.2

theorem skipFrom?_items {items : List Item} (hspaced : ∀ i ∈ items, i.Spaced)
    (hpassed : ∀ i ∈ items, Passed i.text) :
    skipFrom? (.array :: frames) .next
        (pieces ((items.map Item.source).flatMap (',' :: ·)) ++ .char ']' :: rest) =
      resume frames rest := by
  induction items with
  | nil => exact skipFrom?_closed rfl
  | cons i items ih =>
      obtain ⟨hi, hspaced⟩ := List.forall_mem_cons.mp hspaced
      obtain ⟨hitem, hpassed⟩ := List.forall_mem_cons.mp hpassed
      have hcloses := closes_more (items.map Item.source) (c := ']') (by decide) rest
      rw [List.map_cons, List.flatMap_cons, List.cons_append, pieces_cons, pieces_append,
        List.cons_append, List.append_assoc, skipFrom?_more rfl,
        skipFrom?_item hi hitem hcloses.endsNumber]
      exact ih hspaced hpassed

/-- An item may come first, unless it could be taken for the end of the array. -/
theorem skipFrom?_firstItem {i : Item} (hbefore : Blank i.before) {c : Char} {tail : List Char}
    (htext : i.text = c :: tail) (hspace : isSpace c = false) (hclose : c ≠ ']') :
    skipFrom? frames .firstItem (pieces i.source ++ rest) =
      skipFrom? frames .value (pieces i.source ++ rest) := by
  have hstep : charStep frames .firstItem c = charStep frames .value c := by
    simp [charStep, hspace, hclose]
  rw [Item.source, pieces_append, List.append_assoc, skipFrom?_blank .firstItem rfl hbefore,
    skipFrom?_blank .value rfl hbefore, htext, List.cons_append, pieces_cons, List.cons_append,
    skipFrom?, skipFrom?, hstep]

theorem skipFrom?_member (expect : Expect) (h : expect.spacious = true)
    (hquote : ∀ outer, charStep outer expect '"' = .more outer (.text true))
    {m : Member} (hspaced : m.Spaced) (hname : IsText m.name) (hpassed : Passed m.value.text)
    (hrest : EndsNumber rest) :
    skipFrom? (.object :: frames) expect (pieces m.source ++ rest) =
      skipFrom? (.object :: frames) .next rest := by
  have hvalued : skipFrom? (.object :: frames) .colon (pieces m.valued ++ rest) =
      skipFrom? (.object :: frames) .next rest := by
    rw [Member.valued, pieces_append, List.append_assoc,
      skipFrom?_blank .colon rfl hspaced.between, pieces_cons, List.cons_append,
      skipFrom?_more rfl]
    exact skipFrom?_item hspaced.value hpassed hrest
  rw [Member.source, pieces_append, List.append_assoc, skipFrom?_blank expect h hspaced.before,
    pieces_cons, List.cons_append, skipFrom?_more (hquote _), pieces_append, List.append_assoc,
    pieces_cons, List.cons_append, skipFrom?_text hname]
  exact hvalued

theorem skipFrom?_members {members : List Member}
    (hspelled : ∀ m ∈ members, m.Spaced ∧ IsText m.name)
    (hpassed : ∀ m ∈ members, Passed m.value.text) :
    skipFrom? (.object :: frames) .next
        (pieces ((members.map Member.source).flatMap (',' :: ·)) ++ .char '\x7d' :: rest) =
      resume frames rest := by
  induction members with
  | nil => exact skipFrom?_closed rfl
  | cons m members ih =>
      obtain ⟨hm, hspelled⟩ := List.forall_mem_cons.mp hspelled
      obtain ⟨hvalue, hpassed⟩ := List.forall_mem_cons.mp hpassed
      have hcloses := closes_more (members.map Member.source) (c := '\x7d') (by decide) rest
      rw [List.map_cons, List.flatMap_cons, List.cons_append, pieces_cons, pieces_append,
        List.cons_append, List.append_assoc, skipFrom?_more rfl,
        skipFrom?_member .name rfl (fun _ => rfl) hm.1 hm.2 hvalue hcloses.endsNumber]
      exact ih hspelled hpassed

end

theorem IsValue.head {text : List Char} (h : IsValue text) :
    ∃ c tail, text = c :: tail ∧ isSpace c = false ∧ c ≠ ']' := by
  cases h with
  | null => exact ⟨_, _, rfl, by decide, by decide⟩
  | bool b => cases b <;> exact ⟨_, _, rfl, by decide, by decide⟩
  | text _ => exact ⟨_, _, rfl, by decide, by decide⟩
  | emptyArray _ => exact ⟨_, _, rfl, by decide, by decide⟩
  | array _ _ _ => exact ⟨_, _, rfl, by decide, by decide⟩
  | emptyObject _ => exact ⟨_, _, rfl, by decide, by decide⟩
  | object _ _ _ => exact ⟨_, _, rfl, by decide, by decide⟩
  | number hnumber =>
      cases hnumber with
      | minus _ _ _ => exact ⟨_, _, rfl, by decide, by decide⟩
      | unsigned hwhole _ _ =>
          obtain ⟨d, ds, rfl, hd⟩ := hwhole.head
          exact ⟨d, _, rfl, Reader.isSpace_of_number (.inr hd), ne_of_isDigit hd (by decide)⟩

/-- Whoever passes over a value stops right behind it. -/
theorem IsValue.passed {text : List Char} (h : IsValue text) : Passed text := by
  induction h with
  | null =>
      intro frames rest _
      exact (skipFrom?_more rfl).trans (skipFrom?_word (List.cons_ne_nil _ _))
  | bool b =>
      intro frames rest _
      cases b <;> exact (skipFrom?_more rfl).trans (skipFrom?_word (List.cons_ne_nil _ _))
  | number hnumber =>
      intro frames rest hrest
      exact skipFrom?_number hnumber hrest
  | text htext =>
      intro frames rest _
      rw [pieces_cons, pieces_append, List.cons_append, List.append_assoc, skipFrom?_more rfl]
      exact skipFrom?_text htext
  | emptyArray hblank =>
      intro frames rest _
      rw [pieces_cons, pieces_append, List.cons_append, List.append_assoc, skipFrom?_more rfl,
        skipFrom?_blank .firstItem rfl hblank]
      exact skipFrom?_closed rfl
  | @array items hne hspaced hvalue ih =>
      intro frames rest _
      obtain ⟨i, items, rfl⟩ := List.exists_cons_of_ne_nil hne
      obtain ⟨c, tail, htext, hspace, hclose⟩ := (hvalue i List.mem_cons_self).head
      obtain ⟨hi, hspaced⟩ := List.forall_mem_cons.mp hspaced
      obtain ⟨hitem, hitems⟩ := List.forall_mem_cons.mp ih
      have hcloses := closes_more (items.map Item.source) (c := ']') (by decide) rest
      rw [List.map_cons, commas_cons, pieces_cons, pieces_append, pieces_append, List.cons_append,
        List.append_assoc, List.append_assoc, pieces_cons, pieces_nil, List.singleton_append,
        skipFrom?_more rfl,
        skipFrom?_firstItem hi.1 htext hspace hclose, skipFrom?_item hi hitem hcloses.endsNumber]
      exact skipFrom?_items hspaced hitems
  | emptyObject hblank =>
      intro frames rest _
      rw [pieces_cons, pieces_append, List.cons_append, List.append_assoc, skipFrom?_more rfl,
        skipFrom?_blank .firstName rfl hblank]
      exact skipFrom?_closed rfl
  | @object members hne hspelled _ ih =>
      intro frames rest _
      obtain ⟨m, members, rfl⟩ := List.exists_cons_of_ne_nil hne
      obtain ⟨hm, hspelled⟩ := List.forall_mem_cons.mp hspelled
      obtain ⟨hvalue, hmembers⟩ := List.forall_mem_cons.mp ih
      have hcloses := closes_more (members.map Member.source) (c := '\x7d') (by decide) rest
      rw [braced, List.map_cons, commas_cons, pieces_cons, pieces_append, pieces_append,
        List.cons_append, List.append_assoc, List.append_assoc, pieces_cons, pieces_nil,
        List.singleton_append, skipFrom?_more rfl,
        skipFrom?_member .firstName rfl (fun _ => rfl) hm.1 hm.2 hvalue hcloses.endsNumber]
      exact skipFrom?_members hspelled hmembers

/-- What is left of a value's text is what follows it. -/
theorem IsValue.skip?_eq {text : List Char} (h : IsValue text) {rest : List Piece}
    (hrest : EndsNumber rest) : skip? (pieces text ++ rest) = some rest :=
  h.passed [] rest hrest

end DeviceGateway.Json
