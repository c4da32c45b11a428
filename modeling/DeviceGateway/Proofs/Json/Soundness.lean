import DeviceGateway.Proofs.Json.Members
/-!
Whoever passes over a value has passed over the text of one. The machine holds the arrays and
objects that are open and what it expects next; for both it is said which texts complete the value,
and each of its steps takes one character of such a text. Octets that are no character count as the
character that stands for them when they are shown.
-/
namespace DeviceGateway.Json

open Utf8 (Piece)

/-! ### Numbers -/

/-- What makes a number whole that has come to a phase. -/
def NumberRest : Phase → List Char → Prop
  | .sign, chars => ∃ whole fraction exponent, WholePart whole ∧ FractionPart fraction ∧
      ExponentPart exponent ∧ chars = whole ++ (fraction ++ exponent)
  | .zero, chars => ∃ fraction exponent, FractionPart fraction ∧ ExponentPart exponent ∧
      chars = fraction ++ exponent
  | .integer, chars => ∃ ds fraction exponent, AllDigits ds ∧ FractionPart fraction ∧
      ExponentPart exponent ∧ chars = ds ++ (fraction ++ exponent)
  | .point, chars => ∃ d ds exponent, AllDigits (d :: ds) ∧ ExponentPart exponent ∧
      chars = d :: (ds ++ exponent)
  | .fraction, chars => ∃ ds exponent, AllDigits ds ∧ ExponentPart exponent ∧ chars = ds ++ exponent
  | .exponent, chars => ∃ sign d ds, (sign = [] ∨ sign = ['+'] ∨ sign = ['-']) ∧
      AllDigits (d :: ds) ∧ chars = sign ++ d :: ds
  | .exponentSign, chars => ∃ d ds, AllDigits (d :: ds) ∧ chars = d :: ds
  | .exponentDigits, chars => AllDigits chars

theorem NumberRest.of_complete {phase : Phase} (h : phase.complete = true) :
    NumberRest phase [] := by
  have hnone : AllDigits [] := List.forall_mem_nil _
  cases phase with
  | zero => exact ⟨[], [], .none, .none, rfl⟩
  | integer => exact ⟨[], [], [], hnone, .none, .none, rfl⟩
  | fraction => exact ⟨[], [], hnone, .none, rfl⟩
  | exponentDigits => exact hnone
  | sign | point | exponent | exponentSign => cases h

theorem allDigits_cons {d : Char} {ds : List Char} (hd : isDigit d = true) (hds : AllDigits ds) :
    AllDigits (d :: ds) :=
  List.forall_mem_cons.mpr ⟨hd, hds⟩

theorem NumberRest.fraction_of_point {text : List Char} (h : NumberRest .point text) :
    NumberRest .zero ('.' :: text) := by
  obtain ⟨d, ds, exponent, hds, hexponent, rfl⟩ := h
  exact ⟨'.' :: d :: ds, exponent, .digits hds, hexponent, rfl⟩

theorem NumberRest.exponent_of_letter {c : Char} (hc : c = 'e' ∨ c = 'E') {text : List Char}
    (h : NumberRest .exponent text) : ExponentPart (c :: text) := by
  obtain ⟨sign, d, ds, hsign, hds, rfl⟩ := h
  exact .digits hc hsign hds

theorem NumberRest.integer_of_zero {text : List Char} (h : NumberRest .zero text) :
    NumberRest .integer text := by
  obtain ⟨fraction, exponent, hfraction, hexponent, rfl⟩ := h
  exact ⟨[], fraction, exponent, List.forall_mem_nil _, hfraction, hexponent, rfl⟩

/-- One more character of a number. -/
theorem NumberRest.advance {phase after : Phase} {c : Char} {text : List Char}
    (hstep : phase.advance c = some after) (h : NumberRest after text) :
    NumberRest phase (c :: text) := by
  cases phase with
  | sign =>
      simp only [Phase.advance] at hstep
      split at hstep
      · next hc =>
        cases hstep
        obtain ⟨fraction, exponent, hfraction, hexponent, rfl⟩ := h
        exact ⟨['0'], fraction, exponent, .zero, hfraction, hexponent, by rw [hc]; rfl⟩
      split at hstep
      · next hzero hc =>
        cases hstep
        obtain ⟨ds, fraction, exponent, hds, hfraction, hexponent, rfl⟩ := h
        exact ⟨c :: ds, fraction, exponent, .digits hc hzero hds, hfraction, hexponent, rfl⟩
      · cases hstep
  | zero =>
      simp only [Phase.advance] at hstep
      split at hstep
      · next hc =>
        cases hstep
        exact hc ▸ h.fraction_of_point
      split at hstep
      · next hc =>
        cases hstep
        exact ⟨[], c :: text, .none, h.exponent_of_letter hc, rfl⟩
      · cases hstep
  | integer =>
      simp only [Phase.advance] at hstep
      split at hstep
      · next hc =>
        cases hstep
        obtain ⟨ds, fraction, exponent, hds, hfraction, hexponent, rfl⟩ := h
        exact ⟨c :: ds, fraction, exponent, allDigits_cons hc hds, hfraction, hexponent, rfl⟩
      split at hstep
      · next hc =>
        cases hstep
        exact hc ▸ h.fraction_of_point.integer_of_zero
      split at hstep
      · next hc =>
        cases hstep
        exact ⟨[], [], c :: text, List.forall_mem_nil _, .none, h.exponent_of_letter hc, rfl⟩
      · cases hstep
  | point =>
      simp only [Phase.advance] at hstep
      split at hstep
      · next hc =>
        cases hstep
        obtain ⟨ds, exponent, hds, hexponent, rfl⟩ := h
        exact ⟨c, ds, exponent, allDigits_cons hc hds, hexponent, rfl⟩
      · cases hstep
  | fraction =>
      simp only [Phase.advance] at hstep
      split at hstep
      · next hc =>
        cases hstep
        obtain ⟨ds, exponent, hds, hexponent, rfl⟩ := h
        exact ⟨c :: ds, exponent, allDigits_cons hc hds, hexponent, rfl⟩
      split at hstep
      · next hc =>
        cases hstep
        exact ⟨[], c :: text, List.forall_mem_nil _, h.exponent_of_letter hc, rfl⟩
      · cases hstep
  | exponent =>
      simp only [Phase.advance] at hstep
      split at hstep
      · next hc =>
        cases hstep
        obtain ⟨d, ds, hds, rfl⟩ := h
        refine ⟨[c], d, ds, ?_, hds, rfl⟩
        rcases hc with rfl | rfl
        · exact .inr (.inl rfl)
        · exact .inr (.inr rfl)
      split at hstep
      · next hc =>
        cases hstep
        exact ⟨[], c, text, .inl rfl, allDigits_cons hc h, rfl⟩
      · cases hstep
  | exponentSign =>
      simp only [Phase.advance] at hstep
      split at hstep
      · next hc =>
        cases hstep
        exact ⟨c, text, allDigits_cons hc h, rfl⟩
      · cases hstep
  | exponentDigits =>
      simp only [Phase.advance] at hstep
      split at hstep
      · next hc =>
        cases hstep
        exact allDigits_cons hc h
      · cases hstep

theorem NumberRest.isNumber {text : List Char} (h : NumberRest .sign text) : IsNumber text := by
  obtain ⟨whole, fraction, exponent, hwhole, hfraction, hexponent, rfl⟩ := h
  exact .unsigned hwhole hfraction hexponent

theorem NumberRest.isNumber_minus {text : List Char} (h : NumberRest .sign text) :
    IsNumber ('-' :: text) := by
  obtain ⟨whole, fraction, exponent, hwhole, hfraction, hexponent, rfl⟩ := h
  exact .minus hwhole hfraction hexponent

/-! ### What completes a value -/

/-- What closes the arrays and objects that are open after a value, the innermost first. -/
inductive Closing : List Frame → List Char → Prop
  | done : Closing [] []
  | array {outer : List Frame} {blank tail : List Char} {items : List Item} : Blank blank →
      (∀ i ∈ items, i.Spaced ∧ IsValue i.text) → Closing outer tail →
      Closing (.array :: outer)
        (blank ++ ((items.map Item.source).flatMap (',' :: ·) ++ ']' :: tail))
  | object {outer : List Frame} {blank tail : List Char} {members : List Member} : Blank blank →
      (∀ m ∈ members, m.Spaced ∧ IsText m.name ∧ IsValue m.value.text) → Closing outer tail →
      Closing (.object :: outer)
        (blank ++ ((members.map Member.source).flatMap (',' :: ·) ++ '\x7d' :: tail))

/-- White space and a value, and what closes the rest. -/
def Valued (frames : List Frame) (text : List Char) : Prop :=
  ∃ blank value tail, Blank blank ∧ IsValue value ∧ Closing frames tail ∧
    text = blank ++ (value ++ tail)

/-- White space and the end of the innermost array or object, and what closes the rest. -/
def Ended (close : Char) (frames : List Frame) (text : List Char) : Prop :=
  ∃ blank tail, Blank blank ∧ Closing frames.tail tail ∧ text = blank ++ close :: tail

def Coloned (frames : List Frame) (text : List Char) : Prop :=
  ∃ blank rest, Blank blank ∧ Valued frames rest ∧ text = blank ++ ':' :: rest

def Named (frames : List Frame) (text : List Char) : Prop :=
  ∃ blank name rest, Blank blank ∧ IsText name ∧ Coloned frames rest ∧
    text = blank ++ '"' :: (name ++ '"' :: rest)

/-- What comes after a name, or after a string that is a value. -/
def Quoted (isName : Bool) (frames : List Frame) (text : List Char) : Prop :=
  if isName then Coloned frames text else Closing frames text

/-- The texts that complete a value. -/
def Completes (frames : List Frame) : Expect → List Char → Prop
  | .value, chars => Valued frames chars
  | .firstItem, chars => Ended ']' frames chars ∨ Valued frames chars
  | .firstName, chars => Ended '\x7d' frames chars ∨ Named frames chars
  | .name, chars => Named frames chars
  | .colon, chars => Coloned frames chars
  | .next, chars => Closing frames chars
  | .text isName, chars => ∃ inner rest, IsText inner ∧ Quoted isName frames rest ∧
      chars = inner ++ '"' :: rest
  | .escape isName, chars => ∃ inner rest, IsText ('\\' :: inner) ∧ Quoted isName frames rest ∧
      chars = inner ++ '"' :: rest
  | .hex isName left, chars => ∃ digits inner rest, digits.length = left + 1 ∧
      (∀ c ∈ digits, isHexDigit c = true) ∧ IsText inner ∧ Quoted isName frames rest ∧
      chars = digits ++ (inner ++ '"' :: rest)
  | .word letters, chars => ∃ tail, Closing frames tail ∧ chars = letters ++ tail
  | .number phase, chars => ∃ left tail, NumberRest phase left ∧ Closing frames tail ∧
      chars = left ++ tail

/-- A step that takes a character, or is over before it, is one on the way through a text. -/
def Step.Leads (c : Char) (text : List Char) : Step → Prop
  | .more frames expect => ∃ rest, text = c :: rest ∧ Completes frames expect rest
  | .last => text = [c]
  | .past => text = []
  | .broken => False

variable {frames outer : List Frame} {c : Char} {text rest : List Char}

theorem blank_cons (hc : isSpace c = true) {blank : List Char} (h : Blank blank) :
    Blank (c :: blank) :=
  List.forall_mem_cons.mpr ⟨hc, h⟩

theorem Valued.space (hc : isSpace c = true) (h : Valued frames rest) :
    Valued frames (c :: rest) := by
  obtain ⟨blank, value, tail, hblank, hvalue, htail, rfl⟩ := h
  exact ⟨c :: blank, value, tail, blank_cons hc hblank, hvalue, htail, rfl⟩

theorem Valued.of_isValue {value tail : List Char} (hvalue : IsValue value)
    (htail : Closing frames tail) : Valued frames (value ++ tail) :=
  ⟨[], value, tail, blank_nil, hvalue, htail, rfl⟩

theorem Ended.space {close : Char} (hc : isSpace c = true) (h : Ended close frames rest) :
    Ended close frames (c :: rest) := by
  obtain ⟨blank, tail, hblank, htail, rfl⟩ := h
  exact ⟨c :: blank, tail, blank_cons hc hblank, htail, rfl⟩

theorem Coloned.space (hc : isSpace c = true) (h : Coloned frames rest) :
    Coloned frames (c :: rest) := by
  obtain ⟨blank, valued, hblank, hvalued, rfl⟩ := h
  exact ⟨c :: blank, valued, blank_cons hc hblank, hvalued, rfl⟩

theorem Named.space (hc : isSpace c = true) (h : Named frames rest) : Named frames (c :: rest) := by
  obtain ⟨blank, name, coloned, hblank, hname, hcoloned, rfl⟩ := h
  exact ⟨c :: blank, name, coloned, blank_cons hc hblank, hname, hcoloned, rfl⟩

theorem Named.of_text (h : Completes frames (.text true) rest) : Named frames ('"' :: rest) := by
  obtain ⟨name, coloned, hname, hcoloned, rfl⟩ := h
  exact ⟨[], name, coloned, blank_nil, hname, hcoloned, rfl⟩

theorem Closing.space {frame : Frame} (hc : isSpace c = true) (h : Closing (frame :: outer) rest) :
    Closing (frame :: outer) (c :: rest) := by
  cases h with
  | array hblank hitems htail => exact .array (blank_cons hc hblank) hitems htail
  | object hblank hmembers htail => exact .object (blank_cons hc hblank) hmembers htail

theorem Closing.of_items {items : List Item} (hitems : ∀ i ∈ items, i.Spaced ∧ IsValue i.text)
    {tail : List Char} (htail : Closing outer tail) :
    Closing (.array :: outer) ((items.map Item.source).flatMap (',' :: ·) ++ ']' :: tail) := by
  simpa using Closing.array blank_nil hitems htail

theorem Closing.of_members {members : List Member}
    (hmembers : ∀ m ∈ members, m.Spaced ∧ IsText m.name ∧ IsValue m.value.text)
    {tail : List Char} (htail : Closing outer tail) :
    Closing (.object :: outer)
      ((members.map Member.source).flatMap (',' :: ·) ++ '\x7d' :: tail) := by
  simpa using Closing.object blank_nil hmembers htail

/-! ### Arrays and objects -/

theorem Valued.exists_items (h : Valued (.array :: outer) text) :
    ∃ (i : Item) (items : List Item) (tail : List Char), (i.Spaced ∧ IsValue i.text) ∧
      (∀ j ∈ items, j.Spaced ∧ IsValue j.text) ∧ Closing outer tail ∧
      text = i.source ++ ((items.map Item.source).flatMap (',' :: ·) ++ ']' :: tail) := by
  obtain ⟨before, value, after, hbefore, hvalue, hafter, rfl⟩ := h
  cases hafter with
  | @array _ blank tail items hblank hitems htail =>
      refine ⟨⟨before, value, blank⟩, items, tail, ⟨⟨hbefore, hblank⟩, hvalue⟩, hitems, htail, ?_⟩
      simp [Item.source]

theorem Named.exists_members (h : Named (.object :: outer) text) :
    ∃ (m : Member) (members : List Member) (tail : List Char),
      (m.Spaced ∧ IsText m.name ∧ IsValue m.value.text) ∧
      (∀ k ∈ members, k.Spaced ∧ IsText k.name ∧ IsValue k.value.text) ∧ Closing outer tail ∧
      text = m.source ++ ((members.map Member.source).flatMap (',' :: ·) ++ '\x7d' :: tail) := by
  obtain ⟨before, name, _, hbefore, hname, ⟨between, _, hbetween, hvalued, rfl⟩, rfl⟩ := h
  obtain ⟨lead, value, after, hlead, hvalue, hafter, rfl⟩ := hvalued
  cases hafter with
  | @object _ blank tail members hblank hmembers htail =>
      refine ⟨⟨before, name, between, lead, value, blank⟩, members, tail,
        ⟨⟨hbefore, hbetween, hlead, hblank⟩, hname, hvalue⟩, hmembers, htail, ?_⟩
      simp [Member.source, Member.valued, Item.source]

theorem Valued.of_firstItem (h : Completes (.array :: frames) .firstItem rest) :
    Valued frames ('[' :: rest) := by
  rcases h with ⟨blank, tail, hblank, htail, rfl⟩ | h
  · have hempty := Valued.of_isValue (.emptyArray hblank) htail
    simpa using hempty
  · obtain ⟨i, items, tail, hi, hitems, htail, rfl⟩ := h.exists_items
    have harray : IsValue ('[' :: (commas ((i :: items).map Item.source) ++ [']'])) :=
      .array (List.cons_ne_nil _ _)
        (List.forall_mem_cons.mpr ⟨hi.1, fun j hj => (hitems j hj).1⟩)
        (List.forall_mem_cons.mpr ⟨hi.2, fun j hj => (hitems j hj).2⟩)
    rw [List.map_cons, commas_cons] at harray
    simpa using Valued.of_isValue harray htail

theorem Valued.of_firstName (h : Completes (.object :: frames) .firstName rest) :
    Valued frames ('\x7b' :: rest) := by
  rcases h with ⟨blank, tail, hblank, htail, rfl⟩ | h
  · have hempty := Valued.of_isValue (.emptyObject hblank) htail
    simpa using hempty
  · obtain ⟨m, members, tail, hm, hmembers, htail, rfl⟩ := h.exists_members
    have hobject : IsValue (braced (m :: members)) :=
      .object (List.cons_ne_nil _ _)
        (List.forall_mem_cons.mpr
          ⟨⟨hm.1, hm.2.1⟩, fun k hk => ⟨(hmembers k hk).1, (hmembers k hk).2.1⟩⟩)
        (List.forall_mem_cons.mpr ⟨hm.2.2, fun k hk => (hmembers k hk).2.2⟩)
    rw [braced, List.map_cons, commas_cons] at hobject
    simpa using Valued.of_isValue hobject htail

/-! ### One step -/

theorem closed_leads (h : (closed frames).Leads c text) :
    ∃ tail, Closing frames tail ∧ text = c :: tail := by
  cases frames with
  | nil => exact ⟨[], .done, h⟩
  | cons frame outer =>
      obtain ⟨tail, rfl, htail⟩ := h
      exact ⟨tail, htail, rfl⟩

theorem between_leads (h : (between frames c).Leads c text) : Closing frames text := by
  cases frames with
  | nil =>
      cases h
      exact .done
  | cons frame outer =>
      cases frame with
      | array =>
          simp only [between] at h
          split at h
          · next hc =>
            obtain ⟨rest, rfl, hrest⟩ := h
            exact Closing.space hc hrest
          split at h
          · next hc =>
            obtain ⟨rest, rfl, hrest⟩ := h
            obtain ⟨i, items, tail, hi, hitems, htail, rfl⟩ := Valued.exists_items hrest
            have hclosing := Closing.of_items (List.forall_mem_cons.mpr ⟨hi, hitems⟩) htail
            simpa [hc] using hclosing
          split at h
          · next hc =>
            obtain ⟨tail, htail, rfl⟩ := closed_leads h
            rw [hc]
            exact Closing.of_items (List.forall_mem_nil _) htail
          · exact h.elim
      | object =>
          simp only [between] at h
          split at h
          · next hc =>
            obtain ⟨rest, rfl, hrest⟩ := h
            exact Closing.space hc hrest
          split at h
          · next hc =>
            obtain ⟨rest, rfl, hrest⟩ := h
            obtain ⟨m, members, tail, hm, hmembers, htail, rfl⟩ := Named.exists_members hrest
            have hclosing := Closing.of_members (List.forall_mem_cons.mpr ⟨hm, hmembers⟩) htail
            simpa [hc] using hclosing
          split at h
          · next hc =>
            obtain ⟨tail, htail, rfl⟩ := closed_leads h
            rw [hc]
            exact Closing.of_members (List.forall_mem_nil _) htail
          · exact h.elim

theorem Valued.of_digit {phase : Phase} (hstep : Phase.sign.advance c = some phase)
    (h : Completes frames (.number phase) rest) : Valued frames (c :: rest) := by
  obtain ⟨left, tail, hleft, htail, rfl⟩ := h
  exact .of_isValue (.number (hleft.advance hstep).isNumber) htail

theorem Valued.of_word {value letters : List Char} (hvalue : IsValue value)
    (hc : value = c :: letters) (h : Completes frames (.word letters) rest) :
    Valued frames (c :: rest) := by
  obtain ⟨tail, htail, rfl⟩ := h
  rw [hc] at hvalue
  exact .of_isValue hvalue htail

theorem begin_leads (h : (begin frames c).Leads c text) : Valued frames text := by
  simp only [begin] at h
  split at h
  · next hc =>
    obtain ⟨rest, rfl, hrest⟩ := h
    exact Valued.space hc hrest
  split at h
  · next hc =>
    obtain ⟨_, rfl, inner, tail, hinner, htail, rfl⟩ := h
    simpa [hc] using Valued.of_isValue (.text hinner) htail
  split at h
  · next hc =>
    obtain ⟨rest, rfl, hrest⟩ := h
    exact hc ▸ .of_firstItem hrest
  split at h
  · next hc =>
    obtain ⟨rest, rfl, hrest⟩ := h
    exact hc ▸ .of_firstName hrest
  split at h
  · next hc =>
    obtain ⟨_, rfl, left, tail, hleft, htail, rfl⟩ := h
    exact hc ▸ .of_isValue (.number hleft.isNumber_minus) htail
  split at h
  · next hc =>
    obtain ⟨rest, rfl, hrest⟩ := h
    exact .of_digit (if_pos hc) hrest
  split at h
  · next hzero hc =>
    obtain ⟨rest, rfl, hrest⟩ := h
    exact .of_digit ((if_neg hzero).trans (if_pos hc)) hrest
  split at h
  · next hc =>
    obtain ⟨rest, rfl, hrest⟩ := h
    exact .of_word (.bool true) (by rw [hc]; rfl) hrest
  split at h
  · next hc =>
    obtain ⟨rest, rfl, hrest⟩ := h
    exact .of_word (.bool false) (by rw [hc]; rfl) hrest
  split at h
  · next hc =>
    obtain ⟨rest, rfl, hrest⟩ := h
    exact .of_word .null (by rw [hc]; rfl) hrest
  · exact h.elim

theorem numberStep_leads {phase : Phase} (h : (numberStep frames phase c).Leads c text) :
    Completes frames (.number phase) text := by
  simp only [numberStep] at h
  split at h
  · next after hstep =>
    obtain ⟨_, rfl, left, tail, hleft, htail, rfl⟩ := h
    exact ⟨c :: left, tail, hleft.advance hstep, htail, rfl⟩
  split at h
  · exact h.elim
  · next hends =>
    have hcomplete : phase.complete = true := by
      cases hphase : phase.complete with
      | true => rfl
      | false => simp [hphase] at hends
    exact ⟨[], text, .of_complete hcomplete, between_leads h, rfl⟩

theorem textStep_leads {isName : Bool} (h : (textStep frames isName c).Leads c text) :
    Completes frames (.text isName) text := by
  simp only [textStep] at h
  split at h
  · next hc =>
    refine ⟨[], text.tail, .nil, ?_⟩
    split at h
    · next hname =>
      obtain ⟨rest, rfl, hrest⟩ := h
      refine ⟨?_, by rw [hc]; rfl⟩
      rw [Quoted, if_pos hname]
      exact hrest
    · next hname =>
      obtain ⟨tail, htail, rfl⟩ := closed_leads h
      refine ⟨?_, by rw [hc]; rfl⟩
      rw [Quoted, if_neg hname]
      exact htail
  split at h
  · next hc =>
    obtain ⟨_, rfl, inner, rest, hinner, hrest, rfl⟩ := h
    exact ⟨'\\' :: inner, rest, hinner, hrest, by rw [hc]; rfl⟩
  split at h
  · exact h.elim
  · next hquote hslash hcontrol =>
    obtain ⟨_, rfl, inner, rest, hinner, hrest, rfl⟩ := h
    exact ⟨c :: inner, rest, .plain hquote hslash (Nat.le_of_not_lt hcontrol) hinner, hrest, rfl⟩

theorem escapeStep_leads {isName : Bool} (h : (escapeStep frames isName c).Leads c text) :
    Completes frames (.escape isName) text := by
  simp only [escapeStep] at h
  split at h
  · next hc =>
    obtain ⟨_, rfl, digits, inner, rest, hlength, hdigits, hinner, hrest, rfl⟩ := h
    refine ⟨'u' :: (digits ++ inner), rest, .hex hlength hdigits hinner, hrest, ?_⟩
    simp [hc]
  split at h
  · next hc =>
    obtain ⟨_, rfl, inner, rest, hinner, hrest, rfl⟩ := h
    have hletter : c ∈ letterEscapes.map Prod.fst := by simpa [letterEscapes] using hc
    exact ⟨c :: inner, rest, .letter hletter hinner, hrest, rfl⟩
  · exact h.elim

theorem hexStep_leads {isName : Bool} {left : Nat}
    (h : (hexStep frames isName left c).Leads c text) :
    Completes frames (.hex isName left) text := by
  simp only [hexStep] at h
  split at h
  · next hc =>
    split at h
    · obtain ⟨_, rfl, inner, rest, hinner, hrest, rfl⟩ := h
      exact ⟨[c], inner, rest, rfl, by simpa using hc, hinner, hrest, rfl⟩
    · obtain ⟨_, rfl, digits, inner, rest, hlength, hdigits, hinner, hrest, rfl⟩ := h
      refine ⟨c :: digits, inner, rest, congrArg Nat.succ hlength, ?_, hinner, hrest, rfl⟩
      exact List.forall_mem_cons.mpr ⟨hc, hdigits⟩
  · exact h.elim

/-- Each step is on the way through a text that completes the value. -/
theorem charStep_leads {expect : Expect} (h : (charStep frames expect c).Leads c text) :
    Completes frames expect text := by
  cases expect with
  | value => exact begin_leads h
  | firstItem =>
      simp only [charStep] at h
      split at h
      · next hc =>
        obtain ⟨rest, rfl, hrest | hrest⟩ := h
        · exact .inl (hrest.space hc)
        · exact .inr (hrest.space hc)
      split at h
      · next hc =>
        obtain ⟨tail, htail, rfl⟩ := closed_leads h
        exact .inl ⟨[], tail, blank_nil, htail, by rw [hc]; rfl⟩
      · exact .inr (begin_leads h)
  | firstName =>
      simp only [charStep] at h
      split at h
      · next hc =>
        obtain ⟨rest, rfl, hrest | hrest⟩ := h
        · exact .inl (hrest.space hc)
        · exact .inr (hrest.space hc)
      split at h
      · next hc =>
        obtain ⟨rest, rfl, hrest⟩ := h
        exact .inr (hc ▸ .of_text hrest)
      split at h
      · next hc =>
        obtain ⟨tail, htail, rfl⟩ := closed_leads h
        exact .inl ⟨[], tail, blank_nil, htail, by rw [hc]; rfl⟩
      · exact h.elim
  | name =>
      simp only [charStep] at h
      split at h
      · next hc =>
        obtain ⟨rest, rfl, hrest⟩ := h
        exact Named.space hc hrest
      split at h
      · next hc =>
        obtain ⟨rest, rfl, hrest⟩ := h
        exact hc ▸ Named.of_text hrest
      · exact h.elim
  | colon =>
      simp only [charStep] at h
      split at h
      · next hc =>
        obtain ⟨rest, rfl, hrest⟩ := h
        exact Coloned.space hc hrest
      split at h
      · next hc =>
        obtain ⟨rest, rfl, hrest⟩ := h
        exact ⟨[], rest, blank_nil, hrest, by rw [hc]; rfl⟩
      · exact h.elim
  | next => exact between_leads h
  | text isName => exact textStep_leads h
  | escape isName => exact escapeStep_leads h
  | hex isName left => exact hexStep_leads h
  | word letters =>
      cases letters with
      | nil => exact h.elim
      | cons l letters =>
          cases letters with
          | nil =>
              simp only [charStep] at h
              split at h
              · next hc =>
                obtain ⟨tail, htail, rfl⟩ := closed_leads h
                exact ⟨tail, htail, by rw [hc]; rfl⟩
              · exact h.elim
          | cons k letters =>
              simp only [charStep] at h
              split at h
              · next hc =>
                obtain ⟨_, rfl, tail, htail, rfl⟩ := h
                exact ⟨tail, htail, by rw [hc]; rfl⟩
              · exact h.elim
  | number phase => exact numberStep_leads h

/-- A number that is not inside of anything may end anywhere. -/
theorem completes_number {phase : Phase} (h : (phase.complete && frames.isEmpty) = true) :
    Completes frames (.number phase) [] := by
  obtain ⟨hcomplete, hframes⟩ := Bool.and_eq_true_iff.mp h
  rw [List.isEmpty_iff.mp hframes]
  exact ⟨[], [], .of_complete hcomplete, .done, rfl⟩

/-- Octets that are no character are taken only where the character shown for them would be. -/
theorem junkStep_leads {expect : Expect} (h : (junkStep frames expect).Leads '\uFFFD' text) :
    Completes frames expect text := by
  cases expect with
  | text isName => exact textStep_leads h
  | number phase =>
      simp only [junkStep] at h
      split at h
      · next hends =>
        cases h
        exact completes_number hends
      · exact h.elim
  | value | firstItem | firstName | name | colon | next | escape | hex | word => exact h.elim

/-! ### All steps -/

/-- What was passed over completes the value. -/
theorem completes_of_skipFrom? {expect : Expect} {input left : List Piece}
    (h : skipFrom? frames expect input = some left) :
    ∃ taken, input = taken ++ left ∧ Completes frames expect (Utf8.lossy taken) := by
  induction input generalizing frames expect with
  | nil =>
      cases expect with
      | number phase =>
          simp only [skipFrom?] at h
          split at h
          · next hends =>
            cases h
            exact ⟨[], rfl, completes_number hends⟩
          · cases h
      | value | firstItem | firstName | name | colon | next | text | escape | hex | word => cases h
  | cons p input ih =>
      -- a step leads to what the rest of the way completes
      have hstep (c : Char) (s : Step) (hc : Utf8.lossy [p] = [c])
          (h : (match s with
            | .more outer after => skipFrom? outer after input
            | .last => some input
            | .past => some (p :: input)
            | .broken => none) = some left)
          (hleads : ∀ text, s.Leads c text → Completes frames expect text) :
          ∃ taken, p :: input = taken ++ left ∧ Completes frames expect (Utf8.lossy taken) := by
        cases s with
        | more outer after =>
            obtain ⟨taken, rfl, hcompletes⟩ := ih h
            exact ⟨p :: taken, rfl, hleads _ ⟨Utf8.lossy taken, congrArg (· ++ _) hc, hcompletes⟩⟩
        | last =>
            cases h
            exact ⟨[p], rfl, hleads _ hc⟩
        | past =>
            cases h
            exact ⟨[], rfl, hleads _ rfl⟩
        | broken => cases h
      cases p with
      | char c => exact hstep c _ rfl h fun _ => charStep_leads
      | junk octets => exact hstep '\uFFFD' _ rfl h fun _ => junkStep_leads

/-- What was passed over as a value is one, with white space before it. -/
theorem exists_value_of_skip? {input left : List Piece} (h : skip? input = some left) :
    ∃ taken blank value, input = taken ++ left ∧ Blank blank ∧ IsValue value ∧
      Utf8.lossy taken = blank ++ value := by
  obtain ⟨taken, rfl, blank, value, tail, hblank, hvalue, htail, heq⟩ := completes_of_skipFrom? h
  cases htail
  exact ⟨taken, blank, value, rfl, hblank, hvalue, by rw [heq, List.append_nil]⟩

end DeviceGateway.Json
