import DeviceGateway.Proofs.Json.Soundness
import DeviceGateway.Proofs.Json.Spelling
import DeviceGateway.Proofs.Json.Yields
/-!
What readers take. The text that a reader takes from the start of its input goes with what it gives:
a string is spelled by what stood between the quotes, a record by the members or elements that were
there. Octets that are no character count as the character that stands for them when they are shown.
-/
namespace DeviceGateway.Json

open Utf8 (Piece)

variable {α β σ ρ : Type}

theorem lossy_append (first second : List Piece) :
    Utf8.lossy (first ++ second) = Utf8.lossy first ++ Utf8.lossy second :=
  List.map_append

theorem lossy_pieces (text : List Char) : Utf8.lossy (pieces text) = text :=
  Utf8.lossy_map_char text

namespace Reader

/-- The text that a reader takes from the start of its input goes with what it gives. -/
def Spans (P : α → List Char → Prop) (x : Reader α) : Prop :=
  ∀ input a left, x input = .ok (a, left) →
    ∃ taken, input = taken ++ left ∧ P a (Utf8.lossy taken)

/-- A reader takes white space, and a value whose text goes with what it gives. -/
def SpansValue (P : α → List Char → Prop) : Reader α → Prop :=
  Spans fun a text => ∃ blank value, Blank blank ∧ IsValue value ∧ P a value ∧
    text = blank ++ value

namespace Spans

variable {P P' : α → List Char → Prop} {Q : β → List Char → Prop}

theorem pure {a : α} (h : P a []) : Spans P (pure a) := by
  intro input b left heq
  cases heq
  exact ⟨[], rfl, h⟩

theorem fail (fault : Fault) : Spans P (fail fault) := by
  intro input a left heq
  cases heq

theorem mono {x : Reader α} (h : Spans P x) (himp : ∀ a text, P a text → P' a text) :
    Spans P' x := by
  intro input a left heq
  obtain ⟨taken, htaken, hP⟩ := h input a left heq
  exact ⟨taken, htaken, himp a _ hP⟩

theorem bind {x : Reader α} {f : α → Reader β} (hx : Spans P x)
    (hf : ∀ a first, P a first → Spans (fun b second => Q b (first ++ second)) (f a)) :
    Spans Q (x >>= f) := by
  intro input b left heq
  change (x input >>= fun p => f p.1 p.2) = .ok (b, left) at heq
  cases hread : x input with
  | error e =>
      rw [hread] at heq
      cases heq
  | ok p =>
      rw [hread] at heq
      obtain ⟨first, hfirst, hP⟩ := hx input p.1 p.2 hread
      obtain ⟨second, hsecond, hQ⟩ := hf p.1 _ hP p.2 b left heq
      refine ⟨first ++ second, by rw [hfirst, hsecond, List.append_assoc], ?_⟩
      rw [lossy_append]
      exact hQ

theorem map {x : Reader α} (h : Spans P x) (f : α → β)
    (himp : ∀ a text, P a text → Q (f a) text) : Spans Q (x >>= fun a => Pure.pure (f a)) := by
  refine h.bind fun a first hP => .pure ?_
  rw [List.append_nil]
  exact himp a first hP

/-- A reader that gives nothing takes anything. -/
theorem of_yields {x : Reader α} (h : Yields (fun _ => False) x) : Spans P x := by
  intro input a left heq
  exact (h input a left heq).elim

end Spans

theorem SpansValue.map {P : α → List Char → Prop} {Q : β → List Char → Prop} {x : Reader α}
    (h : SpansValue P x) (f : α → β) (himp : ∀ a value, P a value → Q (f a) value) :
    SpansValue Q (x >>= fun a => pure (f a)) := by
  refine Spans.map h f ?_
  rintro a _ ⟨blank, value, hblank, hvalue, hP, rfl⟩
  exact ⟨blank, value, hblank, hvalue, himp a value hP, rfl⟩

theorem space_spans : Spans (fun _ text => Blank text) space := by
  intro input a left heq
  cases heq
  refine ⟨_, List.takeWhile_append_dropWhile.symm, ?_⟩
  rintro _ hc
  obtain ⟨p, hp, rfl⟩ := List.mem_map.mp hc
  have hspace := List.all_eq_true.mp List.all_takeWhile p hp
  cases p with
  | char c => exact hspace
  | junk octets => cases hspace

theorem accept_spans (c : Char) :
    Spans (fun found text => text = if found then [c] else []) (accept c) := by
  intro input found left heq
  unfold accept at heq
  split at heq
  · next d rest =>
    split at heq
    · next hd =>
      cases heq
      exact ⟨[.char d], rfl, by rw [hd]; rfl⟩
    · cases heq
      exact ⟨[], rfl, rfl⟩
  · cases heq
    exact ⟨[], rfl, rfl⟩

theorem expect_spans (c : Char) : Spans (fun _ text => text = [c]) (expect c) := by
  refine (accept_spans c).bind fun found first hfirst => ?_
  cases found with
  | false => exact .fail _
  | true => exact .pure (by rw [hfirst]; rfl)

theorem contents_spans : Spans
    (fun s text => ∃ spelling, Spells spelling s.toList ∧ text = spelling ++ ['"']) contents := by
  have hpart : Spans (fun chars text => ∃ spelling, Spells spelling chars ∧
      text = spelling ++ ['"']) (ofPartial (contents? 0)) := by
    intro input chars left heq
    unfold ofPartial at heq
    split at heq
    · next answer hread =>
      cases heq
      obtain ⟨skipped, spelling, hlength, hspells, rfl⟩ := exists_of_contents? hread
      obtain rfl := List.length_eq_zero_iff.mp hlength
      exact ⟨_, rfl, spelling, hspells, lossy_pieces _⟩
    · cases heq
  refine hpart.bind fun chars first hfirst => .pure ?_
  rw [List.append_nil, String.toList_ofList]
  exact hfirst

theorem Spans.afterSpace {x : Reader α} {P : α → List Char → Prop} (h : Spans P x) :
    Spans (fun a text => ∃ blank taken, Blank blank ∧ P a taken ∧ text = blank ++ taken)
      (space >>= fun _ => x) :=
  space_spans.bind fun _ blank hblank => h.mono fun _ taken hP => ⟨blank, taken, hblank, hP, rfl⟩

theorem Spans.afterChar {x : Reader α} {P : α → List Char → Prop} (c : Char) (h : Spans P x) :
    Spans (fun a text => ∃ taken, P a taken ∧ text = c :: taken) (expect c >>= fun _ => x) :=
  (expect_spans c).bind fun _ first hfirst => h.mono fun _ taken hP =>
    ⟨taken, hP, by rw [hfirst]; rfl⟩

theorem text_spans : SpansValue
    (fun s value => ∃ spelling, value = '"' :: (spelling ++ ['"']) ∧ Spells spelling s.toList)
    text := by
  refine space_spans.bind fun _ blank hblank => ?_
  refine (accept_spans '"').bind fun found first hfirst => ?_
  cases found with
  | false => exact .of_yields .mismatch
  | true =>
      refine contents_spans.mono fun s rest hrest => ?_
      obtain ⟨spelling, hspells, rfl⟩ := hrest
      exact ⟨blank, _, hblank, .text hspells.isText, ⟨spelling, rfl, hspells⟩,
        by rw [hfirst]; rfl⟩

theorem skip_spans : SpansValue (fun _ _ => True) skip := by
  intro input a left heq
  unfold skip ofPartial at heq
  split at heq
  · next answer hskip =>
    obtain ⟨rest, hrest, hanswer⟩ := Option.map_eq_some_iff.mp hskip
    cases hanswer
    cases heq
    obtain ⟨taken, blank, value, rfl, hblank, hvalue, htaken⟩ := exists_value_of_skip? hrest
    exact ⟨taken, rfl, blank, value, hblank, hvalue, trivial, htaken⟩
  · cases heq

theorem eq_pieces_of_text? {input : List Piece} {chars : List Char}
    (h : Utf8.text? input = some chars) : input = pieces chars := by
  induction input generalizing chars with
  | nil =>
      cases h
      rfl
  | cons p input ih =>
      cases p with
      | char c =>
          obtain ⟨rest, hrest, rfl⟩ := Option.map_eq_some_iff.mp h
          rw [ih hrest, pieces_cons]
      | junk octets => cases h

theorem space_head {input left : List Piece} (h : space input = .ok ((), left)) {c : Char}
    {rest : List Piece} (hleft : left = .char c :: rest) : isSpace c = false := by
  have hhead {p : Piece → Bool} (hdrop : input.dropWhile p = .char c :: rest) :
      p (.char c) = false := by
    have hnot := List.head?_dropWhile_not p input
    rw [hdrop] at hnot
    exact hnot
  cases h
  exact hhead hleft

theorem raw_spans : SpansValue (fun v text => text = v) raw := by
  intro input v left heq
  obtain ⟨rest, hspace⟩ : ∃ rest, space input = .ok ((), rest) := ⟨_, rfl⟩
  obtain ⟨lead, hlead, hblank⟩ := space_spans input () rest hspace
  unfold raw at heq
  rw [bind_eq hspace] at heq
  unfold ofPartial at heq
  split at heq
  · next answer hread =>
    obtain ⟨after, hskip, hread⟩ := Option.bind_eq_some_iff.mp hread
    obtain ⟨chars, htext, hread⟩ := Option.bind_eq_some_iff.mp hread
    cases hread
    cases heq
    obtain ⟨taken, blank, value, rfl, hblanks, hvalue, htaken⟩ := exists_value_of_skip? hskip
    rw [List.length_append, Nat.add_sub_cancel, List.take_left] at htext
    have hpieces := eq_pieces_of_text? htext
    rw [hpieces, lossy_pieces] at htaken
    -- the white space was gone before the value was looked for
    have hnone : blank = [] := by
      cases blank with
      | nil => rfl
      | cons c blank =>
          rw [hpieces, htaken, List.cons_append, pieces_cons, List.cons_append] at hspace
          have hc : isSpace c = false := space_head hspace rfl
          rw [hblanks c List.mem_cons_self] at hc
          cases hc
    rw [hnone, List.nil_append] at htaken
    rw [htaken] at hpieces
    refine ⟨lead ++ taken, by rw [hlead, List.append_assoc], Utf8.lossy lead, value, hblank, hvalue,
      htaken.symm, ?_⟩
    rw [lossy_append, hpieces, lossy_pieces]
  · cases heq

/-! ### Objects -/

/-- The members of an object one after the other: each leads from one state to the next by its name
and the text of its value. -/
inductive LedBy (T : σ → String → List Char → σ → Prop) : σ → List (String × Member) → σ → Prop
  | nil (s : σ) : LedBy T s [] s
  | cons {s next last : σ} {n : String} {m : Member} {members : List (String × Member)} :
      T s n m.value.text next → LedBy T next members last → LedBy T s ((n, m) :: members) last

/-- The text of an object with these members; without any there may be white space within. -/
inductive IsObject : List (String × Member) → List Char → Prop
  | empty {blank : List Char} : Blank blank → IsObject [] ('\x7b' :: (blank ++ ['\x7d']))
  | members {members : List (String × Member)} : members ≠ [] →
      (∀ p ∈ members, p.2.Spells p.1) → IsObject members (braced (members.map (·.2)))

def trailed (m : Member) (space : List Char) : Member :=
  { m with value := { m.value with after := space } }

theorem trailed_spells {m : Member} {n : String} (h : m.Spells n) {space : List Char}
    (hspace : Blank space) : (trailed m space).Spells n :=
  ⟨⟨h.spaced.before, h.spaced.between, h.spaced.value.1, hspace⟩, h.name, h.value⟩

theorem source_trailed {m : Member} (h : m.value.after = []) (space : List Char) :
    (trailed m space).source = m.source ++ space := by
  simp [trailed, Member.source, Member.valued, Item.source, h]

theorem name_spans : Spans (fun n text => ∃ blank spelling, Blank blank ∧ Spells spelling n.toList ∧
    text = blank ++ '"' :: (spelling ++ ['"'])) name := by
  refine (Spans.afterSpace (Spans.afterChar '"' contents_spans)).mono ?_
  rintro n _ ⟨blank, _, hblank, ⟨_, ⟨spelling, hspells, rfl⟩, rfl⟩, rfl⟩
  exact ⟨blank, spelling, hblank, hspells, rfl⟩

/-- What is taken of a member from its colon on. -/
def SpansMember (T : α → List Char → Prop) : Reader α → Prop :=
  Spans fun a text => ∃ between before value, Blank between ∧ Blank before ∧ IsValue value ∧
    T a value ∧ text = between ++ ':' :: (before ++ value)

theorem SpansMember.map {T : α → List Char → Prop} {U : β → List Char → Prop} {x : Reader α}
    (h : SpansMember T x) (f : α → β) (himp : ∀ a value, T a value → U (f a) value) :
    SpansMember U (x >>= fun a => pure (f a)) := by
  refine Spans.map h f ?_
  rintro a _ ⟨between, before, value, hbetween, hbefore, hvalue, hT, rfl⟩
  exact ⟨between, before, value, hbetween, hbefore, hvalue, himp a value hT, rfl⟩

theorem SpansValue.named {P : α → List Char → Prop} {x : Reader α} (h : SpansValue P x) :
    SpansMember P (named x) := by
  refine (Spans.afterSpace (Spans.afterChar ':' h)).mono ?_
  rintro a _ ⟨between, _, hbetween, ⟨_, ⟨before, value, hbefore, hvalue, hP, rfl⟩, rfl⟩, rfl⟩
  exact ⟨between, before, value, hbetween, hbefore, hvalue, hP, rfl⟩

section

variable {T : σ → String → List Char → σ → Prop} {member : σ → String → Reader σ}
  (h : ∀ s n, SpansMember (fun next value => T s n value next) (member s n))

include h

theorem member_spans (s : σ) : Spans (fun next text => ∃ (n : String) (m : Member),
    m.Spells n ∧ m.value.after = [] ∧ T s n m.value.text next ∧ text = m.source)
    (name >>= member s) := by
  refine name_spans.bind fun n _ hname => ?_
  obtain ⟨before, spelling, hbefore, hspells, rfl⟩ := hname
  refine (h s n).mono ?_
  rintro next _ ⟨between, lead, value, hbetween, hlead, hvalue, hT, rfl⟩
  refine ⟨n, ⟨before, spelling, between, lead, value, []⟩,
    ⟨⟨hbefore, hbetween, hlead, blank_nil⟩, hspells, hvalue⟩, rfl, hT, ?_⟩
  simp [Member.source, Member.valued, Item.source]

theorem moreMembers_spans (bound : Nat) (s : σ) : Spans (fun last text => ∃ blank members,
    Blank blank ∧ (∀ p ∈ members, p.2.Spells p.1) ∧ LedBy T s members last ∧
    text = blank ++ ((members.map (·.2.source)).flatMap (',' :: ·) ++ ['\x7d']))
    (moreMembers member bound s) := by
  induction bound generalizing s with
  | zero => exact .fail _
  | succ bound ih =>
      refine space_spans.bind fun _ blank hblank => ?_
      refine (accept_spans ',').bind fun found comma hcomma => ?_
      cases found with
      | false =>
          refine (expect_spans '\x7d').bind fun _ brace hbrace => .pure ?_
          refine ⟨blank, [], hblank, List.forall_mem_nil _, .nil s, ?_⟩
          rw [hcomma, hbrace]
          rfl
      | true =>
          simp only [if_true]
          rw [← bind_assoc]
          refine (member_spans h s).bind fun next _ hmember => ?_
          obtain ⟨n, m, hm, hafter, hT, rfl⟩ := hmember
          refine (ih next).mono ?_
          rintro last _ ⟨space, members, hspace, hmembers, hled, rfl⟩
          refine ⟨blank, (n, trailed m space) :: members, hblank,
            List.forall_mem_cons.mpr ⟨trailed_spells hm hspace, hmembers⟩, .cons hT hled, ?_⟩
          simp [hcomma, source_trailed hafter]

theorem object_spans (s : σ) : Spans (fun last text => ∃ blank members taken, Blank blank ∧
    IsObject members taken ∧ LedBy T s members last ∧ text = blank ++ taken)
    (object member s) := by
  refine space_spans.bind fun _ blank hblank => ?_
  refine (accept_spans '\x7b').bind fun found brace hbrace => ?_
  cases found with
  | false => exact .of_yields .mismatch
  | true =>
      refine space_spans.bind fun _ before hbefore => ?_
      refine (accept_spans '\x7d').bind fun ended close hclose => ?_
      cases ended with
      | true =>
          refine .pure ⟨blank, [], _, hblank, .empty hbefore, .nil s, ?_⟩
          simp [hbrace, hclose]
      | false =>
          simp only [Bool.false_eq_true, if_false]
          rw [← bind_assoc]
          refine (member_spans h s).bind fun next _ hmember => ?_
          obtain ⟨n, m, hm, hafter, hT, rfl⟩ := hmember
          have hremaining : Spans (fun _ text => text = []) remaining := by
            intro input bound left heq
            cases heq
            exact ⟨[], rfl, rfl⟩
          refine hremaining.bind fun bound _ hnothing => ?_
          refine (moreMembers_spans h bound next).mono ?_
          rintro last _ ⟨space, members, hspace, hmembers, hled, rfl⟩
          -- the white space before the first name was taken before a brace was looked for
          let first : Member := { trailed m space with before := before ++ m.before }
          have hfirst : first.Spells n := by
            have htrailed := trailed_spells hm hspace
            refine ⟨⟨?_, htrailed.spaced.between, htrailed.spaced.value⟩, htrailed.name,
              htrailed.value⟩
            intro c hc
            rcases List.mem_append.mp hc with hc | hc
            · exact hbefore c hc
            · exact hm.spaced.before c hc
          refine ⟨blank, (n, first) :: members, _, hblank, .members (List.cons_ne_nil _ _)
            (List.forall_mem_cons.mpr ⟨hfirst, hmembers⟩), .cons hT hled, ?_⟩
          have hsource : first.source = before ++ (trailed m space).source :=
            List.append_assoc before m.before _
          simp [hbrace, hclose, hnothing, braced, commas_cons, hsource, source_trailed hafter,
            List.map_map, Function.comp_def]

end

end Reader

/-! ### Records -/

namespace Codec

open Reader (Spans SpansValue SpansMember LedBy IsObject)

/-- What a member makes of a record half read: a field is met once, any other member is ignored. -/
inductive Drafts (fields : List (Field ρ)) (F : String → ρ → List Char → ρ → Prop) :
    Draft ρ → String → List Char → Draft ρ → Prop
  | field {d : Draft ρ} {f : Field ρ} {value : List Char} {r : ρ} : f ∈ fields →
      f.name ∉ d.met → F f.name d.record value r →
      Drafts fields F d f.name value ⟨r, f.name :: d.met⟩
  | ignored {d : Draft ρ} {n : String} {value : List Char} : (∀ f ∈ fields, f.name ≠ n) →
      Drafts fields F d n value d

/-- The elements of an array, each of which is the next field of a record. -/
inductive FilledBy (F : String → ρ → List Char → ρ → Prop) :
    List (Field ρ) → ρ → List Item → ρ → Prop
  | nil {fields : List (Field ρ)} {r : ρ} : FilledBy F fields r [] r
  | cons {f : Field ρ} {fields : List (Field ρ)} {r next last : ρ} {i : Item}
      {items : List Item} : F f.name r i.text next → FilledBy F fields next items last →
      FilledBy F (f :: fields) r (i :: items) last

/-- The text of an array of these elements; without any there may be white space within. -/
inductive IsArray : List Item → List Char → Prop
  | empty {blank : List Char} : Blank blank → IsArray [] ('[' :: (blank ++ [']']))
  | items {items : List Item} : items ≠ [] → (∀ i ∈ items, i.Spaced ∧ IsValue i.text) →
      IsArray items ('[' :: (commas (items.map Item.source) ++ [']']))

/-- The texts that a record is read from, from its opening bracket or brace on. -/
inductive IsRecord (fields : List (Field ρ)) (F : String → ρ → List Char → ρ → Prop) (start : ρ) :
    ρ → List Char → Prop
  | object {members : List (String × Member)} {last : Draft ρ} {text : List Char} :
      IsObject members text → LedBy (Drafts fields F) ⟨start, []⟩ members last →
      IsRecord fields F start last.record text
  | array {items : List Item} {r : ρ} {text : List Char} : IsArray items text →
      FilledBy F fields start items r → IsRecord fields F start r text

section

variable {fields : List (Field ρ)} {F : String → ρ → List Char → ρ → Prop}
  (h : ∀ f ∈ fields, ∀ r, SpansValue (fun next value => F f.name r value next) (f.read r))

include h

theorem takeMember_spans (d : Draft ρ) (n : String) :
    SpansMember (fun next value => Drafts fields F d n value next)
      (takeMember fields ignore d n) := by
  unfold takeMember
  split
  · next hfind =>
    have hnone : ∀ f ∈ fields, f.name ≠ n := by simpa using hfind
    have hignore : SpansValue (fun r _ => r = d.record) (ignore d.record n) :=
      Reader.skip_spans.map _ fun _ _ _ => rfl
    refine hignore.named.map _ ?_
    rintro _ value rfl
    exact .ignored hnone
  · next f hfind =>
    have hname : f.name = n := by simpa using List.find?_some hfind
    have hmem := List.mem_of_find?_eq_some hfind
    split
    · exact .fail _
    · next hmet =>
      subst hname
      exact (h f hmem d.record).named.map _ fun _ _ hF => .field hmem hmet hF

theorem elements_spans (r : ρ) : Spans (fun last text => ∃ blank items, Blank blank ∧
    (∀ i ∈ items, i.Spaced ∧ IsValue i.text) ∧ FilledBy F fields r items last ∧
    text = blank ++ ((items.map Item.source).flatMap (',' :: ·) ++ [']']))
    (elements fields false r) := by
  induction fields generalizing r with
  | nil =>
      refine Reader.space_spans.bind fun _ blank hblank => ?_
      refine (Reader.expect_spans ']').bind fun _ bracket hbracket => .pure ?_
      exact ⟨blank, [], hblank, List.forall_mem_nil _, .nil, by rw [hbracket]; rfl⟩
  | cons f rest ih =>
      obtain ⟨hf, hrest⟩ := List.forall_mem_cons.mp h
      refine Reader.space_spans.bind fun _ blank hblank => ?_
      refine (Reader.accept_spans ']').bind fun ended bracket hbracket => ?_
      cases ended with
      | true =>
          simp only [if_true]
          split
          · refine .pure ⟨blank, [], hblank, List.forall_mem_nil _, .nil, ?_⟩
            rw [hbracket]
            simp
          · exact .fail _
      | false =>
          refine (Reader.expect_spans ',').bind fun _ comma hcomma => ?_
          refine (hf r).bind fun next _ hvalue => ?_
          obtain ⟨before, value, hbefore, hvalue, hF, rfl⟩ := hvalue
          refine (ih hrest next).mono ?_
          rintro last _ ⟨after, items, hafter, hitems, hfilled, rfl⟩
          refine ⟨blank, ⟨before, value, after⟩ :: items, hblank,
            List.forall_mem_cons.mpr ⟨⟨⟨hbefore, hafter⟩, hvalue⟩, hitems⟩, .cons hF hfilled, ?_⟩
          simp [hbracket, hcomma, Item.source]

theorem array_spans (r : ρ) : Spans (fun last text => ∃ items,
    IsArray items ('[' :: text) ∧ FilledBy F fields r items last) (elements fields true r) := by
  cases fields with
  | nil =>
      refine Reader.space_spans.bind fun _ blank hblank => ?_
      refine (Reader.expect_spans ']').bind fun _ bracket hbracket => .pure ?_
      exact ⟨[], by simpa [hbracket] using .empty hblank, .nil⟩
  | cons f rest =>
      obtain ⟨hf, hrest⟩ := List.forall_mem_cons.mp h
      refine Reader.space_spans.bind fun _ blank hblank => ?_
      refine (Reader.accept_spans ']').bind fun ended bracket hbracket => ?_
      cases ended with
      | true =>
          simp only [if_true]
          split
          · exact .pure ⟨[], by simpa [hbracket] using .empty hblank, .nil⟩
          · exact .fail _
      | false =>
          refine (hf r).bind fun next _ hvalue => ?_
          obtain ⟨before, value, hbefore, hvalue, hF, rfl⟩ := hvalue
          refine (elements_spans hrest next).mono ?_
          rintro last _ ⟨after, items, hafter, hitems, hfilled, rfl⟩
          let first : Item := ⟨blank ++ before, value, after⟩
          have hspaced : first.Spaced := ⟨List.forall_mem_append.mpr ⟨hblank, hbefore⟩, hafter⟩
          have harray := IsArray.items (List.cons_ne_nil first items)
            (List.forall_mem_cons.mpr ⟨⟨hspaced, hvalue⟩, hitems⟩)
          refine ⟨first :: items, ?_, .cons hF hfilled⟩
          simpa [first, hbracket, commas_cons, Item.source] using harray

/-- What a record is read from is an object that has the fields among its members, or an array that
begins with them. -/
theorem record_spans (start : ρ) : Spans (fun r text => ∃ blank taken, Blank blank ∧
    IsRecord fields F start r taken ∧ text = blank ++ taken) (record fields start).read := by
  refine Reader.space_spans.bind fun _ blank hblank => ?_
  refine (Reader.accept_spans '[').bind fun bracketed bracket hbracket => ?_
  cases bracketed with
  | true =>
      refine (array_spans h start).mono ?_
      rintro r text ⟨items, harray, hfilled⟩
      exact ⟨blank, _, hblank, .array harray hfilled, by rw [hbracket]; rfl⟩
  | false =>
      refine (Reader.object_spans (takeMember_spans h) ⟨start, []⟩).bind fun last _ hobject => ?_
      obtain ⟨more, members, taken, hmore, hobject, hled, rfl⟩ := hobject
      unfold Draft.finish
      split
      · refine .pure ⟨blank ++ more, taken, List.forall_mem_append.mpr ⟨hblank, hmore⟩,
          .object hobject hled, ?_⟩
        simp [hbracket]
      · exact .fail _

end

/-- A whole document is what its reader takes, and white space behind it. -/
theorem exists_of_decode {c : Codec α} {P : α → List Char → Prop} (h : Spans P c.read)
    {input : List Piece} {a : α} (hdecode : c.decode input = .ok a) :
    ∃ text trail, P a text ∧ Blank trail ∧ Utf8.lossy input = text ++ trail := by
  unfold decode Reader.whole? at hdecode
  cases hread : c.read input with
  | error e =>
      rw [hread] at hdecode
      cases hdecode
  | ok p =>
      obtain ⟨b, left⟩ := p
      obtain ⟨taken, rfl, hP⟩ := h input b left hread
      obtain ⟨rest, hspace⟩ : ∃ rest, Reader.space left = .ok ((), rest) := ⟨_, rfl⟩
      obtain ⟨trail, rfl, htrail⟩ := Reader.space_spans left () rest hspace
      rw [hread] at hdecode
      dsimp only [bind, Except.bind] at hdecode
      rw [hspace] at hdecode
      dsimp only at hdecode
      split at hdecode
      · next hempty =>
        cases hdecode
        rw [List.isEmpty_iff.mp hempty, List.append_nil, lossy_append]
        exact ⟨_, _, hP, htrail, rfl⟩
      · cases hdecode

end Codec

end DeviceGateway.Json
