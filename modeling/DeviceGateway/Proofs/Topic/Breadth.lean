import DeviceGateway.Proofs.Topic.Levels
/-!
Topics that stand for too much. A subscription may not ask for several levels at once, nor for all
devices where a template has the device's number. The platform's templates see to that; a template
of a rule does if none of its levels is free.
-/
namespace DeviceGateway.Topic

open Canonical (levels numberLevel agree subscribeLevel subscribeTemplates)

/-- A level that stands for any other: a wildcard, or a variable and nothing else. -/
def FreeLevel (level : List Char) : Prop :=
  level = ['+'] ∨ ∃ name, IsName name ∧ level = '\x7b' :: (name ++ ['\x7d'])

theorem freeLevel_numberLevel : FreeLevel numberLevel :=
  .inr ⟨deviceNumber.toList, ⟨by decide, List.all_eq_true.mp (by decide)⟩, by decide⟩

theorem freeLevel_wildcard {rest : List Char} : FreeLevel ('+' :: rest) ↔ rest = [] := by
  constructor
  · rintro (h | ⟨name, _, h⟩)
    · exact (List.cons.inj h).2
    · exact absurd (List.cons.inj h).1 (by decide)
  · rintro rfl
    exact .inl rfl

theorem freeLevel_variable {name : List Char} (hname : IsName name) {rest : List Char} :
    FreeLevel ('\x7b' :: (name ++ '\x7d' :: rest)) ↔ rest = [] := by
  constructor
  · rintro (h | ⟨other, hother, h⟩)
    · exact absurd (List.cons.inj h).1 (by decide)
    · have htail : name ++ '\x7d' :: rest = other ++ '\x7d' :: [] := (List.cons.inj h).2
      have hsame := variableName?_append hname rest
      rw [htail, variableName?_append hother] at hsame
      cases hsame
      exact (List.cons.inj (List.append_cancel_left htail)).2
  · rintro rfl
    exact .inr ⟨name, hname, rfl⟩

theorem not_freeLevel_plain {c : Char} {rest : List Char} (h : IsPlain c rest) :
    ¬ FreeLevel (c :: rest) := by
  rintro (heq | ⟨name, hname, heq⟩)
  · exact h.1 (List.cons.inj heq).1
  · obtain ⟨hc, rfl⟩ := List.cons.inj heq
    have hnone := h.2 hc
    rw [variableName?_append hname []] at hnone
    cases hnone

theorem cut_tokensFrom_nil {template : List Char} :
    Cut (tokensFrom 0 template) [] ↔ template = [] := by
  induction template using template_induction with
  | nil => simp
  | wildcard rest _ => simp [cut_cons, Token.Fits]
  | named name rest hname _ => simp [tokensFrom_variable hname, cut_cons, Token.Fits]
  | plain c rest hc _ => simp [tokensFrom_plain hc, cut_prepend]

/-- A token that stands for any level can take a character for itself alone. -/
theorem cut_singleton {t : Token} {ts : List Token} {c : Char} (hc : c ≠ '/')
    (ht : t.isFree = true) : Cut (t :: ts) [c] ↔ Cut ts [] := by
  have hfits {piece : List Char} : t.Fits piece ↔ piece ≠ [] ∧ '/' ∉ piece := by
    cases t with
    | literal text => cases ht
    | wildcard => exact Iff.rfl
    | «variable» name => exact Iff.rfl
  rw [cut_cons]
  constructor
  · rintro ⟨piece, rest, heq, hpiece, hrest⟩
    obtain ⟨hne, _⟩ := hfits.mp hpiece
    cases piece with
    | nil => exact absurd rfl hne
    | cons d piece =>
        obtain ⟨rfl, htail⟩ := List.cons.inj heq
        rw [(List.append_eq_nil_iff.mp htail.symm).2] at hrest
        exact hrest
  · intro hrest
    exact ⟨[c], [], rfl, hfits.mpr ⟨by simp, by simpa using hc.symm⟩, hrest⟩

/-- Of the levels without a hash, the free ones let one through. -/
theorem cut_hash {level : List Char} (h : '#' ∉ level) :
    Cut (tokensFrom 0 level) ['#'] ↔ FreeLevel level := by
  induction level using template_induction with
  | nil => simp [FreeLevel]
  | wildcard rest _ =>
      rw [tokensFrom_wildcard, cut_singleton (by decide) rfl, cut_tokensFrom_nil,
        freeLevel_wildcard]
  | named name rest hname _ =>
      rw [tokensFrom_variable hname, cut_singleton (by decide) rfl, cut_tokensFrom_nil,
        freeLevel_variable hname]
  | plain c rest hc _ =>
      rw [tokensFrom_plain hc, cut_prepend]
      constructor
      · rintro ⟨_, heq, _⟩
        cases heq
        exact absurd List.mem_cons_self h
      · intro hfree
        exact absurd hfree (not_freeLevel_plain hc)

/-- A topic asks for several levels at once, or for any device where the template has the device's
number. -/
def TooBroad (template topic : String) : Prop :=
  ['#'] ∈ levels topic.toList ∨
    (['+'], numberLevel) ∈ (levels topic.toList).zip (levels template.toList)

instance (template topic : String) : Decidable (TooBroad template topic) := by
  unfold TooBroad
  infer_instance

theorem exists_mem_zip {α β : Type} {as : List α} {bs : List β} (h : as.length = bs.length) {a : α}
    (ha : a ∈ as) : ∃ b, (a, b) ∈ as.zip bs := by
  rw [← List.map_fst_zip (Nat.le_of_eq h)] at ha
  obtain ⟨⟨_, b⟩, hpair, rfl⟩ := List.mem_map.mp ha
  exact ⟨b, hpair⟩

/-- No template of the platform grants a topic that is too broad for it. -/
theorem not_tooBroad_of_agree {template topic : String} (ht : template ∈ subscribeTemplates)
    (h : agree subscribeLevel topic template = true) : ¬ TooBroad template topic := by
  have hhash : ∀ t ∈ subscribeTemplates, ['#'] ∉ levels t.toList := by decide +kernel
  simp only [agree, Bool.and_eq_true, decide_eq_true_eq, List.all_eq_true] at h
  obtain ⟨hlength, hlevels⟩ := h
  rintro (hmem | hmem)
  · obtain ⟨level, hpair⟩ := exists_mem_zip hlength hmem
    have hlevel := hlevels _ hpair
    simp only [subscribeLevel] at hlevel
    split at hlevel
    · simp at hlevel
    · split at hlevel
      · simp at hlevel
      · rw [← of_decide_eq_true hlevel] at hpair
        exact hhash template ht (List.of_mem_zip hpair).2
  · have hlevel := hlevels _ hmem
    simp [subscribeLevel] at hlevel

/-- A template of a rule grants a topic that is too broad for it where a level of the template that
is free meets a hash, or the device's number a wildcard. -/
theorem tooBroad_iff {template topic : String} (h : accepts template topic = true) :
    TooBroad template topic ↔
      ∃ piece level, (piece, level) ∈ (levels topic.toList).zip (levels template.toList) ∧
        (piece = ['#'] ∧ FreeLevel level ∨ piece = ['+'] ∧ level = numberLevel) := by
  obtain ⟨husable, hcut⟩ := accepts_iff.mp h
  obtain ⟨hlength, hlevels⟩ := List.forall₂_iff_zip.mp (cut_iff_levels.mp hcut).flip
  constructor
  · rintro (hmem | hmem)
    · obtain ⟨level, hpair⟩ := exists_mem_zip hlength hmem
      have hhash : '#' ∉ level := fun hm =>
        husable.not_mem_hash (mem_of_mem_levels (List.of_mem_zip hpair).2 hm)
      exact ⟨['#'], level, hpair, .inl ⟨rfl, (cut_hash hhash).mp (hlevels hpair)⟩⟩
    · exact ⟨['+'], numberLevel, hmem, .inr ⟨rfl, rfl⟩⟩
  · rintro ⟨piece, level, hpair, ⟨rfl, _⟩ | ⟨rfl, rfl⟩⟩
    · exact .inl (List.of_mem_zip hpair).1
    · exact .inr hpair

theorem exists_cut (ts : List Token) : ∃ topic, Cut ts topic := by
  induction ts with
  | nil => exact ⟨[], .nil⟩
  | cons t ts ih =>
      obtain ⟨rest, hrest⟩ := ih
      cases t with
      | literal text => exact ⟨text ++ rest, .cons rfl hrest⟩
      | wildcard => exact ⟨['x'] ++ rest, .cons ⟨by simp, by decide⟩ hrest⟩
      | «variable» name => exact ⟨['x'] ++ rest, .cons ⟨by simp, by decide⟩ hrest⟩

/-- A free level lets a hash through, whatever the other levels are. -/
theorem exists_cut_hash {template level : List Char} (h : '#' ∉ template)
    (hlevel : level ∈ levels template) (hfree : FreeLevel level) :
    ∃ topic, Cut (tokensFrom 0 template) topic ∧ ['#'] ∈ levels topic := by
  induction template using levels_induction with
  | single only honly =>
      rw [levels_of_not_mem honly, List.mem_singleton] at hlevel
      subst hlevel
      exact ⟨['#'], (cut_hash h).mpr hfree, by decide⟩
  | more first rest hfirst ih =>
      rw [List.mem_append, List.mem_cons, not_or, not_or] at h
      rw [levels_append hfirst, List.mem_cons] at hlevel
      rcases hlevel with rfl | hlevel
      · obtain ⟨last, hlast⟩ := exists_cut (tokensFrom 0 rest)
        refine ⟨['#'] ++ '/' :: last,
          (cut_levels hfirst).mpr ⟨_, _, rfl, (cut_hash h.1).mpr hfree, hlast⟩, ?_⟩
        rw [levels_append (by decide)]
        exact List.mem_cons_self
      · obtain ⟨piece, hpiece⟩ := exists_cut (tokensFrom 0 first)
        obtain ⟨last, hlast, hhash⟩ := ih h.2.2 hlevel
        refine ⟨piece ++ '/' :: last, (cut_levels hfirst).mpr ⟨_, _, rfl, hpiece, hlast⟩, ?_⟩
        rw [levels_append (not_mem_of_cut hfirst hpiece)]
        exact List.mem_cons_of_mem _ hhash

/-- The templates that grant nothing too broad are those without a free level. -/
theorem never_tooBroad_iff {template : String} (h : Usable template) :
    (∀ topic, accepts template topic = true → ¬ TooBroad template topic) ↔
      ∀ level ∈ levels template.toList, ¬ FreeLevel level := by
  constructor
  · intro hnever level hlevel hfree
    obtain ⟨topic, hcut, hhash⟩ := exists_cut_hash h.not_mem_hash hlevel hfree
    rw [← String.toList_ofList (l := topic)] at hcut hhash
    exact hnever _ (accepts_iff.mpr ⟨h, hcut⟩) (.inl hhash)
  · intro hlevels topic haccepts hbroad
    obtain ⟨piece, level, hpair, ⟨_, hfree⟩ | ⟨_, rfl⟩⟩ := (tooBroad_iff haccepts).mp hbroad
    · exact hlevels level (List.of_mem_zip hpair).2 hfree
    · exact hlevels numberLevel (List.of_mem_zip hpair).2 freeLevel_numberLevel

end DeviceGateway.Topic
