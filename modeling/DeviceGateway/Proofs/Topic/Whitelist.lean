import DeviceGateway.Proofs.Topic.Breadth
import DeviceGateway.Proofs.Topic.Render
/-!
The platform's whitelists beside the matching of templates. The whitelists compare a topic with each
template level by level; where no level of the topic is empty, that is what matching does too, but
for the wildcards that a subscription must not have.
-/
namespace DeviceGateway.Topic

open Canonical

/-- Text in which neither a wildcard nor a variable can stand. -/
def PlainText (text : List Char) : Prop := '+' ∉ text ∧ '\x7b' ∉ text

instance : DecidablePred PlainText := fun text =>
  inferInstanceAs (Decidable ('+' ∉ text ∧ '\x7b' ∉ text))

theorem PlainText.cons {c : Char} {text : List Char} (h : PlainText (c :: text)) :
    (∀ rest, IsPlain c rest) ∧ PlainText text := by
  obtain ⟨hplus, hbrace⟩ := h
  rw [List.mem_cons, not_or] at hplus hbrace
  exact ⟨fun _ => ⟨fun hc => hplus.1 hc.symm, fun hc => absurd hc.symm hbrace.1⟩,
    hplus.2, hbrace.2⟩

theorem cut_plainText {text : List Char} (h : PlainText text) {rest topic : List Char} :
    Cut (tokensFrom 0 (text ++ rest)) topic ↔
      ∃ last, topic = text ++ last ∧ Cut (tokensFrom 0 rest) last := by
  induction text generalizing topic with
  | nil => simp
  | cons c text ih =>
      obtain ⟨hc, htext⟩ := h.cons
      rw [List.cons_append, tokensFrom_plain (hc _), cut_prepend]
      constructor
      · rintro ⟨_, rfl, hcut⟩
        obtain ⟨last, rfl, hlast⟩ := (ih htext).mp hcut
        exact ⟨last, rfl, hlast⟩
      · rintro ⟨last, rfl, hlast⟩
        exact ⟨text ++ last, rfl, (ih htext).mpr ⟨last, rfl, hlast⟩⟩

theorem cut_plainLevel {level piece : List Char} (h : PlainText level) :
    Cut (tokensFrom 0 level) piece ↔ piece = level := by
  rw [← List.append_nil level, cut_plainText h]
  simp

theorem cut_freeLevel {level piece : List Char} (h : FreeLevel level) :
    Cut (tokensFrom 0 level) piece ↔ IsPiece piece := by
  rcases h with rfl | ⟨name, hname, rfl⟩
  · rw [tokensFrom_wildcard, cut_cons]
    simp [Token.Fits, IsPiece]
  · rw [tokensFrom_variable hname, cut_cons]
    simp [Token.Fits, IsPiece]

theorem not_mem_of_mem_levels {topic level : List Char} (h : level ∈ levels topic) :
    '/' ∉ level := by
  induction topic using levels_induction with
  | single only honly =>
      rw [levels_of_not_mem honly, List.mem_singleton] at h
      exact h ▸ honly
  | more first rest hfirst ih =>
      rw [levels_append hfirst, List.mem_cons] at h
      rcases h with rfl | h
      · exact hfirst
      · exact ih h

theorem agree_iff {level : List Char → List Char → Bool} {topic template : String} :
    agree level topic template = true ↔
      List.Forall₂ (fun piece l => level piece l = true) (levels topic.toList)
        (levels template.toList) := by
  simp only [agree, Bool.and_eq_true, decide_eq_true_eq, List.all_eq_true, List.forall₂_iff_zip,
    Prod.forall]

theorem accepts_iff_levels {topic template : String} (h : Usable template) :
    accepts template topic = true ↔
      List.Forall₂ (fun piece level => Cut (tokensFrom 0 level) piece) (levels topic.toList)
        (levels template.toList) := by
  rw [accepts_iff, tokens, cut_iff_levels, and_iff_right h]
  exact ⟨List.Forall₂.flip, List.Forall₂.flip⟩

theorem forall₂_of_mem {α β : Type} {R S : α → β → Prop} {as : List α} {bs : List β}
    (h : List.Forall₂ R as bs) (himp : ∀ a ∈ as, ∀ b ∈ bs, R a b → S a b) :
    List.Forall₂ S as bs := by
  rw [List.forall₂_iff_zip] at h ⊢
  refine ⟨h.1, fun hab => ?_⟩
  obtain ⟨ha, hb⟩ := List.of_mem_zip hab
  exact himp _ ha _ hb (h.2 hab)

theorem publishLevel_iff {piece level : List Char} :
    publishLevel piece level = true ↔ level = ['+'] ∨ piece = level := by
  simp [publishLevel]

/-- The levels that the platform's templates are made of. -/
def Ordinary (level : List Char) : Prop :=
  level = numberLevel ∨ level = ['+'] ∨ PlainText level

instance : DecidablePred Ordinary := fun level =>
  inferInstanceAs (Decidable (level = numberLevel ∨ level = ['+'] ∨ PlainText level))

theorem PlainText.ne_wildcard {text : List Char} (h : PlainText text) : text ≠ ['+'] := by
  rintro rfl
  exact absurd h (by decide)

theorem PlainText.ne_numberLevel {text : List Char} (h : PlainText text) : text ≠ numberLevel := by
  rintro rfl
  exact absurd h (by decide)

theorem subscribeLevel_plainText {piece level : List Char} (h : PlainText level) :
    subscribeLevel piece level = true ↔ piece = level := by
  simp only [subscribeLevel, h.ne_numberLevel, h.ne_wildcard, if_false, decide_eq_true_eq]

theorem subscribeLevel_wildcard {piece : List Char} :
    subscribeLevel piece ['+'] = true ↔ piece ≠ ['#'] := by
  have hne : ['+'] ≠ numberLevel := by decide
  simp [subscribeLevel, hne]

theorem subscribeLevel_iff {piece level : List Char} (hlevel : Ordinary level) (hhash : '#' ∉ level)
    (hpiece : IsPiece piece) :
    subscribeLevel piece level = true ↔
      Cut (tokensFrom 0 level) piece ∧ piece ≠ ['#'] ∧ (piece = ['+'] → level ≠ numberLevel) := by
  rcases hlevel with rfl | rfl | hplain
  · simp [subscribeLevel, cut_freeLevel freeLevel_numberLevel, hpiece, and_comm]
  · rw [subscribeLevel_wildcard, cut_freeLevel (.inl rfl)]
    exact ⟨fun hne => ⟨hpiece, hne, fun _ => by decide⟩, fun h => h.2.1⟩
  · rw [subscribeLevel_plainText hplain, cut_plainLevel hplain]
    refine ⟨?_, And.left⟩
    rintro rfl
    refine ⟨rfl, ?_, fun _ => hplain.ne_numberLevel⟩
    rintro rfl
    exact hhash List.mem_cons_self

theorem publishTemplates_levels : ∀ t ∈ publishTemplates, Usable t ∧
    ∀ level ∈ levels t.toList, level = ['+'] ∨ PlainText level := by
  decide +kernel

theorem subscribeTemplates_levels : ∀ t ∈ subscribeTemplates, Usable t ∧
    ∀ level ∈ levels t.toList, Ordinary level := by
  decide +kernel

section

variable {topic template : String}

theorem isPiece_of_mem_levels (hne : [] ∉ levels topic.toList) {piece : List Char}
    (h : piece ∈ levels topic.toList) : IsPiece piece :=
  ⟨fun hnil => hne (hnil ▸ h), not_mem_of_mem_levels h⟩

/-- Nothing matches a template of the platform that has an empty level. -/
theorem not_mem_nil_of_accepts (ht : template ∈ subscribeTemplates)
    (h : accepts template topic = true) : [] ∉ levels topic.toList := by
  intro hmem
  have hne : ∀ t ∈ subscribeTemplates, [] ∉ levels t.toList := by decide +kernel
  obtain ⟨hlength, hcut⟩ := List.forall₂_iff_zip.mp
    ((accepts_iff_levels (accepts_iff.mp h).1).mp h)
  obtain ⟨level, hpair⟩ := exists_mem_zip hlength hmem
  have hnil : level = [] := cut_tokensFrom_nil.mp (hcut hpair)
  exact hne template ht (hnil ▸ (List.of_mem_zip hpair).2)

/-- What matches a template that devices may publish to is let in. -/
theorem agree_publishLevel_of_accepts (ht : template ∈ publishTemplates)
    (h : accepts template topic = true) : agree publishLevel topic template = true := by
  obtain ⟨husable, hlevels⟩ := publishTemplates_levels template ht
  rw [agree_iff]
  refine forall₂_of_mem ((accepts_iff_levels husable).mp h) ?_
  intro piece _ level hlevel hcut
  rw [publishLevel_iff]
  exact (hlevels level hlevel).imp_right fun hplain => (cut_plainLevel hplain).mp hcut

theorem agree_publishLevel_iff (ht : template ∈ publishTemplates)
    (hne : [] ∉ levels topic.toList) :
    agree publishLevel topic template = true ↔ accepts template topic = true := by
  refine ⟨fun hagree => ?_, agree_publishLevel_of_accepts ht⟩
  obtain ⟨husable, hlevels⟩ := publishTemplates_levels template ht
  rw [accepts_iff_levels husable]
  refine forall₂_of_mem (agree_iff.mp hagree) ?_
  intro piece hpiece level hlevel hlet
  rcases hlevels level hlevel with rfl | hplain
  · exact (cut_freeLevel (.inl rfl)).mpr (isPiece_of_mem_levels hne hpiece)
  · exact (cut_plainLevel hplain).mpr ((publishLevel_iff.mp hlet).resolve_left hplain.ne_wildcard)

/-- What matches a template that devices may subscribe to is let in, if it is not too broad. -/
theorem agree_subscribeLevel_iff (ht : template ∈ subscribeTemplates)
    (hne : [] ∉ levels topic.toList) :
    agree subscribeLevel topic template = true ↔
      accepts template topic = true ∧ ¬ TooBroad template topic := by
  obtain ⟨husable, hlevels⟩ := subscribeTemplates_levels template ht
  have hiff {piece level : List Char} (hpiece : piece ∈ levels topic.toList)
      (hlevel : level ∈ levels template.toList) :=
    subscribeLevel_iff (hlevels level hlevel)
      (fun hm => husable.not_mem_hash (mem_of_mem_levels hlevel hm))
      (isPiece_of_mem_levels hne hpiece)
  constructor
  · intro hagree
    refine ⟨(accepts_iff_levels husable).mpr ?_, not_tooBroad_of_agree ht hagree⟩
    exact forall₂_of_mem (agree_iff.mp hagree) fun _ hpiece _ hlevel hlet =>
      ((hiff hpiece hlevel).mp hlet).1
  · rintro ⟨haccepts, hbroad⟩
    obtain ⟨hlength, hcut⟩ := List.forall₂_iff_zip.mp ((accepts_iff_levels husable).mp haccepts)
    refine agree_iff.mpr (List.forall₂_iff_zip.mpr ⟨hlength, ?_⟩)
    intro piece level hpair
    obtain ⟨hpiece, hlevel⟩ := List.of_mem_zip hpair
    refine (hiff hpiece hlevel).mpr ⟨hcut hpair, ?_, ?_⟩
    · rintro rfl
      exact hbroad (.inl hpiece)
    · rintro rfl rfl
      exact hbroad (.inr hpair)

end

/-- The whitelists let in what matches one of their templates, unless a level of it is empty; of
what may be subscribed to, neither any level may be a hash, nor the one in the place of the device's
number a wildcard. Whatever matches a template that devices may publish to is let in. -/
theorem whitelists_match (topic : String) :
    (∀ t ∈ publishTemplates, accepts t topic = true → publishable topic = true) ∧
    ([] ∉ levels topic.toList →
      (publishable topic = true ↔ ∃ t ∈ publishTemplates, accepts t topic = true) ∧
      (subscribable topic = true ↔ ['#'] ∉ levels topic.toList ∧
        ∃ t ∈ subscribeTemplates, accepts t topic = true ∧
          (['+'], numberLevel) ∉ (levels topic.toList).zip (levels t.toList))) := by
  refine ⟨?_, fun hne => ⟨?_, ?_⟩⟩
  · intro t ht haccepts
    exact List.any_eq_true.mpr ⟨t, ht, agree_publishLevel_of_accepts ht haccepts⟩
  · rw [publishable, List.any_eq_true]
    exact exists_congr fun t => and_congr_right fun ht => agree_publishLevel_iff ht hne
  · rw [subscribable, List.any_eq_true]
    constructor
    · rintro ⟨t, ht, hagree⟩
      obtain ⟨haccepts, hbroad⟩ := (agree_subscribeLevel_iff ht hne).mp hagree
      rw [TooBroad, not_or] at hbroad
      exact ⟨hbroad.1, t, ht, haccepts, hbroad.2⟩
    · rintro ⟨hhash, t, ht, haccepts, hnumber⟩
      exact ⟨t, ht, (agree_subscribeLevel_iff ht hne).mpr ⟨haccepts, not_or.mpr ⟨hhash, hnumber⟩⟩⟩

theorem whitelists_match_command :
    ("+/up" ∈ publishTemplates ∧ accepts "+/up" "n1/up" = true ∧ publishable "n1/up" = true) ∧
      [] ∉ levels "devices/command/n1/+".toList ∧
      subscribable "devices/command/n1/+" = true ∧
      ¬ ∃ t ∈ publishTemplates, accepts t "devices/command/n1/+" = true := by
  have hup : accepts "+/up" "n1/up" = true := by decide +kernel
  have hne : [] ∉ levels "devices/command/n1/+".toList := by decide +kernel
  have haccepts : accepts "devices/command/\x7bdevice_number\x7d/+" "devices/command/n1/+" =
      true := by decide +kernel
  obtain ⟨hpublish, hsubscribe⟩ := (whitelists_match "devices/command/n1/+").2 hne
  refine ⟨⟨by decide, hup, (whitelists_match "n1/up").1 "+/up" (by decide) hup⟩, hne, ?_, ?_⟩
  · exact hsubscribe.mpr ⟨by decide +kernel, _, by decide, haccepts, by decide +kernel⟩
  · rw [← hpublish]
    decide +kernel

/-- Where a level is empty the whitelists let in what nothing matches. -/
example : publishable "devices/event/" = true ∧
    ∀ t ∈ publishTemplates, accepts t "devices/event/" = false := by decide +kernel

end DeviceGateway.Topic
