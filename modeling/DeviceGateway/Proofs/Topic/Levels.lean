import DeviceGateway.Proofs.Topic.Match
import DeviceGateway.Topic.Canonical
import Mathlib.Data.List.Forall2
/-!
Topics level by level. No token reaches across a slash, so a template matches a topic when both have
equally many levels and each level of the template matches the one in its place.
-/
namespace DeviceGateway.Topic

open Canonical (levels numberLevel)

theorem levels_of_not_mem {level : List Char} (h : '/' ∉ level) : levels level = [level] := by
  induction level with
  | nil => rfl
  | cons c rest ih =>
      rw [List.mem_cons, not_or] at h
      rw [levels, if_neg fun hc => h.1 hc.symm, ih h.2]

theorem levels_append {level : List Char} (h : '/' ∉ level) (rest : List Char) :
    levels (level ++ '/' :: rest) = level :: levels rest := by
  induction level with
  | nil => simp [levels]
  | cons c more ih =>
      rw [List.mem_cons, not_or] at h
      rw [List.cons_append, levels, if_neg fun hc => h.1 hc.symm, ih h.2]

theorem length_levels_pos (topic : List Char) : 0 < (levels topic).length :=
  List.length_pos_iff.mpr (Canonical.levels_ne_nil topic)

theorem levels_induction {motive : List Char → Prop}
    (single : ∀ level, '/' ∉ level → motive level)
    (more : ∀ level rest, '/' ∉ level → motive rest → motive (level ++ '/' :: rest))
    (topic : List Char) : motive topic := by
  induction hn : topic.length using Nat.strongRecOn generalizing topic with
  | ind n ih =>
      subst hn
      by_cases h : '/' ∈ topic
      · obtain ⟨level, rest, rfl, hlevel⟩ := List.eq_append_cons_of_mem h
        refine more level rest hlevel (ih rest.length ?_ rest rfl)
        simp only [List.length_append, List.length_cons]
        omega
      · exact single topic h

theorem levels_append_slash (topic rest : List Char) :
    levels (topic ++ '/' :: rest) = levels topic ++ levels rest := by
  induction topic using levels_induction with
  | single only honly => rw [levels_append honly, levels_of_not_mem honly, List.singleton_append]
  | more first more hfirst ih =>
      rw [List.append_assoc, List.cons_append, levels_append hfirst, levels_append hfirst, ih,
        List.cons_append]

theorem mem_of_mem_levels {topic level : List Char} (h : level ∈ levels topic) {c : Char}
    (hc : c ∈ level) : c ∈ topic := by
  induction topic using levels_induction with
  | single only honly =>
      rw [levels_of_not_mem honly, List.mem_singleton] at h
      exact h ▸ hc
  | more first rest hfirst ih =>
      rw [levels_append hfirst, List.mem_cons] at h
      rcases h with rfl | h
      · exact List.mem_append_left _ hc
      · exact List.mem_append_right _ (List.mem_cons_of_mem _ (ih h))

theorem cut_append {ts us : List Token} {topic : List Char} :
    Cut (ts ++ us) topic ↔ ∃ first rest, topic = first ++ rest ∧ Cut ts first ∧ Cut us rest := by
  induction ts generalizing topic with
  | nil => simp
  | cons t ts ih =>
      rw [List.cons_append, cut_cons]
      constructor
      · rintro ⟨piece, rest, rfl, hpiece, hrest⟩
        obtain ⟨first, last, rfl, hfirst, hlast⟩ := ih.mp hrest
        exact ⟨piece ++ first, last, (List.append_assoc _ _ _).symm, .cons hpiece hfirst, hlast⟩
      · rintro ⟨first, last, rfl, hfirst, hlast⟩
        obtain ⟨piece, rest, rfl, hpiece, hrest⟩ := cut_cons.mp hfirst
        exact ⟨piece, rest ++ last, List.append_assoc _ _ _, hpiece,
          ih.mpr ⟨rest, last, rfl, hrest, hlast⟩⟩

/-- A plain character may as well be a token of its own. -/
theorem cut_prepend {c : Char} {ts : List Token} {topic : List Char} :
    Cut (prepend c ts) topic ↔ ∃ rest, topic = c :: rest ∧ Cut ts rest := by
  unfold prepend
  split
  · simp only [cut_cons, Token.Fits]
    constructor
    · rintro ⟨_, rest, rfl, rfl, hrest⟩
      exact ⟨_, rfl, _, rest, rfl, rfl, hrest⟩
    · rintro ⟨_, rfl, _, rest, rfl, rfl, hrest⟩
      exact ⟨_, rest, rfl, rfl, hrest⟩
  · simp only [cut_cons, Token.Fits]
    constructor
    · rintro ⟨_, rest, rfl, rfl, hrest⟩
      exact ⟨rest, rfl, hrest⟩
    · rintro ⟨rest, rfl, hrest⟩
      exact ⟨[c], rest, rfl, rfl, hrest⟩

/-- What is plain stays plain before a slash: a slash is no part of a variable. -/
theorem IsPlain.append_slash {c : Char} {level : List Char} (h : IsPlain c level)
    (rest : List Char) : IsPlain c (level ++ '/' :: rest) := by
  refine ⟨h.1, fun hc => ?_⟩
  cases hname : variableName? (level ++ '/' :: rest) with
  | none => rfl
  | some name =>
      obtain ⟨hn, more, heq⟩ := eq_of_variableName? hname
      have hslash : '/' ∉ name := hn.not_mem (by decide)
      rcases List.append_eq_append_iff.mp heq with ⟨tail, rfl, htail⟩ | ⟨tail, rfl, htail⟩
      · cases tail with
        | nil => cases htail
        | cons d tail =>
            injection htail with hd
            subst hd
            exact absurd (List.mem_append_right _ List.mem_cons_self) hslash
      · cases tail with
        | nil => cases htail
        | cons d tail =>
            injection htail with hd
            subst hd
            have hnone := h.2 hc
            rw [variableName?_append hn tail] at hnone
            cases hnone

theorem isPlain_slash (rest : List Char) : IsPlain '/' rest :=
  ⟨by decide, fun h => absurd h (by decide)⟩

/-- The tokens before a slash and those after it are cut apart. -/
theorem cut_slash {level : List Char} (h : '/' ∉ level) (rest topic : List Char) :
    Cut (tokensFrom 0 (level ++ '/' :: rest)) topic ↔
      Cut (tokensFrom 0 level ++ .literal ['/'] :: tokensFrom 0 rest) topic := by
  induction level using template_induction generalizing topic with
  | nil =>
      rw [List.nil_append, tokensFrom_plain (isPlain_slash rest), cut_prepend, tokensFrom_nil,
        List.nil_append, cut_cons]
      constructor
      · rintro ⟨left, rfl, hleft⟩
        exact ⟨['/'], left, rfl, rfl, hleft⟩
      · rintro ⟨_, left, rfl, rfl, hleft⟩
        exact ⟨left, rfl, hleft⟩
  | wildcard more ih =>
      have hmore : '/' ∉ more := fun hm => h (List.mem_cons_of_mem _ hm)
      simp only [List.cons_append, tokensFrom_wildcard, cut_cons, ih hmore]
  | named name more hname ih =>
      have hmore : '/' ∉ more := fun hm => h (by simp [hm])
      simp only [List.cons_append, List.append_assoc, tokensFrom_variable hname, cut_cons, ih hmore]
  | plain c more hc ih =>
      have hmore : '/' ∉ more := fun hm => h (List.mem_cons_of_mem _ hm)
      rw [List.cons_append, tokensFrom_plain (hc.append_slash rest), tokensFrom_plain hc,
        cut_prepend, cut_append]
      simp only [cut_prepend, ih hmore, cut_append]
      constructor
      · rintro ⟨_, rfl, first, last, rfl, hfirst, hlast⟩
        exact ⟨c :: first, last, rfl, ⟨first, rfl, hfirst⟩, hlast⟩
      · rintro ⟨_, last, rfl, ⟨first, rfl, hfirst⟩, hlast⟩
        exact ⟨first ++ last, rfl, first, last, rfl, hfirst, hlast⟩

theorem cut_levels {level : List Char} (h : '/' ∉ level) {rest topic : List Char} :
    Cut (tokensFrom 0 (level ++ '/' :: rest)) topic ↔ ∃ first last, topic = first ++ '/' :: last ∧
      Cut (tokensFrom 0 level) first ∧ Cut (tokensFrom 0 rest) last := by
  rw [cut_slash h, cut_append]
  simp only [cut_cons, Token.Fits]
  constructor
  · rintro ⟨first, _, rfl, hfirst, _, last, rfl, rfl, hlast⟩
    exact ⟨first, last, rfl, hfirst, hlast⟩
  · rintro ⟨first, last, rfl, hfirst, hlast⟩
    exact ⟨first, '/' :: last, rfl, hfirst, ['/'], last, rfl, rfl, hlast⟩

/-- What a single level matches is a single level. -/
theorem not_mem_of_cut {level topic : List Char} (h : '/' ∉ level)
    (hcut : Cut (tokensFrom 0 level) topic) : '/' ∉ topic := by
  induction level using template_induction generalizing topic with
  | nil =>
      rw [cut_nil.mp hcut]
      exact List.not_mem_nil
  | wildcard more ih =>
      rw [tokensFrom_wildcard] at hcut
      obtain ⟨piece, rest, rfl, hpiece, hrest⟩ := cut_cons.mp hcut
      rw [List.mem_append, not_or]
      exact ⟨hpiece.2, ih (fun hm => h (List.mem_cons_of_mem _ hm)) hrest⟩
  | named name more hname ih =>
      rw [tokensFrom_variable hname] at hcut
      obtain ⟨piece, rest, rfl, hpiece, hrest⟩ := cut_cons.mp hcut
      rw [List.mem_append, not_or]
      exact ⟨hpiece.2, ih (fun hm => h (by simp [hm])) hrest⟩
  | plain c more hc ih =>
      rw [tokensFrom_plain hc] at hcut
      obtain ⟨rest, rfl, hrest⟩ := cut_prepend.mp hcut
      rw [List.mem_cons, not_or] at h ⊢
      exact ⟨h.1, ih h.2 hrest⟩

/-- A template matches a topic level by level. -/
theorem cut_iff_levels {template topic : List Char} :
    Cut (tokensFrom 0 template) topic ↔
      List.Forall₂ (fun level piece => Cut (tokensFrom 0 level) piece) (levels template)
        (levels topic) := by
  induction template using levels_induction generalizing topic with
  | single level hlevel =>
      rw [levels_of_not_mem hlevel]
      constructor
      · intro hcut
        rw [levels_of_not_mem (not_mem_of_cut hlevel hcut)]
        exact .cons hcut .nil
      · intro hforall
        by_cases hslash : '/' ∈ topic
        · obtain ⟨first, rest, rfl, hfirst⟩ := List.eq_append_cons_of_mem hslash
          rw [levels_append hfirst] at hforall
          have hlength := hforall.length_eq
          have hpos := length_levels_pos rest
          simp only [List.length_cons, List.length_nil] at hlength
          omega
        · rw [levels_of_not_mem hslash] at hforall
          cases hforall with
          | cons hcut _ => exact hcut
  | more level rest hlevel ih =>
      rw [levels_append hlevel, cut_levels hlevel]
      constructor
      · rintro ⟨first, last, rfl, hfirst, hlast⟩
        rw [levels_append (not_mem_of_cut hlevel hfirst)]
        exact .cons hfirst (ih.mp hlast)
      · intro hforall
        by_cases hslash : '/' ∈ topic
        · obtain ⟨first, last, rfl, hfirst⟩ := List.eq_append_cons_of_mem hslash
          rw [levels_append hfirst] at hforall
          cases hforall with
          | cons hcut hmore => exact ⟨first, last, rfl, hcut, ih.mpr hmore⟩
        · rw [levels_of_not_mem hslash] at hforall
          have hlength := hforall.length_eq
          have hpos := length_levels_pos rest
          simp only [List.length_cons, List.length_nil] at hlength
          omega

end DeviceGateway.Topic
