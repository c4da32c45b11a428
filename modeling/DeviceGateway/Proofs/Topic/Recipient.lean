import DeviceGateway.Proofs.Topic.Capture
import DeviceGateway.Proofs.Topic.Whitelist
/-!
Which device a topic is meant for. A downstream topic follows one template at most, and the number
that is read off it is its level in the place that the template has for the number. A subscription
that the whitelist grants spells this level out, so it takes in the topics of one device.
-/
namespace DeviceGateway.Topic

open Canonical

/-! ### Topics and templates of text -/

/-- A topic that has the text of a template wherever the template has text. -/
def Follows (topic template : String) : Prop :=
  List.Forall₂ (fun piece level => PlainText level → piece = level) (levels topic.toList)
    (levels template.toList)

/-- Templates that have the same text wherever both have text. -/
def Compatible (template other : String) : Prop :=
  List.Forall₂ (fun level l => PlainText level → PlainText l → level = l) (levels template.toList)
    (levels other.toList)

instance (template other : String) : Decidable (Compatible template other) := by
  unfold Compatible
  infer_instance

/-- What a filter takes in: a wildcard stands for any level, and every other level for itself. -/
def Covers (filter topic : String) : Prop :=
  List.Forall₂ (fun level piece => level = ['+'] ∨ level = piece) (levels filter.toList)
    (levels topic.toList)

instance (filter topic : String) : Decidable (Covers filter topic) := by
  unfold Covers
  infer_instance

theorem forall₂_of_common {α β γ : Type} {R : α → β → Prop} {S : α → γ → Prop} {as : List α}
    {bs : List β} {cs : List γ} (h : List.Forall₂ R as bs) (h' : List.Forall₂ S as cs) :
    List.Forall₂ (fun b c => ∃ a, R a b ∧ S a c) bs cs := by
  induction h generalizing cs with
  | nil =>
      cases h'
      exact .nil
  | cons hab _ ih =>
      cases h' with
      | cons hac hrest => exact .cons ⟨_, hab, hac⟩ (ih hrest)

section

variable {topic template other filter : String}

theorem follows_of_accepts (h : accepts template topic = true) : Follows topic template := by
  refine List.Forall₂.imp ?_ ((accepts_iff_levels (accepts_iff.mp h).1).mp h)
  intro piece level hcut hplain
  exact (cut_plainLevel hplain).mp hcut

theorem follows_of_publish (h : agree publishLevel topic template = true) :
    Follows topic template := by
  refine List.Forall₂.imp ?_ (agree_iff.mp h)
  intro piece level hlet hplain
  exact (publishLevel_iff.mp hlet).resolve_left hplain.ne_wildcard

theorem follows_of_subscribe (h : agree subscribeLevel topic template = true) :
    Follows topic template := by
  refine List.Forall₂.imp ?_ (agree_iff.mp h)
  intro piece level hlet hplain
  exact (subscribeLevel_plainText hplain).mp hlet

theorem Follows.compatible (h : Follows topic template) (h' : Follows topic other) :
    Compatible template other := by
  refine List.Forall₂.imp ?_ (forall₂_of_common h h')
  rintro level l ⟨piece, hlevel, hl⟩ hplain hplain'
  exact (hlevel hplain).symm.trans (hl hplain')

/-- What a filter takes in follows the templates that the filter follows. -/
theorem Follows.covered (h : Follows filter template) (hcovers : Covers filter topic) :
    Follows topic template := by
  refine List.Forall₂.imp ?_ (forall₂_of_common hcovers h)
  rintro piece level ⟨l, hl, hlevel⟩ hplain
  obtain rfl := hlevel hplain
  exact (hl.resolve_left hplain.ne_wildcard).symm

end

/-! ### The place of the number -/

/-- The level of a topic in the place that a template has for the device's number. -/
def numberAt? (template topic : String) : Option (List Char) :=
  ((levels template.toList).zip (levels topic.toList)).lookup numberLevel

/-- A level that is looked up stands beside one of any list that goes with the list of levels. -/
theorem lookup_zip_related {R : List Char → List Char → Prop} {ks xs ys : List (List Char)}
    {k y : List Char} (h : List.Forall₂ R xs ys) (hy : (ks.zip ys).lookup k = some y) :
    ∃ x, (ks.zip xs).lookup k = some x ∧ R x y := by
  induction h generalizing ks with
  | nil => simp at hy
  | cons hxy _ ih =>
      cases ks with
      | nil => simp at hy
      | cons l ks =>
          rw [List.zip_cons_cons, List.lookup_cons] at hy ⊢
          cases hk : k == l with
          | true =>
              rw [hk] at hy
              cases hy
              exact ⟨_, rfl, hxy⟩
          | false =>
              rw [hk] at hy
              exact ih hy

theorem mem_zip_of_lookup {ks xs : List (List Char)} {k x : List Char}
    (h : (ks.zip xs).lookup k = some x) : (k, x) ∈ ks.zip xs := by
  obtain ⟨before, after, hzip, _⟩ := List.lookup_eq_some_iff.mp h
  rw [hzip]
  exact List.mem_append_right _ List.mem_cons_self

theorem reads_prepend {c : Char} {ts : List Token} {topic number : List Char}
    (h : Reads (prepend c ts) topic number) : ∃ rest, topic = c :: rest ∧ Reads ts rest number := by
  obtain ⟨pieces, rfl, hfits, rfl⟩ := h
  unfold prepend at hfits ⊢
  split at hfits
  · cases hfits with
    | cons hpiece hrest =>
        cases hpiece
        exact ⟨_, rfl, _ :: _, rfl, .cons rfl hrest, rfl⟩
  · cases hfits with
    | cons hpiece hrest =>
        cases hpiece
        exact ⟨_, rfl, _, rfl, hrest, rfl⟩

theorem reads_plainText {text : List Char} (h : PlainText text) {rest topic number : List Char}
    (hreads : Reads (tokensFrom 0 (text ++ rest)) topic number) :
    ∃ last, topic = text ++ last ∧ Reads (tokensFrom 0 rest) last number := by
  induction text generalizing topic with
  | nil => exact ⟨topic, rfl, hreads⟩
  | cons c text ih =>
      obtain ⟨hc, htext⟩ := h.cons
      rw [List.cons_append, tokensFrom_plain (hc _)] at hreads
      obtain ⟨_, rfl, hmore⟩ := reads_prepend hreads
      obtain ⟨last, rfl, hlast⟩ := ih htext hmore
      exact ⟨last, rfl, hlast⟩

theorem reads_numberLevel {rest topic number : List Char}
    (h : Reads (tokensFrom 0 (numberLevel ++ rest)) topic number) :
    IsPiece number ∧ ∃ last, topic = number ++ last ∧ Cut (tokensFrom 0 rest) last := by
  have hname : IsName deviceNumber.toList := ⟨by decide, List.all_eq_true.mp (by decide)⟩
  have htokens : tokensFrom 0 (numberLevel ++ rest) =
      .variable deviceNumber.toList :: tokensFrom 0 rest := tokensFrom_variable hname rest
  rw [htokens] at h
  obtain ⟨pieces, rfl, hfits, rfl⟩ := h
  cases hfits with
  | @cons _ piece _ pieces hpiece hrest =>
      have hread : Pattern.captured (.variable deviceNumber.toList :: tokensFrom 0 rest)
          (piece :: pieces) = piece := if_pos rfl
      rw [hread]
      exact ⟨hpiece, _, rfl, cut_iff_pieces.mpr ⟨_, rfl, hrest⟩⟩

/-- If the first level of a template that is not text is the number, what is read off a topic is the
level in its place. -/
theorem Reads.lookup {template topic number : List Char}
    (hfirst : (levels template).find? (¬ PlainText ·) = some numberLevel)
    (h : Reads (tokensFrom 0 template) topic number) :
    ((levels template).zip (levels topic)).lookup numberLevel = some number := by
  induction template using levels_induction generalizing topic with
  | single only honly =>
      rw [levels_of_not_mem honly] at hfirst ⊢
      obtain rfl : numberLevel = only := List.mem_singleton.mp (List.mem_of_find?_eq_some hfirst)
      rw [← List.append_nil numberLevel] at h
      obtain ⟨⟨_, hslash⟩, last, rfl, hlast⟩ := reads_numberLevel h
      rw [cut_nil.mp hlast, List.append_nil, levels_of_not_mem hslash]
      rfl
  | more first rest hslash ih =>
      rw [levels_append hslash] at hfirst ⊢
      -- Text is the same in the template and the topic; the first level that is none is the number.
      by_cases hplain : PlainText first
      · rw [List.find?_cons_of_neg (by simpa using hplain)] at hfirst
        obtain ⟨_, rfl, hmore⟩ := reads_plainText hplain h
        rw [tokensFrom_plain (isPlain_slash rest)] at hmore
        obtain ⟨last, rfl, hlast⟩ := reads_prepend hmore
        have hne : (numberLevel == first) = false :=
          beq_eq_false_iff_ne.mpr hplain.ne_numberLevel.symm
        rw [levels_append hslash, List.zip_cons_cons, List.lookup_cons, hne]
        exact ih hfirst hlast
      · rw [List.find?_cons_of_pos (by simpa using hplain)] at hfirst
        obtain rfl := Option.some.inj hfirst
        obtain ⟨⟨_, hnumber⟩, _, rfl, hmore⟩ := reads_numberLevel h
        rw [tokensFrom_plain (isPlain_slash rest)] at hmore
        obtain ⟨last, rfl, _⟩ := cut_prepend.mp hmore
        rw [levels_append hnumber, List.zip_cons_cons, List.lookup_cons_self]

/-! ### Downstream templates -/

theorem downTemplates_subset : ∀ t ∈ downTemplates, t ∈ subscribeTemplates :=
  fun _ ht => (List.mem_filter.mp ht).1

theorem downTemplates_lead : ∀ t ∈ downTemplates,
    (levels t.toList).find? (¬ PlainText ·) = some numberLevel := by
  decide +kernel

/-- A downstream template has the text of no other that may be subscribed to. -/
theorem eq_of_compatible : ∀ t ∈ subscribeTemplates, ∀ t' ∈ downTemplates, Compatible t t' →
    t = t' := by
  decide +kernel

section

variable {topic template other number : String}

/-- A topic follows one downstream template at most. -/
theorem eq_of_accepts (ht : template ∈ downTemplates) (ht' : other ∈ downTemplates)
    (h : accepts template topic = true) (h' : accepts other topic = true) : template = other :=
  eq_of_compatible template (downTemplates_subset template ht) other ht'
    ((follows_of_accepts h).compatible (follows_of_accepts h'))

theorem numberAt?_of_extract? (ht : template ∈ downTemplates)
    (h : extract? template topic = some number) :
    numberAt? template topic = some number.toList :=
  (reads_of_extract? h).lookup (downTemplates_lead template ht)

theorem isPiece_of_numberAt? {piece : List Char} (h : accepts template topic = true)
    (hpiece : numberAt? template topic = some piece) : IsPiece piece := by
  have hlevels := ((accepts_iff_levels (accepts_iff.mp h).1).mp h).flip
  exact (cut_freeLevel freeLevel_numberLevel).mp
    (List.forall₂_zip hlevels (mem_zip_of_lookup hpiece))

end

/-- The number that some templates read off a topic, the first that is not empty. -/
def firstNumber? (templates : List String) (topic : String) : Option String :=
  (templates.filterMap fun t => extract? t topic).find? fun n => !n.isEmpty

theorem firstNumber?_eq_some_iff {templates : List String}
    (hts : ∀ t ∈ templates, t ∈ downTemplates) {topic number : String} :
    firstNumber? templates topic = some number ↔
      ∃ t ∈ templates, accepts t topic = true ∧ numberAt? t topic = some number.toList := by
  have hsound {n : String} (h : firstNumber? templates topic = some n) :
      ∃ t ∈ templates, accepts t topic = true ∧ numberAt? t topic = some n.toList := by
    obtain ⟨t, ht, hread⟩ := List.mem_filterMap.mp (List.mem_of_find?_eq_some h)
    refine ⟨t, ht, ?_, numberAt?_of_extract? (hts t ht) hread⟩
    rw [← isSome_extract?, hread]
    rfl
  refine ⟨hsound, ?_⟩
  rintro ⟨t, ht, haccepts, hnumber⟩
  -- Something is read off the topic, by this template and so by no other.
  have hsome : (firstNumber? templates topic).isSome = true := by
    have hread := isSome_extract? t topic
    rw [haccepts, Option.isSome_iff_exists] at hread
    obtain ⟨n, hn⟩ := hread
    refine List.find?_isSome.mpr ⟨n, List.mem_filterMap.mpr ⟨t, ht, hn⟩, ?_⟩
    have hne := (isPiece_of_numberAt? haccepts (numberAt?_of_extract? (hts t ht) hn)).1
    simpa [String.toList_eq_nil_iff] using hne
  obtain ⟨n, hn⟩ := Option.isSome_iff_exists.mp hsome
  obtain ⟨t', ht', haccepts', hnumber'⟩ := hsound hn
  obtain rfl := eq_of_accepts (hts t ht) (hts t' ht') haccepts haccepts'
  rw [hn, String.toList_inj.mp (Option.some.inj (hnumber'.symm.trans hnumber))]

/-- The number of a topic is its level in the place that a downstream template has for it. -/
theorem deviceNumber?_eq_some_iff {topic number : String} :
    deviceNumber? topic = some number ↔
      ∃ t ∈ downTemplates, accepts t topic = true ∧ numberAt? t topic = some number.toList :=
  firstNumber?_eq_some_iff fun _ ht => ht

theorem deviceNumber?_eq_none {topic : String}
    (h : ∀ t ∈ subscribeTemplates, ¬ accepts t topic = true) : deviceNumber? topic = none := by
  rw [Option.eq_none_iff_forall_ne_some]
  intro number hnumber
  obtain ⟨t, ht, haccepts, _⟩ := deviceNumber?_eq_some_iff.mp hnumber
  exact h t (downTemplates_subset t ht) haccepts

/-- The number of a topic that a granted filter takes in is spelled out in the filter. -/
theorem numberAt?_of_covers {filter topic template number : String}
    (ht : template ∈ subscribeTemplates) (hgrants : agree subscribeLevel filter template = true)
    (hcovers : Covers filter topic) (h : deviceNumber? topic = some number) :
    numberAt? template filter = some number.toList := by
  obtain ⟨t, ht', haccepts, hnumber⟩ := deviceNumber?_eq_some_iff.mp h
  have hfollows := (follows_of_subscribe hgrants).covered hcovers
  obtain rfl := eq_of_compatible template ht t ht'
    (hfollows.compatible (follows_of_accepts haccepts))
  obtain ⟨level, hlevel, hpiece⟩ := lookup_zip_related hcovers hnumber
  refine hlevel.trans (congrArg some (hpiece.resolve_left ?_))
  rintro rfl
  -- A wildcard in the place of the number is not granted.
  have hlet := List.forall₂_zip (agree_iff.mp hgrants).flip (mem_zip_of_lookup hlevel)
  simp [subscribeLevel] at hlet

/-- Of all the topics that a granted filter takes in, those that are meant for a device are meant
for one and the same. A topic matches one downstream template at most, so it does not matter in
which order the templates are tried. -/
theorem subscription_recipient :
    (∀ filter topic topic' number number', subscribable filter = true → Covers filter topic →
      Covers filter topic' → deviceNumber? topic = some number →
      deviceNumber? topic' = some number' → number = number') ∧
    (∀ topic, ∀ t ∈ downTemplates, ∀ t' ∈ downTemplates, accepts t topic = true →
      accepts t' topic = true → t = t') ∧
    ∀ topic templates, templates.Perm downTemplates →
      firstNumber? templates topic = deviceNumber? topic := by
  refine ⟨?_, ?_, ?_⟩
  · intro filter topic topic' number number' hgranted hcovers hcovers' hnumber hnumber'
    obtain ⟨t, ht, hgrants⟩ := List.any_eq_true.mp hgranted
    have hlevel := numberAt?_of_covers ht hgrants hcovers hnumber
    have hlevel' := numberAt?_of_covers ht hgrants hcovers' hnumber'
    exact String.toList_inj.mp (Option.some.inj (hlevel.symm.trans hlevel'))
  · intro topic t ht t' ht' haccepts haccepts'
    exact eq_of_accepts ht ht' haccepts haccepts'
  · intro topic templates hperm
    refine Option.ext fun number => ?_
    rw [firstNumber?_eq_some_iff fun t => hperm.mem_iff.mp, deviceNumber?_eq_some_iff]
    exact exists_congr fun t => and_congr_left fun _ => hperm.mem_iff

theorem subscription_recipient_command :
    subscribable "devices/command/n1/+" = true ∧
      Covers "devices/command/n1/+" "devices/command/n1/set" ∧
      Covers "devices/command/n1/+" "devices/command/n1/+" ∧
      deviceNumber? "devices/command/n1/set" = some "n1" ∧
      deviceNumber? "devices/command/n1/+" = some "n1" ∧
      (∀ t ∈ downTemplates, accepts t "devices/command/n1/set" = true →
        "devices/command/\x7bdevice_number\x7d/+" = t) ∧
      firstNumber? downTemplates.reverse "devices/command/n1/set" = some "n1" := by
  obtain ⟨hone, hmatch, horder⟩ := subscription_recipient
  have hgranted : subscribable "devices/command/n1/+" = true := by decide +kernel
  have hset : Covers "devices/command/n1/+" "devices/command/n1/set" := by decide +kernel
  have hself : Covers "devices/command/n1/+" "devices/command/n1/+" := by decide +kernel
  have hnumber : deviceNumber? "devices/command/n1/set" = some "n1" := by decide +kernel
  have hread : (deviceNumber? "devices/command/n1/+").isSome = true := by decide +kernel
  obtain ⟨number, hnumber'⟩ := Option.isSome_iff_exists.mp hread
  obtain rfl := hone _ _ _ _ _ hgranted hset hself hnumber hnumber'
  have haccepts : accepts "devices/command/\x7bdevice_number\x7d/+" "devices/command/n1/set" =
      true := by decide +kernel
  exact ⟨hgranted, hset, hself, hnumber, hnumber',
    fun t ht => hmatch _ _ (by decide +kernel) t ht haccepts,
    (horder _ _ (List.reverse_perm _)).trans hnumber⟩

end DeviceGateway.Topic
