import DeviceGateway.Proofs.Topic.Recipient
/-!
Where what devices publish meets what they may subscribe to. The platform asks something of a device
under the device's number, and devices answer in the same place under a level of their own. So such
an answer reads as if it were for a device of that name; no other topic of the two kinds is shared.
-/
namespace DeviceGateway.Topic

open Canonical

/-! ### Topics put together from levels -/

theorem intercalate_levels (topic : List Char) : ['/'].intercalate (levels topic) = topic := by
  induction topic using levels_induction with
  | single only honly => rw [levels_of_not_mem honly, List.intercalate_singleton]
  | more first rest hfirst ih =>
      rw [levels_append hfirst]
      cases hrest : levels rest with
      | nil => exact absurd hrest (levels_ne_nil rest)
      | cons level more => rw [List.intercalate_cons_cons, ← hrest, ih, List.append_assoc,
          List.singleton_append]

theorem eq_of_levels_eq {topic other : List Char} (h : levels topic = levels other) :
    topic = other := by
  rw [← intercalate_levels topic, h, intercalate_levels]

/-- A topic that follows a template begins with the levels that the template begins with, as far as
these are text. -/
theorem exists_append_of_texts {texts rest pieces : List (List Char)}
    (htexts : ∀ level ∈ texts, PlainText level)
    (h : List.Forall₂ (fun piece level => PlainText level → piece = level) pieces (texts ++ rest)) :
    ∃ last, pieces = texts ++ last ∧
      List.Forall₂ (fun piece level => PlainText level → piece = level) last rest := by
  induction texts generalizing pieces with
  | nil => exact ⟨pieces, rfl, h⟩
  | cons text texts ih =>
      cases h with
      | cons hpiece hmore =>
          obtain ⟨htext, htexts⟩ := List.forall_mem_cons.mp htexts
          obtain ⟨last, rfl, hlast⟩ := ih htexts hmore
          exact ⟨last, by rw [hpiece htext, List.cons_append], hlast⟩

/-! ### Requests and answers -/

/-- Where the platform asks something of a device, and the device answers. -/
def requestStems : List String :=
  ["devices/attributes/set", "devices/command", "gateway/attributes/set", "gateway/command"]

/-- What devices may subscribe to for the requests that are made there. -/
def requestTemplate (stem : String) : String := stem ++ "/\x7bdevice_number\x7d/+"

/-- What devices may publish to for their answers. -/
def answerTemplate (stem : String) : String := stem ++ "/response/+"

def answer (stem id : String) : String := stem ++ "/response/" ++ id

/-- The level of an answer in the place of the device's number. -/
def answerLevel : List Char := "response".toList

theorem requestTemplate_mem : ∀ stem ∈ requestStems,
    requestTemplate stem ∈ downTemplates ∧ answerTemplate stem ∈ publishTemplates ∧
      ∀ level ∈ levels stem.toList, PlainText level := by
  decide +kernel

/-- Only answers have the text of a template that devices may subscribe to. -/
theorem exists_stem_of_compatible : ∀ t ∈ publishTemplates, ∀ t' ∈ subscribeTemplates,
    Compatible t t' →
      ∃ stem ∈ requestStems, t = answerTemplate stem ∧ t' = requestTemplate stem := by
  decide +kernel

section

variable {stem id : String}

theorem levels_requestTemplate (stem : String) :
    levels (requestTemplate stem).toList = levels stem.toList ++ [numberLevel, ['+']] := by
  have htail : "/\x7bdevice_number\x7d/+".toList = '/' :: (numberLevel ++ ['/', '+']) := by decide
  have hlevels : levels (numberLevel ++ ['/', '+']) = [numberLevel, ['+']] := by decide
  rw [requestTemplate, String.toList_append, htail, levels_append_slash, hlevels]

theorem levels_answerTemplate (stem : String) :
    levels (answerTemplate stem).toList = levels stem.toList ++ [answerLevel, ['+']] := by
  have htail : "/response/+".toList = '/' :: (answerLevel ++ ['/', '+']) := by decide
  have hlevels : levels (answerLevel ++ ['/', '+']) = [answerLevel, ['+']] := by decide
  rw [answerTemplate, String.toList_append, htail, levels_append_slash, hlevels]

theorem toList_answer (stem id : String) :
    (answer stem id).toList = stem.toList ++ '/' :: (answerLevel ++ '/' :: id.toList) := by
  have hmiddle : "/response/".toList = '/' :: (answerLevel ++ ['/']) := by decide
  rw [answer, String.toList_append, String.toList_append, hmiddle, List.append_assoc,
    List.cons_append, List.append_assoc, List.singleton_append]

theorem levels_answer (hid : '/' ∉ id.toList) :
    levels (answer stem id).toList = levels stem.toList ++ [answerLevel, id.toList] := by
  rw [toList_answer, levels_append_slash, levels_append (by decide), levels_of_not_mem hid]

theorem plainText_answerLevel : PlainText answerLevel := by decide

/-- What devices publish where they answer is an answer. -/
theorem exists_eq_answer {topic : String} (hstem : stem ∈ requestStems)
    (h : Follows topic (answerTemplate stem)) :
    ∃ id, '/' ∉ id.toList ∧ topic = answer stem id := by
  obtain ⟨_, _, htexts⟩ := requestTemplate_mem stem hstem
  unfold Follows at h
  rw [levels_answerTemplate] at h
  obtain ⟨last, hlevels, hlast⟩ := exists_append_of_texts htexts h
  obtain ⟨id, rfl⟩ : ∃ id, last = [answerLevel, id] := by
    cases hlast with
    | cons hanswer hlast =>
        cases hlast with
        | cons _ hlast =>
            cases hlast
            exact ⟨_, by rw [hanswer plainText_answerLevel]⟩
  have hid : '/' ∉ id := @not_mem_of_mem_levels topic.toList id (by simp [hlevels])
  rw [← String.toList_ofList (l := id)] at hid hlevels
  refine ⟨.ofList id, hid, String.toList_inj.mp (eq_of_levels_eq ?_)⟩
  rw [hlevels, levels_answer hid]

section

variable (hstem : stem ∈ requestStems) (hid : '/' ∉ id.toList)
include hstem hid

theorem publishable_answer : publishable (answer stem id) = true := by
  obtain ⟨_, hmem, _⟩ := requestTemplate_mem stem hstem
  refine List.any_eq_true.mpr ⟨_, hmem, agree_iff.mpr ?_⟩
  rw [levels_answer hid, levels_answerTemplate]
  refine List.rel_append (List.forall₂_same.mpr fun level _ => ?_)
    (.cons (publishLevel_iff.mpr (.inr rfl)) (.cons (publishLevel_iff.mpr (.inl rfl)) .nil))
  exact publishLevel_iff.mpr (.inr rfl)

omit hstem in
theorem forall₂_answer {R : List Char → List Char → Prop}
    (htext : ∀ level ∈ levels stem.toList, R level level) (hanswer : R answerLevel numberLevel)
    (hlast : R id.toList ['+']) :
    List.Forall₂ R (levels (answer stem id).toList) (levels (requestTemplate stem).toList) := by
  rw [levels_answer hid, levels_requestTemplate]
  exact List.rel_append (List.forall₂_same.mpr htext) (.cons hanswer (.cons hlast .nil))

theorem subscribable_answer : subscribable (answer stem id) = true ↔ id ≠ "#" := by
  obtain ⟨hmem, _, htexts⟩ := requestTemplate_mem stem hstem
  constructor
  · rintro h rfl
    obtain ⟨t, ht, hgrants⟩ := List.any_eq_true.mp h
    refine not_tooBroad_of_agree ht hgrants (.inl ?_)
    rw [levels_answer hid]
    simp
  · intro hne
    refine List.any_eq_true.mpr ⟨_, downTemplates_subset _ hmem, agree_iff.mpr ?_⟩
    refine forall₂_answer hid ?_ (by decide) (subscribeLevel_wildcard.mpr ?_)
    · exact fun level hlevel => (subscribeLevel_plainText (htexts level hlevel)).mpr rfl
    · exact fun hhash => hne (String.toList_inj.mp hhash)

/-- An answer reads as if it were for a device whose number is spelled like the level of answers. -/
theorem deviceNumber?_answer :
    deviceNumber? (answer stem id) = if id = "" then none else some "response" := by
  obtain ⟨hmem, _, htexts⟩ := requestTemplate_mem stem hstem
  split
  · next hempty =>
    refine deviceNumber?_eq_none fun t ht haccepts => not_mem_nil_of_accepts ht haccepts ?_
    rw [levels_answer hid, hempty]
    exact List.mem_append_right _ (List.mem_cons_of_mem _ List.mem_cons_self)
  · next hne =>
    have husable := (subscribeTemplates_levels _ (downTemplates_subset _ hmem)).1
    have hpiece : IsPiece id.toList := ⟨fun h => hne (String.toList_eq_nil_iff.mp h), hid⟩
    refine deviceNumber?_eq_some_iff.mpr ⟨_, hmem, ?_, ?_⟩
    · refine (accepts_iff_levels husable).mpr (forall₂_answer hid ?_ ?_ ?_)
      · exact fun level hlevel => (cut_plainLevel (htexts level hlevel)).mpr rfl
      · exact (cut_freeLevel freeLevel_numberLevel).mpr (by decide)
      · exact (cut_freeLevel (.inl rfl)).mpr hpiece
    · have htext : ((levels stem.toList).zip (levels stem.toList)).lookup numberLevel = none := by
        rw [List.lookup_eq_none_iff]
        intro pair hpair
        have hlevel := (List.of_mem_zip hpair).1
        exact bne_iff_ne.mpr (htexts _ hlevel).ne_numberLevel.symm
      rw [numberAt?, levels_answer hid, levels_requestTemplate, List.zip_append rfl,
        List.lookup_append, htext]
      rfl

end

end

/-- Topics that devices publish to are apart from those that they may subscribe to and that name a
device, but for their answers. Any device may subscribe to an answer that is not a hash, and an
answer that is not empty is taken for a message to the device with the number `response`. -/
theorem publishable_apart :
    (∀ topic, publishable topic = true →
      (∀ stem ∈ requestStems, ∀ id, '/' ∉ id.toList → topic ≠ answer stem id) →
      deviceNumber? topic = none ∧ subscribable topic = false) ∧
    ∀ stem ∈ requestStems, ∀ id, '/' ∉ id.toList →
      publishable (answer stem id) = true ∧
      deviceNumber? (answer stem id) = (if id = "" then none else some "response") ∧
      (subscribable (answer stem id) = true ↔ id ≠ "#") := by
  refine ⟨?_, ?_⟩
  · intro topic hpublish hother
    obtain ⟨t, ht, hagree⟩ := List.any_eq_true.mp hpublish
    have hfollows := follows_of_publish hagree
    -- Templates that one topic follows are compatible, so the topic would be an answer.
    have hapart {t' : String} (ht' : t' ∈ subscribeTemplates) : ¬ Follows topic t' := by
      intro hfollows'
      obtain ⟨stem, hstem, rfl, _⟩ :=
        exists_stem_of_compatible t ht t' ht' (hfollows.compatible hfollows')
      obtain ⟨id, hid, heq⟩ := exists_eq_answer hstem hfollows
      exact hother stem hstem id hid heq
    constructor
    · exact deviceNumber?_eq_none fun t' ht' haccepts => hapart ht' (follows_of_accepts haccepts)
    · rw [← Bool.not_eq_true]
      intro h
      obtain ⟨t', ht', hgrants⟩ := List.any_eq_true.mp h
      exact hapart ht' (follows_of_subscribe hgrants)
  · intro stem hstem id hid
    exact ⟨publishable_answer hstem hid, deviceNumber?_answer hstem hid,
      subscribable_answer hstem hid⟩

theorem publishable_apart_event :
    publishable "devices/event/e1" = true ∧
      (∀ stem ∈ requestStems, ∀ id, '/' ∉ id.toList → "devices/event/e1" ≠ answer stem id) ∧
      deviceNumber? "devices/event/e1" = none ∧ subscribable "devices/event/e1" = false ∧
      "gateway/command" ∈ requestStems ∧ '/' ∉ "m1".toList ∧
      deviceNumber? (answer "gateway/command" "m1") = some "response" := by
  obtain ⟨hapart, hanswers⟩ := publishable_apart
  have hpublish : publishable "devices/event/e1" = true := by decide +kernel
  have hother : ∀ stem ∈ requestStems, ∀ id, '/' ∉ id.toList →
      "devices/event/e1" ≠ answer stem id := by
    intro stem hstem id hid heq
    have hstems : ∀ stem ∈ requestStems, 2 ≤ (levels stem.toList).length := by decide +kernel
    have hlong := hstems stem hstem
    have hshort : (levels "devices/event/e1".toList).length = 3 := by decide +kernel
    rw [heq, levels_answer hid, List.length_append] at hshort
    simp only [List.length_cons, List.length_nil] at hshort
    omega
  have hanswer := hanswers "gateway/command" (by decide) "m1" (by decide)
  exact ⟨hpublish, hother, (hapart _ hpublish hother).1, (hapart _ hpublish hother).2, by decide,
    by decide, hanswer.2.1⟩

/-- What a device answers to a command, any other device may subscribe to, and it is taken for a
command itself. -/
theorem command_answer_overlaps :
    publishable "devices/command/response/m1" = true ∧
      deviceNumber? "devices/command/response/m1" = some "response" ∧
      subscribable "devices/command/response/m1" = true := by
  decide +kernel

end DeviceGateway.Topic
