import DeviceGateway.Proofs.Mapping.Snapshot
import DeviceGateway.Proofs.Topic.Match
/-!
Which rule takes a message of a device up to the platform. The rules of the store are filtered,
sorted and searched; what comes out is the rule of the least priority that the message may go by,
and of several with that priority the one that was stored first.
-/
namespace DeviceGateway.Mapping

/-- A rule of those that `P` holds of, at its position: it has the least priority, and of several
with that priority it stands first. -/
structure Foremost (P : Rule → Prop) (rules : List Rule) (i : Nat) (r : Rule) : Prop where
  stands : rules[i]? = some r
  taken : P r
  least : ∀ j s, rules[j]? = some s → P s →
    r.priority.toInt < s.priority.toInt ∨ (r.priority.toInt = s.priority.toInt ∧ i ≤ j)

section

variable {P Q : Rule → Prop} {rules rest : List Rule} {i j : Nat} {r s first : Rule}

instance [DecidablePred P] : Decidable (Foremost P rules i r) :=
  decidable_of_iff
    (rules[i]? = some r ∧ P r ∧ ∀ x ∈ rules.zipIdx, P x.1 →
      r.priority.toInt < x.1.priority.toInt ∨
        (r.priority.toInt = x.1.priority.toInt ∧ i ≤ x.2))
    ⟨fun h => ⟨h.1, h.2.1, fun j s hj => h.2.2 (s, j) (List.mk_mem_zipIdx_iff_getElem?.mpr hj)⟩,
      fun h => ⟨h.stands, h.taken, fun x hx =>
        h.least x.2 x.1 (List.mem_zipIdx_iff_getElem?.mp hx)⟩⟩

theorem Foremost.mem (h : Foremost P rules i r) : r ∈ rules := List.mem_of_getElem? h.stands

theorem Foremost.le (h : Foremost P rules i r) (hs : s ∈ rules) (hP : P s) :
    r.priority.toInt ≤ s.priority.toInt := by
  obtain ⟨j, hj⟩ := List.mem_iff_getElem?.mp hs
  rcases h.least j s hj hP with hlt | ⟨heq, _⟩
  · exact Int.le_of_lt hlt
  · exact Int.le_of_eq heq

theorem Foremost.unique (h : Foremost P rules i r) (h' : Foremost P rules j s) : r = s := by
  have hij : i = j := by
    have hle := h.le h'.mem h'.taken
    have hle' := h'.le h.mem h.taken
    rcases h.least j s h'.stands h'.taken with hlt | ⟨_, hij⟩
    · omega
    · rcases h'.least i r h.stands h.taken with hlt | ⟨_, hji⟩
      · omega
      · omega
  subst hij
  exact Option.some.inj (h.stands.symm.trans h'.stands)

theorem Foremost.head (hP : P first)
    (hle : ∀ s ∈ rest, P s → first.priority.toInt ≤ s.priority.toInt) :
    Foremost P (first :: rest) 0 first where
  stands := rfl
  taken := hP
  least := by
    intro j s hj hs
    cases j with
    | zero =>
        cases hj
        exact .inr ⟨rfl, Nat.le_refl 0⟩
    | succ j =>
        rcases Int.lt_or_eq_of_le (hle s (List.mem_of_getElem? hj) hs) with hlt | heq
        · exact .inl hlt
        · exact .inr ⟨heq, Nat.zero_le _⟩

theorem Foremost.later (h : Foremost P rest i r)
    (hlt : P first → r.priority.toInt < first.priority.toInt) :
    Foremost P (first :: rest) (i + 1) r where
  stands := h.stands
  taken := h.taken
  least := by
    intro j s hj hs
    cases j with
    | zero =>
        cases hj
        exact .inl (hlt hs)
    | succ j =>
        rcases h.least j s hj hs with hless | ⟨heq, hij⟩
        · exact .inl hless
        · exact .inr ⟨heq, Nat.succ_le_succ hij⟩

theorem Foremost.of_later (h : Foremost P (first :: rest) (i + 1) r) :
    Foremost P rest i r ∧ (P first → r.priority.toInt < first.priority.toInt) := by
  refine ⟨⟨h.stands, h.taken, ?_⟩, ?_⟩
  · intro j s hj hs
    rcases h.least (j + 1) s hj hs with hless | ⟨heq, hij⟩
    · exact .inl hless
    · exact .inr ⟨heq, Nat.le_of_succ_le_succ hij⟩
  · intro hfirst
    rcases h.least 0 first rfl hfirst with hlt | ⟨_, hle⟩
    · exact hlt
    · exact absurd hle (Nat.not_succ_le_zero i)

/-- Rules that cannot be taken make no difference to which rule is foremost. -/
theorem Foremost.filter [DecidablePred P] (h : Foremost P rules i r) :
    ∃ k, Foremost P (rules.filter P) k r := by
  induction rules generalizing i with
  | nil => exact absurd h.mem List.not_mem_nil
  | cons first rest ih =>
      cases i with
      | zero =>
          have heq : first = r := Option.some.inj h.stands
          subst heq
          rw [List.filter_cons_of_pos (p := fun s => decide (P s)) (decide_eq_true h.taken)]
          refine ⟨0, .head h.taken ?_⟩
          intro s hs hP
          exact h.le (List.mem_cons_of_mem _ (List.mem_filter.mp hs).1) hP
      | succ i =>
          obtain ⟨hrest, hlt⟩ := h.of_later
          obtain ⟨k, hk⟩ := ih hrest
          by_cases hfirst : P first
          · rw [List.filter_cons_of_pos (p := fun s => decide (P s)) (decide_eq_true hfirst)]
            exact ⟨k + 1, hk.later hlt⟩
          · rw [List.filter_cons_of_neg (by simpa using hfirst)]
            exact ⟨k, hk⟩

/-- One rule is foremost of two lists that have the same rules to take, in the same order. -/
theorem Foremost.eq_of_filter_eq [DecidablePred P] {rules' : List Rule} (h : Foremost P rules i r)
    (h' : Foremost P rules' j s) (heq : rules'.filter P = rules.filter P) : r = s := by
  obtain ⟨k, hk⟩ := h.filter
  obtain ⟨l, hl⟩ := h'.filter
  rw [heq] at hl
  exact hk.unique hl

/-- Where no two rules to take have one priority, their order makes no difference. -/
theorem Foremost.eq_of_perm [DecidablePred P] {rules' : List Rule} (h : Foremost P rules i r)
    (h' : Foremost P rules' j s) (hperm : (rules'.filter P).Perm (rules.filter P))
    (hnodup : ((rules.filter P).map (·.priority)).Nodup) : r = s := by
  have hr : r ∈ rules.filter P := List.mem_filter.mpr ⟨h.mem, decide_eq_true h.taken⟩
  have hs : s ∈ rules'.filter P := List.mem_filter.mpr ⟨h'.mem, decide_eq_true h'.taken⟩
  have hle := h.le (List.mem_filter.mp (hperm.mem_iff.mp hs)).1 h'.taken
  have hle' := h'.le (List.mem_filter.mp (hperm.mem_iff.mpr hr)).1 h.taken
  have hpriority : r.priority = s.priority := Int32.toInt_inj.mp (Int.le_antisymm hle hle')
  exact List.inj_on_of_nodup_map hnodup hr (hperm.mem_iff.mp hs) hpriority

end

section

/-- Sorting leaves the first rule behind those of less priority, and before all others. -/
theorem byPriority_cons (first : Rule) (rest : List Rule) :
    ∃ before after, byPriority (first :: rest) = before ++ first :: after ∧
      byPriority rest = before ++ after ∧
      (∀ s ∈ before, s.priority.toInt < first.priority.toInt) ∧
      ∀ s ∈ after, first.priority.toInt ≤ s.priority.toInt := by
  have htrans (a b c : Rule) (hab : decide (a.priority.toInt ≤ b.priority.toInt) = true)
      (hbc : decide (b.priority.toInt ≤ c.priority.toInt) = true) :
      decide (a.priority.toInt ≤ c.priority.toInt) = true :=
    decide_eq_true (Int.le_trans (of_decide_eq_true hab) (of_decide_eq_true hbc))
  have htotal (a b : Rule) :
      (decide (a.priority.toInt ≤ b.priority.toInt) || b.priority.toInt ≤ a.priority.toInt) =
        true := by
    rw [Bool.or_eq_true, decide_eq_true_eq, decide_eq_true_eq]
    exact Int.le_total _ _
  obtain ⟨before, after, hcons, hrest, hbefore⟩ := List.mergeSort_cons htrans htotal first rest
  have hsorted := List.pairwise_mergeSort htrans htotal (first :: rest)
  rw [hcons, List.pairwise_append, List.pairwise_cons] at hsorted
  refine ⟨before, after, hcons, hrest, ?_, ?_⟩
  · intro s hs
    simpa using hbefore s hs
  · intro s hs
    simpa using hsorted.2.1.1 s hs

variable {p q : Rule → Bool} {rules : List Rule} {r : Rule}

/-- The first rule that a search of the sorted rules finds is foremost among all that were to be
sorted. -/
theorem foremost_of_find? (h : (byPriority (rules.filter q)).find? p = some r) :
    ∃ i, Foremost (fun s => q s = true ∧ p s = true) rules i r := by
  induction rules generalizing r with
  | nil => simp [byPriority] at h
  | cons first rest ih =>
      by_cases hq : q first = true
      · rw [List.filter_cons_of_pos hq] at h
        obtain ⟨before, after, hcons, hrest, hless, hle⟩ :=
          byPriority_cons first (rest.filter q)
        rw [hcons, List.find?_append] at h
        rw [hrest, List.find?_append] at ih
        cases hbefore : before.find? p with
        | some s =>
            rw [hbefore] at h ih
            cases h
            obtain ⟨i, hi⟩ := ih rfl
            exact ⟨i + 1, hi.later fun _ => hless r (List.mem_of_find?_eq_some hbefore)⟩
        | none =>
            rw [hbefore, Option.none_or] at h ih
            cases hp : p first with
            | true =>
                rw [List.find?_cons_of_pos hp] at h
                cases h
                refine ⟨0, .head ⟨hq, hp⟩ ?_⟩
                intro s hs hP
                have hmem : s ∈ before ++ after := by
                  rw [← hrest]
                  exact List.mem_mergeSort.mpr (List.mem_filter.mpr ⟨hs, hP.1⟩)
                rcases List.mem_append.mp hmem with hs | hs
                · exact absurd hP.2 (List.find?_eq_none.mp hbefore s hs)
                · exact hle s hs
            | false =>
                rw [List.find?_cons_of_neg (by simp [hp])] at h
                obtain ⟨i, hi⟩ := ih h
                exact ⟨i + 1, hi.later fun hfirst => by simp [hp] at hfirst⟩
      · rw [List.filter_cons_of_neg hq] at h
        obtain ⟨i, hi⟩ := ih h
        exact ⟨i + 1, hi.later fun hfirst => absurd hfirst.1 hq⟩

end

/-- A message of a device may go up by a rule that is enabled, for that direction and for the
device's configuration, and whose source can be used and is for the message's topic. -/
def TakesUp (configId topic : String) (r : Rule) : Prop :=
  (r.enabled = true ∧ r.direction = .up ∧ r.configId = configId) ∧
    Topic.Usable r.source ∧ Topic.Cut (Topic.tokens r.source) topic.toList

theorem takesUp_iff {configId topic : String} {r : Rule} :
    TakesUp configId topic r ↔
      (r.enabled = true ∧ r.direction = .up ∧ r.configId = configId) ∧
        Topic.accepts r.source topic = true := by
  rw [TakesUp, Topic.accepts_iff]

instance (configId topic : String) : DecidablePred (TakesUp configId topic) :=
  fun _ => decidable_of_iff _ takesUp_iff.symm

/-- A rule store that selects, works, and has no snapshot before it that could be read. -/
structure ColdStart (b : Backend) (configId : String) : Prop where
  selects : b.rules.selects = true
  works : b.faults.rules = false
  unread : Snapshot.read b configId .up = none

section

variable {b : Backend} {configId : String}

theorem ColdStart.upTarget_eq (h : ColdStart b configId) (hblank : Text.isBlank configId = false)
    (lifetime : Nat) (topic : String) :
    (upTarget lifetime b configId topic).1 =
      .ok (upTarget? (current b configId .up) topic) := by
  rw [upTarget, Snapshot.ask_eq, Snapshot.get_of_miss lifetime b h.unread, load_eq b hblank,
    h.works]
  rfl

theorem ColdStart.current_eq (h : ColdStart b configId) :
    current b configId .up = byPriority (b.rules.rules.filter fun r =>
      r.enabled && (r.enabled && r.direction = .up && r.configId = configId)) := by
  rw [current, RuleStore.enabled, h.selects, if_pos rfl, List.filter_filter]

theorem ColdStart.isSome_iff (h : ColdStart b configId) (topic : String) :
    (upTarget? (current b configId .up) topic).isSome = true ↔
      ∃ r ∈ b.rules.rules, TakesUp configId topic r := by
  rw [upTarget?, Option.isSome_map, List.find?_isSome]
  simp only [mem_current h.selects, takesUp_iff]
  constructor
  · rintro ⟨r, ⟨hr, hrule⟩, haccepts⟩
    exact ⟨r, hr, hrule, haccepts⟩
  · rintro ⟨r, hr, hrule, haccepts⟩
    exact ⟨r, ⟨hr, hrule⟩, haccepts⟩

/-- What is found is the target of the foremost rule, as it stands. -/
theorem ColdStart.foremost_of_some (h : ColdStart b configId) {topic target : String}
    (hfound : upTarget? (current b configId .up) topic = some target) :
    ∃ i r, Foremost (TakesUp configId topic) b.rules.rules i r ∧ target = r.target := by
  obtain ⟨r, hfind, htarget⟩ := Option.map_eq_some_iff.mp hfound
  rw [Topic.render_nil] at htarget
  rw [h.current_eq] at hfind
  obtain ⟨i, hi⟩ := foremost_of_find? hfind
  have htakes : (fun s : Rule => (s.enabled &&
      (s.enabled && s.direction = .up && s.configId = configId)) = true ∧
        Topic.accepts s.source topic = true) = TakesUp configId topic := by
    funext s
    rw [takesUp_iff]
    simp [and_assoc]
  rw [htakes] at hi
  exact ⟨i, r, hi, htarget.symm⟩

theorem ColdStart.some_iff (h : ColdStart b configId) (topic target : String) :
    upTarget? (current b configId .up) topic = some target ↔
      ∃ i r, Foremost (TakesUp configId topic) b.rules.rules i r ∧ target = r.target := by
  constructor
  · exact h.foremost_of_some
  · rintro ⟨i, r, hr, rfl⟩
    obtain ⟨target, hfound⟩ := Option.isSome_iff_exists.mp
      ((h.isSome_iff topic).mpr ⟨r, hr.mem, hr.taken⟩)
    obtain ⟨j, s, hs, rfl⟩ := h.foremost_of_some hfound
    rw [hfound, hr.unique hs]

/-- Two stores have one answer, if what is foremost of either is foremost of the other. -/
theorem ColdStart.upTarget?_congr (h : ColdStart b configId) {b' : Backend}
    (h' : ColdStart b' configId) {topic : String}
    (hmem : ∀ r, TakesUp configId topic r → (r ∈ b'.rules.rules ↔ r ∈ b.rules.rules))
    (hsame : ∀ i j r s, Foremost (TakesUp configId topic) b.rules.rules i r →
      Foremost (TakesUp configId topic) b'.rules.rules j s → r = s) :
    upTarget? (current b' configId .up) topic = upTarget? (current b configId .up) topic := by
  have hsome : (upTarget? (current b' configId .up) topic).isSome =
      (upTarget? (current b configId .up) topic).isSome := by
    rw [Bool.eq_iff_iff, h.isSome_iff, h'.isSome_iff]
    constructor
    · rintro ⟨r, hr, htakes⟩
      exact ⟨r, (hmem r htakes).mp hr, htakes⟩
    · rintro ⟨r, hr, htakes⟩
      exact ⟨r, (hmem r htakes).mpr hr, htakes⟩
  cases hfound : upTarget? (current b configId .up) topic with
  | none =>
      rw [hfound] at hsome
      exact Option.isNone_iff_eq_none.mp (by simpa using hsome)
  | some target =>
      rw [hfound] at hsome
      obtain ⟨target', hfound'⟩ := Option.isSome_iff_exists.mp hsome
      obtain ⟨i, r, hr, rfl⟩ := h.foremost_of_some hfound
      obtain ⟨j, s, hs, rfl⟩ := h'.foremost_of_some hfound'
      rw [hfound', hsame i j r s hr hs]

/-- Without a snapshot a device's message goes up just when there is an enabled rule for that
direction and for its configuration whose source can be used and matches the topic. It then goes to
the target, as it stands, of the one of these rules that has the least priority, and of several of
these the one stored first. All other rules make no difference, and where these rules have different
priorities their order in the store makes none. -/
theorem upTarget_picks (lifetime : Nat) (topic : String) (h : ColdStart b configId)
    (hblank : Text.isBlank configId = false) :
    ∃ found, (upTarget lifetime b configId topic).1 = .ok found ∧
      (found.isSome = true ↔ ∃ r ∈ b.rules.rules, TakesUp configId topic r) ∧
      (∀ target, found = some target ↔
        ∃ i r, Foremost (TakesUp configId topic) b.rules.rules i r ∧ target = r.target) ∧
      (∀ (lifetime' : Nat) (b' : Backend), ColdStart b' configId →
        b'.rules.rules.filter (TakesUp configId topic) =
          b.rules.rules.filter (TakesUp configId topic) →
        (upTarget lifetime' b' configId topic).1 = .ok found) ∧
      (((b.rules.rules.filter (TakesUp configId topic)).map (·.priority)).Nodup →
        ∀ (lifetime' : Nat) (b' : Backend), ColdStart b' configId →
          (b'.rules.rules.filter (TakesUp configId topic)).Perm
            (b.rules.rules.filter (TakesUp configId topic)) →
          (upTarget lifetime' b' configId topic).1 = .ok found) := by
  have hmem {b' : Backend} (hperm : (b'.rules.rules.filter (TakesUp configId topic)).Perm
      (b.rules.rules.filter (TakesUp configId topic))) (r : Rule) (hr : TakesUp configId topic r) :
      r ∈ b'.rules.rules ↔ r ∈ b.rules.rules := by
    have hiff := hperm.mem_iff (a := r)
    simpa only [List.mem_filter, decide_eq_true hr, and_true] using hiff
  refine ⟨_, h.upTarget_eq hblank lifetime topic, h.isSome_iff topic, h.some_iff topic, ?_, ?_⟩
  · intro lifetime' b' h' heq
    rw [h'.upTarget_eq hblank lifetime' topic]
    refine congrArg _ (h.upTarget?_congr h' (hmem (heq ▸ .refl _)) ?_)
    intro i j r s hr hs
    exact hr.eq_of_filter_eq hs heq
  · intro hnodup lifetime' b' h' hperm
    rw [h'.upTarget_eq hblank lifetime' topic]
    refine congrArg _ (h.upTarget?_congr h' (hmem hperm) ?_)
    intro i j r s hr hs
    exact hr.eq_of_perm hs hperm hnodup

end

def ruleWith (target : String) (priority : Int32) : Rule :=
  { Rule.blank with configId := "c", source := "dev/+", target, priority, enabled := true }

def stocked (rules : List Rule) : Backend := { rules := { rules } }

theorem stocked_cold (rules : List Rule) (configId : String) : ColdStart (stocked rules) configId :=
  ⟨rfl, rfl, rfl⟩

/-- Rules that cannot be taken, and two of one priority between two of more. -/
def crowd : List Rule :=
  [{ ruleWith "disabled" 0 with enabled := false }, { ruleWith "down" 0 with direction := .down },
    { ruleWith "other" 0 with configId := "d" }, { ruleWith "unusable" 0 with source := "dev/#" },
    ruleWith "late" 7, ruleWith "first" 5, ruleWith "second" 5, ruleWith "later" 6]

def ranks : List Rule := [ruleWith "late" 7, ruleWith "first" 5, ruleWith "later" 6]

theorem upTarget_picks_crowd :
    Text.isBlank "c" = false ∧
      (ColdStart (stocked crowd) "c" ∧
        (upTarget 60 (stocked crowd) "c" "dev/1").1 = .ok (some "first")) ∧
      ColdStart (stocked ranks) "c" ∧ ColdStart (stocked ranks.reverse) "c" ∧
        (upTarget 60 (stocked ranks.reverse) "c" "dev/1").1 = .ok (some "first") := by
  have hblank : Text.isBlank "c" = false := by decide
  have hcold (rules : List Rule) : ColdStart (stocked rules) "c" := stocked_cold rules "c"
  refine ⟨hblank, ⟨hcold _, ?_⟩, hcold _, hcold _, ?_⟩
  · obtain ⟨found, hanswer, _, htarget, _⟩ := upTarget_picks 60 "dev/1" (hcold crowd) hblank
    rw [hanswer, (htarget "first").mpr ⟨5, ruleWith "first" 5, by decide, rfl⟩]
  · obtain ⟨found, _, _, htarget, _, horder⟩ := upTarget_picks 60 "dev/1" (hcold ranks) hblank
    rw [horder (by decide) 60 _ (hcold _) (by decide),
      (htarget "first").mpr ⟨1, ruleWith "first" 5, by decide, rfl⟩]

end DeviceGateway.Mapping
