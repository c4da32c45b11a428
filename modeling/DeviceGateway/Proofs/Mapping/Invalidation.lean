import DeviceGateway.Proofs.Mapping.Interleaving
/-!
What a lookup may answer once a snapshot was forgotten. Lookups that begin later answer what the
rule store has, unless one that had queried it earlier puts its snapshot back in the meantime:
nothing holds it up, and nothing tells that its rules are out of date.
-/
namespace DeviceGateway.Mapping

open Backend Shared

variable (lifetime : Nat) (s : Shared) (configId : String) (direction : Direction)

/-- A lookup that had rules loaded at the start of a run wrote them as a snapshot in it, when no
more than `i` lookups had begun. -/
def Straggled (acts : List Act) (i : Nat) (rules : List Rule) : Prop :=
  ∃ j before after, s.lookups[j]? = some ⟨configId, direction, .loaded rules⟩ ∧
    acts = before ++ .store j :: after ∧ (s.run lifetime before).lookups.length ≤ i

/-- The rules of a configuration do not change in a run. -/
def Quiet (acts : List Act) : Prop :=
  ∀ before x after, acts = before ++ x :: after →
    ¬ x.Mutates (s.run lifetime before).backend configId

/-- What holds in a run that begins when the snapshot was forgotten, while the rules do not change:
a snapshot holds the current rules or those of a straggler, and so does what a lookup answers that
began in the run. -/
structure Since (acts : List Act) : Prop where
  length : s.lookups.length ≤ (s.run lifetime acts).lookups.length
  current : (load (s.run lifetime acts).backend configId direction).1 =
    (load s.backend configId direction).1
  snapshot : Text.isBlank configId = true ∨
    (s.run lifetime acts).backend.keyValue.find? (Snapshot.key direction configId) = none ∨
    ∃ rules ttl, (s.run lifetime acts).backend.keyValue.find? (Snapshot.key direction configId) =
        some ⟨.text (Snapshot.codec.encode rules), ttl⟩ ∧ (∀ r ∈ rules, r.Valid) ∧
      (.ok rules = (load s.backend configId direction).1 ∨
        Straggled lifetime s configId direction acts (s.run lifetime acts).lookups.length rules)
  loaded : ∀ (i : Nat) (rules : List Rule),
    (s.run lifetime acts).lookups[i]? = some ⟨configId, direction, .loaded rules⟩ →
    .ok rules = (load s.backend configId direction).1 ∨
      s.lookups[i]? = some ⟨configId, direction, .loaded rules⟩
  answered : ∀ (i : Nat) (result : Except Error (List Rule)), s.lookups.length ≤ i →
    (s.run lifetime acts).lookups[i]? = some ⟨configId, direction, .answered result⟩ →
    result = (load s.backend configId direction).1 ∨
      ∃ rules, result = .ok rules ∧ Straggled lifetime s configId direction acts i rules

variable {lifetime s configId direction}

theorem Straggled.mono {acts : List Act} {i k : Nat} {rules : List Rule}
    (h : Straggled lifetime s configId direction acts i rules) (more : List Act) (hik : i ≤ k) :
    Straggled lifetime s configId direction (acts ++ more) k rules := by
  obtain ⟨j, before, after, hj, rfl, hlen⟩ := h
  exact ⟨j, before, after ++ more, hj, by rw [List.append_assoc, List.cons_append],
    Nat.le_trans hlen hik⟩

theorem Quiet.prefix {acts more : List Act} (h : Quiet lifetime s configId (acts ++ more)) :
    Quiet lifetime s configId acts := by
  rintro before x after rfl
  exact h before x (after ++ more) (by rw [List.append_assoc, List.cons_append])

theorem Quiet.of_changesRules {acts : List Act} (h : ∀ x ∈ acts, x.changesRules = false) :
    Quiet lifetime s configId acts := by
  rintro before x after rfl hx
  have hchanges := h x (List.mem_append_right _ List.mem_cons_self)
  cases x with
  | addRule r => cases hchanges
  | removeRule id => cases hchanges
  | _ => exact hx

namespace Since

theorem nil (h : Text.isBlank configId = true ∨
    s.backend.keyValue.find? (Snapshot.key direction configId) = none) :
    Since lifetime s configId direction [] where
  length := Nat.le_refl _
  current := rfl
  snapshot := h.imp_right .inl
  loaded _ _ hi := .inr hi
  answered i result hi hanswered := by
    change s.lookups[i]? = _ at hanswered
    rw [List.getElem?_eq_none hi] at hanswered
    cases hanswered

section

variable {acts : List Act} (h : Since lifetime s configId direction acts)
include h

/-- What a lookup writes that had rules loaded is current, or the lookup straggles. -/
theorem stored {j : Nat} {rules : List Rule}
    (hj : (s.run lifetime acts).lookups[j]? = some ⟨configId, direction, .loaded rules⟩) {i : Nat}
    (hi : (s.run lifetime acts).lookups.length ≤ i) :
    .ok rules = (load s.backend configId direction).1 ∨
      Straggled lifetime s configId direction (acts ++ [.store j]) i rules := by
  rcases h.loaded j rules hj with hcurrent | hold
  · exact .inl hcurrent
  · exact .inr ⟨j, acts, [], hold, rfl, hi⟩

theorem snapshot_next (hsound : Sound (s.run lifetime acts)) (x : Act) :
    Text.isBlank configId = true ∨
      ((s.run lifetime acts).next lifetime x).backend.keyValue.find?
        (Snapshot.key direction configId) = none ∨
      ∃ rules ttl, ((s.run lifetime acts).next lifetime x).backend.keyValue.find?
          (Snapshot.key direction configId) = some ⟨.text (Snapshot.codec.encode rules), ttl⟩ ∧
        (∀ r ∈ rules, r.Valid) ∧
        (.ok rules = (load s.backend configId direction).1 ∨
          Straggled lifetime s configId direction (acts ++ [x])
            ((s.run lifetime acts).next lifetime x).lookups.length rules) := by
  have hgrown := length_next_le lifetime (s.run lifetime acts) x
  rcases h.snapshot with hblank | hsnapshot
  · exact .inl hblank
  right
  rcases find?_next hsound.faults x configId direction with
    hkept | hnone | ⟨j, rules, ttl, rfl, hj, hset⟩
  · rw [hkept]
    rcases hsnapshot with hnone | ⟨rules, ttl, hfind, hvalid, hsource⟩
    · exact .inl hnone
    · exact .inr ⟨rules, ttl, hfind, hvalid, hsource.imp_right fun hs => hs.mono [x] hgrown⟩
  · exact .inl hnone
  · have hvalid := hsound.loaded _ (List.mem_iff_getElem?.mpr ⟨j, hj⟩) rules rfl
    exact .inr ⟨rules, ttl, hset, hvalid, h.stored hj hgrown⟩

theorem loaded_next {x : Act} {i : Nat} {rules : List Rule}
    (hi : ((s.run lifetime acts).next lifetime x).lookups[i]? =
      some ⟨configId, direction, .loaded rules⟩) :
    .ok rules = (load s.backend configId direction).1 ∨
      s.lookups[i]? = some ⟨configId, direction, .loaded rules⟩ := by
  cases origin hi with
  | kept hkept => exact h.loaded i rules hkept
  | started _ _ hl => exact absurd (congrArg Lookup.phase hl).symm Lookup.start_ne_loaded
  | loaded _ _ hl => exact .inl ((Lookup.load_loaded hl rfl).symm.trans h.current)
  | stored _ _ hl => cases hl

theorem answered_next (hsound : Sound (s.run lifetime acts)) {x : Act} {i : Nat}
    {result : Except Error (List Rule)} (hi : s.lookups.length ≤ i)
    (hanswered : ((s.run lifetime acts).next lifetime x).lookups[i]? =
      some ⟨configId, direction, .answered result⟩) :
    result = (load s.backend configId direction).1 ∨
      ∃ rules, result = .ok rules ∧
        Straggled lifetime s configId direction (acts ++ [x]) i rules := by
  cases origin hanswered with
  | kept hkept =>
      rcases h.answered i result hi hkept with hcurrent | ⟨rules, hok, hs⟩
      · exact .inl hcurrent
      · exact .inr ⟨rules, hok, hs.mono [x] (Nat.le_refl i)⟩
  | @started configId' direction' _ hlast hl =>
      have hconfig : configId = configId' := congrArg Lookup.configId hl
      have hdirection : direction = direction' := congrArg Lookup.direction hl
      subst hconfig hdirection
      rcases Lookup.start_answered (congrArg Lookup.phase hl).symm with
        ⟨hblank, hresult⟩ | ⟨hblank, rules, hread, hresult⟩
      · exact .inl (hresult.trans (load_blank s.backend hblank direction).symm)
      -- The snapshot that was read is the one that the invariant speaks of.
      rcases h.snapshot with hb | hnone | ⟨kept, ttl, hfind, hvalid, hsource⟩
      · rw [hb] at hblank
        cases hblank
      · rw [Snapshot.read_of_none hnone] at hread
        cases hread
      · rw [Snapshot.read_of_text (fails_of_faults hsound.faults) hvalid hfind] at hread
        cases hread
        rcases hsource with hcurrent | hs
        · exact .inl (hresult.trans hcurrent)
        · exact .inr ⟨rules, hresult, hs.mono [x] (Nat.le_of_eq hlast.symm)⟩
  | loaded _ _ hl => exact .inl ((Lookup.load_answered hl rfl).trans h.current)
  | stored _ hj hl =>
      -- Who began in the run and had rules loaded had the current ones.
      cases hl
      rcases h.loaded i _ hj with hcurrent | hold
      · exact .inl hcurrent
      · rw [List.getElem?_eq_none hi] at hold
        cases hold

theorem concat (hsound : Sound (s.run lifetime acts)) {x : Act}
    (hx : ¬ x.Mutates (s.run lifetime acts).backend configId) :
    Since lifetime s configId direction (acts ++ [x]) := by
  have hrun : s.run lifetime (acts ++ [x]) = (s.run lifetime acts).next lifetime x :=
    run_concat s acts x
  constructor
  · rw [hrun]
    exact Nat.le_trans h.length (length_next_le lifetime (s.run lifetime acts) x)
  · rw [hrun, hsound.load_next hx]
    exact h.current
  · rw [hrun]
    exact h.snapshot_next hsound x
  · intro i rules hi
    rw [hrun] at hi
    exact h.loaded_next hi
  · intro i result hi hanswered
    rw [hrun] at hanswered
    exact h.answered_next hsound hi hanswered

end

theorem run (hsound : Sound s)
    (hfresh : Text.isBlank configId = true ∨
      s.backend.keyValue.find? (Snapshot.key direction configId) = none)
    (acts : List Act) (hacts : ∀ r, .addRule r ∈ acts → r.Valid)
    (hquiet : Quiet lifetime s configId acts) : Since lifetime s configId direction acts := by
  induction acts using List.reverseRecOn with
  | nil => exact nil hfresh
  | append_singleton acts x ih =>
      have hvalid : ∀ r, .addRule r ∈ acts → r.Valid := fun r hr =>
        hacts r (List.mem_append_left _ hr)
      apply (ih hvalid hquiet.prefix).concat (hsound.run hvalid)
      exact hquiet acts x [] rfl

end Since

/-- After an invalidation, and while the rules of the configuration do not change again, a lookup
that begins answers what the rule store has, or else what a lookup had loaded before the
invalidation and wrote between it and the beginning of the lookup. -/
theorem answer_after_invalidate (lifetime : Nat) {b : Backend} (hfaults : b.faults = {})
    (hselects : b.rules.selects = true) (hrules : ∀ r ∈ b.rules.rules, r.Valid)
    (configId : String) (direction : Direction) (before after : List Act)
    (hadded : ∀ r, .addRule r ∈ before ++ after → r.Valid) (invalidated : Shared)
    (hinvalidated : invalidated = run lifetime ⟨b, []⟩ (before ++ [.invalidate configId]))
    (hquiet : Quiet lifetime invalidated configId after) (i : Nat)
    (hi : invalidated.lookups.length ≤ i) (result : Except Error (List Rule))
    (hresult : (invalidated.run lifetime after).lookups[i]? =
      some ⟨configId, direction, .answered result⟩) :
    result = (load (invalidated.run lifetime after).backend configId direction).1 ∨
      ∃ rules, result = .ok rules ∧
        Straggled lifetime invalidated configId direction after i rules := by
  have hstart : Sound ⟨b, []⟩ := ⟨hfaults, hselects, hrules, nofun⟩
  have hbefore : Sound (run lifetime ⟨b, []⟩ before) :=
    hstart.run fun r hr => hadded r (List.mem_append_left _ hr)
  rw [run_concat] at hinvalidated
  have hsound : Sound invalidated := by
    rw [hinvalidated]
    exact hbefore.next nofun
  have hfresh : Text.isBlank configId = true ∨
      invalidated.backend.keyValue.find? (Snapshot.key direction configId) = none := by
    cases hblank : Text.isBlank configId with
    | true => exact .inl rfl
    | false =>
        right
        rw [hinvalidated]
        refine (Snapshot.find?_invalidate (fails_of_faults hbefore.faults) hblank _).trans
          (if_pos ?_)
        cases direction with
        | up => exact List.mem_cons_self
        | down => exact List.mem_cons_of_mem _ List.mem_cons_self
  have hsince := Since.run hsound hfresh after
    (fun r hr => hadded r (List.mem_append_right _ hr)) hquiet
  rw [hsince.current]
  exact hsince.answered i result hi hresult

def ruleRemoved : List Act := [.start "c" .up, .load 0, .store 0, .removeRule 1]

def nextLookup : List Act := [.start "c" .up, .load 1, .store 1]

theorem answer_after_invalidate_rule :
    ruleBackend.faults = {} ∧ ruleBackend.rules.selects = true ∧
      (∀ r ∈ ruleBackend.rules.rules, r.Valid) ∧
      (∀ r, .addRule r ∈ ruleRemoved ++ nextLookup → r.Valid) ∧
      let invalidated := run 60 ⟨ruleBackend, []⟩ (ruleRemoved ++ [.invalidate "c"])
      Quiet 60 invalidated "c" nextLookup ∧ invalidated.lookups.length ≤ 1 ∧
        (invalidated.run 60 nextLookup).lookups[1]? = some ⟨"c", .up, .answered (.ok [])⟩ ∧
        (.ok [] = (load (invalidated.run 60 nextLookup).backend "c" .up).1 ∨
          ∃ rules, Except.ok (ε := Error) [] = .ok rules ∧
            Straggled 60 invalidated "c" .up nextLookup 1 rules) := by
  have hvalid : ∀ r ∈ ruleBackend.rules.rules, r.Valid := by decide
  have hadded : ∀ r, .addRule r ∈ ruleRemoved ++ nextLookup → r.Valid := by
    intro r hr
    simp [ruleRemoved, nextLookup] at hr
  have hquiet : Quiet 60 (run 60 ⟨ruleBackend, []⟩ (ruleRemoved ++ [.invalidate "c"])) "c"
      nextLookup := Quiet.of_changesRules (by decide)
  have hi : (run 60 ⟨ruleBackend, []⟩ (ruleRemoved ++ [.invalidate "c"])).lookups.length ≤ 1 := by
    decide +kernel
  have hresult : ((run 60 ⟨ruleBackend, []⟩ (ruleRemoved ++ [.invalidate "c"])).run 60
      nextLookup).lookups[1]? = some ⟨"c", .up, .answered (.ok [])⟩ := by decide +kernel
  exact ⟨rfl, rfl, hvalid, hadded, hquiet, hi, hresult, answer_after_invalidate 60 rfl rfl hvalid
    "c" .up ruleRemoved nextLookup hadded _ rfl hquiet 1 hi (.ok []) hresult⟩

/-- Rules that a lookup writes are answered to the next, whatever became of them since they were
loaded. -/
theorem answer_after_store (hf : s.backend.faults = {}) (hblank : Text.isBlank configId = false)
    {rules : List Rule} (hvalid : ∀ r ∈ rules, r.Valid) {j : Nat}
    (hj : s.lookups[j]? = some ⟨configId, direction, .loaded rules⟩) (lifetime : Nat) :
    (s.run lifetime [.store j, .start configId direction]).lookups[s.lookups.length]? =
      some ⟨configId, direction, .answered (.ok rules)⟩ := by
  have hstored : s.next lifetime (.store j) =
      ⟨Snapshot.write lifetime s.backend configId direction rules,
        s.lookups.set j ⟨configId, direction, .answered (.ok rules)⟩⟩ := by
    simp only [next, hj]
  have hfaults : (s.next lifetime (.store j)).backend.faults = {} :=
    (next_faults s (.store j)).trans hf
  have hfind := (Snapshot.find?_write (fails_of_faults hf) lifetime configId direction rules
    _).trans (if_pos rfl)
  rw [hstored] at hfaults
  have hread := Snapshot.read_of_text (fails_of_faults hfaults) hvalid hfind
  change (next lifetime (s.next lifetime (.store j)) (.start configId direction)).lookups[_]? = _
  rw [hstored]
  change (s.lookups.set j _ ++ [Lookup.start _ configId direction])[s.lookups.length]? = _
  have hlength : s.lookups.length = (s.lookups.set j
      ⟨configId, direction, .answered (.ok rules)⟩).length := List.length_set.symm
  rw [hlength, List.getElem?_concat_length]
  simp only [Lookup.start, hblank, Bool.false_eq_true, if_false, hread]

/-- A lookup queries the rule store before its only rule is removed, and writes the snapshot after
the invalidation: the next lookup answers the removed rule. -/
theorem stale_answer :
    let s := run 60 ⟨ruleBackend, []⟩ [.start "c" .up, .load 0, .removeRule 1, .invalidate "c",
      .store 0, .start "c" .up]
    s.lookups[1]? = some ⟨"c", .up, .answered (.ok [ruleUp])⟩ ∧
      (load s.backend "c" .up).1 = .ok [] := by
  let s := run 60 ⟨ruleBackend, []⟩ [.start "c" .up, .load 0, .removeRule 1, .invalidate "c"]
  have hloaded : s.lookups[0]? = some ⟨"c", .up, .loaded [ruleUp]⟩ := by decide +kernel
  constructor
  · exact answer_after_store (s := s) (by decide +kernel) (by decide) (by decide) hloaded 60
  · decide +kernel

end DeviceGateway.Mapping
