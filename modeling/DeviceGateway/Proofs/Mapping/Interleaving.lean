import DeviceGateway.Proofs.Gate.Frame
import DeviceGateway.Proofs.Mapping.Snapshot
import Mathlib.Data.List.Induction
/-!
Lookups of rules in small steps, so that many of them may be under way while rules come and go and
snapshots are forgotten or come to the end of their time: a lookup reads its snapshot, queries the
rule store if there is none, and writes the snapshot. Each step alone is atomic.
-/
namespace DeviceGateway.Mapping

open Backend

/-- How far a lookup has come. -/
inductive Phase where
  | missed
  | loaded (rules : List Rule)
  | answered (result : Except Error (List Rule))
deriving DecidableEq

/-- A lookup of the rules of a configuration. -/
structure Lookup where
  configId : String
  direction : Direction
  phase : Phase
deriving DecidableEq

/-- The stores that all lookups share, and the lookups begun so far. -/
structure Shared where
  backend : Backend
  lookups : List Lookup

inductive Act where
  | start (configId : String) (direction : Direction)
  | load (i : Nat)
  | store (i : Nat)
  | addRule (rule : Rule)
  | removeRule (id : Int64)
  | invalidate (configId : String)
  | lapse (key : String)
deriving DecidableEq

namespace Lookup

/-- A lookup after it has read its snapshot. -/
def start (b : Backend) (configId : String) (direction : Direction) : Lookup where
  configId
  direction
  phase :=
    if Text.isBlank configId then .answered (.error .blankConfig)
    else match Snapshot.read b configId direction with
      | some rules => .answered (.ok rules)
      | none => .missed

def load (b : Backend) (l : Lookup) : Lookup × Backend :=
  match Mapping.load b l.configId l.direction with
  | (.error e, b) => ({ l with phase := .answered (.error e) }, b)
  | (.ok rules, b) => ({ l with phase := .loaded rules }, b)

theorem start_ne_loaded {b : Backend} {configId : String} {direction : Direction}
    {rules : List Rule} : (start b configId direction).phase ≠ .loaded rules := by
  unfold start
  dsimp only
  split
  · exact nofun
  · split <;> exact nofun

/-- A lookup that is answered at once is for no configuration, or found a snapshot. -/
theorem start_answered {b : Backend} {configId : String} {direction : Direction}
    {result : Except Error (List Rule)}
    (h : (start b configId direction).phase = .answered result) :
    Text.isBlank configId = true ∧ result = .error .blankConfig ∨
      Text.isBlank configId = false ∧
        ∃ rules, Snapshot.read b configId direction = some rules ∧ result = .ok rules := by
  unfold start at h
  dsimp only at h
  split at h
  · next hblank =>
    cases h
    exact .inl ⟨hblank, rfl⟩
  · next hblank =>
    split at h
    · next rules hread =>
      cases h
      exact .inr ⟨by simpa using hblank, rules, hread, rfl⟩
    · cases h

theorem load_names (b : Backend) (l : Lookup) :
    (load b l).1.configId = l.configId ∧ (load b l).1.direction = l.direction := by
  unfold load
  split <;> exact ⟨rfl, rfl⟩

theorem load_loaded {b : Backend} {l l' : Lookup} (hl : l' = (load b l).1) {rules : List Rule}
    (h : l'.phase = .loaded rules) :
    (Mapping.load b l'.configId l'.direction).1 = .ok rules := by
  obtain ⟨hconfig, hdirection⟩ := load_names b l
  rw [hl] at h ⊢
  rw [hconfig, hdirection]
  unfold load at h
  split at h
  · cases h
  · next heq =>
    cases h
    rw [heq]

theorem load_answered {b : Backend} {l l' : Lookup} (hl : l' = (load b l).1)
    {result : Except Error (List Rule)} (h : l'.phase = .answered result) :
    result = (Mapping.load b l'.configId l'.direction).1 := by
  obtain ⟨hconfig, hdirection⟩ := load_names b l
  rw [hl] at h ⊢
  rw [hconfig, hdirection]
  unfold load at h
  split at h
  · next heq =>
    cases h
    rw [heq]
  · cases h

end Lookup

namespace Shared

def next (lifetime : Nat) (s : Shared) : Act → Shared
  | .start configId direction =>
    { s with lookups := s.lookups ++ [.start s.backend configId direction] }
  | .load i =>
    match s.lookups[i]? with
    | some ⟨configId, direction, .missed⟩ =>
      let (l, b) := Lookup.load s.backend ⟨configId, direction, .missed⟩
      ⟨b, s.lookups.set i l⟩
    | _ => s
  | .store i =>
    match s.lookups[i]? with
    | some ⟨configId, direction, .loaded rules⟩ =>
      ⟨Snapshot.write lifetime s.backend configId direction rules,
        s.lookups.set i ⟨configId, direction, .answered (.ok rules)⟩⟩
    | _ => s
  | .addRule rule =>
    { s with backend := { s.backend with rules := s.backend.rules.add rule } }
  | .removeRule id =>
    { s with backend := { s.backend with rules := s.backend.rules.remove id } }
  | .invalidate configId =>
    { s with backend := ((Snapshot.invalidate s.backend configId).toOption).getD s.backend }
  | .lapse key =>
    { s with backend := { s.backend with keyValue := s.backend.keyValue.lapse key } }

def run (lifetime : Nat) (s : Shared) (acts : List Act) : Shared := acts.foldl (next lifetime) s

variable {lifetime : Nat}

theorem run_concat (s : Shared) (acts : List Act) (x : Act) :
    run lifetime s (acts ++ [x]) = next lifetime (run lifetime s acts) x := List.foldl_concat ..

/-- The three steps of a lookup that nothing comes between are a lookup. -/
theorem run_alone (s : Shared) (configId : String) (direction : Direction) :
    let i := s.lookups.length
    let after := run lifetime s [.start configId direction, .load i, .store i]
    after.backend = (Snapshot.get lifetime s.backend configId direction).2 ∧
      after.lookups = s.lookups ++ [⟨configId, direction,
        .answered (Snapshot.get lifetime s.backend configId direction).1⟩] := by
  have hlast (l : Lookup) : (s.lookups ++ [l])[s.lookups.length]? = some l :=
    List.getElem?_concat_length
  have hset (l l' : Lookup) : (s.lookups ++ [l]).set s.lookups.length l' = s.lookups ++ [l'] := by
    rw [List.set_append_right _ _ (Nat.le_refl _), Nat.sub_self]
    rfl
  simp only [run, List.foldl_cons, List.foldl_nil, Snapshot.get]
  by_cases hblank : Text.isBlank configId = true
  · simp only [next, Lookup.start, if_pos hblank, hlast, and_self]
  · cases hread : Snapshot.read s.backend configId direction with
    | some rules => simp only [next, Lookup.start, if_neg hblank, hread, hlast, and_self]
    | none =>
        cases hload : Mapping.load s.backend configId direction with
        | mk answer after =>
            cases answer with
            | error e =>
                simp only [next, Lookup.start, if_neg hblank, hread, hlast, Lookup.load, hload,
                  hset, and_self]
            | ok rules =>
                simp only [next, Lookup.start, if_neg hblank, hread, hlast, Lookup.load, hload,
                  hset, and_self]

end Shared

/-- Nothing fails, the rule store selects, and the times of rules exist. -/
structure Sound (s : Shared) : Prop where
  faults : s.backend.faults = {}
  selects : s.backend.rules.selects = true
  rules : ∀ r ∈ s.backend.rules.rules, r.Valid
  loaded : ∀ l ∈ s.lookups, ∀ rules, l.phase = .loaded rules → ∀ r ∈ rules, r.Valid

def Act.Mutates (b : Backend) (configId : String) : Act → Prop
  | .addRule r => r.configId = configId
  | .removeRule id => ∃ r ∈ b.rules.rules, r.id = id ∧ r.configId = configId
  | _ => False

def Act.changesRules : Act → Bool
  | .addRule _ | .removeRule _ => true
  | _ => false

namespace Shared

variable {lifetime : Nat}

/-- What lookups and invalidations do to the stores is confined to the key-value store. -/
theorem next_frame (s : Shared) {x : Act} (hx : x.changesRules = false) :
    Frame (fun _ => True) False s.backend (next lifetime s x).backend := by
  cases x with
  | start configId direction => exact .refl
  | load i =>
      simp only [next]
      split
      · next configId direction _ =>
        have hload := load_frame (P := fun _ => True) (L := False) s.backend configId direction
        unfold Lookup.load
        dsimp only
        split
        · next heq => exact hload.of_eq heq
        · next heq => exact hload.of_eq heq
      · exact .refl
  | store i =>
      simp only [next]
      split
      · exact Snapshot.write_frame lifetime s.backend _ trivial
      · exact .refl
  | addRule r => cases hx
  | removeRule id => cases hx
  | invalidate configId =>
      simp only [next]
      cases h : Snapshot.invalidate s.backend configId with
      | error e => exact .refl
      | ok after => exact Snapshot.invalidate_frame (fun _ => trivial) h
  | lapse key => exact ⟨fun _ hk => absurd trivial hk, fun _ => rfl, rfl, rfl, rfl, rfl, rfl⟩

theorem next_faults (s : Shared) (x : Act) :
    (next lifetime s x).backend.faults = s.backend.faults := by
  cases x with
  | addRule r => rfl
  | removeRule id => rfl
  | _ => exact (next_frame s rfl).faults

theorem next_selects (s : Shared) (x : Act) :
    (next lifetime s x).backend.rules.selects = s.backend.rules.selects := by
  cases x with
  | addRule r => rfl
  | removeRule id => rfl
  | _ => exact (next_frame s rfl).selects

theorem mem_next_rules {s : Shared} {x : Act} {r : Rule}
    (hr : r ∈ (next lifetime s x).backend.rules.rules) :
    r ∈ s.backend.rules.rules ∨ x = .addRule r := by
  cases x with
  | addRule added =>
      rcases List.mem_append.mp hr with hr | hr
      · exact .inl hr
      · exact .inr (by rw [List.mem_singleton.mp hr])
  | removeRule id => exact .inl (List.mem_filter.mp hr).1
  | _ =>
      rw [(next_frame s rfl).rules] at hr
      exact .inl hr

/-- Where a lookup comes from that is there after an act. -/
inductive Origin (s : Shared) (x : Act) (j : Nat) (l : Lookup) : Prop
  | kept (h : s.lookups[j]? = some l)
  | started {configId : String} {direction : Direction} (hx : x = .start configId direction)
      (hj : j = s.lookups.length) (hl : l = .start s.backend configId direction)
  | loaded {configId : String} {direction : Direction} (hx : x = .load j)
      (h : s.lookups[j]? = some ⟨configId, direction, .missed⟩)
      (hl : l = (Lookup.load s.backend ⟨configId, direction, .missed⟩).1)
  | stored {configId : String} {direction : Direction} {rules : List Rule} (hx : x = .store j)
      (h : s.lookups[j]? = some ⟨configId, direction, .loaded rules⟩)
      (hl : l = ⟨configId, direction, .answered (.ok rules)⟩)

theorem origin {s : Shared} {x : Act} {j : Nat} {l : Lookup}
    (h : (next lifetime s x).lookups[j]? = some l) : Origin s x j l := by
  cases x with
  | start configId direction =>
      change (s.lookups ++ [_])[j]? = some l at h
      rcases Nat.lt_or_ge j s.lookups.length with hj | hj
      · rw [List.getElem?_append_left hj] at h
        exact .kept h
      · rw [List.getElem?_append_right hj] at h
        obtain ⟨hk, hl⟩ := List.getElem?_eq_some_iff.mp h
        rw [List.length_singleton] at hk
        exact .started rfl (by omega) (by rw [← hl, List.getElem_singleton])
  | load i =>
      simp only [next] at h
      split at h
      · next configId direction hi =>
        rw [List.getElem?_set] at h
        split at h
        · next hij =>
          subst hij
          split at h
          · exact .loaded rfl hi (Option.some.inj h).symm
          · cases h
        · exact .kept h
      · exact .kept h
  | store i =>
      simp only [next] at h
      split at h
      · next configId direction rules hi =>
        rw [List.getElem?_set] at h
        split at h
        · next hij =>
          subst hij
          split at h
          · exact .stored rfl hi (Option.some.inj h).symm
          · cases h
        · exact .kept h
      · exact .kept h
  | addRule r => exact .kept h
  | removeRule id => exact .kept h
  | invalidate configId => exact .kept h
  | lapse key => exact .kept h

theorem length_next_le (lifetime : Nat) (s : Shared) (x : Act) :
    s.lookups.length ≤ (next lifetime s x).lookups.length := by
  cases x with
  | start configId direction =>
      change _ ≤ (s.lookups ++ [_]).length
      rw [List.length_append]
      exact Nat.le_add_right _ _
  | load i =>
      simp only [next]
      split
      · exact Nat.le_of_eq List.length_set.symm
      · exact Nat.le_refl _
  | store i =>
      simp only [next]
      split
      · exact Nat.le_of_eq List.length_set.symm
      · exact Nat.le_refl _
  | addRule r => exact Nat.le_refl _
  | removeRule id => exact Nat.le_refl _
  | invalidate configId => exact Nat.le_refl _
  | lapse key => exact Nat.le_refl _

/-- What becomes of a snapshot: it stays, or is forgotten, or a lookup writes what it had loaded. -/
theorem find?_next {s : Shared} (hf : s.backend.faults = {}) (x : Act) (configId : String)
    (direction : Direction) :
    (next lifetime s x).backend.keyValue.find? (Snapshot.key direction configId) =
        s.backend.keyValue.find? (Snapshot.key direction configId) ∨
      (next lifetime s x).backend.keyValue.find? (Snapshot.key direction configId) = none ∨
      ∃ i rules ttl, x = .store i ∧ s.lookups[i]? = some ⟨configId, direction, .loaded rules⟩ ∧
        (next lifetime s x).backend.keyValue.find? (Snapshot.key direction configId) =
          some ⟨.text (Snapshot.codec.encode rules), ttl⟩ := by
  cases x with
  | start configId' direction' => exact .inl rfl
  | load i =>
      left
      simp only [next]
      split
      · next configId' direction' _ =>
        have hload := load_frame (P := fun _ => False) (L := False) s.backend configId' direction'
        unfold Lookup.load
        dsimp only
        split
        · next heq => exact (hload.of_eq heq).keys _ id
        · next heq => exact (hload.of_eq heq).keys _ id
      · rfl
  | store i =>
      simp only [next]
      split
      · next configId' direction' rules hi =>
        dsimp only
        rw [Snapshot.find?_write (fails_of_faults hf)]
        by_cases hkey : Snapshot.key direction configId = Snapshot.key direction' configId'
        · obtain ⟨rfl, rfl⟩ := Purpose.snapshotKey_inj hkey
          rw [if_pos rfl]
          exact .inr (.inr ⟨i, rules, _, rfl, hi, rfl⟩)
        · rw [if_neg hkey]
          exact .inl rfl
      · exact .inl rfl
  | addRule r => exact .inl rfl
  | removeRule id => exact .inl rfl
  | invalidate configId' =>
      simp only [next]
      cases hblank : Text.isBlank configId' with
      | true =>
          left
          simp only [Snapshot.invalidate, hblank, if_true]
          rfl
      | false =>
          rw [Snapshot.find?_invalidate (fails_of_faults hf) hblank]
          split
          · exact .inr (.inl rfl)
          · exact .inl rfl
  | lapse key =>
      rcases KeyValue.find?_lapse s.backend.keyValue key (Snapshot.key direction configId) with
        hkept | hnone
      · exact .inl hkept
      · exact .inr (.inl hnone)

end Shared

namespace Sound

open Shared

variable {lifetime : Nat}

theorem next {s : Shared} (h : Sound s) {x : Act} (hx : ∀ r, x = .addRule r → r.Valid) :
    Sound (s.next lifetime x) := by
  refine ⟨(next_faults s x).trans h.faults, (next_selects s x).trans h.selects, ?_, ?_⟩
  · intro r hr
    rcases mem_next_rules hr with hr | hr
    · exact h.rules r hr
    · exact hx r hr
  · intro l hl rules hphase
    obtain ⟨j, hj⟩ := List.mem_iff_getElem?.mp hl
    cases origin hj with
    | kept hkept => exact h.loaded l (List.mem_iff_getElem?.mpr ⟨j, hkept⟩) rules hphase
    | started _ _ hnew =>
        rw [hnew] at hphase
        exact absurd hphase Lookup.start_ne_loaded
    | loaded _ _ hnew =>
        intro r hr
        exact h.rules r (mem_of_load (Lookup.load_loaded hnew hphase) hr)
    | stored _ _ hnew =>
        rw [hnew] at hphase
        cases hphase

theorem run {s : Shared} (h : Sound s) {acts : List Act}
    (hacts : ∀ r, .addRule r ∈ acts → r.Valid) : Sound (s.run lifetime acts) := by
  induction acts generalizing s with
  | nil => exact h
  | cons x rest ih =>
      apply ih
      · exact h.next fun r hr => hacts r (hr ▸ List.mem_cons_self)
      · exact fun r hr => hacts r (List.mem_cons_of_mem _ hr)

/-- What the rule store has for a configuration is the same until its rules change. -/
theorem load_next {s : Shared} (h : Sound s) {x : Act} {configId : String}
    (hx : ¬ x.Mutates s.backend configId) (direction : Direction) :
    (load (s.next lifetime x).backend configId direction).1 =
      (load s.backend configId direction).1 := by
  apply load_fst_congr h.faults ((next_faults s x).trans h.faults)
  cases x with
  | addRule r =>
      change (s.backend.rules.add r).enabled configId direction = _
      have hne : r.configId ≠ configId := hx
      unfold RuleStore.enabled RuleStore.add
      dsimp only
      rw [h.selects, if_pos rfl, if_pos rfl, List.filter_append]
      simp [hne]
  | removeRule id =>
      change (s.backend.rules.remove id).enabled configId direction = _
      unfold RuleStore.enabled RuleStore.remove
      dsimp only
      rw [h.selects, if_pos rfl, if_pos rfl, List.filter_filter]
      apply List.filter_congr
      intro r hr
      by_cases hid : r.id = id
      · have hne : r.configId ≠ configId := fun heq => hx ⟨r, hr, hid, heq⟩
        simp [hne]
      · simp [hid]
  | _ => exact enabled_congr (next_frame s rfl).rules (next_frame s rfl).selects configId direction

end Sound

end DeviceGateway.Mapping
