import DeviceGateway.Proofs.Mapping.Snapshot
import DeviceGateway.Proofs.Run
import Mathlib.Data.List.Induction
/-!
Lookups of rules one after the other. The first to succeed after the snapshots of a configuration
were forgotten queries the rule store, and all later ones answer what it found, whatever has become
of the rules since.
-/
namespace DeviceGateway

open Backend Purpose

/-- What may come between lookups: anything but the end of a snapshot's time, failures of the
key-value store, and events that look rules up themselves. The times of rules exist. -/
def Step.Orderly : Step → Prop
  | .addRule r => r.Valid
  | .setFaults faults => faults.keyValue = [] ∧ faults.lost = []
  | .lapse _ | .event _ (.subscribe _ _) | .event _ (.publish _ _ _) => False
  | _ => True

namespace Step

theorem apply_faults (g : Gate) (b : Backend) (x : Step) :
    (x.apply g b).faults = match x with
      | .setFaults faults => faults
      | _ => b.faults := by
  cases hx : x.isOutside with
  | true => cases x <;> first | rfl | cases hx
  | false =>
      rw [(apply_sameParts g b hx).faults]
      cases x <;> first | rfl | cases hx

theorem mem_apply_rules {g : Gate} {b : Backend} {x : Step} {r : Rule}
    (hr : r ∈ (x.apply g b).rules.rules) : r ∈ b.rules.rules ∨ x = .addRule r := by
  cases hx : x.isOutside with
  | true =>
      cases x with
      | addRule added =>
          rcases List.mem_append.mp hr with hr | hr
          · exact .inl hr
          · exact .inr (by rw [List.mem_singleton.mp hr])
      | removeRule id => exact .inl (List.mem_filter.mp hr).1
      | setFaults | setClock | lapse | putDevice => exact .inl hr
      | event | lookUp | invalidate | setPolicy | writeLog => cases hx
  | false =>
      rw [(apply_sameParts g b hx).rules] at hr
      exact .inl hr

variable {g : Gate} {b : Backend} {x : Step} {configId : String} {direction : Direction}

theorem Orderly.keyValueWorks (hx : x.Orderly) (h : b.KeyValueWorks) :
    (x.apply g b).KeyValueWorks := by
  cases x with
  | setFaults faults => exact .of_faults hx.1 hx.2
  | _ => exact h.congr (apply_faults g b _)

theorem Orderly.rules_valid (hx : x.Orderly) (h : ∀ r ∈ b.rules.rules, r.Valid) :
    ∀ r ∈ (x.apply g b).rules.rules, r.Valid := by
  intro r hr
  rcases mem_apply_rules hr with hr | rfl
  · exact h r hr
  · exact hx

/-- A snapshot is touched by the lookups and invalidations that are for it, and by nothing else. -/
theorem Orderly.snapshot_apply (hx : x.Orderly) (hlookUp : x ≠ .lookUp configId direction)
    (hinvalidate : x ≠ .invalidate configId) :
    (x.apply g b).keyValue.find? (Mapping.Snapshot.key direction configId) =
      b.keyValue.find? (Mapping.Snapshot.key direction configId) := by
  have hnames := names_snapshotKey direction configId
  cases x with
  | event hooks e =>
      cases e with
      | auth client username password =>
          have hlog (deviceId : String) :
              Among [.voucher, .binding, .log] (DeviceLog.logsKey deviceId) :=
            among_of_names (names_logsKey deviceId) (by decide)
          simp only [apply, Pipeline.handle]
          rcases Pipeline.authenticate_cases ⟨hooks, g⟩ b client username password with ⟨_, h⟩ | h
          · rw [h]
          · rw [h]
            refine (Gate.authenticate_frame (L := True) hlog g b client username password
              (among_of_names (names_voucher _ _) (by decide))
              (among_of_names (names_voucher _ _) (by decide))
              (among_of_names (names_bindingKey _) (by decide))).keys _ (not_among hnames ?_)
            cases direction <;> decide
      | connected client =>
          exact (Gate.connected_frame (P := fun _ => False) trivial b client).keys _ id
      | closed client =>
          exact (Gate.closed_frame (P := fun _ => False) trivial b client).keys _ id
      | subscribe client topic => exact hx.elim
      | publish client topic payload => exact hx.elim
  | lookUp configId' direction' =>
      refine (Mapping.Snapshot.get_frame (L := True)
        (P := (· = Mapping.Snapshot.key direction' configId')) g.snapshotLifetime b rfl).keys _ ?_
      intro heq
      obtain ⟨rfl, rfl⟩ := snapshotKey_inj heq
      exact hlookUp rfl
  | invalidate configId' =>
      simp only [apply]
      cases h : Mapping.Snapshot.invalidate b configId' with
      | error e => rfl
      | ok after =>
          refine (Mapping.Snapshot.invalidate_frame (L := True)
            (P := fun key => ∃ d, key = Mapping.Snapshot.key d configId') (fun d => ⟨d, rfl⟩)
            h).keys _ ?_
          rintro ⟨d, heq⟩
          obtain ⟨rfl, rfl⟩ := snapshotKey_inj heq
          exact hinvalidate rfl
  | setPolicy deviceId p =>
      simp only [apply]
      cases h : DeviceLog.setPolicy b deviceId p with
      | error e => rfl
      | ok after =>
          refine (DeviceLog.setPolicy_frame (L := True) (P := Among [.policy])
            (among_of_names (names_policyKey deviceId) (by decide)) h).keys _ (not_among hnames ?_)
          cases direction <;> decide
  | writeLog deviceId entry =>
      refine (DeviceLog.write_frame (L := True) (P := Among [.log]) b entry
        (among_of_names (names_logsKey deviceId) (by decide))).keys _ (not_among hnames ?_)
      cases direction <;> decide
  | lapse key => exact hx.elim
  | setFaults _ | setClock _ | putDevice _ | addRule _ | removeRule _ => rfl

end Step

theorem run_concat (g : Gate) (b : Backend) (steps : List Step) (x : Step) :
    run g b (steps ++ [x]) = x.apply g (run g b steps) := run_append g b steps [x]

theorem run_keyValueWorks (g : Gate) {b : Backend} (h : b.KeyValueWorks) {steps : List Step}
    (hsteps : ∀ x ∈ steps, x.Orderly) : (run g b steps).KeyValueWorks := by
  induction steps generalizing b with
  | nil => exact h
  | cons x rest ih =>
      exact ih ((hsteps x List.mem_cons_self).keyValueWorks h)
        fun y hy => hsteps y (List.mem_cons_of_mem _ hy)

theorem run_rules_valid (g : Gate) {b : Backend} (h : ∀ r ∈ b.rules.rules, r.Valid)
    {steps : List Step} (hsteps : ∀ x ∈ steps, x.Orderly) :
    ∀ r ∈ (run g b steps).rules.rules, r.Valid := by
  induction steps generalizing b with
  | nil => exact h
  | cons x rest ih =>
      exact ih ((hsteps x List.mem_cons_self).rules_valid h)
        fun y hy => hsteps y (List.mem_cons_of_mem _ hy)

/-- Where a list that ends in `x` may be split at `y`. -/
theorem concat_eq_append_cons {α : Type} {l before after : List α} {x y : α}
    (h : l ++ [x] = before ++ y :: after) :
    (after = [] ∧ l = before ∧ x = y) ∨
      ∃ rest, after = rest ++ [x] ∧ l = before ++ y :: rest := by
  rcases List.eq_nil_or_concat after with rfl | ⟨rest, z, rfl⟩
  · obtain ⟨hl, hx⟩ := List.append_inj' h rfl
    exact .inl ⟨rfl, hl, (List.cons.inj hx).1⟩
  · rw [List.concat_eq_append, ← List.cons_append, ← List.append_assoc] at h
    obtain ⟨hl, hx⟩ := List.append_inj' h rfl
    exact .inr ⟨rest, by rw [List.concat_eq_append, (List.cons.inj hx).1], hl⟩

theorem append_cons_concat {α : Type} (before after : List α) (x y : α) :
    (before ++ y :: after) ++ [x] = before ++ y :: (after ++ [x]) := by
  rw [List.append_assoc, List.cons_append]

namespace Mapping

variable (g : Gate) (b : Backend) (configId : String) (direction : Direction)

/-- No lookup of a run succeeded after which the snapshots were not forgotten. -/
def Cold (steps : List Step) : Prop :=
  ∀ before after, steps = before ++ .lookUp configId direction :: after →
    (Snapshot.get g.snapshotLifetime (run g b before) configId direction).1.isOk = true →
    .invalidate configId ∈ after

/-- The lookup between two parts of a run is the first to succeed since the snapshots were
forgotten, and they are not forgotten after it. -/
structure First (before after : List Step) : Prop where
  cold : Cold g b configId direction before
  found : (Snapshot.get g.snapshotLifetime (run g b before) configId direction).1.isOk = true
  kept : .invalidate configId ∉ after

/-- What is in the key-value store after a run: no snapshot, or what the first lookup found. -/
inductive Holds (steps : List Step) : Prop
  | absent : Cold g b configId direction steps →
      (run g b steps).keyValue.find? (Snapshot.key direction configId) = none →
      Holds steps
  | present (before after : List Step) (rules : List Rule) (ttl : Option Nat) :
      steps = before ++ .lookUp configId direction :: after →
      First g b configId direction before after →
      (load (run g b before) configId direction).1 = .ok rules → (∀ r ∈ rules, r.Valid) →
      (run g b steps).keyValue.find? (Snapshot.key direction configId) =
        some ⟨.text (Snapshot.codec.encode rules), ttl⟩ →
      Holds steps

variable {g b configId direction} {steps : List Step}

theorem Cold.concat (h : Cold g b configId direction steps) {x : Step}
    (hx : x = .lookUp configId direction →
      (Snapshot.get g.snapshotLifetime (run g b steps) configId direction).1.isOk = false) :
    Cold g b configId direction (steps ++ [x]) := by
  intro before after heq hok
  rcases concat_eq_append_cons heq with ⟨rfl, rfl, hlast⟩ | ⟨rest, rfl, hrest⟩
  · rw [hx hlast] at hok
    cases hok
  · exact List.mem_append_left _ (h before rest hrest hok)

theorem Cold.forgotten : Cold g b configId direction (steps ++ [.invalidate configId]) := by
  intro before after heq _
  rcases concat_eq_append_cons heq with ⟨_, _, hlast⟩ | ⟨rest, rfl, _⟩
  · cases hlast
  · exact List.mem_append_right _ (List.mem_singleton.mpr rfl)

theorem First.not_cold {before after : List Step} (h : First g b configId direction before after) :
    ¬ Cold g b configId direction (before ++ .lookUp configId direction :: after) :=
  fun hcold => h.kept (hcold before after rfl h.found)

theorem First.concat {before after : List Step} (h : First g b configId direction before after)
    {x : Step} (hx : x ≠ .invalidate configId) :
    First g b configId direction before (after ++ [x]) := by
  refine ⟨h.cold, h.found, ?_⟩
  rw [List.mem_append, List.mem_singleton, not_or]
  exact ⟨h.kept, hx.symm⟩

theorem isBlank_of_found {lifetime : Nat} {s : Backend}
    (h : (Snapshot.get lifetime s configId direction).1.isOk = true) :
    Text.isBlank configId = false := by
  cases hblank : Text.isBlank configId with
  | false => rfl
  | true =>
      rw [Snapshot.get_of_blank lifetime s hblank direction] at h
      cases h

/-- An invalidation is for both directions of a configuration, and for no other. -/
theorem find?_apply_invalidate {now : Backend} (hw : now.KeyValueWorks) {configId : String}
    (other : Direction) (otherId : String)
    (hblank : Text.isBlank configId = true →
      now.keyValue.find? (Snapshot.key other configId) = none) :
    (Step.apply g now (.invalidate configId)).keyValue.find? (Snapshot.key other otherId) =
      if otherId = configId then none else now.keyValue.find? (Snapshot.key other otherId) := by
  cases hb : Text.isBlank configId with
  | true =>
      have hinvalidate : Snapshot.invalidate now configId = .error .blankConfig := by
        unfold Snapshot.invalidate
        rw [if_pos hb]
      simp only [Step.apply, hinvalidate]
      split
      · next heq =>
        rw [heq]
        exact hblank hb
      · rfl
  | false =>
      refine (Snapshot.find?_invalidate hw hb _).trans ?_
      simp only [mem_snapshotKeys]

namespace Holds

variable (h : Holds g b configId direction steps)
include h

theorem find?_of_cold (hcold : Cold g b configId direction steps) :
    (run g b steps).keyValue.find? (Snapshot.key direction configId) = none := by
  cases h with
  | absent _ hfind => exact hfind
  | present before after rules ttl heq hfirst =>
      rw [heq] at hcold
      exact absurd hcold hfirst.not_cold

/-- Once something was found it is answered again, and nothing is done for it. -/
theorem get_of_not_cold (hw : (run g b steps).KeyValueWorks)
    (hcold : ¬ Cold g b configId direction steps) :
    ∃ before after rules, steps = before ++ .lookUp configId direction :: after ∧
      First g b configId direction before after ∧
      (load (run g b before) configId direction).1 = .ok rules ∧
      Snapshot.get g.snapshotLifetime (run g b steps) configId direction =
        (.ok rules, run g b steps) := by
  cases h with
  | absent hnone _ => exact absurd hnone hcold
  | present before after rules ttl heq hfirst hload hvalid hfind =>
      have hread := Snapshot.read_of_text hw hvalid hfind
      exact ⟨_, _, _, heq, hfirst, hload,
        Snapshot.get_of_read g.snapshotLifetime (isBlank_of_found hfirst.found) hread⟩

theorem concat_lookUp (hw : (run g b steps).KeyValueWorks)
    (hrules : ∀ r ∈ (run g b steps).rules.rules, r.Valid) :
    Holds g b configId direction (steps ++ [.lookUp configId direction]) := by
  have hafter : run g b (steps ++ [.lookUp configId direction]) =
      (Snapshot.get g.snapshotLifetime (run g b steps) configId direction).2 :=
    run_concat g b steps _
  by_cases hcold : Cold g b configId direction steps
  · have hfind := h.find?_of_cold hcold
    cases hload : (load (run g b steps) configId direction).1 with
    | error e =>
        obtain ⟨hanswer, hkept, _⟩ := Snapshot.get_of_load_error g.snapshotLifetime hfind hload
        refine .absent (hcold.concat fun _ => ?_) ?_
        · rw [hanswer]
          rfl
        · rw [hafter, hkept]
          exact hfind
    | ok rules =>
        have hget := Snapshot.get_of_load_ok g.snapshotLifetime hw hfind hload
        have hfound : (Snapshot.get g.snapshotLifetime (run g b steps) configId
            direction).1.isOk = true := by
          rw [hget]
          rfl
        obtain ⟨ttl, hwritten⟩ : ∃ ttl, (run g b (steps ++ [.lookUp configId
            direction])).keyValue.find? (Snapshot.key direction configId) =
              some ⟨.text (Snapshot.codec.encode rules), ttl⟩ := by
          rw [hafter, hget]
          exact ⟨_, (KeyValue.find?_set _ _ _ _ _).trans (if_pos rfl)⟩
        exact .present steps [] rules ttl rfl ⟨hcold, hfound, List.not_mem_nil⟩ hload
          (fun r hr => hrules r (mem_of_load hload hr)) hwritten
  · obtain ⟨_, _, _, _, _, _, hget⟩ := h.get_of_not_cold hw hcold
    have hkept : run g b (steps ++ [.lookUp configId direction]) = run g b steps :=
      hafter.trans (congrArg Prod.snd hget)
    cases h with
    | absent hnone _ => exact absurd hnone hcold
    | present before after rules ttl heq hfirst hload hvalid hfind =>
        rw [← hkept] at hfind
        exact .present before _ rules ttl (by rw [heq, append_cons_concat])
          (hfirst.concat (by simp)) hload hvalid hfind

theorem find?_of_blank (hblank : Text.isBlank configId = true) :
    (run g b steps).keyValue.find? (Snapshot.key direction configId) = none := by
  cases h with
  | absent _ hfind => exact hfind
  | present _ _ _ _ _ hfirst =>
      rw [isBlank_of_found hfirst.found] at hblank
      cases hblank

theorem concat_invalidate (hw : (run g b steps).KeyValueWorks) :
    Holds g b configId direction (steps ++ [.invalidate configId]) := by
  refine .absent Cold.forgotten ?_
  rw [run_concat, find?_apply_invalidate hw direction configId h.find?_of_blank, if_pos rfl]

theorem concat (hw : (run g b steps).KeyValueWorks)
    (hrules : ∀ r ∈ (run g b steps).rules.rules, r.Valid) {x : Step} (hx : x.Orderly) :
    Holds g b configId direction (steps ++ [x]) := by
  by_cases hinvalidate : x = .invalidate configId
  · rw [hinvalidate]
    exact h.concat_invalidate hw
  by_cases hlookUp : x = .lookUp configId direction
  · rw [hlookUp]
    exact h.concat_lookUp hw hrules
  have hkept := hx.snapshot_apply (g := g) (b := run g b steps) hlookUp hinvalidate
  rw [← run_concat] at hkept
  cases h with
  | absent hcold hfind =>
      exact .absent (hcold.concat fun heq => absurd heq hlookUp) (hkept.trans hfind)
  | present before after rules ttl heq hfirst hload hvalid hfind =>
      exact .present before _ rules ttl (by rw [heq, append_cons_concat])
        (hfirst.concat hinvalidate) hload hvalid (hkept.trans hfind)

end Holds

theorem holds_run (hw : b.KeyValueWorks) (hrules : ∀ r ∈ b.rules.rules, r.Valid)
    (hempty : b.keyValue.find? (Snapshot.key direction configId) = none)
    (hsteps : ∀ x ∈ steps, x.Orderly) : Holds g b configId direction steps := by
  induction steps using List.reverseRecOn with
  | nil => exact .absent (fun before after heq => by simp at heq) hempty
  | append_singleton steps x ih =>
      have hbefore : ∀ y ∈ steps, y.Orderly := fun y hy => hsteps y (List.mem_append_left _ hy)
      exact (ih hbefore).concat (run_keyValueWorks g hw hbefore) (run_rules_valid g hrules hbefore)
        (hsteps x (List.mem_append_right _ (List.mem_singleton.mpr rfl)))

/-- A lookup that succeeds answers what the first one found since the snapshots were forgotten.
That one queries the rule store once and writes what it finds, which lives for a second at least;
the others do nothing, and those that fail write nothing. Forgetting is for one configuration. -/
theorem get_after_run (g : Gate) {b : Backend} (hw : b.KeyValueWorks)
    (hrules : ∀ r ∈ b.rules.rules, r.Valid) (configId : String)
    (hempty : ∀ d, b.keyValue.find? (Snapshot.key d configId) = none) {steps : List Step}
    (hsteps : ∀ x ∈ steps, x.Orderly) (direction : Direction) :
    let now := run g b steps
    let answer := (Snapshot.get g.snapshotLifetime now configId direction).1
    let after := (Snapshot.get g.snapshotLifetime now configId direction).2
    (∀ rules, answer = .ok rules → ∃ before rest,
      steps ++ [.lookUp configId direction] = before ++ .lookUp configId direction :: rest ∧
        First g b configId direction before rest ∧
        (load (run g b before) configId direction).1 = .ok rules) ∧
    (Cold g b configId direction steps →
      answer = (load now configId direction).1 ∧
        ∀ rules, answer = .ok rules → after.rules.queries = now.rules.queries + 1 ∧
          ∃ ttl, 1 ≤ ttl ∧ after.journal = now.journal ++
            [.set (Snapshot.key direction configId) (Snapshot.codec.encode rules) (some ttl)]) ∧
    (¬ Cold g b configId direction steps → answer.isOk = true ∧ after = now) ∧
    (answer.isOk = false → after.keyValue = now.keyValue ∧ after.journal = now.journal) ∧
    ∀ d other, (Step.apply g now (.invalidate configId)).keyValue.find? (Snapshot.key d other) =
      if other = configId then none else now.keyValue.find? (Snapshot.key d other) := by
  intro now answer after
  have hholds (d : Direction) : Holds g b configId d steps :=
    holds_run hw hrules (hempty d) hsteps
  have hnow : now.KeyValueWorks := run_keyValueWorks g hw hsteps
  have hforgets (d : Direction) (other : String) :=
    find?_apply_invalidate (g := g) hnow d other (hholds d).find?_of_blank
  by_cases hcold : Cold g b configId direction steps
  · have hfind := (hholds direction).find?_of_cold hcold
    cases hload : (load now configId direction).1 with
    | error e =>
        obtain ⟨hanswer, hkept⟩ := Snapshot.get_of_load_error g.snapshotLifetime hfind hload
        have hfails : ∀ rules, answer ≠ .ok rules := by
          intro rules hok
          cases hok.symm.trans hanswer
        exact ⟨fun rules hok => absurd hok (hfails rules),
          fun _ => ⟨hanswer, fun rules hok => absurd hok (hfails rules)⟩, absurd hcold,
          fun _ => hkept, hforgets⟩
    | ok found =>
        have hget := Snapshot.get_of_load_ok g.snapshotLifetime hnow hfind hload
        have hanswer : answer = .ok found := congrArg Prod.fst hget
        have hafter : after = _ := congrArg Prod.snd hget
        rw [hanswer, hafter]
        refine ⟨?_, fun _ => ⟨rfl, ?_⟩, absurd hcold, nofun, hforgets⟩
        · intro rules hok
          cases hok
          have hfound : answer.isOk = true := by rw [hanswer]; rfl
          exact ⟨steps, [], rfl, ⟨hcold, hfound, List.not_mem_nil⟩, hload⟩
        · intro rules hok
          cases hok
          exact ⟨rfl, max g.snapshotLifetime 1, Nat.le_max_right _ _, rfl⟩
  · obtain ⟨before, rest, found, heq, hfirst, hload, hget⟩ :=
      (hholds direction).get_of_not_cold hnow hcold
    have hanswer : answer = .ok found := congrArg Prod.fst hget
    have hafter : after = now := congrArg Prod.snd hget
    rw [hanswer, hafter]
    refine ⟨?_, fun h => absurd h hcold, fun _ => ⟨rfl, rfl⟩, nofun, hforgets⟩
    intro rules hok
    cases hok
    refine ⟨before, rest ++ [.lookUp configId direction], ?_, hfirst.concat (by simp), hload⟩
    rw [heq, append_cons_concat]

def foundAndRemoved : List Step := [.lookUp "c" .up, .removeRule 1]

/-- What was found before the rule was removed is answered after. -/
theorem get_after_run_removed :
    ruleBackend.KeyValueWorks ∧ (∀ r ∈ ruleBackend.rules.rules, r.Valid) ∧
      (∀ d, ruleBackend.keyValue.find? (Snapshot.key d "c") = none) ∧
      (∀ x ∈ foundAndRemoved, x.Orderly) ∧
      let now := run lampGate ruleBackend foundAndRemoved
      now.rules.rules = [] ∧
      (Snapshot.get lampGate.snapshotLifetime now "c" .up).1 = .ok [ruleUp] ∧
      ∃ before rest, foundAndRemoved ++ [.lookUp "c" .up] = before ++ .lookUp "c" .up :: rest ∧
        First lampGate ruleBackend "c" .up before rest ∧
        (load (run lampGate ruleBackend before) "c" .up).1 = .ok [ruleUp] := by
  have hw : ruleBackend.KeyValueWorks := .of_faults rfl rfl
  have hrules : ∀ r ∈ ruleBackend.rules.rules, r.Valid := by decide
  have hempty (d : Direction) : ruleBackend.keyValue.find? (Snapshot.key d "c") = none := rfl
  have hsteps : ∀ x ∈ foundAndRemoved, x.Orderly := by simp [foundAndRemoved, Step.Orderly]
  have hload : (load ruleBackend "c" .up).1 = .ok [ruleUp] := by decide +kernel
  have hlookUp : Step.apply lampGate ruleBackend (.lookUp "c" .up) = _ :=
    congrArg Prod.snd (Snapshot.get_of_load_ok lampGate.snapshotLifetime hw (hempty .up) hload)
  have hnow : run lampGate ruleBackend foundAndRemoved = _ :=
    congrArg (Step.apply lampGate · (.removeRule 1)) hlookUp
  have hfind : (run lampGate ruleBackend foundAndRemoved).keyValue.find? (Snapshot.key .up "c") =
      some ⟨.text (Snapshot.codec.encode [ruleUp]), some 60⟩ := by
    rw [hnow]
    exact (KeyValue.find?_set _ _ _ _ _).trans (if_pos rfl)
  have hread := Snapshot.read_of_text (run_keyValueWorks lampGate hw hsteps) hrules hfind
  have hanswer := congrArg Prod.fst
    (Snapshot.get_of_read lampGate.snapshotLifetime (by decide) hread)
  exact ⟨hw, hrules, hempty, hsteps, by rw [hnow]; rfl, hanswer,
    (get_after_run lampGate hw hrules "c" hempty hsteps .up).1 [ruleUp] hanswer⟩

end Mapping

end DeviceGateway
