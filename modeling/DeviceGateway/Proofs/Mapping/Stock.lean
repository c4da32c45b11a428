import DeviceGateway.Proofs.Gate.Course
import DeviceGateway.Proofs.Mapping.ReadThrough
/-!
Where the rules that a lookup answers come from. A snapshot is only ever written of rules that the
store has, so whatever happens, and whatever fails, nobody is told of a rule that was never there.
-/
namespace DeviceGateway

open Backend Purpose

/-- Whether the store answers a query with a rule, if it has it. -/
def RuleStore.Serves (s : RuleStore) (direction : Direction) (configId : String) (r : Rule) :
    Prop :=
  r.enabled = true ∧ (s.selects = true → r.direction = direction ∧ r.configId = configId)

namespace Mapping

variable {b b' : Backend} {configId : String} {direction : Direction}

theorem mem_current_iff {r : Rule} :
    r ∈ current b configId direction ↔
      r ∈ b.rules.rules ∧ b.rules.Serves direction configId r := by
  cases hselects : b.rules.selects with
  | true =>
      simp only [mem_current hselects, RuleStore.Serves, hselects, true_implies]
  | false =>
      simp only [current, byPriority, List.mem_mergeSort, List.mem_filter, RuleStore.enabled,
        RuleStore.Serves, hselects, Bool.false_eq_true, if_false, false_implies, and_true]

/-- All rules that there are, in the store and in snapshots, are `R`, and snapshots are of rules
that the store answers with. -/
structure Stocked (R : Rule → Prop) (b : Backend) : Prop where
  stored : ∀ r ∈ b.rules.rules, R r
  kept : ∀ direction configId raw ttl rules,
    b.keyValue.find? (Snapshot.key direction configId) = some ⟨.text raw, ttl⟩ →
      Snapshot.codec.decode? raw = some rules →
        ∀ r ∈ rules, R r ∧ b.rules.Serves direction configId r

namespace Stocked

variable {R : Rule → Prop} {lifetime : Nat}

/-- Snapshots may go, and rules come and go. -/
theorem of_find? (h : Stocked R b) (hrules : ∀ r ∈ b'.rules.rules, R r)
    (hselects : b'.rules.selects = b.rules.selects)
    (hfind : ∀ direction configId,
      b'.keyValue.find? (Snapshot.key direction configId) =
          b.keyValue.find? (Snapshot.key direction configId) ∨
        b'.keyValue.find? (Snapshot.key direction configId) = none) : Stocked R b' := by
  refine ⟨hrules, ?_⟩
  intro direction configId raw ttl rules hraw hdecode
  unfold RuleStore.Serves
  rw [hselects]
  rcases hfind direction configId with heq | heq
  · exact h.kept direction configId raw ttl rules (heq ▸ hraw) hdecode
  · rw [heq] at hraw
    cases hraw

theorem of_frame (h : Stocked R b) {purposes : List Purpose} {L : Prop}
    (hframe : Frame (Among purposes) L b b')
    (hpurposes : ∀ direction, Purpose.snapshot direction ∉ purposes) : Stocked R b' := by
  refine h.of_find? (by rw [hframe.rules]; exact h.stored) hframe.selects ?_
  intro direction configId
  exact .inl (hframe.keys _ (not_among (names_snapshotKey direction configId)
    (hpurposes direction)))

theorem mem_current (h : Stocked R b) :
    ∀ r ∈ current b configId direction, R r ∧ b.rules.Serves direction configId r := by
  intro r hr
  obtain ⟨hr, hserves⟩ := mem_current_iff.mp hr
  exact ⟨h.stored r hr, hserves⟩

theorem mem_read (h : Stocked R b) {rules : List Rule}
    (hread : Snapshot.read b configId direction = some rules) :
    ∀ r ∈ rules, R r ∧ b.rules.Serves direction configId r := by
  rw [Snapshot.read_eq] at hread
  split at hread
  · cases hread
  · split at hread
    · next hraw => exact h.kept direction configId _ _ rules hraw hread
    · cases hread

theorem mem_get (h : Stocked R b) {rules : List Rule}
    (hget : (Snapshot.get lifetime b configId direction).1 = .ok rules) :
    ∀ r ∈ rules, R r ∧ b.rules.Serves direction configId r := by
  cases hblank : Text.isBlank configId with
  | true =>
      rw [Snapshot.get_of_blank lifetime b hblank] at hget
      cases hget
  | false =>
      cases hread : Snapshot.read b configId direction with
      | some kept =>
          rw [Snapshot.get_of_read lifetime hblank hread] at hget
          cases hget
          exact h.mem_read hread
      | none =>
          rw [Snapshot.get_of_miss lifetime b hread, load_eq b hblank] at hget
          cases hrules : b.faults.rules with
          | true =>
              rw [hrules] at hget
              cases hget
          | false =>
              rw [hrules] at hget
              cases hget
              exact h.mem_current

variable (hR : ∀ r, R r → r.Valid)
include hR

/-- Of all effects a lookup of rules alone writes snapshots, and what it writes is read as the rules
that it found. -/
theorem effect (h : Stocked R b) (x : Effect) : Stocked R (x.run lifetime b) := by
  have hparts : SameParts b (x.run lifetime b) := Effect.run_sameParts b x
  have hstored : ∀ r ∈ (x.run lifetime b).rules.rules, R r := by
    rw [hparts.rules]
    exact h.stored
  refine ⟨hstored, ?_⟩
  intro direction configId raw ttl rules hraw hdecode
  unfold RuleStore.Serves
  rw [hparts.selects]
  have hnames := names_snapshotKey direction configId
  by_cases hkey : x.key? = some (Snapshot.key direction configId)
  · have hpurpose := Effect.purpose?_of_key hkey hnames
    cases x with
    | fetch direction' configId' =>
        obtain ⟨rfl, rfl⟩ := snapshotKey_inj (Option.some.inj hkey)
        rcases Snapshot.get_leaves lifetime b configId' direction' with hsame | ⟨_, _, _, t, hfind⟩
        · exact h.kept direction' configId' raw ttl rules (hsame ▸ hraw) hdecode
        · cases hfind.symm.trans hraw
          rw [Snapshot.decode?_encode fun r hr => hR r (h.mem_current r hr).1] at hdecode
          cases hdecode
          exact h.mem_current
    | lookUp | bind | send | count | note => cases hpurpose
  · rw [Effect.find?_run b hkey fun hlog => nomatch eq_of_names hnames hlog] at hraw
    exact h.kept direction configId raw ttl rules hraw hdecode

theorem apply (g : Gate) (h : Stocked R b) (x : Step) (hx : ∀ r, x = .addRule r → R r) :
    Stocked R (x.apply g b) := by
  cases x with
  | event hooks e =>
      exact Pipeline.handle_invariant (I := Stocked R) ⟨hooks, g⟩ (fun _ x hb => hb.effect hR x) h e
  | setFaults | setClock | putDevice => exact ⟨h.stored, h.kept⟩
  | lapse key => exact h.of_find? h.stored rfl fun _ _ => KeyValue.find?_lapse b.keyValue key _
  | addRule added =>
      refine h.of_find? ?_ rfl fun _ _ => .inl rfl
      intro r hr
      rcases Step.mem_apply_rules (g := g) hr with hr | hr
      · exact h.stored r hr
      · exact hx r hr
  | removeRule id =>
      exact h.of_find? (fun r hr => h.stored r (List.mem_filter.mp hr).1) rfl fun _ _ => .inl rfl
  | lookUp configId direction => exact h.effect hR (.fetch direction configId)
  | invalidate configId =>
      simp only [Step.apply, Snapshot.invalidate, delete_eq]
      split
      · exact h
      · split
        · exact h
        · refine h.of_find? h.stored rfl fun direction configId => ?_
          change (b.keyValue.delete _).find? _ = _ ∨ (b.keyValue.delete _).find? _ = _
          rw [KeyValue.find?_delete]
          split
          · exact .inr rfl
          · exact .inl rfl
  | setPolicy deviceId policy =>
      simp only [Step.apply]
      cases hset : DeviceLog.setPolicy b deviceId policy with
      | error e => exact h
      | ok after =>
          exact h.of_frame (L := False) (DeviceLog.setPolicy_frame
            (among_of_names (names_policyKey deviceId) (List.mem_singleton.mpr rfl)) hset)
            (by simp)
  | writeLog deviceId entry =>
      exact h.of_frame (L := False) (DeviceLog.write_frame b entry
        (among_of_names (names_logsKey deviceId) (List.mem_singleton.mpr rfl))) (by simp)

theorem run (g : Gate) (h : Stocked R b) {steps : List Step}
    (hsteps : ∀ r, .addRule r ∈ steps → R r) : Stocked R (DeviceGateway.run g b steps) := by
  induction steps generalizing b with
  | nil => exact h
  | cons x rest ih =>
      refine ih (h.apply hR g x ?_) fun r hr => hsteps r (List.mem_cons_of_mem _ hr)
      rintro r rfl
      exact hsteps r List.mem_cons_self

end Stocked

end Mapping

end DeviceGateway
