import DeviceGateway.Proofs.Rule
import DeviceGateway.Proofs.Store.Frame
/-!
What loading rules gives, and what reading, writing and forgetting snapshots does, when nothing
fails.
-/
namespace DeviceGateway.Mapping

open Backend Json

theorem load_blank (b : Backend) {configId : String} (h : Text.isBlank configId = true)
    (direction : Direction) : (load b configId direction).1 = .error .blankConfig := by
  unfold load
  rw [if_pos h]

/-- The rules that the rule store has for a configuration, as a query of it finds them. -/
def current (b : Backend) (configId : String) (direction : Direction) : List Rule :=
  byPriority ((b.rules.enabled configId direction).filter (·.enabled))

def asked (b : Backend) : Backend :=
  { b with rules := { b.rules with queries := b.rules.queries + 1 } }

theorem load_eq (b : Backend) {configId : String} (hblank : Text.isBlank configId = false)
    (direction : Direction) :
    load b configId direction =
      (if b.faults.rules then .error (.store .rulesUnavailable)
        else .ok (current b configId direction), asked b) := by
  unfold load queryRules
  rw [hblank]
  cases b.faults.rules with
  | true => rfl
  | false => rfl

theorem load_fst {b : Backend} (h : b.faults = {}) (configId : String) (direction : Direction) :
    (load b configId direction).1 =
      if Text.isBlank configId then .error .blankConfig
      else .ok (current b configId direction) := by
  cases hblank : Text.isBlank configId with
  | true =>
      rw [load_blank b hblank]
      rfl
  | false =>
      rw [load_eq b hblank, h]
      rfl

theorem load_eq_ok {b : Backend} {configId : String} {direction : Direction} {rules : List Rule}
    (h : (load b configId direction).1 = .ok rules) :
    rules = current b configId direction ∧ load b configId direction = (.ok rules, asked b) := by
  cases hblank : Text.isBlank configId with
  | true =>
      rw [load_blank b hblank] at h
      cases h
  | false =>
      rw [load_eq b hblank] at h ⊢
      cases hfaults : b.faults.rules with
      | true =>
          rw [hfaults] at h
          cases h
      | false =>
          rw [hfaults] at h
          cases h
          exact ⟨rfl, rfl⟩

theorem load_keyValue (b : Backend) (configId : String) (direction : Direction) :
    (load b configId direction).2.keyValue = b.keyValue ∧
      (load b configId direction).2.journal = b.journal := by
  cases hblank : Text.isBlank configId with
  | true =>
      unfold load
      rw [if_pos hblank]
      exact ⟨rfl, rfl⟩
  | false =>
      rw [load_eq b hblank]
      exact ⟨rfl, rfl⟩

theorem mem_of_current {b : Backend} {configId : String} {direction : Direction} {r : Rule}
    (h : r ∈ current b configId direction) : r ∈ b.rules.rules := by
  have henabled := (List.mem_filter.mp (List.mem_mergeSort.mp h)).1
  unfold RuleStore.enabled at henabled
  split at henabled
  · exact (List.mem_filter.mp henabled).1
  · exact henabled

theorem mem_current {b : Backend} (hselects : b.rules.selects = true) {configId : String}
    {direction : Direction} {r : Rule} :
    r ∈ current b configId direction ↔
      r ∈ b.rules.rules ∧ r.enabled = true ∧ r.direction = direction ∧ r.configId = configId := by
  unfold current byPriority RuleStore.enabled
  rw [List.mem_mergeSort, hselects, if_pos rfl]
  simp only [List.mem_filter, Bool.and_eq_true, decide_eq_true_eq]
  constructor
  · rintro ⟨⟨hr, ⟨_, hdirection⟩, hconfig⟩, henabled⟩
    exact ⟨hr, henabled, hdirection, hconfig⟩
  · rintro ⟨hr, henabled, hdirection, hconfig⟩
    exact ⟨⟨hr, ⟨henabled, hdirection⟩, hconfig⟩, henabled⟩

theorem load_fst_congr {b b' : Backend} (hf : b.faults = {}) (hf' : b'.faults = {})
    {configId : String} {direction : Direction}
    (h : b'.rules.enabled configId direction = b.rules.enabled configId direction) :
    (load b' configId direction).1 = (load b configId direction).1 := by
  rw [load_fst hf, load_fst hf', current, current, h]

theorem enabled_congr {s s' : RuleStore} (hrules : s'.rules = s.rules)
    (hselects : s'.selects = s.selects) (configId : String) (direction : Direction) :
    s'.enabled configId direction = s.enabled configId direction := by
  unfold RuleStore.enabled
  rw [hrules, hselects]

theorem mem_of_load {b : Backend} {configId : String} {direction : Direction} {rules : List Rule}
    (h : (load b configId direction).1 = .ok rules) {r : Rule} (hr : r ∈ rules) :
    r ∈ b.rules.rules := by
  rw [(load_eq_ok h).1] at hr
  exact mem_of_current hr

namespace Snapshot

theorem decode?_encode {rules : List Rule} (h : ∀ r ∈ rules, r.Valid) :
    codec.decode? (codec.encode rules) = some rules := by
  apply Codec.Reads.decode?_encode
  apply Codec.list_reads
  intro r hr
  exact ⟨Rule.codec_reads (h r hr), '\x7b', _, rfl, by decide, by decide, by decide⟩

theorem write_eq {b : Backend} (hw : b.KeyValueWorks) (lifetime : Nat) (configId : String)
    (direction : Direction) (rules : List Rule) :
    write lifetime b configId direction rules =
      b.wrote (.set (key direction configId) (codec.encode rules) (some (max lifetime 1)))
        (b.keyValue.set (key direction configId) (codec.encode rules) (some (max lifetime 1))) := by
  have hset : b.set (key direction configId) (codec.encode rules) (some (max lifetime 1)) = .ok _ :=
    attempt_eq_answer (hw _ _)
  unfold write
  rw [hset]

theorem invalidate_eq {b : Backend} (hw : b.KeyValueWorks) {configId : String}
    (hblank : Text.isBlank configId = false) :
    invalidate b configId = .ok (b.wrote (.delete [key .up configId, key .down configId])
      (b.keyValue.delete [key .up configId, key .down configId])) := by
  have hdelete : b.delete [key .up configId, key .down configId] = .ok _ :=
    attempt_eq_answer (hw _ _)
  unfold invalidate
  rw [hblank, hdelete]
  rfl

theorem find?_write {b : Backend} (hw : b.KeyValueWorks) (lifetime : Nat) (configId : String)
    (direction : Direction) (rules : List Rule) (other : String) :
    (write lifetime b configId direction rules).keyValue.find? other =
      if other = key direction configId then
        some ⟨.text (codec.encode rules), (some (max lifetime 1)).bind KeyValue.lifetime?⟩
      else b.keyValue.find? other := by
  rw [write_eq hw]
  exact KeyValue.find?_set _ _ _ _ _

/-- No snapshot of a configuration is left when they are invalidated, and all else is. -/
theorem find?_invalidate {b : Backend} (hw : b.KeyValueWorks) {configId : String}
    (hblank : Text.isBlank configId = false) (other : String) :
    (((invalidate b configId).toOption).getD b).keyValue.find? other =
      if other ∈ [key .up configId, key .down configId] then none else b.keyValue.find? other := by
  rw [invalidate_eq hw hblank]
  exact KeyValue.find?_delete _ _ _

theorem read_of_none {b : Backend} {configId : String} {direction : Direction}
    (h : b.keyValue.find? (key direction configId) = none) : read b configId direction = none := by
  unfold read
  split
  · next raw hget =>
    have htext := (attempt_eq_ok hget).2
    rw [KeyValue.text?_of_find?_none h] at htext
    cases htext
  · rfl

theorem read_of_text {b : Backend} (hw : b.KeyValueWorks) {configId : String}
    {direction : Direction} {rules : List Rule} (hvalid : ∀ r ∈ rules, r.Valid) {ttl : Option Nat}
    (h : b.keyValue.find? (key direction configId) = some ⟨.text (codec.encode rules), ttl⟩) :
    read b configId direction = some rules := by
  have hget : b.get (key direction configId) = .ok (some (codec.encode rules)) := by
    have htext : b.keyValue.text? (key direction configId) = some (some (codec.encode rules)) := by
      simp only [KeyValue.text?, h]
    unfold Backend.get
    rw [htext]
    exact attempt_eq_answer (hw _ _)
  unfold read
  rw [hget]
  exact decode?_encode hvalid

theorem get_of_blank (lifetime : Nat) (b : Backend) {configId : String}
    (hblank : Text.isBlank configId = true) (direction : Direction) :
    get lifetime b configId direction = (.error .blankConfig, b) := by
  unfold get
  rw [if_pos hblank]

/-- What is read is answered, and nothing else is done. -/
theorem get_of_read (lifetime : Nat) {b : Backend} {configId : String}
    (hblank : Text.isBlank configId = false) {direction : Direction} {rules : List Rule}
    (h : read b configId direction = some rules) :
    get lifetime b configId direction = (.ok rules, b) := by
  unfold get
  rw [hblank, h]
  rfl

/-- Without a snapshot the rule store is queried, and what it has is written down. -/
theorem get_of_miss (lifetime : Nat) (b : Backend) {configId : String} {direction : Direction}
    (h : read b configId direction = none) :
    get lifetime b configId direction =
      match load b configId direction with
      | (.error e, after) => (.error e, after)
      | (.ok rules, after) => (.ok rules, write lifetime after configId direction rules) := by
  cases hblank : Text.isBlank configId with
  | true =>
      rw [get_of_blank lifetime b hblank]
      unfold load
      rw [if_pos hblank]
  | false =>
      unfold get
      rw [hblank, h]
      rfl

section

variable {b : Backend} {configId : String} {direction : Direction}
variable (lifetime : Nat)

theorem get_of_load_error (h : b.keyValue.find? (key direction configId) = none) {e : Error}
    (hload : (load b configId direction).1 = .error e) :
    (get lifetime b configId direction).1 = .error e ∧
      (get lifetime b configId direction).2.keyValue = b.keyValue ∧
      (get lifetime b configId direction).2.journal = b.journal := by
  have hstore := load_keyValue b configId direction
  rw [get_of_miss lifetime b (read_of_none h)]
  generalize load b configId direction = loaded at hload hstore ⊢
  obtain ⟨answer, after⟩ := loaded
  cases hload
  exact ⟨rfl, hstore⟩

/-- A lookup that finds no snapshot queries the rule store once and writes one. -/
theorem get_of_load_ok (hw : b.KeyValueWorks) (h : b.keyValue.find? (key direction configId) = none)
    {rules : List Rule} (hload : (load b configId direction).1 = .ok rules) :
    get lifetime b configId direction = (.ok rules, (asked b).wrote
      (.set (key direction configId) (codec.encode rules) (some (max lifetime 1)))
      (b.keyValue.set (key direction configId) (codec.encode rules) (some (max lifetime 1)))) := by
  rw [get_of_miss lifetime b (read_of_none h), (load_eq_ok hload).2]
  have hasked : (asked b).KeyValueWorks := hw.congr rfl
  exact congrArg (Prod.mk _) (write_eq hasked lifetime configId direction rules)

end

theorem ask_eq {α : Type} (lifetime : Nat) (b : Backend) (configId : String) (direction : Direction)
    (question : List Rule → α) :
    ask lifetime b configId direction question =
      ((get lifetime b configId direction).1.map question,
        (get lifetime b configId direction).2) := by
  unfold ask
  generalize get lifetime b configId direction = got
  obtain ⟨answer, after⟩ := got
  cases answer with
  | error e => rfl
  | ok rules => rfl

/-- A snapshot, if there is one, is of the rules that the rule store has. -/
def Fresh (b : Backend) (configId : String) (direction : Direction) : Prop :=
  b.keyValue.find? (key direction configId) = none ∨
    ∃ ttl, b.keyValue.find? (key direction configId) =
      some ⟨.text (codec.encode (current b configId direction)), ttl⟩

/-- With fresh snapshots a lookup answers what the rule store has. -/
theorem get_of_fresh (lifetime : Nat) {b : Backend} (hw : b.KeyValueWorks)
    (hrules : b.faults.rules = false) (hvalid : ∀ r ∈ b.rules.rules, r.Valid) {configId : String}
    {direction : Direction} (hfresh : Fresh b configId direction)
    (hblank : Text.isBlank configId = false) :
    (get lifetime b configId direction).1 = .ok (current b configId direction) := by
  rcases hfresh with hfind | ⟨ttl, hfind⟩
  · rw [get_of_miss lifetime b (read_of_none hfind), load_eq b hblank, hrules]
    rfl
  · have hread := read_of_text hw (fun r hr => hvalid r (mem_of_current hr)) hfind
    rw [get_of_read lifetime hblank hread]

end Snapshot

def ruleUp : Rule :=
  { Rule.blank with id := 1, configId := "c", source := "a", target := "b", enabled := true }

def ruleBackend : Backend := { rules := { rules := [ruleUp] } }

end DeviceGateway.Mapping
