import DeviceGateway.Proofs.Gate.Transcript
/-!
Lookups of rules where the key-value store cannot be relied on. Whatever is at the key of a snapshot
and whether or not it can be read and written, a lookup answers what a snapshot says that can be
read, and just what the rule store says if there is none; and where a snapshot can be written, one
that could not be read is put right.
-/
namespace DeviceGateway.Mapping.Snapshot

open Backend

/-- The key of a snapshot can be read, and has a text that spells these rules. -/
structure Legible (b : Backend) (configId : String) (direction : Direction) (rules : List Rule) :
    Prop where
  works : b.fails .get [key direction configId] = false
  spelled : ∃ raw ttl, b.keyValue.find? (key direction configId) = some ⟨.text raw, ttl⟩ ∧
    codec.decode? raw = some rules

section

variable {b : Backend} {configId : String} {direction : Direction} {rules : List Rule}

theorem Legible.read_eq (h : Legible b configId direction rules) :
    read b configId direction = some rules := by
  obtain ⟨raw, ttl, hfind, hdecode⟩ := h.spelled
  have htext : b.keyValue.text? (key direction configId) = some (some raw) := by
    simp only [KeyValue.text?, hfind]
  have hget : b.get (key direction configId) = .ok (some raw) := by
    unfold Backend.get
    rw [htext]
    exact attempt_eq_answer h.works
  unfold read
  rw [hget]
  exact hdecode

theorem legible_of_read (h : read b configId direction = some rules) :
    Legible b configId direction rules := by
  unfold read at h
  split at h
  · next raw hget =>
    obtain ⟨hworks, htext⟩ := attempt_eq_ok hget
    obtain ⟨ttl, hfind⟩ := KeyValue.find?_of_text? htext
    exact ⟨hworks, raw, ttl, hfind, h⟩
  · cases h

theorem read_eq_none (h : ∀ rules, ¬ Legible b configId direction rules) :
    read b configId direction = none := by
  cases hread : read b configId direction with
  | none => rfl
  | some rules => exact absurd (legible_of_read hread) (h rules)

theorem legible_of_encoded (hvalid : ∀ r ∈ rules, r.Valid) {ttl : Option Nat}
    (hfind : b.keyValue.find? (key direction configId) = some ⟨.text (codec.encode rules), ttl⟩)
    (hworks : b.fails .get [key direction configId] = false) :
    Legible b configId direction rules :=
  ⟨hworks, _, ttl, hfind, decode?_encode hvalid⟩

end

/-! ### Snapshots that are written down -/

/-- The key-value store was left as it was. -/
def Untouched (b after : Backend) : Prop :=
  after.keyValue = b.keyValue ∧ after.journal = b.journal

/-- Rules were written down as a snapshot, over whatever was there, and nothing else was; every
later lookup has them from there while the snapshot stays and can be read. -/
structure WrittenDown (lifetime : Nat) (b after : Backend) (configId : String)
    (direction : Direction) (rules : List Rule) : Prop where
  journal : after.journal = b.journal ++
    [.set (key direction configId) (codec.encode rules) (some (max lifetime 1))]
  find? : ∀ other, after.keyValue.find? other =
    if other = key direction configId then
      some ⟨.text (codec.encode rules), KeyValue.lifetime? (max lifetime 1)⟩
    else b.keyValue.find? other
  recalled : ∀ lifetime' later,
    later.keyValue.find? (key direction configId) =
      after.keyValue.find? (key direction configId) →
    later.fails .get [key direction configId] = false →
    get lifetime' later configId direction = (.ok rules, later)

section

variable {b : Backend} {configId : String} {direction : Direction} {rules : List Rule}
variable (lifetime : Nat)

theorem write_untouched (hset : b.fails .set [key direction configId] = true) :
    write lifetime b configId direction rules = b := by
  unfold write
  rw [set_eq, hset]
  rfl

theorem write_of_works (hset : b.fails .set [key direction configId] = false) :
    write lifetime b configId direction rules =
      b.wrote (.set (key direction configId) (codec.encode rules) (some (max lifetime 1)))
        (b.keyValue.set (key direction configId) (codec.encode rules)
          (some (max lifetime 1))) := by
  unfold write
  rw [set_eq, hset]
  rfl

theorem write_writtenDown (hblank : Text.isBlank configId = false)
    (hvalid : ∀ r ∈ rules, r.Valid) (hset : b.fails .set [key direction configId] = false) :
    WrittenDown lifetime b (write lifetime b configId direction rules) configId direction
      rules := by
  have hfind (other : String) :
      (write lifetime b configId direction rules).keyValue.find? other =
        if other = key direction configId then
          some ⟨.text (codec.encode rules), KeyValue.lifetime? (max lifetime 1)⟩
        else b.keyValue.find? other := by
    rw [write_of_works lifetime hset]
    exact KeyValue.find?_set _ _ _ _ _
  refine ⟨?_, hfind, ?_⟩
  · rw [write_of_works lifetime hset]
    rfl
  · intro lifetime' later hlater hworks
    rw [hfind, if_pos rfl] at hlater
    exact get_of_read lifetime' hblank (legible_of_encoded hvalid hlater hworks).read_eq

theorem write_rules : (write lifetime b configId direction rules).rules = b.rules := by
  cases hset : b.fails .set [key direction configId] with
  | true => rw [write_untouched lifetime hset]
  | false =>
      rw [write_of_works lifetime hset]
      rfl

/-- Without a legible snapshot the rule store is queried once, and its answer is the lookup's. -/
theorem get_of_illegible (hblank : Text.isBlank configId = false)
    (h : ∀ rules, ¬ Legible b configId direction rules) :
    get lifetime b configId direction = match (load b configId direction).1 with
      | .error e => (.error e, asked b)
      | .ok rules => (.ok rules, write lifetime (asked b) configId direction rules) := by
  have hload : load b configId direction = ((load b configId direction).1, asked b) := by
    rw [load_eq b hblank]
  rw [get_of_miss lifetime b (read_eq_none h), hload]
  cases (load b configId direction).1 with
  | error e => rfl
  | ok rules => rfl

/-- A lookup for no configuration makes no call to the key-value store. -/
theorem exchanges_rules_blank (hblank : Text.isBlank configId = true) :
    (Script.rules lifetime configId direction).exchanges b = [] := by
  unfold Script.rules
  rw [if_pos hblank]
  rfl

end

/-- No fault of the key-value store gets through to who looks rules up, and none is passed over. A
legible snapshot is answered, and nothing else is done. Otherwise the rule store is queried once and
its answer is the lookup's: an error leaves the key-value store as it is, and rules are written down
if that works. Without a configuration no store is called. -/
theorem get_absorbs_faults (lifetime : Nat) {b : Backend} (hvalid : ∀ r ∈ b.rules.rules, r.Valid)
    (configId : String) (direction : Direction) :
    let answer := (get lifetime b configId direction).1
    let after := (get lifetime b configId direction).2
    (Text.isBlank configId = true → answer = .error .blankConfig ∧ after = b ∧
      (Script.rules lifetime configId direction).exchanges b = []) ∧
    (Text.isBlank configId = false →
      (∀ rules, Legible b configId direction rules → answer = .ok rules ∧ after = b) ∧
      ((∀ rules, ¬ Legible b configId direction rules) →
        answer = (load b configId direction).1 ∧
        after.rules = { b.rules with queries := b.rules.queries + 1 } ∧
        (∀ e, answer = .error e → Untouched b after) ∧
        ∀ rules, answer = .ok rules →
          (b.fails .set [key direction configId] = true → Untouched b after) ∧
          (b.fails .set [key direction configId] = false →
            WrittenDown lifetime b after configId direction rules))) := by
  intro answer after
  refine ⟨?_, ?_⟩
  · intro hblank
    have hget := get_of_blank lifetime b hblank direction
    exact ⟨congrArg Prod.fst hget, congrArg Prod.snd hget, exchanges_rules_blank lifetime hblank⟩
  intro hblank
  refine ⟨?_, ?_⟩
  · intro rules hlegible
    have hget := get_of_read lifetime hblank hlegible.read_eq
    exact ⟨congrArg Prod.fst hget, congrArg Prod.snd hget⟩
  intro hillegible
  have hget := get_of_illegible lifetime hblank hillegible
  cases hload : (load b configId direction).1 with
  | error e =>
      rw [hload] at hget
      have hanswer : answer = .error e := congrArg Prod.fst hget
      have hafter : after = asked b := congrArg Prod.snd hget
      rw [hanswer, hafter]
      exact ⟨rfl, rfl, fun _ _ => ⟨rfl, rfl⟩, nofun⟩
  | ok found =>
      rw [hload] at hget
      have hanswer : answer = .ok found := congrArg Prod.fst hget
      have hafter : after = write lifetime (asked b) configId direction found :=
        congrArg Prod.snd hget
      rw [hanswer, hafter]
      refine ⟨rfl, write_rules lifetime, nofun, ?_⟩
      rintro rules ⟨⟩
      refine ⟨?_, ?_⟩
      · intro hset
        rw [write_untouched (b := asked b) lifetime hset]
        exact ⟨rfl, rfl⟩
      · intro hset
        have hfound : ∀ r ∈ found, r.Valid := fun r hr => hvalid r (mem_of_load hload hr)
        -- the query changes nothing that a snapshot is written down to
        obtain ⟨hjournal, hfind, hrecalled⟩ :=
          write_writtenDown (b := asked b) lifetime hblank hfound hset
        exact ⟨hjournal, hfind, hrecalled⟩

def spoiledBackend : Backend :=
  { ruleBackend with keyValue := ⟨[(key .up "c", ⟨.list ["x"], none⟩)]⟩ }

theorem spoiledBackend_illegible (rules : List Rule) : ¬ Legible spoiledBackend "c" .up rules := by
  rintro ⟨_, raw, ttl, hfind, _⟩
  have hlist : spoiledBackend.keyValue.find? (key .up "c") = some ⟨.list ["x"], none⟩ := by decide
  rw [hlist] at hfind
  cases hfind

/-- The list gives way to a snapshot, which the next lookup answers. -/
theorem get_absorbs_faults_spoiled :
    (∀ r ∈ spoiledBackend.rules.rules, r.Valid) ∧ Text.isBlank "c" = false ∧
      (∀ rules, ¬ Legible spoiledBackend "c" .up rules) ∧
      (get 60 spoiledBackend "c" .up).1 = .ok [ruleUp] ∧
      spoiledBackend.fails .set [key .up "c"] = false ∧
      get 60 (get 60 spoiledBackend "c" .up).2 "c" .up =
        (.ok [ruleUp], (get 60 spoiledBackend "c" .up).2) := by
  have hvalid : ∀ r ∈ spoiledBackend.rules.rules, r.Valid := by decide
  have hblank : Text.isBlank "c" = false := by decide
  have hload : (load spoiledBackend "c" .up).1 = .ok [ruleUp] := by decide +kernel
  have hset : spoiledBackend.fails .set [key .up "c"] = false := by decide
  obtain ⟨hanswer, _, _, hrules⟩ :=
    ((get_absorbs_faults 60 hvalid "c" .up).2 hblank).2 spoiledBackend_illegible
  have hfound := hanswer.trans hload
  have hnext := ((hrules _ hfound).2 hset).recalled 60 _ rfl (by decide +kernel)
  exact ⟨hvalid, hblank, spoiledBackend_illegible, hfound, hset, hnext⟩

end DeviceGateway.Mapping.Snapshot
