import DeviceGateway.Proofs.Gate.Frame
import DeviceGateway.Proofs.Mapping.Snapshot
import DeviceGateway.Proofs.Store.Agreement
/-!
Snapshots are exact. Rules are read back from the text that they are written as, a text that can be
read says no more than that, and so a lookup answers the same with a snapshot as without one.
-/
namespace DeviceGateway.Mapping

open Backend

namespace Snapshot

theorem codec_yields : codec.read.Yields fun rules => ∀ r ∈ rules, r.Valid :=
  Rule.codec_yields.array

/-- Whatever text rules were read from, their own text is read as those rules. -/
theorem decode?_encode_of_decode? {text : String} {rules : List Rule}
    (h : codec.decode? text = some rules) : codec.decode? (codec.encode rules) = some rules :=
  decode?_encode (Json.Codec.decode?_yields codec_yields h)

section

variable (b : Backend) (configId : String) (direction : Direction)

theorem read_eq :
    read b configId direction =
      if b.fails .get [key direction configId] then none
      else match b.keyValue.find? (key direction configId) with
        | some ⟨.text raw, _⟩ => codec.decode? raw
        | _ => none := by
  unfold read Backend.get attempt KeyValue.text?
  cases b.fails .get [key direction configId] with
  | true => rfl
  | false =>
      simp only [Bool.false_eq_true, if_false]
      cases b.keyValue.find? (key direction configId) with
      | none => rfl
      | some entry =>
          obtain ⟨content, ttl⟩ := entry
          cases content <;> rfl

/-- What is at the key of a snapshot after it was written, or was not as writing failed. -/
theorem find?_write_self (lifetime : Nat) (rules : List Rule) :
    (write lifetime b configId direction rules).keyValue.find? (key direction configId) =
      if b.fails .set [key direction configId] then b.keyValue.find? (key direction configId)
      else some ⟨.text (codec.encode rules), (some (max lifetime 1)).bind KeyValue.lifetime?⟩ := by
  unfold write
  rw [set_eq]
  cases b.fails .set [key direction configId] with
  | true => rfl
  | false => exact find?_wrote_set b _ _ _

end

variable {b b' : Backend} {configId : String} {direction : Direction}

theorem get_congr (lifetime : Nat) (h : SameParts b b')
    (hkey : b'.keyValue.find? (key direction configId) =
      b.keyValue.find? (key direction configId)) :
    (get lifetime b' configId direction).1 = (get lifetime b configId direction).1 ∧
      SameDone (· = key direction configId) b b' (get lifetime b configId direction).2
        (get lifetime b' configId direction).2 := by
  cases hblank : Text.isBlank configId with
  | true =>
      rw [get_of_blank lifetime b hblank, get_of_blank lifetime b' hblank]
      exact ⟨rfl, .nothing⟩
  | false =>
      have hread : read b' configId direction = read b configId direction := by
        rw [read_eq, read_eq, h.fails_eq, hkey]
      cases hb : read b configId direction with
      | some rules =>
          rw [get_of_read lifetime hblank hb, get_of_read lifetime hblank (hread.trans hb)]
          exact ⟨rfl, .nothing⟩
      | none =>
          have hcurrent : current b' configId direction = current b configId direction := by
            rw [current, current, enabled_congr h.rules h.selects]
          have hasked : SameDone (· = key direction configId) b b' (asked b) (asked b') :=
            .asked .nothing
          rw [get_of_miss lifetime b hb, get_of_miss lifetime b' (hread.trans hb),
            load_eq b hblank, load_eq b' hblank, h.faults, hcurrent]
          cases b.faults.rules with
          | true => exact ⟨rfl, hasked⟩
          | false =>
              refine ⟨rfl, ?_⟩
              have hfails : (asked b').fails .set [key direction configId] =
                  (asked b).fails .set [key direction configId] := h.fails_eq _ _
              simp only [Bool.false_eq_true, if_false, write, set_eq, hfails]
              cases (asked b).fails .set [key direction configId] with
              | true => exact hasked
              | false => exact .set (by rfl) _ _ hasked

/-- With a snapshot of the rules that there are, or none that can be read, a lookup answers those
rules. -/
theorem get_fst_of_read (lifetime : Nat) (hblank : Text.isBlank configId = false)
    (hrules : b.faults.rules = false)
    (hread : read b configId direction = none ∨
      read b configId direction = some (current b configId direction)) :
    (get lifetime b configId direction).1 = .ok (current b configId direction) := by
  rcases hread with hread | hread
  · rw [get_of_miss lifetime b hread, load_eq b hblank, hrules]
    rfl
  · rw [get_of_read lifetime hblank hread]

/-- A lookup leaves the key of the snapshot as it was, or puts a snapshot there of the rules that it
loaded. -/
theorem get_leaves (lifetime : Nat) (b : Backend) (configId : String) (direction : Direction) :
    (get lifetime b configId direction).2.keyValue.find? (key direction configId) =
        b.keyValue.find? (key direction configId) ∨
      Text.isBlank configId = false ∧ b.faults.rules = false ∧
        read b configId direction = none ∧
        ∃ ttl, (get lifetime b configId direction).2.keyValue.find? (key direction configId) =
          some ⟨.text (codec.encode (current b configId direction)), ttl⟩ := by
  cases hblank : Text.isBlank configId with
  | true => exact .inl (by rw [get_of_blank lifetime b hblank])
  | false =>
      cases hread : read b configId direction with
      | some rules => exact .inl (by rw [get_of_read lifetime hblank hread])
      | none =>
          rw [get_of_miss lifetime b hread, load_eq b hblank]
          cases hrules : b.faults.rules with
          | true => exact .inl rfl
          | false =>
              have hwrite := find?_write_self (asked b) configId direction lifetime
                (current b configId direction)
              split at hwrite
              · exact .inl hwrite
              · exact .inr ⟨rfl, rfl, rfl, _, hwrite⟩

/-- The same question is answered the same again, by the snapshot that the first answer left or, if
it left none, by the rule store. -/
theorem get_again (lifetime : Nat) (hvalid : ∀ r ∈ b.rules.rules, r.Valid) (configId : String)
    (direction : Direction) :
    (get lifetime (get lifetime b configId direction).2 configId direction).1 =
      (get lifetime b configId direction).1 := by
  have hparts : SameParts b (get lifetime b configId direction).2 := get_frame lifetime b trivial
  rcases get_leaves lifetime b configId direction with hkept | ⟨hblank, hrules, hread, ttl, hfind⟩
  · exact (get_congr lifetime hparts hkept).1
  · rw [get_fst_of_read lifetime hblank hrules (.inl hread)]
    generalize (get lifetime b configId direction).2 = warm at hparts hfind ⊢
    have hcurrent : current warm configId direction = current b configId direction := by
      rw [current, current, enabled_congr hparts.rules hparts.selects]
    have hdecode : codec.decode? (codec.encode (current b configId direction)) =
        some (current b configId direction) :=
      decode?_encode fun r hr => hvalid r (mem_of_current hr)
    rw [get_fst_of_read lifetime hblank (hparts.faults ▸ hrules), hcurrent]
    rw [hcurrent, read_eq, hfind]
    split
    · exact .inl rfl
    · exact .inr hdecode

/-- While the key-value store works, rules that had to be loaded are there as a snapshot. -/
theorem read_of_loaded (lifetime : Nat) (hw : b.KeyValueWorks)
    (hvalid : ∀ r ∈ b.rules.rules, r.Valid) (hread : read b configId direction = none)
    {rules : List Rule} (h : (get lifetime b configId direction).1 = .ok rules) :
    read (get lifetime b configId direction).2 configId direction = some rules := by
  have hwarm : (get lifetime b configId direction).2.KeyValueWorks :=
    hw.congr (get_frame (P := fun _ => True) (L := True) lifetime b trivial).faults
  rw [get_of_miss lifetime b hread] at h hwarm ⊢
  have hload : (load b configId direction).1 = .ok rules := by
    generalize load b configId direction = loaded at h
    obtain ⟨answer, after⟩ := loaded
    cases answer with
    | error e => cases h
    | ok found => exact h
  have hfind := find?_write (b := asked b) (hw.congr rfl) lifetime configId direction rules
    (key direction configId)
  rw [if_pos rfl] at hfind
  rw [(load_eq_ok hload).2] at hwarm ⊢
  exact read_of_text hwarm (fun r hr => hvalid r (mem_of_load hload hr)) hfind

/-- Rules whose times exist are read back from the text that they are written as. So a text that
rules were read from, in whatever form, gives way to one that says the same and is its own text; and
a lookup after a lookup answers the same, from the snapshot if it could be written. -/
theorem codec_exact :
    (∀ rules : List Rule, (∀ r ∈ rules, r.Valid) →
      codec.decode? (codec.encode rules) = some rules) ∧
    (∀ text rules, codec.decode? text = some rules →
      codec.decode? (codec.encode rules) = some rules ∧
        (codec.decode? (codec.encode rules)).map codec.encode = some (codec.encode rules)) ∧
    ∀ (lifetime : Nat) (b : Backend) (configId : String) (direction : Direction),
      (∀ r ∈ b.rules.rules, r.Valid) →
        let (answer, warm) := get lifetime b configId direction
        (get lifetime warm configId direction).1 = answer ∧
        (b.KeyValueWorks → read b configId direction = none → ∀ rules, answer = .ok rules →
          read warm configId direction = some rules) := by
  refine ⟨fun rules => decode?_encode, ?_, ?_⟩
  · intro text rules h
    have hagain := decode?_encode_of_decode? h
    exact ⟨hagain, by rw [hagain, Option.map_some]⟩
  · intro lifetime b configId direction hvalid
    refine ⟨get_again lifetime hvalid configId direction, ?_⟩
    intro hw hread rules hanswer
    exact read_of_loaded lifetime hw hvalid hread hanswer

/-- A rule as an array, with escapes, and made at a time that is given east of Greenwich. -/
def arrayText : String :=
  "[ [-9223372036854775808, \"c\", \"\\u0001\\\"\\u00e9\", \"up\", \"a\", \"b\", null, -1, true, null,\n" ++
    "\"2024-03-01T01:30:00.5+02:00\", null ] ]"

def arrayRule : Rule :=
  { ruleUp with
    id := -9223372036854775808
    name := "\x01\"é"
    priority := -1
    createdAt := some ⟨2024, 2, 29, 23, 30, 0, 500000000⟩ }

theorem codec_exact_array :
    (codec.decode? arrayText = some [arrayRule] ∧ (∀ r ∈ [arrayRule], r.Valid) ∧
      codec.decode? (codec.encode [arrayRule]) = some [arrayRule] ∧
      (codec.decode? (codec.encode [arrayRule])).map codec.encode =
        some (codec.encode [arrayRule])) ∧
    (∀ r ∈ ruleBackend.rules.rules, r.Valid) ∧ ruleBackend.KeyValueWorks ∧
    let (answer, warm) := get 60 ruleBackend "c" .up
    answer = .ok [ruleUp] ∧ (get 60 warm "c" .up).1 = .ok [ruleUp] ∧
      read warm "c" .up = some [ruleUp] := by
  have htext : codec.decode? arrayText = some [arrayRule] := by decide +kernel
  have hrule : ∀ r ∈ [arrayRule], r.Valid := by decide
  have hvalid : ∀ r ∈ ruleBackend.rules.rules, r.Valid := by decide
  have hw : ruleBackend.KeyValueWorks := .of_faults rfl rfl
  have hread : read ruleBackend "c" .up = none := read_of_none rfl
  have hanswer : (get 60 ruleBackend "c" .up).1 = .ok [ruleUp] := by decide +kernel
  obtain ⟨hwritten, htexts, hwarm⟩ := codec_exact
  obtain ⟨hagain, hloaded⟩ := hwarm 60 ruleBackend "c" .up hvalid
  exact ⟨⟨htext, hrule, hwritten _ hrule, (htexts arrayText _ htext).2⟩, hvalid, hw, hanswer,
    hagain.trans hanswer, hloaded hw hread _ hanswer⟩

end Snapshot

end DeviceGateway.Mapping
