import DeviceGateway.Mapping.Service
import DeviceGateway.Proofs.Store.Purpose
/-!
What operations leave as it was. A frame says outside which keys nothing was written, whether
anything may have been sent, and that the devices, the rules, the clock and the faults are the same.
-/
namespace DeviceGateway

namespace KeyValue

theorem text?_of_find?_none {kv : KeyValue} {key : String} (h : kv.find? key = none) :
    kv.text? key = some none := by
  simp only [text?, h]

theorem find?_of_text? {kv : KeyValue} {key value : String} (h : kv.text? key = some (some value)) :
    ∃ ttl, kv.find? key = some ⟨.text value, ttl⟩ := by
  unfold text? at h
  split at h
  · cases h
  · next ttl hfind =>
    cases h
    exact ⟨ttl, hfind⟩
  · cases h

theorem find?_set (kv : KeyValue) (key other value : String) (ttl : Option Nat) :
    (kv.set key value ttl).find? other =
      if other = key then some ⟨.text value, ttl.bind lifetime?⟩ else kv.find? other :=
  find?_put kv key other _

theorem find?_delete (kv : KeyValue) (keys : List String) (other : String) :
    (kv.delete keys).find? other = if other ∈ keys then none else kv.find? other := by
  unfold delete
  induction keys generalizing kv with
  | nil => simp
  | cons key rest ih =>
      rw [List.foldl_cons, ih, find?_erase]
      by_cases h : other = key
      · simp [h]
      · simp [h]

/-- An entry that had a time to live is gone when the time is over. -/
def lapse (kv : KeyValue) (key : String) : KeyValue :=
  if (kv.ttl? key).isSome then kv.erase key else kv

theorem find?_lapse (kv : KeyValue) (key other : String) :
    (kv.lapse key).find? other = kv.find? other ∨ (kv.lapse key).find? other = none := by
  unfold lapse
  split
  · rw [find?_erase]
    split
    · exact .inr rfl
    · exact .inl rfl
  · exact .inl rfl

theorem find?_lapse_of_ttl? {kv : KeyValue} {other : String} (h : kv.ttl? other = none)
    (key : String) : (kv.lapse key).find? other = kv.find? other := by
  unfold lapse
  split
  · next hkey =>
    rw [find?_erase, if_neg]
    rintro rfl
    rw [h] at hkey
    cases hkey
  · rfl

theorem find?_lapse_congr {kv kv' : KeyValue} {other : String}
    (h : kv'.find? other = kv.find? other) (key : String) :
    (kv'.lapse key).find? other = (kv.lapse key).find? other := by
  by_cases hkey : other = key
  · subst hkey
    unfold lapse ttl?
    rw [h]
    split
    · rw [find?_erase, find?_erase, if_pos rfl, if_pos rfl]
    · exact h
  · have hkept (kv : KeyValue) : (kv.lapse key).find? other = kv.find? other := by
      unfold lapse
      split
      · rw [find?_erase, if_neg hkey]
      · rfl
    rw [hkept, hkept, h]

theorem find?_push {kv kv' : KeyValue} {key value : String} {maxItems : Nat} {ttl : Option Nat}
    (h : kv.push? key value maxItems ttl = some kv') {other : String} (hne : other ≠ key) :
    kv'.find? other = kv.find? other := by
  unfold push? at h
  obtain ⟨items, _, rfl⟩ := Option.map_eq_some_iff.mp h
  rw [find?_put, if_neg hne]

theorem items?_push {kv kv' : KeyValue} {key value : String} {maxItems : Nat} {ttl : Option Nat}
    (h : kv.push? key value maxItems ttl = some kv') :
    kv'.items? key = (kv.items? key).map fun old => (value :: old).take (max maxItems 1) := by
  unfold push? at h
  obtain ⟨old, hold, rfl⟩ := Option.map_eq_some_iff.mp h
  rw [hold, items?, find?_put, if_pos rfl]
  rfl

/-- A push that gives a time to live replaces the old one, and any other leaves it. -/
theorem ttl?_push {kv kv' : KeyValue} {key value : String} {maxItems : Nat} {ttl : Option Nat}
    (h : kv.push? key value maxItems ttl = some kv') :
    kv'.ttl? key = (ttl.filter (0 < ·)).elim (kv.ttl? key) lifetime? := by
  unfold push? at h
  obtain ⟨old, _, rfl⟩ := Option.map_eq_some_iff.mp h
  rw [ttl?, find?_put, if_pos rfl]
  cases ttl with
  | none => rfl
  | some seconds => cases seconds <;> rfl

end KeyValue

namespace Backend

/-- A backend later on: nothing was written outside the keys `P`, and nothing sent unless `L`. -/
structure Frame (P : String → Prop) (L : Prop) (b b' : Backend) : Prop where
  keys : ∀ key, ¬ P key → b'.keyValue.find? key = b.keyValue.find? key
  sent : ¬ L → b'.sent = b.sent
  devices : b'.devices = b.devices
  rules : b'.rules.rules = b.rules.rules
  selects : b'.rules.selects = b.rules.selects
  clock : b'.clock = b.clock
  faults : b'.faults = b.faults

variable {P Q : String → Prop} {L : Prop} {b b' b'' : Backend}

theorem Frame.refl : Frame P L b b := ⟨fun _ _ => rfl, fun _ => rfl, rfl, rfl, rfl, rfl, rfl⟩

theorem Frame.trans (h : Frame P L b b') (h' : Frame P L b' b'') : Frame P L b b'' :=
  ⟨fun key hk => (h'.keys key hk).trans (h.keys key hk),
    fun hL => (h'.sent hL).trans (h.sent hL), h'.devices.trans h.devices,
    h'.rules.trans h.rules, h'.selects.trans h.selects, h'.clock.trans h.clock,
    h'.faults.trans h.faults⟩

theorem Frame.of_eq {α : Type} {x : α × Backend} {a : α} (h : Frame P L b x.2) (hx : x = (a, b')) :
    Frame P L b b' := by
  rw [hx] at h
  exact h

theorem count_frame (c : Counter) : Frame P L b (b.count c) :=
  ⟨fun _ _ => rfl, fun _ => rfl, rfl, rfl, rfl, rfl, rfl⟩

theorem wrote_frame {key : String} (hP : P key) (w : KeyValue.Write) {kv : KeyValue}
    (h : ∀ other, other ≠ key → kv.find? other = b.keyValue.find? other) :
    Frame P L b (b.wrote w kv) := by
  refine ⟨?_, fun _ => rfl, rfl, rfl, rfl, rfl, rfl⟩
  intro other ho
  apply h
  rintro rfl
  exact ho hP

theorem wrote_set_frame {key : String} (hP : P key) (value : String) (ttl : Option Nat) :
    Frame P L b (b.wrote (.set key value ttl) (b.keyValue.set key value ttl)) :=
  wrote_frame hP _ fun other hne => by rw [KeyValue.find?_set, if_neg hne]

theorem fails_of_faults (h : b.faults = {}) (op : KeyValue.Op)
    (keys : List String) : b.fails op keys = false := by
  unfold fails
  rw [h, Bool.or_eq_false_iff, List.any_eq_false]
  exact ⟨rfl, fun key _ => Bool.false_ne_true⟩

/-- No operation on the key-value store fails. -/
def KeyValueWorks (b : Backend) : Prop := ∀ op keys, b.fails op keys = false

/-- No store fails; the link may. -/
structure StoresWork (b : Backend) : Prop where
  keyValue : b.KeyValueWorks
  devices : b.faults.devices = false
  unanswered : b.faults.unanswered = []
  rules : b.faults.rules = false

theorem KeyValueWorks.of_faults (hops : b.faults.keyValue = []) (hlost : b.faults.lost = []) :
    b.KeyValueWorks := by
  intro op keys
  unfold fails
  rw [hops, hlost, Bool.or_eq_false_iff, List.any_eq_false]
  exact ⟨rfl, fun key _ => Bool.false_ne_true⟩

theorem KeyValueWorks.congr (h : b.KeyValueWorks) (hfaults : b'.faults = b.faults) :
    b'.KeyValueWorks := by
  intro op keys
  unfold fails
  rw [hfaults]
  exact h op keys

theorem StoresWork.of_faults {down : Bool} (h : b.faults = { forwarder := down }) :
    b.StoresWork :=
  ⟨.of_faults (by rw [h]) (by rw [h]), by rw [h], by rw [h], by rw [h]⟩

theorem StoresWork.ask_eq (h : b.StoresWork) (q : Devices.Query) :
    b.ask q = .ok (b.devices.find? q) := by
  unfold ask device
  rw [h.unanswered, h.devices, if_neg List.not_mem_nil, if_neg Bool.false_ne_true]

/-- What an attempt gives, unless it fails, is its answer. -/
theorem attempt_eq_ok {α : Type} {op : KeyValue.Op} {keys : List String} {answer : Option α} {a : α}
    (h : b.attempt op keys answer = .ok a) : b.fails op keys = false ∧ answer = some a := by
  unfold attempt at h
  split at h
  · cases h
  · next hf =>
    refine ⟨by simpa using hf, ?_⟩
    cases answer with
    | none => cases h
    | some c => cases h; rfl

theorem attempt_eq_answer {α : Type} {op : KeyValue.Op} {keys : List String} {a : α}
    (h : b.fails op keys = false) : b.attempt op keys (some a) = .ok a := by
  simp only [attempt, h, Bool.false_eq_true, if_false]

theorem set_eq_ok {key value : String} {ttl : Option Nat} (h : b.set key value ttl = .ok b') :
    b' = b.wrote (.set key value ttl) (b.keyValue.set key value ttl) :=
  (Option.some.inj (attempt_eq_ok h).2).symm

theorem set_frame {key value : String} {ttl : Option Nat} (hP : P key)
    (h : b.set key value ttl = .ok b') : Frame P L b b' := by
  rw [set_eq_ok h]
  exact wrote_set_frame hP value ttl

theorem delete_eq_ok {keys : List String} (h : b.delete keys = .ok b') :
    b' = b.wrote (.delete keys) (b.keyValue.delete keys) :=
  (Option.some.inj (attempt_eq_ok h).2).symm

theorem delete_frame {keys : List String} (hP : ∀ key ∈ keys, P key) (h : b.delete keys = .ok b') :
    Frame P L b b' := by
  rw [delete_eq_ok h]
  refine ⟨?_, fun _ => rfl, rfl, rfl, rfl, rfl, rfl⟩
  intro key hk
  change (b.keyValue.delete keys).find? key = _
  rw [KeyValue.find?_delete, if_neg]
  intro hm
  exact hk (hP key hm)

theorem send_frame {topic : String} {payload : Bytes} (hL : L) (h : b.send topic payload = .ok b') :
    Frame P L b b' := by
  unfold send at h
  split at h
  · cases h
  · cases h
    exact ⟨fun _ _ => rfl, fun hn => absurd hL hn, rfl, rfl, rfl, rfl, rfl⟩

theorem queryRules_frame (configId : String) (direction : Direction) :
    Frame P L b (b.queryRules configId direction).2 := by
  unfold queryRules
  split <;> exact ⟨fun _ _ => rfl, fun _ => rfl, rfl, rfl, rfl, rfl, rfl⟩

end Backend

end DeviceGateway
