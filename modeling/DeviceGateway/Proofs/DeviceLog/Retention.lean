import DeviceGateway.Proofs.DeviceLog.Write
import Mathlib.Data.List.Induction
/-!
What a device's log keeps while its policy changes. Each entry that is written cuts the log to the
number of items that the policy allows at the time, so an entry is kept as long as no later one
finds too many in front of it. Nothing that happens to one device is done to another's log or
policy.
-/
namespace DeviceGateway

namespace KeyValue

/-- Whatever is at a key gives way to an entry, or to nothing. -/
def replace (kv : KeyValue) (key : String) : Option Entry → KeyValue
  | some entry => kv.put key entry
  | none => kv.erase key

theorem find?_replace (kv : KeyValue) (key other : String) (entry : Option Entry) :
    (kv.replace key entry).find? other = if other = key then entry else kv.find? other := by
  cases entry with
  | some entry => exact find?_put kv key other entry
  | none => exact find?_erase kv key other

end KeyValue

namespace DeviceLog

open Backend

/-! ### The policy in force -/

/-- A policy that is stored for a device, and that the store tells of. -/
def Stored (b : Backend) (deviceId : String) (p : Policy) : Prop :=
  deviceId ≠ "" ∧ ∃ raw, b.get (policyKey deviceId) = .ok (some raw) ∧
    Policy.codec.decode? raw = some p

/-- A policy in force is one that is stored, enabled and not over, with its gaps filled. -/
theorem policy_eq_some_iff {b : Backend} {deviceId : String} {p : Policy} :
    policy b deviceId = .ok (some p) ↔
      ∃ q : Policy, Stored b deviceId q ∧ q.enabled = true ∧
        q.isExpired b.clock.seconds = false ∧ p = q.normalized := by
  constructor
  · intro h
    unfold policy at h
    split at h
    · cases h
    next hdevice =>
    split at h
    · cases h
    · cases h
    next raw hget =>
    split at h
    · cases h
    next q hraw =>
    split at h
    · cases h
    next hforce =>
    rw [Bool.or_eq_true, not_or, Bool.not_eq_true, Bool.not_eq_true, Bool.not_eq_false'] at hforce
    cases h
    exact ⟨q, ⟨mt String.isEmpty_iff.mpr hdevice, raw, hget, hraw⟩, hforce.1, hforce.2, rfl⟩
  · rintro ⟨q, ⟨hdevice, raw, hget, hraw⟩, henabled, hunexpired, rfl⟩
    unfold policy
    rw [if_neg (mt String.isEmpty_iff.mp hdevice), hget]
    dsimp only
    rw [hraw]
    dsimp only
    rw [henabled, hunexpired]
    rfl

theorem policy_eq_some {b : Backend} {deviceId : String} {p : Policy}
    (h : policy b deviceId = .ok (some p)) :
    ∃ q : Policy, q.enabled = true ∧ q.isExpired b.clock.seconds = false ∧ p = q.normalized :=
  let ⟨q, _, hforce⟩ := policy_eq_some_iff.mp h
  ⟨q, hforce⟩

theorem Policy.normalized_maxItems_pos (p : Policy) : 0 < p.normalized.maxItems.toInt := by
  unfold normalized
  dsimp only
  split
  · decide
  · next h => exact Int64.lt_iff_toInt_lt.mp (Int64.not_le.mp h)

/-! ### Runs around one log -/

/-- What may happen next to the log of a device: its policy becomes anything, of whatever kind, the
clock is set, parts of the backend fail or recover, or an entry is written. -/
inductive Turn where
  | setPolicy (stored : Option KeyValue.Entry)
  | setClock (now : Instant)
  | setFaults (faults : Faults)
  | write (e : Entry)

/-- An item that was put in front of a log, with the policy in force and the second. -/
structure Line where
  item : String
  policy : Policy
  second : Int64
deriving DecidableEq

def Line.limit (l : Line) : Nat := l.policy.maxItems.toInt.toNat

namespace Turn

def apply (deviceId : String) (b : Backend) : Turn → Backend
  | .setPolicy stored => { b with keyValue := b.keyValue.replace (policyKey deviceId) stored }
  | .setClock now => { b with clock := now }
  | .setFaults faults => { b with faults }
  | .write e => (DeviceLog.write b deviceId e).2

/-- What a write that succeeds puts in front of the log. -/
def line? (deviceId : String) (b : Backend) : Turn → Option Line
  | .write e =>
    match DeviceLog.policy b deviceId, (DeviceLog.write b deviceId e).1 with
    | .ok (some p), .ok true =>
      some ⟨Entry.codec.encode (e.prepared deviceId b.clock p), p, b.clock.seconds⟩
    | _, _ => none
  | _ => none

end Turn

def follow (deviceId : String) (b : Backend) (turns : List Turn) : Backend :=
  turns.foldl (Turn.apply deviceId) b

/-- What was put in front of the log in a run, in order. -/
def lines (deviceId : String) : Backend → List Turn → List Line
  | _, [] => []
  | b, t :: rest => (t.line? deviceId b).toList ++ lines deviceId (t.apply deviceId b) rest

theorem follow_concat (deviceId : String) (b : Backend) (turns : List Turn) (t : Turn) :
    follow deviceId b (turns ++ [t]) = t.apply deviceId (follow deviceId b turns) :=
  List.foldl_append

theorem lines_concat (deviceId : String) (b : Backend) (turns : List Turn) (t : Turn) :
    lines deviceId b (turns ++ [t]) =
      lines deviceId b turns ++ (t.line? deviceId (follow deviceId b turns)).toList := by
  induction turns generalizing b with
  | nil => exact List.append_nil _
  | cons u rest ih =>
      rw [List.cons_append, lines, ih, lines, List.append_assoc]
      rfl

theorem logsKey_ne_policyKey (deviceId other : String) : logsKey deviceId ≠ policyKey other := by
  intro h
  cases Purpose.eq_of_names (Purpose.names_logsKey deviceId) (h ▸ Purpose.names_policyKey other)

namespace Turn

variable (deviceId : String) (b : Backend) (t : Turn)

theorem apply_cases :
    (t.line? deviceId b = none ∧ (t.apply deviceId b).keyValue.find? (logsKey deviceId) =
      b.keyValue.find? (logsKey deviceId)) ∨
    ∃ l, t.line? deviceId b = some l ∧
      (∃ q : Policy, l.policy = q.normalized ∧ q.isExpired l.second = false) ∧
      b.keyValue.push? (logsKey deviceId) l.item l.limit (l.policy.logLifetime l.second) =
        some (t.apply deviceId b).keyValue := by
  cases t with
  | setPolicy stored =>
      refine .inl ⟨rfl, ?_⟩
      exact (KeyValue.find?_replace _ _ _ _).trans (if_neg (logsKey_ne_policyKey _ _))
  | setClock now => exact .inl ⟨rfl, rfl⟩
  | setFaults faults => exact .inl ⟨rfl, rfl⟩
  | write e =>
      obtain ⟨p, kv, hp, hkv, hwrite⟩ | ⟨hfailed, hkept⟩ := write_cases b deviceId e
      · obtain ⟨q, _, hunexpired, hq⟩ := policy_eq_some hp
        let l : Line := ⟨Entry.codec.encode (e.prepared deviceId b.clock p), p, b.clock.seconds⟩
        have hline : (Turn.write e).line? deviceId b = some l := by simp only [line?, hp, hwrite, l]
        refine .inr ⟨l, hline, ⟨q, hq, hunexpired⟩, ?_⟩
        simp only [apply, hwrite]
        exact hkv
      · refine .inl ⟨?_, ?_⟩
        · simp only [line?]
          split
          · next hok => exact absurd hok hfailed
          · rfl
        · simp only [apply, hkept]

theorem find?_apply {key : String} (hlog : key ≠ logsKey deviceId)
    (hpolicy : key ≠ policyKey deviceId) :
    (t.apply deviceId b).keyValue.find? key = b.keyValue.find? key := by
  cases t with
  | setPolicy stored => exact (KeyValue.find?_replace _ _ _ _).trans (if_neg hpolicy)
  | setClock now => rfl
  | setFaults faults => rfl
  | write e =>
      exact (write_frame (P := (· = logsKey deviceId)) (L := True) b e rfl).keys key hlog

end Turn

theorem find?_follow (deviceId : String) (b : Backend) (turns : List Turn) {key : String}
    (hlog : key ≠ logsKey deviceId) (hpolicy : key ≠ policyKey deviceId) :
    (follow deviceId b turns).keyValue.find? key = b.keyValue.find? key := by
  induction turns using List.reverseRecOn with
  | nil => rfl
  | append_singleton turns t ih =>
      rw [follow_concat, t.find?_apply deviceId _ hlog hpolicy]
      exact ih

/-! ### Which lines are kept -/

/-- Whether no line of a log, from the `i`th on, found the `i`th too far behind. -/
def Survives (ls : List Line) (i : Nat) : Prop :=
  ∀ j (h : j < ls.length), i ≤ j → j - i < ls[j].limit

instance (ls : List Line) (i : Nat) : Decidable (Survives ls i) := by
  unfold Survives
  infer_instance

/-- The items of the lines that survive, the newest first. -/
def retained (ls : List Line) : List String :=
  ((ls.zipIdx.filter fun (_, i) => Survives ls i).map fun (l, _) => l.item).reverse

/-- How many lines a log holds. -/
def held (ls : List Line) : Nat := ls.foldl (fun n l => min l.limit (n + 1)) 0

theorem held_concat (ls : List Line) (l : Line) : held (ls ++ [l]) = min l.limit (held ls + 1) :=
  List.foldl_append

theorem held_le_length (ls : List Line) : held ls ≤ ls.length := by
  induction ls using List.reverseRecOn with
  | nil => exact Nat.le_refl 0
  | append_singleton ls l ih =>
      rw [held_concat, List.length_append, List.length_singleton]
      omega

theorem survives_concat {ls : List Line} {l : Line} {i : Nat} (hi : i ≤ ls.length) :
    Survives (ls ++ [l]) i ↔ Survives ls i ∧ ls.length - i < l.limit := by
  constructor
  · intro h
    refine ⟨?_, ?_⟩
    · intro j hj hij
      have hlater := h j (by rw [List.length_append]; omega) hij
      rwa [List.getElem_append_left hj] at hlater
    · have hlast := h ls.length (by rw [List.length_append]; exact Nat.lt_succ_self _) hi
      rwa [List.getElem_concat_length rfl] at hlast
  · rintro ⟨hbefore, hlast⟩ j hj hij
    rw [List.length_append, List.length_singleton] at hj
    rcases Nat.lt_succ_iff_lt_or_eq.mp hj with hj | rfl
    · rw [List.getElem_append_left hj]
      exact hbefore j hj hij
    · rw [List.getElem_concat_length rfl]
      exact hlast

/-- The lines that survive are the last ones, as many as the log holds. -/
theorem survives_iff {ls : List Line} {i : Nat} (hi : i < ls.length) :
    Survives ls i ↔ ls.length - held ls ≤ i := by
  induction ls using List.reverseRecOn generalizing i with
  | nil => cases hi
  | append_singleton ls l ih =>
      have hheld := held_le_length ls
      rw [List.length_append, List.length_singleton] at hi
      rw [survives_concat (Nat.lt_succ_iff.mp hi), held_concat, List.length_append,
        List.length_singleton]
      rcases Nat.lt_succ_iff_lt_or_eq.mp hi with hi | rfl
      · rw [ih hi]
        omega
      · have hnone : Survives ls ls.length := fun j hj hij => absurd hj (Nat.not_lt.mpr hij)
        simp only [hnone, true_and]
        omega

theorem filter_zipIdx (ls : List Line) (first least : Nat) :
    (ls.zipIdx first).filter (fun (_, i) => least ≤ i) =
      (ls.zipIdx first).drop (least - first) := by
  induction ls generalizing first with
  | nil => rw [List.zipIdx_nil, List.drop_nil, List.filter_nil]
  | cons l ls ih =>
      rw [List.zipIdx_cons, List.filter_cons, ih (first + 1)]
      by_cases h : least ≤ first
      · rw [if_pos (by simpa using h), Nat.sub_eq_zero_of_le h,
          Nat.sub_eq_zero_of_le (Nat.le_succ_of_le h), List.drop_zero, List.drop_zero]
      · obtain ⟨k, hk⟩ : ∃ k, least - first = k + 1 := ⟨least - first - 1, by omega⟩
        rw [if_neg (by simpa using h), hk, List.drop_succ_cons]
        congr 1
        omega

theorem retained_eq_take (ls : List Line) :
    retained ls = (ls.map Line.item).reverse.take (held ls) := by
  have hfilter : ls.zipIdx.filter (fun (_, i) => Survives ls i) =
      ls.zipIdx.filter fun (_, i) => ls.length - held ls ≤ i := by
    apply List.filter_congr
    rintro ⟨l, i⟩ hmem
    have hi : i < ls.length := by simpa using List.snd_lt_of_mem_zipIdx hmem
    exact decide_eq_decide.mpr (survives_iff hi)
  have hitems (n : Nat) : (ls.zipIdx.drop n).map (fun (l, _) => l.item) =
      (ls.map Line.item).drop n := by
    rw [List.map_drop, ← List.zipIdx_map_fst 0 ls, List.map_map]
    simp only [List.zipIdx_map_fst]
    rfl
  have hheld := held_le_length ls
  unfold retained
  rw [hfilter, filter_zipIdx, hitems, List.reverse_drop, List.length_map]
  congr 1
  omega

theorem retained_concat (ls : List Line) (l : Line) :
    retained (ls ++ [l]) = (l.item :: retained ls).take l.limit := by
  rw [retained_eq_take, retained_eq_take, held_concat, List.map_append, List.reverse_append,
    ← List.take_take]
  rfl

theorem head?_retained {ls : List Line} {l : Line} (h : ls.getLast? = some l)
    (hlimit : 0 < l.limit) : (retained ls).head? = some l.item := by
  obtain ⟨before, rfl⟩ := List.getLast?_eq_some_iff.mp h
  obtain ⟨n, hn⟩ : ∃ n, l.limit = n + 1 := ⟨l.limit - 1, by omega⟩
  rw [retained_concat, hn]
  rfl

theorem length_retained_le {ls : List Line} {l : Line} (h : ls.getLast? = some l) :
    (retained ls).length ≤ l.limit := by
  obtain ⟨before, rfl⟩ := List.getLast?_eq_some_iff.mp h
  rw [retained_concat]
  exact List.length_take_le _ _

/-! ### The log after a run -/

/-- Every line of a run was put in front of the log under a policy in force. -/
theorem mem_lines {deviceId : String} {b : Backend} {turns : List Turn} {l : Line}
    (h : l ∈ lines deviceId b turns) :
    ∃ q : Policy, l.policy = q.normalized ∧ q.isExpired l.second = false := by
  induction turns generalizing b with
  | nil => cases h
  | cons t rest ih =>
      rcases List.mem_append.mp h with h | h
      · obtain ⟨hnone, _⟩ | ⟨line, hsome, hforce, _⟩ := t.apply_cases deviceId b
        · rw [hnone] at h
          cases h
        · rw [hsome] at h
          cases List.mem_singleton.mp h
          exact hforce
      · exact ih h

theorem limit_pos {deviceId : String} {b : Backend} {turns : List Turn} {l : Line}
    (h : l ∈ lines deviceId b turns) : 0 < l.limit := by
  obtain ⟨q, hq, _⟩ := mem_lines h
  have hpos := q.normalized_maxItems_pos
  unfold Line.limit
  rw [hq]
  omega

theorem items?_follow {deviceId : String} {b : Backend}
    (hnew : b.keyValue.find? (logsKey deviceId) = none) (turns : List Turn) :
    (follow deviceId b turns).keyValue.items? (logsKey deviceId) =
      some (retained (lines deviceId b turns)) := by
  induction turns using List.reverseRecOn with
  | nil => simp only [follow, List.foldl_nil, KeyValue.items?, hnew, lines, retained_eq_take,
      List.map_nil, List.reverse_nil, List.take_nil]
  | append_singleton turns t ih =>
      rw [follow_concat, lines_concat]
      obtain ⟨hnone, hfind⟩ | ⟨l, hsome, _, hpush⟩ :=
        t.apply_cases deviceId (follow deviceId b turns)
      · rw [hnone, Option.toList_none, List.append_nil, ← ih]
        unfold KeyValue.items?
        rw [hfind]
      · have hmem : l ∈ lines deviceId b (turns ++ [t]) := by
          rw [lines_concat, hsome]
          exact List.mem_append_right _ List.mem_cons_self
        have hmax : max l.limit 1 = l.limit := Nat.max_eq_left (limit_pos hmem)
        rw [KeyValue.items?_push hpush, ih, hsome, hmax]
        exact congrArg some (retained_concat _ l).symm

/-- A log that begins empty holds the items of just those lines that no later line found too far
behind, the newest first; so the last line is in front, and there are no more than the policy
allowed when it was written. What is done to one device leaves the logs and policies of all others
alone. -/
theorem log_retains {deviceId : String} {b : Backend}
    (hnew : b.keyValue.find? (logsKey deviceId) = none) (turns : List Turn) :
    let after := follow deviceId b turns
    let ls := lines deviceId b turns
    after.keyValue.items? (logsKey deviceId) = some (retained ls) ∧
      (∀ l, ls.getLast? = some l →
        (retained ls).head? = some l.item ∧ (retained ls).length ≤ l.limit) ∧
      ∀ other, other ≠ deviceId →
        after.keyValue.find? (logsKey other) = b.keyValue.find? (logsKey other) ∧
          after.keyValue.find? (policyKey other) = b.keyValue.find? (policyKey other) := by
  refine ⟨items?_follow hnew turns, ?_, ?_⟩
  · intro l hlast
    exact ⟨head?_retained hlast (limit_pos (List.mem_of_getLast? hlast)),
      length_retained_le hlast⟩
  · intro other hother
    have hlogs : logsKey other ≠ logsKey deviceId :=
      fun h => hother ((String.append_right_inj _).mp h)
    have hpolicies : policyKey other ≠ policyKey deviceId :=
      fun h => hother ((String.append_right_inj _).mp h)
    exact ⟨find?_follow deviceId b turns hlogs (logsKey_ne_policyKey other deviceId),
      find?_follow deviceId b turns (logsKey_ne_policyKey deviceId other).symm hpolicies⟩

/-- A policy that never ends, for logs of so many items, as it is stored. -/
def storedPolicy (maxItems : Int64) : KeyValue.Entry :=
  ⟨.text (Policy.codec.encode ⟨true, 0, maxItems, 8⟩), none⟩

def logged (payload : String) : Turn :=
  .write { heading := .up, action := .publish, outcome := .ok, payload }

/-- A log that shrinks to one item, is closed for a while and grows again. -/
def changefulTurns : List Turn :=
  [.setPolicy (storedPolicy 3), logged "a", logged "b", .setPolicy (storedPolicy 1), logged "c",
    .setPolicy none, logged "d", .setPolicy (storedPolicy 3), .setClock ⟨2010, 0⟩, logged "e"]

theorem log_retains_changeful :
    ({} : Backend).keyValue.find? (logsKey "d1") = none ∧
      (follow "d1" {} changefulTurns).keyValue.items? (logsKey "d1") =
        some (retained (lines "d1" {} changefulTurns)) ∧
      (lines "d1" {} changefulTurns).map Line.limit = [3, 3, 1, 3] ∧
      retained (lines "d1" {} changefulTurns) =
        ((lines "d1" {} changefulTurns).map Line.item).reverse.take 2 := by
  have hnew : ({} : Backend).keyValue.find? (logsKey "d1") = none := rfl
  exact ⟨hnew, (log_retains hnew changefulTurns).1, by decide +kernel, by decide +kernel⟩

end DeviceLog

end DeviceGateway
