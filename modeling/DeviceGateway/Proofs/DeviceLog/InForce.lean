import DeviceGateway.Proofs.DeviceLog.Readback
import DeviceGateway.Proofs.Store.Agreement
/-!
Policies in force, and writing as they allow it. A policy that was set is found again, with its gaps
filled, while it is enabled and not over. An entry is written just if a policy is in force and the
store takes the item; then that one item is in front of the log, and otherwise nothing was done.
-/
namespace DeviceGateway.DeviceLog

open Backend Json Json.Codec

/-! ### Policies that were set -/

namespace Policy

theorem codec_reads (p : Policy) : codec.Reads p := by
  have ht : Transfers p fields ⟨false, 0, 0, 0⟩ p :=
    .plain (bool_reads _) (.plain (int64_reads _) (.plain (int64_reads _)
      (.plain (int64_reads _) (.nil p))))
  exact record_reads (by decide) ht

/-- Whether a policy is in force at a second: it is enabled, and if it ends it does so then or
later. -/
def InForce (p : Policy) (second : Int) : Prop :=
  p.enabled = true ∧ (0 < p.expireAt.toInt → second ≤ p.expireAt.toInt)

instance (p : Policy) (second : Int) : Decidable (p.InForce second) := by
  unfold InForce
  infer_instance

/-- A policy with its gaps filled: a thousand items are kept if no number of them is given, and no
octets of payloads if there is no number of those. -/
structure FilledAs (p filled : Policy) : Prop where
  enabled : filled.enabled = p.enabled
  expireAt : filled.expireAt = p.expireAt
  maxItems : filled.maxItems.toInt = if p.maxItems.toInt ≤ 0 then 1000 else p.maxItems.toInt
  payloadMaxBytes : filled.payloadMaxBytes.toInt = max 0 p.payloadMaxBytes.toInt

/-- What is found of a policy at a second. -/
inductive FoundAs (p : Policy) (second : Int) : Option Policy → Prop
  | inForce {filled : Policy} : p.InForce second → p.FilledAs filled →
      FoundAs p second (some filled)
  | not : ¬ p.InForce second → FoundAs p second none

theorem inForce_iff {p : Policy} {now : Int64} :
    p.InForce now.toInt ↔ p.enabled = true ∧ p.isExpired now = false := by
  have hzero : (0 : Int64).toInt = 0 := rfl
  unfold InForce isExpired
  rw [Bool.and_eq_false_iff, decide_eq_false_iff_not, decide_eq_false_iff_not,
    Int64.lt_iff_toInt_lt, Int64.lt_iff_toInt_lt, hzero]
  constructor
  · rintro ⟨henabled, hends⟩
    exact ⟨henabled, by omega⟩
  · rintro ⟨henabled, hunexpired⟩
    exact ⟨henabled, by omega⟩

theorem filledAs_normalized (p : Policy) : p.FilledAs p.normalized := by
  have hzero : (0 : Int64).toInt = 0 := rfl
  refine ⟨rfl, rfl, ?_, ?_⟩
  · have hgap : p.maxItems ≤ 0 ↔ p.maxItems.toInt ≤ 0 := Int64.le_iff_toInt_le
    unfold normalized
    simp only [hgap, apply_ite Int64.toInt]
    rfl
  · have hgap : p.payloadMaxBytes < 0 ↔ p.payloadMaxBytes.toInt < 0 := Int64.lt_iff_toInt_lt
    unfold normalized
    simp only [hgap, apply_ite Int64.toInt, hzero]
    omega

end Policy

theorem policy_of_stored {b : Backend} {deviceId raw : String} {p : Policy}
    (hdevice : deviceId ≠ "") (hget : b.get (policyKey deviceId) = .ok (some raw))
    (hraw : Policy.codec.decode? raw = some p) :
    ∃ found, policy b deviceId = .ok found ∧ p.FoundAs b.clock.seconds.toInt found := by
  unfold policy
  rw [if_neg (mt String.isEmpty_iff.mp hdevice), hget]
  dsimp only
  rw [hraw]
  dsimp only
  split
  · next hout =>
    refine ⟨none, rfl, .not ?_⟩
    rw [Policy.inForce_iff]
    rintro ⟨henabled, hunexpired⟩
    rw [henabled, hunexpired] at hout
    cases hout
  · next hin =>
    refine ⟨_, rfl, .inForce ?_ p.filledAs_normalized⟩
    rw [Bool.or_eq_true, not_or, Bool.not_eq_true, Bool.not_eq_true, Bool.not_eq_false'] at hin
    exact Policy.inForce_iff.mpr hin

/-- Whatever has become of the clock and the faults since a policy was set, it is found unless the
store does not answer. -/
theorem policy_setPolicy {b set : Backend} {deviceId : String} {p : Policy}
    (h : setPolicy b deviceId p = .ok set) (now : Instant) (faults : Faults) :
    let later := { set with clock := now, faults }
    if later.fails .get [policyKey deviceId] then
      policy later deviceId = .error (.store (.failed .get))
    else ∃ found, policy later deviceId = .ok found ∧ p.FoundAs now.seconds.toInt found := by
  intro later
  obtain ⟨hdevice, rfl⟩ := setPolicy_eq_ok h
  have hstored := find?_wrote_set b (policyKey deviceId) (Policy.codec.encode p) none
  have htext : later.keyValue.text? (policyKey deviceId) = some (some (Policy.codec.encode p)) := by
    unfold KeyValue.text?
    rw [show later.keyValue.find? (policyKey deviceId) = _ from hstored]
  split
  · next hfails =>
    have hget : later.get (policyKey deviceId) = .error (.failed .get) := if_pos hfails
    unfold policy
    rw [if_neg (mt String.isEmpty_iff.mp hdevice), hget]
  · next hworks =>
    have hget : later.get (policyKey deviceId) = .ok (some (Policy.codec.encode p)) := by
      unfold Backend.get
      rw [htext]
      exact attempt_eq_answer (Bool.not_eq_true _ ▸ hworks)
    exact policy_of_stored hdevice hget p.codec_reads.decode?_encode

/-! ### Entries that are written -/

/-- What is asked of the store for an entry under a policy. -/
def pushEntry (b : Backend) (deviceId : String) (e : Entry) (p : Policy) :
    Except StoreError Backend :=
  b.push (logsKey deviceId) (Entry.codec.encode (e.prepared deviceId b.clock p))
    p.maxItems.toInt.toNat (p.logLifetime b.clock.seconds)

/-- One item is put in front of a log, of which so many are kept, and nothing else is changed. -/
structure PutsOne (b : Backend) (deviceId item : String) (limit : Nat) (after : Backend) :
    Prop where
  items : ∃ old, b.keyValue.items? (logsKey deviceId) = some old ∧
    after.keyValue.items? (logsKey deviceId) = some ((item :: old).take limit)
  elsewhere : ∀ key, key ≠ logsKey deviceId → after.keyValue.find? key = b.keyValue.find? key
  rest : ∃ ttl, after = { b with
    keyValue := after.keyValue
    journal := b.journal ++ [.push (logsKey deviceId) item limit ttl] }

/-- Why an entry cannot be written: it is for no device, what is stored is no policy, or the store
does not tell the policy or does not take the item. -/
inductive Hinders (b : Backend) (deviceId : String) (e : Entry) : Error → Prop
  | noDevice : deviceId = "" → Hinders b deviceId e .emptyDevice
  | noPolicy {raw : String} : b.get (policyKey deviceId) = .ok (some raw) →
      Policy.codec.decode? raw = none → Hinders b deviceId e .malformed
  | untold {err : StoreError} : b.get (policyKey deviceId) = .error err →
      Hinders b deviceId e (.store err)
  | untaken {p : Policy} {err : StoreError} : policy b deviceId = .ok (some p) →
      pushEntry b deviceId e p = .error err → Hinders b deviceId e (.store err)

theorem hinders_of_policy {b : Backend} {deviceId : String} {err : Error} (e : Entry)
    (h : policy b deviceId = .error err) : Hinders b deviceId e err := by
  unfold policy at h
  split at h
  · next hempty =>
    cases h
    exact .noDevice (String.isEmpty_iff.mp hempty)
  split at h
  · next hget =>
    cases h
    exact .untold hget
  · cases h
  · next hget =>
    split at h
    · next hraw =>
      cases h
      exact .noPolicy hget hraw
    · split at h <;> cases h

inductive Ends (b : Backend) (deviceId : String) (e : Entry) : Except Error Bool × Backend → Prop
  | written {p : Policy} {after : Backend} : policy b deviceId = .ok (some p) →
      pushEntry b deviceId e p = .ok after → Ends b deviceId e (.ok true, after)
  | closed : policy b deviceId = .ok none → Ends b deviceId e (.ok false, b)
  | hindered {err : Error} : Hinders b deviceId e err → Ends b deviceId e (.error err, b)

theorem write_ends (b : Backend) (deviceId : String) (e : Entry) :
    Ends b deviceId e (write b deviceId e) := by
  unfold write
  cases hp : policy b deviceId with
  | error err => exact .hindered (hinders_of_policy e hp)
  | ok found =>
      cases found with
      | none => exact .closed hp
      | some p =>
          dsimp only
          rw [← pushEntry]
          cases hpush : pushEntry b deviceId e p with
          | error err => exact .hindered (.untaken hp hpush)
          | ok after => exact .written hp hpush

theorem write_eq_true_iff {b : Backend} {deviceId : String} {e : Entry} :
    (write b deviceId e).1 = .ok true ↔
      ∃ p after, policy b deviceId = .ok (some p) ∧ pushEntry b deviceId e p = .ok after := by
  constructor
  · intro htrue
    have hends := write_ends b deviceId e
    generalize write b deviceId e = result at hends htrue
    cases hends with
    | written hp hpush => exact ⟨_, _, hp, hpush⟩
    | closed hp => cases htrue
    | hindered hwhy => cases htrue
  · rintro ⟨p, after, hp, hpush⟩
    unfold pushEntry at hpush
    unfold write
    rw [hp]
    dsimp only
    rw [hpush]

theorem putsOne_of_pushEntry {b after : Backend} {deviceId : String} {e : Entry} {p : Policy}
    (hp : policy b deviceId = .ok (some p)) (h : pushEntry b deviceId e p = .ok after) :
    PutsOne b deviceId (Entry.codec.encode (e.prepared deviceId b.clock p))
      p.maxItems.toInt.toNat after := by
  obtain ⟨q, _, _, hq⟩ := policy_eq_some hp
  have hpos : 0 < p.maxItems.toInt := hq ▸ q.normalized_maxItems_pos
  have hmax : max p.maxItems.toInt.toNat 1 = p.maxItems.toInt.toNat := by omega
  obtain ⟨kv, hkv, rfl⟩ := Option.map_eq_some_iff.mp (attempt_eq_ok h).2
  refine ⟨?_, fun key hkey => KeyValue.find?_push hkv hkey, _, rfl⟩
  obtain ⟨old, hold, _⟩ := Option.map_eq_some_iff.mp hkv
  refine ⟨old, hold, (KeyValue.items?_push hkv).trans ?_⟩
  rw [hold, Option.map_some, hmax]

/-- A policy that was set is found, with its gaps filled, while it is enabled and not over, and none
is found otherwise. An entry is written just if a policy is in force and the store takes the item.
Then the item is put in front of the log and nothing else is changed; and nothing at all is if there
is no policy in force or anything fails. -/
theorem policy_gates_log (b : Backend) (deviceId : String) :
    (∀ p set, setPolicy b deviceId p = .ok set → ∀ now faults,
      let later := { set with clock := now, faults }
      if later.fails .get [policyKey deviceId] then
        policy later deviceId = .error (.store (.failed .get))
      else ∃ found, policy later deviceId = .ok found ∧ p.FoundAs now.seconds.toInt found) ∧
    ∀ e : Entry,
      let (answer, after) := write b deviceId e
      (answer = .ok true ↔
        ∃ p pushed, policy b deviceId = .ok (some p) ∧ pushEntry b deviceId e p = .ok pushed) ∧
      (answer = .ok true → ∃ p logged, policy b deviceId = .ok (some p) ∧
        e.LoggedAs deviceId b.clock p.payloadMaxBytes.toInt.toNat logged ∧
        PutsOne b deviceId (Entry.codec.encode logged) p.maxItems.toInt.toNat after) ∧
      (answer = .ok false → policy b deviceId = .ok none ∧ after = b) ∧
      ∀ err, answer = .error err → Hinders b deviceId e err ∧ after = b := by
  refine ⟨fun p set hset => policy_setPolicy hset, ?_⟩
  intro e
  have hends := write_ends b deviceId e
  have htrue : (write b deviceId e).1 = .ok true ↔ _ := write_eq_true_iff
  generalize write b deviceId e = result at hends htrue
  refine ⟨htrue, ?_⟩
  cases hends with
  | written hp hpush =>
      refine ⟨fun _ => ?_, nofun, nofun⟩
      exact ⟨_, _, hp, e.prepared_loggedAs deviceId b.clock _, putsOne_of_pushEntry hp hpush⟩
  | closed hp => exact ⟨nofun, fun _ => ⟨hp, rfl⟩, nofun⟩
  | hindered hwhy =>
      refine ⟨nofun, nofun, ?_⟩
      rintro err ⟨⟩
      exact ⟨hwhy, rfl⟩

/-- A policy that ends at second 2100, with gaps. -/
def gappyPolicy : Policy := ⟨true, 2100, 0, -3⟩

def gappy (second : Int64) : Backend where
  keyValue := ⟨[("devdebug:cfg:d1", ⟨.text (Policy.codec.encode gappyPolicy), none⟩)]⟩
  journal := [.set "devdebug:cfg:d1" (Policy.codec.encode gappyPolicy) none]
  clock := ⟨second, 0⟩

theorem policy_gates_log_gappy :
    setPolicy {} "d1" gappyPolicy = .ok (gappy 2000) ∧
      (∃ filled, policy (gappy 2100) "d1" = .ok (some filled) ∧ gappyPolicy.FilledAs filled) ∧
      policy (gappy 2101) "d1" = .ok none ∧
      (∃ logged, greeting.LoggedAs "d1" ⟨2100, 0⟩ 0 logged ∧
        PutsOne (gappy 2100) "d1" (Entry.codec.encode logged) 1000
          (write (gappy 2100) "d1" greeting).2) ∧
      write (gappy 2101) "d1" greeting = (.ok false, gappy 2101) := by
  have hset : setPolicy {} "d1" gappyPolicy = .ok (gappy 2000) := rfl
  have hfound := (policy_gates_log {} "d1").1 gappyPolicy _ hset
  refine ⟨hset, ?_, ?_, ?_, ?_⟩
  · obtain ⟨found, hpolicy, hfound⟩ := hfound ⟨2100, 0⟩ {}
    cases hfound with
    | inForce _ hfilled => exact ⟨_, hpolicy, hfilled⟩
    | not hout => exact absurd (by decide) hout
  · obtain ⟨found, hpolicy, hfound⟩ := hfound ⟨2101, 0⟩ {}
    cases hfound with
    | inForce hin _ => exact absurd hin (by decide)
    | not _ => exact hpolicy
  · have hpolicy : policy (gappy 2100) "d1" = .ok (some gappyPolicy.normalized) := by
      decide +kernel
    have htrue : (write (gappy 2100) "d1" greeting).1 = .ok true := by decide +kernel
    obtain ⟨p, logged, hp, hlogged, hputs⟩ :=
      ((policy_gates_log (gappy 2100) "d1").2 greeting).2.1 htrue
    cases hpolicy.symm.trans hp
    exact ⟨logged, hlogged, hputs⟩
  · have hfalse : (write (gappy 2101) "d1" greeting).1 = .ok false := by decide +kernel
    exact Prod.ext hfalse (((policy_gates_log (gappy 2101) "d1").2 greeting).2.2.1 hfalse).2

end DeviceGateway.DeviceLog
