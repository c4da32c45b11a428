import DeviceGateway.Proofs.DeviceLog.InForce
import DeviceGateway.Proofs.DeviceLog.Lifetime
import DeviceGateway.Proofs.Gate.Transcript
/-!
What writing an entry asks of the store, be it granted or not. A write comes as far as a push just
under a policy in force. What it asks for then is exact within 64 bits: at least one item, and a
time to live just if the policy ends.
-/
namespace DeviceGateway

/-- The accesses of a script to the key-value store, whatever they are answered. -/
def Script.accesses {α : Type} (c : Script α) (b : Backend) : List Access :=
  (c.exchanges b).map Sigma.fst

theorem Script.accesses_bind {α β : Type} (c : Script α) (k : α → Script β) (b : Backend) :
    (c >>= k).accesses b = c.accesses b ++ (k (c.run b).1).accesses (c.run b).2 := by
  unfold accesses
  rw [exchanges_bind, List.map_append]

namespace DeviceLog

namespace Policy

/-- What is asked for under a policy that is stored: how many items to keep, and how long. -/
structure Asks (p : Policy) (now : Int64) (limit : Nat) (ttl : Option Nat) : Prop where
  items : (limit : Int) = if p.maxItems.toInt ≤ 0 then 1000 else p.maxItems.toInt
  bounds : 1 ≤ limit ∧ (limit : Int) ≤ Int64.maxValue.toInt
  ending : 0 < p.expireAt.toInt → p.Reckoned now ∧ ∃ seconds : Nat, ttl = some seconds ∧
    (seconds : Int) =
      min (min (p.expireAt.toInt - now.toInt) Int64.maxValue.toInt + 600) Int64.maxValue.toInt ∧
    600 ≤ seconds
  endless : p.expireAt.toInt ≤ 0 → ttl = none

theorem Asks.unique {p : Policy} {now : Int64} {limit limit' : Nat} {ttl ttl' : Option Nat}
    (h : p.Asks now limit ttl) (h' : p.Asks now limit' ttl') : limit = limit' ∧ ttl = ttl' := by
  refine ⟨Int.ofNat.inj (h.items.trans h'.items.symm), ?_⟩
  rcases Int.lt_or_le 0 p.expireAt.toInt with hends | hends
  · obtain ⟨-, seconds, rfl, hseconds, -⟩ := h.ending hends
    obtain ⟨-, seconds', rfl, hseconds', -⟩ := h'.ending hends
    exact congrArg some (Int.ofNat.inj (hseconds.trans hseconds'.symm))
  · rw [h.endless hends, h'.endless hends]

theorem InForce.asks {p : Policy} {now : Int64} (hforce : p.InForce now.toInt) :
    p.Asks now p.normalized.maxItems.toInt.toNat (p.normalized.logLifetime now) := by
  have hpos := p.normalized_maxItems_pos
  have hfilled := p.filledAs_normalized.maxItems
  have hzero : (0 : Int64).toInt = 0 := rfl
  have hcast : (p.normalized.maxItems.toInt.toNat : Int) = p.normalized.maxItems.toInt :=
    Int.toNat_of_nonneg (Int.le_of_lt hpos)
  refine ⟨hcast.trans hfilled, ⟨by omega, ?_⟩, fun hends => ?_, fun hendless => ?_⟩
  · rw [hcast]
    exact Int64.toInt_le _
  · -- It is the check for expiry that keeps the first step from going below zero.
    have hlater : now.toInt ≤ p.expireAt.toInt := hforce.2 hends
    have hreckoned := reckoned hlater
    have hgrace := hreckoned.grace
    refine ⟨hreckoned, (p.secondsAsked now).toInt.toNat, ?_, ?_, by omega⟩
    · exact logLifetime_of_le hlater (Int64.lt_iff_toInt_lt.mpr (hzero ▸ hends))
    · rw [Int.toNat_of_nonneg (by omega), hreckoned.asked, hreckoned.left]
  · exact if_neg (mt Int64.lt_iff_toInt_lt.mp (Int.not_lt.mpr hendless))

end Policy

/-! ### The calls of a write -/

section

variable (b : Backend) (deviceId : String) (e : Entry)

theorem accesses_policy :
    (Script.policy deviceId).accesses b =
      if deviceId.isEmpty then [] else [.get (.policy deviceId) nofun] := by
  unfold Script.policy
  split
  · rfl
  · rw [Script.accesses_bind, Script.run_get]
    refine congrArg (List.cons _) ?_
    cases b.get (Slot.policy deviceId).key with
    | error err => rfl
    | ok kept =>
        cases kept with
        | none => rfl
        | some raw =>
            dsimp only
            cases Policy.codec.decode? raw <;> rfl

theorem accesses_writeLog :
    (Script.writeLog deviceId e).accesses b =
      (Script.policy deviceId).accesses b ++
        match policy b deviceId with
        | .ok (some p) =>
          [.push deviceId (Entry.codec.encode (e.prepared deviceId b.clock p))
            p.maxItems.toInt.toNat (p.logLifetime b.clock.seconds)]
        | _ => [] := by
  unfold Script.writeLog
  rw [Script.accesses_bind, Script.run_policy]
  refine congrArg (_ ++ ·) ?_
  cases policy b deviceId with
  | error err => rfl
  | ok found =>
      cases found with
      | none => rfl
      | some p =>
          rw [Script.accesses_bind, Script.run_time]
          dsimp only
          rw [Script.accesses_bind]
          refine congrArg (List.cons _) ?_
          generalize (Script.push _ _ _ _).run b = pushed
          cases pushed.1 <;> rfl

theorem push_mem_accesses {device item : String} {limit : Nat} {ttl : Option Nat} :
    .push device item limit ttl ∈ (Script.writeLog deviceId e).accesses b ↔
      ∃ p, policy b deviceId = .ok (some p) ∧ device = deviceId ∧
        item = Entry.codec.encode (e.prepared deviceId b.clock p) ∧
        limit = p.maxItems.toInt.toNat ∧ ttl = p.logLifetime b.clock.seconds := by
  have hpolicy : .push device item limit ttl ∉ (Script.policy deviceId).accesses b := by
    rw [accesses_policy]
    split
    · exact List.not_mem_nil
    · rw [List.mem_singleton]
      nofun
  rw [accesses_writeLog, List.mem_append, or_iff_right hpolicy]
  constructor
  · intro hmem
    split at hmem
    · next p hp =>
      cases List.mem_singleton.mp hmem
      exact ⟨p, hp, rfl, rfl, rfl, rfl⟩
    · cases hmem
  · rintro ⟨p, hp, rfl, rfl, rfl, rfl⟩
    rw [hp]
    exact .head _

end

/-- A write pushes just if a policy is stored and in force at the time. Then the number of items is
positive and within 64 bits. The time to live is the exact number of seconds until the policy ends
with the grace, cut at the greatest number alone, and there is none only if the policy does not
end. -/
theorem write_asks (b : Backend) (deviceId : String) (e : Entry) :
    (Script.writeLog deviceId e).run b = write b deviceId e ∧
    ∀ device item limit ttl,
      .push device item limit ttl ∈ (Script.writeLog deviceId e).accesses b ↔
        device = deviceId ∧ ∃ p : Policy, Stored b deviceId p ∧
          p.InForce b.clock.seconds.toInt ∧
          item = Entry.codec.encode (e.prepared deviceId b.clock p.normalized) ∧
          p.Asks b.clock.seconds limit ttl := by
  refine ⟨Script.run_writeLog b deviceId e, fun device item limit ttl => ?_⟩
  rw [push_mem_accesses]
  constructor
  · rintro ⟨found, hfound, rfl, rfl, rfl, rfl⟩
    obtain ⟨p, hstored, henabled, hunexpired, rfl⟩ := policy_eq_some_iff.mp hfound
    have hforce := Policy.inForce_iff.mpr ⟨henabled, hunexpired⟩
    exact ⟨rfl, p, hstored, hforce, rfl, hforce.asks⟩
  · rintro ⟨rfl, p, hstored, hforce, rfl, hasks⟩
    obtain ⟨henabled, hunexpired⟩ := Policy.inForce_iff.mp hforce
    obtain ⟨rfl, rfl⟩ := hasks.unique hforce.asks
    have hfound := policy_eq_some_iff.mpr ⟨p, hstored, henabled, hunexpired, rfl⟩
    exact ⟨p.normalized, hfound, rfl, rfl, rfl, rfl⟩

/-- A policy that ends with the last second that can be told. -/
def lastingPolicy : Policy := ⟨true, Int64.maxValue, 0, 8⟩

/-- It is stored, and the clock is shortly before 1970: neither step stays within 64 bits. -/
def earlyBackend : Backend where
  keyValue := ⟨[(policyKey "d1", ⟨.text (Policy.codec.encode lastingPolicy), none⟩)]⟩
  clock := ⟨-5, 0⟩

theorem write_asks_lasting :
    let e : Entry := { heading := .up, action := .publish, outcome := .ok, payload := "a" }
    let asked := (Script.writeLog "d1" e).accesses earlyBackend
    let item := Entry.codec.encode (e.prepared "d1" ⟨-5, 0⟩ lastingPolicy.normalized)
    .push "d1" item 1000 (some 9223372036854775807) ∈ asked ∧
      ∀ limit, .push "d1" item limit none ∉ asked := by
  intro e asked item
  have hkept : earlyBackend.get (policyKey "d1") =
      .ok (some (Policy.codec.encode lastingPolicy)) := rfl
  have hread := lastingPolicy.codec_reads.decode?_encode
  have hstored : Stored earlyBackend "d1" lastingPolicy := ⟨by decide, _, hkept, hread⟩
  have hforce : lastingPolicy.InForce (-5) := by decide
  have hreckoned : lastingPolicy.Reckoned (-5) := ⟨by decide, by decide, by decide⟩
  refine ⟨?_, fun limit hmem => ?_⟩
  · refine ((write_asks earlyBackend "d1" e).2 _ _ _ _).mpr
      ⟨rfl, lastingPolicy, hstored, hforce, rfl, ?_⟩
    exact ⟨by decide, by decide, fun _ => ⟨hreckoned, _, rfl, by decide, by decide⟩, by decide⟩
  · obtain ⟨-, p, ⟨-, raw, hget, hraw⟩, -, -, hasks⟩ :=
      ((write_asks earlyBackend "d1" e).2 _ _ _ _).mp hmem
    cases hget.symm.trans hkept
    cases hraw.symm.trans hread
    obtain ⟨-, seconds, hnone, -⟩ := hasks.ending (by decide)
    cases hnone

end DeviceLog

end DeviceGateway
