import DeviceGateway.Proofs.DeviceLog.Retention
/-!
How long a log has to live while its policy changes. A write under a policy that ends asks for the
time that is left until then and some grace; a write under one that does not end asks for nothing,
so the log keeps the time to live that it had.
-/
namespace DeviceGateway.DeviceLog

namespace Policy

theorem toInt_saturate (i : Int) :
    (saturate i).toInt = max Int64.minValue.toInt (min i Int64.maxValue.toInt) := by
  have hrange : Int64.minValue.toInt ≤ Int64.maxValue.toInt := by decide
  unfold saturate
  split
  · omega
  split
  · omega
  · next hlow hhigh =>
    have hi : i < 2 ^ 63 := Int.lt_add_one_of_le (Int.not_lt.mp hhigh)
    rw [Int64.toInt_ofInt_of_le (Int.not_lt.mp hlow) hi]
    omega

theorem le_expireAt {p : Policy} {now : Int64} (hunexpired : p.isExpired now = false)
    (hends : 0 < p.expireAt) : now.toInt ≤ p.expireAt.toInt := by
  unfold isExpired at hunexpired
  rw [decide_eq_true hends, Bool.true_and, decide_eq_false_iff_not, Int64.not_lt] at hunexpired
  exact Int64.le_iff_toInt_le.mp hunexpired

/-- The seconds that are left of a policy that ends. -/
def secondsLeft (p : Policy) (now : Int64) : Int64 := saturate (p.expireAt.toInt - now.toInt)

/-- The seconds that a log is to live, the grace included. -/
def secondsAsked (p : Policy) (now : Int64) : Int64 :=
  saturate ((p.secondsLeft now).toInt + grace.toInt)

/-- No step goes wrong: each is exact, but for numbers above the greatest. -/
structure Reckoned (p : Policy) (now : Int64) : Prop where
  left : (p.secondsLeft now).toInt = min (p.expireAt.toInt - now.toInt) Int64.maxValue.toInt
  asked : (p.secondsAsked now).toInt = min ((p.secondsLeft now).toInt + 600) Int64.maxValue.toInt
  grace : 600 ≤ (p.secondsAsked now).toInt

theorem saturate_of_nonneg {i : Int} (h : 0 ≤ i) :
    (saturate i).toInt = min i Int64.maxValue.toInt := by
  rw [toInt_saturate, Int64.toInt_minValue, Int64.toInt_maxValue]
  omega

theorem reckoned {p : Policy} {now : Int64} (hlater : now.toInt ≤ p.expireAt.toInt) :
    p.Reckoned now := by
  have hgrace : Policy.grace.toInt = 600 := rfl
  have hmax : Int64.maxValue.toInt = 9223372036854775807 := rfl
  have hleft : (p.secondsLeft now).toInt =
      min (p.expireAt.toInt - now.toInt) Int64.maxValue.toInt :=
    saturate_of_nonneg (by omega)
  have hasked : (p.secondsAsked now).toInt =
      min ((p.secondsLeft now).toInt + 600) Int64.maxValue.toInt :=
    saturate_of_nonneg (by omega)
  exact ⟨hleft, hasked, by omega⟩

/-- The grace keeps the seconds from ending up as no time to live at all. -/
theorem logLifetime_of_le {p : Policy} {now : Int64} (hlater : now.toInt ≤ p.expireAt.toInt)
    (hends : 0 < p.expireAt) : p.logLifetime now = some (p.secondsAsked now).toInt.toNat := by
  have hpos : 0 < p.secondsAsked now :=
    Int64.lt_iff_toInt_lt.mpr (Int.lt_of_lt_of_le (by decide) (reckoned hlater).grace)
  change (if 0 < p.expireAt then
    if 0 < p.secondsAsked now then some (p.secondsAsked now).toInt.toNat else none else none) = _
  rw [if_pos hends, if_pos hpos]

/-- Under a policy in force that ends, what is asked for is the exact number of seconds, as far as
it fits; it is never short of the grace. -/
theorem logLifetime_eq {p : Policy} {now : Int64} (hunexpired : p.isExpired now = false) :
    p.logLifetime now =
      if 0 < p.expireAt then
        some (min (p.expireAt.toInt - now.toInt + grace.toInt) Int64.maxValue.toInt).toNat
      else none := by
  by_cases hends : 0 < p.expireAt
  · have hlater := le_expireAt hunexpired hends
    have hgrace : Policy.grace.toInt = 600 := rfl
    rw [if_pos hends, logLifetime_of_le hlater hends, (reckoned hlater).asked,
      (reckoned hlater).left, hgrace]
    congr 2
    omega
  · rw [if_neg hends]
    exact if_neg hends

end Policy

/-- A number of seconds, if the store's clock can tell their end. -/
def tellable? (seconds : Int) : Option Nat :=
  if seconds ≤ KeyValue.maxLifetime then some seconds.toNat else none

/-- The seconds that a log ought to live on from a line; none if its policy does not end. -/
def Line.lifetime? (l : Line) : Option Int :=
  if 0 < l.policy.expireAt then
    some (l.policy.expireAt.toInt - l.second.toInt + Policy.grace.toInt)
  else none

/-- The last line of a run whose policy ends settles how long the log has to live. -/
def lastLifetime? (ls : List Line) : Option Int := (ls.filterMap Line.lifetime?).getLast?

theorem lastLifetime?_concat (ls : List Line) (l : Line) :
    lastLifetime? (ls ++ [l]) = l.lifetime?.or (lastLifetime? ls) := by
  unfold lastLifetime?
  rw [List.filterMap_append, List.getLast?_append]
  cases h : l.lifetime? <;> simp [h]

/-- What a line asks of the store leaves the log with the seconds that it ought to have. -/
theorem elim_logLifetime {l : Line} (hunexpired : l.policy.isExpired l.second = false)
    (old : Option Nat) :
    ((l.policy.logLifetime l.second).filter (0 < ·)).elim old KeyValue.lifetime? =
      l.lifetime?.elim old tellable? := by
  rw [Policy.logLifetime_eq hunexpired]
  unfold Line.lifetime?
  split
  · next hends =>
    have hleft := Policy.le_expireAt hunexpired hends
    have hgrace : Policy.grace.toInt = 600 := rfl
    have hlongest : (KeyValue.maxLifetime : Int) < Int64.maxValue.toInt := by decide
    have hlong : 600 ≤ l.policy.expireAt.toInt - l.second.toInt + Policy.grace.toInt := by omega
    generalize l.policy.expireAt.toInt - l.second.toInt + Policy.grace.toInt = seconds at *
    have hpos : 0 < (min seconds Int64.maxValue.toInt).toNat := by omega
    rw [Option.filter_some, if_pos (decide_eq_true hpos), Option.elim_some, Option.elim_some]
    unfold KeyValue.lifetime? tellable?
    by_cases hfits : seconds ≤ KeyValue.maxLifetime
    · have hexact : min seconds Int64.maxValue.toInt = seconds := by omega
      rw [hexact, if_pos hfits, if_neg (by omega)]
    · rw [if_neg hfits, if_pos (.inr (by omega))]
  · rfl

theorem ttl?_follow (deviceId : String) (b : Backend) (turns : List Turn) :
    (follow deviceId b turns).keyValue.ttl? (logsKey deviceId) =
      (lastLifetime? (lines deviceId b turns)).elim (b.keyValue.ttl? (logsKey deviceId))
        tellable? := by
  induction turns using List.reverseRecOn with
  | nil => rfl
  | append_singleton turns t ih =>
      rw [follow_concat, lines_concat]
      obtain ⟨hnone, hfind⟩ | ⟨l, hsome, ⟨q, hq, hunexpired⟩, hpush⟩ :=
        t.apply_cases deviceId (follow deviceId b turns)
      · rw [hnone, Option.toList_none, List.append_nil, ← ih]
        unfold KeyValue.ttl?
        rw [hfind]
      · have hforce : l.policy.isExpired l.second = false := by rw [hq]; exact hunexpired
        rw [hsome, Option.toList_some, lastLifetime?_concat, KeyValue.ttl?_push hpush,
          elim_logLifetime hforce, ih]
        cases l.lifetime? <;> rfl

/-- Just after a line under a policy that ends, the log has the seconds to live that are left until
then, and the grace. After one under a policy that does not end, it has what the last policy that
ended gave it, however long ago that was. -/
theorem log_expires {deviceId : String} {b : Backend} {turns : List Turn} {t : Turn} {l : Line}
    (h : t.line? deviceId (follow deviceId b turns) = some l) :
    let left := (follow deviceId b (turns ++ [t])).keyValue.ttl? (logsKey deviceId)
    (0 < l.policy.expireAt →
      left = tellable? (l.policy.expireAt.toInt - l.second.toInt + 600)) ∧
    (l.policy.expireAt ≤ 0 →
      left = (lastLifetime? (lines deviceId b turns)).elim (b.keyValue.ttl? (logsKey deviceId))
        tellable?) := by
  have hleft := ttl?_follow deviceId b (turns ++ [t])
  rw [lines_concat, h, Option.toList_some, lastLifetime?_concat] at hleft
  constructor
  · intro hends
    have hasked : l.lifetime? = some (l.policy.expireAt.toInt - l.second.toInt + 600) :=
      if_pos hends
    rw [hasked] at hleft
    exact hleft
  · intro hendless
    have hasked : l.lifetime? = none := if_neg (Int64.not_lt.mpr hendless)
    rw [hasked] at hleft
    exact hleft

def strictPolicy : Policy := ⟨true, 2100, 10, 8⟩

/-- Once there is a line under this policy, it is replaced by one that does not end. -/
def relaxedTurns : List Turn :=
  [.setPolicy (some ⟨.text (Policy.codec.encode strictPolicy), none⟩), logged "a",
    .setPolicy (storedPolicy 10)]

def messageLine (payload : String) (p : Policy) : Line :=
  let e : Entry := { heading := .up, action := .publish, outcome := .ok, payload }
  ⟨Entry.codec.encode (e.prepared "d1" ⟨2000, 0⟩ p), p, 2000⟩

theorem log_expires_relaxed :
    (logged "a").line? "d1" (follow "d1" {} (relaxedTurns.take 1)) =
        some (messageLine "a" strictPolicy) ∧
      (follow "d1" {} (relaxedTurns.take 1 ++ [logged "a"])).keyValue.ttl? (logsKey "d1") =
        some 700 ∧
      (logged "b").line? "d1" (follow "d1" {} relaxedTurns) =
        some (messageLine "b" ⟨true, 0, 10, 8⟩) ∧
      (follow "d1" {} (relaxedTurns ++ [logged "b"])).keyValue.ttl? (logsKey "d1") =
        (lastLifetime? (lines "d1" {} relaxedTurns)).elim none tellable? := by
  have hstrict : (logged "a").line? "d1" (follow "d1" {} (relaxedTurns.take 1)) =
      some (messageLine "a" strictPolicy) := by decide +kernel
  have hrelaxed : (logged "b").line? "d1" (follow "d1" {} relaxedTurns) =
      some (messageLine "b" ⟨true, 0, 10, 8⟩) := by decide +kernel
  exact ⟨hstrict, (log_expires hstrict).1 (by decide), hrelaxed,
    (log_expires hrelaxed).2 (by decide)⟩

/-- The log lives no longer than under the policy before, although the one in force never ends. -/
theorem relaxedLog_expires :
    ((logged "b").line? "d1" (follow "d1" {} relaxedTurns)).map (·.policy.expireAt) = some 0 ∧
      (follow "d1" {} (relaxedTurns ++ [logged "b"])).keyValue.ttl? (logsKey "d1") = some 700 := by
  decide +kernel

end DeviceGateway.DeviceLog
