import DeviceGateway.Proofs.Mapping.Snapshot
import DeviceGateway.Proofs.Topic.Match
/-!
Which rule takes a message of the platform down to a device. The rules are gone through once, and
what comes out is what two passes over the rules that are for the message give: the first rule for
the method that is called, or else the first rule for any payload.
-/
namespace DeviceGateway.Mapping

/-- The device's topic for a rule, with the number filled in. -/
def sourceFor (number : String) (r : Rule) : String :=
  Topic.render r.source [(Topic.deviceNumber, number)]

/-- A message may go by a rule whose target can be used and is for the message's topic, and whose
source leaves no wildcard. -/
def Eligible (topic number : String) (r : Rule) : Prop :=
  (Topic.Usable r.target ∧ Topic.Cut (Topic.tokens r.target) topic.toList) ∧
    '+' ∉ (sourceFor number r).toList ∧ '#' ∉ (sourceFor number r).toList

theorem hasWildcard_eq_false_iff {topic : String} :
    Topic.hasWildcard topic = false ↔ '+' ∉ topic.toList ∧ '#' ∉ topic.toList := by
  simp only [Topic.hasWildcard, List.any_eq_false, Bool.or_eq_true, decide_eq_true_eq, not_or]
  constructor
  · intro h
    exact ⟨fun hm => (h _ hm).1 rfl, fun hm => (h _ hm).2 rfl⟩
  · rintro ⟨hplus, hhash⟩ c hc
    exact ⟨fun heq => hplus (heq ▸ hc), fun heq => hhash (heq ▸ hc)⟩

theorem eligible_iff {topic number : String} {r : Rule} :
    Eligible topic number r ↔
      Topic.accepts r.target topic = true ∧ Topic.hasWildcard (sourceFor number r) = false := by
  rw [Topic.accepts_iff, hasWildcard_eq_false_iff, Eligible]

instance (topic number : String) : DecidablePred (Eligible topic number) :=
  fun _ => decidable_of_iff _ eligible_iff.symm

theorem sourceTopic?_eq (r : Rule) (topic number : String) :
    sourceTopic? r topic number =
      if Eligible topic number r then some (sourceFor number r) else none := by
  simp only [sourceTopic?, eligible_iff, sourceFor]
  cases Topic.accepts r.target topic with
  | false => simp
  | true => cases Topic.hasWildcard (Topic.render r.source [(Topic.deviceNumber, number)]) <;> simp

/-- The rules of a list that a message may go by. -/
def eligible (rules : List Rule) (topic number : String) : List Rule :=
  rules.filter (Eligible topic number)

/-- The first rule for the method of a call takes its parameters, or an empty object. -/
def callRoute? (call : Option Call) (number : String) (rules : List Rule) : Option Route := do
  let c ← call
  let r ← rules.find? fun r => r.identifier = some c.method
  return ⟨sourceFor number r, Utf8.encode (c.params.getD ['\x7b', '\x7d']), r.id, true⟩

/-- The first rule for no method in particular takes the payload as it is. -/
def plainRoute? (payload : Bytes) (number : String) (rules : List Rule) : Option Route :=
  (rules.find? fun r => r.identifier = none).map fun r =>
    ⟨sourceFor number r, payload, r.id, false⟩

section

variable (number : String) {r : Rule} (rest : List Rule)

theorem callRoute?_cons_eq {c : Call} (h : r.identifier = some c.method) :
    callRoute? (some c) number (r :: rest) = some ⟨sourceFor number r, c.payload, r.id, true⟩ := by
  simp [callRoute?, h, Call.payload]

theorem callRoute?_cons_ne {c : Call} (h : r.identifier ≠ some c.method) :
    callRoute? (some c) number (r :: rest) = callRoute? (some c) number rest := by
  simp [callRoute?, h]

theorem plainRoute?_cons_none (payload : Bytes) (h : r.identifier = none) :
    plainRoute? payload number (r :: rest) =
      some ⟨sourceFor number r, payload, r.id, false⟩ := by
  simp [plainRoute?, h]

theorem plainRoute?_cons_some (payload : Bytes) {method : String}
    (h : r.identifier = some method) :
    plainRoute? payload number (r :: rest) = plainRoute? payload number rest := by
  simp [plainRoute?, h]

end

/-- The pass with a route found so far: a rule for the method comes first, then what was found,
then a rule for any payload. -/
theorem downRouteFrom_eq (call : Option Call) (topic number : String) (payload : Bytes)
    (found : Option Route) (rules : List Rule) :
    downRouteFrom call topic number payload found rules =
      (callRoute? call number (eligible rules topic number)).or
        (found.or (plainRoute? payload number (eligible rules topic number))) := by
  induction rules generalizing found with
  | nil => cases call <;> simp [downRouteFrom, eligible, callRoute?, plainRoute?]
  | cons r rest ih =>
      by_cases hr : Eligible topic number r
      · have hcons : eligible (r :: rest) topic number = r :: eligible rest topic number :=
          List.filter_cons_of_pos (decide_eq_true hr)
        simp only [downRouteFrom, sourceTopic?_eq, if_pos hr, hcons]
        cases hid : r.identifier with
        | none =>
            have hskip : callRoute? call number (r :: eligible rest topic number) =
                callRoute? call number (eligible rest topic number) := by
              cases call with
              | none => rfl
              | some c => exact callRoute?_cons_ne number _ (by simp [hid])
            simp only [ih, hskip, plainRoute?_cons_none number _ payload hid]
            cases found <;> rfl
        | some method =>
            simp only [plainRoute?_cons_some number _ payload hid]
            cases call with
            | none => exact ih found
            | some c =>
                by_cases hc : c.method = method
                · simp [hc, callRoute?_cons_eq number _ (c := c) (by rw [hid, hc])]
                · have hne : r.identifier ≠ some c.method := by
                    intro heq
                    exact hc (Option.some.inj (hid.symm.trans heq)).symm
                  simp only [if_neg hc, ih, callRoute?_cons_ne number _ hne]
      · have hcons : eligible (r :: rest) topic number = eligible rest topic number :=
          List.filter_cons_of_neg (by simpa using hr)
        simp only [downRouteFrom, sourceTopic?_eq, if_neg hr, hcons, ih]

theorem eligible_eligible (rules : List Rule) (topic number : String) :
    eligible (eligible rules topic number) topic number = eligible rules topic number := by
  simp [eligible, List.filter_filter]

/-- Of the rules that a message may go by, the first one for the method that it calls takes its
parameters; without one, the first for no method takes the payload as it is, and without one it goes
nowhere. Rules that it may not go by make no difference. This is what the rules of a configuration
make of a message, as they are looked up at the time. -/
theorem downRoute_selects (topic number : String) (payload : Bytes) :
    (∀ rules : List Rule,
      downRoute? rules topic number payload =
          (callRoute? (Call.ofPayload? payload) number (eligible rules topic number)).or
            (plainRoute? payload number (eligible rules topic number)) ∧
        downRoute? rules topic number payload =
          downRoute? (eligible rules topic number) topic number payload) ∧
    ∀ (lifetime : Nat) (b : Backend) (configId : String),
      downRoute lifetime b configId topic number payload =
        ((Snapshot.get lifetime b configId .down).1.map fun rules =>
            (callRoute? (Call.ofPayload? payload) number (eligible rules topic number)).or
              (plainRoute? payload number (eligible rules topic number)),
          (Snapshot.get lifetime b configId .down).2) := by
  have hselects (rules : List Rule) : downRoute? rules topic number payload =
      (callRoute? (Call.ofPayload? payload) number (eligible rules topic number)).or
        (plainRoute? payload number (eligible rules topic number)) :=
    downRouteFrom_eq _ topic number payload none rules
  refine ⟨?_, ?_⟩
  · intro rules
    refine ⟨hselects rules, ?_⟩
    rw [hselects rules, hselects (eligible rules topic number), eligible_eligible]
  · intro lifetime b configId
    rw [downRoute, Snapshot.ask_eq]
    simp only [hselects]

end DeviceGateway.Mapping
