import DeviceGateway.Proofs.Gate.Downlink
import DeviceGateway.Proofs.Gate.Effect
import DeviceGateway.Proofs.Gate.Outbound
/-!
What the counters say. What the gate rules of an event raises one counter at most, and what it hands
to the link for the event raises one of two others. So after a run each counter is the number of the
events that raised it, and an event that a hook stopped is not among them.
-/
namespace DeviceGateway

open Backend

/-! ### Counters -/

namespace Tally

/-- The counts after one thing was counted, or nothing. -/
def raise (t : Tally) : Option Counter → Tally
  | none => t
  | some c => t.bump c

theorem raise_apply (t : Tally) (o : Option Counter) (c : Counter) :
    t.raise o c = t c + if o = some c then 1 else 0 := by
  cases o with
  | none => rfl
  | some d =>
      simp only [raise, bump, Option.some.injEq, eq_comm (a := c)]
      split <;> rfl

/-- A counter as it is shown: a word, which starts over from its largest value. -/
def word (t : Tally) (c : Counter) : UInt64 := .ofNat (t c)

end Tally

/-- The counter that a message raises on its way: lost ones are counted, and of those that got
through the ones that went down to a device. -/
def Backend.linkCounter? (b : Backend) (down : Bool) : Option Message → Option Counter
  | none => none
  | some _ =>
    if b.faults.forwarder then some .forwardFailures
    else if down then some .downForwarded
    else none

/-- What the gate rules when an event comes to it. -/
inductive Ruling where
  | login (result : Except Refusal Unit)
  | subscription (client : Client) (result : Except Refusal Unit)
  | message (client : Client) (decision : Decision)
  /-- Who comes and goes is not ruled on. -/
  | presence

namespace Ruling

def loginCounter : Except Refusal Unit → Counter
  | .ok _ => .authOk
  | .error _ => .authDenied

def subscriptionCounter : Except Refusal Unit → Counter
  | .ok _ => .subscribeOk
  | .error _ => .subscribeDenied

def messageCounter : Decision → Counter
  | .accept _ => .publishOk
  | .reject _ => .publishDenied
  | .redirect _ _ => .publishRedirected

/-- The counter for a ruling. Of the platform's own clients only logins are counted. -/
def counter? : Ruling → Option Counter
  | .login result => some (loginCounter result)
  | .subscription client result =>
    if client.isPrivileged then none else some (subscriptionCounter result)
  | .message client decision =>
    if client.isPrivileged then none else some (messageCounter decision)
  | .presence => none

theorem counter?_cases {r : Ruling} {c : Counter} (h : r.counter? = some c) :
    c ≠ .downForwarded ∧ c ≠ .forwardFailures := by
  cases r with
  | login result => cases result <;> cases h <;> exact ⟨nofun, nofun⟩
  | subscription client result =>
      simp only [counter?] at h
      split at h
      · cases h
      · cases result <;> cases h <;> exact ⟨nofun, nofun⟩
  | message client decision =>
      simp only [counter?] at h
      split at h
      · cases h
      · cases decision <;> cases h <;> exact ⟨nofun, nofun⟩
  | presence => cases h

end Ruling

/-! ### What the gate's parts count -/

theorem Identity.deviceByVoucher_tally (b : Backend) (v : String) :
    (deviceByVoucher b v).2.tally = b.tally := by
  rcases deviceByVoucher_cases b v with h | ⟨d, _, _, h⟩
  · rw [h]
  · rw [h]
    rfl

theorem Mapping.ask_tally {α : Type} (lifetime : Nat) (b : Backend) (configId : String)
    (direction : Direction) (question : List Rule → α) :
    (ask lifetime b configId direction question).2.tally = b.tally := by
  rw [Snapshot.ask_eq]
  exact Snapshot.get_tally lifetime b configId direction

namespace Gate

variable (g : Gate) (b : Backend) (client : Client)

@[simp] theorem note_count_tally (b : Backend) (c : Counter) (deviceId : String)
    (e : DeviceLog.Entry) : ((b.count c).note deviceId e).tally = b.tally.bump c :=
  note_tally _ deviceId e

theorem noteRefusedAuth_tally (username password : String) (refusal : Refusal) :
    (noteRefusedAuth b client username password refusal).tally = b.tally := by
  have hfound := Identity.deviceByVoucher_tally b (voucher username "")
  unfold noteRefusedAuth
  split
  · rfl
  · split
    · next heq =>
      rw [heq] at hfound
      rw [note_tally, hfound]
    · next heq =>
      rw [heq] at hfound
      exact hfound

theorem bindTo_tally (username : String) (d : Device) :
    (bindTo b client username d).2.tally =
      b.tally.bump (Ruling.loginCounter (bindTo b client username d).1) := by
  unfold bindTo Identity.bind
  rw [set_eq]
  cases b.fails .set [Identity.bindingKey client.id] with
  | true => exact note_count_tally b _ d.id _
  | false => exact note_count_tally _ _ d.id _

theorem authenticate_tally (username password : String) :
    (g.authenticate b client username password).2.tally =
      b.tally.bump (Ruling.loginCounter (g.authenticate b client username password).1) := by
  have hfound := Identity.deviceByVoucher_tally b (voucher username password)
  unfold authenticate
  split
  · split <;> rfl
  · generalize Identity.deviceByVoucher b (voucher username password) = result at hfound ⊢
    obtain ⟨answer, found⟩ := result
    have hrefused (refusal : Refusal) :
        (refuseAuth found client username password refusal).2.tally =
          b.tally.bump .authDenied := by
      rw [refuseAuth, noteRefusedAuth_tally]
      exact congrArg (Tally.bump · .authDenied) hfound
    cases answer with
    | error e => exact hrefused _
    | ok device =>
        cases device with
        | none => exact hrefused _
        | some d =>
            dsimp only at hfound ⊢
            rw [bindTo_tally, hfound]

theorem subscribeBound_tally (binding : Except StoreError (Option String)) (topic : String) :
    (g.subscribeBound b binding topic).2.tally = b.tally := by
  unfold subscribeBound
  split
  · rfl
  · rfl
  · unfold subscribeByRules
    split
    · rfl
    · rfl
    · next configId _ =>
      have hasked : (Mapping.allowsDown g.snapshotLifetime b configId topic).2.tally = b.tally :=
        Mapping.ask_tally _ b configId .down _
      generalize Mapping.allowsDown g.snapshotLifetime b configId topic = asked at hasked ⊢
      obtain ⟨answer, next⟩ := asked
      cases answer <;> exact hasked

theorem subscribe_tally (hclient : client.isPrivileged = false) (topic : String) :
    (g.subscribe b client topic).2.tally =
      b.tally.bump (Ruling.subscriptionCounter (g.subscribe b client topic).1) := by
  have hasked := g.subscribeBound_tally b (Identity.boundDevice b client.id) topic
  simp only [subscribe, hclient, Bool.false_eq_true, if_false]
  split
  · exact note_count_tally b _ _ _
  · generalize g.subscribeBound b (Identity.boundDevice b client.id) topic = asked at hasked ⊢
    obtain ⟨answer, next⟩ := asked
    dsimp only at hasked
    cases answer with
    | error refusal => simp only [note_count_tally, hasked, Ruling.subscriptionCounter]
    | ok allowed =>
        cases allowed <;> simp only [note_count_tally, hasked, Ruling.subscriptionCounter]

/-! ### What is handed to the link -/

theorem linkCounter?_congr {b' : Backend} (h : b'.faults = b.faults) (down : Bool)
    (m : Option Message) : b'.linkCounter? down m = b.linkCounter? down m := by
  cases m with
  | none => rfl
  | some m => rw [linkCounter?, linkCounter?, h]

theorem linkCounter?_of_sent {topic : String} {payload : Bytes} {after : Backend}
    (h : b.send topic payload = .ok after) (down : Bool) (m : Message) :
    b.linkCounter? down (some m) = (if down then some .downForwarded else none) ∧
      after.tally = b.tally := by
  unfold send at h
  split at h
  · cases h
  · next hup =>
    cases h
    exact ⟨if_neg hup, rfl⟩

theorem linkCounter?_of_lost {topic : String} {payload : Bytes} {e : ForwardError}
    (h : b.send topic payload = .error e) (down : Bool) (m : Message) :
    b.linkCounter? down (some m) = some .forwardFailures := by
  unfold send at h
  split at h
  · next hdown => exact if_pos hdown
  · cases h

/-- A client comes or goes; only devices are reported. -/
theorem report_tally (status : String) :
    (if client.isPrivileged then b else reportStatus b client status).tally =
      b.tally.raise (b.linkCounter? false (report? b client status)) := by
  unfold report? reportStatus
  cases client.isPrivileged with
  | true => rfl
  | false =>
      cases Identity.boundDevice b client.id with
      | error e => rfl
      | ok bound =>
          cases bound with
          | none => rfl
          | some deviceId =>
              dsimp only
              rw [if_neg Bool.false_ne_true]
              change _ = b.tally.raise (b.linkCounter? false (some _))
              split
              · next hsend =>
                obtain ⟨hcounter, htally⟩ := linkCounter?_of_sent b hsend false _
                rw [hcounter, htally]
                rfl
              · next hsend =>
                rw [linkCounter?_of_lost b hsend]
                rfl

theorem forwardDown_tally (topic : String) (payload : Bytes) :
    (g.forwardDown b client topic payload).tally =
      b.tally.raise (b.linkCounter? true (g.downward? b topic payload)) := by
  unfold downward? forwardDown
  cases Topic.Canonical.deviceNumber? topic with
  | none => rfl
  | some number =>
      dsimp only [Option.bind_eq_bind, Option.bind_some]
      cases b.ask (.number number) with
      | error e => rfl
      | ok found =>
          cases found with
          | none => rfl
          | some d =>
              dsimp only [Except.toOption, Option.join, Option.bind_some, id]
              cases d.config? with
              | none => rfl
              | some configId =>
                  have hasked : (Mapping.downRoute g.snapshotLifetime b configId topic number
                      payload).2.tally = b.tally := Mapping.ask_tally _ b configId .down _
                  have hfaults := (Mapping.ask_unheard g.snapshotLifetime b configId .down
                    (Mapping.downRoute? · topic number payload)).faults
                  change (Mapping.downRoute g.snapshotLifetime b configId topic number
                    payload).2.faults = b.faults at hfaults
                  dsimp only [Option.bind_some]
                  generalize Mapping.downRoute g.snapshotLifetime b configId topic number payload =
                    asked at hasked hfaults ⊢
                  obtain ⟨answer, next⟩ := asked
                  dsimp only at hasked hfaults
                  cases answer with
                  | error e => exact hasked
                  | ok route =>
                      cases route with
                      | none => exact hasked
                      | some route =>
                          dsimp only [Except.toOption, Option.join, Option.bind_some, id,
                            Option.pure_def]
                          rw [← linkCounter?_congr b hfaults]
                          split
                          · next hsend =>
                            obtain ⟨hcounter, htally⟩ := linkCounter?_of_sent next hsend true _
                            rw [hcounter, note_count_tally, htally, hasked]
                            rfl
                          · next hsend =>
                            rw [linkCounter?_of_lost next hsend, note_count_tally, hasked]
                            rfl

theorem redirectUp_tally (deviceId target : String) (payload : Bytes) (e : DeviceLog.Entry) :
    (redirectUp b deviceId target payload e).2.tally =
      (b.tally.raise (b.linkCounter? false (some ⟨target, upEnvelope deviceId payload⟩))).bump
        .publishRedirected := by
  unfold redirectUp
  dsimp only
  split
  · next hsend =>
    obtain ⟨hcounter, htally⟩ := linkCounter?_of_sent b hsend false
      ⟨target, upEnvelope deviceId payload⟩
    rw [hcounter, count, note_tally, htally]
    rfl
  · next hsend =>
    rw [linkCounter?_of_lost b hsend, count, note_count_tally]
    rfl

theorem publishPlain_tally (deviceId topic : String) (payload : Bytes) (e : DeviceLog.Entry) :
    (publishPlain b deviceId topic payload e).2.tally =
      b.tally.bump (Ruling.messageCounter (publishPlain b deviceId topic payload e).1) := by
  unfold publishPlain
  split <;> exact note_count_tally b _ _ _

theorem publishFrom_tally (deviceId topic : String) (payload : Bytes) (e : DeviceLog.Entry) :
    (g.publishFrom b deviceId topic payload e).2.tally =
      (b.tally.raise (b.linkCounter? false (do
        let configId ← (Identity.boundConfig b deviceId).toOption.join
        let target ← (Mapping.upTarget g.snapshotLifetime b configId topic).1.toOption.join
        return ⟨target, upEnvelope deviceId payload⟩))).bump
        (Ruling.messageCounter (g.publishFrom b deviceId topic payload e).1) := by
  unfold publishFrom
  cases Identity.boundConfig b deviceId with
  | error err => rfl
  | ok config =>
      cases config with
      | none => exact publishPlain_tally b deviceId topic payload e
      | some configId =>
          have hasked : (Mapping.upTarget g.snapshotLifetime b configId topic).2.tally = b.tally :=
            Mapping.ask_tally _ b configId .up _
          have hfaults : (Mapping.upTarget g.snapshotLifetime b configId topic).2.faults =
              b.faults := (Mapping.ask_unheard g.snapshotLifetime b configId .up _).faults
          dsimp only [Except.toOption, Option.join, Option.bind_eq_bind, Option.bind_some, id]
          generalize Mapping.upTarget g.snapshotLifetime b configId topic = asked
            at hasked hfaults ⊢
          obtain ⟨answer, next⟩ := asked
          dsimp only at hasked hfaults
          cases answer with
          | error err => exact congrArg (Tally.bump · _) hasked
          | ok target =>
              cases target with
              | none =>
                  rw [← hasked]
                  exact publishPlain_tally next deviceId topic payload e
              | some target =>
                  rw [← hasked, ← linkCounter?_congr b hfaults]
                  exact redirectUp_tally next deviceId target payload e

theorem publish_tally (hclient : client.isPrivileged = false) (topic : String) (payload : Bytes) :
    (g.publish b client topic payload).2.tally =
      (b.tally.raise (b.linkCounter? false (g.upward? b client topic payload))).bump
        (Ruling.messageCounter (g.publish b client topic payload).1) := by
  simp only [publish, hclient, Bool.false_eq_true, if_false, upward?]
  cases Identity.boundDevice b client.id with
  | error e => rfl
  | ok bound =>
      cases bound with
      | none => rfl
      | some deviceId => exact publishFrom_tally g b deviceId topic payload _

end Gate

/-! ### Events -/

namespace Pipeline

variable (p : Pipeline) (b : Backend)

/-- What the gate rules of an event, if no hook stops it before. -/
def ruling? : Event → Option Ruling
  | .auth client username password =>
    match askAll (·.onAuth client username password) p.hooks with
    | .ok () => some (.login (p.gate.authenticate b client username password).1)
    | .error _ => none
  | .subscribe client topic =>
    match askAll (·.onSubscribe client topic) p.hooks with
    | .ok () => some (.subscription client (p.gate.subscribe b client topic).1)
    | .error _ => none
  | .publish client topic payload =>
    match passAll client topic p.hooks payload with
    | .accept last => some (.message client (p.gate.publish b client topic last).1)
    | _ => none
  | .connected _ | .closed _ => some .presence

def rulingCounter? (e : Event) : Option Counter := (p.ruling? b e).bind Ruling.counter?

def isDown : Event → Bool
  | .publish client _ _ => client.isPrivileged
  | _ => false

/-- An event raises the counter for what the gate rules and the one for what it hands to the link,
and none that is not for one of them. -/
theorem handle_tally (e : Event) :
    (p.handle b e).2.tally = (b.tally.raise (b.linkCounter? (isDown e) (p.outbound? b e))).raise
      (p.rulingCounter? b e) := by
  cases e with
  | auth client username password =>
      simp only [handle, authenticate, rulingCounter?, ruling?, outbound?]
      cases askAll (·.onAuth client username password) p.hooks with
      | ok _ => exact p.gate.authenticate_tally b client username password
      | error refusal => rfl
  | connected client => exact Gate.report_tally b client onlineStatus
  | closed client => exact Gate.report_tally b client offlineStatus
  | subscribe client topic =>
      simp only [handle, subscribe, rulingCounter?, ruling?, outbound?]
      cases askAll (·.onSubscribe client topic) p.hooks with
      | error refusal => rfl
      | ok _ =>
          cases hclient : client.isPrivileged with
          | true => simp [Gate.subscribe, Ruling.counter?, hclient, Tally.raise, linkCounter?]
          | false =>
              simp only [Option.bind_some, Ruling.counter?, hclient]
              exact p.gate.subscribe_tally b client hclient topic
  | publish client topic payload =>
      simp only [handle, publish, rulingCounter?, ruling?, outbound?, isDown]
      cases passAll client topic p.hooks payload with
      | reject | redirect => rfl
      | accept last =>
          cases hclient : client.isPrivileged with
          | true =>
              simp only [Gate.publish, Option.bind_some, Ruling.counter?, hclient, if_true]
              exact p.gate.forwardDown_tally b client topic last
          | false =>
              simp only [Option.bind_some, Ruling.counter?, hclient]
              exact p.gate.publish_tally b client hclient topic last

/-- What a hook stops is not ruled on, and nothing is done. -/
theorem handle_of_stopped {e : Event} (h : p.ruling? b e = none) : (p.handle b e).2 = b := by
  cases e with
  | auth client username password =>
      simp only [ruling?, handle, authenticate] at h ⊢
      split at h
      · cases h
      · next hstopped => rw [hstopped]
  | subscribe client topic =>
      simp only [ruling?, handle, subscribe] at h ⊢
      split at h
      · cases h
      · next hstopped => rw [hstopped]
  | publish client topic payload =>
      simp only [ruling?, handle, publish] at h ⊢
      cases hpassed : passAll client topic p.hooks payload with
      | accept last =>
          rw [hpassed] at h
          cases h
      | reject | redirect => rfl
  | connected | closed => cases h

end Pipeline

/-- An event as it comes to the gate: with the hooks as they are disposed, and on a backend. -/
structure Visit where
  pipeline : Pipeline
  before : Backend
  event : Event

namespace Visit

variable (v : Visit)

def after : Backend := (v.pipeline.handle v.before v.event).2

def ruling? : Option Ruling := v.pipeline.ruling? v.before v.event

/-- The message that is handed to the link, if there is one. -/
def handed? : Option Message := v.pipeline.outbound? v.before v.event

/-- The message that the link takes, if there is one. -/
def delivered? : Option Message := if v.before.faults.forwarder then none else v.handed?

/-- Whether a counter goes up: two by what becomes of a message on the link, the others by what the
gate rules. -/
def raises : Counter → Bool
  | .downForwarded => Pipeline.isDown v.event && v.delivered?.isSome
  | .forwardFailures => v.handed?.isSome && v.delivered?.isNone
  | c => v.ruling?.bind Ruling.counter? = some c

theorem sent_after : v.after.sent = v.before.sent ++ v.delivered?.toList := by
  have hhands : Hands v.handed? v.before v.after := v.pipeline.handle_hands v.before v.event
  unfold delivered?
  cases hm : v.handed? with
  | none =>
      rw [hm] at hhands
      rw [Unheard.sent hhands, ite_self]
      exact (List.append_nil _).symm
  | some m =>
      rw [hm] at hhands
      change HandsOver m v.before v.after at hhands
      unfold HandsOver at hhands
      split at hhands
      · next hdown =>
        rw [hhands.1, if_pos hdown]
        exact (List.append_nil _).symm
      · next hup =>
        rw [hhands.1, if_neg hup]
        rfl

def linkCounter? : Option Counter :=
  v.before.linkCounter? (Pipeline.isDown v.event) v.handed?

theorem linkCounter?_cases {c : Counter} (h : v.linkCounter? = some c) :
    c = .downForwarded ∨ c = .forwardFailures := by
  unfold linkCounter? Backend.linkCounter? at h
  split at h
  · cases h
  · split at h
    · exact .inr (Option.some.inj h).symm
    · split at h
      · exact .inl (Option.some.inj h).symm
      · cases h

theorem rulingCounter?_cases {c : Counter} (h : v.ruling?.bind Ruling.counter? = some c) :
    c ≠ .downForwarded ∧ c ≠ .forwardFailures := by
  obtain ⟨ruling, _, h⟩ := Option.bind_eq_some_iff.mp h
  exact ruling.counter?_cases h

theorem raises_downForwarded :
    v.raises .downForwarded = decide (v.linkCounter? = some .downForwarded) := by
  unfold raises delivered? linkCounter?
  cases v.handed? with
  | none => simp [Backend.linkCounter?]
  | some m =>
      cases hlink : v.before.faults.forwarder <;> cases Pipeline.isDown v.event <;>
        simp [Backend.linkCounter?, hlink]

theorem raises_forwardFailures :
    v.raises .forwardFailures = decide (v.linkCounter? = some .forwardFailures) := by
  unfold raises delivered? linkCounter?
  cases v.handed? with
  | none => simp [Backend.linkCounter?]
  | some m =>
      cases hlink : v.before.faults.forwarder <;> cases Pipeline.isDown v.event <;>
        simp [Backend.linkCounter?, hlink]

theorem raises_eq (c : Counter) :
    v.raises c = decide (v.linkCounter? = some c ∨ v.ruling?.bind Ruling.counter? = some c) := by
  have hruling (h : v.ruling?.bind Ruling.counter? = some c) :
      c ≠ .downForwarded ∧ c ≠ .forwardFailures := v.rulingCounter?_cases h
  have hlink (h : v.linkCounter? = some c) : c = .downForwarded ∨ c = .forwardFailures :=
    v.linkCounter?_cases h
  cases c with
  | downForwarded =>
      rw [raises_downForwarded, decide_eq_decide]
      exact (or_iff_left fun h => (hruling h).1 rfl).symm
  | forwardFailures =>
      rw [raises_forwardFailures, decide_eq_decide]
      exact (or_iff_left fun h => (hruling h).2 rfl).symm
  | _ =>
      change decide _ = decide _
      rw [decide_eq_decide]
      exact (or_iff_right fun h => (hlink h).elim nofun nofun).symm

/-- Each counter goes up by one if it is raised, and else not at all. -/
theorem tally_after (c : Counter) :
    v.after.tally c = v.before.tally c + (v.raises c).toNat := by
  have htally : v.after.tally = (v.before.tally.raise v.linkCounter?).raise
      (v.ruling?.bind Ruling.counter?) := v.pipeline.handle_tally v.before v.event
  rw [htally, Tally.raise_apply, Tally.raise_apply, raises_eq]
  by_cases hlink : v.linkCounter? = some c
  · have hruling : ¬ v.ruling?.bind Ruling.counter? = some c := by
      intro h
      have hne := v.rulingCounter?_cases h
      exact (v.linkCounter?_cases hlink).elim hne.1 hne.2
    simp [hlink, hruling]
  · simp only [hlink, if_false, false_or, Nat.add_zero]
    split <;> simp [*]

end Visit

/-! ### Runs -/

def Step.visit? (g : Gate) (b : Backend) : Step → Option Visit
  | .event hooks e => some ⟨⟨hooks, g⟩, b, e⟩
  | _ => none

def visits (g : Gate) : Backend → List Step → List Visit
  | _, [] => []
  | b, x :: rest => (x.visit? g b).toList ++ visits g (x.apply g b) rest

theorem Step.apply_of_visit? {g : Gate} {b : Backend} {x : Step} {v : Visit}
    (h : x.visit? g b = some v) : v.before = b ∧ v.after = x.apply g b := by
  cases x with
  | event hooks e =>
      cases h
      exact ⟨rfl, rfl⟩
  | _ => cases h

theorem Step.apply_of_no_visit {g : Gate} {b : Backend} {x : Step} (h : x.visit? g b = none) :
    (x.apply g b).tally = b.tally ∧ (x.apply g b).sent = b.sent := by
  cases x with
  | event hooks e => cases h
  | setFaults | setClock | lapse | putDevice | addRule | removeRule => exact ⟨rfl, rfl⟩
  | lookUp configId direction =>
      exact ⟨Mapping.Snapshot.get_tally g.snapshotLifetime b configId direction,
        (Mapping.Snapshot.get_unheard g.snapshotLifetime b configId direction).sent⟩
  | invalidate configId =>
      simp only [apply, Mapping.Snapshot.invalidate, delete_eq]
      split
      · exact ⟨rfl, rfl⟩
      · split <;> exact ⟨rfl, rfl⟩
  | setPolicy deviceId policy =>
      simp only [apply, DeviceLog.setPolicy, set_eq]
      split
      · exact ⟨rfl, rfl⟩
      · split <;> exact ⟨rfl, rfl⟩
  | writeLog deviceId entry =>
      simp only [apply]
      rcases DeviceLog.write_leaves b deviceId entry with h | ⟨raw, maxItems, ttl, kv, _, h⟩
      · rw [h]
        exact ⟨rfl, rfl⟩
      · rw [h]
        exact ⟨rfl, rfl⟩

/-- After a run a counter has gone up once for each event that raised it. -/
theorem run_tally (g : Gate) (b : Backend) (steps : List Step) (c : Counter) :
    (run g b steps).tally c = b.tally c + (visits g b steps).countP (·.raises c) := by
  induction steps generalizing b with
  | nil => rfl
  | cons x rest ih =>
      rw [run, ih, visits, List.countP_append]
      cases hvisit : x.visit? g b with
      | none =>
          rw [(Step.apply_of_no_visit hvisit).1]
          simp
      | some v =>
          obtain ⟨hbefore, hafter⟩ := Step.apply_of_visit? hvisit
          rw [← hafter, v.tally_after, hbefore, Option.toList_some, List.countP_singleton]
          cases v.raises c <;> simp [Nat.add_assoc]

theorem run_sent (g : Gate) (b : Backend) (steps : List Step) :
    (run g b steps).sent = b.sent ++ (visits g b steps).filterMap Visit.delivered? := by
  induction steps generalizing b with
  | nil => exact (List.append_nil _).symm
  | cons x rest ih =>
      rw [run, ih, visits, List.filterMap_append, ← List.append_assoc]
      cases hvisit : x.visit? g b with
      | none =>
          rw [(Step.apply_of_no_visit hvisit).2]
          simp
      | some v =>
          obtain ⟨hbefore, hafter⟩ := Step.apply_of_visit? hvisit
          rw [← hafter, v.sent_after, hbefore]
          cases hdelivered : v.delivered? <;> simp [hdelivered]

/-- A message of a device that the gate is asked about. -/
def Visit.isUp (v : Visit) : Bool :=
  match v.ruling? with
  | some (.message client _) => !client.isPrivileged
  | _ => false

/-- Such a message raises one of three counters, by what the gate decides, and nothing else does. -/
theorem Visit.countP_raises (v : Visit) :
    [Counter.publishOk, .publishDenied, .publishRedirected].countP v.raises = v.isUp.toNat := by
  have hraises : ∀ c ∈ [Counter.publishOk, .publishDenied, .publishRedirected],
      v.raises c = decide (v.ruling?.bind Ruling.counter? = some c) := by
    simp [raises]
  rw [List.countP_congr fun c hc => by rw [hraises c hc], isUp]
  cases v.ruling? with
  | none => rfl
  | some ruling =>
      cases ruling with
      | login result => cases result <;> rfl
      | presence => rfl
      | subscription client result =>
          rw [Option.bind_some, Ruling.counter?]
          cases client.isPrivileged <;> cases result <;> rfl
      | message client decision =>
          rw [Option.bind_some, Ruling.counter?]
          dsimp only
          cases client.isPrivileged <;> cases decision <;> rfl

theorem countP_isUp (vs : List Visit) :
    vs.countP (·.raises .publishOk) + vs.countP (·.raises .publishDenied) +
      vs.countP (·.raises .publishRedirected) = vs.countP Visit.isUp := by
  induction vs with
  | nil => rfl
  | cons v vs ih =>
      have hone := v.countP_raises
      have hif (raised : Bool) : (if raised = true then 1 else 0) = raised.toNat := by
        cases raised <;> rfl
      simp only [List.countP_cons, List.countP_nil, hif] at hone ⊢
      omega

theorem Visit.raises_of_stopped {v : Visit} (h : v.ruling? = none) (c : Counter) :
    v.raises c = false := by
  have hafter : v.after = v.before := v.pipeline.handle_of_stopped v.before h
  have htally := v.tally_after c
  rw [hafter] at htally
  cases hraises : v.raises c with
  | false => rfl
  | true => simp [hraises] at htally

/-- The counters are an exact tally. From zero on, each shows how many events raised it: those that
came to the gate and were ruled on as it says, or whose message the link took or lost. A message of
a device raises exactly one of three, and an event that a hook stopped changes nothing. -/
theorem tally_exact (g : Gate) {b : Backend} (hzero : b.tally = Tally.zero) {steps : List Step}
    (hfew : (visits g b steps).length < 2 ^ 64) :
    let vs := visits g b steps
    let shown c := ((run g b steps).tally.word c).toNat
    (∀ c, shown c = vs.countP (·.raises c)) ∧
    (∀ v ∈ vs, v.isUp = true →
      [Counter.publishOk, .publishDenied, .publishRedirected].countP v.raises = 1) ∧
    shown .publishOk + shown .publishDenied + shown .publishRedirected = vs.countP Visit.isUp ∧
    (∀ v ∈ vs, v.ruling? = none → v.after = v.before ∧ ∀ c, v.raises c = false) ∧
    (run g b steps).sent = b.sent ++ vs.filterMap Visit.delivered? := by
  intro vs shown
  have hshown (c : Counter) : shown c = vs.countP (·.raises c) := by
    have hcount : (run g b steps).tally c = vs.countP (·.raises c) := by
      rw [run_tally, hzero]
      exact Nat.zero_add _
    have hlt : vs.countP (·.raises c) < 2 ^ 64 := Nat.lt_of_le_of_lt List.countP_le_length hfew
    change (UInt64.ofNat ((run g b steps).tally c)).toNat = _
    rw [hcount]
    exact UInt64.toNat_ofNat_of_lt' hlt
  refine ⟨hshown, ?_, ?_, ?_, run_sent g b steps⟩
  · intro v _ hup
    rw [v.countP_raises, hup]
    rfl
  · rw [hshown, hshown, hshown]
    exact countP_isUp vs
  · intro v _ hstopped
    exact ⟨v.pipeline.handle_of_stopped v.before hstopped, v.raises_of_stopped hstopped⟩

/-- Snapshots of the rules of `c` are neither kept nor found. -/
def noSnapshots : Faults where
  lost := [Direction.up, .down].flatMap fun d =>
    [(.get, Mapping.Snapshot.key d "c"), (.set, Mapping.Snapshot.key d "c")]

def talliedLamp : Backend where
  devices := ⟨[{ lamp with configId := some "c" }]⟩
  rules := { rules := [Mapping.ruleUp, commandRule] }
  faults := noSnapshots

/-- The lamp logs in, once with the wrong password and once past a hook that turns it away. It asks
for two topics and publishes to three, and the platform sends it a command. Then the link fails. -/
def talliedDay : List Step :=
  [.event [] (.auth ⟨"k", "lamp"⟩ "lamp" "pw"), .event [] (.auth ⟨"k", "lamp"⟩ "lamp" "wp"),
    .event [.denyAuth "deny"] (.auth ⟨"k", "lamp"⟩ "lamp" "pw"),
    .event [] (.subscribe ⟨"k", "lamp"⟩ "devices/command/n1/+"),
    .event [] (.subscribe ⟨"k", "lamp"⟩ "x"), .event [] (.publish ⟨"k", "lamp"⟩ "a" [72]),
    .event [] (.publish ⟨"k", "lamp"⟩ "n1/up" [72]), .event [] (.publish ⟨"k", "lamp"⟩ "x" [72]),
    .event [] (.publish ⟨"p", "plugin"⟩ "devices/command/n1/7" [72]),
    .setFaults { noSnapshots with forwarder := true },
    .event [] (.publish ⟨"p", "plugin"⟩ "devices/command/n1/7" [72]),
    .event [] (.publish ⟨"k", "lamp"⟩ "a" [72]), .event [] (.closed ⟨"k", "lamp"⟩)]

theorem tally_exact_lamp :
    talliedLamp.tally = Tally.zero ∧ (visits lampGate talliedLamp talliedDay).length = 12 ∧
      Counter.all.map (fun c => ((run lampGate talliedLamp talliedDay).tally.word c).toNat) =
        [1, 1, 1, 1, 1, 1, 2, 1, 3] ∧
      (run lampGate talliedLamp talliedDay).sent.map Message.topic =
        ["b", "v/xn1/\x7bunit\x7d"] := by
  have hzero : talliedLamp.tally = Tally.zero := rfl
  have hlength : (visits lampGate talliedLamp talliedDay).length = 12 := rfl
  have hfew : (visits lampGate talliedLamp talliedDay).length < 2 ^ 64 := by
    rw [hlength]
    decide
  obtain ⟨hshown, _, _, _, hsent⟩ := tally_exact lampGate hzero hfew
  refine ⟨hzero, hlength, ?_, ?_⟩
  · simp only [hshown]
    decide +kernel
  · rw [hsent]
    decide +kernel

end DeviceGateway
