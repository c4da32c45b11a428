import DeviceGateway.Proofs.Gate.Transcript
/-!
What scripts hand to the link. A link that fails forgets what it was given, so that cannot be read
off the backend afterwards; but the script says it, and a link that works has taken just that.
-/
namespace DeviceGateway

open Backend

def Instruction.handed : Instruction → List Message
  | .send topic payload => [⟨topic, payload⟩]
  | _ => []

theorem Access.serve_link (a : Access) (b : Backend) :
    (b.serve a.request).2.sent = b.sent ∧ (b.serve a.request).2.faults = b.faults := by
  let Keeps (after : Backend) : Prop := after.sent = b.sent ∧ after.faults = b.faults
  have hself : Keeps b := ⟨rfl, rfl⟩
  cases a with
  | get | list => exact hself
  | set s text value ttl =>
      refine settle_snd_keeps (I := Keeps) hself fun after h => ?_
      rw [set_eq_ok h]
      exact ⟨rfl, rfl⟩
  | forget configId =>
      refine settle_snd_keeps (I := Keeps) hself fun after h => ?_
      rw [delete_eq_ok h]
      exact ⟨rfl, rfl⟩
  | push deviceId value maxItems ttl =>
      refine settle_snd_keeps (I := Keeps) hself fun after h => ?_
      obtain ⟨kv, _, rfl⟩ := Option.map_eq_some_iff.mp (attempt_eq_ok h).2
      exact ⟨rfl, rfl⟩

theorem Instruction.perform_link (i : Instruction) (b : Backend) :
    (i.perform b).2.sent = b.sent ++ (if b.faults.forwarder then [] else i.handed) ∧
      (i.perform b).2.faults = b.faults := by
  have hquiet (h : (i.perform b).2.sent = b.sent) (hi : i.handed = []) :
      (i.perform b).2.sent = b.sent ++ if b.faults.forwarder then [] else i.handed := by
    rw [h, hi, ite_self, List.append_nil]
  cases i with
  | access a => exact ⟨hquiet (a.serve_link b).1 rfl, (a.serve_link b).2⟩
  | ask | count | time => exact ⟨hquiet rfl rfl, rfl⟩
  | queryRules configId direction =>
      have hasked : ((queryRules configId direction).perform b).2.sent = b.sent ∧
          ((queryRules configId direction).perform b).2.faults = b.faults := by
        unfold perform Backend.queryRules
        dsimp only
        split <;> exact ⟨rfl, rfl⟩
      exact ⟨hquiet hasked.1 rfl, hasked.2⟩
  | send topic payload =>
      unfold perform Backend.send
      dsimp only
      cases b.faults.forwarder with
      | true => exact ⟨(List.append_nil _).symm, rfl⟩
      | false => exact ⟨rfl, rfl⟩

namespace Script

variable {α β : Type}

/-- The messages that a script hands to the link, whether the link takes them or fails. -/
def handed : Script α → Backend → List Message
  | .done _, _ => []
  | .step i next, b => i.handed ++ (next (i.perform b).1).handed (i.perform b).2

theorem handed_bind (c : Script α) (k : α → Script β) (b : Backend) :
    (c >>= k).handed b = c.handed b ++ (k (c.run b).1).handed (c.run b).2 := by
  induction c generalizing b with
  | done answer => rfl
  | step i next ih => exact (congrArg _ (ih _ _)).trans (List.append_assoc _ _ _).symm

/-- A link that works takes just what it is handed, and one that fails takes nothing. -/
theorem run_link (c : Script α) (b : Backend) :
    (c.run b).2.sent = b.sent ++ (if b.faults.forwarder then [] else c.handed b) ∧
      (c.run b).2.faults = b.faults := by
  induction c generalizing b with
  | done answer => exact ⟨by rw [handed, ite_self, List.append_nil]; rfl, rfl⟩
  | step i next ih =>
      obtain ⟨hsent, hfaults⟩ := i.perform_link b
      obtain ⟨hrest, hlast⟩ := ih (i.perform b).1 (i.perform b).2
      refine ⟨?_, hlast.trans hfaults⟩
      rw [run, hrest, hsent, hfaults, handed, List.append_assoc]
      cases b.faults.forwarder <;> rfl

/-- Nothing is handed to the link, whatever is replied. -/
def Quiet : Script α → Prop
  | .done _ => True
  | .step i next => i.handed = [] ∧ ∀ reply, (next reply).Quiet

namespace Quiet

theorem step {i : Instruction} (hi : i.handed = []) : (Script.step i .done).Quiet :=
  ⟨hi, fun _ => trivial⟩

theorem bind {c : Script α} {k : α → Script β} (hc : c.Quiet) (hk : ∀ a, (k a).Quiet) :
    (c >>= k).Quiet := by
  induction c with
  | done answer => exact hk answer
  | step i next ih => exact ⟨hc.1, fun reply => ih reply (hc.2 reply)⟩

theorem handed {c : Script α} (hc : c.Quiet) (b : Backend) : c.handed b = [] := by
  induction c generalizing b with
  | done answer => rfl
  | step i next ih => rw [Script.handed, hc.1, ih _ (hc.2 _), List.append_nil]

/-- What is looked up first has no part in what is handed over, but through the reply. -/
theorem handed_bind {c : Script α} (hc : c.Quiet) (k : α → Script β) (b : Backend) :
    (c >>= k).handed b = (k (c.run b).1).handed (c.run b).2 := by
  rw [Script.handed_bind, hc.handed, List.nil_append]

end Quiet

/-! ### Scripts that hand nothing over -/

theorem quiet_ask (q : Devices.Query) : (ask q).Quiet := .step rfl

theorem quiet_storedDevice (username password : String) :
    (storedDevice username password).Quiet := by
  refine Quiet.bind (.step rfl) fun found => ?_
  cases found with
  | error e => trivial
  | ok found =>
      cases found with
      | none => trivial
      | some d =>
          refine Quiet.bind (.step rfl) fun kept => ?_
          cases kept <;> trivial

theorem quiet_deviceByVoucher (username password : String) :
    (deviceByVoucher username password).Quiet := by
  have hstored := quiet_storedDevice username password
  refine Quiet.bind (.step rfl) fun kept => ?_
  cases kept with
  | error e => trivial
  | ok kept =>
      cases kept with
      | none => exact hstored
      | some id =>
          refine Quiet.bind (.step rfl) fun found => ?_
          cases found with
          | error e => trivial
          | ok found =>
              cases found with
              | none => exact hstored
              | some d => trivial

theorem quiet_boundDevice (clientId : String) : (boundDevice clientId).Quiet := by
  unfold boundDevice
  split
  · trivial
  · exact .step rfl

theorem quiet_boundConfig (deviceId : String) : (boundConfig deviceId).Quiet :=
  .step rfl

theorem quiet_load (configId : String) (direction : Direction) :
    (load configId direction).Quiet := by
  unfold load
  split
  · trivial
  · refine Quiet.bind (.step rfl) fun found => ?_
    cases found <;> trivial

theorem quiet_rules (lifetime : Nat) (configId : String) (direction : Direction) :
    (rules lifetime configId direction).Quiet := by
  have hread : (readSnapshot configId direction).Quiet := by
    refine Quiet.bind (.step rfl) fun kept => ?_
    split <;> trivial
  unfold rules
  split
  · trivial
  · refine hread.bind fun kept => ?_
    cases kept with
    | some rules => trivial
    | none =>
        refine (quiet_load configId direction).bind fun loaded => ?_
        cases loaded with
        | error e => trivial
        | ok rules => exact .step rfl

theorem quiet_askRules {α : Type} (lifetime : Nat) (configId : String) (direction : Direction)
    (question : List Rule → α) : (askRules lifetime configId direction question).Quiet :=
  (quiet_rules lifetime configId direction).bind fun _ => trivial

theorem quiet_policy (deviceId : String) : (policy deviceId).Quiet := by
  unfold policy
  split
  · trivial
  · refine Quiet.bind (.step rfl) fun kept => ?_
    cases kept with
    | error e => trivial
    | ok kept =>
        cases kept with
        | none => trivial
        | some raw =>
            dsimp only
            cases DeviceLog.Policy.codec.decode? raw with
            | none => trivial
            | some p => exact .step rfl

theorem quiet_note (deviceId : String) (e : DeviceLog.Entry) : (note deviceId e).Quiet := by
  have hwrite : (writeLog deviceId e).Quiet := by
    refine (quiet_policy deviceId).bind fun found => ?_
    cases found with
    | error e => trivial
    | ok found =>
        cases found with
        | none => trivial
        | some p =>
            refine Quiet.bind (.step rfl) fun now => ?_
            refine Quiet.bind (.step rfl) fun pushed => ?_
            cases pushed <;> trivial
  unfold note
  split
  · trivial
  · exact hwrite.bind fun _ => trivial

theorem quiet_noted {α : Type} (c : Counter) (deviceId : String) (e : DeviceLog.Entry)
    (answer : α) : (noted c deviceId e answer).Quiet :=
  Quiet.bind (.step rfl) fun _ => (quiet_note deviceId e).bind fun _ => trivial

section

variable (g : Gate) (client : Client)

theorem quiet_refuseAuth (username password : String) (refusal : Refusal) :
    (refuseAuth client username password refusal).Quiet := by
  have hnote : (noteRefusedAuth client username password refusal).Quiet := by
    unfold noteRefusedAuth
    split
    · trivial
    · refine (quiet_deviceByVoucher username "").bind fun found => ?_
      split
      · exact quiet_note _ _
      · trivial
  exact Quiet.bind (.step rfl) fun _ => hnote.bind fun _ => trivial

theorem quiet_authenticate (username password : String) :
    (authenticate g client username password).Quiet := by
  unfold authenticate
  split
  · split <;> exact .step rfl
  · refine (quiet_deviceByVoucher username password).bind fun found => ?_
    cases found with
    | error e => exact quiet_refuseAuth client username password _
    | ok found =>
        cases found with
        | none => exact quiet_refuseAuth client username password _
        | some d =>
            refine Quiet.bind (.step rfl) fun bound => ?_
            cases bound <;> exact quiet_noted _ _ _ _

theorem quiet_subscribe (topic : String) : (subscribe g client topic).Quiet := by
  unfold subscribe
  split
  · trivial
  · refine (quiet_boundDevice client.id).bind fun binding => ?_
    have hbound : (subscribeBound g binding topic).Quiet := by
      unfold subscribeBound
      split
      · trivial
      · trivial
      · next deviceId =>
        refine (quiet_boundConfig deviceId).bind fun config => ?_
        split
        · trivial
        · trivial
        · exact (quiet_askRules _ _ _ _).bind fun _ => trivial
    dsimp only
    split
    · exact quiet_noted _ _ _ _
    · refine hbound.bind fun allowed => ?_
      split <;> exact quiet_noted _ _ _ _

theorem quiet_publishPlain (deviceId topic : String) (payload : Bytes) (e : DeviceLog.Entry) :
    (publishPlain deviceId topic payload e).Quiet := by
  unfold publishPlain
  split <;> exact quiet_noted _ _ _ _

end

end Script

/-! ### The message that is handed over -/

namespace Gate

section

variable (g : Gate) (b : Backend) (client : Client)

/-- What is reported of the device of a client. -/
def report? (status : String) : Option Message := do
  guard !client.isPrivileged
  let deviceId ← (Identity.boundDevice b client.id).toOption.join
  return ⟨statusTopic deviceId, Bytes.ofString status⟩

/-- What a device's message is sent on as, if a rule is for it. -/
def upward? (topic : String) (payload : Bytes) : Option Message := do
  let deviceId ← (Identity.boundDevice b client.id).toOption.join
  let configId ← (Identity.boundConfig b deviceId).toOption.join
  let target ← (Mapping.upTarget g.snapshotLifetime b configId topic).1.toOption.join
  return ⟨target, upEnvelope deviceId payload⟩

/-- What a message of the platform is sent on as, if it is for a device and a rule is for it. -/
def downward? (topic : String) (payload : Bytes) : Option Message := do
  let number ← Topic.Canonical.deviceNumber? topic
  let d ← (b.ask (.number number)).toOption.join
  let configId ← d.config?
  let route ← (Mapping.downRoute g.snapshotLifetime b configId topic number payload).1.toOption.join
  return ⟨route.topic, route.payload⟩

end

theorem eq_ok_of_join {ε α : Type} {x : Except ε (Option α)} {a : α}
    (h : x.toOption.join = some a) : x = .ok (some a) := by
  cases x with
  | error e => cases h
  | ok found => exact congrArg Except.ok h

end Gate

namespace Script

variable {β : Type}

theorem handed_send (b : Backend) (topic : String) (payload : Bytes)
    {k : Except ForwardError Unit → Script β} (hk : ∀ reply, (k reply).Quiet) :
    (send topic payload >>= k).handed b = [⟨topic, payload⟩] := by
  rw [handed_bind, (hk _).handed]
  rfl

section

variable (g : Gate) (b : Backend) (client : Client)

theorem handed_report (status : String) :
    (report client status).handed b = (Gate.report? b client status).toList := by
  unfold report Gate.report?
  cases client.isPrivileged with
  | true => rfl
  | false =>
      rw [if_neg Bool.false_ne_true, handed_bind]
      refine (List.append_nil _).trans ?_
      unfold reportStatus
      rw [(quiet_boundDevice client.id).handed_bind, run_boundDevice]
      cases Identity.boundDevice b client.id with
      | error e => rfl
      | ok bound =>
          cases bound with
          | none => rfl
          | some deviceId =>
              refine handed_send b _ _ fun reply => ?_
              cases reply with
              | ok _ => trivial
              | error e => exact .step rfl

theorem handed_forwardDown (topic : String) (payload : Bytes) :
    (forwardDown g client topic payload).handed b = (g.downward? b topic payload).toList := by
  unfold forwardDown Gate.downward? Mapping.downRoute
  cases Topic.Canonical.deviceNumber? topic with
  | none => rfl
  | some number =>
      dsimp only [Option.bind_eq_bind, Option.bind_some]
      rw [(quiet_ask _).handed_bind, run_ask]
      cases b.ask (.number number) with
      | error e => rfl
      | ok found =>
          cases found with
          | none => rfl
          | some d =>
              dsimp only [Except.toOption, Option.join, Option.bind_some, id]
              cases d.config? with
              | none => rfl
              | some configId =>
                  dsimp only [Option.bind_some]
                  rw [(quiet_askRules _ _ _ _).handed_bind, run_askRules]
                  generalize Mapping.ask g.snapshotLifetime b configId .down
                    (Mapping.downRoute? · topic number payload) = asked
                  obtain ⟨answer, after⟩ := asked
                  cases answer with
                  | error e => rfl
                  | ok found =>
                      cases found with
                      | none => rfl
                      | some route =>
                          refine handed_send after _ _ fun reply => ?_
                          cases reply <;> exact quiet_noted _ _ _ _

theorem handed_redirectUp (deviceId target : String) (payload : Bytes) (e : DeviceLog.Entry) :
    (redirectUp deviceId target payload e).handed b = [⟨target, upEnvelope deviceId payload⟩] := by
  refine handed_send b _ _ fun reply => ?_
  cases reply with
  | ok _ => exact (quiet_note _ _).bind fun _ => .bind (.step rfl) fun _ => trivial
  | error err => exact (quiet_noted _ _ _ _).bind fun _ => .bind (.step rfl) fun _ => trivial

theorem handed_publishFrom (deviceId topic : String) (payload : Bytes) (e : DeviceLog.Entry) :
    (publishFrom g deviceId topic payload e).handed b =
      (do
        let configId ← (Identity.boundConfig b deviceId).toOption.join
        let target ← (Mapping.upTarget g.snapshotLifetime b configId topic).1.toOption.join
        return (⟨target, upEnvelope deviceId payload⟩ : Message)).toList := by
  have hplain (b : Backend) : (publishPlain deviceId topic payload e).handed b = [] :=
    (quiet_publishPlain deviceId topic payload e).handed b
  unfold publishFrom Mapping.upTarget
  rw [(quiet_boundConfig deviceId).handed_bind, run_boundConfig]
  cases Identity.boundConfig b deviceId with
  | error err => rfl
  | ok config =>
      cases config with
      | none => exact hplain b
      | some configId =>
          dsimp only [Except.toOption, Option.join, Option.bind_eq_bind, Option.bind_some, id]
          rw [(quiet_askRules _ _ _ _).handed_bind, run_askRules]
          generalize Mapping.ask g.snapshotLifetime b configId .up (Mapping.upTarget? · topic) =
            asked
          obtain ⟨answer, after⟩ := asked
          cases answer with
          | error err => rfl
          | ok found =>
              cases found with
              | none => exact hplain after
              | some target => exact handed_redirectUp after deviceId target payload e

theorem handed_publish (topic : String) (payload : Bytes) :
    (publish g client topic payload).handed b =
      (if client.isPrivileged then g.downward? b topic payload
        else g.upward? b client topic payload).toList := by
  unfold publish
  cases client.isPrivileged with
  | true =>
      rw [if_pos rfl, if_pos rfl, handed_bind]
      exact (List.append_nil _).trans (handed_forwardDown g b client topic payload)
  | false =>
      rw [if_neg Bool.false_ne_true, if_neg Bool.false_ne_true,
        (quiet_boundDevice client.id).handed_bind, run_boundDevice]
      unfold Gate.upward?
      cases Identity.boundDevice b client.id with
      | error e => rfl
      | ok bound =>
          cases bound with
          | none => rfl
          | some deviceId => exact handed_publishFrom g b deviceId topic payload _

end

end Script

namespace Pipeline

/-- The one message that an event has the gate hand to the link, if it has any. -/
def outbound? (p : Pipeline) (b : Backend) : Event → Option Message
  | .auth _ _ _ | .subscribe _ _ => none
  | .connected client => Gate.report? b client onlineStatus
  | .closed client => Gate.report? b client offlineStatus
  | .publish client topic payload =>
    match passAll client topic p.hooks payload with
    | .accept last =>
      if client.isPrivileged then p.gate.downward? b topic last
      else p.gate.upward? b client topic last
    | _ => none

/-- An event has one message handed over or none, and the faults of the link have no part in it. -/
theorem handed_handle (p : Pipeline) (b : Backend) (e : Event) :
    (Script.handle p e).handed b = (p.outbound? b e).toList := by
  cases e with
  | auth client username password =>
      unfold Script.handle
      dsimp only
      split
      · rfl
      · rw [(Script.quiet_authenticate p.gate client username password).handed_bind]
        rfl
  | connected client => exact Script.handed_report b client onlineStatus
  | subscribe client topic =>
      unfold Script.handle
      dsimp only
      split
      · rfl
      · rw [(Script.quiet_subscribe p.gate client topic).handed_bind]
        rfl
  | publish client topic payload =>
      simp only [Script.handle, outbound?]
      cases passAll client topic p.hooks payload with
      | accept last =>
          dsimp only
          rw [Script.handed_bind]
          exact (List.append_nil _).trans (Script.handed_publish p.gate b client topic last)
      | reject | redirect => rfl
  | closed client => exact Script.handed_report b client offlineStatus

end Pipeline

end DeviceGateway
