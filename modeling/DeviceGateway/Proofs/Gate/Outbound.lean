import DeviceGateway.Proofs.Gate.Publish
import DeviceGateway.Proofs.Identity.Recall
/-!
What the gate hands to the link. An event has one message handed over or none, whether the link
takes it or not, and which one is read off the backend: a report, or what the rules make of a
message.
-/
namespace DeviceGateway

open Backend

namespace Backend

/-- A backend later on: at most one message was handed to the link. -/
def Hands : Option Message → Backend → Backend → Prop
  | none => Unheard
  | some m => HandsOver m

namespace Hands

variable {m : Option Message} {b b' b'' : Backend}

theorem after (h : Hands m b' b'') (hbefore : Unheard b b') : Hands m b b'' := by
  cases m with
  | none => exact hbefore.trans h
  | some m => exact HandsOver.after h hbefore

theorem mem_sent (h : Hands m b b') {n : Message} (hn : n ∈ b'.sent) : n ∈ b.sent ∨ m = some n := by
  cases m with
  | none => exact .inl (h.sent ▸ hn)
  | some m =>
      change HandsOver m b b' at h
      unfold HandsOver at h
      split at h
      · exact .inl (h.1 ▸ hn)
      · rw [h.1] at hn
        rcases List.mem_append.mp hn with hn | hn
        · exact .inl hn
        · exact .inr (congrArg some (List.mem_singleton.mp hn).symm)

end Hands

theorem note_count_unheard (b : Backend) {c : Counter} (hc : c ≠ .forwardFailures)
    (deviceId : String) (e : DeviceLog.Entry) : Unheard b ((b.count c).note deviceId e) :=
  (count_unheard b hc).trans (note_unheard _ deviceId e)

end Backend

namespace Gate

variable (g : Gate) (b : Backend) (client : Client)

theorem send_hands (topic : String) (payload : Bytes) :
    Hands (some ⟨topic, payload⟩) b
      (match b.send topic payload with
        | .ok after => after
        | .error _ => b.count .forwardFailures) := by
  cases hsend : b.send topic payload with
  | ok after => exact send_handsOver hsend
  | error e => exact count_handsOver hsend

/-- A client comes or goes; only devices are reported. -/
theorem report_hands (status : String) :
    Hands (report? b client status) b
      (if client.isPrivileged then b else reportStatus b client status) := by
  unfold report? reportStatus
  cases client.isPrivileged with
  | true => exact Unheard.refl
  | false =>
      cases Identity.boundDevice b client.id with
      | error e => exact Unheard.refl
      | ok bound =>
          cases bound with
          | none => exact Unheard.refl
          | some deviceId => exact send_hands b _ _

theorem forwardDown_hands (topic : String) (payload : Bytes) :
    Hands (g.downward? b topic payload) b (g.forwardDown b client topic payload) := by
  unfold downward? forwardDown
  cases Topic.Canonical.deviceNumber? topic with
  | none => exact Unheard.refl
  | some number =>
      dsimp only [Option.bind_eq_bind, Option.bind_some]
      cases b.ask (.number number) with
      | error e => exact Unheard.refl
      | ok found =>
          cases found with
          | none => exact Unheard.refl
          | some d =>
              dsimp only [Except.toOption, Option.join, Option.bind_some, id]
              cases d.config? with
              | none => exact Unheard.refl
              | some configId =>
                  have hasked : Unheard b
                      (Mapping.downRoute g.snapshotLifetime b configId topic number payload).2 :=
                    Mapping.ask_unheard _ b configId .down _
                  dsimp only [Option.bind_some]
                  generalize Mapping.downRoute g.snapshotLifetime b configId topic number payload =
                    asked at hasked ⊢
                  obtain ⟨answer, next⟩ := asked
                  cases answer with
                  | error e => exact hasked
                  | ok route =>
                      cases route with
                      | none => exact hasked
                      | some route =>
                          refine Hands.after ?_ hasked
                          dsimp only
                          split
                          · next hsend =>
                            exact (send_handsOver hsend).trans
                              (note_count_unheard _ (by decide) d.id _)
                          · next hsend =>
                            exact (count_handsOver hsend).trans (note_unheard _ d.id _)

theorem publishFrom_hands (deviceId topic : String) (payload : Bytes) (e : DeviceLog.Entry) :
    Hands
      (do
        let configId ← (Identity.boundConfig b deviceId).toOption.join
        let target ← (Mapping.upTarget g.snapshotLifetime b configId topic).1.toOption.join
        return ⟨target, upEnvelope deviceId payload⟩)
      b (g.publishFrom b deviceId topic payload e).2 := by
  unfold publishFrom
  cases Identity.boundConfig b deviceId with
  | error err => exact count_unheard b (by decide)
  | ok config =>
      cases config with
      | none => exact publishPlain_unheard b deviceId topic payload e
      | some configId =>
          have hasked : Unheard b (Mapping.upTarget g.snapshotLifetime b configId topic).2 :=
            Mapping.ask_unheard _ b configId .up _
          dsimp only [Except.toOption, Option.join, Option.bind_eq_bind, Option.bind_some, id]
          generalize Mapping.upTarget g.snapshotLifetime b configId topic = asked at hasked ⊢
          obtain ⟨answer, next⟩ := asked
          cases answer with
          | error err => exact hasked.trans (count_unheard next (by decide))
          | ok target =>
              cases target with
              | none => exact hasked.trans (publishPlain_unheard next deviceId topic payload e)
              | some target =>
                  exact (redirectUp_handsOver next deviceId target payload e).after hasked

theorem publish_hands (topic : String) (payload : Bytes) :
    Hands
      (if client.isPrivileged then g.downward? b topic payload
        else g.upward? b client topic payload)
      b (g.publish b client topic payload).2 := by
  unfold publish
  cases client.isPrivileged with
  | true => exact forwardDown_hands g b client topic payload
  | false =>
      simp only [Bool.false_eq_true, if_false, upward?]
      cases Identity.boundDevice b client.id with
      | error e => exact count_unheard b (by decide)
      | ok bound =>
          cases bound with
          | none => exact count_unheard b (by decide)
          | some deviceId => exact publishFrom_hands g b deviceId topic payload _

theorem deviceByVoucher_unheard (v : String) : Unheard b (Identity.deviceByVoucher b v).2 :=
  (Identity.deviceByVoucher_congr .refl rfl).2.unheard

theorem refuseAuth_unheard (username password : String) (refusal : Refusal) :
    Unheard b (refuseAuth b client username password refusal).2 := by
  have hcount : Unheard b (b.count .authDenied) := count_unheard b (by decide)
  have hfound := deviceByVoucher_unheard (b.count .authDenied) (voucher username "")
  unfold refuseAuth noteRefusedAuth
  split
  · exact hcount
  · split
    · next heq =>
      rw [heq] at hfound
      exact (hcount.trans hfound).trans (note_unheard _ _ _)
    · next heq =>
      rw [heq] at hfound
      exact hcount.trans hfound

theorem bindTo_unheard (username : String) (d : Device) :
    Unheard b (bindTo b client username d).2 := by
  unfold bindTo Identity.bind
  rw [set_eq]
  cases b.fails .set [Identity.bindingKey client.id] with
  | true => exact note_count_unheard b (by decide) d.id _
  | false =>
      have hset : Unheard b (b.wrote (.set (Identity.bindingKey client.id) d.id none)
          (b.keyValue.set (Identity.bindingKey client.id) d.id none)) := ⟨rfl, rfl, rfl⟩
      exact hset.trans (note_count_unheard _ (by decide) d.id _)

theorem authenticate_unheard (username password : String) :
    Unheard b (g.authenticate b client username password).2 := by
  have hfound := deviceByVoucher_unheard b (voucher username password)
  unfold authenticate
  split
  · split <;> exact count_unheard b (by decide)
  · generalize Identity.deviceByVoucher b (voucher username password) = result at hfound ⊢
    obtain ⟨answer, found⟩ := result
    cases answer with
    | error e => exact hfound.trans (refuseAuth_unheard found client username password _)
    | ok device =>
        cases device with
        | none => exact hfound.trans (refuseAuth_unheard found client username password _)
        | some d => exact hfound.trans (bindTo_unheard found client username d)

theorem subscribeBound_unheard (binding : Except StoreError (Option String)) (topic : String) :
    Unheard b (g.subscribeBound b binding topic).2 := by
  unfold subscribeBound
  split
  · exact .refl
  · exact .refl
  · next deviceId =>
    unfold subscribeByRules
    split
    · exact .refl
    · exact .refl
    · next configId _ =>
      have hasked : Unheard b (Mapping.allowsDown g.snapshotLifetime b configId topic).2 :=
        Mapping.ask_unheard _ b configId .down _
      generalize Mapping.allowsDown g.snapshotLifetime b configId topic = asked at hasked ⊢
      obtain ⟨answer, next⟩ := asked
      cases answer <;> exact hasked

theorem subscribe_unheard (topic : String) : Unheard b (g.subscribe b client topic).2 := by
  unfold subscribe
  split
  · exact .refl
  · dsimp only
    split
    · exact note_count_unheard b (by decide) _ _
    · have h := g.subscribeBound_unheard b (Identity.boundDevice b client.id) topic
      split
      all_goals
        next heq =>
        rw [heq] at h
        exact h.trans (note_count_unheard _ (by decide) _ _)

end Gate

namespace Pipeline

theorem handle_hands (p : Pipeline) (b : Backend) (e : Event) :
    Hands (p.outbound? b e) b (p.handle b e).2 := by
  cases e with
  | auth client username password =>
      simp only [handle]
      rcases p.authenticate_cases b client username password with ⟨_, h⟩ | h
      · rw [h]
        exact Unheard.refl
      · rw [h]
        exact p.gate.authenticate_unheard b client username password
  | connected client => exact Gate.report_hands b client onlineStatus
  | subscribe client topic =>
      simp only [handle]
      rcases p.subscribe_cases b client topic with ⟨_, h⟩ | h
      · rw [h]
        exact Unheard.refl
      · rw [h]
        exact p.gate.subscribe_unheard b client topic
  | publish client topic payload =>
      simp only [handle, publish, outbound?]
      cases passAll client topic p.hooks payload with
      | accept last => exact p.gate.publish_hands b client topic last
      | reject | redirect => exact Unheard.refl
  | closed client => exact Gate.report_hands b client offlineStatus

end Pipeline

end DeviceGateway
