import DeviceGateway.Pipeline
import DeviceGateway.Proofs.DeviceLog.Write
import DeviceGateway.Proofs.Identity.Lookup
/-!
What the events of a broker leave as it was. Logging writes logs, asking for rules writes snapshots,
looking a voucher up writes under the voucher, and only the acceptance of a client writes a binding.
-/
namespace DeviceGateway

open Backend

variable {P : String → Prop} {L : Prop}

theorem Mapping.load_frame (b : Backend) (configId : String) (direction : Direction) :
    Frame P L b (load b configId direction).2 := by
  have h := queryRules_frame (P := P) (L := L) (b := b) configId direction
  unfold load
  split
  · exact .refl
  · split
    · next hq => exact h.of_eq hq
    · next hq => exact h.of_eq hq

theorem Mapping.Snapshot.write_frame (lifetime : Nat) (b : Backend) {configId : String}
    {direction : Direction} (rules : List Rule) (hP : P (key direction configId)) :
    Frame P L b (write lifetime b configId direction rules) := by
  unfold write
  split
  · next h => exact set_frame hP h
  · exact .refl

theorem Mapping.Snapshot.get_frame (lifetime : Nat) (b : Backend) {configId : String}
    {direction : Direction} (hP : P (key direction configId)) :
    Frame P L b (get lifetime b configId direction).2 := by
  have h := load_frame (P := P) (L := L) b configId direction
  unfold get
  split
  · exact .refl
  · split
    · exact .refl
    · split
      · next hl => exact h.of_eq hl
      · next hl => exact (h.of_eq hl).trans (write_frame lifetime _ _ hP)

theorem Mapping.ask_frame {α : Type} (lifetime : Nat) (b : Backend) {configId : String}
    {direction : Direction} (question : List Rule → α) (hP : P (Snapshot.key direction configId)) :
    Frame P L b (ask lifetime b configId direction question).2 := by
  have h := Snapshot.get_frame (L := L) lifetime b hP
  unfold ask
  split
  · next hg => exact h.of_eq hg
  · next hg => exact h.of_eq hg

theorem Mapping.Snapshot.invalidate_frame {b b' : Backend} {configId : String}
    (hP : ∀ direction, P (key direction configId)) (h : invalidate b configId = .ok b') :
    Frame P L b b' := by
  unfold invalidate at h
  split at h
  · cases h
  · cases hd : b.delete [key .up configId, key .down configId] with
    | error e => rw [hd] at h; cases h
    | ok c =>
        rw [hd] at h
        cases h
        refine delete_frame ?_ hd
        intro k hk
        rcases List.mem_cons.mp hk with rfl | hk
        · exact hP .up
        · rw [List.mem_singleton.mp hk]
          exact hP .down

namespace Gate

section

variable (hlog : ∀ deviceId, P (DeviceLog.logsKey deviceId))
variable (hsnapshot : ∀ direction configId, P (Mapping.Snapshot.key direction configId))
include hlog

theorem noteRefusedAuth_frame (b : Backend) (client : Client) (username password : String)
    (refusal : Refusal) (hP : P (voucher username "")) :
    Frame P L b (noteRefusedAuth b client username password refusal) := by
  have h := (Identity.deviceByVoucher_lookup b (voucher username "")).frame (L := L) hP
  unfold noteRefusedAuth
  split
  · exact .refl
  · split
    · next d b' hd => exact (h.of_eq hd).trans (note_frame _ _ (hlog d.id))
    · next hd => exact h.of_eq hd

theorem authenticate_frame (g : Gate) (b : Backend) (client : Client) (username password : String)
    (hP : P (voucher username password)) (hP' : P (voucher username ""))
    (hB : P (Identity.bindingKey client.id)) :
    Frame P L b (g.authenticate b client username password).2 := by
  cases hu : isPrivileged username with
  | true =>
      simp only [authenticate, hu, if_true]
      split <;> exact count_frame _
  | false =>
      have ha := authenticate_admission g b client password hu
      generalize g.authenticate b client username password = result at ha ⊢
      obtain ⟨answer, after⟩ := result
      cases ha with
      | turnedAway refusal hl _ hafter =>
          rw [hafter]
          exact ((hl.frame hP).trans (count_frame _)).trans
            (noteRefusedAuth_frame hlog _ client username password refusal hP')
      | unbound e hl hafter =>
          rw [hafter]
          exact ((hl.frame hP).trans (count_frame _)).trans (note_frame _ _ (hlog _))
      | bound hl _ hafter =>
          rw [hafter]
          exact (((hl.frame hP).trans (wrote_set_frame hB _ none)).trans (count_frame _)).trans
            (note_frame _ _ (hlog _))

omit hlog in
theorem reportStatus_frame (hL : L) (b : Backend) (client : Client) (status : String) :
    Frame P L b (reportStatus b client status) := by
  unfold reportStatus
  split
  · split
    · next h => exact send_frame hL h
    · exact count_frame _
  · exact .refl

omit hlog in
theorem connected_frame (hL : L) (b : Backend) (client : Client) :
    Frame P L b (connected b client) := by
  unfold connected
  split
  · exact .refl
  · exact reportStatus_frame hL b client _

omit hlog in
theorem closed_frame (hL : L) (b : Backend) (client : Client) : Frame P L b (closed b client) := by
  unfold closed
  split
  · exact .refl
  · exact reportStatus_frame hL b client _

include hsnapshot

omit hlog in
theorem subscribeByRules_frame (g : Gate) (b : Backend) (deviceId topic : String) :
    Frame P L b (g.subscribeByRules b deviceId topic).2 := by
  unfold subscribeByRules
  split
  · exact .refl
  · exact .refl
  · next configId _ =>
    have h := Mapping.ask_frame (L := L) g.snapshotLifetime b (Mapping.allowsSubscribe · topic)
      (hsnapshot .down configId)
    unfold Mapping.allowsDown
    split
    · next hm => exact h.of_eq hm
    · next hm => exact h.of_eq hm

omit hlog in
theorem subscribeBound_frame (g : Gate) (b : Backend) (binding : Except StoreError (Option String))
    (topic : String) : Frame P L b (g.subscribeBound b binding topic).2 := by
  unfold subscribeBound
  split
  · exact .refl
  · exact .refl
  · exact subscribeByRules_frame hsnapshot g b _ topic

theorem subscribe_frame (g : Gate) (b : Backend) (client : Client) (topic : String) :
    Frame P L b (g.subscribe b client topic).2 := by
  unfold subscribe
  split
  · exact .refl
  · have h := subscribeBound_frame (L := L) hsnapshot g b (Identity.boundDevice b client.id) topic
    dsimp only
    split
    · exact (count_frame _).trans (note_frame _ _ (hlog _))
    · split
      all_goals
        next hs => exact ((h.of_eq hs).trans (count_frame _)).trans (note_frame _ _ (hlog _))

theorem forwardDown_frame (hL : L) (g : Gate) (b : Backend) (client : Client) (topic : String)
    (payload : Bytes) : Frame P L b (g.forwardDown b client topic payload) := by
  unfold forwardDown
  split
  · exact .refl
  · next number _ =>
    split
    · split
      · exact .refl
      · next configId _ =>
        have h := Mapping.ask_frame (L := L) g.snapshotLifetime b
          (Mapping.downRoute? · topic number payload) (hsnapshot .down configId)
        unfold Mapping.downRoute
        split
        · next hm =>
          have hr := h.of_eq hm
          dsimp only
          split
          · next hs =>
            exact ((hr.trans (send_frame hL hs)).trans (count_frame _)).trans
              (note_frame _ _ (hlog _))
          · exact (hr.trans (count_frame _)).trans (note_frame _ _ (hlog _))
        · next hm => exact h.of_eq hm
    · exact .refl

omit hsnapshot in
theorem redirectUp_frame (hL : L) (b : Backend) (deviceId target : String) (payload : Bytes)
    (e : DeviceLog.Entry) : Frame P L b (redirectUp b deviceId target payload e).2 := by
  unfold redirectUp
  dsimp only
  split
  · next h =>
    exact ((send_frame hL h).trans (note_frame _ _ (hlog deviceId))).trans (count_frame _)
  · exact ((count_frame _).trans (note_frame _ _ (hlog deviceId))).trans (count_frame _)

omit hsnapshot in
theorem publishPlain_frame (b : Backend) (deviceId topic : String) (payload : Bytes)
    (e : DeviceLog.Entry) : Frame P L b (publishPlain b deviceId topic payload e).2 := by
  unfold publishPlain
  split <;> exact (count_frame _).trans (note_frame _ _ (hlog deviceId))

theorem publishFrom_frame (hL : L) (g : Gate) (b : Backend) (deviceId topic : String)
    (payload : Bytes) (e : DeviceLog.Entry) :
    Frame P L b (g.publishFrom b deviceId topic payload e).2 := by
  unfold publishFrom
  split
  · exact count_frame _
  · exact publishPlain_frame hlog b deviceId topic payload e
  · next configId _ =>
    have h := Mapping.ask_frame (L := L) g.snapshotLifetime b (Mapping.upTarget? · topic)
      (hsnapshot .up configId)
    unfold Mapping.upTarget
    split
    · next hm => exact (h.of_eq hm).trans (count_frame _)
    · next hm => exact (h.of_eq hm).trans (publishPlain_frame hlog _ deviceId topic payload e)
    · next hm => exact (h.of_eq hm).trans (redirectUp_frame hlog hL _ deviceId _ payload e)

theorem publish_frame (hL : L) (g : Gate) (b : Backend) (client : Client) (topic : String)
    (payload : Bytes) : Frame P L b (g.publish b client topic payload).2 := by
  unfold publish
  split
  · exact forwardDown_frame hlog hsnapshot hL g b client topic payload
  · split
    · exact count_frame _
    · exact count_frame _
    · exact publishFrom_frame hlog hsnapshot hL g b _ topic payload _

end

end Gate

end DeviceGateway
