import DeviceGateway.Proofs.Gate.Handover
/-!
Failures only refuse. Whatever parts fail, an event is answered as if all of them worked, or refused
for a store that failed, and then nothing was sent.
-/
namespace DeviceGateway

open Backend

/-- A backend with parts that fail as a whole, and the same with all of them at work. -/
structure Impaired (failing working : Backend) : Prop where
  working_eq : working = { failing with faults := {} }
  whole : failing.faults.lost = []

/-- An answer while parts fail, beside the answer while they work. -/
def Falters {α : Type} (answer expected : Except StoreError α) : Prop :=
  answer = expected ∨ ∃ e, answer = .error e

theorem Falters.map {α β : Type} {answer expected : Except StoreError α} (f : α → β)
    (h : Falters answer expected) : Falters (answer.map f) (expected.map f) := by
  rcases h with h | ⟨e, h⟩
  · exact .inl (congrArg _ h)
  · exact .inr ⟨e, by rw [h]; rfl⟩

section

variable {failing working : Backend} (h : Impaired failing working)
include h

namespace Impaired

theorem fails_working (op : KeyValue.Op) (keys : List String) : working.fails op keys = false := by
  apply fails_of_faults
  rw [h.working_eq]

theorem fails_failing (op : KeyValue.Op) (keys : List String) :
    failing.fails op keys = failing.faults.keyValue.contains op := by
  unfold fails
  rw [h.whole, Bool.or_eq_left_iff_imp, List.any_eq_true]
  rintro ⟨key, _, hk⟩
  cases hk

theorem get_eq {key : String} (hf : failing.fails .get [key] = false) :
    failing.get key = working.get key := by
  unfold Backend.get attempt
  rw [hf, h.fails_working, h.working_eq]

theorem get_falters (key : String) : Falters (failing.get key) (working.get key) := by
  cases hf : failing.fails .get [key] with
  | false => exact .inl (h.get_eq hf)
  | true => exact .inr ⟨.failed .get, by simp only [Backend.get, attempt, hf, if_true]⟩

theorem ask_falters (q : Devices.Query) : Falters (failing.ask q) (working.ask q) := by
  rw [h.working_eq]
  unfold ask device
  split
  · exact .inr ⟨_, rfl⟩
  · split
    · exact .inr ⟨_, rfl⟩
    · exact .inl rfl

end Impaired

namespace Identity

theorem boundDevice_falters (clientId : String) :
    Falters (boundDevice failing clientId) (boundDevice working clientId) := by
  unfold boundDevice
  split
  · exact .inl rfl
  · exact (h.get_falters _).map _

theorem boundConfig_falters (deviceId : String) :
    Falters (boundConfig failing deviceId) (boundConfig working deviceId) :=
  (h.ask_falters _).map _

theorem storedDevice_falters (v : String) :
    Falters (storedDevice failing v).1 (storedDevice working v).1 := by
  unfold storedDevice
  rcases h.ask_falters (.voucher v) with ha | ⟨e, ha⟩
  · rw [ha]
    cases working.ask (.voucher v) with
    | error e => exact .inl rfl
    | ok found =>
        cases found with
        | none => exact .inl rfl
        | some d =>
            have hset : working.set v d.id none = .ok _ :=
              attempt_eq_answer (h.fails_working .set [v])
            dsimp only
            rw [hset]
            cases failing.set v d.id none with
            | error e => exact .inr ⟨e, rfl⟩
            | ok after => exact .inl rfl
  · rw [ha]
    exact .inr ⟨e, rfl⟩

theorem deviceByVoucher_falters (v : String) :
    Falters (deviceByVoucher failing v).1 (deviceByVoucher working v).1 := by
  unfold deviceByVoucher
  rcases h.get_falters v with hg | ⟨e, hg⟩
  · rw [hg]
    cases working.get v with
    | error e => exact .inl rfl
    | ok kept =>
        cases kept with
        | none => exact storedDevice_falters h v
        | some id =>
            dsimp only
            rcases h.ask_falters (.id id) with ha | ⟨e, ha⟩
            · rw [ha]
              cases working.ask (.id id) with
              | error e => exact .inl rfl
              | ok found =>
                  cases found with
                  | none => exact storedDevice_falters h v
                  | some d => exact .inl rfl
            · rw [ha]
              exact .inr ⟨e, rfl⟩
  · rw [hg]
    exact .inr ⟨e, rfl⟩

omit h in
/-- Who is bound to a device was looked up, so reads work. -/
theorem get_works_of_boundDevice {b : Backend} {clientId deviceId : String}
    (hb : boundDevice b clientId = .ok (some deviceId)) :
    b.fails .get [bindingKey clientId] = false := by
  unfold boundDevice at hb
  split at hb
  · cases hb
  · cases hget : b.get (bindingKey clientId) with
    | error e => rw [hget] at hb; cases hb
    | ok found => exact (attempt_eq_ok hget).1

end Identity

namespace Mapping

theorem load_falters (configId : String) (direction : Direction) :
    (load failing configId direction).1 = (load working configId direction).1 ∨
      ∃ e, (load failing configId direction).1 = .error (.store e) := by
  rw [h.working_eq]
  unfold load queryRules
  split
  · exact .inl rfl
  · cases failing.faults.rules with
    | false => exact .inl rfl
    | true => exact .inr ⟨_, rfl⟩

/-- Where snapshots can be read they are the same whatever else fails; without one the rule store is
asked. -/
theorem ask_falters {α : Type} (lifetime : Nat) (configId : String) (direction : Direction)
    (question : List Rule → α) (hf : failing.fails .get [Snapshot.key direction configId] = false) :
    (ask lifetime failing configId direction question).1 =
        (ask lifetime working configId direction question).1 ∨
      ∃ e, (ask lifetime failing configId direction question).1 = .error (.store e) := by
  have hread : Snapshot.read failing configId direction =
      Snapshot.read working configId direction := by
    unfold Snapshot.read
    rw [h.get_eq hf]
  unfold ask Snapshot.get
  rw [hread]
  by_cases hblank : Text.isBlank configId = true
  · rw [if_pos hblank, if_pos hblank]
    exact .inl rfl
  · rw [if_neg hblank, if_neg hblank]
    cases Snapshot.read working configId direction with
    | some rules => exact .inl rfl
    | none =>
        dsimp only
        have hload := load_falters h configId direction
        generalize load failing configId direction = answered at hload ⊢
        generalize load working configId direction = expected at hload ⊢
        obtain ⟨answer, after⟩ := answered
        obtain ⟨answer', after'⟩ := expected
        rcases hload with rfl | ⟨e, rfl⟩
        · cases answer <;> exact .inl rfl
        · exact .inr ⟨e, rfl⟩

/-- The rules of a bound client are asked for while reads work. -/
theorem ask_falters_of_bound {α : Type} {clientId deviceId : String}
    (hb : Identity.boundDevice failing clientId = .ok (some deviceId)) (lifetime : Nat)
    (configId : String) (direction : Direction) (question : List Rule → α) :
    (ask lifetime failing configId direction question).1 =
        (ask lifetime working configId direction question).1 ∨
      ∃ e, (ask lifetime failing configId direction question).1 = .error (.store e) := by
  have hworks := Identity.get_works_of_boundDevice hb
  rw [h.fails_failing] at hworks
  apply ask_falters h
  rw [h.fails_failing, hworks]

end Mapping

namespace Gate

omit h in
theorem bindTo_falters {after after' : Backend} (hf : after'.faults = {}) (client : Client)
    (username : String) (d : Device) :
    (bindTo after client username d).1 = (bindTo after' client username d).1 ∨
      ∃ reason, (bindTo after client username d).1 = .error (.store reason) := by
  have hset : after'.set (Identity.bindingKey client.id) d.id none = .ok _ :=
    attempt_eq_answer (fails_of_faults hf .set _)
  unfold bindTo Identity.bind
  dsimp only
  rw [hset]
  cases after.set (Identity.bindingKey client.id) d.id none with
  | error e => exact .inr ⟨e.message, rfl⟩
  | ok b => exact .inl rfl

theorem authenticate_falters (g : Gate) (client : Client) (username password : String) :
    (g.authenticate failing client username password).1 =
        (g.authenticate working client username password).1 ∨
      ∃ reason, (g.authenticate failing client username password).1 = .error (.store reason) := by
  unfold authenticate
  split
  · left
    split <;> rfl
  · have hlookup := Identity.deviceByVoucher_falters h (voucher username password)
    have hfaults :
        (Identity.deviceByVoucher working (voucher username password)).2.faults = {} := by
      have hframe := (Identity.deviceByVoucher_lookup working (voucher username password)).frame
        (P := fun _ => True) (L := True) trivial
      rw [hframe.faults, h.working_eq]
    generalize Identity.deviceByVoucher failing _ = answered at hlookup ⊢
    generalize Identity.deviceByVoucher working _ = expected at hlookup hfaults ⊢
    obtain ⟨answer, after⟩ := answered
    obtain ⟨answer', after'⟩ := expected
    rcases hlookup with rfl | ⟨e, rfl⟩
    · cases answer with
      | error e => exact .inl rfl
      | ok found =>
          cases found with
          | none => exact .inl rfl
          | some d => exact bindTo_falters hfaults client username d
    · exact .inr ⟨e.message, rfl⟩

theorem subscribeByRules_falters (g : Gate) {clientId deviceId : String}
    (hb : Identity.boundDevice failing clientId = .ok (some deviceId)) (topic : String) :
    (g.subscribeByRules failing deviceId topic).1 = (g.subscribeByRules working deviceId topic).1 ∨
      ∃ reason, (g.subscribeByRules failing deviceId topic).1 = .error (.store reason) := by
  unfold subscribeByRules
  rcases Identity.boundConfig_falters h deviceId with hc | ⟨e, hc⟩
  · rw [hc]
    cases Identity.boundConfig working deviceId with
    | error e => exact .inl rfl
    | ok config =>
        cases config with
        | none => exact .inl rfl
        | some configId =>
            have hask := Mapping.ask_falters_of_bound h hb g.snapshotLifetime configId .down
              (Mapping.allowsSubscribe · topic)
            unfold Mapping.allowsDown
            dsimp only
            generalize Mapping.ask _ failing _ _ _ = answered at hask ⊢
            generalize Mapping.ask _ working _ _ _ = expected at hask ⊢
            obtain ⟨answer, after⟩ := answered
            obtain ⟨answer', after'⟩ := expected
            rcases hask with rfl | ⟨e, rfl⟩
            · cases answer <;> exact .inl rfl
            · exact .inr ⟨_, rfl⟩
  · rw [hc]
    exact .inr ⟨e.message, rfl⟩

theorem subscribeBound_falters (g : Gate) (clientId topic : String) :
    (g.subscribeBound failing (Identity.boundDevice failing clientId) topic).1 =
        (g.subscribeBound working (Identity.boundDevice working clientId) topic).1 ∨
      ∃ reason, (g.subscribeBound failing (Identity.boundDevice failing clientId) topic).1 =
        .error (.store reason) := by
  unfold subscribeBound
  rcases Identity.boundDevice_falters h clientId with hb | ⟨e, hb⟩
  · rw [← hb]
    cases hd : Identity.boundDevice failing clientId with
    | error e => exact .inl rfl
    | ok bound =>
        cases bound with
        | none => exact .inl rfl
        | some deviceId => exact subscribeByRules_falters h g hd topic
  · rw [hb]
    exact .inr ⟨e.message, rfl⟩

theorem subscribe_falters (g : Gate) (client : Client) (topic : String) :
    (g.subscribe failing client topic).1 = (g.subscribe working client topic).1 ∨
      ∃ reason, (g.subscribe failing client topic).1 = .error (.store reason) := by
  unfold subscribe
  split
  · exact .inl rfl
  · dsimp only
    split
    · exact .inl rfl
    · have hbound := subscribeBound_falters h g client.id topic
      generalize g.subscribeBound failing _ topic = answered at hbound ⊢
      generalize g.subscribeBound working _ topic = expected at hbound ⊢
      obtain ⟨answer, after⟩ := answered
      obtain ⟨answer', after'⟩ := expected
      rcases hbound with rfl | ⟨reason, rfl⟩
      · cases answer with
        | error refusal => exact .inl rfl
        | ok allowed => cases allowed <;> exact .inl rfl
      · exact .inr ⟨reason, rfl⟩

omit h in
theorem publishPlain_fst (b b' : Backend) (deviceId topic : String) (payload : Bytes)
    (e : DeviceLog.Entry) : (publishPlain b deviceId topic payload e).1 =
      (publishPlain b' deviceId topic payload e).1 := by
  unfold publishPlain
  split <;> rfl

theorem publishFrom_falters (g : Gate) {clientId deviceId : String}
    (hb : Identity.boundDevice failing clientId = .ok (some deviceId)) (topic : String)
    (payload : Bytes) (e : DeviceLog.Entry) :
    (g.publishFrom failing deviceId topic payload e).1 =
        (g.publishFrom working deviceId topic payload e).1 ∨
      ∃ reason, (g.publishFrom failing deviceId topic payload e).1 = .reject (.store reason) := by
  unfold publishFrom
  rcases Identity.boundConfig_falters h deviceId with hc | ⟨e, hc⟩
  · rw [hc]
    cases Identity.boundConfig working deviceId with
    | error e => exact .inl rfl
    | ok config =>
        cases config with
        | none => exact .inl (publishPlain_fst _ _ deviceId topic payload e)
        | some configId =>
            have hask := Mapping.ask_falters_of_bound h hb g.snapshotLifetime configId .up
              (Mapping.upTarget? · topic)
            unfold Mapping.upTarget
            dsimp only
            generalize Mapping.ask _ failing _ _ _ = answered at hask ⊢
            generalize Mapping.ask _ working _ _ _ = expected at hask ⊢
            obtain ⟨answer, after⟩ := answered
            obtain ⟨answer', after'⟩ := expected
            rcases hask with rfl | ⟨e, rfl⟩
            · cases answer with
              | error e => exact .inl rfl
              | ok target =>
                  cases target with
                  | none => exact .inl (publishPlain_fst _ _ deviceId topic payload e)
                  | some target => exact .inl rfl
            · exact .inr ⟨_, rfl⟩
  · rw [hc]
    exact .inr ⟨e.message, rfl⟩

theorem publish_falters (g : Gate) (client : Client) (topic : String) (payload : Bytes) :
    (g.publish failing client topic payload).1 = (g.publish working client topic payload).1 ∨
      ∃ reason, (g.publish failing client topic payload).1 = .reject (.store reason) := by
  unfold publish
  split
  · exact .inl rfl
  · rcases Identity.boundDevice_falters h client.id with hb | ⟨e, hb⟩
    · rw [← hb]
      cases hd : Identity.boundDevice failing client.id with
      | error e => exact .inl rfl
      | ok bound =>
          cases bound with
          | none => exact .inl rfl
          | some deviceId => exact publishFrom_falters h g hd topic payload _
    · rw [hb]
      exact .inr ⟨e.message, rfl⟩

end Gate

end

namespace Gate

variable {g : Gate} {b : Backend} {client : Client} {topic : String} {payload : Bytes}

theorem publish_of_upward? {m : Message} (hclient : client.isPrivileged = false)
    (h : g.upward? b client topic payload = some m) :
    (g.publish b client topic payload).1 = .redirect m.topic m.payload := by
  obtain ⟨deviceId, hdevice, h⟩ := Option.bind_eq_some_iff.mp h
  obtain ⟨configId, hconfig, h⟩ := Option.bind_eq_some_iff.mp h
  obtain ⟨target, htarget, h⟩ := Option.bind_eq_some_iff.mp h
  cases h
  unfold publish
  rw [hclient, if_neg Bool.false_ne_true, eq_ok_of_join hdevice]
  dsimp only
  unfold publishFrom
  rw [eq_ok_of_join hconfig]
  dsimp only
  replace htarget := eq_ok_of_join htarget
  generalize Mapping.upTarget g.snapshotLifetime b configId topic = asked at htarget ⊢
  obtain ⟨answer, after⟩ := asked
  cases htarget
  rfl

end Gate

/-- Whether an event is refused because a store failed. -/
def Answer.StoreRefusal : Answer → Prop
  | .admission (.error (.store _)) => True
  | .delivery (.rejected (.store _)) => True
  | _ => False

namespace Pipeline

theorem handle_falters (p : Pipeline) {failing working : Backend} (h : Impaired failing working)
    (e : Event) :
    (p.handle failing e).1 = (p.handle working e).1 ∨ (p.handle failing e).1.StoreRefusal := by
  cases e with
  | auth client username password =>
      simp only [handle, authenticate]
      cases askAll (·.onAuth client username password) p.hooks with
      | error refusal => exact .inl rfl
      | ok _ =>
          rcases Gate.authenticate_falters h p.gate client username password with ha | ⟨reason, ha⟩
          · exact .inl (congrArg Answer.admission ha)
          · right
            dsimp only
            rw [ha]
            trivial
  | connected client => exact .inl rfl
  | subscribe client topic =>
      simp only [handle, subscribe]
      cases askAll (·.onSubscribe client topic) p.hooks with
      | error refusal => exact .inl rfl
      | ok _ =>
          rcases Gate.subscribe_falters h p.gate client topic with hs | ⟨reason, hs⟩
          · exact .inl (congrArg Answer.admission hs)
          · right
            dsimp only
            rw [hs]
            trivial
  | publish client topic payload =>
      simp only [handle, publish]
      cases passAll client topic p.hooks payload with
      | reject refusal => exact .inl rfl
      | redirect target payload => exact .inl rfl
      | accept payload =>
          rcases Gate.publish_falters h p.gate client topic payload with hp | ⟨reason, hp⟩
          · exact .inl (congrArg (Answer.delivery ·.delivery) hp)
          · right
            dsimp only
            rw [hp]
            trivial
  | closed client => exact .inl rfl

theorem outbound?_of_storeRefusal (p : Pipeline) (b : Backend) (e : Event)
    (h : (p.handle b e).1.StoreRefusal) : p.outbound? b e = none := by
  cases e with
  | auth | subscribe => rfl
  | connected | closed => cases h
  | publish client topic payload =>
      simp only [handle, publish] at h
      simp only [outbound?]
      generalize passAll client topic p.hooks payload = passed at h ⊢
      cases passed with
      | reject | redirect => rfl
      | accept last =>
          dsimp only at h ⊢
          cases hclient : client.isPrivileged with
          | true =>
              simp only [Gate.publish, hclient, if_true] at h
              cases h
          | false =>
              rw [if_neg Bool.false_ne_true, Option.eq_none_iff_forall_ne_some]
              intro m hm
              rw [Gate.publish_of_upward? hclient hm] at h
              cases h

/-- Whatever parts fail, an event is answered as it would be if none did, or it is refused for a
store that failed; then nothing is sent, and nothing was handed to the link for it to send. -/
theorem handle_failsClosed (p : Pipeline) (b : Backend) (ops : List KeyValue.Op)
    (devices rules forwarder : Bool) (e : Event) :
    let impaired := { b with faults := { keyValue := ops, devices, rules, forwarder } }
    let failing := p.handle impaired e
    let working := p.handle { b with faults := {} } e
    failing.1 = working.1 ∨
      failing.1.StoreRefusal ∧ failing.2.sent = b.sent ∧
        (Script.handle p e).handed impaired = [] := by
  have himpaired : Impaired { b with faults := { keyValue := ops, devices, rules, forwarder } }
      { b with faults := {} } := ⟨rfl, rfl⟩
  rcases handle_falters p himpaired e with h | h
  · exact .inl h
  · have hhanded : (Script.handle p e).handed
        { b with faults := { keyValue := ops, devices, rules, forwarder } } = [] := by
      rw [handed_handle, outbound?_of_storeRefusal p _ e h]
      rfl
    refine .inr ⟨h, ?_, hhanded⟩
    rw [← Script.run_handle, (Script.run_link _ _).1, hhanded, ite_self]
    exact List.append_nil _

end Pipeline

end DeviceGateway
