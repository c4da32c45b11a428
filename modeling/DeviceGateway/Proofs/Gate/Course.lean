import DeviceGateway.Proofs.Gate.Effect
import DeviceGateway.Proofs.Run
/-!
The course of an event: what the gate asks of its parts, what it does, and what it answers in the
end. A course is the same whatever the backend is; only the replies differ. So whatever holds of
each question and each effect holds of events: what every effect keeps is kept, and backends that
reply alike and stay so under every effect cannot be told apart.
-/
namespace DeviceGateway

open Backend

variable {α β : Type}

/-- What the gate wants to know before it goes on. -/
inductive Question where
  | linkDown
  | fails (op : KeyValue.Op) (key : String)
  | device (q : Devices.Query)
  | bound (clientId : String)
  | found (username password : String)
  | rules (direction : Direction) (configId : String)

namespace Question

def Reply : Question → Type
  | .linkDown => Bool
  | .fails _ _ => Bool
  | .device _ => Except StoreError (Option Device)
  | .bound _ => Except StoreError (Option String)
  | .found _ _ => Except StoreError (Option String)
  | .rules _ _ => Except Mapping.Error (List Rule)

def reply (lifetime : Nat) (b : Backend) : (q : Question) → q.Reply
  | .linkDown => b.faults.forwarder
  | .fails op key => b.fails op [key]
  | .device q => b.ask q
  | .bound clientId => Identity.boundDevice b clientId
  | .found username password => Identity.foundId b (voucher username password)
  | .rules direction configId => (Mapping.Snapshot.get lifetime b configId direction).1

/-- Whether a question may be asked on behalf of a client: nobody asks what another is bound to. -/
def By (clientId : String) : Question → Prop
  | .bound c => c = clientId
  | _ => True

end Question

/-- What is done step by step; how it goes on hangs on the replies. -/
inductive Course (α : Type) where
  | done (answer : α)
  | ask (q : Question) (next : q.Reply → Course α)
  | act (x : Effect) (next : Course α)

namespace Course

def run (lifetime : Nat) : Course α → Backend → α × Backend
  | .done answer, b => (answer, b)
  | .ask q next, b => (next (q.reply lifetime b)).run lifetime b
  | .act x next, b => next.run lifetime (x.run lifetime b)

/-- The effects that a course has in a backend. -/
def effects (lifetime : Nat) : Course α → Backend → List Effect
  | .done _, _ => []
  | .ask q next, b => (next (q.reply lifetime b)).effects lifetime b
  | .act x next, b => x :: next.effects lifetime (x.run lifetime b)

/-- Whether a course may be taken on behalf of a client. -/
def By (clientId : String) : Course α → Prop
  | .done _ => True
  | .ask q next => q.By clientId ∧ ∀ reply, (next reply).By clientId
  | .act x next => x.By clientId ∧ next.By clientId

def bind : Course α → (α → Course β) → Course β
  | .done answer, k => k answer
  | .ask q next, k => .ask q fun reply => (next reply).bind k
  | .act x next, k => .act x (next.bind k)

variable {lifetime : Nat} {clientId : String}

theorem run_bind (c : Course α) (k : α → Course β) (b : Backend) :
    (c.bind k).run lifetime b = (k (c.run lifetime b).1).run lifetime (c.run lifetime b).2 := by
  induction c generalizing b with
  | done answer => rfl
  | ask q next ih => exact ih _ b
  | act x next ih => exact ih (x.run lifetime b)

theorem By.bind {c : Course α} {k : α → Course β} (hc : c.By clientId)
    (hk : ∀ a, (k a).By clientId) : (c.bind k).By clientId := by
  induction c with
  | done answer => exact hk answer
  | ask q next ih => exact ⟨hc.1, fun reply => ih reply (hc.2 reply)⟩
  | act x next ih => exact ⟨hc.1, ih hc.2⟩

theorem run_snd (c : Course α) (b : Backend) :
    (c.run lifetime b).2 = Effect.runAll lifetime b (c.effects lifetime b) := by
  induction c generalizing b with
  | done answer => rfl
  | ask q next ih => exact ih _ b
  | act x next ih => exact ih (x.run lifetime b)

theorem effects_by {c : Course α} (hc : c.By clientId) (b : Backend) :
    ∀ x ∈ c.effects lifetime b, x.By clientId := by
  induction c generalizing b with
  | done answer => exact nofun
  | ask q next ih => exact ih _ (hc.2 _) b
  | act x next ih => exact List.forall_mem_cons.mpr ⟨hc.1, ih hc.2 (x.run lifetime b)⟩

end Course

/-- Backends that a client cannot tell apart: they reply alike, and still do after any effect. -/
structure Course.Alike (lifetime : Nat) (clientId : String) (R : Backend → Backend → Prop) :
    Prop where
  reply : ∀ {b b'}, R b b' → ∀ q, Question.By clientId q → q.reply lifetime b' = q.reply lifetime b
  run : ∀ {b b'}, R b b' → ∀ x, Effect.By clientId x →
    R (x.run lifetime b) (x.run lifetime b')

namespace Course

variable {lifetime : Nat} {clientId : String} {R : Backend → Backend → Prop} {b b' : Backend}

/-- Backends that cannot be told apart get the same answer and the same done to them. -/
theorem Alike.course (hR : Alike lifetime clientId R) (h : R b b') {c : Course α}
    (hc : c.By clientId) :
    (c.run lifetime b').1 = (c.run lifetime b).1 ∧
      c.effects lifetime b' = c.effects lifetime b ∧
      R (c.run lifetime b).2 (c.run lifetime b').2 := by
  induction c generalizing b b' with
  | done answer => exact ⟨rfl, rfl, h⟩
  | ask q next ih =>
      simp only [Course.run, effects, hR.reply h q hc.1]
      exact ih _ h (hc.2 _)
  | act x next ih =>
      obtain ⟨hanswer, heffects, hafter⟩ := ih (hR.run h x hc.1) hc.2
      exact ⟨hanswer, congrArg (x :: ·) heffects, hafter⟩

theorem run_invariant {I : Backend → Prop}
    (hkeeps : ∀ b x, I b → I (Effect.run lifetime b x)) (hb : I b) (c : Course α) :
    I (c.run lifetime b).2 := by
  induction c generalizing b with
  | done answer => exact hb
  | ask q next ih => exact ih _ hb
  | act x next ih => exact ih (hkeeps b x hb)

end Course

/-- Nothing is known of a backend. -/
abbrev Anywhere (_ : Backend) : Prop := True

namespace Gate

variable (g : Gate)

/-- What is done on behalf of a client takes one course in all backends of a kind. -/
def Follows (clientId : String) (S : Backend → Prop) (f : Backend → α × Backend) : Prop :=
  ∃ c : Course α, c.By clientId ∧ ∀ b, S b → f b = c.run g.snapshotLifetime b

namespace Follows

variable {g} {clientId : String} {S S' : Backend → Prop} {f f' : Backend → α × Backend}

theorem congr (h : g.Follows clientId S f) (heq : ∀ b, S b → f' b = f b) :
    g.Follows clientId S f' := by
  obtain ⟨c, hc, hf⟩ := h
  exact ⟨c, hc, fun b hb => (heq b hb).trans (hf b hb)⟩

theorem mono (h : g.Follows clientId S f) (hS : ∀ b, S' b → S b) : g.Follows clientId S' f := by
  obtain ⟨c, hc, hf⟩ := h
  exact ⟨c, hc, fun b hb => hf b (hS b hb)⟩

theorem within (h : g.Follows clientId Anywhere f) : g.Follows clientId S f :=
  h.mono fun _ _ => trivial

theorem done (answer : α) : g.Follows clientId S fun b => (answer, b) :=
  ⟨.done answer, trivial, fun _ _ => rfl⟩

theorem act (x : Effect) (hx : x.By clientId) (h : g.Follows clientId Anywhere f) :
    g.Follows clientId S fun b => f (x.run g.snapshotLifetime b) := by
  obtain ⟨c, hc, hf⟩ := h
  exact ⟨.act x c, ⟨hx, hc⟩, fun b _ => hf _ trivial⟩

theorem ask (q : Question) (hq : q.By clientId)
    (h : ∀ reply, g.Follows clientId (fun b => q.reply g.snapshotLifetime b = reply) f) :
    g.Follows clientId Anywhere f := by
  choose c hc hf using h
  exact ⟨.ask q c, ⟨hq, hc⟩, fun b _ => hf _ b rfl⟩

/-- What is done after an answer takes a course for each answer there may be. -/
theorem branch (h : g.Follows clientId S f) {f' : Backend → β × Backend}
    (hk : ∀ a, ∃ k, g.Follows clientId Anywhere k ∧
      ∀ b next, S b → f b = (a, next) → f' b = k next) : g.Follows clientId S f' := by
  obtain ⟨c, hc, hf⟩ := h
  choose k hk hf' using hk
  choose d hd hrun using hk
  refine ⟨c.bind d, hc.bind hd, ?_⟩
  intro b hb
  rw [hf' _ b _ hb (hf b hb), hrun _ _ trivial, Course.run_bind]

theorem map (h : g.Follows clientId S f) (k : α → β) :
    g.Follows clientId S fun b => (k (f b).1, (f b).2) :=
  h.branch fun a => ⟨_, .done (k a), fun b next _ hf => by rw [hf]⟩

theorem lookUp (username password : String) :
    g.Follows clientId Anywhere fun b =>
      (Identity.foundId b (voucher username password),
        (Identity.deviceByVoucher b (voucher username password)).2) :=
  ask (.found username password) trivial fun reply =>
    (act (.lookUp username password) trivial (.done reply)).congr fun b hb => by
      rw [← hb]
      rfl

theorem askRules (configId : String) (direction : Direction) (question : List Rule → α) :
    g.Follows clientId Anywhere fun b =>
      Mapping.ask g.snapshotLifetime b configId direction question :=
  ask (.rules direction configId) trivial fun reply =>
    (act (.fetch direction configId) trivial (.done (reply.map question))).congr fun b hb => by
      rw [Mapping.Snapshot.ask_eq, ← hb]
      rfl

theorem send (topic : String) (payload : Bytes) {k : ForwardError → Backend → α × Backend}
    (hf : g.Follows clientId Anywhere f) (hk : ∀ e, g.Follows clientId Anywhere (k e)) :
    g.Follows clientId Anywhere fun b =>
      match b.send topic payload with
      | .ok b => f b
      | .error e => k e b := by
  refine ask .linkDown trivial fun down => ?_
  cases down with
  | true =>
      refine (hk .unavailable).within.congr ?_
      intro b (hb : b.faults.forwarder = true)
      rw [Backend.send, hb]
      rfl
  | false =>
      refine (act (.send topic payload) trivial hf).congr ?_
      intro b (hb : b.faults.forwarder = false)
      rw [Effect.run, Backend.send, hb]
      rfl

theorem counted (c : Counter) (answer : α) :
    g.Follows clientId S fun b => (answer, b.count c) :=
  .act (.count c) trivial (.done answer)

theorem noted (c : Counter) (deviceId : String) (e : DeviceLog.Entry) (answer : α) :
    g.Follows clientId S fun b => (answer, (b.count c).note deviceId e) :=
  .act (.count c) trivial (.act (.note deviceId e) trivial (.done answer))

/-- What a client is bound to is asked on its own behalf. -/
theorem bound (h : ∀ bound, g.Follows clientId
    (fun b => Identity.boundDevice b clientId = bound) f) : g.Follows clientId Anywhere f :=
  ask (.bound clientId) rfl h

theorem device (q : Devices.Query)
    (h : ∀ found, g.Follows clientId (fun b => b.ask q = found) f) :
    g.Follows clientId Anywhere f :=
  ask (.device q) trivial h

/-- Of a device that a client is bound to only the configuration matters. -/
theorem boundConfig (deviceId : String)
    (h : ∀ config, g.Follows clientId (fun b => Identity.boundConfig b deviceId = config) f) :
    g.Follows clientId Anywhere f :=
  device (.id deviceId) fun found =>
    (h (found.map fun d => d.bind Device.config?)).mono fun b hb => by
      rw [Identity.boundConfig, hb]

end Follows

section

variable {g} (client : Client)

theorem noteRefusedAuth_follows (answer : α) (username password : String) (refusal : Refusal) :
    g.Follows client.id Anywhere fun b =>
      (answer, noteRefusedAuth b client username password refusal) := by
  by_cases hempty : password.isEmpty = true
  · exact (Follows.done answer).congr fun b _ => by rw [noteRefusedAuth, if_pos hempty]
  · refine (Follows.lookUp username "").branch fun found => ?_
    cases found with
    | error e =>
        refine ⟨_, .done answer, ?_⟩
        intro b next _ h
        rw [noteRefusedAuth, if_neg hempty, Identity.deviceByVoucher_of_error h]
    | ok found =>
        cases found with
        | none =>
            refine ⟨_, .done answer, ?_⟩
            intro b next _ h
            rw [noteRefusedAuth, if_neg hempty, Identity.deviceByVoucher_of_none h]
        | some id =>
            exact ⟨_, .act (.note id _) trivial (.done answer), fun b next _ h => by
              obtain ⟨d, hid, hd⟩ := Identity.deviceByVoucher_of_some h
              rw [noteRefusedAuth, if_neg hempty, hd, ← hid]
              rfl⟩

theorem refuseAuth_follows (username password : String) (refusal : Refusal) :
    g.Follows client.id Anywhere fun b => refuseAuth b client username password refusal :=
  .act (.count .authDenied) trivial
    (noteRefusedAuth_follows client (Except.error refusal) username password refusal)

theorem bindTo_follows (username : String) (d : Device) :
    g.Follows client.id Anywhere fun b => bindTo b client username d := by
  refine .ask (.fails .set (Identity.bindingKey client.id)) trivial fun fails => ?_
  cases fails with
  | true =>
      refine (Follows.noted .authDenied d.id (authEntry client username)
        (.error (.ofStore (.failed .set)))).congr ?_
      intro b (hb : b.fails .set [Identity.bindingKey client.id] = true)
      rw [bindTo, Identity.bind, set_eq, hb]
      rfl
  | false =>
      refine (Follows.act (.bind client.id d.id) rfl
        (.noted .authOk d.id (authEntry client username) (.ok ()))).congr ?_
      intro b (hb : b.fails .set [Identity.bindingKey client.id] = false)
      rw [bindTo, Effect.run_bind, Identity.bind, set_eq, hb]
      rfl

theorem authenticate_follows (username password : String) :
    g.Follows client.id Anywhere fun b => g.authenticate b client username password := by
  cases hu : isPrivileged username with
  | true =>
      cases hpassword : g.credentials.accepts username password with
      | true =>
          refine (Follows.counted .authOk (.ok ())).congr fun b _ => ?_
          simp only [authenticate, hu, hpassword, if_true]
      | false =>
          refine (Follows.counted .authDenied (.error (.auth "password error"))).congr
            fun b _ => ?_
          simp only [authenticate, hu, hpassword, if_true, Bool.false_eq_true, if_false]
  | false =>
      refine (Follows.lookUp username password).branch fun found => ?_
      cases found with
      | error e =>
          refine ⟨_, refuseAuth_follows client username password (.ofStore e), ?_⟩
          intro b next _ h
          simp only [authenticate, hu, Bool.false_eq_true, if_false,
            Identity.deviceByVoucher_of_error h]
      | ok found =>
          cases found with
          | none =>
              refine ⟨_, refuseAuth_follows client username password (.auth "device not found"),
                ?_⟩
              intro b next _ h
              simp only [authenticate, hu, Bool.false_eq_true, if_false,
                Identity.deviceByVoucher_of_none h]
          | some id =>
              refine ⟨_, bindTo_follows client username ⟨id, "", "", none⟩, ?_⟩
              intro b next _ h
              obtain ⟨d, rfl, hd⟩ := Identity.deviceByVoucher_of_some h
              simp only [authenticate, hu, Bool.false_eq_true, if_false, hd]
              rfl

theorem reportStatus_follows (answer : α) (status : String) :
    g.Follows client.id Anywhere fun b => (answer, reportStatus b client status) := by
  refine .bound fun bound => ?_
  cases bound with
  | error e => exact (Follows.done answer).congr fun b hb => by simp only [reportStatus, hb]
  | ok bound =>
      cases bound with
      | none => exact (Follows.done answer).congr fun b hb => by simp only [reportStatus, hb]
      | some id =>
          refine (Follows.send (statusTopic id) (Bytes.ofString status) (.done answer)
            fun _ => .counted .forwardFailures answer).within.congr fun b hb => ?_
          rw [reportStatus, hb]
          dsimp only
          cases b.send (statusTopic id) (Bytes.ofString status) <;> rfl

theorem connected_follows (answer : α) :
    g.Follows client.id Anywhere fun b => (answer, connected b client) := by
  cases hclient : client.isPrivileged with
  | true =>
      refine (Follows.done answer).congr fun b _ => ?_
      simp only [connected, hclient, if_true]
  | false =>
      refine (reportStatus_follows client answer onlineStatus).congr fun b _ => ?_
      simp only [connected, hclient, Bool.false_eq_true, if_false]

theorem closed_follows (answer : α) :
    g.Follows client.id Anywhere fun b => (answer, closed b client) := by
  cases hclient : client.isPrivileged with
  | true =>
      refine (Follows.done answer).congr fun b _ => ?_
      simp only [closed, hclient, if_true]
  | false =>
      refine (reportStatus_follows client answer offlineStatus).congr fun b _ => ?_
      simp only [closed, hclient, Bool.false_eq_true, if_false]

theorem subscribeByRules_follows (deviceId topic : String) :
    g.Follows client.id Anywhere fun b => g.subscribeByRules b deviceId topic := by
  refine .boundConfig deviceId fun config => ?_
  cases config with
  | error e =>
      exact (Follows.done (.error (.ofStore e))).congr fun b hb => by rw [subscribeByRules, hb]
  | ok config =>
      cases config with
      | none => exact (Follows.done (.ok false)).congr fun b hb => by rw [subscribeByRules, hb]
      | some configId =>
          refine (Follows.askRules configId .down
            (Mapping.allowsSubscribe · topic)).within.branch fun told => ?_
          cases told with
          | error e =>
              refine ⟨_, .done (.error (.ofMapping e)), ?_⟩
              intro b next hb h
              simp only [subscribeByRules, hb, Mapping.allowsDown, h]
          | ok allowed =>
              refine ⟨_, .done (.ok allowed), ?_⟩
              intro b next hb h
              simp only [subscribeByRules, hb, Mapping.allowsDown, h]

theorem subscribeBound_follows (binding : Except StoreError (Option String)) (topic : String) :
    g.Follows client.id Anywhere fun b => g.subscribeBound b binding topic := by
  cases binding with
  | error e => exact .done _
  | ok bound =>
      cases bound with
      | none => exact .done _
      | some deviceId => exact subscribeByRules_follows client deviceId topic

theorem subscribe_follows (topic : String) :
    g.Follows client.id Anywhere fun b => g.subscribe b client topic := by
  cases hclient : client.isPrivileged with
  | true =>
      refine (Follows.done (.ok ())).congr fun b _ => ?_
      simp only [subscribe, hclient, if_true]
  | false =>
      refine .bound fun bound => ?_
      cases hstatic : Topic.Canonical.subscribable topic with
      | true =>
          exact (Follows.noted .subscribeOk _ _ (.ok ())).congr fun b hb => by
            simp only [subscribe, hclient, hstatic, hb, Bool.false_eq_true, if_false, if_true]
            rfl
      | false =>
          refine (subscribeBound_follows client bound topic).within.branch fun told => ?_
          cases told with
          | error refusal =>
              exact ⟨_, .noted .subscribeDenied _ _ (.error refusal), fun b next hb h => by
                simp only [subscribe, hclient, hstatic, hb, h, Bool.false_eq_true, if_false]
                rfl⟩
          | ok allowed =>
              cases allowed with
              | true =>
                  exact ⟨_, .noted .subscribeOk _ _ (.ok ()), fun b next hb h => by
                    simp only [subscribe, hclient, hstatic, hb, h, Bool.false_eq_true, if_false]
                    rfl⟩
              | false =>
                  exact ⟨_, .noted .subscribeDenied _ _ _, fun b next hb h => by
                    simp only [subscribe, hclient, hstatic, hb, h, Bool.false_eq_true, if_false]
                    rfl⟩

/-- The message of a platform goes by the rules of the device that it is meant for. -/
theorem forwardDown_follows (answer : α) (topic : String) (payload : Bytes) :
    g.Follows client.id Anywhere fun b => (answer, g.forwardDown b client topic payload) := by
  cases hnumber : Topic.Canonical.deviceNumber? topic with
  | none => exact (Follows.done answer).congr fun b _ => by simp only [forwardDown, hnumber]
  | some number =>
      refine .device (.number number) fun found => ?_
      have hquiet (h : ∀ b, b.ask (.number number) = found →
          g.forwardDown b client topic payload = b) :
          g.Follows client.id (fun b => b.ask (.number number) = found) fun b =>
            (answer, g.forwardDown b client topic payload) :=
        (Follows.done answer).congr fun b hb => by rw [h b hb]
      cases found with
      | error e => exact hquiet fun b hb => by simp only [forwardDown, hnumber, hb]
      | ok found =>
          cases found with
          | none => exact hquiet fun b hb => by simp only [forwardDown, hnumber, hb]
          | some d =>
              cases hconfig : d.config? with
              | none => exact hquiet fun b hb => by simp only [forwardDown, hnumber, hb, hconfig]
              | some configId =>
                  refine (Follows.askRules configId .down
                    (Mapping.downRoute? · topic number payload)).within.branch fun told => ?_
                  cases told with
                  | error e =>
                      refine ⟨_, .done answer, ?_⟩
                      intro b next hb h
                      simp only [forwardDown, hnumber, hb, hconfig, Mapping.downRoute, h]
                  | ok told =>
                      cases told with
                      | none =>
                          refine ⟨_, .done answer, ?_⟩
                          intro b next hb h
                          simp only [forwardDown, hnumber, hb, hconfig, Mapping.downRoute, h]
                      | some route =>
                          exact ⟨_, .send route.topic route.payload
                            (.noted .downForwarded d.id _ answer)
                            fun e => .noted .forwardFailures d.id _ answer, fun b next hb h => by
                              simp only [forwardDown, hnumber, hb, hconfig, Mapping.downRoute, h]
                              cases next.send route.topic route.payload <;> rfl⟩

theorem publishPlain_follows (deviceId topic : String) (payload : Bytes) (e : DeviceLog.Entry) :
    g.Follows client.id Anywhere fun b => publishPlain b deviceId topic payload e := by
  unfold publishPlain
  split
  · exact .noted .publishOk deviceId e _
  · exact .noted .publishDenied deviceId _ _

theorem redirectUp_follows (deviceId target : String) (payload : Bytes) (e : DeviceLog.Entry) :
    g.Follows client.id Anywhere fun b => redirectUp b deviceId target payload e := by
  have hredirect : g.Follows client.id Anywhere fun b =>
      (Decision.redirect target (upEnvelope deviceId payload), b.count .publishRedirected) :=
    .counted .publishRedirected _
  exact (Follows.send target (upEnvelope deviceId payload)
    (.act (.note deviceId _) trivial hredirect)
    fun err => .act (.count .forwardFailures) trivial
      (.act (.note deviceId _) trivial hredirect)).congr fun b _ => by
        unfold redirectUp
        dsimp only
        cases b.send target (upEnvelope deviceId payload) <;> rfl

theorem publishFrom_follows (deviceId topic : String) (payload : Bytes) (e : DeviceLog.Entry) :
    g.Follows client.id Anywhere fun b => g.publishFrom b deviceId topic payload e := by
  refine .boundConfig deviceId fun config => ?_
  cases config with
  | error err =>
      exact (Follows.counted .publishDenied (.reject (.ofStore err))).congr fun b hb => by
        rw [publishFrom, hb]
  | ok config =>
      cases config with
      | none =>
          exact (publishPlain_follows client deviceId topic payload e).within.congr
            fun b hb => by rw [publishFrom, hb]
      | some configId =>
          refine (Follows.askRules configId .up
            (Mapping.upTarget? · topic)).within.branch fun told => ?_
          cases told with
          | error err =>
              refine ⟨_, .counted .publishDenied (.reject (.ofMapping err)), ?_⟩
              intro b next hb h
              simp only [publishFrom, hb, Mapping.upTarget, h]
          | ok target =>
              cases target with
              | none =>
                  refine ⟨_, publishPlain_follows client deviceId topic payload e, ?_⟩
                  intro b next hb h
                  simp only [publishFrom, hb, Mapping.upTarget, h]
              | some target =>
                  refine ⟨_, redirectUp_follows client deviceId target payload e, ?_⟩
                  intro b next hb h
                  simp only [publishFrom, hb, Mapping.upTarget, h]

theorem publish_follows (topic : String) (payload : Bytes) :
    g.Follows client.id Anywhere fun b => g.publish b client topic payload := by
  cases hclient : client.isPrivileged with
  | true =>
      refine (forwardDown_follows client (Decision.accept payload) topic payload).congr
        fun b _ => ?_
      simp only [publish, hclient, if_true]
  | false =>
      refine .bound fun bound => ?_
      cases bound with
      | error e =>
          refine (Follows.counted .publishDenied (.reject (.ofStore e))).congr fun b hb => ?_
          simp only [publish, hclient, hb, Bool.false_eq_true, if_false]
      | ok bound =>
          cases bound with
          | none =>
              refine (Follows.counted .publishDenied
                (.reject (.permission "client is not bound to a device"))).congr fun b hb => ?_
              simp only [publish, hclient, hb, Bool.false_eq_true, if_false]
          | some deviceId =>
              have hfrom (e : DeviceLog.Entry) := publishFrom_follows (g := g) client deviceId topic
                payload e
              exact (hfrom _).within.congr fun b hb => by
                simp only [publish, hclient, hb, Bool.false_eq_true, if_false]
                rfl

end

end Gate

def Event.client : Event → Client
  | .auth client _ _ | .connected client | .subscribe client _ | .publish client _ _
  | .closed client => client

namespace Pipeline

variable (p : Pipeline)

/-- An event takes one course, whatever the backend is. -/
theorem handle_follows (e : Event) :
    p.gate.Follows e.client.id Anywhere fun b => p.handle b e := by
  cases e with
  | auth client username password =>
      cases hasked : askAll (·.onAuth client username password) p.hooks with
      | error refusal =>
          refine (Gate.Follows.done (.admission (.error refusal))).congr fun b _ => ?_
          simp only [handle, authenticate, hasked]
      | ok _ =>
          refine ((Gate.authenticate_follows client username password).map
            Answer.admission).congr fun b _ => ?_
          simp only [handle, authenticate, hasked]
  | connected client => exact Gate.connected_follows client Answer.silence
  | subscribe client topic =>
      cases hasked : askAll (·.onSubscribe client topic) p.hooks with
      | error refusal =>
          refine (Gate.Follows.done (.admission (.error refusal))).congr fun b _ => ?_
          simp only [handle, subscribe, hasked]
      | ok _ =>
          refine ((Gate.subscribe_follows client topic).map Answer.admission).congr fun b _ => ?_
          simp only [handle, subscribe, hasked]
  | publish client topic payload =>
      cases hpassed : passAll client topic p.hooks payload with
      | accept last =>
          refine ((Gate.publish_follows client topic last).map (.delivery ·.delivery)).congr
            fun b _ => ?_
          simp only [handle, publish, hpassed]
      | reject refusal =>
          refine (Gate.Follows.done (.delivery (.rejected refusal))).congr fun b _ => ?_
          simp only [handle, publish, hpassed]
          rfl
      | redirect target last =>
          refine (Gate.Follows.done (.delivery (.discarded target last))).congr fun b _ => ?_
          simp only [handle, publish, hpassed]
          rfl
  | closed client => exact Gate.closed_follows client Answer.silence

/-- Backends that a client cannot tell apart answer its events alike, and cannot be told apart
afterwards. -/
theorem handle_alike {e : Event} {R : Backend → Backend → Prop}
    (hR : Course.Alike p.gate.snapshotLifetime e.client.id R) {b b' : Backend} (h : R b b') :
    (p.handle b' e).1 = (p.handle b e).1 ∧ R (p.handle b e).2 (p.handle b' e).2 := by
  obtain ⟨c, hc, hf⟩ := p.handle_follows e
  have hrun (b : Backend) : p.handle b e = c.run p.gate.snapshotLifetime b := hf b trivial
  obtain ⟨hanswer, _, hafter⟩ := hR.course h hc
  rw [hrun, hrun]
  exact ⟨hanswer, hafter⟩

theorem handle_invariant {I : Backend → Prop}
    (hkeeps : ∀ b x, I b → I (Effect.run p.gate.snapshotLifetime b x)) {b : Backend}
    (hb : I b) (e : Event) : I (p.handle b e).2 := by
  obtain ⟨c, _, hf⟩ := p.handle_follows e
  have hrun : p.handle b e = c.run p.gate.snapshotLifetime b := hf b trivial
  rw [hrun]
  exact Course.run_invariant hkeeps hb c

end Pipeline

end DeviceGateway
