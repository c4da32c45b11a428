import DeviceGateway.Proofs.Gate.Script
/-!
The script of everything that the gateway does, function by function. Each says what is asked of
which part and in which order, and running it is the same as the function itself.
-/
namespace DeviceGateway.Script

open Backend

/-! ### Identity -/

def storedDevice (username password : String) : Script (Except StoreError (Option Device)) := do
  match ← ask (.voucher (voucher username password)) with
  | .error e => return .error e
  | .ok none => return .ok none
  | .ok (some d) =>
    match ← set (.voucher username password) d.id none with
    | .error e => return .error e
    | .ok () => return .ok (some d)

def deviceByVoucher (username password : String) : Script (Except StoreError (Option Device)) := do
  match ← get (.voucher username password) with
  | .error e => return .error e
  | .ok none => storedDevice username password
  | .ok (some id) =>
    match ← ask (.id id) with
    | .error e => return .error e
    | .ok (some d) => return .ok (some d)
    | .ok none => storedDevice username password

def boundDevice (clientId : String) : Script (Except StoreError (Option String)) :=
  if clientId.isEmpty then return .ok none
  else do
    let kept ← get (.binding clientId)
    return kept.map fun id => id.filter fun s => !s.isEmpty

def boundConfig (deviceId : String) : Script (Except StoreError (Option String)) := do
  let found ← ask (.id deviceId)
  return found.map fun d => d.bind Device.config?

section

variable (b : Backend)

@[simp] theorem run_storedDevice (username password : String) :
    (storedDevice username password).run b =
      Identity.storedDevice b (voucher username password) := by
  unfold storedDevice Identity.storedDevice
  simp only [run_bind, run_ask]
  cases b.ask (.voucher (voucher username password)) with
  | error e => rfl
  | ok found =>
      cases found with
      | none => rfl
      | some d =>
          simp only [run_bind, run_set, Slot.key]
          cases b.set (voucher username password) d.id none <;> rfl

@[simp] theorem run_deviceByVoucher (username password : String) :
    (deviceByVoucher username password).run b =
      Identity.deviceByVoucher b (voucher username password) := by
  unfold deviceByVoucher Identity.deviceByVoucher
  simp only [run_bind, run_get, Slot.key]
  cases b.get (voucher username password) with
  | error e => rfl
  | ok kept =>
      cases kept with
      | none => exact run_storedDevice b username password
      | some id =>
          simp only [run_bind, run_ask]
          cases b.ask (.id id) with
          | error e => rfl
          | ok found =>
              cases found with
              | none => exact run_storedDevice b username password
              | some d => rfl

@[simp] theorem run_boundDevice (clientId : String) :
    (boundDevice clientId).run b = (Identity.boundDevice b clientId, b) := by
  unfold boundDevice Identity.boundDevice
  split <;> rfl

@[simp] theorem run_boundConfig (deviceId : String) :
    (boundConfig deviceId).run b = (Identity.boundConfig b deviceId, b) := rfl

end

/-! ### Mapping -/

def load (configId : String) (direction : Direction) : Script (Except Mapping.Error (List Rule)) :=
  if Text.isBlank configId then return .error .blankConfig
  else do
    match ← queryRules configId direction with
    | .error e => return .error (.store e)
    | .ok rules => return .ok (Mapping.byPriority (rules.filter (·.enabled)))

def readSnapshot (configId : String) (direction : Direction) : Script (Option (List Rule)) := do
  match ← get (.snapshot direction configId) with
  | .ok (some raw) => return Mapping.Snapshot.codec.decode? raw
  | _ => return none

def writeSnapshot (lifetime : Nat) (configId : String) (direction : Direction)
    (rules : List Rule) : Script Unit := do
  let _ ← set (.snapshot direction configId) (Mapping.Snapshot.codec.encode rules)
    (some (max lifetime 1))

def rules (lifetime : Nat) (configId : String) (direction : Direction) :
    Script (Except Mapping.Error (List Rule)) :=
  if Text.isBlank configId then return .error .blankConfig
  else do
    match ← readSnapshot configId direction with
    | some rules => return .ok rules
    | none =>
      match ← load configId direction with
      | .error e => return .error e
      | .ok rules => do
        writeSnapshot lifetime configId direction rules
        return .ok rules

def invalidate (configId : String) : Script (Except Mapping.Error Unit) :=
  if Text.isBlank configId then return .error .blankConfig
  else do
    let result ← forget configId
    return result.mapError .store

def askRules {α : Type} (lifetime : Nat) (configId : String) (direction : Direction)
    (question : List Rule → α) : Script (Except Mapping.Error α) := do
  let found ← rules lifetime configId direction
  return found.map question

section

variable (b : Backend)

@[simp] theorem run_load (configId : String) (direction : Direction) :
    (load configId direction).run b = Mapping.load b configId direction := by
  unfold load Mapping.load
  split
  · rfl
  · simp only [run_bind, run_queryRules]
    generalize b.queryRules configId direction = asked
    obtain ⟨answer, after⟩ := asked
    cases answer <;> rfl

@[simp] theorem run_readSnapshot (configId : String) (direction : Direction) :
    (readSnapshot configId direction).run b = (Mapping.Snapshot.read b configId direction, b) := by
  unfold readSnapshot Mapping.Snapshot.read
  simp only [run_bind, run_get, Slot.key]
  cases b.get (Mapping.Snapshot.key direction configId) with
  | error e => rfl
  | ok kept => cases kept <;> rfl

@[simp] theorem run_writeSnapshot (lifetime : Nat) (configId : String) (direction : Direction)
    (rules : List Rule) :
    (writeSnapshot lifetime configId direction rules).run b =
      ((), Mapping.Snapshot.write lifetime b configId direction rules) := by
  unfold writeSnapshot Mapping.Snapshot.write
  simp only [run_bind, run_set, Slot.key]
  cases b.set (Mapping.Snapshot.key direction configId) (Mapping.Snapshot.codec.encode rules)
    (some (max lifetime 1)) <;> rfl

@[simp] theorem run_rules (lifetime : Nat) (configId : String) (direction : Direction) :
    (rules lifetime configId direction).run b =
      Mapping.Snapshot.get lifetime b configId direction := by
  unfold rules Mapping.Snapshot.get
  split
  · rfl
  · simp only [run_bind, run_readSnapshot]
    cases Mapping.Snapshot.read b configId direction with
    | some rules => rfl
    | none =>
        simp only [run_bind, run_load]
        generalize Mapping.load b configId direction = loaded
        obtain ⟨answer, after⟩ := loaded
        cases answer with
        | error e => rfl
        | ok rules => simp only [run_bind, run_writeSnapshot, run_pure]

@[simp] theorem run_invalidate (configId : String) :
    (invalidate configId).run b =
      ((Mapping.Snapshot.invalidate b configId).map fun _ => (),
        ((Mapping.Snapshot.invalidate b configId).toOption).getD b) := by
  unfold invalidate Mapping.Snapshot.invalidate
  split
  · rfl
  · simp only [run_bind, run_forget]
    cases b.delete
      [Mapping.Snapshot.key .up configId, Mapping.Snapshot.key .down configId] <;> rfl

@[simp] theorem run_askRules {α : Type} (lifetime : Nat) (configId : String)
    (direction : Direction) (question : List Rule → α) :
    (askRules lifetime configId direction question).run b =
      Mapping.ask lifetime b configId direction question := by
  unfold askRules
  rw [Mapping.Snapshot.ask_eq, run_bind, run_rules]
  rfl

end

/-! ### Logs of devices -/

def policy (deviceId : String) : Script (Except DeviceLog.Error (Option DeviceLog.Policy)) :=
  if deviceId.isEmpty then return .error .emptyDevice
  else do
    match ← get (.policy deviceId) with
    | .error e => return .error (.store e)
    | .ok none => return .ok none
    | .ok (some raw) =>
      match DeviceLog.Policy.codec.decode? raw with
      | none => return .error .malformed
      | some p =>
        let now ← time
        return if !p.enabled || p.isExpired now.seconds then .ok none else .ok (some p.normalized)

def setPolicy (deviceId : String) (p : DeviceLog.Policy) : Script (Except DeviceLog.Error Unit) :=
  if deviceId.isEmpty then return .error .emptyDevice
  else do
    let result ← set (.policy deviceId) (DeviceLog.Policy.codec.encode p) none
    return result.mapError .store

def writeLog (deviceId : String) (e : DeviceLog.Entry) : Script (Except DeviceLog.Error Bool) := do
  match ← policy deviceId with
  | .error err => return .error err
  | .ok none => return .ok false
  | .ok (some p) =>
    let now ← time
    let raw := DeviceLog.Entry.codec.encode (e.prepared deviceId now p)
    match ← push deviceId raw p.maxItems.toInt.toNat (p.logLifetime now.seconds) with
    | .error err => return .error (.store err)
    | .ok () => return .ok true

def entries (deviceId : String) : Script (Except DeviceLog.Error (List DeviceLog.Entry)) := do
  match ← list deviceId with
  | .error e => return .error (.store e)
  | .ok items => return .ok (items.filterMap DeviceLog.Entry.codec.decode?)

def note (deviceId : String) (e : DeviceLog.Entry) : Script Unit :=
  if deviceId.isEmpty then return ()
  else do
    let _ ← writeLog deviceId e

section

variable (b : Backend)

@[simp] theorem run_policy (deviceId : String) :
    (policy deviceId).run b = (DeviceLog.policy b deviceId, b) := by
  unfold policy DeviceLog.policy
  split
  · rfl
  · simp only [run_bind, run_get, Slot.key]
    cases b.get (DeviceLog.policyKey deviceId) with
    | error e => rfl
    | ok kept =>
        cases kept with
        | none => rfl
        | some raw =>
            dsimp only
            cases DeviceLog.Policy.codec.decode? raw with
            | none => rfl
            | some p => rfl

@[simp] theorem run_setPolicy (deviceId : String) (p : DeviceLog.Policy) :
    (setPolicy deviceId p).run b =
      ((DeviceLog.setPolicy b deviceId p).map fun _ => (),
        ((DeviceLog.setPolicy b deviceId p).toOption).getD b) := by
  unfold setPolicy DeviceLog.setPolicy
  split
  · rfl
  · simp only [run_bind, run_set, Slot.key]
    cases b.set (DeviceLog.policyKey deviceId) (DeviceLog.Policy.codec.encode p) none <;> rfl

@[simp] theorem run_writeLog (deviceId : String) (e : DeviceLog.Entry) :
    (writeLog deviceId e).run b = DeviceLog.write b deviceId e := by
  unfold writeLog DeviceLog.write
  simp only [run_bind, run_policy]
  cases DeviceLog.policy b deviceId with
  | error err => rfl
  | ok found =>
      cases found with
      | none => rfl
      | some p =>
          simp only [run_bind, run_time, run_push]
          cases b.push (DeviceLog.logsKey deviceId)
            (DeviceLog.Entry.codec.encode (e.prepared deviceId b.clock p)) p.maxItems.toInt.toNat
            (p.logLifetime b.clock.seconds) <;> rfl

@[simp] theorem run_entries (deviceId : String) :
    (entries deviceId).run b = (DeviceLog.entries b deviceId, b) := by
  unfold entries DeviceLog.entries
  simp only [run_bind, run_list]
  cases b.list (DeviceLog.logsKey deviceId) <;> rfl

@[simp] theorem run_note (deviceId : String) (e : DeviceLog.Entry) :
    (note deviceId e).run b = ((), b.note deviceId e) := by
  unfold note Backend.note
  split
  · rfl
  · simp only [run_bind, run_writeLog]
    rfl

end

/-! ### The gate -/

/-- Counts an event and writes it to the log of a device before it is answered. -/
def noted {α : Type} (c : Counter) (deviceId : String) (e : DeviceLog.Entry) (answer : α) :
    Script α := do
  count c
  note deviceId e
  return answer

@[simp] theorem run_noted {α : Type} (b : Backend) (c : Counter) (deviceId : String)
    (e : DeviceLog.Entry) (answer : α) :
    (noted c deviceId e answer).run b = (answer, (b.count c).note deviceId e) := by
  unfold noted
  simp only [run_bind, run_count, run_note, run_pure]

def noteRefusedAuth (client : Client) (username password : String) (refusal : Refusal) :
    Script Unit :=
  if password.isEmpty then return ()
  else do
    match ← deviceByVoucher username "" with
    | .ok (some d) =>
      note d.id (({ heading := .na, action := .auth, outcome := .denied } : DeviceLog.Entry)
        |>.withClient client.id username |>.withError refusal.message)
    | _ => return ()

def refuseAuth (client : Client) (username password : String) (refusal : Refusal) :
    Script (Except Refusal Unit) := do
  count .authDenied
  noteRefusedAuth client username password refusal
  return .error refusal

def bindTo (client : Client) (username : String) (d : Device) : Script (Except Refusal Unit) := do
  let entry := ({ heading := .na, action := .auth, outcome := .ok } : DeviceLog.Entry)
    |>.withClient client.id username
  match ← set (.binding client.id) d.id none with
  | .error e => noted .authDenied d.id entry (.error (.ofStore e))
  | .ok () => noted .authOk d.id entry (.ok ())

def authenticate (g : Gate) (client : Client) (username password : String) :
    Script (Except Refusal Unit) :=
  if isPrivileged username then
    if g.credentials.accepts username password then do
      count .authOk
      return .ok ()
    else do
      count .authDenied
      return .error (.auth "password error")
  else do
    match ← deviceByVoucher username password with
    | .error e => refuseAuth client username password (.ofStore e)
    | .ok none => refuseAuth client username password (.auth "device not found")
    | .ok (some d) => bindTo client username d

def reportStatus (client : Client) (status : String) : Script Unit := do
  match ← boundDevice client.id with
  | .ok (some deviceId) =>
    match ← send (statusTopic deviceId) (Bytes.ofString status) with
    | .ok () => return ()
    | .error _ => count .forwardFailures
  | _ => return ()

def subscribeByRules (g : Gate) (deviceId topic : String) : Script (Except Refusal Bool) := do
  match ← boundConfig deviceId with
  | .error e => return .error (.ofStore e)
  | .ok none => return .ok false
  | .ok (some configId) =>
    let allowed ← askRules g.snapshotLifetime configId .down (Mapping.allowsSubscribe · topic)
    return allowed.mapError .ofMapping

def subscribeBound (g : Gate) (binding : Except StoreError (Option String)) (topic : String) :
    Script (Except Refusal Bool) :=
  match binding with
  | .error e => return .error (.ofStore e)
  | .ok none => return .ok false
  | .ok (some deviceId) => subscribeByRules g deviceId topic

def subscribe (g : Gate) (client : Client) (topic : String) : Script (Except Refusal Unit) :=
  if client.isPrivileged then return .ok ()
  else do
    let binding ← boundDevice client.id
    let deviceId := match binding with
      | .ok (some deviceId) => deviceId
      | _ => ""
    let entry := ({ heading := .na, action := .subscribe, outcome := .ok } : DeviceLog.Entry)
      |>.withClient client.id client.username |>.withTopic topic
    if Topic.Canonical.subscribable topic then noted .subscribeOk deviceId entry (.ok ())
    else
      match ← subscribeBound g binding topic with
      | .ok true =>
        noted .subscribeOk deviceId (entry.withDetail "custom_mapping_allowed" (.bool true))
          (.ok ())
      | .ok false =>
        noted .subscribeDenied deviceId
          { entry with error := "permission denied", outcome := .denied }
          (.error (.permission ("subscribe to " ++ topic)))
      | .error refusal =>
        noted .subscribeDenied deviceId { entry with error := refusal.message, outcome := .error }
          (.error refusal)

def sendDown (client : Client) (topic : String) (payload : Bytes) (d : Device)
    (route : Mapping.Route) : Script Unit := do
  let entry := ({ heading := .down, action := .forward, outcome := .ok } : DeviceLog.Entry)
    |>.withClient client.id client.username |>.withTopic topic |>.withPayload payload
    |>.withDetail "mapped" (.bool true) |>.withDetail "target_topic" (.text topic)
    |>.withDetail "source_topic" (.text route.topic)
  match ← send route.topic route.payload with
  | .ok () => noted .downForwarded d.id entry ()
  | .error e =>
    noted .forwardFailures d.id { entry with error := e.message, outcome := .error } ()

def forwardDown (g : Gate) (client : Client) (topic : String) (payload : Bytes) : Script Unit :=
  match Topic.Canonical.deviceNumber? topic with
  | none => return ()
  | some number => do
    match ← ask (.number number) with
    | .ok (some d) =>
      match d.config? with
      | none => return ()
      | some configId =>
        match ← askRules g.snapshotLifetime configId .down
          (Mapping.downRoute? · topic number payload) with
        | .ok (some route) => sendDown client topic payload d route
        | _ => return ()
    | _ => return ()

def redirectUp (deviceId target : String) (payload : Bytes) (e : DeviceLog.Entry) :
    Script Decision := do
  let wrapped := upEnvelope deviceId payload
  let entry := (e.withDetail "mapped" (.bool true)).withDetail "target_topic" (.text target)
  match ← send target wrapped with
  | .ok () => note deviceId { entry with outcome := .discarded }
  | .error err =>
    noted .forwardFailures deviceId { entry with error := err.message, outcome := .error } ()
  count .publishRedirected
  return .redirect target wrapped

def publishPlain (deviceId topic : String) (payload : Bytes) (e : DeviceLog.Entry) :
    Script Decision :=
  if Topic.Canonical.publishable topic then
    noted .publishOk deviceId e (.accept (upEnvelope deviceId payload))
  else
    noted .publishDenied deviceId { e with error := "permission denied", outcome := .denied }
      (.reject (.permission ("publish to " ++ topic)))

/-- A message that is turned away before anything is known of a device. -/
def turnAway (refusal : Refusal) : Script Decision := do
  count .publishDenied
  return .reject refusal

def publishFrom (g : Gate) (deviceId topic : String) (payload : Bytes) (e : DeviceLog.Entry) :
    Script Decision := do
  match ← boundConfig deviceId with
  | .error err => turnAway (.ofStore err)
  | .ok none => publishPlain deviceId topic payload e
  | .ok (some configId) =>
    match ← askRules g.snapshotLifetime configId .up (Mapping.upTarget? · topic) with
    | .error err => turnAway (.ofMapping err)
    | .ok none => publishPlain deviceId topic payload e
    | .ok (some target) => redirectUp deviceId target payload e

def publish (g : Gate) (client : Client) (topic : String) (payload : Bytes) : Script Decision :=
  if client.isPrivileged then do
    forwardDown g client topic payload
    return .accept payload
  else do
    match ← boundDevice client.id with
    | .error e => turnAway (.ofStore e)
    | .ok none => turnAway (.permission "client is not bound to a device")
    | .ok (some deviceId) =>
      let entry := ({ heading := .up, action := .publish, outcome := .ok } : DeviceLog.Entry)
        |>.withClient client.id client.username |>.withTopic topic |>.withPayload payload
      publishFrom g deviceId topic payload entry

section

variable (g : Gate) (b : Backend) (client : Client)

@[simp] theorem run_noteRefusedAuth (username password : String) (refusal : Refusal) :
    (noteRefusedAuth client username password refusal).run b =
      ((), Gate.noteRefusedAuth b client username password refusal) := by
  unfold noteRefusedAuth Gate.noteRefusedAuth
  split
  · rfl
  · simp only [run_bind, run_deviceByVoucher]
    generalize Identity.deviceByVoucher b (voucher username "") = looked
    obtain ⟨answer, after⟩ := looked
    cases answer with
    | error e => rfl
    | ok found =>
        cases found with
        | none => rfl
        | some d => exact run_note after d.id _

@[simp] theorem run_refuseAuth (username password : String) (refusal : Refusal) :
    (refuseAuth client username password refusal).run b =
      Gate.refuseAuth b client username password refusal := by
  unfold refuseAuth Gate.refuseAuth
  simp only [run_bind, run_count, run_noteRefusedAuth, run_pure]

@[simp] theorem run_bindTo (username : String) (d : Device) :
    (bindTo client username d).run b = Gate.bindTo b client username d := by
  unfold bindTo Gate.bindTo Identity.bind
  simp only [run_bind, run_set, Slot.key]
  cases b.set (Identity.bindingKey client.id) d.id none with
  | error e => exact run_noted b .authDenied d.id _ _
  | ok after => exact run_noted after .authOk d.id _ _

@[simp] theorem run_authenticate (username password : String) :
    (authenticate g client username password).run b =
      g.authenticate b client username password := by
  unfold authenticate Gate.authenticate
  split
  · split <;> rfl
  · simp only [run_bind, run_deviceByVoucher]
    generalize Identity.deviceByVoucher b (voucher username password) = looked
    obtain ⟨answer, after⟩ := looked
    cases answer with
    | error e => exact run_refuseAuth after client username password _
    | ok found =>
        cases found with
        | none => exact run_refuseAuth after client username password _
        | some d => exact run_bindTo after client username d

@[simp] theorem run_reportStatus (status : String) :
    (reportStatus client status).run b = ((), Gate.reportStatus b client status) := by
  unfold reportStatus Gate.reportStatus
  simp only [run_bind, run_boundDevice]
  cases Identity.boundDevice b client.id with
  | error e => rfl
  | ok bound =>
      cases bound with
      | none => rfl
      | some deviceId =>
          simp only [run_bind, run_send]
          cases b.send (statusTopic deviceId) (Bytes.ofString status) <;> rfl

@[simp] theorem run_subscribeByRules (deviceId topic : String) :
    (subscribeByRules g deviceId topic).run b = g.subscribeByRules b deviceId topic := by
  unfold subscribeByRules Gate.subscribeByRules Mapping.allowsDown
  simp only [run_bind, run_boundConfig]
  cases Identity.boundConfig b deviceId with
  | error e => rfl
  | ok config =>
      cases config with
      | none => rfl
      | some configId =>
          simp only [run_bind, run_askRules]
          generalize Mapping.ask g.snapshotLifetime b configId .down
            (Mapping.allowsSubscribe · topic) = asked
          obtain ⟨answer, after⟩ := asked
          cases answer <;> rfl

@[simp] theorem run_subscribeBound (binding : Except StoreError (Option String))
    (topic : String) :
    (subscribeBound g binding topic).run b = g.subscribeBound b binding topic := by
  cases binding with
  | error e => rfl
  | ok bound =>
      cases bound with
      | none => rfl
      | some deviceId => exact run_subscribeByRules g b deviceId topic

@[simp] theorem run_subscribe (topic : String) :
    (subscribe g client topic).run b = g.subscribe b client topic := by
  unfold subscribe Gate.subscribe
  split
  · rfl
  · simp only [run_bind, run_boundDevice]
    split
    · exact run_noted b .subscribeOk _ _ _
    · simp only [run_bind, run_subscribeBound]
      generalize g.subscribeBound b (Identity.boundDevice b client.id) topic = asked
      obtain ⟨answer, after⟩ := asked
      cases answer with
      | error refusal => exact run_noted after .subscribeDenied _ _ _
      | ok allowed =>
          cases allowed with
          | true => exact run_noted after .subscribeOk _ _ _
          | false => exact run_noted after .subscribeDenied _ _ _

@[simp] theorem run_forwardDown (topic : String) (payload : Bytes) :
    (forwardDown g client topic payload).run b =
      ((), g.forwardDown b client topic payload) := by
  unfold forwardDown Gate.forwardDown Mapping.downRoute
  cases Topic.Canonical.deviceNumber? topic with
  | none => rfl
  | some number =>
      simp only [run_bind, run_ask]
      cases b.ask (.number number) with
      | error e => rfl
      | ok found =>
          cases found with
          | none => rfl
          | some d =>
              dsimp only
              cases d.config? with
              | none => rfl
              | some configId =>
                  simp only [run_bind, run_askRules]
                  generalize Mapping.ask g.snapshotLifetime b configId .down
                    (Mapping.downRoute? · topic number payload) = asked
                  obtain ⟨answer, after⟩ := asked
                  cases answer with
                  | error e => rfl
                  | ok found =>
                      cases found with
                      | none => rfl
                      | some route =>
                          simp only [sendDown, run_bind, run_send]
                          cases after.send route.topic route.payload with
                          | error e => exact run_noted after .forwardFailures d.id _ _
                          | ok sent => exact run_noted sent .downForwarded d.id _ _

@[simp] theorem run_redirectUp (deviceId target : String) (payload : Bytes)
    (e : DeviceLog.Entry) :
    (redirectUp deviceId target payload e).run b =
      Gate.redirectUp b deviceId target payload e := by
  unfold redirectUp Gate.redirectUp
  simp only [run_bind, run_send]
  cases b.send target (upEnvelope deviceId payload) with
  | error err => simp only [run_bind, run_noted, run_count, run_pure]
  | ok sent => simp only [run_bind, run_note, run_count, run_pure]

@[simp] theorem run_publishPlain (deviceId topic : String) (payload : Bytes)
    (e : DeviceLog.Entry) :
    (publishPlain deviceId topic payload e).run b =
      Gate.publishPlain b deviceId topic payload e := by
  unfold publishPlain Gate.publishPlain
  split
  · exact run_noted b .publishOk deviceId _ _
  · exact run_noted b .publishDenied deviceId _ _

@[simp] theorem run_turnAway (refusal : Refusal) :
    (turnAway refusal).run b = (.reject refusal, b.count .publishDenied) := rfl

@[simp] theorem run_publishFrom (deviceId topic : String) (payload : Bytes)
    (e : DeviceLog.Entry) :
    (publishFrom g deviceId topic payload e).run b =
      g.publishFrom b deviceId topic payload e := by
  unfold publishFrom Gate.publishFrom Mapping.upTarget
  simp only [run_bind, run_boundConfig]
  cases Identity.boundConfig b deviceId with
  | error err => rfl
  | ok config =>
      cases config with
      | none => exact run_publishPlain b deviceId topic payload e
      | some configId =>
          simp only [run_bind, run_askRules]
          generalize Mapping.ask g.snapshotLifetime b configId .up
            (Mapping.upTarget? · topic) = asked
          obtain ⟨answer, after⟩ := asked
          cases answer with
          | error err => rfl
          | ok found =>
              cases found with
              | none => exact run_publishPlain after deviceId topic payload e
              | some target => exact run_redirectUp after deviceId target payload e

@[simp] theorem run_publish (topic : String) (payload : Bytes) :
    (publish g client topic payload).run b = g.publish b client topic payload := by
  unfold publish Gate.publish
  split
  · simp only [run_bind, run_forwardDown, run_pure]
  · simp only [run_bind, run_boundDevice]
    cases Identity.boundDevice b client.id with
    | error e => rfl
    | ok bound =>
        cases bound with
        | none => rfl
        | some deviceId => exact run_publishFrom g b deviceId topic payload _

end

/-! ### Events -/

def report (client : Client) (status : String) : Script Answer :=
  if client.isPrivileged then return .silence
  else do
    reportStatus client status
    return .silence

def handle (p : Pipeline) : Event → Script Answer
  | .auth client username password =>
    match Pipeline.askAll (·.onAuth client username password) p.hooks with
    | .error refusal => return .admission (.error refusal)
    | .ok () => do
      let result ← authenticate p.gate client username password
      return .admission result
  | .connected client => report client onlineStatus
  | .subscribe client topic =>
    match Pipeline.askAll (·.onSubscribe client topic) p.hooks with
    | .error refusal => return .admission (.error refusal)
    | .ok () => do
      let result ← subscribe p.gate client topic
      return .admission result
  | .publish client topic payload =>
    match Pipeline.passAll client topic p.hooks payload with
    | .accept payload => do
      let decision ← publish p.gate client topic payload
      return .delivery decision.delivery
    | decision => return .delivery decision.delivery
  | .closed client => report client offlineStatus

theorem run_report (b : Backend) (client : Client) (status : String) :
    (report client status).run b =
      (.silence, if client.isPrivileged then b else Gate.reportStatus b client status) := by
  unfold report
  split
  · rfl
  · simp only [run_bind, run_reportStatus, run_pure]

@[simp] theorem run_handle (p : Pipeline) (b : Backend) (e : Event) :
    (handle p e).run b = p.handle b e := by
  cases e with
  | auth client username password =>
      simp only [handle, Pipeline.handle, Pipeline.authenticate]
      cases Pipeline.askAll (·.onAuth client username password) p.hooks with
      | error refusal => rfl
      | ok _ => simp only [run_bind, run_authenticate, run_pure]
  | connected client => exact run_report b client onlineStatus
  | subscribe client topic =>
      simp only [handle, Pipeline.handle, Pipeline.subscribe]
      cases Pipeline.askAll (·.onSubscribe client topic) p.hooks with
      | error refusal => rfl
      | ok _ => simp only [run_bind, run_subscribe, run_pure]
  | publish client topic payload =>
      simp only [handle, Pipeline.handle, Pipeline.publish]
      cases Pipeline.passAll client topic p.hooks payload with
      | accept last => simp only [run_bind, run_publish, run_pure]
      | reject refusal => rfl
      | redirect target last => rfl
  | closed client => exact run_report b client offlineStatus

end DeviceGateway.Script
