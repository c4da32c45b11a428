import DeviceGateway.Proofs.Gate.Frame
import DeviceGateway.Proofs.Store.Agreement
/-!
Runs of a gateway. Events of the broker are answered one after the other; between them parts fail
and recover, entries come to the end of their time, devices and rules come and go, and whoever looks
after the gateway asks for snapshots, forgets them, and writes logs and their policies.
-/
namespace DeviceGateway

open Backend

/-- What the broker asks. -/
inductive Event where
  | auth (client : Client) (username password : String)
  | connected (client : Client)
  | subscribe (client : Client) (topic : String)
  | publish (client : Client) (topic : String) (payload : Bytes)
  | closed (client : Client)
deriving DecidableEq, Repr

/-- What the broker is told. -/
inductive Answer where
  | admission (result : Except Refusal Unit)
  | delivery (result : Delivery)
  | silence

namespace Pipeline

def handle (p : Pipeline) (b : Backend) : Event → Answer × Backend
  | .auth client username password =>
    let (result, b) := p.authenticate b client username password
    (.admission result, b)
  | .connected client => (.silence, p.connected b client)
  | .subscribe client topic =>
    let (result, b) := p.subscribe b client topic
    (.admission result, b)
  | .publish client topic payload =>
    let (result, b) := p.publish b client topic payload
    (.delivery result, b)
  | .closed client => (.silence, p.closed b client)

/-- Either a hook refuses a client and nothing else is done, or the gate decides. -/
theorem authenticate_cases (p : Pipeline) (b : Backend) (client : Client)
    (username password : String) :
    (∃ refusal, p.authenticate b client username password = (.error refusal, b)) ∨
      p.authenticate b client username password =
        p.gate.authenticate b client username password := by
  unfold authenticate
  split
  · exact .inl ⟨_, rfl⟩
  · exact .inr rfl

theorem subscribe_cases (p : Pipeline) (b : Backend) (client : Client) (topic : String) :
    (∃ refusal, p.subscribe b client topic = (.error refusal, b)) ∨
      p.subscribe b client topic = p.gate.subscribe b client topic := by
  unfold subscribe
  split
  · exact .inl ⟨_, rfl⟩
  · exact .inr rfl

end Pipeline

/-- What may happen next. An event comes with the hooks as they are disposed at the time. -/
inductive Step where
  | event (hooks : List Hook) (e : Event)
  | setFaults (faults : Faults)
  | setClock (now : Instant)
  | lapse (key : String)
  | putDevice (device : Device)
  | addRule (rule : Rule)
  | removeRule (id : Int64)
  | lookUp (configId : String) (direction : Direction)
  | invalidate (configId : String)
  | setPolicy (deviceId : String) (policy : DeviceLog.Policy)
  | writeLog (deviceId : String) (entry : DeviceLog.Entry)

namespace Step

def apply (g : Gate) (b : Backend) : Step → Backend
  | .event hooks e => (Pipeline.handle ⟨hooks, g⟩ b e).2
  | .setFaults faults => { b with faults }
  | .setClock now => { b with clock := now }
  | .lapse key => { b with keyValue := b.keyValue.lapse key }
  | .putDevice device => { b with devices := b.devices.put device }
  | .addRule rule => { b with rules := b.rules.add rule }
  | .removeRule id => { b with rules := b.rules.remove id }
  | .lookUp configId direction =>
    (Mapping.Snapshot.get g.snapshotLifetime b configId direction).2
  | .invalidate configId => ((Mapping.Snapshot.invalidate b configId).toOption).getD b
  | .setPolicy deviceId policy => ((DeviceLog.setPolicy b deviceId policy).toOption).getD b
  | .writeLog deviceId entry => (DeviceLog.write b deviceId entry).2

def isAuth : Step → Bool
  | .event _ (.auth _ _ _) => true
  | _ => false

/-- Whether a step is not of the gateway's own doing. -/
def isOutside : Step → Bool
  | .setFaults _ | .setClock _ | .lapse _ | .putDevice _ | .addRule _ | .removeRule _ => true
  | _ => false

/-- What is written when nobody asks to be let in. -/
def routine : List Purpose := [.snapshot .up, .snapshot .down, .policy, .log]

/-- An auth may write any key that `P` has; the gateway does nothing else that is not routine. -/
theorem apply_frame (g : Gate) (b : Backend) {x : Step} (hx : x.isOutside = false)
    {P : String → Prop} (hroutine : ∀ key, Purpose.Among routine key → P key)
    (hauth : x.isAuth = true → ∀ key, P key) : Frame P True b (x.apply g b) := by
  have hlog (deviceId : String) : P (DeviceLog.logsKey deviceId) :=
    hroutine _ (Purpose.among_of_names (Purpose.names_logsKey deviceId) (by decide))
  have hpolicy (deviceId : String) : P (DeviceLog.policyKey deviceId) :=
    hroutine _ (Purpose.among_of_names (Purpose.names_policyKey deviceId) (by decide))
  have hsnapshot (direction : Direction) (configId : String) :
      P (Mapping.Snapshot.key direction configId) :=
    hroutine _ (Purpose.among_of_names (Purpose.names_snapshotKey direction configId)
      (by cases direction <;> decide))
  cases x with
  | event hooks e =>
      cases e with
      | auth client username password =>
          have hP := hauth rfl
          simp only [apply, Pipeline.handle]
          rcases Pipeline.authenticate_cases ⟨hooks, g⟩ b client username password with ⟨_, h⟩ | h
          · rw [h]
            exact .refl
          · rw [h]
            exact Gate.authenticate_frame hlog g b client username password (hP _) (hP _) (hP _)
      | connected client => exact Gate.connected_frame trivial b client
      | closed client => exact Gate.closed_frame trivial b client
      | subscribe client topic =>
          simp only [apply, Pipeline.handle]
          rcases Pipeline.subscribe_cases ⟨hooks, g⟩ b client topic with ⟨refusal, h⟩ | h
          · rw [h]
            exact .refl
          · rw [h]
            exact Gate.subscribe_frame hlog hsnapshot g b client topic
      | publish client topic payload =>
          simp only [apply, Pipeline.handle, Pipeline.publish]
          split
          · exact Gate.publish_frame hlog hsnapshot trivial g b client topic _
          · exact .refl
  | setFaults faults => cases hx
  | setClock now => cases hx
  | lapse key => cases hx
  | putDevice device => cases hx
  | addRule rule => cases hx
  | removeRule id => cases hx
  | lookUp configId direction =>
      exact Mapping.Snapshot.get_frame g.snapshotLifetime b (hsnapshot direction configId)
  | invalidate configId =>
      simp only [apply]
      cases h : Mapping.Snapshot.invalidate b configId with
      | error e => exact .refl
      | ok after => exact Mapping.Snapshot.invalidate_frame (fun d => hsnapshot d configId) h
  | setPolicy deviceId p =>
      simp only [apply]
      cases h : DeviceLog.setPolicy b deviceId p with
      | error e => exact .refl
      | ok after => exact DeviceLog.setPolicy_frame (hpolicy deviceId) h
  | writeLog deviceId entry => exact DeviceLog.write_frame b entry (hlog deviceId)

theorem apply_sameParts (g : Gate) (b : Backend) {x : Step} (hx : x.isOutside = false) :
    SameParts b (x.apply g b) :=
  apply_frame g b hx (fun _ _ => trivial) fun _ _ => trivial

/-- Only an auth writes vouchers and bindings, and they stay if they have no time to live. -/
theorem apply_find? (g : Gate) (b : Backend) {x : Step} (hauth : x.isAuth = false) {key : String}
    (hk : ¬ Purpose.Among routine key) (httl : b.keyValue.ttl? key = none) :
    (x.apply g b).keyValue.find? key = b.keyValue.find? key := by
  cases hx : x.isOutside with
  | true =>
      cases x with
      | lapse other => exact KeyValue.find?_lapse_of_ttl? httl other
      | setFaults _ | setClock _ | putDevice _ | addRule _ | removeRule _ => rfl
      | event | lookUp | invalidate | setPolicy | writeLog => cases hx
  | false =>
      exact (apply_frame g b hx (fun _ => id) fun h => absurd h (by rw [hauth]; decide)).keys key hk

theorem apply_devices (g : Gate) (b : Backend) (x : Step) :
    (x.apply g b).devices = match x with
      | .putDevice device => b.devices.put device
      | _ => b.devices := by
  cases hx : x.isOutside with
  | true => cases x <;> first | rfl | cases hx
  | false =>
      rw [(apply_sameParts g b hx).devices]
      cases x <;> first | rfl | cases hx

end Step

def run (g : Gate) : Backend → List Step → Backend
  | b, [] => b
  | b, x :: rest => run g (x.apply g b) rest

theorem run_append (g : Gate) (b : Backend) (steps more : List Step) :
    run g b (steps ++ more) = run g (run g b steps) more := by
  induction steps generalizing b with
  | nil => rfl
  | cons x rest ih => exact ih (x.apply g b)

/-- A lamp that calls itself `lamp` and has the password `pw`. -/
def lamp : Device := ⟨"d1", "n1", voucher "lamp" "pw", none⟩

def lampBackend : Backend := { devices := ⟨[lamp]⟩ }

def lampGate : Gate := ⟨⟨"r", "p"⟩, 60⟩

end DeviceGateway
