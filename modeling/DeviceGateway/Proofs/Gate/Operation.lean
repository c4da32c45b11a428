import DeviceGateway.Proofs.Gate.Subscribe
import DeviceGateway.Proofs.Gate.Transcript
/-!
Everything that the gateway is asked to do, and its traffic with the key-value store in a run. From
an empty store on, keys of different kinds stay apart, logs alone are lists, and no access ever
meets a key of the wrong type.
-/
namespace DeviceGateway

open Backend

/-- What the gateway can be asked for, by the broker and by whoever looks after it. -/
inductive Operation where
  | event (hooks : List Hook) (e : Event)
  | lookUp (configId : String) (direction : Direction)
  | invalidate (configId : String)
  | setPolicy (deviceId : String) (policy : DeviceLog.Policy)
  | readPolicy (deviceId : String)
  | writeLog (deviceId : String) (entry : DeviceLog.Entry)
  | readLog (deviceId : String)

namespace Operation

def Result : Operation → Type
  | .event _ _ => Answer
  | .lookUp _ _ => Except Mapping.Error (List Rule)
  | .invalidate _ => Except Mapping.Error Unit
  | .setPolicy _ _ => Except DeviceLog.Error Unit
  | .readPolicy _ => Except DeviceLog.Error (Option DeviceLog.Policy)
  | .writeLog _ _ => Except DeviceLog.Error Bool
  | .readLog _ => Except DeviceLog.Error (List DeviceLog.Entry)

def perform (g : Gate) (b : Backend) : (op : Operation) → op.Result × Backend
  | .event hooks e => Pipeline.handle ⟨hooks, g⟩ b e
  | .lookUp configId direction => Mapping.Snapshot.get g.snapshotLifetime b configId direction
  | .invalidate configId =>
    ((Mapping.Snapshot.invalidate b configId).map fun _ => (),
      ((Mapping.Snapshot.invalidate b configId).toOption).getD b)
  | .setPolicy deviceId p =>
    ((DeviceLog.setPolicy b deviceId p).map fun _ => (),
      ((DeviceLog.setPolicy b deviceId p).toOption).getD b)
  | .readPolicy deviceId => (DeviceLog.policy b deviceId, b)
  | .writeLog deviceId entry => DeviceLog.write b deviceId entry
  | .readLog deviceId => (DeviceLog.entries b deviceId, b)

def script (g : Gate) : (op : Operation) → Script op.Result
  | .event hooks e => Script.handle ⟨hooks, g⟩ e
  | .lookUp configId direction => Script.rules g.snapshotLifetime configId direction
  | .invalidate configId => Script.invalidate configId
  | .setPolicy deviceId p => Script.setPolicy deviceId p
  | .readPolicy deviceId => Script.policy deviceId
  | .writeLog deviceId entry => Script.writeLog deviceId entry
  | .readLog deviceId => Script.entries deviceId

theorem run_script (g : Gate) (b : Backend) (op : Operation) :
    (op.script g).run b = op.perform g b := by
  cases op with
  | event hooks e => exact Script.run_handle ⟨hooks, g⟩ b e
  | lookUp configId direction => exact Script.run_rules b g.snapshotLifetime configId direction
  | invalidate configId => exact Script.run_invalidate b configId
  | setPolicy deviceId p => exact Script.run_setPolicy b deviceId p
  | readPolicy deviceId => exact Script.run_policy b deviceId
  | writeLog deviceId entry => exact Script.run_writeLog b deviceId entry
  | readLog deviceId => exact Script.run_entries b deviceId

end Operation

namespace Step

def operation? : Step → Option Operation
  | .event hooks e => some (.event hooks e)
  | .lookUp configId direction => some (.lookUp configId direction)
  | .invalidate configId => some (.invalidate configId)
  | .setPolicy deviceId p => some (.setPolicy deviceId p)
  | .writeLog deviceId entry => some (.writeLog deviceId entry)
  | _ => none

theorem apply_eq_perform (g : Gate) (b : Backend) {x : Step} {op : Operation}
    (h : x.operation? = some op) : x.apply g b = (op.perform g b).2 := by
  cases x with
  | event | lookUp | invalidate | setPolicy | writeLog =>
      cases h
      rfl
  | setFaults | setClock | lapse | putDevice | addRule | removeRule => cases h

/-- The accesses to the key-value store that a step makes. -/
def exchanges (g : Gate) (b : Backend) (x : Step) : List Exchange :=
  match x.operation? with
  | some op => (op.script g).exchanges b
  | none => []

end Step

/-- The accesses to the key-value store in a run, in order. -/
def traffic (g : Gate) : Backend → List Step → List Exchange
  | _, [] => []
  | b, x :: rest => x.exchanges g b ++ traffic g (x.apply g b) rest

/-- The traffic of a run accounts for all that was written in it. -/
theorem run_journal (g : Gate) (b : Backend) (steps : List Step) :
    (run g b steps).journal = b.journal ++ (traffic g b steps).flatMap Exchange.writes := by
  induction steps generalizing b with
  | nil => exact (List.append_nil _).symm
  | cons x rest ih =>
      have hstep :
          (x.apply g b).journal = b.journal ++ (x.exchanges g b).flatMap Exchange.writes := by
        unfold Step.exchanges
        cases hx : x.operation? with
        | some op =>
            rw [x.apply_eq_perform g b hx, ← op.run_script g b]
            exact (op.script g).run_journal b
        | none =>
            cases x with
            | event | lookUp | invalidate | setPolicy | writeLog => cases hx
            | setFaults | setClock | lapse | putDevice | addRule | removeRule =>
                exact (List.append_nil _).symm
      rw [run, ih, hstep, traffic, List.flatMap_append, List.append_assoc]

theorem Step.exchanges_typed (g : Gate) {b : Backend} (hb : b.keyValue.Typed) (x : Step) :
    ∀ ex ∈ x.exchanges g b, ex.2 ≠ .error .wrongType := by
  unfold exchanges
  split
  · exact (Script.run_typed _ hb).1
  · exact nofun

theorem traffic_typed (g : Gate) {b : Backend} (hb : b.keyValue.Typed) (steps : List Step) :
    ∀ ex ∈ traffic g b steps, ex.2 ≠ .error .wrongType := by
  induction steps generalizing b with
  | nil => exact nofun
  | cons x rest ih =>
      intro ex hex
      rcases List.mem_append.mp hex with hex | hex
      · exact x.exchanges_typed g hb ex hex
      · exact ih (x.apply_typed g hb) ex hex

/-- Slots of different purposes have different keys, and so have, but for vouchers, different slots
of one purpose. In any run from an empty store the keys of logs hold lists and all others strings,
and no access to the store is told that a key is of the wrong type, be it of the run or of anything
that the gateway is asked for after it. -/
theorem slots_keep_types (g : Gate) {b : Backend} (hempty : b.keyValue = {})
    (steps : List Step) :
    (∀ s t : Slot, s.key = t.key →
      s.purpose = t.purpose ∧ (s.purpose ≠ .voucher → s = t)) ∧
    (∀ key entry, (run g b steps).keyValue.find? key = some entry →
      (entry.content.isList = true ↔ ∃ deviceId, key = DeviceLog.logsKey deviceId)) ∧
    (∀ ex ∈ traffic g b steps, ex.2 ≠ .error .wrongType) ∧
    ∀ op : Operation,
      (op.script g).run (run g b steps) = op.perform g (run g b steps) ∧
        ∀ ex ∈ (op.script g).exchanges (run g b steps), ex.2 ≠ .error .wrongType := by
  have hb : b.keyValue.Typed := by
    rw [hempty]
    exact KeyValue.typed_empty
  have hnow : (run g b steps).keyValue.Typed := run_typed g hb steps
  refine ⟨?_, ?_, traffic_typed g hb steps, ?_⟩
  · intro s t h
    exact ⟨Slot.purpose_eq_of_key h, Slot.eq_of_key h⟩
  · intro key entry h
    rw [← Purpose.names_log_iff]
    exact hnow key entry h
  · intro op
    exact ⟨op.run_script g _, (Script.run_typed _ hnow).1⟩

/-- A lamp is watched, logs in and subscribes by its rule; then the snapshot is forgotten. -/
def watchedDay : List Step :=
  [.setPolicy "d1" ⟨true, 0, 0, 8⟩, .event [] (.auth ⟨"k", "lamp"⟩ "lamp" "pw"),
    .event [] (.subscribe ⟨"k", "lamp"⟩ "vendor/n1/cmd"), .invalidate "c"]

theorem slots_keep_types_watched :
    Pipeline.vendorLamp.keyValue = {} ∧
      (traffic lampGate Pipeline.vendorLamp watchedDay).length = 12 ∧
      (∀ ex ∈ traffic lampGate Pipeline.vendorLamp watchedDay, ex.2 ≠ .error .wrongType) ∧
      ((run lampGate Pipeline.vendorLamp watchedDay).keyValue.entries.map fun e =>
          (e.1, e.2.content.isList)) =
        [((Slot.log "d1").key, true), ((Slot.binding "k").key, false),
          ((Slot.voucher "lamp" "pw").key, false), ((Slot.policy "d1").key, false)] ∧
      ((Operation.readLog "d1").script lampGate).run
          (run lampGate Pipeline.vendorLamp watchedDay) =
        (Operation.readLog "d1").perform lampGate
          (run lampGate Pipeline.vendorLamp watchedDay) := by
  have hempty : Pipeline.vendorLamp.keyValue = {} := rfl
  obtain ⟨_, _, htraffic, hops⟩ := slots_keep_types lampGate hempty watchedDay
  refine ⟨hempty, by decide +kernel, htraffic, by decide +kernel, ?_⟩
  exact (hops (.readLog "d1")).1

end DeviceGateway
