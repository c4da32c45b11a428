import DeviceGateway.Proofs.Store.Slot
/-!
The gateway written out as scripts: one instruction to one of its parts after the other, with what
is answered in the end. A script reaches the key-value store through slots alone, and running it
gives just what the gateway does; so the calls that the gateway makes can be looked at one by one.
-/
namespace DeviceGateway

open Backend

/-- What can be told one of the parts of a backend. -/
inductive Instruction where
  | access (a : Access)
  | ask (q : Devices.Query)
  | queryRules (configId : String) (direction : Direction)
  | send (topic : String) (payload : Bytes)
  | count (c : Counter)
  | time

namespace Instruction

def Reply : Instruction → Type
  | .access a => Except StoreError a.request.Reply
  | .ask _ => Except StoreError (Option Device)
  | .queryRules _ _ => Except StoreError (List Rule)
  | .send _ _ => Except ForwardError Unit
  | .count _ => Unit
  | .time => Instant

def perform (b : Backend) : (i : Instruction) → i.Reply × Backend
  | .access a => b.serve a.request
  | .ask q => (b.ask q, b)
  | .queryRules configId direction => b.queryRules configId direction
  | .send topic payload =>
    match b.send topic payload with
    | .ok after => (.ok (), after)
    | .error e => (.error e, b)
  | .count c => ((), b.count c)
  | .time => (b.clock, b)

end Instruction

/-- Instructions one after the other; how it goes on hangs on the replies. -/
inductive Script (α : Type) where
  | done (answer : α)
  | step (i : Instruction) (next : i.Reply → Script α)

/-- An access to the key-value store with what was replied. -/
abbrev Exchange := (a : Access) × Except StoreError a.request.Reply

/-- What an access writes, if it did not fail. -/
def Access.writes : Access → List KeyValue.Write
  | .get _ _ | .list _ => []
  | .set s _ value ttl => [.set s.key value ttl]
  | .forget configId =>
    [.delete [Mapping.Snapshot.key .up configId, Mapping.Snapshot.key .down configId]]
  | .push deviceId value maxItems ttl =>
    [.push (DeviceLog.logsKey deviceId) value maxItems ttl]

/-- The writes that took effect in an exchange. -/
def Exchange.writes (x : Exchange) : List KeyValue.Write :=
  if x.2.isOk then x.1.writes else []

theorem Backend.settle_journal {b : Backend} {result : Except StoreError Backend}
    {ws : List KeyValue.Write} (h : ∀ after, result = .ok after → after.journal = b.journal ++ ws) :
    (b.settle result).2.journal =
      b.journal ++ if (b.settle result).1.isOk then ws else [] := by
  cases result with
  | ok after => exact h after rfl
  | error e => exact (List.append_nil _).symm

theorem Access.serve_journal (a : Access) (b : Backend) :
    (b.serve a.request).2.journal =
      b.journal ++ Exchange.writes ⟨a, (b.serve a.request).1⟩ := by
  cases a with
  | get s text =>
      exact (List.append_nil _).symm.trans (congrArg _ (ite_self _).symm)
  | list deviceId =>
      exact (List.append_nil _).symm.trans (congrArg _ (ite_self _).symm)
  | set s text value ttl =>
      refine settle_journal fun after h => ?_
      rw [set_eq_ok h]
      rfl
  | forget configId =>
      refine settle_journal fun after h => ?_
      obtain ⟨_, heq⟩ := attempt_eq_ok h
      cases heq
      rfl
  | push deviceId value maxItems ttl =>
      refine settle_journal fun after h => ?_
      obtain ⟨_, heq⟩ := attempt_eq_ok h
      obtain ⟨kv, _, rfl⟩ := Option.map_eq_some_iff.mp heq
      rfl

namespace Script

variable {α β : Type}

def bind : Script α → (α → Script β) → Script β
  | .done answer, k => k answer
  | .step i next, k => .step i fun reply => (next reply).bind k

instance : Monad Script where
  pure := .done
  bind := bind

/-- The answer of a script, and the backend afterwards. -/
def run : Script α → Backend → α × Backend
  | .done answer, b => (answer, b)
  | .step i next, b => (next (i.perform b).1).run (i.perform b).2

def exchanges : Script α → Backend → List Exchange
  | .done _, _ => []
  | .step i next, b =>
    let rest := (next (i.perform b).1).exchanges (i.perform b).2
    match i with
    | .access a => ⟨a, (b.serve a.request).1⟩ :: rest
    | _ => rest

@[simp] theorem run_pure (a : α) (b : Backend) : (pure a : Script α).run b = (a, b) := rfl

@[simp] theorem run_bind (c : Script α) (k : α → Script β) (b : Backend) :
    (c >>= k).run b = (k (c.run b).1).run (c.run b).2 := by
  induction c generalizing b with
  | done answer => rfl
  | step i next ih => exact ih _ _

theorem exchanges_bind (c : Script α) (k : α → Script β) (b : Backend) :
    (c >>= k).exchanges b = c.exchanges b ++ (k (c.run b).1).exchanges (c.run b).2 := by
  induction c generalizing b with
  | done answer => rfl
  | step i next ih =>
      have hrest := ih (i.perform b).1 (i.perform b).2
      cases i with
      | access a => exact congrArg _ hrest
      | ask | queryRules | send | count | time => exact hrest

/-- A run of a script keeps the types of keys, and no access of it meets a key of the wrong type. -/
theorem run_typed (c : Script α) {b : Backend} (hb : b.keyValue.Typed) :
    (∀ x ∈ c.exchanges b, x.2 ≠ .error .wrongType) ∧ (c.run b).2.keyValue.Typed := by
  induction c generalizing b with
  | done answer => exact ⟨nofun, hb⟩
  | step i next ih =>
      cases i with
      | access a =>
          obtain ⟨hreply, hafter⟩ := a.serve_typed hb
          obtain ⟨hrest, hlast⟩ := ih _ hafter
          exact ⟨List.forall_mem_cons.mpr ⟨hreply, hrest⟩, hlast⟩
      | ask q => exact ih _ hb
      | queryRules configId direction =>
          refine ih _ ?_
          change (b.queryRules configId direction).2.keyValue.Typed
          unfold queryRules
          dsimp only
          split <;> exact hb
      | send topic payload =>
          refine ih _ ?_
          simp only [Instruction.perform, Backend.send]
          cases b.faults.forwarder <;> exact hb
      | count c => exact ih _ hb
      | time => exact ih _ hb

/-- The backend keeps just the writes that took effect in the exchanges of a script. -/
theorem run_journal (c : Script α) (b : Backend) :
    (c.run b).2.journal = b.journal ++ (c.exchanges b).flatMap Exchange.writes := by
  induction c generalizing b with
  | done answer => exact (List.append_nil _).symm
  | step i next ih =>
      have hquiet (h : (i.perform b).2.journal = b.journal) :
          ((next (i.perform b).1).run (i.perform b).2).2.journal = b.journal ++
            ((next (i.perform b).1).exchanges (i.perform b).2).flatMap Exchange.writes := by
        rw [ih, h]
      cases i with
      | access a =>
          have hserve : (b.serve a.request).2.journal =
              b.journal ++ Exchange.writes ⟨a, (b.serve a.request).1⟩ := a.serve_journal b
          simp only [run, exchanges, Instruction.perform, List.flatMap_cons, ih, hserve,
            List.append_assoc]
      | ask q => exact hquiet rfl
      | queryRules configId direction =>
          refine hquiet ?_
          simp only [Instruction.perform, Backend.queryRules]
          split <;> rfl
      | send topic payload =>
          refine hquiet ?_
          simp only [Instruction.perform, Backend.send]
          cases b.faults.forwarder <;> rfl
      | count c => exact hquiet rfl
      | time => exact hquiet rfl

section

def get (s : Slot) (text : s.purpose ≠ .log := by nofun) :
    Script (Except StoreError (Option String)) :=
  .step (.access (.get s text)) .done

def set (s : Slot) (value : String) (ttl : Option Nat) (text : s.purpose ≠ .log := by nofun) :
    Script (Except StoreError Unit) :=
  .step (.access (.set s text value ttl)) .done

def forget (configId : String) : Script (Except StoreError Unit) :=
  .step (.access (.forget configId)) .done

def push (deviceId value : String) (maxItems : Nat) (ttl : Option Nat) :
    Script (Except StoreError Unit) :=
  .step (.access (.push deviceId value maxItems ttl)) .done

def list (deviceId : String) : Script (Except StoreError (List String)) :=
  .step (.access (.list deviceId)) .done

def ask (q : Devices.Query) : Script (Except StoreError (Option Device)) := .step (.ask q) .done

def queryRules (configId : String) (direction : Direction) :
    Script (Except StoreError (List Rule)) :=
  .step (.queryRules configId direction) .done

def send (topic : String) (payload : Bytes) : Script (Except ForwardError Unit) :=
  .step (.send topic payload) .done

def count (c : Counter) : Script Unit := .step (.count c) .done

def time : Script Instant := .step .time .done

variable (b : Backend)

@[simp] theorem run_get (s : Slot) (text : s.purpose ≠ .log) :
    (get s text).run b = (b.get s.key, b) := rfl

@[simp] theorem run_set (s : Slot) (value : String) (ttl : Option Nat) (text : s.purpose ≠ .log) :
    (set s value ttl text).run b = b.settle (b.set s.key value ttl) := rfl

@[simp] theorem run_forget (configId : String) :
    (forget configId).run b = b.settle
      (b.delete [Mapping.Snapshot.key .up configId, Mapping.Snapshot.key .down configId]) := rfl

@[simp] theorem run_push (deviceId value : String) (maxItems : Nat) (ttl : Option Nat) :
    (push deviceId value maxItems ttl).run b =
      b.settle (b.push (DeviceLog.logsKey deviceId) value maxItems ttl) := rfl

@[simp] theorem run_list (deviceId : String) :
    (list deviceId).run b = (b.list (DeviceLog.logsKey deviceId), b) := rfl

@[simp] theorem run_ask (q : Devices.Query) : (ask q).run b = (b.ask q, b) := rfl

@[simp] theorem run_queryRules (configId : String) (direction : Direction) :
    (queryRules configId direction).run b = b.queryRules configId direction := rfl

@[simp] theorem run_send (topic : String) (payload : Bytes) :
    (send topic payload).run b = match b.send topic payload with
      | .ok after => (.ok (), after)
      | .error e => (.error e, b) := rfl

@[simp] theorem run_count (c : Counter) : (count c).run b = ((), b.count c) := rfl

@[simp] theorem run_time : time.run b = (b.clock, b) := rfl

end

end Script

end DeviceGateway
