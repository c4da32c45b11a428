import DeviceGateway.Proofs.Identity.Recall
import DeviceGateway.Proofs.Mapping.Exactness
/-!
What the gate does to its parts, taken apart: it looks vouchers and rules up, binds clients, sends
messages, counts and logs. What one of these does to a key depends on the key alone, and so those of
different clients may be done in either order.
-/
namespace DeviceGateway

open Backend Purpose

theorem Mapping.Snapshot.get_tally (lifetime : Nat) (b : Backend) (configId : String)
    (direction : Direction) : (get lifetime b configId direction).2.tally = b.tally := by
  cases hblank : Text.isBlank configId with
  | true => rw [get_of_blank lifetime b hblank]
  | false =>
      cases hread : read b configId direction with
      | some rules => rw [get_of_read lifetime hblank hread]
      | none =>
          rw [get_of_miss lifetime b hread, load_eq b hblank]
          cases b.faults.rules with
          | true => rfl
          | false =>
              change (write lifetime (asked b) configId direction _).tally = _
              unfold write
              rw [set_eq]
              split
              · next hset =>
                split at hset
                · cases hset
                · cases hset
                  rfl
              · rfl

theorem Backend.note_tally (b : Backend) (deviceId : String) (e : DeviceLog.Entry) :
    (b.note deviceId e).tally = b.tally := by
  rcases b.note_leaves deviceId e with h | ⟨raw, maxItems, ttl, kv, _, h⟩
  · rw [h]
  · rw [h]
    rfl

/-- One thing that the gate does. -/
inductive Effect where
  | lookUp (username password : String)
  | fetch (direction : Direction) (configId : String)
  | bind (clientId deviceId : String)
  | send (topic : String) (payload : Bytes)
  | count (c : Counter)
  | note (deviceId : String) (e : DeviceLog.Entry)

namespace Effect

/-- The backend after an effect; one that fails leaves it as it was. -/
def run (lifetime : Nat) (b : Backend) : Effect → Backend
  | .lookUp username password => (Identity.deviceByVoucher b (voucher username password)).2
  | .fetch direction configId => (Mapping.Snapshot.get lifetime b configId direction).2
  | .bind clientId deviceId => ((Identity.bind b clientId deviceId).toOption).getD b
  | .send topic payload => ((b.send topic payload).toOption).getD b
  | .count c => b.count c
  | .note deviceId e => b.note deviceId e

def runAll (lifetime : Nat) (b : Backend) (xs : List Effect) : Backend := xs.foldl (run lifetime) b

/-- The key that an effect may write, apart from logs. -/
def key? : Effect → Option String
  | .lookUp username password => some (voucher username password)
  | .fetch direction configId => some (Mapping.Snapshot.key direction configId)
  | .bind clientId _ => some (Identity.bindingKey clientId)
  | .send _ _ | .count _ | .note _ _ => none

def purpose? : Effect → Option Purpose
  | .lookUp _ _ => some .voucher
  | .fetch direction _ => some (.snapshot direction)
  | .bind _ _ => some .binding
  | .send _ _ | .count _ | .note _ _ => none

theorem names_key {x : Effect} {key : String} (h : x.key? = some key) :
    ∃ p, x.purpose? = some p ∧ p.Names key := by
  cases x with
  | lookUp username password =>
      cases h
      exact ⟨_, rfl, names_voucher username password⟩
  | fetch direction configId =>
      cases h
      exact ⟨_, rfl, names_snapshotKey direction configId⟩
  | bind clientId deviceId =>
      cases h
      exact ⟨_, rfl, names_bindingKey clientId⟩
  | send | count | note => cases h

theorem purpose?_of_key {x : Effect} {key : String} (h : x.key? = some key) {p : Purpose}
    (hp : p.Names key) : x.purpose? = some p := by
  obtain ⟨q, hq, hnames⟩ := names_key h
  rw [hq, eq_of_names hnames hp]

/-- What an effect hands to the link. -/
def sends (faults : Faults) : Effect → List Message
  | .send topic payload => if faults.forwarder then [] else [⟨topic, payload⟩]
  | _ => []

def counts (t : Tally) : Effect → Tally
  | .count c => t.bump c
  | _ => t

/-- Whether an effect may be had on behalf of a client: nobody binds another. -/
def By (clientId : String) : Effect → Prop
  | .bind c _ => c = clientId
  | _ => True

variable {lifetime : Nat} {b b' : Backend}

theorem run_bind (b : Backend) (clientId deviceId : String) :
    run lifetime b (.bind clientId deviceId) =
      if b.fails .set [Identity.bindingKey clientId] then b
      else b.wrote (.set (Identity.bindingKey clientId) deviceId none)
        (b.keyValue.set (Identity.bindingKey clientId) deviceId none) := by
  unfold run Identity.bind
  dsimp only
  rw [set_eq]
  split <;> rfl

theorem run_send (b : Backend) (topic : String) (payload : Bytes) :
    run lifetime b (.send topic payload) =
      if b.faults.forwarder then b else { b with sent := b.sent ++ [⟨topic, payload⟩] } := by
  unfold run Backend.send
  dsimp only
  split <;> rfl

/-- An effect writes its own key and logs, and only a message is sent. -/
theorem run_frame (b : Backend) (x : Effect) {P : String → Prop} {L : Prop}
    (hkey : ∀ key, x.key? = some key → P key) (hlog : ∀ key, Purpose.log.Names key → P key)
    (hsends : x.sends b.faults ≠ [] → L) : Frame P L b (x.run lifetime b) := by
  cases x with
  | lookUp username password =>
      exact (Identity.deviceByVoucher_lookup b _).frame (hkey _ rfl)
  | fetch direction configId => exact Mapping.Snapshot.get_frame lifetime b (hkey _ rfl)
  | bind clientId deviceId =>
      rw [run_bind]
      split
      · exact .refl
      · exact wrote_set_frame (hkey _ rfl) deviceId none
  | send topic payload =>
      rw [run_send]
      cases hdown : b.faults.forwarder with
      | true => exact .refl
      | false =>
          refine ⟨fun _ _ => rfl, fun hL => absurd (hsends ?_) hL, rfl, rfl, rfl, rfl, rfl⟩
          simp [sends, hdown]
  | count c => exact count_frame c
  | note deviceId e => exact note_frame b e (hlog _ (names_logsKey deviceId))

theorem run_sameParts (b : Backend) (x : Effect) : SameParts b (x.run lifetime b) :=
  run_frame b x (fun _ _ => trivial) (fun _ _ => trivial) fun _ => trivial

theorem find?_run (b : Backend) {x : Effect} {key : String} (hkey : x.key? ≠ some key)
    (hlog : ¬ Purpose.log.Names key) :
    (x.run lifetime b).keyValue.find? key = b.keyValue.find? key := by
  have hframe : Frame (fun k => x.key? = some k ∨ Purpose.log.Names k) True b
      (x.run lifetime b) := run_frame b x (fun _ => .inl) (fun _ => .inr) fun _ => trivial
  exact hframe.keys key (not_or.mpr ⟨hkey, hlog⟩)

theorem sent_run (b : Backend) (x : Effect) :
    (x.run lifetime b).sent = b.sent ++ x.sends b.faults := by
  by_cases hsends : x.sends b.faults = []
  · have hframe : Frame (fun _ => True) False b (x.run lifetime b) :=
      run_frame b x (fun _ _ => trivial) (fun _ _ => trivial) (absurd hsends)
    rw [hframe.sent id, hsends, List.append_nil]
  · cases x with
    | send topic payload =>
        rw [run_send]
        unfold sends at hsends ⊢
        split
        · next hdown => exact absurd (if_pos hdown) hsends
        · rfl
    | lookUp | fetch | bind | count | note => exact absurd rfl hsends

theorem tally_run (b : Backend) (x : Effect) :
    (x.run lifetime b).tally = x.counts b.tally := by
  cases x with
  | lookUp username password =>
      rcases Identity.deviceByVoucher_cases b (voucher username password) with h | ⟨d, _, _, h⟩
      · exact congrArg Backend.tally h
      · exact congrArg (fun r => r.2.tally) h
  | fetch direction configId => exact Mapping.Snapshot.get_tally lifetime b configId direction
  | bind clientId deviceId =>
      rw [run_bind]
      split <;> rfl
  | send topic payload =>
      rw [run_send]
      split <;> rfl
  | count c => rfl
  | note deviceId e => exact note_tally b deviceId e

theorem find?_run_congr (h : SameParts b b') (x : Effect) {key : String}
    (hlog : ¬ Purpose.log.Names key) (hfind : b'.keyValue.find? key = b.keyValue.find? key) :
    (x.run lifetime b').keyValue.find? key = (x.run lifetime b).keyValue.find? key := by
  by_cases hkey : x.key? = some key
  · cases x with
    | lookUp username password =>
        cases hkey
        exact (Identity.deviceByVoucher_congr h hfind).2.find?_eq hfind
    | fetch direction configId =>
        cases hkey
        exact (Mapping.Snapshot.get_congr lifetime h hfind).2.find?_eq hfind
    | bind clientId deviceId =>
        cases hkey
        rw [run_bind, run_bind, h.fails_eq]
        split
        · exact hfind
        · exact (find?_wrote_set b' _ deviceId none).trans (find?_wrote_set b _ deviceId none).symm
    | send | count | note => cases hkey
  · rw [find?_run b' hkey hlog, find?_run b hkey hlog, hfind]

theorem run_sameParts_congr (h : SameParts b b') (x : Effect) :
    SameParts (x.run lifetime b) (x.run lifetime b') :=
  ((run_sameParts b x).symm.trans h).trans (run_sameParts b' x)

/-- Nothing but a binding of the client itself changes what it is bound to. -/
theorem run_boundDevice_of_ne (b : Backend) {x : Effect} {clientId : String}
    (hkey : x.key? ≠ some (Identity.bindingKey clientId)) :
    Identity.boundDevice (x.run lifetime b) clientId = Identity.boundDevice b clientId := by
  apply Identity.boundDevice_congr (run_sameParts b x)
  apply find?_run b hkey
  intro hlog
  cases eq_of_names (names_bindingKey clientId) hlog

theorem run_boundDevice_congr (h : SameParts b b') {clientId : String}
    (hbound : Identity.boundDevice b' clientId = Identity.boundDevice b clientId) (x : Effect) :
    Identity.boundDevice (x.run lifetime b') clientId =
      Identity.boundDevice (x.run lifetime b) clientId := by
  by_cases hkey : x.key? = some (Identity.bindingKey clientId)
  · have hpurpose := purpose?_of_key hkey (names_bindingKey clientId)
    have hparts : SameParts (x.run lifetime b) (x.run lifetime b') := run_sameParts_congr h x
    cases x with
    | bind c deviceId =>
        obtain rfl : c = clientId := Identity.bindingKey_inj (Option.some.inj hkey)
        rw [run_bind, run_bind, h.fails_eq] at hparts ⊢
        cases hfails : b.fails .set [Identity.bindingKey c] with
        | true => exact hbound
        | false =>
            rw [hfails] at hparts
            exact Identity.boundDevice_congr hparts
              ((find?_wrote_set b' _ deviceId none).trans (find?_wrote_set b _ deviceId none).symm)
    | lookUp | fetch | send | count | note => cases hpurpose
  · rw [run_boundDevice_of_ne b' hkey, run_boundDevice_of_ne b hkey, hbound]

end Effect

/-- Backends that differ at most in logs, in the order of what was sent, and in how they came
about. -/
structure Backend.Agree (b b' : Backend) : Prop where
  parts : SameParts b b'
  keys : ∀ key, ¬ Purpose.log.Names key → b'.keyValue.find? key = b.keyValue.find? key
  sent : b'.sent.Perm b.sent
  tally : b'.tally = b.tally

namespace Backend.Agree

open Effect

variable {b b' b'' : Backend}

theorem refl (b : Backend) : Agree b b := ⟨.refl, fun _ _ => rfl, .refl _, rfl⟩

theorem symm (h : Agree b b') : Agree b' b :=
  ⟨h.parts.symm, fun key hlog => (h.keys key hlog).symm, h.sent.symm, h.tally.symm⟩

theorem trans (h : Agree b b') (h' : Agree b' b'') : Agree b b'' :=
  ⟨h.parts.trans h'.parts, fun key hlog => (h'.keys key hlog).trans (h.keys key hlog),
    h'.sent.trans h.sent, h'.tally.trans h.tally⟩

theorem run (lifetime : Nat) (h : Agree b b') (x : Effect) :
    Agree (x.run lifetime b) (x.run lifetime b') := by
  refine ⟨run_sameParts_congr h.parts x, ?_, ?_, ?_⟩
  · intro key hlog
    exact find?_run_congr h.parts x hlog (h.keys key hlog)
  · rw [sent_run, sent_run, h.parts.faults]
    exact h.sent.append_right _
  · rw [tally_run, tally_run, h.tally]

theorem runAll (lifetime : Nat) (h : Agree b b') (xs : List Effect) :
    Agree (Effect.runAll lifetime b xs) (Effect.runAll lifetime b' xs) := by
  induction xs generalizing b b' with
  | nil => exact h
  | cons x xs ih => exact ih (h.run lifetime x)

end Backend.Agree

namespace Effect

variable {lifetime : Nat} {x y : Effect} {clientId otherId : String}

/-- Effects of different clients on the same key are lookups of the same thing. -/
theorem run_eq_of_key (hne : clientId ≠ otherId) (hx : x.By clientId) (hy : y.By otherId)
    {key : String} (hxkey : x.key? = some key) (hykey : y.key? = some key) (b : Backend) :
    x.run lifetime b = y.run lifetime b := by
  have hkey : x.key? = y.key? := hxkey.trans hykey.symm
  have hpurpose : x.purpose? = y.purpose? := by
    obtain ⟨p, hp, hnames⟩ := names_key hykey
    rw [hp, purpose?_of_key hxkey hnames]
  cases x with
  | lookUp username password =>
      cases y with
      | lookUp username' password' => simp only [run, Option.some.inj hkey]
      | fetch | bind | send | count | note => cases hpurpose
  | fetch direction configId =>
      cases y with
      | fetch direction' configId' =>
          obtain ⟨rfl, rfl⟩ := snapshotKey_inj (Option.some.inj hkey)
          rfl
      | lookUp | bind | send | count | note => cases hpurpose
  | bind client deviceId =>
      cases y with
      | bind other deviceId' =>
          have hclient : client = other := Identity.bindingKey_inj (Option.some.inj hkey)
          exact absurd (hx.symm.trans (hclient.trans hy)) hne
      | lookUp | fetch | send | count | note => cases hpurpose
  | send | count | note => cases hxkey

theorem counts_comm (t : Tally) : y.counts (x.counts t) = x.counts (y.counts t) := by
  cases x with
  | count c =>
      cases y with
      | count d =>
          funext e
          simp only [counts, Tally.bump]
          split <;> split <;> rfl
      | lookUp | fetch | bind | send | note => rfl
  | lookUp | fetch | bind | send | note => rfl

theorem run_swap (hne : clientId ≠ otherId) (hx : x.By clientId) (hy : y.By otherId)
    (b : Backend) :
    Agree (y.run lifetime (x.run lifetime b)) (x.run lifetime (y.run lifetime b)) := by
  have hxparts : SameParts b (x.run lifetime b) := run_sameParts b x
  have hyparts : SameParts b (y.run lifetime b) := run_sameParts b y
  have hboth : SameParts (x.run lifetime b) (y.run lifetime b) := hxparts.symm.trans hyparts
  refine ⟨?_, ?_, ?_, ?_⟩
  · exact ((run_sameParts _ y).symm.trans hboth).trans (run_sameParts _ x)
  · intro key hlog
    by_cases hxkey : x.key? = some key
    · by_cases hykey : y.key? = some key
      · have heq (c : Backend) : x.run lifetime c = y.run lifetime c :=
          run_eq_of_key hne hx hy hxkey hykey c
        rw [← heq b, heq]
      · rw [find?_run (x.run lifetime b) hykey hlog]
        exact find?_run_congr hyparts x hlog (find?_run b hykey hlog)
    · rw [find?_run (y.run lifetime b) hxkey hlog]
      exact (find?_run_congr hxparts y hlog (find?_run b hxkey hlog)).symm
  · simp only [sent_run, hxparts.faults, hyparts.faults, List.append_assoc]
    exact List.perm_append_comm.append_left _
  · simp only [tally_run, counts_comm]

theorem run_runAll (hne : clientId ≠ otherId) (hx : x.By clientId) {ys : List Effect}
    (hys : ∀ y ∈ ys, y.By otherId) (b : Backend) :
    Agree (x.run lifetime (runAll lifetime b ys)) (runAll lifetime (x.run lifetime b) ys) := by
  induction ys generalizing b with
  | nil => exact .refl _
  | cons y ys ih =>
      obtain ⟨hy, hys⟩ := List.forall_mem_cons.mp hys
      have hswap : Agree (x.run lifetime (y.run lifetime b)) (y.run lifetime (x.run lifetime b)) :=
        run_swap hne.symm hy hx b
      exact (ih hys (y.run lifetime b)).trans (hswap.runAll lifetime ys)

/-- What two clients have done may be done in either order. -/
theorem runAll_swap (hne : clientId ≠ otherId) {xs ys : List Effect}
    (hxs : ∀ x ∈ xs, x.By clientId) (hys : ∀ y ∈ ys, y.By otherId) (b : Backend) :
    Agree (runAll lifetime (runAll lifetime b xs) ys)
      (runAll lifetime (runAll lifetime b ys) xs) := by
  induction xs generalizing b with
  | nil => exact .refl _
  | cons x xs ih =>
      obtain ⟨hx, hxs⟩ := List.forall_mem_cons.mp hxs
      have hpast : Agree (x.run lifetime (runAll lifetime b ys))
          (runAll lifetime (x.run lifetime b) ys) := run_runAll hne hx hys b
      exact (ih hxs (x.run lifetime b)).trans (hpast.symm.runAll lifetime xs)

end Effect

end DeviceGateway
