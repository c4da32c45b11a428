import DeviceGateway.Proofs.Gate.Plan
/-!
Events of different clients may come in either order: each is answered the same, and nothing but the
order of messages and the logs tells which came first.
-/
namespace DeviceGateway

open Backend Purpose

theorem Effect.run_boundDevice {lifetime : Nat} {clientId otherId : String}
    (hne : clientId ≠ otherId) {x : Effect} (hx : x.By clientId) (b : Backend) :
    Identity.boundDevice (x.run lifetime b) otherId = Identity.boundDevice b otherId := by
  apply run_boundDevice_of_ne b
  intro hkey
  have hpurpose := purpose?_of_key hkey (names_bindingKey otherId)
  cases x with
  | bind c deviceId =>
      have hclient : c = otherId := Identity.bindingKey_inj (Option.some.inj hkey)
      exact hne (hx.symm.trans hclient)
  | lookUp | fetch | send | count | note => cases hpurpose

theorem Effect.runAll_boundDevice {lifetime : Nat} {clientId otherId : String}
    (hne : clientId ≠ otherId) {xs : List Effect} (hxs : ∀ x ∈ xs, x.By clientId) (b : Backend) :
    Identity.boundDevice (runAll lifetime b xs) otherId = Identity.boundDevice b otherId := by
  induction xs generalizing b with
  | nil => rfl
  | cons x xs ih =>
      obtain ⟨hx, hxs⟩ := List.forall_mem_cons.mp hxs
      exact (ih hxs (x.run lifetime b)).trans (run_boundDevice hne hx b)

namespace Pipeline

/-- Whatever the key-value store holds and whatever parts fail, two events of different clients are
answered the same in either order, and leave backends that agree: the same entries outside the
logs, the same messages and the same counts. -/
theorem handle_comm (p : Pipeline) {b : Backend} (hb : b.Steady) {e e' : Event}
    (hne : e.client.id ≠ e'.client.id) :
    let (answer, after) := p.handle b e
    let (answer', after') := p.handle b e'
    (p.handle after' e).1 = answer ∧ (p.handle after e').1 = answer' ∧
      Agree (p.handle after e').2 (p.handle after' e).2 := by
  obtain ⟨answer, xs, hxs, hf⟩ := p.handle_plans hb e
  obtain ⟨answer', ys, hys, hf'⟩ := p.handle_plans hb e'
  have hsame : p.gate.SameAnswers b b := .refl b
  have hafter := hf' _ ⟨hsame.runAll hb xs, Effect.runAll_boundDevice hne hxs b⟩
  have hafter' := hf _ ⟨hsame.runAll hb ys, Effect.runAll_boundDevice hne.symm hys b⟩
  simp only [hf b ⟨hsame, rfl⟩, hf' b ⟨hsame, rfl⟩, hafter, hafter', true_and]
  exact Effect.runAll_swap hne hxs hys b

/-- Two clients log in as the same lamp, whose voucher neither finds in the key-value store if it
comes first. -/
theorem handle_comm_lamp :
    let p : Pipeline := ⟨[], lampGate⟩
    let first : Event := .auth ⟨"k", "lamp"⟩ "lamp" "pw"
    let second : Event := .auth ⟨"j", "lamp"⟩ "lamp" "pw"
    lampBackend.Steady ∧ first.client.id ≠ second.client.id ∧
      (p.handle (p.handle lampBackend second).2 first).1 = .admission (.ok ()) ∧
      Agree (p.handle (p.handle lampBackend first).2 second).2
        (p.handle (p.handle lampBackend second).2 first).2 := by
  have hsteady : lampBackend.Steady := ⟨rfl, nofun⟩
  have hne : (Event.auth ⟨"k", "lamp"⟩ "lamp" "pw").client.id ≠
      (Event.auth ⟨"j", "lamp"⟩ "lamp" "pw").client.id := by decide
  obtain ⟨hfirst, _, hagree⟩ := handle_comm ⟨[], lampGate⟩ hsteady hne
  have hadmitted : (handle ⟨[], lampGate⟩ lampBackend (.auth ⟨"k", "lamp"⟩ "lamp" "pw")).1 =
      .admission (.ok ()) := by
    have hok : (authenticate ⟨[], lampGate⟩ lampBackend ⟨"k", "lamp"⟩ "lamp" "pw").1 = .ok () := by
      decide +kernel
    exact congrArg Answer.admission hok
  exact ⟨hsteady, hne, hfirst.trans hadmitted, hagree⟩

end Pipeline

end DeviceGateway
