import DeviceGateway.Proofs.Gate.Course
/-!
What the gate does about an event depends on what it is told of devices and rules, and on nothing
else. So it answers the same and has the same effects in all backends that tell it the same.
-/
namespace DeviceGateway

open Backend Purpose

variable {α : Type}

/-- Nothing but whole parts fail for devices, and the times of the rules exist. -/
structure Backend.Steady (b : Backend) : Prop where
  unanswered : b.faults.unanswered = []
  valid : ∀ r ∈ b.rules.rules, r.Valid

namespace Gate

variable (g : Gate)

/-- A backend later on that tells the gate the same of devices and rules. -/
structure SameAnswers (o b : Backend) : Prop where
  parts : SameParts o b
  found : ∀ username password, Identity.foundId b (voucher username password) =
    Identity.foundId o (voucher username password)
  fetched : ∀ direction configId,
    (Mapping.Snapshot.get g.snapshotLifetime b configId direction).1 =
      (Mapping.Snapshot.get g.snapshotLifetime o configId direction).1

namespace SameAnswers

variable {g} {o b : Backend}

theorem refl (o : Backend) : g.SameAnswers o o := ⟨.refl, fun _ _ => rfl, fun _ _ => rfl⟩

/-- No effect changes an answer: what a lookup writes is what it would find again. -/
theorem run (ho : o.Steady) (h : g.SameAnswers o b) (x : Effect) :
    g.SameAnswers o (x.run g.snapshotLifetime b) := by
  have hparts : SameParts b (x.run g.snapshotLifetime b) := Effect.run_sameParts b x
  refine ⟨h.parts.trans hparts, ?_, ?_⟩
  · intro username password
    refine Eq.trans ?_ (h.found username password)
    have hnames := names_voucher username password
    by_cases hkey : x.key? = some (voucher username password)
    · have hpurpose := Effect.purpose?_of_key hkey hnames
      cases x with
      | lookUp username' password' =>
          rw [← Option.some.inj hkey]
          exact Identity.foundId_again (by rw [h.parts.faults, ho.unanswered]) _
      | fetch | bind | send | count | note => cases hpurpose
    · refine Identity.foundId_congr hparts (Effect.find?_run b hkey ?_)
      intro hlog
      cases eq_of_names hnames hlog
  · intro direction configId
    refine Eq.trans ?_ (h.fetched direction configId)
    have hnames := names_snapshotKey direction configId
    by_cases hkey : x.key? = some (Mapping.Snapshot.key direction configId)
    · have hpurpose := Effect.purpose?_of_key hkey hnames
      cases x with
      | fetch direction' configId' =>
          obtain ⟨rfl, rfl⟩ := snapshotKey_inj (Option.some.inj hkey)
          exact Mapping.Snapshot.get_again _ (by rw [h.parts.rules]; exact ho.valid) _ _
      | lookUp | bind | send | count | note => cases hpurpose
    · refine (Mapping.Snapshot.get_congr g.snapshotLifetime hparts (Effect.find?_run b hkey ?_)).1
      intro hlog
      cases eq_of_names hnames hlog

theorem symm (h : g.SameAnswers o b) : g.SameAnswers b o :=
  ⟨h.parts.symm, fun username password => (h.found username password).symm,
    fun direction configId => (h.fetched direction configId).symm⟩

theorem trans {b' : Backend} (h : g.SameAnswers o b) (h' : g.SameAnswers b b') :
    g.SameAnswers o b' :=
  ⟨h.parts.trans h'.parts,
    fun username password => (h'.found username password).trans (h.found username password),
    fun direction configId => (h'.fetched direction configId).trans (h.fetched direction configId)⟩

theorem runAll (ho : o.Steady) (h : g.SameAnswers o b) (xs : List Effect) :
    g.SameAnswers o (Effect.runAll g.snapshotLifetime b xs) := by
  induction xs generalizing b with
  | nil => exact h
  | cons x xs ih => exact ih (h.run ho x)

end SameAnswers

/-- In all backends of a kind one answer is given and the same is done. -/
def Plans (clientId : String) (S : Backend → Prop) (f : Backend → α × Backend) : Prop :=
  ∃ answer xs, (∀ x ∈ xs, Effect.By clientId x) ∧
    ∀ b, S b → f b = (answer, Effect.runAll g.snapshotLifetime b xs)

/-- A backend that besides tells the gate the same of a client. -/
structure SameFor (o : Backend) (client : Client) (b : Backend) : Prop
    extends g.SameAnswers o b where
  bound : Identity.boundDevice b client.id = Identity.boundDevice o client.id

theorem Steady.run {lifetime : Nat} {b : Backend} (h : b.Steady) (x : Effect) :
    (x.run lifetime b).Steady := by
  have hparts : SameParts b (x.run lifetime b) := Effect.run_sameParts b x
  exact ⟨by rw [hparts.faults, h.unanswered], by rw [hparts.rules]; exact h.valid⟩

/-- A client cannot tell steady backends apart that tell the gate the same. -/
theorem sameFor_alike (client : Client) :
    Course.Alike g.snapshotLifetime client.id fun b b' => b.Steady ∧ g.SameFor b client b' where
  reply := by
    rintro b b' ⟨_, h⟩ q hq
    cases q with
    | linkDown => exact congrArg Faults.forwarder h.parts.faults
    | fails op key => exact h.parts.fails_eq op [key]
    | device q => exact h.parts.ask_eq q
    | bound clientId =>
        cases hq
        exact h.bound
    | found username password => exact h.found username password
    | rules direction configId => exact h.fetched direction configId
  run := by
    rintro b b' ⟨hb, h⟩ x _
    have hone := (SameAnswers.refl b).run (g := g) hb x
    exact ⟨Steady.run hb x, hone.symm.trans (h.run hb x),
      Effect.run_boundDevice_congr h.parts h.bound x⟩

end Gate

/-- An event has one answer and the same effects in all backends that tell the gate the same. -/
theorem Pipeline.handle_plans (p : Pipeline) {o : Backend} (ho : o.Steady) (e : Event) :
    p.gate.Plans e.client.id (p.gate.SameFor o e.client) fun b => p.handle b e := by
  obtain ⟨c, hc, hf⟩ := p.handle_follows e
  refine ⟨(c.run p.gate.snapshotLifetime o).1, c.effects p.gate.snapshotLifetime o,
    Course.effects_by hc o, ?_⟩
  intro b hb
  obtain ⟨hanswer, heffects, _⟩ := (p.gate.sameFor_alike e.client).course ⟨ho, hb⟩ hc
  refine (hf b trivial).trans (Prod.ext hanswer ?_)
  rw [Course.run_snd, heffects]

end DeviceGateway
