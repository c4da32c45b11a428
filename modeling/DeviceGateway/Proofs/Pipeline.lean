import DeviceGateway.Pipeline
/-!
Hooks one after the other: the first that does not let an event through decides it, and the state of
the gateway is then not even looked at.
-/
namespace DeviceGateway.Pipeline

theorem askAll_eq_ok {ask : Hook → Except Refusal Unit} {hooks : List Hook} :
    askAll ask hooks = .ok () ↔ ∀ h ∈ hooks, ask h = .ok () := by
  induction hooks with
  | nil => simp [askAll]
  | cons h rest ih =>
      cases hask : ask h with
      | ok _ => simp [askAll, hask, ih]
      | error refusal => simp [askAll, hask]

/-- The first hook to refuse gives the answer. -/
theorem askAll_of_refused (ask : Hook → Except Refusal Unit) {before : List Hook}
    (hbefore : ∀ h ∈ before, ask h = .ok ()) {h : Hook} {refusal : Refusal}
    (hask : ask h = .error refusal) (after : List Hook) :
    askAll ask (before ++ h :: after) = .error refusal := by
  induction before with
  | nil => simp [askAll, hask]
  | cons k rest ih =>
      simp only [List.cons_append, askAll, hbefore k List.mem_cons_self]
      exact ih fun j hj => hbefore j (List.mem_cons_of_mem _ hj)

section

variable (client : Client) (topic : String)

/-- Hooks that all accept a message; each leaves the next its payload. -/
inductive Passes : List Hook → Bytes → Bytes → Prop
  | nil (payload : Bytes) : Passes [] payload payload
  | cons {h : Hook} {rest : List Hook} {payload next last : Bytes} :
      h.onPublish client topic payload = .accept next → Passes rest next last →
      Passes (h :: rest) payload last

/-- A hook that lets a payload go no further. -/
def Stops (h : Hook) (payload : Bytes) : Prop :=
  ∀ next, h.onPublish client topic payload ≠ .accept next

end

variable {client : Client} {topic : String}

theorem passAll_append {before : List Hook} {payload next : Bytes}
    (h : Passes client topic before payload next) (after : List Hook) :
    passAll client topic (before ++ after) payload = passAll client topic after next := by
  induction h with
  | nil payload => rfl
  | cons haccept _ ih =>
      simp only [List.cons_append, passAll, haccept]
      exact ih

theorem passAll_of_passes {hooks : List Hook} {payload last : Bytes}
    (h : Passes client topic hooks payload last) :
    passAll client topic hooks payload = .accept last := by
  have happend := passAll_append h []
  rw [List.append_nil] at happend
  exact happend

theorem passAll_of_stops {before : List Hook} {payload next : Bytes}
    (hbefore : Passes client topic before payload next) {h : Hook}
    (hstops : Stops client topic h next) (after : List Hook) :
    passAll client topic (before ++ h :: after) payload = h.onPublish client topic next := by
  rw [passAll_append hbefore]
  unfold passAll
  cases hdecision : h.onPublish client topic next with
  | accept altered => exact absurd hdecision (hstops altered)
  | reject refusal => rfl
  | redirect target altered => rfl

theorem passes_or_stops (client : Client) (topic : String) (hooks : List Hook) (payload : Bytes) :
    (∃ last, Passes client topic hooks payload last) ∨
      ∃ before h after next, hooks = before ++ h :: after ∧
        Passes client topic before payload next ∧ Stops client topic h next := by
  induction hooks generalizing payload with
  | nil => exact .inl ⟨payload, .nil payload⟩
  | cons h rest ih =>
      cases hdecision : h.onPublish client topic payload with
      | reject refusal =>
          exact .inr ⟨[], h, rest, payload, rfl, .nil payload, by simp [Stops, hdecision]⟩
      | redirect target altered =>
          exact .inr ⟨[], h, rest, payload, rfl, .nil payload, by simp [Stops, hdecision]⟩
      | accept next =>
          rcases ih next with ⟨last, hrest⟩ | ⟨before, k, after, last, rfl, hbefore, hk⟩
          · exact .inl ⟨last, .cons hdecision hrest⟩
          · exact .inr ⟨h :: before, k, after, last, rfl, .cons hdecision hbefore, hk⟩

theorem publish_of_passes (g : Gate) (b : Backend) {hooks : List Hook} {payload last : Bytes}
    (h : Passes client topic hooks payload last) :
    publish ⟨hooks, g⟩ b client topic payload =
      ((g.publish b client topic last).1.delivery, (g.publish b client topic last).2) := by
  simp only [publish, passAll_of_passes h]

/-- Whoever stops a message decides what becomes of it, and nothing is done. -/
theorem publish_of_stops (g : Gate) (b : Backend) {before : List Hook} {payload next : Bytes}
    (hbefore : Passes client topic before payload next) {h : Hook}
    (hstops : Stops client topic h next) (after : List Hook) :
    publish ⟨before ++ h :: after, g⟩ b client topic payload =
      ((h.onPublish client topic next).delivery, b) := by
  simp only [publish, passAll_of_stops hbefore hstops after]
  cases hdecision : h.onPublish client topic next with
  | accept altered => exact absurd hdecision (hstops altered)
  | reject refusal => rfl
  | redirect target altered => rfl

end DeviceGateway.Pipeline
