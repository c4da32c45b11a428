import DeviceGateway.Json.Codec
/-!
What readers yield. A property that each step of a reader keeps holds of whatever the reader yields,
be the input well written or not.
-/
namespace DeviceGateway.Json

variable {α β σ ρ : Type}

namespace Reader

/-- Whatever a reader yields has a property. -/
def Yields (P : α → Prop) (x : Reader α) : Prop := ∀ input a left, x input = .ok (a, left) → P a

namespace Yields

variable {P : α → Prop} {Q : β → Prop}

theorem pure {a : α} (h : P a) : Yields P (pure a) := by
  intro input b left heq
  cases heq
  exact h

theorem fail (fault : Fault) : Yields P (fail fault) := by
  intro input a left heq
  cases heq

theorem bind {x : Reader α} {f : α → Reader β} (hx : Yields P x)
    (hf : ∀ a, P a → Yields Q (f a)) : Yields Q (x >>= f) := by
  intro input b left heq
  change (x input >>= fun p => f p.1 p.2) = .ok (b, left) at heq
  cases hread : x input with
  | error e =>
      rw [hread] at heq
      cases heq
  | ok p =>
      rw [hread] at heq
      exact hf p.1 (hx input p.1 p.2 hread) p.2 b left heq

/-- A step whose own answer does not matter. -/
theorem after {x : Reader α} {f : α → Reader β} (hf : ∀ a, Yields Q (f a)) :
    Yields Q (x >>= f) := by
  have hx : Yields (fun _ => True) x := fun _ _ _ _ => trivial
  exact hx.bind fun a _ => hf a

theorem mismatch : Yields P mismatch := by
  apply after
  intro next
  split
  · split
    · exact after fun _ => after fun _ => fail _
    split
    · exact fail _
    split
    · exact after fun _ => fail _
    split
    · exact after fun _ => fail _
    split
    · exact after fun _ => fail _
    split
    · exact after fun _ => fail _
    · exact fail _
  · exact fail _

theorem nullable {x : Reader α} (h : Yields P x) :
    Yields (fun o : Option α => ∀ a ∈ o, P a) (nullable x) := by
  apply after
  intro _
  apply after
  intro next
  split
  · apply after
    intro _
    exact pure nofun
  · refine h.bind fun a ha => pure ?_
    rintro b ⟨⟩
    exact ha

section

variable {x : Reader α} (h : Yields P x)

include h

theorem moreItems (bound : Nat) :
    Yields (fun as : List α => ∀ a ∈ as, P a) (moreItems x bound) := by
  induction bound with
  | zero => exact fail _
  | succ bound ih =>
      apply after
      intro _
      apply after
      intro more
      split
      · refine h.bind fun a ha => ih.bind fun as has => pure ?_
        exact List.forall_mem_cons.mpr ⟨ha, has⟩
      · apply after
        intro _
        exact pure nofun

theorem array : Yields (fun as : List α => ∀ a ∈ as, P a) (array x) := by
  apply after
  intro _
  apply after
  intro opened
  split
  · apply after
    intro _
    apply after
    intro empty
    split
    · exact pure nofun
    · refine h.bind fun a ha => after fun bound => (h.moreItems bound).bind fun as has => pure ?_
      exact List.forall_mem_cons.mpr ⟨ha, has⟩
  · exact mismatch

theorem named : Yields P (named x) := by
  apply after
  intro _
  apply after
  intro _
  exact h

end

section

variable {S : σ → Prop} {member : σ → String → Reader σ}
  (h : ∀ s n, S s → Yields S (member s n))

include h

theorem moreMembers (bound : Nat) {s : σ} (hs : S s) : Yields S (moreMembers member bound s) := by
  induction bound generalizing s with
  | zero => exact fail _
  | succ bound ih =>
      apply after
      intro _
      apply after
      intro more
      split
      · exact after fun n => (h s n hs).bind fun next hnext => ih hnext
      · exact after fun _ => pure hs

theorem object {s : σ} (hs : S s) : Yields S (object member s) := by
  apply after
  intro _
  apply after
  intro opened
  split
  · apply after
    intro _
    apply after
    intro empty
    split
    · exact pure hs
    · refine after fun n => (h s n hs).bind fun next hnext => after fun bound => ?_
      exact moreMembers h bound hnext
  · exact mismatch

end

end Yields

end Reader

namespace Codec

open Reader (Yields)

theorem spelled_yields {write : α → String} {read? : String → Option α} {P : α → Prop}
    (h : ∀ s a, read? s = some a → P a) : (spelled write read?).read.Yields P := by
  apply Yields.after
  intro s
  cases hread : read? s with
  | none => exact .fail _
  | some a => exact .pure (h s a hread)

/-- Reading a field keeps a property of the record. -/
def Field.Keeps (P : ρ → Prop) (f : Field ρ) : Prop := ∀ r, P r → (f.read r).Yields P

theorem Field.Keeps.plain {P : ρ → Prop} {Q : α → Prop} {name : String} {presence : Presence}
    {c : Codec α} {get : ρ → α} {set : ρ → α → ρ} (hc : c.read.Yields Q)
    (hset : ∀ r v, P r → Q v → P (set r v)) : (Field.plain name presence c get set).Keeps P := by
  intro r hr
  exact hc.bind fun v hv => .pure (hset r v hr hv)

/-- A field that the property says nothing of. -/
theorem Field.Keeps.aside {P : ρ → Prop} {name : String} {presence : Presence} {c : Codec α}
    {get : ρ → α} {set : ρ → α → ρ} (hset : ∀ r v, P r → P (set r v)) :
    (Field.plain name presence c get set).Keeps P := by
  have hany : c.read.Yields fun _ => True := fun _ _ _ _ => trivial
  exact .plain hany fun r v hr _ => hset r v hr

section

variable {fields : List (Field ρ)} {P : ρ → Prop} (hfields : ∀ f ∈ fields, f.Keeps P)

include hfields

theorem elements_yields (first : Bool) {r : ρ} (hr : P r) : (elements fields first r).Yields P := by
  induction fields generalizing first r with
  | nil => exact .after fun _ => .after fun _ => .pure hr
  | cons f rest ih =>
      obtain ⟨hf, hrest⟩ := List.forall_mem_cons.mp hfields
      refine .after fun _ => .after fun ended => ?_
      split
      · split
        · exact .pure hr
        · exact .fail _
      · have hnext : (f.read r >>= fun next => elements rest false next).Yields P :=
          (hf r hr).bind fun next hnext => ih hrest false hnext
        dsimp only
        split
        · exact hnext
        · exact .after fun _ => hnext

theorem takeMember_yields {other : ρ → String → Reader ρ}
    (hother : ∀ r n, P r → (other r n).Yields P) (d : Draft ρ) (n : String) (hd : P d.record) :
    (takeMember fields other d n).Yields fun d => P d.record := by
  unfold takeMember
  split
  · exact (hother d.record n hd).named.bind fun r hr => .pure hr
  · next f hf =>
    split
    · exact .fail _
    · have hmem := List.mem_of_find?_eq_some hf
      exact (hfields f hmem d.record hd).named.bind fun r hr => .pure hr

/-- What every field keeps and the record begins with, a record has that is read. -/
theorem record_yields {start : ρ} (hstart : P start) : (record fields start).read.Yields P := by
  have hignore (r : ρ) (n : String) (hr : P r) : (ignore r n).Yields P :=
    .after fun _ => .pure hr
  refine .after fun _ => .after fun array => ?_
  split
  · exact elements_yields hfields true hstart
  · refine (Yields.object (takeMember_yields hfields hignore) hstart).bind fun d hd => ?_
    unfold Draft.finish
    split
    · exact .pure hd
    · exact .fail _

end

/-- A value that a string spells is one that its reader yields. -/
theorem decode?_yields {c : Codec α} {P : α → Prop} (h : c.read.Yields P) {s : String} {a : α}
    (hs : c.decode? s = some a) : P a := by
  unfold decode? decode Reader.whole? at hs
  cases hread : c.read (piecesOf s) with
  | error e =>
      rw [hread] at hs
      cases hs
  | ok p =>
      obtain ⟨v, left⟩ := p
      have hv : P v := h _ v left hread
      rw [hread] at hs
      dsimp only [bind, Except.bind, Reader.space] at hs
      split at hs
      · cases hs
        exact hv
      · cases hs

end Codec

end DeviceGateway.Json
