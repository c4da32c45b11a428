import DeviceGateway.Proofs.Store.Frame
/-!
Backends whose parts are the same and in the same condition, whatever was written, sent or counted.
There an operation on a key does what the entry at the key makes it do, and so the same is done to
both.
-/
namespace DeviceGateway.Backend

/-- A backend later on, with the parts as they were. -/
abbrev SameParts (b b' : Backend) : Prop := Frame (fun _ => True) True b b'

variable {b b' : Backend}

theorem SameParts.symm (h : SameParts b b') : SameParts b' b :=
  ⟨fun _ hk => absurd trivial hk, fun hL => absurd trivial hL, h.devices.symm, h.rules.symm,
    h.selects.symm, h.clock.symm, h.faults.symm⟩

theorem SameParts.fails_eq (h : SameParts b b') (op : KeyValue.Op) (keys : List String) :
    b'.fails op keys = b.fails op keys := by
  simp only [fails, h.faults]

theorem SameParts.ask_eq (h : SameParts b b') (q : Devices.Query) : b'.ask q = b.ask q := by
  simp only [ask, device, h.devices, h.faults]

theorem SameParts.get_eq (h : SameParts b b') {key : String}
    (hkey : b'.keyValue.find? key = b.keyValue.find? key) : b'.get key = b.get key := by
  have htext : b'.keyValue.text? key = b.keyValue.text? key := by
    unfold KeyValue.text?
    rw [hkey]
  simp only [Backend.get, attempt, h.fails_eq, htext]

theorem set_eq (b : Backend) (key value : String) (ttl : Option Nat) :
    b.set key value ttl =
      if b.fails .set [key] then .error (.failed .set)
      else .ok (b.wrote (.set key value ttl) (b.keyValue.set key value ttl)) := rfl

theorem delete_eq (b : Backend) (keys : List String) :
    b.delete keys =
      if b.fails .delete keys then .error (.failed .delete)
      else .ok (b.wrote (.delete keys) (b.keyValue.delete keys)) := rfl

theorem find?_wrote_set (b : Backend) (key value : String) (ttl : Option Nat) :
    (b.wrote (.set key value ttl) (b.keyValue.set key value ttl)).keyValue.find? key =
      some ⟨.text value, ttl.bind KeyValue.lifetime?⟩ :=
  (KeyValue.find?_set _ _ _ _ _).trans (if_pos rfl)

/-- Two backends to which the same was done: strings were set at keys `P`, and rules queried. -/
inductive SameDone (P : String → Prop) (b b' : Backend) : Backend → Backend → Prop
  | nothing : SameDone P b b' b b'
  | set {c c' : Backend} {key : String} (hP : P key) (value : String) (ttl : Option Nat) :
      SameDone P b b' c c' →
      SameDone P b b' (c.wrote (.set key value ttl) (c.keyValue.set key value ttl))
        (c'.wrote (.set key value ttl) (c'.keyValue.set key value ttl))
  | asked {c c' : Backend} : SameDone P b b' c c' →
      SameDone P b b' { c with rules := { c.rules with queries := c.rules.queries + 1 } }
        { c' with rules := { c'.rules with queries := c'.rules.queries + 1 } }

section

variable {P : String → Prop} {c c' : Backend}

theorem SameDone.find?_eq (h : SameDone P b b' c c') {key : String}
    (hkey : b'.keyValue.find? key = b.keyValue.find? key) :
    c'.keyValue.find? key = c.keyValue.find? key := by
  induction h with
  | nothing => exact hkey
  | set _ value ttl _ ih =>
      change (KeyValue.set _ _ _ _).find? key = (KeyValue.set _ _ _ _).find? key
      rw [KeyValue.find?_set, KeyValue.find?_set, ih]
  | asked _ ih => exact ih

/-- What each of these things keeps is kept. -/
theorem SameDone.keeps (h : SameDone P b b' c c') {I : Backend → Prop} (hb : I b)
    (hset : ∀ {c : Backend} {key : String}, P key → I c → ∀ value ttl,
      I (c.wrote (.set key value ttl) (c.keyValue.set key value ttl)))
    (hasked : ∀ {c : Backend}, I c →
      I { c with rules := { c.rules with queries := c.rules.queries + 1 } }) : I c := by
  induction h with
  | nothing => exact hb
  | set hP value ttl _ ih => exact hset hP ih value ttl
  | asked _ ih => exact hasked ih

end

end DeviceGateway.Backend
