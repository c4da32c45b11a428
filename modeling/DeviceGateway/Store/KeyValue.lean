/-!
A key-value store of strings and lists. A key keeps its type until it is deleted or set anew; an
entry may have a time to live. No time passes by itself: a time to live is what was last asked for.
-/
namespace DeviceGateway

namespace KeyValue

inductive Content where
  | text (value : String)
  | list (items : List String)
deriving DecidableEq, Repr

/-- A content and the seconds that it has to live, if they are counted. -/
structure Entry where
  content : Content
  ttl : Option Nat
deriving DecidableEq, Repr

/-- The kinds of operation, each of which may fail on its own. -/
inductive Op where
  | get
  | set
  | delete
  | push
  | list
  | ttl
deriving DecidableEq, Repr

def Op.name : Op → String
  | .get => "get"
  | .set => "set"
  | .delete => "delete"
  | .push => "push"
  | .list => "list"
  | .ttl => "ttl"

/-- A write that took effect. -/
inductive Write where
  | set (key value : String) (ttl : Option Nat)
  | delete (keys : List String)
  | push (key value : String) (maxItems : Nat) (ttl : Option Nat)
deriving DecidableEq, Repr

/-- The longest time to live, in seconds, that the store's clock can tell the end of: it counts to
`0x7FFFFFFFFFFFFFFF` and has been running for less than `0x1000000`. -/
def maxLifetime : Nat := 0x7FFFFFFFFFFFFFFF - 0x1000000

/-- Zero and what the clock cannot tell the end of mean no expiry. -/
def lifetime? (ttl : Nat) : Option Nat := if ttl = 0 ∨ maxLifetime < ttl then none else some ttl

end KeyValue

structure KeyValue where
  entries : List (String × KeyValue.Entry) := []
deriving DecidableEq, Repr

namespace KeyValue

def find? (kv : KeyValue) (key : String) : Option Entry := kv.entries.lookup key

def erase (kv : KeyValue) (key : String) : KeyValue :=
  ⟨kv.entries.filter fun e => e.1 ≠ key⟩

def put (kv : KeyValue) (key : String) (entry : Entry) : KeyValue :=
  ⟨(key, entry) :: (kv.erase key).entries⟩

def size (kv : KeyValue) : Nat := kv.entries.length

/-- The string at a key, none if there is no entry; the outer `none` if it holds a list. -/
def text? (kv : KeyValue) (key : String) : Option (Option String) :=
  match kv.find? key with
  | none => some none
  | some ⟨.text value, _⟩ => some (some value)
  | some ⟨.list _, _⟩ => none

/-- The list at a key, empty if there is no entry; none if it holds a string. -/
def items? (kv : KeyValue) (key : String) : Option (List String) :=
  match kv.find? key with
  | none => some []
  | some ⟨.list items, _⟩ => some items
  | some ⟨.text _, _⟩ => none

/-- Whatever was at the key is replaced, its time to live too. -/
def set (kv : KeyValue) (key value : String) (ttl : Option Nat) : KeyValue :=
  kv.put key ⟨.text value, ttl.bind lifetime?⟩

def delete (kv : KeyValue) (keys : List String) : KeyValue := keys.foldl erase kv

/-- Puts an item in front and keeps the first `maxItems`, at least one; a positive time to live
replaces the old one. None if the key holds a string. -/
def push? (kv : KeyValue) (key value : String) (maxItems : Nat) (ttl : Option Nat) :
    Option KeyValue :=
  (kv.items? key).map fun items =>
    let old := (kv.find? key).bind Entry.ttl
    let left := match ttl with
      | some (t + 1) => lifetime? (t + 1)
      | _ => old
    kv.put key ⟨.list ((value :: items).take (max maxItems 1)), left⟩

/-- The seconds that a key has to live; none if it has no entry or no expiry. -/
def ttl? (kv : KeyValue) (key : String) : Option Nat := (kv.find? key).bind Entry.ttl

theorem lookup_entry (key other : String) (e : Entry) (rest : List (String × Entry)) :
    ((key, e) :: rest).lookup other = if other = key then some e else rest.lookup other := by
  by_cases h : other = key
  · subst h; simp
  · simp [List.lookup_cons, beq_false_of_ne h, h]

theorem find?_erase (kv : KeyValue) (key other : String) :
    (kv.erase key).find? other = if other = key then none else kv.find? other := by
  obtain ⟨entries⟩ := kv
  simp only [find?, erase]
  induction entries with
  | nil => simp
  | cons e rest ih =>
    obtain ⟨k, v⟩ := e
    by_cases hk : k = key
    · subst hk
      simp only [List.filter_cons, ne_eq, not_true, decide_false, Bool.false_eq_true, if_false, ih,
        lookup_entry]
      split <;> simp_all
    · simp only [List.filter_cons, ne_eq, hk, not_false_iff, decide_true, if_true, lookup_entry, ih]
      by_cases ho : other = key
      · subst ho; simp [Ne.symm hk]
      · simp [ho]

@[simp] theorem find?_put (kv : KeyValue) (key other : String) (entry : Entry) :
    (kv.put key entry).find? other = if other = key then some entry else kv.find? other := by
  have h := find?_erase kv key other
  simp only [find?] at h ⊢
  simp only [put, lookup_entry, h]
  split <;> rfl

end KeyValue

end DeviceGateway
