import DeviceGateway.Proofs.Json.Codec
/-!
Objects are read member by member. What a reader makes of one member is told apart from how the
members follow each other; white space may be around anything.
-/
namespace DeviceGateway.Json

open Utf8 (Piece)

variable {α β σ : Type}

/-- White space, or nothing. -/
def Blank (text : List Char) : Prop := ∀ c ∈ text, isSpace c = true

instance : DecidablePred Blank := List.decidableBAll _

theorem blank_nil : Blank [] := List.forall_mem_nil _

theorem commas_cons (text : List Char) (texts : List (List Char)) :
    commas (text :: texts) = text ++ texts.flatMap (',' :: ·) := by
  induction texts generalizing text with
  | nil => simp only [commas, List.flatMap_nil, List.append_nil]
  | cons next texts ih => simp only [commas, ih, List.flatMap_cons, List.cons_append]

theorem length_le_flatMap_comma (texts : List (List Char)) :
    texts.length ≤ (texts.flatMap (',' :: ·)).length := by
  induction texts with
  | nil => exact Nat.le_refl 0
  | cons text texts ih =>
      simp only [List.flatMap_cons, List.length_append, List.length_cons]
      omega

theorem closes_more (texts : List (List Char)) {c : Char} (hc : c = ',' ∨ c = ']' ∨ c = '\x7d')
    (rest : List Piece) : Closes (pieces (texts.flatMap (',' :: ·)) ++ .char c :: rest) := by
  cases texts with
  | nil => exact closes_cons hc rest
  | cons text texts => exact closes_cons (.inl rfl) _

/-! ### Texts of objects -/

structure Item where
  before : List Char
  text : List Char
  after : List Char
deriving DecidableEq, Repr

def Item.source (i : Item) : List Char := i.before ++ (i.text ++ i.after)

def Item.Spaced (i : Item) : Prop := Blank i.before ∧ Blank i.after

instance : DecidablePred Item.Spaced :=
  fun i => inferInstanceAs (Decidable (Blank i.before ∧ Blank i.after))

/-- The texts of a member, with the white space around them; the name is without its quotes. -/
structure Member where
  before : List Char
  name : List Char
  between : List Char
  value : Item
deriving DecidableEq, Repr

def Member.valued (m : Member) : List Char := m.between ++ ':' :: m.value.source

def Member.source (m : Member) : List Char := m.before ++ '"' :: (m.name ++ '"' :: m.valued)

structure Member.Spaced (m : Member) : Prop where
  before : Blank m.before
  between : Blank m.between
  value : m.value.Spaced

instance : DecidablePred Member.Spaced := fun m =>
  decidable_of_iff (Blank m.before ∧ Blank m.between ∧ m.value.Spaced)
    ⟨fun ⟨before, between, value⟩ => ⟨before, between, value⟩,
      fun h => ⟨h.before, h.between, h.value⟩⟩

def braced (members : List Member) : List Char :=
  '\x7b' :: (commas (members.map Member.source) ++ ['\x7d'])

namespace Reader

/-! ### White space and names -/

theorem space_blank {blank : List Char} (h : Blank blank) (rest : List Piece) :
    space (pieces blank ++ rest) = space rest := by
  induction blank with
  | nil => rfl
  | cons c blank ih =>
      obtain ⟨hc, hmore⟩ := List.forall_mem_cons.mp h
      rw [← ih hmore]
      simp only [space, pieces_cons, List.cons_append, List.dropWhile_cons, hc, if_true]

theorem space_upTo {blank : List Char} (h : Blank blank) {c : Char} (hc : isSpace c = false)
    (rest : List Piece) :
    space (pieces blank ++ .char c :: rest) = .ok ((), .char c :: rest) :=
  (space_blank h _).trans (space_eq hc rest)

theorem name_blank {blank : List Char} (h : Blank blank) (rest : List Piece) :
    name (pieces blank ++ rest) = name rest :=
  bind_congr (space_blank h rest) _

theorem name_spelled {before spelling : List Char} {n : String} (hbefore : Blank before)
    (h : Spells spelling n.toList) (rest : List Piece) :
    name (pieces before ++ .char '"' :: (pieces spelling ++ .char '"' :: rest)) =
      .ok (n, rest) := by
  unfold name
  rw [bind_eq (space_upTo hbefore (by decide) _), bind_eq (expect_eq '"' _)]
  exact contents_spelled h rest

/-! ### Items and members -/

/-- A reader gives `a` for an item, and leaves the white space behind it. -/
def Gives (value : Reader α) (i : Item) (a : α) : Prop :=
  ∀ rest, Closes rest → value (pieces i.source ++ rest) = .ok (a, pieces i.after ++ rest)

theorem Gives.map {value : Reader α} {i : Item} {a : α} (h : value.Gives i a) (f : α → β) :
    Gives (do return f (← value)) i (f a) :=
  fun rest hrest => bind_eq (h rest hrest) _

theorem Gives.named {value : Reader α} {m : Member} {a : α} (h : value.Gives m.value a)
    (hbetween : Blank m.between) {rest : List Piece} (hrest : Closes rest) :
    named value (pieces m.valued ++ rest) = .ok (a, pieces m.value.after ++ rest) := by
  unfold Reader.named
  rw [Member.valued, pieces_append, List.append_assoc, pieces_cons, List.cons_append,
    bind_eq (space_upTo hbetween (by decide) _), bind_eq (expect_eq ':' _)]
  exact h rest hrest

variable {member : σ → String → Reader σ}

/-- A member is taken: what was read so far becomes `next`, and the white space behind the member is
left. -/
def Takes (member : σ → String → Reader σ) (s : σ) (m : Member) (next : σ) : Prop :=
  ∀ rest, Closes rest →
    (name >>= member s) (pieces m.source ++ rest) = .ok (next, pieces m.value.after ++ rest)

theorem takes_of_name {s next : σ} {m : Member} {n : String} (hbefore : Blank m.before)
    (hname : Spells m.name n.toList)
    (h : ∀ rest, Closes rest →
      member s n (pieces m.valued ++ rest) = .ok (next, pieces m.value.after ++ rest)) :
    Takes member s m next := by
  intro rest hrest
  rw [Member.source, pieces_append, pieces_cons, pieces_append, pieces_cons, List.append_assoc,
    List.cons_append, List.append_assoc, List.cons_append,
    bind_eq (name_spelled hbefore hname _)]
  exact h rest hrest

/-! ### Objects -/

/-- Members are taken one after the other. -/
inductive TakesAll (member : σ → String → Reader σ) : σ → List Member → σ → Prop
  | nil (s : σ) : TakesAll member s [] s
  | cons {s next last : σ} {m : Member} {members : List Member} : m.Spaced →
      Takes member s m next → TakesAll member next members last →
      TakesAll member s (m :: members) last

theorem TakesAll.moreMembers_eq {s last : σ} {ms : List Member} (h : TakesAll member s ms last)
    {blank : List Char} (hblank : Blank blank) {bound : Nat} (hbound : ms.length < bound)
    (rest : List Piece) :
    moreMembers member bound s (pieces blank ++
        (pieces ((ms.map Member.source).flatMap (',' :: ·)) ++ .char '\x7d' :: rest)) =
      .ok (last, rest) := by
  induction h generalizing blank bound with
  | nil s =>
      obtain ⟨bound, rfl⟩ : ∃ k, bound = k + 1 := ⟨bound - 1, by omega⟩
      unfold moreMembers
      exact bind_eq (space_upTo hblank (by decide) _) _
  | @cons s next last m ms hspaced htakes _ ih =>
      obtain ⟨bound, rfl⟩ : ∃ k, bound = k + 1 := ⟨bound - 1, by omega⟩
      have hcloses := closes_more (ms.map Member.source) (c := '\x7d') (by decide) rest
      rw [List.map_cons, List.flatMap_cons, List.cons_append, pieces_cons, pieces_append,
        List.cons_append, List.append_assoc]
      unfold moreMembers
      rw [bind_eq (space_upTo hblank (by decide) _), bind_eq (accept_eq ',' _), if_pos rfl,
        ← bind_assoc, bind_eq (htakes _ hcloses)]
      exact ih hspaced.value.2 (by rw [List.length_cons] at hbound; omega)

theorem TakesAll.members_eq {s last : σ} {ms : List Member} (h : TakesAll member s ms last)
    (rest : List Piece) :
    members member s (pieces (commas (ms.map Member.source)) ++ .char '\x7d' :: rest) =
      .ok (last, rest) := by
  cases h with
  | nil => rfl
  | @cons _ next _ m ms hspaced htakes hmore =>
      let more := pieces ((ms.map Member.source).flatMap (',' :: ·)) ++ .char '\x7d' :: rest
      have hcloses : Closes more := closes_more (ms.map Member.source) (by decide) rest
      have hbound : ms.length < (pieces m.value.after ++ more).length := by
        have hlength := length_le_flatMap_comma (ms.map Member.source)
        rw [List.length_map] at hlength
        simp only [more, List.length_append, length_pieces, List.length_cons]
        omega
      -- the white space before the first name is gone once a brace was looked for
      have hfirst := htakes more hcloses
      rw [Member.source, pieces_append, List.append_assoc,
        bind_congr (name_blank hspaced.before _), pieces_cons, List.cons_append] at hfirst
      rw [List.map_cons, commas_cons, Member.source, pieces_append, pieces_append,
        List.append_assoc, List.append_assoc, pieces_cons, List.cons_append]
      unfold members
      rw [bind_eq (space_upTo hspaced.before (by decide) _), bind_eq (accept_ne (by decide) _),
        if_neg Bool.false_ne_true, ← bind_assoc, bind_eq hfirst,
        bind_eq (show remaining _ = .ok (_, _) from rfl)]
      exact hmore.moreMembers_eq hspaced.value.2 hbound rest

/-- An object is read by taking its members. -/
theorem TakesAll.object_eq {s last : σ} {ms : List Member} (h : TakesAll member s ms last)
    (rest : List Piece) : object member s (pieces (braced ms) ++ rest) = .ok (last, rest) := by
  unfold object
  rw [braced, pieces_cons, pieces_append, List.cons_append, List.append_assoc,
    bind_eq (space_eq (by decide) _), bind_eq (accept_eq '\x7b' _), if_pos rfl]
  exact h.members_eq rest

end Reader

end DeviceGateway.Json
