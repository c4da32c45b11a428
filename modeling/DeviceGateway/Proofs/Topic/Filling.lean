import DeviceGateway.Proofs.Topic.Recipient
/-!
Filling in and reading off undo each other. A template matches what is made of it, and where the
first variable for the device's number is a level of its own, the number that was filled in is what
is read off. However a topic is cut for a template, the pieces before that level hold equally many
slashes, so the number stands at the same level of the topic in every way to cut it.
-/
namespace DeviceGateway.Topic

open Canonical (levels)

/-! ### Levels by number -/

theorem length_levels (text : List Char) : (levels text).length = text.count '/' + 1 := by
  induction text using levels_induction with
  | single level hlevel =>
      rw [levels_of_not_mem hlevel, List.count_eq_zero_of_not_mem hlevel]
      rfl
  | more level text hlevel ih =>
      rw [levels_append hlevel, List.length_cons, ih, List.count_append,
        List.count_eq_zero_of_not_mem hlevel, List.count_cons_self, Nat.zero_add]

/-- Text after which a level begins. -/
def EndsLevel (text : List Char) : Prop := ∀ c ∈ text.getLast?, c = '/'

/-- Text before which a level is over. -/
def StartsLevel (text : List Char) : Prop := ∀ c ∈ text.head?, c = '/'

instance : DecidablePred EndsLevel := fun text => Option.decidableForallMem text.getLast?

instance : DecidablePred StartsLevel := fun text => Option.decidableForallMem text.head?

theorem EndsLevel.cases {text : List Char} (h : EndsLevel text) :
    text = [] ∨ ∃ first, text = first ++ ['/'] := by
  cases hlast : text.getLast? with
  | none => exact .inl (List.getLast?_eq_none_iff.mp hlast)
  | some c =>
      obtain ⟨first, rfl⟩ := List.getLast?_eq_some_iff.mp hlast
      rw [h c hlast]
      exact .inr ⟨first, rfl⟩

theorem levels_of_startsLevel {level rest : List Char} (hlevel : '/' ∉ level)
    (h : StartsLevel rest) : ∃ more, levels (level ++ rest) = level :: more := by
  cases rest with
  | nil => exact ⟨[], by rw [List.append_nil, levels_of_not_mem hlevel]⟩
  | cons c rest =>
      obtain rfl : c = '/' := h c rfl
      exact ⟨levels rest, levels_append hlevel rest⟩

/-- A whole level is the one whose place is the number of slashes before it. -/
theorem getElem?_levels {before level after : List Char} (hlevel : '/' ∉ level)
    (hbefore : EndsLevel before) (hafter : StartsLevel after) :
    (levels (before ++ (level ++ after)))[before.count '/']? = some level := by
  obtain ⟨more, hmore⟩ := levels_of_startsLevel hlevel hafter
  rcases hbefore.cases with rfl | ⟨first, rfl⟩
  · rw [List.nil_append, hmore]
    rfl
  · have hplace : (first ++ ['/']).count '/' = (levels first).length := by
      rw [length_levels, List.count_append, List.count_singleton_self]
    rw [List.append_assoc, List.singleton_append, levels_append_slash, hplace, hmore,
      List.getElem?_append_right (Nat.le_refl _), Nat.sub_self]
    rfl

/-! ### Pieces for the same tokens -/

/-- What one token can be given in two ways to cut a topic: the same text, or else no slash. -/
def Alike (p q : List Char) : Prop := p = q ∨ IsPiece p ∧ IsPiece q

theorem Token.Fits.alike {t : Token} {p q : List Char} (hp : t.Fits p) (hq : t.Fits q) :
    Alike p q := by
  cases t with
  | literal text => exact .inl (hp.trans hq.symm)
  | wildcard => exact .inr ⟨hp, hq⟩
  | «variable» name => exact .inr ⟨hp, hq⟩

theorem IsPiece.reverse {piece : List Char} (h : IsPiece piece) : IsPiece piece.reverse :=
  ⟨List.reverse_ne_nil_iff.mpr h.1, fun hm => h.2 (List.mem_reverse.mp hm)⟩

theorem Alike.reverse {p q : List Char} (h : Alike p q) : Alike p.reverse q.reverse :=
  h.imp (congrArg List.reverse) fun h => ⟨h.1.reverse, h.2.reverse⟩

theorem IsPiece.not_startsLevel {piece : List Char} (h : IsPiece piece) (rest : List Char) :
    ¬ StartsLevel (piece ++ rest) := by
  intro hstarts
  cases piece with
  | nil => exact h.1 rfl
  | cons c piece => exact h.2 (by simp [hstarts c rfl])

section

variable {ps qs : List (List Char)}

theorem forall₂_alike {ts : List Token} (hp : List.Forall₂ Token.Fits ts ps)
    (hq : List.Forall₂ Token.Fits ts qs) : List.Forall₂ Alike ps qs :=
  (forall₂_of_common hp hq).imp fun _ _ ⟨_, hfits, hfits'⟩ => hfits.alike hfits'

theorem count_flatten_eq (h : List.Forall₂ Alike ps qs) :
    ps.flatten.count '/' = qs.flatten.count '/' := by
  induction h with
  | nil => rfl
  | cons halike _ ih =>
      rw [List.flatten_cons, List.flatten_cons, List.count_append, List.count_append, ih]
      rcases halike with rfl | ⟨hp, hq⟩
      · rfl
      · rw [List.count_eq_zero_of_not_mem hp.2, List.count_eq_zero_of_not_mem hq.2]

theorem startsLevel_flatten (h : List.Forall₂ Alike ps qs) (hstarts : StartsLevel ps.flatten) :
    StartsLevel qs.flatten := by
  induction h with
  | nil => exact hstarts
  | @cons p _ ps _ halike _ ih =>
      rw [List.flatten_cons] at hstarts ⊢
      rcases halike with rfl | ⟨hp, _⟩
      · cases p with
        | nil => exact ih hstarts
        | cons c p => exact hstarts
      · exact absurd hstarts (hp.not_startsLevel _)

/-- Pieces end as they begin: in reverse, what is alike stays so. -/
theorem endsLevel_flatten (h : List.Forall₂ Alike ps qs) (hends : EndsLevel ps.flatten) :
    EndsLevel qs.flatten := by
  have hreverse (text : List Char) : EndsLevel text ↔ StartsLevel text.reverse := by
    rw [EndsLevel, StartsLevel, List.head?_reverse]
  rw [hreverse, List.reverse_flatten] at hends ⊢
  refine startsLevel_flatten ?_ hends
  rw [List.forall₂_reverse_iff, List.forall₂_map_left_iff, List.forall₂_map_right_iff]
  exact h.imp fun _ _ => Alike.reverse

end

/-! ### The number's own level -/

/-- The first variable for the device's number is a level of its own: the text before it is empty or
ends with a slash, and the text after it is empty or begins with one. -/
def NumberAlone (template : String) : Prop :=
  ∃ before after, tokens template = before ++ .variable deviceNumber.toList :: after ∧
    .variable deviceNumber.toList ∉ before ∧ EndsLevel (before.flatMap Token.source) ∧
    StartsLevel (after.flatMap Token.source)

theorem fits_append_cons {before after : List Token} {t : Token} {ps : List (List Char)}
    (h : List.Forall₂ Token.Fits (before ++ t :: after) ps) :
    ∃ first piece last, ps = first ++ piece :: last ∧ List.Forall₂ Token.Fits before first ∧
      t.Fits piece ∧ List.Forall₂ Token.Fits after last := by
  induction before generalizing ps with
  | nil =>
      cases h with
      | cons hpiece hlast => exact ⟨[], _, _, rfl, .nil, hpiece, hlast⟩
  | cons _ before ih =>
      cases h with
      | cons hhead hrest =>
          obtain ⟨first, piece, last, rfl, hfirst, hpiece, hlast⟩ := ih hrest
          exact ⟨_ :: first, piece, last, rfl, .cons hhead hfirst, hpiece, hlast⟩

/-- The number that is read is the piece of the first variable for it. -/
theorem captured_append {before after : List Token} {first last : List (List Char)}
    {piece : List Char} (hnone : .variable deviceNumber.toList ∉ before)
    (hlength : before.length = first.length) :
    Pattern.captured (before ++ .variable deviceNumber.toList :: after) (first ++ piece :: last) =
      piece := by
  induction before generalizing first with
  | nil =>
      obtain rfl := List.length_eq_zero_iff.mp hlength.symm
      exact if_pos rfl
  | cons t before ih =>
      obtain ⟨_, first, rfl⟩ := List.exists_cons_of_length_eq_add_one hlength.symm
      rw [List.mem_cons, not_or] at hnone
      have hmore := ih hnone.2 (Nat.succ.inj hlength)
      cases t with
      | literal text => exact hmore
      | wildcard => exact hmore
      | «variable» name =>
          have hname : name ≠ deviceNumber.toList := fun h => hnone.1 (by rw [h])
          exact (if_neg hname).trans hmore

/-- However a topic is cut, its number is read off one and the same level. -/
theorem NumberAlone.exists_place {template : String} (h : NumberAlone template) :
    ∃ place : Nat, ∀ topic number, Reads (tokens template) topic number →
      (levels topic)[place]? = some number := by
  obtain ⟨before, after, htokens, hnone, hends, hstarts⟩ := h
  have hsource : ∀ t ∈ tokens template, t.Fits t.source := by
    intro t ht
    rw [← renderToken_nil]
    exact fits_renderToken (by decide) ht
  rw [htokens, List.forall_mem_append, List.forall_mem_cons] at hsource
  refine ⟨(before.flatMap Token.source).count '/', ?_⟩
  rintro topic number ⟨pieces, rfl, hfits, rfl⟩
  rw [htokens] at hfits ⊢
  obtain ⟨first, piece, last, rfl, hfirst, hpiece, hlast⟩ := fits_append_cons hfits
  have hbefore := forall₂_alike (forall₂_fits_map hsource.1) hfirst
  have hafter := forall₂_alike (forall₂_fits_map hsource.2.2) hlast
  rw [List.flatMap_def] at hends hstarts ⊢
  rw [captured_append hnone hfirst.length_eq, count_flatten_eq hbefore, List.flatten_append,
    List.flatten_cons]
  exact getElem?_levels hpiece.2 (endsLevel_flatten hbefore hends)
    (startsLevel_flatten hafter hstarts)

theorem Reads.unique {template : String} (h : NumberAlone template) {topic number other : List Char}
    (hread : Reads (tokens template) topic number) (hread' : Reads (tokens template) topic other) :
    number = other := by
  obtain ⟨place, hplace⟩ := h.exists_place
  exact Option.some.inj ((hplace topic number hread).symm.trans (hplace topic other hread'))

theorem reads_render {template number : String} {vars : List (String × String)}
    (h : NumberAlone template) (hvars : Fillable vars)
    (hnumber : vars.lookup deviceNumber = some number) :
    Reads (tokens template) (render template vars).toList number.toList := by
  have hfits : ∀ t ∈ tokens template, t.Fits (renderToken vars t) :=
    fun _ ht => fits_renderToken hvars ht
  refine ⟨(tokens template).map (renderToken vars), ?_, forall₂_fits_map hfits, ?_⟩
  · rw [render, String.toList_ofList, List.flatMap_def]
  · obtain ⟨before, after, htokens, hnone, _, _⟩ := h
    rw [htokens, List.map_append, List.map_cons,
      captured_append hnone (List.length_map (renderToken vars)).symm]
    rw [renderToken, valueOf?_eq_lookup, String.ofList_toList, hnumber]
    rfl

/-- A template that compiles matches what is made of it, whichever variables have values. If its
first variable for the device's number is a level of its own, the number can be read off again. -/
theorem render_inverse {template : String} {mode : Mode} {p : Pattern}
    {vars : List (String × String)} (hp : Pattern.compile template mode = .ok p)
    (hvars : Fillable vars) :
    p.isMatch (render template vars) = true ∧
      (NumberAlone template → ∀ number, vars.lookup deviceNumber = some number →
        extract? template (render template vars) = some number) := by
  have haccepts : accepts template (render template vars) = true :=
    accepts_render hvars (usable_of_compile hp)
  refine ⟨?_, ?_⟩
  · rw [isMatch_iff_denotes hp, Denotes, ← cut_iff_pieces]
    exact (accepts_iff.mp haccepts).2
  · intro halone number hnumber
    rw [← isSome_extract?, Option.isSome_iff_exists] at haccepts
    obtain ⟨found, hfound⟩ := haccepts
    have hsame := (reads_of_extract? hfound).unique halone (reads_render halone hvars hnumber)
    rw [hfound, String.toList_inj.mp hsame]

/-- A value may look like part of a template, and a wildcard may share a level with a variable that
has no value; the first value of a name counts, and a later one is not looked at. -/
theorem render_inverse_site :
    let template := "a\x7b/+-\x7bsite\x7d/\x7bdevice_number\x7d/\x7bdevice_number\x7d+"
    let vars := [(deviceNumber, "\x7bsite\x7d+"), (deviceNumber, "")]
    NumberAlone template ∧ Fillable vars ∧
      render template vars = "a\x7b/+-\x7bsite\x7d/\x7bsite\x7d+/\x7bsite\x7d++" ∧
      extract? template (render template vars) = some "\x7bsite\x7d+" := by
  intro template vars
  have halone : NumberAlone template :=
    ⟨[.literal "a\x7b/".toList, .wildcard, .literal ['-'], .variable "site".toList, .literal ['/']],
      [.literal ['/'], .variable deviceNumber.toList, .wildcard], by decide⟩
  have hvars : Fillable vars := by decide
  have hcompile : Pattern.compile template .extract = .ok ⟨template, .extract, tokens template⟩ :=
    Pattern.compile_ok (by decide) (by decide) (by decide) .extract
  obtain ⟨_, hread⟩ := render_inverse hcompile hvars
  exact ⟨halone, hvars, by decide, hread halone _ rfl⟩

end DeviceGateway.Topic
