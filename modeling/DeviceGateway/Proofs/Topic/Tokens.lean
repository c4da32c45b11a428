import DeviceGateway.Proofs.Topic.Scanner
import Mathlib.Data.List.Chain
/-!
The one way to cut a template. A template is cut as far as it can be: no plain text is left that
holds a wildcard or a variable, and none stands beside other plain text. Nothing is lost by it, and
there is no other way to do the same.
-/
namespace DeviceGateway.Topic

/-- Plain text that cannot be cut: it holds neither a wildcard nor a variable. -/
structure IsLiteral (text : List Char) : Prop where
  nonempty : text ≠ []
  noWildcard : '+' ∉ text
  noVariable : ∀ name, IsName name → ¬ (Token.variable name).source <:+: text

/-- Tokens that are cut as far as they can be. -/
structure WellCut (ts : List Token) : Prop where
  literals : ∀ text, .literal text ∈ ts → IsLiteral text
  names : ∀ name, .variable name ∈ ts → IsName name
  /-- Of two tokens in a row, one at least is no plain text. -/
  apart : ts.IsChain fun s t => s.isFree = true ∨ t.isFree = true

variable {text rest : List Char} {c : Char} {t : Token} {ts : List Token}

theorem isLiteral_cons (hc : IsPlain c rest) (htext : text <+: rest)
    (h : text = [] ∨ IsLiteral text) : IsLiteral (c :: text) where
  nonempty := List.cons_ne_nil _ _
  noWildcard := by
    rw [List.mem_cons, not_or]
    refine ⟨fun heq => hc.1 heq.symm, ?_⟩
    rcases h with rfl | h
    · exact List.not_mem_nil
    · exact h.noWildcard
  noVariable := by
    intro name hname hinfix
    rcases List.infix_cons_iff.mp hinfix with hprefix | hinfix
    · obtain ⟨hbrace, hbody⟩ := List.cons_prefix_cons.mp hprefix
      obtain ⟨after, hafter⟩ := hbody.trans htext
      have hrest : rest = name ++ '\x7d' :: after :=
        hafter.symm.trans (List.append_assoc name ['\x7d'] after)
      have hnone := hc.2 hbrace.symm
      rw [hrest, variableName?_append hname] at hnone
      cases hnone
    · rcases h with rfl | h
      · cases List.infix_nil.mp hinfix
      · exact h.noVariable name hname hinfix

namespace WellCut

theorem nil : WellCut [] := ⟨nofun, nofun, .nil⟩

theorem tail (h : WellCut (t :: ts)) : WellCut ts where
  literals text htext := h.literals text (List.mem_cons_of_mem t htext)
  names name hname := h.names name (List.mem_cons_of_mem t hname)
  apart := h.apart.tail

theorem literal (htext : IsLiteral text) (h : WellCut ts)
    (hfree : ∀ t ∈ ts.head?, t.isFree = true) : WellCut (.literal text :: ts) where
  literals other hother := by
    rcases List.mem_cons.mp hother with heq | hother
    · cases heq
      exact htext
    · exact h.literals other hother
  names name hname := h.names name (by simpa using hname)
  apart := List.isChain_cons.mpr ⟨fun t ht => .inr (hfree t ht), h.apart⟩

theorem free (ht : t.isFree = true) (hname : ∀ name, t = .variable name → IsName name)
    (h : WellCut ts) : WellCut (t :: ts) where
  literals text htext := by
    rcases List.mem_cons.mp htext with heq | htext
    · rw [← heq] at ht
      cases ht
    · exact h.literals text htext
  names name hmem := by
    rcases List.mem_cons.mp hmem with heq | hmem
    · exact hname name heq.symm
    · exact h.names name hmem
  apart := List.isChain_cons.mpr ⟨fun _ _ => .inl ht, h.apart⟩

theorem head_free (h : WellCut (.literal text :: ts)) : ∀ t ∈ ts.head?, t.isFree = true := by
  intro t ht
  rcases (List.isChain_cons.mp h.apart).1 t ht with hliteral | hfree
  · cases hliteral
  · exact hfree

theorem prepend (hc : IsPlain c (ts.flatMap Token.source)) (h : WellCut ts) :
    WellCut (Topic.prepend c ts) := by
  have halone (hfree : ∀ t ∈ ts.head?, t.isFree = true) : WellCut (.literal [c] :: ts) :=
    literal (isLiteral_cons hc List.nil_prefix (.inl rfl)) h hfree
  cases ts with
  | nil => exact halone nofun
  | cons t ts =>
      cases t with
      | literal text =>
          have htext := h.literals text List.mem_cons_self
          exact literal (isLiteral_cons hc (List.prefix_append _ _) (.inr htext)) h.tail h.head_free
      | wildcard => exact halone (by simp [Token.isFree])
      | «variable» name => exact halone (by simp [Token.isFree])

end WellCut

theorem wellCut_tokensFrom (text : List Char) : WellCut (tokensFrom 0 text) := by
  induction text using template_induction with
  | nil => exact .nil
  | wildcard rest ih =>
      rw [tokensFrom_wildcard]
      exact .free rfl nofun ih
  | named name rest hname ih =>
      rw [tokensFrom_variable hname]
      refine .free rfl ?_ ih
      rintro other ⟨⟩
      exact hname
  | plain c rest hc ih =>
      rw [tokensFrom_plain hc]
      exact .prepend ((flatMap_source rest).symm ▸ hc) ih

/-! ### No other way -/

/-- Text that holds neither a wildcard nor a variable is left together, up to a token that is no
plain text. -/
theorem tokensFrom_append {after : List Char} (hwildcard : '+' ∉ text)
    (hvariable : ∀ name, IsName name → ¬ (Token.variable name).source <:+: text)
    (hafter : ∀ c ∈ after.head?, c = '+' ∨ c = '\x7b') :
    tokensFrom 0 (text ++ after) = text.foldr prepend (tokensFrom 0 after) := by
  induction text with
  | nil => rfl
  | cons c text ih =>
      have hplain : IsPlain c (text ++ after) := by
        refine ⟨fun heq => hwildcard (heq ▸ List.mem_cons_self), ?_⟩
        rintro rfl
        rw [Option.eq_none_iff_forall_ne_some]
        intro name hfound
        obtain ⟨hname, more, hmore⟩ := eq_of_variableName? hfound
        have hwithin : ¬ name ++ ['\x7d'] <+: text := fun hin =>
          hvariable name hname (List.cons_prefix_cons.mpr ⟨rfl, hin⟩).isInfix
        rw [← List.singleton_append, ← List.append_assoc] at hmore
        rcases List.append_eq_append_iff.mp hmore with ⟨beyond, hbeyond, hmore⟩ | ⟨left, hleft, _⟩
        · cases beyond with
          | nil =>
              rw [List.append_nil] at hbeyond
              exact hwithin (hbeyond ▸ List.prefix_rfl)
          | cons d beyond =>
              -- Otherwise a token that is no plain text would begin within the variable.
              have hd : d ∈ name ++ ['\x7d'] := hbeyond ▸ List.mem_append_cons_self
              have hnot {e : Char} (he : isNameChar e = false) (hclose : e ≠ '\x7d') :
                  e ∉ name ++ ['\x7d'] := by
                rw [List.mem_append, List.mem_singleton]
                exact not_or_intro (hname.not_mem he) hclose
              rcases hafter d (hmore ▸ rfl) with rfl | rfl
              · exact hnot (by decide) (by decide) hd
              · exact hnot (by decide) (by decide) hd
        · exact hwithin ⟨left, hleft.symm⟩
      rw [List.cons_append, tokensFrom_plain hplain, List.foldr_cons, ih]
      · exact fun hmem => hwildcard (List.mem_cons_of_mem c hmem)
      · exact fun name hname hinfix => hvariable name hname (List.infix_cons hinfix)

/-- Tokens that are no plain text begin with a plus sign or an opening brace. -/
theorem head?_source (hfree : ∀ t ∈ ts.head?, t.isFree = true) :
    ∀ c ∈ (ts.flatMap Token.source).head?, c = '+' ∨ c = '\x7b' := by
  intro c hc
  cases ts with
  | nil => cases hc
  | cons t ts =>
      have ht := hfree t rfl
      cases t with
      | literal text => cases ht
      | wildcard =>
          cases hc
          exact .inl rfl
      | «variable» name =>
          cases hc
          exact .inr rfl

/-- Tokens that are cut as far as they can be are found again. -/
theorem tokensFrom_of_wellCut (h : WellCut ts) : tokensFrom 0 (ts.flatMap Token.source) = ts := by
  induction ts with
  | nil => rfl
  | cons t ts ih =>
      have ih := ih h.tail
      cases t with
      | wildcard => exact (tokensFrom_wildcard _).trans (congrArg _ ih)
      | «variable» name =>
          have hname := h.names name List.mem_cons_self
          have hsource : (Token.variable name :: ts).flatMap Token.source =
              '\x7b' :: (name ++ '\x7d' :: ts.flatMap Token.source) := by
            simp [Token.source]
          rw [hsource, tokensFrom_variable hname, ih]
      | literal text =>
          have htext := h.literals text List.mem_cons_self
          rw [List.flatMap_cons, Token.source,
            tokensFrom_append htext.noWildcard htext.noVariable (head?_source h.head_free), ih,
            foldr_prepend, pending, if_neg htext.nonempty, List.singleton_append]
          rintro other more rfl
          cases h.head_free _ rfl

/-- The scanner comes to the end of every template, cuts only at boundaries, and finds the tokens.
The texts of the tokens make up the template, as does what is rendered of it with no values. The
tokens are cut as far as they can be, and no others that are so make up the same template. -/
theorem tokens_canonical (template : String) :
    scan? template = some (tokens template) ∧
      (tokens template).flatMap Token.source = template.toList ∧ render template [] = template ∧
      WellCut (tokens template) ∧
      ∀ ts, WellCut ts → ts.flatMap Token.source = template.toList → ts = tokens template := by
  refine ⟨scan?_eq template, flatMap_source _, render_nil template, wellCut_tokensFrom _, ?_⟩
  intro ts hts hsource
  rw [tokens, ← hsource, tokensFrom_of_wellCut hts]

/-- A letter of two octets, and braces that nothing closes or that hold no name. -/
def jaggedTemplate : String := "\u00e9\x7b\x7bb_1\x7d+\x7b\x7d/"

theorem tokens_canonical_jagged :
    let ts : List Token := [.literal ['\u00e9', '\x7b'], .variable ['b', '_', '1'], .wildcard,
      .literal ['\x7b', '\x7d', '/']]
    scan? jaggedTemplate = some ts ∧ WellCut ts ∧ ts.flatMap Token.source = jaggedTemplate.toList ∧
      ts = tokens jaggedTemplate := by
  intro ts
  have htokens : tokens jaggedTemplate = ts := by decide +kernel
  obtain ⟨hscan, hsource, _, hcut, honly⟩ := tokens_canonical jaggedTemplate
  rw [htokens] at hscan hsource hcut
  exact ⟨hscan, hcut, hsource, honly ts hcut hsource⟩

end DeviceGateway.Topic
