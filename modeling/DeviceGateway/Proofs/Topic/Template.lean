import DeviceGateway.Topic.Template
/-!
How templates are cut into tokens. A template is empty, or begins with a wildcard, with a variable,
or with a plain character; nothing of it is lost.
-/
namespace DeviceGateway.Topic

/-- What may stand between the braces of a variable. -/
def IsName (name : List Char) : Prop := name ≠ [] ∧ ∀ c ∈ name, isNameChar c = true

theorem IsName.not_mem {name : List Char} (h : IsName name) {c : Char}
    (hc : isNameChar c = false) : c ∉ name := by
  intro hm
  have hn := h.2 c hm
  rw [hc] at hn
  cases hn

theorem variableName?_append {name : List Char} (h : IsName name) (rest : List Char) :
    variableName? (name ++ '\x7d' :: rest) = some name := by
  have htake : (name ++ '\x7d' :: rest).takeWhile isNameChar = name := by
    rw [List.takeWhile_append_of_pos h.2, List.takeWhile_cons_of_neg (by decide), List.append_nil]
  simp [variableName?, htake, h.1]

theorem eq_of_variableName? {text name : List Char} (h : variableName? text = some name) :
    IsName name ∧ ∃ rest, text = name ++ '\x7d' :: rest := by
  unfold variableName? at h
  dsimp only at h
  split at h
  · next hcond =>
    cases h
    refine ⟨⟨hcond.1, List.all_eq_true.mp List.all_takeWhile⟩, ?_⟩
    obtain ⟨rest, hrest⟩ : ∃ rest, text.drop (text.takeWhile isNameChar).length =
        '\x7d' :: rest := by
      cases hd : text.drop (text.takeWhile isNameChar).length with
      | nil => simp [hd] at hcond
      | cons c rest =>
          have hc : c = '\x7d' := by simpa [hd] using hcond.2
          exact ⟨rest, by rw [hc]⟩
    refine ⟨rest, ?_⟩
    rw [← hrest]
    exact (List.prefix_iff_eq_append.mp (List.takeWhile_prefix isNameChar)).symm
  · cases h

/-- Characters of a template that stand for themselves: all but the wildcard and the opening brace
of a variable. -/
def IsPlain (c : Char) (rest : List Char) : Prop :=
  c ≠ '+' ∧ (c = '\x7b' → variableName? rest = none)

theorem tokensFrom_eq_drop (k : Nat) (text : List Char) :
    tokensFrom k text = tokensFrom 0 (text.drop k) := by
  induction text generalizing k with
  | nil => simp [tokensFrom]
  | cons c rest ih =>
      cases k with
      | zero => rfl
      | succ k => exact ih k

@[simp] theorem tokensFrom_nil : tokensFrom 0 [] = [] := rfl

@[simp] theorem tokensFrom_wildcard (rest : List Char) :
    tokensFrom 0 ('+' :: rest) = .wildcard :: tokensFrom 0 rest := by
  simp [tokensFrom]

theorem tokensFrom_variable {name : List Char} (h : IsName name) (rest : List Char) :
    tokensFrom 0 ('\x7b' :: (name ++ '\x7d' :: rest)) = .variable name :: tokensFrom 0 rest := by
  have hdrop : (name ++ '\x7d' :: rest).drop (name.length + 1) = rest := by
    rw [← List.drop_drop]
    simp
  simp [tokensFrom, variableName?_append h rest, tokensFrom_eq_drop (name.length + 1), hdrop]

theorem tokensFrom_plain {c : Char} {rest : List Char} (h : IsPlain c rest) :
    tokensFrom 0 (c :: rest) = prepend c (tokensFrom 0 rest) := by
  by_cases hc : c = '\x7b'
  · simp [tokensFrom, hc, h.2 hc]
  · simp [tokensFrom, hc, h.1]

theorem template_induction {motive : List Char → Prop} (nil : motive [])
    (wildcard : ∀ rest, motive rest → motive ('+' :: rest))
    (named : ∀ name rest, IsName name → motive rest →
      motive ('\x7b' :: (name ++ '\x7d' :: rest)))
    (plain : ∀ c rest, IsPlain c rest → motive rest → motive (c :: rest))
    (text : List Char) : motive text := by
  induction hn : text.length using Nat.strongRecOn generalizing text with
  | ind n ih =>
      subst hn
      cases text with
      | nil => exact nil
      | cons c rest =>
          have hrest : motive rest := ih rest.length (Nat.lt_succ_self _) rest rfl
          by_cases hplus : c = '+'
          · exact hplus ▸ wildcard rest hrest
          by_cases hbrace : c = '\x7b'
          · cases hname : variableName? rest with
            | none => exact plain c rest ⟨hplus, fun _ => hname⟩ hrest
            | some name =>
                obtain ⟨hn, more, rfl⟩ := eq_of_variableName? hname
                subst hbrace
                refine named name more hn (ih more.length ?_ more rfl)
                simp only [List.length_cons, List.length_append]
                omega
          · exact plain c rest ⟨hplus, fun h => absurd h hbrace⟩ hrest

theorem flatMap_prepend (f : Token → List Char) (hf : ∀ text, f (.literal text) = text) (c : Char)
    (ts : List Token) : (prepend c ts).flatMap f = c :: ts.flatMap f := by
  unfold prepend
  split
  · simp [hf]
  · simp [hf]

theorem mem_prepend_variable {name : List Char} {c : Char} {ts : List Token} :
    .variable name ∈ prepend c ts ↔ .variable name ∈ ts := by
  unfold prepend
  split <;> simp

theorem isName_of_mem_tokensFrom {name text : List Char}
    (h : .variable name ∈ tokensFrom 0 text) : IsName name := by
  induction text using template_induction with
  | nil => cases h
  | wildcard rest ih =>
      rw [tokensFrom_wildcard] at h
      exact ih (by simpa using h)
  | named other rest hother ih =>
      rw [tokensFrom_variable hother, List.mem_cons] at h
      rcases h with heq | h
      · cases heq
        exact hother
      · exact ih h
  | plain c rest hc ih =>
      rw [tokensFrom_plain hc, mem_prepend_variable] at h
      exact ih h

/-- The texts of the tokens make up the template. -/
theorem flatMap_source (text : List Char) : (tokensFrom 0 text).flatMap Token.source = text := by
  induction text using template_induction with
  | nil => rfl
  | wildcard rest ih => simp [ih, Token.source]
  | named name rest hname ih => simp [tokensFrom_variable hname, ih, Token.source]
  | plain c rest hc ih => rw [tokensFrom_plain hc, flatMap_prepend _ (fun _ => rfl), ih]

theorem renderToken_nil : renderToken [] = Token.source := by
  funext t
  cases t <;> rfl

@[simp] theorem render_nil (template : String) : render template [] = template := by
  rw [render, renderToken_nil, tokens, flatMap_source, String.ofList_toList]

/-- A variable is filled in with something, if all values are. -/
theorem renderToken_variable_ne_nil {vars : List (String × String)} (h : ∀ v ∈ vars, v.2 ≠ "")
    (name : List Char) : renderToken vars (.variable name) ≠ [] := by
  change (valueOf? vars name).getD (Token.variable name).source ≠ []
  unfold valueOf?
  cases hfound : vars.find? fun v => v.1.toList = name with
  | none => exact List.cons_ne_nil _ _
  | some v =>
      intro hnil
      exact h v (List.mem_of_find?_eq_some hfound) (String.toList_eq_nil_iff.mp hnil)

theorem flatMap_renderToken_eq_nil_iff {vars : List (String × String)} (h : ∀ v ∈ vars, v.2 ≠ "")
    (text : List Char) : (tokensFrom 0 text).flatMap (renderToken vars) = [] ↔ text = [] := by
  induction text using template_induction with
  | nil => exact iff_of_true rfl rfl
  | wildcard rest _ => simp [renderToken, Token.source]
  | named name rest hname _ =>
      simp [tokensFrom_variable hname, renderToken_variable_ne_nil h name]
  | plain c rest hc _ =>
      rw [tokensFrom_plain hc, flatMap_prepend _ fun _ => rfl]
      exact iff_of_false (List.cons_ne_nil _ _) (List.cons_ne_nil _ _)

/-- Nothing but an empty template is rendered as an empty text. -/
theorem render_eq_empty_iff {vars : List (String × String)} (h : ∀ v ∈ vars, v.2 ≠ "")
    (template : String) : render template vars = "" ↔ template = "" := by
  rw [← String.toList_eq_nil_iff, ← String.toList_eq_nil_iff, render, String.toList_ofList]
  exact flatMap_renderToken_eq_nil_iff h template.toList

end DeviceGateway.Topic
