import DeviceGateway.Proofs.Text.Boundary
import DeviceGateway.Proofs.Topic.Template
/-!
Templates cut into tokens by their octets. A scanner goes through the octets one by one, with an
index at which plain text began and an index that it looks at, and cuts what it finds out of the
text between two indices. A cut fails unless both indices are boundaries. Each step of the scanner
goes on, and none fails, so it ends; and what it has found then is the tokens of the template.
-/
namespace DeviceGateway.Topic

open Utf8

/-! ### The scanner -/

/-- The text between two indices, which have to be in order and boundaries both. -/
def slice? (octets : Bytes) (start stop : Nat) : Option (List Char) :=
  if start ≤ stop ∧ isBoundary octets start ∧ isBoundary octets stop then
    text? (decode ((octets.take stop).drop start))
  else none

/-- The index of the first closing brace from an index on, if there is one. -/
def closing? (octets : Bytes) (index : Nat) : Option (Option Nat) := do
  let text ← slice? octets index octets.length
  return if '\x7d' ∈ text then some (index + (encode (text.takeWhile (· ≠ '\x7d'))).length)
    else none

def isNameOctet (b : UInt8) : Bool :=
  (48 ≤ b && b ≤ 57) || (65 ≤ b && b ≤ 90) || (97 ≤ b && b ≤ 122) || b = 95

/-- The name of the variable whose opening brace is before an index, and the index behind it. -/
def variableAt? (octets : Bytes) (index : Nat) : Option (Option (List Char × Nat)) := do
  match ← closing? octets index with
  | none => return none
  | some close =>
    let name ← slice? octets index close
    return if name ≠ [] ∧ (encode name).all isNameOctet then some (name, close + 1) else none

/-- Where the scanner stands: the index at which plain text began, the index that is looked at, and
the tokens so far. -/
structure Scan where
  literalStart : Nat := 0
  index : Nat := 0
  tokens : List Token := []

namespace Scan

variable {octets : Bytes} {s s' : Scan}

/-- The tokens so far, and the plain text up to an index if there is any. -/
def flush (octets : Bytes) (s : Scan) (stop : Nat) : Option (List Token) :=
  if s.literalStart < stop then do
    let text ← slice? octets s.literalStart stop
    return s.tokens ++ [.literal text]
  else s.tokens

/-- Goes on at an index with no plain text, behind a token that was found. -/
def emit (octets : Bytes) (s : Scan) (t : Token) (next : Nat) : Option Scan := do
  let tokens ← s.flush octets s.index
  return ⟨next, next, tokens ++ [t]⟩

/-- Leaves an octet to the plain text. -/
def skip (s : Scan) : Scan := { s with index := s.index + 1 }

/-- Looks at the next octet; none if a cut fails. -/
def step (octets : Bytes) (s : Scan) : Option Scan :=
  if octets[s.index]? = some 0x2B then s.emit octets .wildcard (s.index + 1)
  else if octets[s.index]? = some 0x7B then do
    match ← variableAt? octets (s.index + 1) with
    | some (name, next) => s.emit octets (.variable name) next
    | none => return s.skip
  else some s.skip

theorem step_of_wildcard (h : octets[s.index]? = some 0x2B) :
    s.step octets = s.emit octets .wildcard (s.index + 1) := if_pos h

theorem step_of_variable {name : List Char} {next : Nat} (h : octets[s.index]? = some 0x7B)
    (hfound : variableAt? octets (s.index + 1) = some (some (name, next))) :
    s.step octets = s.emit octets (.variable name) next := by
  unfold step
  rw [h, if_neg (by decide), if_pos rfl, hfound]
  rfl

theorem step_of_brace (h : octets[s.index]? = some 0x7B)
    (hfound : variableAt? octets (s.index + 1) = some none) : s.step octets = some s.skip := by
  unfold step
  rw [h, if_neg (by decide), if_pos rfl, hfound]
  rfl

theorem step_of_other (hplus : octets[s.index]? ≠ some 0x2B)
    (hbrace : octets[s.index]? ≠ some 0x7B) : s.step octets = some s.skip := by
  unfold step
  rw [if_neg hplus, if_neg hbrace]

theorem index_of_emit {t : Token} {next : Nat} (h : s.emit octets t next = some s') :
    s'.index = next := by
  obtain ⟨tokens, _, heq⟩ := Option.bind_eq_some_iff.mp h
  cases heq
  rfl

theorem index_le_of_variableAt? {index next : Nat} {name : List Char}
    (h : variableAt? octets index = some (some (name, next))) : index < next := by
  obtain ⟨close?, hclose, h⟩ := Option.bind_eq_some_iff.mp h
  obtain ⟨text, _, hfound⟩ := Option.bind_eq_some_iff.mp hclose
  cases hfound
  split at h
  · cases h
  · next close hfound =>
    obtain ⟨name', _, hname⟩ := Option.bind_eq_some_iff.mp h
    split at hfound
    · cases hfound
      split at hname
      · cases hname
        omega
      · cases hname
    · cases hfound

theorem index_lt_of_step (h : s.step octets = some s') : s.index < s'.index := by
  unfold step at h
  split at h
  · rw [index_of_emit h]
    exact Nat.lt_succ_self _
  split at h
  · obtain ⟨found, hfound, h⟩ := Option.bind_eq_some_iff.mp h
    split at h
    · rw [index_of_emit h]
      exact Nat.lt_of_succ_lt (index_le_of_variableAt? hfound)
    · cases h
      exact Nat.lt_succ_self _
  · cases h
    exact Nat.lt_succ_self _

/-- Takes steps to the end of the octets; what is left there is plain text. -/
def run (octets : Bytes) (s : Scan) : Option (List Token) :=
  if s.index < octets.length then
    match h : s.step octets with
    | some s' =>
      have _hlt := index_lt_of_step h
      s'.run octets
    | none => none
  else s.flush octets octets.length
termination_by octets.length - s.index

end Scan

/-- The tokens that the scanner finds in a template; none if a cut fails. -/
def scan? (template : String) : Option (List Token) :=
  ({} : Scan).run (Bytes.ofString template)

/-! ### Cuts -/

theorem slice?_encode (before text after : List Char) :
    slice? (encode (before ++ text ++ after)) (encode before).length
      (encode (before ++ text)).length = some text := by
  have hstart : isBoundary (encode (before ++ text ++ after)) (encode before).length = true := by
    refine isBoundary_encode_iff.mpr ⟨before, ?_, rfl⟩
    rw [List.append_assoc]
    exact List.prefix_append _ _
  have hstop : isBoundary (encode (before ++ text ++ after)) (encode (before ++ text)).length =
      true := isBoundary_encode_iff.mpr ⟨before ++ text, List.prefix_append _ _, rfl⟩
  have hcut : ((encode (before ++ text ++ after)).take (encode (before ++ text)).length).drop
      (encode before).length = encode text := by
    rw [encode_append (before ++ text), List.take_left', encode_append before, List.drop_left']
    · rfl
    · rfl
  unfold slice?
  rw [if_pos ⟨length_encode_le (List.prefix_append _ _), hstart, hstop⟩, hcut, decode_encode,
    text?_map_char]

theorem slice?_rest (before rest : List Char) :
    slice? (encode (before ++ rest)) (encode before).length (encode (before ++ rest)).length =
      some rest := by
  have hslice := slice?_encode before rest []
  rwa [List.append_nil] at hslice

theorem lt_of_isNameOctet {b : UInt8} (h : isNameOctet b = true) : b.toNat < 0x80 := by
  simp only [isNameOctet, Bool.or_eq_true, Bool.and_eq_true, decide_eq_true_eq,
    UInt8.le_iff_toNat_le] at h
  rcases h with ((⟨_, h⟩ | ⟨_, h⟩) | ⟨_, h⟩) | rfl
  · exact Nat.lt_of_le_of_lt h (by decide)
  · exact Nat.lt_of_le_of_lt h (by decide)
  · exact Nat.lt_of_le_of_lt h (by decide)
  · decide

theorem lt_of_isNameChar {c : Char} (h : isNameChar c = true) : c.toNat < 0x80 := by
  change (decide ('A'.val ≤ c.val ∧ c.val ≤ 'Z'.val) ||
    (decide ('a'.val ≤ c.val) && decide (c.val ≤ 'z'.val)) ||
    (decide ('0'.val ≤ c.val) && decide (c.val ≤ '9'.val)) || decide (c = '_')) = true at h
  simp only [Bool.or_eq_true, Bool.and_eq_true, decide_eq_true_eq] at h
  rcases h with ((⟨_, h⟩ | ⟨_, h⟩) | ⟨_, h⟩) | rfl
  · exact Nat.lt_of_le_of_lt h (by decide)
  · exact Nat.lt_of_le_of_lt h (by decide)
  · exact Nat.lt_of_le_of_lt h (by decide)
  · decide

theorem all_isNameOctet (c : Char) : (encodeChar c).all isNameOctet = isNameChar c := by
  rcases encodeChar_cases c with ⟨hascii, hc⟩ | ⟨hhigh, hoctets⟩
  · have hall : ∀ n : Fin 128, isNameOctet (.ofNat n.val) = isNameChar (.ofNat n.val) := by decide
    rw [hc, List.all_cons, List.all_nil, Bool.and_true, hall ⟨c.toNat, hascii⟩, Char.ofNat_toNat]
  · -- Neither the character nor its first octet is low enough for a name.
    obtain ⟨first, more, hc, _, _⟩ := exists_encodeChar_eq c
    have hfirst : isNameOctet first = false := by
      rw [Bool.eq_false_iff]
      intro h
      have hlow := lt_of_isNameOctet h
      have hoctet := hoctets first (hc ▸ List.mem_cons_self)
      omega
    have hchar : isNameChar c = false := by
      rw [Bool.eq_false_iff]
      intro h
      have hlow := lt_of_isNameChar h
      omega
    rw [hc, List.all_cons, hfirst, hchar, Bool.false_and]

theorem isName_iff {name : List Char} :
    name ≠ [] ∧ (encode name).all isNameOctet = true ↔ IsName name := by
  unfold encode IsName
  rw [List.all_flatMap]
  simp only [all_isNameOctet, List.all_eq_true]

/-! ### Names in braces -/

theorem closing?_encode (before rest : List Char) :
    closing? (encode (before ++ rest)) (encode before).length =
      some (if '\x7d' ∈ rest then
        some (encode (before ++ rest.takeWhile (· ≠ '\x7d'))).length else none) := by
  unfold closing?
  rw [slice?_rest]
  simp only [encode_append, List.length_append]
  rfl

theorem takeWhile_brace {text : List Char} (h : '\x7d' ∉ text) (after : List Char) :
    (text ++ '\x7d' :: after).takeWhile (· ≠ '\x7d') = text := by
  rw [List.takeWhile_append_of_pos, List.takeWhile_cons_of_neg (by decide), List.append_nil]
  intro c hc
  exact decide_eq_true fun heq => h (heq ▸ hc)

theorem variableName?_eq_none {text : List Char} (h : '\x7d' ∉ text) (after : List Char)
    (hname : ¬ IsName text) : variableName? (text ++ '\x7d' :: after) = none := by
  rw [Option.eq_none_iff_forall_ne_some]
  intro name hfound
  obtain ⟨hisName, rest, heq⟩ := eq_of_variableName? hfound
  have htake := congrArg (List.takeWhile (· ≠ '\x7d')) heq
  rw [takeWhile_brace h, takeWhile_brace (hisName.not_mem (by decide))] at htake
  exact hname (htake ▸ hisName)

/-- The scanner looks as far as the first closing brace, and finds just the names that there are. -/
theorem variableAt?_encode (before rest : List Char) :
    variableAt? (encode (before ++ rest)) (encode before).length =
      some ((variableName? rest).map fun name =>
        (name, (encode (before ++ name ++ ['\x7d'])).length)) := by
  unfold variableAt?
  rw [closing?_encode]
  by_cases hclose : '\x7d' ∈ rest
  · obtain ⟨text, after, rfl, hfirst⟩ := List.eq_append_cons_of_mem hclose
    have hslice := slice?_encode before text ('\x7d' :: after)
    rw [List.append_assoc] at hslice
    rw [if_pos hclose, takeWhile_brace hfirst]
    simp only [bind, Option.bind_some, hslice]
    by_cases hname : IsName text
    · rw [if_pos (isName_iff.mpr hname), variableName?_append hname, Option.map_some,
        encode_append (before ++ text), List.length_append]
      rfl
    · rw [if_neg (mt isName_iff.mp hname), variableName?_eq_none hfirst after hname]
      rfl
  · have hnone : variableName? rest = none := by
      rw [Option.eq_none_iff_forall_ne_some]
      intro name hfound
      obtain ⟨_, after, rfl⟩ := eq_of_variableName? hfound
      exact hclose List.mem_append_cons_self
    rw [if_neg hclose, hnone]
    rfl

theorem variableAt?_brace (before rest : List Char) :
    variableAt? (encode (before ++ '\x7b' :: rest)) ((encode before).length + 1) =
      some ((variableName? rest).map fun name =>
        (name, (encode (before ++ (Token.variable name).source)).length)) := by
  have hfound := variableAt?_encode (before ++ ['\x7b']) rest
  have hbrace : (encode (before ++ ['\x7b'])).length = (encode before).length + 1 := by
    rw [encode_append, List.length_append]
    rfl
  rw [hbrace, List.append_assoc, List.singleton_append] at hfound
  simpa [Token.source] using hfound

/-! ### Plain text that is yet to be cut off -/

def pending (plain : List Char) : List Token := if plain = [] then [] else [.literal plain]

theorem foldr_prepend {ts : List Token} (h : ∀ text rest, ts ≠ .literal text :: rest)
    (plain : List Char) : plain.foldr prepend ts = pending plain ++ ts := by
  induction plain with
  | nil => rfl
  | cons c plain ih =>
      rw [List.foldr_cons, ih]
      cases plain with
      | nil =>
          cases ts with
          | nil => rfl
          | cons t ts =>
              cases t with
              | literal text => exact absurd rfl (h text ts)
              | wildcard => rfl
              | «variable» name => rfl
      | cons d plain => rfl

namespace Scan

theorem flush_encode (passed plain rest : List Char) (tokens : List Token) (index : Nat) :
    flush (encode (passed ++ plain ++ rest)) ⟨(encode passed).length, index, tokens⟩
      (encode (passed ++ plain)).length = some (tokens ++ pending plain) := by
  unfold flush pending
  dsimp only
  rw [slice?_encode]
  by_cases hplain : plain = []
  · rw [hplain, List.append_nil, if_neg (Nat.lt_irrefl _), if_pos rfl, List.append_nil]
  · have hpos := length_encode_pos hplain
    rw [encode_append, List.length_append, if_pos (Nat.lt_add_of_pos_right hpos), if_neg hplain]
    rfl

theorem emit_encode (passed plain rest : List Char) (tokens : List Token) (t : Token)
    (next : Nat) :
    emit (encode (passed ++ plain ++ rest))
      ⟨(encode passed).length, (encode (passed ++ plain)).length, tokens⟩ t next =
      some ⟨next, next, tokens ++ pending plain ++ [t]⟩ := by
  unfold emit
  rw [flush_encode]
  rfl

end Scan

/-! ### Steps -/

/-- Where the scanner may stand in a text: behind what it has cut into tokens and behind plain text,
between two characters or within one that belongs to the plain text. With the tokens of what is to
come, those that it has found are the tokens of the text. -/
inductive Stands (text : List Char) : Scan → Prop
  | between {passed plain rest : List Char} {tokens : List Token}
      (htext : passed ++ plain ++ rest = text)
      (htokens : tokens ++ plain.foldr prepend (tokensFrom 0 rest) = tokensFrom 0 text) :
      Stands text ⟨(encode passed).length, (encode (passed ++ plain)).length, tokens⟩
  | within {passed plain rest : List Char} {tokens : List Token} {c : Char} {n : Nat}
      (hpos : 0 < n) (hn : n < (encodeChar c).length)
      (htext : passed ++ plain ++ c :: rest = text)
      (htokens : tokens ++ plain.foldr prepend (prepend c (tokensFrom 0 rest)) =
        tokensFrom 0 text) :
      Stands text ⟨(encode passed).length, (encode (passed ++ plain)).length + n, tokens⟩

namespace Stands

variable {text passed plain rest : List Char} {tokens : List Token} {c : Char} {n : Nat}

theorem start (text : List Char) : Stands text {} :=
  @between text [] [] text [] rfl rfl

/-- An octet of a plain character is left to the plain text. -/
theorem skip (hn : n < (encodeChar c).length) (htext : passed ++ plain ++ c :: rest = text)
    (htokens : tokens ++ plain.foldr prepend (prepend c (tokensFrom 0 rest)) =
      tokensFrom 0 text) :
    Stands text
      (Scan.skip ⟨(encode passed).length, (encode (passed ++ plain)).length + n, tokens⟩) := by
  rcases Nat.lt_or_eq_of_le (Nat.succ_le_of_lt hn) with hn | hn
  · exact within (Nat.succ_pos n) hn htext htokens
  · have hindex : (encode (passed ++ plain)).length + n + 1 =
        (encode (passed ++ (plain ++ [c]))).length := by
      rw [← List.append_assoc, encode_append (passed ++ plain), List.length_append,
        Nat.add_assoc, ← Nat.succ_eq_add_one, hn, encode_cons, encode_nil, List.append_nil]
    unfold Scan.skip
    rw [hindex]
    refine @between text passed (plain ++ [c]) rest tokens ?_ ?_
    · rw [← htext, List.append_assoc, List.append_assoc, List.append_assoc, List.singleton_append]
    · rw [List.foldr_append, List.foldr_cons, List.foldr_nil]
      exact htokens

/-- The scanner cuts off the plain text before a token, and goes on behind the token. -/
theorem emit {t : Token} (ht : t.isFree = true)
    (htext : passed ++ plain ++ (t.source ++ rest) = text)
    (htokens : tokens ++ plain.foldr prepend (t :: tokensFrom 0 rest) = tokensFrom 0 text) :
    ∃ s', Scan.emit (encode text)
        ⟨(encode passed).length, (encode (passed ++ plain)).length, tokens⟩ t
        (encode (passed ++ plain ++ t.source)).length = some s' ∧ Stands text s' := by
  have hfree : ∀ literal more, t :: tokensFrom 0 rest ≠ .literal literal :: more := by
    rintro literal more heq
    rw [(List.cons.inj heq).1] at ht
    cases ht
  have hstands := @between text (passed ++ plain ++ t.source) [] rest
    (tokens ++ pending plain ++ [t])
  rw [List.append_nil, List.append_assoc (passed ++ plain)] at hstands
  rw [← htext, Scan.emit_encode, htext]
  refine ⟨_, rfl, hstands htext ?_⟩
  rw [← htokens, foldr_prepend hfree, List.append_assoc, List.append_assoc]
  rfl

/-- A step of the scanner does not fail, and it stands right after it. -/
theorem step {s : Scan} (h : Stands text s) (hlt : s.index < (encode text).length) :
    ∃ s', s.step (encode text) = some s' ∧ Stands text s' := by
  cases h with
  | @within passed plain rest tokens c n hpos hn htext htokens =>
      -- No octet within a character is one of those that are looked for.
      have hother {b : UInt8} (hb : b.toNat < 0x80) :
          (encode text)[(encode (passed ++ plain)).length + n]? ≠ some b := by
        rw [← htext, getElem?_encode _ c rest hn]
        intro heq
        exact Nat.ne_of_gt hpos (eq_of_getElem?_encodeChar hb heq).1
      exact ⟨_, Scan.step_of_other (hother (by decide)) (hother (by decide)), skip hn htext htokens⟩
  | @between passed plain rest tokens htext htokens =>
      have hoctet {c : Char} {more : List Char} (hrest : rest = c :: more) :
          (encode text)[(encode (passed ++ plain)).length]? = (encodeChar c)[0]? := by
        rw [← htext, hrest]
        exact getElem?_encode (passed ++ plain) c more (length_encodeChar_pos c)
      induction rest using template_induction with
      | nil =>
          rw [← htext, List.append_nil] at hlt
          exact absurd hlt (Nat.lt_irrefl _)
      | wildcard rest _ =>
          rw [tokensFrom_wildcard] at htokens
          rw [Scan.step_of_wildcard (hoctet rfl)]
          have hnext : (encode (passed ++ plain)).length + 1 =
              (encode (passed ++ plain ++ Token.wildcard.source)).length := by
            rw [encode_append (passed ++ plain), List.length_append]
            rfl
          dsimp only
          rw [hnext]
          exact emit rfl htext htokens
      | named name rest hname _ =>
          rw [tokensFrom_variable hname] at htokens
          have hfound := variableAt?_brace (passed ++ plain) (name ++ '\x7d' :: rest)
          rw [htext, variableName?_append hname, Option.map_some] at hfound
          rw [Scan.step_of_variable (hoctet rfl) hfound]
          refine emit rfl ?_ htokens
          rw [← htext]
          simp [Token.source]
      | plain c rest hc _ =>
          rw [tokensFrom_plain hc] at htokens
          refine ⟨_, ?_, skip (length_encodeChar_pos c) htext htokens⟩
          by_cases hbrace : c = '\x7b'
          · subst hbrace
            have hfound := variableAt?_brace (passed ++ plain) rest
            rw [htext, hc.2 rfl, Option.map_none] at hfound
            exact Scan.step_of_brace (hoctet rfl) hfound
          · refine Scan.step_of_other ?_ ?_
            · rw [hoctet rfl]
              exact fun heq => hc.1 (eq_of_getElem?_encodeChar (by decide) heq).2
            · rw [hoctet rfl]
              exact fun heq => hbrace (eq_of_getElem?_encodeChar (by decide) heq).2

end Stands

/-- From where it stands right, the scanner comes to the tokens of the text. -/
theorem Scan.run_of_stands {text : List Char} {s : Scan} (h : Stands text s) :
    s.run (encode text) = some (tokensFrom 0 text) := by
  fun_induction run (encode text) s with
  | case1 s hlt s' hstep _ ih =>
      obtain ⟨after, hafter, hstands⟩ := h.step hlt
      cases hstep.symm.trans hafter
      exact ih hstands
  | case2 s hlt hstep =>
      obtain ⟨after, hafter, _⟩ := h.step hlt
      cases hstep.symm.trans hafter
  | case3 s hend =>
      cases h with
      | @within passed plain rest tokens c n hpos hn htext htokens =>
          rw [← htext, encode_append (passed ++ plain), encode_cons, List.length_append,
            List.length_append] at hend
          dsimp only at hend
          omega
      | @between passed plain rest tokens htext htokens =>
          cases rest with
          | nil =>
              have hflush := flush_encode passed plain [] tokens (encode (passed ++ plain)).length
              rw [List.append_nil] at htext hflush
              subst htext
              rw [hflush, ← htokens, tokensFrom_nil, foldr_prepend (by nofun), List.append_nil]
          | cons c rest =>
              refine absurd ?_ hend
              rw [← htext, encode_append (passed ++ plain), List.length_append]
              exact Nat.lt_add_of_pos_right (length_encode_pos (List.cons_ne_nil _ _))

/-- The scanner finds the tokens of a template, with no cut that fails. -/
theorem scan?_eq (template : String) : scan? template = some (tokens template) :=
  Scan.run_of_stands (.start template.toList)

end DeviceGateway.Topic
