import DeviceGateway.Proofs.Json.Members
import DeviceGateway.Proofs.Mapping.Selection
import DeviceGateway.Proofs.Text.Utf8
/-!
A rule for a method passes on the parameters of a call as they were sent, octet for octet: whatever
else the call holds, in whatever order, and however its names and its method are spelled.
-/
namespace DeviceGateway.Mapping

open Json (Blank IsValue Member Spells braced)

/-- The texts of the values that members of a name have. -/
def valuesOf (n : String) (members : List (String × Member)) : List (List Char) :=
  (members.filter fun p => p.1 = n).map fun p => p.2.value.text

theorem valuesOf_cons_self (n : String) (m : Member) (members : List (String × Member)) :
    valuesOf n ((n, m) :: members) = m.value.text :: valuesOf n members := by
  simp [valuesOf]

theorem valuesOf_cons_ne {n k : String} (h : k ≠ n) (m : Member)
    (members : List (String × Member)) :
    valuesOf n ((k, m) :: members) = valuesOf n members := by
  simp [valuesOf, h]

/-- The octets of an object with these members, and of white space around it. -/
def objectPayload (lead : List Char) (members : List (String × Member)) (trail : List Char) :
    Bytes :=
  Utf8.encode (lead ++ (braced (members.map (·.2)) ++ trail))

/-- Among the members left a field is there once at most, and then it was not met before and its
text means `last`; if it is not there, `now` is what the field is in the end. -/
def Awaits {α : Type} (means : List Char → α → Prop) (n : String) (met : List String)
    (left : List (String × Member)) (now last : α) : Prop :=
  (valuesOf n left = [] ∧ now = last) ∨
    n ∉ met ∧ ∃ text, valuesOf n left = [text] ∧ means text last

namespace Awaits

variable {α : Type} {means : List Char → α → Prop} {n k : String} {met : List String} {m : Member}
  {left : List (String × Member)} {now last : α}

theorem eq_of_nil (h : Awaits means n met [] now last) : now = last := by
  rcases h with ⟨_, heq⟩ | ⟨_, text, hvalues, _⟩
  · exact heq
  · cases hvalues

theorem take (h : Awaits means n met ((n, m) :: left) now last) :
    n ∉ met ∧ means m.value.text last ∧ Awaits means n (n :: met) left last last := by
  rw [Awaits, valuesOf_cons_self] at h
  rcases h with ⟨hvalues, _⟩ | ⟨hmet, text, hvalues, hmeans⟩
  · cases hvalues
  · obtain ⟨rfl, hnone⟩ := List.cons.inj hvalues
    exact ⟨hmet, hmeans, .inl ⟨hnone, rfl⟩⟩

theorem ignore (h : Awaits means n met ((k, m) :: left) now last) (hne : k ≠ n) :
    Awaits means n met left now last := by
  rwa [Awaits, valuesOf_cons_ne hne] at h

theorem meet (h : Awaits means n met ((k, m) :: left) now last) (hne : k ≠ n) :
    Awaits means n (k :: met) left now last := by
  rcases h.ignore hne with hnone | ⟨hmet, hone⟩
  · exact .inl hnone
  · exact .inr ⟨by simp [hmet, hne.symm], hone⟩

end Awaits

namespace Call

def MeansString (text : List Char) (s : String) : Prop :=
  ∃ spelling, text = '"' :: (spelling ++ ['"']) ∧ Spells spelling s.toList

/-- Members are taken into a call, whichever of its fields comes first. -/
theorem exists_takesAll {members : List (String × Member)}
    (hmembers : ∀ p ∈ members, p.2.Spells p.1) {c last : Call} {met : List String}
    (hmethod : Awaits MeansString "method" met members c.method last.method)
    (hparams : Awaits (fun text p => p = some text) "params" met members c.params last.params) :
    ∃ met', Json.Reader.TakesAll (Json.Codec.takeMember fields Json.Codec.ignore) ⟨c, met⟩
      (members.map (·.2)) ⟨last, met'⟩ := by
  induction members generalizing c met with
  | nil =>
      have heq : c = last := by
        cases c
        cases last
        exact congrArg₂ Call.mk hmethod.eq_of_nil hparams.eq_of_nil
      exact ⟨met, heq ▸ .nil _⟩
  | cons p members ih =>
      obtain ⟨n, m⟩ := p
      obtain ⟨hm, hrest⟩ := List.forall_mem_cons.mp hmembers
      by_cases hisMethod : n = "method"
      · subst hisMethod
        obtain ⟨hmet, ⟨spelling, htext, hspells⟩, hmethod⟩ := hmethod.take
        have hread := Json.Reader.text_gives hm.spaced.value htext hspells
        have htakes : Json.Reader.Takes (Json.Codec.takeMember fields Json.Codec.ignore) ⟨c, met⟩ m
            ⟨{ c with method := last.method }, "method" :: met⟩ :=
          Json.Codec.takes_field rfl hmet hm.spaced hm.name (hread.map _) _
        obtain ⟨met', hmore⟩ := ih (c := { c with method := last.method }) hrest hmethod
          (hparams.meet (by decide))
        exact ⟨met', .cons hm.spaced htakes hmore⟩
      by_cases hisParams : n = "params"
      · subst hisParams
        obtain ⟨hmet, hmeans, hparams⟩ := hparams.take
        have hread := (Json.Reader.raw_gives hm.spaced.value hm.value).map some
        rw [← hmeans] at hread
        have htakes : Json.Reader.Takes (Json.Codec.takeMember fields Json.Codec.ignore) ⟨c, met⟩ m
            ⟨{ c with params := last.params }, "params" :: met⟩ :=
          Json.Codec.takes_field rfl hmet hm.spaced hm.name (hread.map _) _
        obtain ⟨met', hmore⟩ := ih (c := { c with params := last.params }) hrest
          (hmethod.meet (by decide)) hparams
        exact ⟨met', .cons hm.spaced htakes hmore⟩
      · have hfields : ∀ f ∈ fields, f.name ≠ n := by
          simp only [fields, List.forall_mem_cons]
          exact ⟨Ne.symm hisMethod, Ne.symm hisParams, nofun⟩
        obtain ⟨met', hmore⟩ := ih hrest (hmethod.ignore hisMethod) (hparams.ignore hisParams)
        exact ⟨met', .cons hm.spaced (Json.Codec.takes_ignored hfields hm _) hmore⟩

theorem ofPayload?_eq {members : List (String × Member)} (hmembers : ∀ p ∈ members, p.2.Spells p.1)
    {c : Call} {text : List Char} (hmethod : valuesOf "method" members = [text])
    (hmeans : MeansString text c.method)
    (hparams : valuesOf "params" members = c.params.toList) {lead trail : List Char}
    (hlead : Blank lead) (htrail : Blank trail) :
    ofPayload? (objectPayload lead members trail) = some c := by
  have hawaits : Awaits (fun text p => p = some text) "params" [] members none c.params := by
    cases hp : c.params with
    | none => exact .inl ⟨by rw [hparams, hp]; rfl, rfl⟩
    | some v => exact .inr ⟨List.not_mem_nil, v, by rw [hparams, hp]; rfl, rfl⟩
  obtain ⟨met, htakes⟩ := exists_takesAll (c := ⟨"", none⟩) hmembers
    (.inr ⟨List.not_mem_nil, text, hmethod, hmeans⟩) hawaits
  have hrequired : ∀ f ∈ fields, f.presence = .required → f.name ∈ met := by
    simp [fields, Json.Codec.Field.plain]
  have hdecode := Json.Codec.record_decode htakes hrequired hlead htrail
  unfold ofPayload?
  rw [objectPayload, Utf8.decode_encode]
  exact congrArg Except.toOption hdecode

end Call

/-- A call for the method of a rule, which is the first of those for it that the message may go by,
goes on with the text of its parameters as it stands, or else as an empty object. The call may hold
other members, in any order, and its names and its method may be spelled in any way. -/
theorem downRoute_narrows {lifetime : Nat} {b : Backend} {configId topic number : String}
    {rules : List Rule} (hrules : (Snapshot.get lifetime b configId .down).1 = .ok rules)
    {id : String} {r : Rule}
    (hfirst : (eligible rules topic number).find? (fun r => r.identifier = some id) = some r)
    {members : List (String × Member)} (hmembers : ∀ p ∈ members, p.2.Spells p.1)
    {method : List Char} (hmethod : valuesOf "method" members = ['"' :: (method ++ ['"'])])
    (hid : Spells method id.toList) {lead trail : List Char} (hlead : Blank lead)
    (htrail : Blank trail) :
    (∀ v, valuesOf "params" members = [v] →
      (downRoute lifetime b configId topic number (objectPayload lead members trail)).1 =
        .ok (some ⟨sourceFor number r, Utf8.encode v, r.id, true⟩)) ∧
    (valuesOf "params" members = [] →
      (downRoute lifetime b configId topic number (objectPayload lead members trail)).1 =
        .ok (some ⟨sourceFor number r, Utf8.encode ['\x7b', '\x7d'], r.id, true⟩)) := by
  have hroute (params : Option (List Char)) (hparams : valuesOf "params" members = params.toList) :
      (downRoute lifetime b configId topic number (objectPayload lead members trail)).1 =
        .ok (some ⟨sourceFor number r, Call.payload ⟨id, params⟩, r.id, true⟩) := by
    have hcall := Call.ofPayload?_eq (c := ⟨id, params⟩) hmembers hmethod ⟨method, rfl, hid⟩
      hparams hlead htrail
    have hcalled : callRoute? (some ⟨id, params⟩) number (eligible rules topic number) =
        some ⟨sourceFor number r, Call.payload ⟨id, params⟩, r.id, true⟩ := by
      simp only [callRoute?, Option.bind_eq_bind, Option.bind_some, hfirst, Call.payload]
      rfl
    rw [downRoute, Snapshot.ask_eq]
    simp only [hrules, Except.map, downRoute?, downRouteFrom_eq, hcall, hcalled, Option.some_or]
  exact ⟨fun v hv => hroute (some v) hv, hroute none⟩

def rebootRule : Rule :=
  { ruleUp with
    direction := .down, source := "vendor/{device_number}/reboot"
    target := "devices/command/{device_number}/+", dataIdentifier := some " reboot " }

def rebootStore : Backend := { rules := { rules := [rebootRule] } }

/-- Parameters with a name twice, and with a number that is not in its shortest form. -/
def rebootParams : List Char :=
  braced [⟨[], ['a'], [], ⟨[], ['1', '.', '0'], []⟩⟩, ⟨[' '], ['a'], [], ⟨[], Json.writeNull, []⟩⟩]

/-- The method, with its first letter by its number. -/
def rebootSpelling : List Char := "\\u0072eboot".toList

/-- Another member before the parameters, and the method behind them. -/
def rebootMembers : List (String × Member) :=
  [("x", ⟨[], ['x'], [' '], ⟨[' '], ['-', '9', 'e', '9', '9', '9'], [' ']⟩⟩),
    ("params", ⟨[' '], "params".toList, [], ⟨[' '], rebootParams, []⟩⟩),
    ("method", ⟨['\n'], "m\\u0065thod".toList, [], ⟨[], '"' :: (rebootSpelling ++ ['"']), []⟩⟩)]

theorem rebootParams_isValue : IsValue rebootParams := by
  have hname : Json.IsText ['a'] := .plain (by decide) (by decide) (by decide) .nil
  have hnumber : Json.IsNumber (['1'] ++ (['.', '0'] ++ [])) :=
    .unsigned (.digits (by decide) (by decide) (by decide)) (.digits (by decide)) .none
  refine .object (List.cons_ne_nil _ _) ?_ ?_ <;> simp only [List.forall_mem_cons]
  · exact ⟨⟨by decide, hname⟩, ⟨by decide, hname⟩, nofun⟩
  · exact ⟨.number hnumber, .null, nofun⟩

theorem rebootSpelling_spells : Spells rebootSpelling "reboot".toList := by
  have hunit : Json.HexUnit ['0', '0', '7', '2'] 'r'.toNat :=
    .digits (i := 0) (j := 0) (k := 7) (l := 2) (by decide) (by decide) (by decide) (by decide)
  have htail : Spells "eboot".toList "eboot".toList := .self (by decide)
  exact .number hunit htail

theorem rebootMembers_spell : ∀ p ∈ rebootMembers, p.2.Spells p.1 := by
  have hnumber : Json.IsNumber ('-' :: (['9'] ++ ([] ++ ['e', '9', '9', '9']))) :=
    .minus (.digits (by decide) (by decide) (by decide)) .none
      (.digits (.inl rfl) (.inl rfl) (by decide))
  have hunit : Json.HexUnit ['0', '0', '6', '5'] 'e'.toNat :=
    .digits (i := 0) (j := 0) (k := 6) (l := 5) (by decide) (by decide) (by decide) (by decide)
  have htail : Spells "thod".toList "thod".toList := .self (by decide)
  have hmethod : Spells "m\\u0065thod".toList "method".toList :=
    .plain (by decide) (by decide) (by decide) (.number hunit htail)
  simp only [rebootMembers, List.forall_mem_cons]
  exact ⟨⟨by decide, .self (by decide), .number hnumber⟩,
    ⟨by decide, .self (by decide), rebootParams_isValue⟩,
    ⟨by decide, hmethod, .text rebootSpelling_spells.isText⟩, nofun⟩

theorem downRoute_narrows_reboot :
    (Snapshot.get 60 rebootStore "c" .down).1 = .ok [rebootRule] ∧
    (eligible [rebootRule] "devices/command/n1/7" "n1").find?
        (fun r => r.identifier = some "reboot") = some rebootRule ∧
    valuesOf "method" rebootMembers = ['"' :: (rebootSpelling ++ ['"'])] ∧
    valuesOf "params" rebootMembers = [rebootParams] ∧
    objectPayload [' '] rebootMembers ['\n'] = Bytes.ofString (" \x7b\"x\" : -9e999 , " ++
      "\"params\": \x7b\"a\":1.0, \"a\":null\x7d,\n\"m\\u0065thod\":\"\\u0072eboot\"\x7d\n") ∧
    (downRoute 60 rebootStore "c" "devices/command/n1/7" "n1"
        (objectPayload [' '] rebootMembers ['\n'])).1 =
      .ok (some ⟨"vendor/n1/reboot", Bytes.ofString "\x7b\"a\":1.0, \"a\":null\x7d", 1, true⟩) := by
  have hrules : (Snapshot.get 60 rebootStore "c" .down).1 = .ok [rebootRule] := by decide +kernel
  have hfirst : (eligible [rebootRule] "devices/command/n1/7" "n1").find?
      (fun r => r.identifier = some "reboot") = some rebootRule := by decide +kernel
  have hmethod : valuesOf "method" rebootMembers = ['"' :: (rebootSpelling ++ ['"'])] := by
    decide +kernel
  have hparams : valuesOf "params" rebootMembers = [rebootParams] := by decide +kernel
  have hspace : Blank [' '] := by decide
  have hline : Blank ['\n'] := by decide
  refine ⟨hrules, hfirst, hmethod, hparams, by decide +kernel, ?_⟩
  exact (downRoute_narrows hrules hfirst rebootMembers_spell hmethod rebootSpelling_spells hspace
    hline).1 _ hparams

end DeviceGateway.Mapping
