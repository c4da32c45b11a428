import DeviceGateway.Proofs.Json.Elements
import DeviceGateway.Proofs.Json.Spans
import DeviceGateway.Proofs.Mapping.Narrowing
/-!
Which payloads are taken for calls. A text is read as a call just if it is an object that has the
method among its members, or else an array that begins with the method. Only such a payload goes
down by a rule for a method; any other goes as it is by a rule for no method, or it goes nowhere.
-/
namespace DeviceGateway.Mapping

open Json (Blank IsValue Item Member Spells braced commas)
open Json.Codec (Drafts FilledBy Fills IsArray IsRecord)
open Json.Reader (LedBy IsObject SpansValue)

/-- The first character of a text that is no white space. -/
def opening (text : List Char) : Option Char := (text.dropWhile Json.isSpace).head?

theorem opening_eq {lead : List Char} (hlead : Blank lead) {c : Char} (hc : Json.isSpace c = false)
    (rest : List Char) : opening (lead ++ c :: rest) = some c := by
  rw [opening, List.dropWhile_append_of_pos hlead, List.dropWhile_cons_of_neg (by simp [hc])]
  rfl

theorem opening_braced {lead : List Char} (hlead : Blank lead) (ms : List Member)
    (trail : List Char) : opening (lead ++ (braced ms ++ trail)) = some '\x7b' :=
  opening_eq hlead (by decide) _

namespace Awaits

variable {α : Type} {means : List Char → α → Prop} {n k : String} {met : List String} {m : Member}
  {left : List (String × Member)} {now next last : α}

theorem give (hmet : n ∉ met) (hmeans : means m.value.text next)
    (h : Awaits means n (n :: met) left next last) :
    Awaits means n met ((n, m) :: left) now last := by
  rcases h with ⟨hnone, rfl⟩ | ⟨hagain, _⟩
  · exact .inr ⟨hmet, m.value.text, by rw [valuesOf_cons_self, hnone], hmeans⟩
  · exact absurd List.mem_cons_self hagain

theorem pass (h : Awaits means n met left now last) (hne : k ≠ n) :
    Awaits means n met ((k, m) :: left) now last := by
  rwa [Awaits, valuesOf_cons_ne hne]

theorem unmeet (h : Awaits means n (k :: met) left now last) :
    Awaits means n met left now last := by
  rcases h with hnone | ⟨hmet, hone⟩
  · exact .inl hnone
  · exact .inr ⟨List.not_mem_of_not_mem_cons hmet, hone⟩

end Awaits

namespace Call

/-- What the text of a value makes of a call, by the name of the field that it is for. -/
def Sets (n : String) (c : Call) (text : List Char) (next : Call) : Prop :=
  (n = "method" ∧ ∃ s, MeansString text s ∧ next = { c with method := s }) ∨
    n = "params" ∧ next = { c with params := some text }

theorem field_spans : ∀ f ∈ fields, ∀ c,
    SpansValue (fun next text => Sets f.name c text next) (f.read c) := by
  simp only [fields, List.forall_mem_cons]
  refine ⟨fun c => ?_, fun c => ?_, List.forall_mem_nil _⟩
  · exact Json.Reader.text_spans.map _ fun s text hmeans => .inl ⟨rfl, s, hmeans, rfl⟩
  · have hparams : SpansValue (fun p text => p = some text) paramsCodec.read :=
      Json.Reader.raw_spans.map _ fun v text heq => by rw [heq]
    refine hparams.map _ ?_
    rintro _ text rfl
    exact .inr ⟨rfl, rfl⟩

/-- Members that lead to a call have each of its fields once at most. -/
theorem awaits_of_ledBy {d last : Json.Codec.Draft Call} {members : List (String × Member)}
    (h : LedBy (Drafts fields Sets) d members last) :
    Awaits MeansString "method" d.met members d.record.method last.record.method ∧
    Awaits (fun text p => p = some text) "params" d.met members d.record.params
      last.record.params := by
  induction h with
  | nil d => exact ⟨.inl ⟨rfl, rfl⟩, .inl ⟨rfl, rfl⟩⟩
  | cons hmember _ ih =>
      cases hmember with
      | field _ hmet hsets =>
          rcases hsets with ⟨hname, s, hmeans, rfl⟩ | ⟨hname, rfl⟩
          · rw [hname] at hmet ih ⊢
            exact ⟨.give hmet hmeans ih.1, ih.2.unmeet.pass (by decide)⟩
          · rw [hname] at hmet ih ⊢
            exact ⟨ih.1.unmeet.pass (by decide), .give hmet rfl ih.2⟩
      | ignored hnone =>
          simp only [fields, List.forall_mem_cons] at hnone
          exact ⟨ih.1.pass hnone.1.symm, ih.2.pass hnone.2.1.symm⟩

theorem exists_of_filledBy {items : List Item} {c : Call}
    (h : FilledBy Sets fields ⟨"", none⟩ items c) (hmethod : c.method ≠ "") :
    ∃ method, items.map Item.text = method :: c.params.toList ∧ MeansString method c.method := by
  unfold fields at h
  cases h with
  | nil => exact absurd rfl hmethod
  | cons hfirst hmore =>
      rcases hfirst with ⟨_, s, hmeans, rfl⟩ | ⟨hname, _⟩
      · cases hmore with
        | nil => exact ⟨_, rfl, hmeans⟩
        | cons hsecond hmore =>
            rcases hsecond with ⟨hname, _⟩ | ⟨_, rfl⟩
            · exact absurd hname (by decide)
            · cases hmore
              exact ⟨_, rfl, hmeans⟩
      · exact absurd hname (by decide)

/-- A text is an object that has the method of a call, and the parameters if there are any, among
its members, each of them once. -/
def InObject (c : Call) (text : List Char) : Prop :=
  ∃ lead members trail, Blank lead ∧ Blank trail ∧ (∀ p ∈ members, p.2.Spells p.1) ∧
    (∃ method, valuesOf "method" members = [method] ∧ MeansString method c.method) ∧
    valuesOf "params" members = c.params.toList ∧
    text = lead ++ (braced (members.map (·.2)) ++ trail)

/-- A text is an array of the method of a call, and then the parameters if there are any. -/
def InArray (c : Call) (text : List Char) : Prop :=
  ∃ (lead : List Char) (items : List Item) (trail : List Char), Blank lead ∧ Blank trail ∧
    (∀ i ∈ items, i.Spaced ∧ IsValue i.text) ∧
    (∃ method, items.map Item.text = method :: c.params.toList ∧ MeansString method c.method) ∧
    text = lead ++ '[' :: (commas (items.map Item.source) ++ ']' :: trail)

theorem InArray.opening_eq {c : Call} {text : List Char} (h : c.InArray text) :
    opening text = some '[' := by
  obtain ⟨lead, items, trail, hlead, _, _, _, rfl⟩ := h
  exact Mapping.opening_eq hlead (by decide) _

/-- A payload that is read as a call of a method is an object or an array that holds the call, where
a character stands for octets that are none. -/
theorem inObject_or_inArray {payload : Bytes} {c : Call} (h : ofPayload? payload = some c)
    (hmethod : c.method ≠ "") :
    c.InObject (Utf8.lossy (Utf8.decode payload)) ∨
      c.InArray (Utf8.lossy (Utf8.decode payload)) := by
  have hdecode : codec.decode (Utf8.decode payload) = .ok c := by
    unfold ofPayload? at h
    cases hread : codec.decode (Utf8.decode payload) with
    | error e =>
        rw [hread] at h
        cases h
    | ok c' =>
        rw [hread] at h
        exact congrArg _ (Option.some.inj h)
  obtain ⟨_, trail, ⟨lead, taken, hlead, hrecord, rfl⟩, htrail, htext⟩ :=
    Json.Codec.exists_of_decode (Json.Codec.record_spans field_spans ⟨"", none⟩) hdecode
  rw [htext]
  cases hrecord with
  | object hobject hled =>
      obtain ⟨hcalls, hparams⟩ := awaits_of_ledBy hled
      rcases hcalls with ⟨_, heq⟩ | ⟨_, method, hvalues, hmeans⟩
      · exact absurd heq.symm hmethod
      cases hobject with
      | empty hblank => cases hvalues
      | members _ hspells =>
          refine .inl ⟨lead, _, trail, hlead, htrail, hspells, ⟨method, hvalues, hmeans⟩, ?_,
            List.append_assoc lead _ trail⟩
          rcases hparams with ⟨hnone, heq⟩ | ⟨_, text, hone, heq⟩
          · rw [hnone, ← heq, Option.toList_none]
          · rw [hone, heq, Option.toList_some]
  | array harray hfilled =>
      obtain ⟨method, hitems, hmeans⟩ := exists_of_filledBy hfilled hmethod
      cases harray with
      | empty hblank => cases hitems
      | items _ hvalues =>
          refine .inr ⟨lead, _, trail, hlead, htrail, hvalues, ⟨method, hitems, hmeans⟩, ?_⟩
          simp

theorem InObject.ofPayload?_eq {c : Call} {text : List Char} (h : c.InObject text) :
    ofPayload? (Utf8.encode text) = some c := by
  obtain ⟨lead, members, trail, hlead, htrail, hspells, ⟨method, hvalues, hmeans⟩, hparams, rfl⟩ :=
    h
  exact Call.ofPayload?_eq hspells hvalues hmeans hparams hlead htrail

theorem fills_of_texts {c : Call} {items : List Item}
    (hitems : ∀ i ∈ items, i.Spaced ∧ IsValue i.text) {method : List Char}
    (htexts : items.map Item.text = method :: c.params.toList)
    (hmeans : MeansString method c.method) : Fills fields ⟨"", none⟩ items c := by
  obtain ⟨i, items, rfl, rfl, hparams⟩ := List.map_eq_cons_iff.mp htexts
  obtain ⟨⟨hspaced, hvalue⟩, hitems⟩ := List.forall_mem_cons.mp hitems
  obtain ⟨spelling, htext, hspells⟩ := hmeans
  have hrest : Fills (fields.drop 1) ⟨c.method, none⟩ items c := by
    cases hp : c.params with
    | none =>
        rw [hp] at hparams
        obtain rfl := List.map_eq_nil_iff.mp hparams
        have hcall : c = ⟨c.method, none⟩ := by rw [← hp]
        rw [hcall]
        exact .nil _ (by simp [fields, Json.Codec.Field.plain])
    | some v =>
        rw [hp] at hparams
        obtain ⟨k, more, rfl, rfl, hmore⟩ := List.map_eq_cons_iff.mp hparams
        obtain rfl := List.map_eq_nil_iff.mp hmore
        obtain ⟨⟨hspaced, hvalue⟩, _⟩ := List.forall_mem_cons.mp hitems
        refine .cons hspaced hvalue ?_ (.nil c (List.forall_mem_nil _))
        intro j hj heq
        have hraw := (Json.Reader.raw_gives hj (heq ▸ hvalue)).map some
        rw [heq, ← hp] at hraw
        exact hraw.map _
  refine .cons hspaced hvalue ?_ hrest
  intro j hj heq
  exact (Json.Reader.text_gives hj (heq.trans htext) hspells).map _

theorem InArray.ofPayload?_eq {c : Call} {text : List Char} (h : c.InArray text) :
    ofPayload? (Utf8.encode text) = some c := by
  obtain ⟨lead, items, trail, hlead, htrail, hitems, ⟨method, htexts, hmeans⟩, rfl⟩ := h
  have hne : items ≠ [] := by
    rintro rfl
    cases htexts
  have hdecode := (fills_of_texts hitems htexts hmeans).decode_eq hne hlead htrail
  unfold ofPayload?
  rw [Utf8.decode_encode]
  exact congrArg Except.toOption hdecode

/-- A text is read as a call of a method just if it is an object or an array that holds the call. -/
theorem ofPayload?_eq_some_iff {c : Call} (hmethod : c.method ≠ "") {text : List Char} :
    ofPayload? (Utf8.encode text) = some c ↔ c.InObject text ∨ c.InArray text := by
  constructor
  · intro h
    have hheld := inObject_or_inArray h hmethod
    rwa [Utf8.decode_encode, Utf8.lossy_map_char] at hheld
  · rintro (hobject | harray)
    · exact hobject.ofPayload?_eq
    · exact harray.ofPayload?_eq

end Call

/-- How a route takes a payload: by a rule for the method of the call that the payload holds, with
the parameters of the call; or as it is, by a rule for no method in particular. -/
inductive Conveys (rules : List Rule) (topic number : String) (payload : Bytes) : Route → Prop
  | call {r : Rule} {c : Call} : r ∈ eligible rules topic number → r.identifier = some c.method →
      c.InObject (Utf8.lossy (Utf8.decode payload)) ∨
        c.InArray (Utf8.lossy (Utf8.decode payload)) →
      Conveys rules topic number payload ⟨sourceFor number r, c.payload, r.id, true⟩
  | plain {r : Rule} : r ∈ eligible rules topic number → r.identifier = none →
      Conveys rules topic number payload ⟨sourceFor number r, payload, r.id, false⟩

theorem conveys_of_downRoute? {rules : List Rule} {topic number : String} {payload : Bytes}
    {route : Route} (h : downRoute? rules topic number payload = some route) :
    Conveys rules topic number payload route := by
  rw [downRoute?, downRouteFrom_eq, Option.none_or, Option.or_eq_some_iff] at h
  rcases h with h | ⟨_, h⟩
  · obtain ⟨c, hcall, h⟩ := Option.bind_eq_some_iff.mp h
    obtain ⟨r, hr, h⟩ := Option.bind_eq_some_iff.mp h
    cases h
    have hid : r.identifier = some c.method := by simpa using List.find?_some hr
    exact .call (List.mem_of_find?_eq_some hr) hid
      (Call.inObject_or_inArray hcall (Rule.identifier_eq_some_iff.mp hid).1)
  · obtain ⟨r, hr, rfl⟩ := Option.map_eq_some_iff.mp h
    exact .plain (List.mem_of_find?_eq_some hr) (by simpa using List.find?_some hr)

theorem exists_route_of_call {rules : List Rule} {topic number : String} {payload : Bytes}
    {c : Call} (hcall : Call.ofPayload? payload = some c) {r : Rule}
    (hr : r ∈ eligible rules topic number) (hid : r.identifier = some c.method) :
    ∃ route, downRoute? rules topic number payload = some route ∧ route.byMethod = true := by
  obtain ⟨first, hfirst⟩ : ∃ first, (eligible rules topic number).find?
      (fun r => r.identifier = some c.method) = some first :=
    Option.isSome_iff_exists.mp (List.find?_isSome.mpr ⟨r, hr, by simpa using hid⟩)
  refine ⟨⟨sourceFor number first, c.payload, first.id, true⟩, ?_, rfl⟩
  rw [downRoute?, downRouteFrom_eq, hcall]
  simp only [callRoute?, Option.bind_eq_bind, Option.bind_some, hfirst]
  rfl

/-- A message that goes down goes by one of the rules that it may go by: as it is, or as a call that
its payload holds, and then the payload is an object unless it is text that opens with a bracket.
A text goes down as a call just if there is a rule for the method of a call that it holds. -/
theorem downRoute_recognizes (lifetime : Nat) (b : Backend) (configId topic number : String)
    (payload : Bytes) :
    (∀ route, (downRoute lifetime b configId topic number payload).1 = .ok (some route) →
      ∃ rules, (Snapshot.get lifetime b configId .down).1 = .ok rules ∧
        Conveys rules topic number payload route ∧
        ∀ text, payload = Utf8.encode text → opening text ≠ some '[' → route.byMethod = true →
          ∃ r ∈ eligible rules topic number, ∃ c : Call, r.identifier = some c.method ∧
            c.InObject text ∧ route = ⟨sourceFor number r, c.payload, r.id, true⟩) ∧
    ∀ text, payload = Utf8.encode text →
      ((∃ route, (downRoute lifetime b configId topic number payload).1 = .ok (some route) ∧
          route.byMethod = true) ↔
        ∃ rules, (Snapshot.get lifetime b configId .down).1 = .ok rules ∧
          ∃ r ∈ eligible rules topic number, ∃ c : Call, r.identifier = some c.method ∧
            (c.InObject text ∨ c.InArray text)) := by
  rw [downRoute, Snapshot.ask_eq]
  cases (Snapshot.get lifetime b configId .down).1 with
  | error e =>
      refine ⟨fun route hroute => ?_, fun text _ => ⟨?_, ?_⟩⟩
      · cases hroute
      · rintro ⟨route, hroute, _⟩
        cases hroute
      · rintro ⟨rules, hrules, _⟩
        cases hrules
  | ok rules =>
      constructor
      · intro route hroute
        have hconveys := conveys_of_downRoute? (Except.ok.inj hroute)
        refine ⟨rules, rfl, hconveys, ?_⟩
        rintro text rfl hopening hmethod
        cases hconveys with
        | plain _ _ => cases hmethod
        | call hr hid hheld =>
            rw [Utf8.decode_encode, Utf8.lossy_map_char] at hheld
            rcases hheld with hobject | harray
            · exact ⟨_, hr, _, hid, hobject, rfl⟩
            · exact absurd harray.opening_eq hopening
      · rintro text rfl
        constructor
        · rintro ⟨route, hroute, hmethod⟩
          refine ⟨rules, rfl, ?_⟩
          cases conveys_of_downRoute? (Except.ok.inj hroute) with
          | plain _ _ => cases hmethod
          | call hr hid hheld =>
              rw [Utf8.decode_encode, Utf8.lossy_map_char] at hheld
              exact ⟨_, hr, _, hid, hheld⟩
        · rintro ⟨_, hrules, r, hr, c, hid, hheld⟩
          cases hrules
          have hnamed : c.method ≠ "" := (Rule.identifier_eq_some_iff.mp hid).1
          have hcall := (Call.ofPayload?_eq_some_iff hnamed).mpr hheld
          obtain ⟨route, hroute, hmethod⟩ := exists_route_of_call hcall hr hid
          exact ⟨route, congrArg Except.ok hroute, hmethod⟩

theorem downRoute_recognizes_reboot :
    (downRoute 60 rebootStore "c" "devices/command/n1/7" "n1"
        (objectPayload [' '] rebootMembers ['\n'])).1 =
      .ok (some ⟨"vendor/n1/reboot", Utf8.encode rebootParams, 1, true⟩) ∧
    opening ([' '] ++ (braced (rebootMembers.map (·.2)) ++ ['\n'])) ≠ some '[' ∧
    ∃ c : Call, c.method = "reboot" ∧
      c.InObject ([' '] ++ (braced (rebootMembers.map (·.2)) ++ ['\n'])) := by
  have hroute : (downRoute 60 rebootStore "c" "devices/command/n1/7" "n1"
      (objectPayload [' '] rebootMembers ['\n'])).1 =
        .ok (some ⟨"vendor/n1/reboot", Utf8.encode rebootParams, 1, true⟩) := by decide +kernel
  have hopening : opening ([' '] ++ (braced (rebootMembers.map (·.2)) ++ ['\n'])) ≠ some '[' := by
    decide +kernel
  obtain ⟨rules, hrules, _, hheld⟩ := (downRoute_recognizes 60 rebootStore "c"
    "devices/command/n1/7" "n1" (objectPayload [' '] rebootMembers ['\n'])).1 _ hroute
  obtain ⟨r, hr, c, hid, hobject, _⟩ := hheld _ rfl hopening rfl
  have hstored : (Snapshot.get 60 rebootStore "c" .down).1 = .ok [rebootRule] := by decide +kernel
  obtain rfl := Except.ok.inj (hrules.symm.trans hstored)
  obtain rfl := List.mem_singleton.mp (List.mem_filter.mp hr).1
  have hreboot : rebootRule.identifier = some "reboot" := by decide +kernel
  exact ⟨hroute, hopening, c, Option.some.inj (hid.symm.trans hreboot), hobject⟩

/-- An array of a vendor's that begins with the method is taken for a call. -/
theorem downRoute?_bracketed :
    downRoute? [rebootRule] "devices/command/n1/7" "n1"
        (Bytes.ofString "[\"reboot\",\x7b\"x\":1\x7d]") =
      some ⟨"vendor/n1/reboot", Bytes.ofString "\x7b\"x\":1\x7d", 1, true⟩ ∧
    ∀ lead members trail, Blank lead →
      Bytes.ofString "[\"reboot\",\x7b\"x\":1\x7d]" ≠ objectPayload lead members trail := by
  refine ⟨by decide +kernel, ?_⟩
  intro lead members trail hlead heq
  have htext := congrArg opening (Utf8.encode_injective heq)
  rw [opening_braced hlead] at htext
  exact absurd htext (by decide +kernel)

end DeviceGateway.Mapping
