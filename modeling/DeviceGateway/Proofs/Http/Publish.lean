import DeviceGateway.Http.Api
import DeviceGateway.Proofs.Run
import DeviceGateway.Proofs.Text.Base64
/-!
Messages published over HTTP. The payload of a body is plain text or Base64, and either way it
spells at most one octet string: that one goes through the pipeline and its answer is what the
pipeline makes of it. A body that spells none is turned down without a look at the gateway.
-/
namespace DeviceGateway.Http

/-- The octets that the payload of a body spells. -/
def Body.Spells (r : Body) (octets : Bytes) : Prop :=
  match r.encoding with
  | .plain => octets = Bytes.ofString r.payload
  | .base64 => Base64.Written octets (Bytes.ofString r.payload)

/-- The same body with its payload in Base64. -/
def Body.inBase64 (r : Body) : Body :=
  { r with encoding := .base64, payload := Base64.text (Bytes.ofString r.payload) }

def Response.text? (answer : Response) (name : String) : Option String :=
  match (answer.body.bind (Json.get? "data")).bind (Json.get? name) with
  | some (.text s) => some s
  | _ => none

/-- An answer tells what became of a message, with the octets that go on in Base64. -/
inductive Response.Carries (answer : Response) : Delivery → Prop
  | deliver {octets : Bytes} {s : String} : answer.text? "action" = some "deliver" →
      answer.text? "payload" = some s → Base64.Written octets (Bytes.ofString s) →
      answer.Carries (.deliver octets)
  | discarded {topic s : String} {octets : Bytes} : answer.text? "action" = some "discard" →
      answer.text? "target_topic" = some topic → answer.text? "payload" = some s →
      Base64.Written octets (Bytes.ofString s) → answer.Carries (.discarded topic octets)

/-- The answer for a message, and what is left after it, as the pipeline has them. -/
def relayed (p : Pipeline) (b : Backend) (client : Client) (topic : String) (payload : Bytes) :
    Response × Backend :=
  (.delivery (p.publish b client topic payload).1, (p.publish b client topic payload).2)

/-- A request to publish whose body is read as a message and the client that it is from. -/
structure Publishes (req : Request) (r : Body) (client : Client) : Prop where
  path : Route.ofPath? (Route.plainPath req.path) = some .publish
  method : req.method = "POST"
  media : ∃ m ∈ req.contentType.bind MediaType.ofHeader?, m.isJson = true
  size : req.body.length ≤ maxBody
  body : (Body.read [Body.topicField, Body.payloadField, Body.encodingField]).first?
    (Utf8.decode req.body) = .ok (r, client)

variable {req : Request} {r : Body} {client : Client}

/-! ### The payload of a body -/

theorem payloadOf_eq_ok_iff {octets : Bytes} : payloadOf r = .ok octets ↔ r.Spells octets := by
  unfold payloadOf Body.Spells
  cases r.encoding with
  | plain => exact ⟨fun h => (Except.ok.inj h).symm, fun h => congrArg Except.ok h.symm⟩
  | base64 => exact Base64.decode?_eq_ok_iff

theorem Body.Spells.unique {octets octets' : Bytes} (h : r.Spells octets)
    (h' : r.Spells octets') : octets = octets' :=
  Except.ok.inj ((payloadOf_eq_ok_iff.mpr h).symm.trans (payloadOf_eq_ok_iff.mpr h'))

theorem payloadOf_congr {r r' : Body} (hencoding : r.encoding = r'.encoding)
    (hpayload : r.payload = r'.payload) : payloadOf r = payloadOf r' := by
  rw [payloadOf, payloadOf, hencoding, hpayload]

theorem written_text (octets : Bytes) :
    Base64.Written octets (Bytes.ofString (Base64.text octets)) := by
  rw [Base64.ofString_text]
  exact Base64.written_encode octets

theorem payloadOf_inBase64 (hplain : r.encoding = .plain) :
    payloadOf r.inBase64 = payloadOf r := by
  have hspells : r.inBase64.Spells (Bytes.ofString r.payload) := written_text _
  rw [payloadOf_eq_ok_iff.mpr hspells, payloadOf, hplain]

/-! ### Answers -/

theorem publish_of_spells (p : Pipeline) (b : Backend) (client : Client) {octets : Bytes}
    (h : r.Spells octets) : publish p b client r = relayed p b client r.topic octets := by
  rw [publish, payloadOf_eq_ok_iff.mpr h, relayed]

/-- A payload that spells nothing is answered for alike in every state. -/
theorem exists_invalid (h : ∀ octets, ¬ r.Spells octets) :
    ∃ message, ∀ (p : Pipeline) (b : Backend) (client : Client),
      publish p b client r = (.invalid message, b) := by
  cases hread : payloadOf r with
  | ok octets => exact absurd (payloadOf_eq_ok_iff.mp hread) (h octets)
  | error fault =>
      refine ⟨"invalid base64 payload: " ++ fault.message, ?_⟩
      intro p b client
      rw [publish, hread]

/-- What is done about a message depends on its client, its topic and the octets it spells. -/
theorem publish_congr (p : Pipeline) (b : Backend) (client : Client) {r r' : Body}
    (htopic : r.topic = r'.topic) (hpayload : payloadOf r = payloadOf r') :
    publish p b client r = publish p b client r' := by
  rw [publish, publish, htopic, hpayload]

theorem Response.delivery_status_ne (d : Delivery) : (Response.delivery d).status ≠ 400 := by
  cases d with
  | deliver payload => exact nofun
  | discarded topic payload => exact nofun
  | rejected refusal => cases refusal <;> exact nofun

theorem Response.delivery_carries {d : Delivery} (h : (Response.delivery d).status = 200) :
    (Response.delivery d).Carries d := by
  cases d with
  | deliver payload => exact .deliver rfl rfl (written_text payload)
  | discarded topic payload => exact .discarded rfl rfl rfl (written_text payload)
  | rejected refusal => cases refusal <;> exact nomatch h

theorem Publishes.respond_eq (h : Publishes req r client) (p : Pipeline) (b : Backend) :
    respond p b req = publish p b client r := by
  obtain ⟨m, hmedia, hjson⟩ := h.media
  have hallows : Route.allows .publish req.method = true := by rw [h.method]; rfl
  have hhead : req.method ≠ "HEAD" := by rw [h.method]; decide
  simp only [respond, h.path, hallows, Bool.not_true, Bool.false_eq_true, if_false, hhead,
    handle, withBody, Option.mem_def.mp hmedia, hjson, if_neg h.size.not_gt, h.body]

/-- A payload in Base64 is taken exactly if it is the Base64 of some octets, and the answer and all
that is done are then those of the pipeline for these octets; otherwise the answer is the same
whatever there is, and nothing is touched. Plain text is taken as the Base64 of its octets would
be. An answer of success carries the octets that the pipeline delivers or diverts. -/
theorem publish_exact (h : Publishes req r client) :
    (r.encoding = .base64 →
      (∀ octets, Base64.Written octets (Bytes.ofString r.payload) →
        ∀ (p : Pipeline) (b : Backend),
          respond p b req = relayed p b client r.topic octets) ∧
      ((∀ octets, ¬ Base64.Written octets (Bytes.ofString r.payload)) →
        ∃ answer : Response, answer.status = 400 ∧
          ∀ (p : Pipeline) (b : Backend), respond p b req = (answer, b)) ∧
      ∀ (p : Pipeline) (b : Backend), (respond p b req).1.status ≠ 400 ↔
        ∃ octets, Base64.Written octets (Bytes.ofString r.payload)) ∧
    (r.encoding = .plain → ∀ (p : Pipeline) (b : Backend),
      respond p b req = relayed p b client r.topic (Bytes.ofString r.payload) ∧
      respond p b req = publish p b client r.inBase64 ∧
      ∀ (req' : Request) (r' : Body), Publishes req' r' client → r'.encoding = .base64 →
        r'.topic = r.topic → r'.payload = Base64.text (Bytes.ofString r.payload) →
        respond p b req = respond p b req') ∧
    ∀ (p : Pipeline) (b : Backend), (respond p b req).1.status = 200 →
      ∃ octets, r.Spells octets ∧
        (respond p b req).1.Carries (p.publish b client r.topic octets).1 := by
  refine ⟨?_, ?_, ?_⟩
  · intro hencoding
    have hspells : ∀ octets, r.Spells octets ↔
        Base64.Written octets (Bytes.ofString r.payload) := by
      intro octets
      rw [Body.Spells, hencoding]
    refine ⟨?_, ?_, ?_⟩
    · intro octets hwritten p b
      rw [h.respond_eq, publish_of_spells p b client ((hspells octets).mpr hwritten)]
    · intro hnone
      obtain ⟨message, hinvalid⟩ :=
        exists_invalid fun octets hoctets => hnone octets ((hspells octets).mp hoctets)
      refine ⟨.invalid message, rfl, ?_⟩
      intro p b
      rw [h.respond_eq, hinvalid]
    · intro p b
      rw [h.respond_eq]
      constructor
      · intro hstatus
        by_contra hnone
        obtain ⟨message, hinvalid⟩ :=
          exists_invalid fun octets hoctets => hnone ⟨octets, (hspells octets).mp hoctets⟩
        rw [hinvalid] at hstatus
        exact hstatus rfl
      · rintro ⟨octets, hwritten⟩
        rw [publish_of_spells p b client ((hspells octets).mpr hwritten)]
        exact Response.delivery_status_ne _
  · intro hencoding p b
    have hspells : r.Spells (Bytes.ofString r.payload) := by rw [Body.Spells, hencoding]
    have hbase64 : respond p b req = publish p b client r.inBase64 := by
      rw [h.respond_eq]
      exact publish_congr p b client rfl (payloadOf_inBase64 hencoding).symm
    refine ⟨?_, hbase64, ?_⟩
    · rw [h.respond_eq, publish_of_spells p b client hspells]
    · intro req' r' h' hencoding' htopic hpayload
      rw [hbase64, h'.respond_eq]
      exact publish_congr p b client htopic.symm
        (payloadOf_congr hencoding'.symm hpayload.symm)
  · intro p b hstatus
    rw [h.respond_eq] at hstatus ⊢
    by_cases hoctets : ∃ octets, r.Spells octets
    · obtain ⟨octets, hspells⟩ := hoctets
      rw [publish_of_spells p b client hspells] at hstatus ⊢
      exact ⟨octets, hspells, Response.delivery_carries hstatus⟩
    · obtain ⟨message, hinvalid⟩ := exists_invalid fun octets hs => hoctets ⟨octets, hs⟩
      rw [hinvalid] at hstatus
      exact nomatch hstatus

def greeting : Request where
  method := "POST"
  path := "/hooks/publish"
  contentType := some "application/json"
  body := Bytes.ofString ("\x7b\"client_id\":\"k\",\"username\":\"root\",\"topic\":\"t\"," ++
    "\"payload\":\"aGk=\",\"encoding\":\"base64\"\x7d")

theorem publishes_greeting : ∃ r, Publishes greeting r ⟨"k", "root"⟩ ∧ r.topic = "t" ∧
    r.payload = "aGk=" ∧ r.encoding = .base64 := by
  have hread : ((Body.read [Body.topicField, Body.payloadField, Body.encodingField]).first?
      (Utf8.decode greeting.body)).toOption.map
        (fun p => (p.1.topic, p.1.payload, p.1.encoding, p.2)) =
      some ("t", "aGk=", .base64, ⟨"k", "root"⟩) := by
    decide +kernel
  cases hbody : (Body.read [Body.topicField, Body.payloadField, Body.encodingField]).first?
      (Utf8.decode greeting.body) with
  | error fault =>
      rw [hbody] at hread
      cases hread
  | ok message =>
      obtain ⟨r, client⟩ := message
      rw [hbody] at hread
      simp only [Except.toOption, Option.map_some, Option.some.injEq, Prod.mk.injEq] at hread
      obtain ⟨htopic, hpayload, hencoding, rfl⟩ := hread
      have hmedia : (greeting.contentType.bind MediaType.ofHeader?).any (·.isJson) = true := by
        decide +kernel
      obtain ⟨m, hm, hjson⟩ := (Option.any_eq_true _ _).mp hmedia
      have hpath : Route.ofPath? (Route.plainPath greeting.path) = some .publish := by
        decide +kernel
      have hsize : greeting.body.length ≤ maxBody := by decide +kernel
      exact ⟨r, ⟨hpath, rfl, ⟨m, hm, hjson⟩, hsize, hbody⟩, htopic, hpayload, hencoding⟩

theorem publish_exact_greeting : ∃ r, Publishes greeting r ⟨"k", "root"⟩ ∧
    respond ⟨[], lampGate⟩ lampBackend greeting =
      relayed ⟨[], lampGate⟩ lampBackend ⟨"k", "root"⟩ "t" [104, 105] ∧
    (respond ⟨[], lampGate⟩ lampBackend greeting).1.Carries (.deliver [104, 105]) := by
  obtain ⟨r, hr, htopic, hpayload, hencoding⟩ := publishes_greeting
  obtain ⟨hbase64, _, hcarries⟩ := publish_exact hr
  have hwritten : Base64.Written [104, 105] (Bytes.ofString r.payload) := by
    rw [hpayload, Base64.written_iff]
    decide +kernel
  have hrelayed := (hbase64 hencoding).1 _ hwritten ⟨[], lampGate⟩ lampBackend
  rw [htopic] at hrelayed
  have hdelivery : (Pipeline.publish ⟨[], lampGate⟩ lampBackend ⟨"k", "root"⟩ "t"
      [104, 105]).1 = .deliver [104, 105] := by
    decide +kernel
  have hstatus : (respond ⟨[], lampGate⟩ lampBackend greeting).1.status = 200 := by
    rw [hrelayed, relayed, hdelivery]
    rfl
  obtain ⟨octets, hspells, hcarried⟩ := hcarries ⟨[], lampGate⟩ lampBackend hstatus
  have hsame : r.Spells [104, 105] := by
    rw [Body.Spells, hencoding]
    exact hwritten
  rw [hspells.unique hsame, htopic, hdelivery] at hcarried
  exact ⟨r, hr, hrelayed, hcarried⟩

end DeviceGateway.Http
