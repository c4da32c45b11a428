import DeviceGateway.Proofs.DeviceLog.InForce
/-!
How much of a payload is logged. The octets of a message are read as text, which may have more of
them than the message had; of that text the longest part within the policy's limit is logged, and
the entry is marked if that is less than all.
-/
namespace DeviceGateway.DeviceLog

open Backend Utf8

/-- An entry with as much of a text for its payload as a limit allows. -/
structure Entry.CutAs (e : Entry) (text : List Char) (limit : Int) (logged : Entry) : Prop where
  nothing : limit ≤ 0 → logged.payload = "" ∧ logged.details = e.details
  longest : 0 < limit → LongestPart limit.toNat text logged.payload.toList
  /-- The search for a boundary ends at the end of the payload. -/
  boundary : 0 < limit → (encode logged.payload.toList).length =
    floorBoundary (encode text) (min limit.toNat (encode text).length)
  marked : 0 < limit → logged.details =
    if logged.payload.toList.length < text.length then
      Json.insert "payload_truncated" (.bool true) e.details
    else e.details

theorem Entry.prepared_payload (e : Entry) (deviceId : String) (now : Instant) (p : Policy) :
    (e.prepared deviceId now p).payload.toList =
      truncate p.payloadMaxBytes.toInt.toNat e.payload.toList := by
  unfold prepared
  rw [limited_eq, String.toList_ofList]

theorem Entry.prepared_cutAs (e : Entry) (octets : Bytes) (deviceId : String) (now : Instant)
    {p : Policy} {limit : Int} (hlimit : p.payloadMaxBytes.toInt = max 0 limit) :
    e.CutAs (lossy (decode octets)) limit ((e.withPayload octets).prepared deviceId now p) := by
  have hlogged := (e.withPayload octets).prepared_loggedAs deviceId now p
  have hpayload := (e.withPayload octets).prepared_payload deviceId now p
  have htext : (e.withPayload octets).payload.toList = lossy (decode octets) := String.toList_ofList
  generalize (e.withPayload octets).prepared deviceId now p = logged at hlogged hpayload
  generalize lossy (decode octets) = text at htext
  have hbound : p.payloadMaxBytes.toInt.toNat = limit.toNat := by
    rw [hlimit]
    omega
  have hdetails := hlogged.details
  have hlongest := hlogged.payload
  rw [hbound, htext] at hpayload hlongest
  rw [hbound] at hdetails
  refine ⟨?_, fun _ => hlongest, ?_, ?_⟩
  · intro hnot
    have hzero : limit.toNat = 0 := Int.toNat_of_nonpos hnot
    rw [hzero, truncate_zero] at hpayload
    rw [hzero, if_neg (fun h => Nat.lt_irrefl 0 h.1)] at hdetails
    exact ⟨String.toList_eq_nil_iff.mp hpayload, hdetails⟩
  · intro _
    rw [hpayload]
    exact (encode_truncate limit.toNat text).2
  · intro hpos
    have hcut : logged.payload ≠ (e.withPayload octets).payload ↔
        logged.payload.toList.length < text.length := by
      rw [ne_eq, ← String.toList_inj, htext]
      constructor
      · intro hne
        refine lt_of_le_of_ne hlongest.initial.length_le ?_
        exact fun hlength => hne (hlongest.initial.eq_of_length hlength)
      · intro hshort heq
        rw [heq] at hshort
        exact Nat.lt_irrefl _ hshort
    rw [hdetails]
    refine if_congr ?_ rfl rfl
    rw [hcut]
    exact and_iff_right (by omega)

/-- An entry that was written has the longest part of its message's text that the policy allows for
its payload, and is marked just if that is not the whole text; if nothing is allowed it has none,
and no mark. -/
theorem write_truncates {b b' : Backend} {deviceId raw : String} {q : Policy} {e : Entry}
    {octets : Bytes} (hstored : b.get (policyKey deviceId) = .ok (some raw))
    (hq : Policy.codec.decode? raw = some q)
    (hwrite : write b deviceId (e.withPayload octets) = (.ok true, b')) :
    ∃ logged maxItems ttl,
      b'.journal = b.journal ++
        [.push (logsKey deviceId) (Entry.codec.encode logged) maxItems ttl] ∧
      e.CutAs (lossy (decode octets)) q.payloadMaxBytes.toInt logged := by
  have hends := write_ends b deviceId (e.withPayload octets)
  rw [hwrite] at hends
  cases hends with
  | @written p _ hp hpush =>
      have hdevice : deviceId ≠ "" := by
        rintro rfl
        cases hp
      obtain ⟨found, hfound, hfilled⟩ := policy_of_stored hdevice hstored hq
      rw [hp] at hfound
      cases hfound
      cases hfilled with
      | inForce _ hfilled =>
          obtain ⟨ttl, hrest⟩ := (putsOne_of_pushEntry hp hpush).rest
          rw [hrest]
          exact ⟨_, _, ttl, rfl, e.prepared_cutAs octets deviceId b.clock hfilled.payloadMaxBytes⟩

/-- Five octets of which one is no text: what it is replaced with has three. -/
def garbled : Bytes := [0x61, 0xFF, 0xC3, 0xA9, 0x62]

def fiveOctets : Backend where
  keyValue := ⟨[("devdebug:cfg:d1", ⟨.text (Policy.codec.encode ⟨true, 0, 10, 5⟩), none⟩)]⟩

theorem write_truncates_garbled :
    (write fiveOctets "d1" (greeting.withPayload garbled)).1 = .ok true ∧
      ∃ logged : Entry, LongestPart 5 ['a', '\uFFFD', '\u00e9', 'b'] logged.payload.toList ∧
        (encode logged.payload.toList).length = 4 ∧
        logged.details.lookup "payload_truncated" = some (.bool true) := by
  have hstored : fiveOctets.get (policyKey "d1") =
      .ok (some (Policy.codec.encode ⟨true, 0, 10, 5⟩)) := by decide +kernel
  have hwrite : (write fiveOctets "d1" (greeting.withPayload garbled)).1 = .ok true := by
    decide +kernel
  obtain ⟨logged, _, _, _, hcut⟩ := write_truncates hstored
    (Policy.codec_reads ⟨true, 0, 10, 5⟩).decode?_encode (Prod.ext hwrite rfl)
  have hpos : 0 < (⟨true, 0, 10, 5⟩ : Policy).payloadMaxBytes.toInt := by decide
  have htext : lossy (decode garbled) = ['a', '\uFFFD', '\u00e9', 'b'] := by decide +kernel
  rw [htext] at hcut
  have hlength : (encode logged.payload.toList).length = 4 :=
    (hcut.boundary hpos).trans (by decide +kernel)
  have hpart := hcut.longest hpos
  refine ⟨hwrite, logged, hpart, hlength, ?_⟩
  have hshort : logged.payload.toList.length < ['a', '\uFFFD', '\u00e9', 'b'].length := by
    refine lt_of_le_of_ne hpart.initial.length_le ?_
    intro hwhole
    rw [hpart.initial.eq_of_length hwhole] at hlength
    revert hlength
    decide
  rw [hcut.marked hpos, if_pos hshort, Json.lookup_insert, if_pos rfl]

end DeviceGateway.DeviceLog
