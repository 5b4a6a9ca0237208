import VertRule.Issue.Basic
import VertRule.Json.Sorted

/-!
# Issued receipts

The issuer hashes the envelope it builds, the verifier the envelope it reads back.  The two hashes
agree exactly when the envelope was committed to as it is read back (`verifyReceipt_sealed_iff`):
with `logical_time` as a decimal string, no optional field `null`, and no enumeration an object.
-/

namespace VertRule

/-! ### What a serialized envelope looks up -/

namespace ReceiptEnvelope

variable (envelope : ReceiptEnvelope)

theorem keys_sublist : (envelope.fields.map Prod.fst).Sublist
    ["boundary_origin", "canonicalization", "context_digest", "digest_algorithm",
      "envelope_version", "event_hash", "event_hash_profile", "logical_time", "parent_id",
      "payload", "policy_digest", "receipt_type", "schema_digest"] := by
  simp only [fields, List.map_append, List.append_assoc]
  refine optField_keys_sublist.append (optField_keys_sublist.append (.append (.refl _)
    (optField_keys_sublist.append (.append (.refl _) (optField_keys_sublist.append
    (.append (.refl _) (optField_keys_sublist.append (.refl _))))))))

theorem nodup_keys : (envelope.fields.map Prod.fst).Nodup :=
  List.Nodup.sublist envelope.keys_sublist (by decide)

theorem lookup_fields_required : ∀ f ∈ envelope.required, envelope.fields.lookup f.1 = some f.2 :=
  envelope.spelledBy_toValue.required

theorem lookup_fields_optional : ∀ f ∈ envelope.optional, envelope.fields.lookup f.1 = f.2 := by
  simp only [optional, List.mem_cons, List.not_mem_nil, or_false]
  rintro f (rfl | rfl | rfl | rfl | rfl) <;>
    simp [fields, lookup_optField_append_of_ne, lookup_optField_append_self, List.lookup_cons]

theorem lookup_fields_time :
    envelope.fields.lookup "logical_time" = some (.string (toString envelope.logicalTime.toNat)) :=
  envelope.logicalTime_toValue

theorem lookup_fields_unknown {key : String} (h : isKnownField key = false) :
    envelope.fields.lookup key = none := by
  refine lookup_eq_none_of_notMem fun hkey => ?_
  have hmem := envelope.keys_sublist.subset hkey
  simp only [List.mem_cons, List.not_mem_nil, or_false] at hmem
  rcases hmem with rfl | rfl | rfl | rfl | rfl | rfl | rfl | rfl | rfl | rfl | rfl | rfl | rfl <;>
    exact absurd h (by decide)

end ReceiptEnvelope

/-- A known key is a required one, or `logical_time`, or an optional one. -/
theorem mem_of_isKnownField (envelope : ReceiptEnvelope) {key : String}
    (h : isKnownField key = true) :
    (∃ f ∈ envelope.required, f.1 = key) ∨ key = "logical_time" ∨
      (key ∈ optionalEnvelopeFields ∧ ∃ f ∈ envelope.optional, f.1 = key) := by
  simp only [isKnownField, requiredEnvelopeFields, optionalEnvelopeFields, Bool.or_eq_true,
    List.contains_iff_mem, List.mem_cons, List.not_mem_nil, or_false] at h
  simp only [ReceiptEnvelope.required, ReceiptEnvelope.optional, optionalEnvelopeFields,
    List.mem_cons, List.not_mem_nil, or_false, exists_eq_or_imp, exists_eq_left]
  grind

namespace Issue

/-! ### What the verifier reads back -/

/-- An envelope ready to be sealed. -/
structure Draft (body : List (String × Json)) : Prop where
  nodup : (body.map Prod.fst).Nodup
  unsealed : "event_hash" ∉ body.map Prod.fst

/-- `v` is what is read back of the sealed envelope, and it is decoded. -/
structure ReadBack (E : Externals) (norm : Json → Json) (body : List (String × Json))
    (eventHash : String) (v : Json) (envelope : ReceiptEnvelope) : Prop where
  same : norm v = norm (.object (withEventHash body eventHash))
  schema : validateEnvelopeSchema v = .ok ()
  typed : E.envelopeFromValue v = .ok envelope

/-- The draft commits to the envelope as the verifier serializes it. -/
structure CommitsAsRead (body : List (String × Json)) (envelope : ReceiptEnvelope) : Prop where
  time : body.lookup "logical_time" = some (.string (toString envelope.logicalTime.toNat))
  present : ∀ key ∈ optionalEnvelopeFields, body.lookup key ≠ some .null
  labels : ∀ key ∈ enumerationFields, ∀ fields, body.lookup key ≠ some (.object fields)

variable {E : Externals} {norm : Json → Json} {body : List (String × Json)} {eventHash : String}
  {v : Json} {envelope : ReceiptEnvelope}

theorem Draft.nodup_sealed (h : Draft body) :
    ((withEventHash body eventHash).map Prod.fst).Nodup := by
  rw [withEventHash, List.map_append, List.map_singleton, ← List.concat_eq_append,
    List.nodup_concat]
  exact ⟨h.unsealed, h.nodup⟩

theorem Draft.lookup_eventHash (h : Draft body) : body.lookup "event_hash" = none :=
  lookup_eq_none_of_notMem h.unsealed

theorem lookup_append_singleton_of_ne {key key' : String} {w : Json} (hkey : key ≠ key') :
    (body ++ [(key', w)]).lookup key = body.lookup key := by
  have hne : (key == key') = false := by simpa using hkey
  rw [List.lookup_append]
  cases body.lookup key <;> simp [List.lookup_cons, hne]

theorem lookup_sealed_of_ne {key : String} (hkey : key ≠ "event_hash") :
    (withEventHash body eventHash).lookup key = body.lookup key :=
  lookup_append_singleton_of_ne hkey

/-- What is read of a sealed envelope has the members of the draft, up to normal form, and its
hash. -/
theorem Draft.members (normal : NormalForm E norm) (hdraft : Draft body)
    (hsame : norm v = norm (.object (withEventHash body eventHash))) :
    ∃ fields, v = .object fields ∧ fields.lookup "event_hash" = some (.string eventHash) ∧
      ∀ key, key ≠ "event_hash" → (fields.lookup key).map norm = (body.lookup key).map norm := by
  obtain ⟨fields, rfl, -, hl⟩ := normal.members hdraft.nodup_sealed hsame
  refine ⟨fields, rfl, ?_, fun key hkey => by rw [hl, lookup_sealed_of_ne hkey]⟩
  have hhash := hl "event_hash"
  rw [withEventHash, List.lookup_append, hdraft.lookup_eventHash] at hhash
  obtain ⟨w, hw, hn⟩ := Option.map_eq_some_iff.1 hhash
  rw [hw, normal.string hn]

theorem ReadBack.members (laws : IssueLaws E norm) (hdraft : Draft body)
    (h : ReadBack E norm body eventHash v envelope) :
    ∃ fields, v = .object fields ∧ fields.lookup "event_hash" = some (.string eventHash) ∧
      ∀ key, key ≠ "event_hash" → (fields.lookup key).map norm = (body.lookup key).map norm :=
  hdraft.members laws.normal h.same

theorem ReadBack.decoded (laws : IssueLaws E norm)
    (h : ReadBack E norm body eventHash v envelope) : envelope.DecodedFrom v :=
  laws.decoded h.schema h.typed

/-- The hash that is read back is the one that was added. -/
theorem ReadBack.toHex_eventHash (laws : IssueLaws E norm) (hdraft : Draft body)
    (h : ReadBack E norm body eventHash v envelope) : envelope.eventHash.toHex = eventHash := by
  obtain ⟨fields, rfl, hhash, -⟩ := h.members laws hdraft
  exact (h.decoded laws).toHex_eventHash (by rw [readEventHash, Json.get_object, hhash]; rfl)

/-- No optional member of a serialized envelope is `null`. -/
theorem optional_ne_null : ∀ f ∈ envelope.optional, f.2 ≠ some .null := by
  simp only [ReceiptEnvelope.optional, List.mem_cons, List.not_mem_nil, or_false]
  rintro f (rfl | rfl | rfl | rfl | rfl) <;> simp [DigestBytes.toValue]

theorem required_key :
    ∀ f ∈ envelope.required, f.1 ≠ "logical_time" ∧ f.1 ∉ optionalEnvelopeFields := by
  simp only [ReceiptEnvelope.required, List.mem_cons, List.not_mem_nil, or_false]
  rintro f (rfl | rfl | rfl | rfl | rfl | rfl | rfl) <;> simp [optionalEnvelopeFields]

/-- An enumeration is serialized as its label. -/
theorem required_label : ∀ f ∈ envelope.required, f.1 ∈ enumerationFields →
    ∃ label, f.2 = .string label := by
  simp only [ReceiptEnvelope.required, List.mem_cons, List.not_mem_nil, or_false]
  rintro f (rfl | rfl | rfl | rfl | rfl | rfl | rfl) <;> simp [enumerationFields]

theorem optional_label : ∀ f ∈ envelope.optional, f.1 ∈ enumerationFields →
    ∀ w, f.2 = some w → ∃ label, w = .string label := by
  simp only [ReceiptEnvelope.optional, List.mem_cons, List.not_mem_nil, or_false]
  rintro f (rfl | rfl | rfl | rfl | rfl) <;> simp [enumerationFields]

theorem enumeration_isKnownField : ∀ key ∈ enumerationFields, isKnownField key = true := by
  decide

/-- A member is serialized as it was committed to, unless that is an enumeration spelled by an
object. -/
theorem readsAs_map_eq_iff (normal : NormalForm E norm) {key : String} {o committed : Option Json}
    (hread : v.ReadsAs key o) (hl : (v.get key).map norm = committed.map norm)
    (hlabel : key ∈ enumerationFields → ∀ w, o = some w → ∃ label, w = .string label) :
    o.map norm = committed.map norm ↔
      (key ∈ enumerationFields → ∀ fields, committed ≠ some (.object fields)) := by
  rcases hread with hget | ⟨henum, label, rfl, hget⟩
  · rw [hget] at hl
    refine iff_of_true hl fun henum fields hobject => ?_
    rw [hobject] at hl
    obtain ⟨w, hw, hn⟩ := Option.map_eq_some_iff.1 hl
    obtain ⟨label, rfl⟩ := hlabel henum w hw
    cases normal.string hn.symm
  · rw [hget] at hl
    obtain ⟨w, hw, hn⟩ := Option.map_eq_some_iff.1 hl.symm
    obtain ⟨fields, rfl, -, -⟩ := normal.members (by simp) hn
    refine iff_of_false (fun heq => ?_) fun h => h henum fields hw
    rw [hw] at heq
    cases normal.string (Option.some.inj heq).symm

/-- A member is serialized as it was committed to, except that `logical_time` and the enumerations
have one spelling and no member is `null`. -/
theorem ReadBack.lookup_eq_iff (laws : IssueLaws E norm) (hdraft : Draft body)
    (h : ReadBack E norm body eventHash v envelope) {key : String} (hkey : key ≠ "event_hash") :
    (envelope.fields.lookup key).map norm = (body.lookup key).map norm ↔
      (key = "logical_time" →
        body.lookup key = some (.string (toString envelope.logicalTime.toNat))) ∧
      (key ∈ optionalEnvelopeFields → body.lookup key ≠ some .null) ∧
      (key ∈ enumerationFields → ∀ fields, body.lookup key ≠ some (.object fields)) := by
  have hdecoded := h.decoded laws
  obtain ⟨fields, rfl, -, hl⟩ := h.members laws hdraft
  specialize hl key hkey
  cases hknown : isKnownField key with
  | false =>
    obtain ⟨fields', hfields, hall⟩ := known_of_validateEnvelopeSchema h.schema
    obtain rfl := Json.object.inj hfields
    have hnone : fields.lookup key = none := by
      cases hw : fields.lookup key with
      | none => rfl
      | some w => exact absurd (hall _ (mem_of_lookup_eq_some hw)) (by simp [hknown])
    rw [hnone] at hl
    rw [envelope.lookup_fields_unknown hknown]
    refine iff_of_true hl ⟨?_, fun hopt => absurd hknown ?_, fun henum => absurd hknown ?_⟩
    · rintro rfl
      exact absurd hknown (by decide)
    · simp [isKnownField, hopt]
    · simp [enumeration_isKnownField key henum]
  | true =>
    rcases mem_of_isKnownField envelope hknown with ⟨f, hf, rfl⟩ | rfl | ⟨hopt, f, hf, rfl⟩
    · obtain ⟨htime, hopt⟩ := required_key f hf
      rw [envelope.lookup_fields_required f hf,
        readsAs_map_eq_iff laws.normal (hdecoded.required f hf) hl]
      · exact ⟨fun h => ⟨fun ht => absurd ht htime, fun ho => absurd ho hopt, h⟩, fun h => h.2.2⟩
      · rintro henum w ⟨⟩
        exact required_label f hf henum
    · rw [envelope.lookup_fields_time]
      constructor
      · intro heq
        obtain ⟨w, hw, hn⟩ := Option.map_eq_some_iff.1 heq.symm
        exact ⟨fun _ => by rw [hw, laws.normal.string hn], fun hopt => absurd hopt (by decide),
          fun henum => absurd henum (by decide)⟩
      · rintro ⟨htime, -, -⟩
        rw [htime rfl]
    · have htime : f.1 ≠ "logical_time" := by
        rintro heq
        rw [heq] at hopt
        exact absurd hopt (by decide)
      have hnull : body.lookup f.1 = some .null ↔ fields.lookup f.1 = some .null := by
        refine ⟨fun hb => ?_, fun hb => ?_⟩ <;> rw [hb] at hl
        · obtain ⟨w, hw, hn⟩ := Option.map_eq_some_iff.1 hl
          rw [hw, laws.normal.null hn]
        · obtain ⟨w, hw, hn⟩ := Option.map_eq_some_iff.1 hl.symm
          rw [hw, laws.normal.null hn]
      rw [envelope.lookup_fields_optional f hf]
      rcases hdecoded.optional f hf with hread | ⟨hnone, hread⟩
      · have hpresent : body.lookup f.1 ≠ some .null := by
          rw [Ne, hnull]
          rintro hb
          rcases hread with hget | ⟨-, label, -, hget⟩
          · exact optional_ne_null f hf (hget.symm.trans hb)
          · cases hget.symm.trans hb
        rw [readsAs_map_eq_iff laws.normal hread hl (optional_label f hf)]
        exact ⟨fun h => ⟨fun ht => absurd ht htime, fun _ => hpresent, h⟩, fun h => h.2.2⟩
      · rw [Json.get_object] at hread
        rw [hread] at hl
        rw [hnone, ← hl]
        exact iff_of_false (by simp) fun hn => hn.2.1 hopt (hnull.2 hread)

theorem lookup_removeKey_self {fields : List (String × Json)} {key : String} :
    (Json.removeKey fields key).lookup key = none :=
  lookup_eq_none_of_notMem (by simp [Json.removeKey])

/-- **The verifier hashes the draft exactly when the draft commits to what is read back.** -/
theorem ReadBack.norm_body_eq_iff (laws : IssueLaws E norm) (hdraft : Draft body)
    (h : ReadBack E norm body eventHash v envelope) :
    norm envelope.body = norm (.object body) ↔ CommitsAsRead body envelope := by
  have hnodup : ((Json.removeKey envelope.fields "event_hash").map Prod.fst).Nodup :=
    envelope.nodup_keys.sublist (List.filter_sublist.map _)
  constructor
  · intro heq
    obtain ⟨fields, hfields, -, hl⟩ := laws.normal.members hdraft.nodup heq
    obtain rfl := Json.object.inj hfields
    have hlookup : ∀ key, key ≠ "event_hash" →
        (envelope.fields.lookup key).map norm = (body.lookup key).map norm := by
      intro key hkey
      rw [← hl, Json.lookup_removeKey hkey]
    refine ⟨?_, fun key hopt => ?_, fun key henum => ?_⟩
    · have hne : "logical_time" ≠ "event_hash" := by decide
      exact ((h.lookup_eq_iff laws hdraft hne).1 (hlookup _ hne)).1 rfl
    · have hne : key ≠ "event_hash" := by
        rintro rfl
        exact absurd hopt (by decide)
      exact ((h.lookup_eq_iff laws hdraft hne).1 (hlookup _ hne)).2.1 hopt
    · have hne : key ≠ "event_hash" := by
        rintro rfl
        exact absurd henum (by decide)
      exact ((h.lookup_eq_iff laws hdraft hne).1 (hlookup _ hne)).2.2 henum
  · intro hc
    refine laws.normal.object hnodup hdraft.nodup fun key => ?_
    by_cases hkey : key = "event_hash"
    · subst hkey
      rw [lookup_removeKey_self, hdraft.lookup_eventHash]
    · rw [Json.lookup_removeKey hkey]
      exact (h.lookup_eq_iff laws hdraft hkey).2 ⟨fun ht => ht ▸ hc.time, hc.present key,
        hc.labels key⟩

/-! ### Sealed receipts -/

/-- The draft and what the verifier serializes do not collide. -/
def HashSeparates (E : Externals) (body : List (String × Json)) (envelope : ReceiptEnvelope) :
    Prop :=
  ∀ c c', typedCanonBytes E (.object body) = .ok c → typedCanonBytes E envelope.body = .ok c' →
    E.blake3 c' = E.blake3 c → c' = c

variable {value : Json} {rawBytes : Bytes}

theorem sealEnvelope_eq_ok :
    sealEnvelope E body = .ok (eventHash, value) ↔
      ∃ c, typedCanonBytes E (.object body) = .ok c ∧ eventHash = (E.blake3 c).toHex ∧
        value = .object (withEventHash body eventHash) := by
  simp only [sealEnvelope, canonHash, Except.bind_eq_ok, Except.pure_eq_ok, Except.ok.injEq,
    Prod.mk.injEq]
  constructor
  · rintro ⟨_, ⟨c, hc, rfl⟩, rfl, rfl⟩
    exact ⟨c, hc, rfl, rfl⟩
  · rintro ⟨c, hc, rfl, rfl⟩
    exact ⟨_, ⟨c, hc, rfl⟩, rfl, rfl⟩

/-- The verifier recomputes the hash of a draft that commits to what is read back. -/
theorem ReadBack.computeEventHash_draft {c : Bytes} (laws : IssueLaws E norm) (hdraft : Draft body)
    (h : ReadBack E norm body eventHash v envelope) (hc : CommitsAsRead body envelope)
    (hcanon : typedCanonBytes E (.object body) = .ok c) :
    E.computeEventHash envelope = .ok (E.blake3 c) :=
  (laws.eventHash h.schema h.typed).2
    ⟨c, (laws.normal.canonical hcanon).2 ((h.norm_body_eq_iff laws hdraft).2 hc), rfl⟩

/-- What commits to the envelope as it is read back is hashed alike by issuer and verifier. -/
theorem ReadBack.computeEventHash_eq (laws : IssueLaws E norm) (hdraft : Draft body)
    (hseal : sealEnvelope E body = .ok (eventHash, value))
    (h : ReadBack E norm body eventHash v envelope) (hc : CommitsAsRead body envelope) :
    E.computeEventHash envelope = .ok envelope.eventHash := by
  obtain ⟨c, hcanon, hhash, -⟩ := sealEnvelope_eq_ok.1 hseal
  have hdigest : E.blake3 c = envelope.eventHash := by
    refine DigestBytes.toHex_injective ?_
    rw [h.toHex_eventHash laws hdraft, hhash]
  rw [h.computeEventHash_draft laws hdraft hc hcanon, hdigest]

/-- Only that is, unless two canonical forms collide. -/
theorem ReadBack.commitsAsRead (laws : IssueLaws E norm) (hdraft : Draft body)
    (hseal : sealEnvelope E body = .ok (eventHash, value))
    (h : ReadBack E norm body eventHash v envelope) (hsep : HashSeparates E body envelope)
    (hh : E.computeEventHash envelope = .ok envelope.eventHash) : CommitsAsRead body envelope := by
  obtain ⟨c, hcanon, hhash, -⟩ := sealEnvelope_eq_ok.1 hseal
  obtain ⟨c', hc', hd⟩ := (laws.eventHash h.schema h.typed).1 hh
  have heq : E.blake3 c' = E.blake3 c := by
    refine DigestBytes.toHex_injective ?_
    rw [hd, h.toHex_eventHash laws hdraft, hhash]
  obtain rfl := hsep _ _ hcanon hc' heq
  exact (h.norm_body_eq_iff laws hdraft).1 ((laws.normal.canonical hcanon).1 hc')

/-- What is ingested of the canonical text of an envelope is read back of it, whatever hash it
claims. -/
theorem readBack_of_claim {claimed : String} (laws : IssueLaws E norm)
    (hraw : typedCanonBytes E (.object (withEventHash body claimed)) = .ok rawBytes)
    (hi : ingestEnvelope E rawBytes = .ok envelope) :
    ∃ v, ReadBack E norm body claimed v envelope := by
  obtain ⟨-, hcanon, v, hv, -, hs, -, ht⟩ := ingestEnvelopeWithLimits_eq_ok.1 hi
  obtain ⟨w, hw, hn⟩ := laws.normal.reads hraw hcanon
  obtain rfl := Except.ok.inj (hv.symm.trans hw)
  exact ⟨v, hn, hs, ht⟩

/-- So it is of a sealed envelope. -/
theorem readBack_of_ingest (laws : IssueLaws E norm)
    (hseal : sealEnvelope E body = .ok (eventHash, value))
    (hraw : typedCanonBytes E value = .ok rawBytes)
    (hi : ingestEnvelope E rawBytes = .ok envelope) :
    ∃ v, ReadBack E norm body eventHash v envelope := by
  obtain ⟨-, -, -, rfl⟩ := sealEnvelope_eq_ok.1 hseal
  exact readBack_of_claim laws hraw hi

/-- **A sealed receipt is valid exactly when it was committed to as it is read back**, with the
version and the markers of version 1. -/
theorem verifyReceipt_sealed_iff (laws : IssueLaws E norm) (hdraft : Draft body)
    (hseal : sealEnvelope E body = .ok (eventHash, value))
    (hraw : typedCanonBytes E value = .ok rawBytes)
    (hi : ingestEnvelope E rawBytes = .ok envelope) (hsep : HashSeparates E body envelope) :
    (verifyReceipt E rawBytes).status = .valid ↔
      envelope.envelopeVersion = SchemaVersion.V1 ∧ envelope.MarkersMatch E ∧
        CommitsAsRead body envelope := by
  obtain ⟨v, hread⟩ := readBack_of_ingest laws hseal hraw hi
  have hhash : E.computeEventHash envelope = .ok envelope.eventHash ↔ CommitsAsRead body envelope :=
    ⟨hread.commitsAsRead laws hdraft hseal hsep, hread.computeEventHash_eq laws hdraft hseal⟩
  rw [verifyReceipt_valid_iff, ← hhash]
  constructor
  · rintro ⟨e, he, hver⟩
    obtain rfl := Except.ok.inj (hi.symm.trans he)
    exact ⟨verifyEnvelopeVersion_eq_ok.1 hver.version, verifyAlgorithms_eq_ok.1 hver.algorithms,
      verifyEventHash_eq_ok.1 hver.eventHash⟩
  · rintro ⟨hversion, hmarkers, hh⟩
    exact ⟨envelope, hi, verifyEnvelopeVersion_eq_ok.2 hversion, verifyAlgorithms_eq_ok.2 hmarkers,
      verifyEventHash_eq_ok.2 hh⟩

/-! ### What the vector generator issues -/

section Members

variable {key : String} {s : String}

theorem ReadBack.get_string (laws : IssueLaws E norm) (hdraft : Draft body)
    (h : ReadBack E norm body eventHash v envelope) (hkey : key ≠ "event_hash")
    (hbody : body.lookup key = some (.string s)) : v.get key = some (.string s) := by
  obtain ⟨fields, rfl, -, hl⟩ := h.members laws hdraft
  have hmember := hl key hkey
  rw [hbody] at hmember
  obtain ⟨w, hw, hn⟩ := Option.map_eq_some_iff.1 hmember
  rw [Json.get_object, hw, laws.normal.string hn]

theorem ReadBack.get_none (laws : IssueLaws E norm) (hdraft : Draft body)
    (h : ReadBack E norm body eventHash v envelope) (hkey : key ≠ "event_hash")
    (hbody : body.lookup key = none) : v.get key = none := by
  obtain ⟨fields, rfl, -, hl⟩ := h.members laws hdraft
  have hmember := hl key hkey
  rwa [hbody, Option.map_none, Option.map_eq_none_iff] at hmember

/-- An optional field that the draft leaves out is absent. -/
theorem ReadBack.optional_none (laws : IssueLaws E norm) (hdraft : Draft body)
    (h : ReadBack E norm body eventHash v envelope) {f : String × Option Json}
    (hf : f ∈ envelope.optional) (hkey : f.1 ≠ "event_hash") (hbody : body.lookup f.1 = none) :
    f.2 = none := by
  have hnone := h.get_none laws hdraft hkey hbody
  rcases (h.decoded laws).optional f hf with (hread | ⟨-, label, -, hread⟩) | ⟨hn, -⟩
  · exact hread.symm.trans hnone
  · cases hread.symm.trans hnone
  · exact hn

/-- The version 1 that the draft commits to is read back. -/
theorem ReadBack.version (laws : IssueLaws E norm) (hdraft : Draft body)
    (h : ReadBack E norm body eventHash v envelope)
    (hbody : body.lookup "envelope_version" = some (.ofU64 1)) :
    envelope.envelopeVersion = SchemaVersion.V1 := by
  have hread := (h.decoded laws).get_required
    (f := ("envelope_version", .number (.posInt envelope.envelopeVersion.value.toUInt64)))
    (by simp [ReceiptEnvelope.required]) (show "envelope_version" ∉ enumerationFields by decide)
  obtain ⟨fields, rfl, -, hl⟩ := h.members laws hdraft
  have hmember := hl "envelope_version" (by decide)
  rw [hbody, show fields.lookup "envelope_version" = _ from hread] at hmember
  exact SchemaVersion.toNumber_injective
    (congrArg Json.ofU64 (laws.normal.ofU64 (Option.some.inj hmember)))

theorem ReadBack.markersMatch (laws : IssueLaws E norm) (hdraft : Draft body)
    (h : ReadBack E norm body eventHash v envelope)
    (hdigest : body.lookup "digest_algorithm" = none)
    (hcanon : body.lookup "canonicalization" = none) : envelope.MarkersMatch E := by
  have hd := h.optional_none laws hdraft
    (f := ("digest_algorithm", envelope.digestAlgorithm.map .string))
    (by simp [ReceiptEnvelope.optional]) (show "digest_algorithm" ≠ "event_hash" by decide) hdigest
  have hc := h.optional_none laws hdraft
    (f := ("canonicalization", envelope.canonicalization.map .string))
    (by simp [ReceiptEnvelope.optional]) (show "canonicalization" ≠ "event_hash" by decide) hcanon
  rw [Option.map_eq_none_iff] at hd hc
  exact ⟨fun _ hdecl => absurd (hd.symm.trans hdecl) (by simp),
    fun _ hdecl => absurd (hc.symm.trans hdecl) (by simp)⟩

end Members

section Vector

variable {payload contextDigest policyDigest : Json} {logicalTime : UInt64}
  {parentId : Option String} {receiptType : String}

theorem draft_vectorBody :
    Draft (vectorBody payload logicalTime parentId receiptType contextDigest policyDigest) := by
  cases parentId with
  | none => exact ⟨by simp [vectorBody, optField], by simp [vectorBody, optField]⟩
  | some parent => exact ⟨by simp [vectorBody, optField], by simp [vectorBody, optField]⟩

/-- What the vector generator builds is read back as it was committed to. -/
theorem commitsAsRead_vectorBody (laws : IssueLaws E norm)
    (h : ReadBack E norm
      (vectorBody payload logicalTime parentId receiptType contextDigest policyDigest)
      eventHash v envelope) :
    envelope.logicalTime = logicalTime ∧ CommitsAsRead
      (vectorBody payload logicalTime parentId receiptType contextDigest policyDigest)
      envelope := by
  have hget : v.get "logical_time" = some (.string (toString logicalTime.toNat)) :=
    h.get_string laws draft_vectorBody (by decide) (by simp [vectorBody, List.lookup_cons])
  have htime := laws.time h.schema h.typed hget
  refine ⟨htime, by simp [vectorBody, List.lookup_cons, htime], ?_, ?_⟩
  · intro key hkey
    simp only [optionalEnvelopeFields, List.mem_cons, List.not_mem_nil, or_false] at hkey
    rcases hkey with rfl | rfl | rfl | rfl | rfl <;> cases parentId <;>
      simp [vectorBody, optField, List.lookup_cons]
  · intro key hkey
    simp only [enumerationFields, List.mem_cons, List.not_mem_nil, or_false] at hkey
    rcases hkey with rfl | rfl | rfl <;> cases parentId <;>
      simp [vectorBody, optField, List.lookup_cons]

theorem verifies_vectorBody (laws : IssueLaws E norm)
    (hseal : sealEnvelope E
      (vectorBody payload logicalTime parentId receiptType contextDigest policyDigest) =
        .ok (eventHash, value))
    (h : ReadBack E norm
      (vectorBody payload logicalTime parentId receiptType contextDigest policyDigest)
      eventHash v envelope) : envelope.Verifies E where
  version := verifyEnvelopeVersion_eq_ok.2 <|
    h.version laws draft_vectorBody (by simp [vectorBody])
  algorithms := by
    refine verifyAlgorithms_eq_ok.2 (h.markersMatch laws draft_vectorBody ?_ ?_) <;>
      cases parentId <;> simp [vectorBody, optField, List.lookup_cons]
  eventHash := verifyEventHash_eq_ok.2 <|
    h.computeEventHash_eq laws draft_vectorBody hseal (commitsAsRead_vectorBody laws h).2

/-- Its canonical text is a valid receipt, if it can be ingested at all. -/
theorem verifyReceipt_vectorBody (laws : IssueLaws E norm)
    (hseal : sealEnvelope E
      (vectorBody payload logicalTime parentId receiptType contextDigest policyDigest) =
        .ok (eventHash, value)) (hraw : typedCanonBytes E value = .ok rawBytes) :
    (verifyReceipt E rawBytes).status = .valid ↔
      ∃ envelope, ingestEnvelope E rawBytes = .ok envelope := by
  rw [verifyReceipt_valid_iff]
  refine exists_congr fun e => and_iff_left_of_imp fun hi => ?_
  obtain ⟨v, hread⟩ := readBack_of_ingest laws hseal hraw hi
  exact verifies_vectorBody laws hseal hread

end Vector

/-- **What the vector generator issues is valid**, if it can be ingested at all. -/
theorem verifyReceipt_built_iff (laws : IssueLaws E norm)
    {payload contextDigest policyDigest : Json} {logicalTime : UInt64} {parentId : Option String}
    {receiptType : String}
    (hbuild : buildEnvelopeWithDigests E payload logicalTime parentId receiptType contextDigest
      policyDigest = .ok value) (hraw : typedCanonBytes E value = .ok rawBytes) :
    (verifyReceipt E rawBytes).status = .valid ↔
      ∃ envelope, ingestEnvelope E rawBytes = .ok envelope := by
  rw [buildEnvelopeWithDigests, Except.bind_eq_ok] at hbuild
  obtain ⟨⟨eventHash, envelope⟩, hseal, heq⟩ := hbuild
  obtain rfl := Except.ok.inj heq
  exact verifyReceipt_vectorBody laws hseal hraw

/-! ### The first receipt, as it was issued -/

/-- Third-party code as the tables have it, with a canonicalizer that orders members, and an event
hash over the canonical form. -/
def issuing (T : Tables) : Externals :=
  { T.externals with
    toVec v := if v.sorted ∈ T.values then .ok (asBytes v.sorted.text) else .error Tables.unlisted
    computeEventHash envelope :=
      if envelope.body.sorted ∈ T.values ∧ envelope.body.sorted.inRange then
        .ok (T.blake3 (asBytes envelope.body.sorted.text))
      else .error Tables.unlisted }

section Issuing

variable {T : Tables} {w : Json} {c : Bytes}

theorem typedCanonBytes_issuing :
    typedCanonBytes (issuing T) v = .ok c ↔
      v.sorted ∈ T.values ∧ v.sorted.inRange = true ∧ c = asBytes v.sorted.text := by
  simp only [typedCanonBytes, issuing, Except.bind_eq_ok, Except.mapError_eq_ok]
  constructor
  · rintro ⟨raw, hraw, hc⟩
    split_ifs at hraw with hmem
    obtain rfl := Except.ok.inj hraw
    cases hr : v.sorted.inRange with
    | false => simp [Tables.externals, Tables.canonicalBytes, Tables.read_text hmem, hr] at hc
    | true =>
      have hok : T.externals.toCanonBytesFromSlice (asBytes v.sorted.text) = .ok _ :=
        Tables.toCanonBytesFromSlice_text hmem hr
      exact ⟨hmem, rfl, Except.ok.inj (hc.symm.trans hok)⟩
  · rintro ⟨hmem, hr, rfl⟩
    exact ⟨_, if_pos hmem, Tables.toCanonBytesFromSlice_text hmem hr⟩

/-- Sorting is a normal form of the listed values, if these are sorted. -/
theorem normalForm_issuing (hsorted : ∀ u ∈ T.values, u.sorted = u) :
    NormalForm (issuing T) Json.sorted where
  canonical {v w c} h := by
    obtain ⟨hmem, hr, rfl⟩ := typedCanonBytes_issuing.1 h
    rw [typedCanonBytes_issuing]
    constructor
    · rintro ⟨hmem', -, heq⟩
      have hread := Tables.read_text hmem
      rw [heq, Tables.read_text hmem'] at hread
      exact Option.some.inj hread
    · intro heq
      rw [heq]
      exact ⟨hmem, hr, rfl⟩
  reads {v c} h _ := by
    obtain ⟨hmem, hr, rfl⟩ := typedCanonBytes_issuing.1 h
    exact ⟨_, Tables.fromStr_text hmem, hsorted _ hmem⟩
  members {v fields} hnodup h := by
    obtain ⟨fields', rfl, hnodup'⟩ := Json.exists_object_of_sorted_eq hnodup h
    exact ⟨fields', rfl, hnodup', (Json.sorted_object_eq_iff hnodup' hnodup).1 h⟩
  object hnodup hnodup' h := (Json.sorted_object_eq_iff hnodup hnodup').2 h
  array {v elems} h := by
    cases v with
    | array elems' =>
      refine ⟨elems', rfl, ?_⟩
      rw [← Json.sortedElems_eq_map, ← Json.sortedElems_eq_map]
      exact Json.array.inj h
    | _ => simp [Json.sorted] at h
  string {v s} h := by
    cases v with
    | string s' => exact h
    | _ => simp [Json.sorted] at h
  null {v} h := by
    cases v with
    | null => rfl
    | _ => simp [Json.sorted] at h
  bool {v b} h := by
    cases v with
    | bool b' => exact h
    | _ => simp [Json.sorted] at h
  ofU64 h := Number.posInt.inj (Json.number.inj h)

/-- The third-party code of tables whose values are sorted and whose envelopes are spelled by their
values, any `logical_time` string among them by the decimal one. -/
theorem issueLaws_issuing (hsorted : ∀ u ∈ T.values, u.sorted = u)
    (hspelled : ∀ p ∈ T.envelopes, p.2.SpelledBy p.1 ∧ ∀ s, p.1.get "logical_time" =
      some (.string s) → s = toString p.2.logicalTime.toNat) :
    IssueLaws (issuing T) Json.sorted := by
  have hlisted : ∀ {v envelope}, (issuing T).envelopeFromValue v = .ok envelope →
      (v, envelope) ∈ T.envelopes := fun h => Tables.mem_of_envelopeFromValue h
  refine ⟨normalForm_issuing hsorted, fun _ h => (hspelled _ (hlisted h)).1.decodedFrom,
    fun _ h ht => ?_, ?_⟩
  · exact toString_uint64_injective ((hspelled _ (hlisted h)).2 _ ht).symm
  · intro v envelope d _ _
    simp only [typedCanonBytes_issuing]
    change (if _ then _ else _) = _ ↔ _
    split_ifs with h
    · simp [h, issuing, Tables.externals]
    · simp only [false_iff]
      rintro ⟨c, ⟨hmem, hr, -⟩, -⟩
      exact h ⟨hmem, hr⟩

/-- Sorted tables of serialized envelopes. -/
theorem issueLaws_of_toValue (hsorted : ∀ u ∈ T.values, u.sorted = u)
    (htoValue : ∀ p ∈ T.envelopes, p.1 = p.2.toValue) : IssueLaws (issuing T) Json.sorted := by
  refine issueLaws_issuing hsorted fun p hp => ?_
  rw [htoValue p hp]
  refine ⟨p.2.spelledBy_toValue, fun s hs => ?_⟩
  rw [p.2.logicalTime_toValue] at hs
  exact (Json.string.inj (Option.some.inj hs)).symm

theorem ingestEnvelope_issuing :
    ingestEnvelope (issuing T) rawBytes = ingestEnvelope T.externals rawBytes := rfl

theorem ingestChain_issuing :
    ingestChain (issuing T) rawBytes = ingestChain T.externals rawBytes := by
  have helements : ∀ i elems, ingestElements (issuing T) i elems =
      ingestElements T.externals i elems := by
    intro i elems
    induction elems generalizing i with
    | nil => rfl
    | cons elem elems ih => simp only [ingestElements, ih]; rfl
  simp only [ingestChain, ingestChainWithLimits, helements]
  rfl

theorem fromSlice_issuing (rawBytes : Bytes) :
    (issuing T).fromSlice rawBytes = T.externals.fromSlice rawBytes := rfl

theorem toCanonBytesFromSlice_issuing :
    (issuing T).toCanonBytesFromSlice = T.externals.toCanonBytesFromSlice := rfl

theorem blake3_issuing (bytes : Bytes) : (issuing T).blake3 bytes = T.blake3 bytes := rfl

theorem blake3_text_issuing {d : DigestBytes} (h : (v, d) ∈ T.digests) :
    (issuing T).blake3 (asBytes v.text) = d := Tables.blake3_text h

theorem sealEnvelope_issuing {d : DigestBytes} {u : Json} (hsorted : (Json.object body).sorted = u)
    (hmem : u ∈ T.values) (hr : u.inRange = true) (hd : (u, d) ∈ T.digests) :
    sealEnvelope (issuing T) body = .ok (d.toHex, .object (withEventHash body d.toHex)) := by
  subst hsorted
  exact sealEnvelope_eq_ok.2
    ⟨_, typedCanonBytes_issuing.2 ⟨hmem, hr, rfl⟩, by rw [blake3_text_issuing hd], rfl⟩

theorem computeEventHash_issuing {d : DigestBytes} {u : Json} (hsorted : envelope.body.sorted = u)
    (hmem : u ∈ T.values) (hr : u.inRange = true) (hd : (u, d) ∈ T.digests) :
    (issuing T).computeEventHash envelope = .ok d := by
  subst hsorted
  exact (if_pos ⟨hmem, hr⟩).trans (congrArg Except.ok (blake3_text_issuing hd))

theorem typedCanonBytes_issuing_of_sorted {u : Json} (hsorted : v.sorted = u) (hmem : u ∈ T.values)
    (hr : u.inRange = true) : typedCanonBytes (issuing T) v = .ok (asBytes u.text) := by
  subst hsorted
  exact typedCanonBytes_issuing.2 ⟨hmem, hr, rfl⟩

end Issuing

/-- The third-party code on the first receipt and the body it is sealed over. -/
def issuedTables : Tables where
  envelopes := [(firstReceipt.toValue, firstReceipt)]
  others := [firstReceipt.body]
  digests := [(firstReceipt.body, firstReceipt.eventHash)]
  texts_nodup := by decide +kernel
  digests_nodup := firstReceipt_digest_nodup

theorem issueLaws_issuedTables : IssueLaws (issuing issuedTables) Json.sorted := by
  refine issueLaws_of_toValue ?_ ?_
  · simp only [Tables.values, issuedTables, List.map_cons, List.map_nil, List.cons_append,
      List.nil_append, List.mem_cons, List.not_mem_nil, or_false]
    rintro u (rfl | rfl) <;> decide +kernel
  · simp [issuedTables]

/-- The body of the first receipt, in the order of the issuer. -/
def firstBody : List (String × Json) :=
  vectorBody governancePayload 1000 none "governance" (placeholderHex64 0xaa)
    (placeholderHex64 0xcc)

theorem sealEnvelope_firstBody : sealEnvelope (issuing issuedTables) firstBody =
    .ok (firstReceipt.eventHash.toHex,
      .object (withEventHash firstBody firstReceipt.eventHash.toHex)) := by
  refine sealEnvelope_issuing (u := firstReceipt.body) ?_ ?_ ?_ ?_
  · decide +kernel
  · simp [Tables.values, issuedTables]
  · decide +kernel
  · simp [issuedTables]

theorem typedCanonBytes_firstReceipt : typedCanonBytes (issuing issuedTables)
    (.object (withEventHash firstBody firstReceipt.eventHash.toHex)) =
      .ok (asBytes firstReceipt.toValue.text) := by
  refine typedCanonBytes_issuing_of_sorted ?_ ?_ ?_
  · decide +kernel
  · simp [Tables.values, issuedTables]
  · decide +kernel

theorem ingestEnvelope_issuedTables :
    ingestEnvelope (issuing issuedTables) (asBytes firstReceipt.toValue.text) =
      .ok firstReceipt := by
  rw [ingestEnvelope_issuing]
  exact Tables.ingestEnvelope_text (by simp [issuedTables])
    (Tables.admissible_of_checks (by decide +kernel))

theorem hashSeparates_firstBody :
    HashSeparates (issuing issuedTables) firstBody firstReceipt := by
  intro c c' hc hc' _
  obtain ⟨-, -, hc⟩ := typedCanonBytes_issuing.1 hc
  obtain ⟨-, -, hc'⟩ := typedCanonBytes_issuing.1 hc'
  have hsorted : firstReceipt.body.sorted = (Json.object firstBody).sorted := by decide +kernel
  rw [hc, hc', hsorted]

theorem sealed_firstReceipt :
    (verifyReceipt (issuing issuedTables) (asBytes firstReceipt.toValue.text)).status = .valid ↔
      firstReceipt.envelopeVersion = SchemaVersion.V1 ∧
        firstReceipt.MarkersMatch (issuing issuedTables) ∧ CommitsAsRead firstBody firstReceipt :=
  verifyReceipt_sealed_iff issueLaws_issuedTables draft_vectorBody sealEnvelope_firstBody
    typedCanonBytes_firstReceipt ingestEnvelope_issuedTables hashSeparates_firstBody

theorem buildEnvelope_firstReceipt :
    buildEnvelope (issuing issuedTables) governancePayload 1000 none "governance" =
      .ok (.object (withEventHash firstBody firstReceipt.eventHash.toHex)) := by
  rw [buildEnvelope, buildEnvelopeWithDigests, Except.bind_eq_ok]
  exact ⟨_, sealEnvelope_firstBody, rfl⟩

theorem built_firstReceipt :
    (verifyReceipt (issuing issuedTables) (asBytes firstReceipt.toValue.text)).status = .valid ↔
      ∃ envelope, ingestEnvelope (issuing issuedTables) (asBytes firstReceipt.toValue.text) =
        .ok envelope :=
  verifyReceipt_built_iff issueLaws_issuedTables buildEnvelope_firstReceipt
    typedCanonBytes_firstReceipt

end Issue

end VertRule
