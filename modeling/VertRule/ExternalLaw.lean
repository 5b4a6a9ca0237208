import VertRule.Rbh

/-!
# The constitutional law

What `verify_external_receipt` accepts, stated on the envelope.  The law does not ask that declared
algorithm markers are those of the version, which `validate_receipt_envelope_integrity` does;
`integrityKept_iff` shows this to be the only way for the external verifier to accept what envelope
integrity rejects.
-/

namespace VertRule

namespace Rbh

variable (E : Externals)

/-- The law of an external receipt: a version 1 envelope that the constitutional digest law applies
to, whose `event_hash` is the recomputed one, and whose payload, if it claims to be a decode step,
has the canonical schema. -/
structure ConstitutionalLaw (envelope : ReceiptEnvelope) : Prop where
  version : envelope.envelopeVersion = SchemaVersion.V1
  profile : envelope.eventHashProfile = some .constitutionalEnvelopeV1 ∨
    (envelope.eventHashProfile = none ∧ envelope.receiptType ≠ .event)
  eventHash : E.computeEventHash envelope = .ok envelope.eventHash
  decodeStep : ∀ schema, envelope.payload.get "schema" = some (.string schema) →
    decodeStepSchemaPrefix.toList <+: schema.toList → schema = canonicalDecodeStepSchema

/-- The digests, the time and the payload are those of the envelope. -/
structure VerifiedReceiptMetadata.Of (m : VerifiedReceiptMetadata) (envelope : ReceiptEnvelope) :
    Prop where
  contextDigest : m.contextDigest = envelope.contextDigest.toHex
  policyDigest : m.policyDigest = envelope.policyDigest.toHex
  schemaDigest : m.schemaDigest = envelope.schemaDigest.toHex
  eventHash : m.eventHash = envelope.eventHash.toHex
  logicalTime : m.logicalTime = envelope.logicalTime
  payload : m.payload = envelope.payload

/-- The external verifier accepts exactly what the constitutional law allows, it returns what it
read, and it refuses every other digest law, whatever the hash. -/
structure ExternalLaw (receiptBytes : Bytes) : Prop where
  accepts : (∃ m, verifyExternalReceipt E receiptBytes = .ok m) ↔
    ∃ envelope, E.envelopeFromSlice receiptBytes = .ok envelope ∧ ConstitutionalLaw E envelope
  returns : ∀ m envelope, verifyExternalReceipt E receiptBytes = .ok m →
    E.envelopeFromSlice receiptBytes = .ok envelope → m.Of envelope
  refuses : ∀ envelope, E.envelopeFromSlice receiptBytes = .ok envelope →
    envelope.eventHashProfile = some .runtimePortEventPreimageV1 ∨
      (envelope.eventHashProfile = none ∧ envelope.receiptType = .event) →
    ∀ m, verifyExternalReceipt E receiptBytes ≠ .ok m

variable {E} {envelope : ReceiptEnvelope} {receiptBytes : Bytes}

theorem verifyDecodeStepSchema_eq_ok :
    verifyDecodeStepSchema envelope = .ok () ↔
      ∀ schema, envelope.payload.get "schema" = some (.string schema) →
        decodeStepSchemaPrefix.toList <+: schema.toList → schema = canonicalDecodeStepSchema := by
  unfold verifyDecodeStepSchema
  cases h : (envelope.payload.get "schema").bind Json.asStr with
  | none =>
    refine iff_of_true rfl fun schema hs => ?_
    simp [hs, Json.asStr] at h
  | some schema =>
    obtain ⟨v, hv, hs⟩ := Option.bind_eq_some_iff.1 h
    rw [Json.asStr_eq_some] at hs
    subst hs
    simp [hv]

/-- What the external verifier accepts, in the words of the law. -/
theorem verifyExternalReceipt_eq_ok_iff_law {m : VerifiedReceiptMetadata} :
    verifyExternalReceipt E receiptBytes = .ok m ↔
      ∃ envelope, E.envelopeFromSlice receiptBytes = .ok envelope ∧
        ConstitutionalLaw E envelope ∧ m = metadata E envelope := by
  rw [verifyExternalReceipt_eq_ok]
  refine exists_congr fun envelope => and_congr_right fun _ => ?_
  rw [resolveProfile_eq_envelopeMinus, VertRule.verifyEventHash_eq_ok,
    verifyDecodeStepSchema_eq_ok]
  exact ⟨fun ⟨hv, hp, hh, hd, hm⟩ => ⟨⟨hv, hp, hh, hd⟩, hm⟩,
    fun ⟨hlaw, hm⟩ => ⟨hlaw.version, hlaw.profile, hlaw.eventHash, hlaw.decodeStep, hm⟩⟩

/-- **External verification accepts exactly the constitutional law.** -/
theorem verifyExternalReceipt_constitutional (receiptBytes : Bytes) :
    ExternalLaw E receiptBytes := by
  constructor
  · constructor
    · rintro ⟨m, h⟩
      obtain ⟨envelope, hparsed, hlaw, -⟩ := verifyExternalReceipt_eq_ok_iff_law.1 h
      exact ⟨envelope, hparsed, hlaw⟩
    · rintro ⟨envelope, hparsed, hlaw⟩
      exact ⟨_, verifyExternalReceipt_eq_ok_iff_law.2 ⟨envelope, hparsed, hlaw, rfl⟩⟩
  · intro m envelope h hparsed
    obtain ⟨envelope', hparsed', -, rfl⟩ := verifyExternalReceipt_eq_ok_iff_law.1 h
    obtain rfl := Except.ok.inj (hparsed.symm.trans hparsed')
    exact ⟨rfl, rfl, rfl, rfl, rfl, rfl⟩
  · intro envelope hparsed hother m h
    obtain ⟨envelope', hparsed', hlaw, -⟩ := verifyExternalReceipt_eq_ok_iff_law.1 h
    obtain rfl := Except.ok.inj (hparsed.symm.trans hparsed')
    rcases hlaw.profile with hp | ⟨hp, ht⟩
    · rcases hother with ho | ⟨ho, -⟩ <;> simp [hp] at ho
    · rcases hother with ho | ⟨-, ho⟩
      · simp [hp] at ho
      · exact ht ho

/-! ### Envelope integrity -/

variable (E)

/-- What the external verifier accepts has envelope integrity. -/
def IntegrityKept (receiptBytes : Bytes) : Prop :=
  ∀ m, verifyExternalReceipt E receiptBytes = .ok m →
    ∀ envelope, E.envelopeFromSlice receiptBytes = .ok envelope →
      validateReceiptEnvelopeIntegrity E envelope = .ok ()

variable {E}

/-- **The external verifier keeps envelope integrity exactly when no envelope that meets the
constitutional law declares a foreign algorithm.** -/
theorem integrityKept_iff :
    IntegrityKept E receiptBytes ↔
      ∀ envelope, E.envelopeFromSlice receiptBytes = .ok envelope →
        envelope.MarkersMatch E ∨ ¬ ConstitutionalLaw E envelope := by
  constructor
  · intro h envelope hparsed
    by_cases hlaw : ConstitutionalLaw E envelope
    · have hok := verifyExternalReceipt_eq_ok_iff_law.2 ⟨envelope, hparsed, hlaw, rfl⟩
      have hint := h _ hok envelope hparsed
      exact .inl (validateReceiptEnvelopeIntegrity_eq_ok.1 hint).1
    · exact .inr hlaw
  · intro h m hok envelope hparsed
    obtain ⟨envelope', hparsed', hlaw, -⟩ := verifyExternalReceipt_eq_ok_iff_law.1 hok
    obtain rfl := Except.ok.inj (hparsed.symm.trans hparsed')
    have hmarkers := (h _ hparsed).resolve_right fun hn => hn hlaw
    exact validateReceiptEnvelopeIntegrity_eq_ok.2 ⟨hmarkers, hlaw.eventHash⟩

/-- A receipt that declares another digest algorithm, with the `event_hash` recomputed over the
declaration. -/
def foreignDigestReceipt : ReceiptEnvelope :=
  { vectorEnvelope .governance 1000
      (.object [("action", .string "create"), ("domain", .string "test.governance.v1"),
        ("value", .ofU64 1)])
      (.ofNat 0x876217c05c90337b331eb279de6084de6f2f9800e9cfe6b8ddda4596dbd68f78) with
    digestAlgorithm := some "SHA256" }

/-- The third-party code on the receipt. -/
def foreignDigestTables : Tables where
  envelopes := [(foreignDigestReceipt.toValue, foreignDigestReceipt)]
  digests := [(foreignDigestReceipt.body, foreignDigestReceipt.eventHash)]
  texts_nodup := by simp

/-- It is accepted, and its digest algorithm is not that of version 1. -/
theorem not_integrityKept_foreignDigestReceipt :
    ¬ IntegrityKept foreignDigestTables.externals (asBytes foreignDigestReceipt.toValue.text) := by
  intro h
  have hparsed : foreignDigestTables.externals.envelopeFromSlice
      (asBytes foreignDigestReceipt.toValue.text) = .ok foreignDigestReceipt :=
    Tables.envelopeFromSlice_text (List.mem_singleton_self _)
  have hlaw : ConstitutionalLaw foreignDigestTables.externals foreignDigestReceipt :=
    { version := rfl
      profile := .inr ⟨rfl, by decide⟩
      eventHash := Tables.computeEventHash_listed (List.mem_singleton_self _)
      decodeStep := fun schema hs => by cases hs }
  have hok := verifyExternalReceipt_eq_ok_iff_law.2 ⟨_, hparsed, hlaw, rfl⟩
  have hint := h _ hok _ hparsed
  have hmarkers := (validateReceiptEnvelopeIntegrity_eq_ok.1 hint).1
  exact absurd (hmarkers.digestAlgorithm "SHA256" rfl) (by decide)

end Rbh

end VertRule
