import VertRule.Tables

/-!
# External receipts

`rbh.rs`: the second verifier of an `event_hash`.  It resolves the digest law an envelope
declares before it recomputes anything, which `verify_receipt` does not.  A projection is verified
against the envelope it cites.
-/

namespace VertRule

namespace Rbh

/-- `ReceiptVerifyError`. -/
inductive ReceiptVerifyError where
  | parseError (message : String)
  | unsupportedVersion (version : UInt32)
  | eventHashMismatch (expected actual : String)
  | eventHashLawAmbiguous (receiptType : String)
  | profileNotEnvelopeVerifiable (profile : String)
  | commitmentError (message : String)
  | nonCanonicalDecodeStep (schema : String)
  | projectionMissingSourceBinding (field : String)
  | projectionSourceMismatch (field expected actual : String)
  deriving DecidableEq

/-- `Display for ReceiptVerifyError`. -/
def ReceiptVerifyError.display : ReceiptVerifyError → String
  | parseError message => s!"receipt parse error: {message}"
  | unsupportedVersion version => s!"unsupported envelope version: {version}"
  | eventHashMismatch expected actual =>
    s!"event hash mismatch: expected {expected}, actual {actual}"
  | eventHashLawAmbiguous receiptType =>
    s!"event_hash law ambiguous: receipt_type {receiptType} is multi-law " ++
      "and declares no event_hash_profile"
  | profileNotEnvelopeVerifiable profile =>
    s!"event_hash profile {profile} is not verifiable by envelope-only RBH"
  | commitmentError message => s!"envelope commitment failed: {message}"
  | nonCanonicalDecodeStep schema =>
    s!"non-canonical decode-step schema: {schema} (only @0.2 is a canonical decode claim)"
  | projectionMissingSourceBinding field => s!"projection missing source binding: {field}"
  | projectionSourceMismatch field expected actual =>
    s!"projection source mismatch on {field}: expected {expected}, actual {actual}"

/-- `verify_envelope_version`. -/
def verifyEnvelopeVersion (envelope : ReceiptEnvelope) : Except ReceiptVerifyError Unit :=
  if envelope.envelopeVersion = SchemaVersion.V1 then .ok ()
  else .error (.unsupportedVersion envelope.envelopeVersion.value)

/-- `EventHashLaw`. -/
inductive EventHashLaw where
  | envelopeMinus
  | runtimePortPreimage
  deriving DecidableEq

/-- `is_multi_law`. -/
def isMultiLaw (receiptType : ReceiptType) : Bool := receiptType = .event

variable (E : Externals)

/-- `resolve_profile`. -/
def resolveProfile (envelope : ReceiptEnvelope) : Except ReceiptVerifyError EventHashLaw :=
  match envelope.eventHashProfile with
  | some .constitutionalEnvelopeV1 => .ok .envelopeMinus
  | some .runtimePortEventPreimageV1 => .ok .runtimePortPreimage
  | none =>
    if isMultiLaw envelope.receiptType then
      .error (.eventHashLawAmbiguous (E.debugReceiptType envelope.receiptType))
    else .ok .envelopeMinus

/-- `verify_event_hash`. -/
def verifyEventHash (envelope : ReceiptEnvelope) : Except ReceiptVerifyError Unit := do
  match ← resolveProfile E envelope with
  | .envelopeMinus =>
    let recomputed ← (E.computeEventHash envelope).mapError .commitmentError
    if recomputed = envelope.eventHash then pure ()
    else throw (.eventHashMismatch envelope.eventHash.toHex recomputed.toHex)
  | .runtimePortPreimage =>
    throw (.profileNotEnvelopeVerifiable "runtime_port_event_preimage_v1")

/-- `CANONICAL_DECODE_STEP_SCHEMA`. -/
def canonicalDecodeStepSchema : String := "vr.operator_stream.decode_step@0.2"

/-- `DECODE_STEP_SCHEMA_PREFIX`. -/
def decodeStepSchemaPrefix : String := "vr.operator_stream.decode_step@"

/-- `verify_decode_step_schema`. -/
def verifyDecodeStepSchema (envelope : ReceiptEnvelope) : Except ReceiptVerifyError Unit :=
  match (envelope.payload.get "schema").bind Json.asStr with
  | none => .ok ()
  | some schema =>
    if decodeStepSchemaPrefix.toList <+: schema.toList ∧ schema ≠ canonicalDecodeStepSchema then
      .error (.nonCanonicalDecodeStep schema)
    else .ok ()

/-- `VerifiedReceiptMetadata`. -/
structure VerifiedReceiptMetadata where
  contextDigest : String
  policyDigest : String
  schemaDigest : String
  eventHash : String
  receiptType : String
  logicalTime : UInt64
  boundaryOrigin : Option String
  payload : Json

/-- The metadata `verify_external_receipt` extracts. -/
def metadata (envelope : ReceiptEnvelope) : VerifiedReceiptMetadata where
  contextDigest := envelope.contextDigest.toHex
  policyDigest := envelope.policyDigest.toHex
  schemaDigest := envelope.schemaDigest.toHex
  eventHash := envelope.eventHash.toHex
  receiptType := E.debugReceiptType envelope.receiptType
  logicalTime := envelope.logicalTime
  boundaryOrigin := envelope.boundaryOrigin.map E.debugBoundaryOrigin
  payload := envelope.payload

/-- `verify_external_receipt`. -/
def verifyExternalReceipt (receiptBytes : Bytes) :
    Except ReceiptVerifyError VerifiedReceiptMetadata := do
  let envelope ← (E.envelopeFromSlice receiptBytes).mapError .parseError
  verifyEnvelopeVersion envelope
  verifyEventHash E envelope
  verifyDecodeStepSchema envelope
  pure (metadata E envelope)

/-- `PROJECTION_SOURCE_FIELDS`. -/
def projectionSourceFields : List String :=
  ["source_receipt_type", "source_schema_version", "source_event_hash", "projection_law_id",
    "omitted_evidence_classes"]

/-- The loop of `verify_projection_source` over the fields a projection must have. -/
def checkSourceFields (projection : Json) : Except ReceiptVerifyError Unit :=
  match projectionSourceFields.find? fun field => (projection.get field).isNone with
  | some field => .error (.projectionMissingSourceBinding field)
  | none => .ok ()

/-- `and_then(Value::as_str).unwrap_or_default()`. -/
def strOrDefault (value : Option Json) : String := (value.bind Json.asStr).getD ""

/-- `assert_projection_bind`. -/
def assertProjectionBind (projection : Json) (field : String) (expected : Option Json) :
    Except ReceiptVerifyError Unit :=
  let expected := strOrDefault expected
  let actual := strOrDefault (projection.get field)
  if actual = expected then .ok ()
  else .error (.projectionSourceMismatch field expected actual)

/-- `verify_projection_source`. -/
def verifyProjectionSource (projectionBytes canonicalEnvelopeBytes : Bytes) :
    Except ReceiptVerifyError VerifiedReceiptMetadata := do
  let verified ← verifyExternalReceipt E canonicalEnvelopeBytes
  let envelope ← (E.fromSlice canonicalEnvelopeBytes).mapError .parseError
  let projection ← (E.fromSlice projectionBytes).mapError .parseError
  checkSourceFields projection
  assertProjectionBind projection "source_receipt_type" (envelope.get "receipt_type")
  assertProjectionBind projection "source_schema_version"
    ((envelope.get "payload").bind (·.get "schema"))
  assertProjectionBind projection "source_event_hash" (envelope.get "event_hash")
  pure verified

variable {E} {envelope : ReceiptEnvelope}

/-- An envelope is judged by the constitutional law when it declares it, or when it declares
none and its type has no other. -/
theorem resolveProfile_eq_envelopeMinus :
    resolveProfile E envelope = .ok .envelopeMinus ↔
      envelope.eventHashProfile = some .constitutionalEnvelopeV1 ∨
        (envelope.eventHashProfile = none ∧ envelope.receiptType ≠ .event) := by
  unfold resolveProfile
  cases envelope.eventHashProfile with
  | none => by_cases h : envelope.receiptType = .event <;> simp [isMultiLaw, h]
  | some profile => cases profile <;> simp

/-- The external verifier accepts an `event_hash` when the constitutional law applies to it and
`verify_receipt` would accept it. -/
theorem verifyEventHash_eq_ok :
    verifyEventHash E envelope = .ok () ↔
      resolveProfile E envelope = .ok .envelopeMinus ∧
        VertRule.verifyEventHash E envelope = .ok () := by
  rw [VertRule.verifyEventHash_eq_ok, verifyEventHash, Except.bind_eq_ok]
  constructor
  · rintro ⟨law, hlaw, h⟩
    cases law with
    | envelopeMinus =>
      obtain ⟨recomputed, hr, h⟩ := Except.bind_eq_ok.1 h
      rw [Except.mapError_eq_ok] at hr
      by_cases he : recomputed = envelope.eventHash
      · exact ⟨hlaw, he ▸ hr⟩
      · simp [he] at h
    | runtimePortPreimage => cases h
  · rintro ⟨hlaw, h⟩
    refine ⟨_, hlaw, Except.bind_eq_ok.2 ⟨_, Except.mapError_eq_ok.2 h, ?_⟩⟩
    simp

/-- **What the external verifier accepts.** -/
theorem verifyExternalReceipt_eq_ok {receiptBytes : Bytes} {m : VerifiedReceiptMetadata} :
    verifyExternalReceipt E receiptBytes = .ok m ↔
      ∃ envelope, E.envelopeFromSlice receiptBytes = .ok envelope ∧
        envelope.envelopeVersion = SchemaVersion.V1 ∧
        resolveProfile E envelope = .ok .envelopeMinus ∧
        VertRule.verifyEventHash E envelope = .ok () ∧
        verifyDecodeStepSchema envelope = .ok () ∧ m = metadata E envelope := by
  have hversion : ∀ envelope, verifyEnvelopeVersion envelope = .ok () ↔
      envelope.envelopeVersion = SchemaVersion.V1 := by
    intro envelope
    unfold verifyEnvelopeVersion
    split_ifs with h <;> simp [h]
  simp only [verifyExternalReceipt, Except.bind_eq_ok, Except.mapError_eq_ok,
    Unique.exists_iff, PUnit.default_eq_unit, hversion, verifyEventHash_eq_ok, and_assoc]
  refine exists_congr fun envelope => and_congr_right fun _ => and_congr_right fun _ =>
    and_congr_right fun _ => and_congr_right fun _ => and_congr_right fun _ => ?_
  simp [eq_comm]

/-! ### The law a receipt is judged by -/

variable (E)

/-- A valid receipt is one that the constitutional law applies to. -/
def RightLaw (rawBytes : Bytes) : Prop :=
  (verifyReceipt E rawBytes).status = .valid →
    ∀ envelope, ingestEnvelope E rawBytes = .ok envelope →
      resolveProfile E envelope = .ok .envelopeMinus

variable {E}

/-- **Receipts are judged by their law exactly when none of another law verifies.** -/
theorem rightLaw_iff {rawBytes : Bytes} :
    RightLaw E rawBytes ↔
      ∀ envelope, ingestEnvelope E rawBytes = .ok envelope →
        envelope.eventHashProfile = some .runtimePortEventPreimageV1 ∨
          (envelope.eventHashProfile = none ∧ envelope.receiptType = .event) →
        ¬ envelope.Verifies E := by
  constructor
  · intro h envelope hi hother hv
    have hlaw := h (verifyReceipt_valid_iff.2 ⟨envelope, hi, hv⟩) envelope hi
    rcases resolveProfile_eq_envelopeMinus.1 hlaw with hp | ⟨hp, ht⟩
    · rcases hother with hp' | ⟨hp', -⟩ <;> simp [hp] at hp'
    · rcases hother with hp' | ⟨-, ht'⟩
      · simp [hp] at hp'
      · exact ht ht'
  · intro h hvalid envelope hi
    obtain ⟨envelope', hi', hv⟩ := verifyReceipt_valid_iff.1 hvalid
    obtain rfl : envelope' = envelope := Except.ok.inj (hi'.symm.trans hi)
    rw [resolveProfile_eq_envelopeMinus]
    cases hp : envelope'.eventHashProfile with
    | none => exact .inr ⟨rfl, fun ht => h envelope' hi (.inr ⟨hp, ht⟩) hv⟩
    | some profile =>
      cases profile with
      | constitutionalEnvelopeV1 => exact .inl rfl
      | runtimePortEventPreimageV1 => exact absurd hv (h envelope' hi (.inl hp))

/-- An `event` receipt that declares no profile. -/
def unprofiledEvent : ReceiptEnvelope :=
  vectorEnvelope .event 1000 (.object [("payload_kind", .string "provider.v0"),
    ("provider_id", .string "anthropic")])
    (.ofNat 0x755da8f3e6e206862971b67c233660e36cf20801d98420eef2c8f0f753853008)

/-- The third-party code on the receipt. -/
def unprofiledEventTables : Tables where
  envelopes := [(unprofiledEvent.toValue, unprofiledEvent)]
  digests := [(unprofiledEvent.body, unprofiledEvent.eventHash)]
  texts_nodup := by simp

/-- It is valid, and its law is ambiguous. -/
theorem not_rightLaw_unprofiledEvent :
    ¬ RightLaw unprofiledEventTables.externals (asBytes unprofiledEvent.toValue.text) := by
  intro h
  have hmem : (unprofiledEvent.toValue, unprofiledEvent) ∈ unprofiledEventTables.envelopes :=
    List.mem_singleton_self _
  have hv : Tables.Admissible unprofiledEvent.toValue :=
    Tables.admissible_of_checks (by decide +kernel)
  have hvalid := Tables.verifyReceipt_valid _ hmem hv
    (Tables.verifies rfl rfl rfl (List.mem_singleton_self _))
  have hlaw := h hvalid unprofiledEvent (Tables.ingestEnvelope_text hmem hv)
  rcases resolveProfile_eq_envelopeMinus.1 hlaw with hp | ⟨-, ht⟩
  · cases hp
  · exact ht rfl

end Rbh

end VertRule
