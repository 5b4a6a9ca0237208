import VertRule.Layers
import VertRule.Transfer

/-!
# The signature section

`verify_signed_receipt` and `verify_signed_receipt_with_trust` are to report that a signature
bundle was supplied whatever comes of it.  They do so once the receipt is ingested; a receipt that
is not ends them before the bundle is looked at (`presenceReported_iff`).
-/

namespace VertRule

variable (E : Externals)

/-- The result has a signature section, which says that a bundle was supplied, and that it is
valid only if its signature was proven. -/
def SignatureReported (rawBytes sigBytes : Bytes) (result : VerificationResult) : Prop :=
  ∃ signature, result.signatureValidation = some signature ∧ signature.present = true ∧
    (signature.valid = true →
      ∃ envelope bundle, SignatureProven E rawBytes sigBytes envelope bundle)

/-- Both entry points report the signature bundle they were given. -/
structure PresenceReported (rawBytes sigBytes : Bytes) : Prop where
  signed : SignatureReported E rawBytes sigBytes (verifySignedReceipt E rawBytes sigBytes)
  trusted : ∀ authoritySet trustPolicy, SignatureReported E rawBytes sigBytes
    (verifySignedReceiptWithTrust E rawBytes sigBytes authoritySet trustPolicy)

variable {E} {rawBytes sigBytes : Bytes} {envelope : ReceiptEnvelope}
  {authoritySet : AuthoritySet} {trustPolicy : TrustPolicy}

/-- `verify_signature_bundle` sets the section on each of its paths. -/
theorem verifySignatureBundle_reports (sigBytes : Bytes) (result : VerificationResult) :
    ∃ signature,
      (verifySignatureBundle E envelope sigBytes result).1.signatureValidation = some signature ∧
        signature.present = true ∧
        (signature.valid = true → ∃ bundle, E.signatureBundleFromSlice sigBytes = .ok bundle ∧
          verifySignature E envelope bundle = .ok ()) := by
  unfold verifySignatureBundle
  cases E.signatureBundleFromSlice sigBytes with
  | error e => exact ⟨_, rfl, rfl, by simp⟩
  | ok bundle =>
    dsimp only
    cases hv : verifySignature E envelope bundle with
    | error e => exact ⟨_, rfl, rfl, by simp⟩
    | ok u => exact ⟨_, rfl, rfl, fun _ => ⟨bundle, rfl, hv⟩⟩

/-- The trust layer leaves the section as the signature layer set it. -/
theorem verifySignedReceiptWithTrust_signatureValidation :
    (verifySignedReceiptWithTrust E rawBytes sigBytes authoritySet
        trustPolicy).signatureValidation =
      (verifySignedReceipt E rawBytes sigBytes).signatureValidation := by
  by_cases h : ∃ envelope bundle, SignatureProven E rawBytes sigBytes envelope bundle
  · obtain ⟨envelope, bundle, hp⟩ := h
    rw [hp.verifySignedReceiptWithTrust_eq, VerificationResult.judge_signatureValidation]
  · rw [verifySignedReceiptWithTrust_eq_of_not_proven h]

/-- What either entry point reports is what the signature layer reports. -/
theorem presenceReported_iff_signed : PresenceReported E rawBytes sigBytes ↔
    SignatureReported E rawBytes sigBytes (verifySignedReceipt E rawBytes sigBytes) := by
  constructor
  · exact PresenceReported.signed
  · intro h
    refine ⟨h, fun authoritySet trustPolicy => ?_⟩
    unfold SignatureReported
    rw [verifySignedReceiptWithTrust_signatureValidation]
    exact h

theorem verifySignedReceipt_reported (hi : ingestEnvelope E rawBytes = .ok envelope) :
    SignatureReported E rawBytes sigBytes (verifySignedReceipt E rawBytes sigBytes) := by
  obtain ⟨signature, hs, hpresent, hvalid⟩ :=
    verifySignatureBundle_reports sigBytes (verifySingleEnvelope E envelope)
  refine ⟨signature, ?_, hpresent, fun hv => ?_⟩
  · simp only [verifySignedReceipt, hi]
    exact hs
  · obtain ⟨bundle, hb, hver⟩ := hvalid hv
    exact ⟨envelope, bundle, hi, hb, hver⟩

/-- A receipt that is not ingested leaves no section, whatever the bundle is. -/
theorem verifySignedReceipt_unreported {e : VerifyError}
    (hi : ingestEnvelope E rawBytes = .error e) :
    (verifySignedReceipt E rawBytes sigBytes).signatureValidation = none := by
  simp only [verifySignedReceipt, hi]
  rfl

theorem verifySignedReceipt_reported_iff :
    SignatureReported E rawBytes sigBytes (verifySignedReceipt E rawBytes sigBytes) ↔
      ∃ envelope, ingestEnvelope E rawBytes = .ok envelope := by
  constructor
  · rintro ⟨signature, hs, -, -⟩
    cases hi : ingestEnvelope E rawBytes with
    | ok envelope => exact ⟨envelope, rfl⟩
    | error e => rw [verifySignedReceipt_unreported hi] at hs; cases hs
  · rintro ⟨envelope, hi⟩
    exact verifySignedReceipt_reported hi

/-- **The supplied signature bundle is reported exactly when the receipt is ingested.** -/
theorem presenceReported_iff : PresenceReported E rawBytes sigBytes ↔
    ∃ envelope, ingestEnvelope E rawBytes = .ok envelope :=
  presenceReported_iff_signed.trans verifySignedReceipt_reported_iff

/-! ### A receipt that is not JSON -/

/-- The signature bundle of the test vectors goes unreported next to a receipt that is not
JSON. -/
theorem not_presenceReported_malformedReceipt :
    ¬ PresenceReported signedExternals (asBytes "this is not json") vectorSignatureBytes := by
  intro h
  obtain ⟨envelope, hi⟩ := verifySignedReceipt_reported_iff.1 h.signed
  rw [signedExternals, ingestEnvelope_withSignatures] at hi
  obtain ⟨-, -, v, hv, -⟩ := ingestEnvelopeWithLimits_eq_ok.1 hi
  exact Tables.fromSlice_ne_ok (by decide +kernel) v hv

end VertRule
