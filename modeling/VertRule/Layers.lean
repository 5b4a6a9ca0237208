import VertRule.Verify

/-!
# The layers of verification

`verify_receipt`, `verify_signed_receipt` and `verify_signed_receipt_with_trust` make the same
checks on a receipt, the second also on its signature, and the third also on the signing key.
Each layer extends the result of the one below (`VerificationResult.Extends`), and
`verification_layers_add` says what its verdict adds.
-/

namespace VertRule

/-! ### Results that grow -/

namespace VerificationResult

/-- `s` keeps what `r` reports: its errors, perhaps with more after them, and its digests. -/
structure Extends (s r : VerificationResult) : Prop where
  errors : r.errors <+: s.errors
  digestValidation : s.digestValidation = r.digestValidation

variable {r s t : VerificationResult}

theorem Extends.refl (r : VerificationResult) : r.Extends r := ⟨List.prefix_rfl, rfl⟩

theorem Extends.trans (h : t.Extends s) (h' : s.Extends r) : t.Extends r :=
  ⟨h'.errors.trans h.errors, h.digestValidation.trans h'.digestValidation⟩

theorem Extends.addError (h : s.Extends r) (error : String) : (s.addError error).Extends r :=
  ⟨h.errors.trans (List.prefix_append _ _), h.digestValidation⟩

/-- The sections on the signature and on trust are not part of what is kept. -/
theorem Extends.withSections (h : s.Extends r) (signature : Option SignatureValidation)
    (trust : Option TrustValidation) :
    ({ s with signatureValidation := signature, trustValidation := trust } :
      VerificationResult).Extends r :=
  ⟨h.errors, h.digestValidation⟩

end VerificationResult

open VerificationResult

variable (E : Externals)

/-- The receipt is ingested, the signature bundle parses, and its signature verifies. -/
structure SignatureProven (rawBytes sigBytes : Bytes) (envelope : ReceiptEnvelope)
    (bundle : SignatureBundle) : Prop where
  ingested : ingestEnvelope E rawBytes = .ok envelope
  parsed : E.signatureBundleFromSlice sigBytes = .ok bundle
  verified : verifySignature E envelope bundle = .ok ()

variable {E} {rawBytes sigBytes : Bytes} {envelope : ReceiptEnvelope} {bundle : SignatureBundle}
  {authoritySet : AuthoritySet} {trustPolicy : TrustPolicy}

/-! ### The signature layer -/

/-- The trust section of a single receipt is absent. -/
theorem verifySingleEnvelope_trustValidation :
    (verifySingleEnvelope E envelope).trustValidation = none := by
  have hcollect : ∀ (r : VerificationResult) check message, r.trustValidation = none →
      (r.collect check message).trustValidation = none := by
    intro r check message h
    cases check with
    | error e => exact h
    | ok u => exact h
  unfold verifySingleEnvelope
  cases verifyEventHash E envelope with
  | error e => exact hcollect _ _ _ (hcollect _ _ _ rfl)
  | ok u => exact hcollect _ _ _ (hcollect _ _ _ rfl)

theorem verifySignatureBundle_extends (result : VerificationResult) :
    (verifySignatureBundle E envelope sigBytes result).1.Extends result := by
  unfold verifySignatureBundle
  cases E.signatureBundleFromSlice sigBytes with
  | error e => exact ((Extends.refl result).addError _).withSections _ _
  | ok bundle =>
    dsimp only
    cases verifySignature E envelope bundle with
    | error e => exact ((Extends.refl result).addError _).withSections _ _
    | ok u => exact (Extends.refl result).withSections _ _

theorem verifySignatureBundle_trustValidation (result : VerificationResult) :
    (verifySignatureBundle E envelope sigBytes result).1.trustValidation =
      result.trustValidation := by
  unfold verifySignatureBundle
  cases E.signatureBundleFromSlice sigBytes with
  | error e => rfl
  | ok bundle =>
    dsimp only
    cases verifySignature E envelope bundle <;> rfl

/-- The signature layer gives no trust verdict. -/
theorem verifySignedReceipt_trustValidation :
    (verifySignedReceipt E rawBytes sigBytes).trustValidation = none := by
  unfold verifySignedReceipt
  cases ingestEnvelope E rawBytes with
  | error e => rfl
  | ok envelope =>
    exact (verifySignatureBundle_trustValidation _).trans verifySingleEnvelope_trustValidation

theorem verifySignedReceipt_extends :
    (verifySignedReceipt E rawBytes sigBytes).Extends (verifyReceipt E rawBytes) := by
  unfold verifySignedReceipt verifyReceipt
  cases ingestEnvelope E rawBytes with
  | error e => exact Extends.refl _
  | ok envelope => exact verifySignatureBundle_extends _

/-- With a proven signature, the result is that of the receipt with a positive signature
section. -/
theorem SignatureProven.verifySignedReceipt_eq
    (h : SignatureProven E rawBytes sigBytes envelope bundle) :
    verifySignedReceipt E rawBytes sigBytes =
      { verifyReceipt E rawBytes with signatureValidation := some ⟨true, true, true⟩ } := by
  simp only [verifySignedReceipt, verifyReceipt, h.ingested,
    verifySignatureBundle_ok h.parsed h.verified]

theorem verifySignedReceipt_rejected
    (h : ¬ ∃ envelope bundle, SignatureProven E rawBytes sigBytes envelope bundle) :
    (verifySignedReceipt E rawBytes sigBytes).Rejected := by
  unfold verifySignedReceipt
  cases hi : ingestEnvelope E rawBytes with
  | error e => exact rejected_invalid _
  | ok envelope =>
    refine (verifySignatureBundle_rejected _ ?_).1
    rintro ⟨bundle, hb, hv⟩
    exact h ⟨envelope, bundle, hi, hb, hv⟩

theorem verifySignedReceipt_valid_iff :
    (verifySignedReceipt E rawBytes sigBytes).status = .valid ↔
      (verifyReceipt E rawBytes).status = .valid ∧
        ∃ envelope bundle, SignatureProven E rawBytes sigBytes envelope bundle := by
  by_cases h : ∃ envelope bundle, SignatureProven E rawBytes sigBytes envelope bundle
  · obtain ⟨envelope, bundle, hp⟩ := h
    rw [hp.verifySignedReceipt_eq]
    exact ⟨fun hs => ⟨hs, envelope, bundle, hp⟩, fun hs => hs.1⟩
  · -- whatever is missing, the layer reports it as an error
    exact iff_of_false (verifySignedReceipt_rejected h).status_ne fun hs => h hs.2

/-! ### The trust layer -/

/-- What the trust layer makes of a result. -/
def VerificationResult.judge (result : VerificationResult) (trust : TrustValidation) :
    VerificationResult :=
  { (if trust.status ≠ .trusted then result.addError s!"trust: {trust.status.display}"
      else result) with trustValidation := some trust }

theorem VerificationResult.judge_extends (result : VerificationResult) (trust : TrustValidation) :
    (result.judge trust).Extends result := by
  unfold VerificationResult.judge
  split_ifs with h
  · exact ((Extends.refl result).addError _).withSections _ _
  · exact (Extends.refl result).withSections _ _

theorem VerificationResult.judge_valid_iff {result : VerificationResult} {trust : TrustValidation} :
    (result.judge trust).status = .valid ↔ result.status = .valid ∧ trust.status = .trusted := by
  unfold VerificationResult.judge
  split_ifs with h <;> simp_all

theorem VerificationResult.judge_signatureValidation (result : VerificationResult)
    (trust : TrustValidation) :
    (result.judge trust).signatureValidation = result.signatureValidation := by
  unfold VerificationResult.judge
  split_ifs with h <;> rfl

/-- With a proven signature, the result of the signature layer is judged by the signing key. -/
theorem SignatureProven.verifySignedReceiptWithTrust_eq
    (h : SignatureProven E rawBytes sigBytes envelope bundle) :
    verifySignedReceiptWithTrust E rawBytes sigBytes authoritySet trustPolicy =
      (verifySignedReceipt E rawBytes sigBytes).judge
        (evaluateTrust bundle.keyId authoritySet trustPolicy (some bundle.publicKeyB64)) := by
  simp only [verifySignedReceiptWithTrust, verifySignedReceipt, h.ingested,
    verifySignatureBundle_ok h.parsed h.verified, VerificationResult.judge]

/-- Without one, the trust layer adds nothing. -/
theorem verifySignedReceiptWithTrust_eq_of_not_proven
    (h : ¬ ∃ envelope bundle, SignatureProven E rawBytes sigBytes envelope bundle) :
    verifySignedReceiptWithTrust E rawBytes sigBytes authoritySet trustPolicy =
      verifySignedReceipt E rawBytes sigBytes := by
  unfold verifySignedReceiptWithTrust verifySignedReceipt
  cases hi : ingestEnvelope E rawBytes with
  | error e => rfl
  | ok envelope =>
    have hnone := (verifySignatureBundle_rejected (verifySingleEnvelope E envelope)
      fun ⟨bundle, hb, hv⟩ => h ⟨envelope, bundle, hi, hb, hv⟩).2
    dsimp only
    split
    · next heq => rw [heq]
    · next heq => rw [heq] at hnone; cases hnone

variable (E rawBytes sigBytes authoritySet trustPolicy)

/-- Each layer keeps what the one below reports, and is valid exactly when that one is and its own
check passes; a key gets a trust verdict only after its signature verified. -/
structure LayersAdd : Prop where
  signed_errors :
    (verifyReceipt E rawBytes).errors <+: (verifySignedReceipt E rawBytes sigBytes).errors
  trusted_errors :
    (verifySignedReceipt E rawBytes sigBytes).errors <+:
      (verifySignedReceiptWithTrust E rawBytes sigBytes authoritySet trustPolicy).errors
  signed_digests :
    (verifySignedReceipt E rawBytes sigBytes).digestValidation =
      (verifyReceipt E rawBytes).digestValidation
  trusted_digests :
    (verifySignedReceiptWithTrust E rawBytes sigBytes authoritySet trustPolicy).digestValidation =
      (verifyReceipt E rawBytes).digestValidation
  signature :
    (verifySignedReceiptWithTrust E rawBytes sigBytes authoritySet
        trustPolicy).signatureValidation =
      (verifySignedReceipt E rawBytes sigBytes).signatureValidation
  signed_valid :
    (verifySignedReceipt E rawBytes sigBytes).status = .valid ↔
      (verifyReceipt E rawBytes).status = .valid ∧
        ∃ envelope bundle, ingestEnvelope E rawBytes = .ok envelope ∧
          E.signatureBundleFromSlice sigBytes = .ok bundle ∧
          verifySignature E envelope bundle = .ok ()
  trusted_valid :
    (verifySignedReceiptWithTrust E rawBytes sigBytes authoritySet trustPolicy).status = .valid ↔
      (verifySignedReceipt E rawBytes sigBytes).status = .valid ∧
        ∃ bundle, E.signatureBundleFromSlice sigBytes = .ok bundle ∧
          (evaluateTrust bundle.keyId authoritySet trustPolicy
            (some bundle.publicKeyB64)).status = .trusted
  trust_present :
    (verifySignedReceiptWithTrust E rawBytes sigBytes authoritySet
        trustPolicy).trustValidation ≠ none →
      (∃ envelope, ingestEnvelope E rawBytes = .ok envelope) ∧
        ∃ s, (verifySignedReceiptWithTrust E rawBytes sigBytes authoritySet
            trustPolicy).signatureValidation = some s ∧
          s.valid = true ∧ s.keyIdConsistent = true

/-- **Verification layers only add.** -/
theorem verification_layers_add :
    LayersAdd E rawBytes sigBytes authoritySet trustPolicy := by
  have hsigned : (verifySignedReceipt E rawBytes sigBytes).status = .valid ↔
      (verifyReceipt E rawBytes).status = .valid ∧
        ∃ envelope bundle, ingestEnvelope E rawBytes = .ok envelope ∧
          E.signatureBundleFromSlice sigBytes = .ok bundle ∧
          verifySignature E envelope bundle = .ok () := by
    rw [verifySignedReceipt_valid_iff]
    refine and_congr_right fun _ => exists_congr fun envelope => exists_congr fun bundle => ?_
    exact ⟨fun h => ⟨h.ingested, h.parsed, h.verified⟩, fun ⟨hi, hb, hv⟩ => ⟨hi, hb, hv⟩⟩
  have hext : (verifySignedReceipt E rawBytes sigBytes).Extends (verifyReceipt E rawBytes) :=
    verifySignedReceipt_extends
  -- the trust layer looks at a key only once its signature is proven
  by_cases h : ∃ envelope bundle, SignatureProven E rawBytes sigBytes envelope bundle
  · obtain ⟨envelope, bundle, hp⟩ := h
    have heq : verifySignedReceiptWithTrust E rawBytes sigBytes authoritySet trustPolicy = _ :=
      hp.verifySignedReceiptWithTrust_eq
    have hjudge := (verifySignedReceipt E rawBytes sigBytes).judge_extends
      (evaluateTrust bundle.keyId authoritySet trustPolicy (some bundle.publicKeyB64))
    refine ⟨hext.errors, ?_, hext.digestValidation, ?_, ?_, hsigned, ?_, ?_⟩ <;> rw [heq]
    · exact hjudge.errors
    · exact hjudge.digestValidation.trans hext.digestValidation
    · exact judge_signatureValidation _ _
    · rw [judge_valid_iff]
      refine and_congr_right fun _ => ⟨fun ht => ⟨bundle, hp.parsed, ht⟩, ?_⟩
      rintro ⟨bundle', hb', ht⟩
      obtain rfl := Except.ok.inj (hp.parsed.symm.trans hb')
      exact ht
    · intro _
      rw [judge_signatureValidation, hp.verifySignedReceipt_eq]
      exact ⟨⟨envelope, hp.ingested⟩, _, rfl, rfl, rfl⟩
  · have heq : verifySignedReceiptWithTrust E rawBytes sigBytes authoritySet trustPolicy =
        verifySignedReceipt E rawBytes sigBytes :=
      verifySignedReceiptWithTrust_eq_of_not_proven h
    have hrej := (verifySignedReceipt_rejected h).status_ne
    refine ⟨hext.errors, ?_, hext.digestValidation, ?_, ?_, hsigned, ?_, ?_⟩ <;> rw [heq]
    · exact hext.digestValidation
    · exact iff_of_false hrej fun hs => hrej hs.1
    · exact fun hs => absurd verifySignedReceipt_trustValidation hs

end VertRule
