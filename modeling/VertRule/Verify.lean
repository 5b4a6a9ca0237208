import VertRule.Envelope
import VertRule.Ingestion
import VertRule.Result
import VertRule.Signature
import VertRule.Violations

/-!
# The verification facade

`verify.rs`: the entry points for a single receipt, a chain and a signed receipt, each as a
`VerificationResult`, with what their verdicts amount to.
-/

namespace VertRule

variable (E : Externals)

/-- `if let Err(e) = check { result.add_error(..) }`. -/
def VerificationResult.collect (result : VerificationResult) (check : Except VerifyError Unit)
    (message : VerifyError → String) : VerificationResult :=
  match check with
  | .error e => result.addError (message e)
  | .ok () => result

/-- `verify_single_envelope`. -/
def verifySingleEnvelope (envelope : ReceiptEnvelope) : VerificationResult :=
  let result := VerificationResult.validSingle
  let result := result.collect (verifyEnvelopeVersion envelope) E.message
  let result := result.collect (verifyAlgorithms E envelope) E.message
  match verifyEventHash E envelope with
  | .error e =>
    { result with digestValidation := { result.digestValidation with allHashesMatch := false } }
      |>.addError (E.message e)
  | .ok () => result

/-- `verify_receipt_with_limits`. -/
def verifyReceiptWithLimits (rawBytes : Bytes) (limits : VerifierLimits) : VerificationResult :=
  match ingestEnvelopeWithLimits E rawBytes limits with
  | .ok envelope => verifySingleEnvelope E envelope
  | .error e => .invalid (E.message e)

/-- `verify_receipt`. -/
def verifyReceipt (rawBytes : Bytes) : VerificationResult :=
  match ingestEnvelope E rawBytes with
  | .ok envelope => verifySingleEnvelope E envelope
  | .error e => .invalid (E.message e)

/-- The loop of `check_per_envelope`, over envelopes numbered from `i`. -/
def checkPerEnvelopeFrom : ℕ → List ReceiptEnvelope → VerificationResult × Bool →
    VerificationResult × Bool
  | _, [], st => st
  | i, env :: envelopes, (result, allMatch) =>
    let message (e : VerifyError) : String := s!"envelope {i}: {E.message e}"
    let result := result.collect (verifyEnvelopeVersion env) message
    let result := result.collect (verifyAlgorithms E env) message
    checkPerEnvelopeFrom (i + 1) envelopes
      (match verifyEventHash E env with
        | .error e => (result.addError (message e), false)
        | .ok () => (result, allMatch))

/-- `check_per_envelope`: the result with the errors found, and `all_hashes_match`. -/
def checkPerEnvelope (envelopes : List ReceiptEnvelope) (result : VerificationResult) :
    VerificationResult × Bool :=
  checkPerEnvelopeFrom E 0 envelopes (result, true)

/-- `verify_chain_envelopes`. -/
def verifyChainEnvelopes : List ReceiptEnvelope → VerificationResult
  | [] => { VerificationResult.validSingle with chainValidation := some ⟨0, 0, 0⟩ }
  | first :: rest =>
    let envelopes := first :: rest
    let (result, allHashesMatch) := checkPerEnvelope E envelopes .validSingle
    let detail := checkChainDetail envelopes
    let result := detail.errors.foldl (fun result e => result.addError (E.message e)) result
    let last := envelopes.getLast (List.cons_ne_nil first rest)
    { result with
      digestValidation := ⟨allHashesMatch, detail.linkageOk, detail.orderingOk⟩
      chainValidation := some ⟨envelopes.length, first.logicalTime, last.logicalTime⟩
      contextConsistency := some ⟨detail.contextUniform⟩
      policyConsistency := some ⟨detail.policyStable, !detail.policyStable⟩
      schemaConsistency := some ⟨detail.schemaUniform⟩ }

/-- `verify_receipt_chain_with_limits`. -/
def verifyReceiptChainWithLimits (rawBytes : Bytes) (limits : VerifierLimits) :
    VerificationResult :=
  match ingestChainWithLimits E rawBytes limits with
  | .ok envelopes => verifyChainEnvelopes E envelopes
  | .error e => .invalid (E.message e)

/-- `verify_receipt_chain`. -/
def verifyReceiptChain (rawBytes : Bytes) : VerificationResult :=
  match ingestChain E rawBytes with
  | .ok envelopes => verifyChainEnvelopes E envelopes
  | .error e => .invalid (E.message e)

/-- `verify_signature_bundle`: the updated result, and the bundle if its signature verifies. -/
def verifySignatureBundle (envelope : ReceiptEnvelope) (sigBytes : Bytes)
    (result : VerificationResult) : VerificationResult × Option SignatureBundle :=
  match E.signatureBundleFromSlice sigBytes with
  | .error e =>
    ({ result.addError s!"invalid signature bundle: {e}" with
        signatureValidation := some ⟨true, false, false⟩ }, none)
  | .ok bundle =>
    let keyIdConsistent := checkKeyIdConsistency E bundle
    match verifySignature E envelope bundle with
    | .ok () =>
      ({ result with signatureValidation := some ⟨true, true, keyIdConsistent⟩ }, some bundle)
    | .error e =>
      ({ result.addError (E.message e) with
          signatureValidation := some ⟨true, false, keyIdConsistent⟩ }, none)

/-- `verify_signed_receipt`. -/
def verifySignedReceipt (rawBytes sigBytes : Bytes) : VerificationResult :=
  match ingestEnvelope E rawBytes with
  | .error e => .invalid (E.message e)
  | .ok envelope =>
    (verifySignatureBundle E envelope sigBytes (verifySingleEnvelope E envelope)).1

/-- `verify_signed_receipt_with_trust`. -/
def verifySignedReceiptWithTrust (rawBytes sigBytes : Bytes) (authoritySet : AuthoritySet)
    (trustPolicy : TrustPolicy) : VerificationResult :=
  match ingestEnvelope E rawBytes with
  | .error e => .invalid (E.message e)
  | .ok envelope =>
    match verifySignatureBundle E envelope sigBytes (verifySingleEnvelope E envelope) with
    | (result, none) => result
    | (result, some bundle) =>
      let trust :=
        evaluateTrust bundle.keyId authoritySet trustPolicy (some bundle.publicKeyB64)
      let result :=
        if trust.status ≠ .trusted then result.addError s!"trust: {trust.status.display}"
        else result
      { result with trustValidation := some trust }

/-- The three checks `verify_receipt` makes on an ingested envelope. -/
structure ReceiptEnvelope.Verifies (envelope : ReceiptEnvelope) : Prop where
  version : verifyEnvelopeVersion envelope = .ok ()
  algorithms : verifyAlgorithms E envelope = .ok ()
  eventHash : verifyEventHash E envelope = .ok ()

variable {E}

namespace VerificationResult

variable {r : VerificationResult} {check : Except VerifyError Unit} {message : VerifyError → String}

theorem collect_ok (h : check = .ok ()) : r.collect check message = r := by
  rw [h]; rfl

theorem rejected_collect (h : r.Rejected ∨ check ≠ .ok ()) :
    (r.collect check message).Rejected := by
  cases check with
  | error e => exact rejected_addError _ _
  | ok u => exact h.resolve_right (by simp)

theorem foldl_addError_rejected {errs : List VerifyError} (h : r.Rejected ∨ errs ≠ []) :
    (errs.foldl (fun r e => r.addError (message e)) r).Rejected := by
  induction errs generalizing r with
  | nil => exact h.resolve_right (by simp)
  | cons e errs ih => exact ih (.inl (rejected_addError _ _))

end VerificationResult

open VerificationResult

/-! ### One receipt -/

section Single

variable {envelope : ReceiptEnvelope}

theorem verifySingleEnvelope_of_verifies (h : envelope.Verifies E) :
    verifySingleEnvelope E envelope = .validSingle := by
  simp [verifySingleEnvelope, h.version, h.algorithms, h.eventHash, collect]

theorem verifySingleEnvelope_rejected (h : ¬ envelope.Verifies E) :
    (verifySingleEnvelope E envelope).Rejected := by
  unfold verifySingleEnvelope
  cases hh : verifyEventHash E envelope with
  | error e => exact rejected_addError _ _
  | ok u =>
    by_cases hv : verifyEnvelopeVersion envelope = .ok ()
    · exact rejected_collect (.inr fun ha => h ⟨hv, ha, hh⟩)
    · exact rejected_collect (.inl (rejected_collect (.inr hv)))

theorem verifySingleEnvelope_valid_iff :
    (verifySingleEnvelope E envelope).status = .valid ↔ envelope.Verifies E := by
  by_cases h : envelope.Verifies E
  · simp [verifySingleEnvelope_of_verifies h, h]
  · simp [(verifySingleEnvelope_rejected h).status, h]

theorem verifySingleEnvelope_consistent : (verifySingleEnvelope E envelope).Consistent := by
  by_cases h : envelope.Verifies E
  · rw [verifySingleEnvelope_of_verifies h]
    exact consistent_validSingle
  · exact (verifySingleEnvelope_rejected h).consistent

variable {rawBytes : Bytes} {limits : VerifierLimits}

/-- **A receipt is valid exactly when it is ingested and its envelope verifies.** -/
theorem verifyReceiptWithLimits_valid_iff :
    (verifyReceiptWithLimits E rawBytes limits).status = .valid ↔
      ∃ envelope, ingestEnvelopeWithLimits E rawBytes limits = .ok envelope ∧
        envelope.Verifies E := by
  unfold verifyReceiptWithLimits
  cases ingestEnvelopeWithLimits E rawBytes limits with
  | error e => simp
  | ok envelope => simp [verifySingleEnvelope_valid_iff]

theorem verifyReceipt_valid_iff :
    (verifyReceipt E rawBytes).status = .valid ↔
      ∃ envelope, ingestEnvelope E rawBytes = .ok envelope ∧ envelope.Verifies E :=
  verifyReceiptWithLimits_valid_iff

theorem verifyReceiptWithLimits_consistent :
    (verifyReceiptWithLimits E rawBytes limits).Consistent := by
  unfold verifyReceiptWithLimits
  cases ingestEnvelopeWithLimits E rawBytes limits with
  | error e => exact (rejected_invalid _).consistent
  | ok envelope => exact verifySingleEnvelope_consistent

theorem verifyReceipt_consistent : (verifyReceipt E rawBytes).Consistent :=
  verifyReceiptWithLimits_consistent

end Single

/-! ### Chains -/

section Chain

variable {envelopes : List ReceiptEnvelope}

theorem checkPerEnvelopeFrom_of_verifies {i : ℕ} {st : VerificationResult × Bool}
    (h : ∀ env ∈ envelopes, env.Verifies E) : checkPerEnvelopeFrom E i envelopes st = st := by
  induction envelopes generalizing i st with
  | nil => rfl
  | cons env envelopes ih =>
    have hv := h env List.mem_cons_self
    simp only [checkPerEnvelopeFrom, collect_ok hv.version, collect_ok hv.algorithms,
      hv.eventHash]
    exact ih fun e he => h e (List.mem_cons_of_mem _ he)

theorem checkPerEnvelopeFrom_rejected {i : ℕ} {st : VerificationResult × Bool}
    (h : st.1.Rejected ∨ ¬ ∀ env ∈ envelopes, env.Verifies E) :
    (checkPerEnvelopeFrom E i envelopes st).1.Rejected := by
  induction envelopes generalizing i st with
  | nil => exact h.resolve_right (by simp)
  | cons env envelopes ih =>
    rw [checkPerEnvelopeFrom]
    refine ih ?_
    cases hh : verifyEventHash E env with
    | error e => exact .inl (rejected_addError _ _)
    | ok u =>
      by_cases hv : verifyEnvelopeVersion env = .ok ()
      · by_cases ha : verifyAlgorithms E env = .ok ()
        · rw [collect_ok hv, collect_ok ha]
          refine h.imp id fun hn hall => hn ?_
          simpa using ⟨⟨hv, ha, hh⟩, hall⟩
        · exact .inl (rejected_collect (.inr ha))
      · exact .inl (rejected_collect (.inl (rejected_collect (.inr hv))))

theorem verifyChainEnvelopes_rejected
    (h : ¬ ((∀ env ∈ envelopes, env.Verifies E) ∧ ValidChain envelopes)) :
    (verifyChainEnvelopes E envelopes).Rejected := by
  cases envelopes with
  | nil => simp [ValidChain] at h
  | cons first rest =>
    have hr : ((checkChainDetail (first :: rest)).errors.foldl
        (fun r e => r.addError (E.message e))
        (checkPerEnvelope E (first :: rest) .validSingle).1).Rejected := by
      refine foldl_addError_rejected ?_
      by_cases hv : ∀ env ∈ first :: rest, env.Verifies E
      · exact .inr fun he => h ⟨hv, checkChainDetail_errors_eq_nil.1 he⟩
      · exact .inl (checkPerEnvelopeFrom_rejected (.inr hv))
    exact ⟨hr.status, hr.errors⟩

theorem verifyChainEnvelopes_of_verifies (hv : ∀ env ∈ envelopes, env.Verifies E)
    (hc : ValidChain envelopes) :
    (verifyChainEnvelopes E envelopes).status = .valid ∧
      (verifyChainEnvelopes E envelopes).errors = [] ∧
      (verifyChainEnvelopes E envelopes).Positive := by
  cases envelopes with
  | nil => exact ⟨rfl, rfl, by constructor <;> simp [verifyChainEnvelopes, validSingle]⟩
  | cons first rest =>
    have he := checkChainDetail_errors_eq_nil.2 hc
    obtain ⟨hl, ho, hctx, hpol, hsch⟩ := checkChainDetail_flags he
    simp only [verifyChainEnvelopes, checkPerEnvelope, checkPerEnvelopeFrom_of_verifies hv, he,
      hl, ho, hctx, hpol, hsch, List.foldl_nil]
    exact ⟨rfl, rfl, by constructor <;> simp [validSingle]⟩

theorem verifyChainEnvelopes_consistent : (verifyChainEnvelopes E envelopes).Consistent := by
  by_cases h : (∀ env ∈ envelopes, env.Verifies E) ∧ ValidChain envelopes
  · obtain ⟨hs, he, hp⟩ := verifyChainEnvelopes_of_verifies h.1 h.2
    exact ⟨by simp [hs, he], fun _ => hp⟩
  · exact (verifyChainEnvelopes_rejected h).consistent

theorem verifyChainEnvelopes_valid_iff :
    (verifyChainEnvelopes E envelopes).status = .valid ↔
      (∀ env ∈ envelopes, env.Verifies E) ∧ ValidChain envelopes := by
  constructor
  · intro hs
    by_contra h
    exact (verifyChainEnvelopes_rejected h).status_ne hs
  · exact fun h => (verifyChainEnvelopes_of_verifies h.1 h.2).1

variable {rawBytes : Bytes} {limits : VerifierLimits}

/-- **A chain is valid exactly when it is ingested, every envelope verifies, and the chain
rules hold.** -/
theorem verifyReceiptChainWithLimits_valid_iff :
    (verifyReceiptChainWithLimits E rawBytes limits).status = .valid ↔
      ∃ envelopes, ingestChainWithLimits E rawBytes limits = .ok envelopes ∧
        (∀ env ∈ envelopes, env.Verifies E) ∧ ValidChain envelopes := by
  unfold verifyReceiptChainWithLimits
  cases ingestChainWithLimits E rawBytes limits with
  | error e => simp
  | ok envelopes => simp [verifyChainEnvelopes_valid_iff]

theorem verifyReceiptChain_valid_iff :
    (verifyReceiptChain E rawBytes).status = .valid ↔
      ∃ envelopes, ingestChain E rawBytes = .ok envelopes ∧
        (∀ env ∈ envelopes, env.Verifies E) ∧ ValidChain envelopes :=
  verifyReceiptChainWithLimits_valid_iff

theorem verifyReceiptChainWithLimits_consistent :
    (verifyReceiptChainWithLimits E rawBytes limits).Consistent := by
  unfold verifyReceiptChainWithLimits
  cases ingestChainWithLimits E rawBytes limits with
  | error e => exact (rejected_invalid _).consistent
  | ok envelopes => exact verifyChainEnvelopes_consistent

theorem verifyReceiptChain_consistent : (verifyReceiptChain E rawBytes).Consistent :=
  verifyReceiptChainWithLimits_consistent

end Chain

/-! ### Signed receipts -/

section Signed

variable {envelope : ReceiptEnvelope} {sigBytes : Bytes} {result : VerificationResult}

/-- When the signature verifies, only the signature section of the result changes. -/
theorem verifySignatureBundle_ok {bundle : SignatureBundle}
    (hb : E.signatureBundleFromSlice sigBytes = .ok bundle)
    (hv : verifySignature E envelope bundle = .ok ()) :
    verifySignatureBundle E envelope sigBytes result =
      ({ result with signatureValidation := some ⟨true, true, true⟩ }, some bundle) := by
  simp [verifySignatureBundle, hb, hv, checkKeyIdConsistency_of_verifySignature hv]

/-- Otherwise the result is rejected, and no bundle comes back. -/
theorem verifySignatureBundle_rejected (result : VerificationResult)
    (h : ¬ ∃ bundle, E.signatureBundleFromSlice sigBytes = .ok bundle ∧
      verifySignature E envelope bundle = .ok ()) :
    (verifySignatureBundle E envelope sigBytes result).1.Rejected ∧
      (verifySignatureBundle E envelope sigBytes result).2 = none := by
  unfold verifySignatureBundle
  cases hb : E.signatureBundleFromSlice sigBytes with
  | error e => exact ⟨⟨rfl, by simp⟩, rfl⟩
  | ok bundle =>
    cases hv : verifySignature E envelope bundle with
    | error e => simp only [hv]; exact ⟨⟨rfl, by simp⟩, trivial⟩
    | ok u => exact absurd ⟨bundle, hb, hv⟩ h

/-- Adding a positive signature section keeps a result consistent. -/
theorem VerificationResult.Consistent.withSignature (h : result.Consistent) :
    ({ result with signatureValidation := some ⟨true, true, true⟩ } : VerificationResult).Consistent
    where
  status_iff := h.status_iff
  positive hs := { h.positive hs with signature := by simp }

variable {rawBytes : Bytes}

theorem verifySignedReceipt_consistent :
    (verifySignedReceipt E rawBytes sigBytes).Consistent := by
  unfold verifySignedReceipt
  cases ingestEnvelope E rawBytes with
  | error e => exact (rejected_invalid _).consistent
  | ok envelope =>
    by_cases h : ∃ bundle, E.signatureBundleFromSlice sigBytes = .ok bundle ∧
        verifySignature E envelope bundle = .ok ()
    · obtain ⟨bundle, hb, hv⟩ := h
      simp only [verifySignatureBundle_ok hb hv]
      exact verifySingleEnvelope_consistent.withSignature
    · exact (verifySignatureBundle_rejected _ h).1.consistent

theorem verifySignedReceiptWithTrust_consistent {authoritySet : AuthoritySet}
    {trustPolicy : TrustPolicy} :
    (verifySignedReceiptWithTrust E rawBytes sigBytes authoritySet trustPolicy).Consistent := by
  unfold verifySignedReceiptWithTrust
  cases ingestEnvelope E rawBytes with
  | error e => exact (rejected_invalid _).consistent
  | ok envelope =>
    by_cases h : ∃ bundle, E.signatureBundleFromSlice sigBytes = .ok bundle ∧
        verifySignature E envelope bundle = .ok ()
    · obtain ⟨bundle, hb, hv⟩ := h
      have hc : (verifySingleEnvelope E envelope).Consistent := verifySingleEnvelope_consistent
      replace hc := hc.withSignature
      simp only [verifySignatureBundle_ok hb hv]
      split_ifs with ht
      · exact Rejected.consistent ⟨rfl, by simp⟩
      · exact ⟨hc.status_iff, fun hs => { hc.positive hs with trust := by simpa using ht }⟩
    · obtain ⟨hr, hn⟩ := verifySignatureBundle_rejected (verifySingleEnvelope E envelope) h
      dsimp only
      split
      next heq => rw [heq] at hr; exact hr.consistent
      next heq => rw [heq] at hn; cases hn

end Signed

end VertRule
