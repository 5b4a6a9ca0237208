import VertRule.Echo.Basic

/-!
# What reports repeat

The errors of the chain path and of the signed path, traced back to the text they repeat.  An
envelope repeats nothing that was not admitted with it; the signature bundle and the authority
set do not pass admission, and their text comes through.
-/

namespace VertRule

variable {E : Externals} {admits : Char → Prop}

/-! ### Verification -/

/-- The text of a result is admitted, and nothing was added to it but errors. -/
structure VerificationResult.Plain (admits : Char → Prop) (r : VerificationResult) : Prop where
  schemaVersion : Text admits r.schemaVersion
  errors : ∀ s ∈ r.errors, Text admits s
  chain : r.chainValidation = none
  trust : r.trustValidation = none

namespace VerificationResult

variable {r : VerificationResult}

theorem Plain.addError {error : String} (h : r.Plain admits) (he : Text admits error) :
    (r.addError error).Plain admits where
  schemaVersion := h.schemaVersion
  errors := by simpa [or_imp, forall_and] using ⟨h.errors, he⟩
  chain := h.chain
  trust := h.trust

theorem Plain.collect (h : r.Plain admits) (check : Except VerifyError Unit)
    (message : VerifyError → String) (hc : ∀ e, check = .error e → Text admits (message e)) :
    (r.collect check message).Plain admits := by
  cases check with
  | error e => exact h.addError (hc e rfl)
  | ok u => exact h

theorem Plain.foldl (h : r.Plain admits) (errs : List VerifyError)
    (message : VerifyError → String) (he : ∀ e ∈ errs, Text admits (message e)) :
    (errs.foldl (fun r e => r.addError (message e)) r).Plain admits := by
  induction errs generalizing r with
  | nil => exact h
  | cons e errs ih =>
    rw [List.forall_mem_cons] at he
    exact ih (h.addError he.1) he.2

theorem plain_validSingle (laws : EchoLaws E admits) : validSingle.Plain admits where
  schemaVersion := (laws.literal (s := profileVersion) (by decide)).2 trivial
  errors := by simp
  chain := rfl
  trust := rfl

theorem plain_invalid {error : String} (laws : EchoLaws E admits) (h : Text admits error) :
    (invalid error).Plain admits where
  schemaVersion := (laws.literal (s := profileVersion) (by decide)).2 trivial
  errors := by simpa [invalid] using h
  chain := rfl
  trust := rfl

end VerificationResult

section Envelope

variable {envelope : ReceiptEnvelope} {e : VerifyError}

theorem verifyEnvelopeVersion_traced (h : verifyEnvelopeVersion envelope = .error e) :
    e.Traced admits := by
  unfold verifyEnvelopeVersion at h
  split_ifs at h
  obtain rfl := Except.error.inj h
  simp [VerifyError.Traced, VerifyError.echo]

theorem checkMarker_traced {declared : Option String} {expected : String}
    {err : String → String → VerifyError} (herr : ∀ s t, (err s t).echo = [s, t])
    (hd : ∀ s ∈ declared, Text admits s) (he : Text admits expected)
    (h : checkMarker declared expected err = .error e) : e.Traced admits := by
  unfold checkMarker at h
  split at h
  next s =>
    split_ifs at h
    obtain rfl := Except.error.inj h
    simpa [VerifyError.Traced, herr] using ⟨hd s rfl, he⟩
  next => cases h

theorem verifyAlgorithms_traced (laws : EchoLaws E admits) (hi : Ingested E admits envelope)
    (h : verifyAlgorithms E envelope = .error e) : e.Traced admits := by
  obtain ⟨v, hv, henv⟩ := hi
  obtain ⟨hd, hc⟩ := laws.envelopeFromValue v envelope hv henv
  rcases Except.bind_eq_error.1 h with h | ⟨-, -, h⟩
  · exact checkMarker_traced (fun _ _ => rfl) hd (laws.versionDigestAlgorithm _) h
  · exact checkMarker_traced (fun _ _ => rfl) hc (laws.versionCanonicalization _) h

theorem verifyEventHash_traced (laws : EchoLaws E admits) (hi : Ingested E admits envelope)
    (h : verifyEventHash E envelope = .error e) : e.Traced admits := by
  obtain ⟨v, hv, henv⟩ := hi
  rcases Except.bind_eq_error.1 h with h | ⟨computed, -, h⟩
  · obtain ⟨m, hm, rfl⟩ := Except.mapError_eq_error.1 h
    simpa [VerifyError.Traced, VerifyError.echo] using
      laws.computeEventHash_error v envelope m hv henv hm
  · split_ifs at h
    · cases h
    · obtain rfl := Except.error.inj h
      simp [VerifyError.Traced, VerifyError.echo]

theorem verifySingleEnvelope_plain (laws : EchoLaws E admits) (hi : Ingested E admits envelope) :
    (verifySingleEnvelope E envelope).Plain admits := by
  have hversion := (VerificationResult.plain_validSingle laws).collect
    (verifyEnvelopeVersion envelope) E.message fun e he =>
      (text_message_iff laws e).2 (verifyEnvelopeVersion_traced he)
  have hcollect := hversion.collect (verifyAlgorithms E envelope) E.message fun e he =>
    (text_message_iff laws e).2 (verifyAlgorithms_traced laws hi he)
  unfold verifySingleEnvelope
  cases hh : verifyEventHash E envelope with
  | error e =>
    have hadd := hcollect.addError
      ((text_message_iff laws e).2 (verifyEventHash_traced laws hi hh))
    exact ⟨hadd.schemaVersion, hadd.errors, hadd.chain, hadd.trust⟩
  | ok u => exact hcollect

end Envelope

section Chain

variable {envelopes : List ReceiptEnvelope}

/-- The violations of the chain rules repeat nothing. -/
theorem checkChainDetail_echo : ∀ e ∈ (checkChainDetail envelopes).errors, e.echo = [] := by
  intro e he
  rw [checkChainDetail_errors, mem_chainErrors] at he
  cases he <;> rfl

theorem text_indexed_iff (laws : EchoLaws E admits) (i : ℕ) (e : VerifyError) :
    Text admits s!"envelope {i}: {E.message e}" ↔ e.Traced admits := by
  simp only [text_append, toString_string, Nat.toString_eq_repr, laws.repr, and_true,
    text_message_iff laws]
  simp (disch := decide) only [laws.literal, true_and]

theorem checkPerEnvelopeFrom_plain {i : ℕ} {st : VerificationResult × Bool}
    (laws : EchoLaws E admits) (hi : ∀ envelope ∈ envelopes, Ingested E admits envelope)
    (hs : st.1.Plain admits) :
    (checkPerEnvelopeFrom E i envelopes st).1.Plain admits := by
  induction envelopes generalizing i st with
  | nil => exact hs
  | cons env envelopes ih =>
    rw [List.forall_mem_cons] at hi
    have hversion := hs.collect (verifyEnvelopeVersion env)
      (fun e => s!"envelope {i}: {E.message e}") fun e he =>
        (text_indexed_iff laws i e).2 (verifyEnvelopeVersion_traced he)
    have hcollect := hversion.collect (verifyAlgorithms E env)
      (fun e => s!"envelope {i}: {E.message e}") fun e he =>
        (text_indexed_iff laws i e).2 (verifyAlgorithms_traced laws hi.1 he)
    rw [checkPerEnvelopeFrom]
    refine ih hi.2 ?_
    cases hh : verifyEventHash E env with
    | error e =>
      have he := (text_indexed_iff laws i e).2 (verifyEventHash_traced laws hi.1 hh)
      exact hcollect.addError he
    | ok u => exact hcollect

/-- Apart from its chain section, a chain report has admitted text only. -/
theorem verifyChainEnvelopes_plain (laws : EchoLaws E admits)
    (hi : ∀ envelope ∈ envelopes, Ingested E admits envelope) :
    ({ verifyChainEnvelopes E envelopes with chainValidation := none } :
      VerificationResult).Plain admits := by
  cases envelopes with
  | nil => exact VerificationResult.plain_validSingle laws
  | cons first rest =>
    have hper : (checkPerEnvelope E (first :: rest) .validSingle).1.Plain admits :=
      checkPerEnvelopeFrom_plain laws hi (VerificationResult.plain_validSingle laws)
    have hfold := hper.foldl (checkChainDetail (first :: rest)).errors E.message fun e he =>
      (text_message_iff laws e).2 (VerifyError.traced_of_echo_nil (checkChainDetail_echo e he))
    exact ⟨hfold.schemaVersion, hfold.errors, rfl, hfold.trust⟩

end Chain

/-! ### Signatures -/

theorem isAscii_hexEncode (bytes : Bytes) : IsAscii (hexEncode bytes) := by
  intro c hc
  simp only [hexEncode, String.toList_ofList, List.mem_flatMap, hexByte, List.mem_cons,
    List.not_mem_nil, or_false] at hc
  obtain ⟨b, -, hc⟩ := hc
  have hdigit : ∀ n : Fin 16, (Nat.digitChar n).toNat < 128 := by decide
  have hb := b.toNat_lt
  rcases hc with rfl | rfl
  · exact hdigit ⟨b.toNat / 16, by omega⟩
  · exact hdigit ⟨b.toNat % 16, by omega⟩

theorem KeyId.isAscii (keyId : KeyId) : IsAscii keyId.hex := by
  intro c hc
  have hdigit := List.all_eq_true.1 keyId.lowerHex c hc
  simp only [isLowerHexDigit, decide_eq_true_eq] at hdigit
  rcases hdigit with ⟨-, h⟩ | ⟨-, h⟩
  · exact lt_of_le_of_lt (UInt32.le_iff_toNat_le.1 h) (by decide)
  · exact lt_of_le_of_lt (UInt32.le_iff_toNat_le.1 h) (by decide)

/-- The first metadata field of a bundle that is not the expected one. -/
def SignatureBundle.unexpected (bundle : SignatureBundle) : Option String :=
  if bundle.alg ≠ expectedAlg then some bundle.alg
  else if bundle.schemaVersion ≠ expectedSchemaVersion then some bundle.schemaVersion
  else if bundle.basis ≠ expectedBasis then some bundle.basis
  else none

section Signature

variable {bundle : SignatureBundle} {envelope : ReceiptEnvelope} {e : VerifyError}

theorem checkMetadata_eq_ok {label declared expected : String} :
    checkMetadata label declared expected = .ok () ↔ declared = expected := by
  simp [checkMetadata]

theorem checkMetadata_eq_error {label declared expected : String} (laws : EchoLaws E admits)
    (hl : IsAscii label) (he : IsAscii expected)
    (h : checkMetadata label declared expected = .error e) :
    declared ≠ expected ∧ (e.Traced admits ↔ Text admits declared) := by
  unfold checkMetadata at h
  split_ifs at h with hne
  obtain rfl := Except.error.inj h
  refine ⟨hne, ?_⟩
  rw [VerifyError.traced_iff rfl]
  simp only [text_append, toString_string, laws.literal hl, laws.literal he]
  simp (disch := decide) only [laws.literal, true_and, and_true]

/-- The metadata check repeats the first unexpected field. -/
theorem validateMetadata_traced_iff (laws : EchoLaws E admits)
    (h : validateMetadata bundle = .error e) :
    e.Traced admits ↔ ∀ s ∈ bundle.unexpected, Text admits s := by
  rcases Except.bind_eq_error.1 h with h | ⟨_, halg, h⟩
  · obtain ⟨hne, hiff⟩ :=
      checkMetadata_eq_error laws (by decide) (by decide) h
    simp [hiff, SignatureBundle.unexpected, hne]
  rcases Except.bind_eq_error.1 h with h | ⟨_, hversion, h⟩
  · obtain ⟨hne, hiff⟩ :=
      checkMetadata_eq_error laws (by decide) (by decide) h
    simp [hiff, SignatureBundle.unexpected, checkMetadata_eq_ok.1 halg, hne]
  · obtain ⟨hne, hiff⟩ :=
      checkMetadata_eq_error laws (by decide) (by decide) h
    simp [hiff, SignatureBundle.unexpected, checkMetadata_eq_ok.1 halg,
      checkMetadata_eq_ok.1 hversion, hne]

theorem decodeB64Fixed_traced {n : ℕ} {b64 label : String} (laws : EchoLaws E admits)
    (hl : IsAscii label) (h : decodeB64Fixed E n b64 label = .error e) : e.Traced admits := by
  rcases Except.bind_eq_error.1 h with h | ⟨bytes, -, h⟩
  · obtain ⟨m, hm, rfl⟩ := Except.mapError_eq_error.1 h
    rw [VerifyError.traced_iff rfl]
    simp only [text_append, toString_string, laws.literal hl, laws.base64Decode_error b64 m hm]
    simp (disch := decide) only [laws.literal, and_true]
  · split_ifs at h
    · cases h
    · obtain rfl := Except.error.inj h
      rw [VerifyError.traced_iff rfl]
      simp only [text_append, toString_string, Nat.toString_eq_repr, laws.repr, laws.literal hl]
      simp (disch := decide) only [laws.literal, and_true]

theorem decodePublicKey_traced {b64 : String} (laws : EchoLaws E admits)
    (h : decodePublicKey E b64 = .error e) : e.Traced admits := by
  rcases Except.bind_eq_error.1 h with h | ⟨bytes, -, h⟩
  · exact decodeB64Fixed_traced laws (by decide) h
  · obtain ⟨m, hm, rfl⟩ := Except.mapError_eq_error.1 h
    rw [VerifyError.traced_iff rfl]
    simp only [text_append, toString_string, laws.verifyingKey_error bytes m hm]
    simp (disch := decide) only [laws.literal, and_true]

theorem validateKeyIdMatches_traced {key : VerifyingKey} {keyId : KeyId}
    (laws : EchoLaws E admits) (h : validateKeyIdMatches E key keyId = .error e) :
    e.Traced admits := by
  unfold validateKeyIdMatches at h
  dsimp only at h
  split_ifs at h
  obtain rfl := Except.error.inj h
  rw [VerifyError.traced_iff rfl]
  simp only [text_append, toString_string, laws.literal (isAscii_hexEncode _),
    laws.literal keyId.isAscii]
  simp (disch := decide) only [laws.literal, and_true]

theorem typedCanonBytes_traced {v : Json} (laws : EchoLaws E admits) (hv : v.Admitted admits)
    (h : typedCanonBytes E v = .error e) : e.Traced admits := by
  rcases Except.bind_eq_error.1 h with h | ⟨jsonBytes, hjson, h⟩
  · obtain ⟨m, hm, rfl⟩ := Except.mapError_eq_error.1 h
    exact (VerifyError.traced_iff rfl).2 (laws.toVec_error v m hv hm)
  · obtain ⟨e₀, he₀, rfl⟩ := Except.mapError_eq_error.1 h
    exact (VerifyError.traced_iff rfl).2
      (laws.toCanonBytes_error v jsonBytes e₀ hv (Except.mapError_eq_ok.1 hjson) he₀)

theorem computeReceiptDigest_traced (laws : EchoLaws E admits) (hi : Ingested E admits envelope)
    (h : computeReceiptDigest E envelope = .error e) : e.Traced admits := by
  obtain ⟨v, hv, henv⟩ := hi
  rcases Except.bind_eq_error.1 h with h | ⟨w, hw, h⟩
  · obtain ⟨m, hm, rfl⟩ := Except.mapError_eq_error.1 h
    exact (VerifyError.traced_iff rfl).2 (laws.envelopeToValue_error v envelope m hv henv hm)
  have hwa := laws.envelopeToValue v envelope w hv henv (Except.mapError_eq_ok.1 hw)
  split at h
  next map =>
    dsimp only at h
    split_ifs at h
    · obtain rfl := Except.error.inj h
      rw [VerifyError.traced_iff rfl]
      exact (laws.literal (by decide)).2 trivial
    · rcases Except.bind_eq_error.1 h with h | ⟨canonBytes, -, h⟩
      · refine typedCanonBytes_traced laws (Json.admitted_object.2 fun f hf => ?_) h
        exact Json.admitted_object.1 hwa f (List.mem_filter.1 hf).1
      · cases h
  next =>
    obtain rfl := Except.error.inj h
    rw [VerifyError.traced_iff rfl]
    exact (laws.literal (by decide)).2 trivial

theorem verifySignature_traced (laws : EchoLaws E admits) (hi : Ingested E admits envelope)
    (hm : validateMetadata bundle = .ok ()) (h : verifySignature E envelope bundle = .error e) :
    e.Traced admits := by
  rcases Except.bind_eq_error.1 h with h | ⟨-, -, h⟩
  · simp [hm] at h
  rcases Except.bind_eq_error.1 h with h | ⟨key, -, h⟩
  · exact decodePublicKey_traced laws h
  rcases Except.bind_eq_error.1 h with h | ⟨-, -, h⟩
  · exact validateKeyIdMatches_traced laws h
  rcases Except.bind_eq_error.1 h with h | ⟨digest, -, h⟩
  · exact computeReceiptDigest_traced laws hi h
  rcases Except.bind_eq_error.1 h with h | ⟨signature, -, h⟩
  · exact decodeB64Fixed_traced laws (by decide) h
  split_ifs at h
  · cases h
  · obtain rfl := Except.error.inj h
    exact (VerifyError.traced_iff rfl).2
      (IsAscii.text (s := "Ed25519 signature verification failed") (by decide) laws.ascii)

theorem unexpected_eq_none (h : validateMetadata bundle = .ok ()) : bundle.unexpected = none := by
  obtain ⟨_, halg, h⟩ := Except.bind_eq_ok.1 h
  obtain ⟨_, hversion, hbasis⟩ := Except.bind_eq_ok.1 h
  simp [SignatureBundle.unexpected, checkMetadata_eq_ok.1 halg, checkMetadata_eq_ok.1 hversion,
    checkMetadata_eq_ok.1 hbasis]

/-- Of the signature bundle, the check of a signature repeats the first unexpected field. -/
theorem verifySignature_traced_iff (laws : EchoLaws E admits) (hi : Ingested E admits envelope)
    (h : verifySignature E envelope bundle = .error e) :
    e.Traced admits ↔ ∀ s ∈ bundle.unexpected, Text admits s := by
  cases hm : validateMetadata bundle with
  | error e' =>
    have he : verifySignature E envelope bundle = .error e' := by simp [verifySignature, hm]
    obtain rfl := Except.error.inj (he.symm.trans h)
    exact validateMetadata_traced_iff laws hm
  | ok u =>
    refine iff_of_true (verifySignature_traced laws hi hm h) ?_
    simp [unexpected_eq_none hm]

end Signature

/-! ### Trust -/

/-- The revocation of a key that a policy enforces. -/
def TrustPolicy.enforcedRevocation (policy : TrustPolicy) (set : AuthoritySet) (kid : String) :
    Option Revocation :=
  if policy.enforceRevocation then set.revocations.lookup kid else none

section Trust

variable {kid : String} {set : AuthoritySet} {policy : TrustPolicy}

theorem epochFault_text (laws : EchoLaws E admits) {key : AuthorityKey} {currentEpoch : UInt64}
    {fault : String} (h : key.epochFault currentEpoch = some fault) : Text admits fault := by
  unfold AuthorityKey.epochFault at h
  split_ifs at h
  · obtain rfl := Option.some.inj h
    simp only [text_append, toString_string, toString_uint64, laws.repr, and_true]
    simp (disch := decide) only [laws.literal, and_true]
  · split at h
    · split_ifs at h
      obtain rfl := Option.some.inj h
      simp only [text_append, toString_string, toString_uint64, laws.repr, and_true]
      simp (disch := decide) only [laws.literal, and_true]
    · cases h

/-- Of the authority set, the decision on a key repeats the reason of an enforced revocation. -/
theorem trustDecision_text_iff (laws : EchoLaws E admits) {claimed : Option String} :
    (∀ s ∈ (trustDecision kid set policy claimed).2, Text admits s) ↔
      ∀ revocation ∈ policy.enforcedRevocation set kid, Text admits revocation.reason := by
  unfold trustDecision
  rw [← TrustPolicy.enforcedRevocation]
  cases policy.enforcedRevocation set kid with
  | some revocation =>
    simp only [Option.mem_def, Option.some.injEq, forall_eq', text_append, toString_string,
      toString_uint64, laws.repr, and_true]
    simp (disch := decide) only [laws.literal, true_and]
  | none =>
    refine iff_of_true ?_ (by simp)
    dsimp only
    intro s hs
    split at hs
    · cases hs
      exact (laws.literal (by decide)).2 trivial
    split_ifs at hs
    · cases hs
      exact (laws.literal (by decide)).2 trivial
    · split at hs
      next fault hfault =>
        cases hs
        exact epochFault_text laws hfault
      next => cases hs
    · cases hs

end Trust

end VertRule
