import VertRule.Externals
import VertRule.Lib.Except

/-!
# Checks on one envelope

`envelope.rs`: the supported version, the declared algorithm markers and the `event_hash`
commitment.
-/

namespace VertRule

variable (E : Externals)

/-- `verify_event_hash`. -/
def verifyEventHash (envelope : ReceiptEnvelope) : Except VerifyError Unit := do
  let computedDigest ← (E.computeEventHash envelope).mapError .canon
  if computedDigest = envelope.eventHash then pure ()
  else throw (.eventHashMismatch envelope.eventHash computedDigest)

/-- `verify_envelope_version`. -/
def verifyEnvelopeVersion (envelope : ReceiptEnvelope) : Except VerifyError Unit :=
  if envelope.envelopeVersion = SchemaVersion.V1 then .ok ()
  else .error (.unsupportedVersion envelope.envelopeVersion.value)

/-- The check `verify_algorithms` makes on a marker: when declared, it is the expected one. -/
def checkMarker (declared : Option String) (expected : String)
    (err : String → String → VerifyError) : Except VerifyError Unit :=
  match declared with
  | some declared => if declared ≠ expected then .error (err declared expected) else .ok ()
  | none => .ok ()

/-- `verify_algorithms`. -/
def verifyAlgorithms (envelope : ReceiptEnvelope) : Except VerifyError Unit := do
  checkMarker envelope.digestAlgorithm (E.versionDigestAlgorithm envelope.envelopeVersion)
    .digestAlgorithmMismatch
  checkMarker envelope.canonicalization (E.versionCanonicalization envelope.envelopeVersion)
    .canonicalizationMismatch

/-- `validate_receipt_envelope_integrity`. -/
def validateReceiptEnvelopeIntegrity (envelope : ReceiptEnvelope) : Except VerifyError Unit := do
  verifyAlgorithms E envelope
  verifyEventHash E envelope

/-- The declared algorithm markers are those of the envelope's version. -/
structure ReceiptEnvelope.MarkersMatch (envelope : ReceiptEnvelope) : Prop where
  digestAlgorithm : ∀ declared, envelope.digestAlgorithm = some declared →
    declared = E.versionDigestAlgorithm envelope.envelopeVersion
  canonicalization : ∀ declared, envelope.canonicalization = some declared →
    declared = E.versionCanonicalization envelope.envelopeVersion

variable {E}

theorem verifyEventHash_eq_ok {envelope : ReceiptEnvelope} :
    verifyEventHash E envelope = .ok () ↔
      E.computeEventHash envelope = .ok envelope.eventHash := by
  simp only [verifyEventHash, Except.bind_eq_ok, Except.mapError_eq_ok]
  constructor
  · rintro ⟨computed, hc, h⟩
    by_cases he : computed = envelope.eventHash
    · rw [hc, he]
    · simp [he] at h
  · intro h
    exact ⟨_, h, by simp⟩

theorem verifyEnvelopeVersion_eq_ok {envelope : ReceiptEnvelope} :
    verifyEnvelopeVersion envelope = .ok () ↔ envelope.envelopeVersion = SchemaVersion.V1 := by
  unfold verifyEnvelopeVersion
  split_ifs with h <;> simp [h]

theorem checkMarker_eq_ok {declared : Option String} {expected : String}
    {err : String → String → VerifyError} :
    checkMarker declared expected err = .ok () ↔ ∀ d, declared = some d → d = expected := by
  unfold checkMarker
  cases declared with
  | none => simp
  | some d => by_cases h : d = expected <;> simp [h]

theorem verifyAlgorithms_eq_ok {envelope : ReceiptEnvelope} :
    verifyAlgorithms E envelope = .ok () ↔ envelope.MarkersMatch E := by
  simp only [verifyAlgorithms, Except.bind_eq_ok, checkMarker_eq_ok, Unique.exists_iff,
    PUnit.default_eq_unit]
  exact ⟨fun h => ⟨h.1, h.2⟩, fun h => ⟨h.1, h.2⟩⟩

/-- An envelope has integrity when its markers match and its `event_hash` is the recomputed one. -/
theorem validateReceiptEnvelopeIntegrity_eq_ok {envelope : ReceiptEnvelope} :
    validateReceiptEnvelopeIntegrity E envelope = .ok () ↔
      envelope.MarkersMatch E ∧ E.computeEventHash envelope = .ok envelope.eventHash := by
  simp only [validateReceiptEnvelopeIntegrity, Except.bind_eq_ok, verifyAlgorithms_eq_ok,
    verifyEventHash_eq_ok, Unique.exists_iff, PUnit.default_eq_unit]

end VertRule
