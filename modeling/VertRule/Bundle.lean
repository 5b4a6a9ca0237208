import VertRule.Verify

/-!
# Execution bundles

`bundle.rs`: a receipt envelope with sidecars bound to it by digests in its payload.
-/

namespace VertRule

/-- `EXPECTED_FORMAT` of an execution bundle. -/
def executionBundleFormat : String := "vr-execution-bundle/v1"

/-- `SidecarDigestCheck`; `isMatch` is its field `matches`. -/
structure SidecarDigestCheck where
  name : String
  expected : String
  computed : String
  isMatch : Bool

/-- `BundleVerificationResult`. -/
structure BundleVerificationResult where
  status : VerificationStatus
  schemaVersion : String
  envelopeResult : VerificationResult
  sidecarChecks : List SidecarDigestCheck
  errors : List String

/-- `invalid`. -/
def BundleVerificationResult.invalid (error : String) : BundleVerificationResult where
  status := .invalid
  schemaVersion := profileVersion
  envelopeResult := .invalid "bundle-level error"
  sidecarChecks := []
  errors := [error]

/-- `PayloadDigests`. -/
structure PayloadDigests where
  layerTraceDigest : Option String
  selectionPolicyDigest : Option String

variable (E : Externals)

/-- `extract_payload_digests`. -/
def extractPayloadDigests (envelopeJson : String) : PayloadDigests :=
  let value := (E.fromStr envelopeJson).toOption.getD .null
  let payload := value.index "payload"
  { layerTraceDigest := (payload.index "layer_trace_digest").asStr
    selectionPolicyDigest := (payload.index "selection_policy_digest").asStr }

/-- `digest_canonical_value`. -/
def digestCanonicalValue (value : Json) : Except VerifyError String := do
  let digest ← SidecarDigest.recomputeFromValue E value
  pure digest.toHex

/-- `check_sidecar`. -/
def checkSidecar (name expected : String) (value : Json) : SidecarDigestCheck :=
  let computed := (digestCanonicalValue E value).toOption.getD ""
  { name, expected, computed, isMatch := computed == expected }

/-- The check `verify_bundle` makes on one sidecar: when the sidecar is present and its digest
declared. -/
def sidecarCheck (name : String) (sidecar : Option Json) (declared : Option String) :
    Option SidecarDigestCheck :=
  match sidecar, declared with
  | some value, some expected => some (checkSidecar E name expected value)
  | _, _ => none

/-- The error of a sidecar check that does not match. -/
def SidecarDigestCheck.error (check : SidecarDigestCheck) : Option String :=
  if check.isMatch then none
  else some <| s!"sidecar {check.name}: digest mismatch (expected {check.expected}, " ++
    s!"computed {check.computed})"

/-- The sidecar checks of a bundle. -/
def sidecarChecks (bundle : ExecutionBundle) : List SidecarDigestCheck :=
  let payloadDigests := extractPayloadDigests E bundle.envelopeCanonical
  (sidecarCheck E "layer_trace" bundle.sidecars.layerTrace
      payloadDigests.layerTraceDigest).toList ++
    (sidecarCheck E "selection_policy" bundle.sidecars.selectionPolicy
      payloadDigests.selectionPolicyDigest).toList

/-- The errors of a result, each under a prefix, when the result is not valid. -/
def VerificationResult.prefixedErrors (result : VerificationResult) (label : String) :
    List String :=
  if result.status ≠ .valid then result.errors.map fun e => s!"{label}: {e}" else []

/-- What `verify_bundle` does with a bundle of the right format. -/
def checkBundle (bundle : ExecutionBundle) : BundleVerificationResult :=
  let envelopeResult := verifyReceipt E (asBytes bundle.envelopeCanonical)
  let checks := sidecarChecks E bundle
  let errors := envelopeResult.prefixedErrors "envelope" ++
    checks.filterMap SidecarDigestCheck.error
  { status := .ofDecision
      (envelopeResult.status = .valid ∧ errors = [] ∧ ∀ c ∈ checks, c.isMatch = true)
    schemaVersion := profileVersion
    envelopeResult
    sidecarChecks := checks
    errors }

/-- `verify_bundle`. -/
def verifyBundle (rawBytes : Bytes) : BundleVerificationResult :=
  match E.executionBundleFromSlice rawBytes with
  | .error e => .invalid s!"malformed bundle JSON: {e}"
  | .ok bundle =>
    if bundle.format ≠ executionBundleFormat then
      .invalid (s!"unsupported bundle format: expected \"{executionBundleFormat}\", " ++
        s!"got \"{bundle.format}\"")
    else checkBundle E bundle

variable {E}

/-- A consistent result contributes no errors exactly when it is valid. -/
theorem VerificationResult.Consistent.prefixedErrors_eq_nil {result : VerificationResult}
    (h : result.Consistent) {label : String} :
    result.prefixedErrors label = [] ↔ result.status = .valid := by
  unfold VerificationResult.prefixedErrors
  split_ifs with hs
  · simp only [List.map_eq_nil_iff, ← h.status_iff]
  · simpa using hs

theorem SidecarDigestCheck.error_eq_none {check : SidecarDigestCheck} :
    check.error = none ↔ check.isMatch = true := by
  unfold SidecarDigestCheck.error
  split_ifs with h <;> simp [h]

/-- The bundle report does not contradict itself. -/
structure BundleVerificationResult.Consistent (r : BundleVerificationResult) : Prop where
  status_iff : r.status = .valid ↔ r.errors = []
  envelope : r.envelopeResult.Consistent
  envelope_valid : r.status = .valid → r.envelopeResult.status = .valid
  checks : r.status = .valid → ∀ c ∈ r.sidecarChecks, c.isMatch = true

theorem BundleVerificationResult.Consistent.invalid (error : String) :
    (BundleVerificationResult.invalid error).Consistent where
  status_iff := by simp [BundleVerificationResult.invalid]
  envelope := (VerificationResult.rejected_invalid _).consistent
  envelope_valid := by simp [BundleVerificationResult.invalid]
  checks := by simp [BundleVerificationResult.invalid]

/-- A bundle has no errors exactly when its envelope is valid and every sidecar check made
matches. -/
theorem checkBundle_errors_eq_nil {bundle : ExecutionBundle} :
    (checkBundle E bundle).errors = [] ↔
      (verifyReceipt E (asBytes bundle.envelopeCanonical)).status = .valid ∧
        ∀ c ∈ sidecarChecks E bundle, c.isMatch = true := by
  simp only [checkBundle, List.append_eq_nil_iff, List.filterMap_eq_nil_iff,
    verifyReceipt_consistent.prefixedErrors_eq_nil, SidecarDigestCheck.error_eq_none]

theorem checkBundle_valid_iff {bundle : ExecutionBundle} :
    (checkBundle E bundle).status = .valid ↔ (checkBundle E bundle).errors = [] := by
  constructor
  · intro hs
    simp only [checkBundle, VerificationStatus.ofDecision_eq_valid] at hs ⊢
    exact hs.2.1
  · intro he
    obtain ⟨hv, hm⟩ := checkBundle_errors_eq_nil.1 he
    simp only [checkBundle, VerificationStatus.ofDecision_eq_valid] at he ⊢
    exact ⟨hv, he, hm⟩

theorem verifyBundle_consistent {rawBytes : Bytes} : (verifyBundle E rawBytes).Consistent := by
  unfold verifyBundle
  cases E.executionBundleFromSlice rawBytes with
  | error e => exact .invalid _
  | ok bundle =>
    dsimp only
    by_cases hf : bundle.format ≠ executionBundleFormat
    · rw [if_pos hf]
      exact .invalid _
    · rw [if_neg hf]
      exact ⟨checkBundle_valid_iff, verifyReceipt_consistent,
        fun hs => (checkBundle_errors_eq_nil.1 (checkBundle_valid_iff.1 hs)).1,
        fun hs => (checkBundle_errors_eq_nil.1 (checkBundle_valid_iff.1 hs)).2⟩

end VertRule
