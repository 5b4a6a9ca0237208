import VertRule.Schemas.Types

/-!
# Errors

`VerifyError` with its messages.  `Display` and `Debug` of a digest belong to
`vertrule-schemas`, so the messages take them from a `DigestFormat`.
-/

namespace VertRule

/-- Limit violations, each with what was measured and the threshold. -/
inductive LimitViolation where
  | inputTooLarge (actual limit : ℕ)
  | depthExceeded (actual limit : ℕ)
  | nodeCountExceeded (actual limit : ℕ)
  | objectTooLarge (actual limit : ℕ)
  | arrayTooLarge (actual limit : ℕ)
  | chainTooLong (actual limit : ℕ)
  deriving DecidableEq, Repr

/-- `Display for LimitViolation`. -/
def LimitViolation.display (v : LimitViolation) : String :=
  let (label, actual, unit, limit) := match v with
    | inputTooLarge actual limit => ("input too large", actual, "bytes", limit)
    | depthExceeded actual limit => ("depth exceeded", actual, "levels", limit)
    | nodeCountExceeded actual limit => ("node count exceeded", actual, "nodes", limit)
    | objectTooLarge actual limit => ("object too large", actual, "keys", limit)
    | arrayTooLarge actual limit => ("array too large", actual, "elements", limit)
    | chainTooLong actual limit => ("chain too long", actual, "envelopes", limit)
  s!"{label}: {actual} {unit} exceeds limit of {limit}"

/-- `VerifyError`. -/
inductive VerifyError where
  | eventHashMismatch (expected actual : DigestBytes)
  | unsupportedVersion (version : UInt32)
  | chainLinkageBroken (index : ℕ) (expected actual : Option DigestBytes)
  | logicalTimeNotMonotonic (index : ℕ) (previous current : UInt64)
  | canon (message : String)
  | unknownField (field : String)
  | missingRequiredField (field : String)
  | unknownReceiptType (value : String)
  | unknownBoundaryOrigin (value : String)
  | duplicateEventHash (index : ℕ) (digest : DigestBytes)
  | contextInconsistent (index : ℕ) (expected found : DigestBytes)
  | policyInconsistent (index : ℕ) (expected found : DigestBytes)
  | schemaInconsistent (index : ℕ) (expected found : DigestBytes)
  | floatInStructuralField (field : String)
  | nonCanonical (reason : String)
  | malformedJson (reason : String)
  | digestAlgorithmMismatch (declared expected : String)
  | canonicalizationMismatch (declared expected : String)
  | signatureInvalid (reason : String)
  | signatureDataMalformed (reason : String)
  | limitExceeded (violation : LimitViolation)
  | payloadShapeMismatch (reason : String)
  deriving DecidableEq

/-- How `vertrule-schemas` prints a digest. -/
structure DigestFormat where
  /-- `{}`. -/
  display : DigestBytes → String
  /-- `{:?}`. -/
  debug : DigestBytes → String

/-- `{:?}` of an optional digest. -/
def DigestFormat.debugOption (f : DigestFormat) : Option DigestBytes → String
  | none => "None"
  | some d => s!"Some({f.debug d})"

/-- `Display for VerifyError`. -/
def VerifyError.display (f : DigestFormat) : VerifyError → String
  | eventHashMismatch expected actual =>
    s!"event hash mismatch: expected {f.display expected}, actual {f.display actual}"
  | unsupportedVersion version => s!"unsupported envelope version: {version}"
  | chainLinkageBroken index expected actual =>
    s!"chain linkage broken at index {index}: expected {f.debugOption expected}, " ++
      s!"actual {f.debugOption actual}"
  | logicalTimeNotMonotonic index previous current =>
    s!"logical time not monotonic at index {index}: previous {previous}, current {current}"
  | canon message => s!"canonicalization error: {message}"
  | unknownField field => s!"unknown field \"{field}\" in envelope"
  | missingRequiredField field => s!"missing required field \"{field}\""
  | unknownReceiptType value => s!"unknown receipt type \"{value}\""
  | unknownBoundaryOrigin value => s!"unknown boundary origin \"{value}\""
  | duplicateEventHash index digest =>
    s!"duplicate event_hash at index {index}: {f.display digest}"
  | contextInconsistent index expected found =>
    s!"context_digest inconsistency at index {index}: expected {f.display expected}, " ++
      s!"found {f.display found}"
  | policyInconsistent index expected found =>
    s!"policy_digest inconsistency at index {index}: expected {f.display expected}, " ++
      s!"found {f.display found}"
  | schemaInconsistent index expected found =>
    s!"schema_digest inconsistency at index {index}: expected {f.display expected}, " ++
      s!"found {f.display found}"
  | floatInStructuralField field => s!"float value in structural field \"{field}\""
  | nonCanonical reason => s!"non-canonical JSON: {reason}"
  | malformedJson reason => s!"malformed JSON: {reason}"
  | digestAlgorithmMismatch declared expected =>
    s!"digest algorithm mismatch: declared \"{declared}\", expected \"{expected}\""
  | canonicalizationMismatch declared expected =>
    s!"canonicalization mismatch: declared \"{declared}\", expected \"{expected}\""
  | signatureInvalid reason => s!"signature verification failed: {reason}"
  | signatureDataMalformed reason => s!"invalid signature data: {reason}"
  | limitExceeded violation => s!"limit exceeded: {violation.display}"
  | payloadShapeMismatch reason => s!"payload shape mismatch: {reason}"

end VertRule
