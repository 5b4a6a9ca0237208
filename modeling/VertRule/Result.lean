import VertRule.Canon
import VertRule.SchemaProfile
import VertRule.Trust

/-!
# Verification results

`result.rs`: the structured verdict, its serialization and its canonical forms.
-/

namespace VertRule

/-- `VerificationStatus`. -/
inductive VerificationStatus where
  | valid | invalid
  deriving DecidableEq

/-- `Display for VerificationStatus`, which is also the serialized status. -/
def VerificationStatus.display : VerificationStatus → String
  | valid => "VALID"
  | invalid => "INVALID"

/-- `if p { Valid } else { Invalid }`. -/
def VerificationStatus.ofDecision (p : Prop) [Decidable p] : VerificationStatus :=
  if p then valid else invalid

@[simp] theorem VerificationStatus.ofDecision_eq_valid {p : Prop} [Decidable p] :
    ofDecision p = valid ↔ p := by
  unfold ofDecision
  split_ifs with h <;> simp [h]

theorem VerificationStatus.eq_of_valid_iff {s s' : VerificationStatus}
    (h : s = valid ↔ s' = valid) : s = s' := by
  cases s <;> cases s' <;> simp_all

theorem VerificationStatus.eq_invalid_iff {s : VerificationStatus} :
    s = .invalid ↔ s ≠ .valid := by
  cases s <;> simp

/-- `DigestValidation`. -/
structure DigestValidation where
  allHashesMatch : Bool
  chainIntegrity : Bool
  orderingValid : Bool

/-- `ChainValidation`. -/
structure ChainValidation where
  length : ℕ
  firstLogicalTime : UInt64
  lastLogicalTime : UInt64

/-- `ContextConsistency`. -/
structure ContextConsistency where
  uniformContext : Bool

/-- `PolicyConsistency`. -/
structure PolicyConsistency where
  stablePolicy : Bool
  transitionsDetected : Bool

/-- `SchemaConsistency`. -/
structure SchemaConsistency where
  uniformSchema : Bool

/-- `SignatureValidation`. -/
structure SignatureValidation where
  present : Bool
  valid : Bool
  keyIdConsistent : Bool

/-- `VerificationResult`. -/
structure VerificationResult where
  status : VerificationStatus
  schemaVersion : String
  digestValidation : DigestValidation
  chainValidation : Option ChainValidation
  contextConsistency : Option ContextConsistency
  policyConsistency : Option PolicyConsistency
  schemaConsistency : Option SchemaConsistency
  signatureValidation : Option SignatureValidation
  trustValidation : Option TrustValidation
  errors : List String

/-! ### Serialization

`serde_json::to_value` on these types does not fail; objects come with their keys in order. -/

/-- An optional member, skipped when it is `None`. -/
def optField {α : Type} (key : String) (toValue : α → Json) : Option α → List (String × Json)
  | some a => [(key, toValue a)]
  | none => []

/-- A serialized `u64`. -/
def Json.ofU64 (n : UInt64) : Json := .number (.posInt n)

/-- A serialized `Vec<String>`. -/
def Json.ofStrings (strings : List String) : Json := .array (strings.map .string)

/-- The serialized `DigestValidation`. -/
def DigestValidation.toValue (d : DigestValidation) : Json :=
  .object [("all_hashes_match", .bool d.allHashesMatch),
    ("chain_integrity", .bool d.chainIntegrity), ("ordering_valid", .bool d.orderingValid)]

/-- The serialized `ChainValidation`. -/
def ChainValidation.toValue (c : ChainValidation) : Json :=
  .object [("first_logical_time", .ofU64 c.firstLogicalTime),
    ("last_logical_time", .ofU64 c.lastLogicalTime), ("length", .ofU64 (UInt64.ofNat c.length))]

/-- The serialized `ContextConsistency`. -/
def ContextConsistency.toValue (c : ContextConsistency) : Json :=
  .object [("uniform_context", .bool c.uniformContext)]

/-- The serialized `PolicyConsistency`. -/
def PolicyConsistency.toValue (p : PolicyConsistency) : Json :=
  .object [("stable_policy", .bool p.stablePolicy),
    ("transitions_detected", .bool p.transitionsDetected)]

/-- The serialized `SchemaConsistency`. -/
def SchemaConsistency.toValue (s : SchemaConsistency) : Json :=
  .object [("uniform_schema", .bool s.uniformSchema)]

/-- The serialized `SignatureValidation`. -/
def SignatureValidation.toValue (s : SignatureValidation) : Json :=
  .object [("key_id_consistent", .bool s.keyIdConsistent), ("present", .bool s.present),
    ("valid", .bool s.valid)]

/-- The serialized `TrustValidation`. -/
def TrustValidation.toValue (t : TrustValidation) : Json :=
  .object (("authority_set_id", .string t.authoritySetId) ::
    (optField "detail" .string t.detail ++
      [("evaluated_at_epoch", .ofU64 t.evaluatedAtEpoch), ("key_id", .string t.keyId),
        ("status", .string t.status.display)]))

namespace VerificationResult

/-- `serde_json::to_value`. -/
def toValue (r : VerificationResult) : Json :=
  .object (optField "chain_validation" ChainValidation.toValue r.chainValidation ++
    optField "context_consistency" ContextConsistency.toValue r.contextConsistency ++
    [("digest_validation", r.digestValidation.toValue), ("errors", .ofStrings r.errors)] ++
    optField "policy_consistency" PolicyConsistency.toValue r.policyConsistency ++
    optField "schema_consistency" SchemaConsistency.toValue r.schemaConsistency ++
    [("schema_version", .string r.schemaVersion)] ++
    optField "signature_validation" SignatureValidation.toValue r.signatureValidation ++
    [("status", .string r.status.display)] ++
    optField "trust_validation" TrustValidation.toValue r.trustValidation)

/-- `VerificationResult::valid_single`. -/
def validSingle : VerificationResult where
  status := .valid
  schemaVersion := profileVersion
  digestValidation := ⟨true, true, true⟩
  chainValidation := none
  contextConsistency := none
  policyConsistency := none
  schemaConsistency := none
  signatureValidation := none
  trustValidation := none
  errors := []

/-- `VerificationResult::invalid`. -/
def invalid (error : String) : VerificationResult where
  status := .invalid
  schemaVersion := profileVersion
  digestValidation := ⟨false, false, false⟩
  chainValidation := none
  contextConsistency := none
  policyConsistency := none
  schemaConsistency := none
  signatureValidation := none
  trustValidation := none
  errors := [error]

/-- `VerificationResult::add_error`. -/
def addError (r : VerificationResult) (error : String) : VerificationResult :=
  { r with status := .invalid, errors := r.errors ++ [error] }

section Canonical

variable (E : Externals)

/-- `VerificationResult::to_canon_bytes`. -/
def toCanonBytes (r : VerificationResult) : Except VerifyError Bytes :=
  typedCanonBytes E r.toValue

/-- `VerificationResult::to_canon_string`. -/
def toCanonString (r : VerificationResult) : Except VerifyError String :=
  typedCanonString E r.toValue

/-- `VerificationResult::digest`. -/
def digest (r : VerificationResult) : Except VerifyError DigestBytes := do
  let canonBytes ← typedCanonBytes E r.toValue
  pure (E.blake3 canonBytes)

end Canonical

/-! ### Consistency -/

/-- Every sub-verdict present is positive. -/
structure Positive (r : VerificationResult) : Prop where
  allHashesMatch : r.digestValidation.allHashesMatch = true
  chainIntegrity : r.digestValidation.chainIntegrity = true
  orderingValid : r.digestValidation.orderingValid = true
  uniformContext : ∀ c ∈ r.contextConsistency, c.uniformContext = true
  stablePolicy : ∀ p ∈ r.policyConsistency, p.stablePolicy = true ∧ p.transitionsDetected = false
  uniformSchema : ∀ s ∈ r.schemaConsistency, s.uniformSchema = true
  signature : ∀ s ∈ r.signatureValidation, s.valid = true ∧ s.keyIdConsistent = true
  trust : ∀ t ∈ r.trustValidation, t.status = .trusted

/-- A result that does not contradict itself: it is valid exactly when it has no errors, and
then every sub-verdict present is positive. -/
structure Consistent (r : VerificationResult) : Prop where
  status_iff : r.status = .valid ↔ r.errors = []
  positive : r.status = .valid → r.Positive

/-- A result that reports an error. -/
structure Rejected (r : VerificationResult) : Prop where
  status : r.status = .invalid
  errors : r.errors ≠ []

@[simp] theorem addError_status (r : VerificationResult) (error : String) :
    (r.addError error).status = .invalid := rfl

@[simp] theorem addError_errors (r : VerificationResult) (error : String) :
    (r.addError error).errors = r.errors ++ [error] := rfl

@[simp] theorem invalid_status (error : String) : (invalid error).status = .invalid := rfl

@[simp] theorem validSingle_status : validSingle.status = .valid := rfl

@[simp] theorem validSingle_errors : validSingle.errors = [] := rfl

theorem rejected_addError (r : VerificationResult) (error : String) :
    (r.addError error).Rejected :=
  ⟨rfl, by simp⟩

theorem rejected_invalid (error : String) : (invalid error).Rejected :=
  ⟨rfl, by simp [invalid]⟩

theorem Rejected.status_ne {r : VerificationResult} (h : r.Rejected) : r.status ≠ .valid := by
  simp [h.status]

theorem Rejected.consistent {r : VerificationResult} (h : r.Rejected) : r.Consistent :=
  ⟨by simp [h.status, h.errors], fun hs => absurd hs h.status_ne⟩

theorem positive_validSingle : validSingle.Positive := by
  constructor <;> simp [validSingle]

theorem consistent_validSingle : validSingle.Consistent :=
  ⟨by simp, fun _ => positive_validSingle⟩

end VerificationResult

end VertRule
