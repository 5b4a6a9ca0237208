import VertRule.Error

/-!
# The v1 governance profile

The fields and discriminator values `schema_profile.rs` admits in an envelope.
-/

namespace VertRule

/-- `PROFILE_VERSION`. -/
def profileVersion : String := "v1"

/-- `REQUIRED_ENVELOPE_FIELDS`. -/
def requiredEnvelopeFields : List String :=
  ["envelope_version", "receipt_type", "context_digest", "schema_digest", "policy_digest",
    "logical_time", "event_hash", "payload"]

/-- `OPTIONAL_ENVELOPE_FIELDS`. -/
def optionalEnvelopeFields : List String :=
  ["parent_id", "boundary_origin", "digest_algorithm", "canonicalization",
    "event_hash_profile"]

/-- `KNOWN_RECEIPT_TYPES`. -/
def knownReceiptTypes : List String :=
  ["event", "llm", "mri", "governance", "adapter", "projection", "training", "operation",
    "finalization", "abort"]

/-- `KNOWN_BOUNDARY_ORIGINS`. -/
def knownBoundaryOrigins : List String :=
  ["engine", "adapter", "numeric", "governance", "model", "training"]

/-- `is_known_field`. -/
def isKnownField (field : String) : Bool :=
  requiredEnvelopeFields.contains field || optionalEnvelopeFields.contains field

/-- `is_known_receipt_type`. -/
def isKnownReceiptType (value : String) : Bool := knownReceiptTypes.contains value

/-- `is_known_boundary_origin`. -/
def isKnownBoundaryOrigin (value : String) : Bool := knownBoundaryOrigins.contains value

/-- The check `validate_envelope_schema` makes on a discriminator field: a string value must be
a known one.  A value that is not a string is left to the typed deserialization. -/
def checkDiscriminator (obj : List (String × Json)) (field : String) (known : String → Bool)
    (err : String → VerifyError) : Except VerifyError Unit :=
  match (obj.lookup field).bind Json.asStr with
  | some value => if known value then .ok () else .error (err value)
  | none => .ok ()

/-- `validate_envelope_schema`. -/
def validateEnvelopeSchema (raw : Json) : Except VerifyError Unit :=
  match raw.asObject with
  | none => .error (.malformedJson "envelope must be a JSON object")
  | some obj => do
    match obj.find? fun f => !isKnownField f.1 with
    | some f => throw (.unknownField f.1)
    | none => pure ()
    match requiredEnvelopeFields.find? fun field => (obj.lookup field).isNone with
    | some field => throw (.missingRequiredField field)
    | none => pure ()
    checkDiscriminator obj "receipt_type" isKnownReceiptType .unknownReceiptType
    checkDiscriminator obj "boundary_origin" isKnownBoundaryOrigin .unknownBoundaryOrigin

end VertRule
