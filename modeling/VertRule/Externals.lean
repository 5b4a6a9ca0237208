import VertRule.Wire
import VertRule.Error

/-!
# Third-party code

The functions of other crates the verifier calls.  Every result is stated for an arbitrary
`Externals`; a result that relies on what one of these functions does names that as a
hypothesis.
-/

namespace VertRule

/-- `vr_jcs::JcsError`: a JSON parse error, or a violation of the canonical form or of the
I-JSON restrictions. -/
inductive JcsError where
  | json (message : String)
  | other (message : String)
  deriving DecidableEq

/-- `Display for JcsError`. -/
def JcsError.display : JcsError → String
  | json message => message
  | other message => message

/-- `ed25519_dalek::VerifyingKey`, by its compressed bytes. -/
structure VerifyingKey where
  bytes : Bytes
  deriving DecidableEq

/-- The third-party functions the verifier calls.  A `serde` error is its message. -/
structure Externals where
  /-- `serde_json::from_slice::<Value>`; on a `&str`, `from_str` reads the same bytes. -/
  fromSlice : Bytes → Except String Json
  /-- `serde_json::to_vec`. -/
  toVec : Json → Except String Bytes
  /-- `serde_json::to_string`. -/
  toJsonString : Json → Except String String
  /-- `serde_json::from_value::<ReceiptEnvelope>`. -/
  envelopeFromValue : Json → Except String ReceiptEnvelope
  /-- `serde_json::from_slice::<ReceiptEnvelope>`. -/
  envelopeFromSlice : Bytes → Except String ReceiptEnvelope
  /-- `serde_json::to_value` on a receipt envelope. -/
  envelopeToValue : ReceiptEnvelope → Except String Json
  /-- `serde_json::from_value::<Vec<SupportMember>>`. -/
  supportSetFromValue : Json → Except String (List SupportMember)
  /-- `serde_json::from_value::<DecisionReceiptPayload>`. -/
  decisionPayloadFromValue : Json → Except String DecisionReceiptPayload
  /-- `serde_json::from_slice::<ExecutionBundle>`. -/
  executionBundleFromSlice : Bytes → Except String ExecutionBundle
  /-- `serde_json::from_slice::<DecisionPack>`. -/
  decisionPackFromSlice : Bytes → Except String DecisionPack
  /-- `serde_json::from_slice::<LayeredPack>`. -/
  layeredPackFromSlice : Bytes → Except String LayeredPack
  /-- `serde_json::from_slice::<ClosureBundle>`. -/
  closureBundleFromSlice : Bytes → Except String ClosureBundle
  /-- `serde_json::from_slice::<SignatureBundle>`. -/
  signatureBundleFromSlice : Bytes → Except String SignatureBundle
  /-- `vr_jcs::to_canon_bytes_from_slice`. -/
  toCanonBytesFromSlice : Bytes → Except JcsError Bytes
  /-- `vr_jcs::to_canon_string_from_str`. -/
  toCanonStringFromStr : String → Except JcsError String
  /-- The canonical bytes that `vr_jcs::to_canon_digest_with` hashes. -/
  canonicalize : Json → Except JcsError Bytes
  /-- `blake3::hash`. -/
  blake3 : Bytes → DigestBytes
  /-- `vr_receipt_identity::compute_event_hash`. -/
  computeEventHash : ReceiptEnvelope → Except String DigestBytes
  /-- `SchemaVersion::digest_algorithm`. -/
  versionDigestAlgorithm : SchemaVersion → String
  /-- `SchemaVersion::canonicalization`. -/
  versionCanonicalization : SchemaVersion → String
  /-- `base64`'s standard engine. -/
  base64Decode : String → Except String Bytes
  /-- `VerifyingKey::from_bytes`. -/
  verifyingKeyFromBytes : Bytes → Except String VerifyingKey
  /-- `VerifyingKey::verify`. -/
  ed25519Verify : VerifyingKey → Bytes → Bytes → Bool
  /-- `Display` and `Debug` of digests. -/
  digestFormat : DigestFormat
  /-- `{:?}` of a string. -/
  debugStr : String → String
  /-- `{:?}` of a receipt type. -/
  debugReceiptType : ReceiptType → String
  /-- `{:?}` of a boundary origin. -/
  debugBoundaryOrigin : BoundaryOrigin → String

namespace Externals

variable (E : Externals)

/-- `serde_json::from_str::<Value>`. -/
def fromStr (s : String) : Except String Json := E.fromSlice (asBytes s)

/-- The message of an error. -/
def message (e : VerifyError) : String := e.display E.digestFormat

end Externals

end VertRule
