import VertRule.Schemas.Types

/-!
# The documents the verifier parses

The input types the verifier declares itself: the execution bundle, the decision pack, the
layered pack, the closure bundle and the signature bundle.  Their deserializers are derived;
`Externals` holds them.
-/

namespace VertRule

/-- Optional sidecar artifacts; a `null` sidecar deserializes as an absent one. -/
structure BundleSidecars where
  layerTrace : Option Json
  selectionPolicy : Option Json

/-- `vr-execution-bundle/v1`. -/
structure ExecutionBundle where
  format : String
  envelopeCanonical : String
  sidecars : BundleSidecars

/-- `vr-decision-pack/v1`. -/
structure DecisionPack where
  format : String
  decisionCanonical : String
  dependedOn : List String

/-- `vr-layered-pack/v1`. -/
structure LayeredPack where
  format : String
  rootCanonical : String
  receipts : List String

/-- `vr-layered-bundle/v1`. -/
structure ClosureBundle where
  format : String
  rootCanonical : String
  manifest : Json
  receipts : List String

/-- `char::is_ascii_hexdigit() && !char::is_ascii_uppercase()`. -/
def isLowerHexDigit (c : Char) : Bool := ('0' ≤ c ∧ c ≤ '9') ∨ ('a' ≤ c ∧ c ≤ 'f')

/-- `KEY_ID_HEX_LEN`. -/
def keyIdHexLen : ℕ := 24

/-- `KeyId`: exactly 24 lowercase hex characters. -/
structure KeyId where
  hex : String
  length_eq : hex.utf8ByteSize = keyIdHexLen
  lowerHex : hex.toList.all isLowerHexDigit = true
  deriving DecidableEq

/-- `SignatureBundle`. -/
structure SignatureBundle where
  alg : String
  keyId : KeyId
  publicKeyB64 : String
  signatureB64 : String
  schemaVersion : String
  basis : String
  timestamp : String

/-! ### Reading an envelope value -/

/-- `read_event_hash`. -/
def readEventHash (value : Json) : Option String := (value.get "event_hash").bind Json.asStr

/-- `read_payload_kind`. -/
def readPayloadKind (value : Json) : Option String :=
  ((value.get "payload").bind (·.get "payload_kind")).bind Json.asStr

end VertRule
