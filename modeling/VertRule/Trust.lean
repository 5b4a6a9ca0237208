import VertRule.Wire
import Mathlib.Data.List.AList

/-!
# Trust in the signing key

`trust.rs`: authority sets, trust policies and `evaluateTrust`, the decision on one key.
-/

namespace VertRule

/-- `AuthorityKey`. -/
structure AuthorityKey where
  publicKeyB64 : String
  validFromEpoch : UInt64
  validUntilEpoch : Option UInt64

/-- `Revocation`. -/
structure Revocation where
  reason : String
  revokedAtEpoch : UInt64

/-- `AuthoritySet`. -/
structure AuthoritySet where
  setId : String
  keys : AList fun _ : String => AuthorityKey
  revocations : AList fun _ : String => Revocation

namespace AuthoritySet

/-- `AuthoritySet::new`. -/
def new (setId : String) : AuthoritySet := ⟨setId, ∅, ∅⟩

/-- `AuthoritySet::add_key`. -/
def addKey (set : AuthoritySet) (keyId : String) (key : AuthorityKey) : AuthoritySet :=
  { set with keys := set.keys.insert keyId key }

/-- `AuthoritySet::revoke`. -/
def revoke (set : AuthoritySet) (keyId : String) (revocation : Revocation) : AuthoritySet :=
  { set with revocations := set.revocations.insert keyId revocation }

end AuthoritySet

/-- `TrustPolicy`. -/
structure TrustPolicy where
  currentEpoch : UInt64
  enforceEpoch : Bool
  enforceRevocation : Bool

/-- `TrustPolicy::default`. -/
def TrustPolicy.default : TrustPolicy := ⟨1, true, true⟩

/-- `TrustStatus`. -/
inductive TrustStatus where
  | trusted | untrusted | revoked | wrongEpoch
  deriving DecidableEq

/-- `Display for TrustStatus`, which is also the serialized status. -/
def TrustStatus.display : TrustStatus → String
  | trusted => "trusted"
  | untrusted => "untrusted"
  | revoked => "revoked"
  | wrongEpoch => "wrong_epoch"

/-- `TrustValidation`. -/
structure TrustValidation where
  status : TrustStatus
  authoritySetId : String
  keyId : String
  evaluatedAtEpoch : UInt64
  detail : Option String

/-- The epoch check of `evaluate_trust`: what is wrong with the current epoch, if anything. -/
def AuthorityKey.epochFault (key : AuthorityKey) (currentEpoch : UInt64) : Option String :=
  if currentEpoch < key.validFromEpoch then
    some <| s!"current epoch {currentEpoch} is before key's valid_from_epoch " ++
      s!"{key.validFromEpoch}"
  else match key.validUntilEpoch with
    | some validUntil =>
      if validUntil ≤ currentEpoch then
        some <| s!"current epoch {currentEpoch} is at or past key's valid_until_epoch " ++
          s!"{validUntil}"
      else none
    | none => none

/-- The decision of `evaluate_trust`: revocation first, then membership, the claimed public
key, and the epoch. -/
def trustDecision (kid : String) (authoritySet : AuthoritySet) (policy : TrustPolicy)
    (claimedPublicKeyB64 : Option String) : TrustStatus × Option String :=
  match if policy.enforceRevocation then authoritySet.revocations.lookup kid else none with
  | some revocation =>
    (.revoked, some s!"revoked at epoch {revocation.revokedAtEpoch}: {revocation.reason}")
  | none =>
    match authoritySet.keys.lookup kid with
    | none => (.untrusted, some "key not found in authority set")
    | some authorityKey =>
      if claimedPublicKeyB64.any fun claimed =>
          !authorityKey.publicKeyB64.isEmpty && claimed != authorityKey.publicKeyB64 then
        (.untrusted, some "claimed public_key_b64 does not match authority set entry")
      else
        match if policy.enforceEpoch then authorityKey.epochFault policy.currentEpoch
          else none with
        | some fault => (.wrongEpoch, some fault)
        | none => (.trusted, none)

/-- `evaluate_trust`. -/
def evaluateTrust (keyId : KeyId) (authoritySet : AuthoritySet) (policy : TrustPolicy)
    (claimedPublicKeyB64 : Option String) : TrustValidation :=
  let (status, detail) := trustDecision keyId.hex authoritySet policy claimedPublicKeyB64
  { status
    authoritySetId := authoritySet.setId
    keyId := keyId.hex
    evaluatedAtEpoch := policy.currentEpoch
    detail }

end VertRule
