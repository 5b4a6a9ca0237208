import VertRule.Authority
import VertRule.Layers

/-!
# The trust decision as rules

What `evaluate_trust` answers, and with which detail, follows from the operations that built the
authority set by six rules (`TrustDecides`): they are exhaustive and exclude one another
(`trustAfter_decides`).  With them the verdict on a signed receipt is followed over the life of an
authority set: it changes only by operations on the signing key, and the first revocation ends it
(`verifySignedReceipt_over_time`).
-/

namespace VertRule

/-- `revocation` is the last one recorded for `kid`. -/
def LastRevoked (ops : List AuthorityOp) (kid : String) (revocation : Revocation) : Prop :=
  ∃ before after, ops = before ++ .revoke kid revocation :: after ∧
    ∀ revocation', AuthorityOp.revoke kid revocation' ∉ after

/-- A key entry without a public key goes with any claimed one. -/
def AuthorityKey.Matches (key : AuthorityKey) (claimedPublicKeyB64 : Option String) : Prop :=
  ∀ claimed ∈ claimedPublicKeyB64, key.publicKeyB64 = "" ∨ key.publicKeyB64 = claimed

/-- Revocation does not stop the decision. -/
def Unrevoked (ops : List AuthorityOp) (kid : String) (policy : TrustPolicy) : Prop :=
  policy.enforceRevocation = false ∨ ∀ revocation, AuthorityOp.revoke kid revocation ∉ ops

/-- The rules of the decision on `kid` after `ops`, with the status and the detail each one
gives. -/
inductive TrustDecides (ops : List AuthorityOp) (kid : String) (policy : TrustPolicy)
    (claimedPublicKeyB64 : Option String) : TrustStatus → Option String → Prop
  | revoked {revocation : Revocation} (henforced : policy.enforceRevocation = true)
      (hlast : LastRevoked ops kid revocation) :
      TrustDecides ops kid policy claimedPublicKeyB64 .revoked
        (some s!"revoked at epoch {revocation.revokedAtEpoch}: {revocation.reason}")
  | unknown (h : Unrevoked ops kid policy) (hnever : ∀ key, AuthorityOp.addKey kid key ∉ ops) :
      TrustDecides ops kid policy claimedPublicKeyB64 .untrusted
        (some "key not found in authority set")
  | mismatched {key : AuthorityKey} (h : Unrevoked ops kid policy) (hlast : LastAdded ops kid key)
      (hne : ¬ key.Matches claimedPublicKeyB64) :
      TrustDecides ops kid policy claimedPublicKeyB64 .untrusted
        (some "claimed public_key_b64 does not match authority set entry")
  | early {key : AuthorityKey} (h : Unrevoked ops kid policy) (hlast : LastAdded ops kid key)
      (hm : key.Matches claimedPublicKeyB64) (henforced : policy.enforceEpoch = true)
      (hlt : policy.currentEpoch < key.validFromEpoch) :
      TrustDecides ops kid policy claimedPublicKeyB64 .wrongEpoch
        (some <| s!"current epoch {policy.currentEpoch} is before key's valid_from_epoch " ++
          s!"{key.validFromEpoch}")
  | late {key : AuthorityKey} {validUntil : UInt64} (h : Unrevoked ops kid policy)
      (hlast : LastAdded ops kid key) (hm : key.Matches claimedPublicKeyB64)
      (henforced : policy.enforceEpoch = true) (hle : key.validFromEpoch ≤ policy.currentEpoch)
      (huntil : key.validUntilEpoch = some validUntil) (hpast : validUntil ≤ policy.currentEpoch) :
      TrustDecides ops kid policy claimedPublicKeyB64 .wrongEpoch
        (some <| s!"current epoch {policy.currentEpoch} is at or past key's valid_until_epoch " ++
          s!"{validUntil}")
  | trusted {key : AuthorityKey} (h : Unrevoked ops kid policy) (hlast : LastAdded ops kid key)
      (hm : key.Matches claimedPublicKeyB64)
      (hvalid : policy.enforceEpoch = false ∨ key.ValidIn policy.currentEpoch) :
      TrustDecides ops kid policy claimedPublicKeyB64 .trusted none

section Rules

open Register

variable {setId kid : String} {ops : List AuthorityOp} {policy : TrustPolicy}
  {claimed : Option String} {keyId : KeyId} {status : TrustStatus} {detail : Option String}

/-- The set holds the revocation recorded last. -/
theorem lookup_revocations_eq_some {revocation : Revocation} :
    (authorityAfter setId ops).revocations.lookup kid = some revocation ↔
      LastRevoked ops kid revocation := by
  rw [authorityAfter, (revocations_keeps kid).look_foldl_eq_some rfl, LastRevoked]
  simp only [LastWritten, AuthorityOp.revoked_eq_some, Option.eq_none_iff_forall_ne_some, ne_eq]
  constructor
  · rintro ⟨before, op, after, hops, rfl, hlast⟩
    exact ⟨before, after, hops, fun revocation' hmem => hlast _ hmem revocation' rfl⟩
  · rintro ⟨before, after, hops, hlast⟩
    exact ⟨before, _, after, hops, rfl, fun op' hmem r hop => hlast r (hop ▸ hmem)⟩

theorem lookup_keys_eq_none :
    (authorityAfter setId ops).keys.lookup kid = none ↔
      ∀ key, AuthorityOp.addKey kid key ∉ ops := by
  rw [authorityAfter, (keys_keeps kid).look_foldl_eq_none rfl]
  simp only [Option.eq_none_iff_forall_ne_some, ne_eq, AuthorityOp.added_eq_some]
  exact ⟨fun h key hmem => h _ hmem key rfl, fun h op hmem key hop => h key (hop ▸ hmem)⟩

theorem unrevoked_iff :
    Unrevoked ops kid policy ↔ (if policy.enforceRevocation then
      (authorityAfter setId ops).revocations.lookup kid else none) = none := by
  rw [Unrevoked, ← @lookup_revocations_authorityAfter setId]
  cases policy.enforceRevocation <;> simp

theorem any_ne_iff {key : AuthorityKey} :
    (claimed.any fun p => !key.publicKeyB64.isEmpty && p != key.publicKeyB64) = true ↔
      ¬ key.Matches claimed := by
  cases claimed with
  | none => simp [AuthorityKey.Matches]
  | some p => simp [AuthorityKey.Matches, @eq_comm _ p]

/-- The decision is what a rule says. -/
theorem TrustDecides.trustDecision_eq (h : TrustDecides ops kid policy claimed status detail) :
    trustDecision kid (authorityAfter setId ops) policy claimed = (status, detail) := by
  unfold trustDecision
  cases h with
  | revoked henforced hlast => rw [if_pos henforced, lookup_revocations_eq_some.2 hlast]
  | unknown h hnever => rw [unrevoked_iff.1 h, lookup_keys_eq_none.2 hnever]
  | mismatched h hlast hne =>
    rw [unrevoked_iff.1 h, lookup_keys_authorityAfter.2 hlast]
    exact if_pos (any_ne_iff.2 hne)
  | early h hlast hm henforced hlt =>
    rw [unrevoked_iff.1 h, lookup_keys_authorityAfter.2 hlast]
    simp only [if_neg (mt any_ne_iff.1 (not_not.2 hm)), henforced, if_true,
      AuthorityKey.epochFault, if_pos hlt]
  | late h hlast hm henforced hle huntil hpast =>
    rw [unrevoked_iff.1 h, lookup_keys_authorityAfter.2 hlast]
    simp only [if_neg (mt any_ne_iff.1 (not_not.2 hm)), henforced, if_true,
      AuthorityKey.epochFault, if_neg (UInt64.not_lt.2 hle), huntil, if_pos hpast]
  | trusted h hlast hm hvalid =>
    rw [unrevoked_iff.1 h, lookup_keys_authorityAfter.2 hlast]
    have hfault : ∀ key : AuthorityKey,
        policy.enforceEpoch = false ∨ key.ValidIn policy.currentEpoch →
        (if policy.enforceEpoch then key.epochFault policy.currentEpoch else none) = none := by
      intro key hvalid
      rw [← AuthorityKey.epochFault_eq_none] at hvalid
      cases hvalid with
      | inl hoff => simp [hoff]
      | inr hnone => simp [hnone]
    simp only [if_neg (mt any_ne_iff.1 (not_not.2 hm)), hfault _ hvalid]

/-- Some rule applies. -/
theorem exists_trustDecides (ops : List AuthorityOp) (kid : String) (policy : TrustPolicy)
    (claimed : Option String) :
    ∃ status detail, TrustDecides ops kid policy claimed status detail := by
  by_cases hunrevoked : Unrevoked ops kid policy
  · cases hkey : (authorityAfter "" ops).keys.lookup kid with
    | none => exact ⟨_, _, .unknown hunrevoked (lookup_keys_eq_none.1 hkey)⟩
    | some key =>
      have hlast := lookup_keys_authorityAfter.1 hkey
      by_cases hm : key.Matches claimed
      · by_cases hvalid : policy.enforceEpoch = false ∨ key.ValidIn policy.currentEpoch
        · exact ⟨_, _, .trusted hunrevoked hlast hm hvalid⟩
        · obtain ⟨henforced, hepoch⟩ := not_or.1 hvalid
          rw [Bool.not_eq_false] at henforced
          by_cases hlt : policy.currentEpoch < key.validFromEpoch
          · exact ⟨_, _, .early hunrevoked hlast hm henforced hlt⟩
          · -- the key is not valid any more, so it has an end
            have hle := UInt64.not_lt.1 hlt
            have huntil :
                ∃ validUntil ∈ key.validUntilEpoch, ¬ policy.currentEpoch < validUntil := by
              by_contra hno
              exact hepoch ⟨hle, fun u hu => not_not.1 fun hpast => hno ⟨u, hu, hpast⟩⟩
            obtain ⟨validUntil, huntil, hpast⟩ := huntil
            exact ⟨_, _, .late hunrevoked hlast hm henforced hle huntil (UInt64.not_lt.1 hpast)⟩
      · exact ⟨_, _, .mismatched hunrevoked hlast hm⟩
  · obtain ⟨henforced, hrevoked⟩ := not_or.1 hunrevoked
    rw [← @lookup_revocations_authorityAfter ""] at hrevoked
    obtain ⟨revocation, hrevocation⟩ := Option.ne_none_iff_exists'.1 hrevoked
    exact ⟨_, _, .revoked (Bool.eq_true_of_not_eq_false henforced)
      (lookup_revocations_eq_some.1 hrevocation)⟩

/-- **The rules decide**: over every history of the authority set, the evaluation answers what one
of the rules says, and nothing else. -/
theorem trustAfter_eq_iff :
    trustAfter setId ops keyId policy claimed =
        ⟨status, setId, keyId.hex, policy.currentEpoch, detail⟩ ↔
      TrustDecides ops keyId.hex policy claimed status detail := by
  obtain ⟨status', detail', h⟩ := exists_trustDecides ops keyId.hex policy claimed
  have heq : trustAfter setId ops keyId policy claimed =
      ⟨status', setId, keyId.hex, policy.currentEpoch, detail'⟩ := by
    rw [trustAfter, evaluateTrust, h.trustDecision_eq, authorityAfter_setId]
  constructor
  · intro hafter
    obtain ⟨rfl, -, -, -, rfl⟩ := TrustValidation.mk.inj (heq.symm.trans hafter)
    exact h
  · intro h'
    obtain ⟨rfl, rfl⟩ := Prod.mk.inj ((@h.trustDecision_eq setId).symm.trans h'.trustDecision_eq)
    exact heq

end Rules

/-! ### A signed receipt over the life of an authority set -/

section OverTime

variable (E : Externals) (rawBytes sigBytes : Bytes) (setId : String)

/-- `verify_signed_receipt_with_trust` against the authority set that `ops` build. -/
def verifySignedReceiptAfter (ops : List AuthorityOp) (policy : TrustPolicy) :
    VerificationResult :=
  verifySignedReceiptWithTrust E rawBytes sigBytes (authorityAfter setId ops) policy

/-- The decision on the key of a signature bundle. -/
def SignatureBundle.Decided (bundle : SignatureBundle) (ops : List AuthorityOp)
    (policy : TrustPolicy) : TrustStatus → Option String → Prop :=
  TrustDecides ops bundle.keyId.hex policy (some bundle.publicKeyB64)

/-- What becomes of a signed receipt as operations are made on the authority set. -/
structure SignedOverTime : Prop where
  valid_iff : ∀ ops policy,
    (verifySignedReceiptAfter E rawBytes sigBytes setId ops policy).status = .valid ↔
      (verifySignedReceipt E rawBytes sigBytes).status = .valid ∧
        ∃ bundle, E.signatureBundleFromSlice sigBytes = .ok bundle ∧
          bundle.Decided ops policy .trusted none
  reported : ∀ ops policy bundle status detail,
    (verifySignedReceipt E rawBytes sigBytes).status = .valid →
    E.signatureBundleFromSlice sigBytes = .ok bundle → bundle.Decided ops policy status detail →
    (verifySignedReceiptAfter E rawBytes sigBytes setId ops policy).errors =
        (if status = .trusted then [] else [s!"trust: {status.display}"]) ∧
      (verifySignedReceiptAfter E rawBytes sigBytes setId ops policy).trustValidation =
        some ⟨status, setId, bundle.keyId.hex, policy.currentEpoch, detail⟩
  others_irrelevant : ∀ before op after policy,
    (∀ bundle, E.signatureBundleFromSlice sigBytes = .ok bundle → op.keyId ≠ bundle.keyId.hex) →
    verifySignedReceiptAfter E rawBytes sigBytes setId (before ++ op :: after) policy =
      verifySignedReceiptAfter E rawBytes sigBytes setId (before ++ after) policy
  revocation_ends : ∀ before revocation after policy bundle, policy.enforceRevocation = true →
    E.signatureBundleFromSlice sigBytes = .ok bundle →
    (verifySignedReceiptAfter E rawBytes sigBytes setId
      (before ++ .revoke bundle.keyId.hex revocation :: after) policy).status ≠ .valid

variable {E rawBytes sigBytes setId} {envelope : ReceiptEnvelope} {bundle : SignatureBundle}
  {ops : List AuthorityOp} {policy : TrustPolicy} {status : TrustStatus} {detail : Option String}

/-- Of a signature that is proven, the trust layer reports what the rules decide. -/
theorem SignatureProven.verifySignedReceiptAfter_eq
    (h : SignatureProven E rawBytes sigBytes envelope bundle)
    (hd : bundle.Decided ops policy status detail) :
    verifySignedReceiptAfter E rawBytes sigBytes setId ops policy =
      (verifySignedReceipt E rawBytes sigBytes).judge
        ⟨status, setId, bundle.keyId.hex, policy.currentEpoch, detail⟩ := by
  rw [verifySignedReceiptAfter, h.verifySignedReceiptWithTrust_eq]
  exact congrArg _ (trustAfter_eq_iff.2 hd)

theorem not_trusted_of_revoked {kid : String} {claimed : Option String} {revocation : Revocation}
    (henforced : policy.enforceRevocation = true) (hmem : .revoke kid revocation ∈ ops) :
    ¬ TrustDecides ops kid policy claimed .trusted detail := by
  intro h
  cases h with
  | trusted h =>
    rcases h with hoff | hnever
    · exact absurd (henforced.symm.trans hoff) (by decide)
    · exact hnever revocation hmem

/-- **A signed receipt over the life of an authority set.** -/
theorem verifySignedReceipt_over_time : SignedOverTime E rawBytes sigBytes setId := by
  have hvalid : ∀ ops policy,
      (verifySignedReceiptAfter E rawBytes sigBytes setId ops policy).status = .valid ↔
        (verifySignedReceipt E rawBytes sigBytes).status = .valid ∧
          ∃ bundle, E.signatureBundleFromSlice sigBytes = .ok bundle ∧
            bundle.Decided ops policy .trusted none := by
    intro ops policy
    by_cases h : ∃ envelope bundle, SignatureProven E rawBytes sigBytes envelope bundle
    · obtain ⟨envelope, bundle, hp⟩ := h
      obtain ⟨status, detail, hd⟩ :=
        exists_trustDecides ops bundle.keyId.hex policy (some bundle.publicKeyB64)
      rw [hp.verifySignedReceiptAfter_eq hd, VerificationResult.judge_valid_iff]
      refine and_congr_right fun _ => ?_
      constructor
      · rintro rfl
        cases hd with
        | trusted h hlast hm hv => exact ⟨bundle, hp.parsed, .trusted h hlast hm hv⟩
      · rintro ⟨bundle', hb, hd'⟩
        obtain rfl := Except.ok.inj (hp.parsed.symm.trans hb)
        exact (Prod.mk.inj ((@hd.trustDecision_eq setId).symm.trans hd'.trustDecision_eq)).1
    · rw [verifySignedReceiptAfter, verifySignedReceiptWithTrust_eq_of_not_proven h]
      exact iff_of_false (verifySignedReceipt_rejected h).status_ne
        fun hs => (verifySignedReceipt_rejected h).status_ne hs.1
  refine ⟨hvalid, ?_, ?_, ?_⟩
  · intro ops policy bundle status detail hs hb hd
    obtain ⟨-, envelope, bundle', hp⟩ := verifySignedReceipt_valid_iff.1 hs
    obtain rfl := Except.ok.inj (hb.symm.trans hp.parsed)
    have herrors := (verifySignedReceipt_consistent (E := E)).status_iff.1 hs
    rw [hp.verifySignedReceiptAfter_eq hd, VerificationResult.judge]
    refine ⟨?_, rfl⟩
    by_cases ht : status = .trusted
    · rw [if_pos ht, if_neg (not_not.2 ht)]
      exact herrors
    · rw [if_neg ht, if_pos ht]
      exact congrArg (· ++ _) herrors
  · intro before op after policy hne
    by_cases h : ∃ envelope bundle, SignatureProven E rawBytes sigBytes envelope bundle
    · obtain ⟨envelope, bundle, hp⟩ := h
      rw [verifySignedReceiptAfter, verifySignedReceiptAfter, hp.verifySignedReceiptWithTrust_eq,
        hp.verifySignedReceiptWithTrust_eq]
      exact congrArg _ (trustAfter_skip (hne bundle hp.parsed))
    · rw [verifySignedReceiptAfter, verifySignedReceiptAfter,
        verifySignedReceiptWithTrust_eq_of_not_proven h,
        verifySignedReceiptWithTrust_eq_of_not_proven h]
  · intro before revocation after policy bundle henforced hb
    rw [ne_eq, hvalid]
    rintro ⟨-, bundle', hb', hd⟩
    obtain rfl := Except.ok.inj (hb.symm.trans hb')
    exact not_trusted_of_revoked henforced (List.mem_append_right _ List.mem_cons_self) hd

end OverTime

end VertRule
