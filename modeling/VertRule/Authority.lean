import VertRule.Lib.Register
import VertRule.Trust

/-!
# Trust over the history of an authority set

`evaluate_trust` against an authority set that was built by any sequence of `add_key` and
`revoke`: which keys are trusted can be read off the sequence, without the set.
-/

namespace VertRule

/-- An operation on an authority set. -/
inductive AuthorityOp where
  | addKey (keyId : String) (key : AuthorityKey)
  | revoke (keyId : String) (revocation : Revocation)

namespace AuthorityOp

/-- The key id that an operation is about. -/
def keyId : AuthorityOp → String
  | addKey keyId _ | revoke keyId _ => keyId

/-- The entry that an operation adds for `kid`. -/
def added (kid : String) : AuthorityOp → Option AuthorityKey
  | addKey keyId key => if keyId = kid then some key else none
  | revoke .. => none

/-- The revocation that an operation records for `kid`. -/
def revoked (kid : String) : AuthorityOp → Option Revocation
  | addKey .. => none
  | revoke keyId revocation => if keyId = kid then some revocation else none

theorem added_eq_some {kid : String} {key : AuthorityKey} {op : AuthorityOp} :
    op.added kid = some key ↔ op = .addKey kid key := by
  cases op with
  | addKey keyId key' => simp [added]
  | revoke keyId revocation => simp [added]

theorem revoked_eq_some {kid : String} {revocation : Revocation} {op : AuthorityOp} :
    op.revoked kid = some revocation ↔ op = .revoke kid revocation := by
  cases op with
  | addKey keyId key => simp [revoked]
  | revoke keyId revocation' => simp [revoked]

/-- An operation about another key id adds and revokes nothing here. -/
theorem eq_none_of_keyId_ne {kid : String} {op : AuthorityOp} (h : op.keyId ≠ kid) :
    op.added kid = none ∧ op.revoked kid = none := by
  cases op with
  | addKey keyId key => exact ⟨if_neg h, rfl⟩
  | revoke keyId revocation => exact ⟨rfl, if_neg h⟩

end AuthorityOp

/-- The authority set after an operation. -/
def AuthoritySet.apply (set : AuthoritySet) : AuthorityOp → AuthoritySet
  | .addKey keyId key => set.addKey keyId key
  | .revoke keyId revocation => set.revoke keyId revocation

/-- The authority set that a sequence of operations builds. -/
def authorityAfter (setId : String) (ops : List AuthorityOp) : AuthoritySet :=
  ops.foldl AuthoritySet.apply (.new setId)

/-- `key` is the last entry added for `kid`. -/
def LastAdded (ops : List AuthorityOp) (kid : String) (key : AuthorityKey) : Prop :=
  ∃ before after, ops = before ++ .addKey kid key :: after ∧
    ∀ key', AuthorityOp.addKey kid key' ∉ after

/-- The key is valid in an epoch. -/
def AuthorityKey.ValidIn (key : AuthorityKey) (epoch : UInt64) : Prop :=
  key.validFromEpoch ≤ epoch ∧ ∀ validUntil ∈ key.validUntilEpoch, epoch < validUntil

/-- When the operations make `kid` trusted. -/
structure TrustRule (ops : List AuthorityOp) (kid : String) (policy : TrustPolicy)
    (claimedPublicKeyB64 : Option String) : Prop where
  notRevoked : policy.enforceRevocation = false ∨
    ∀ revocation, AuthorityOp.revoke kid revocation ∉ ops
  key : ∃ key, LastAdded ops kid key ∧
    (∀ claimed ∈ claimedPublicKeyB64, key.publicKeyB64 = "" ∨ key.publicKeyB64 = claimed) ∧
    (policy.enforceEpoch = false ∨ key.ValidIn policy.currentEpoch)

/-- `policy'` enforces all that `policy` does, in the same epoch. -/
structure TrustPolicy.Tightens (policy' policy : TrustPolicy) : Prop where
  epoch : policy'.currentEpoch = policy.currentEpoch
  enforceEpoch : policy.enforceEpoch → policy'.enforceEpoch
  enforceRevocation : policy.enforceRevocation → policy'.enforceRevocation

/-- `evaluate_trust` on the authority set that `ops` build. -/
def trustAfter (setId : String) (ops : List AuthorityOp) (keyId : KeyId) (policy : TrustPolicy)
    (claimedPublicKeyB64 : Option String) : TrustValidation :=
  evaluateTrust keyId (authorityAfter setId ops) policy claimedPublicKeyB64

/-- What holds of the trust in a key over all histories of an authority set. -/
structure TrustLaw (setId : String) (keyId : KeyId) : Prop where
  trusted_iff : ∀ ops policy claimed,
    (trustAfter setId ops keyId policy claimed).status = .trusted ↔
      TrustRule ops keyId.hex policy claimed
  revocation_final : ∀ before revocation after policy claimed, policy.enforceRevocation = true →
    (trustAfter setId (before ++ .revoke keyId.hex revocation :: after) keyId policy
      claimed).status ≠ .trusted
  others_irrelevant : ∀ before op after policy claimed, op.keyId ≠ keyId.hex →
    trustAfter setId (before ++ op :: after) keyId policy claimed =
      trustAfter setId (before ++ after) keyId policy claimed
  antitone : ∀ ops policy policy' claimed, policy'.Tightens policy →
    (trustAfter setId ops keyId policy' claimed).status = .trusted →
    (trustAfter setId ops keyId policy claimed).status = .trusted
  interval : ∀ ops (policy : TrustPolicy) claimed first epoch last, first ≤ epoch → epoch ≤ last →
    (trustAfter setId ops keyId { policy with currentEpoch := first } claimed).status = .trusted →
    (trustAfter setId ops keyId { policy with currentEpoch := last } claimed).status = .trusted →
    (trustAfter setId ops keyId { policy with currentEpoch := epoch } claimed).status = .trusted

/-! ### What the operations leave in the set -/

section Registers

open Register

variable {setId kid : String} {ops : List AuthorityOp}

theorem keys_keeps (kid : String) :
    Keeps AuthoritySet.apply (·.keys.lookup kid) (AuthorityOp.added kid) := by
  rintro set (⟨keyId, key⟩ | ⟨keyId, revocation⟩)
  · by_cases h : keyId = kid
    · simp [AuthoritySet.apply, AuthoritySet.addKey, AuthorityOp.added, h]
    · simp [AuthoritySet.apply, AuthoritySet.addKey, AuthorityOp.added, h, Ne.symm h]
  · simp [AuthoritySet.apply, AuthoritySet.revoke, AuthorityOp.added]

theorem revocations_keeps (kid : String) :
    Keeps AuthoritySet.apply (·.revocations.lookup kid) (AuthorityOp.revoked kid) := by
  rintro set (⟨keyId, key⟩ | ⟨keyId, revocation⟩)
  · simp [AuthoritySet.apply, AuthoritySet.addKey, AuthorityOp.revoked]
  · by_cases h : keyId = kid
    · simp [AuthoritySet.apply, AuthoritySet.revoke, AuthorityOp.revoked, h]
    · simp [AuthoritySet.apply, AuthoritySet.revoke, AuthorityOp.revoked, h, Ne.symm h]

theorem authorityAfter_setId : (authorityAfter setId ops).setId = setId := by
  have hfold : ∀ set : AuthoritySet, (ops.foldl AuthoritySet.apply set).setId = set.setId := by
    induction ops with
    | nil => exact fun _ => rfl
    | cons op ops ih =>
      intro set
      rw [List.foldl_cons, ih]
      cases op <;> rfl
  exact hfold _

/-- The set holds the entry added last. -/
theorem lookup_keys_authorityAfter {key : AuthorityKey} :
    (authorityAfter setId ops).keys.lookup kid = some key ↔ LastAdded ops kid key := by
  rw [authorityAfter, (keys_keeps kid).look_foldl_eq_some rfl, LastAdded]
  simp only [LastWritten, AuthorityOp.added_eq_some, Option.eq_none_iff_forall_ne_some, ne_eq]
  constructor
  · rintro ⟨before, op, after, hops, rfl, hlast⟩
    exact ⟨before, after, hops, fun key' hmem => hlast _ hmem key' rfl⟩
  · rintro ⟨before, after, hops, hlast⟩
    exact ⟨before, _, after, hops, rfl, fun op' hmem key' hop => hlast key' (hop ▸ hmem)⟩

/-- The set holds no revocation exactly when none was recorded. -/
theorem lookup_revocations_authorityAfter :
    (authorityAfter setId ops).revocations.lookup kid = none ↔
      ∀ revocation, AuthorityOp.revoke kid revocation ∉ ops := by
  rw [authorityAfter, (revocations_keeps kid).look_foldl_eq_none rfl]
  simp only [Option.eq_none_iff_forall_ne_some, ne_eq, AuthorityOp.revoked_eq_some]
  exact ⟨fun h revocation hmem => h _ hmem revocation rfl,
    fun h op hmem revocation hop => h revocation (hop ▸ hmem)⟩

end Registers

/-! ### The decision -/

theorem AuthorityKey.epochFault_eq_none {key : AuthorityKey} {epoch : UInt64} :
    key.epochFault epoch = none ↔ key.ValidIn epoch := by
  rw [AuthorityKey.epochFault, AuthorityKey.ValidIn]
  split_ifs with hfrom
  · simp [hfrom]
  · cases hu : key.validUntilEpoch with
    | none => simp [UInt64.not_lt.1 hfrom]
    | some validUntil => simp [UInt64.not_lt.1 hfrom]

/-- A key is trusted when none of the four checks of the decision stops it. -/
theorem evaluateTrust_trusted_iff {keyId : KeyId} {set : AuthoritySet} {policy : TrustPolicy}
    {claimed : Option String} :
    (evaluateTrust keyId set policy claimed).status = .trusted ↔
      (policy.enforceRevocation = false ∨ set.revocations.lookup keyId.hex = none) ∧
      ∃ key, set.keys.lookup keyId.hex = some key ∧
        (∀ p ∈ claimed, key.publicKeyB64 = "" ∨ key.publicKeyB64 = p) ∧
        (policy.enforceEpoch = false ∨ key.ValidIn policy.currentEpoch) := by
  have hrevocation : (if policy.enforceRevocation then set.revocations.lookup keyId.hex else none) =
      none ↔ policy.enforceRevocation = false ∨ set.revocations.lookup keyId.hex = none := by
    cases policy.enforceRevocation <;> simp
  have hepoch : ∀ key : AuthorityKey,
      (if policy.enforceEpoch then key.epochFault policy.currentEpoch else none) = none ↔
        policy.enforceEpoch = false ∨ key.ValidIn policy.currentEpoch := by
    intro key
    rw [← AuthorityKey.epochFault_eq_none]
    cases policy.enforceEpoch <;> simp
  have hclaimed : ∀ key : AuthorityKey, (claimed.any fun p =>
      !key.publicKeyB64.isEmpty && p != key.publicKeyB64) = true ↔
        ¬ ∀ p ∈ claimed, key.publicKeyB64 = "" ∨ key.publicKeyB64 = p := by
    intro key
    cases claimed with
    | none => simp
    | some p => simp [@eq_comm _ p]
  rw [evaluateTrust, trustDecision, ← hrevocation]
  cases if policy.enforceRevocation then set.revocations.lookup keyId.hex else none with
  | some revocation => simp
  | none =>
    cases hkey : set.keys.lookup keyId.hex with
    | none => simp
    | some key =>
      simp only [Option.some.injEq, exists_eq_left', true_and, ← hepoch]
      by_cases hc : ∀ p ∈ claimed, key.publicKeyB64 = "" ∨ key.publicKeyB64 = p
      · rw [if_neg (fun h => (hclaimed key).1 h hc)]
        cases if policy.enforceEpoch then key.epochFault policy.currentEpoch else none with
        | some fault => simp
        | none => simpa using hc
      · rw [if_pos ((hclaimed key).2 hc)]
        exact ⟨nofun, fun h => absurd h.1 hc⟩

section Histories

variable {setId : String} {keyId : KeyId} {ops before after : List AuthorityOp}
  {policy policy' : TrustPolicy} {claimed : Option String}

theorem trustAfter_trusted_iff :
    (trustAfter setId ops keyId policy claimed).status = .trusted ↔
      TrustRule ops keyId.hex policy claimed := by
  simp only [trustAfter, evaluateTrust_trusted_iff, lookup_revocations_authorityAfter,
    lookup_keys_authorityAfter]
  exact ⟨fun h => ⟨h.1, h.2⟩, fun h => ⟨h.1, h.2⟩⟩

/-- An operation about another key id leaves the whole evaluation as it was. -/
theorem trustAfter_skip {op : AuthorityOp} (h : op.keyId ≠ keyId.hex) :
    trustAfter setId (before ++ op :: after) keyId policy claimed =
      trustAfter setId (before ++ after) keyId policy claimed := by
  obtain ⟨hadded, hrevoked⟩ := AuthorityOp.eq_none_of_keyId_ne h
  have hkeys : (authorityAfter setId (before ++ op :: after)).keys.lookup keyId.hex =
      (authorityAfter setId (before ++ after)).keys.lookup keyId.hex :=
    (keys_keeps keyId.hex).look_foldl_skip hadded
  have hrevocations : (authorityAfter setId (before ++ op :: after)).revocations.lookup keyId.hex =
      (authorityAfter setId (before ++ after)).revocations.lookup keyId.hex :=
    (revocations_keeps keyId.hex).look_foldl_skip hrevoked
  simp only [trustAfter, evaluateTrust, trustDecision, authorityAfter_setId, hkeys, hrevocations]

theorem TrustRule.of_tightens {kid : String} (h : policy'.Tightens policy)
    (ht : TrustRule ops kid policy' claimed) : TrustRule ops kid policy claimed := by
  have hoff : ∀ {flag flag' : Bool}, (flag → flag') → flag' = false → flag = false := by
    intro flag flag' himp
    cases flag
    · simp
    · simp [himp rfl]
  obtain ⟨key, hlast, hclaimed, hepoch⟩ := ht.key
  refine ⟨ht.notRevoked.imp_left (hoff h.enforceRevocation), key, hlast, hclaimed, ?_⟩
  exact hepoch.imp (hoff h.enforceEpoch) fun hvalid => h.epoch ▸ hvalid

theorem LastAdded.unique {kid : String} {key key' : AuthorityKey} (h : LastAdded ops kid key)
    (h' : LastAdded ops kid key') : key = key' := by
  have hkey : (authorityAfter "" ops).keys.lookup kid = some key := lookup_keys_authorityAfter.2 h
  exact Option.some.inj (hkey.symm.trans (lookup_keys_authorityAfter.2 h'))

/-- A key trusted in two epochs is trusted in those between: the entry is the same, and the epochs
it is valid in have no gaps. -/
theorem TrustRule.between {kid : String} {first epoch last : UInt64} (hfirst : first ≤ epoch)
    (hlast : epoch ≤ last) (ht : TrustRule ops kid { policy with currentEpoch := first } claimed)
    (ht' : TrustRule ops kid { policy with currentEpoch := last } claimed) :
    TrustRule ops kid { policy with currentEpoch := epoch } claimed := by
  obtain ⟨key, hadded, hclaimed, hvalid⟩ := ht.key
  obtain ⟨key', hadded', -, hvalid'⟩ := ht'.key
  obtain rfl := hadded.unique hadded'
  refine ⟨ht.notRevoked, key, hadded, hclaimed, ?_⟩
  rcases hvalid with hoff | hvalid
  · exact .inl hoff
  · rcases hvalid' with hoff | hvalid'
    · exact .inl hoff
    · exact .inr ⟨UInt64.le_trans hvalid.1 hfirst,
        fun u hu => UInt64.lt_of_le_of_lt hlast (hvalid'.2 u hu)⟩

end Histories

/-- **Trust over the histories of an authority set.** -/
theorem evaluateTrust_histories (setId : String) (keyId : KeyId) : TrustLaw setId keyId where
  trusted_iff _ _ _ := trustAfter_trusted_iff
  revocation_final before revocation after policy claimed henforced htrusted := by
    rcases (trustAfter_trusted_iff.1 htrusted).notRevoked with hoff | hnever
    · exact absurd (henforced.symm.trans hoff) (by decide)
    · exact hnever revocation (by simp)
  others_irrelevant _ _ _ _ _ := trustAfter_skip
  antitone _ _ _ _ htight htrusted :=
    trustAfter_trusted_iff.2 ((trustAfter_trusted_iff.1 htrusted).of_tightens htight)
  interval _ _ _ _ _ _ hfirst hlast ht ht' :=
    trustAfter_trusted_iff.2
      ((trustAfter_trusted_iff.1 ht).between hfirst hlast (trustAfter_trusted_iff.1 ht'))

end VertRule
