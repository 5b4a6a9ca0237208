import VertRule.DecisionPack
import VertRule.Identity

/-!
# The support-set law

What a decision pack has to satisfy to be valid, stated on the support set its decision commits to
and on the strings the pack supplies.  The report has one entry for each committed member, in the
committed order (`verifyDecisionPack_supportSetLaw`).
-/

namespace VertRule

/-! ### Committed values -/

/-- 64 lowercase hex characters. -/
def LowerHexDigest (digest : String) : Prop :=
  digest.toList.length = 64 ∧ ∀ c ∈ digest.toList, ('0' ≤ c ∧ c ≤ '9') ∨ ('a' ≤ c ∧ c ≤ 'f')

/-- Nothing but white space. -/
def Blank (url : String) : Prop := ∀ c ∈ url.toList, isWhiteSpace c = true

theorem isLowerHex64_iff {digest : String} :
    isLowerHex64 digest = true ↔ LowerHexDigest digest := by
  -- the source compares the length in bytes, and a hex digit is one byte
  have hsize : ∀ cs : List Char, (∀ c ∈ cs, ('0' ≤ c ∧ c ≤ '9') ∨ ('a' ≤ c ∧ c ≤ 'f')) →
      String.utf8Len cs = cs.length := by
    intro cs hcs
    induction cs with
    | nil => rfl
    | cons c cs ih =>
      have hc : c.utf8Size = 1 := by
        have hle : c ≤ 'f' := by
          rcases hcs c List.mem_cons_self with h | h
          · exact h.2.trans (by decide)
          · exact h.2
        have hval : c.val.toNat ≤ 102 := hle
        rw [Char.utf8Size, if_pos]
        exact UInt32.le_iff_toNat_le.2 (hval.trans (by decide))
      rw [String.utf8Len_cons, ih fun d hd => hcs d (List.mem_cons_of_mem _ hd), hc,
        List.length_cons]
  have hbytes : digest.utf8ByteSize = String.utf8Len digest.toList := by
    rw [← String.utf8ByteSize_ofList, String.ofList_toList]
  simp only [isLowerHex64, Bool.and_eq_true, beq_iff_eq, List.all_eq_true, isLowerHexDigit,
    decide_eq_true_eq, LowerHexDigest]
  constructor
  · rintro ⟨hlen, hall⟩
    exact ⟨by rw [← hsize _ hall, ← hbytes, hlen], hall⟩
  · rintro ⟨hlen, hall⟩
    exact ⟨by rw [hbytes, hsize _ hall, hlen], hall⟩

theorem trimIsEmpty_iff {url : String} : trimIsEmpty url = true ↔ Blank url := by
  simp [trimIsEmpty, Blank]

instance (digest : String) : Decidable (LowerHexDigest digest) :=
  decidable_of_iff _ isLowerHex64_iff

instance (url : String) : Decidable (Blank url) := decidable_of_iff _ trimIsEmpty_iff

/-! ### What a support set asks -/

variable (E : Externals)

/-- A supplied string declares `eventHash`, and `verify_receipt` reports `status` of it. -/
def DecisionPack.Supplies (pack : DecisionPack) (status : VerificationStatus)
    (eventHash : String) : Prop :=
  ∃ supplied ∈ pack.dependedOn, extractEventHash E supplied = some eventHash ∧
    (verifyReceipt E (asBytes supplied)).status = status

instance (pack : DecisionPack) (status : VerificationStatus) (eventHash : String) :
    Decidable (pack.Supplies E status eventHash) :=
  inferInstanceAs (Decidable (∃ supplied ∈ pack.dependedOn, _ ∧ _))

namespace SupportMember

/-- The serialized `member_kind`. -/
def kind : SupportMember → String
  | typedReceiptDependency .. => "typed_receipt_dependency"
  | dependedOnReceipt _ => "depended_on_receipt"
  | citedLink .. => "cited_link"
  | evidenceDigest .. => "evidence_digest"
  | selectorValue _ => "selector_value"

/-- What a member refers to. -/
def reference : SupportMember → String
  | typedReceiptDependency eventHash _ _ => eventHash
  | dependedOnReceipt eventHash => eventHash
  | citedLink id _ => id
  | evidenceDigest id _ => id
  | selectorValue key => key

/-- What the support set asks of the pack for a member. -/
def Holds (pack : DecisionPack) : SupportMember → Prop
  | typedReceiptDependency eventHash _ _ => pack.Supplies E .valid eventHash
  | dependedOnReceipt eventHash => pack.Supplies E .valid eventHash
  | citedLink _ url => ¬ Blank url
  | evidenceDigest _ digest => LowerHexDigest digest
  | selectorValue _ => True

end SupportMember

/-- The status of a committed hash: verified if a supplied string that verifies declares it, else
failed if one that does not verify does, else missing. -/
def DecisionPack.dependencyStatus (pack : DecisionPack) (eventHash : String) : MemberStatus :=
  if pack.Supplies E .valid eventHash then .verified
  else if pack.Supplies E .invalid eventHash then .failed
  else .missing

/-- The status of a member. -/
def DecisionPack.memberStatus (pack : DecisionPack) : SupportMember → MemberStatus
  | .typedReceiptDependency eventHash _ _ => pack.dependencyStatus E eventHash
  | .dependedOnReceipt eventHash => pack.dependencyStatus E eventHash
  | .citedLink _ url => if Blank url then .failed else .committed
  | .evidenceDigest _ digest => if LowerHexDigest digest then .committed else .failed
  | .selectorValue _ => .committed

/-- What a report says of a member, apart from texts. -/
abbrev MemberEntry := String × String × MemberStatus

/-- What a report says of the member it checked. -/
def SupportMemberCheck.entry (check : SupportMemberCheck) : MemberEntry :=
  (check.memberKind, check.reference, check.status)

/-- What the law says of a member. -/
def DecisionPack.entry (pack : DecisionPack) (member : SupportMember) : MemberEntry :=
  (member.kind, member.reference, pack.memberStatus E member)

/-- An envelope with a payload of kind `decision.v0` that deserializes to `payload`. -/
def AdmitsDecision (envelopeJson : String) (payload : DecisionReceiptPayload) : Prop :=
  ∃ value payloadValue, E.fromStr envelopeJson = .ok value ∧
    value.get "payload" = some payloadValue ∧
    (payloadValue.get "payload_kind").bind Json.asStr = some decisionPayloadKind ∧
    E.decisionPayloadFromValue payloadValue = .ok payload

/-- The bytes are a pack of the right format, and its decision payload is admitted. -/
structure OpensDecision (rawBytes : Bytes) (pack : DecisionPack)
    (payload : DecisionReceiptPayload) : Prop where
  parsed : E.decisionPackFromSlice rawBytes = .ok pack
  format : pack.format = decisionPackFormat
  admitted : AdmitsDecision E pack.decisionCanonical payload

/-- The support-set law. -/
structure DecisionLaw (pack : DecisionPack) (payload : DecisionReceiptPayload) : Prop where
  decision : (verifyReceipt E (asBytes pack.decisionCanonical)).status = .valid
  readable : ∀ supplied ∈ pack.dependedOn, (extractEventHash E supplied).isSome = true
  members : ∀ m ∈ payload.supportSet, m.Holds E pack

/-- The report on some bytes is what the support-set law says. -/
structure ReportsLaw (rawBytes : Bytes) : Prop where
  /-- One entry for each committed member, in the committed order. -/
  members : ∀ pack payload, OpensDecision E rawBytes pack payload →
    (verifyDecisionPack E rawBytes).memberChecks.map SupportMemberCheck.entry =
      payload.supportSet.map (pack.entry E)
  valid_iff : (verifyDecisionPack E rawBytes).status = .valid ↔
    ∃ pack payload, OpensDecision E rawBytes pack payload ∧ DecisionLaw E pack payload

variable {E}

/-! ### The loop over the supplied receipts -/

namespace SuppliedHashes

variable {st : SuppliedHashes} {s eventHash : String} {supplied : List String}

theorem mem_verifiedHashes_add : eventHash ∈ (st.add E s).verifiedHashes ↔
    eventHash ∈ st.verifiedHashes ∨ extractEventHash E s = some eventHash ∧
      (verifyReceipt E (asBytes s)).status = .valid := by
  cases hs : (verifyReceipt E (asBytes s)).status <;> cases hh : extractEventHash E s <;>
    simp [add, hs, hh, eq_comm]

theorem mem_failedHashes_add : eventHash ∈ (st.add E s).failedHashes.map Prod.fst ↔
    eventHash ∈ st.failedHashes.map Prod.fst ∨ extractEventHash E s = some eventHash ∧
      (verifyReceipt E (asBytes s)).status = .invalid := by
  cases hs : (verifyReceipt E (asBytes s)).status <;> cases hh : extractEventHash E s <;>
    simp [add, hs, hh, eq_comm]

theorem mem_verifiedHashes_foldl : eventHash ∈ (supplied.foldl (add E) st).verifiedHashes ↔
    eventHash ∈ st.verifiedHashes ∨ ∃ s ∈ supplied, extractEventHash E s = some eventHash ∧
      (verifyReceipt E (asBytes s)).status = .valid := by
  induction supplied generalizing st with
  | nil => simp
  | cons s supplied ih =>
    rw [List.foldl_cons, ih, mem_verifiedHashes_add, or_assoc, List.exists_mem_cons_iff]

theorem mem_failedHashes_foldl :
    eventHash ∈ (supplied.foldl (add E) st).failedHashes.map Prod.fst ↔
      eventHash ∈ st.failedHashes.map Prod.fst ∨ ∃ s ∈ supplied,
        extractEventHash E s = some eventHash ∧
          (verifyReceipt E (asBytes s)).status = .invalid := by
  induction supplied generalizing st with
  | nil => simp
  | cons s supplied ih =>
    rw [List.foldl_cons, ih, mem_failedHashes_add, or_assoc, List.exists_mem_cons_iff]

end SuppliedHashes

/-! ### The walk -/

variable {pack : DecisionPack} {payload : DecisionReceiptPayload} {rawBytes : Bytes}

theorem replayCheck_entry {memberKind eventHash : String} {verifiedHashes : List String}
    {failedHashes : List (String × String)} :
    (replayCheck memberKind eventHash verifiedHashes failedHashes).entry =
      (memberKind, eventHash, if eventHash ∈ verifiedHashes then .verified
        else if eventHash ∈ failedHashes.map Prod.fst then .failed else .missing) := by
  unfold replayCheck
  by_cases hv : eventHash ∈ verifiedHashes
  · rw [if_pos hv, if_pos hv]
    rfl
  rw [if_neg hv, if_neg hv]
  cases hl : failedHashes.lookup eventHash with
  | none =>
    rw [if_neg]
    · rfl
    · rw [List.lookup_eq_none_iff] at hl
      rintro hf
      obtain ⟨p, hp, rfl⟩ := List.mem_map.1 hf
      simpa using hl p hp
  | some detail =>
    rw [if_pos]
    · rfl
    · obtain ⟨l₁, l₂, rfl, -⟩ := List.lookup_eq_some_iff.1 hl
      simp

/-- Against the hashes of the supplied receipts, the walk says what the law says. -/
theorem walkMember_entry {verifiedHashes : List String} {failedHashes : List (String × String)}
    (hv : ∀ h, h ∈ verifiedHashes ↔ pack.Supplies E .valid h)
    (hf : ∀ h, h ∈ failedHashes.map Prod.fst ↔ pack.Supplies E .invalid h) (m : SupportMember) :
    (walkMember verifiedHashes failedHashes m).entry = pack.entry E m := by
  cases m with
  | typedReceiptDependency eventHash role targetSchema =>
    simp only [walkMember, replayCheck_entry, hv, hf]
    rfl
  | dependedOnReceipt eventHash =>
    simp only [walkMember, replayCheck_entry, hv, hf]
    rfl
  | citedLink id url =>
    simp only [walkMember, DecisionPack.entry, DecisionPack.memberStatus]
    by_cases h : Blank url
    · rw [if_pos h, if_pos (trimIsEmpty_iff.2 h)]
      rfl
    · rw [if_neg h, if_neg (mt trimIsEmpty_iff.1 h)]
      rfl
  | evidenceDigest id digest =>
    simp only [walkMember, DecisionPack.entry, DecisionPack.memberStatus]
    by_cases h : LowerHexDigest digest
    · rw [if_pos h, if_pos (isLowerHex64_iff.2 h)]
      rfl
    · rw [if_neg h, if_neg (mt isLowerHex64_iff.1 h)]
      rfl
  | selectorValue key => rfl

theorem dependencyStatus_holds {eventHash : String} :
    (pack.dependencyStatus E eventHash).Holds ↔ pack.Supplies E .valid eventHash := by
  unfold DecisionPack.dependencyStatus
  by_cases hv : pack.Supplies E .valid eventHash
  · simp [hv, MemberStatus.Holds]
  · by_cases hf : pack.Supplies E .invalid eventHash <;> simp [hv, hf, MemberStatus.Holds]

theorem memberStatus_holds {m : SupportMember} :
    (pack.memberStatus E m).Holds ↔ m.Holds E pack := by
  cases m with
  | typedReceiptDependency eventHash role targetSchema => exact dependencyStatus_holds
  | dependedOnReceipt eventHash => exact dependencyStatus_holds
  | citedLink id url =>
    simp only [DecisionPack.memberStatus, SupportMember.Holds]
    by_cases h : Blank url <;> simp [h, MemberStatus.Holds]
  | evidenceDigest id digest =>
    simp only [DecisionPack.memberStatus, SupportMember.Holds]
    by_cases h : LowerHexDigest digest <;> simp [h, MemberStatus.Holds]
  | selectorValue key => simp [DecisionPack.memberStatus, SupportMember.Holds, MemberStatus.Holds]

/-! ### The report -/

theorem extractDecisionPayload_eq_ok {envelopeJson : String} :
    extractDecisionPayload E envelopeJson = .ok payload ↔
      AdmitsDecision E envelopeJson payload := by
  -- a missing kind reads as the empty string, which is not the expected one either
  have hkind : ∀ k : Option String, k.getD "" = decisionPayloadKind ↔
      k = some decisionPayloadKind := by
    intro k
    cases k with
    | none => simp [decisionPayloadKind]
    | some k => simp
  simp only [extractDecisionPayload, AdmitsDecision, Except.bind_eq_ok, Except.mapError_eq_ok]
  refine exists_congr fun value => ?_
  cases value.get "payload" with
  | none => simp
  | some payloadValue =>
    dsimp only
    by_cases hk : (payloadValue.get "payload_kind").bind Json.asStr = some decisionPayloadKind
    · simp [hk, Except.mapError_eq_ok]
    · have hd := mt (hkind _).1 hk
      simp [hd, hk]

/-- The walk goes over the committed support set, against the hashes of the supplied receipts. -/
theorem checkDecisionPack_memberChecks (ha : AdmitsDecision E pack.decisionCanonical payload) :
    ∃ verifiedHashes failedHashes, (∀ h, h ∈ verifiedHashes ↔ pack.Supplies E .valid h) ∧
      (∀ h, h ∈ failedHashes.map Prod.fst ↔ pack.Supplies E .invalid h) ∧
      (checkDecisionPack E pack).memberChecks =
        payload.supportSet.map (walkMember verifiedHashes failedHashes) := by
  unfold checkDecisionPack
  rw [extractDecisionPayload_eq_ok.2 ha]
  refine ⟨_, _, fun h => ?_, fun h => ?_, rfl⟩
  · rw [SuppliedHashes.mem_verifiedHashes_foldl]
    simp [DecisionPack.Supplies]
  · rw [SuppliedHashes.mem_failedHashes_foldl]
    simp [DecisionPack.Supplies]

/-- The members of a report, when the payload is admitted. -/
theorem checkDecisionPack_members (ha : AdmitsDecision E pack.decisionCanonical payload) :
    (checkDecisionPack E pack).memberChecks.map SupportMemberCheck.entry =
      payload.supportSet.map (pack.entry E) := by
  obtain ⟨verifiedHashes, failedHashes, hv, hf, hc⟩ := checkDecisionPack_memberChecks ha
  rw [hc, List.map_map]
  exact List.map_congr_left fun m _ => walkMember_entry hv hf m

/-- A pack whose payload is admitted is valid when the support-set law holds. -/
theorem checkDecisionPack_valid_iff (ha : AdmitsDecision E pack.decisionCanonical payload) :
    (checkDecisionPack E pack).status = .valid ↔ DecisionLaw E pack payload := by
  have hmembers : (∀ c ∈ (checkDecisionPack E pack).memberChecks, c.status.Holds) ↔
      ∀ m ∈ payload.supportSet, m.Holds E pack := by
    have h := congrArg (fun l : List MemberEntry => ∀ e ∈ l, e.2.2.Holds)
      (checkDecisionPack_members ha)
    simp only [List.forall_mem_map, DecisionPack.entry, memberStatus_holds] at h
    exact iff_of_eq h
  have herrors : (checkDecisionPack E pack).errors = [] ↔
      (verifyReceipt E (asBytes pack.decisionCanonical)).status = .valid ∧
      (∀ s ∈ pack.dependedOn, (extractEventHash E s).isSome = true) ∧
      ∀ c ∈ (checkDecisionPack E pack).memberChecks, c.status.Holds := by
    unfold checkDecisionPack
    rw [extractDecisionPayload_eq_ok.2 ha]
    simp only [List.append_eq_nil_iff, SuppliedHashes.errors_foldl_eq_nil,
      (verifyReceipt_consistent (E := E)).prefixedErrors_eq_nil, List.filterMap_eq_nil_iff,
      SupportMemberCheck.error_eq_none, and_assoc]
  -- a member that is OUT is reported, so the test on the errors covers the one on the members
  rw [checkDecisionPack_consistent.status_iff, herrors, hmembers]
  exact ⟨fun h => ⟨h.1, h.2.1, h.2.2⟩, fun h => ⟨h.decision, h.readable, h.members⟩⟩

/-- A pack whose payload is not admitted is not valid. -/
theorem checkDecisionPack_of_not_admitted
    (ha : ∀ payload, ¬ AdmitsDecision E pack.decisionCanonical payload) :
    (checkDecisionPack E pack).status ≠ .valid := by
  unfold checkDecisionPack
  cases hp : extractDecisionPayload E pack.decisionCanonical with
  | error e => simp
  | ok payload => exact absurd (extractDecisionPayload_eq_ok.1 hp) (ha payload)

theorem verifyDecisionPack_of_format (hp : E.decisionPackFromSlice rawBytes = .ok pack)
    (hf : pack.format = decisionPackFormat) :
    verifyDecisionPack E rawBytes = checkDecisionPack E pack := by
  simp [verifyDecisionPack, hp, hf]

/-- A decision pack is valid exactly when it opens and meets the support-set law. -/
theorem verifyDecisionPack_valid_iff_law :
    (verifyDecisionPack E rawBytes).status = .valid ↔
      ∃ pack payload, OpensDecision E rawBytes pack payload ∧ DecisionLaw E pack payload := by
  constructor
  · intro hvalid
    cases hp : E.decisionPackFromSlice rawBytes with
    | error e => simp [verifyDecisionPack, hp, DecisionPackVerificationResult.invalid] at hvalid
    | ok pack =>
      by_cases hf : pack.format = decisionPackFormat
      · rw [verifyDecisionPack_of_format hp hf] at hvalid
        by_cases ha : ∃ payload, AdmitsDecision E pack.decisionCanonical payload
        · obtain ⟨payload, ha⟩ := ha
          exact ⟨pack, payload, ⟨hp, hf, ha⟩, (checkDecisionPack_valid_iff ha).1 hvalid⟩
        · exact absurd hvalid (checkDecisionPack_of_not_admitted (not_exists.1 ha))
      · simp [verifyDecisionPack, hp, hf, DecisionPackVerificationResult.invalid] at hvalid
  · rintro ⟨pack, payload, ho, hlaw⟩
    rw [verifyDecisionPack_of_format ho.parsed ho.format]
    exact (checkDecisionPack_valid_iff ho.admitted).2 hlaw

/-- **The report on a decision pack is what the support-set law says.** -/
theorem verifyDecisionPack_supportSetLaw (rawBytes : Bytes) : ReportsLaw E rawBytes := by
  refine ⟨fun pack payload ho => ?_, verifyDecisionPack_valid_iff_law⟩
  rw [verifyDecisionPack_of_format ho.parsed ho.format]
  exact checkDecisionPack_members ho.admitted

/-- **What a valid pack depends on was verified by replay**: a supplied string that counts for a
committed hash carries an envelope whose recomputed event hash it is. -/
theorem DecisionPack.Supplies.recomputed {eventHash : String}
    (hread : ∀ v envelope, validateEnvelopeSchema v = .ok () →
      E.envelopeFromValue v = .ok envelope →
      v.get "event_hash" = some envelope.eventHash.toValue)
    (h : pack.Supplies E .valid eventHash) :
    ∃ supplied ∈ pack.dependedOn, ∃ envelope, ingestEnvelope E (asBytes supplied) = .ok envelope ∧
      E.computeEventHash envelope = .ok envelope.eventHash ∧
      envelope.eventHash.toHex = eventHash := by
  obtain ⟨supplied, hs, hdeclares, hvalid⟩ := h
  obtain ⟨envelope, hi, hver⟩ := verifyReceipt_valid_iff.1 hvalid
  obtain ⟨-, -, v, hv, -, hschema, -, he⟩ := ingestEnvelopeWithLimits_eq_ok.1 hi
  have hhash : readEventHash v = some eventHash := by
    rwa [extractEventHash, show E.fromStr supplied = .ok v from hv] at hdeclares
  rw [readEventHash, hread v envelope hschema he] at hhash
  exact ⟨supplied, hs, envelope, hi, verifyEventHash_eq_ok.1 hver.eventHash, Option.some.inj hhash⟩

end VertRule
