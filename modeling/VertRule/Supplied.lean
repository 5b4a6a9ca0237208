import VertRule.DecisionLaw
import VertRule.Packs

/-!
# What a decision pack supplies

The loop over the supplied receipts collects the hashes that some verifying string declares and
those that some failing one does.  The report therefore depends on the supplied strings as a set
only, and what holds in it still holds when more are supplied (`verifyDecisionPack_supplied`).
-/

namespace VertRule

/-! ### Other supplied strings -/

/-- Two reports agree on the status, the verdict and the members, apart from texts. -/
structure SameDecision (r r' : DecisionPackVerificationResult) : Prop where
  status : r.status = r'.status
  verdictKind : r.verdictKind = r'.verdictKind
  members : r.memberChecks.map SupportMemberCheck.entry =
    r'.memberChecks.map SupportMemberCheck.entry

/-- What holds in a report still holds in another: each member, and the pack. -/
structure KeptBy (r r' : DecisionPackVerificationResult) : Prop where
  valid : r.status = .valid → r'.status = .valid
  members : List.Forall₂ (fun c c' => c.status.Holds → c' = c) r.memberChecks r'.memberChecks

variable {E : Externals} {pack : DecisionPack} {payload : DecisionReceiptPayload}
  {dependedOn' : List String} {rawBytes rawBytes' : Bytes}

theorem DecisionPack.Supplies.mono {status : VerificationStatus} {eventHash : String}
    (hsub : ∀ s ∈ pack.dependedOn, s ∈ dependedOn') (h : pack.Supplies E status eventHash) :
    DecisionPack.Supplies E { pack with dependedOn := dependedOn' } status eventHash := by
  obtain ⟨s, hs, hdeclares⟩ := h
  exact ⟨s, hsub s hs, hdeclares⟩

theorem SupportMember.Holds.mono {m : SupportMember} (hsub : ∀ s ∈ pack.dependedOn, s ∈ dependedOn')
    (h : m.Holds E pack) : m.Holds E { pack with dependedOn := dependedOn' } := by
  cases m with
  | typedReceiptDependency eventHash role targetSchema => exact DecisionPack.Supplies.mono hsub h
  | dependedOnReceipt eventHash => exact DecisionPack.Supplies.mono hsub h
  | _ => exact h

/-- More supplied strings leave a member that holds as it was. -/
theorem memberStatus_of_holds {m : SupportMember} (hsub : ∀ s ∈ pack.dependedOn, s ∈ dependedOn')
    (h : m.Holds E pack) :
    DecisionPack.memberStatus E { pack with dependedOn := dependedOn' } m =
      pack.memberStatus E m := by
  -- a string that verifies takes precedence over any that fails
  have hverified : ∀ {pack : DecisionPack} {eventHash}, pack.Supplies E .valid eventHash →
      pack.dependencyStatus E eventHash = .verified := fun h => if_pos h
  cases m with
  | typedReceiptDependency eventHash role targetSchema =>
    exact (hverified (h.mono hsub)).trans (hverified h).symm
  | dependedOnReceipt eventHash => exact (hverified (h.mono hsub)).trans (hverified h).symm
  | _ => rfl

/-- The entry of a member depends on the supplied strings as a set. -/
theorem entry_congr (hmem : ∀ s, s ∈ dependedOn' ↔ s ∈ pack.dependedOn) (m : SupportMember) :
    DecisionPack.entry E { pack with dependedOn := dependedOn' } m = pack.entry E m := by
  have hsupplies : ∀ status eventHash,
      DecisionPack.Supplies E { pack with dependedOn := dependedOn' } status eventHash ↔
        pack.Supplies E status eventHash := by
    intro status eventHash
    simp only [DecisionPack.Supplies, hmem]
  have hdependency : ∀ eventHash,
      DecisionPack.dependencyStatus E { pack with dependedOn := dependedOn' } eventHash =
        pack.dependencyStatus E eventHash := by
    intro eventHash
    simp only [DecisionPack.dependencyStatus, hsupplies]
  cases m with
  | typedReceiptDependency eventHash role targetSchema =>
    simp only [DecisionPack.entry, DecisionPack.memberStatus, hdependency]
  | dependedOnReceipt eventHash =>
    simp only [DecisionPack.entry, DecisionPack.memberStatus, hdependency]
  | _ => rfl

/-- The law is kept when the new strings have a readable hash. -/
theorem DecisionLaw.mono (h : DecisionLaw E pack payload)
    (hsub : ∀ s ∈ pack.dependedOn, s ∈ dependedOn')
    (hnew : ∀ s ∈ dependedOn', s ∈ pack.dependedOn ∨ (extractEventHash E s).isSome = true) :
    DecisionLaw E { pack with dependedOn := dependedOn' } payload where
  decision := h.decision
  readable s hs := (hnew s hs).elim (h.readable s) id
  members m hm := (h.members m hm).mono hsub

/-- A member that holds has no detail. -/
theorem walkMember_detail {verifiedHashes : List String} {failedHashes : List (String × String)}
    {m : SupportMember} (h : (walkMember verifiedHashes failedHashes m).status.Holds) :
    (walkMember verifiedHashes failedHashes m).detail = none := by
  have hreplay : ∀ {memberKind eventHash},
      (replayCheck memberKind eventHash verifiedHashes failedHashes).status.Holds →
        (replayCheck memberKind eventHash verifiedHashes failedHashes).detail = none := by
    intro memberKind eventHash h
    unfold replayCheck at h ⊢
    split_ifs at h ⊢ with hv
    · rfl
    · split at h <;> simp [MemberStatus.Holds] at h
  cases m with
  | typedReceiptDependency eventHash role targetSchema => exact hreplay h
  | dependedOnReceipt eventHash => exact hreplay h
  | citedLink id url =>
    simp only [walkMember] at h ⊢
    split_ifs at h ⊢
    · simp [MemberStatus.Holds] at h
    · rfl
  | evidenceDigest id digest =>
    simp only [walkMember] at h ⊢
    split_ifs at h ⊢
    · rfl
    · simp [MemberStatus.Holds] at h
  | selectorValue key => rfl

theorem eq_of_entry {c c' : SupportMemberCheck} (h : c.entry = c'.entry)
    (hd : c.detail = c'.detail) : c = c' := by
  simp only [SupportMemberCheck.entry, Prod.mk.injEq] at h
  cases c
  cases c'
  simp_all

/-- Strings that are the same as a set give the same report. -/
theorem checkDecisionPack_congr (hmem : ∀ s, s ∈ dependedOn' ↔ s ∈ pack.dependedOn) :
    SameDecision (checkDecisionPack E pack)
      (checkDecisionPack E { pack with dependedOn := dependedOn' }) := by
  by_cases ha : ∃ payload, AdmitsDecision E pack.decisionCanonical payload
  · obtain ⟨payload, ha⟩ := ha
    have ha' : AdmitsDecision E
        ({ pack with dependedOn := dependedOn' } : DecisionPack).decisionCanonical payload := ha
    refine ⟨VerificationStatus.eq_of_valid_iff ?_, ?_, ?_⟩
    · rw [checkDecisionPack_valid_iff ha, checkDecisionPack_valid_iff ha']
      refine ⟨fun h => h.mono (fun s hs => (hmem s).2 hs) fun s hs => .inl ((hmem s).1 hs), ?_⟩
      exact fun h => h.mono (fun s hs => (hmem s).1 hs) fun s hs => .inl ((hmem s).2 hs)
    · simp only [checkDecisionPack, extractDecisionPayload_eq_ok.2 ha]
    · rw [checkDecisionPack_members ha, checkDecisionPack_members ha']
      exact List.map_congr_left fun m _ => (entry_congr hmem m).symm
  · -- nothing is read of the supplied strings
    cases hp : extractDecisionPayload E pack.decisionCanonical with
    | error e => exact ⟨by simp only [checkDecisionPack, hp], by simp only [checkDecisionPack, hp],
        by simp only [checkDecisionPack, hp]⟩
    | ok payload => exact absurd ⟨payload, extractDecisionPayload_eq_ok.1 hp⟩ ha

/-- What holds in a report still holds when more strings with a readable hash are supplied. -/
theorem checkDecisionPack_mono (hsub : ∀ s ∈ pack.dependedOn, s ∈ dependedOn')
    (hnew : ∀ s ∈ dependedOn', s ∈ pack.dependedOn ∨ (extractEventHash E s).isSome = true) :
    KeptBy (checkDecisionPack E pack)
      (checkDecisionPack E { pack with dependedOn := dependedOn' }) := by
  by_cases ha : ∃ payload, AdmitsDecision E pack.decisionCanonical payload
  · obtain ⟨payload, ha⟩ := ha
    have ha' : AdmitsDecision E
        ({ pack with dependedOn := dependedOn' } : DecisionPack).decisionCanonical payload := ha
    constructor
    · rw [checkDecisionPack_valid_iff ha, checkDecisionPack_valid_iff ha']
      exact fun h => h.mono hsub hnew
    obtain ⟨verifiedHashes, failedHashes, hv, hf, hc⟩ := checkDecisionPack_memberChecks ha
    obtain ⟨verifiedHashes', failedHashes', hv', hf', hc'⟩ := checkDecisionPack_memberChecks ha'
    rw [hc, hc', List.forall₂_map_left_iff, List.forall₂_map_right_iff, List.forall₂_same]
    intro m _ hholds
    have hentry := walkMember_entry hv hf m
    have hentry' := walkMember_entry hv' hf' m
    have hstatus : (walkMember verifiedHashes failedHashes m).status = pack.memberStatus E m :=
      congrArg (fun e => e.2.2) hentry
    have hm : m.Holds E pack := memberStatus_holds.1 (hstatus ▸ hholds)
    have hsame : (walkMember verifiedHashes' failedHashes' m).entry =
        (walkMember verifiedHashes failedHashes m).entry := by
      rw [hentry, hentry', DecisionPack.entry, memberStatus_of_holds hsub hm]
      rfl
    have hholds' : (walkMember verifiedHashes' failedHashes' m).status.Holds := by
      rw [show (walkMember verifiedHashes' failedHashes' m).status =
        (walkMember verifiedHashes failedHashes m).status from congrArg (fun e => e.2.2) hsame]
      exact hholds
    -- a check that holds is no more than its entry
    exact eq_of_entry hsame ((walkMember_detail hholds').trans (walkMember_detail hholds).symm)
  · constructor
    · intro hvalid
      exact absurd hvalid (checkDecisionPack_of_not_admitted (not_exists.1 ha))
    · cases hp : extractDecisionPayload E pack.decisionCanonical with
      | error e => simp only [checkDecisionPack, hp, List.Forall₂.nil]
      | ok payload => exact absurd ⟨payload, extractDecisionPayload_eq_ok.1 hp⟩ ha

/-- **The report on a decision pack depends on the supplied strings only as a set, and only grows
with them**: they may be reordered and repeated, and one more string with a readable hash, wherever
it stands and whatever it claims, takes away no member and no validity. -/
theorem verifyDecisionPack_supplied (hp : E.decisionPackFromSlice rawBytes = .ok pack)
    (hp' : E.decisionPackFromSlice rawBytes' = .ok { pack with dependedOn := dependedOn' }) :
    ((∀ s, s ∈ dependedOn' ↔ s ∈ pack.dependedOn) →
      SameDecision (verifyDecisionPack E rawBytes) (verifyDecisionPack E rawBytes')) ∧
    ∀ before after s, pack.dependedOn = before ++ after → dependedOn' = before ++ s :: after →
      (extractEventHash E s).isSome = true →
      KeptBy (verifyDecisionPack E rawBytes) (verifyDecisionPack E rawBytes') := by
  by_cases hf : pack.format = decisionPackFormat
  · rw [verifyDecisionPack_of_format hp hf, verifyDecisionPack_of_format hp' hf]
    refine ⟨checkDecisionPack_congr, fun before after s hb ha hs => ?_⟩
    refine checkDecisionPack_mono (fun t ht => ?_) fun t ht => ?_
    · rw [hb, List.mem_append] at ht
      rw [ha, List.mem_append, List.mem_cons]
      exact ht.imp id .inr
    · rw [ha, List.mem_append, List.mem_cons] at ht
      rw [hb, List.mem_append]
      rcases ht with ht | rfl | ht
      · exact .inl (.inl ht)
      · exact .inr hs
      · exact .inl (.inr ht)
  · have hinvalid : verifyDecisionPack E rawBytes = verifyDecisionPack E rawBytes' := by
      simp only [verifyDecisionPack, hp, hp', ne_eq, hf, not_false_eq_true, if_true]
    have hnone : (verifyDecisionPack E rawBytes').memberChecks = [] := by
      simp [verifyDecisionPack, hp', hf, DecisionPackVerificationResult.invalid]
    rw [hinvalid]
    exact ⟨fun _ => ⟨rfl, rfl, rfl⟩, fun _ _ _ _ _ _ => ⟨id, by rw [hnone]; exact .nil⟩⟩

/-! ### The decision pack of the test vectors

A decision that depends on a prior receipt, in packs that also supply a string that merely claims
the hash of that receipt. -/

/-- The `event_hash` of the prior receipt. -/
def priorHash : DigestBytes :=
  .ofNat 0x1995c87bccd5cc24d2223bb425d3fc554d767ca4d29293f1a6b970149012de4c

/-- The `event_hash` of the decision. -/
def decisionHash : DigestBytes :=
  .ofNat 0xa02d5e7d0d9704cc49e8201afc2bef3adea25647ebd236ed8f60063576516f16

/-- The prior receipt. -/
def priorReceipt : ReceiptEnvelope :=
  vectorEnvelope .event 1000 (.object [("step", .string "prior")]) priorHash

/-- A decision to allow, with a support set of four members. -/
def decisionPayload : DecisionReceiptPayload where
  verdict := .allow
  supportSet := [.citedLink "site" "https://example.org/x", .dependedOnReceipt priorHash.toHex,
    .evidenceDigest "dpa" (DigestBytes.ofNat (2 ^ 256 - 1)).toHex, .selectorValue "content_length"]

/-- The payload, serialized. -/
def decisionPayloadValue : Json :=
  .object [("payload_kind", .string decisionPayloadKind),
    ("support_set", .array [
      .object [("id", .string "site"), ("member_kind", .string "cited_link"),
        ("url", .string "https://example.org/x")],
      .object [("event_hash", priorHash.toValue), ("member_kind", .string "depended_on_receipt")],
      .object [("digest", (DigestBytes.ofNat (2 ^ 256 - 1)).toValue), ("id", .string "dpa"),
        ("member_kind", .string "evidence_digest")],
      .object [("key", .string "content_length"), ("member_kind", .string "selector_value"),
        ("value", .string "10")]]),
    ("verdict", .object [("kind", .string "allow")])]

/-- The receipt of the decision. -/
def decisionReceipt : ReceiptEnvelope :=
  vectorEnvelope .event 1001 decisionPayloadValue decisionHash

/-- Nothing but the `event_hash` of the prior receipt. -/
def priorClaim : Json := .object [("event_hash", priorHash.toValue)]

/-- The third-party code on the receipts of the packs. -/
def decisionTables : Tables where
  envelopes := [(decisionReceipt.toValue, decisionReceipt), (priorReceipt.toValue, priorReceipt)]
  others := [priorClaim]
  digests := [(decisionReceipt.body, decisionHash), (priorReceipt.body, priorHash)]
  texts_nodup := by decide +kernel

/-- The decision, with some supplied strings. -/
def decisionPack (dependedOn : List String) : DecisionPack where
  format := decisionPackFormat
  decisionCanonical := decisionReceipt.toValue.text
  dependedOn := dependedOn

theorem decisionPack_decisionCanonical (dependedOn : List String) :
    (decisionPack dependedOn).decisionCanonical = decisionReceipt.toValue.text := rfl

/-- The prior receipt, and the claim after it. -/
def contestedPack : DecisionPack := decisionPack [priorReceipt.toValue.text, priorClaim.text]

/-- The prior receipt, between two claims. -/
def repeatedClaimPack : DecisionPack :=
  decisionPack [priorClaim.text, priorReceipt.toValue.text, priorClaim.text]

/-- The third-party code on the two packs. -/
def decisionExternals : Externals :=
  decisionTables.externals.withPacks [(decisionPayloadValue, decisionPayload)]
    [contestedPack, repeatedClaimPack] []

theorem decisionPacks_nodup :
    ([contestedPack, repeatedClaimPack].map fun p => p.toValue.chars).Nodup := by
  -- the common start cancels before anything is evaluated
  simp only [List.map_cons, List.map_nil, contestedPack, repeatedClaimPack, decisionPack,
    DecisionPack.toValue, Json.chars, Json.fieldChars, Json.ofStrings, Json.elemChars,
    Json.stringText_text, List.nodup_cons, List.nodup_nil, List.mem_singleton, List.not_mem_nil,
    not_false_eq_true, and_true, List.isEmpty_cons, List.isEmpty_nil, if_true, if_false,
    Bool.false_eq_true, List.append_assoc, List.cons_append, List.nil_append, List.cons.injEq,
    List.append_cancel_left_eq, true_and]
  decide +kernel

theorem parsed_contestedPack :
    decisionExternals.decisionPackFromSlice (asBytes contestedPack.toValue.text) =
      .ok contestedPack :=
  decisionPackFromSlice_withPacks decisionPacks_nodup List.mem_cons_self

theorem parsed_repeatedClaimPack :
    decisionExternals.decisionPackFromSlice (asBytes repeatedClaimPack.toValue.text) =
      .ok repeatedClaimPack :=
  decisionPackFromSlice_withPacks decisionPacks_nodup
    (List.mem_cons_of_mem _ (List.mem_singleton_self _))

theorem fromStr_decisionExternals {v : Json} (h : v ∈ decisionTables.values) :
    decisionExternals.fromStr v.text = .ok v := by
  rw [decisionExternals, fromStr_withPacks]
  exact Tables.fromStr_text h

theorem extractEventHash_decisionExternals {v : Json} (h : v ∈ decisionTables.values) :
    extractEventHash decisionExternals v.text = readEventHash v := by
  rw [extractEventHash, fromStr_decisionExternals h]
  rfl

theorem admissible_decisionReceipt : Tables.Admissible decisionReceipt.toValue :=
  Tables.admissible_of_checks (by decide +kernel)

theorem valid_decisionReceipt :
    (verifyReceipt decisionExternals (asBytes decisionReceipt.toValue.text)).status = .valid := by
  rw [decisionExternals, verifyReceipt_withPacks]
  exact Tables.verifyReceipt_valid decisionReceipt List.mem_cons_self admissible_decisionReceipt
    (Tables.verifies rfl rfl rfl List.mem_cons_self)

theorem valid_priorReceipt :
    (verifyReceipt decisionExternals (asBytes priorReceipt.toValue.text)).status = .valid := by
  rw [decisionExternals, verifyReceipt_withPacks]
  exact Tables.verifyReceipt_valid priorReceipt (List.mem_cons_of_mem _ (List.mem_singleton_self _))
    (Tables.admissible_of_checks (by decide +kernel))
    (Tables.verifies rfl rfl rfl (List.mem_cons_of_mem _ (List.mem_singleton_self _)))

theorem admits_decisionReceipt :
    AdmitsDecision decisionExternals decisionReceipt.toValue.text decisionPayload :=
  ⟨decisionReceipt.toValue, decisionPayloadValue,
    fromStr_decisionExternals (Tables.mem_values List.mem_cons_self), rfl, rfl,
    decisionPayloadFromValue_withPacks (by simp) (List.mem_singleton_self _)⟩

theorem extractEventHash_priorReceipt :
    extractEventHash decisionExternals priorReceipt.toValue.text = some priorHash.toHex :=
  extractEventHash_decisionExternals
    (Tables.mem_values (List.mem_cons_of_mem _ (List.mem_singleton_self _)))

theorem extractEventHash_priorClaim :
    extractEventHash decisionExternals priorClaim.text = some priorHash.toHex :=
  extractEventHash_decisionExternals (List.mem_append_right _ (List.mem_singleton_self _))

/-- The decision is valid although its pack supplies the claim. -/
theorem checkDecisionPack_contestedPack :
    (checkDecisionPack decisionExternals contestedPack).status = .valid := by
  have hlaw : DecisionLaw decisionExternals contestedPack decisionPayload := by
    refine ⟨valid_decisionReceipt, fun s hs => ?_, fun m hm => ?_⟩
    · simp only [contestedPack, decisionPack, List.mem_cons, List.not_mem_nil, or_false] at hs
      rcases hs with rfl | rfl
      · rw [extractEventHash_priorReceipt]
        rfl
      · rw [extractEventHash_priorClaim]
        rfl
    · simp only [decisionPayload, List.mem_cons, List.not_mem_nil, or_false] at hm
      rcases hm with rfl | rfl | rfl | rfl
      · exact (by decide : ¬ Blank "https://example.org/x")
      · exact ⟨_, List.mem_cons_self, extractEventHash_priorReceipt, valid_priorReceipt⟩
      · exact (by decide : LowerHexDigest (DigestBytes.ofNat (2 ^ 256 - 1)).toHex)
      · trivial
  refine (checkDecisionPack_valid_iff ?_).2 hlaw
  rw [contestedPack, decisionPack_decisionCanonical]
  exact admits_decisionReceipt

/-- Against a claim to the hash it depends on, the decision of the vector stays valid wherever and
however often the claim is supplied. -/
theorem supplied_contestedPack :
    SameDecision (verifyDecisionPack decisionExternals (asBytes contestedPack.toValue.text))
        (verifyDecisionPack decisionExternals (asBytes repeatedClaimPack.toValue.text)) ∧
      (verifyDecisionPack decisionExternals
        (asBytes repeatedClaimPack.toValue.text)).status = .valid := by
  have hrepeated : decisionExternals.decisionPackFromSlice
      (asBytes repeatedClaimPack.toValue.text) = .ok { contestedPack with
        dependedOn := [priorClaim.text, priorReceipt.toValue.text, priorClaim.text] } :=
    parsed_repeatedClaimPack
  obtain ⟨hsame, hkept⟩ := verifyDecisionPack_supplied parsed_contestedPack hrepeated
  have hclaim : (extractEventHash decisionExternals priorClaim.text).isSome = true := by
    rw [extractEventHash_priorClaim]
    rfl
  refine ⟨hsame fun s => ?_, (hkept [] [priorReceipt.toValue.text, priorClaim.text]
    priorClaim.text rfl rfl hclaim).valid ?_⟩
  · simp only [contestedPack, decisionPack, List.mem_cons, List.not_mem_nil, or_false]
    rw [or_left_comm, or_self]
  · rw [verifyDecisionPack_of_format parsed_contestedPack rfl]
    exact checkDecisionPack_contestedPack

end VertRule
