import VertRule.PackReports
import VertRule.Sidecar
import VertRule.LayeredLaw
import VertRule.Layers

/-!
# What the reports on valid documents repeat

A valid report on a signed receipt or on a pack repeats text of receipts that were admitted, and
nothing else, so that it is admitted itself.
-/

namespace VertRule

variable {E : Externals} {admits : Char → Prop}

/-- The text of a support member that a report may repeat, apart from the label of its role. -/
def SupportMember.texts : SupportMember → List String
  | typedReceiptDependency eventHash _ targetSchema => [eventHash, targetSchema]
  | dependedOnReceipt eventHash => [eventHash]
  | citedLink id url => [id, url]
  | evidenceDigest id digest => [id, digest]
  | selectorValue key => [key]

/-- The text of a support member is admitted. -/
def SupportMember.Admitted (admits : Char → Prop) (m : SupportMember) : Prop :=
  ∀ s ∈ m.texts, Text admits s

/-- What is deserialized of an admitted value repeats its text, and the names of roles are ASCII. -/
structure PackEchoLaws (E : Externals) (admits : Char → Prop) : Prop extends
    EchoLaws E admits where
  supportSetFromValue : ∀ v members, v.Admitted admits → E.supportSetFromValue v = .ok members →
    ∀ m ∈ members, m.Admitted admits
  decisionPayloadFromValue : ∀ v payload, v.Admitted admits →
    E.decisionPayloadFromValue v = .ok payload → ∀ m ∈ payload.supportSet, m.Admitted admits
  roleLabel : ∀ v members eventHash role targetSchema, E.supportSetFromValue v = .ok members →
    SupportMember.typedReceiptDependency eventHash role targetSchema ∈ members →
    ∀ s ∈ role.label, IsAscii s

/-! ### Values -/

theorem Json.Admitted.get {v w : Json} {key : String} (h : v.Admitted admits)
    (hw : v.get key = some w) : w.Admitted admits := by
  cases v with
  | object fields => exact (admitted_object.1 h _ (mem_of_lookup_eq_some hw)).2
  | _ => cases hw

theorem Json.Admitted.index {v : Json} {key : String} (h : v.Admitted admits) :
    (v.index key).Admitted admits := by
  unfold Json.index
  cases hw : v.get key with
  | none => exact ⟨rfl, by simp [Json.texts]⟩
  | some w => exact h.get hw

theorem Json.Admitted.asStr {v : Json} {s : String} (h : v.Admitted admits)
    (hs : v.asStr = some s) : Text admits s := by
  rw [asStr_eq_some] at hs
  subst hs
  exact admitted_string.1 h

/-! ### Receipts -/

section Receipt

variable {rawBytes : Bytes} {raw : String} {v : Json}

/-- A valid receipt holds an admitted value. -/
theorem admitted_of_verifyReceipt (laws : EchoLaws E admits)
    (h : (verifyReceipt E (asBytes raw)).status = .valid) (hv : E.fromStr raw = .ok v) :
    v.Admitted admits := by
  obtain ⟨envelope, hi, -⟩ := verifyReceipt_valid_iff.1 h
  obtain ⟨-, hcanon, -⟩ := ingestEnvelopeWithLimits_eq_ok.1 hi
  exact laws.fromSlice _ _ hcanon hv

theorem verifyReceipt_eq_validSingle (h : (verifyReceipt E rawBytes).status = .valid) :
    verifyReceipt E rawBytes = .validSingle := by
  obtain ⟨envelope, hi, hv⟩ := verifyReceipt_valid_iff.1 h
  simp only [verifyReceipt, hi, verifySingleEnvelope_of_verifies hv]

theorem admitted_validSingle (laws : EchoLaws E admits) (signature : Option SignatureValidation) :
    ({ VerificationResult.validSingle with signatureValidation := signature } :
      VerificationResult).toValue.Admitted admits := by
  have hplain := VerificationResult.plain_validSingle laws
  rw [VerificationResult.admitted_iff laws]
  exact ⟨by simp [hplain.chain], hplain.schemaVersion, hplain.errors, by simp [hplain.trust]⟩

theorem verifyReceipt_admitted (laws : EchoLaws E admits)
    (h : (verifyReceipt E rawBytes).status = .valid) :
    (verifyReceipt E rawBytes).toValue.Admitted admits := by
  rw [verifyReceipt_eq_validSingle h]
  exact admitted_validSingle laws none

theorem verifySignedReceipt_admitted {sigBytes : Bytes} (laws : EchoLaws E admits)
    (h : (verifySignedReceipt E rawBytes sigBytes).status = .valid) :
    (verifySignedReceipt E rawBytes sigBytes).toValue.Admitted admits := by
  obtain ⟨hreceipt, envelope, bundle, hp⟩ := verifySignedReceipt_valid_iff.1 h
  rw [hp.verifySignedReceipt_eq, verifyReceipt_eq_validSingle hreceipt]
  exact admitted_validSingle laws _

end Receipt

/-! ### Packs -/

section Packs

theorem text_profileVersion (laws : EchoLaws E admits) : Text admits profileVersion :=
  (laws.literal (by decide)).2 trivial

/-- A sidecar check that matches repeats a digest that the payload declares. -/
theorem sidecarChecks_admitted {bundle : ExecutionBundle} {c : SidecarDigestCheck}
    (laws : EchoLaws E admits)
    (h : (verifyReceipt E (asBytes bundle.envelopeCanonical)).status = .valid)
    (hc : c ∈ sidecarChecks E bundle) (hm : c.isMatch = true) : c.toValue.Admitted admits := by
  have hvalue : ((E.fromStr bundle.envelopeCanonical).toOption.getD .null).Admitted admits := by
    cases hv : E.fromStr bundle.envelopeCanonical with
    | error e => exact ⟨rfl, by simp [Except.toOption, Json.texts]⟩
    | ok v => exact admitted_of_verifyReceipt laws h hv
  have hcheck : ∀ name sidecar (declared : Option String), IsAscii name →
      (∀ s ∈ declared, Text admits s) → c ∈ (sidecarCheck E name sidecar declared).toList →
      c.toValue.Admitted admits := by
    intro name sidecar declared hname hdeclared hmem
    unfold sidecarCheck at hmem
    split at hmem
    next value expected =>
      obtain rfl : c = checkSidecar E name expected value := by simpa using hmem
      have htext := hdeclared expected rfl
      have hcomputed : (checkSidecar E name expected value).computed = expected :=
        beq_iff_eq.1 hm
      rw [SidecarDigestCheck.admitted_iff laws, hcomputed]
      exact ⟨htext, htext, hname.text laws.ascii⟩
    next => simp at hmem
  rw [sidecarChecks, List.mem_append] at hc
  rcases hc with hc | hc
  · exact hcheck _ _ _ (by decide) (fun s hs => hvalue.index.index.asStr hs) hc
  · exact hcheck _ _ _ (by decide) (fun s hs => hvalue.index.index.asStr hs) hc

theorem verifyBundle_admitted {rawBytes : Bytes} (laws : EchoLaws E admits)
    (h : (verifyBundle E rawBytes).status = .valid) :
    (verifyBundle E rawBytes).toValue.Admitted admits := by
  obtain ⟨bundle, hb, hf⟩ := exists_checkBundle (.inl h)
  rw [verifyBundle_eq_checkBundle hb hf] at h ⊢
  have herrors := checkBundle_valid_iff.1 h
  obtain ⟨henvelope, hchecks⟩ := checkBundle_errors_eq_nil.1 herrors
  rw [BundleVerificationResult.admitted_iff laws, herrors]
  exact ⟨verifyReceipt_admitted laws henvelope, by simp, text_profileVersion laws,
    fun c hc => sidecarChecks_admitted laws henvelope hc (hchecks c hc)⟩

theorem walkMember_admitted {verifiedHashes : List String} {failedHashes : List (String × String)}
    {m : SupportMember} (laws : EchoLaws E admits) (hm : m.Admitted admits)
    (h : (walkMember verifiedHashes failedHashes m).status.Holds) :
    (walkMember verifiedHashes failedHashes m).toValue.Admitted admits := by
  have hdetail : ∀ memberKind eventHash,
      (replayCheck memberKind eventHash verifiedHashes failedHashes).status.Holds →
      replayCheck memberKind eventHash verifiedHashes failedHashes =
        ⟨memberKind, eventHash, .verified, none⟩ := by
    intro memberKind eventHash h
    unfold replayCheck at h ⊢
    split_ifs at h ⊢ with hv
    · rfl
    · cases hl : failedHashes.lookup eventHash <;> simp [hl, MemberStatus.Holds] at h
  have hchecked : ∀ memberKind reference status, IsAscii memberKind → Text admits reference →
      (⟨memberKind, reference, status, none⟩ : SupportMemberCheck).toValue.Admitted admits :=
    fun memberKind reference status hkind href =>
      (SupportMemberCheck.admitted_iff laws _).2 ⟨by simp, hkind.text laws.ascii, href⟩
  cases m with
  | typedReceiptDependency eventHash role targetSchema =>
    rw [walkMember] at h ⊢
    rw [hdetail _ _ h]
    exact hchecked _ _ _ (by decide) (hm eventHash (by simp [SupportMember.texts]))
  | dependedOnReceipt eventHash =>
    rw [walkMember] at h ⊢
    rw [hdetail _ _ h]
    exact hchecked _ _ _ (by decide) (hm eventHash (by simp [SupportMember.texts]))
  | citedLink id url =>
    rw [walkMember] at h ⊢
    split_ifs at h ⊢
    · simp [MemberStatus.Holds] at h
    · exact hchecked _ _ _ (by decide) (hm id (by simp [SupportMember.texts]))
  | evidenceDigest id digest =>
    rw [walkMember] at h ⊢
    split_ifs at h ⊢
    · exact hchecked _ _ _ (by decide) (hm id (by simp [SupportMember.texts]))
    · simp [MemberStatus.Holds] at h
  | selectorValue key => exact hchecked _ _ _ (by decide) (hm key (by simp [SupportMember.texts]))

theorem verifyDecisionPack_admitted {rawBytes : Bytes} (laws : PackEchoLaws E admits)
    (h : (verifyDecisionPack E rawBytes).status = .valid) :
    (verifyDecisionPack E rawBytes).toValue.Admitted admits := by
  obtain ⟨pack, payload, ho, law⟩ := verifyDecisionPack_valid_iff_law.1 h
  rw [verifyDecisionPack_of_format ho.parsed ho.format] at h ⊢
  have hcons : (checkDecisionPack E pack).Consistent := checkDecisionPack_consistent
  have hmembers := hcons.members h
  obtain ⟨verifiedHashes, failedHashes, -, -, hchecks⟩ := checkDecisionPack_memberChecks ho.admitted
  obtain ⟨value, payloadValue, hvalue, hget, -, hpayload⟩ := ho.admitted
  have hv := admitted_of_verifyReceipt laws.toEchoLaws law.decision hvalue
  have hreport : (checkDecisionPack E pack).schemaVersion = profileVersion ∧
      (checkDecisionPack E pack).decisionResult =
        verifyReceipt E (asBytes pack.decisionCanonical) ∧
      (checkDecisionPack E pack).verdictKind = some payload.verdictKindLabel := by
    unfold checkDecisionPack
    rw [extractDecisionPayload_eq_ok.2 ho.admitted]
    exact ⟨rfl, rfl, rfl⟩
  obtain ⟨hversion, hdecision, hkind⟩ := hreport
  rw [DecisionPackVerificationResult.admitted_iff laws.toEchoLaws, hcons.status_iff.1 h, hversion,
    hdecision, hkind]
  refine ⟨verifyReceipt_admitted laws.toEchoLaws law.decision, by simp, fun c hc => ?_,
    text_profileVersion laws.toEchoLaws, ?_⟩
  · have hholds := hmembers c hc
    rw [hchecks] at hc
    obtain ⟨m, hm, rfl⟩ := List.mem_map.1 hc
    exact walkMember_admitted laws.toEchoLaws
      (laws.decisionPayloadFromValue _ _ (hv.get hget) hpayload m hm) hholds
  · rintro s ⟨⟩
    unfold DecisionReceiptPayload.verdictKindLabel
    cases payload.verdict <;> exact (laws.literal (by decide)).2 trivial

/-- What a resolved edge repeats. -/
theorem EdgeCheck.admitted_resolved {eventHash targetSchema : String} {role : DependencyRole}
    (laws : EchoLaws E admits) (hhash : Text admits eventHash)
    (hschema : Text admits targetSchema) (hrole : ∀ s ∈ role.label, IsAscii s) :
    (⟨eventHash, role.label, some targetSchema, .resolved, none⟩ :
      EdgeCheck).toValue.Admitted admits := by
  rw [EdgeCheck.admitted_iff laws]
  refine ⟨by simp, hhash, fun s hs => (hrole s hs).text laws.ascii, ?_⟩
  rintro s ⟨⟩
  exact hschema

/-- **A valid closure report repeats the hashes and kinds of receipts that verify.**  The support
set under the root's hash may be that of a string that does not, so the text of its edges is found
at the receipts they resolve to. -/
theorem verifyClosureBundle_admitted {rawBytes : Bytes} (laws : PackEchoLaws E admits)
    (h : (verifyClosureBundle E rawBytes).status = .valid)
    (hsize : Json.IsDouble (UInt64.ofNat (verifyClosureBundle E rawBytes).closureSize).toNat) :
    (verifyClosureBundle E rawBytes).toValue.Admitted admits := by
  obtain ⟨bundle, rootValue, rootHash, ho⟩ := opens_of_valid h
  have law := ho.valid_iff.1 h
  have herrors := verifyClosureBundle_consistent.status_iff.1 h
  have hroot := admitted_of_verifyReceipt laws.toEchoLaws law.root ho.root
  have hhash : ∀ {value : Json} {hash : String}, value.Admitted admits →
      readEventHash value = some hash → Text admits hash := by
    intro value hash hv hh
    obtain ⟨w, hw, hs⟩ := Option.bind_eq_some_iff.1 hh
    exact (hv.get hw).asStr hs
  rw [ho.report_eq] at hsize herrors ⊢
  rw [ClosureBundleVerificationResult.admitted_iff laws.toEchoLaws, herrors]
  refine ⟨hsize, fun c hc => ?_, by simp, fun s hs => hhash hroot hs,
    verifyReceipt_admitted laws.toEchoLaws law.root, text_profileVersion laws.toEchoLaws⟩
  · rw [(checkClosureRoot_walk ho.root ho.hash).1, mem_walk_edgeChecks] at hc
    obtain ⟨hash, hreach, m, hm, rfl⟩ := hc
    have hresolved := law.edges hash hreach m hm
    obtain ⟨eventHash, role, targetSchema, rfl, hcheck⟩ := edgeCheck_of_resolved hresolved
    obtain ⟨n, hn, hres⟩ := classifyEdge_resolved.1 hresolved
    rw [lookup_bundleIndex] at hn
    obtain ⟨r, hr, rfl⟩ := Option.map_eq_some_iff.1 hn
    have htarget := receiptOf_of_receiptAt hr
    have hv := admitted_of_verifyReceipt laws.toEchoLaws hres.verifies htarget.json
    have hascii : ∀ kind ∈ layeredKinds, IsAscii kind := by decide
    rw [hcheck]
    refine EdgeCheck.admitted_resolved laws.toEchoLaws (hhash hv htarget.hash)
      (hres.kind ▸ (hascii _ hres.layered).text laws.ascii) ?_
    simp only [depGraph, List.mem_filter, supportSet_bundleIndex] at hm
    cases hat : receiptAt E bundle hash with
    | none => simp [hat] at hm
    | some source =>
      simp only [hat, Option.map_some, Option.getD_some] at hm
      obtain ⟨s, members, -, hmembers, hmem⟩ := mem_committedMembers.1 hm.1
      exact laws.roleLabel s members _ _ _ hmembers hmem

end Packs

end VertRule
