import VertRule.Supplied

/-!
# Strings that no member references

A string among the supplied receipts that no member of the support set references is to be
ignored.  The loop keeps what it has collected of the committed hashes, so the members are as
without it; but a string without a readable `event_hash` is also an error of the whole pack
(`unreferenced_ignored_iff`).
-/

namespace VertRule

/-- The hash that a member commits for replay. -/
def SupportMember.committedHash : SupportMember → Option String
  | typedReceiptDependency eventHash _ _ => some eventHash
  | dependedOnReceipt eventHash => some eventHash
  | citedLink .. | evidenceDigest .. | selectorValue _ => none

variable (E : Externals)

/-- The string declares no readable `event_hash`, or one that no member commits. -/
def DecisionPack.Unreferenced (pack : DecisionPack) (s : String) : Prop :=
  ∀ payload, AdmitsDecision E pack.decisionCanonical payload →
    ∀ m ∈ payload.supportSet, ∀ eventHash, m.committedHash = some eventHash →
      extractEventHash E s ≠ some eventHash

/-- The second pack is the first one with an unreferenced string inserted among the supplied
receipts. -/
structure InsertsUnreferenced (rawBytes rawBytes' : Bytes) (pack : DecisionPack)
    (before : List String) (s : String) (after : List String) : Prop where
  parsed : E.decisionPackFromSlice rawBytes = .ok pack
  split : pack.dependedOn = before ++ after
  inserted : E.decisionPackFromSlice rawBytes' =
    .ok { pack with dependedOn := before ++ s :: after }
  unreferenced : pack.Unreferenced E s

/-- Two reports agree on the status, the verdict and the members. -/
structure SameVerdict (r r' : DecisionPackVerificationResult) : Prop where
  status : r.status = r'.status
  verdictKind : r.verdictKind = r'.verdictKind
  memberChecks : r.memberChecks = r'.memberChecks

/-- The pack opens, and keeps the support-set law. -/
def KeepsDecisionLaw (rawBytes : Bytes) : Prop :=
  ∃ pack payload, OpensDecision E rawBytes pack payload ∧ DecisionLaw E pack payload

variable {E} {pack : DecisionPack} {payload : DecisionReceiptPayload} {s : String}
  {before after : List String} {rawBytes rawBytes' : Bytes}

/-! ### The loop over the supplied receipts -/

namespace SuppliedHashes

/-- The same has been collected of a hash. -/
structure AgreesOn (st st' : SuppliedHashes) (eventHash : String) : Prop where
  verified : eventHash ∈ st.verifiedHashes ↔ eventHash ∈ st'.verifiedHashes
  failed : st.failedHashes.lookup eventHash = st'.failedHashes.lookup eventHash

variable {st st' : SuppliedHashes} {eventHash : String}

/-- A round adds to what has been collected, and nothing that concerns a hash which the string does
not declare. -/
theorem add_appends (supplied : String) : ∃ verified failed,
    (∀ st : SuppliedHashes, (st.add E supplied).verifiedHashes = st.verifiedHashes ++ verified ∧
      (st.add E supplied).failedHashes = st.failedHashes ++ failed) ∧
    ∀ eventHash, extractEventHash E supplied ≠ some eventHash →
      eventHash ∉ verified ∧ failed.lookup eventHash = none := by
  cases hd : extractEventHash E supplied with
  | none =>
    refine ⟨[], [], fun st => ?_, by simp⟩
    cases hs : (verifyReceipt E (asBytes supplied)).status <;> simp [add, hs, hd]
  | some declared =>
    cases hs : (verifyReceipt E (asBytes supplied)).status with
    | valid =>
      refine ⟨[declared], [], fun st => by simp [add, hs, hd], fun eventHash hne => ?_⟩
      simpa [eq_comm] using hne
    | invalid =>
      refine ⟨[], [(declared, "; ".intercalate (verifyReceipt E (asBytes supplied)).errors)],
        fun st => by simp [add, hs, hd], fun eventHash hne => ?_⟩
      have hkey : (eventHash == declared) = false := beq_false_of_ne fun he => hne (by rw [he])
      simp [List.lookup_cons, hkey]

/-- A round keeps the agreement. -/
theorem AgreesOn.add (h : st.AgreesOn st' eventHash) (supplied : String) :
    (st.add E supplied).AgreesOn (st'.add E supplied) eventHash := by
  obtain ⟨verified, failed, hadd, -⟩ := add_appends (E := E) supplied
  constructor
  · rw [(hadd st).1, (hadd st').1, List.mem_append, List.mem_append, h.verified]
  · rw [(hadd st).2, (hadd st').2, List.lookup_append, List.lookup_append, h.failed]

theorem AgreesOn.foldl (h : st.AgreesOn st' eventHash) (supplied : List String) :
    (supplied.foldl (SuppliedHashes.add E) st).AgreesOn
      (supplied.foldl (SuppliedHashes.add E) st') eventHash := by
  induction supplied generalizing st st' with
  | nil => exact h
  | cons t supplied ih => exact ih (h.add t)

/-- A string that does not declare the hash leaves what has been collected of it. -/
theorem agreesOn_add (st : SuppliedHashes) (h : extractEventHash E s ≠ some eventHash) :
    st.AgreesOn (st.add E s) eventHash := by
  obtain ⟨verified, failed, hadd, hnew⟩ := add_appends (E := E) s
  obtain ⟨hverified, hfailed⟩ := hnew eventHash h
  constructor
  · rw [(hadd st).1, List.mem_append]
    exact (or_iff_left hverified).symm
  · rw [(hadd st).2, List.lookup_append, hfailed, Option.or_none]

/-- The loop has collected the same of a hash with and without such a string. -/
theorem agreesOn_insert (st : SuppliedHashes) (h : extractEventHash E s ≠ some eventHash) :
    ((before ++ after).foldl (SuppliedHashes.add E) st).AgreesOn
      ((before ++ s :: after).foldl (SuppliedHashes.add E) st) eventHash := by
  rw [List.foldl_append, List.foldl_append, List.foldl_cons]
  exact (agreesOn_add _ h).foldl after

/-- The walk of a member reads of the collected hashes only the one it commits. -/
theorem AgreesOn.walkMember {m : SupportMember}
    (h : ∀ eventHash, m.committedHash = some eventHash → st.AgreesOn st' eventHash) :
    walkMember st.verifiedHashes st.failedHashes m =
      walkMember st'.verifiedHashes st'.failedHashes m := by
  cases m with
  | typedReceiptDependency eventHash role targetSchema =>
    simp only [VertRule.walkMember, replayCheck, (h eventHash rfl).verified,
      (h eventHash rfl).failed]
  | dependedOnReceipt eventHash =>
    simp only [VertRule.walkMember, replayCheck, (h eventHash rfl).verified,
      (h eventHash rfl).failed]
  | citedLink | evidenceDigest | selectorValue => rfl

end SuppliedHashes

/-! ### The report -/

/-- The members of the pack do not change. -/
theorem checkDecisionPack_memberChecks_insert (hsplit : pack.dependedOn = before ++ after)
    (hs : pack.Unreferenced E s) :
    (checkDecisionPack E pack).memberChecks =
      (checkDecisionPack E { pack with dependedOn := before ++ s :: after }).memberChecks := by
  unfold checkDecisionPack
  cases hp : extractDecisionPayload E pack.decisionCanonical with
  | error e => rfl
  | ok payload =>
    have hadmits := extractDecisionPayload_eq_ok.1 hp
    dsimp only
    rw [hsplit]
    refine List.map_congr_left fun m hm => ?_
    refine SuppliedHashes.AgreesOn.walkMember fun eventHash hcommitted => ?_
    exact SuppliedHashes.agreesOn_insert _ (hs payload hadmits m hm eventHash hcommitted)

theorem checkDecisionPack_verdictKind {dependedOn' : List String} :
    (checkDecisionPack E pack).verdictKind =
      (checkDecisionPack E { pack with dependedOn := dependedOn' }).verdictKind := by
  unfold checkDecisionPack
  cases extractDecisionPayload E pack.decisionCanonical <;> rfl

/-- A member that holds with the string inserted holds without it. -/
theorem SupportMember.Holds.of_insert {m : SupportMember}
    (hsplit : pack.dependedOn = before ++ after)
    (hs : ∀ eventHash, m.committedHash = some eventHash → extractEventHash E s ≠ some eventHash)
    (h : m.Holds E { pack with dependedOn := before ++ s :: after }) : m.Holds E pack := by
  have hsupplies : ∀ eventHash, m.committedHash = some eventHash →
      DecisionPack.Supplies E { pack with dependedOn := before ++ s :: after } .valid eventHash →
        pack.Supplies E .valid eventHash := by
    rintro eventHash hm ⟨t, ht, hdeclares, hvalid⟩
    refine ⟨t, ?_, hdeclares, hvalid⟩
    rw [hsplit]
    simp only [List.mem_append, List.mem_cons] at ht ⊢
    rcases ht with ht | rfl | ht
    · exact .inl ht
    · exact absurd hdeclares (hs eventHash hm)
    · exact .inr ht
  cases m with
  | typedReceiptDependency eventHash role targetSchema => exact hsupplies eventHash rfl h
  | dependedOnReceipt eventHash => exact hsupplies eventHash rfl h
  | _ => exact h

/-- With the string inserted, the law asks in addition that its hash be readable. -/
theorem decisionLaw_insert_iff (ha : AdmitsDecision E pack.decisionCanonical payload)
    (hsplit : pack.dependedOn = before ++ after) (hs : pack.Unreferenced E s) :
    DecisionLaw E { pack with dependedOn := before ++ s :: after } payload ↔
      DecisionLaw E pack payload ∧ (extractEventHash E s).isSome = true := by
  have hmem : ∀ t, t ∈ before ++ s :: after ↔ t = s ∨ t ∈ pack.dependedOn := by
    intro t
    rw [hsplit, List.mem_append, List.mem_append, List.mem_cons, or_left_comm]
  constructor
  · intro law
    refine ⟨⟨law.decision, fun t ht => law.readable t ((hmem t).2 (.inr ht)), fun m hm => ?_⟩,
      law.readable s ((hmem s).2 (.inl rfl))⟩
    exact (law.members m hm).of_insert hsplit (hs payload ha m hm)
  · rintro ⟨law, hread⟩
    refine law.mono (fun t ht => (hmem t).2 (.inr ht)) fun t ht => ?_
    rcases (hmem t).1 ht with rfl | ht
    · exact .inr hread
    · exact .inl ht

/-- The pack with the string inserted is valid when the pack is, and the hash of the string is
readable. -/
theorem InsertsUnreferenced.valid_iff (h : InsertsUnreferenced E rawBytes rawBytes' pack before s
    after) : (verifyDecisionPack E rawBytes').status = .valid ↔
      (verifyDecisionPack E rawBytes).status = .valid ∧
        (extractEventHash E s).isSome = true := by
  rw [verifyDecisionPack_valid_iff_law, verifyDecisionPack_valid_iff_law]
  constructor
  · rintro ⟨pack', payload, ho, law⟩
    obtain rfl := Except.ok.inj (h.inserted.symm.trans ho.parsed)
    have hadmits : AdmitsDecision E pack.decisionCanonical payload := ho.admitted
    obtain ⟨law, hread⟩ := (decisionLaw_insert_iff hadmits h.split h.unreferenced).1 law
    exact ⟨⟨pack, payload, ⟨h.parsed, ho.format, hadmits⟩, law⟩, hread⟩
  · rintro ⟨⟨pack', payload, ho, law⟩, hread⟩
    obtain rfl := Except.ok.inj (h.parsed.symm.trans ho.parsed)
    exact ⟨_, payload, ⟨h.inserted, ho.format, ho.admitted⟩,
      (decisionLaw_insert_iff ho.admitted h.split h.unreferenced).2 ⟨law, hread⟩⟩

/-- The string leaves the verdict and the members of the report. -/
theorem InsertsUnreferenced.members_eq (h : InsertsUnreferenced E rawBytes rawBytes' pack before s
    after) :
    (verifyDecisionPack E rawBytes).verdictKind = (verifyDecisionPack E rawBytes').verdictKind ∧
      (verifyDecisionPack E rawBytes).memberChecks =
        (verifyDecisionPack E rawBytes').memberChecks := by
  by_cases hf : pack.format = decisionPackFormat
  · rw [verifyDecisionPack_of_format h.parsed hf, verifyDecisionPack_of_format h.inserted hf]
    exact ⟨checkDecisionPack_verdictKind,
      checkDecisionPack_memberChecks_insert h.split h.unreferenced⟩
  · simp [verifyDecisionPack, h.parsed, h.inserted, hf]

/-- **An unreferenced string is ignored exactly when its `event_hash` is readable, or the pack
breaks the support-set law anyway.** -/
theorem unreferenced_ignored_iff
    (h : InsertsUnreferenced E rawBytes rawBytes' pack before s after) :
    SameVerdict (verifyDecisionPack E rawBytes) (verifyDecisionPack E rawBytes') ↔
      (extractEventHash E s).isSome = true ∨ ¬ KeepsDecisionLaw E rawBytes := by
  have hlaw : KeepsDecisionLaw E rawBytes ↔ (verifyDecisionPack E rawBytes).status = .valid :=
    verifyDecisionPack_valid_iff_law.symm
  rw [hlaw]
  constructor
  · intro hsame
    by_cases hvalid : (verifyDecisionPack E rawBytes).status = .valid
    · exact .inl (h.valid_iff.1 (hsame.status ▸ hvalid)).2
    · exact .inr hvalid
  · intro hcond
    refine ⟨VerificationStatus.eq_of_valid_iff ?_, h.members_eq.1, h.members_eq.2⟩
    rw [h.valid_iff]
    exact ⟨fun hvalid => ⟨hvalid, hcond.resolve_right (not_not.2 hvalid)⟩, And.left⟩

/-! ### Strings in the decision pack of the test vectors

The contested pack with one more string that no member references: the decision receipt itself,
and a text that is no JSON. -/

/-- The decision receipt is supplied too. -/
def strayReceiptPack : DecisionPack :=
  decisionPack [priorReceipt.toValue.text, decisionReceipt.toValue.text, priorClaim.text]

/-- A text that is no JSON is supplied too. -/
def strayTextPack : DecisionPack :=
  decisionPack [priorReceipt.toValue.text, "not a receipt", priorClaim.text]

/-- The third-party code on the three packs. -/
def strayExternals : Externals :=
  decisionTables.externals.withPacks [(decisionPayloadValue, decisionPayload)]
    [contestedPack, strayReceiptPack, strayTextPack] []

theorem strayPacks_nodup :
    ([contestedPack, strayReceiptPack, strayTextPack].map fun p => p.toValue.chars).Nodup := by
  -- the common start cancels before anything is evaluated
  simp only [List.map_cons, List.map_nil, contestedPack, strayReceiptPack, strayTextPack,
    decisionPack, DecisionPack.toValue, Json.chars, Json.fieldChars, Json.ofStrings,
    Json.elemChars, Json.stringText_text, List.nodup_cons, List.nodup_nil, List.mem_cons,
    List.not_mem_nil, not_false_eq_true, and_true, or_false, List.isEmpty_cons, List.isEmpty_nil,
    if_true, if_false, Bool.false_eq_true, List.append_assoc, List.cons_append, List.nil_append,
    List.cons.injEq, List.append_cancel_left_eq, true_and, not_or]
  decide +kernel

theorem extractEventHash_strayReceipt :
    extractEventHash strayExternals decisionReceipt.toValue.text = some decisionHash.toHex := by
  rw [strayExternals, extractEventHash_withPacks, extractEventHash,
    Tables.fromStr_text (Tables.mem_values List.mem_cons_self)]
  rfl

theorem extractEventHash_strayText : extractEventHash strayExternals "not a receipt" = none := by
  rw [strayExternals, extractEventHash_withPacks, extractEventHash]
  cases h : decisionTables.externals.fromStr "not a receipt" with
  | error e => rfl
  | ok v => exact absurd h (Tables.fromSlice_ne_ok (by decide +kernel) v)

/-- The decision commits the hash of the prior receipt, and no other. -/
theorem unreferenced_of_ne {s : String}
    (h : extractEventHash strayExternals s ≠ some priorHash.toHex) :
    contestedPack.Unreferenced strayExternals s := by
  intro payload ha m hm eventHash hcommitted
  have hpayload : extractDecisionPayload strayExternals contestedPack.decisionCanonical =
      .ok decisionPayload := by
    rw [strayExternals, extractDecisionPayload_withPacks [contestedPack, repeatedClaimPack]]
    exact extractDecisionPayload_eq_ok.2 admits_decisionReceipt
  obtain rfl := Except.ok.inj (hpayload.symm.trans (extractDecisionPayload_eq_ok.2 ha))
  simp only [decisionPayload, List.mem_cons, List.not_mem_nil, or_false] at hm
  rcases hm with rfl | rfl | rfl | rfl
  · cases hcommitted
  · exact Option.some.inj hcommitted ▸ h
  · cases hcommitted
  · cases hcommitted

/-- The stray packs insert their string into the contested pack. -/
theorem insertsUnreferenced_strayPack {s : String}
    (hmem : decisionPack [priorReceipt.toValue.text, s, priorClaim.text] ∈
      [contestedPack, strayReceiptPack, strayTextPack])
    (hne : extractEventHash strayExternals s ≠ some priorHash.toHex) :
    InsertsUnreferenced strayExternals (asBytes contestedPack.toValue.text)
      (asBytes (decisionPack [priorReceipt.toValue.text, s, priorClaim.text]).toValue.text)
      contestedPack [priorReceipt.toValue.text] s [priorClaim.text] where
  parsed := decisionPackFromSlice_withPacks strayPacks_nodup List.mem_cons_self
  split := rfl
  inserted := decisionPackFromSlice_withPacks strayPacks_nodup hmem
  unreferenced := unreferenced_of_ne hne

/-- The decision receipt among the receipts it depends on changes nothing. -/
theorem ignored_strayReceiptPack :
    SameVerdict (verifyDecisionPack strayExternals (asBytes contestedPack.toValue.text))
      (verifyDecisionPack strayExternals (asBytes strayReceiptPack.toValue.text)) := by
  have hne : extractEventHash strayExternals decisionReceipt.toValue.text ≠
      some priorHash.toHex := by
    rw [extractEventHash_strayReceipt]
    decide +kernel
  have hmem : strayReceiptPack ∈ [contestedPack, strayReceiptPack, strayTextPack] := by simp
  refine (unreferenced_ignored_iff (insertsUnreferenced_strayPack hmem hne)).2 (.inl ?_)
  rw [extractEventHash_strayReceipt]
  rfl

/-- A text that is no JSON, said to be ignored, makes the valid decision invalid. -/
theorem not_ignored_strayTextPack :
    InsertsUnreferenced strayExternals (asBytes contestedPack.toValue.text)
        (asBytes strayTextPack.toValue.text) contestedPack [priorReceipt.toValue.text]
        "not a receipt" [priorClaim.text] ∧
      ¬ SameVerdict (verifyDecisionPack strayExternals (asBytes contestedPack.toValue.text))
        (verifyDecisionPack strayExternals (asBytes strayTextPack.toValue.text)) := by
  have hne : extractEventHash strayExternals "not a receipt" ≠ some priorHash.toHex := by
    rw [extractEventHash_strayText]
    simp
  have hmem : strayTextPack ∈ [contestedPack, strayReceiptPack, strayTextPack] := by simp
  have hinserts := insertsUnreferenced_strayPack hmem hne
  have hvalid : (verifyDecisionPack strayExternals
      (asBytes contestedPack.toValue.text)).status = .valid := by
    rw [verifyDecisionPack_of_format hinserts.parsed rfl, strayExternals,
      checkDecisionPack_withPacks [contestedPack, repeatedClaimPack]]
    exact checkDecisionPack_contestedPack
  refine ⟨hinserts, fun hsame => ?_⟩
  have hread := (hinserts.valid_iff.1 (hsame.status ▸ hvalid)).2
  rw [extractEventHash_strayText] at hread
  cases hread

end VertRule
