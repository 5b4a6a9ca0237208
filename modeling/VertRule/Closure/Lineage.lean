import VertRule.Closure.ReceiptLaw

/-!
# The lineage a closure bundle really checks

The walk reads the index, not the strings it was built from, so a valid report speaks of the
lineage the index holds.  Two ways for it to differ from the lineage the receipts commit to: a
supplied string that declares the root's hash replaces the root in the index, and a support set
that does not deserialize is indexed as an empty one.
-/

namespace VertRule

variable (E : Externals)

/-- A member resolved by a report: a typed edge that the report checks and resolves. -/
def ResolvedIn (r : ClosureBundleVerificationResult) (m : SupportMember) : Prop :=
  ∃ eventHash role targetSchema, m = .typedReceiptDependency eventHash role targetSchema ∧
    ∃ c ∈ r.edgeChecks, c.eventHash = eventHash ∧ c.role = role.label ∧
      c.targetSchema = some targetSchema ∧ c.status = .resolved

/-- A valid report resolves every dependency that the root itself commits to. -/
def RootSound (rawBytes : Bytes) : Prop :=
  (verifyClosureBundle E rawBytes).status = .valid →
  ∀ bundle rootValue rootHash, Opens E rawBytes bundle rootValue rootHash →
  ∀ s members, readSupportSet rootValue = some s → E.supportSetFromValue s = .ok members →
  ∀ m ∈ members, m.isDependency = true → ResolvedIn (verifyClosureBundle E rawBytes) m

/-- A typed edge like `m` leaves some reachable receipt of the index. -/
def CarriedByIndex (bundle : ClosureBundle) (rootHash : String) (m : SupportMember) : Prop :=
  ∃ eventHash role targetSchema, m = .typedReceiptDependency eventHash role targetSchema ∧
    ∃ h role', (bundleGraph E bundle).Reach rootHash h ∧ role'.label = role.label ∧
      SupportMember.typedReceiptDependency eventHash role' targetSchema ∈
        (bundleGraph E bundle).out h

variable {E} {rawBytes : Bytes} {bundle : ClosureBundle} {rootValue : Json} {rootHash : String}

/-- Under the closure law, the report resolves the members that the index carries. -/
theorem resolvedIn_iff (ho : Opens E rawBytes bundle rootValue rootHash)
    (law : ClosureLaw E bundle rootValue rootHash) {m : SupportMember} :
    ResolvedIn (verifyClosureBundle E rawBytes) m ↔ CarriedByIndex E bundle rootHash m := by
  have hec : (verifyClosureBundle E rawBytes).edgeChecks =
      (walk (bundleIndex E bundle) rootHash .init).edgeChecks := by
    rw [ho.report_eq]
    exact (checkClosureRoot_walk ho.root ho.hash).1
  simp only [ResolvedIn, CarriedByIndex, hec, mem_walk_edgeChecks]
  refine exists_congr fun eventHash => exists_congr fun role => exists_congr fun targetSchema =>
    and_congr_right fun _ => ?_
  constructor
  · rintro ⟨c, ⟨h, hr, m', hm', rfl⟩, hhash, hrole, hschema, -⟩
    cases m' with
    | typedReceiptDependency eventHash' role' targetSchema' =>
      obtain rfl : eventHash' = eventHash := hhash
      obtain rfl : targetSchema' = targetSchema := Option.some.inj hschema
      exact ⟨h, role', hr, hrole, hm'⟩
    | _ => cases hschema
  · rintro ⟨h, role', hr, hrole, hm'⟩
    exact ⟨_, ⟨h, hr, _, hm', rfl⟩, rfl, hrole, rfl, law.edges h hr _ hm'⟩

theorem rootSound_of_carried
    (h : ∀ bundle rootValue rootHash, Opens E rawBytes bundle rootValue rootHash →
      ClosureLaw E bundle rootValue rootHash →
      ∀ s members, readSupportSet rootValue = some s → E.supportSetFromValue s = .ok members →
      ∀ m ∈ members, m.isDependency = true → CarriedByIndex E bundle rootHash m) :
    RootSound E rawBytes := by
  intro hvalid bundle rootValue rootHash ho s members hs hms m hm hdep
  have law := ho.valid_iff.1 hvalid
  exact (resolvedIn_iff ho law).2 (h bundle rootValue rootHash ho law s members hs hms m hm hdep)

/-- **A valid report resolves the root's own dependencies exactly when each of them is a typed
edge that some reachable receipt of the index also commits to.** -/
theorem rootSound_iff :
    RootSound E rawBytes ↔
      ∀ bundle rootValue rootHash, Opens E rawBytes bundle rootValue rootHash →
        ClosureLaw E bundle rootValue rootHash →
        ∀ s members, readSupportSet rootValue = some s → E.supportSetFromValue s = .ok members →
        ∀ m ∈ members, m.isDependency = true → CarriedByIndex E bundle rootHash m := by
  refine ⟨fun h bundle rootValue rootHash ho law s members hs hms m hm hdep => ?_,
    rootSound_of_carried⟩
  exact (resolvedIn_iff ho law).1
    (h (ho.valid_iff.2 law) bundle rootValue rootHash ho s members hs hms m hm hdep)

/-- A root that no supplied string replaces in the index is verified soundly. -/
theorem rootSound_of_receiptAt_root (ho : Opens E rawBytes bundle rootValue rootHash)
    (hroot : receiptAt E bundle rootHash = some (rootValue, bundle.rootCanonical)) :
    RootSound E rawBytes := by
  refine rootSound_of_carried fun bundle' rootValue' rootHash' ho' law s members hs hms m hm hdep =>
    ?_
  obtain ⟨rfl, rfl, rfl⟩ := ho.unique ho'
  have hout : m ∈ (bundleGraph E bundle).out rootHash := by
    simp only [depGraph, List.mem_filter, supportSet_bundleIndex, hroot, Option.map_some,
      Option.getD_some, committedMembers, hs, hms, Except.toOption]
    exact ⟨hm, hdep⟩
  have hres := law.edges rootHash .refl m hout
  cases m with
  | typedReceiptDependency eventHash role targetSchema =>
    exact ⟨eventHash, role, targetSchema, rfl, rootHash, role, .refl, rfl, hout⟩
  | dependedOnReceipt eventHash => simp [edgeCheck, EdgeCheck.untyped] at hres
  | _ => cases hdep

/-! ### A replaced root

A pack that depends on a receipt nobody supplies, and commits to a manifest that lists none.  The
one supplied string merely claims the pack's hash. -/

/-- The manifest without its digest, which is over this value. -/
def emptyManifestBody : Json :=
  .object [("dependency_count", .ofU64 0), ("receipt_closure", .array []),
    ("schema", .string "vr.closure_manifest.v0")]

/-- The digest of the empty manifest. -/
def emptyManifestDigest : DigestBytes :=
  .ofNat 0xee704bed6648d53403e4bf24249ab32c3c0e05e1b0e1b798588f681eeb9321e4

/-- A manifest that lists no receipt. -/
def emptyManifest : Json :=
  .object [("dependency_count", .ofU64 0), ("manifest_digest", emptyManifestDigest.toValue),
    ("receipt_closure", .array []), ("schema", .string "vr.closure_manifest.v0")]

/-- A pack that commits to the empty manifest. -/
def emptyPack (supportSet : Json) (eventHash : DigestBytes) : ReceiptEnvelope :=
  vectorEnvelope .governance 1002
    (.object [("closure_manifest_digest", emptyManifestDigest.toValue),
      ("pack_id", .string "acme-deploy"), ("payload_kind", .string packPayloadKind),
      ("support_set", supportSet)]) eventHash

/-- It depends on the model of the test vectors. -/
def dependentPack : ReceiptEnvelope :=
  emptyPack (.array [modelEdgeValue])
    (.ofNat 0x60befb70417252cc37900b394888a2afff4836aa4e1ded600b59a4d4d1c256fd)

/-- Nothing but the `event_hash` of the pack. -/
def hashClaim : Json := .object [("event_hash", dependentPack.eventHash.toValue)]

/-- The claim is supplied instead of the model. -/
def replacedRootBundle : ClosureBundle where
  format := closureBundleFormat
  rootCanonical := dependentPack.toValue.text
  manifest := emptyManifest
  receipts := [hashClaim.text]

/-- The third-party code on the bundle. -/
def replacedRootTables : Tables where
  envelopes := [(dependentPack.toValue, dependentPack)]
  others := [hashClaim, emptyManifestBody]
  digests := [(dependentPack.body, dependentPack.eventHash),
    (emptyManifestBody, emptyManifestDigest)]
  supportSets := [(.array [modelEdgeValue], [modelEdge])]
  closureBundles := [replacedRootBundle]
  texts_nodup := by decide +kernel

theorem manifestLaw_emptyManifest {T : Tables} (hv : emptyManifestBody ∈ T.values)
    (hd : (emptyManifestBody, emptyManifestDigest) ∈ T.digests) :
    ManifestLaw T.externals emptyManifest (some emptyManifestDigest.toHex) :=
  manifestLaw_of_digest _ hv (by decide +kernel) hd rfl rfl fun c elems hc he => by
    cases hc
    cases he
    rfl

theorem opens_replacedRootBundle :
    Opens replacedRootTables.externals (asBytes replacedRootBundle.toValue.text)
      replacedRootBundle dependentPack.toValue dependentPack.eventHash.toHex where
  parsed := Tables.closureBundleFromSlice_text (by simp [replacedRootTables])
  format := rfl
  root := Tables.fromStr_text (by simp [replacedRootTables, Tables.values])
  hash := rfl

/-- The hash of the pack leads to the string that claims it, which commits to nothing. -/
theorem out_replacedRootBundle :
    (bundleGraph replacedRootTables.externals replacedRootBundle).out
      dependentPack.eventHash.toHex = [] := by
  have hclaim : ReceiptOf replacedRootTables.externals replacedRootBundle
      dependentPack.eventHash.toHex hashClaim.text hashClaim :=
    ⟨by simp [replacedRootBundle],
      Tables.fromStr_text (by simp [replacedRootTables, Tables.values]), rfl⟩
  have hat := hclaim.receiptAt_of_last [replacedRootBundle.rootCanonical] [] rfl
    (by simp)
  simp only [depGraph, supportSet_bundleIndex, hat]
  rfl

theorem closureLaw_replacedRootBundle :
    ClosureLaw replacedRootTables.externals replacedRootBundle dependentPack.toValue
      dependentPack.eventHash.toHex := by
  refine closureLaw_of_out_eq_nil ?_ rfl (manifestLaw_emptyManifest ?_ ?_) ?_
    out_replacedRootBundle rfl
  · exact Tables.verifyReceipt_valid dependentPack (by simp [replacedRootTables])
      (Tables.admissible_of_checks (by decide +kernel))
      (Tables.verifies rfl rfl rfl (by simp [replacedRootTables]))
  · simp [replacedRootTables, Tables.values]
  · simp [replacedRootTables]
  · intro raw hraw
    rw [List.mem_singleton.1 hraw,
      Tables.fromStr_text (by simp [replacedRootTables, Tables.values])]
    rfl

/-- The bundle is valid, and no edge of the pack was checked. -/
theorem not_rootSound_replacedRootBundle :
    ¬ RootSound replacedRootTables.externals (asBytes replacedRootBundle.toValue.text) := by
  intro h
  have ho := opens_replacedRootBundle
  have law := closureLaw_replacedRootBundle
  have hres := h (ho.valid_iff.2 law) _ _ _ ho (.array [modelEdgeValue]) [modelEdge] rfl
    (by simp [Tables.externals, replacedRootTables]) modelEdge List.mem_cons_self rfl
  obtain ⟨_, _, _, -, x, _, hr, -, hm⟩ := (resolvedIn_iff ho law).1 hres
  rw [Dfs.Graph.eq_of_reach_of_out_eq_nil out_replacedRootBundle hr, out_replacedRootBundle] at hm
  cases hm

/-! ### Support sets that do not deserialize -/

variable (E)

/-- The support set of an envelope value is absent, or deserializes. -/
def SupportSetReadable (value : Json) : Prop :=
  ∀ s, readSupportSet value = some s → ∃ members, E.supportSetFromValue s = .ok members

/-- The support sets of the root and of every receipt the index reaches are readable. -/
def LineageReadable (bundle : ClosureBundle) (rootValue : Json) (rootHash : String) : Prop :=
  SupportSetReadable E rootValue ∧
    ∀ h, (bundleGraph E bundle).Reach rootHash h → ∀ r, receiptAt E bundle h = some r →
      SupportSetReadable E r.1

/-- A valid report has readable lineage. -/
def LineageFailsClosed (rawBytes : Bytes) : Prop :=
  (verifyClosureBundle E rawBytes).status = .valid →
  ∀ bundle rootValue rootHash, Opens E rawBytes bundle rootValue rootHash →
    LineageReadable E bundle rootValue rootHash

variable {E}

/-- **Malformed lineage fails closed exactly when the bundle would be rejected even with its
malformed support sets read as empty ones, or has none.** -/
theorem lineageFailsClosed_iff :
    LineageFailsClosed E rawBytes ↔
      ∀ bundle rootValue rootHash, Opens E rawBytes bundle rootValue rootHash →
        ¬ ClosureLaw E bundle rootValue rootHash ∨
          LineageReadable E bundle rootValue rootHash := by
  constructor
  · intro h bundle rootValue rootHash ho
    by_cases law : ClosureLaw E bundle rootValue rootHash
    · exact .inr (h (ho.valid_iff.2 law) bundle rootValue rootHash ho)
    · exact .inl law
  · intro h hvalid bundle rootValue rootHash ho
    exact (h bundle rootValue rootHash ho).resolve_left (not_not.2 (ho.valid_iff.1 hvalid))

/-! ### A pack whose support set is a string -/

/-- Its support set is no array of members. -/
def malformedPack : ReceiptEnvelope :=
  emptyPack (.string "soc2")
    (.ofNat 0xbbc2086569a50956338932d8146e6085ca7b819947ac74f30cec38afda1f7b16)

/-- The pack alone, under the empty manifest. -/
def malformedLineageBundle : ClosureBundle where
  format := closureBundleFormat
  rootCanonical := malformedPack.toValue.text
  manifest := emptyManifest
  receipts := []

/-- The third-party code on the bundle. -/
def malformedLineageTables : Tables where
  envelopes := [(malformedPack.toValue, malformedPack)]
  others := [emptyManifestBody]
  digests := [(malformedPack.body, malformedPack.eventHash),
    (emptyManifestBody, emptyManifestDigest)]
  closureBundles := [malformedLineageBundle]
  texts_nodup := by decide +kernel

theorem opens_malformedLineageBundle :
    Opens malformedLineageTables.externals (asBytes malformedLineageBundle.toValue.text)
      malformedLineageBundle malformedPack.toValue malformedPack.eventHash.toHex where
  parsed := Tables.closureBundleFromSlice_text (by simp [malformedLineageTables])
  format := rfl
  root := Tables.fromStr_text (by simp [malformedLineageTables, Tables.values])
  hash := rfl

theorem closureLaw_malformedLineageBundle :
    ClosureLaw malformedLineageTables.externals malformedLineageBundle malformedPack.toValue
      malformedPack.eventHash.toHex := by
  have hpack : ReceiptOf malformedLineageTables.externals malformedLineageBundle
      malformedPack.eventHash.toHex malformedPack.toValue.text malformedPack.toValue :=
    ⟨by simp [malformedLineageBundle], opens_malformedLineageBundle.root, rfl⟩
  have hat := hpack.receiptAt_of_last [] [] rfl (by simp)
  refine closureLaw_of_out_eq_nil ?_ rfl (manifestLaw_emptyManifest ?_ ?_) ?_ ?_ rfl
  · exact Tables.verifyReceipt_valid malformedPack
      (by simp [malformedLineageTables]) (Tables.admissible_of_checks (by decide +kernel))
      (Tables.verifies rfl rfl rfl (by simp [malformedLineageTables]))
  · simp [malformedLineageTables, Tables.values]
  · simp [malformedLineageTables]
  · exact fun raw hraw => absurd hraw List.not_mem_nil
  · simp only [depGraph, supportSet_bundleIndex, hat]
    rfl

/-- The bundle is valid, although the support set of its root does not deserialize. -/
theorem not_lineageFailsClosed_malformedLineageBundle :
    ¬ LineageFailsClosed malformedLineageTables.externals
      (asBytes malformedLineageBundle.toValue.text) := by
  intro h
  have ho := opens_malformedLineageBundle
  have hread := h (ho.valid_iff.2 closureLaw_malformedLineageBundle) _ _ _ ho
  obtain ⟨members, hm⟩ := hread.1 (.string "soc2") rfl
  cases hm

end VertRule
