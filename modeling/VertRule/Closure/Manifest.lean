import VertRule.Closure.Lineage
import VertRule.Closure.Order

/-!
# The manifest of a closure bundle

What a valid report says about the manifest: the root pins the resolved dependencies through the
digest of the manifest (`closure_pinned_by_root`), while nothing compares the `root_event_hash` a
manifest may carry (`rootBound_iff`), and its count speaks of the closure only where the manifest
lists distinct strings and carries a count (`countsAgree_iff`).
-/

namespace VertRule

variable (E : Externals)

/-- The dependencies `verify_closure_bundle` resolves: what the walk reaches, without the root. -/
def resolvedDependencies (bundle : ClosureBundle) (rootHash : String) : Finset String :=
  (walk (bundleIndex E bundle) rootHash .init).reachable.erase rootHash

/-- The canonical form of a manifest without its `manifest_digest`. -/
def manifestCanonical : Json → Except VerifyError Bytes
  | .object obj => typedCanonBytes E (.object (Json.removeKey obj "manifest_digest"))
  | _ => .error (.canon "manifest is not a JSON object")

/-- What is used of BLAKE3 and JCS on two manifests: the digests of their canonical forms do not
collide, and a canonical form determines the strings of `receipt_closure`. -/
structure ManifestsSeparated (manifest₁ manifest₂ : Json) : Prop where
  collisionFree : ∀ canonical₁ canonical₂, manifestCanonical E manifest₁ = .ok canonical₁ →
    manifestCanonical E manifest₂ = .ok canonical₂ →
    E.blake3 canonical₁ = E.blake3 canonical₂ → canonical₁ = canonical₂
  canonical : ∀ obj₁ obj₂ canonical, manifest₁ = .object obj₁ → manifest₂ = .object obj₂ →
    typedCanonBytes E (.object (Json.removeKey obj₁ "manifest_digest")) = .ok canonical →
    typedCanonBytes E (.object (Json.removeKey obj₂ "manifest_digest")) = .ok canonical →
    committedClosure (.object (Json.removeKey obj₁ "manifest_digest")) =
      committedClosure (.object (Json.removeKey obj₂ "manifest_digest"))

variable {E} {rawBytes : Bytes} {bundle : ClosureBundle} {rootValue : Json} {rootHash : String}

theorem closureSize_eq_card (ho : Opens E rawBytes bundle rootValue rootHash) :
    (verifyClosureBundle E rawBytes).closureSize =
      (resolvedDependencies E bundle rootHash).card := by
  rw [ho.report_eq]
  exact (checkClosureRoot_walk ho.root ho.hash).2.2.1

/-- Under the closure law, the resolved dependencies are the strings the manifest lists. -/
theorem ClosureLaw.resolvedDependencies_eq (law : ClosureLaw E bundle rootValue rootHash) :
    resolvedDependencies E bundle rootHash = committedClosure bundle.manifest := by
  ext h
  rw [resolvedDependencies, Finset.mem_erase, mem_walk_reachable, law.complete h]

/-! ### The root pins the closure -/

/-- The self-digest leaves the listed strings as they are. -/
theorem committedClosure_removeKey {obj : List (String × Json)} :
    committedClosure (.object (Json.removeKey obj "manifest_digest")) =
      committedClosure (.object obj) := by
  simp only [committedClosure, Json.get_object]
  rw [Json.lookup_removeKey (by decide)]

/-- Manifests under the law for one committed digest list the same strings. -/
theorem ManifestLaw.committedClosure_eq {manifest₁ manifest₂ : Json} {digest : Option String}
    (h₁ : ManifestLaw E manifest₁ digest) (h₂ : ManifestLaw E manifest₂ digest)
    (hsep : ManifestsSeparated E manifest₁ manifest₂) :
    committedClosure manifest₁ = committedClosure manifest₂ := by
  obtain ⟨obj₁, canonical₁, rfl, hc₁, -, hd₁⟩ := h₁.digest
  obtain ⟨obj₂, canonical₂, rfl, hc₂, -, hd₂⟩ := h₂.digest
  have hdigest : E.blake3 canonical₁ = E.blake3 canonical₂ :=
    DigestBytes.toHex_injective (Option.some.inj (hd₁.symm.trans hd₂))
  -- both manifests are the preimage of the digest that the root commits to
  obtain rfl := hsep.collisionFree _ _ hc₁ hc₂ hdigest
  rw [← committedClosure_removeKey, hsep.canonical _ _ _ rfl rfl hc₁ hc₂,
    committedClosure_removeKey]

/-- **The root pack pins its closure**: two valid bundles with the same root resolve the same
dependencies, whatever manifests and receipts they carry. -/
theorem closure_pinned_by_root {rawBytes₁ rawBytes₂ : Bytes} {bundle₁ bundle₂ : ClosureBundle}
    {rootValue₁ rootValue₂ : Json} {rootHash₁ rootHash₂ : String}
    (ho₁ : Opens E rawBytes₁ bundle₁ rootValue₁ rootHash₁)
    (ho₂ : Opens E rawBytes₂ bundle₂ rootValue₂ rootHash₂)
    (hv₁ : (verifyClosureBundle E rawBytes₁).status = .valid)
    (hv₂ : (verifyClosureBundle E rawBytes₂).status = .valid)
    (hroot : bundle₁.rootCanonical = bundle₂.rootCanonical)
    (hsep : ManifestsSeparated E bundle₁.manifest bundle₂.manifest) :
    resolvedDependencies E bundle₁ rootHash₁ = resolvedDependencies E bundle₂ rootHash₂ ∧
      (verifyClosureBundle E rawBytes₁).closureSize =
        (verifyClosureBundle E rawBytes₂).closureSize := by
  have law₁ := ho₁.valid_iff.1 hv₁
  have law₂ := ho₂.valid_iff.1 hv₂
  obtain rfl : rootValue₁ = rootValue₂ :=
    Except.ok.inj (ho₁.root.symm.trans (hroot ▸ ho₂.root))
  have hdeps : resolvedDependencies E bundle₁ rootHash₁ =
      resolvedDependencies E bundle₂ rootHash₂ := by
    rw [law₁.resolvedDependencies_eq, law₂.resolvedDependencies_eq]
    exact law₁.manifest.committedClosure_eq law₂.manifest hsep
  exact ⟨hdeps, by rw [closureSize_eq_card ho₁, closureSize_eq_card ho₂, hdeps]⟩

/-- A manifest is separated from itself. -/
theorem manifestsSeparated_self {manifest : Json} : ManifestsSeparated E manifest manifest where
  collisionFree _ _ h₁ h₂ _ := Except.ok.inj (h₁.symm.trans h₂)
  canonical _ _ _ h₁ h₂ _ _ := by rw [Json.object.inj (h₁.symm.trans h₂)]

theorem opens_of_vectorRoot {bundle : ClosureBundle} (hb : bundle ∈ vectorTables.closureBundles)
    (hf : bundle.format = closureBundleFormat)
    (hr : bundle.rootCanonical = packReceipt.toValue.text) :
    Opens vectorTables.externals (asBytes bundle.toValue.text) bundle packReceipt.toValue
      packHash.toHex where
  parsed := Tables.closureBundleFromSlice_text hb
  format := hf
  root := by rw [hr]; exact receiptOf_pack.json
  hash := rfl

/-- The bundle of the test vectors, and the one that also supplies a string claiming the hash of
the model, resolve the same dependencies. -/
theorem closure_pinned_vectorBundle :
    resolvedDependencies vectorTables.externals vectorBundle packHash.toHex =
        resolvedDependencies vectorTables.externals contestedBundle packHash.toHex ∧
      (verifyClosureBundle vectorTables.externals (asBytes vectorBundle.toValue.text)).closureSize =
        (verifyClosureBundle vectorTables.externals
          (asBytes contestedBundle.toValue.text)).closureSize := by
  have ho : Opens vectorTables.externals (asBytes vectorBundle.toValue.text) vectorBundle
      packReceipt.toValue packHash.toHex :=
    opens_of_vectorRoot (by simp [vectorTables]) rfl vectorBundle_rootCanonical
  have ho' : Opens vectorTables.externals (asBytes contestedBundle.toValue.text) contestedBundle
      packReceipt.toValue packHash.toHex :=
    opens_of_vectorRoot (by simp [vectorTables]) rfl vectorBundle_rootCanonical
  have law := (closureLaw_iff_receiptLaw distinctHashes_vectorBundle).2 receiptLaw_vectorBundle
  exact closure_pinned_by_root ho ho' (ho.valid_iff.2 law)
    (ho'.valid_iff.2 closureLaw_contestedBundle) rfl manifestsSeparated_self

/-! ### The root hash a manifest states -/

variable (E)

/-- A bundle whose manifest states another `root_event_hash` than the root declares is rejected. -/
def RootBound (rawBytes : Bytes) : Prop :=
  ∀ bundle stated, E.closureBundleFromSlice rawBytes = .ok bundle →
    bundle.manifest.get "root_event_hash" = some stated →
    (∀ rootValue, E.fromStr bundle.rootCanonical = .ok rootValue →
      rootValue.get "event_hash" ≠ some stated) →
    (verifyClosureBundle E rawBytes).status = .invalid ∧
      ((verifyClosureBundle E rawBytes).manifestDigestOk = false ∨
        (verifyClosureBundle E rawBytes).errors ≠ [])

/-- The manifest states a `root_event_hash` other than the given one. -/
def StatesOtherRoot (manifest : Json) (rootHash : String) : Prop :=
  ∃ stated, manifest.get "root_event_hash" = some stated ∧ stated ≠ .string rootHash

variable {E}

/-- **A manifest is bound to its root only by what else is wrong with the bundle**: a stated root
hash that differs is rejected exactly when the bundle breaks the closure law, which does not
mention it. -/
theorem rootBound_iff :
    RootBound E rawBytes ↔
      ∀ bundle rootValue rootHash, Opens E rawBytes bundle rootValue rootHash →
        StatesOtherRoot bundle.manifest rootHash →
        ¬ ClosureLaw E bundle rootValue rootHash := by
  constructor
  · intro h bundle rootValue rootHash ho ⟨stated, hs, hne⟩ law
    have hother : ∀ rootValue, E.fromStr bundle.rootCanonical = .ok rootValue →
        rootValue.get "event_hash" ≠ some stated := by
      intro rootValue' hr he
      obtain rfl := Except.ok.inj (ho.root.symm.trans hr)
      have hhash := asStr_bind_eq_some.1 ho.hash
      exact hne (Option.some.inj (he.symm.trans hhash))
    -- the law says nothing of the stated root, so the bundle is valid
    have hrej := (h bundle stated ho.parsed hs hother).1
    rw [ho.valid_iff.2 law] at hrej
    cases hrej
  · intro h bundle stated hb hs hother
    have hrej : (verifyClosureBundle E rawBytes).status ≠ .valid := by
      intro hv
      obtain ⟨bundle', rootValue, rootHash, ho⟩ := opens_of_valid hv
      obtain rfl := Except.ok.inj (hb.symm.trans ho.parsed)
      refine h bundle rootValue rootHash ho ⟨stated, hs, ?_⟩ (ho.valid_iff.1 hv)
      rintro rfl
      exact hother rootValue ho.root (asStr_bind_eq_some.1 ho.hash)
    refine ⟨VerificationStatus.eq_invalid_iff.2 hrej, .inr fun he => hrej ?_⟩
    exact verifyClosureBundle_consistent.status_iff.2 he

/-! ### The count of a manifest -/

variable (E)

/-- The manifest of a valid bundle lists distinct strings and counts them, and they are as many as
the dependencies resolved. -/
def CountsAgree (rawBytes : Bytes) : Prop :=
  (verifyClosureBundle E rawBytes).status = .valid →
  ∀ bundle, E.closureBundleFromSlice rawBytes = .ok bundle →
    ∃ hashes count, bundle.manifest.get "receipt_closure" = some (.ofStrings hashes) ∧
      hashes.Nodup ∧ bundle.manifest.get "dependency_count" = some (.ofU64 count) ∧
      count.toNat = hashes.length ∧
      hashes.length = (verifyClosureBundle E rawBytes).closureSize

/-- The manifest has a list of distinct strings as `receipt_closure`, and an unsigned integer as
`dependency_count`. -/
def ListsClosure (manifest : Json) : Prop :=
  ∃ hashes count, manifest.get "receipt_closure" = some (.ofStrings hashes) ∧
    hashes.Nodup ∧ manifest.get "dependency_count" = some (.ofU64 count)

variable {E}

theorem committedClosure_of_strings {manifest : Json} {hashes : List String}
    (h : manifest.get "receipt_closure" = some (.ofStrings hashes)) :
    committedClosure manifest = hashes.toFinset := by
  have hall : (hashes.map Json.string).filterMap Json.asStr = hashes := by
    rw [List.filterMap_map]
    exact List.filterMap_some
  simp [committedClosure, h, Json.ofStrings, Json.asArray, hall]

/-- Under the closure law, the count of a manifest that lists distinct strings is the number of
resolved dependencies. -/
theorem ClosureLaw.count_eq (ho : Opens E rawBytes bundle rootValue rootHash)
    (law : ClosureLaw E bundle rootValue rootHash) {hashes : List String} {count : UInt64}
    (hl : bundle.manifest.get "receipt_closure" = some (.ofStrings hashes)) (hn : hashes.Nodup)
    (hc : bundle.manifest.get "dependency_count" = some (.ofU64 count)) :
    count.toNat = hashes.length ∧
      hashes.length = (verifyClosureBundle E rawBytes).closureSize := by
  have hcount := law.manifest.count _ _ hc hl
  rw [List.length_map] at hcount
  refine ⟨hcount, ?_⟩
  rw [closureSize_eq_card ho, law.resolvedDependencies_eq, committedClosure_of_strings hl,
    List.toFinset_card_of_nodup hn]

/-- **The count agrees with the closure exactly when the manifest of a bundle under the closure law
lists distinct strings and carries a count.** -/
theorem countsAgree_iff :
    CountsAgree E rawBytes ↔
      ∀ bundle rootValue rootHash, Opens E rawBytes bundle rootValue rootHash →
        ¬ ClosureLaw E bundle rootValue rootHash ∨ ListsClosure bundle.manifest := by
  constructor
  · intro h bundle rootValue rootHash ho
    by_cases law : ClosureLaw E bundle rootValue rootHash
    · obtain ⟨hashes, count, hl, hn, hc, -⟩ := h (ho.valid_iff.2 law) bundle ho.parsed
      exact .inr ⟨hashes, count, hl, hn, hc⟩
    · exact .inl law
  · intro h hv bundle hb
    obtain ⟨bundle', rootValue, rootHash, ho⟩ := opens_of_valid hv
    obtain rfl := Except.ok.inj (hb.symm.trans ho.parsed)
    have law := ho.valid_iff.1 hv
    obtain ⟨hashes, count, hl, hn, hc⟩ :=
      (h bundle rootValue rootHash ho).resolve_left (not_not.2 law)
    obtain ⟨hcount, hsize⟩ := law.count_eq ho hl hn hc
    exact ⟨hashes, count, hl, hn, hc, hcount, hsize⟩

/-! ### Two manifests over no dependencies

A pack without a support set commits to a manifest that states the hash of another receipt as its
root, and another pack to one that lists a `null` and counts it. -/

/-- A pack without a support set. -/
def leafPack (manifestDigest eventHash : DigestBytes) : ReceiptEnvelope :=
  vectorEnvelope .governance 1002
    (.object [("closure_manifest_digest", manifestDigest.toValue),
      ("pack_id", .string "acme-deploy"), ("payload_kind", .string packPayloadKind)]) eventHash

/-- A bundle without supplied receipts. -/
def leafBundle (pack : ReceiptEnvelope) (manifest : Json) : ClosureBundle where
  format := closureBundleFormat
  rootCanonical := pack.toValue.text
  manifest := manifest
  receipts := []

/-- The manifest without its digest, which is over this value. -/
def otherRootBody : Json :=
  .object [("dependency_count", .ofU64 0), ("receipt_closure", .array []),
    ("root_event_hash", modelHash.toValue), ("schema", .string "vr.closure_manifest.v0")]

/-- The digest of the manifest that names another root. -/
def otherRootDigest : DigestBytes :=
  .ofNat 0x735107135fdc41dfafc7ac7b9f846a5a5e711ccbe57c3779c8046a4484fa3fed

/-- A manifest that lists no receipt and names the model as its root. -/
def otherRootManifest : Json :=
  .object [("dependency_count", .ofU64 0), ("manifest_digest", otherRootDigest.toValue),
    ("receipt_closure", .array []), ("root_event_hash", modelHash.toValue),
    ("schema", .string "vr.closure_manifest.v0")]

/-- A pack that commits to it. -/
def otherRootPack : ReceiptEnvelope :=
  leafPack otherRootDigest
    (.ofNat 0x294773012aafe5e9e7c5736ef36d5644d1a39c51a07bfb8b9405a857056a5358)

/-- The manifest without its digest, which is over this value. -/
def nullEntryBody : Json :=
  .object [("dependency_count", .ofU64 1), ("receipt_closure", .array [.null]),
    ("schema", .string "vr.closure_manifest.v0")]

/-- The digest of the manifest that lists a `null`. -/
def nullEntryDigest : DigestBytes :=
  .ofNat 0xbe0c6b078af7b6929b9940eb078824b1a15d172b7facf653d24823e49845011d

/-- A manifest that counts one receipt and lists a `null` for it. -/
def nullEntryManifest : Json :=
  .object [("dependency_count", .ofU64 1), ("manifest_digest", nullEntryDigest.toValue),
    ("receipt_closure", .array [.null]), ("schema", .string "vr.closure_manifest.v0")]

/-- A pack that commits to it. -/
def nullEntryPack : ReceiptEnvelope :=
  leafPack nullEntryDigest
    (.ofNat 0xdf5c6d42181ea17d67e500d9d92b2b60c059d0df290454ab5209594bf32a2f39)

/-- The pack whose manifest names another root. -/
def otherRootBundle : ClosureBundle := leafBundle otherRootPack otherRootManifest

/-- The pack whose manifest lists a `null`. -/
def nullEntryBundle : ClosureBundle := leafBundle nullEntryPack nullEntryManifest

/-- The third-party code on the two bundles. -/
def leafTables : Tables where
  envelopes := [(otherRootPack.toValue, otherRootPack), (nullEntryPack.toValue, nullEntryPack)]
  others := [otherRootBody, nullEntryBody]
  digests := [(otherRootPack.body, otherRootPack.eventHash), (otherRootBody, otherRootDigest),
    (nullEntryPack.body, nullEntryPack.eventHash), (nullEntryBody, nullEntryDigest)]
  closureBundles := [otherRootBundle, nullEntryBundle]
  texts_nodup := by decide +kernel

section Leaf

variable {manifestDigest eventHash : DigestBytes} {manifest : Json}

/-- Nothing depends on anything in a bundle of one pack without a support set. -/
theorem out_leafBundle {T : Tables} {pack : ReceiptEnvelope}
    (hroot : T.externals.fromStr pack.toValue.text = .ok pack.toValue)
    (hh : readEventHash pack.toValue = some rootHash)
    (hs : readSupportSet pack.toValue = none) :
    (bundleGraph T.externals (leafBundle pack manifest)).out rootHash = [] := by
  have hpack : ReceiptOf T.externals (leafBundle pack manifest) rootHash pack.toValue.text
      pack.toValue := ⟨by simp [leafBundle], hroot, hh⟩
  have hat := hpack.receiptAt_of_last [] [] rfl (by simp)
  simp only [depGraph, supportSet_bundleIndex, hat, Option.map_some, Option.getD_some,
    committedMembers, hs, List.filter_nil]

/-- A listed pack without a support set over a lawful manifest that lists no strings is under the
closure law. -/
theorem closureLaw_leafBundle {T : Tables}
    (hmem : ((leafPack manifestDigest eventHash).toValue, leafPack manifestDigest eventHash) ∈
      T.envelopes)
    (hadm : Tables.Admissible (leafPack manifestDigest eventHash).toValue)
    (hver : (leafPack manifestDigest eventHash).Verifies T.externals)
    (hman : ManifestLaw T.externals manifest (some manifestDigest.toHex))
    (hclosure : committedClosure manifest = ∅) :
    ClosureLaw T.externals (leafBundle (leafPack manifestDigest eventHash) manifest)
      (leafPack manifestDigest eventHash).toValue eventHash.toHex :=
  closureLaw_of_out_eq_nil (Tables.verifyReceipt_valid _ hmem hadm hver) rfl hman
    (fun _ hraw => absurd hraw List.not_mem_nil)
    (out_leafBundle (Tables.fromStr_text (Tables.mem_values hmem)) rfl rfl) hclosure

theorem opens_leafBundle
    (hb : leafBundle (leafPack manifestDigest eventHash) manifest ∈ leafTables.closureBundles)
    (hmem : ((leafPack manifestDigest eventHash).toValue, leafPack manifestDigest eventHash) ∈
      leafTables.envelopes) :
    Opens leafTables.externals
      (asBytes (leafBundle (leafPack manifestDigest eventHash) manifest).toValue.text)
      (leafBundle (leafPack manifestDigest eventHash) manifest)
      (leafPack manifestDigest eventHash).toValue eventHash.toHex where
  parsed := Tables.closureBundleFromSlice_text hb
  format := rfl
  root := Tables.fromStr_text (Tables.mem_values hmem)
  hash := rfl

end Leaf

theorem closureLaw_otherRootBundle :
    ClosureLaw leafTables.externals otherRootBundle otherRootPack.toValue
      otherRootPack.eventHash.toHex := by
  refine closureLaw_leafBundle (by simp [leafTables, otherRootPack])
    (Tables.admissible_of_checks (by decide +kernel))
    (Tables.verifies rfl rfl rfl (by simp [leafTables, otherRootPack])) ?_ rfl
  refine manifestLaw_of_digest otherRootBody (by simp [leafTables, Tables.values])
    (by decide +kernel) (by simp [leafTables]) rfl rfl fun c elems hc he => ?_
  cases hc
  cases he
  rfl

theorem opens_otherRootBundle :
    Opens leafTables.externals (asBytes otherRootBundle.toValue.text) otherRootBundle
      otherRootPack.toValue otherRootPack.eventHash.toHex :=
  opens_leafBundle (by simp [leafTables, otherRootBundle, otherRootPack])
    (by simp [leafTables, otherRootPack])

/-- The bundle is valid, although its manifest states the hash of another receipt as its root. -/
theorem not_rootBound_otherRootBundle :
    ¬ RootBound leafTables.externals (asBytes otherRootBundle.toValue.text) := by
  intro h
  have ho := opens_otherRootBundle
  have hrej := (h otherRootBundle modelHash.toValue ho.parsed rfl ?_).1
  · rw [ho.valid_iff.2 closureLaw_otherRootBundle] at hrej
    cases hrej
  · intro rootValue hr he
    obtain rfl := Except.ok.inj (ho.root.symm.trans hr)
    have hhash := Json.string.inj (Option.some.inj ((asStr_bind_eq_some.1 ho.hash).symm.trans he))
    exact absurd (DigestBytes.toHex_injective hhash) (by decide +kernel)

theorem closureLaw_nullEntryBundle :
    ClosureLaw leafTables.externals nullEntryBundle nullEntryPack.toValue
      nullEntryPack.eventHash.toHex := by
  refine closureLaw_leafBundle (by simp [leafTables, nullEntryPack])
    (Tables.admissible_of_checks (by decide +kernel))
    (Tables.verifies rfl rfl rfl (by simp [leafTables, nullEntryPack])) ?_ rfl
  refine manifestLaw_of_digest nullEntryBody (by simp [leafTables, Tables.values])
    (by decide +kernel) (by simp [leafTables]) rfl rfl fun c elems hc he => ?_
  cases hc
  cases he
  rfl

theorem opens_nullEntryBundle :
    Opens leafTables.externals (asBytes nullEntryBundle.toValue.text) nullEntryBundle
      nullEntryPack.toValue nullEntryPack.eventHash.toHex :=
  opens_leafBundle (by simp [leafTables, nullEntryBundle, nullEntryPack])
    (by simp [leafTables, nullEntryPack])

/-- The bundle is valid, although its manifest lists a `null` and counts it. -/
theorem not_countsAgree_nullEntryBundle :
    ¬ CountsAgree leafTables.externals (asBytes nullEntryBundle.toValue.text) := by
  intro h
  have ho := opens_nullEntryBundle
  obtain ⟨hashes, count, hl, -⟩ :=
    h (ho.valid_iff.2 closureLaw_nullEntryBundle) nullEntryBundle ho.parsed
  cases hashes with
  | nil => cases hl
  | cons hash hashes => cases hl

end VertRule
