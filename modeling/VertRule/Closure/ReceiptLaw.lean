import VertRule.Closure.Index
import VertRule.Tables

/-!
# The closure law on receipts

`ReceiptLaw` states the law of a closure bundle on its receipts, without the index: which
receipts there are, what they commit to and which of them depend on which.  When no two receipts
declare the same hash it is what `verify_closure_bundle` decides
(`verifyClosureBundle_valid_iff_receiptLaw`).
-/

namespace VertRule

variable (E : Externals)

/-- A receipt of the bundle that declares `hash` commits the support member `m`. -/
def Commits (bundle : ClosureBundle) (hash : String) (m : SupportMember) : Prop :=
  ∃ raw value s ms, ReceiptOf E bundle hash raw value ∧ readSupportSet value = some s ∧
    E.supportSetFromValue s = .ok ms ∧ m ∈ ms

/-- A receipt of the bundle has a typed edge from `hash` to `target`. -/
def DependsOn (bundle : ClosureBundle) (hash target : String) : Prop :=
  ∃ role targetSchema, Commits E bundle hash (.typedReceiptDependency target role targetSchema)

/-- `target` is reachable from `hash` by typed edges. -/
abbrev ReachableFrom (bundle : ClosureBundle) (hash target : String) : Prop :=
  Relation.ReflTransGen (DependsOn E bundle) hash target

/-- **The closure law on receipts.** -/
structure ReceiptLaw (bundle : ClosureBundle) (rootValue : Json) (rootHash : String) : Prop where
  /-- The root is valid. -/
  root : (verifyReceipt E (asBytes bundle.rootCanonical)).status = .valid
  /-- The root is a pack receipt. -/
  kind : readPayloadKind rootValue = some packPayloadKind
  /-- The manifest commits to itself, and the root to the manifest. -/
  manifest : ManifestLaw E bundle.manifest (readClosureManifestDigest rootValue)
  /-- Every supplied string is JSON. -/
  supplied : ∀ raw ∈ bundle.receipts, ∃ value, E.fromStr raw = .ok value
  /-- No reachable receipt has an untyped dependency. -/
  typed : ∀ hash, ReachableFrom E bundle rootHash hash →
    ∀ target, ¬ Commits E bundle hash (.dependedOnReceipt target)
  /-- Every typed edge of a reachable receipt targets a receipt that verifies, of the kind the
  edge commits to, which is a layered-family kind. -/
  resolved : ∀ hash, ReachableFrom E bundle rootHash hash → ∀ target role targetSchema,
    Commits E bundle hash (.typedReceiptDependency target role targetSchema) →
    ∃ raw value, ReceiptOf E bundle target raw value ∧
      (verifyReceipt E (asBytes raw)).status = .valid ∧
      readPayloadKind value = some targetSchema ∧ targetSchema ∈ layeredKinds
  /-- The graph of reachable receipts is acyclic. -/
  acyclic : ∀ hash, ReachableFrom E bundle rootHash hash →
    ¬ Relation.TransGen (DependsOn E bundle) hash hash
  /-- The reachable receipts other than the root are those the manifest lists. -/
  complete : ∀ hash, hash ∈ committedClosure bundle.manifest ↔
    hash ≠ rootHash ∧ ReachableFrom E bundle rootHash hash

variable {E} {bundle : ClosureBundle} {hash target : String}

theorem mem_committedMembers {value : Json} {m : SupportMember} :
    m ∈ committedMembers E value ↔
      ∃ s ms, readSupportSet value = some s ∧ E.supportSetFromValue s = .ok ms ∧ m ∈ ms := by
  unfold committedMembers
  cases readSupportSet value with
  | none => simp
  | some s => cases hs : E.supportSetFromValue s <;> simp [hs, Except.toOption]

/-- The edges of the index graph are the dependencies committed to. -/
theorem mem_out_bundleGraph (hd : DistinctHashes E bundle) {m : SupportMember} :
    m ∈ (bundleGraph E bundle).out hash ↔ m.isDependency = true ∧ Commits E bundle hash m := by
  simp only [depGraph, List.mem_filter, supportSet_bundleIndex, and_comm (a := m ∈ _)]
  refine and_congr_right fun _ => ?_
  constructor
  · intro h
    cases hr : receiptAt E bundle hash with
    | none => simp [hr] at h
    | some r =>
      simp only [hr, Option.map_some, Option.getD_some] at h
      obtain ⟨s, ms, hs, hms, hm⟩ := mem_committedMembers.1 h
      exact ⟨r.2, r.1, s, ms, receiptOf_of_receiptAt hr, hs, hms, hm⟩
  · rintro ⟨raw, value, s, ms, hrec, hs, hms, hm⟩
    obtain ⟨r, hr⟩ := Option.isSome_iff_exists.1 hrec.isSome
    have hv : r.1 = value := (hd.eq (receiptOf_of_receiptAt hr) hrec).2
    simp only [hr, Option.map_some, Option.getD_some, hv]
    exact mem_committedMembers.2 ⟨s, ms, hs, hms, hm⟩

theorem adj_bundleGraph (hd : DistinctHashes E bundle) :
    (bundleGraph E bundle).Adj = DependsOn E bundle := by
  funext hash target
  refine propext ⟨?_, ?_⟩
  · rintro ⟨m, hm, ht⟩
    have hc := ((mem_out_bundleGraph hd).1 hm).2
    cases m with
    | typedReceiptDependency eventHash role targetSchema =>
      obtain rfl : eventHash = target := Option.some.inj ht
      exact ⟨role, targetSchema, hc⟩
    | _ => cases ht
  · rintro ⟨role, targetSchema, hc⟩
    exact ⟨_, (mem_out_bundleGraph hd).2 ⟨rfl, hc⟩, rfl⟩

/-- A typed edge is resolved when its target is a valid receipt of the right, layered-family
kind. -/
theorem edgeCheck_typed_resolved (hd : DistinctHashes E bundle) {role : DependencyRole}
    {targetSchema : String} :
    (edgeCheck (bundleIndex E bundle)
      (.typedReceiptDependency target role targetSchema)).status = .resolved ↔
      ∃ raw value, ReceiptOf E bundle target raw value ∧
        (verifyReceipt E (asBytes raw)).status = .valid ∧
        readPayloadKind value = some targetSchema ∧ targetSchema ∈ layeredKinds := by
  change (classifyEdge target ((bundleIndex E bundle).lookup target) targetSchema).1 = _ ↔ _
  rw [classifyEdge_resolved, lookup_bundleIndex]
  have hkind : ∀ {k : Option String}, k.getD "" = targetSchema → k.getD "" ∈ layeredKinds →
      k = some targetSchema := by
    rintro (_ | k) h hl
    · simp [layeredKinds, providerPayloadKind, modelPayloadKind, packPayloadKind] at hl
    · exact congrArg some h
  constructor
  · rintro ⟨n, hn, hres⟩
    obtain ⟨r, hr, rfl⟩ := Option.map_eq_some_iff.1 hn
    exact ⟨r.2, r.1, receiptOf_of_receiptAt hr, hres.verifies, hkind hres.kind hres.layered,
      hres.kind ▸ hres.layered⟩
  · rintro ⟨raw, value, hrec, hvalid, hk, hl⟩
    obtain ⟨r, hr⟩ := Option.isSome_iff_exists.1 hrec.isSome
    obtain ⟨hraw, hv⟩ := hd.eq (receiptOf_of_receiptAt hr) hrec
    refine ⟨_, Option.map_eq_some_iff.2 ⟨r, hr, rfl⟩, ?_, ?_, ?_⟩
    · simpa [Node.ofReceipt, hraw] using hvalid
    · simp [Node.ofReceipt, hv, hk]
    · simpa [Node.ofReceipt, hv, hk] using hl

/-- The edges of a hash are all resolved when it commits no untyped dependency and its typed
edges resolve. -/
theorem edges_resolved_iff (hd : DistinctHashes E bundle) :
    (∀ m ∈ (bundleGraph E bundle).out hash,
        (edgeCheck (bundleIndex E bundle) m).status = .resolved) ↔
      (∀ target, ¬ Commits E bundle hash (.dependedOnReceipt target)) ∧
      ∀ target role targetSchema,
        Commits E bundle hash (.typedReceiptDependency target role targetSchema) →
        ∃ raw value, ReceiptOf E bundle target raw value ∧
          (verifyReceipt E (asBytes raw)).status = .valid ∧
          readPayloadKind value = some targetSchema ∧ targetSchema ∈ layeredKinds := by
  constructor
  · intro h
    refine ⟨fun target hc => ?_, fun target role targetSchema hc => ?_⟩
    · have := h _ ((mem_out_bundleGraph hd).2 ⟨rfl, hc⟩)
      simp [edgeCheck, EdgeCheck.untyped] at this
    · exact (edgeCheck_typed_resolved hd).1 (h _ ((mem_out_bundleGraph hd).2 ⟨rfl, hc⟩))
  · rintro ⟨huntyped, htyped⟩ m hm
    obtain ⟨hdep, hc⟩ := (mem_out_bundleGraph hd).1 hm
    cases m with
    | typedReceiptDependency target role targetSchema =>
      exact (edgeCheck_typed_resolved hd).2 (htyped target role targetSchema hc)
    | dependedOnReceipt target => exact absurd hc (huntyped target)
    | _ => cases hdep

/-- **With distinct hashes, the law on the index is the law on receipts.** -/
theorem closureLaw_iff_receiptLaw (hd : DistinctHashes E bundle) {rootValue : Json}
    {rootHash : String} :
    ClosureLaw E bundle rootValue rootHash ↔ ReceiptLaw E bundle rootValue rootHash := by
  have hadj := adj_bundleGraph hd
  have hsupplied : ∀ raw, (E.fromStr raw).isOk = true ↔ ∃ value, E.fromStr raw = .ok value :=
    fun raw => Except.isOk_iff
  constructor
  · intro law
    have hfollow : ∀ x, (bundleGraph E bundle).Reach rootHash x →
        ∀ e ∈ (bundleGraph E bundle).out x, (bundleGraph E bundle).follow e = true :=
      fun x hx e he => decide_eq_true (law.edges x hx e he)
    have hreach : ∀ x, (bundleGraph E bundle).Reach rootHash x ↔
        ReachableFrom E bundle rootHash x := by
      intro x
      rw [Dfs.Graph.reach_iff_of_followed hfollow, hadj]
    exact {
      root := law.root
      kind := law.kind
      manifest := law.manifest
      supplied := fun raw hraw => (hsupplied raw).1 (law.supplied raw hraw)
      typed := fun x hx => ((edges_resolved_iff hd).1 (law.edges x ((hreach x).2 hx))).1
      resolved := fun x hx => ((edges_resolved_iff hd).1 (law.edges x ((hreach x).2 hx))).2
      acyclic := fun x hx => by
        rw [← hadj, ← Dfs.Graph.transGen_iff_of_followed hfollow ((hreach x).2 hx)]
        exact law.acyclic x ((hreach x).2 hx)
      complete := fun x => by rw [law.complete, hreach] }
  · intro law
    have hsub : ∀ {x}, (bundleGraph E bundle).Reach rootHash x →
        ReachableFrom E bundle rootHash x := fun h => by
      rw [ReachableFrom, ← hadj]
      exact h.lift id fun _ _ => Dfs.Graph.Step.adj
    have hedges : ∀ x, (bundleGraph E bundle).Reach rootHash x →
        ∀ e ∈ (bundleGraph E bundle).out x,
          (edgeCheck (bundleIndex E bundle) e).status = .resolved :=
      fun x hx => (edges_resolved_iff hd).2 ⟨law.typed x (hsub hx), law.resolved x (hsub hx)⟩
    have hfollow : ∀ x, (bundleGraph E bundle).Reach rootHash x →
        ∀ e ∈ (bundleGraph E bundle).out x, (bundleGraph E bundle).follow e = true :=
      fun x hx e he => decide_eq_true (hedges x hx e he)
    exact {
      root := law.root
      kind := law.kind
      manifest := law.manifest
      supplied := fun raw hraw => (hsupplied raw).2 (law.supplied raw hraw)
      edges := hedges
      acyclic := fun x hx => by
        rw [Dfs.Graph.transGen_iff_of_followed hfollow hx, hadj]
        exact law.acyclic x (hsub hx)
      complete := fun x => by
        rw [law.complete, Dfs.Graph.reach_iff_of_followed hfollow, hadj] }

/-- **A closure bundle whose receipts declare distinct hashes is valid exactly when the closure
law holds of its receipts.** -/
theorem verifyClosureBundle_valid_iff_receiptLaw {rawBytes : Bytes}
    (hb : E.closureBundleFromSlice rawBytes = .ok bundle)
    (hf : bundle.format = closureBundleFormat) (hd : DistinctHashes E bundle) :
    (verifyClosureBundle E rawBytes).status = .valid ↔
      ∃ rootValue rootHash, E.fromStr bundle.rootCanonical = .ok rootValue ∧
        readEventHash rootValue = some rootHash ∧ ReceiptLaw E bundle rootValue rootHash := by
  rw [verifyClosureBundle_valid_iff]
  constructor
  · rintro ⟨bundle', rootValue, rootHash, ho, law⟩
    obtain rfl : bundle = bundle' := Except.ok.inj (hb.symm.trans ho.parsed)
    exact ⟨rootValue, rootHash, ho.root, ho.hash, (closureLaw_iff_receiptLaw hd).1 law⟩
  · rintro ⟨rootValue, rootHash, hroot, hh, law⟩
    exact ⟨bundle, rootValue, rootHash, ⟨hb, hf, hroot, hh⟩,
      (closureLaw_iff_receiptLaw hd).2 law⟩

/-- The manifest law, from a listed digest of the manifest's body. -/
theorem manifestLaw_of_digest {T : Tables} {fields : List (String × Json)} (body : Json)
    {digest : DigestBytes} (hv : body ∈ T.values) (hr : body.inRange = true)
    (hd : (body, digest) ∈ T.digests)
    (hb : Json.object (Json.removeKey fields "manifest_digest") = body)
    (hs : fields.lookup "manifest_digest" = some digest.toValue)
    (hcount : ∀ c elems, fields.lookup "dependency_count" = some (.ofU64 c) →
      fields.lookup "receipt_closure" = some (.array elems) → c.toNat = elems.length) :
    ManifestLaw T.externals (.object fields) (some digest.toHex) where
  digest := by
    have hdigest : T.externals.blake3 (asBytes body.text) = digest := Tables.blake3_text hd
    refine ⟨fields, asBytes body.text, rfl, ?_, ?_, ?_⟩
    · rw [hb]
      exact Tables.typedCanonBytes_text hv hr
    · rw [hdigest]
      exact hs
    · rw [hdigest]
  count := hcount

/-! ### The closure bundle of the test vectors

A pack that depends on a model, and the model on a provider, with two more bundles over the same
receipts: they also supply a string that merely claims the hash of the model. -/

/-- The `event_hash` of the model. -/
def modelHash : DigestBytes :=
  .ofNat 0x2165579a3ddf6922b3b3f942dbb9b4f2affa9674bab255de6c0e6fdf30c1b9a4

/-- The `event_hash` of the provider. -/
def providerHash : DigestBytes :=
  .ofNat 0x71d72796988bf1913d79b93832db2a628b12557c41af1a17772f8820d36dba18

/-- The `event_hash` of the pack. -/
def packHash : DigestBytes :=
  .ofNat 0x6af6186ccbda88e192c5c53d3bd976bf6beb20bbbf9a4093225bb1144d4c926f

/-- The evidence that the provider rests on. -/
def evidence : SupportMember :=
  .evidenceDigest "soc2" (DigestBytes.ofNat (2 ^ 256 - 1)).toHex

/-- The evidence, serialized. -/
def evidenceValue : Json :=
  .object [("digest", (DigestBytes.ofNat (2 ^ 256 - 1)).toValue), ("id", .string "soc2"),
    ("member_kind", .string "evidence_digest")]

/-- The edge from the pack to the model. -/
def modelEdge : SupportMember :=
  .typedReceiptDependency modelHash.toHex ⟨.ok (.string "host")⟩ modelPayloadKind

/-- The edge from the model to the provider. -/
def providerEdge : SupportMember :=
  .typedReceiptDependency providerHash.toHex ⟨.ok (.string "maker")⟩ providerPayloadKind

/-- A serialized typed edge. -/
def typedEdgeValue (eventHash : DigestBytes) (role targetSchema : String) : Json :=
  .object [("event_hash", eventHash.toValue),
    ("member_kind", .string "typed_receipt_dependency"), ("relation", .string "depends_on"),
    ("role", .string role), ("target_schema", .string targetSchema)]

/-- The edge to the model, serialized. -/
def modelEdgeValue : Json := typedEdgeValue modelHash "host" modelPayloadKind

/-- The edge to the provider, serialized. -/
def providerEdgeValue : Json := typedEdgeValue providerHash "maker" providerPayloadKind

/-- The manifest without its digest, which is over this value. -/
def vectorManifestBody : Json :=
  .object [("dependency_count", .ofU64 2),
    ("receipt_closure", .array [modelHash.toValue, providerHash.toValue]),
    ("schema", .string "vr.closure_manifest.v0")]

/-- The digest of the manifest of the test vectors. -/
def vectorManifestDigest : DigestBytes :=
  .ofNat 0x5c993f7ec64dc23d107b98d2e502f7183e32a078584fd3ae71522533bbaff2e7

/-- The manifest that lists the model and the provider. -/
def vectorManifest : Json :=
  .object [("dependency_count", .ofU64 2), ("manifest_digest", vectorManifestDigest.toValue),
    ("receipt_closure", .array [modelHash.toValue, providerHash.toValue]),
    ("schema", .string "vr.closure_manifest.v0")]

/-- A provider, which depends on no receipt. -/
def providerReceipt : ReceiptEnvelope :=
  vectorEnvelope .event 1000 (.object [("payload_kind", .string providerPayloadKind),
    ("provider_id", .string "anthropic"), ("support_set", .array [evidenceValue])]) providerHash

/-- A model of the provider. -/
def modelReceipt : ReceiptEnvelope :=
  vectorEnvelope .event 1001 (.object [("model_id", .string "claude-opus-4-8"),
    ("payload_kind", .string modelPayloadKind), ("support_set", .array [providerEdgeValue])])
    modelHash

/-- A pack of the model, which commits to the manifest. -/
def packReceipt : ReceiptEnvelope :=
  vectorEnvelope .event 1002 (.object [("closure_manifest_digest", vectorManifestDigest.toValue),
    ("pack_id", .string "acme-deploy"), ("payload_kind", .string packPayloadKind),
    ("support_set", .array [modelEdgeValue])]) packHash

/-- Nothing but the `event_hash` of the model. -/
def modelClaim : Json := .object [("event_hash", modelHash.toValue)]

/-- The bundle of the test vectors. -/
def vectorBundle : ClosureBundle where
  format := closureBundleFormat
  rootCanonical := packReceipt.toValue.text
  manifest := vectorManifest
  receipts := [modelReceipt.toValue.text, providerReceipt.toValue.text]

theorem vectorBundle_rootCanonical :
    vectorBundle.rootCanonical = packReceipt.toValue.text := rfl

theorem vectorBundle_receipts :
    vectorBundle.receipts = [modelReceipt.toValue.text, providerReceipt.toValue.text] := rfl

/-- The bundle with the claim before the receipts. -/
def contestedBundle : ClosureBundle :=
  { vectorBundle with
    receipts := [modelClaim.text, modelReceipt.toValue.text, providerReceipt.toValue.text] }

/-- The bundle with the claim after the receipts, which come in the other order. -/
def reorderedBundle : ClosureBundle :=
  { vectorBundle with
    receipts := [providerReceipt.toValue.text, modelReceipt.toValue.text, modelClaim.text] }

/-- The third-party code on the three bundles. -/
def vectorTables : Tables where
  envelopes := [(packReceipt.toValue, packReceipt), (modelReceipt.toValue, modelReceipt),
    (providerReceipt.toValue, providerReceipt)]
  others := [modelClaim, vectorManifestBody]
  digests := [(packReceipt.body, packHash), (modelReceipt.body, modelHash),
    (providerReceipt.body, providerHash), (vectorManifestBody, vectorManifestDigest)]
  supportSets := [(.array [modelEdgeValue], [modelEdge]),
    (.array [providerEdgeValue], [providerEdge]), (.array [evidenceValue], [evidence])]
  closureBundles := [vectorBundle, contestedBundle, reorderedBundle]
  texts_nodup := by decide +kernel
  closureBundles_nodup := by
    simp only [List.map_cons, List.map_nil, vectorBundle, contestedBundle, reorderedBundle,
      ClosureBundle.toValue, Json.chars, Json.fieldChars, Json.ofStrings, Json.elemChars,
      Json.stringText_text]
    decide +kernel

/-- The receipts of the vector, by the hashes they declare. -/
theorem receiptOf_vectorBundle {raw : String} {value : Json}
    (h : ReceiptOf vectorTables.externals vectorBundle hash raw value) :
    (hash = packHash.toHex ∧ value = packReceipt.toValue) ∨
      (hash = modelHash.toHex ∧ value = modelReceipt.toValue) ∨
      (hash = providerHash.toHex ∧ value = providerReceipt.toValue) := by
  have hval : ∀ {v : Json} {hash' : String}, v ∈ vectorTables.values → raw = v.text →
      readEventHash v = some hash' → hash = hash' ∧ value = v := by
    rintro v hash' hv rfl hh
    obtain rfl := Except.ok.inj ((Tables.fromStr_text hv).symm.trans h.json)
    exact ⟨Option.some.inj (h.hash.symm.trans hh), rfl⟩
  have hmem := h.mem
  simp only [vectorBundle, List.mem_cons, List.not_mem_nil, or_false] at hmem
  rcases hmem with hraw | hraw | hraw
  · exact .inl (hval (by simp [vectorTables, Tables.values]) hraw rfl)
  · exact .inr (.inl (hval (by simp [vectorTables, Tables.values]) hraw rfl))
  · exact .inr (.inr (hval (by simp [vectorTables, Tables.values]) hraw rfl))

theorem receiptOf_model : ReceiptOf vectorTables.externals vectorBundle modelHash.toHex
    modelReceipt.toValue.text modelReceipt.toValue :=
  ⟨by simp [vectorBundle], Tables.fromStr_text (by simp [vectorTables, Tables.values]), rfl⟩

theorem receiptOf_pack : ReceiptOf vectorTables.externals vectorBundle packHash.toHex
    packReceipt.toValue.text packReceipt.toValue :=
  ⟨by simp [vectorBundle], Tables.fromStr_text (by simp [vectorTables, Tables.values]), rfl⟩

theorem receiptOf_provider : ReceiptOf vectorTables.externals vectorBundle providerHash.toHex
    providerReceipt.toValue.text providerReceipt.toValue :=
  ⟨by simp [vectorBundle], Tables.fromStr_text (by simp [vectorTables, Tables.values]), rfl⟩

theorem commits_vectorBundle {m : SupportMember} :
    Commits vectorTables.externals vectorBundle hash m ↔
      (hash = packHash.toHex ∧ m = modelEdge) ∨ (hash = modelHash.toHex ∧ m = providerEdge) ∨
        (hash = providerHash.toHex ∧ m = evidence) := by
  have hpack : vectorTables.externals.supportSetFromValue (.array [modelEdgeValue]) =
      .ok [modelEdge] := Tables.supportSetFromValue (by simp [vectorTables])
  have hmodel : vectorTables.externals.supportSetFromValue (.array [providerEdgeValue]) =
      .ok [providerEdge] := Tables.supportSetFromValue (by simp [vectorTables])
  have hprovider : vectorTables.externals.supportSetFromValue (.array [evidenceValue]) =
      .ok [evidence] := Tables.supportSetFromValue (by simp [vectorTables])
  constructor
  · rintro ⟨raw, value, s, ms, hr, hs, hms, hm⟩
    rcases receiptOf_vectorBundle hr with ⟨rfl, rfl⟩ | ⟨rfl, rfl⟩ | ⟨rfl, rfl⟩
    · obtain rfl : s = .array [modelEdgeValue] := (Option.some.inj hs).symm
      obtain rfl := Except.ok.inj (hpack.symm.trans hms)
      exact .inl ⟨rfl, List.mem_singleton.1 hm⟩
    · obtain rfl : s = .array [providerEdgeValue] := (Option.some.inj hs).symm
      obtain rfl := Except.ok.inj (hmodel.symm.trans hms)
      exact .inr (.inl ⟨rfl, List.mem_singleton.1 hm⟩)
    · obtain rfl : s = .array [evidenceValue] := (Option.some.inj hs).symm
      obtain rfl := Except.ok.inj (hprovider.symm.trans hms)
      exact .inr (.inr ⟨rfl, List.mem_singleton.1 hm⟩)
  · rintro (⟨rfl, rfl⟩ | ⟨rfl, rfl⟩ | ⟨rfl, rfl⟩)
    · exact ⟨_, _, _, _, receiptOf_pack, rfl, hpack, List.mem_singleton_self _⟩
    · exact ⟨_, _, _, _, receiptOf_model, rfl, hmodel, List.mem_singleton_self _⟩
    · exact ⟨_, _, _, _, receiptOf_provider, rfl, hprovider, List.mem_singleton_self _⟩

theorem dependsOn_vectorBundle :
    DependsOn vectorTables.externals vectorBundle hash target ↔
      (hash = packHash.toHex ∧ target = modelHash.toHex) ∨
        (hash = modelHash.toHex ∧ target = providerHash.toHex) := by
  simp only [DependsOn, commits_vectorBundle, modelEdge, providerEdge, evidence,
    SupportMember.typedReceiptDependency.injEq, reduceCtorEq, and_false, or_false]
  constructor
  · rintro ⟨role, targetSchema, ⟨rfl, rfl, -⟩ | ⟨rfl, rfl, -⟩⟩
    · exact .inl ⟨rfl, rfl⟩
    · exact .inr ⟨rfl, rfl⟩
  · rintro (⟨rfl, rfl⟩ | ⟨rfl, rfl⟩)
    · exact ⟨_, _, .inl ⟨rfl, rfl, rfl, rfl⟩⟩
    · exact ⟨_, _, .inr ⟨rfl, rfl, rfl, rfl⟩⟩

theorem reachableFrom_vectorBundle :
    ReachableFrom vectorTables.externals vectorBundle packHash.toHex hash ↔
      hash = packHash.toHex ∨ hash = modelHash.toHex ∨ hash = providerHash.toHex := by
  constructor
  · intro h
    induction h with
    | refl => exact .inl rfl
    | tail _ hstep _ =>
      rcases dependsOn_vectorBundle.1 hstep with ⟨-, rfl⟩ | ⟨-, rfl⟩
      · exact .inr (.inl rfl)
      · exact .inr (.inr rfl)
  · have hmodel : ReachableFrom vectorTables.externals vectorBundle packHash.toHex
        modelHash.toHex := .single (dependsOn_vectorBundle.2 (.inl ⟨rfl, rfl⟩))
    rintro (rfl | rfl | rfl)
    · exact .refl
    · exact hmodel
    · exact hmodel.tail (dependsOn_vectorBundle.2 (.inr ⟨rfl, rfl⟩))

theorem vectorHashes_nodup :
    [packHash.toHex, modelHash.toHex, providerHash.toHex].Nodup := by decide +kernel

/-- Along the edges of the vector, the pack comes before the model and the model before the
provider. -/
theorem not_transGen_vectorBundle :
    ¬ Relation.TransGen (DependsOn vectorTables.externals vectorBundle) hash hash := by
  have hn := vectorHashes_nodup
  simp only [List.nodup_cons, List.mem_cons, List.not_mem_nil, or_false, not_or] at hn
  obtain ⟨⟨hpm, hpp⟩, hmp, -⟩ := hn
  have hlast : ∀ {x y}, Relation.TransGen (DependsOn vectorTables.externals vectorBundle) x y →
      (x = packHash.toHex ∨ x = modelHash.toHex) ∧ y ≠ packHash.toHex ∧
        (x = modelHash.toHex → y = providerHash.toHex) := by
    intro x y h
    induction h with
    | single hstep =>
      rcases dependsOn_vectorBundle.1 hstep with ⟨rfl, rfl⟩ | ⟨rfl, rfl⟩
      · exact ⟨.inl rfl, Ne.symm hpm, fun h => absurd h hpm⟩
      · exact ⟨.inr rfl, Ne.symm hpp, fun _ => rfl⟩
    | tail _ hstep ih =>
      rcases dependsOn_vectorBundle.1 hstep with ⟨rfl, rfl⟩ | ⟨rfl, rfl⟩
      · exact absurd rfl ih.2.1
      · exact ⟨ih.1, Ne.symm hpp, fun _ => rfl⟩
  intro h
  obtain ⟨rfl | rfl, hne, hmodel⟩ := hlast h
  · exact hne rfl
  · exact hmp (hmodel rfl)

theorem admissible_modelReceipt : Tables.Admissible modelReceipt.toValue :=
  Tables.admissible_of_checks (by decide +kernel)

theorem admissible_providerReceipt : Tables.Admissible providerReceipt.toValue :=
  Tables.admissible_of_checks (by decide +kernel)

theorem receiptLaw_vectorBundle :
    ReceiptLaw vectorTables.externals vectorBundle packReceipt.toValue packHash.toHex where
  root := by
    rw [vectorBundle_rootCanonical]
    exact Tables.verifyReceipt_valid packReceipt (by simp [vectorTables])
      (Tables.admissible_of_checks (by decide +kernel))
      (Tables.verifies rfl rfl rfl (by simp [vectorTables, packReceipt, vectorEnvelope]))
  kind := rfl
  manifest := manifestLaw_of_digest vectorManifestBody
    (by simp [vectorTables, Tables.values]) (by decide +kernel) (by simp [vectorTables]) rfl rfl
    fun c elems hc he => by
      cases hc
      cases he
      rfl
  supplied raw hraw := by
    simp only [vectorBundle, List.mem_cons, List.not_mem_nil, or_false] at hraw
    rcases hraw with rfl | rfl
    · exact ⟨_, receiptOf_model.json⟩
    · exact ⟨_, receiptOf_provider.json⟩
  typed hash _ target hc := by
    simp [commits_vectorBundle, modelEdge, providerEdge, evidence] at hc
  resolved hash _ target role targetSchema hc := by
    simp only [commits_vectorBundle, modelEdge, providerEdge, evidence,
      SupportMember.typedReceiptDependency.injEq, reduceCtorEq, and_false, or_false] at hc
    rcases hc with ⟨-, rfl, -, rfl⟩ | ⟨-, rfl, -, rfl⟩
    · exact ⟨_, _, receiptOf_model, Tables.verifyReceipt_valid modelReceipt
        (by simp [vectorTables]) admissible_modelReceipt
        (Tables.verifies rfl rfl rfl (by simp [vectorTables, modelReceipt, vectorEnvelope])),
        rfl, by simp [layeredKinds]⟩
    · exact ⟨_, _, receiptOf_provider, Tables.verifyReceipt_valid providerReceipt
        (by simp [vectorTables]) admissible_providerReceipt
        (Tables.verifies rfl rfl rfl (by simp [vectorTables, providerReceipt, vectorEnvelope])),
        rfl, by simp [layeredKinds]⟩
  acyclic _ _ := not_transGen_vectorBundle
  complete hash := by
    have hn := vectorHashes_nodup
    simp only [List.nodup_cons, List.mem_cons, List.not_mem_nil, or_false, not_or] at hn
    have hclosure : committedClosure vectorBundle.manifest =
        {modelHash.toHex, providerHash.toHex} := rfl
    rw [hclosure, reachableFrom_vectorBundle]
    simp only [Finset.mem_insert, Finset.mem_singleton]
    constructor
    · rintro (rfl | rfl)
      · exact ⟨Ne.symm hn.1.1, .inr (.inl rfl)⟩
      · exact ⟨Ne.symm hn.1.2, .inr (.inr rfl)⟩
    · exact fun h => h.2.resolve_left h.1

theorem distinctHashes_vectorBundle : DistinctHashes vectorTables.externals vectorBundle := by
  rw [DistinctHashes, vectorBundle_rootCanonical, vectorBundle_receipts,
    List.filterMap_cons_some receiptOf_pack.declaredHash,
    List.filterMap_cons_some receiptOf_model.declaredHash,
    List.filterMap_cons_some receiptOf_provider.declaredHash, List.filterMap_nil]
  exact vectorHashes_nodup

/-- The closure bundle of the test vectors is valid, by its law. -/
theorem verifyClosureBundle_vectorBundle :
    (verifyClosureBundle vectorTables.externals (asBytes vectorBundle.toValue.text)).status =
      .valid :=
  (verifyClosureBundle_valid_iff_receiptLaw
    (Tables.closureBundleFromSlice_text (by simp [vectorTables])) rfl
    distinctHashes_vectorBundle).2
    ⟨_, _, vectorBundle_rootCanonical ▸ receiptOf_pack.json, rfl, receiptLaw_vectorBundle⟩

end VertRule
