import VertRule.Closure.Frame
import VertRule.LayeredLaw

/-!
# Layered packs and closure bundles

A layered pack is one level of a closure.  What a valid closure bundle says of a provider or a model
it reaches, a layered pack cut out of it there says too (`closure_cut`).  The two read their strings
from opposite ends: the first string that declares a hash decides an edge of a pack, so a valid pack
stays as it is when strings are appended (`verifyLayeredPack_append`), where a closure bundle does
when they come first.
-/

namespace VertRule

variable {E : Externals} {pack : LayeredPack} {rootKind : String} {supportSet : List SupportMember}
  {rawBytes rawBytes' : Bytes}

/-! ### Appended strings -/

/-- The report depends on the supplied strings through what the edges of the root lead to. -/
theorem checkLayeredPack_congr {receipts' : List String}
    (ha : extractLayeredPayload E pack.rootCanonical = .ok (rootKind, supportSet))
    (hfirst : ∀ eventHash role targetSchema,
      SupportMember.typedReceiptDependency eventHash role targetSchema ∈ supportSet →
      firstDeclaring E pack.receipts eventHash = firstDeclaring E receipts' eventHash) :
    checkLayeredPack E pack = checkLayeredPack E { pack with receipts := receipts' } := by
  have hedges : supportSet.filterMap (walkEdge (pack.receipts.filterMap (indexSupplied E))) =
      supportSet.filterMap (walkEdge (receipts'.filterMap (indexSupplied E))) := by
    refine List.filterMap_congr fun m hm => ?_
    cases m with
    | typedReceiptDependency eventHash role targetSchema =>
      simp only [walkEdge, find?_indexSupplied, hfirst eventHash role targetSchema hm]
    | _ => rfl
  simp only [checkLayeredPack, ha, hedges]

/-- **A valid layered pack is reported as it is when strings are appended to those supplied**,
whatever they are. -/
theorem verifyLayeredPack_append {more : List String}
    (hp : E.layeredPackFromSlice rawBytes = .ok pack)
    (hp' : E.layeredPackFromSlice rawBytes' = .ok { pack with receipts := pack.receipts ++ more })
    (hvalid : (verifyLayeredPack E rawBytes).status = .valid) :
    verifyLayeredPack E rawBytes' = verifyLayeredPack E rawBytes := by
  obtain ⟨pack', rootKind, supportSet, ho, law⟩ := verifyLayeredPack_valid_iff_law.1 hvalid
  obtain rfl : pack = pack' := Except.ok.inj (hp.symm.trans ho.parsed)
  rw [verifyLayeredPack_of_format hp ho.format, verifyLayeredPack_of_format hp' ho.format]
  refine (checkLayeredPack_congr ho.admitted fun eventHash role targetSchema hm => ?_).symm
  obtain ⟨s, hs, -⟩ := law.edges eventHash role targetSchema hm
  rw [firstDeclaring] at hs ⊢
  rw [firstDeclaring, List.findSome?_append, hs, Option.some_or]

/-! ### A pack cut out of a closure -/

variable {bundle : ClosureBundle} {rootValue value : Json} {rootHash hash raw : String}

/-- A layered pack at a receipt of a bundle: its strings are of the bundle, and those that the edges
of the receipt lead to are among them. -/
structure CutAt (E : Externals) (bundle : ClosureBundle) (hash raw : String) (pack : LayeredPack) :
    Prop where
  format : pack.format = layeredPackFormat
  root : pack.rootCanonical = raw
  subset : ∀ s ∈ pack.receipts, s ∈ bundle.rootCanonical :: bundle.receipts
  targets : ∀ target raw' value', DependsOn E bundle hash target →
    ReceiptOf E bundle target raw' value' → raw' ∈ pack.receipts

/-- The lineage of an envelope value deserializes. -/
def WellFormedLineage (E : Externals) (value : Json) : Prop :=
  ∀ s, readSupportSet value = some s → ∃ members, E.supportSetFromValue s = .ok members

theorem readSupportSet_of_payload {value payload : Json} (h : value.get "payload" = some payload) :
    readSupportSet value = payload.get "support_set" := by
  rw [readSupportSet, h]
  rfl

/-- What is extracted of a provider or a model whose lineage deserializes. -/
theorem extractLayeredPayload_of_lineage {kind : String} (hj : E.fromStr raw = .ok value)
    (hk : readPayloadKind value = some kind) (hl : kind ∈ LayeredPack.layeredKinds)
    (hlineage : WellFormedLineage E value) :
    extractLayeredPayload E raw = .ok (kind, committedMembers E value) := by
  obtain ⟨v, hv, hkind⟩ := Option.bind_eq_some_iff.1 hk
  obtain ⟨payload, hp, hv⟩ := Option.bind_eq_some_iff.1 hv
  have hkind : (payload.get "payload_kind").bind Json.asStr = some kind := by rw [hv]; exact hkind
  have hread := readSupportSet_of_payload hp
  cases hs : payload.get "support_set" with
  | none => simp [extractLayeredPayload, hj, hp, hkind, hl, hs, committedMembers, hread]
  | some s =>
    obtain ⟨members, hm⟩ := hlineage s (hread.trans hs)
    rw [extractLayeredPayload_of_json hj hp hkind hl hs hm]
    simp [committedMembers, hread, hs, hm, Except.toOption]

/-- A string that is indexed under a hash is JSON and declares it. -/
theorem exists_json_of_declaring {eventHash : String} {s : SuppliedReceipt}
    (h : declaring E eventHash raw = some s) :
    ∃ value, E.fromStr raw = .ok value ∧ readEventHash value = some eventHash := by
  obtain ⟨hindexed, hhash⟩ := Option.filter_eq_some_iff.1 h
  cases hj : E.fromStr raw with
  | error e => simp [indexSupplied, hj, Except.toOption] at hindexed
  | ok value =>
    simp only [indexSupplied, hj, Except.toOption, Option.bind_eq_bind, Option.bind_some,
      Option.bind_eq_some_iff, Option.pure_def, Option.some.injEq] at hindexed
    obtain ⟨declared, hdeclared, rfl⟩ := hindexed
    exact ⟨value, rfl, by simpa using (of_decide_eq_true hhash) ▸ hdeclared⟩

/-- In a cut, an edge leads to the receipt that the bundle has there. -/
theorem CutAt.firstDeclaring (hcut : CutAt E bundle hash raw pack) (hd : DistinctHashes E bundle)
    {target raw' : String} {value' : Json} (hdep : DependsOn E bundle hash target)
    (hrec : ReceiptOf E bundle target raw' value') :
    ∃ s, VertRule.firstDeclaring E pack.receipts target = some s ∧
      s.status = (verifyReceipt E (asBytes raw')).status ∧
      s.payloadKind = (readPayloadKind value').getD "" := by
  obtain ⟨s, hs, hstatus, hkind⟩ := declaring_of_json hrec.json hrec.hash
  refine ⟨s, ?_, hstatus, hkind⟩
  have hsome : (VertRule.firstDeclaring E pack.receipts target).isSome = true := by
    rw [VertRule.firstDeclaring, List.findSome?_isSome_iff]
    exact ⟨raw', hcut.targets target raw' value' hdep hrec, by rw [hs]; rfl⟩
  obtain ⟨t, ht⟩ := Option.isSome_iff_exists.1 hsome
  obtain ⟨raw'', hmem, hdec⟩ := List.exists_of_findSome?_eq_some ht
  -- whatever string comes first is a receipt of the bundle that declares the hash: there is one
  obtain ⟨value'', hj, hh⟩ := exists_json_of_declaring hdec
  obtain ⟨rfl, -⟩ := hd.eq ⟨hcut.subset raw'' hmem, hj, hh⟩ hrec
  rw [ht, ← hdec, hs]

/-- The edges of a receipt, as the walk of the bundle reads them. -/
theorem mem_committedMembers_iff (hd : DistinctHashes E bundle)
    (hrec : ReceiptOf E bundle hash raw value) {m : SupportMember} :
    m ∈ committedMembers E value ↔ Commits E bundle hash m := by
  rw [mem_committedMembers]
  constructor
  · rintro ⟨s, ms, hs, hms, hm⟩
    exact ⟨raw, value, s, ms, hrec, hs, hms, hm⟩
  · rintro ⟨raw', value', s, ms, hrec', hs, hms, hm⟩
    obtain ⟨-, rfl⟩ := hd.eq hrec hrec'
    exact ⟨s, ms, hs, hms, hm⟩

/-- **A valid closure bundle is valid at each provider and model that it reaches**: a layered pack
cut out there is valid, and the edges it reports are edges that the closure reports. -/
theorem closure_cut {kind : String} (ho : Opens E rawBytes bundle rootValue rootHash)
    (hd : DistinctHashes E bundle) (hvalid : (verifyClosureBundle E rawBytes).status = .valid)
    (hreach : ReachableFrom E bundle rootHash hash) (hrec : ReceiptOf E bundle hash raw value)
    (hk : readPayloadKind value = some kind) (hl : kind ∈ LayeredPack.layeredKinds)
    (hlineage : WellFormedLineage E value) (hcut : CutAt E bundle hash raw pack)
    (hp : E.layeredPackFromSlice rawBytes' = .ok pack) :
    (verifyLayeredPack E rawBytes').status = .valid ∧
      ∀ c ∈ (verifyLayeredPack E rawBytes').edgeChecks,
        c ∈ (verifyClosureBundle E rawBytes).edgeChecks := by
  have hclosure := ho.valid_iff.1 hvalid
  have law := (closureLaw_iff_receiptLaw hd).1 hclosure
  have hadmitted : extractLayeredPayload E pack.rootCanonical =
      .ok (kind, committedMembers E value) :=
    hcut.root ▸ extractLayeredPayload_of_lineage hrec.json hk hl hlineage
  have hol : OpensLayered E rawBytes' pack kind (committedMembers E value) :=
    ⟨hp, hcut.format, hadmitted⟩
  have hroot : (verifyReceipt E (asBytes raw)).status = .valid := by
    rcases Relation.ReflTransGen.cases_tail hreach with rfl | ⟨x, hx, role, targetSchema, hc⟩
    · obtain ⟨rfl, -⟩ := hd.eq hrec ⟨List.mem_cons_self, ho.root, ho.hash⟩
      exact law.root
    · obtain ⟨raw', value', hrec', hverifies, -⟩ := law.resolved x hx hash role targetSchema hc
      obtain ⟨rfl, -⟩ := hd.eq hrec hrec'
      exact hverifies
  have hedges : ∀ eventHash role targetSchema,
      SupportMember.typedReceiptDependency eventHash role targetSchema ∈ committedMembers E value →
      ∃ s, firstDeclaring E pack.receipts eventHash = some s ∧ s.status = .valid ∧
        s.payloadKind = targetSchema := by
    intro eventHash role targetSchema hm
    have hc := (mem_committedMembers_iff hd hrec).1 hm
    obtain ⟨raw', value', hrec', hverifies, hkind', -⟩ :=
      law.resolved hash hreach eventHash role targetSchema hc
    obtain ⟨s, hs, hstatus, hskind⟩ := hcut.firstDeclaring hd ⟨role, targetSchema, hc⟩ hrec'
    exact ⟨s, hs, hstatus.trans hverifies, by rw [hskind, hkind']; rfl⟩
  have hlayered : (verifyLayeredPack E rawBytes').status = .valid :=
    hol.valid_iff.2
      { root := hcut.root ▸ hroot
        typed := fun eventHash hm =>
          law.typed hash hreach eventHash ((mem_committedMembers_iff hd hrec).1 hm)
        edges := hedges }
  refine ⟨hlayered, fun c hc => ?_⟩
  rw [verifyLayeredPack_of_format hp hcut.format] at hc hlayered
  have hresolved := checkLayeredPack_consistent.edges hlayered c hc
  simp only [checkLayeredPack, hadmitted] at hc
  obtain ⟨m, hm, hw⟩ := List.mem_filterMap.1 hc
  obtain ⟨eventHash, role, targetSchema, rfl, rfl⟩ := walkEdge_of_resolved hw hresolved
  have hout := (mem_out_bundleGraph hd).2 ⟨rfl, (mem_committedMembers_iff hd hrec).1 hm⟩
  have hreach' : (bundleGraph E bundle).Reach rootHash hash := by
    rw [Dfs.Graph.reach_iff_of_followed fun x hx e he => decide_eq_true (hclosure.edges x hx e he),
      adj_bundleGraph hd]
    exact hreach
  obtain ⟨eventHash', role', targetSchema', hm', hcheck⟩ :=
    edgeCheck_of_resolved (hclosure.edges hash hreach' _ hout)
  obtain ⟨rfl, rfl, rfl⟩ := SupportMember.typedReceiptDependency.inj hm'
  rw [ho.report_eq, (checkClosureRoot_walk ho.root ho.hash).1, mem_walk_edgeChecks]
  exact ⟨hash, hreach', _, hout, hcheck⟩

/-! ### The model of the test vectors -/

theorem valid_vectorLayeredPack :
    (verifyLayeredPack layeredExternals (asBytes vectorLayeredPack.toValue.text)).status =
      .valid := by
  have hmem : (modelReceipt.toValue, modelReceipt) ∈ layeredTables.envelopes := by
    simp [layeredTables]
  have ho : OpensLayered layeredExternals (asBytes vectorLayeredPack.toValue.text)
      vectorLayeredPack modelPayloadKind [providerEdge] := by
    refine ⟨parsed_layeredPacks (by simp [layeredPacks]), rfl, ?_⟩
    rw [vectorLayeredPack, layeredPack_rootCanonical]
    exact extractLayeredPayload_modelReceipt
  refine ho.valid_iff.2 ⟨?_, fun eventHash hm => ?_, fun eventHash role targetSchema hm => ?_⟩
  · rw [vectorLayeredPack, layeredPack_rootCanonical]
    exact valid_layeredExternals hmem admissible_modelReceipt
      (Tables.verifies rfl rfl rfl (by simp [layeredTables, modelReceipt, vectorEnvelope]))
  · simp [providerEdge] at hm
  · obtain ⟨rfl, rfl, rfl⟩ :=
      SupportMember.typedReceiptDependency.inj (List.mem_singleton.1 hm)
    obtain ⟨s, hs, hresolved⟩ := declaring_providerReceipt
    refine ⟨s, ?_, SuppliedReceipt.edgeStatus_resolved.1 hresolved⟩
    rw [vectorLayeredPack, layeredPack_receipts, firstDeclaring, List.findSome?_singleton, hs]

/-- A string that claims the hash of the provider comes last. -/
theorem verifyLayeredPack_append_providerClaim :
    verifyLayeredPack layeredExternals (asBytes claimAfterPack.toValue.text) =
      verifyLayeredPack layeredExternals (asBytes vectorLayeredPack.toValue.text) := by
  have hp' : layeredExternals.layeredPackFromSlice (asBytes claimAfterPack.toValue.text) =
      .ok { vectorLayeredPack with
        receipts := vectorLayeredPack.receipts ++ [providerClaim.text] } :=
    parsed_layeredPacks (by simp [layeredPacks])
  exact verifyLayeredPack_append (parsed_layeredPacks (by simp [layeredPacks])) hp'
    valid_vectorLayeredPack

section WithPacks

variable {packs : List LayeredPack} {target : String}

theorem receiptOf_withPacks :
    ReceiptOf (E.withPacks [] [] packs) bundle hash raw value ↔ ReceiptOf E bundle hash raw value :=
  ⟨fun h => ⟨h.mem, h.json, h.hash⟩, fun h => ⟨h.mem, h.json, h.hash⟩⟩

theorem dependsOn_withPacks :
    DependsOn (E.withPacks [] [] packs) bundle hash target ↔ DependsOn E bundle hash target := by
  simp only [DependsOn, Commits, receiptOf_withPacks, supportSetFromValue_withPacks]

theorem reachableFrom_withPacks :
    ReachableFrom (E.withPacks [] [] packs) bundle hash target ↔
      ReachableFrom E bundle hash target := by
  have hdep : DependsOn (E.withPacks [] [] packs) bundle = DependsOn E bundle := by
    funext x y
    exact propext dependsOn_withPacks
  rw [ReachableFrom, hdep]

theorem opens_withPacks (h : Opens E rawBytes bundle rootValue rootHash) :
    Opens (E.withPacks [] [] packs) rawBytes bundle rootValue rootHash :=
  ⟨h.parsed, h.format, h.root, h.hash⟩

theorem distinctHashes_withPacks (h : DistinctHashes E bundle) :
    DistinctHashes (E.withPacks [] [] packs) bundle := h

theorem verifyClosureBundle_withPacks (packs : List LayeredPack) :
    verifyClosureBundle (E.withPacks [] [] packs) rawBytes = verifyClosureBundle E rawBytes := rfl

end WithPacks

/-- The layered pack at the model, in the closure of the vector. -/
theorem closure_cut_model :
    let E := vectorTables.externals.withPacks [] [] layeredPacks
    (verifyLayeredPack E (asBytes vectorLayeredPack.toValue.text)).status = .valid ∧
      ∀ c ∈ (verifyLayeredPack E (asBytes vectorLayeredPack.toValue.text)).edgeChecks,
        c ∈ (verifyClosureBundle E (asBytes vectorBundle.toValue.text)).edgeChecks := by
  have ho := opens_of_vectorRoot (by simp [vectorTables]) rfl vectorBundle_rootCanonical
  have hd := distinctHashes_vectorBundle
  have hvalid := ho.valid_iff.2 ((closureLaw_iff_receiptLaw hd).2 receiptLaw_vectorBundle)
  rw [← verifyClosureBundle_withPacks layeredPacks] at hvalid
  refine closure_cut (opens_withPacks ho) (distinctHashes_withPacks hd) hvalid
    (reachableFrom_withPacks.2 (reachableFrom_vectorBundle.2 (.inr (.inl rfl))))
    (receiptOf_withPacks.2 receiptOf_model) rfl (by simp [LayeredPack.layeredKinds]) ?_ ?_
    (layeredPackFromSlice_withPacks layeredPacks_nodup (by simp [layeredPacks]))
  · intro s hs
    obtain rfl : .array [providerEdgeValue] = s := Option.some.inj hs
    rw [supportSetFromValue_withPacks]
    exact ⟨[providerEdge], Tables.supportSetFromValue (by simp [vectorTables])⟩
  · refine ⟨rfl, layeredPack_rootCanonical _ _, fun s hs => ?_,
      fun target raw' value' hdepends htarget => ?_⟩
    · rw [vectorLayeredPack, layeredPack_receipts, List.mem_singleton] at hs
      simp [hs, vectorBundle_receipts]
    · have hn := vectorHashes_nodup
      simp only [List.nodup_cons, List.mem_cons, List.not_mem_nil, or_false, not_or] at hn
      rcases dependsOn_vectorBundle.1 (dependsOn_withPacks.1 hdepends) with ⟨hmodel, -⟩ | ⟨-, rfl⟩
      · exact absurd hmodel.symm hn.1.1
      · obtain ⟨rfl, -⟩ := hd.eq (receiptOf_withPacks.1 htarget) receiptOf_provider
        rw [vectorLayeredPack, layeredPack_receipts]
        exact List.mem_singleton_self _

end VertRule
