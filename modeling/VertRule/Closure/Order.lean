import VertRule.Closure.ReceiptLaw
import VertRule.Lib.FirstMatch

/-!
# The order of supplied receipts

When several supplied strings declare one hash, the last one is indexed, so the order matters
where those strings disagree on what the walk reads: the dependencies of a receipt it reaches,
and the status of an edge it checks.  `OrderFree` says that they agree there, and
`verifyClosureBundle_perm` that the report is then the same in any order.
-/

namespace VertRule

/-- What a walk returns, up to the texts of its checks. -/
structure SameWalk (st st' : WalkState) : Prop where
  reachable : st.reachable = st'.reachable
  cycle : st.cycleDetected = st'.cycleDetected
  statuses : st.edgeChecks.map EdgeCheck.status = st'.edgeChecks.map EdgeCheck.status

/-- **The walk depends only on the dependencies of the hashes it reaches, and on how their edges
are classified.** -/
theorem sameWalk_of_agree {index index' : Index} {rootHash : String}
    (hout : ∀ h, (depGraph index).Reach rootHash h →
      (depGraph index).out h = (depGraph index').out h)
    (hstatus : ∀ h, (depGraph index).Reach rootHash h → ∀ m ∈ (depGraph index).out h,
      (edgeCheck index m).status = (edgeCheck index' m).status) :
    SameWalk (walk index rootHash .init) (walk index' rootHash .init) := by
  obtain ⟨s, hr, hs⟩ := walk_run index rootHash
  obtain ⟨s', hr', hs'⟩ := walk_run index' rootHash
  have hlog : ∀ m ∈ s.log, (edgeCheck index m).status = (edgeCheck index' m).status := by
    intro m hm
    obtain ⟨h, hh, hmh⟩ := hr.mem_log_iff.1 hm
    exact hstatus h hh m hmh
  -- the search of the first graph is also one of the second, and that has only one
  have hcongr := hr.congr (depGraph index') (fun h hh => hout h (hr.seen_iff.1 hh))
    fun m hm => ⟨rfl, by simp only [depGraph, hlog m hm]⟩
  rw [hout rootHash .refl] at hcongr
  obtain rfl := hcongr.unique hr'
  rw [hs, hs']
  refine ⟨rfl, rfl, ?_⟩
  simp only [WalkState.ofSearch, List.map_map]
  exact List.map_congr_left hlog

variable (E : Externals)

/-- The dependencies an envelope value commits to. -/
def committedDependencies (value : Json) : List SupportMember :=
  (committedMembers E value).filter SupportMember.isDependency

/-- The status of an edge to a receipt. -/
def edgeStatusTo (targetSchema : String) (r : Json × String) : EdgeStatus :=
  (classifyEdge "" (some (Node.ofReceipt E r.1 r.2)) targetSchema).1

/-- The supplied strings that declare one hash agree on what the walk reads of them: their
dependencies, where the walk reaches the hash, and the status of an edge that it checks. -/
structure OrderFree (bundle : ClosureBundle) (rootHash : String) : Prop where
  dependencies : ∀ h, (bundleGraph E bundle).Reach rootHash h →
    ∀ raw ∈ bundle.receipts, ∀ raw' ∈ bundle.receipts, ∀ r r',
      declares E h raw = some r → declares E h raw' = some r' →
      committedDependencies E r.1 = committedDependencies E r'.1
  statuses : ∀ h, (bundleGraph E bundle).Reach rootHash h → ∀ target role targetSchema,
    .typedReceiptDependency target role targetSchema ∈ (bundleGraph E bundle).out h →
    ∀ raw ∈ bundle.receipts, ∀ raw' ∈ bundle.receipts, ∀ r r',
      declares E target raw = some r → declares E target raw' = some r' →
      edgeStatusTo E targetSchema r = edgeStatusTo E targetSchema r'

/-- Two reports agree on everything but texts. -/
structure SameReport (r r' : ClosureBundleVerificationResult) : Prop where
  status : r.status = r'.status
  manifestDigestOk : r.manifestDigestOk = r'.manifestDigestOk
  closureComplete : r.closureComplete = r'.closureComplete
  cycleDetected : r.cycleDetected = r'.cycleDetected
  closureSize : r.closureSize = r'.closureSize
  edgeStatuses : r.edgeChecks.map EdgeCheck.status = r'.edgeChecks.map EdgeCheck.status

/-- However the receipts of a bundle are ordered, the report is the same. -/
def OrderIrrelevant (rawBytes : Bytes) : Prop :=
  ∀ bundle receipts' rawBytes', E.closureBundleFromSlice rawBytes = .ok bundle →
    bundle.receipts.Perm receipts' →
    E.closureBundleFromSlice rawBytes' = .ok { bundle with receipts := receipts' } →
    SameReport (verifyClosureBundle E rawBytes) (verifyClosureBundle E rawBytes')

variable {E} {bundle : ClosureBundle} {receipts' : List String} {rootValue : Json}
  {rootHash : String}

/-- Reordering leaves what is read of an entry as it was, when the supplied strings that declare
the hash agree on it. -/
theorem receiptAt_perm {α : Type} {hash : String} {read : Json × String → α}
    (hp : bundle.receipts.Perm receipts')
    (hagree : ∀ raw ∈ bundle.receipts, ∀ raw' ∈ bundle.receipts, ∀ r r',
      declares E hash raw = some r → declares E hash raw' = some r' → read r = read r') :
    (receiptAt E bundle hash).map read =
      (receiptAt E { bundle with receipts := receipts' } hash).map read := by
  -- the last string that declares the hash is the first of the reversed ones
  have hreverse : bundle.receipts.reverse.Perm receipts'.reverse :=
    (List.reverse_perm _).trans (hp.trans (List.reverse_perm _).symm)
  have hlast := FirstMatch.findSome?_map_perm (g := read) hreverse
    fun raw hraw raw' hraw' r r' hr hr' =>
      hagree raw (List.mem_reverse.1 hraw) raw' (List.mem_reverse.1 hraw') r r' hr hr'
  simp only [receiptAt, lastDeclaring, List.reverse_cons, List.findSome?_append,
    List.findSome?_singleton, Option.map_or, hlast]

theorem out_bundleGraph {hash : String} :
    (bundleGraph E bundle).out hash =
      ((receiptAt E bundle hash).map fun r => committedDependencies E r.1).getD [] := by
  simp only [depGraph, supportSet_bundleIndex, Option.map_map]
  cases receiptAt E bundle hash <;> rfl

theorem edgeCheck_bundleIndex_status {target : String} {role : DependencyRole}
    {targetSchema : String} :
    (edgeCheck (bundleIndex E bundle) (.typedReceiptDependency target role targetSchema)).status =
      ((receiptAt E bundle target).map (edgeStatusTo E targetSchema)).getD .missing := by
  change (classifyEdge target ((bundleIndex E bundle).lookup target) targetSchema).1 = _
  rw [lookup_bundleIndex]
  cases receiptAt E bundle target with
  | none => rfl
  | some r =>
    simp only [Option.map_some, Option.getD_some, edgeStatusTo, classifyEdge]

/-- Reordering receipts that agree on what the walk reads leaves the walk as it was. -/
theorem sameWalk_perm (hp : bundle.receipts.Perm receipts') (hfree : OrderFree E bundle rootHash) :
    SameWalk (walk (bundleIndex E bundle) rootHash .init)
      (walk (bundleIndex E { bundle with receipts := receipts' }) rootHash .init) := by
  refine sameWalk_of_agree (fun h hh => ?_) fun h hh m hm => ?_
  · rw [out_bundleGraph, out_bundleGraph, receiptAt_perm hp (hfree.dependencies h hh)]
  · cases m with
    | typedReceiptDependency target role targetSchema =>
      rw [edgeCheck_bundleIndex_status, edgeCheck_bundleIndex_status,
        receiptAt_perm hp (hfree.statuses h hh target role targetSchema hm)]
    | _ => rfl

theorem checkClosureRoot_perm (hroot : E.fromStr bundle.rootCanonical = .ok rootValue)
    (hh : readEventHash rootValue = some rootHash) (hp : bundle.receipts.Perm receipts')
    (hfree : OrderFree E bundle rootHash) :
    SameReport (checkClosureRoot E bundle rootValue)
      (checkClosureRoot E { bundle with receipts := receipts' } rootValue) := by
  have hsame := sameWalk_perm hp hfree
  have hroot' : E.fromStr
      ({ bundle with receipts := receipts' } : ClosureBundle).rootCanonical = .ok rootValue := hroot
  obtain ⟨hec, hcd, hsize, hcc⟩ := checkClosureRoot_walk hroot hh
  obtain ⟨hec', hcd', hsize', hcc'⟩ := checkClosureRoot_walk hroot' hh
  have hedge : (checkClosureRoot E bundle rootValue).edgeChecks.map EdgeCheck.status =
      (checkClosureRoot E { bundle with receipts := receipts' } rootValue).edgeChecks.map
        EdgeCheck.status := by rw [hec, hec', hsame.statuses]
  have hcycle : (checkClosureRoot E bundle rootValue).cycleDetected =
      (checkClosureRoot E { bundle with receipts := receipts' } rootValue).cycleDetected := by
    rw [hcd, hcd', hsame.cycle]
  have hcomplete : (checkClosureRoot E bundle rootValue).closureComplete =
      (checkClosureRoot E { bundle with receipts := receipts' } rootValue).closureComplete := by
    rw [Bool.eq_iff_iff, hcc, hcc', hsame.reachable]
  have hmanifest : (checkClosureRoot E bundle rootValue).manifestDigestOk =
      (checkClosureRoot E { bundle with receipts := receipts' } rootValue).manifestDigestOk := by
    rw [Bool.eq_iff_iff, checkClosureRoot_manifestDigestOk, checkClosureRoot_manifestDigestOk]
  have hres : (∀ c ∈ (checkClosureRoot E bundle rootValue).edgeChecks, c.status = .resolved) ↔
      ∀ c ∈ (checkClosureRoot E { bundle with receipts := receipts' } rootValue).edgeChecks,
        c.status = .resolved := by
    simpa only [List.forall_mem_map] using
      iff_of_eq (congrArg (fun l : List EdgeStatus => ∀ s ∈ l, s = .resolved) hedge)
  have hvalid : (checkClosureRoot E bundle rootValue).status = .valid ↔
      (checkClosureRoot E { bundle with receipts := receipts' } rootValue).status = .valid := by
    rw [checkClosureRoot_valid_iff_errors hroot, checkClosureRoot_valid_iff_errors hroot',
      checkClosureRoot_errors_eq_nil_iff hroot hh, checkClosureRoot_errors_eq_nil_iff hroot' hh,
      ← hres, ← hcycle, ← hcomplete]
    simp only [hp.mem_iff]
  exact ⟨VerificationStatus.eq_of_valid_iff hvalid, hmanifest, hcomplete, hcycle,
    by rw [hsize, hsize', hsame.reachable], hedge⟩

/-- Without a readable event hash there is no walk, and the order never matters. -/
theorem checkClosureRoot_perm_of_no_hash
    (hroot : E.fromStr bundle.rootCanonical = .ok rootValue)
    (hh : readEventHash rootValue = none) :
    SameReport (checkClosureRoot E bundle rootValue)
      (checkClosureRoot E { bundle with receipts := receipts' } rootValue) := by
  have hinvalid : ∀ {bundle : ClosureBundle}, E.fromStr bundle.rootCanonical = .ok rootValue →
      (checkClosureRoot E bundle rootValue).status ≠ .valid := fun hroot hs =>
    checkClosureRoot_errors_ne_nil hh ((checkClosureRoot_valid_iff_errors hroot).1 hs)
  refine ⟨VerificationStatus.eq_of_valid_iff (iff_of_false (hinvalid hroot) (hinvalid hroot)),
    ?_, ?_, ?_, ?_, ?_⟩ <;>
    simp [checkClosureRoot, hh]

/-- **The order of the supplied receipts does not matter when those that declare one hash agree
on what the walk reads of them.** -/
theorem verifyClosureBundle_perm {rawBytes : Bytes}
    (hfree : ∀ bundle rootValue rootHash, Opens E rawBytes bundle rootValue rootHash →
      OrderFree E bundle rootHash) :
    OrderIrrelevant E rawBytes := by
  intro bundle receipts' rawBytes' hb hp hb'
  unfold verifyClosureBundle
  rw [hb, hb']
  dsimp only
  by_cases hf : bundle.format = closureBundleFormat
  swap
  · simp only [if_pos hf]
    exact ⟨rfl, rfl, rfl, rfl, rfl, rfl⟩
  simp only [hf, ne_eq, not_true_eq_false, if_false, checkClosureBundle]
  cases hroot : E.fromStr bundle.rootCanonical with
  | error e => exact ⟨rfl, rfl, rfl, rfl, rfl, rfl⟩
  | ok rootValue =>
    cases hh : readEventHash rootValue with
    | none => exact checkClosureRoot_perm_of_no_hash hroot hh
    | some rootHash =>
      exact checkClosureRoot_perm hroot hh hp (hfree _ _ _ ⟨hb, hf, hroot, hh⟩)

/-- Where no two receipts declare the same hash, there is nothing to agree on. -/
theorem orderFree_of_distinctHashes (hd : DistinctHashes E bundle) :
    OrderFree E bundle rootHash := by
  have hsame : ∀ {h raw raw' r r'}, raw ∈ bundle.receipts → raw' ∈ bundle.receipts →
      declares E h raw = some r → declares E h raw' = some r' → r = r' := by
    intro h raw raw' r r' hraw hraw' hr hr'
    obtain ⟨hr₂, hv, hh⟩ := declares_eq_some.1 hr
    obtain ⟨hr₂', hv', hh'⟩ := declares_eq_some.1 hr'
    obtain ⟨h₂, h₁⟩ := hd.eq ⟨List.mem_cons_of_mem _ hraw, hv, hh⟩
      ⟨List.mem_cons_of_mem _ hraw', hv', hh'⟩
    exact Prod.ext h₁ (by rw [hr₂, hr₂', h₂])
  constructor
  · intro h _ raw hraw raw' hraw' r r' hr hr'
    rw [hsame hraw hraw' hr hr']
  · intro h _ target role targetSchema _ raw hraw raw' hraw' r r' hr hr'
    rw [hsame hraw hraw' hr hr']

/-- The closure bundle of the test vectors has the same report in either order. -/
theorem orderIrrelevant_vectorBundle :
    OrderIrrelevant vectorTables.externals (asBytes vectorBundle.toValue.text) := by
  refine verifyClosureBundle_perm fun bundle rootValue rootHash ho => ?_
  have hb : vectorTables.externals.closureBundleFromSlice (asBytes vectorBundle.toValue.text) =
      .ok vectorBundle := Tables.closureBundleFromSlice_text (by simp [vectorTables])
  obtain rfl := Except.ok.inj (hb.symm.trans ho.parsed)
  exact orderFree_of_distinctHashes distinctHashes_vectorBundle

/-! ### A contested hash -/

/-- The closure law depends on the supplied strings only through what is indexed. -/
theorem ClosureLaw.congr (law : ClosureLaw E bundle rootValue rootHash)
    (hat : ∀ h, receiptAt E bundle h = receiptAt E { bundle with receipts := receipts' } h)
    (hsupplied : ∀ raw ∈ receipts', (E.fromStr raw).isOk = true) :
    ClosureLaw E { bundle with receipts := receipts' } rootValue rootHash := by
  have hcheck : ∀ m, (edgeCheck (bundleIndex E bundle) m).status =
      (edgeCheck (bundleIndex E { bundle with receipts := receipts' }) m).status := by
    intro m
    cases m with
    | typedReceiptDependency target role targetSchema =>
      rw [edgeCheck_bundleIndex_status, edgeCheck_bundleIndex_status, hat]
    | _ => rfl
  have hgraph : bundleGraph E bundle = bundleGraph E { bundle with receipts := receipts' } := by
    have hout : (bundleGraph E bundle).out =
        (bundleGraph E { bundle with receipts := receipts' }).out := by
      funext h
      rw [out_bundleGraph, out_bundleGraph, hat]
    have hfollow : (bundleGraph E bundle).follow =
        (bundleGraph E { bundle with receipts := receipts' }).follow := by
      funext m
      exact decide_eq_decide.2 (by rw [hcheck])
    exact Dfs.Graph.mk.injEq .. ▸ ⟨hout, rfl, hfollow⟩
  exact {
    root := law.root
    kind := law.kind
    manifest := law.manifest
    supplied := hsupplied
    edges := fun h hr m hm => by
      rw [← hcheck]
      rw [← hgraph] at hr hm
      exact law.edges h hr m hm
    acyclic := hgraph ▸ law.acyclic
    complete := hgraph ▸ law.complete }

theorem reorderedBundle_receipts : reorderedBundle.receipts =
    [providerReceipt.toValue.text, modelReceipt.toValue.text, modelClaim.text] := rfl

theorem json_modelClaim :
    vectorTables.externals.fromStr modelClaim.text = .ok modelClaim :=
  Tables.fromStr_text (by simp [vectorTables, Tables.values])

/-- Where the model comes after the string that claims its hash, the index is that of the
vector. -/
theorem closureLaw_contestedBundle :
    ClosureLaw vectorTables.externals contestedBundle packReceipt.toValue packHash.toHex := by
  refine ClosureLaw.congr ((closureLaw_iff_receiptLaw distinctHashes_vectorBundle).2
    receiptLaw_vectorBundle) (fun h => ?_) fun raw hraw => ?_
  · rw [receiptAt, receiptAt, vectorBundle_receipts]
    simp only [lastDeclaring, List.reverse_cons, List.reverse_nil, List.nil_append,
      List.findSome?_append, List.findSome?_singleton]
    by_cases hh : modelHash.toHex = h
    · subst hh
      rw [receiptOf_model.declares]
      simp
    · rw [declares_eq_none json_modelClaim rfl hh]
      simp
  · simp only [List.mem_cons, List.not_mem_nil, or_false] at hraw
    rcases hraw with rfl | rfl | rfl
    · rw [json_modelClaim]
      rfl
    · rw [receiptOf_model.json]
      rfl
    · rw [receiptOf_provider.json]
      rfl

/-- Where it comes last, the edge of the pack to the model leads to that string, and fails. -/
theorem not_closureLaw_reorderedBundle :
    ¬ ClosureLaw vectorTables.externals reorderedBundle packReceipt.toValue packHash.toHex := by
  intro law
  have hn := vectorHashes_nodup
  simp only [List.nodup_cons, List.mem_cons, List.not_mem_nil, or_false, not_or] at hn
  have hpack : receiptAt vectorTables.externals reorderedBundle packHash.toHex =
      some (packReceipt.toValue, packReceipt.toValue.text) := by
    refine ReceiptOf.receiptAt_of_last [] reorderedBundle.receipts
      ⟨List.mem_cons_self, receiptOf_pack.json, rfl⟩ rfl fun raw hraw => ?_
    simp only [reorderedBundle_receipts, List.mem_cons, List.not_mem_nil, or_false] at hraw
    rcases hraw with rfl | rfl | rfl
    · exact declares_eq_none receiptOf_provider.json receiptOf_provider.hash (Ne.symm hn.1.2)
    · exact declares_eq_none receiptOf_model.json receiptOf_model.hash (Ne.symm hn.1.1)
    · exact declares_eq_none json_modelClaim rfl (Ne.symm hn.1.1)
  have hmodel : receiptAt vectorTables.externals reorderedBundle modelHash.toHex =
      some (modelClaim, modelClaim.text) := by
    refine ReceiptOf.receiptAt_of_last [packReceipt.toValue.text,
      providerReceipt.toValue.text, modelReceipt.toValue.text] []
      ⟨?_, json_modelClaim, rfl⟩ rfl (by simp)
    simp [reorderedBundle_receipts]
  have hedge : modelEdge ∈
      (bundleGraph vectorTables.externals reorderedBundle).out packHash.toHex := by
    have hms : vectorTables.externals.supportSetFromValue (.array [modelEdgeValue]) =
        .ok [modelEdge] := Tables.supportSetFromValue (by simp [vectorTables])
    have hmembers : committedMembers vectorTables.externals packReceipt.toValue = [modelEdge] := by
      rw [committedMembers, show readSupportSet packReceipt.toValue =
        some (.array [modelEdgeValue]) from rfl]
      simp [hms, Except.toOption]
    rw [out_bundleGraph, hpack, Option.map_some, Option.getD_some, committedDependencies,
      hmembers]
    exact List.mem_singleton_self _
  have hstatus := law.edges packHash.toHex .refl modelEdge hedge
  rw [modelEdge, edgeCheck_bundleIndex_status, hmodel, Option.map_some, Option.getD_some,
    edgeStatusTo, classifyEdge_resolved] at hstatus
  obtain ⟨n, hnode, hres⟩ := hstatus
  obtain rfl := Option.some.inj hnode
  have hvalid := hres.verifies
  rw [Node.ofReceipt_verifyStatus] at hvalid
  refine Tables.verifyReceipt_ne_valid ?_ ?_ hvalid
  · simp [vectorTables, Tables.values]
  · decide +kernel

/-- The order of the supplied receipts decides whether the bundle is valid. -/
theorem not_orderIrrelevant_contestedBundle :
    ¬ OrderIrrelevant vectorTables.externals (asBytes contestedBundle.toValue.text) := by
  intro h
  have hb : vectorTables.externals.closureBundleFromSlice (asBytes contestedBundle.toValue.text) =
      .ok contestedBundle := Tables.closureBundleFromSlice_text (by simp [vectorTables])
  have hb' : vectorTables.externals.closureBundleFromSlice (asBytes reorderedBundle.toValue.text) =
      .ok reorderedBundle := Tables.closureBundleFromSlice_text (by simp [vectorTables])
  have hroot : vectorTables.externals.fromStr vectorBundle.rootCanonical =
      .ok packReceipt.toValue := by
    rw [vectorBundle_rootCanonical]
    exact receiptOf_pack.json
  have ho : Opens vectorTables.externals (asBytes contestedBundle.toValue.text) contestedBundle
      packReceipt.toValue packHash.toHex := ⟨hb, rfl, hroot, receiptOf_pack.hash⟩
  have ho' : Opens vectorTables.externals (asBytes reorderedBundle.toValue.text) reorderedBundle
      packReceipt.toValue packHash.toHex := ⟨hb', rfl, hroot, receiptOf_pack.hash⟩
  have hsame := h contestedBundle reorderedBundle.receipts (asBytes reorderedBundle.toValue.text)
    hb (List.reverse_perm contestedBundle.receipts).symm hb'
  have hvalid := ho.valid_iff.2 closureLaw_contestedBundle
  rw [hsame.status] at hvalid
  exact not_closureLaw_reorderedBundle (ho'.valid_iff.1 hvalid)

end VertRule
