import VertRule.Closure.Manifest
import VertRule.Closure.Order

/-!
# What a closure report depends on

The walk reads the receipts under the hashes it names: those it reaches, and the targets of the
edges it checks.  So the whole report, with its texts, depends only on the supplied strings that
declare such a hash, and on those that are not JSON (`verifyClosureBundle_relevant`); and what is
supplied before the strings of a valid bundle changes nothing, as long as it does not declare the
hash of the root (`verifyClosureBundle_prepend`).
-/

namespace VertRule

/-- The walk depends only on the dependencies of the hashes it reaches, and on the checks of their
edges. -/
theorem walk_eq_of_agree {index index' : Index} {rootHash : String}
    (hout : ∀ h, (depGraph index).Reach rootHash h →
      (depGraph index).out h = (depGraph index').out h)
    (hcheck : ∀ h, (depGraph index).Reach rootHash h → ∀ m ∈ (depGraph index).out h,
      edgeCheck index m = edgeCheck index' m) :
    walk index rootHash .init = walk index' rootHash .init := by
  have hsame := sameWalk_of_agree hout fun h hh m hm => by rw [hcheck h hh m hm]
  obtain ⟨s, hr, hs⟩ := walk_run index rootHash
  obtain ⟨s', hr', hs'⟩ := walk_run index' rootHash
  have hlog : ∀ m ∈ s.log, edgeCheck index m = edgeCheck index' m := by
    intro m hm
    obtain ⟨h, hh, hmh⟩ := hr.mem_log_iff.1 hm
    exact hcheck h hh m hmh
  have hcongr := hr.congr (depGraph index') (fun h hh => hout h (hr.seen_iff.1 hh))
    fun m hm => ⟨rfl, by simp only [depGraph, hlog m hm]⟩
  rw [hout rootHash .refl] at hcongr
  obtain rfl := hcongr.unique hr'
  rw [hs, hs']
  simp only [WalkState.ofSearch, WalkState.mk.injEq, true_and, and_true]
  exact List.map_congr_left hlog

variable (E : Externals)

/-- The walk names a hash: it reaches it, or checks an edge to it. -/
def Named (bundle : ClosureBundle) (rootHash hash : String) : Prop :=
  (bundleGraph E bundle).Reach rootHash hash ∨
    ∃ x, (bundleGraph E bundle).Reach rootHash x ∧ ∃ role targetSchema,
      SupportMember.typedReceiptDependency hash role targetSchema ∈ (bundleGraph E bundle).out x

/-- The errors of `verify_closure_bundle` on supplied strings that are not JSON. -/
def ignoredErrors (raws : List String) : List String :=
  (raws.filter fun raw => !(E.fromStr raw).isOk).map
    fun _ => "a supplied receipt is not valid JSON and was ignored"

variable {E} {bundle : ClosureBundle} {receipts' : List String} {rootValue : Json}
  {rootHash : String}

theorem declaredHash_of_json {raw : String} {value : Json} (h : E.fromStr raw = .ok value) :
    declaredHash E raw = readEventHash value := by
  simp [declaredHash, h, Except.toOption]

theorem foldl_addSupplied_eq (raws : List String) (index : Index) (errors : List String) :
    raws.foldl (addSupplied E) (index, errors) =
      (raws.foldl (indexReceipt E) index, errors ++ ignoredErrors E raws) := by
  induction raws generalizing index errors with
  | nil => simp [ignoredErrors]
  | cons raw raws ih =>
    cases hv : E.fromStr raw with
    | error e =>
      simp [addSupplied, indexReceipt, hv, ih, ignoredErrors, Except.isOk, Except.toBool]
    | ok v => simp [addSupplied, indexReceipt, hv, ih, ignoredErrors, Except.isOk, Except.toBool]

/-- The report depends on the supplied strings through the walk and those that are ignored. -/
theorem checkClosureRoot_congr (hroot : E.fromStr bundle.rootCanonical = .ok rootValue)
    (hignored : ignoredErrors E bundle.receipts = ignoredErrors E receipts')
    (hwalk : ∀ rootHash, readEventHash rootValue = some rootHash →
      walk (bundleIndex E bundle) rootHash .init =
        walk (bundleIndex E { bundle with receipts := receipts' }) rootHash .init) :
    checkClosureRoot E bundle rootValue =
      checkClosureRoot E { bundle with receipts := receipts' } rootValue := by
  have hroot' : E.fromStr
      ({ bundle with receipts := receipts' } : ClosureBundle).rootCanonical = .ok rootValue := hroot
  have hindex := foldl_insertNode_root hroot
  have hindex' := foldl_insertNode_root hroot'
  dsimp only at hindex'
  simp only [checkClosureRoot, foldl_addSupplied_eq, hindex, hindex', hignored]
  cases hh : readEventHash rootValue with
  | none => rfl
  | some rootHash => simp only [hwalk rootHash hh]

/-- Receipts that agree under the hashes that the walk names give the same walk. -/
theorem walk_eq_of_named (hnamed : ∀ h, Named E bundle rootHash h →
      receiptAt E bundle h = receiptAt E { bundle with receipts := receipts' } h) :
    walk (bundleIndex E bundle) rootHash .init =
      walk (bundleIndex E { bundle with receipts := receipts' }) rootHash .init := by
  refine walk_eq_of_agree (fun h hh => ?_) fun h hh m hm => ?_
  · rw [out_bundleGraph, out_bundleGraph, hnamed h (.inl hh)]
  · cases m with
    | typedReceiptDependency target role targetSchema =>
      have htarget := hnamed target (.inr ⟨h, hh, role, targetSchema, hm⟩)
      simp only [edgeCheck, typedEdgeCheck, lookup_bundleIndex, htarget]
    | _ => rfl

/-- **The report is that of any bundle with the same root and manifest whose receipts agree under
the hashes that the walk names.** -/
theorem verifyClosureBundle_congr {rawBytes rawBytes' : Bytes}
    (hb : E.closureBundleFromSlice rawBytes = .ok bundle)
    (hb' : E.closureBundleFromSlice rawBytes' = .ok { bundle with receipts := receipts' })
    (hignored : ignoredErrors E bundle.receipts = ignoredErrors E receipts')
    (hnamed : ∀ rootValue rootHash, E.fromStr bundle.rootCanonical = .ok rootValue →
      readEventHash rootValue = some rootHash → ∀ h, Named E bundle rootHash h →
      receiptAt E bundle h = receiptAt E { bundle with receipts := receipts' } h) :
    verifyClosureBundle E rawBytes = verifyClosureBundle E rawBytes' := by
  simp only [verifyClosureBundle, hb, hb', checkClosureBundle]
  split_ifs
  · rfl
  cases hroot : E.fromStr bundle.rootCanonical with
  | error e => rfl
  | ok rootValue =>
    exact checkClosureRoot_congr hroot hignored fun rootHash hh =>
      walk_eq_of_named (hnamed rootValue rootHash hroot hh)

/-! ### Strings that are not named -/

theorem receiptAt_eq_getLast? {hash : String} :
    receiptAt E bundle hash =
      ((bundle.rootCanonical :: bundle.receipts).filterMap (declares E hash)).getLast? := by
  rw [receiptAt, lastDeclaring, ← List.head?_filterMap, List.filterMap_reverse, List.head?_reverse]

/-- **The report depends only on the strings that declare a hash that the walk names**, in their
order, and on how many strings are not JSON. -/
theorem verifyClosureBundle_relevant {rawBytes rawBytes' : Bytes}
    (hb : E.closureBundleFromSlice rawBytes = .ok bundle)
    (hb' : E.closureBundleFromSlice rawBytes' = .ok { bundle with receipts := receipts' })
    (hbroken : bundle.receipts.countP (fun raw => !(E.fromStr raw).isOk) =
      receipts'.countP fun raw => !(E.fromStr raw).isOk)
    (hnamed : ∀ rootValue rootHash, E.fromStr bundle.rootCanonical = .ok rootValue →
      readEventHash rootValue = some rootHash → ∀ h, Named E bundle rootHash h →
      bundle.receipts.filterMap (declares E h) = receipts'.filterMap (declares E h)) :
    verifyClosureBundle E rawBytes = verifyClosureBundle E rawBytes' := by
  refine verifyClosureBundle_congr hb hb' ?_ fun rootValue rootHash hroot hh h hn => ?_
  · simp only [ignoredErrors, List.map_const', ← List.countP_eq_length_filter, hbroken]
  · rw [receiptAt_eq_getLast?, receiptAt_eq_getLast?]
    simp only [List.filterMap_cons, hnamed rootValue rootHash hroot hh h hn]

/-! ### Strings that come first -/

/-- A resolved edge leads to a receipt. -/
theorem receiptAt_isSome_of_resolved {target targetSchema : String} {role : DependencyRole}
    (h : (edgeCheck (bundleIndex E bundle)
      (.typedReceiptDependency target role targetSchema)).status = .resolved) :
    (receiptAt E bundle target).isSome = true := by
  rw [edgeCheck_bundleIndex_status] at h
  cases hr : receiptAt E bundle target with
  | none => simp [hr] at h
  | some r => rfl

/-- Where the closure law holds, a hash that the walk names is that of the root or of a receipt. -/
theorem ClosureLaw.isSome_of_named (law : ClosureLaw E bundle rootValue rootHash) {hash : String}
    (hn : Named E bundle rootHash hash) :
    hash = rootHash ∨ (receiptAt E bundle hash).isSome = true := by
  have hedge : ∀ x, (bundleGraph E bundle).Reach rootHash x → ∀ role targetSchema,
      SupportMember.typedReceiptDependency hash role targetSchema ∈ (bundleGraph E bundle).out x →
      (receiptAt E bundle hash).isSome = true := fun x hx role targetSchema hm =>
    receiptAt_isSome_of_resolved (law.edges x hx _ hm)
  rcases hn with hreach | ⟨x, hx, role, targetSchema, hm⟩
  · rcases Relation.ReflTransGen.cases_tail hreach with rfl | ⟨x, hx, m, hm, ht, -⟩
    · exact .inl rfl
    · cases m with
      | typedReceiptDependency target role targetSchema =>
        obtain rfl : target = hash := Option.some.inj ht
        exact .inr (hedge x hx role targetSchema hm)
      | _ => cases ht
  · exact .inr (hedge x hx role targetSchema hm)

/-- A receipt is left under its hash when strings that do not declare the root's hash come before
those supplied. -/
theorem receiptAt_prepend {more : List String} {hash : String}
    (hroot : E.fromStr bundle.rootCanonical = .ok rootValue)
    (hh : readEventHash rootValue = some rootHash)
    (hmore : ∀ raw ∈ more, declaredHash E raw ≠ some rootHash)
    (hsome : hash = rootHash ∨ (receiptAt E bundle hash).isSome = true) :
    receiptAt E bundle hash =
      receiptAt E { bundle with receipts := more ++ bundle.receipts } hash := by
  rw [receiptAt_eq_getLast?] at hsome ⊢
  rw [receiptAt_eq_getLast?]
  by_cases hhash : hash = rootHash
  · subst hhash
    have hnone : more.filterMap (declares E hash) = [] := by
      refine List.filterMap_eq_nil_iff.2 fun raw hraw => ?_
      cases hd : declares E hash raw with
      | none => rfl
      | some r =>
        obtain ⟨-, hjson, hdecl⟩ := declares_eq_some.1 hd
        exact absurd ((declaredHash_of_json hjson).trans hdecl) (hmore raw hraw)
    simp only [List.filterMap_cons, List.filterMap_append, hnone, List.nil_append]
  · have hnone : declares E hash bundle.rootCanonical = none :=
      declares_eq_none hroot hh (Ne.symm hhash)
    simp only [List.filterMap_cons, hnone, List.filterMap_append, List.getLast?_append] at hsome ⊢
    obtain ⟨r, hr⟩ := Option.isSome_iff_exists.1 (hsome.resolve_left hhash)
    rw [hr, Option.some_or]

/-- **What is supplied before the strings of a valid bundle changes nothing**, as long as it is JSON
and does not declare the hash of the root. -/
theorem verifyClosureBundle_prepend {rawBytes rawBytes' : Bytes} {more : List String}
    (hb : E.closureBundleFromSlice rawBytes = .ok bundle)
    (hb' : E.closureBundleFromSlice rawBytes' =
      .ok { bundle with receipts := more ++ bundle.receipts })
    (hjson : ∀ raw ∈ more, (E.fromStr raw).isOk = true)
    (hmore : ∀ raw ∈ more, declaredHash E raw ≠ declaredHash E bundle.rootCanonical)
    (hvalid : (verifyClosureBundle E rawBytes).status = .valid) :
    verifyClosureBundle E rawBytes' = verifyClosureBundle E rawBytes := by
  obtain ⟨bundle', rootValue, rootHash, ho⟩ := opens_of_valid hvalid
  obtain rfl : bundle = bundle' := Except.ok.inj (hb.symm.trans ho.parsed)
  have law := ho.valid_iff.1 hvalid
  have hdeclared : declaredHash E bundle.rootCanonical = some rootHash :=
    (declaredHash_of_json ho.root).trans ho.hash
  refine (verifyClosureBundle_congr hb hb' ?_ fun rootValue' rootHash' hroot' hh' h hn => ?_).symm
  · have hnone : more.filter (fun raw => !(E.fromStr raw).isOk) = [] := by
      simpa [List.filter_eq_nil_iff] using hjson
    simp [ignoredErrors, hnone]
  · obtain rfl := Except.ok.inj (ho.root.symm.trans hroot')
    obtain rfl := Option.some.inj (ho.hash.symm.trans hh')
    exact receiptAt_prepend ho.root ho.hash (fun raw hraw => hdeclared ▸ hmore raw hraw)
      (law.isSome_of_named hn)

/-! ### The test vectors with more strings -/

/-- The vector, with its manifest's body among the supplied strings. -/
def paddedBundle : ClosureBundle :=
  { vectorBundle with
    receipts := [modelReceipt.toValue.text, vectorManifestBody.text, providerReceipt.toValue.text] }

theorem paddedBundles_nodup :
    ([vectorBundle, paddedBundle].map fun b => b.toValue.chars).Nodup := by
  -- the common start cancels before anything is evaluated
  simp only [List.map_cons, List.map_nil, vectorBundle, paddedBundle, ClosureBundle.toValue,
    Json.chars, Json.fieldChars, Json.ofStrings, Json.elemChars, Json.stringText_text,
    List.nodup_cons, List.nodup_nil, List.mem_cons, List.not_mem_nil, not_false_eq_true, or_false,
    and_true, List.isEmpty_cons, List.isEmpty_nil, if_true, if_false, Bool.false_eq_true,
    List.append_assoc, List.cons_append, List.nil_append, List.cons.injEq,
    List.append_cancel_left_eq, true_and]
  decide +kernel

/-- The third-party code, with the padded bundle among the bundles it reads. -/
def paddedTables : Tables :=
  { vectorTables with
    closureBundles := [vectorBundle, paddedBundle]
    closureBundles_nodup := paddedBundles_nodup }

theorem declares_eq_none_of_unreadable {hash raw : String} {value : Json}
    (hjson : E.fromStr raw = .ok value) (hread : readEventHash value = none) :
    declares E hash raw = none := by
  simp [declares, hjson, hread]

/-- A string that is passed over may be inserted. -/
theorem filterMap_insert {α : Type} {f : String → Option α} {raw : String} (h : f raw = none)
    (before after : List String) :
    (before ++ after).filterMap f = (before ++ raw :: after).filterMap f := by
  simp [h]

theorem countP_insert {p : String → Bool} {raw : String} (h : p raw = false)
    (before after : List String) :
    (before ++ after).countP p = (before ++ raw :: after).countP p := by
  simp [h]

/-- The body of the manifest declares no hash. -/
theorem verifyClosureBundle_relevant_paddedBundle :
    verifyClosureBundle paddedTables.externals (asBytes vectorBundle.toValue.text) =
      verifyClosureBundle paddedTables.externals (asBytes paddedBundle.toValue.text) := by
  have hjson : paddedTables.externals.fromStr vectorManifestBody.text = .ok vectorManifestBody :=
    Tables.fromStr_text (by simp [paddedTables, vectorTables, Tables.values])
  have hpadded : paddedTables.externals.closureBundleFromSlice
      (asBytes paddedBundle.toValue.text) = .ok paddedBundle :=
    Tables.closureBundleFromSlice_text (by simp [paddedTables])
  have hbroken : (!(paddedTables.externals.fromStr vectorManifestBody.text).isOk) = false := by
    rw [Except.isOk_iff.2 ⟨_, hjson⟩]
    rfl
  refine verifyClosureBundle_relevant
    (Tables.closureBundleFromSlice_text (by simp [paddedTables])) hpadded ?_
    fun rootValue rootHash _ _ h _ => ?_
  · exact countP_insert (p := fun raw => !(paddedTables.externals.fromStr raw).isOk) hbroken
      [modelReceipt.toValue.text] [providerReceipt.toValue.text]
  · exact filterMap_insert (declares_eq_none_of_unreadable hjson rfl)
      [modelReceipt.toValue.text] [providerReceipt.toValue.text]

/-- A string that claims the hash of the model comes first. -/
theorem verifyClosureBundle_prepend_modelClaim :
    verifyClosureBundle vectorTables.externals (asBytes contestedBundle.toValue.text) =
      verifyClosureBundle vectorTables.externals (asBytes vectorBundle.toValue.text) := by
  have hn := vectorHashes_nodup
  simp only [List.nodup_cons, List.mem_cons, List.not_mem_nil, or_false, not_or] at hn
  have hcontested : vectorTables.externals.closureBundleFromSlice
      (asBytes contestedBundle.toValue.text) =
        .ok { vectorBundle with receipts := [modelClaim.text] ++ vectorBundle.receipts } :=
    Tables.closureBundleFromSlice_text (by simp [vectorTables])
  have ho := opens_of_vectorRoot (by simp [vectorTables]) rfl vectorBundle_rootCanonical
  refine verifyClosureBundle_prepend ho.parsed hcontested ?_ ?_ (ho.valid_iff.2
    ((closureLaw_iff_receiptLaw distinctHashes_vectorBundle).2 receiptLaw_vectorBundle))
  · intro raw hraw
    rw [List.mem_singleton.1 hraw]
    exact Except.isOk_iff.2 ⟨_, json_modelClaim⟩
  · intro raw hraw
    have hread : readEventHash modelClaim = some modelHash.toHex := rfl
    rw [List.mem_singleton.1 hraw, vectorBundle_rootCanonical, receiptOf_pack.declaredHash,
      declaredHash_of_json json_modelClaim, hread]
    exact fun h => hn.1.1 (Option.some.inj h).symm

end VertRule
