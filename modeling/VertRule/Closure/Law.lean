import VertRule.Closure.Verify

/-!
# The closure law

What a closure bundle without errors amounts to on the index `verify_closure_bundle` builds.
-/

namespace VertRule

variable (E : Externals)

/-- The manifest commits to itself, the root commits to it, and its count is right. -/
structure ManifestLaw (manifest : Json) (committedRootDigest : Option String) : Prop where
  digest : ∃ obj canonical, manifest = .object obj ∧
    typedCanonBytes E (.object (Json.removeKey obj "manifest_digest")) = .ok canonical ∧
    manifest.get "manifest_digest" = some (.string (E.blake3 canonical).toHex) ∧
    committedRootDigest = some (E.blake3 canonical).toHex
  count : ∀ c elems, manifest.get "dependency_count" = some (.ofU64 c) →
    manifest.get "receipt_closure" = some (.array elems) → c.toNat = elems.length

/-- A supplied string that is not JSON is ignored; any other is indexed. -/
def indexReceipt (index : Index) (raw : String) : Index :=
  match E.fromStr raw with
  | .ok v => insertNode E index v raw
  | .error _ => index

/-- The index of a bundle. -/
def bundleIndex (bundle : ClosureBundle) : Index :=
  (bundle.rootCanonical :: bundle.receipts).foldl (indexReceipt E) ∅

/-- The graph of a bundle. -/
abbrev bundleGraph (bundle : ClosureBundle) : Dfs.Graph String SupportMember :=
  depGraph (bundleIndex E bundle)

/-- **The closure law on the index**: the root is a valid pack receipt, the manifest law holds,
every supplied string is JSON, every dependency of a reachable receipt is a resolved typed edge,
no cycle is reachable, and what is reachable is what the manifest lists. -/
structure ClosureLaw (bundle : ClosureBundle) (rootValue : Json) (rootHash : String) : Prop where
  root : (verifyReceipt E (asBytes bundle.rootCanonical)).status = .valid
  kind : readPayloadKind rootValue = some packPayloadKind
  manifest : ManifestLaw E bundle.manifest (readClosureManifestDigest rootValue)
  supplied : ∀ raw ∈ bundle.receipts, (E.fromStr raw).isOk = true
  edges : ∀ h, (bundleGraph E bundle).Reach rootHash h → ∀ m ∈ (bundleGraph E bundle).out h,
    (edgeCheck (bundleIndex E bundle) m).status = .resolved
  acyclic : ∀ h, (bundleGraph E bundle).Reach rootHash h →
    ¬ Relation.TransGen (bundleGraph E bundle).Step h h
  complete : ∀ h, h ∈ committedClosure bundle.manifest ↔
    h ≠ rootHash ∧ (bundleGraph E bundle).Reach rootHash h

/-- The bytes parse as a bundle of the right format, whose root is JSON and declares an event
hash. -/
structure Opens (rawBytes : Bytes) (bundle : ClosureBundle) (rootValue : Json)
    (rootHash : String) : Prop where
  parsed : E.closureBundleFromSlice rawBytes = .ok bundle
  format : bundle.format = closureBundleFormat
  root : E.fromStr bundle.rootCanonical = .ok rootValue
  hash : readEventHash rootValue = some rootHash

variable {E}

/-! ### The manifest check -/

theorem asStr_bind_eq_some {v : Option Json} {s : String} :
    v.bind Json.asStr = some s ↔ v = some (.string s) := by
  cases v <;> simp [Json.asStr_eq_some]

theorem asArray_bind_eq_some {v : Option Json} {elems : List Json} :
    v.bind Json.asArray = some elems ↔ v = some (.array elems) := by
  cases v with
  | none => simp
  | some w => cases w <;> simp [Json.asArray]

theorem asU64_bind_eq_some {v : Option Json} {c : UInt64} :
    v.bind Json.asU64 = some c ↔ v = some (.ofU64 c) := by
  cases v with
  | none => simp
  | some w =>
    cases w with
    | number n => cases n <;> simp [Json.asU64, Json.ofU64]
    | _ => simp [Json.asU64, Json.ofU64]

theorem manifestLaw_object_iff {obj : List (String × Json)} {committed : Option String} :
    ManifestLaw E (.object obj) committed ↔
      (∃ canonical, typedCanonBytes E (.object (Json.removeKey obj "manifest_digest")) =
          .ok canonical ∧
        (obj.lookup "manifest_digest").bind Json.asStr = some (E.blake3 canonical).toHex ∧
        committed = some (E.blake3 canonical).toHex) ∧
      ∀ c l, (obj.lookup "dependency_count").bind Json.asU64 = some c →
        ((obj.lookup "receipt_closure").bind Json.asArray).map List.length = some l →
        c.toNat = l := by
  constructor
  · rintro ⟨⟨obj', canonical, hobj, hc, hs, hr⟩, hcount⟩
    cases hobj
    refine ⟨⟨canonical, hc, asStr_bind_eq_some.2 hs, hr⟩, fun c l hcnt hlen => ?_⟩
    obtain ⟨elems, he, rfl⟩ := Option.map_eq_some_iff.1 hlen
    exact hcount c elems (asU64_bind_eq_some.1 hcnt) (asArray_bind_eq_some.1 he)
  · rintro ⟨⟨canonical, hc, hs, hr⟩, hcount⟩
    refine ⟨⟨obj, canonical, rfl, hc, asStr_bind_eq_some.1 hs, hr⟩, fun c elems hcnt hlen => ?_⟩
    exact hcount c elems.length (asU64_bind_eq_some.2 hcnt)
      (by rw [asArray_bind_eq_some.2 (by exact hlen)]; rfl)

/-- A step of the manifest check keeps `ok`, and adds no error, exactly when `p` holds. -/
structure ManifestCheck.Tests (st st' : ManifestCheck) (p : Prop) : Prop where
  ok : st'.1 = true ↔ st.1 = true ∧ p
  errors : st'.2 = [] ↔ st.2 = [] ∧ p

theorem ManifestCheck.Tests.pass {st : ManifestCheck} {p : Prop} (h : p) : st.Tests st p :=
  ⟨by simp [h], by simp [h]⟩

theorem ManifestCheck.Tests.fail {st : ManifestCheck} {p : Prop} (h : ¬ p) (error : String) :
    st.Tests (st.fail error) p :=
  ⟨by simp [ManifestCheck.fail, h], by simp [ManifestCheck.fail, h]⟩

theorem ManifestCheck.Tests.trans {st st' st'' : ManifestCheck} {p q : Prop}
    (h : st.Tests st' p) (h' : st'.Tests st'' q) : st.Tests st'' (p ∧ q) :=
  ⟨by rw [h'.ok, h.ok, and_assoc], by rw [h'.errors, h.errors, and_assoc]⟩

theorem checkStatedDigest_tests {recomputed stated : Option String} {st : ManifestCheck} :
    st.Tests (checkStatedDigest recomputed stated st)
      (∃ r, recomputed = some r ∧ stated = some r) := by
  unfold checkStatedDigest
  split
  · split_ifs with h
    · exact .pass ⟨_, rfl, by rw [h]⟩
    · exact .fail (by simpa [eq_comm] using h) _
  · next hne => exact .fail (fun ⟨r, hr, hs⟩ => hne r r hr hs) _

theorem checkCommittedDigest_tests {recomputed committed : Option String} {st : ManifestCheck} :
    st.Tests (checkCommittedDigest recomputed committed st)
      (∃ c, committed = some c ∧ ∀ r, recomputed = some r → r = c) := by
  unfold checkCommittedDigest
  split
  · split_ifs with h
    · exact .fail (by simpa using h) _
    · exact .pass ⟨_, rfl, by simpa using h⟩
  · exact .fail (by simp) _
  · exact .pass ⟨_, rfl, by simp⟩

theorem checkDependencyCount_tests {count : Option UInt64} {listed : Option ℕ}
    {st : ManifestCheck} :
    st.Tests (checkDependencyCount count listed st)
      (∀ c l, count = some c → listed = some l → c.toNat = l) := by
  unfold checkDependencyCount
  split
  · split_ifs with h
    · exact .fail (by simpa using h) _
    · exact .pass (by simpa using h)
  · next hne => exact .pass fun c l hc hl => absurd hl (hne c l hc)

/-- **The manifest check reports success, and adds no error, exactly when the manifest law
holds.** -/
theorem checkManifestDigest_tests {manifest : Json} {committed : Option String}
    {errors : List String} :
    ManifestCheck.Tests (true, errors) (checkManifestDigest E manifest committed errors)
      (ManifestLaw E manifest committed) := by
  unfold checkManifestDigest
  cases hobj : manifest.asObject with
  | none =>
    refine ManifestCheck.Tests.fail ?_ _
    rintro ⟨⟨obj, _, rfl, -⟩, -⟩
    simp [Json.asObject] at hobj
  | some obj =>
    obtain rfl := Json.asObject_eq_some.1 hobj
    rw [manifestLaw_object_iff]
    dsimp only
    generalize hrec : (typedCanonBytes E (.object (Json.removeKey obj
      "manifest_digest"))).toOption.map (fun b => (E.blake3 b).toHex) = recomputed
    have hdigest : (∃ canonical, typedCanonBytes E (.object (Json.removeKey obj
        "manifest_digest")) = .ok canonical ∧
        (obj.lookup "manifest_digest").bind Json.asStr = some (E.blake3 canonical).toHex ∧
        committed = some (E.blake3 canonical).toHex) ↔
        (∃ r, recomputed = some r ∧ (obj.lookup "manifest_digest").bind Json.asStr = some r) ∧
          ∃ c, committed = some c ∧ ∀ r, recomputed = some r → r = c := by
      rw [← hrec]
      cases typedCanonBytes E (.object (Json.removeKey obj "manifest_digest")) with
      | error e => simp [Except.toOption]
      | ok canonical => simp [Except.toOption, eq_comm]
    rw [hdigest]
    exact (checkStatedDigest_tests.trans checkCommittedDigest_tests).trans
      checkDependencyCount_tests

/-! ### The other steps -/

theorem rootErrors_eq_nil {rootCanonical : String} {rootValue : Json} :
    rootErrors E rootCanonical rootValue = [] ↔
      (verifyReceipt E (asBytes rootCanonical)).status = .valid ∧
        readPayloadKind rootValue = some packPayloadKind := by
  rw [rootErrors, List.append_eq_nil_iff, verifyReceipt_consistent.prefixedErrors_eq_nil]
  refine and_congr_right fun _ => ?_
  cases readPayloadKind rootValue with
  | none => simp
  | some kind => by_cases h : kind = packPayloadKind <;> simp [h]

/-- The loop over the supplied receipts indexes those that are JSON, and reports nothing exactly
when all are. -/
theorem foldl_addSupplied (raws : List String) (index : Index) (errors : List String) :
    (raws.foldl (addSupplied E) (index, errors)).1 = raws.foldl (indexReceipt E) index ∧
      ((raws.foldl (addSupplied E) (index, errors)).2 = [] ↔
        errors = [] ∧ ∀ raw ∈ raws, (E.fromStr raw).isOk = true) := by
  induction raws generalizing index errors with
  | nil => simp
  | cons raw raws ih =>
    simp only [List.foldl_cons, List.forall_mem_cons]
    cases hv : E.fromStr raw with
    | error e =>
      simp [addSupplied, indexReceipt, hv, ih, Except.isOk, Except.toBool]
    | ok v => simp [addSupplied, indexReceipt, hv, ih, Except.isOk, Except.toBool]

theorem completenessErrors_eq_nil {committed dependencies : Finset String} :
    completenessErrors committed dependencies = [] ↔ committed = dependencies := by
  have hsort : ∀ s : Finset String, s.sort (· ≤ ·) = [] ↔ s = ∅ := fun s => by
    rw [← List.toFinset_eq_empty_iff, Finset.sort_toFinset]
  rw [completenessErrors, List.append_eq_nil_iff, List.map_eq_nil_iff, List.map_eq_nil_iff, hsort,
    hsort, Finset.sdiff_eq_empty_iff_subset, Finset.sdiff_eq_empty_iff_subset]
  exact ⟨fun h => h.2.antisymm h.1, fun h => ⟨h.symm.subset, h.subset⟩⟩

/-! ### The report -/

variable {bundle : ClosureBundle} {rootValue : Json} {rootHash : String}

theorem foldl_insertNode_root (hroot : E.fromStr bundle.rootCanonical = .ok rootValue) :
    bundle.receipts.foldl (indexReceipt E) (insertNode E ∅ rootValue bundle.rootCanonical) =
      bundleIndex E bundle := by
  simp [bundleIndex, indexReceipt, hroot]

/-- A root without a readable event hash is an error. -/
theorem checkClosureRoot_errors_ne_nil (hh : readEventHash rootValue = none) :
    (checkClosureRoot E bundle rootValue).errors ≠ [] := by
  intro h
  simp only [checkClosureRoot, hh] at h
  split_ifs at h <;> simp at h

/-- The fields the report takes from the walk. -/
theorem checkClosureRoot_walk (hroot : E.fromStr bundle.rootCanonical = .ok rootValue)
    (hh : readEventHash rootValue = some rootHash) :
    let r := checkClosureRoot E bundle rootValue
    let st := walk (bundleIndex E bundle) rootHash .init
    r.edgeChecks = st.edgeChecks ∧ r.cycleDetected = st.cycleDetected ∧
      r.closureSize = (st.reachable.erase rootHash).card ∧
      (r.closureComplete = true ↔
        committedClosure bundle.manifest = st.reachable.erase rootHash) := by
  have hindex := (foldl_addSupplied (E := E) bundle.receipts
    (insertNode E ∅ rootValue bundle.rootCanonical)
    (checkManifestDigest E bundle.manifest (readClosureManifestDigest rootValue)
      (rootErrors E bundle.rootCanonical rootValue)).2).1
  rw [foldl_insertNode_root hroot] at hindex
  simp [checkClosureRoot, hh, hindex]

/-- No error is reported exactly when each step of the verification passes. -/
theorem checkClosureRoot_errors_eq_nil_iff
    (hroot : E.fromStr bundle.rootCanonical = .ok rootValue)
    (hh : readEventHash rootValue = some rootHash) :
    (checkClosureRoot E bundle rootValue).errors = [] ↔
      (verifyReceipt E (asBytes bundle.rootCanonical)).status = .valid ∧
      readPayloadKind rootValue = some packPayloadKind ∧
      ManifestLaw E bundle.manifest (readClosureManifestDigest rootValue) ∧
      (∀ raw ∈ bundle.receipts, (E.fromStr raw).isOk = true) ∧
      (∀ c ∈ (checkClosureRoot E bundle rootValue).edgeChecks, c.status = .resolved) ∧
      (checkClosureRoot E bundle rootValue).cycleDetected = false ∧
      (checkClosureRoot E bundle rootValue).closureComplete = true := by
  obtain ⟨hindex, hsupplied⟩ := foldl_addSupplied (E := E) bundle.receipts
    (insertNode E ∅ rootValue bundle.rootCanonical)
    (checkManifestDigest E bundle.manifest (readClosureManifestDigest rootValue)
      (rootErrors E bundle.rootCanonical rootValue)).2
  rw [foldl_insertNode_root hroot] at hindex
  rw [checkManifestDigest_tests.errors, rootErrors_eq_nil] at hsupplied
  simp only [checkClosureRoot, hh, hindex, Option.elim_some]
  generalize walk (bundleIndex E bundle) rootHash .init = st
  by_cases hc : committedClosure bundle.manifest = st.reachable.erase rootHash
  swap
  · simp [hc, completenessErrors_eq_nil]
  cases hcyc : st.cycleDetected with
  | true => simp [hc]
  | false =>
    simp only [hc, decide_true, if_true, Bool.false_eq_true, if_false, List.append_eq_nil_iff,
      List.filterMap_eq_nil_iff, EdgeCheck.error_eq_none, hsupplied, and_assoc, and_true]

/-- **No error is reported exactly when the closure law holds.** -/
theorem checkClosureRoot_errors_eq_nil
    (hroot : E.fromStr bundle.rootCanonical = .ok rootValue)
    (hh : readEventHash rootValue = some rootHash) :
    (checkClosureRoot E bundle rootValue).errors = [] ↔
      ClosureLaw E bundle rootValue rootHash := by
  obtain ⟨hec, hcd, -, hcc⟩ := checkClosureRoot_walk hroot hh
  have hchecks : (∀ c ∈ (checkClosureRoot E bundle rootValue).edgeChecks,
      c.status = .resolved) ↔
      ∀ h, (bundleGraph E bundle).Reach rootHash h → ∀ m ∈ (bundleGraph E bundle).out h,
        (edgeCheck (bundleIndex E bundle) m).status = .resolved := by
    simp only [hec, mem_walk_edgeChecks]
    exact ⟨fun H h hr m hm => H _ ⟨h, hr, m, hm, rfl⟩,
      fun H c ⟨h, hr, m, hm, hc⟩ => hc ▸ H h hr m hm⟩
  have hcycle : (∀ c ∈ (checkClosureRoot E bundle rootValue).edgeChecks,
      c.status = .resolved) →
      ((checkClosureRoot E bundle rootValue).cycleDetected = false ↔
        ∀ h, (bundleGraph E bundle).Reach rootHash h →
          ¬ Relation.TransGen (bundleGraph E bundle).Step h h) := by
    intro hres
    rw [hec] at hres
    rw [hcd, ← Bool.not_eq_true, walk_cycleDetected_iff hres]
    simp only [not_exists, not_and]
  have hcomplete : (checkClosureRoot E bundle rootValue).closureComplete = true ↔
      ∀ h, h ∈ committedClosure bundle.manifest ↔
        h ≠ rootHash ∧ (bundleGraph E bundle).Reach rootHash h := by
    simp only [hcc, Finset.ext_iff, Finset.mem_erase, mem_walk_reachable]
  rw [checkClosureRoot_errors_eq_nil_iff hroot hh]
  constructor
  · rintro ⟨hvalid, hkind, hman, hsup, hres, hcyc, hcom⟩
    exact ⟨hvalid, hkind, hman, hsup, hchecks.1 hres, (hcycle hres).1 hcyc, hcomplete.1 hcom⟩
  · rintro ⟨hvalid, hkind, hman, hsup, hedges, hacyc, hcom⟩
    have hres := hchecks.2 hedges
    exact ⟨hvalid, hkind, hman, hsup, hres, (hcycle hres).2 hacyc, hcomplete.2 hcom⟩

/-- The closure report does not contradict itself. -/
structure ClosureBundleVerificationResult.Consistent (r : ClosureBundleVerificationResult) :
    Prop where
  status_iff : r.status = .valid ↔ r.errors = []
  root : r.rootResult.Consistent
  root_valid : r.status = .valid → r.rootResult.status = .valid
  edges : r.status = .valid → ∀ c ∈ r.edgeChecks, c.status = .resolved
  manifest : r.status = .valid → r.manifestDigestOk = true
  complete : r.status = .valid → r.closureComplete = true
  acyclic : r.status = .valid → r.cycleDetected = false

theorem ClosureBundleVerificationResult.Consistent.invalid (error : String) :
    (ClosureBundleVerificationResult.invalid error).Consistent := by
  refine ⟨?_, (VerificationResult.rejected_invalid _).consistent, ?_, ?_, ?_, ?_, ?_⟩ <;>
    simp [ClosureBundleVerificationResult.invalid]

theorem checkClosureRoot_manifestDigestOk :
    (checkClosureRoot E bundle rootValue).manifestDigestOk = true ↔
      ManifestLaw E bundle.manifest (readClosureManifestDigest rootValue) := by
  simp [checkClosureRoot, checkManifestDigest_tests.ok]

theorem checkClosureRoot_valid_iff :
    (checkClosureRoot E bundle rootValue).status = .valid ↔
      let r := checkClosureRoot E bundle rootValue
      r.rootResult.status = .valid ∧ r.manifestDigestOk = true ∧ r.closureComplete = true ∧
        r.cycleDetected = false ∧ r.errors = [] :=
  VerificationStatus.ofDecision_eq_valid

/-- A root without a readable event hash never gives a valid report; with one, the report is
valid exactly when it lists no error. -/
theorem checkClosureRoot_valid_iff_errors
    (hroot : E.fromStr bundle.rootCanonical = .ok rootValue) :
    (checkClosureRoot E bundle rootValue).status = .valid ↔
      (checkClosureRoot E bundle rootValue).errors = [] := by
  rw [checkClosureRoot_valid_iff]
  refine ⟨fun h => h.2.2.2.2, fun h => ?_⟩
  cases hh : readEventHash rootValue with
  | none => exact absurd h (checkClosureRoot_errors_ne_nil hh)
  | some rootHash =>
    obtain ⟨hvalid, -, hman, -, -, hcyc, hcom⟩ :=
      (checkClosureRoot_errors_eq_nil_iff hroot hh).1 h
    exact ⟨hvalid, checkClosureRoot_manifestDigestOk.2 hman, hcom, hcyc, h⟩

theorem checkClosureRoot_consistent (hroot : E.fromStr bundle.rootCanonical = .ok rootValue) :
    (checkClosureRoot E bundle rootValue).Consistent where
  status_iff := checkClosureRoot_valid_iff_errors hroot
  root := verifyReceipt_consistent
  root_valid h := (checkClosureRoot_valid_iff.1 h).1
  edges h := by
    have he := (checkClosureRoot_valid_iff_errors hroot).1 h
    cases hh : readEventHash rootValue with
    | none => exact absurd he (checkClosureRoot_errors_ne_nil hh)
    | some rootHash => exact ((checkClosureRoot_errors_eq_nil_iff hroot hh).1 he).2.2.2.2.1
  manifest h := (checkClosureRoot_valid_iff.1 h).2.1
  complete h := (checkClosureRoot_valid_iff.1 h).2.2.1
  acyclic h := (checkClosureRoot_valid_iff.1 h).2.2.2.1

variable {rawBytes : Bytes}

/-- The report on a bundle that opens. -/
theorem Opens.report_eq (h : Opens E rawBytes bundle rootValue rootHash) :
    verifyClosureBundle E rawBytes = checkClosureRoot E bundle rootValue := by
  simp [verifyClosureBundle, h.parsed, h.format, checkClosureBundle, h.root]

theorem Opens.valid_iff (h : Opens E rawBytes bundle rootValue rootHash) :
    (verifyClosureBundle E rawBytes).status = .valid ↔
      ClosureLaw E bundle rootValue rootHash := by
  rw [h.report_eq, checkClosureRoot_valid_iff_errors h.root,
    checkClosureRoot_errors_eq_nil h.root h.hash]

/-- Bytes open in one way only. -/
theorem Opens.unique {bundle' : ClosureBundle} {rootValue' : Json} {rootHash' : String}
    (h : Opens E rawBytes bundle rootValue rootHash)
    (h' : Opens E rawBytes bundle' rootValue' rootHash') :
    bundle = bundle' ∧ rootValue = rootValue' ∧ rootHash = rootHash' := by
  obtain rfl := Except.ok.inj (h.parsed.symm.trans h'.parsed)
  obtain rfl := Except.ok.inj (h.root.symm.trans h'.root)
  obtain rfl := Option.some.inj (h.hash.symm.trans h'.hash)
  exact ⟨rfl, rfl, rfl⟩

theorem verifyClosureBundle_consistent :
    (verifyClosureBundle E rawBytes).Consistent := by
  unfold verifyClosureBundle
  cases E.closureBundleFromSlice rawBytes with
  | error e => exact .invalid _
  | ok bundle =>
    dsimp only
    by_cases hf : bundle.format ≠ closureBundleFormat
    · rw [if_pos hf]
      exact .invalid _
    · rw [if_neg hf, checkClosureBundle]
      cases hroot : E.fromStr bundle.rootCanonical with
      | error e => exact .invalid _
      | ok rootValue => exact checkClosureRoot_consistent hroot

/-- Bytes that do not open are not valid. -/
theorem opens_of_valid (h : (verifyClosureBundle E rawBytes).status = .valid) :
    ∃ bundle rootValue rootHash, Opens E rawBytes bundle rootValue rootHash := by
  unfold verifyClosureBundle at h
  cases hb : E.closureBundleFromSlice rawBytes with
  | error e => simp [hb, ClosureBundleVerificationResult.invalid] at h
  | ok bundle =>
    by_cases hf : bundle.format = closureBundleFormat
    swap
    · simp [hb, hf, ClosureBundleVerificationResult.invalid] at h
    cases hroot : E.fromStr bundle.rootCanonical with
    | error e =>
      simp [hb, hf, hroot, checkClosureBundle, ClosureBundleVerificationResult.invalid] at h
    | ok rootValue =>
      simp only [hb, hf, hroot, checkClosureBundle, ne_eq, not_true_eq_false, if_false] at h
      cases hh : readEventHash rootValue with
      | none =>
        exact absurd ((checkClosureRoot_valid_iff_errors hroot).1 h)
          (checkClosureRoot_errors_ne_nil hh)
      | some rootHash => exact ⟨bundle, rootValue, rootHash, hb, hf, hroot, hh⟩

/-- **A closure bundle is valid exactly when it opens and the closure law holds on its
index.** -/
theorem verifyClosureBundle_valid_iff :
    (verifyClosureBundle E rawBytes).status = .valid ↔
      ∃ bundle rootValue rootHash, Opens E rawBytes bundle rootValue rootHash ∧
        ClosureLaw E bundle rootValue rootHash := by
  constructor
  · intro h
    obtain ⟨bundle, rootValue, rootHash, ho⟩ := opens_of_valid h
    exact ⟨bundle, rootValue, rootHash, ho, ho.valid_iff.1 h⟩
  · rintro ⟨bundle, rootValue, rootHash, ho, law⟩
    exact ho.valid_iff.2 law

/-- The closure law of a root without dependencies. -/
theorem closureLaw_of_out_eq_nil
    (hroot : (verifyReceipt E (asBytes bundle.rootCanonical)).status = .valid)
    (hkind : readPayloadKind rootValue = some packPayloadKind)
    (hmanifest : ManifestLaw E bundle.manifest (readClosureManifestDigest rootValue))
    (hsupplied : ∀ raw ∈ bundle.receipts, (E.fromStr raw).isOk = true)
    (hout : (bundleGraph E bundle).out rootHash = [])
    (hclosure : committedClosure bundle.manifest = ∅) :
    ClosureLaw E bundle rootValue rootHash where
  root := hroot
  kind := hkind
  manifest := hmanifest
  supplied := hsupplied
  edges h hr m hm := by
    rw [Dfs.Graph.eq_of_reach_of_out_eq_nil hout hr, hout] at hm
    cases hm
  acyclic h hr hc := by
    rw [Dfs.Graph.eq_of_reach_of_out_eq_nil hout hr] at hc
    obtain ⟨x, ⟨e, he, -⟩, -⟩ := Relation.TransGen.head'_iff.1 hc
    rw [hout] at he
    cases he
  complete h := by
    simp only [hclosure, Finset.notMem_empty, false_iff, not_and]
    exact fun hne hr => hne (Dfs.Graph.eq_of_reach_of_out_eq_nil hout hr)

end VertRule
