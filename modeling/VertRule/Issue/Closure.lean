import VertRule.Issue.Packs
import VertRule.Lib.HashGraph

/-!
# Issued closure bundles

A closure bundle carries a root, the receipts it depends on, however far, and a manifest that lists
them.  An issuer can name a receipt only after it has issued it, so what it issues has no cycle; the
verifier asks for the rest (`verifyClosureBundle_issued_iff`).
-/

namespace VertRule

namespace Issue

/-! ### The issuer -/

section Issuer

/-- The closure manifest, before its digest is known. -/
def manifestBody (closure : List String) (dependencyCount : UInt64) : List (String × Json) :=
  [("schema", .string "vr.closure_manifest.v0"), ("receipt_closure", .ofStrings closure),
    ("dependency_count", .ofU64 dependencyCount)]

variable (E : Externals)

/-- The closure manifest of `gen_closure_bundle`, and its digest. -/
def issueManifest (closure : List String) (dependencyCount : UInt64) :
    Except VerifyError (String × Json) := do
  let body := manifestBody (closure.mergeSort (· ≤ ·)) dependencyCount
  let manifestDigest ← canonHash E (.object body)
  pure (manifestDigest, .object (body ++ [("manifest_digest", .string manifestDigest)]))

/-- The receipt that a typed member names. -/
def Member.target : Member → Option String
  | .typedReceiptDependency eventHash _ _ => some eventHash
  | _ => none

/-- The receipts that a receipt names by typed members. -/
def PackReceipt.targets (r : PackReceipt) : List String := r.members.filterMap Member.target

/-- What is issued, the last receipt first: each has a new hash, and names only receipts that were
issued before it. -/
inductive Issuance (roles : String → Prop) : List PackReceipt → Prop
  | nil : Issuance roles []
  | issue {issued : List PackReceipt} {r : PackReceipt} (h : Issuance roles issued)
    (hbuilt : r.Built E) (hknown : ∀ m ∈ r.members, m.Known roles)
    (hnew : r.eventHash ∉ issued.map (·.eventHash))
    (htargets : ∀ target ∈ r.targets, target ∈ issued.map (·.eventHash)) :
    Issuance roles (r :: issued)

end Issuer

variable {E : Externals} {norm : Json → Json} {roles : String → Prop} {r : PackReceipt}
  {issued : List PackReceipt}

namespace Issuance

theorem built (h : Issuance E roles issued) : ∀ r ∈ issued, r.Built E := by
  induction h with
  | nil => simp
  | issue _ hbuilt _ _ _ ih => exact List.forall_mem_cons.2 ⟨hbuilt, ih⟩

theorem known (h : Issuance E roles issued) : ∀ r ∈ issued, ∀ m ∈ r.members, m.Known roles := by
  induction h with
  | nil => simp
  | issue _ _ hknown _ _ ih => exact List.forall_mem_cons.2 ⟨hknown, ih⟩

theorem grown (h : Issuance E roles issued) :
    HashGraph.Grown PackReceipt.eventHash PackReceipt.targets issued := by
  induction h with
  | nil => exact .nil
  | issue _ _ _ hnew htargets ih => exact .add ih hnew htargets

end Issuance

/-! ### The manifest -/

section Manifest

variable {closure : List String} {dependencyCount : UInt64} {manifestDigest : String}
  {manifest read : Json}

theorem issueManifest_eq_ok :
    issueManifest E closure dependencyCount = .ok (manifestDigest, manifest) ↔
      ∃ c, typedCanonBytes E
          (.object (manifestBody (closure.mergeSort (· ≤ ·)) dependencyCount)) = .ok c ∧
        manifestDigest = (E.blake3 c).toHex ∧ manifest = .object
          (manifestBody (closure.mergeSort (· ≤ ·)) dependencyCount ++
            [("manifest_digest", .string manifestDigest)]) := by
  simp only [issueManifest, canonHash, Except.bind_eq_ok, Except.pure_eq_ok, Except.ok.injEq,
    Prod.mk.injEq]
  constructor
  · rintro ⟨_, ⟨c, hc, rfl⟩, rfl, rfl⟩
    exact ⟨c, hc, rfl, rfl⟩
  · rintro ⟨c, hc, rfl, rfl⟩
    exact ⟨_, ⟨c, hc, rfl⟩, rfl, rfl⟩

/-- The closure is read back as it was listed. -/
theorem committedClosure_issued (normal : NormalForm E norm)
    (hissue : issueManifest E closure dependencyCount = .ok (manifestDigest, manifest))
    (hread : norm read = norm manifest) (hash : String) :
    hash ∈ committedClosure read ↔ hash ∈ closure := by
  obtain ⟨c, -, -, rfl⟩ := issueManifest_eq_ok.1 hissue
  obtain ⟨fields, rfl, -, hl⟩ := normal.members (by simp [manifestBody]) hread
  obtain ⟨w, hw, hn⟩ := Option.map_eq_some_iff.1 (hl "receipt_closure")
  have hclosure : w = .ofStrings (closure.mergeSort (· ≤ ·)) := normal.ofStrings hn
  have hstrings : ((Json.object fields).get "receipt_closure").bind Json.asArray =
      some ((closure.mergeSort (· ≤ ·)).map .string) := by
    rw [Json.get_object, hw, hclosure]
    rfl
  rw [committedClosure, hstrings, Option.getD_some, List.mem_toFinset, List.mem_filterMap]
  simp [Json.asStr, List.mem_mergeSort]

/-- The manifest commits to itself and the root to the manifest, whatever is listed; its count has
to be right. -/
theorem manifestLaw_issued_iff (normal : NormalForm E norm)
    (hissue : issueManifest E closure dependencyCount = .ok (manifestDigest, manifest))
    (hread : norm read = norm manifest)
    (hcount : read.get "dependency_count" = some (.ofU64 dependencyCount)) :
    ManifestLaw E read (some manifestDigest) ↔ dependencyCount.toNat = closure.length := by
  obtain ⟨c, hc, hdigest, rfl⟩ := issueManifest_eq_ok.1 hissue
  obtain ⟨fields, rfl, hnodup, hl⟩ := normal.members (by simp [manifestBody]) hread
  have hstated : fields.lookup "manifest_digest" = some (.string manifestDigest) := by
    obtain ⟨w, hw, hn⟩ := Option.map_eq_some_iff.1 (hl "manifest_digest")
    rw [hw, normal.string hn]
  have hclosure : fields.lookup "receipt_closure" =
      some (.ofStrings (closure.mergeSort (· ≤ ·))) := by
    obtain ⟨w, hw, hn⟩ := Option.map_eq_some_iff.1 (hl "receipt_closure")
    rw [hw, normal.ofStrings hn]
  constructor
  · intro law
    have hlength := law.count _ _ hcount hclosure
    rwa [List.length_map, List.length_mergeSort] at hlength
  · intro hlength
    -- without its digest, what is read has the members of the body that was hashed
    have hbody : norm (.object (Json.removeKey fields "manifest_digest")) =
        norm (.object (manifestBody (closure.mergeSort (· ≤ ·)) dependencyCount)) := by
      refine normal.object (hnodup.sublist (List.filter_sublist.map _)) (by simp [manifestBody])
        fun key => ?_
      by_cases hkey : key = "manifest_digest"
      · subst hkey
        rw [lookup_removeKey_self]
        rfl
      · rw [Json.lookup_removeKey hkey, hl, lookup_append_singleton_of_ne hkey]
    refine ⟨⟨fields, c, rfl, (normal.canonical hc).2 hbody, ?_, by rw [hdigest]⟩, ?_⟩
    · rw [Json.get_object, hstated, hdigest]
    · intro n elems hn helems
      rw [hcount] at hn
      rw [Json.get_object, hclosure] at helems
      obtain rfl := Number.posInt.inj (Json.number.inj (Option.some.inj hn))
      rw [hlength, ← Json.array.inj (Option.some.inj helems), List.length_map,
        List.length_mergeSort]

end Manifest

/-! ### The graph -/

section Graph

variable {root : PackReceipt} {deps : List PackReceipt} {manifest : Json}

/-- The bundle of a root, what is added to it, and a manifest. -/
def issuedClosure (root : PackReceipt) (deps : List PackReceipt) (manifest : Json) :
    ClosureBundle where
  format := closureBundleFormat
  rootCanonical := root.text
  manifest := manifest
  receipts := deps.map (·.text)

theorem receiptOf_issuedClosure (laws : IssueLaws E norm) (hbuilt : ∀ r ∈ root :: deps, r.Built E)
    {hash raw : String} {value : Json} :
    ReceiptOf E (issuedClosure root deps manifest) hash raw value ↔
      ∃ r ∈ root :: deps, r.eventHash = hash ∧ r.text = raw ∧ r.Reads E norm value := by
  have hmem : raw ∈ (issuedClosure root deps manifest).rootCanonical ::
      (issuedClosure root deps manifest).receipts ↔ ∃ r ∈ root :: deps, r.text = raw := by
    rw [issuedClosure, ← List.map_cons (f := fun r : PackReceipt => r.text), List.mem_map]
  constructor
  · intro h
    obtain ⟨r, hr, rfl⟩ := hmem.1 h.mem
    obtain ⟨value', hread⟩ := (hbuilt r hr).reads laws
    obtain rfl := Except.ok.inj (h.json.symm.trans hread.json)
    exact ⟨r, hr, Option.some.inj (hread.hash.symm.trans h.hash), rfl, hread⟩
  · rintro ⟨r, hr, rfl, rfl, hread⟩
    exact ⟨hmem.2 ⟨r, hr, rfl⟩, hread.json, hread.hash⟩

theorem distinctHashes_issuedClosure (laws : IssueLaws E norm)
    (hbuilt : ∀ r ∈ root :: deps, r.Built E)
    (hdistinct : ((root :: deps).map (·.eventHash)).Nodup) :
    DistinctHashes E (issuedClosure root deps manifest) := by
  have hhashes : ∀ rs : List PackReceipt, (∀ r ∈ rs, r.Built E) →
      (rs.map (·.text)).filterMap (declaredHash E) = rs.map (·.eventHash) := by
    intro rs hrs
    rw [List.filterMap_map, ← List.filterMap_eq_map]
    refine List.filterMap_congr fun r hr => ?_
    obtain ⟨value, hread⟩ := (hrs r hr).reads laws
    simp [declaredHash, hread.json, hread.hash, Except.toOption]
  rw [DistinctHashes, issuedClosure, ← List.map_cons (f := fun r : PackReceipt => r.text),
    hhashes _ hbuilt]
  exact hdistinct

/-- What a bundle commits to is what its receipts were issued with. -/
theorem commits_issuedClosure (laws : IssueLaws E norm) (decodes : MemberLaws E norm roles)
    (hbuilt : ∀ r ∈ root :: deps, r.Built E)
    (hknown : ∀ r ∈ root :: deps, ∀ m ∈ r.members, m.Known roles) {hash : String}
    {m : SupportMember} :
    Commits E (issuedClosure root deps manifest) hash m ↔
      ∃ r ∈ root :: deps, r.eventHash = hash ∧ m ∈ r.members.map Member.read := by
  constructor
  · rintro ⟨raw, value, s, ms, hreceipt, hs, hdecode, hm⟩
    obtain ⟨r, hr, hhash, -, hread⟩ := (receiptOf_issuedClosure laws hbuilt).1 hreceipt
    have hms : DecodesTo E (readSupportSet value) ms := by
      rw [hs]
      exact hdecode
    obtain ⟨-, rfl⟩ := (hread.supportSet laws decodes (hbuilt r hr) ms).1 hms
    exact ⟨r, hr, hhash, hm⟩
  · rintro ⟨r, hr, hhash, hm⟩
    obtain ⟨value, hread⟩ := (hbuilt r hr).reads laws
    have hms := (hread.supportSet laws decodes (hbuilt r hr) _).2 ⟨hknown r hr, rfl⟩
    cases hs : readSupportSet value with
    | none =>
      -- a receipt without a support set has no members
      rw [hs] at hms
      rw [show r.members.map Member.read = [] from hms] at hm
      cases hm
    | some s =>
      rw [hs] at hms
      exact ⟨r.text, value, s, _,
        (receiptOf_issuedClosure laws hbuilt).2 ⟨r, hr, hhash, rfl, hread⟩, hs, hms, hm⟩

theorem dependsOn_issuedClosure (laws : IssueLaws E norm) (decodes : MemberLaws E norm roles)
    (hbuilt : ∀ r ∈ root :: deps, r.Built E)
    (hknown : ∀ r ∈ root :: deps, ∀ m ∈ r.members, m.Known roles) :
    DependsOn E (issuedClosure root deps manifest) =
      HashGraph.Names PackReceipt.eventHash PackReceipt.targets (root :: deps) := by
  funext hash target
  refine propext ?_
  simp only [DependsOn, commits_issuedClosure laws decodes hbuilt hknown,
    Member.typedReceiptDependency_mem_map_read]
  constructor
  · rintro ⟨_, targetSchema, r, hr, hhash, label, -, hm⟩
    exact ⟨r, hr, hhash, List.mem_filterMap.2 ⟨_, hm, rfl⟩⟩
  · rintro ⟨r, hr, hhash, htarget⟩
    obtain ⟨m, hm, hmt⟩ := List.mem_filterMap.1 htarget
    cases m with
    | typedReceiptDependency eventHash label targetSchema =>
      obtain rfl := Option.some.inj hmt
      exact ⟨_, targetSchema, r, hr, hhash, label, rfl, hm⟩
    | _ => cases hmt

variable (root deps) in
/-- The receipts of the bundle that the root leads to. -/
abbrev Reaches (hash : String) : Prop :=
  Relation.ReflTransGen (HashGraph.Names PackReceipt.eventHash PackReceipt.targets (root :: deps))
    root.eventHash hash

variable (E root deps) in
/-- What the issuer of a closure bundle has to see to: its root is a pack; what it leads to has
typed members only, and each of these names a receipt of the bundle, and its kind; and the
manifest lists what the root leads to. -/
structure ClosureIssue (closure : List String) (dependencyCount : UInt64) : Prop where
  ingested : root.Ingested E
  kind : root.kind = some packPayloadKind
  count : dependencyCount.toNat = closure.length
  typed : ∀ r ∈ root :: deps, Reaches root deps r.eventHash →
    ∀ target, Member.dependedOnReceipt target ∉ r.members
  resolved : ∀ r ∈ root :: deps, Reaches root deps r.eventHash → ∀ target role targetSchema,
    Member.typedReceiptDependency target role targetSchema ∈ r.members →
    ∃ dep ∈ root :: deps, dep.eventHash = target ∧ dep.Ingested E ∧
      dep.kind = some targetSchema ∧ targetSchema ∈ layeredKinds
  complete : ∀ hash, hash ∈ closure ↔ hash ≠ root.eventHash ∧ Reaches root deps hash

variable {closure : List String} {dependencyCount : UInt64} {manifestDigest : String}
  {read : Json} {rawBytes : Bytes}

/-- A receipt of the bundle resolves an edge if it can be ingested and is of the right kind. -/
theorem resolves_issuedClosure (laws : IssueLaws E norm) (hbuilt : ∀ r ∈ root :: deps, r.Built E)
    {target targetSchema : String} :
    (∃ raw value, ReceiptOf E (issuedClosure root deps read) target raw value ∧
        (verifyReceipt E (asBytes raw)).status = .valid ∧
        readPayloadKind value = some targetSchema ∧ targetSchema ∈ layeredKinds) ↔
      ∃ dep ∈ root :: deps, dep.eventHash = target ∧ dep.Ingested E ∧
        dep.kind = some targetSchema ∧ targetSchema ∈ layeredKinds := by
  constructor
  · rintro ⟨raw, value, hreceipt, hvalid, hkind, hl⟩
    obtain ⟨dep, hdep, hhash, rfl, hread⟩ := (receiptOf_issuedClosure laws hbuilt).1 hreceipt
    rw [hread.kind laws (hbuilt dep hdep)] at hkind
    exact ⟨dep, hdep, hhash, ((hbuilt dep hdep).valid_iff laws).1 hvalid, hkind, hl⟩
  · rintro ⟨dep, hdep, hhash, hingested, hkind, hl⟩
    obtain ⟨value, hread⟩ := (hbuilt dep hdep).reads laws
    refine ⟨dep.text, value, (receiptOf_issuedClosure laws hbuilt).2 ⟨dep, hdep, hhash, rfl, hread⟩,
      ((hbuilt dep hdep).valid_iff laws).2 hingested, ?_, hl⟩
    rw [hread.kind laws (hbuilt dep hdep), hkind]

/-- On an issued bundle, the closure law is what its issuer has to see to: there are no cycles. -/
theorem receiptLaw_issued_iff (laws : IssueLaws E norm) (decodes : MemberLaws E norm roles)
    (hissued : Issuance E roles issued) (hsub : ∀ r ∈ root :: deps, r ∈ issued)
    (hissue : issueManifest E closure dependencyCount = .ok (manifestDigest, manifest))
    (hcommits : root.others.lookup "closure_manifest_digest" = some (.string manifestDigest))
    (hsame : norm read = norm manifest)
    (hcount : read.get "dependency_count" = some (.ofU64 dependencyCount)) {rootValue : Json}
    (hroot : root.Reads E norm rootValue) :
    ReceiptLaw E (issuedClosure root deps read) rootValue root.eventHash ↔
      ClosureIssue E root deps closure dependencyCount := by
  have hbuilt : ∀ r ∈ root :: deps, r.Built E := fun r hr => hissued.built r (hsub r hr)
  have hknown : ∀ r ∈ root :: deps, ∀ m ∈ r.members, m.Known roles :=
    fun r hr => hissued.known r (hsub r hr)
  have hrootBuilt := hbuilt root List.mem_cons_self
  have hreach : ReachableFrom E (issuedClosure root deps read) root.eventHash =
      Reaches root deps := by
    funext hash
    rw [ReachableFrom, dependsOn_issuedClosure laws decodes hbuilt hknown]
  have hcommitted : readClosureManifestDigest rootValue = some manifestDigest := by
    have hfields : root.fields.lookup "closure_manifest_digest" =
        (some manifestDigest).map .string := by
      rw [PackReceipt.lookup_fields_other (by decide) (by decide), hcommits]
      rfl
    rw [readClosureManifestDigest, hroot.string laws hrootBuilt hfields]
    rfl
  have hmanifest := manifestLaw_issued_iff laws.normal hissue hsame hcount
  have hclosure := committedClosure_issued laws.normal hissue hsame
  constructor
  · intro law
    refine ⟨(hrootBuilt.valid_iff laws).1 law.root, ?_, ?_, ?_, ?_, ?_⟩
    · rw [← hroot.kind laws hrootBuilt, law.kind]
    · exact hmanifest.1 (hcommitted ▸ law.manifest)
    · intro r hr hreaches target hm
      refine law.typed r.eventHash (hreach ▸ hreaches) target ?_
      exact (commits_issuedClosure laws decodes hbuilt hknown).2
        ⟨r, hr, rfl, Member.dependedOnReceipt_mem_map_read.2 hm⟩
    · intro r hr hreaches target role targetSchema hm
      refine (resolves_issuedClosure laws hbuilt).1
        (law.resolved r.eventHash (hreach ▸ hreaches) target ⟨.ok (.string role)⟩ targetSchema ?_)
      exact (commits_issuedClosure laws decodes hbuilt hknown).2
        ⟨r, hr, rfl, Member.typedReceiptDependency_mem_map_read.2 ⟨role, rfl, hm⟩⟩
    · intro hash
      rw [← hclosure hash, ← hreach]
      exact law.complete hash
  · intro h
    refine ⟨(hrootBuilt.valid_iff laws).2 h.ingested, ?_, ?_, ?_, ?_, ?_, ?_, ?_⟩
    · rw [hroot.kind laws hrootBuilt, h.kind]
    · rw [hcommitted]
      exact hmanifest.2 h.count
    · intro raw hraw
      obtain ⟨dep, hdep, rfl⟩ := List.mem_map.1 hraw
      obtain ⟨value, hread⟩ := (hbuilt dep (List.mem_cons_of_mem _ hdep)).reads laws
      exact ⟨value, hread.json⟩
    · intro hash hreaches target hc
      obtain ⟨r, hr, rfl, hm⟩ := (commits_issuedClosure laws decodes hbuilt hknown).1 hc
      exact h.typed r hr (hreach ▸ hreaches) target (Member.dependedOnReceipt_mem_map_read.1 hm)
    · intro hash hreaches target role targetSchema hc
      obtain ⟨r, hr, rfl, hm⟩ := (commits_issuedClosure laws decodes hbuilt hknown).1 hc
      obtain ⟨label, -, hmember⟩ := Member.typedReceiptDependency_mem_map_read.1 hm
      exact (resolves_issuedClosure laws hbuilt).2
        (h.resolved r hr (hreach ▸ hreaches) target label targetSchema hmember)
    · intro hash _ hcycle
      rw [dependsOn_issuedClosure laws decodes hbuilt hknown] at hcycle
      exact hissued.grown.acyclic hsub hash hcycle
    · intro hash
      rw [hreach]
      exact (hclosure hash).trans (h.complete hash)

/-- **An issued closure bundle is valid exactly when its issuer saw to what its root leads to.** -/
theorem verifyClosureBundle_issued_iff (laws : IssueLaws E norm)
    (decodes : MemberLaws E norm roles) (hissued : Issuance E roles issued)
    (hsub : ∀ r ∈ root :: deps, r ∈ issued)
    (hdistinct : ((root :: deps).map (·.eventHash)).Nodup)
    (hissue : issueManifest E closure dependencyCount = .ok (manifestDigest, manifest))
    (hcommits : root.others.lookup "closure_manifest_digest" = some (.string manifestDigest))
    (hsame : norm read = norm manifest)
    (hcount : read.get "dependency_count" = some (.ofU64 dependencyCount))
    (hbundle : E.closureBundleFromSlice rawBytes = .ok (issuedClosure root deps read)) :
    (verifyClosureBundle E rawBytes).status = .valid ↔
      ClosureIssue E root deps closure dependencyCount := by
  have hbuilt : ∀ r ∈ root :: deps, r.Built E := fun r hr => hissued.built r (hsub r hr)
  obtain ⟨rootValue, hroot⟩ := (hbuilt root List.mem_cons_self).reads laws
  have hlaw := receiptLaw_issued_iff laws decodes hissued hsub hissue hcommits hsame hcount hroot
  have hd : DistinctHashes E (issuedClosure root deps read) :=
    distinctHashes_issuedClosure laws hbuilt hdistinct
  rw [verifyClosureBundle_valid_iff, ← hlaw]
  constructor
  · rintro ⟨bundle, rootValue', rootHash, ho, law⟩
    obtain rfl := Except.ok.inj (ho.parsed.symm.trans hbundle)
    obtain rfl := Except.ok.inj (ho.root.symm.trans hroot.json)
    obtain rfl := Option.some.inj (ho.hash.symm.trans hroot.hash)
    exact (closureLaw_iff_receiptLaw hd).1 law
  · intro law
    exact ⟨_, rootValue, root.eventHash, ⟨hbundle, rfl, hroot.json, hroot.hash⟩,
      (closureLaw_iff_receiptLaw hd).2 law⟩

end Graph

/-! ### The closure bundle of the test vectors, as it was issued -/

/-- The root of the bundle. -/
def packIssue : PackReceipt where
  kind := some packPayloadKind
  others := [("pack_id", .string "acme-deploy"),
    ("closure_manifest_digest", vectorManifestDigest.toValue)]
  supportSet := some [.typedReceiptDependency modelHash.toHex "host" modelPayloadKind]
  logicalTime := 1002
  eventHash := packHash.toHex
  text := packReceipt.toValue.text

theorem built_packIssue : packIssue.Built (issuing packTables) :=
  built_issuing packReceipt (by decide) rfl rfl (by decide +kernel)
    (by decide +kernel) (by simp [packTables, Tables.values]) (by simp [packTables, Tables.values])
    (by decide +kernel) (by decide +kernel) (by simp [packTables])

/-- What the root leads to. -/
def vectorClosure : List String := [modelHash.toHex, providerHash.toHex]

theorem mergeSort_vectorClosure : vectorClosure.mergeSort (· ≤ ·) = vectorClosure :=
  List.mergeSort_of_pairwise (by decide +kernel)

/-- The manifest of the vectors, in the order in which it is written. -/
def issuedManifest : Json :=
  .object (manifestBody vectorClosure 2 ++
    [("manifest_digest", .string vectorManifestDigest.toHex)])

theorem issueManifest_vectorClosure :
    issueManifest packExternals vectorClosure 2 =
      .ok (vectorManifestDigest.toHex, issuedManifest) := by
  rw [issueManifest_eq_ok, mergeSort_vectorClosure]
  refine ⟨asBytes vectorManifestBody.text, ?_, ?_, rfl⟩
  · rw [packExternals, typedCanonBytes_decoding]
    exact typedCanonBytes_issuing_of_sorted (by decide +kernel)
      (by simp [packTables, Tables.values]) (by decide +kernel)
  · have hblake3 : (issuing packTables).blake3 (asBytes vectorManifestBody.text) =
        vectorManifestDigest := blake3_text_issuing (by simp [packTables])
    rw [packExternals, blake3_decoding, hblake3]

theorem issuance_vectors :
    Issuance packExternals (· ∈ ["host", "maker"]) [packIssue, modelIssue, providerIssue] := by
  have hn := vectorHashes_nodup
  simp only [List.nodup_cons, List.mem_cons, List.not_mem_nil, or_false, not_or] at hn
  obtain ⟨⟨hpm, hpp⟩, hmp, -⟩ := hn
  have hprovider : Issuance packExternals (· ∈ ["host", "maker"]) [providerIssue] :=
    .issue .nil built_providerIssue.decoding
      (by simp [PackReceipt.members, providerIssue, Member.Known]) (by simp)
      (by simp [PackReceipt.targets, PackReceipt.members, providerIssue, Member.target])
  have hmodel : Issuance packExternals (· ∈ ["host", "maker"]) [modelIssue, providerIssue] := by
    refine .issue hprovider built_modelIssue.decoding ?_ ?_ ?_
    · simp [PackReceipt.members, modelIssue, layeredModelIssue, Member.Known]
    · rw [List.map_singleton, List.mem_singleton]
      exact hmp
    · simp [PackReceipt.targets, PackReceipt.members, modelIssue, layeredModelIssue, Member.target,
        providerIssue]
  refine .issue hmodel built_packIssue.decoding ?_ ?_ ?_
  · simp [PackReceipt.members, packIssue, Member.Known]
  · rw [List.map_cons, List.map_singleton, List.mem_cons, List.mem_singleton, not_or]
    exact ⟨hpm, hpp⟩
  · simp [PackReceipt.targets, PackReceipt.members, packIssue, Member.target, modelIssue,
      layeredModelIssue]

theorem issuedClosure_vectors :
    issuedClosure packIssue [modelIssue, providerIssue] vectorManifest = vectorBundle := rfl

theorem parsed_vectorBundle :
    packExternals.closureBundleFromSlice (asBytes vectorBundle.toValue.text) =
      .ok (issuedClosure packIssue [modelIssue, providerIssue] vectorManifest) := by
  rw [issuedClosure_vectors, packExternals, closureBundleFromSlice_decoding,
    closureBundleFromSlice_issuing]
  exact Tables.closureBundleFromSlice_text (by simp [packTables])

theorem issued_vectorBundle :
    (verifyClosureBundle packExternals (asBytes vectorBundle.toValue.text)).status = .valid ↔
      ClosureIssue packExternals packIssue [modelIssue, providerIssue] vectorClosure 2 :=
  verifyClosureBundle_issued_iff issueLaws_packExternals memberLaws_packExternals issuance_vectors
    (fun _ hr => hr) vectorHashes_nodup issueManifest_vectorClosure rfl (by decide +kernel) rfl
    parsed_vectorBundle

end Issue

end VertRule
