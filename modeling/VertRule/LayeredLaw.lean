import VertRule.Closure.ReceiptLaw
import VertRule.Lib.FirstMatch
import VertRule.Supplied

/-!
# The layered-pack law

A typed edge of a layered pack leads to the first supplied string that declares its hash.
`LayeredLaw` says what the verifier asks of a pack; two things that a reader may expect of it do
not follow, and are stated here with the exact condition under which they do: that the order of the
supplied strings does not matter (`layeredOrderIrrelevant_iff`), and that every edge leads to a
receipt of a layered kind (`layeredOnly_iff`).
-/

namespace VertRule

variable (E : Externals)

/-- What is indexed of a supplied string, if it declares `eventHash`. -/
def declaring (eventHash supplied : String) : Option SuppliedReceipt :=
  (indexSupplied E supplied).filter (·.eventHash = eventHash)

/-- What an edge to `eventHash` leads to: the first supplied string that declares it. -/
def firstDeclaring (receipts : List String) (eventHash : String) : Option SuppliedReceipt :=
  receipts.findSome? (declaring E eventHash)

/-- The status of a typed edge to a supplied receipt. -/
def SuppliedReceipt.edgeStatus (targetSchema : String) (s : SuppliedReceipt) : EdgeStatus :=
  if s.status ≠ .valid then .failed
  else if s.payloadKind ≠ targetSchema then .schemaMismatch
  else .resolved

/-- The status of a member of the support set, if it is an edge. -/
def edgeStatus (receipts : List String) : SupportMember → Option EdgeStatus
  | .typedReceiptDependency eventHash _ targetSchema =>
    some (((firstDeclaring E receipts eventHash).map
      (SuppliedReceipt.edgeStatus targetSchema)).getD .missing)
  | .dependedOnReceipt _ => some .untypedEdge
  | .citedLink .. | .evidenceDigest .. | .selectorValue .. => none

/-- The bytes are a pack of the right format, and the payload of its root is admitted. -/
structure OpensLayered (rawBytes : Bytes) (pack : LayeredPack) (rootKind : String)
    (supportSet : List SupportMember) : Prop where
  parsed : E.layeredPackFromSlice rawBytes = .ok pack
  format : pack.format = layeredPackFormat
  admitted : extractLayeredPayload E pack.rootCanonical = .ok (rootKind, supportSet)

/-- The layered-pack law: the root verifies, it has no untyped edge, and each typed edge leads to a
supplied receipt that verifies and has the kind the edge commits to. -/
structure LayeredLaw (pack : LayeredPack) (supportSet : List SupportMember) : Prop where
  root : (verifyReceipt E (asBytes pack.rootCanonical)).status = .valid
  typed : ∀ eventHash, SupportMember.dependedOnReceipt eventHash ∉ supportSet
  edges : ∀ eventHash role targetSchema,
    SupportMember.typedReceiptDependency eventHash role targetSchema ∈ supportSet →
    ∃ s, firstDeclaring E pack.receipts eventHash = some s ∧ s.status = .valid ∧
      s.payloadKind = targetSchema

variable {E} {pack : LayeredPack} {rootKind : String} {supportSet : List SupportMember}
  {receipts : List String} {rawBytes : Bytes}

theorem SuppliedReceipt.edgeStatus_resolved {targetSchema : String} {s : SuppliedReceipt} :
    s.edgeStatus targetSchema = .resolved ↔
      s.status = .valid ∧ s.payloadKind = targetSchema := by
  unfold edgeStatus
  by_cases hv : s.status = .valid <;> by_cases hk : s.payloadKind = targetSchema <;> simp [hv, hk]

/-- The search of the index, on the supplied strings. -/
theorem find?_indexSupplied {eventHash : String} :
    (receipts.filterMap (indexSupplied E)).find? (·.eventHash = eventHash) =
      firstDeclaring E receipts eventHash := by
  induction receipts with
  | nil => rfl
  | cons raw receipts ih =>
    cases hi : indexSupplied E raw with
    | none =>
      -- a string without a readable hash is left out of the index, and declares none
      rw [List.filterMap_cons_none hi, ih, firstDeclaring, firstDeclaring, List.findSome?_cons,
        declaring, hi]
      rfl
    | some s =>
      rw [List.filterMap_cons_some hi, List.find?_cons, firstDeclaring, List.findSome?_cons,
        declaring, hi, ih, firstDeclaring]
      by_cases hs : s.eventHash = eventHash <;> simp [hs, Option.filter]

theorem walkEdge_status (m : SupportMember) :
    (walkEdge (receipts.filterMap (indexSupplied E)) m).map EdgeCheck.status =
      edgeStatus E receipts m := by
  cases m with
  | typedReceiptDependency eventHash role targetSchema =>
    simp only [walkEdge, find?_indexSupplied, edgeStatus, Option.map_some]
    cases firstDeclaring E receipts eventHash with
    | none => rfl
    | some s =>
      simp only [Option.map_some, Option.getD_some, SuppliedReceipt.edgeStatus]
      split_ifs <;> rfl
  | _ => rfl

/-- The statuses of the edges in a report, when the root payload is admitted. -/
theorem checkLayeredPack_edgeStatuses
    (ha : extractLayeredPayload E pack.rootCanonical = .ok (rootKind, supportSet)) :
    (checkLayeredPack E pack).edgeChecks.map EdgeCheck.status =
      supportSet.filterMap (edgeStatus E pack.receipts) := by
  unfold checkLayeredPack
  rw [ha]
  simp only [List.map_filterMap, walkEdge_status]

/-- A pack whose root payload is admitted is valid when its root is and its edges are resolved. -/
theorem checkLayeredPack_valid_iff_resolved
    (ha : extractLayeredPayload E pack.rootCanonical = .ok (rootKind, supportSet)) :
    (checkLayeredPack E pack).status = .valid ↔
      (verifyReceipt E (asBytes pack.rootCanonical)).status = .valid ∧
        ∀ status ∈ supportSet.filterMap (edgeStatus E pack.receipts), status = .resolved := by
  rw [checkLayeredPack_consistent.status_iff, ← checkLayeredPack_edgeStatuses ha]
  unfold checkLayeredPack
  rw [ha]
  simp only [edgeErrors_eq_nil, List.forall_mem_map]

/-- A pack whose root payload is admitted is valid when the layered-pack law holds. -/
theorem checkLayeredPack_valid_iff
    (ha : extractLayeredPayload E pack.rootCanonical = .ok (rootKind, supportSet)) :
    (checkLayeredPack E pack).status = .valid ↔ LayeredLaw E pack supportSet := by
  rw [checkLayeredPack_valid_iff_resolved ha]
  have hedge : ∀ eventHash targetSchema,
      ((firstDeclaring E pack.receipts eventHash).map
        (SuppliedReceipt.edgeStatus targetSchema)).getD .missing = .resolved ↔
      ∃ s, firstDeclaring E pack.receipts eventHash = some s ∧ s.status = .valid ∧
        s.payloadKind = targetSchema := by
    intro eventHash targetSchema
    cases firstDeclaring E pack.receipts eventHash with
    | none => simp
    | some s => simp [SuppliedReceipt.edgeStatus_resolved]
  constructor
  · rintro ⟨hroot, hedges⟩
    refine ⟨hroot, fun eventHash hm => ?_, fun eventHash role targetSchema hm => ?_⟩
    · exact absurd (hedges .untypedEdge (List.mem_filterMap.2 ⟨_, hm, rfl⟩)) (by simp)
    · exact (hedge _ _).1 (hedges _ (List.mem_filterMap.2 ⟨_, hm, rfl⟩))
  · intro law
    refine ⟨law.root, fun status hs => ?_⟩
    obtain ⟨m, hm, hstatus⟩ := List.mem_filterMap.1 hs
    cases m with
    | typedReceiptDependency eventHash role targetSchema =>
      rw [← Option.some.inj hstatus]
      exact (hedge _ _).2 (law.edges _ _ _ hm)
    | dependedOnReceipt eventHash =>
      -- an untyped edge is never resolved
      exact absurd hm (law.typed eventHash)
    | _ => cases hstatus

theorem verifyLayeredPack_of_format (hp : E.layeredPackFromSlice rawBytes = .ok pack)
    (hf : pack.format = layeredPackFormat) :
    verifyLayeredPack E rawBytes = checkLayeredPack E pack := by
  simp [verifyLayeredPack, hp, hf]

theorem OpensLayered.valid_iff (ho : OpensLayered E rawBytes pack rootKind supportSet) :
    (verifyLayeredPack E rawBytes).status = .valid ↔ LayeredLaw E pack supportSet := by
  rw [verifyLayeredPack_of_format ho.parsed ho.format, checkLayeredPack_valid_iff ho.admitted]

/-- A layered pack is valid exactly when it opens and meets the layered-pack law. -/
theorem verifyLayeredPack_valid_iff_law :
    (verifyLayeredPack E rawBytes).status = .valid ↔ ∃ pack rootKind supportSet,
      OpensLayered E rawBytes pack rootKind supportSet ∧ LayeredLaw E pack supportSet := by
  constructor
  · intro hvalid
    cases hp : E.layeredPackFromSlice rawBytes with
    | error e => simp [verifyLayeredPack, hp, LayeredPackVerificationResult.invalid] at hvalid
    | ok pack =>
      by_cases hf : pack.format = layeredPackFormat
      · cases ha : extractLayeredPayload E pack.rootCanonical with
        | error e =>
          rw [verifyLayeredPack_of_format hp hf] at hvalid
          simp [checkLayeredPack, ha] at hvalid
        | ok parts =>
          have ho : OpensLayered E rawBytes pack parts.1 parts.2 := ⟨hp, hf, ha⟩
          exact ⟨pack, _, _, ho, ho.valid_iff.1 hvalid⟩
      · simp [verifyLayeredPack, hp, hf, LayeredPackVerificationResult.invalid] at hvalid
  · rintro ⟨pack, rootKind, supportSet, ho, law⟩
    exact ho.valid_iff.2 law

theorem declaring_of_json {eventHash raw : String} {value : Json} (hj : E.fromStr raw = .ok value)
    (hh : readEventHash value = some eventHash) :
    ∃ s, declaring E eventHash raw = some s ∧
      s.status = (verifyReceipt E (asBytes raw)).status ∧
      s.payloadKind = (readPayloadKind value).getD "" := by
  refine ⟨⟨eventHash, (readPayloadKind value).getD "", (verifyReceipt E (asBytes raw)).status,
    "; ".intercalate (verifyReceipt E (asBytes raw)).errors⟩, ?_, rfl, rfl⟩
  simp [declaring, indexSupplied, hj, hh, Except.toOption, Option.filter]

theorem of_declaring {eventHash raw : String} {value : Json} {s : SuppliedReceipt}
    (hj : E.fromStr raw = .ok value) (hs : declaring E eventHash raw = some s) :
    s.payloadKind = (readPayloadKind value).getD "" ∧
      s.status = (verifyReceipt E (asBytes raw)).status := by
  have hindexed := (Option.filter_eq_some_iff.1 hs).1
  simp only [indexSupplied, hj, Except.toOption, Option.bind_eq_bind, Option.bind_some,
    Option.bind_eq_some_iff, Option.pure_def, Option.some.injEq] at hindexed
  obtain ⟨h, -, rfl⟩ := hindexed
  exact ⟨rfl, rfl⟩

theorem extractLayeredPayload_of_json {raw : String} {value payload supportSetValue : Json}
    (hj : E.fromStr raw = .ok value) (hp : value.get "payload" = some payload)
    (hk : (payload.get "payload_kind").bind Json.asStr = some rootKind)
    (hl : rootKind ∈ LayeredPack.layeredKinds)
    (hs : payload.get "support_set" = some supportSetValue)
    (hm : E.supportSetFromValue supportSetValue = .ok supportSet) :
    extractLayeredPayload E raw = .ok (rootKind, supportSet) := by
  simp [extractLayeredPayload, hj, hp, hk, hl, hs, hm]

/-! ### The order of the supplied strings -/

/-- Two reports agree on the status and on the statuses of the edges. -/
structure SameEdges (r r' : LayeredPackVerificationResult) : Prop where
  status : r.status = r'.status
  edges : r.edgeChecks.map EdgeCheck.status = r'.edgeChecks.map EdgeCheck.status

variable (E) in
/-- However the supplied strings of a pack are ordered, the report is the same. -/
def LayeredOrderIrrelevant (rawBytes : Bytes) : Prop :=
  ∀ pack receipts' rawBytes', E.layeredPackFromSlice rawBytes = .ok pack →
    pack.receipts.Perm receipts' →
    E.layeredPackFromSlice rawBytes' = .ok { pack with receipts := receipts' } →
    SameEdges (verifyLayeredPack E rawBytes) (verifyLayeredPack E rawBytes')

variable (E) in
/-- A pack can be written with its supplied strings in any order. -/
def OrdersWritten (rawBytes : Bytes) : Prop :=
  ∀ pack receipts', E.layeredPackFromSlice rawBytes = .ok pack → pack.receipts.Perm receipts' →
    ∃ rawBytes', E.layeredPackFromSlice rawBytes' = .ok { pack with receipts := receipts' }

variable (E) in
/-- The supplied strings that declare the hash of a typed edge all verify or all fail, and those
that verify all have the kind that the edge commits to, or none has. -/
def AgreeOnEdges (pack : LayeredPack) (supportSet : List SupportMember) : Prop :=
  ∀ eventHash role targetSchema,
    SupportMember.typedReceiptDependency eventHash role targetSchema ∈ supportSet →
    ∀ raw ∈ pack.receipts, ∀ raw' ∈ pack.receipts, ∀ s s', declaring E eventHash raw = some s →
      declaring E eventHash raw' = some s' →
      s.status = s'.status ∧
        (s.status = .valid → (s.payloadKind = targetSchema ↔ s'.payloadKind = targetSchema))

theorem SuppliedReceipt.edgeStatus_eq_iff {targetSchema : String} {s s' : SuppliedReceipt} :
    s.edgeStatus targetSchema = s'.edgeStatus targetSchema ↔ s.status = s'.status ∧
      (s.status = .valid → (s.payloadKind = targetSchema ↔ s'.payloadKind = targetSchema)) := by
  unfold edgeStatus
  cases s.status <;> cases s'.status <;> by_cases hk : s.payloadKind = targetSchema <;>
    by_cases hk' : s'.payloadKind = targetSchema <;> simp [hk, hk']

/-- Whether a member is an edge does not depend on the supplied strings. -/
theorem edgeStatus_isSome {receipts' : List String} (m : SupportMember) :
    (edgeStatus E receipts m).isSome = (edgeStatus E receipts' m).isSome := by
  cases m <;> rfl

theorem checkLayeredPack_perm {receipts' : List String} (hp : pack.receipts.Perm receipts')
    (ha : extractLayeredPayload E pack.rootCanonical = .ok (rootKind, supportSet))
    (hagree : AgreeOnEdges E pack supportSet) :
    SameEdges (checkLayeredPack E pack)
      (checkLayeredPack E { pack with receipts := receipts' }) := by
  have ha' : extractLayeredPayload E
      ({ pack with receipts := receipts' } : LayeredPack).rootCanonical =
        .ok (rootKind, supportSet) := ha
  have hedges : supportSet.filterMap (edgeStatus E pack.receipts) =
      supportSet.filterMap (edgeStatus E receipts') := by
    refine List.filterMap_congr fun m hm => ?_
    cases m with
    | typedReceiptDependency eventHash role targetSchema =>
      have hfirst := FirstMatch.findSome?_map_perm
        (f := declaring E eventHash) (g := SuppliedReceipt.edgeStatus targetSchema) hp
        fun raw hraw raw' hraw' s s' hs hs' => SuppliedReceipt.edgeStatus_eq_iff.2
          (hagree eventHash role targetSchema hm raw hraw raw' hraw' s s' hs hs')
      simp only [edgeStatus, firstDeclaring, hfirst]
    | _ => rfl
  refine ⟨VerificationStatus.eq_of_valid_iff ?_, ?_⟩
  · rw [checkLayeredPack_valid_iff_resolved ha, checkLayeredPack_valid_iff_resolved ha', hedges]
  · rw [checkLayeredPack_edgeStatuses ha, checkLayeredPack_edgeStatuses ha', hedges]

/-- **The order of the supplied strings does not matter exactly when those that declare the hash of
an edge agree on its status**: the first of them decides. -/
theorem layeredOrderIrrelevant_iff (hwritten : OrdersWritten E rawBytes) :
    LayeredOrderIrrelevant E rawBytes ↔ ∀ pack rootKind supportSet,
      OpensLayered E rawBytes pack rootKind supportSet → AgreeOnEdges E pack supportSet := by
  constructor
  · intro h pack rootKind supportSet ho eventHash role targetSchema hm raw hraw raw' hraw' s s'
      hs hs'
    -- either string comes first in some order, and both orders have the edges of the given one
    have hfirst : ∀ raw ∈ pack.receipts, ∀ s, declaring E eventHash raw = some s →
        edgeStatus E pack.receipts (.typedReceiptDependency eventHash role targetSchema) =
          some (s.edgeStatus targetSchema) := by
      intro raw hraw s hs
      obtain ⟨receipts', hp, hsome⟩ := FirstMatch.exists_perm_findSome? hraw hs
      obtain ⟨rawBytes', hparsed⟩ := hwritten pack receipts' ho.parsed hp
      have hsame := (h pack receipts' rawBytes' ho.parsed hp hparsed).edges
      have ha' : extractLayeredPayload E
          ({ pack with receipts := receipts' } : LayeredPack).rootCanonical =
            .ok (rootKind, supportSet) := ho.admitted
      rw [verifyLayeredPack_of_format ho.parsed ho.format,
        verifyLayeredPack_of_format hparsed ho.format, checkLayeredPack_edgeStatuses ho.admitted,
        checkLayeredPack_edgeStatuses ha'] at hsame
      rw [FirstMatch.eq_of_filterMap_eq edgeStatus_isSome hsame hm]
      simp only [edgeStatus, firstDeclaring, hsome, Option.map_some, Option.getD_some]
    exact SuppliedReceipt.edgeStatus_eq_iff.1
      (Option.some.inj ((hfirst raw hraw s hs).symm.trans (hfirst raw' hraw' s' hs')))
  · intro h pack receipts' rawBytes' hparsed hp hparsed'
    by_cases hf : pack.format = layeredPackFormat
    · rw [verifyLayeredPack_of_format hparsed hf, verifyLayeredPack_of_format hparsed' hf]
      cases ha : extractLayeredPayload E pack.rootCanonical with
      | error e =>
        -- nothing is read of the supplied strings
        exact ⟨by simp only [checkLayeredPack, ha], by simp only [checkLayeredPack, ha]⟩
      | ok parts => exact checkLayeredPack_perm hp ha (h _ _ _ ⟨hparsed, hf, ha⟩)
    · have hinvalid : verifyLayeredPack E rawBytes = verifyLayeredPack E rawBytes' := by
        simp only [verifyLayeredPack, hparsed, hparsed', ne_eq, hf, not_false_eq_true, if_true]
      rw [hinvalid]
      exact ⟨rfl, rfl⟩

/-! ### The layered pack of the test vectors

A model and its provider, with two more packs that also supply a string that merely claims the hash
of the provider, after it and before it, and one whose model depends on a decision. -/

/-- Nothing but the `event_hash` of the provider. -/
def providerClaim : Json := .object [("event_hash", providerHash.toValue)]

/-- An edge to the decision of the test vectors. -/
def decisionEdge : SupportMember :=
  .typedReceiptDependency decisionHash.toHex ⟨.ok (.string "maker")⟩ decisionPayloadKind

/-- The edge to the decision, serialized. -/
def decisionEdgeValue : Json := typedEdgeValue decisionHash "maker" decisionPayloadKind

/-- A model that depends on the decision of the test vectors. -/
def decidedModelReceipt : ReceiptEnvelope :=
  vectorEnvelope .event 1001 (.object [("model_id", .string "claude-opus-4-8"),
    ("payload_kind", .string modelPayloadKind), ("support_set", .array [decisionEdgeValue])])
    (.ofNat 0xe756d4ee29f620ed5b152fdc57187c5099bf9593a3bed59101cc42586c96288f)

/-- The third-party code on the receipts of the packs. -/
def layeredTables : Tables where
  envelopes := [(modelReceipt.toValue, modelReceipt), (providerReceipt.toValue, providerReceipt),
    (decidedModelReceipt.toValue, decidedModelReceipt), (decisionReceipt.toValue, decisionReceipt)]
  others := [providerClaim]
  digests := [(modelReceipt.body, modelHash), (providerReceipt.body, providerHash),
    (decidedModelReceipt.body, decidedModelReceipt.eventHash),
    (decisionReceipt.body, decisionHash)]
  supportSets := [(.array [providerEdgeValue], [providerEdge]),
    (.array [decisionEdgeValue], [decisionEdge])]
  texts_nodup := by decide +kernel

/-- A root, with some supplied strings. -/
def layeredPack (root : ReceiptEnvelope) (receipts : List String) : LayeredPack where
  format := layeredPackFormat
  rootCanonical := root.toValue.text
  receipts := receipts

theorem layeredPack_rootCanonical (root : ReceiptEnvelope) (receipts : List String) :
    (layeredPack root receipts).rootCanonical = root.toValue.text := rfl

theorem layeredPack_receipts (root : ReceiptEnvelope) (receipts : List String) :
    (layeredPack root receipts).receipts = receipts := rfl

/-- The pack of the test vectors. -/
def vectorLayeredPack : LayeredPack := layeredPack modelReceipt [providerReceipt.toValue.text]

/-- The pack with the claim after the provider. -/
def claimAfterPack : LayeredPack :=
  layeredPack modelReceipt [providerReceipt.toValue.text, providerClaim.text]

/-- The pack with the claim before the provider. -/
def claimBeforePack : LayeredPack :=
  layeredPack modelReceipt [providerClaim.text, providerReceipt.toValue.text]

/-- The pack of the model that depends on a decision. -/
def decidedPack : LayeredPack := layeredPack decidedModelReceipt [decisionReceipt.toValue.text]

/-- The packs that can be read. -/
def layeredPacks : List LayeredPack :=
  [vectorLayeredPack, claimAfterPack, claimBeforePack, decidedPack]

/-- The third-party code on the packs. -/
def layeredExternals : Externals := layeredTables.externals.withPacks [] [] layeredPacks

theorem layeredPacks_nodup : (layeredPacks.map fun p => p.toValue.chars).Nodup := by
  -- the common start cancels before anything is evaluated
  simp only [layeredPacks, List.map_cons, List.map_nil, vectorLayeredPack, claimAfterPack,
    claimBeforePack, decidedPack, layeredPack, LayeredPack.toValue, Json.chars, Json.fieldChars,
    Json.ofStrings, Json.elemChars, Json.stringText_text, List.nodup_cons, List.nodup_nil,
    List.mem_cons, List.not_mem_nil, not_false_eq_true, or_false, and_true, List.isEmpty_cons,
    List.isEmpty_nil, if_true, if_false, Bool.false_eq_true, List.append_assoc, List.cons_append,
    List.nil_append, List.cons.injEq, List.append_cancel_left_eq, true_and]
  decide +kernel

theorem parsed_layeredPacks {pack : LayeredPack} (h : pack ∈ layeredPacks) :
    layeredExternals.layeredPackFromSlice (asBytes pack.toValue.text) = .ok pack :=
  layeredPackFromSlice_withPacks layeredPacks_nodup h

theorem fromStr_layeredExternals {v : Json} (h : v ∈ layeredTables.values) :
    layeredExternals.fromStr v.text = .ok v := by
  rw [layeredExternals, fromStr_withPacks]
  exact Tables.fromStr_text h

theorem valid_layeredExternals {envelope : ReceiptEnvelope}
    (h : (envelope.toValue, envelope) ∈ layeredTables.envelopes)
    (hv : Tables.Admissible envelope.toValue) (he : envelope.Verifies layeredTables.externals) :
    (verifyReceipt layeredExternals (asBytes envelope.toValue.text)).status = .valid := by
  rw [layeredExternals, verifyReceipt_withPacks]
  exact Tables.verifyReceipt_valid envelope h hv he

theorem extractLayeredPayload_modelReceipt :
    extractLayeredPayload layeredExternals modelReceipt.toValue.text =
      .ok (modelPayloadKind, [providerEdge]) := by
  refine extractLayeredPayload_of_json
    (fromStr_layeredExternals (Tables.mem_values List.mem_cons_self)) rfl rfl (by decide) rfl ?_
  rw [layeredExternals, supportSetFromValue_withPacks]
  exact Tables.supportSetFromValue List.mem_cons_self

/-- The provider resolves the edge of the model. -/
theorem declaring_providerReceipt :
    ∃ s, declaring layeredExternals providerHash.toHex providerReceipt.toValue.text = some s ∧
      s.edgeStatus providerPayloadKind = .resolved := by
  have hmem : (providerReceipt.toValue, providerReceipt) ∈ layeredTables.envelopes := by
    simp [layeredTables]
  have hvalid := valid_layeredExternals hmem admissible_providerReceipt
    (Tables.verifies rfl rfl rfl (List.mem_cons_of_mem _ List.mem_cons_self))
  have hread : readEventHash providerReceipt.toValue = some providerHash.toHex := rfl
  obtain ⟨s, hs, hstatus, hkind⟩ :=
    declaring_of_json (fromStr_layeredExternals (Tables.mem_values hmem)) hread
  exact ⟨s, hs, SuppliedReceipt.edgeStatus_resolved.2 ⟨hstatus.trans hvalid, hkind⟩⟩

/-- The claim to its hash fails it. -/
theorem declaring_providerClaim :
    ∃ s, declaring layeredExternals providerHash.toHex providerClaim.text = some s ∧
      s.edgeStatus providerPayloadKind ≠ .resolved := by
  have hmem : providerClaim ∈ layeredTables.values := by simp [layeredTables, Tables.values]
  have hinvalid : (verifyReceipt layeredExternals (asBytes providerClaim.text)).status ≠
      .valid := by
    rw [layeredExternals, verifyReceipt_withPacks]
    exact Tables.verifyReceipt_ne_valid hmem (by decide +kernel)
  have hread : readEventHash providerClaim = some providerHash.toHex := rfl
  obtain ⟨s, hs, hstatus, -⟩ := declaring_of_json (fromStr_layeredExternals hmem) hread
  refine ⟨s, hs, fun h => hinvalid ?_⟩
  rw [← hstatus]
  exact (SuppliedReceipt.edgeStatus_resolved.1 h).1

/-- The edges of the model, whatever is supplied. -/
theorem edgeStatuses_modelReceipt (receipts : List String) :
    (checkLayeredPack layeredExternals (layeredPack modelReceipt receipts)).edgeChecks.map
        EdgeCheck.status =
      [((firstDeclaring layeredExternals receipts providerHash.toHex).map
        (SuppliedReceipt.edgeStatus providerPayloadKind)).getD .missing] := by
  have ha : extractLayeredPayload layeredExternals
      (layeredPack modelReceipt receipts).rootCanonical =
        .ok (modelPayloadKind, [providerEdge]) := by
    rw [layeredPack_rootCanonical]
    exact extractLayeredPayload_modelReceipt
  rw [checkLayeredPack_edgeStatuses ha, layeredPack_receipts]
  rfl

/-- The layered pack of the test vectors, with one supplied string, has the same report in every
order of its strings. -/
theorem layeredOrderIrrelevant_vectorLayeredPack :
    LayeredOrderIrrelevant layeredExternals (asBytes vectorLayeredPack.toValue.text) := by
  have hparsed : layeredExternals.layeredPackFromSlice (asBytes vectorLayeredPack.toValue.text) =
      .ok vectorLayeredPack := parsed_layeredPacks (by simp [layeredPacks])
  have hwritten : OrdersWritten layeredExternals (asBytes vectorLayeredPack.toValue.text) := by
    intro pack receipts' hp hperm
    obtain rfl := Except.ok.inj (hparsed.symm.trans hp)
    obtain rfl : receipts' = [providerReceipt.toValue.text] := List.singleton_perm.1 hperm |>.symm
    exact ⟨_, hparsed⟩
  refine (layeredOrderIrrelevant_iff hwritten).2 fun pack rootKind supportSet ho => ?_
  obtain rfl := Except.ok.inj (hparsed.symm.trans ho.parsed)
  intro eventHash role targetSchema _ raw hraw raw' hraw' s s' hs hs'
  rw [List.mem_singleton.1 hraw] at hs
  rw [List.mem_singleton.1 hraw'] at hs'
  obtain rfl := Option.some.inj (hs.symm.trans hs')
  exact ⟨rfl, fun _ => Iff.rfl⟩

/-- The order of the supplied strings decides whether the edge of the model is resolved. -/
theorem not_layeredOrderIrrelevant_claimAfterPack :
    ¬ LayeredOrderIrrelevant layeredExternals (asBytes claimAfterPack.toValue.text) := by
  intro h
  have hafter : layeredExternals.layeredPackFromSlice (asBytes claimAfterPack.toValue.text) =
      .ok claimAfterPack := parsed_layeredPacks (by simp [layeredPacks])
  have hbefore : layeredExternals.layeredPackFromSlice (asBytes claimBeforePack.toValue.text) =
      .ok claimBeforePack := parsed_layeredPacks (by simp [layeredPacks])
  have hperm : claimAfterPack.receipts.Perm
      [providerClaim.text, providerReceipt.toValue.text] := by
    rw [claimAfterPack, layeredPack_receipts]
    exact List.Perm.swap _ _ _
  have hsame := (h _ _ _ hafter hperm hbefore).edges
  obtain ⟨s, hs, hresolved⟩ := declaring_providerReceipt
  obtain ⟨s', hs', hfailed⟩ := declaring_providerClaim
  have hfirst : firstDeclaring layeredExternals
      [providerReceipt.toValue.text, providerClaim.text] providerHash.toHex = some s := by
    rw [firstDeclaring, List.findSome?_cons, hs]
  have hfirst' : firstDeclaring layeredExternals
      [providerClaim.text, providerReceipt.toValue.text] providerHash.toHex = some s' := by
    rw [firstDeclaring, List.findSome?_cons, hs']
  rw [verifyLayeredPack_of_format hafter rfl, verifyLayeredPack_of_format hbefore rfl,
    claimAfterPack, claimBeforePack, edgeStatuses_modelReceipt, edgeStatuses_modelReceipt, hfirst,
    hfirst'] at hsame
  simp only [Option.map_some, Option.getD_some, List.cons.injEq, and_true] at hsame
  exact hfailed (hsame ▸ hresolved)

/-! ### The kinds of dependencies -/

variable (E) in
/-- Every typed edge of a valid pack leads to a supplied receipt of a layered kind. -/
def LayeredOnly (rawBytes : Bytes) : Prop :=
  (verifyLayeredPack E rawBytes).status = .valid →
    ∀ pack rootKind supportSet, OpensLayered E rawBytes pack rootKind supportSet →
      ∀ eventHash role targetSchema,
        SupportMember.typedReceiptDependency eventHash role targetSchema ∈ supportSet →
        ∃ s, firstDeclaring E pack.receipts eventHash = some s ∧
          s.payloadKind ∈ LayeredPack.layeredKinds

/-- **The typed edges of a valid pack lead to layered kinds exactly when they commit to them**: the
kind of the supplied receipt is compared with the edge, and with nothing else. -/
theorem layeredOnly_iff : LayeredOnly E rawBytes ↔ ∀ pack rootKind supportSet,
    OpensLayered E rawBytes pack rootKind supportSet → LayeredLaw E pack supportSet →
      ∀ eventHash role targetSchema,
        SupportMember.typedReceiptDependency eventHash role targetSchema ∈ supportSet →
        targetSchema ∈ LayeredPack.layeredKinds := by
  constructor
  · intro h pack rootKind supportSet ho law eventHash role targetSchema hm
    obtain ⟨s, hs, hkind⟩ := h (ho.valid_iff.2 law) pack rootKind supportSet ho _ _ _ hm
    obtain ⟨s', hs', -, rfl⟩ := law.edges _ _ _ hm
    obtain rfl := Option.some.inj (hs.symm.trans hs')
    exact hkind
  · intro h hvalid pack rootKind supportSet ho eventHash role targetSchema hm
    have law := ho.valid_iff.1 hvalid
    obtain ⟨s, hs, -, rfl⟩ := law.edges _ _ _ hm
    exact ⟨s, hs, h pack rootKind supportSet ho law _ _ _ hm⟩

/-- **The closure verifier asks the same of a typed edge, and also that the kind is one of its
layered kinds.** -/
theorem classifyEdge_ofReceipt_resolved {eventHash targetSchema raw : String} {value : Json}
    {s : SuppliedReceipt} (hj : E.fromStr raw = .ok value)
    (hs : declaring E eventHash raw = some s) :
    (classifyEdge eventHash (some (Node.ofReceipt E value raw)) targetSchema).1 = .resolved ↔
      s.edgeStatus targetSchema = .resolved ∧ targetSchema ∈ layeredKinds := by
  obtain ⟨hkind, hstatus⟩ := of_declaring hj hs
  have hnode : (Node.ofReceipt E value raw).payloadKind = s.payloadKind := hkind.symm
  rw [classifyEdge_resolved, SuppliedReceipt.edgeStatus_resolved, hstatus]
  constructor
  · rintro ⟨n, hn, hres⟩
    obtain rfl := Option.some.inj hn
    exact ⟨⟨hres.verifies, hnode.symm.trans hres.kind⟩, hres.kind ▸ hres.layered⟩
  · rintro ⟨⟨hvalid, rfl⟩, hl⟩
    exact ⟨_, rfl, hvalid, hnode, hnode ▸ hl⟩

theorem admitted_decidedPack :
    extractLayeredPayload layeredExternals decidedModelReceipt.toValue.text =
      .ok (modelPayloadKind, [decisionEdge]) := by
  have hmem : (decidedModelReceipt.toValue, decidedModelReceipt) ∈ layeredTables.envelopes := by
    simp [layeredTables]
  refine extractLayeredPayload_of_json (fromStr_layeredExternals (Tables.mem_values hmem)) rfl rfl
    (by decide) rfl ?_
  rw [layeredExternals, supportSetFromValue_withPacks]
  exact Tables.supportSetFromValue (List.mem_cons_of_mem _ List.mem_cons_self)

/-- The decision that the model depends on verifies, and has the kind that the edge commits to. -/
theorem firstDeclaring_decidedPack :
    ∃ s, firstDeclaring layeredExternals decidedPack.receipts decisionHash.toHex = some s ∧
      s.status = .valid ∧ s.payloadKind = decisionPayloadKind := by
  have hmem : (decisionReceipt.toValue, decisionReceipt) ∈ layeredTables.envelopes := by
    simp [layeredTables]
  have hread : readEventHash decisionReceipt.toValue = some decisionHash.toHex := rfl
  have hdigest : (decisionReceipt.body, decisionReceipt.eventHash) ∈ layeredTables.digests := by
    simp [layeredTables, show decisionReceipt.eventHash = decisionHash from rfl]
  have hvalid := valid_layeredExternals hmem admissible_decisionReceipt
    (Tables.verifies rfl rfl rfl hdigest)
  obtain ⟨s, hs, hstatus, hkind⟩ :=
    declaring_of_json (fromStr_layeredExternals (Tables.mem_values hmem)) hread
  refine ⟨s, ?_, hstatus.trans hvalid, hkind⟩
  rw [decidedPack, layeredPack_receipts, firstDeclaring, List.findSome?_singleton, hs]

/-- The pack whose model depends on a decision satisfies the layered-pack law. -/
theorem layeredLaw_decidedPack : LayeredLaw layeredExternals decidedPack [decisionEdge] := by
  have hmem : (decidedModelReceipt.toValue, decidedModelReceipt) ∈ layeredTables.envelopes := by
    simp [layeredTables]
  refine ⟨?_, fun eventHash hm => ?_, fun eventHash role targetSchema hm => ?_⟩
  · rw [decidedPack, layeredPack_rootCanonical]
    exact valid_layeredExternals hmem (Tables.admissible_of_checks (by decide +kernel))
      (Tables.verifies rfl rfl rfl (by simp [layeredTables]))
  · simp [decisionEdge] at hm
  · obtain ⟨rfl, rfl, rfl⟩ :=
      SupportMember.typedReceiptDependency.inj (List.mem_singleton.1 hm)
    exact firstDeclaring_decidedPack

/-- A decision is accepted as a dependency of a model. -/
theorem not_layeredOnly_decidedPack :
    ¬ LayeredOnly layeredExternals (asBytes decidedPack.toValue.text) := by
  intro h
  have ho : OpensLayered layeredExternals (asBytes decidedPack.toValue.text) decidedPack
      modelPayloadKind [decisionEdge] := by
    refine ⟨parsed_layeredPacks (by simp [layeredPacks]), rfl, ?_⟩
    rw [decidedPack, layeredPack_rootCanonical]
    exact admitted_decidedPack
  obtain ⟨s, hs, hkind⟩ := h (ho.valid_iff.2 layeredLaw_decidedPack) _ _ _ ho _ _ _
    (List.mem_singleton_self _)
  obtain ⟨s', hs', -, hkind'⟩ := firstDeclaring_decidedPack
  obtain rfl := Option.some.inj (hs.symm.trans hs')
  rw [hkind'] at hkind
  exact absurd hkind (by decide)

end VertRule
