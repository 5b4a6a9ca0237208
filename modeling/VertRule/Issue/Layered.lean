import VertRule.Issue.Packs

/-!
# Issued layered packs

The issuer of a layered pack names receipts in the support set of its root, and adds their texts.
The verifier asks of the pack what the issuer can see to (`verifyLayeredPack_issued_iff`).
-/

namespace VertRule

namespace Issue

variable {E : Externals} {norm : Json → Json} {roles : String → Prop} {root : PackReceipt}
  {deps : List PackReceipt} {rawBytes : Bytes}

/-! ### The root -/

theorem extractLayeredPayload_eq_ok {raw kind : String} {supportSet : List SupportMember} :
    extractLayeredPayload E raw = .ok (kind, supportSet) ↔
      ∃ value, E.fromStr raw = .ok value ∧ (value.get "payload").isSome ∧
        readPayloadKind value = some kind ∧ kind ∈ LayeredPack.layeredKinds ∧
        DecodesTo E (readSupportSet value) supportSet := by
  -- a payload without a kind is read as one of the kind ""
  have hlayered : ∀ o : Option String, o.getD "" ∈ LayeredPack.layeredKinds ∧ o.getD "" = kind ↔
      o = some kind ∧ kind ∈ LayeredPack.layeredKinds := by
    rintro (_ | k)
    · simp [LayeredPack.layeredKinds, providerPayloadKind, modelPayloadKind]
    · simp only [Option.getD_some, Option.some.injEq]
      constructor
      · rintro ⟨h, hk⟩
        exact ⟨hk, hk ▸ h⟩
      · rintro ⟨hk, h⟩
        exact ⟨hk ▸ h, hk⟩
  simp only [extractLayeredPayload, Except.bind_eq_ok, Except.mapError_eq_ok]
  refine exists_congr fun value => and_congr_right fun _ => ?_
  cases hp : value.get "payload" with
  | none => simp
  | some payload =>
    simp only [readPayloadKind, readSupportSet, hp, Option.bind_some, Option.isSome_some, true_and]
    rw [← and_assoc, ← hlayered]
    by_cases hl : ((payload.get "payload_kind").bind Json.asStr).getD "" ∈ LayeredPack.layeredKinds
    · cases payload.get "support_set" with
      | none => simp [hl, DecodesTo, eq_comm]
      | some v => simp [hl, DecodesTo, Except.bind_eq_ok, Except.mapError_eq_ok, and_comm]
    · simp [hl]

/-- The payload of an issued root is admitted if it is of a layered kind, and its roles are
known. -/
theorem extractLayeredPayload_built (laws : IssueLaws E norm) (decodes : MemberLaws E norm roles)
    (hroot : root.Built E) {kind : String} {ms : List SupportMember} :
    extractLayeredPayload E root.text = .ok (kind, ms) ↔
      (root.kind = some kind ∧ kind ∈ LayeredPack.layeredKinds) ∧
        (∀ m ∈ root.members, m.Known roles) ∧ ms = root.members.map Member.read := by
  obtain ⟨value, hread⟩ := hroot.reads laws
  have hpayload : (value.get "payload").isSome := by
    obtain ⟨payload, hp, -⟩ := hread.payload
    rw [hp]
    rfl
  rw [extractLayeredPayload_eq_ok, ← hread.supportSet laws decodes hroot, ← hread.kind laws hroot]
  constructor
  · rintro ⟨value', hv, -, hkind, hl, hms⟩
    obtain rfl := Except.ok.inj (hv.symm.trans hread.json)
    exact ⟨⟨hkind, hl⟩, hms⟩
  · rintro ⟨⟨hkind, hl⟩, hms⟩
    exact ⟨value, hread.json, hpayload, hkind, hl, hms⟩

/-! ### The edges -/

/-- What an edge leads to is an issued receipt with its hash. -/
theorem of_firstDeclaring_built (laws : IssueLaws E norm) (hdeps : ∀ r ∈ deps, r.Built E)
    {target : String} {s : SuppliedReceipt}
    (h : firstDeclaring E (deps.map (·.text)) target = some s) :
    ∃ r ∈ deps, r.eventHash = target ∧ (s.status = .valid ↔ r.Ingested E) ∧
      s.payloadKind = r.kind.getD "" := by
  obtain ⟨raw, hraw, hs⟩ := List.exists_of_findSome?_eq_some h
  obtain ⟨r, hr, rfl⟩ := List.mem_map.1 hraw
  obtain ⟨value, hread⟩ := (hdeps r hr).reads laws
  obtain ⟨hkind, hstatus⟩ := of_declaring hread.json hs
  refine ⟨r, hr, ?_, by rw [hstatus, (hdeps r hr).valid_iff laws], ?_⟩
  · obtain ⟨s', hs', -⟩ := declaring_of_json hread.json hread.hash
    obtain ⟨hindexed, hhash⟩ := Option.filter_eq_some_iff.1 hs
    obtain ⟨hindexed', hhash'⟩ := Option.filter_eq_some_iff.1 hs'
    obtain rfl := Option.some.inj (hindexed.symm.trans hindexed')
    exact (of_decide_eq_true hhash').symm.trans (of_decide_eq_true hhash)
  · rw [hkind, hread.kind laws (hdeps r hr)]

/-- An edge to an issued receipt leads to it, if no two receipts have its hash. -/
theorem firstDeclaring_built (laws : IssueLaws E norm) (hdeps : ∀ r ∈ deps, r.Built E)
    (hdistinct : (deps.map (·.eventHash)).Nodup) {target targetSchema : String} :
    (∃ s, firstDeclaring E (deps.map (·.text)) target = some s ∧ s.status = .valid ∧
        s.payloadKind = targetSchema) ↔
      ∃ r ∈ deps, r.eventHash = target ∧ r.Ingested E ∧ r.kind.getD "" = targetSchema := by
  constructor
  · rintro ⟨s, hs, hvalid, hkind⟩
    obtain ⟨r, hr, hhash, hstatus, hk⟩ := of_firstDeclaring_built laws hdeps hs
    exact ⟨r, hr, hhash, hstatus.1 hvalid, hk.symm.trans hkind⟩
  · rintro ⟨r, hr, hhash, hingested, hkind⟩
    obtain ⟨value, hread⟩ := (hdeps r hr).reads laws
    obtain ⟨s, hs, -⟩ := declaring_of_json hread.json (hhash ▸ hread.hash)
    have hsome : (firstDeclaring E (deps.map (·.text)) target).isSome := by
      rw [firstDeclaring, List.findSome?_isSome_iff]
      exact ⟨r.text, List.mem_map_of_mem hr, by rw [hs]; rfl⟩
    obtain ⟨s', hs'⟩ := Option.isSome_iff_exists.1 hsome
    obtain ⟨r', hr', hhash', hstatus, hk⟩ := of_firstDeclaring_built laws hdeps hs'
    obtain rfl := List.inj_on_of_nodup_map hdistinct hr' hr (hhash'.trans hhash.symm)
    exact ⟨s', hs', hstatus.2 hingested, hk.trans hkind⟩

/-! ### The pack -/

variable (E roles root deps) in
/-- What the issuer of a layered pack has to see to: its root is of a layered kind and has typed
edges only, with roles there are, and each edge names an added receipt, and its kind. -/
structure LayeredIssue : Prop where
  ingested : root.Ingested E
  layered : ∃ kind ∈ LayeredPack.layeredKinds, root.kind = some kind
  known : ∀ m ∈ root.members, m.Known roles
  typed : ∀ eventHash, Member.dependedOnReceipt eventHash ∉ root.members
  edges : ∀ eventHash role targetSchema,
    Member.typedReceiptDependency eventHash role targetSchema ∈ root.members →
    ∃ r ∈ deps, r.eventHash = eventHash ∧ r.Ingested E ∧ r.kind.getD "" = targetSchema

/-- On issued receipts, the law of layered packs is about what was issued. -/
theorem layeredLaw_built_iff (laws : IssueLaws E norm) (hroot : root.Built E)
    (hdeps : ∀ r ∈ deps, r.Built E) (hdistinct : (deps.map (·.eventHash)).Nodup) :
    LayeredLaw E ⟨layeredPackFormat, root.text, deps.map (·.text)⟩
        (root.members.map Member.read) ↔
      root.Ingested E ∧ (∀ eventHash, Member.dependedOnReceipt eventHash ∉ root.members) ∧
        ∀ eventHash role targetSchema,
          Member.typedReceiptDependency eventHash role targetSchema ∈ root.members →
          ∃ r ∈ deps, r.eventHash = eventHash ∧ r.Ingested E ∧ r.kind.getD "" = targetSchema := by
  constructor
  · intro law
    refine ⟨(hroot.valid_iff laws).1 law.root, fun eventHash hm => ?_, ?_⟩
    · exact law.typed eventHash (Member.dependedOnReceipt_mem_map_read.2 hm)
    · intro eventHash role targetSchema hm
      exact (firstDeclaring_built laws hdeps hdistinct).1 <|
        law.edges _ _ _ (Member.typedReceiptDependency_mem_map_read.2 ⟨role, rfl, hm⟩)
  · rintro ⟨hingested, htyped, hedges⟩
    refine ⟨(hroot.valid_iff laws).2 hingested, fun eventHash hm => ?_, ?_⟩
    · exact htyped eventHash (Member.dependedOnReceipt_mem_map_read.1 hm)
    · intro eventHash role targetSchema hm
      obtain ⟨label, -, hm⟩ := Member.typedReceiptDependency_mem_map_read.1 hm
      exact (firstDeclaring_built laws hdeps hdistinct).2 (hedges _ _ _ hm)

/-- **An issued layered pack is valid exactly when its issuer saw to what its root names.** -/
theorem verifyLayeredPack_issued_iff (laws : IssueLaws E norm) (decodes : MemberLaws E norm roles)
    (hroot : root.Built E) (hdeps : ∀ r ∈ deps, r.Built E)
    (hdistinct : (deps.map (·.eventHash)).Nodup)
    (hpack : E.layeredPackFromSlice rawBytes =
      .ok ⟨layeredPackFormat, root.text, deps.map (·.text)⟩) :
    (verifyLayeredPack E rawBytes).status = .valid ↔ LayeredIssue E roles root deps := by
  have hlaw := layeredLaw_built_iff laws hroot hdeps hdistinct
  rw [verifyLayeredPack_valid_iff_law]
  constructor
  · rintro ⟨pack, kind, ms, ho, law⟩
    obtain rfl := Except.ok.inj (ho.parsed.symm.trans hpack)
    obtain ⟨⟨hkind, hl⟩, hknown, rfl⟩ :=
      (extractLayeredPayload_built laws decodes hroot).1 ho.admitted
    obtain ⟨hingested, htyped, hedges⟩ := hlaw.1 law
    exact ⟨hingested, ⟨kind, hl, hkind⟩, hknown, htyped, hedges⟩
  · intro h
    obtain ⟨kind, hl, hkind⟩ := h.layered
    exact ⟨_, kind, _, ⟨hpack, rfl,
      (extractLayeredPayload_built laws decodes hroot).2 ⟨⟨hkind, hl⟩, h.known, rfl⟩⟩,
      hlaw.2 ⟨h.ingested, h.typed, h.edges⟩⟩

/-! ### The layered pack of the test vectors, as it was issued -/

theorem parsed_vectorLayeredPack :
    packExternals.layeredPackFromSlice (asBytes vectorLayeredPack.toValue.text) =
      .ok ⟨layeredPackFormat, modelIssue.text, [providerIssue].map (·.text)⟩ := by
  rw [List.map_singleton, modelIssue_text, providerIssue_text, packExternals,
    layeredPackFromSlice_withDecoders]
  exact layeredPackFromSlice_withPacks (by simp) (List.mem_singleton_self vectorLayeredPack)

theorem issued_vectorLayeredPack :
    (verifyLayeredPack packExternals (asBytes vectorLayeredPack.toValue.text)).status = .valid ↔
      LayeredIssue packExternals (· ∈ ["host", "maker"]) modelIssue [providerIssue] := by
  refine verifyLayeredPack_issued_iff issueLaws_packExternals memberLaws_packExternals
    built_modelIssue.decoding ?_ (by simp) parsed_vectorLayeredPack
  intro r hr
  rw [List.mem_singleton.1 hr]
  exact built_providerIssue.decoding

end Issue

end VertRule
