import VertRule.DecisionLaw
import VertRule.Issue.Packs

/-!
# Issued decision packs

A decision depends on receipts of any kind, and on what is committed to without one.
-/

namespace VertRule

namespace Issue

variable {E : Externals} {norm : Json → Json} {roles : String → Prop} {r root : PackReceipt}
  {deps : List PackReceipt} {members : List Member} {rawBytes : Bytes}

variable (E deps) in
/-- What the issuer of a decision has to see to, for a member of its support set. -/
def Member.Backed : Member → Prop
  | .typedReceiptDependency eventHash _ _ => ∃ r ∈ deps, r.eventHash = eventHash ∧ r.Ingested E
  | .dependedOnReceipt eventHash => ∃ r ∈ deps, r.eventHash = eventHash ∧ r.Ingested E
  | .citedLink _ url => ¬ Blank url
  | .evidenceDigest _ digest => LowerHexDigest digest
  | .selectorValue .. => True

theorem PackReceipt.Reads.extractEventHash {value : Json} (h : r.Reads E norm value) :
    extractEventHash E r.text = some r.eventHash := by
  rw [VertRule.extractEventHash, h.json]
  exact h.hash

/-- The added receipts supply their hashes. -/
theorem supplies_built (laws : IssueLaws E norm) (hdeps : ∀ r ∈ deps, r.Built E)
    {format decisionCanonical eventHash : String} :
    DecisionPack.Supplies E ⟨format, decisionCanonical, deps.map (·.text)⟩ .valid eventHash ↔
      ∃ r ∈ deps, r.eventHash = eventHash ∧ r.Ingested E := by
  have hone : ∀ r ∈ deps, VertRule.extractEventHash E r.text = some eventHash ∧
      (verifyReceipt E (asBytes r.text)).status = .valid ↔
        r.eventHash = eventHash ∧ r.Ingested E := by
    intro r hr
    obtain ⟨value, hread⟩ := (hdeps r hr).reads laws
    rw [hread.extractEventHash, (hdeps r hr).valid_iff laws, Option.some.injEq]
  constructor
  · rintro ⟨supplied, hs, h⟩
    obtain ⟨r, hr, rfl⟩ := List.mem_map.1 hs
    exact ⟨r, hr, (hone r hr).1 h⟩
  · rintro ⟨r, hr, h⟩
    exact ⟨r.text, List.mem_map_of_mem hr, (hone r hr).2 h⟩

theorem holds_read_iff (laws : IssueLaws E norm) (hdeps : ∀ r ∈ deps, r.Built E)
    {format decisionCanonical : String} {m : Member} :
    m.read.Holds E ⟨format, decisionCanonical, deps.map (·.text)⟩ ↔ m.Backed E deps := by
  cases m with
  | typedReceiptDependency eventHash role targetSchema => exact supplies_built laws hdeps
  | dependedOnReceipt eventHash => exact supplies_built laws hdeps
  | _ => exact Iff.rfl

/-- **An issued decision pack is valid exactly when its issuer backed every member of the support
set.** -/
theorem verifyDecisionPack_issued_iff (laws : IssueLaws E norm) (decodes : MemberLaws E norm roles)
    (hroot : root.Built E) (hallow : root.fields = allowFields members)
    (hdeps : ∀ r ∈ deps, r.Built E)
    (hpack : E.decisionPackFromSlice rawBytes =
      .ok ⟨decisionPackFormat, root.text, deps.map (·.text)⟩) :
    (verifyDecisionPack E rawBytes).status = .valid ↔
      root.Ingested E ∧ (∀ m ∈ members, m.Known roles) ∧ ∀ m ∈ members, m.Backed E deps := by
  obtain ⟨value, hread⟩ := hroot.reads laws
  obtain ⟨payload, hp, hn⟩ := hread.payload
  have hkind : (payload.get "payload_kind").bind Json.asStr = some decisionPayloadKind := by
    have hfields : root.fields.lookup "payload_kind" =
        (some decisionPayloadKind).map .string := by rw [hallow]; rfl
    have hstring := hread.string laws hroot hfields
    rw [hp, Option.bind_some] at hstring
    rw [hstring]
    rfl
  have hadmits : ∀ p, AdmitsDecision E root.text p ↔
      (∀ m ∈ members, m.Known roles) ∧ p = ⟨.allow, members.map Member.read⟩ := by
    intro p
    rw [← decodes.decision (hn.trans (by rw [PackReceipt.payload, hallow]))]
    constructor
    · rintro ⟨value', payload', hv, hp', -, hdecode⟩
      obtain rfl := Except.ok.inj (hv.symm.trans hread.json)
      obtain rfl := Option.some.inj (hp'.symm.trans hp)
      exact hdecode
    · exact fun hdecode => ⟨value, payload, hread.json, hp, hkind, hdecode⟩
  rw [verifyDecisionPack_valid_iff_law]
  constructor
  · rintro ⟨pack, p, ho, law⟩
    obtain rfl := Except.ok.inj (ho.parsed.symm.trans hpack)
    obtain ⟨hknown, rfl⟩ := (hadmits p).1 ho.admitted
    refine ⟨(hroot.valid_iff laws).1 law.decision, hknown, fun m hm => ?_⟩
    exact (holds_read_iff laws hdeps).1 (law.members _ (List.mem_map_of_mem hm))
  · rintro ⟨hingested, hknown, hbacked⟩
    refine ⟨_, _, ⟨hpack, rfl, (hadmits _).2 ⟨hknown, rfl⟩⟩,
      (hroot.valid_iff laws).2 hingested, fun s hs => ?_, fun m hm => ?_⟩
    · obtain ⟨r, hr, rfl⟩ := List.mem_map.1 hs
      obtain ⟨v, hv⟩ := (hdeps r hr).reads laws
      rw [hv.extractEventHash]
      rfl
    · obtain ⟨member, hmember, rfl⟩ := List.mem_map.1 hm
      exact (holds_read_iff laws hdeps).2 (hbacked member hmember)

/-! ### The decision pack of the test vectors, as it was issued -/

/-- The receipt that the decision depends on. -/
def priorIssue : PackReceipt where
  kind := none
  others := [("step", .string "prior")]
  supportSet := none
  logicalTime := 1000
  eventHash := priorHash.toHex
  text := priorReceipt.toValue.text

/-- What the decision rests on: a link, the prior receipt, evidence and a selector. -/
def decisionMembers : List Member :=
  [.citedLink "site" "https://example.org/x", .dependedOnReceipt priorHash.toHex,
    .evidenceDigest "dpa" (DigestBytes.ofNat (2 ^ 256 - 1)).toHex,
    .selectorValue "content_length" "10"]

/-- The decision to allow. -/
def decisionIssue : PackReceipt where
  kind := some decisionPayloadKind
  others := [("verdict", .object [("kind", .string "allow")])]
  supportSet := some decisionMembers
  logicalTime := 1001
  eventHash := decisionHash.toHex
  text := decisionReceipt.toValue.text

/-- The third-party code on the two receipts and the bodies they are sealed over. -/
def issuedDecisionTables : Tables where
  envelopes := [(decisionReceipt.toValue, decisionReceipt), (priorReceipt.toValue, priorReceipt)]
  others := [decisionReceipt.body, priorReceipt.body]
  digests := [(decisionReceipt.body, decisionReceipt.eventHash),
    (priorReceipt.body, priorReceipt.eventHash)]
  texts_nodup := by decide +kernel

theorem issueLaws_issuedDecisionTables : IssueLaws (issuing issuedDecisionTables) Json.sorted := by
  refine issueLaws_of_toValue ?_ ?_
  · simp only [Tables.values, issuedDecisionTables, List.map_cons, List.map_nil, List.cons_append,
      List.nil_append, List.mem_cons, List.not_mem_nil, or_false]
    rintro u (rfl | rfl | rfl | rfl) <;> decide +kernel
  · simp [issuedDecisionTables]

theorem built_decisionIssue : decisionIssue.Built (issuing issuedDecisionTables) :=
  built_issuing decisionReceipt (by decide) rfl rfl (by decide +kernel)
    (by decide +kernel) (by simp [issuedDecisionTables, Tables.values])
    (by simp [issuedDecisionTables, Tables.values]) (by decide +kernel) (by decide +kernel)
    (by simp [issuedDecisionTables])

theorem built_priorIssue : priorIssue.Built (issuing issuedDecisionTables) :=
  built_issuing priorReceipt (by decide) rfl rfl (by decide +kernel)
    (by decide +kernel) (by simp [issuedDecisionTables, Tables.values])
    (by simp [issuedDecisionTables, Tables.values]) (by decide +kernel) (by decide +kernel)
    (by simp [issuedDecisionTables])

/-- The valid pack of the vectors. -/
def vectorDecisionPack : DecisionPack := decisionPack [priorReceipt.toValue.text]

/-- The third-party code on the pack, with decoders that look members up. -/
def issuedDecisionExternals : Externals :=
  withDecoders ["host", "maker"]
    ((issuing issuedDecisionTables).withPacks [] [vectorDecisionPack] [])

theorem decisionIssue_text : decisionIssue.text = decisionReceipt.toValue.text := rfl

theorem priorIssue_text : priorIssue.text = priorReceipt.toValue.text := rfl

theorem parsed_vectorDecisionPack :
    issuedDecisionExternals.decisionPackFromSlice (asBytes vectorDecisionPack.toValue.text) =
      .ok ⟨decisionPackFormat, decisionIssue.text, [priorIssue].map (·.text)⟩ := by
  rw [List.map_singleton, decisionIssue_text, priorIssue_text, issuedDecisionExternals,
    decisionPackFromSlice_withDecoders]
  exact decisionPackFromSlice_withPacks (by simp) (List.mem_singleton_self vectorDecisionPack)

theorem issued_vectorDecisionPack :
    (verifyDecisionPack issuedDecisionExternals
        (asBytes vectorDecisionPack.toValue.text)).status = .valid ↔
      decisionIssue.Ingested issuedDecisionExternals ∧
        (∀ m ∈ decisionMembers, m.Known (· ∈ ["host", "maker"])) ∧
        ∀ m ∈ decisionMembers, m.Backed issuedDecisionExternals [priorIssue] := by
  have laws : IssueLaws ((issuing issuedDecisionTables).withPacks [] [vectorDecisionPack] [])
      Json.sorted := issueLaws_withPacks issueLaws_issuedDecisionTables
  refine verifyDecisionPack_issued_iff (issueLaws_withDecoders laws)
    (memberLaws_withDecoders laws.normal) built_decisionIssue.decoding rfl
    ?_ parsed_vectorDecisionPack
  intro r hr
  rw [List.mem_singleton.1 hr]
  exact built_priorIssue.decoding

end Issue

end VertRule
