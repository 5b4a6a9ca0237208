import VertRule.Closure.Law
import VertRule.DecisionLaw
import VertRule.ExternalLaw
import VertRule.LayeredLaw
import VertRule.Refusals
import VertRule.Sidecar

/-!
# What the resource limits guard

The entry points for receipts and chains ingest their document, under the default limits.  The
other five deserialize it directly, so a document of theirs is within the limits only if it happens
to be (`limitsGuard_iff`).
-/

namespace VertRule

variable (E : Externals)

/-- The document is not too long, and its JSON is within the structural limits. -/
structure WithinDefaultLimits (rawBytes : Bytes) : Prop where
  size : rawBytes.length ≤ VerifierLimits.default.maxBytes
  structured : ∀ value, E.fromSlice rawBytes = .ok value → value.Within .default

/-- An entry point that takes a document as raw bytes reports it as valid, or returns `Ok`. -/
inductive Accepted (rawBytes : Bytes) : Prop
  | receipt (h : (verifyReceipt E rawBytes).status = .valid)
  | chain (h : (verifyReceiptChain E rawBytes).status = .valid)
  | bundle (h : (verifyBundle E rawBytes).status = .valid)
  | decisionPack (h : (verifyDecisionPack E rawBytes).status = .valid)
  | layeredPack (h : (verifyLayeredPack E rawBytes).status = .valid)
  | closureBundle (h : (verifyClosureBundle E rawBytes).status = .valid)
  | externalReceipt {m : Rbh.VerifiedReceiptMetadata}
    (h : Rbh.verifyExternalReceipt E rawBytes = .ok m)

/-- The document meets the law of an entry point that does not ingest it. -/
inductive LawfulUnguarded (rawBytes : Bytes) : Prop
  | bundle {bundle : ExecutionBundle} (parsed : E.executionBundleFromSlice rawBytes = .ok bundle)
    (format : bundle.format = executionBundleFormat) (law : BundleLaw E bundle)
  | decisionPack {pack : DecisionPack} {payload : DecisionReceiptPayload}
    (opens : OpensDecision E rawBytes pack payload) (law : DecisionLaw E pack payload)
  | layeredPack {pack : LayeredPack} {rootKind : String} {supportSet : List SupportMember}
    (opens : OpensLayered E rawBytes pack rootKind supportSet) (law : LayeredLaw E pack supportSet)
  | closureBundle {bundle : ClosureBundle} {rootValue : Json} {rootHash : String}
    (opens : Opens E rawBytes bundle rootValue rootHash)
    (law : ClosureLaw E bundle rootValue rootHash)
  | externalReceipt {envelope : ReceiptEnvelope}
    (parsed : E.envelopeFromSlice rawBytes = .ok envelope)
    (law : Rbh.ConstitutionalLaw E envelope)

/-- No entry point accepts the document unless it is within the default limits. -/
def LimitsGuard (rawBytes : Bytes) : Prop :=
  Accepted E rawBytes → WithinDefaultLimits E rawBytes

variable {E} {rawBytes : Bytes}

/-- Checks on the one value that the bytes parse as are checks on the document. -/
theorem WithinDefaultLimits.of_checks {value : Json}
    (hsize : checkByteLimit rawBytes .default = .ok ()) (hv : E.fromSlice rawBytes = .ok value)
    (hs : checkStructure value .default = .ok ()) : WithinDefaultLimits E rawBytes := by
  refine ⟨checkByteLimit_eq_ok.1 hsize, fun value' hv' => ?_⟩
  obtain rfl := Except.ok.inj (hv.symm.trans hv')
  exact checkStructure_eq_ok_iff_within.1 hs

theorem within_of_ingestEnvelope {envelope : ReceiptEnvelope}
    (h : ingestEnvelope E rawBytes = .ok envelope) : WithinDefaultLimits E rawBytes := by
  obtain ⟨hsize, -, value, hv, hs, -⟩ := ingestEnvelopeWithLimits_eq_ok.1 h
  exact .of_checks hsize hv hs

theorem within_of_ingestChain {envelopes : List ReceiptEnvelope}
    (h : ingestChain E rawBytes = .ok envelopes) : WithinDefaultLimits E rawBytes := by
  obtain ⟨hsize, -, elems, hv, hs, -⟩ := ingestChainWithLimits_eq_ok.1 h
  exact .of_checks hsize hv hs

/-- What is accepted has been ingested, or meets the law of an entry point that does not ingest. -/
theorem Accepted.within_or_lawful (h : Accepted E rawBytes) :
    WithinDefaultLimits E rawBytes ∨ LawfulUnguarded E rawBytes := by
  cases h with
  | receipt h =>
    obtain ⟨envelope, hi, -⟩ := verifyReceipt_valid_iff.1 h
    exact .inl (within_of_ingestEnvelope hi)
  | chain h =>
    obtain ⟨envelopes, hi, -⟩ := verifyReceiptChain_valid_iff.1 h
    exact .inl (within_of_ingestChain hi)
  | bundle h =>
    obtain ⟨bundle, hparsed, hformat, law⟩ := verifyBundle_valid_iff_law.1 h
    exact .inr (.bundle hparsed hformat law)
  | decisionPack h =>
    obtain ⟨pack, payload, hopens, law⟩ := verifyDecisionPack_valid_iff_law.1 h
    exact .inr (.decisionPack hopens law)
  | layeredPack h =>
    obtain ⟨pack, rootKind, supportSet, hopens, law⟩ := verifyLayeredPack_valid_iff_law.1 h
    exact .inr (.layeredPack hopens law)
  | closureBundle h =>
    obtain ⟨bundle, rootValue, rootHash, hopens, law⟩ := verifyClosureBundle_valid_iff.1 h
    exact .inr (.closureBundle hopens law)
  | externalReceipt h =>
    obtain ⟨envelope, hparsed, law, -⟩ := Rbh.verifyExternalReceipt_eq_ok_iff_law.1 h
    exact .inr (.externalReceipt hparsed law)

theorem LawfulUnguarded.accepted (h : LawfulUnguarded E rawBytes) : Accepted E rawBytes := by
  cases h with
  | bundle hparsed hformat law =>
    exact .bundle (verifyBundle_valid_iff_law.2 ⟨_, hparsed, hformat, law⟩)
  | decisionPack hopens law =>
    exact .decisionPack (verifyDecisionPack_valid_iff_law.2 ⟨_, _, hopens, law⟩)
  | layeredPack hopens law =>
    exact .layeredPack (verifyLayeredPack_valid_iff_law.2 ⟨_, _, _, hopens, law⟩)
  | closureBundle hopens law =>
    exact .closureBundle (verifyClosureBundle_valid_iff.2 ⟨_, _, _, hopens, law⟩)
  | externalReceipt hparsed law =>
    exact .externalReceipt (Rbh.verifyExternalReceipt_eq_ok_iff_law.2 ⟨_, hparsed, law, rfl⟩)

/-- **The default limits guard a document exactly when it is within them, or meets the law of none
of the entry points that do not ingest it.** -/
theorem limitsGuard_iff :
    LimitsGuard E rawBytes ↔ WithinDefaultLimits E rawBytes ∨ ¬ LawfulUnguarded E rawBytes := by
  constructor
  · intro h
    by_cases hlaw : LawfulUnguarded E rawBytes
    · exact .inl (h hlaw.accepted)
    · exact .inr hlaw
  · intro h haccepted
    rcases haccepted.within_or_lawful with hwithin | hlaw
    · exact hwithin
    · exact h.resolve_right fun hn => hn hlaw

/-! ### A payload that is too large -/

theorem ReceiptEnvelope.hasNode_payload (envelope : ReceiptEnvelope) :
    envelope.toValue.HasNode 1 envelope.payload := by
  have hmem : ("payload", envelope.payload) ∈ envelope.fields := by simp [fields]
  exact List.mem_cons_of_mem _
    ((Json.nodes_sublist_valueNodes hmem).subset (Json.mem_nodes_self 1 _))

/-- A payload of 257 members, named by consecutive characters. -/
def wideMap : List (String × Json) :=
  (List.range 257).map fun n => (String.singleton (Char.ofNat (0x100 + n)), .null)

/-- A receipt with that payload. -/
def wideReceipt : ReceiptEnvelope :=
  vectorEnvelope .governance 1000 (.object wideMap)
    (.ofNat 0xaa90593ccb978381de8295db79c3ac8f3087a6140fb55f1cbd641149c2343d3b)

/-- The third-party code on the receipt. -/
def wideTables : Tables where
  envelopes := [(wideReceipt.toValue, wideReceipt)]
  digests := [(wideReceipt.body, wideReceipt.eventHash)]
  texts_nodup := by simp

/-- Its payload is too large an object for ingestion, and the external verifier accepts it. -/
theorem not_limitsGuard_wideReceipt :
    ¬ LimitsGuard wideTables.externals (asBytes wideReceipt.toValue.text) := by
  have hmem : (wideReceipt.toValue, wideReceipt) ∈ wideTables.envelopes := List.mem_singleton_self _
  have hnone : wideReceipt.payload.get "schema" = none :=
    Option.isNone_iff_eq_none.1 (by decide +kernel)
  have hlaw : Rbh.ConstitutionalLaw wideTables.externals wideReceipt :=
    { version := rfl
      profile := .inr ⟨rfl, by decide⟩
      eventHash := Tables.computeEventHash_listed (List.mem_singleton_self _)
      decodeStep := fun schema hs => absurd (hnone.symm.trans hs) nofun }
  have hlength : wideMap.length = 257 := by simp [wideMap]
  rw [limitsGuard_iff]
  rintro (hwithin | hunlawful)
  · have hstructured := hwithin.structured _ (Tables.fromStr_text (Tables.mem_values hmem))
    have hle := hstructured.object 1 wideMap wideReceipt.hasNode_payload
    rw [hlength] at hle
    exact absurd hle (by decide)
  · exact hunlawful (.externalReceipt (Tables.envelopeFromSlice_text hmem) hlaw)

end VertRule
