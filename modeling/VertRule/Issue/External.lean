import VertRule.Issue.Receipt
import VertRule.TwoVerifiers

/-!
# Issued receipts at the host boundary

`gen_external_receipt` issues a receipt for `verify_external_receipt`, and a copy of it with another
`event_hash`.  Whatever hash is written into what was built, both verifiers ask for the one that was
computed; the external one also asks for a type with one digest law, and for the canonical schema of
a decode step (`verifyExternalReceipt_issued`).
-/

namespace VertRule

namespace Issue

/-- A hash with its last digit changed: `0` to `1`, any other to `0`. -/
def flipLastDigit (goodHash : String) : String :=
  String.ofList (goodHash.toList.take 63) ++
    if goodHash.toList.getLast? = some '0' then "1" else "0"

/-- The payload that `gen_external_receipt` issues. -/
def externalFields : List (String × Json) :=
  [("domain", .string "test.rbh.v1"), ("capability_type", .string "write"),
    ("scope", .string "engine.mutation")]

/-- What `gen_external_receipt` issues. -/
def externalStep : VectorStep where
  payload := .object externalFields
  logicalTime := 1000
  receiptType := "governance"
  contextDigest := placeholderHex64 0xaa
  policyDigest := placeholderHex64 0xcc

/-- `gen_external_receipt`: the receipt, and the copy of it. -/
def genExternalReceipt (E : Externals) : Except VerifyError (Json × Json) := do
  let (goodHash, valid) ← sealEnvelope E (externalStep.body none)
  pure (valid, .object (withEventHash (externalStep.body none) (flipLastDigit goodHash)))

/-- A payload that claims to be a decode step has the canonical schema. -/
def CanonicalDecodeStep (payload : Json) : Prop :=
  ∀ schema, payload.get "schema" = some (.string schema) →
    Rbh.decodeStepSchemaPrefix.toList <+: schema.toList → schema = Rbh.canonicalDecodeStepSchema

/-- What the verifiers say of the envelope of a step that claims a hash, where `eventHash` is the
one that was computed. -/
structure ClaimLaw (E : Externals) (step : VectorStep) (eventHash claimed : String)
    (rawBytes : Bytes) : Prop where
  receipt : (verifyReceipt E rawBytes).status = .valid ↔ claimed = eventHash
  accepts : (∃ m, Rbh.verifyExternalReceipt E rawBytes = .ok m) ↔
    claimed = eventHash ∧ step.receiptType ≠ "event" ∧ CanonicalDecodeStep step.payload
  refuses : claimed ≠ eventHash → step.receiptType ≠ "event" →
    Rbh.verifyExternalReceipt E rawBytes = .error (.eventHashMismatch claimed eventHash)

variable {E : Externals} {norm : Json → Json} {step : VectorStep} {parentId : Option String}
  {eventHash claimed : String} {rawBytes c : Bytes} {v value : Json} {envelope : ReceiptEnvelope}
  {fields : List (String × Json)}

/-! ### What is read of a claim -/

/-- A value has the string members of an object with its normal form. -/
theorem get_string_iff (normal : NormalForm E norm) (hnodup : (fields.map Prod.fst).Nodup)
    (h : norm v = norm (.object fields)) {key s : String} :
    v.get key = some (.string s) ↔ (Json.object fields).get key = some (.string s) := by
  obtain ⟨fields', rfl, -, hl⟩ := normal.members hnodup h
  have hmember := hl key
  rw [Json.get_object, Json.get_object]
  constructor
  · intro hw
    rw [hw] at hmember
    obtain ⟨w, hw', hn⟩ := Option.map_eq_some_iff.1 hmember.symm
    rw [hw', normal.string hn]
  · intro hw
    rw [hw] at hmember
    obtain ⟨w, hw', hn⟩ := Option.map_eq_some_iff.1 hmember
    rw [hw', normal.string hn]

theorem label_eq_event {receiptType : ReceiptType} :
    receiptType.label = "event" ↔ receiptType = .event := by
  cases receiptType <;> decide

/-- The type that is read is that of the step. -/
theorem ReadBack.receiptType (laws : IssueLaws E norm)
    (h : ReadBack E norm (step.body parentId) claimed v envelope) :
    envelope.receiptType.label = step.receiptType := by
  have hget : v.get "receipt_type" = some (.string step.receiptType) :=
    h.get_string laws draft_vectorBody (by decide)
      (by simp [vectorBody, List.lookup_cons])
  have hread := (h.decoded laws).required ("receipt_type", .string envelope.receiptType.label)
    (by simp [ReceiptEnvelope.required])
  -- a string was written, so that it is not read from an object
  rcases hread with hread | ⟨-, label, -, hread⟩
  · exact Json.string.inj (Option.some.inj (hread.symm.trans hget))
  · cases hread.symm.trans hget

/-- No step declares a digest law. -/
theorem ReadBack.eventHashProfile (laws : IssueLaws E norm)
    (h : ReadBack E norm (step.body parentId) claimed v envelope) :
    envelope.eventHashProfile = none := by
  have hnone := h.optional_none laws draft_vectorBody
    (f := ("event_hash_profile", envelope.eventHashProfile.map fun p => .string p.label))
    (by simp [ReceiptEnvelope.optional])
    (show "event_hash_profile" ≠ "event_hash" by decide)
    (by cases parentId <;> simp [vectorBody, optField, List.lookup_cons])
  simpa using hnone

/-- The payload that is read is that of the step, up to its normal form. -/
theorem ReadBack.payload (laws : IssueLaws E norm)
    (h : ReadBack E norm (step.body parentId) claimed v envelope) :
    norm envelope.payload = norm step.payload := by
  have hread := (h.decoded laws).get_required (f := ("payload", envelope.payload))
    (by simp [ReceiptEnvelope.required]) (show "payload" ∉ enumerationFields by decide)
  obtain ⟨fields, rfl, -, hl⟩ := h.members laws draft_vectorBody
  have hmember := hl "payload" (by decide)
  rw [show fields.lookup "payload" = _ from hread] at hmember
  exact Option.some.inj hmember

/-! ### The two verifiers -/

theorem ReadBack.sharedLaw_iff (laws : IssueLaws E norm)
    (h : ReadBack E norm (step.body parentId) claimed v envelope)
    (hcanon : typedCanonBytes E (.object (step.body parentId)) = .ok c) :
    Rbh.SharedLaw E envelope ↔ claimed = (E.blake3 c).toHex := by
  have hversion : envelope.envelopeVersion = SchemaVersion.V1 :=
    h.version laws draft_vectorBody (by simp [vectorBody])
  have hcompute := h.computeEventHash_draft laws draft_vectorBody
    (commitsAsRead_vectorBody laws h).2 hcanon
  have hhash : E.computeEventHash envelope = .ok envelope.eventHash ↔
      claimed = (E.blake3 c).toHex := by
    rw [hcompute, Except.ok.injEq, ← DigestBytes.toHex_injective.eq_iff,
      h.toHex_eventHash laws draft_vectorBody, eq_comm]
  rw [← hhash]
  exact ⟨fun hs => hs.eventHash, fun hh => ⟨hversion, hh⟩⟩

theorem ReadBack.externalOnly_iff (laws : IssueLaws E norm)
    (h : ReadBack E norm (step.body parentId) claimed v envelope)
    (hpayload : step.payload = .object fields) (hnodup : (fields.map Prod.fst).Nodup) :
    Rbh.ExternalOnly envelope ↔
      step.receiptType ≠ "event" ∧ CanonicalDecodeStep step.payload := by
  have hnone := h.eventHashProfile laws
  have htype : envelope.receiptType ≠ .event ↔ step.receiptType ≠ "event" := by
    rw [← h.receiptType laws, ne_eq, ne_eq, label_eq_event]
  have hget : ∀ s, envelope.payload.get "schema" = some (.string s) ↔
      step.payload.get "schema" = some (.string s) := by
    intro s
    rw [hpayload]
    exact get_string_iff laws.normal hnodup (hpayload ▸ h.payload laws)
  constructor
  · intro ho
    -- no step declares a profile, so that the type alone decides which law applies
    refine ⟨htype.1 ?_, fun schema hs => ho.decodeStep schema ((hget schema).2 hs)⟩
    rcases ho.profile with hp | ⟨-, ht⟩
    · exact absurd (hnone.symm.trans hp) (by simp)
    · exact ht
  · rintro ⟨ht, hd⟩
    exact ⟨.inr ⟨hnone, htype.2 ht⟩, fun schema hs => hd schema ((hget schema).1 hs)⟩

/-- Where one digest law applies, another hash is refused for what it is. -/
theorem verifyExternalReceipt_eq_mismatch {d : DigestBytes}
    (hparsed : E.envelopeFromSlice rawBytes = .ok envelope)
    (hversion : envelope.envelopeVersion = SchemaVersion.V1)
    (hprofile : Rbh.resolveProfile E envelope = .ok .envelopeMinus)
    (hcompute : E.computeEventHash envelope = .ok d) (hne : d ≠ envelope.eventHash) :
    Rbh.verifyExternalReceipt E rawBytes =
      .error (.eventHashMismatch envelope.eventHash.toHex d.toHex) := by
  have hevent : Rbh.verifyEventHash E envelope =
      .error (.eventHashMismatch envelope.eventHash.toHex d.toHex) := by
    simp [Rbh.verifyEventHash, hprofile, hcompute, hne]
  simp [Rbh.verifyExternalReceipt, hparsed, Rbh.verifyEnvelopeVersion, hversion, hevent]

/-- Both verifiers ask for the hash of the draft. -/
theorem ReadBack.claimLaw (laws : IssueLaws E norm)
    (hpayload : step.payload = .object fields) (hnodup : (fields.map Prod.fst).Nodup)
    (hseal : sealEnvelope E (step.body parentId) = .ok (eventHash, value))
    (hread : ReadBack E norm (step.body parentId) claimed v envelope)
    (h : Rbh.ReadAlike E rawBytes envelope) : ClaimLaw E step eventHash claimed rawBytes := by
  obtain ⟨c, hcanon, rfl, -⟩ := sealEnvelope_eq_ok.1 hseal
  have hshared := hread.sharedLaw_iff laws hcanon
  have hmarkers : envelope.MarkersMatch E := by
    refine hread.markersMatch laws draft_vectorBody ?_ ?_ <;>
      cases parentId <;> simp [vectorBody, optField, List.lookup_cons]
  refine ⟨?_, ?_, fun hne ht => ?_⟩
  · rw [verifyReceipt_valid_iff, ← hshared, h.ingested]
    simp [Rbh.verifies_iff_shared, hmarkers]
  · rw [← hshared, ← hread.externalOnly_iff laws hpayload hnodup,
      ← Rbh.constitutionalLaw_iff_shared]
    simp only [Rbh.verifyExternalReceipt_eq_ok_iff_law, h.parsed]
    simp
  · have hclaimed := hread.toHex_eventHash laws draft_vectorBody
    have htype : envelope.receiptType ≠ .event := by
      rw [ne_eq, ← label_eq_event, hread.receiptType laws]
      exact ht
    -- the recomputed hash is that of the draft: the claimed one takes no part in it
    rw [← hclaimed] at hne ⊢
    refine verifyExternalReceipt_eq_mismatch h.parsed
      (hread.version laws draft_vectorBody (by simp [vectorBody]))
      (Rbh.resolveProfile_eq_envelopeMinus.2 (.inr ⟨hread.eventHashProfile laws, htype⟩))
      (hread.computeEventHash_draft laws draft_vectorBody
        (commitsAsRead_vectorBody laws hread).2 hcanon) ?_
    intro heq
    exact hne (congrArg DigestBytes.toHex heq).symm

/-- The changed digit changes the hash. -/
theorem flipLastDigit_ne (goodHash : String) : flipLastDigit goodHash ≠ goodHash := by
  intro h
  have hlast := congrArg (fun s => s.toList.getLast?) h
  -- whichever the last digit is, it is replaced by another
  by_cases hzero : goodHash.toList.getLast? = some '0' <;>
    simp [flipLastDigit, hzero] at hlast
  exact hzero hlast.symm

/-- The receipt that is issued for the external verifier is accepted, and the copy of it is
refused for its hash. -/
theorem genExternalReceipt_verified {valid invalid : Json} {rawBytes' : Bytes}
    {envelope' : ReceiptEnvelope} (laws : IssueLaws E norm)
    (hgen : genExternalReceipt E = .ok (valid, invalid))
    (hraw : typedCanonBytes E valid = .ok rawBytes) (h : Rbh.ReadAlike E rawBytes envelope)
    (hraw' : typedCanonBytes E invalid = .ok rawBytes') (h' : Rbh.ReadAlike E rawBytes' envelope') :
    (∃ m, Rbh.verifyExternalReceipt E rawBytes = .ok m) ∧
      ∃ goodHash, Rbh.verifyExternalReceipt E rawBytes' =
        .error (.eventHashMismatch (flipLastDigit goodHash) goodHash) := by
  rw [genExternalReceipt, Except.bind_eq_ok] at hgen
  obtain ⟨⟨goodHash, valid⟩, hseal, heq⟩ := hgen
  obtain ⟨rfl, rfl⟩ := Prod.mk.inj (Except.ok.inj heq)
  obtain ⟨-, -, -, rfl⟩ := sealEnvelope_eq_ok.1 hseal
  obtain ⟨v, hread⟩ := readBack_of_claim laws hraw h.ingested
  obtain ⟨v', hread'⟩ := readBack_of_claim laws hraw' h'.ingested
  have hnodup : (externalFields.map Prod.fst).Nodup := by decide
  have htype : externalStep.receiptType ≠ "event" := by decide
  refine ⟨(hread.claimLaw laws rfl hnodup hseal h).accepts.2 ⟨rfl, htype, ?_⟩, goodHash,
    (hread'.claimLaw laws rfl hnodup hseal h').refuses (flipLastDigit_ne goodHash) htype⟩
  intro schema hs
  simp [externalStep, externalFields, Json.get, List.lookup_cons] at hs

end Issue

end VertRule
