import VertRule.Canon
import VertRule.Limits
import VertRule.SchemaProfile

/-!
# Fail-closed ingestion

`ingestion.rs`: raw bytes to a typed envelope, or a chain of them, through limits, canonical
admission, the schema profile, the structural float check and typed deserialization.
-/

namespace VertRule

variable (E : Externals)

/-- `STRUCTURAL_INTEGER_FIELDS`. -/
def structuralIntegerFields : List String := ["envelope_version", "logical_time"]

/-- The condition under which `reject_structural_floats` rejects the value of a field. -/
def isStructuralFloat (obj : List (String × Json)) (field : String) : Bool :=
  match (obj.lookup field).bind Json.asNumber with
  | some n => n.isF64 && !n.isU64 && !n.isI64
  | none => false

/-- `reject_structural_floats`. -/
def rejectStructuralFloats (value : Json) : Except VerifyError Unit :=
  match value.asObject with
  | none => .ok ()
  | some obj =>
    match structuralIntegerFields.find? (isStructuralFloat obj) with
    | some field => .error (.floatInStructuralField field)
    | none => .ok ()

/-- `ingest_envelope_with_limits`. -/
def ingestEnvelopeWithLimits (rawBytes : Bytes) (limits : VerifierLimits) :
    Except VerifyError ReceiptEnvelope := do
  (checkByteLimit rawBytes limits).mapError .limitExceeded
  admitCanonicalBytes E rawBytes
  let value ← (E.fromSlice rawBytes).mapError .malformedJson
  (checkStructure value limits).mapError .limitExceeded
  validateEnvelopeSchema value
  rejectStructuralFloats value
  (E.envelopeFromValue value).mapError .malformedJson

/-- `ingest_envelope`. -/
def ingestEnvelope (rawBytes : Bytes) : Except VerifyError ReceiptEnvelope :=
  ingestEnvelopeWithLimits E rawBytes .default

/-- The loop of `ingest_chain_with_limits` over the elements, numbering them from `i`. -/
def ingestElements (i : ℕ) : List Json → Except VerifyError (List ReceiptEnvelope)
  | [] => .ok []
  | elem :: elements => do
    validateEnvelopeSchema elem
    rejectStructuralFloats elem
    let envelope ← (E.envelopeFromValue elem).mapError fun e =>
      .malformedJson s!"element {i}: {e}"
    let envelopes ← ingestElements (i + 1) elements
    pure (envelope :: envelopes)

/-- `ingest_chain_with_limits`. -/
def ingestChainWithLimits (rawBytes : Bytes) (limits : VerifierLimits) :
    Except VerifyError (List ReceiptEnvelope) := do
  (checkByteLimit rawBytes limits).mapError .limitExceeded
  admitCanonicalBytes E rawBytes
  let array ← (E.fromSlice rawBytes).mapError .malformedJson
  (checkStructure array limits).mapError .limitExceeded
  match array with
  | .array elements =>
    if elements.isEmpty then pure []
    else do
      (checkChainLength elements.length limits).mapError .limitExceeded
      ingestElements E 0 elements
  | _ => throw (.malformedJson "chain must be a JSON array")

/-- `ingest_chain`. -/
def ingestChain (rawBytes : Bytes) : Except VerifyError (List ReceiptEnvelope) :=
  ingestChainWithLimits E rawBytes .default

variable {E}

/-- What an ingested envelope has passed. -/
theorem ingestEnvelopeWithLimits_eq_ok {rawBytes : Bytes} {limits : VerifierLimits}
    {envelope : ReceiptEnvelope} :
    ingestEnvelopeWithLimits E rawBytes limits = .ok envelope ↔
      checkByteLimit rawBytes limits = .ok () ∧
      E.toCanonBytesFromSlice rawBytes = .ok rawBytes ∧
      ∃ value, E.fromSlice rawBytes = .ok value ∧ checkStructure value limits = .ok () ∧
        validateEnvelopeSchema value = .ok () ∧ rejectStructuralFloats value = .ok () ∧
        E.envelopeFromValue value = .ok envelope := by
  simp only [ingestEnvelopeWithLimits, Except.bind_eq_ok, Except.mapError_eq_ok,
    Unique.exists_iff, PUnit.default_eq_unit, admitCanonicalBytes_eq_ok]

/-- What an element of an ingested chain has passed. -/
structure ElementAdmitted (E : Externals) (elem : Json) (envelope : ReceiptEnvelope) : Prop where
  schema : validateEnvelopeSchema elem = .ok ()
  floats : rejectStructuralFloats elem = .ok ()
  typed : E.envelopeFromValue elem = .ok envelope

theorem ingestElements_eq_ok {i : ℕ} {elems : List Json} {envelopes : List ReceiptEnvelope} :
    ingestElements E i elems = .ok envelopes ↔
      List.Forall₂ (ElementAdmitted E) elems envelopes := by
  induction elems generalizing i envelopes with
  | nil => simp [ingestElements, eq_comm]
  | cons elem elems ih =>
    simp only [ingestElements, Except.bind_eq_ok, Except.mapError_eq_ok, ih, Unique.exists_iff,
      PUnit.default_eq_unit, Except.pure_eq_ok, Except.ok.injEq]
    constructor
    · rintro ⟨hs, hf, envelope, ht, rest, hrest, rfl⟩
      exact .cons ⟨hs, hf, ht⟩ hrest
    · rintro (_ | ⟨h, hrest⟩)
      exact ⟨h.schema, h.floats, _, h.typed, _, hrest, rfl⟩

/-- What an ingested chain has passed. -/
theorem ingestChainWithLimits_eq_ok {rawBytes : Bytes} {limits : VerifierLimits}
    {envelopes : List ReceiptEnvelope} :
    ingestChainWithLimits E rawBytes limits = .ok envelopes ↔
      checkByteLimit rawBytes limits = .ok () ∧
      E.toCanonBytesFromSlice rawBytes = .ok rawBytes ∧
      ∃ elems, E.fromSlice rawBytes = .ok (.array elems) ∧
        checkStructure (.array elems) limits = .ok () ∧
        checkChainLength elems.length limits = .ok () ∧
        List.Forall₂ (ElementAdmitted E) elems envelopes := by
  simp only [ingestChainWithLimits, Except.bind_eq_ok, Except.mapError_eq_ok,
    Unique.exists_iff, PUnit.default_eq_unit, admitCanonicalBytes_eq_ok]
  refine and_congr_right fun _ => and_congr_right fun _ => ?_
  constructor
  · rintro ⟨value, hv, hs, h⟩
    cases value with
    | array elems =>
      refine ⟨elems, hv, hs, ?_⟩
      by_cases hempty : elems = []
      · -- an empty chain skips the length check, which it would pass
        subst hempty
        obtain rfl : [] = envelopes := by simpa using h
        exact ⟨by simp [checkChainLength], .nil⟩
      · simpa [hempty, Except.bind_eq_ok, Except.mapError_eq_ok, Unique.exists_iff,
          ingestElements_eq_ok] using h
    | _ => simp at h
  · rintro ⟨elems, hv, hs, hlen, hall⟩
    refine ⟨_, hv, hs, ?_⟩
    by_cases hempty : elems = []
    · subst hempty
      obtain rfl := List.forall₂_nil_left_iff.1 hall
      rfl
    · simpa [hempty, Except.bind_eq_ok, Except.mapError_eq_ok, Unique.exists_iff,
        ingestElements_eq_ok] using ⟨hlen, hall⟩

end VertRule
