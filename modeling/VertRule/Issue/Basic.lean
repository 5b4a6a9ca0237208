import VertRule.NormalForm
import VertRule.Transfer

/-!
# Issuing receipts

`generate_test_vectors.rs` and `generate_constitutional_artifact.rs` issue what the verifier
verifies: they hash the canonical form of an envelope without its `event_hash`, add the hash, and
write the canonical form of the whole.  What is used of the third-party code between the two sides
is in `IssueLaws`.
-/

namespace VertRule

namespace Issue

/-! ### The issuer -/

section Issuer

variable (E : Externals)

/-- `canon_hash`.  The `canon_bytes` of the issuer serializes and canonicalizes as
`typed_canon_bytes` does. -/
def canonHash (value : Json) : Except VerifyError String := do
  let bytes ← typedCanonBytes E value
  pure (E.blake3 bytes).toHex

/-- `envelope["event_hash"] = json!(event_hash)`, where there is none yet. -/
def withEventHash (envelope : List (String × Json)) (eventHash : String) :
    List (String × Json) :=
  envelope ++ [("event_hash", .string eventHash)]

/-- What is done to an envelope that lacks its `event_hash`: the hash, and the envelope with it. -/
def sealEnvelope (envelope : List (String × Json)) : Except VerifyError (String × Json) := do
  let eventHash ← canonHash E (.object envelope)
  pure (eventHash, .object (withEventHash envelope eventHash))

/-- `placeholder_hex_64`. -/
def placeholderHex64 (seed : UInt8) : Json := .string (hexEncode (List.replicate 32 seed))

/-- The envelope of `build_envelope_with_digests`, before its hash is known. -/
def vectorBody (payload : Json) (logicalTime : UInt64) (parentId : Option String)
    (receiptType : String) (contextDigest policyDigest : Json) : List (String × Json) :=
  [("envelope_version", .ofU64 1), ("receipt_type", .string receiptType),
    ("context_digest", contextDigest), ("schema_digest", placeholderHex64 0xbb),
    ("policy_digest", policyDigest), ("logical_time", .string (toString logicalTime.toNat)),
    ("payload", payload)] ++ optField "parent_id" .string parentId

/-- `build_envelope_with_digests`. -/
def buildEnvelopeWithDigests (payload : Json) (logicalTime : UInt64) (parentId : Option String)
    (receiptType : String) (contextDigest policyDigest : Json) : Except VerifyError Json := do
  let (_, envelope) ← sealEnvelope E
    (vectorBody payload logicalTime parentId receiptType contextDigest policyDigest)
  pure envelope

/-- `build_envelope`. -/
def buildEnvelope (payload : Json) (logicalTime : UInt64) (parentId : Option String)
    (receiptType : String) : Except VerifyError Json :=
  buildEnvelopeWithDigests E payload logicalTime parentId receiptType (placeholderHex64 0xaa)
    (placeholderHex64 0xcc)

/-- The arguments of `build_envelope_with_digests`, but for the parent. -/
structure VectorStep where
  payload : Json
  logicalTime : UInt64
  receiptType : String
  contextDigest : Json
  policyDigest : Json

/-- The envelope of a step, before its hash is known. -/
def VectorStep.body (step : VectorStep) (parentId : Option String) : List (String × Json) :=
  vectorBody step.payload step.logicalTime parentId step.receiptType step.contextDigest
    step.policyDigest

variable {α : Type*}

/-- The loop that issues a chain, each envelope with the hash of the one before as its parent. -/
def issueChain (body : α → Option String → List (String × Json)) :
    Option String → List α → Except VerifyError (List Json)
  | _, [] => .ok []
  | parentHash, step :: steps => do
    let (eventHash, envelope) ← sealEnvelope E (body step parentHash)
    let envelopes ← issueChain body (some eventHash) steps
    pure (envelope :: envelopes)

end Issuer

/-! ### What is used of the third-party code -/

section Laws

variable (E : Externals) (norm : Json → Json)

/-- The decoder of envelopes reads what an object of their members spells, and `compute_event_hash`
of what it reads is BLAKE3 over the canonical form of the serialized envelope without its
`event_hash`. -/
structure IssueLaws : Prop where
  normal : NormalForm E norm
  decoded : ∀ {v envelope}, validateEnvelopeSchema v = .ok () →
    E.envelopeFromValue v = .ok envelope → envelope.DecodedFrom v
  time : ∀ {v envelope} {t : UInt64}, validateEnvelopeSchema v = .ok () →
    E.envelopeFromValue v = .ok envelope →
    v.get "logical_time" = some (.string (toString t.toNat)) → envelope.logicalTime = t
  eventHash : ∀ {v envelope d}, validateEnvelopeSchema v = .ok () →
    E.envelopeFromValue v = .ok envelope → (E.computeEventHash envelope = .ok d ↔
      ∃ c, typedCanonBytes E envelope.body = .ok c ∧ E.blake3 c = d)

/-- The laws are about these functions only, and about BLAKE3 on canonical forms. -/
theorem IssueLaws.congr {E : Externals} {norm : Json → Json} (laws : IssueLaws E norm)
    {E' : Externals} (hcanon : ∀ v, typedCanonBytes E' v = typedCanonBytes E v)
    (hstrict : ∀ c, E'.toCanonBytesFromSlice c = E.toCanonBytesFromSlice c)
    (hread : ∀ c, E'.fromSlice c = E.fromSlice c)
    (htyped : ∀ v, E'.envelopeFromValue v = E.envelopeFromValue v)
    (hhash : ∀ envelope, E'.computeEventHash envelope = E.computeEventHash envelope)
    (hblake3 : ∀ v c, typedCanonBytes E v = .ok c → E'.blake3 c = E.blake3 c) :
    IssueLaws E' norm where
  normal := laws.normal.congr hcanon hstrict hread
  decoded hs h := laws.decoded hs (htyped _ ▸ h)
  time hs h := laws.time hs (htyped _ ▸ h)
  eventHash := by
    intro v envelope d hs h
    rw [hhash, laws.eventHash hs (htyped _ ▸ h)]
    refine exists_congr fun c => ?_
    rw [hcanon]
    exact and_congr_right fun hc => by rw [hblake3 _ _ hc]

end Laws

end Issue

end VertRule
