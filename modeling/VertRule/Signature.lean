import VertRule.Canon

/-!
# Signatures over receipts

`signature.rs`: the checks on a signature bundle, the domain-separated receipt digest, and the
Ed25519 verification of the canonical message.
-/

namespace VertRule

/-- `RECEIPT_PREFIX`. -/
def receiptPrefix : Bytes := asBytes "VR-ReceiptDigest|v1|"

/-- `SIGNATURE_PREFIX`. -/
def signaturePrefix : Bytes := asBytes "VR-ReceiptSig|v1|"

/-- `EXPECTED_ALG`. -/
def expectedAlg : String := "Ed25519"

/-- `EXPECTED_SCHEMA_VERSION`. -/
def expectedSchemaVersion : String := "0.2"

/-- `EXPECTED_BASIS`. -/
def expectedBasis : String := "BLAKE3+JCS"

/-- `ED25519_PK_LEN`. -/
def ed25519PkLen : ℕ := 32

/-- `ED25519_SIG_LEN`. -/
def ed25519SigLen : ℕ := 64

/-- `KeyId::from_hex`. -/
def KeyId.fromHex (hex : String) : Except VerifyError KeyId :=
  if length_eq : hex.utf8ByteSize = keyIdHexLen then
    if lowerHex : hex.toList.all isLowerHexDigit = true then .ok ⟨hex, length_eq, lowerHex⟩
    else .error (.signatureDataMalformed "key_id contains non-lowercase-hex characters")
  else .error (.signatureDataMalformed
    s!"key_id wrong length: expected {keyIdHexLen}, got {hex.utf8ByteSize}")

/-- The check `validate_metadata` makes on one field of a bundle. -/
def checkMetadata (label declared expected : String) : Except VerifyError Unit :=
  if declared ≠ expected then
    .error (.signatureDataMalformed s!"unsupported {label}: expected {expected}, got {declared}")
  else .ok ()

/-- `validate_metadata`. -/
def validateMetadata (bundle : SignatureBundle) : Except VerifyError Unit := do
  checkMetadata "algorithm" bundle.alg expectedAlg
  checkMetadata "schema version" bundle.schemaVersion expectedSchemaVersion
  checkMetadata "basis" bundle.basis expectedBasis

/-- `construct_canonical_message`. -/
def constructCanonicalMessage (receiptDigest : DigestBytes) (timestamp : String) : Bytes :=
  signaturePrefix ++ asBytes receiptDigest.toHex ++ asBytes "|" ++ asBytes timestamp

variable (E : Externals)

/-- `compute_receipt_digest`. -/
def computeReceiptDigest (envelope : ReceiptEnvelope) : Except VerifyError DigestBytes := do
  let value ← (E.envelopeToValue envelope).mapError .canon
  match value with
  | .object map =>
    if (map.lookup "event_hash").isNone then
      throw (.signatureDataMalformed
        "receipt envelope missing top-level event_hash during digest construction")
    let canonBytes ← typedCanonBytes E (.object (Json.removeKey map "event_hash"))
    pure (E.blake3 (receiptPrefix ++ canonBytes))
  | _ => throw (.canon "serialized envelope is not a JSON object")

/-- `decode_b64_fixed`. -/
def decodeB64Fixed (n : ℕ) (b64 label : String) : Except VerifyError Bytes := do
  let bytes ← (E.base64Decode b64).mapError fun e =>
    .signatureDataMalformed s!"invalid {label} base64: {e}"
  if bytes.length = n then pure bytes
  else throw (.signatureDataMalformed
    s!"{label} wrong length: expected {n}, got {bytes.length}")

/-- `decode_public_key`. -/
def decodePublicKey (b64 : String) : Except VerifyError VerifyingKey := do
  let pkArray ← decodeB64Fixed E ed25519PkLen b64 "public key"
  (E.verifyingKeyFromBytes pkArray).mapError fun e =>
    .signatureDataMalformed s!"invalid Ed25519 public key: {e}"

/-- `decode_signature`. -/
def decodeSignature (b64 : String) : Except VerifyError Bytes :=
  decodeB64Fixed E ed25519SigLen b64 "signature"

/-- `validate_key_id_matches`. -/
def validateKeyIdMatches (key : VerifyingKey) (expected : KeyId) : Except VerifyError Unit :=
  let computed := hexEncode ((E.blake3 key.bytes).bytes.take 12)
  if computed ≠ expected.hex then
    .error (.signatureInvalid
      s!"key_id mismatch: computed {computed}, declared {expected.hex}")
  else .ok ()

/-- `check_key_id_consistency`. -/
def checkKeyIdConsistency (bundle : SignatureBundle) : Bool :=
  match decodePublicKey E bundle.publicKeyB64 with
  | .ok key => (validateKeyIdMatches E key bundle.keyId).isOk
  | .error _ => false

/-- `verify_signature`. -/
def verifySignature (envelope : ReceiptEnvelope) (bundle : SignatureBundle) :
    Except VerifyError Unit := do
  validateMetadata bundle
  let verifyingKey ← decodePublicKey E bundle.publicKeyB64
  validateKeyIdMatches E verifyingKey bundle.keyId
  let receiptDigest ← computeReceiptDigest E envelope
  let canonicalMessage := constructCanonicalMessage receiptDigest bundle.timestamp
  let signature ← decodeSignature E bundle.signatureB64
  if E.ed25519Verify verifyingKey canonicalMessage signature then pure ()
  else throw (.signatureInvalid "Ed25519 signature verification failed")

variable {E}

/-- What a verified signature has passed. -/
theorem verifySignature_eq_ok {envelope : ReceiptEnvelope} {bundle : SignatureBundle} :
    verifySignature E envelope bundle = .ok () ↔
      validateMetadata bundle = .ok () ∧
      ∃ key, decodePublicKey E bundle.publicKeyB64 = .ok key ∧
        validateKeyIdMatches E key bundle.keyId = .ok () ∧
        ∃ digest, computeReceiptDigest E envelope = .ok digest ∧
          ∃ signature, decodeSignature E bundle.signatureB64 = .ok signature ∧
            E.ed25519Verify key (constructCanonicalMessage digest bundle.timestamp) signature
              = true := by
  simp only [verifySignature, Except.bind_eq_ok, Unique.exists_iff, PUnit.default_eq_unit]
  refine and_congr_right fun _ => exists_congr fun key => and_congr_right fun _ =>
    and_congr_right fun _ => exists_congr fun digest => and_congr_right fun _ =>
    exists_congr fun signature => and_congr_right fun _ => ?_
  split_ifs with h <;> simp [h]

/-- The receipt digest is that of the serialized envelope without its `event_hash`. -/
theorem computeReceiptDigest_eq_ok {envelope : ReceiptEnvelope} {digest : DigestBytes} :
    computeReceiptDigest E envelope = .ok digest ↔
      ∃ fields canonical, E.envelopeToValue envelope = .ok (.object fields) ∧
        (fields.lookup "event_hash").isSome = true ∧
        typedCanonBytes E (.object (Json.removeKey fields "event_hash")) = .ok canonical ∧
        E.blake3 (receiptPrefix ++ canonical) = digest := by
  simp only [computeReceiptDigest, Except.bind_eq_ok, Except.mapError_eq_ok]
  constructor
  · rintro ⟨value, hv, h⟩
    cases value with
    | object fields =>
      cases hl : fields.lookup "event_hash" with
      | none => simp [hl] at h
      | some v =>
        simp only [hl, Option.isNone_some, Bool.false_eq_true, if_false, Except.bind_eq_ok] at h
        obtain ⟨canonical, hc, hd⟩ := h
        exact ⟨fields, canonical, hv, by simp [hl], hc, Except.ok.inj hd⟩
    | _ => simp at h
  · rintro ⟨fields, canonical, hv, hl, hc, rfl⟩
    obtain ⟨v, hl⟩ := Option.isSome_iff_exists.1 hl
    exact ⟨_, hv, by simp [hl, hc]⟩

/-- A bundle whose signature verifies has a key id that matches its key. -/
theorem checkKeyIdConsistency_of_verifySignature {envelope : ReceiptEnvelope}
    {bundle : SignatureBundle} (h : verifySignature E envelope bundle = .ok ()) :
    checkKeyIdConsistency E bundle = true := by
  obtain ⟨-, key, hkey, hid, -⟩ := verifySignature_eq_ok.1 h
  simp [checkKeyIdConsistency, hkey, hid, Except.isOk, Except.toBool]

/-! ### Key identifiers -/

/-- A key id is read as it stands, or not at all. -/
theorem KeyId.fromHex_eq_ok {hex : String} {keyId : KeyId} :
    KeyId.fromHex hex = .ok keyId ↔ keyId.hex = hex := by
  unfold KeyId.fromHex
  constructor
  · intro h
    split_ifs at h with hlen hlower
    rw [← Except.ok.inj h]
  · rintro rfl
    rw [dif_pos keyId.length_eq, dif_pos keyId.lowerHex]

/-- The first bytes of a digest, in hex, are a key id. -/
theorem KeyId.exists_hexEncode {bytes : Bytes} (h : bytes.length = 12) :
    ∃ keyId : KeyId, keyId.hex = hexEncode bytes := by
  have hdigit : ∀ n : Fin 16, isLowerHexDigit (Nat.digitChar n) = true ∧
      (Nat.digitChar n).utf8Size = 1 := by decide
  have hbyte : ∀ b : UInt8, ∀ c ∈ hexByte b, isLowerHexDigit c = true ∧ c.utf8Size = 1 := by
    intro b c hc
    have hb := b.toNat_lt
    simp only [hexByte, List.mem_cons, List.not_mem_nil, or_false] at hc
    rcases hc with rfl | rfl
    · exact hdigit ⟨b.toNat / 16, by omega⟩
    · exact hdigit ⟨b.toNat % 16, by omega⟩
  have hsize : ∀ bytes : Bytes, String.utf8Len (bytes.flatMap hexByte) = 2 * bytes.length := by
    intro bytes
    induction bytes with
    | nil => rfl
    | cons b bytes ih =>
      have hhigh := (hbyte b _ List.mem_cons_self).2
      have hlow := (hbyte b _ (List.mem_cons_of_mem _ (List.mem_singleton_self _))).2
      simp only [List.flatMap_cons, hexByte, List.cons_append, List.nil_append,
        String.utf8Len_cons, List.length_cons] at ih hhigh hlow ⊢
      omega
  refine ⟨⟨hexEncode bytes, ?_, ?_⟩, rfl⟩
  · rw [hexEncode, String.utf8ByteSize_ofList, hsize, h]
    rfl
  · rw [hexEncode, String.toList_ofList, List.all_eq_true]
    intro c hc
    obtain ⟨b, -, hc⟩ := List.mem_flatMap.1 hc
    exact (hbyte b c hc).1

end VertRule
