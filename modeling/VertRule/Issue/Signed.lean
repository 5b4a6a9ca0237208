import VertRule.Authority
import VertRule.Issue.Receipt

/-!
# Signed receipts, as they are issued

`sign_envelope` and `gen_valid_signed` sign the envelope they built, `verify_signature` checks the
signature over the envelope it read back.  A signed receipt of the vector generator is valid as
soon as it can be ingested (`verifySignedReceipt_built_iff`).
-/

namespace VertRule

namespace Issue

/-! ### The signer -/

/-- A signing key, as the third-party code has it, and its base64 encoder. -/
structure Signer where
  key : VerifyingKey
  sign : Bytes → Bytes
  encode : Bytes → String

section Signing

variable (E : Externals) (signer : Signer)

/-- The value that is signed: the envelope without its `event_hash`. -/
def commitmentValue : Json → Json
  | .object map => .object (Json.removeKey map "event_hash")
  | v => v

/-- The message that is signed. -/
def signedMessage (receiptHex timestamp : String) : Bytes :=
  asBytes "VR-ReceiptSig|v1|" ++ asBytes receiptHex ++ asBytes "|" ++ asBytes timestamp

/-- The key id, in hex. -/
def Signer.kid : String := hexEncode ((E.blake3 signer.key.bytes).bytes.take 12)

/-- The public key, in base64. -/
def Signer.publicKeyB64 : String := signer.encode signer.key.bytes

/-- A signature bundle, as it is written. -/
def bundleValue (keyId publicKeyB64 signatureB64 timestamp : String) : Json :=
  .object [("alg", .string "Ed25519"), ("key_id", .string keyId),
    ("public_key_b64", .string publicKeyB64), ("signature_b64", .string signatureB64),
    ("schema_version", .string "0.2"), ("digest_basis", .string "BLAKE3+JCS"),
    ("timestamp", .string timestamp)]

/-- `sign_envelope`. -/
def signEnvelope (envelope : Json) (timestamp : String) : Except VerifyError Json := do
  let canonBytes ← typedCanonBytes E (commitmentValue envelope)
  let receiptHex := (E.blake3 (asBytes "VR-ReceiptDigest|v1|" ++ canonBytes)).toHex
  let sig := signer.sign (signedMessage receiptHex timestamp)
  pure (bundleValue (signer.kid E) signer.publicKeyB64 (signer.encode sig) timestamp)

/-- The two sides of Ed25519, base64 and the bundle format agree.  A bundle is read from texts in
which no key occurs twice, as the strict canonicalizer parses them. -/
structure SigningLaws (norm : Json → Json) : Prop where
  serialized : ∀ {v envelope}, validateEnvelopeSchema v = .ok () →
    E.envelopeFromValue v = .ok envelope → ∃ fields,
      E.envelopeToValue envelope = .ok (.object fields) ∧ (fields.map Prod.fst).Nodup ∧
        ∀ key, fields.lookup key = envelope.fields.lookup key
  bundle : ∀ {sigBytes c v kid publicKeyB64 signatureB64 timestamp keyId},
    E.toCanonBytesFromSlice sigBytes = .ok c → E.fromSlice sigBytes = .ok v →
    norm v = norm (bundleValue kid publicKeyB64 signatureB64 timestamp) →
    KeyId.fromHex kid = .ok keyId →
    E.signatureBundleFromSlice sigBytes = .ok
      { alg := "Ed25519", keyId, publicKeyB64, signatureB64, schemaVersion := "0.2"
        basis := "BLAKE3+JCS", timestamp }
  publicKey : E.base64Decode signer.publicKeyB64 = .ok signer.key.bytes
  signature : ∀ message, E.base64Decode (signer.encode (signer.sign message)) =
    .ok (signer.sign message)
  key : E.verifyingKeyFromBytes signer.key.bytes = .ok signer.key
  keySize : signer.key.bytes.length = ed25519PkLen
  signatureSize : ∀ message, (signer.sign message).length = ed25519SigLen
  verifies : ∀ message, E.ed25519Verify signer.key message (signer.sign message) = true

end Signing

/-! ### What the verifier makes of a bundle -/

section Checks

variable {E : Externals} {norm : Json → Json} {signer : Signer} {body : List (String × Json)}
  {eventHash timestamp : String} {v value bundleJson : Json} {envelope : ReceiptEnvelope}
  {rawBytes sigBytes canonicalSig : Bytes}

theorem signEnvelope_eq_ok :
    signEnvelope E signer value timestamp = .ok bundleJson ↔
      ∃ canonical, typedCanonBytes E (commitmentValue value) = .ok canonical ∧
        bundleJson = bundleValue (signer.kid E) signer.publicKeyB64
          (signer.encode (signer.sign (constructCanonicalMessage
            (E.blake3 (receiptPrefix ++ canonical)) timestamp))) timestamp := by
  simp only [signEnvelope, Except.bind_eq_ok, Except.pure_eq_ok, Except.ok.injEq]
  exact exists_congr fun canonical => and_congr_right fun _ => eq_comm

/-- What is signed of a sealed envelope is the draft. -/
theorem commitmentValue_sealed (hdraft : Draft body) :
    commitmentValue (.object (withEventHash body eventHash)) = .object body := by
  have hkeep : Json.removeKey body "event_hash" = body := by
    refine List.filter_eq_self.2 fun f hf => decide_eq_true fun heq => hdraft.unsealed ?_
    exact heq ▸ List.mem_map_of_mem (f := Prod.fst) hf
  have hdrop : Json.removeKey [("event_hash", .string eventHash)] "event_hash" = [] := rfl
  rw [Json.removeKey] at hkeep hdrop
  rw [commitmentValue, withEventHash, Json.removeKey, List.filter_append, hkeep, hdrop,
    List.append_nil]

/-- The verifier computes the digest that was signed, if the draft was committed to as it is read
back. -/
theorem computeReceiptDigest_signed (laws : IssueLaws E norm) (slaws : SigningLaws E signer norm)
    (hdraft : Draft body) (h : ReadBack E norm body eventHash v envelope)
    (hc : CommitsAsRead body envelope) {canonical : Bytes}
    (hcanon : typedCanonBytes E (.object body) = .ok canonical) :
    computeReceiptDigest E envelope = .ok (E.blake3 (receiptPrefix ++ canonical)) := by
  obtain ⟨fields, hvalue, hnodup, hl⟩ := slaws.serialized h.schema h.typed
  have hsome : (fields.lookup "event_hash").isSome = true := by
    rw [hl, envelope.lookup_fields_required ("event_hash", envelope.eventHash.toValue)
      (by simp [ReceiptEnvelope.required])]
    rfl
  refine computeReceiptDigest_eq_ok.2 ⟨fields, canonical, hvalue, hsome, ?_, rfl⟩
  refine (laws.normal.canonical hcanon).2 (.trans ?_ ((h.norm_body_eq_iff laws hdraft).2 hc))
  refine laws.normal.object (hnodup.sublist (List.filter_sublist.map _))
    (envelope.nodup_keys.sublist (List.filter_sublist.map _)) fun key => ?_
  by_cases hkey : key = "event_hash"
  · subst hkey
    rw [lookup_removeKey_self, lookup_removeKey_self]
  · rw [Json.lookup_removeKey hkey, Json.lookup_removeKey hkey, hl]

/-- The key id of the signer is read as it was written. -/
theorem fromHex_kid (signer : Signer) :
    ∃ keyId, KeyId.fromHex (signer.kid E) = .ok keyId ∧ keyId.hex = signer.kid E := by
  have hlen : ((E.blake3 signer.key.bytes).bytes.take 12).length = 12 := by
    rw [List.length_take, DigestBytes.size]
    rfl
  obtain ⟨keyId, hhex⟩ := KeyId.exists_hexEncode hlen
  exact ⟨keyId, KeyId.fromHex_eq_ok.2 hhex, hhex⟩

theorem SigningLaws.decodePublicKey (slaws : SigningLaws E signer norm) :
    decodePublicKey E signer.publicKeyB64 = .ok signer.key := by
  simp only [VertRule.decodePublicKey, decodeB64Fixed, slaws.publicKey, slaws.keySize,
    Except.mapError_ok, Except.ok_bind, if_true, Except.pure_eq_ok]
  rw [slaws.key, Except.mapError_ok]

theorem SigningLaws.decodeSignature (slaws : SigningLaws E signer norm) (message : Bytes) :
    decodeSignature E (signer.encode (signer.sign message)) = .ok (signer.sign message) := by
  simp only [VertRule.decodeSignature, decodeB64Fixed, slaws.signature, slaws.signatureSize,
    Except.mapError_ok, Except.ok_bind, if_true, Except.pure_eq_ok]

/-- What the signer writes for a sealed envelope is read as a bundle that verifies. -/
theorem exists_verified_bundle (laws : IssueLaws E norm) (slaws : SigningLaws E signer norm)
    (hdraft : Draft body) (h : ReadBack E norm body eventHash v envelope)
    (hc : CommitsAsRead body envelope)
    (hsign : signEnvelope E signer (.object (withEventHash body eventHash)) timestamp =
      .ok bundleJson)
    (hstrict : E.toCanonBytesFromSlice sigBytes = .ok canonicalSig)
    {sigValue : Json} (hsig : E.fromSlice sigBytes = .ok sigValue)
    (hsame : norm sigValue = norm bundleJson) :
    ∃ bundle, E.signatureBundleFromSlice sigBytes = .ok bundle ∧
      bundle.keyId.hex = signer.kid E ∧ bundle.publicKeyB64 = signer.publicKeyB64 ∧
        verifySignature E envelope bundle = .ok () := by
  obtain ⟨canonical, hcanon, rfl⟩ := signEnvelope_eq_ok.1 hsign
  rw [commitmentValue_sealed hdraft] at hcanon
  obtain ⟨keyId, hread, hhex⟩ := fromHex_kid (E := E) signer
  refine ⟨_, slaws.bundle hstrict hsig hsame hread, hhex, rfl, verifySignature_eq_ok.2
    ⟨rfl, signer.key, slaws.decodePublicKey, ?_, _,
      computeReceiptDigest_signed laws slaws hdraft h hc hcanon, _, slaws.decodeSignature _,
      slaws.verifies _⟩⟩
  rw [validateKeyIdMatches, hhex]
  exact if_neg (not_not.2 rfl)

end Checks

/-! ### Signed receipts of the vector generator -/

section Vector

variable {E : Externals} {norm : Json → Json} {signer : Signer}
  {payload contextDigest policyDigest : Json} {logicalTime : UInt64} {parentId : Option String}
  {receiptType timestamp : String} {value bundleJson sigValue : Json}
  {rawBytes sigBytes canonicalSig : Bytes}

/-- An ingested receipt of the vector generator is valid, and its signature is proven. -/
theorem proven_of_ingest (laws : IssueLaws E norm) (slaws : SigningLaws E signer norm)
    (hbuild : buildEnvelopeWithDigests E payload logicalTime parentId receiptType contextDigest
      policyDigest = .ok value) (hraw : typedCanonBytes E value = .ok rawBytes)
    (hsign : signEnvelope E signer value timestamp = .ok bundleJson)
    (hstrict : E.toCanonBytesFromSlice sigBytes = .ok canonicalSig)
    (hsig : E.fromSlice sigBytes = .ok sigValue) (hsame : norm sigValue = norm bundleJson)
    {envelope : ReceiptEnvelope} (hi : ingestEnvelope E rawBytes = .ok envelope) :
    envelope.Verifies E ∧ ∃ bundle, SignatureProven E rawBytes sigBytes envelope bundle ∧
      bundle.keyId.hex = signer.kid E ∧ bundle.publicKeyB64 = signer.publicKeyB64 := by
  rw [buildEnvelopeWithDigests, Except.bind_eq_ok] at hbuild
  obtain ⟨⟨eventHash, sealedValue⟩, hseal, heq⟩ := hbuild
  obtain rfl := Except.ok.inj heq
  obtain ⟨v, hread⟩ := readBack_of_ingest laws hseal hraw hi
  obtain ⟨-, -, -, rfl⟩ := sealEnvelope_eq_ok.1 hseal
  obtain ⟨bundle, hparsed, hid, hkey, hverified⟩ := exists_verified_bundle laws slaws
    draft_vectorBody hread (commitsAsRead_vectorBody laws hread).2 hsign hstrict hsig hsame
  exact ⟨verifies_vectorBody laws hseal hread, bundle, ⟨hi, hparsed, hverified⟩, hid, hkey⟩

/-- **What is issued and signed is valid**, if it can be ingested at all and no key of the bundle
is written twice. -/
theorem verifySignedReceipt_built_iff (laws : IssueLaws E norm)
    (slaws : SigningLaws E signer norm)
    (hbuild : buildEnvelopeWithDigests E payload logicalTime parentId receiptType contextDigest
      policyDigest = .ok value) (hraw : typedCanonBytes E value = .ok rawBytes)
    (hsign : signEnvelope E signer value timestamp = .ok bundleJson)
    (hstrict : E.toCanonBytesFromSlice sigBytes = .ok canonicalSig)
    (hsig : E.fromSlice sigBytes = .ok sigValue) (hsame : norm sigValue = norm bundleJson) :
    (verifySignedReceipt E rawBytes sigBytes).status = .valid ↔
      ∃ envelope, ingestEnvelope E rawBytes = .ok envelope := by
  rw [verifySignedReceipt_valid_iff, verifyReceipt_valid_iff]
  constructor
  · rintro ⟨⟨envelope, hi, -⟩, -⟩
    exact ⟨envelope, hi⟩
  · rintro ⟨envelope, hi⟩
    obtain ⟨hver, bundle, hproven, -⟩ :=
      proven_of_ingest laws slaws hbuild hraw hsign hstrict hsig hsame hi
    exact ⟨⟨envelope, hi, hver⟩, envelope, bundle, hproven⟩

theorem trusted_iff_of_proven {envelope : ReceiptEnvelope} {bundle : SignatureBundle}
    {authoritySet : AuthoritySet} {trustPolicy : TrustPolicy}
    (h : SignatureProven E rawBytes sigBytes envelope bundle) (hver : envelope.Verifies E) :
    (verifySignedReceiptWithTrust E rawBytes sigBytes authoritySet trustPolicy).status = .valid ↔
      (trustDecision bundle.keyId.hex authoritySet trustPolicy (some bundle.publicKeyB64)).1 =
        .trusted := by
  rw [h.verifySignedReceiptWithTrust_eq, VerificationResult.judge_valid_iff]
  refine and_iff_right (verifySignedReceipt_valid_iff.2 ⟨?_, envelope, bundle, h⟩)
  exact verifyReceipt_valid_iff.2 ⟨envelope, h.ingested, hver⟩

/-- **Whether it is trusted is up to the key**: the trust layer judges the key of the signer. -/
theorem verifySignedReceiptWithTrust_built_iff (laws : IssueLaws E norm)
    (slaws : SigningLaws E signer norm)
    (hbuild : buildEnvelopeWithDigests E payload logicalTime parentId receiptType contextDigest
      policyDigest = .ok value) (hraw : typedCanonBytes E value = .ok rawBytes)
    (hsign : signEnvelope E signer value timestamp = .ok bundleJson)
    (hstrict : E.toCanonBytesFromSlice sigBytes = .ok canonicalSig)
    (hsig : E.fromSlice sigBytes = .ok sigValue) (hsame : norm sigValue = norm bundleJson)
    {authoritySet : AuthoritySet} {trustPolicy : TrustPolicy} :
    (verifySignedReceiptWithTrust E rawBytes sigBytes authoritySet trustPolicy).status = .valid ↔
      (∃ envelope, ingestEnvelope E rawBytes = .ok envelope) ∧
        (trustDecision (signer.kid E) authoritySet trustPolicy (some signer.publicKeyB64)).1 =
          .trusted := by
  cases hi : ingestEnvelope E rawBytes with
  | error e =>
    have hstatus : (verifySignedReceiptWithTrust E rawBytes sigBytes authoritySet
        trustPolicy).status ≠ .valid := by
      simp [verifySignedReceiptWithTrust, hi, VerificationResult.invalid]
    exact iff_of_false hstatus (by simp)
  | ok envelope =>
    obtain ⟨hver, bundle, hproven, hid, hkey⟩ :=
      proven_of_ingest laws slaws hbuild hraw hsign hstrict hsig hsame hi
    rw [trusted_iff_of_proven hproven hver, hid, hkey]
    exact (and_iff_right ⟨envelope, rfl⟩).symm

end Vector

/-! ### The signed receipt of the test vectors, as it was issued -/

/-- The signature bundle of the test vectors, in canonical order. -/
def signatureValue : Json :=
  .object [("alg", .string vectorSignature.alg), ("digest_basis", .string vectorSignature.basis),
    ("key_id", .string vectorSignature.keyId.hex),
    ("public_key_b64", .string vectorSignature.publicKeyB64),
    ("schema_version", .string vectorSignature.schemaVersion),
    ("signature_b64", .string vectorSignature.signatureB64),
    ("timestamp", .string vectorSignature.timestamp)]

/-- The signed receipt, and what is written for it. -/
def signedIssueTables : Tables where
  envelopes := [(signedReceipt.toValue, signedReceipt)]
  others := [signedReceipt.body, signatureValue]
  digests := [(signedReceipt.body, signedReceipt.eventHash)]
  texts_nodup := by decide +kernel
  digests_nodup := signedTables.digests_nodup

/-- The bundle in the members of a value. -/
def readBundle (v : Json) : Except String SignatureBundle := do
  let alg ← stringMember v "alg"
  let kid ← stringMember v "key_id"
  let keyId ← (KeyId.fromHex kid).mapError fun _ => "key_id"
  let publicKeyB64 ← stringMember v "public_key_b64"
  let signatureB64 ← stringMember v "signature_b64"
  let schemaVersion ← stringMember v "schema_version"
  let basis ← stringMember v "digest_basis"
  let timestamp ← stringMember v "timestamp"
  pure { alg, keyId, publicKeyB64, signatureB64, schemaVersion, basis, timestamp }

/-- BLAKE3 of what is signed, and of the signing key. -/
def signingBlake3 (bytes : Bytes) : DigestBytes :=
  if bytes = signingKey then signingKeyDigest
  else if bytes = receiptPrefix ++ asBytes signedReceipt.body.text then signedDigest
  else signedIssueTables.blake3 bytes

/-- The signature of the one message that is signed; what other messages would have is left
blank. -/
def vectorSign (message : Bytes) : Bytes :=
  if message = constructCanonicalMessage signedDigest vectorSignature.timestamp then signatureBytes
  else List.replicate 64 0

/-- The signer of the test vectors. -/
def vectorSigner : Signer where
  key := ⟨signingKey⟩
  sign := vectorSign
  encode bytes :=
    if bytes = signingKey then vectorSignature.publicKeyB64
    else if bytes = signatureBytes then vectorSignature.signatureB64
    else "blank"

/-- Base64, of the texts that the signer writes. -/
def signingBase64Decode (b64 : String) : Except String Bytes :=
  if b64 = "blank" then .ok (List.replicate 64 0) else vectorBase64Decode b64

/-- The third-party code between the signer of the test vectors and the verifier. -/
def signingExternals : Externals :=
  (issuing signedIssueTables).withSignatures
    (fun sigBytes => (signedIssueTables.read sigBytes).elim (.error Tables.unlisted) readBundle)
    signingBlake3 signingBase64Decode vectorKeyFromBytes
    fun key message signature => key = vectorSigner.key ∧ signature = vectorSign message

/-- With other functions of signatures, the laws of issuing remain, if BLAKE3 is the same on
canonical forms. -/
theorem issueLaws_withSignatures {E : Externals} {norm : Json → Json} (laws : IssueLaws E norm)
    {signatureBundleFromSlice : Bytes → Except String SignatureBundle}
    {blake3 : Bytes → DigestBytes} {base64Decode : String → Except String Bytes}
    {verifyingKeyFromBytes : Bytes → Except String VerifyingKey}
    {ed25519Verify : VerifyingKey → Bytes → Bytes → Bool}
    (hblake3 : ∀ v c, typedCanonBytes E v = .ok c → blake3 c = E.blake3 c) :
    IssueLaws (E.withSignatures signatureBundleFromSlice blake3 base64Decode verifyingKeyFromBytes
      ed25519Verify) norm :=
  laws.congr (fun _ => rfl) (fun _ => rfl) (fun _ => rfl) (fun _ => rfl) (fun _ => rfl) hblake3

theorem asBytes_text_object (fields : List (String × Json)) :
    asBytes (Json.object fields).text =
      asBytes "\x7b" ++ asBytes (String.ofList (Json.fieldChars fields)) := by
  have hbrace : "\x7b" = String.ofList ['{'] := rfl
  rw [← asBytes_append, hbrace, ← String.ofList_append, Json.text, Json.chars,
    List.singleton_append]

/-- An object is neither a key nor prefixed for a receipt digest. -/
theorem signingBlake3_object (fields : List (String × Json)) :
    signingBlake3 (asBytes (Json.object fields).text) =
      signedIssueTables.blake3 (asBytes (Json.object fields).text) := by
  have hhead : (asBytes (Json.object fields).text).head? = some 0x7b := by
    rw [asBytes_text_object]
    rfl
  rw [signingBlake3, if_neg, if_neg]
  · intro h
    rw [h] at hhead
    exact absurd hhead (by decide)
  · intro h
    rw [h] at hhead
    exact absurd hhead (by decide)

theorem values_signedIssueTables {u : Json} (h : u ∈ signedIssueTables.values) :
    u.sorted = u ∧ ∃ fields, u = .object fields := by
  simp only [Tables.values, signedIssueTables, List.map_cons, List.map_nil, List.cons_append,
    List.nil_append, List.mem_cons, List.not_mem_nil, or_false] at h
  rcases h with rfl | rfl | rfl <;> exact ⟨by decide +kernel, _, rfl⟩

theorem signingBlake3_of_mem {u : Json} (h : u ∈ signedIssueTables.values) :
    signingBlake3 (asBytes u.text) = signedIssueTables.blake3 (asBytes u.text) := by
  obtain ⟨fields, hfields⟩ := (values_signedIssueTables h).2
  rw [hfields, signingBlake3_object]

theorem issueLaws_signingExternals : IssueLaws signingExternals Json.sorted := by
  refine issueLaws_withSignatures (issueLaws_of_toValue ?_ ?_) fun v c hc => ?_
  · exact fun u hu => (values_signedIssueTables hu).1
  · simp [signedIssueTables]
  · obtain ⟨hmem, -, htext⟩ := typedCanonBytes_issuing.1 hc
    rw [blake3_issuing, htext, signingBlake3_of_mem hmem]

/-- A value that sorts like a bundle is read as this bundle. -/
theorem readBundle_eq_ok {v : Json} {kid publicKeyB64 signatureB64 timestamp : String}
    {keyId : KeyId}
    (h : v.sorted = (bundleValue kid publicKeyB64 signatureB64 timestamp).sorted)
    (hid : KeyId.fromHex kid = .ok keyId) :
    readBundle v = .ok { alg := "Ed25519", keyId, publicKeyB64, signatureB64
                         schemaVersion := "0.2", basis := "BLAKE3+JCS", timestamp } := by
  have hnodup : ([("alg", Json.string "Ed25519"), ("key_id", .string kid),
      ("public_key_b64", .string publicKeyB64), ("signature_b64", .string signatureB64),
      ("schema_version", .string "0.2"), ("digest_basis", .string "BLAKE3+JCS"),
      ("timestamp", .string timestamp)].map Prod.fst).Nodup := by simp
  obtain ⟨fields, rfl, hnodup'⟩ := Json.exists_object_of_sorted_eq hnodup h
  have hl := (Json.sorted_object_eq_iff hnodup' hnodup).1 h
  have hmember : ∀ key s, (bundleValue kid publicKeyB64 signatureB64 timestamp).get key =
      some (.string s) → stringMember (.object fields) key = .ok s := by
    intro key s hs
    have hkey := hl key
    rw [bundleValue, Json.get_object] at hs
    rw [hs] at hkey
    obtain ⟨w, hw, hsorted⟩ := Option.map_eq_some_iff.1 hkey
    cases w with
    | string s' =>
      rw [stringMember, Json.get_object, hw]
      exact congrArg Except.ok (Json.string.inj hsorted)
    | _ => simp [Json.sorted] at hsorted
  simp only [readBundle, hmember "alg" _ rfl, hmember "key_id" _ rfl,
    hmember "public_key_b64" _ rfl, hmember "signature_b64" _ rfl,
    hmember "schema_version" _ rfl, hmember "digest_basis" _ rfl,
    hmember "timestamp" _ rfl, Except.ok_bind, hid, Except.mapError_ok, Except.pure_eq_ok]

theorem fromSlice_signingExternals (rawBytes : Bytes) :
    signingExternals.fromSlice rawBytes = signedIssueTables.externals.fromSlice rawBytes := by
  rw [signingExternals, fromSlice_withSignatures, fromSlice_issuing]

theorem signingLaws_signingExternals :
    SigningLaws signingExternals vectorSigner Json.sorted where
  serialized {v envelope} _ _ := ⟨envelope.fields, rfl, envelope.nodup_keys, fun _ => rfl⟩
  bundle {sigBytes c v kid publicKeyB64 signatureB64 timestamp keyId} _ hparse hsame hid := by
    rw [fromSlice_signingExternals] at hparse
    have hread := Tables.read_of_fromSlice hparse
    rw [signingExternals, signatureBundleFromSlice_withSignatures, hread, Option.elim_some,
      readBundle_eq_ok hsame hid]
  publicKey := by
    have hne : vectorSignature.publicKeyB64 ≠ "blank" := by decide
    rw [signingExternals, base64Decode_withSignatures, Signer.publicKeyB64, vectorSigner]
    simp only [if_true, signingBase64Decode, if_neg hne, vectorBase64Decode]
  signature message := by
    have hkey : ∀ m, vectorSign m ≠ signingKey := by
      intro m h
      have hlen := congrArg List.length h
      unfold vectorSign at hlen
      split_ifs at hlen <;> exact absurd hlen (by decide)
    have hne : vectorSignature.signatureB64 ≠ "blank" := by decide
    have hkeyB64 : vectorSignature.signatureB64 ≠ vectorSignature.publicKeyB64 := by decide
    have hblank : List.replicate 64 0 ≠ signatureBytes := by decide
    rw [signingExternals, base64Decode_withSignatures, vectorSigner]
    simp only [if_neg (hkey message)]
    by_cases hm : message = constructCanonicalMessage signedDigest vectorSignature.timestamp
    · simp only [vectorSign, if_pos hm, if_true, signingBase64Decode, if_neg hne,
        vectorBase64Decode, if_neg hkeyB64]
    · simp only [vectorSign, if_neg hm, if_neg hblank, signingBase64Decode, if_true]
  key := by
    rw [signingExternals, verifyingKeyFromBytes_withSignatures, vectorSigner]
    simp only [vectorKeyFromBytes, if_true]
  keySize := rfl
  signatureSize message := by
    change (vectorSign message).length = _
    unfold vectorSign
    split_ifs <;> rfl
  verifies message := by
    rw [signingExternals, ed25519Verify_withSignatures]
    exact decide_eq_true ⟨rfl, rfl⟩

/-- The draft of the signed receipt. -/
def signedBody : List (String × Json) :=
  vectorBody signedReceipt.payload 1000 none "governance" (placeholderHex64 0xaa)
    (placeholderHex64 0xcc)

theorem typedCanonBytes_signingExternals {v u : Json} (hsorted : v.sorted = u)
    (hmem : u ∈ signedIssueTables.values) (hr : u.inRange = true) :
    typedCanonBytes signingExternals v = .ok (asBytes u.text) := by
  rw [signingExternals, typedCanonBytes_withSignatures]
  exact typedCanonBytes_issuing_of_sorted hsorted hmem hr

theorem typedCanonBytes_signedBody :
    typedCanonBytes signingExternals (.object signedBody) =
      .ok (asBytes signedReceipt.body.text) :=
  typedCanonBytes_signingExternals (by decide +kernel)
    (by simp [Tables.values, signedIssueTables]) (by decide +kernel)

theorem sealEnvelope_signedBody : sealEnvelope signingExternals signedBody =
    .ok (signedReceipt.eventHash.toHex,
      .object (withEventHash signedBody signedReceipt.eventHash.toHex)) := by
  have hhash : signingExternals.blake3 (asBytes signedReceipt.body.text) =
      signedReceipt.eventHash := by
    rw [signingExternals, blake3_withSignatures,
      signingBlake3_of_mem (by simp [Tables.values, signedIssueTables])]
    exact Tables.blake3_text (by simp [signedIssueTables])
  exact sealEnvelope_eq_ok.2 ⟨_, typedCanonBytes_signedBody, by rw [hhash], rfl⟩

theorem buildEnvelope_signedReceipt :
    buildEnvelope signingExternals signedReceipt.payload 1000 none "governance" =
      .ok (.object (withEventHash signedBody signedReceipt.eventHash.toHex)) := by
  rw [buildEnvelope, buildEnvelopeWithDigests, Except.bind_eq_ok]
  exact ⟨_, sealEnvelope_signedBody, rfl⟩

theorem typedCanonBytes_signedReceipt : typedCanonBytes signingExternals
    (.object (withEventHash signedBody signedReceipt.eventHash.toHex)) =
      .ok (asBytes signedReceipt.toValue.text) :=
  typedCanonBytes_signingExternals (by decide +kernel)
    (by simp [Tables.values, signedIssueTables]) (by decide +kernel)

/-- The bundle as it is written, with its members in the order of the issuer. -/
def issuedBundle : Json :=
  bundleValue vectorSignature.keyId.hex vectorSignature.publicKeyB64 vectorSignature.signatureB64
    vectorSignature.timestamp

theorem signEnvelope_signedReceipt : signEnvelope signingExternals vectorSigner
    (.object (withEventHash signedBody signedReceipt.eventHash.toHex))
      vectorSignature.timestamp = .ok issuedBundle := by
  have hdigest : signingExternals.blake3 (receiptPrefix ++ asBytes signedReceipt.body.text) =
      signedDigest := by
    have hhead : receiptPrefix ++ asBytes signedReceipt.body.text ≠ signingKey := by
      intro h
      exact absurd (congrArg List.head? h) (by decide)
    rw [signingExternals, blake3_withSignatures, signingBlake3, if_neg hhead]
    simp only [if_true]
  have hkid : vectorSigner.kid signingExternals = vectorSignature.keyId.hex := by
    have hkey : signingExternals.blake3 vectorSigner.key.bytes = signingKeyDigest := by
      rw [signingExternals, blake3_withSignatures]
      exact if_pos rfl
    rw [Signer.kid, hkey]
    decide
  have hsig : vectorSigner.encode (vectorSigner.sign
      (constructCanonicalMessage signedDigest vectorSignature.timestamp)) =
        vectorSignature.signatureB64 := by
    have hsign : vectorSign (constructCanonicalMessage signedDigest vectorSignature.timestamp) =
        signatureBytes := by rw [vectorSign, if_pos rfl]
    have hsigner : vectorSigner.sign = vectorSign := rfl
    rw [hsigner, hsign]
    decide
  refine signEnvelope_eq_ok.2 ⟨asBytes signedReceipt.body.text, ?_, ?_⟩
  · have hdraft : Draft signedBody := draft_vectorBody
    rw [commitmentValue_sealed hdraft]
    exact typedCanonBytes_signedBody
  · rw [hdigest, hsig, hkid]
    rfl

theorem fromSlice_signatureValue :
    signingExternals.fromSlice (asBytes signatureValue.text) = .ok signatureValue := by
  rw [fromSlice_signingExternals]
  exact Tables.fromStr_text (by simp [Tables.values, signedIssueTables])

theorem toCanonBytesFromSlice_signatureValue :
    signingExternals.toCanonBytesFromSlice (asBytes signatureValue.text) =
      .ok (asBytes signatureValue.text) := by
  rw [signingExternals, toCanonBytesFromSlice_withSignatures, toCanonBytesFromSlice_issuing]
  exact Tables.toCanonBytesFromSlice_text (by simp [Tables.values, signedIssueTables])
    (by decide +kernel)

theorem sorted_issuedBundle : signatureValue.sorted = issuedBundle.sorted := by decide +kernel

theorem built_signedReceipt :
    (verifySignedReceipt signingExternals (asBytes signedReceipt.toValue.text)
      (asBytes signatureValue.text)).status = .valid ↔
      ∃ envelope, ingestEnvelope signingExternals (asBytes signedReceipt.toValue.text) =
        .ok envelope :=
  verifySignedReceipt_built_iff issueLaws_signingExternals signingLaws_signingExternals
    buildEnvelope_signedReceipt typedCanonBytes_signedReceipt signEnvelope_signedReceipt
    toCanonBytesFromSlice_signatureValue fromSlice_signatureValue sorted_issuedBundle

theorem trusted_signedReceipt :
    (verifySignedReceiptWithTrust signingExternals (asBytes signedReceipt.toValue.text)
      (asBytes signatureValue.text) (.new "test-authority") .default).status = .valid ↔
      (∃ envelope, ingestEnvelope signingExternals (asBytes signedReceipt.toValue.text) =
        .ok envelope) ∧
        (trustDecision (vectorSigner.kid signingExternals) (.new "test-authority") .default
          (some vectorSigner.publicKeyB64)).1 = .trusted :=
  verifySignedReceiptWithTrust_built_iff issueLaws_signingExternals signingLaws_signingExternals
    buildEnvelope_signedReceipt typedCanonBytes_signedReceipt signEnvelope_signedReceipt
    toCanonBytesFromSlice_signatureValue fromSlice_signatureValue sorted_issuedBundle

end Issue

end VertRule
