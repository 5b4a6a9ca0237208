import VertRule.Identity
import VertRule.Layers

/-!
# Signatures do not transfer

The signed message is a prefix, the receipt digest in hex, a bar and the timestamp, so it determines
the digest and the timestamp.  The digest commits to all that `event_hash` commits to, and
`event_hash` itself is recomputed: one signature under one key belongs to one envelope at one time
(`verifySignedReceipt_not_transferable`).
-/

namespace VertRule

/-! ### The signed message -/

theorem asBytes_toHex_length (d : DigestBytes) : (asBytes d.toHex).length = 64 := by
  have hdigit : ∀ n < 16, (Nat.digitChar n).utf8Size = 1 := by decide
  have hlen : ∀ bytes : Bytes, String.utf8Len (bytes.flatMap hexByte) = 2 * bytes.length := by
    intro bytes
    induction bytes with
    | nil => rfl
    | cons b bytes ih =>
      have hb := b.toNat_lt
      simp only [List.flatMap_cons, hexByte, List.cons_append, List.nil_append,
        String.utf8Len_cons, ih, List.length_cons, hdigit (b.toNat / 16) (by omega),
        hdigit (b.toNat % 16) (by omega)]
      omega
  have hbytes : (asBytes d.toHex).length = String.utf8Len (d.bytes.flatMap hexByte) := by
    rw [← String.utf8ByteSize_ofList]
    rfl
  rw [hbytes, hlen, d.size]

/-- **The signed message determines the digest and the timestamp**, whatever the timestamp
contains: the digest before it has a fixed length. -/
theorem constructCanonicalMessage_inj {d d' : DigestBytes} {timestamp timestamp' : String}
    (h : constructCanonicalMessage d timestamp = constructCanonicalMessage d' timestamp') :
    d = d' ∧ timestamp = timestamp' := by
  simp only [constructCanonicalMessage, List.append_assoc, List.append_cancel_left_eq] at h
  -- both hex digests end after 64 bytes, so no timestamp can pass for a part of one
  obtain ⟨hhex, hrest⟩ := List.append_inj h (by rw [asBytes_toHex_length, asBytes_toHex_length])
  exact ⟨DigestBytes.toHex_injective (asBytes_injective hhex),
    asBytes_injective (List.append_cancel_left hrest)⟩

/-! ### What a serialized envelope determines -/

theorem toString_uint64_injective : Function.Injective fun n : UInt64 => toString n.toNat := by
  intro a b h
  have hdigits : Nat.toDigits 10 a.toNat = Nat.toDigits 10 b.toNat := by
    rw [← Nat.toList_repr, ← Nat.toList_repr]
    exact congrArg String.toList h
  have hval := congrArg (fun cs => Nat.ofDigitChars 10 cs 0) hdigits
  exact UInt64.toNat_inj.1 (by simpa only [Nat.ofDigitChars_ten_toDigits] using hval)

theorem BoundaryOrigin.label_injective : Function.Injective BoundaryOrigin.label := by
  intro a b h
  cases a <;> cases b <;> first | rfl | exact absurd h (by decide)

theorem ReceiptType.label_injective : Function.Injective ReceiptType.label := by
  intro a b h
  cases a <;> cases b <;> first | rfl | exact absurd h (by decide)

theorem EventHashProfileId.label_injective : Function.Injective EventHashProfileId.label := by
  intro a b h
  cases a <;> cases b <;> first | rfl | exact absurd h (by decide)

theorem DigestBytes.toValue_injective : Function.Injective DigestBytes.toValue := fun _ _ h =>
  DigestBytes.toHex_injective (Json.string.inj h)

/-- The serialized version, a number, determines the version. -/
theorem SchemaVersion.toNumber_injective :
    Function.Injective fun v : SchemaVersion => Json.number (.posInt v.value.toUInt64) := by
  rintro ⟨a⟩ ⟨b⟩ h
  simp only [Json.number.injEq, Number.posInt.injEq] at h
  have hval := congrArg UInt64.toNat h
  simp only [UInt32.toNat_toUInt64] at hval
  rw [UInt32.toNat_inj.1 hval]

/-- An optional member determines the optional field it spells. -/
theorem eq_of_optional {α : Type} {toValue : α → Json} (hinj : Function.Injective toValue)
    (hnull : ∀ a, toValue a ≠ .null) {o₁ o₂ : Option α} {member : Option Json}
    (h₁ : member = o₁.map toValue ∨ o₁.map toValue = none ∧ member = some .null)
    (h₂ : member = o₂.map toValue ∨ o₂.map toValue = none ∧ member = some .null) : o₁ = o₂ := by
  have hsome : ∀ {o : Option α}, o.map toValue ≠ some .null := by
    intro o h
    obtain ⟨a, -, ha⟩ := Option.map_eq_some_iff.1 h
    exact hnull a ha
  refine Option.map_injective hinj ?_
  -- `null` spells an absent field, and no value is spelled so
  rcases h₁ with h₁ | ⟨hn₁, h₁⟩ <;> rcases h₂ with h₂ | ⟨hn₂, h₂⟩
  · exact h₁.symm.trans h₂
  · exact absurd (h₁.symm.trans h₂) hsome
  · exact absurd (h₂.symm.trans h₁) hsome
  · exact hn₁.trans hn₂.symm

/-- Values that agree on every member but `event_hash` spell envelopes that agree on every field
but `event_hash`. -/
theorem sameCommitment_of_get {e₁ e₂ : ReceiptEnvelope} {v₁ v₂ : Json} (h₁ : e₁.SpelledBy v₁)
    (h₂ : e₂.SpelledBy v₂) (htime : e₁.logicalTime = e₂.logicalTime)
    (hget : ∀ key, key ≠ "event_hash" → v₁.get key = v₂.get key) : e₁.SameCommitment e₂ := by
  have hreq : ∀ key {w₁ w₂}, (key, w₁) ∈ e₁.required → (key, w₂) ∈ e₂.required →
      key ≠ "event_hash" → w₁ = w₂ := by
    intro key w₁ w₂ hm₁ hm₂ hkey
    have hw := (h₁.required _ hm₁).symm.trans ((hget key hkey).trans (h₂.required _ hm₂))
    exact Option.some.inj hw
  have hopt : ∀ key {α : Type} {toValue : α → Json} {o₁ o₂ : Option α},
      (key, o₁.map toValue) ∈ e₁.optional → (key, o₂.map toValue) ∈ e₂.optional →
      key ≠ "event_hash" → Function.Injective toValue → (∀ a, toValue a ≠ .null) → o₁ = o₂ := by
    intro key α toValue o₁ o₂ hm₁ hm₂ hkey hinj hnull
    refine eq_of_optional hinj hnull (h₁.optional _ hm₁) ?_
    rw [hget key hkey]
    exact h₂.optional _ hm₂
  have hcontext : e₁.contextDigest = e₂.contextDigest := DigestBytes.toValue_injective <|
    hreq "context_digest" (by simp [ReceiptEnvelope.required])
      (by simp [ReceiptEnvelope.required]) (by decide)
  have hschema : e₁.schemaDigest = e₂.schemaDigest := DigestBytes.toValue_injective <|
    hreq "schema_digest" (by simp [ReceiptEnvelope.required])
      (by simp [ReceiptEnvelope.required]) (by decide)
  have hpolicy : e₁.policyDigest = e₂.policyDigest := DigestBytes.toValue_injective <|
    hreq "policy_digest" (by simp [ReceiptEnvelope.required])
      (by simp [ReceiptEnvelope.required]) (by decide)
  have hpayload : e₁.payload = e₂.payload :=
    hreq "payload" (by simp [ReceiptEnvelope.required]) (by simp [ReceiptEnvelope.required])
      (by decide)
  have htype : e₁.receiptType = e₂.receiptType := ReceiptType.label_injective <|
    Json.string.inj <| hreq "receipt_type" (by simp [ReceiptEnvelope.required])
      (by simp [ReceiptEnvelope.required]) (by decide)
  have hversion : e₁.envelopeVersion = e₂.envelopeVersion := SchemaVersion.toNumber_injective <|
    hreq "envelope_version" (by simp [ReceiptEnvelope.required])
      (by simp [ReceiptEnvelope.required]) (by decide)
  have hparent : e₁.parentId = e₂.parentId :=
    hopt "parent_id" (by simp [ReceiptEnvelope.optional]) (by simp [ReceiptEnvelope.optional])
      (by decide) DigestBytes.toValue_injective (by simp [DigestBytes.toValue])
  have horigin : e₁.boundaryOrigin = e₂.boundaryOrigin :=
    hopt "boundary_origin" (by simp [ReceiptEnvelope.optional])
      (by simp [ReceiptEnvelope.optional]) (by decide)
      (fun _ _ h => BoundaryOrigin.label_injective (Json.string.inj h)) (by simp)
  have halgorithm : e₁.digestAlgorithm = e₂.digestAlgorithm :=
    hopt "digest_algorithm" (by simp [ReceiptEnvelope.optional])
      (by simp [ReceiptEnvelope.optional]) (by decide) (fun _ _ h => Json.string.inj h) (by simp)
  have hcanonicalization : e₁.canonicalization = e₂.canonicalization :=
    hopt "canonicalization" (by simp [ReceiptEnvelope.optional])
      (by simp [ReceiptEnvelope.optional]) (by decide) (fun _ _ h => Json.string.inj h) (by simp)
  have hprofile : e₁.eventHashProfile = e₂.eventHashProfile :=
    hopt "event_hash_profile" (by simp [ReceiptEnvelope.optional])
      (by simp [ReceiptEnvelope.optional]) (by decide)
      (fun _ _ h => EventHashProfileId.label_injective (Json.string.inj h)) (by simp)
  cases e₁
  cases e₂
  simp only at *
  subst_vars
  rfl

/-! ### One signature, one receipt -/

variable (E : Externals)

/-- What is used of the serializer and of `compute_event_hash`. -/
structure SerializationLaws : Prop where
  /-- A serialized envelope spells the envelope, with `logical_time` as a decimal string. -/
  serialized : ∀ envelope v, E.envelopeToValue envelope = .ok v → envelope.SpelledBy v ∧
    v.get "logical_time" = some (.string (toString envelope.logicalTime.toNat))
  /-- An event hash is computed from the envelope without its `event_hash`. -/
  eventHash : ∀ e₁ e₂ : ReceiptEnvelope, e₁.SameCommitment e₂ →
    E.computeEventHash e₁ = E.computeEventHash e₂

/-- The receipt digests of two envelopes, BLAKE3 over a prefix and the canonical form of the
serialized envelope without its `event_hash`, do not collide. -/
def ReceiptDigestsSeparated (e₁ e₂ : ReceiptEnvelope) : Prop :=
  ∀ fields₁ fields₂ canonical₁ canonical₂, E.envelopeToValue e₁ = .ok (.object fields₁) →
    E.envelopeToValue e₂ = .ok (.object fields₂) →
    typedCanonBytes E (.object (Json.removeKey fields₁ "event_hash")) = .ok canonical₁ →
    typedCanonBytes E (.object (Json.removeKey fields₂ "event_hash")) = .ok canonical₂ →
    E.blake3 (receiptPrefix ++ canonical₁) = E.blake3 (receiptPrefix ++ canonical₂) →
    Json.removeKey fields₁ "event_hash" = Json.removeKey fields₂ "event_hash"

/-- Under the key of a bundle, its signature verifies at most one message. -/
def SignsOneMessage (bundle : SignatureBundle) : Prop :=
  ∀ key signature message message', decodePublicKey E bundle.publicKeyB64 = .ok key →
    decodeSignature E bundle.signatureB64 = .ok signature →
    E.ed25519Verify key message signature = true →
    E.ed25519Verify key message' signature = true → message = message'

variable {E} {rawBytes₁ rawBytes₂ sigBytes₁ sigBytes₂ : Bytes} {e₁ e₂ : ReceiptEnvelope}
  {bundle₁ bundle₂ : SignatureBundle}

/-- Envelopes with one receipt digest agree on every field but `event_hash`. -/
theorem sameCommitment_of_receiptDigest (laws : SerializationLaws E)
    (hsep : ReceiptDigestsSeparated E e₁ e₂) {digest : DigestBytes}
    (h₁ : computeReceiptDigest E e₁ = .ok digest) (h₂ : computeReceiptDigest E e₂ = .ok digest) :
    e₁.SameCommitment e₂ := by
  obtain ⟨fields₁, canonical₁, hv₁, -, hc₁, hd₁⟩ := computeReceiptDigest_eq_ok.1 h₁
  obtain ⟨fields₂, canonical₂, hv₂, -, hc₂, hd₂⟩ := computeReceiptDigest_eq_ok.1 h₂
  have hbody := hsep _ _ _ _ hv₁ hv₂ hc₁ hc₂ (hd₁.trans hd₂.symm)
  have hget : ∀ key, key ≠ "event_hash" →
      (Json.object fields₁).get key = (Json.object fields₂).get key := by
    intro key hkey
    rw [Json.get_object, Json.get_object, ← Json.lookup_removeKey hkey, hbody,
      Json.lookup_removeKey hkey]
  obtain ⟨hs₁, ht₁⟩ := laws.serialized _ _ hv₁
  obtain ⟨hs₂, ht₂⟩ := laws.serialized _ _ hv₂
  have htime : e₁.logicalTime = e₂.logicalTime := by
    have hstring := ht₁.symm.trans ((hget "logical_time" (by decide)).trans ht₂)
    exact toString_uint64_injective (Json.string.inj (Option.some.inj hstring))
  exact sameCommitment_of_get hs₁ hs₂ htime hget

/-- **Signatures are not transferable**: valid signed receipts with the same key and the same
signature have the same envelope and the same timestamp. -/
theorem verifySignedReceipt_not_transferable (laws : SerializationLaws E)
    (hv₁ : (verifySignedReceipt E rawBytes₁ sigBytes₁).status = .valid)
    (hv₂ : (verifySignedReceipt E rawBytes₂ sigBytes₂).status = .valid)
    (hi₁ : ingestEnvelope E rawBytes₁ = .ok e₁) (hi₂ : ingestEnvelope E rawBytes₂ = .ok e₂)
    (hb₁ : E.signatureBundleFromSlice sigBytes₁ = .ok bundle₁)
    (hb₂ : E.signatureBundleFromSlice sigBytes₂ = .ok bundle₂)
    (hkey : bundle₁.publicKeyB64 = bundle₂.publicKeyB64)
    (hsig : bundle₁.signatureB64 = bundle₂.signatureB64)
    (hone : SignsOneMessage E bundle₁) (hsep : ReceiptDigestsSeparated E e₁ e₂) :
    e₁ = e₂ ∧ bundle₁.timestamp = bundle₂.timestamp := by
  have hproven : ∀ {rawBytes sigBytes e bundle},
      (verifySignedReceipt E rawBytes sigBytes).status = .valid →
      ingestEnvelope E rawBytes = .ok e → E.signatureBundleFromSlice sigBytes = .ok bundle →
      E.computeEventHash e = .ok e.eventHash ∧ verifySignature E e bundle = .ok () := by
    intro rawBytes sigBytes e bundle hv hi hb
    obtain ⟨hvalid, e', bundle', hp⟩ := verifySignedReceipt_valid_iff.1 hv
    obtain rfl := Except.ok.inj (hi.symm.trans hp.ingested)
    obtain rfl := Except.ok.inj (hb.symm.trans hp.parsed)
    obtain ⟨e', hi', hver⟩ := verifyReceipt_valid_iff.1 hvalid
    obtain rfl := Except.ok.inj (hi.symm.trans hi')
    exact ⟨verifyEventHash_eq_ok.1 hver.eventHash, hp.verified⟩
  obtain ⟨hh₁, hs₁⟩ := hproven hv₁ hi₁ hb₁
  obtain ⟨hh₂, hs₂⟩ := hproven hv₂ hi₂ hb₂
  obtain ⟨-, key, hk₁, -, digest₁, hd₁, signature, hsig₁, hed₁⟩ := verifySignature_eq_ok.1 hs₁
  obtain ⟨-, key', hk₂, -, digest₂, hd₂, signature', hsig₂, hed₂⟩ := verifySignature_eq_ok.1 hs₂
  obtain rfl := Except.ok.inj (hk₁.symm.trans (hkey ▸ hk₂))
  obtain rfl := Except.ok.inj (hsig₁.symm.trans (hsig ▸ hsig₂))
  -- one signature, so one message
  obtain ⟨rfl, htimestamp⟩ := constructCanonicalMessage_inj (hone _ _ _ _ hk₁ hsig₁ hed₁ hed₂)
  -- the one field the digest leaves out is recomputed from the others
  have hsame := sameCommitment_of_receiptDigest laws hsep hd₁ hd₂
  have hhash : e₁.eventHash = e₂.eventHash :=
    Except.ok.inj (hh₁.symm.trans ((laws.eventHash _ _ hsame).trans hh₂))
  exact ⟨hsame.eq hhash, htimestamp⟩

/-! ### The signed receipt of the test vectors

In two spellings of its `logical_time`, under one signature. -/

section Fields

variable {α : Type} {key key' : String} {toValue : α → Json} {o : Option α}
  {rest : List (String × Json)}

theorem lookup_optField_append_self :
    (optField key toValue o ++ rest).lookup key = (o.map toValue).or (rest.lookup key) := by
  cases o <;> simp [optField]

theorem lookup_optField_append_of_ne (h : key' ≠ key) :
    (optField key toValue o ++ rest).lookup key' = rest.lookup key' := by
  have hne : (key' == key) = false := by simpa using h
  cases o <;> simp [optField, List.lookup_cons, hne]

theorem optField_keys_sublist : ((optField key toValue o).map Prod.fst).Sublist [key] := by
  cases o <;> simp [optField]

end Fields

/-- A serialized envelope spells the envelope. -/
theorem ReceiptEnvelope.spelledBy_toValue (envelope : ReceiptEnvelope) :
    envelope.SpelledBy envelope.toValue := by
  constructor
  · simp only [ReceiptEnvelope.required, List.mem_cons, List.not_mem_nil, or_false]
    rintro f (rfl | rfl | rfl | rfl | rfl | rfl | rfl) <;>
      simp [ReceiptEnvelope.toValue, ReceiptEnvelope.fields, lookup_optField_append_of_ne,
        List.lookup_cons]
  · simp only [ReceiptEnvelope.optional, List.mem_cons, List.not_mem_nil, or_false]
    rintro f (rfl | rfl | rfl | rfl | rfl) <;>
      simp [ReceiptEnvelope.toValue, ReceiptEnvelope.fields, lookup_optField_append_of_ne,
        lookup_optField_append_self, List.lookup_cons]

theorem ReceiptEnvelope.logicalTime_toValue (envelope : ReceiptEnvelope) :
    envelope.toValue.get "logical_time" = some (.string (toString envelope.logicalTime.toNat)) := by
  simp [ReceiptEnvelope.toValue, ReceiptEnvelope.fields, lookup_optField_append_of_ne,
        List.lookup_cons]

theorem ReceiptEnvelope.SameCommitment.body_eq {e₁ e₂ : ReceiptEnvelope}
    (h : e₁.SameCommitment e₂) : e₁.body = e₂.body := by
  rw [← show { e₁ with eventHash := e₂.eventHash } = e₂ from h]
  simp [ReceiptEnvelope.body, ReceiptEnvelope.fields, Json.removeKey]

/-- Third-party code with other functions of signatures. -/
def Externals.withSignatures (E : Externals)
    (signatureBundleFromSlice : Bytes → Except String SignatureBundle)
    (blake3 : Bytes → DigestBytes) (base64Decode : String → Except String Bytes)
    (verifyingKeyFromBytes : Bytes → Except String VerifyingKey)
    (ed25519Verify : VerifyingKey → Bytes → Bytes → Bool) : Externals :=
  { E with signatureBundleFromSlice, blake3, base64Decode, verifyingKeyFromBytes, ed25519Verify }

section WithSignatures

variable {E : Externals} {signatureBundleFromSlice : Bytes → Except String SignatureBundle}
  {blake3 : Bytes → DigestBytes} {base64Decode : String → Except String Bytes}
  {verifyingKeyFromBytes : Bytes → Except String VerifyingKey}
  {ed25519Verify : VerifyingKey → Bytes → Bytes → Bool}

theorem typedCanonBytes_withSignatures (v : Json) :
    typedCanonBytes (E.withSignatures signatureBundleFromSlice blake3 base64Decode
      verifyingKeyFromBytes ed25519Verify) v = typedCanonBytes E v := rfl

theorem fromSlice_withSignatures (rawBytes : Bytes) :
    (E.withSignatures signatureBundleFromSlice blake3 base64Decode verifyingKeyFromBytes
      ed25519Verify).fromSlice rawBytes = E.fromSlice rawBytes := rfl

theorem toCanonBytesFromSlice_withSignatures (rawBytes : Bytes) :
    (E.withSignatures signatureBundleFromSlice blake3 base64Decode verifyingKeyFromBytes
      ed25519Verify).toCanonBytesFromSlice rawBytes = E.toCanonBytesFromSlice rawBytes := rfl

theorem ingestEnvelope_withSignatures (rawBytes : Bytes) :
    ingestEnvelope (E.withSignatures signatureBundleFromSlice blake3 base64Decode
      verifyingKeyFromBytes ed25519Verify) rawBytes = ingestEnvelope E rawBytes := rfl

theorem verifies_withSignatures (envelope : ReceiptEnvelope) :
    envelope.Verifies (E.withSignatures signatureBundleFromSlice blake3 base64Decode
      verifyingKeyFromBytes ed25519Verify) ↔ envelope.Verifies E :=
  ⟨fun h => ⟨h.version, h.algorithms, h.eventHash⟩,
    fun h => ⟨h.version, h.algorithms, h.eventHash⟩⟩

theorem signatureBundleFromSlice_withSignatures (sigBytes : Bytes) :
    (E.withSignatures signatureBundleFromSlice blake3 base64Decode verifyingKeyFromBytes
      ed25519Verify).signatureBundleFromSlice sigBytes = signatureBundleFromSlice sigBytes := rfl

theorem blake3_withSignatures (bytes : Bytes) :
    (E.withSignatures signatureBundleFromSlice blake3 base64Decode verifyingKeyFromBytes
      ed25519Verify).blake3 bytes = blake3 bytes := rfl

theorem base64Decode_withSignatures (b64 : String) :
    (E.withSignatures signatureBundleFromSlice blake3 base64Decode verifyingKeyFromBytes
      ed25519Verify).base64Decode b64 = base64Decode b64 := rfl

theorem verifyingKeyFromBytes_withSignatures (bytes : Bytes) :
    (E.withSignatures signatureBundleFromSlice blake3 base64Decode verifyingKeyFromBytes
      ed25519Verify).verifyingKeyFromBytes bytes = verifyingKeyFromBytes bytes := rfl

theorem ed25519Verify_withSignatures (key : VerifyingKey) (message signature : Bytes) :
    (E.withSignatures signatureBundleFromSlice blake3 base64Decode verifyingKeyFromBytes
      ed25519Verify).ed25519Verify key message signature = ed25519Verify key message signature :=
  rfl

end WithSignatures

/-- The signed receipt of the test vectors. -/
def signedReceipt : ReceiptEnvelope :=
  vectorEnvelope .governance 1000 (.object [("action", .string "signed_change"),
    ("domain", .string "test.governance.v1"), ("version", .ofU64 1)])
    (.ofNat 0x9e4aa916f1052351fb8e814fce77d6b4c01199b60f661cb9457ba6349100ed11)

/-- The receipt, with its `logical_time` spelled as an integer. -/
def signedIntegerTime : Json :=
  .object (signedReceipt.fields.map fun f =>
    if f.1 = "logical_time" then (f.1, .ofU64 signedReceipt.logicalTime) else f)

/-- The third-party code on the receipt in both spellings. -/
def signedTables : Tables where
  envelopes := [(signedReceipt.toValue, signedReceipt), (signedIntegerTime, signedReceipt)]
  others := [signedReceipt.body]
  digests := [(signedReceipt.body, signedReceipt.eventHash)]
  texts_nodup := by decide +kernel

/-- The public key. -/
def signingKey : Bytes :=
  [0x19, 0x7f, 0x6b, 0x23, 0xe1, 0x6c, 0x85, 0x32, 0xc6, 0xab, 0xc8, 0x38, 0xfa, 0xcd, 0x5e, 0xa7,
  0x89, 0xbe, 0x0c, 0x76, 0xb2, 0x92, 0x03, 0x34, 0x03, 0x9b, 0xfa, 0x8b, 0x3d, 0x36, 0x8d, 0x61]

/-- The digest of the public key, whose start is the key id. -/
def signingKeyDigest : DigestBytes :=
  .ofNat 0x863f6c8abba37da850375c08e2c4667dc8b07e139ac03ed15c56090624b88f60

/-- The digest of the receipt that is signed. -/
def signedDigest : DigestBytes :=
  .ofNat 0x3e8960d1c7cec9212cea77a27457bd9248842938cda446a203693d35079a3210

/-- The signature. -/
def signatureBytes : Bytes :=
  [0xa6, 0x83, 0xee, 0x4f, 0x20, 0x24, 0x2c, 0x00, 0x4b, 0xab, 0xdc, 0x55, 0x29, 0x71, 0xb5, 0x04,
  0xb5, 0x83, 0x82, 0xd2, 0xa8, 0xae, 0xd2, 0x19, 0xbe, 0x95, 0x4d, 0x84, 0x39, 0x06, 0x92, 0x4f,
  0x77, 0x59, 0xd8, 0xe7, 0xc2, 0xdd, 0x73, 0x9b, 0x43, 0x08, 0x90, 0xeb, 0xa5, 0xab, 0x07, 0x6f,
  0x98, 0x32, 0x51, 0x03, 0x2d, 0xb8, 0xb5, 0xbe, 0x28, 0x19, 0x4f, 0x00, 0xbe, 0xb1, 0xcb, 0x08]

/-- The signature bundle of the test vectors. -/
def vectorSignature : SignatureBundle where
  alg := expectedAlg
  keyId := ⟨"863f6c8abba37da850375c08", by decide, by decide⟩
  publicKeyB64 := "GX9rI+FshTLGq8g4+s1ep4m+DHaykgM0A5v6iz02jWE="
  signatureB64 :=
    "poPuTyAkLABLq9xVKXG1BLWDgtKortIZvpVNhDkGkk93Wdjnwt1zm0MIkOulqwdvmDJRAy24tb4oGU8AvrHLCA=="
  schemaVersion := expectedSchemaVersion
  basis := expectedBasis
  timestamp := "2026-02-23T12:00:00Z"

/-- The bytes the signature bundle is read from. -/
def vectorSignatureBytes : Bytes :=
  asBytes (Json.object [("alg", .string vectorSignature.alg),
    ("digest_basis", .string vectorSignature.basis),
    ("key_id", .string vectorSignature.keyId.hex),
    ("public_key_b64", .string vectorSignature.publicKeyB64),
    ("schema_version", .string vectorSignature.schemaVersion),
    ("signature_b64", .string vectorSignature.signatureB64),
    ("timestamp", .string vectorSignature.timestamp)]).text

/-! The functions of signatures, at the key and the signature of the test vectors. -/

/-- `serde_json::from_slice::<SignatureBundle>`. -/
def vectorSignatureFromSlice (sigBytes : Bytes) : Except String SignatureBundle :=
  if sigBytes = vectorSignatureBytes then .ok vectorSignature else .error Tables.unlisted

/-- BLAKE3. -/
def vectorBlake3 (bytes : Bytes) : DigestBytes :=
  if bytes = signingKey then signingKeyDigest
  else if bytes = receiptPrefix ++ asBytes signedReceipt.body.text then signedDigest
  else signedTables.blake3 bytes

/-- Base64 decoding. -/
def vectorBase64Decode (b64 : String) : Except String Bytes :=
  if b64 = vectorSignature.publicKeyB64 then .ok signingKey
  else if b64 = vectorSignature.signatureB64 then .ok signatureBytes
  else .error Tables.unlisted

/-- `VerifyingKey::from_bytes`. -/
def vectorKeyFromBytes (bytes : Bytes) : Except String VerifyingKey :=
  if bytes = signingKey then .ok ⟨signingKey⟩ else .error Tables.unlisted

/-- `VerifyingKey::verify`. -/
def vectorEd25519Verify (key : VerifyingKey) (message signature : Bytes) : Bool :=
  key = ⟨signingKey⟩ ∧ signature = signatureBytes ∧
    message = constructCanonicalMessage signedDigest vectorSignature.timestamp

/-- The third-party code on the receipt and its signature. -/
def signedExternals : Externals :=
  signedTables.externals.withSignatures vectorSignatureFromSlice vectorBlake3 vectorBase64Decode
    vectorKeyFromBytes vectorEd25519Verify

theorem serializationLaws_signedExternals : SerializationLaws signedExternals where
  serialized envelope v h := by
    obtain rfl := Except.ok.inj h
    exact ⟨envelope.spelledBy_toValue, envelope.logicalTime_toValue⟩
  eventHash e₁ e₂ h := by
    change Except.ok _ = Except.ok _
    rw [h.body_eq]

theorem signsOneMessage_vectorSignature : SignsOneMessage signedExternals vectorSignature := by
  intro key signature message message' _ _ h h'
  rw [signedExternals, ed25519Verify_withSignatures] at h h'
  rw [(of_decide_eq_true h).2.2, (of_decide_eq_true h').2.2]

theorem receiptDigestsSeparated_self {E : Externals} {e : ReceiptEnvelope} :
    ReceiptDigestsSeparated E e e := by
  intro fields₁ fields₂ _ _ h₁ h₂ _ _ _
  rw [Json.object.inj (Except.ok.inj (h₁.symm.trans h₂))]

theorem parsed_vectorSignature :
    signedExternals.signatureBundleFromSlice vectorSignatureBytes = .ok vectorSignature := by
  rw [signedExternals, signatureBundleFromSlice_withSignatures, vectorSignatureFromSlice]
  simp only [if_true]

theorem decodePublicKey_vectorSignature :
    decodePublicKey signedExternals vectorSignature.publicKeyB64 = .ok ⟨signingKey⟩ := by
  have hb64 : signedExternals.base64Decode vectorSignature.publicKeyB64 = .ok signingKey := by
    rw [signedExternals, base64Decode_withSignatures, vectorBase64Decode]
    simp only [if_true]
  have hkey : signedExternals.verifyingKeyFromBytes signingKey = .ok ⟨signingKey⟩ := by
    rw [signedExternals, verifyingKeyFromBytes_withSignatures, vectorKeyFromBytes]
    simp only [if_true]
  have hlen : signingKey.length = ed25519PkLen := rfl
  simp only [decodePublicKey, decodeB64Fixed, hb64, hlen, if_true, Except.mapError_ok,
    Except.ok_bind]
  simp [hkey]

theorem decodeSignature_vectorSignature :
    decodeSignature signedExternals vectorSignature.signatureB64 = .ok signatureBytes := by
  have hb64 : signedExternals.base64Decode vectorSignature.signatureB64 = .ok signatureBytes := by
    rw [signedExternals, base64Decode_withSignatures, vectorBase64Decode, if_neg (by decide)]
    simp only [if_true]
  have hlen : signatureBytes.length = ed25519SigLen := rfl
  simp only [decodeSignature, decodeB64Fixed, hb64, hlen, if_true, Except.mapError_ok,
    Except.ok_bind]
  rfl

theorem computeReceiptDigest_signedReceipt :
    computeReceiptDigest signedExternals signedReceipt = .ok signedDigest := by
  refine computeReceiptDigest_eq_ok.2 ⟨signedReceipt.fields, asBytes signedReceipt.body.text, rfl,
    rfl, ?_, ?_⟩
  · rw [signedExternals, typedCanonBytes_withSignatures]
    exact Tables.typedCanonBytes_text (List.mem_append_right _ (List.mem_singleton_self _))
      (by decide +kernel)
  · have hhead : receiptPrefix ++ asBytes signedReceipt.body.text ≠ signingKey := by
      intro h
      exact absurd (congrArg List.head? h) (by decide)
    rw [signedExternals, blake3_withSignatures, vectorBlake3, if_neg hhead]
    simp only [if_true]

theorem verifySignature_signedReceipt :
    verifySignature signedExternals signedReceipt vectorSignature = .ok () := by
  refine verifySignature_eq_ok.2 ⟨by simp [validateMetadata, checkMetadata, vectorSignature],
    _, decodePublicKey_vectorSignature, ?_, _, computeReceiptDigest_signedReceipt, _,
    decodeSignature_vectorSignature, ?_⟩
  · have hdigest : signedExternals.blake3 signingKey = signingKeyDigest := by
      rw [signedExternals, blake3_withSignatures, vectorBlake3]
      simp only [if_true]
    rw [validateKeyIdMatches, hdigest]
    decide
  · rw [signedExternals, ed25519Verify_withSignatures, vectorEd25519Verify]
    exact decide_eq_true ⟨rfl, rfl, rfl⟩

/-- Either text of the receipt is valid with the signature. -/
theorem verifySignedReceipt_vectorSignature {v : Json}
    (h : (v, signedReceipt) ∈ signedTables.envelopes) (hv : Tables.Admissible v) :
    ingestEnvelope signedExternals (asBytes v.text) = .ok signedReceipt ∧
      (verifySignedReceipt signedExternals (asBytes v.text) vectorSignatureBytes).status =
        .valid := by
  have hi : ingestEnvelope signedExternals (asBytes v.text) = .ok signedReceipt := by
    rw [signedExternals, ingestEnvelope_withSignatures]
    exact Tables.ingestEnvelope_text h hv
  have hver : signedReceipt.Verifies signedExternals := by
    rw [signedExternals, verifies_withSignatures]
    exact Tables.verifies rfl rfl rfl (List.mem_singleton_self _)
  exact ⟨hi, verifySignedReceipt_valid_iff.2 ⟨verifyReceipt_valid_iff.2 ⟨_, hi, hver⟩, _, _, hi,
    parsed_vectorSignature, verifySignature_signedReceipt⟩⟩

/-- The two texts of the signed receipt carry one envelope. -/
theorem not_transferable_signedReceipt :
    asBytes signedReceipt.toValue.text ≠ asBytes signedIntegerTime.text ∧
      signedReceipt = signedReceipt ∧ vectorSignature.timestamp = vectorSignature.timestamp := by
  obtain ⟨hi₁, hv₁⟩ := verifySignedReceipt_vectorSignature (v := signedReceipt.toValue)
    List.mem_cons_self (Tables.admissible_of_checks (by decide +kernel))
  obtain ⟨hi₂, hv₂⟩ := verifySignedReceipt_vectorSignature (v := signedIntegerTime)
    (List.mem_cons_of_mem _ (List.mem_singleton_self _))
    (Tables.admissible_of_checks (by decide +kernel))
  refine ⟨fun h => ?_, verifySignedReceipt_not_transferable serializationLaws_signedExternals hv₁
    hv₂ hi₁ hi₂ parsed_vectorSignature parsed_vectorSignature rfl rfl
    signsOneMessage_vectorSignature receiptDigestsSeparated_self⟩
  have hn := signedTables.texts_nodup
  simp only [signedTables, List.map_cons, List.map_nil, List.nodup_cons, List.cons_append,
    List.nil_append, List.mem_cons, List.not_mem_nil, or_false] at hn
  exact hn.1 (.inl (Json.asBytes_text_inj.1 h))

end VertRule
