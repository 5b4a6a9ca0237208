import VertRule.Bundle
import VertRule.Json.Admitted

/-!
# Third-party code by tables

`Externals` for finitely many documents.  Canonical texts are written out as JCS writes them,
and what cannot be computed here, the BLAKE3 digest of a text and the typed value of a document,
is looked up; whatever no table lists is refused.  The concrete inputs of the development are
verified with these.
-/

namespace VertRule

/-! ### Canonical texts -/

namespace Json

/-- A character inside a JSON string. -/
def charText (c : Char) : List Char :=
  if c = '"' then ['\\', '"']
  else if c = '\\' then ['\\', '\\']
  else if c = '\n' then ['\\', 'n']
  else if c = '\r' then ['\\', 'r']
  else if c = '\t' then ['\\', 't']
  else if c.toNat = 8 then ['\\', 'b']
  else if c.toNat = 12 then ['\\', 'f']
  else if c.toNat < 32 then ['\\', 'u', '0', '0'] ++ hexByte (UInt8.ofNat c.toNat)
  else [c]

/-- A JSON string. -/
def stringText (s : String) : List Char := '"' :: (s.toList.flatMap charText ++ ['"'])

/-- A number, in full.  No table lists a float, or canonicalizes an integer from `2 ^ 53` on, of
which JCS writes the shortest digits that round to it. -/
def numberText : Number → List Char
  | .posInt n => Nat.toDigits 10 n.toNat
  | .negInt n => '-' :: Nat.toDigits 10 n.toInt.natAbs
  | .float _ => []

mutual

/-- The canonical text of a value whose members come in canonical order. -/
def chars : Json → List Char
  | .null => ['n', 'u', 'l', 'l']
  | .bool true => ['t', 'r', 'u', 'e']
  | .bool false => ['f', 'a', 'l', 's', 'e']
  | .number n => numberText n
  | .string s => stringText s
  | .array elems => '[' :: elemChars elems
  | .object fields => '{' :: fieldChars fields
termination_by structural v => v

/-- The elements of an array, up to its end. -/
def elemChars : List Json → List Char
  | [] => [']']
  | v :: elems => chars v ++ (if elems.isEmpty then [] else [',']) ++ elemChars elems
termination_by structural elems => elems

/-- The members of an object, up to its end. -/
def fieldChars : List (String × Json) → List Char
  | [] => ['}']
  | (key, v) :: fields =>
    stringText key ++ ':' :: (chars v ++ (if fields.isEmpty then [] else [','])) ++
      fieldChars fields
termination_by structural fields => fields

end

/-- The canonical text, as a string. -/
def text (v : Json) : String := String.ofList v.chars

theorem asBytes_text_inj {v w : Json} : asBytes v.text = asBytes w.text ↔ v.chars = w.chars := by
  rw [asBytes_injective.eq_iff, text, text, String.ofList_inj]

theorem stringText_text (v : Json) :
    stringText v.text = '"' :: (v.chars.flatMap charText ++ ['"']) := by
  simp [stringText, text]

/-- A UTF-8 text has at most four bytes for each character. -/
theorem asBytes_text_length_le (v : Json) : (asBytes v.text).length ≤ 4 * v.chars.length := by
  have hbytes : (asBytes v.text).length = String.utf8Len v.chars := by
    rw [← String.utf8ByteSize_ofList]
    rfl
  rw [hbytes]
  induction v.chars with
  | nil => simp
  | cons c cs ih =>
    have hc := c.utf8Size_le_four
    simp only [String.utf8Len_cons, List.length_cons]
    omega

/-! A bound on the length of a text that does not spell its strings out. -/

mutual

/-- A value is written in at most this many characters. -/
def sizeBound : Json → ℕ
  | .null | .bool _ => 5
  | .number n => (numberText n).length
  | .string s => 6 * s.utf8ByteSize + 2
  | .array elems => 1 + elemsBound elems
  | .object fields => 1 + fieldsBound fields
termination_by structural v => v

/-- The elements of an array are. -/
def elemsBound : List Json → ℕ
  | [] => 1
  | v :: elems => sizeBound v + 1 + elemsBound elems
termination_by structural elems => elems

/-- The members of an object are. -/
def fieldsBound : List (String × Json) → ℕ
  | [] => 1
  | (key, v) :: fields => 6 * key.utf8ByteSize + 2 + 1 + sizeBound v + 1 + fieldsBound fields
termination_by structural fields => fields

end

theorem charText_length_le (c : Char) : (charText c).length ≤ 6 := by
  unfold charText
  split_ifs <;> simp [hexByte]

theorem stringText_length_le (s : String) : (stringText s).length ≤ 6 * s.utf8ByteSize + 2 := by
  have hchars : ∀ cs : List Char, (cs.flatMap charText).length ≤ 6 * String.utf8Len cs := by
    intro cs
    induction cs with
    | nil => simp
    | cons c cs ih =>
      have hc := charText_length_le c
      have hpos := c.utf8Size_pos
      simp only [List.flatMap_cons, List.length_append, String.utf8Len_cons]
      omega
  have hs := hchars s.toList
  rw [← String.utf8ByteSize_ofList, String.ofList_toList] at hs
  simp only [stringText, List.length_cons, List.length_append, List.length_nil]
  omega

mutual

theorem chars_length_le : ∀ v : Json, v.chars.length ≤ v.sizeBound
  | .null => by simp [chars, sizeBound]
  | .bool true => by simp [chars, sizeBound]
  | .bool false => by simp [chars, sizeBound]
  | .number n => by simp [chars, sizeBound]
  | .string s => by simpa [chars, sizeBound] using stringText_length_le s
  | .array elems => by
    have := elemChars_length_le elems
    simp only [chars, sizeBound, List.length_cons]
    omega
  | .object fields => by
    have := fieldChars_length_le fields
    simp only [chars, sizeBound, List.length_cons]
    omega

theorem elemChars_length_le : ∀ elems : List Json, (elemChars elems).length ≤ elemsBound elems
  | [] => by simp [elemChars, elemsBound]
  | v :: elems => by
    have hv := chars_length_le v
    have hrest := elemChars_length_le elems
    have hcomma : (if elems.isEmpty then [] else [',']).length ≤ 1 := by split_ifs <;> simp
    simp only [elemChars, elemsBound, List.length_append]
    omega

theorem fieldChars_length_le : ∀ fields : List (String × Json),
    (fieldChars fields).length ≤ fieldsBound fields
  | [] => by simp [fieldChars, fieldsBound]
  | (key, v) :: fields => by
    have hkey := stringText_length_le key
    have hv := chars_length_le v
    have hrest := fieldChars_length_le fields
    have hcomma : (if fields.isEmpty then [] else [',']).length ≤ 1 := by split_ifs <;> simp
    simp only [fieldChars, fieldsBound, List.length_append, List.length_cons]
    omega

end

end Json

/-! ### Documents -/

/-- A digest, from its hex digits read as a number. -/
def DigestBytes.ofNat (n : ℕ) : DigestBytes where
  bytes := (List.range 32).map fun i => UInt8.ofNat (n >>> (8 * (31 - i)))
  size := by simp

/-- A serialized digest. -/
def DigestBytes.toValue (d : DigestBytes) : Json := .string d.toHex

namespace ReceiptEnvelope

variable (envelope : ReceiptEnvelope)

/-- The members of a serialized envelope; `logical_time` is a decimal string. -/
def fields : List (String × Json) :=
  optField "boundary_origin" (fun b => .string b.label) envelope.boundaryOrigin ++
    optField "canonicalization" .string envelope.canonicalization ++
    [("context_digest", envelope.contextDigest.toValue)] ++
    optField "digest_algorithm" .string envelope.digestAlgorithm ++
    [("envelope_version", .number (.posInt envelope.envelopeVersion.value.toUInt64)),
      ("event_hash", envelope.eventHash.toValue)] ++
    optField "event_hash_profile" (fun p => .string p.label) envelope.eventHashProfile ++
    [("logical_time", .string (toString envelope.logicalTime.toNat))] ++
    optField "parent_id" DigestBytes.toValue envelope.parentId ++
    [("payload", envelope.payload), ("policy_digest", envelope.policyDigest.toValue),
      ("receipt_type", .string envelope.receiptType.label),
      ("schema_digest", envelope.schemaDigest.toValue)]

/-- `serde_json::to_value` of an envelope. -/
def toValue : Json := .object envelope.fields

/-- The value whose canonical form `event_hash` commits to. -/
def body : Json := .object (Json.removeKey envelope.fields "event_hash")

end ReceiptEnvelope

/-- An execution bundle as JSON. -/
def ExecutionBundle.toValue (bundle : ExecutionBundle) : Json :=
  .object [("envelope_canonical", .string bundle.envelopeCanonical),
    ("_format", .string bundle.format),
    ("sidecars", .object (optField "layer_trace" id bundle.sidecars.layerTrace ++
      optField "selection_policy" id bundle.sidecars.selectionPolicy))]

/-- A closure bundle as JSON. -/
def ClosureBundle.toValue (bundle : ClosureBundle) : Json :=
  .object [("receipts", .ofStrings bundle.receipts), ("_format", .string bundle.format),
    ("manifest", bundle.manifest), ("root_canonical", .string bundle.rootCanonical)]

/-- A version 1 envelope, with the context, schema and policy of the repository's test vectors. -/
def vectorEnvelope (receiptType : ReceiptType) (logicalTime : UInt64) (payload : Json)
    (eventHash : DigestBytes) (parentId : Option DigestBytes := none) : ReceiptEnvelope where
  envelopeVersion := .V1
  receiptType
  contextDigest := .ofNat 0xaaaaaaaaaaaaaaaaaaaaaaaaaaaaaaaaaaaaaaaaaaaaaaaaaaaaaaaaaaaaaaaa
  schemaDigest := .ofNat 0xbbbbbbbbbbbbbbbbbbbbbbbbbbbbbbbbbbbbbbbbbbbbbbbbbbbbbbbbbbbbbbbb
  policyDigest := .ofNat 0xcccccccccccccccccccccccccccccccccccccccccccccccccccccccccccccccc
  logicalTime
  eventHash
  payload
  parentId
  boundaryOrigin := none
  digestAlgorithm := none
  canonicalization := none
  eventHashProfile := none

theorem no_supportSets_nodup :
    (([] : List (Json × List SupportMember)).map Prod.fst).Nodup := List.nodup_nil

theorem no_digests_nodup :
    (([] : List (Json × DigestBytes)).map fun p => p.1.chars).Nodup := List.nodup_nil

theorem no_executionBundles_nodup :
    (([] : List ExecutionBundle).map fun b => b.toValue.chars).Nodup := List.nodup_nil

theorem no_closureBundles_nodup :
    (([] : List ClosureBundle).map fun b => b.toValue.chars).Nodup := List.nodup_nil

/-- The documents of some concrete inputs. -/
structure Tables where
  /-- Envelopes, each with a value that deserializes to it. -/
  envelopes : List (Json × ReceiptEnvelope)
  /-- Other values whose texts are read. -/
  others : List Json := []
  /-- The BLAKE3 digests of the canonical texts of some values. -/
  digests : List (Json × DigestBytes) := []
  supportSets : List (Json × List SupportMember) := []
  executionBundles : List ExecutionBundle := []
  closureBundles : List ClosureBundle := []
  texts_nodup : ((envelopes.map Prod.fst ++ others).map Json.chars).Nodup
  supportSets_nodup : (supportSets.map Prod.fst).Nodup := by
    first | exact no_supportSets_nodup | decide +kernel
  digests_nodup : (digests.map fun p => p.1.chars).Nodup := by
    first | exact no_digests_nodup | decide +kernel
  executionBundles_nodup : (executionBundles.map fun b => b.toValue.chars).Nodup := by
    first | exact no_executionBundles_nodup | decide +kernel
  closureBundles_nodup : (closureBundles.map fun b => b.toValue.chars).Nodup := by
    first | exact no_closureBundles_nodup | decide +kernel

namespace Tables

variable (T : Tables)

/-- The values whose texts are read. -/
def values : List Json := T.envelopes.map Prod.fst ++ T.others

/-- What cannot be looked up. -/
def unlisted : String := "unlisted"

/-- The value of a listed text. -/
def read (rawBytes : Bytes) : Option Json := T.values.find? fun v => asBytes v.text = rawBytes

/-- Canonicalization of a text: a listed one is canonical, if its integers are in range. -/
def canonicalBytes (rawBytes : Bytes) : Except JcsError Bytes :=
  match T.read rawBytes with
  | some v => if v.inRange then .ok rawBytes else .error (.other "integer out of range")
  | none => .error (.json unlisted)

/-- The digest of a listed text. -/
def blake3 (rawBytes : Bytes) : DigestBytes :=
  ((T.digests.find? fun p => asBytes p.1.text = rawBytes).map Prod.snd).getD (.ofNat 0)

/-- The functions the tables give. -/
def externals : Externals where
  fromSlice rawBytes := (T.read rawBytes).elim (.error unlisted) .ok
  toVec v := .ok (asBytes v.text)
  toJsonString v := .ok v.text
  envelopeFromValue v := (T.envelopes.lookup v).elim (.error unlisted) .ok
  envelopeFromSlice rawBytes :=
    ((T.read rawBytes).bind fun v => T.envelopes.lookup v).elim (.error unlisted) .ok
  envelopeToValue envelope := .ok envelope.toValue
  supportSetFromValue v := (T.supportSets.lookup v).elim (.error unlisted) .ok
  decisionPayloadFromValue _ := .error unlisted
  executionBundleFromSlice rawBytes :=
    (T.executionBundles.find? fun b => asBytes b.toValue.text = rawBytes).elim
      (.error unlisted) .ok
  decisionPackFromSlice _ := .error unlisted
  layeredPackFromSlice _ := .error unlisted
  closureBundleFromSlice rawBytes :=
    (T.closureBundles.find? fun b => asBytes b.toValue.text = rawBytes).elim
      (.error unlisted) .ok
  signatureBundleFromSlice _ := .error unlisted
  toCanonBytesFromSlice := T.canonicalBytes
  toCanonStringFromStr s := (T.canonicalBytes (asBytes s)).map fun _ => s
  canonicalize v :=
    if v.inRange then .ok (asBytes v.text) else .error (.other "integer out of range")
  blake3 := T.blake3
  computeEventHash envelope := .ok (T.blake3 (asBytes envelope.body.text))
  versionDigestAlgorithm _ := "BLAKE3"
  versionCanonicalization _ := "JCS"
  base64Decode _ := .error unlisted
  verifyingKeyFromBytes _ := .error unlisted
  ed25519Verify _ _ _ := false
  digestFormat := ⟨DigestBytes.toHex, DigestBytes.toHex⟩
  debugStr s := "\"" ++ s ++ "\""
  debugReceiptType receiptType := receiptType.label.capitalize
  debugBoundaryOrigin origin := origin.label.capitalize

variable {T}

/-- In a list whose keys have distinct texts, the text of a key finds its entry. -/
theorem find?_text {α : Type} {l : List α} (key : α → Json)
    (hl : (l.map fun a => (key a).chars).Nodup) {a : α} (ha : a ∈ l) :
    l.find? (fun b => asBytes (key b).text = asBytes (key a).text) = some a := by
  cases h : l.find? (fun b => asBytes (key b).text = asBytes (key a).text) with
  | none => simpa using List.find?_eq_none.1 h a ha
  | some b =>
    have hb : asBytes (key b).text = asBytes (key a).text := by simpa using List.find?_some h
    rw [List.inj_on_of_nodup_map hl (List.mem_of_find?_eq_some h) ha
      (Json.asBytes_text_inj.1 hb)]

theorem read_text {v : Json} (h : v ∈ T.values) : T.read (asBytes v.text) = some v :=
  find?_text id T.texts_nodup h

theorem read_eq_some {rawBytes : Bytes} {v : Json} (h : T.read rawBytes = some v) :
    v ∈ T.values ∧ asBytes v.text = rawBytes :=
  ⟨List.mem_of_find?_eq_some h, by simpa using List.find?_some h⟩

theorem read_of_fromSlice {rawBytes : Bytes} {v : Json}
    (h : T.externals.fromSlice rawBytes = .ok v) : T.read rawBytes = some v := by
  cases hr : T.read rawBytes with
  | none => simp [externals, hr] at h
  | some w => simpa [externals, hr] using h

/-- A text that starts as none of the listed ones does is not JSON. -/
theorem fromSlice_ne_ok {s : String}
    (hs : ∀ v ∈ T.values, v.chars.head? ≠ s.toList.head?) (v : Json) :
    T.externals.fromSlice (asBytes s) ≠ .ok v := by
  intro h
  obtain ⟨hmem, htext⟩ := read_eq_some (read_of_fromSlice h)
  have hstring : v.text = s := asBytes_injective htext
  refine hs v hmem ?_
  rw [← hstring, Json.text, String.toList_ofList]

theorem eq_of_canonicalBytes {rawBytes c : Bytes} (h : T.canonicalBytes rawBytes = .ok c) :
    c = rawBytes := by
  unfold canonicalBytes at h
  split at h
  · split_ifs at h
    exact (Except.ok.inj h).symm
  · cases h

theorem canonical_unique {rawBytes rawBytes' c c' : Bytes} {v : Json}
    (hj : T.externals.fromSlice rawBytes = .ok v) (hj' : T.externals.fromSlice rawBytes' = .ok v)
    (hc : T.externals.toCanonBytesFromSlice rawBytes = .ok c)
    (hc' : T.externals.toCanonBytesFromSlice rawBytes' = .ok c') : c = c' := by
  rw [eq_of_canonicalBytes hc, eq_of_canonicalBytes hc', ← (read_eq_some (read_of_fromSlice hj)).2,
    ← (read_eq_some (read_of_fromSlice hj')).2]

theorem fromStr_text {v : Json} (h : v ∈ T.values) : T.externals.fromStr v.text = .ok v := by
  simp [Externals.fromStr, externals, read_text h]

theorem blake3_text {v : Json} {d : DigestBytes} (h : (v, d) ∈ T.digests) :
    T.blake3 (asBytes v.text) = d := by
  simp only [blake3, find?_text Prod.fst T.digests_nodup h, Option.map_some,
    Option.getD_some]

theorem typedCanonBytes_text {v : Json} (h : v ∈ T.values) (hr : v.inRange = true) :
    typedCanonBytes T.externals v = .ok (asBytes v.text) := by
  simp [typedCanonBytes, externals, canonicalBytes, read_text h, hr]

theorem supportSetFromValue {v : Json} {members : List SupportMember}
    (h : (v, members) ∈ T.supportSets) : T.externals.supportSetFromValue v = .ok members := by
  simp [externals, lookup_eq_some_of_mem T.supportSets_nodup h]

theorem closureBundleFromSlice_text {b : ClosureBundle} (h : b ∈ T.closureBundles) :
    T.externals.closureBundleFromSlice (asBytes b.toValue.text) = .ok b := by
  simp [externals, find?_text ClosureBundle.toValue T.closureBundles_nodup h]

theorem executionBundleFromSlice_text {b : ExecutionBundle} (h : b ∈ T.executionBundles) :
    T.externals.executionBundleFromSlice (asBytes b.toValue.text) = .ok b := by
  simp [externals, find?_text ExecutionBundle.toValue T.executionBundles_nodup h]

theorem mem_values {v : Json} {envelope : ReceiptEnvelope} (h : (v, envelope) ∈ T.envelopes) :
    v ∈ T.values :=
  List.mem_append_left _ (List.mem_map_of_mem (f := Prod.fst) h)

theorem envelopeFromValue {v : Json} {envelope : ReceiptEnvelope}
    (h : (v, envelope) ∈ T.envelopes) : T.externals.envelopeFromValue v = .ok envelope := by
  have hl : (T.envelopes.map Prod.fst).Nodup := by
    have := T.texts_nodup
    rw [List.map_append] at this
    exact (List.Nodup.of_append_left this).of_map _
  simp [externals, lookup_eq_some_of_mem hl h]

theorem mem_of_envelopeFromValue {v : Json} {envelope : ReceiptEnvelope}
    (h : T.externals.envelopeFromValue v = .ok envelope) : (v, envelope) ∈ T.envelopes := by
  cases hl : T.envelopes.lookup v with
  | none => simp [externals, hl] at h
  | some e =>
    obtain rfl : e = envelope := by simpa [externals, hl] using h
    exact mem_of_lookup_eq_some hl

theorem envelopeFromSlice_text {v : Json} {envelope : ReceiptEnvelope}
    (h : (v, envelope) ∈ T.envelopes) :
    T.externals.envelopeFromSlice (asBytes v.text) = .ok envelope := by
  have hvalue := envelopeFromValue h
  simpa [externals, read_text (mem_values h)] using hvalue

theorem computeEventHash_listed {envelope : ReceiptEnvelope}
    (h : (envelope.body, envelope.eventHash) ∈ T.digests) :
    T.externals.computeEventHash envelope = .ok envelope.eventHash :=
  congrArg Except.ok (blake3_text h)

/-- What `verify_receipt` checks of a value before it is deserialized. -/
structure Admissible (v : Json) : Prop where
  size : 4 * v.chars.length ≤ VerifierLimits.default.maxBytes
  inRange : v.inRange = true
  structured : checkStructure v .default = .ok ()
  schema : validateEnvelopeSchema v = .ok ()
  floats : rejectStructuralFloats v = .ok ()

/-- The checks, in one computation. -/
theorem admissible_of_checks {v : Json} (h : 4 * v.sizeBound ≤ VerifierLimits.default.maxBytes ∧
    v.inRange = true ∧ checkStructure v .default = .ok () ∧ validateEnvelopeSchema v = .ok () ∧
    rejectStructuralFloats v = .ok ()) : Admissible v where
  size := (Nat.mul_le_mul_left 4 v.chars_length_le).trans h.1
  inRange := h.2.1
  structured := h.2.2.1
  schema := h.2.2.2.1
  floats := h.2.2.2.2

theorem checkByteLimit_text {v : Json}
    (hsize : 4 * v.chars.length ≤ VerifierLimits.default.maxBytes) :
    checkByteLimit (asBytes v.text) .default = .ok () := by
  rw [checkByteLimit, if_neg]
  exact not_lt.2 ((Json.asBytes_text_length_le v).trans hsize)

theorem toCanonBytesFromSlice_text {v : Json} (h : v ∈ T.values) (hr : v.inRange = true) :
    T.externals.toCanonBytesFromSlice (asBytes v.text) = .ok (asBytes v.text) := by
  simp [externals, canonicalBytes, read_text h, hr]

theorem ingestEnvelope_text {v : Json} {envelope : ReceiptEnvelope}
    (h : (v, envelope) ∈ T.envelopes) (hv : Admissible v) :
    ingestEnvelope T.externals (asBytes v.text) = .ok envelope := by
  rw [ingestEnvelope, ingestEnvelopeWithLimits_eq_ok]
  exact ⟨checkByteLimit_text hv.size, toCanonBytesFromSlice_text (mem_values h) hv.inRange, v,
    fromStr_text (mem_values h), hv.structured, hv.schema, hv.floats, envelopeFromValue h⟩

/-- A listed array of envelopes is ingested as a chain of them. -/
theorem ingestChain_text {l : List (Json × ReceiptEnvelope)} {v : Json}
    (hv : v = .array (l.map Prod.fst)) (h : v ∈ T.values)
    (hsize : 4 * v.sizeBound ≤ VerifierLimits.default.maxBytes) (hr : v.inRange = true)
    (hs : checkStructure v .default = .ok ())
    (hlen : l.length ≤ VerifierLimits.default.maxChainLength)
    (hl : ∀ p ∈ l, p ∈ T.envelopes ∧ validateEnvelopeSchema p.1 = .ok () ∧
      rejectStructuralFloats p.1 = .ok ()) :
    ingestChain T.externals (asBytes v.text) = .ok (l.map Prod.snd) := by
  subst hv
  rw [ingestChain, ingestChainWithLimits_eq_ok]
  refine ⟨checkByteLimit_text ((Nat.mul_le_mul_left 4 (Json.chars_length_le _)).trans hsize),
    toCanonBytesFromSlice_text h hr, _, fromStr_text h, hs, ?_, ?_⟩
  · rw [checkChainLength, if_neg]
    simpa using hlen
  · rw [List.forall₂_map_left_iff, List.forall₂_map_right_iff, List.forall₂_same]
    intro p hp
    obtain ⟨hmem, hschema, hfloats⟩ := hl p hp
    exact ⟨hschema, hfloats, envelopeFromValue hmem⟩

/-- An envelope whose `event_hash` is the listed digest of its body verifies. -/
theorem verifies {envelope : ReceiptEnvelope} (hv : envelope.envelopeVersion = .V1)
    (ha : envelope.digestAlgorithm = none) (hc : envelope.canonicalization = none)
    (hd : (envelope.body, envelope.eventHash) ∈ T.digests) : envelope.Verifies T.externals where
  version := verifyEnvelopeVersion_eq_ok.2 hv
  algorithms := by simp [verifyAlgorithms, ha, hc, checkMarker]
  eventHash := verifyEventHash_eq_ok.2 (computeEventHash_listed hd)

/-- A listed envelope that verifies has a valid text. -/
theorem verifyReceipt_valid {v : Json} (envelope : ReceiptEnvelope)
    (h : (v, envelope) ∈ T.envelopes) (hv : Admissible v) (he : envelope.Verifies T.externals) :
    (verifyReceipt T.externals (asBytes v.text)).status = .valid :=
  verifyReceipt_valid_iff.2 ⟨envelope, ingestEnvelope_text h hv, he⟩

/-- The text of a value outside the schema profile is not valid. -/
theorem verifyReceipt_ne_valid {v : Json} (h : v ∈ T.values)
    (hs : validateEnvelopeSchema v ≠ .ok ()) :
    (verifyReceipt T.externals (asBytes v.text)).status ≠ .valid := by
  intro hvalid
  obtain ⟨envelope, hi, -⟩ := verifyReceipt_valid_iff.1 hvalid
  obtain ⟨-, -, w, hw, -, hschema, -⟩ := ingestEnvelopeWithLimits_eq_ok.1 hi
  obtain rfl : v = w := Except.ok.inj ((fromStr_text h).symm.trans hw)
  exact hs hschema

end Tables

end VertRule
