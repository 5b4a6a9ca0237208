import VertRule.Issue.Receipt
import VertRule.LayeredLaw

/-!
# Receipts of packs

A pack carries the text of a root receipt, whose support set names other receipts by their hashes,
and the texts of those.  Here are the receipts as they are issued, and what the verifiers of packs
read in their texts.
-/

namespace VertRule

namespace Issue

/-! ### The issuer -/

/-- A member of a support set, as the vector generator writes it. -/
inductive Member where
  | typedReceiptDependency (eventHash role targetSchema : String)
  | dependedOnReceipt (eventHash : String)
  | citedLink (id url : String)
  | evidenceDigest (id digest : String)
  | selectorValue (key value : String)

namespace Member

/-- The member, with its keys in the order of the issuer. -/
def toValue : Member → Json
  | typedReceiptDependency eventHash role targetSchema =>
    .object [("member_kind", .string "typed_receipt_dependency"),
      ("event_hash", .string eventHash), ("relation", .string "depends_on"),
      ("role", .string role), ("target_schema", .string targetSchema)]
  | dependedOnReceipt eventHash =>
    .object [("member_kind", .string "depended_on_receipt"), ("event_hash", .string eventHash)]
  | citedLink id url =>
    .object [("member_kind", .string "cited_link"), ("id", .string id), ("url", .string url)]
  | evidenceDigest id digest =>
    .object [("member_kind", .string "evidence_digest"), ("id", .string id),
      ("digest", .string digest)]
  | selectorValue key value =>
    .object [("member_kind", .string "selector_value"), ("key", .string key),
      ("value", .string value)]

/-- What the verifier keeps of it. -/
def read : Member → SupportMember
  | typedReceiptDependency eventHash role targetSchema =>
    .typedReceiptDependency eventHash ⟨.ok (.string role)⟩ targetSchema
  | dependedOnReceipt eventHash => .dependedOnReceipt eventHash
  | citedLink id url => .citedLink id url
  | evidenceDigest id digest => .evidenceDigest id digest
  | selectorValue key _ => .selectorValue key

/-- Its role, if it has one, is among those there are. -/
def Known (roles : String → Prop) : Member → Prop
  | typedReceiptDependency _ role _ => roles role
  | _ => True

variable {members : List Member} {eventHash targetSchema : String}

theorem dependedOnReceipt_mem_map_read :
    SupportMember.dependedOnReceipt eventHash ∈ members.map read ↔
      dependedOnReceipt eventHash ∈ members := by
  rw [List.mem_map]
  constructor
  · rintro ⟨m, hm, hread⟩
    cases m with
    | dependedOnReceipt eventHash' =>
      obtain rfl := SupportMember.dependedOnReceipt.inj hread
      exact hm
    | _ => cases hread
  · exact fun hm => ⟨_, hm, rfl⟩

theorem typedReceiptDependency_mem_map_read {role : DependencyRole} :
    SupportMember.typedReceiptDependency eventHash role targetSchema ∈ members.map read ↔
      ∃ label, role = ⟨.ok (.string label)⟩ ∧
        typedReceiptDependency eventHash label targetSchema ∈ members := by
  rw [List.mem_map]
  constructor
  · rintro ⟨m, hm, hread⟩
    cases m with
    | typedReceiptDependency eventHash' label targetSchema' =>
      obtain ⟨rfl, rfl, rfl⟩ := SupportMember.typedReceiptDependency.inj hread
      exact ⟨label, rfl, hm⟩
    | _ => cases hread
  · rintro ⟨label, rfl, hm⟩
    exact ⟨_, hm, rfl⟩

end Member

/-- A receipt of a pack: what it is issued for, and the hash and the text that `build_envelope` and
`canon_string` give it.  A payload may have a kind and a support set. -/
structure PackReceipt where
  kind : Option String
  others : List (String × Json)
  supportSet : Option (List Member)
  logicalTime : UInt64
  eventHash : String
  text : String

namespace PackReceipt

variable (r : PackReceipt)

/-- The members of its payload. -/
def fields : List (String × Json) :=
  optField "payload_kind" .string r.kind ++
    (optField "support_set" (fun ms => .array (ms.map Member.toValue)) r.supportSet ++ r.others)

/-- Its payload. -/
def payload : Json := .object r.fields

/-- The members of its support set. -/
def members : List Member := r.supportSet.getD []

/-- The envelope of `build_envelope`, before its hash is known. -/
def body : List (String × Json) :=
  vectorBody r.payload r.logicalTime none "event" (placeholderHex64 0xaa) (placeholderHex64 0xcc)

end PackReceipt

/-- The payload of a decision that allows. -/
def allowFields (members : List Member) : List (String × Json) :=
  [("payload_kind", .string decisionPayloadKind),
    ("support_set", .array (members.map Member.toValue)),
    ("verdict", .object [("kind", .string "allow")])]

section Issuer

variable (E : Externals)

/-- `canon_string`, where it succeeds. -/
def canonString (value : Json) : Option String := (typedCanonBytes E value).toOption.bind fromUtf8

/-- The receipt has the hash and the text that it is issued with, and the text is canonical as it
stands. -/
structure PackReceipt.Built (r : PackReceipt) : Prop where
  keys : ("payload_kind" :: "support_set" :: r.others.map Prod.fst).Nodup
  sealed : ∃ value, sealEnvelope E r.body = .ok (r.eventHash, value) ∧
    canonString E value = some r.text
  canonical : E.toCanonBytesFromSlice (asBytes r.text) = .ok (asBytes r.text)

/-- The text of the receipt can be ingested. -/
def PackReceipt.Ingested (r : PackReceipt) : Prop :=
  ∃ envelope, ingestEnvelope E (asBytes r.text) = .ok envelope

/-- Support sets, and the payloads of decisions that allow, are decoded as they are written, if
all roles are known. -/
structure MemberLaws (norm : Json → Json) (roles : String → Prop) : Prop where
  supportSet : ∀ {v} {members : List Member}, norm v = norm (.array (members.map Member.toValue)) →
    ∀ ms, E.supportSetFromValue v = .ok ms ↔
      (∀ m ∈ members, m.Known roles) ∧ ms = members.map Member.read
  decision : ∀ {v} {members : List Member}, norm v = norm (.object (allowFields members)) →
    ∀ payload, E.decisionPayloadFromValue v = .ok payload ↔
      (∀ m ∈ members, m.Known roles) ∧ payload = ⟨.allow, members.map Member.read⟩

end Issuer

/-! ### What is read of an issued receipt -/

/-- A support set decodes to `ms`; one that is absent is empty. -/
def DecodesTo (E : Externals) (supportSet : Option Json) (ms : List SupportMember) : Prop :=
  supportSet.elim (ms = []) fun v => E.supportSetFromValue v = .ok ms

variable {E : Externals} {norm : Json → Json} {roles : String → Prop} {r : PackReceipt}

theorem canonString_eq_some {value : Json} {s : String} :
    canonString E value = some s ↔ typedCanonBytes E value = .ok (asBytes s) := by
  unfold canonString
  cases typedCanonBytes E value with
  | error e => simp [Except.toOption]
  | ok bytes => simp [Except.toOption, fromUtf8_eq_some]

/-- What the verifiers of packs look up in the text of an issued receipt. -/
structure PackReceipt.Reads (E : Externals) (norm : Json → Json) (r : PackReceipt) (value : Json) :
    Prop where
  json : E.fromStr r.text = .ok value
  hash : readEventHash value = some r.eventHash
  payload : ∃ payload, value.get "payload" = some payload ∧ norm payload = norm r.payload

namespace PackReceipt

theorem lookup_fields_kind (h : r.Built E) :
    r.fields.lookup "payload_kind" = r.kind.map .string := by
  have hnotMem : "payload_kind" ∉ r.others.map Prod.fst := fun hmem =>
    (List.nodup_cons.1 h.keys).1 (List.mem_cons_of_mem _ hmem)
  rw [fields, lookup_optField_append_self, lookup_optField_append_of_ne (by decide),
    lookup_eq_none_of_notMem hnotMem, Option.or_none]

theorem lookup_fields_supportSet (h : r.Built E) :
    r.fields.lookup "support_set" =
      r.supportSet.map fun ms => .array (ms.map Member.toValue) := by
  have hnotMem : "support_set" ∉ r.others.map Prod.fst :=
    (List.nodup_cons.1 (List.nodup_cons.1 h.keys).2).1
  rw [fields, lookup_optField_append_of_ne (by decide), lookup_optField_append_self,
    lookup_eq_none_of_notMem hnotMem, Option.or_none]

theorem lookup_fields_other {key : String} (hkind : key ≠ "payload_kind")
    (hsupport : key ≠ "support_set") : r.fields.lookup key = r.others.lookup key := by
  rw [fields, lookup_optField_append_of_ne hkind, lookup_optField_append_of_ne hsupport]

theorem Built.nodup (h : r.Built E) : (r.fields.map Prod.fst).Nodup := by
  refine h.keys.sublist ?_
  rw [fields, List.map_append, List.map_append]
  exact optField_keys_sublist.append (optField_keys_sublist.append (.refl _))

theorem Built.reads (laws : IssueLaws E norm) (h : r.Built E) : ∃ value, r.Reads E norm value := by
  obtain ⟨value, hseal, htext⟩ := h.sealed
  obtain ⟨-, -, -, rfl⟩ := sealEnvelope_eq_ok.1 hseal
  obtain ⟨v, hv, hsame⟩ := laws.normal.reads (canonString_eq_some.1 htext) h.canonical
  obtain ⟨fields, rfl, hhash, hl⟩ := draft_vectorBody.members laws.normal hsame
  have hpayload := hl "payload" (by decide)
  rw [vectorBody] at hpayload
  obtain ⟨payload, hp, hn⟩ := Option.map_eq_some_iff.1 hpayload
  exact ⟨_, hv, by rw [readEventHash, Json.get_object, hhash]; rfl, payload, hp, hn⟩

/-- It is valid, if it can be ingested. -/
theorem Built.valid_iff (laws : IssueLaws E norm) (h : r.Built E) :
    (verifyReceipt E (asBytes r.text)).status = .valid ↔ r.Ingested E := by
  obtain ⟨value, hseal, htext⟩ := h.sealed
  exact verifyReceipt_vectorBody laws hseal (canonString_eq_some.1 htext)

namespace Reads

variable {value : Json}

/-- A member of the payload is read as it was issued, up to normal form. -/
theorem lookup (laws : IssueLaws E norm) (hbuilt : r.Built E) (h : r.Reads E norm value)
    (key : String) :
    ((value.get "payload").bind (·.get key)).map norm = (r.fields.lookup key).map norm := by
  obtain ⟨payload, hp, hn⟩ := h.payload
  obtain ⟨fields, rfl, -, hl⟩ := laws.normal.members hbuilt.nodup hn
  rw [hp, Option.bind_some, Json.get_object, hl]

theorem string (laws : IssueLaws E norm) (hbuilt : r.Built E) (h : r.Reads E norm value)
    {key : String} {o : Option String} (hfields : r.fields.lookup key = o.map .string) :
    (value.get "payload").bind (·.get key) = o.map .string := by
  have hread := h.lookup laws hbuilt key
  rw [hfields] at hread
  cases o with
  | none => simpa using hread
  | some s =>
    obtain ⟨w, hw, hn⟩ := Option.map_eq_some_iff.1 hread
    rw [hw, laws.normal.string hn, Option.map_some]

theorem kind (laws : IssueLaws E norm) (hbuilt : r.Built E) (h : r.Reads E norm value) :
    readPayloadKind value = r.kind := by
  rw [readPayloadKind, h.string laws hbuilt (lookup_fields_kind hbuilt)]
  cases r.kind <;> rfl

/-- The support set is decoded as it was issued, if all its roles are known. -/
theorem supportSet (laws : IssueLaws E norm) (decodes : MemberLaws E norm roles)
    (hbuilt : r.Built E) (h : r.Reads E norm value) (ms : List SupportMember) :
    DecodesTo E (readSupportSet value) ms ↔
      (∀ m ∈ r.members, m.Known roles) ∧ ms = r.members.map Member.read := by
  have hread := h.lookup laws hbuilt "support_set"
  rw [lookup_fields_supportSet hbuilt] at hread
  unfold members
  cases hs : r.supportSet with
  | none =>
    rw [hs, Option.map_none, Option.map_none, Option.map_eq_none_iff] at hread
    rw [show readSupportSet value = none from hread]
    simp [DecodesTo]
  | some members =>
    rw [hs] at hread
    obtain ⟨v, hv, hn⟩ := Option.map_eq_some_iff.1 hread
    rw [show readSupportSet value = some v from hv]
    exact decodes.supportSet hn ms

end Reads

end PackReceipt

/-! ### Decoders

The laws hold of decoders that look members up by their keys. -/

section Decoders

variable (known : List String)

/-- A support member, read by its keys. -/
def readMember (v : Json) : Except String SupportMember := do
  match ← stringMember v "member_kind" with
  | "typed_receipt_dependency" =>
    let eventHash ← stringMember v "event_hash"
    let role ← stringMember v "role"
    let targetSchema ← stringMember v "target_schema"
    if role ∈ known then pure (.typedReceiptDependency eventHash ⟨.ok (.string role)⟩ targetSchema)
    else throw role
  | "depended_on_receipt" => pure (.dependedOnReceipt (← stringMember v "event_hash"))
  | "cited_link" => pure (.citedLink (← stringMember v "id") (← stringMember v "url"))
  | "evidence_digest" => pure (.evidenceDigest (← stringMember v "id") (← stringMember v "digest"))
  | "selector_value" => pure (.selectorValue (← stringMember v "key"))
  | kind => throw kind

/-- The elements of a support set, in order. -/
def readMembers : List Json → Except String (List SupportMember)
  | [] => .ok []
  | v :: vs => do
    let m ← readMember known v
    let ms ← readMembers vs
    pure (m :: ms)

/-- A support set, which is an array. -/
def readSupport : Json → Except String (List SupportMember)
  | .array elems => readMembers known elems
  | _ => .error "support_set"

/-- A decision to allow, read by its keys. -/
def readAllow (v : Json) : Except String DecisionReceiptPayload := do
  let verdict ← (v.get "verdict").elim (.error "verdict") .ok
  if (← stringMember verdict "kind") ≠ "allow" then throw "kind"
  let supportSet ← (v.get "support_set").elim (.error "support_set") .ok
  pure ⟨.allow, ← readSupport known supportSet⟩

/-- Third-party code with these decoders. -/
def withDecoders (E : Externals) : Externals :=
  { E with
    supportSetFromValue := readSupport known
    decisionPayloadFromValue := readAllow known }

variable {known} {v : Json} {members : List Member}

theorem readMember_eq_ok (normal : NormalForm E norm) {m : Member} (h : norm v = norm m.toValue)
    {ms : SupportMember} :
    readMember known v = .ok ms ↔ m.Known (· ∈ known) ∧ ms = m.read := by
  cases m with
  | typedReceiptDependency eventHash role targetSchema =>
    have hs := fun key s => normal.stringMember_eq_ok key (s := s) (by simp) h
    simp only [readMember, hs "member_kind" _ rfl, hs "event_hash" _ rfl, hs "role" _ rfl,
      hs "target_schema" _ rfl, Except.ok_bind]
    by_cases hr : role ∈ known <;> simp [hr, Member.Known, Member.read, eq_comm]
  | dependedOnReceipt eventHash =>
    have hs := fun key s => normal.stringMember_eq_ok key (s := s) (by simp) h
    simp [readMember, hs "member_kind" _ rfl, hs "event_hash" _ rfl, Member.Known, Member.read,
      eq_comm]
  | citedLink id url =>
    have hs := fun key s => normal.stringMember_eq_ok key (s := s) (by simp) h
    simp [readMember, hs "member_kind" _ rfl, hs "id" _ rfl, hs "url" _ rfl, Member.Known,
      Member.read, eq_comm]
  | evidenceDigest id digest =>
    have hs := fun key s => normal.stringMember_eq_ok key (s := s) (by simp) h
    simp [readMember, hs "member_kind" _ rfl, hs "id" _ rfl, hs "digest" _ rfl, Member.Known,
      Member.read, eq_comm]
  | selectorValue key value =>
    have hs := fun key s => normal.stringMember_eq_ok key (s := s) (by simp) h
    simp [readMember, hs "member_kind" _ rfl, hs "key" _ rfl, Member.Known, Member.read, eq_comm]

theorem readMembers_eq_ok (normal : NormalForm E norm) {elems : List Json}
    (h : elems.map norm = (members.map Member.toValue).map norm) {ms : List SupportMember} :
    readMembers known elems = .ok ms ↔
      (∀ m ∈ members, m.Known (· ∈ known)) ∧ ms = members.map Member.read := by
  induction members generalizing elems ms with
  | nil =>
    obtain rfl : elems = [] := by simpa using h
    simp [readMembers, eq_comm]
  | cons m members ih =>
    obtain ⟨elem, elems, rfl, helem, hrest⟩ := List.map_eq_cons_iff.1 h
    simp only [readMembers, Except.bind_eq_ok, readMember_eq_ok normal helem, ih hrest,
      Except.pure_eq_ok, Except.ok.injEq, List.forall_mem_cons, List.map_cons]
    constructor
    · rintro ⟨_, ⟨hm, rfl⟩, _, ⟨hms, rfl⟩, rfl⟩
      exact ⟨⟨hm, hms⟩, rfl⟩
    · rintro ⟨⟨hm, hms⟩, rfl⟩
      exact ⟨_, ⟨hm, rfl⟩, _, ⟨hms, rfl⟩, rfl⟩

theorem readSupport_eq_ok (normal : NormalForm E norm)
    (h : norm v = norm (.array (members.map Member.toValue))) {ms : List SupportMember} :
    readSupport known v = .ok ms ↔
      (∀ m ∈ members, m.Known (· ∈ known)) ∧ ms = members.map Member.read := by
  obtain ⟨elems, rfl, hmap⟩ := normal.array h
  exact readMembers_eq_ok normal hmap

theorem readAllow_eq_ok (normal : NormalForm E norm)
    (h : norm v = norm (.object (allowFields members))) {payload : DecisionReceiptPayload} :
    readAllow known v = .ok payload ↔
      (∀ m ∈ members, m.Known (· ∈ known)) ∧ payload = ⟨.allow, members.map Member.read⟩ := by
  obtain ⟨fields, rfl, -, hl⟩ := normal.members (by simp [allowFields]) h
  obtain ⟨verdict, hverdict, hv⟩ := Option.map_eq_some_iff.1 (hl "verdict")
  obtain ⟨supportSet, hsupport, hs⟩ := Option.map_eq_some_iff.1 (hl "support_set")
  have hkind : stringMember verdict "kind" = .ok "allow" :=
    normal.stringMember_eq_ok _ (by simp) hv rfl
  simp only [readAllow, Json.get_object, hverdict, hsupport, Option.elim_some, Except.ok_bind,
    hkind, ne_eq, not_true_eq_false, if_false, Except.pure_eq_ok, Except.bind_eq_ok,
    readSupport_eq_ok normal hs, Except.ok.injEq]
  constructor
  · rintro ⟨_, ⟨hm, rfl⟩, rfl⟩
    exact ⟨hm, rfl⟩
  · rintro ⟨hm, rfl⟩
    exact ⟨_, ⟨hm, rfl⟩, rfl⟩

/-- Whatever is read otherwise, these decoders decode. -/
theorem memberLaws_withDecoders (normal : NormalForm E norm) :
    MemberLaws (withDecoders known E) norm (· ∈ known) where
  supportSet h _ := readSupport_eq_ok normal h
  decision h _ := readAllow_eq_ok normal h

theorem issueLaws_withDecoders (laws : IssueLaws E norm) : IssueLaws (withDecoders known E) norm :=
  laws.congr (fun _ => rfl) (fun _ => rfl) (fun _ => rfl) (fun _ => rfl) (fun _ => rfl)
    fun _ _ _ => rfl

theorem issueLaws_withPacks (laws : IssueLaws E norm)
    {decisionPayloads : List (Json × DecisionReceiptPayload)} {decisionPacks : List DecisionPack}
    {layeredPacks : List LayeredPack} :
    IssueLaws (E.withPacks decisionPayloads decisionPacks layeredPacks) norm :=
  laws.congr (fun _ => rfl) (fun _ => rfl) (fun _ => rfl) (fun _ => rfl) (fun _ => rfl)
    fun _ _ _ => rfl

end Decoders

/-! ### The packs of the test vectors, as they were issued -/

/-- A receipt that the tables list is built, if it is the sorted envelope of its step. -/
theorem built_issuing {T : Tables} (envelope : ReceiptEnvelope)
    (hkeys : ("payload_kind" :: "support_set" :: r.others.map Prod.fst).Nodup)
    (hhash : r.eventHash = envelope.eventHash.toHex) (htext : r.text = envelope.toValue.text)
    (hbody : (Json.object r.body).sorted = envelope.body)
    (hsealed : (Json.object (withEventHash r.body r.eventHash)).sorted = envelope.toValue)
    (hmem : envelope.body ∈ T.values) (hmem' : envelope.toValue ∈ T.values)
    (hr : envelope.body.inRange = true) (hr' : envelope.toValue.inRange = true)
    (hd : (envelope.body, envelope.eventHash) ∈ T.digests) : r.Built (issuing T) where
  keys := hkeys
  sealed := by
    refine ⟨_, hhash ▸ sealEnvelope_issuing hbody hmem hr hd, ?_⟩
    rw [canonString_eq_some, htext]
    exact typedCanonBytes_issuing_of_sorted hsealed hmem' hr'
  canonical := by
    rw [htext, toCanonBytesFromSlice_issuing]
    exact Tables.toCanonBytesFromSlice_text hmem' hr'

section Decoding

variable {known : List String} {decisionPayloads : List (Json × DecisionReceiptPayload)}
  {decisionPacks : List DecisionPack} {layeredPacks : List LayeredPack}

theorem PackReceipt.Built.decoding (h : r.Built E) :
    r.Built (withDecoders known (E.withPacks decisionPayloads decisionPacks layeredPacks)) :=
  ⟨h.keys, h.sealed, h.canonical⟩

theorem typedCanonBytes_decoding (v : Json) :
    typedCanonBytes (withDecoders known (E.withPacks decisionPayloads decisionPacks layeredPacks))
      v = typedCanonBytes E v := rfl

theorem blake3_decoding (bytes : Bytes) :
    (withDecoders known (E.withPacks decisionPayloads decisionPacks layeredPacks)).blake3 bytes =
      E.blake3 bytes := rfl

theorem closureBundleFromSlice_decoding (rawBytes : Bytes) :
    (withDecoders known
      (E.withPacks decisionPayloads decisionPacks layeredPacks)).closureBundleFromSlice rawBytes =
      E.closureBundleFromSlice rawBytes := rfl

theorem closureBundleFromSlice_issuing {T : Tables} (rawBytes : Bytes) :
    (issuing T).closureBundleFromSlice rawBytes = T.externals.closureBundleFromSlice rawBytes := rfl

end Decoding

/-- The provider of the test vectors. -/
def providerIssue : PackReceipt where
  kind := some providerPayloadKind
  others := [("provider_id", .string "anthropic")]
  supportSet := some [.evidenceDigest "soc2" (DigestBytes.ofNat (2 ^ 256 - 1)).toHex]
  logicalTime := 1000
  eventHash := providerHash.toHex
  text := providerReceipt.toValue.text

/-- `build_layered_model`. -/
def layeredModelIssue (providerHash role targetSchema eventHash text : String) : PackReceipt where
  kind := some modelPayloadKind
  others := [("model_id", .string "claude-opus-4-8")]
  supportSet := some [.typedReceiptDependency providerHash role targetSchema]
  logicalTime := 1001
  eventHash := eventHash
  text := text

/-- The model of the test vectors. -/
def modelIssue : PackReceipt :=
  layeredModelIssue providerHash.toHex "maker" providerPayloadKind modelHash.toHex
    modelReceipt.toValue.text

/-- The third-party code on the receipts, their bodies and the bundle of the test vectors. -/
def packTables : Tables where
  envelopes := [(packReceipt.toValue, packReceipt), (modelReceipt.toValue, modelReceipt),
    (providerReceipt.toValue, providerReceipt)]
  others := [packReceipt.body, modelReceipt.body, providerReceipt.body, vectorManifestBody]
  digests := [(packReceipt.body, packReceipt.eventHash),
    (modelReceipt.body, modelReceipt.eventHash),
    (providerReceipt.body, providerReceipt.eventHash), (vectorManifestBody, vectorManifestDigest)]
  closureBundles := [vectorBundle]
  texts_nodup := by decide +kernel

theorem issueLaws_packTables : IssueLaws (issuing packTables) Json.sorted := by
  refine issueLaws_of_toValue ?_ ?_
  · simp only [Tables.values, packTables, List.map_cons, List.map_nil, List.cons_append,
      List.nil_append, List.mem_cons, List.not_mem_nil, or_false]
    rintro u (rfl | rfl | rfl | rfl | rfl | rfl | rfl) <;> decide +kernel
  · simp [packTables]

theorem built_providerIssue : providerIssue.Built (issuing packTables) :=
  built_issuing providerReceipt (by decide) rfl rfl (by decide +kernel)
    (by decide +kernel) (by simp [packTables, Tables.values]) (by simp [packTables, Tables.values])
    (by decide +kernel) (by decide +kernel) (by simp [packTables])

theorem built_modelIssue : modelIssue.Built (issuing packTables) :=
  built_issuing modelReceipt (by decide) rfl rfl (by decide +kernel)
    (by decide +kernel) (by simp [packTables, Tables.values]) (by simp [packTables, Tables.values])
    (by decide +kernel) (by decide +kernel) (by simp [packTables])

/-- The third-party code on the layered pack, with decoders that look members up. -/
def packExternals : Externals :=
  withDecoders ["host", "maker"] ((issuing packTables).withPacks [] [] [vectorLayeredPack])

theorem decisionPackFromSlice_withDecoders {known : List String} (rawBytes : Bytes) :
    (withDecoders known E).decisionPackFromSlice rawBytes = E.decisionPackFromSlice rawBytes := rfl

theorem layeredPackFromSlice_withDecoders {known : List String} (rawBytes : Bytes) :
    (withDecoders known E).layeredPackFromSlice rawBytes = E.layeredPackFromSlice rawBytes := rfl

theorem modelIssue_text : modelIssue.text = modelReceipt.toValue.text := rfl

theorem providerIssue_text : providerIssue.text = providerReceipt.toValue.text := rfl

theorem issueLaws_packExternals : IssueLaws packExternals Json.sorted :=
  issueLaws_withDecoders (issueLaws_withPacks issueLaws_packTables)

theorem memberLaws_packExternals :
    MemberLaws packExternals Json.sorted (· ∈ ["host", "maker"]) :=
  memberLaws_withDecoders (issueLaws_withPacks issueLaws_packTables).normal

end Issue

end VertRule
