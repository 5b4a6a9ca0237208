import VertRule.History

/-!
# What an event hash identifies

A receipt is admitted in canonical form, but its `event_hash` is recomputed over the typed
envelope.  So a valid `event_hash` identifies the envelope, and of the text everything the typed
envelope keeps: how `logical_time` and the enumerations are spelled, and whether an absent field is
written as `null`, stays open (`verifyReceipt_identifies`).
-/

namespace VertRule

namespace ReceiptEnvelope

variable (envelope : ReceiptEnvelope)

/-- The members every serialized envelope has, apart from `logical_time`. -/
def required : List (String × Json) :=
  [("context_digest", envelope.contextDigest.toValue),
    ("envelope_version", .number (.posInt envelope.envelopeVersion.value.toUInt64)),
    ("event_hash", envelope.eventHash.toValue), ("payload", envelope.payload),
    ("policy_digest", envelope.policyDigest.toValue),
    ("receipt_type", .string envelope.receiptType.label),
    ("schema_digest", envelope.schemaDigest.toValue)]

/-- The members an envelope may have. -/
def optional : List (String × Option Json) :=
  [("boundary_origin", envelope.boundaryOrigin.map fun b => .string b.label),
    ("canonicalization", envelope.canonicalization.map .string),
    ("digest_algorithm", envelope.digestAlgorithm.map .string),
    ("event_hash_profile", envelope.eventHashProfile.map fun p => .string p.label),
    ("parent_id", envelope.parentId.map DigestBytes.toValue)]

/-- `v` spells the envelope: each field has one spelling, except that `logical_time` is left
open, and an absent field may be `null`. -/
structure SpelledBy (v : Json) : Prop where
  required : ∀ f ∈ envelope.required, v.get f.1 = some f.2
  optional : ∀ f ∈ envelope.optional, v.get f.1 = f.2 ∨ (f.2 = none ∧ v.get f.1 = some .null)

end ReceiptEnvelope

/-- The members that spell enumerations. -/
def enumerationFields : List String := ["receipt_type", "boundary_origin", "event_hash_profile"]

namespace Json

/-- A member that is missing, or `null`. -/
def Absent (v : Json) (key : String) : Prop := v.get key = none ∨ v.get key = some .null

/-- A member that spells a label: the string, or the object of which it is the only key. -/
def SpellsLabel (v : Json) (key label : String) : Prop :=
  v.get key = some (.string label) ∨ v.get key = some (.object [(label, .null)])

/-- A member is decoded to what is serialized as `o`: it is `o`, or an enumeration that spells the
label in `o`. -/
def ReadsAs (v : Json) (key : String) (o : Option Json) : Prop :=
  v.get key = o ∨ key ∈ enumerationFields ∧ ∃ label, o = some (.string label) ∧
    v.get key = some (.object [(label, .null)])

end Json

/-- `v` is a value that the envelope is decoded from. -/
structure ReceiptEnvelope.DecodedFrom (envelope : ReceiptEnvelope) (v : Json) : Prop where
  required : ∀ f ∈ envelope.required, v.ReadsAs f.1 (some f.2)
  optional : ∀ f ∈ envelope.optional, v.ReadsAs f.1 f.2 ∨ (f.2 = none ∧ v.get f.1 = some .null)

variable (E : Externals)

/-- What is used of the deserializer and the canonicalizer. -/
structure DecodingLaws : Prop where
  /-- An object with the members of an envelope deserializes to what it spells. -/
  decoded : ∀ v envelope, validateEnvelopeSchema v = .ok () → E.envelopeFromValue v = .ok envelope →
    envelope.DecodedFrom v
  /-- A canonical text depends on the members of the parsed object only. -/
  canonical : ∀ rawBytes rawBytes' fields fields', E.fromSlice rawBytes = .ok (.object fields) →
    E.fromSlice rawBytes' = .ok (.object fields') → E.toCanonBytesFromSlice rawBytes = .ok rawBytes →
    E.toCanonBytesFromSlice rawBytes' = .ok rawBytes' →
    (∀ key, fields.lookup key = fields'.lookup key) → rawBytes = rawBytes'

/-- Two values agree on a member, up to an optional one that both leave out and an enumeration of
which both spell one label. -/
def SameMember (v₁ v₂ : Json) (key : String) : Prop :=
  v₁.get key = v₂.get key ∨ (key ∈ optionalEnvelopeFields ∧ v₁.Absent key ∧ v₂.Absent key) ∨
    (key ∈ enumerationFields ∧ ∃ label, v₁.SpellsLabel key label ∧ v₂.SpellsLabel key label)

variable {E}

theorem Json.ReadsAs.get {v : Json} {key : String} {o : Option Json} (h : v.ReadsAs key o)
    (hkey : key ∉ enumerationFields) : v.get key = o :=
  h.resolve_right fun h => hkey h.1

namespace ReceiptEnvelope

variable {envelope : ReceiptEnvelope} {v : Json}

/-- A spelling of an envelope is one that it is decoded from. -/
theorem SpelledBy.decodedFrom (h : envelope.SpelledBy v) : envelope.DecodedFrom v where
  required f hf := .inl (h.required f hf)
  optional f hf := (h.optional f hf).imp_left .inl

theorem DecodedFrom.get_required (h : envelope.DecodedFrom v) {f : String × Json}
    (hf : f ∈ envelope.required) (hkey : f.1 ∉ enumerationFields) : v.get f.1 = some f.2 :=
  (h.required f hf).get hkey

theorem DecodedFrom.get_optional (h : envelope.DecodedFrom v) {f : String × Option Json}
    (hf : f ∈ envelope.optional) (hkey : f.1 ∉ enumerationFields) :
    v.get f.1 = f.2 ∨ (f.2 = none ∧ v.get f.1 = some .null) :=
  (h.optional f hf).imp_left fun h => h.get hkey

theorem DecodedFrom.get_eventHash (h : envelope.DecodedFrom v) :
    v.get "event_hash" = some envelope.eventHash.toValue :=
  (h.required ("event_hash", envelope.eventHash.toValue)
    (by simp [ReceiptEnvelope.required])).get (show "event_hash" ∉ enumerationFields by decide)

/-- The hash that is declared where an envelope is decoded from is that of the envelope. -/
theorem DecodedFrom.toHex_eventHash {hash : String} (h : envelope.DecodedFrom v)
    (hh : readEventHash v = some hash) : envelope.eventHash.toHex = hash := by
  rw [readEventHash, h.get_eventHash] at hh
  exact Option.some.inj hh

end ReceiptEnvelope

/-- A value that passes the schema profile is an object with known members only. -/
theorem known_of_validateEnvelopeSchema {v : Json} (h : validateEnvelopeSchema v = .ok ()) :
    ∃ fields, v = .object fields ∧ ∀ f ∈ fields, isKnownField f.1 = true := by
  unfold validateEnvelopeSchema at h
  cases hobj : v.asObject with
  | none => simp [hobj] at h
  | some fields =>
    refine ⟨fields, Json.asObject_eq_some.1 hobj, fun f hf => ?_⟩
    cases hfind : fields.find? fun f => !isKnownField f.1 with
    | none => simpa using List.find?_eq_none.1 hfind f hf
    | some g => simp [hobj, hfind] at h

/-- Members that are decoded alike are the same, or spell one label. -/
theorem sameMember_of_readsAs {v₁ v₂ : Json} {key : String} {o : Option Json}
    (h₁ : v₁.ReadsAs key o) (h₂ : v₂.ReadsAs key o) : SameMember v₁ v₂ key := by
  rcases h₁ with h₁ | ⟨hkey, label, rfl, h₁⟩
  · rcases h₂ with h₂ | ⟨hkey, label, rfl, h₂⟩
    · exact .inl (h₁.trans h₂.symm)
    · exact .inr (.inr ⟨hkey, label, .inl h₁, .inr h₂⟩)
  · rcases h₂ with h₂ | ⟨-, label', hlabel, h₂⟩
    · exact .inr (.inr ⟨hkey, label, .inr h₁, .inl h₂⟩)
    · obtain rfl := Json.string.inj (Option.some.inj hlabel)
      exact .inl (h₁.trans h₂.symm)

/-- Two values that one envelope is decoded from agree on every member but `logical_time`. -/
theorem sameMember_of_decodedFrom {envelope : ReceiptEnvelope} {v₁ v₂ : Json}
    (hs₁ : validateEnvelopeSchema v₁ = .ok ()) (hs₂ : validateEnvelopeSchema v₂ = .ok ())
    (h₁ : envelope.DecodedFrom v₁) (h₂ : envelope.DecodedFrom v₂) {key : String}
    (hkey : key ≠ "logical_time") : SameMember v₁ v₂ key := by
  have hunknown : ∀ {v}, validateEnvelopeSchema v = .ok () → isKnownField key = false →
      v.get key = none := by
    intro v hv hk
    obtain ⟨fields, rfl, hknown⟩ := known_of_validateEnvelopeSchema hv
    cases hl : fields.lookup key with
    | none => exact hl
    | some w => exact absurd (hknown _ (mem_of_lookup_eq_some hl)) (by simp [hk])
  by_cases hk : isKnownField key = true
  swap
  · rw [Bool.not_eq_true] at hk
    exact .inl (by rw [hunknown hs₁ hk, hunknown hs₂ hk])
  have hcases : (∃ f ∈ envelope.required, f.1 = key) ∨
      key ∈ optionalEnvelopeFields ∧ ∃ f ∈ envelope.optional, f.1 = key := by
    simp only [isKnownField, requiredEnvelopeFields, optionalEnvelopeFields, Bool.or_eq_true,
      List.contains_iff_mem, List.mem_cons, List.not_mem_nil, or_false] at hk
    simp only [ReceiptEnvelope.required, ReceiptEnvelope.optional, optionalEnvelopeFields,
      List.mem_cons, List.not_mem_nil, or_false, exists_eq_or_imp, exists_eq_left]
    grind
  rcases hcases with ⟨f, hf, rfl⟩ | ⟨hopt, f, hf, rfl⟩
  · exact sameMember_of_readsAs (h₁.required f hf) (h₂.required f hf)
  · have habsent : ∀ {v : Json}, f.2 = none → v.ReadsAs f.1 f.2 → v.Absent f.1 := by
      rintro v hn (hg | ⟨-, label, hlabel, -⟩)
      · exact .inl (hg.trans hn)
      · cases hn.symm.trans hlabel
    rcases h₁.optional f hf with hr₁ | ⟨hn, hg₁⟩ <;> rcases h₂.optional f hf with hr₂ | ⟨hn', hg₂⟩
    · exact sameMember_of_readsAs hr₁ hr₂
    · exact .inr (.inl ⟨hopt, habsent hn' hr₁, .inr hg₂⟩)
    · exact .inr (.inl ⟨hopt, .inr hg₁, habsent hn hr₂⟩)
    · exact .inl (hg₁.trans hg₂.symm)

/-- Canonical objects that agree on `logical_time`, on the enumerations and on what is `null` have
one text. -/
theorem eq_of_sameMember (hlaws : DecodingLaws E) {rawBytes₁ rawBytes₂ : Bytes}
    {fields₁ fields₂ : List (String × Json)}
    (hj₁ : E.fromSlice rawBytes₁ = .ok (.object fields₁))
    (hj₂ : E.fromSlice rawBytes₂ = .ok (.object fields₂))
    (hc₁ : E.toCanonBytesFromSlice rawBytes₁ = .ok rawBytes₁)
    (hc₂ : E.toCanonBytesFromSlice rawBytes₂ = .ok rawBytes₂)
    (hsame : ∀ key, key ≠ "logical_time" →
      SameMember (.object fields₁) (.object fields₂) key)
    (htime : fields₁.lookup "logical_time" = fields₂.lookup "logical_time")
    (hlabel : ∀ key ∈ enumerationFields, fields₁.lookup key = fields₂.lookup key)
    (hnull : ∀ key, fields₁.lookup key = some .null ↔ fields₂.lookup key = some .null) :
    rawBytes₁ = rawBytes₂ := by
  refine hlaws.canonical _ _ _ _ hj₁ hj₂ hc₁ hc₂ fun key => ?_
  by_cases hkey : key = "logical_time"
  · rw [hkey, htime]
  rcases hsame key hkey with h | ⟨-, h₁ | h₁, h₂ | h₂⟩ | ⟨henum, -⟩
  · exact h
  · exact h₁.trans h₂.symm
  · exact absurd ((hnull key).2 h₂) (by rw [show fields₁.lookup key = none from h₁]; simp)
  · exact absurd ((hnull key).1 h₁) (by rw [show fields₂.lookup key = none from h₂]; simp)
  · exact h₁.trans h₂.symm
  · exact hlabel key henum

/-- **A valid event hash identifies the receipt up to spelling**: two valid receipts that declare
the same hash have the same envelope, agree on every member but `logical_time`, up to members that
are `null` and to the spelling of enumerations, and are the same bytes exactly when they also agree
on these. -/
theorem verifyReceipt_identifies (hlaws : DecodingLaws E) {rawBytes₁ rawBytes₂ : Bytes}
    {v₁ v₂ : Json} {e₁ e₂ : ReceiptEnvelope} {hash : String}
    (hv₁ : (verifyReceipt E rawBytes₁).status = .valid)
    (hv₂ : (verifyReceipt E rawBytes₂).status = .valid)
    (hj₁ : E.fromSlice rawBytes₁ = .ok v₁) (hj₂ : E.fromSlice rawBytes₂ = .ok v₂)
    (hi₁ : ingestEnvelope E rawBytes₁ = .ok e₁) (hi₂ : ingestEnvelope E rawBytes₂ = .ok e₂)
    (hh₁ : readEventHash v₁ = some hash) (hh₂ : readEventHash v₂ = some hash)
    (hcf : CollisionFree E [e₁] [e₂]) :
    e₁ = e₂ ∧ (∀ key, key ≠ "logical_time" → SameMember v₁ v₂ key) ∧
      (rawBytes₁ = rawBytes₂ ↔ v₁.get "logical_time" = v₂.get "logical_time" ∧
        (∀ key ∈ enumerationFields, v₁.get key = v₂.get key) ∧
        ∀ key, v₁.get key = some .null ↔ v₂.get key = some .null) := by
  have hingested : ∀ {rawBytes v e}, E.fromSlice rawBytes = .ok v →
      ingestEnvelope E rawBytes = .ok e → readEventHash v = some hash →
      E.toCanonBytesFromSlice rawBytes = .ok rawBytes ∧ validateEnvelopeSchema v = .ok () ∧
        e.DecodedFrom v ∧ e.eventHash.toHex = hash := by
    intro rawBytes v e hj hi hh
    obtain ⟨-, hc, v', hj', -, hs, -, he⟩ := ingestEnvelopeWithLimits_eq_ok.1 hi
    obtain rfl := Except.ok.inj (hj.symm.trans hj')
    have hdecoded := hlaws.decoded _ _ hs he
    exact ⟨hc, hs, hdecoded, hdecoded.toHex_eventHash hh⟩
  have hverifies : ∀ {rawBytes e}, (verifyReceipt E rawBytes).status = .valid →
      ingestEnvelope E rawBytes = .ok e → e.Verifies E := by
    intro rawBytes e hv hi
    obtain ⟨e', hi', hver⟩ := verifyReceipt_valid_iff.1 hv
    exact Except.ok.inj (hi'.symm.trans hi) ▸ hver
  obtain ⟨hc₁, hs₁, hdecoded₁, hhex₁⟩ := hingested hj₁ hi₁ hh₁
  obtain ⟨hc₂, hs₂, hdecoded₂, hhex₂⟩ := hingested hj₂ hi₂ hh₂
  obtain rfl : e₁ = e₂ :=
    hcf.eq (List.mem_singleton_self _) (List.mem_singleton_self _) (hverifies hv₁ hi₁)
      (hverifies hv₂ hi₂) (DigestBytes.toHex_injective (hhex₁.trans hhex₂.symm))
  have hsame : ∀ key, key ≠ "logical_time" → SameMember v₁ v₂ key := fun key =>
    sameMember_of_decodedFrom hs₁ hs₂ hdecoded₁ hdecoded₂
  refine ⟨rfl, hsame, ?_, ?_⟩
  · rintro rfl
    obtain rfl := Except.ok.inj (hj₁.symm.trans hj₂)
    exact ⟨rfl, fun _ _ => rfl, fun _ => Iff.rfl⟩
  · rintro ⟨htime, hlabel, hnull⟩
    obtain ⟨fields₁, rfl, -⟩ := known_of_validateEnvelopeSchema hs₁
    obtain ⟨fields₂, rfl, -⟩ := known_of_validateEnvelopeSchema hs₂
    exact eq_of_sameMember hlaws hj₁ hj₂ hc₁ hc₂ hsame htime hlabel hnull

/-! ### Two texts of one envelope -/

/-- The first receipt, with its `logical_time` spelled as an integer. -/
def integerTimeValue : Json :=
  .object (firstReceipt.fields.map fun f =>
    if f.1 = "logical_time" then (f.1, .ofU64 firstReceipt.logicalTime) else f)

/-- The receipt, under both of its texts. -/
def twoTextTables : Tables where
  envelopes := [(firstReceipt.toValue, firstReceipt), (integerTimeValue, firstReceipt)]
  digests := [(firstReceipt.body, firstReceipt.eventHash)]
  texts_nodup := by decide +kernel

theorem decodingLaws_twoTextTables : DecodingLaws twoTextTables.externals where
  decoded v envelope _ h := by
    have hspelled : firstReceipt.SpelledBy firstReceipt.toValue ∧
        firstReceipt.SpelledBy integerTimeValue := by
      refine ⟨⟨?_, ?_⟩, ⟨?_, ?_⟩⟩ <;>
        simp only [ReceiptEnvelope.required, ReceiptEnvelope.optional, List.mem_cons,
          List.not_mem_nil, or_false] <;>
        rintro f (rfl | rfl | rfl | rfl | rfl | rfl | rfl) <;>
        first | rfl | exact .inl rfl
    have hmem := Tables.mem_of_envelopeFromValue h
    simp only [twoTextTables, List.mem_cons, Prod.mk.injEq, List.not_mem_nil, or_false] at hmem
    rcases hmem with ⟨rfl, rfl⟩ | ⟨rfl, rfl⟩
    · exact hspelled.1.decodedFrom
    · exact hspelled.2.decodedFrom
  canonical rawBytes rawBytes' fields fields' hj hj' hc hc' hl := by
    have hlisted : ∀ {rawBytes v}, twoTextTables.externals.fromSlice rawBytes = .ok v →
        v = firstReceipt.toValue ∨ v = integerTimeValue := by
      intro rawBytes v hj
      have hmem := (Tables.read_eq_some (Tables.read_of_fromSlice hj)).1
      simpa [twoTextTables, Tables.values] using hmem
    have htime := hl "logical_time"
    -- the two texts differ in their logical time, so these are two readings of one
    have hsame : Json.object fields = Json.object fields' := by
      rcases hlisted hj with h | h <;> rcases hlisted hj' with h' | h'
      · exact h.trans h'.symm
      · obtain rfl := Json.object.inj h
        obtain rfl := Json.object.inj h'
        exact absurd htime (by decide +kernel)
      · obtain rfl := Json.object.inj h
        obtain rfl := Json.object.inj h'
        exact absurd htime (by decide +kernel)
      · exact h.trans h'.symm
    rw [hsame] at hj
    exact Tables.canonical_unique hj hj' hc hc'

theorem ingestEnvelope_firstReceipt :
    ingestEnvelope twoTextTables.externals (asBytes firstReceipt.toValue.text) =
      .ok firstReceipt :=
  Tables.ingestEnvelope_text (by simp [twoTextTables])
    (Tables.admissible_of_checks (by decide +kernel))

theorem ingestEnvelope_integerTimeValue :
    ingestEnvelope twoTextTables.externals (asBytes integerTimeValue.text) = .ok firstReceipt :=
  Tables.ingestEnvelope_text (by simp [twoTextTables])
    (Tables.admissible_of_checks (by decide +kernel))

theorem firstReceipt_verifies_twoTextTables : firstReceipt.Verifies twoTextTables.externals :=
  Tables.verifies rfl rfl rfl (by simp [twoTextTables])

theorem verifyReceipt_twoTexts :
    (verifyReceipt twoTextTables.externals (asBytes firstReceipt.toValue.text)).status = .valid ∧
      (verifyReceipt twoTextTables.externals (asBytes integerTimeValue.text)).status = .valid :=
  ⟨verifyReceipt_valid_iff.2 ⟨_, ingestEnvelope_firstReceipt, firstReceipt_verifies_twoTextTables⟩,
    verifyReceipt_valid_iff.2
      ⟨_, ingestEnvelope_integerTimeValue, firstReceipt_verifies_twoTextTables⟩⟩

theorem fromSlice_twoTexts :
    twoTextTables.externals.fromSlice (asBytes firstReceipt.toValue.text) =
        .ok firstReceipt.toValue ∧
      twoTextTables.externals.fromSlice (asBytes integerTimeValue.text) = .ok integerTimeValue :=
  ⟨Tables.fromStr_text (by simp [twoTextTables, Tables.values]),
    Tables.fromStr_text (by simp [twoTextTables, Tables.values])⟩

/-- The two texts of the first receipt agree up to the spelling of `logical_time`. -/
theorem verifyReceipt_identifies_firstReceipt :
    firstReceipt = firstReceipt ∧
      (∀ key, key ≠ "logical_time" → SameMember firstReceipt.toValue integerTimeValue key) ∧
      (asBytes firstReceipt.toValue.text = asBytes integerTimeValue.text ↔
        firstReceipt.toValue.get "logical_time" = integerTimeValue.get "logical_time" ∧
        (∀ key ∈ enumerationFields, firstReceipt.toValue.get key = integerTimeValue.get key) ∧
        ∀ key, firstReceipt.toValue.get key = some .null ↔
          integerTimeValue.get key = some .null) := by
  refine verifyReceipt_identifies decodingLaws_twoTextTables verifyReceipt_twoTexts.1
    verifyReceipt_twoTexts.2 fromSlice_twoTexts.1 fromSlice_twoTexts.2
    ingestEnvelope_firstReceipt ingestEnvelope_integerTimeValue
    (show readEventHash firstReceipt.toValue = some firstReceipt.eventHash.toHex from rfl) rfl ?_
  intro e₁ he₁ e₂ he₂ _ _ _
  rw [List.mem_singleton.1 he₁, List.mem_singleton.1 he₂]
  rfl

/-- Receipts that are valid and declare the same event hash are the same bytes. -/
def IdentifiesBytes (E : Externals) : Prop :=
  ∀ rawBytes₁ rawBytes₂ v₁ v₂ hash, (verifyReceipt E rawBytes₁).status = .valid →
    (verifyReceipt E rawBytes₂).status = .valid → E.fromSlice rawBytes₁ = .ok v₁ →
    E.fromSlice rawBytes₂ = .ok v₂ → readEventHash v₁ = some hash →
    readEventHash v₂ = some hash → rawBytes₁ = rawBytes₂

/-- They are not, for the two texts of the first receipt. -/
theorem not_identifiesBytes_twoTextTables : ¬ IdentifiesBytes twoTextTables.externals := by
  intro h
  have hbytes := h _ _ _ _ firstReceipt.eventHash.toHex verifyReceipt_twoTexts.1
    verifyReceipt_twoTexts.2 fromSlice_twoTexts.1 fromSlice_twoTexts.2 rfl rfl
  have hn := twoTextTables.texts_nodup
  simp only [twoTextTables, List.map_cons, List.map_nil, List.nodup_cons, List.cons_append,
    List.nil_append, List.mem_singleton] at hn
  exact hn.1 (Json.asBytes_text_inj.1 hbytes)

end VertRule
