import VertRule.Identity
import VertRule.Projection

/-!
# Two verifiers of one receipt

`verify_receipt` and `verify_external_receipt` judge the same envelope.  Both ask for version 1 and
the recomputed `event_hash`; the one then asks for the algorithm markers of the version, the other
for the constitutional digest law and the canonical decode step.  They disagree on a receipt only
where these differ (`verifiers_agree_iff`).  A projection that the second verifier accepts is tied
to one receipt, in whatever bytes that comes (`projection_pins_source`).
-/

namespace VertRule

namespace Rbh

variable (E : Externals)

/-- What both verifiers ask of an envelope. -/
structure SharedLaw (envelope : ReceiptEnvelope) : Prop where
  version : envelope.envelopeVersion = SchemaVersion.V1
  eventHash : E.computeEventHash envelope = .ok envelope.eventHash

/-- What only the external verifier asks: that the constitutional law applies, and that a decode
step has the canonical schema. -/
structure ExternalOnly (envelope : ReceiptEnvelope) : Prop where
  profile : envelope.eventHashProfile = some .constitutionalEnvelopeV1 ∨
    (envelope.eventHashProfile = none ∧ envelope.receiptType ≠ .event)
  decodeStep : ∀ schema, envelope.payload.get "schema" = some (.string schema) →
    decodeStepSchemaPrefix.toList <+: schema.toList → schema = canonicalDecodeStepSchema

/-- Both verifiers read the envelope in the bytes. -/
structure ReadAlike (rawBytes : Bytes) (envelope : ReceiptEnvelope) : Prop where
  ingested : ingestEnvelope E rawBytes = .ok envelope
  parsed : E.envelopeFromSlice rawBytes = .ok envelope

/-- The source is an object that states its `event_hash` as a string.  The decoder of envelopes also
reads arrays, which have no members. -/
def StatesHash (rawBytes : Bytes) : Prop :=
  ∀ value, E.fromSlice rawBytes = .ok value → IsString (value.get "event_hash")

/-- What is used of the decoder of envelopes: one string as `event_hash` is always read as one
digest. -/
def EventHashLaws : Prop :=
  ∀ {bytes₁ bytes₂ envelope₁ envelope₂ value₁ value₂ hash},
    E.envelopeFromSlice bytes₁ = .ok envelope₁ → E.envelopeFromSlice bytes₂ = .ok envelope₂ →
    E.fromSlice bytes₁ = .ok value₁ → E.fromSlice bytes₂ = .ok value₂ →
    value₁.get "event_hash" = some (.string hash) → value₂.get "event_hash" = some (.string hash) →
    envelope₁.eventHash = envelope₂.eventHash

variable {E} {envelope envelope₁ envelope₂ : ReceiptEnvelope}
  {rawBytes projectionBytes bytes₁ bytes₂ : Bytes} {m m₁ m₂ : VerifiedReceiptMetadata}

theorem constitutionalLaw_iff_shared :
    ConstitutionalLaw E envelope ↔ SharedLaw E envelope ∧ ExternalOnly envelope :=
  ⟨fun h => ⟨⟨h.version, h.eventHash⟩, h.profile, h.decodeStep⟩,
    fun ⟨h, ho⟩ => ⟨h.version, ho.profile, h.eventHash, ho.decodeStep⟩⟩

theorem verifies_iff_shared :
    envelope.Verifies E ↔ SharedLaw E envelope ∧ envelope.MarkersMatch E := by
  constructor
  · intro h
    exact ⟨⟨verifyEnvelopeVersion_eq_ok.1 h.version, VertRule.verifyEventHash_eq_ok.1 h.eventHash⟩,
      verifyAlgorithms_eq_ok.1 h.algorithms⟩
  · rintro ⟨h, hm⟩
    exact ⟨verifyEnvelopeVersion_eq_ok.2 h.version, verifyAlgorithms_eq_ok.2 hm,
      VertRule.verifyEventHash_eq_ok.2 h.eventHash⟩

/-- **Where the two verifiers agree**: on a receipt that both read, they give the same verdict
unless exactly one of the markers and the digest law with the decode step is as it should be. -/
theorem verifiers_agree_iff (h : ReadAlike E rawBytes envelope) :
    ((verifyReceipt E rawBytes).status = .valid ↔
        ∃ m, verifyExternalReceipt E rawBytes = .ok m) ↔
      (SharedLaw E envelope → (envelope.MarkersMatch E ↔ ExternalOnly envelope)) := by
  have hreceipt : (verifyReceipt E rawBytes).status = .valid ↔
      SharedLaw E envelope ∧ envelope.MarkersMatch E := by
    rw [verifyReceipt_valid_iff, ← verifies_iff_shared, h.ingested]
    simp
  have hexternal : (∃ m, verifyExternalReceipt E rawBytes = .ok m) ↔
      SharedLaw E envelope ∧ ExternalOnly envelope := by
    simp only [verifyExternalReceipt_eq_ok_iff_law, ← constitutionalLaw_iff_shared, h.parsed]
    simp
  rw [hreceipt, hexternal, and_congr_right_iff]

/-! ### The source of a projection -/

/-- An accepted projection returns what the external verifier read of its source. -/
theorem verifyProjectionSource_eq_ok
    (h : verifyProjectionSource E projectionBytes rawBytes = .ok m) :
    verifyExternalReceipt E rawBytes = .ok m ∧
      ∃ projection envelope, E.fromSlice projectionBytes = .ok projection ∧
        E.fromSlice rawBytes = .ok envelope ∧ ProjectionLaw E rawBytes projection envelope := by
  refine ⟨?_, verifyProjectionSource_isOk_iff.1 ⟨m, h⟩⟩
  simp only [verifyProjectionSource, Except.bind_eq_ok] at h
  obtain ⟨m', hm, -, -, -, -, -, -, -, -, -, -, -, -, heq⟩ := h
  rwa [Except.ok.inj heq] at hm

/-- **A projection pins its source**: whatever bytes it is accepted against, if they state an
`event_hash`, hold one receipt, and the same metadata is returned for all of them. -/
theorem projection_pins_source (laws : EventHashLaws E) (hstates₁ : StatesHash E bytes₁)
    (hstates₂ : StatesHash E bytes₂)
    (h₁ : verifyProjectionSource E projectionBytes bytes₁ = .ok m₁)
    (h₂ : verifyProjectionSource E projectionBytes bytes₂ = .ok m₂)
    (hparsed₁ : E.envelopeFromSlice bytes₁ = .ok envelope₁)
    (hparsed₂ : E.envelopeFromSlice bytes₂ = .ok envelope₂)
    (hcf : CollisionFree E [envelope₁] [envelope₂]) : envelope₁ = envelope₂ ∧ m₁ = m₂ := by
  obtain ⟨hm₁, projection, value₁, hp, hv₁, hlaw₁⟩ := verifyProjectionSource_eq_ok h₁
  obtain ⟨hm₂, projection', value₂, hp', hv₂, hlaw₂⟩ := verifyProjectionSource_eq_ok h₂
  obtain rfl := Except.ok.inj (hp.symm.trans hp')
  obtain ⟨typed₁, ht₁, hc₁, rfl⟩ := verifyExternalReceipt_eq_ok_iff_law.1 hm₁
  obtain ⟨typed₂, ht₂, hc₂, rfl⟩ := verifyExternalReceipt_eq_ok_iff_law.1 hm₂
  obtain rfl := Except.ok.inj (ht₁.symm.trans hparsed₁)
  obtain rfl := Except.ok.inj (ht₂.symm.trans hparsed₂)
  -- the projection has one `source_event_hash`, so the two sources read the same
  have hsame : strOrDefault (value₁.get "event_hash") = strOrDefault (value₂.get "event_hash") := by
    rw [← hlaw₁.agrees ("source_event_hash", value₁.get "event_hash") (by simp [sourceBindings]),
      hlaw₂.agrees ("source_event_hash", value₂.get "event_hash") (by simp [sourceBindings])]
  obtain ⟨hash₁, hs₁⟩ := hstates₁ value₁ hv₁
  obtain ⟨hash₂, hs₂⟩ := hstates₂ value₂ hv₂
  rw [hs₁, hs₂, strOrDefault_string, strOrDefault_string] at hsame
  have hhash : typed₁.eventHash = typed₂.eventHash :=
    laws ht₁ ht₂ hv₁ hv₂ hs₁ (hsame ▸ hs₂)
  have hcommit := hcf typed₁ (by simp) typed₂ (by simp) _ hc₁.eventHash (hhash ▸ hc₂.eventHash)
  obtain rfl := hcommit.eq hhash
  exact ⟨rfl, rfl⟩

/-! ### A receipt in two spellings -/

/-- Both verifiers accept the first receipt. -/
theorem agree_firstReceipt :
    (verifyReceipt twoTextTables.externals (asBytes firstReceipt.toValue.text)).status = .valid ↔
      ∃ m, verifyExternalReceipt twoTextTables.externals (asBytes firstReceipt.toValue.text) =
        .ok m := by
  have hread : ReadAlike twoTextTables.externals (asBytes firstReceipt.toValue.text)
      firstReceipt :=
    ⟨ingestEnvelope_firstReceipt, Tables.envelopeFromSlice_text (by simp [twoTextTables])⟩
  have hmarkers := (verifies_iff_shared.1 firstReceipt_verifies_twoTextTables).2
  have honly : ExternalOnly firstReceipt := ⟨.inr ⟨rfl, by decide⟩, fun schema hs => by cases hs⟩
  exact (verifiers_agree_iff hread).2 fun _ => iff_of_true hmarkers honly

/-- The first receipt under both of its texts, and a projection of it. -/
def projectedTables : Tables where
  envelopes := [(firstReceipt.toValue, firstReceipt), (integerTimeValue, firstReceipt)]
  others := [unversionedProjection]
  digests := [(firstReceipt.body, firstReceipt.eventHash)]
  texts_nodup := by decide +kernel
  digests_nodup := firstReceipt_digest_nodup

theorem mem_of_envelopeFromSlice {T : Tables} {bytes : Bytes} {envelope : ReceiptEnvelope}
    (h : T.externals.envelopeFromSlice bytes = .ok envelope) :
    ∃ v, T.externals.fromSlice bytes = .ok v ∧ (v, envelope) ∈ T.envelopes := by
  cases hr : T.read bytes with
  | none => simp [Tables.externals, hr] at h
  | some v =>
    have hvalue : T.externals.envelopeFromValue v = .ok envelope := by
      simpa [Tables.externals, hr] using h
    exact ⟨v, by simp [Tables.externals, hr], Tables.mem_of_envelopeFromValue hvalue⟩

theorem eventHashLaws_projectedTables : EventHashLaws projectedTables.externals := by
  have hlisted : ∀ {bytes envelope},
      projectedTables.externals.envelopeFromSlice bytes = .ok envelope →
      envelope = firstReceipt := by
    intro bytes envelope h
    obtain ⟨v, -, hmem⟩ := mem_of_envelopeFromSlice h
    simp only [projectedTables, List.mem_cons, Prod.mk.injEq, List.not_mem_nil, or_false] at hmem
    rcases hmem with ⟨-, rfl⟩ | ⟨-, rfl⟩
    · rfl
    · rfl
  intro _ _ _ _ _ _ _ h₁ h₂ _ _ _ _
  rw [hlisted h₁, hlisted h₂]

/-- A listed text of the first receipt states its hash. -/
theorem statesHash_listed {value : Json} (h : (value, firstReceipt) ∈ projectedTables.envelopes)
    (hhash : IsString (value.get "event_hash")) :
    StatesHash projectedTables.externals (asBytes value.text) := by
  intro v hv
  have hread : projectedTables.externals.fromStr value.text = .ok value :=
    Tables.fromStr_text (Tables.mem_values h)
  obtain rfl := Except.ok.inj (hread.symm.trans hv)
  exact hhash

theorem constitutionalLaw_firstReceipt :
    ConstitutionalLaw projectedTables.externals firstReceipt where
  version := rfl
  profile := .inr ⟨rfl, by decide⟩
  eventHash := Tables.computeEventHash_listed (List.mem_singleton_self _)
  decodeStep _ hs := by cases hs

/-- The projection is accepted against any text of the first receipt that reads as it does. -/
theorem verifyProjectionSource_listed {value : Json}
    (h : (value, firstReceipt) ∈ projectedTables.envelopes)
    (hagrees : ∀ b ∈ sourceBindings value,
      strOrDefault (unversionedProjection.get b.1) = strOrDefault b.2) :
    verifyProjectionSource projectedTables.externals (asBytes unversionedProjection.text)
      (asBytes value.text) = .ok (metadata projectedTables.externals firstReceipt) := by
  have hparsed := Tables.envelopeFromSlice_text h
  obtain ⟨m, hm⟩ := verifyProjectionSource_isOk_iff.2 ⟨unversionedProjection, value,
    Tables.fromStr_text (by simp [projectedTables, Tables.values]),
    Tables.fromStr_text (Tables.mem_values h),
    { source := ⟨_, hparsed, constitutionalLaw_firstReceipt⟩
      present := by decide +kernel
      agrees := hagrees }⟩
  obtain ⟨typed, ht, -, rfl⟩ :=
    verifyExternalReceipt_eq_ok_iff_law.1 (verifyProjectionSource_eq_ok hm).1
  obtain rfl := Except.ok.inj (ht.symm.trans hparsed)
  exact hm

/-- Against the two texts of the first receipt, the projection reads the same. -/
theorem projection_pins_firstReceipt :
    firstReceipt = firstReceipt ∧ metadata projectedTables.externals firstReceipt =
      metadata projectedTables.externals firstReceipt := by
  have hfirst : (firstReceipt.toValue, firstReceipt) ∈ projectedTables.envelopes := by
    simp [projectedTables]
  have hinteger : (integerTimeValue, firstReceipt) ∈ projectedTables.envelopes := by
    simp [projectedTables]
  refine projection_pins_source eventHashLaws_projectedTables (statesHash_listed hfirst ⟨_, rfl⟩)
    (statesHash_listed hinteger ⟨_, rfl⟩)
    (verifyProjectionSource_listed hfirst (by decide +kernel))
    (verifyProjectionSource_listed hinteger (by decide +kernel))
    (Tables.envelopeFromSlice_text hfirst) (Tables.envelopeFromSlice_text hinteger) ?_
  intro e₁ he₁ e₂ he₂ _ _ _
  rw [List.mem_singleton.1 he₁, List.mem_singleton.1 he₂]
  rfl

end Rbh

end VertRule
