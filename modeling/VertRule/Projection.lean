import VertRule.ExternalLaw
import VertRule.History

/-!
# Projections

A projection cites the envelope it projects by three fields, which `verify_projection_source`
compares with the envelope.  A side that is absent, or not a string, is compared as the empty
string; `sourceBound_iff` shows this to be the only way for a projection to be accepted that does
not bind its source.
-/

namespace VertRule

namespace Rbh

/-- The fields that cite the envelope, each with what the envelope has for it. -/
def sourceBindings (envelope : Json) : List (String × Option Json) :=
  [("source_receipt_type", envelope.get "receipt_type"),
    ("source_schema_version", (envelope.get "payload").bind (·.get "schema")),
    ("source_event_hash", envelope.get "event_hash")]

/-- A member is there, as a JSON string. -/
def IsString (value : Option Json) : Prop := ∃ s, value = some (.string s)

/-- The projection has all five binding fields, and those that cite the envelope are strings equal
to the strings that the envelope has. -/
structure BindsSource (projection envelope : Json) : Prop where
  present : ∀ field ∈ projectionSourceFields, (projection.get field).isSome = true
  bound : ∀ b ∈ sourceBindings envelope,
    ∃ s, projection.get b.1 = some (.string s) ∧ b.2 = some (.string s)

variable (E : Externals)

/-- What the verifier asks of a projection and the envelope it cites: the envelope meets the
constitutional law, the five fields are there, and those that cite the envelope read the same. -/
structure ProjectionLaw (canonicalEnvelopeBytes : Bytes) (projection envelope : Json) : Prop where
  source : ∃ typed, E.envelopeFromSlice canonicalEnvelopeBytes = .ok typed ∧
    ConstitutionalLaw E typed
  present : ∀ field ∈ projectionSourceFields, (projection.get field).isSome = true
  agrees : ∀ b ∈ sourceBindings envelope, strOrDefault (projection.get b.1) = strOrDefault b.2

/-- A projection that is accepted binds the envelope it cites. -/
def SourceBound (projectionBytes canonicalEnvelopeBytes : Bytes) : Prop :=
  ∀ m, verifyProjectionSource E projectionBytes canonicalEnvelopeBytes = .ok m →
    ∃ projection envelope, E.fromSlice projectionBytes = .ok projection ∧
      E.fromSlice canonicalEnvelopeBytes = .ok envelope ∧ BindsSource projection envelope

variable {E} {projection envelope : Json} {projectionBytes canonicalEnvelopeBytes : Bytes}

@[simp] theorem strOrDefault_string (s : String) : strOrDefault (some (.string s)) = s := rfl

theorem assertProjectionBind_eq_ok {field : String} {expected : Option Json} :
    assertProjectionBind projection field expected = .ok () ↔
      strOrDefault (projection.get field) = strOrDefault expected := by
  simp only [assertProjectionBind]
  split_ifs with h <;> simp [h]

theorem checkSourceFields_eq_ok :
    checkSourceFields projection = .ok () ↔
      ∀ field ∈ projectionSourceFields, (projection.get field).isSome = true := by
  unfold checkSourceFields
  cases hf : projectionSourceFields.find? fun field => (projection.get field).isNone with
  | none => simpa [Option.isSome_iff_ne_none] using List.find?_eq_none.1 hf
  | some field =>
    have hnone := List.find?_some hf
    simp only [reduceCtorEq, false_iff, not_forall]
    exact ⟨field, List.mem_of_find?_eq_some hf, by simpa using hnone⟩

/-- **What the verifier of projections accepts.** -/
theorem verifyProjectionSource_isOk_iff :
    (∃ m, verifyProjectionSource E projectionBytes canonicalEnvelopeBytes = .ok m) ↔
      ∃ projection envelope, E.fromSlice projectionBytes = .ok projection ∧
        E.fromSlice canonicalEnvelopeBytes = .ok envelope ∧
        ProjectionLaw E canonicalEnvelopeBytes projection envelope := by
  simp only [verifyProjectionSource, Except.bind_eq_ok, Except.mapError_eq_ok,
    checkSourceFields_eq_ok, assertProjectionBind_eq_ok, Unique.exists_iff,
    PUnit.default_eq_unit]
  constructor
  · rintro ⟨m, m', hm, envelope, he, projection, hp, hpresent, ht, hs, hh, -⟩
    obtain ⟨typed, hparsed, hlaw, -⟩ := verifyExternalReceipt_eq_ok_iff_law.1 hm
    refine ⟨projection, envelope, hp, he, ⟨typed, hparsed, hlaw⟩, hpresent, ?_⟩
    simp only [sourceBindings, List.forall_mem_cons]
    exact ⟨ht, hs, hh, by simp⟩
  · rintro ⟨projection, envelope, hp, he, ⟨typed, hparsed, hlaw⟩, hpresent, hagrees⟩
    have hm := verifyExternalReceipt_eq_ok_iff_law.2 ⟨typed, hparsed, hlaw, rfl⟩
    simp only [sourceBindings, List.forall_mem_cons] at hagrees
    obtain ⟨ht, hs, hh, -⟩ := hagrees
    exact ⟨_, _, hm, envelope, he, projection, hp, hpresent, ht, hs, hh, rfl⟩

/-- **An accepted projection binds its source exactly when no field that cites the envelope reads
as the empty string for want of one.** -/
theorem sourceBound_iff :
    SourceBound E projectionBytes canonicalEnvelopeBytes ↔
      ∀ projection envelope, E.fromSlice projectionBytes = .ok projection →
        E.fromSlice canonicalEnvelopeBytes = .ok envelope →
        (∀ b ∈ sourceBindings envelope, IsString (projection.get b.1) ∧ IsString b.2) ∨
          ¬ ProjectionLaw E canonicalEnvelopeBytes projection envelope := by
  constructor
  · intro h projection envelope hp he
    by_cases hlaw : ProjectionLaw E canonicalEnvelopeBytes projection envelope
    · obtain ⟨m, hm⟩ := verifyProjectionSource_isOk_iff.2 ⟨_, _, hp, he, hlaw⟩
      obtain ⟨projection', envelope', hp', he', hbinds⟩ := h m hm
      obtain rfl := Except.ok.inj (hp.symm.trans hp')
      obtain rfl := Except.ok.inj (he.symm.trans he')
      left
      intro b hb
      obtain ⟨s, hs, hs'⟩ := hbinds.bound b hb
      exact ⟨⟨s, hs⟩, s, hs'⟩
    · exact .inr hlaw
  · intro h m hm
    obtain ⟨projection, envelope, hp, he, hlaw⟩ := verifyProjectionSource_isOk_iff.1 ⟨m, hm⟩
    have hstrings := (h projection envelope hp he).resolve_right fun hn => hn hlaw
    refine ⟨projection, envelope, hp, he, hlaw.present, fun b hb => ?_⟩
    obtain ⟨⟨s, hs⟩, s', hs'⟩ := hstrings b hb
    have hagrees := hlaw.agrees b hb
    rw [hs, hs', strOrDefault_string, strOrDefault_string] at hagrees
    exact ⟨s, hs, hagrees ▸ hs'⟩

/-! ### A projection without a schema version -/

/-- It cites a receipt whose payload has no schema. -/
def unversionedProjection : Json :=
  .object [("omitted_evidence_classes", .array [.string "sampling", .string "trace"]),
    ("projection_law_id", .string "vr/browser/decode-step/v2"),
    ("source_event_hash", firstReceipt.eventHash.toValue),
    ("source_receipt_type", .string "governance"), ("source_schema_version", .null)]

/-- The third-party code on the projection and the receipt it cites. -/
def unversionedTables : Tables where
  envelopes := [(firstReceipt.toValue, firstReceipt)]
  others := [unversionedProjection]
  digests := [(firstReceipt.body, firstReceipt.eventHash)]
  texts_nodup := by decide +kernel
  digests_nodup := firstReceipt_digest_nodup

/-- It is accepted, and its schema version is no string. -/
theorem not_sourceBound_unversionedProjection :
    ¬ SourceBound unversionedTables.externals (asBytes unversionedProjection.text)
      (asBytes firstReceipt.toValue.text) := by
  have hp : unversionedTables.externals.fromSlice (asBytes unversionedProjection.text) =
      .ok unversionedProjection := Tables.fromStr_text (by simp [unversionedTables, Tables.values])
  have he : unversionedTables.externals.fromSlice (asBytes firstReceipt.toValue.text) =
      .ok firstReceipt.toValue := Tables.fromStr_text (by simp [unversionedTables, Tables.values])
  have hparsed : unversionedTables.externals.envelopeFromSlice
      (asBytes firstReceipt.toValue.text) = .ok firstReceipt :=
    Tables.envelopeFromSlice_text (List.mem_singleton_self _)
  have hsource : ConstitutionalLaw unversionedTables.externals firstReceipt :=
    { version := rfl
      profile := .inr ⟨rfl, by decide⟩
      eventHash := Tables.computeEventHash_listed (List.mem_singleton_self _)
      decodeStep := fun schema hs => by cases hs }
  have hlaw : ProjectionLaw unversionedTables.externals (asBytes firstReceipt.toValue.text)
      unversionedProjection firstReceipt.toValue :=
    { source := ⟨_, hparsed, hsource⟩
      present := by decide +kernel
      agrees := by decide +kernel }
  rw [sourceBound_iff]
  intro h
  have hstrings := (h _ _ hp he).resolve_right fun hn => hn hlaw
  obtain ⟨⟨s, hs⟩, -⟩ := hstrings ("source_schema_version", none) (by decide +kernel)
  cases hs

end Rbh

end VertRule
