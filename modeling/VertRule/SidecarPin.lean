import VertRule.Sidecar

/-!
# What the receipt of an execution bundle pins

The `event_hash` of a receipt commits to its payload, and the payload declares digests of sidecars.
So a valid bundle pins the canonical forms of the sidecars that its payload declares, for every
bundle whose receipt has the same `event_hash`, however that receipt is spelled
(`verifyBundle_pinned`).
-/

namespace VertRule

variable (E : Externals)

/-- The payload in the text declares the digest `declared` for the sidecar `name`. -/
def DeclaresDigest (envelopeJson name declared : String) : Prop :=
  (name = "layer_trace" ∧
    (extractPayloadDigests E envelopeJson).layerTraceDigest = some declared) ∨
  (name = "selection_policy" ∧
    (extractPayloadDigests E envelopeJson).selectionPolicyDigest = some declared)

/-- The decoder of envelopes keeps the payload as it is. -/
def PayloadKept : Prop :=
  ∀ v envelope, validateEnvelopeSchema v = .ok () → E.envelopeFromValue v = .ok envelope →
    v.get "payload" = some envelope.payload

/-- The bundle, and the envelope of its receipt, are read. -/
structure ReadsBundle (rawBytes : Bytes) (bundle : ExecutionBundle) (envelope : ReceiptEnvelope) :
    Prop where
  parsed : E.executionBundleFromSlice rawBytes = .ok bundle
  ingested : ingestEnvelope E (asBytes bundle.envelopeCanonical) = .ok envelope

/-- What makes a declared sidecar match: it hashes to the digest, or it has no canonical form and
the digest is the empty string. -/
def MatchesDigest (value : Json) (declared : String) : Prop :=
  HashesTo E value declared ∨ (¬ Canonicalizes E value ∧ declared = "")

/-- Two values have the same canonical form, or neither has one. -/
def SameCanonical (v₁ v₂ : Json) : Prop :=
  (E.canonicalize v₁).toOption = (E.canonicalize v₂).toOption

/-- The canonical forms of the sidecars of two bundles do not collide. -/
def SidecarsSeparate (bundle₁ bundle₂ : ExecutionBundle) : Prop :=
  ∀ name v₁ v₂ c₁ c₂, CarriesSidecar bundle₁ name v₁ → CarriesSidecar bundle₂ name v₂ →
    E.canonicalize v₁ = .ok c₁ → E.canonicalize v₂ = .ok c₂ → E.blake3 c₁ = E.blake3 c₂ → c₁ = c₂

variable {E} {bundle bundle₁ bundle₂ : ExecutionBundle} {envelope e₁ e₂ : ReceiptEnvelope}
  {rawBytes rawBytes₁ rawBytes₂ : Bytes} {name declared : String} {value v₁ v₂ : Json}

theorem declaredSidecar_iff :
    DeclaredSidecar E bundle name value declared ↔
      CarriesSidecar bundle name value ∧
        DeclaresDigest E bundle.envelopeCanonical name declared := by
  constructor
  · rintro (⟨rfl, hv, hd⟩ | ⟨rfl, hv, hd⟩)
    · exact ⟨.inl ⟨rfl, hv⟩, .inl ⟨rfl, hd⟩⟩
    · exact ⟨.inr ⟨rfl, hv⟩, .inr ⟨rfl, hd⟩⟩
  · rintro ⟨⟨rfl, hv⟩ | ⟨rfl, hv⟩, ⟨hn, hd⟩ | ⟨hn, hd⟩⟩
    · exact .inl ⟨rfl, hv, hd⟩
    · exact absurd hn (by decide)
    · exact absurd hn (by decide)
    · exact .inr ⟨rfl, hv, hd⟩

/-- A bundle carries one sidecar of a name. -/
theorem CarriesSidecar.unique (h₁ : CarriesSidecar bundle name v₁)
    (h₂ : CarriesSidecar bundle name v₂) : v₁ = v₂ := by
  rcases h₁ with ⟨rfl, h₁⟩ | ⟨rfl, h₁⟩
  · rcases h₂ with ⟨-, h₂⟩ | ⟨hn, -⟩
    · exact Option.some.inj (h₁.symm.trans h₂)
    · exact absurd hn (by decide)
  · rcases h₂ with ⟨hn, -⟩ | ⟨-, h₂⟩
    · exact absurd hn (by decide)
    · exact Option.some.inj (h₁.symm.trans h₂)

/-- The digests that the payload in the text of an envelope declares are in the envelope. -/
theorem extractPayloadDigests_of_ingest (hkept : PayloadKept E) {text : String}
    (h : ingestEnvelope E (asBytes text) = .ok envelope) :
    extractPayloadDigests E text =
      { layerTraceDigest := (envelope.payload.index "layer_trace_digest").asStr
        selectionPolicyDigest := (envelope.payload.index "selection_policy_digest").asStr } := by
  obtain ⟨-, -, v, hv, -, hschema, -, ht⟩ := ingestEnvelopeWithLimits_eq_ok.1 h
  have hindex : v.index "payload" = envelope.payload := by
    rw [Json.index, hkept v _ hschema ht]
    rfl
  simp only [extractPayloadDigests, Externals.fromStr, hv, Except.toOption, Option.getD_some,
    hindex]

theorem MatchesDigest.congr (hsame : SameCanonical E v₁ v₂) (h : MatchesDigest E v₁ declared) :
    MatchesDigest E v₂ declared := by
  rw [SameCanonical] at hsame
  simp only [MatchesDigest, HashesTo, Canonicalizes] at h ⊢
  cases h₁ : E.canonicalize v₁ with
  | error e₁ =>
    cases h₂ : E.canonicalize v₂ with
    | error e₂ => simpa [h₁] using h
    | ok c₂ => simp [h₁, h₂, Except.toOption] at hsame
  | ok c₁ =>
    cases h₂ : E.canonicalize v₂ with
    | error e₂ => simp [h₁, h₂, Except.toOption] at hsame
    | ok c₂ =>
      obtain rfl : c₁ = c₂ := by simpa [h₁, h₂, Except.toOption] using hsame
      simpa [h₁] using h

/-- Sidecars that match one digest have one canonical form, unless two collide. -/
theorem MatchesDigest.sameCanonical (h₁ : MatchesDigest E v₁ declared)
    (h₂ : MatchesDigest E v₂ declared)
    (hsep : ∀ c₁ c₂, E.canonicalize v₁ = .ok c₁ → E.canonicalize v₂ = .ok c₂ →
      E.blake3 c₁ = E.blake3 c₂ → c₁ = c₂) : SameCanonical E v₁ v₂ := by
  rcases h₁ with ⟨c₁, hc₁, hd₁⟩ | ⟨hn₁, rfl⟩
  · rcases h₂ with ⟨c₂, hc₂, hd₂⟩ | ⟨-, rfl⟩
    · have heq := hsep c₁ c₂ hc₁ hc₂ (DigestBytes.toHex_injective (hd₁.trans hd₂.symm))
      rw [SameCanonical, hc₁, hc₂, heq]
    · exact absurd hd₁ (DigestBytes.toHex_ne_empty _)
  · rcases h₂ with ⟨c₂, -, hd₂⟩ | ⟨hn₂, -⟩
    · exact absurd hd₂ (DigestBytes.toHex_ne_empty _)
    · have hnone : ∀ {v}, ¬ Canonicalizes E v → (E.canonicalize v).toOption = none := by
        intro v hv
        cases hc : E.canonicalize v with
        | error e => rfl
        | ok c => exact absurd ⟨c, hc⟩ hv
      rw [SameCanonical, hnone hn₁, hnone hn₂]

/-- Bundles whose receipts are valid and have one `event_hash` declare the same digests. -/
theorem extractPayloadDigests_eq (hkept : PayloadKept E)
    (h₁ : ReadsBundle E rawBytes₁ bundle₁ e₁) (h₂ : ReadsBundle E rawBytes₂ bundle₂ e₂)
    (hv₁ : (verifyReceipt E (asBytes bundle₁.envelopeCanonical)).status = .valid)
    (hv₂ : (verifyReceipt E (asBytes bundle₂.envelopeCanonical)).status = .valid)
    (hhash : e₁.eventHash = e₂.eventHash) (hcf : CollisionFree E [e₁] [e₂]) :
    extractPayloadDigests E bundle₁.envelopeCanonical =
      extractPayloadDigests E bundle₂.envelopeCanonical := by
  have hverifies : ∀ {text e}, (verifyReceipt E (asBytes text)).status = .valid →
      ingestEnvelope E (asBytes text) = .ok e → e.Verifies E := by
    intro text e hv hi
    obtain ⟨e', hi', hver⟩ := verifyReceipt_valid_iff.1 hv
    exact Except.ok.inj (hi'.symm.trans hi) ▸ hver
  obtain rfl : e₁ = e₂ :=
    hcf.eq (List.mem_singleton_self _) (List.mem_singleton_self _) (hverifies hv₁ h₁.ingested)
      (hverifies hv₂ h₂.ingested) hhash
  rw [extractPayloadDigests_of_ingest hkept h₁.ingested,
    extractPayloadDigests_of_ingest hkept h₂.ingested]

/-- **A valid bundle pins its declared sidecars**: of a bundle whose receipt has the same
`event_hash`, and which carries no sidecar that the valid one lacks, it decides the verdict that
the sidecars have the same canonical forms. -/
theorem verifyBundle_pinned (hkept : PayloadKept E)
    (h₁ : ReadsBundle E rawBytes₁ bundle₁ e₁) (h₂ : ReadsBundle E rawBytes₂ bundle₂ e₂)
    (hhash : e₁.eventHash = e₂.eventHash)
    (hcf : CollisionFree E [e₁] [e₂]) (hsep : SidecarsSeparate E bundle₁ bundle₂)
    (hcarries : ∀ name v₂, CarriesSidecar bundle₂ name v₂ → ∃ v₁, CarriesSidecar bundle₁ name v₁)
    (hvalid : (verifyBundle E rawBytes₁).status = .valid) :
    (verifyBundle E rawBytes₂).status = .valid ↔
      bundle₂.format = executionBundleFormat ∧
        (verifyReceipt E (asBytes bundle₂.envelopeCanonical)).status = .valid ∧
        ∀ name v₁ v₂ declared, DeclaredSidecar E bundle₁ name v₁ declared →
          CarriesSidecar bundle₂ name v₂ → SameCanonical E v₁ v₂ := by
  obtain ⟨bundle, hb, -, law₁⟩ := verifyBundle_valid_iff_law.1 hvalid
  obtain rfl := Except.ok.inj (hb.symm.trans h₁.parsed)
  have hdeclares : (verifyReceipt E (asBytes bundle₂.envelopeCanonical)).status = .valid →
      ∀ {name declared}, DeclaresDigest E bundle.envelopeCanonical name declared ↔
        DeclaresDigest E bundle₂.envelopeCanonical name declared := by
    intro hv₂ name declared
    simp only [DeclaresDigest,
      extractPayloadDigests_eq hkept h₁ h₂ law₁.envelope hv₂ hhash hcf]
  rw [verifyBundle_valid_iff_law]
  constructor
  · rintro ⟨bundle', hb', hf, law₂⟩
    obtain rfl := Except.ok.inj (hb'.symm.trans h₂.parsed)
    refine ⟨hf, law₂.envelope, fun name v₁ v₂ declared hd hc => ?_⟩
    obtain ⟨hc₁, hdigest⟩ := declaredSidecar_iff.1 hd
    have hd₂ := declaredSidecar_iff.2 ⟨hc, (hdeclares law₂.envelope).1 hdigest⟩
    have hm₁ : MatchesDigest E v₁ declared := law₁.sidecars name v₁ declared hd
    exact hm₁.sameCanonical (law₂.sidecars name v₂ declared hd₂) fun c₁ c₂ =>
      hsep name v₁ v₂ c₁ c₂ hc₁ hc
  · rintro ⟨hf, hv₂, hsame⟩
    refine ⟨bundle₂, h₂.parsed, hf, hv₂, fun name v₂ declared hd => ?_⟩
    obtain ⟨hc, hdigest⟩ := declaredSidecar_iff.1 hd
    obtain ⟨v₁, hc₁⟩ := hcarries name v₂ hc
    have hd₁ := declaredSidecar_iff.2 ⟨hc₁, (hdeclares hv₂).2 hdigest⟩
    have hm₁ : MatchesDigest E v₁ declared := law₁.sidecars name v₁ declared hd₁
    exact hm₁.congr (hsame name v₁ v₂ declared hd₁ hc)

/-! ### A traced execution -/

/-- The trace of the repository's bundle tests. -/
def layerTrace : Json :=
  .object [("schema", .string "vr.layer-trace.v1"), ("steps", .array [])]

/-- The digest of the trace. -/
def layerTraceDigest : DigestBytes :=
  .ofNat 0x8bc3a24f6d58655752bed108b92c93e6e85067f336f161a4e35620990190c2b2

/-- A receipt that declares the digest of the trace. -/
def tracedReceipt : ReceiptEnvelope :=
  vectorEnvelope .governance 1000 (.object [("layer_trace_digest", layerTraceDigest.toValue)])
    (.ofNat 0xca53f5154b1953411fe3b0a772b351d115d3783da4eed362713205f04321f125)

/-- It carries a policy too, of which the payload says nothing. -/
def tracedPolicyBundle : ExecutionBundle where
  format := executionBundleFormat
  envelopeCanonical := tracedReceipt.toValue.text
  sidecars := ⟨some layerTrace, some (.object [("policy", .string "greedy")])⟩

/-- It carries the trace alone. -/
def tracedBundle : ExecutionBundle where
  format := executionBundleFormat
  envelopeCanonical := tracedReceipt.toValue.text
  sidecars := ⟨some layerTrace, none⟩

/-- Their texts differ where the policy comes. -/
theorem tracedBundles_nodup :
    ([tracedPolicyBundle, tracedBundle].map fun b => b.toValue.chars).Nodup := by
  simp only [List.map_cons, List.map_nil, List.nodup_cons, List.nodup_nil, List.mem_singleton,
    List.not_mem_nil, not_false_eq_true, and_true]
  intro h
  simp only [tracedPolicyBundle, tracedBundle, ExecutionBundle.toValue, optField, Json.chars,
    Json.fieldChars, List.cons_append, List.nil_append, List.append_assoc, List.cons.injEq,
    List.append_cancel_left_eq, true_and] at h
  exact absurd h (by decide)

/-- The third-party code on the two bundles. -/
def tracedTables : Tables where
  envelopes := [(tracedReceipt.toValue, tracedReceipt)]
  digests := [(tracedReceipt.body, tracedReceipt.eventHash), (layerTrace, layerTraceDigest)]
  executionBundles := [tracedPolicyBundle, tracedBundle]
  texts_nodup := by simp
  executionBundles_nodup := tracedBundles_nodup

theorem payloadKept_tracedTables : PayloadKept tracedTables.externals := by
  intro v e _ h
  have hmem := Tables.mem_of_envelopeFromValue h
  simp only [tracedTables, List.mem_singleton, Prod.mk.injEq] at hmem
  obtain ⟨rfl, rfl⟩ := hmem
  rfl

theorem parsed_tracedPolicyBundle :
    tracedTables.externals.executionBundleFromSlice (asBytes tracedPolicyBundle.toValue.text) =
      .ok tracedPolicyBundle :=
  Tables.executionBundleFromSlice_text List.mem_cons_self

theorem parsed_tracedBundle :
    tracedTables.externals.executionBundleFromSlice (asBytes tracedBundle.toValue.text) =
      .ok tracedBundle :=
  Tables.executionBundleFromSlice_text (List.mem_cons_of_mem _ (List.mem_singleton_self _))

theorem listed_tracedReceipt :
    (tracedReceipt.toValue, tracedReceipt) ∈ tracedTables.envelopes := List.mem_singleton_self _

theorem ingestEnvelope_tracedReceipt :
    ingestEnvelope tracedTables.externals (asBytes tracedReceipt.toValue.text) =
      .ok tracedReceipt :=
  Tables.ingestEnvelope_text listed_tracedReceipt
    (Tables.admissible_of_checks (by decide +kernel))

theorem verifyReceipt_tracedReceipt :
    (verifyReceipt tracedTables.externals (asBytes tracedReceipt.toValue.text)).status = .valid :=
  verifyReceipt_valid_iff.2
    ⟨_, ingestEnvelope_tracedReceipt, Tables.verifies rfl rfl rfl (by simp [tracedTables])⟩

/-- A listed sidecar matches its digest. -/
theorem matches_listed {T : Tables} {d : DigestBytes} (h : (value, d) ∈ T.digests)
    (hr : value.inRange = true) : MatchesDigest T.externals value d.toHex := by
  have hdigest : T.externals.blake3 (asBytes value.text) = d := Tables.blake3_text h
  exact .inl ⟨asBytes value.text, if_pos hr, by rw [hdigest]⟩

theorem extractPayloadDigests_tracedPolicyBundle :
    extractPayloadDigests tracedTables.externals tracedPolicyBundle.envelopeCanonical =
      ⟨some layerTraceDigest.toHex, none⟩ :=
  (extractPayloadDigests_of_ingest payloadKept_tracedTables ingestEnvelope_tracedReceipt).trans rfl

theorem verifyBundle_tracedPolicyBundle :
    (verifyBundle tracedTables.externals (asBytes tracedPolicyBundle.toValue.text)).status =
      .valid := by
  refine verifyBundle_valid_iff_law.2 ⟨tracedPolicyBundle,
    parsed_tracedPolicyBundle, rfl, verifyReceipt_tracedReceipt, fun name value declared hd => ?_⟩
  rcases hd with ⟨-, hv, hd⟩ | ⟨-, -, hd⟩
  · rw [extractPayloadDigests_tracedPolicyBundle] at hd
    obtain rfl := Option.some.inj hv
    obtain rfl := Option.some.inj hd
    exact matches_listed (List.mem_cons_of_mem _ (List.mem_singleton_self _)) (by decide)
  · rw [extractPayloadDigests_tracedPolicyBundle] at hd
    cases hd

/-- The bundle with the trace alone is valid too, for it has the trace of the other. -/
theorem verifyBundle_pinned_tracedBundle :
    (verifyBundle tracedTables.externals (asBytes tracedBundle.toValue.text)).status = .valid := by
  have htrace : ∀ {name v₁ v₂}, CarriesSidecar tracedPolicyBundle name v₁ →
      CarriesSidecar tracedBundle name v₂ → v₁ = v₂ := by
    rintro name v₁ v₂ h₁ (⟨rfl, h₂⟩ | ⟨-, h₂⟩)
    · obtain rfl := Option.some.inj h₂
      exact h₁.unique (.inl ⟨rfl, rfl⟩)
    · cases h₂
  refine (verifyBundle_pinned payloadKept_tracedTables
    ⟨parsed_tracedPolicyBundle, ingestEnvelope_tracedReceipt⟩
    ⟨parsed_tracedBundle, ingestEnvelope_tracedReceipt⟩ rfl ?_ ?_ ?_
    verifyBundle_tracedPolicyBundle).2 ⟨rfl, verifyReceipt_tracedReceipt, ?_⟩
  · intro e₁ he₁ e₂ he₂ _ _ _
    rw [List.mem_singleton.1 he₁, List.mem_singleton.1 he₂]
    rfl
  · intro name v₁ v₂ c₁ c₂ h₁ h₂ hc₁ hc₂ _
    rw [htrace h₁ h₂] at hc₁
    exact Except.ok.inj (hc₁.symm.trans hc₂)
  · rintro name v₂ (⟨rfl, -⟩ | ⟨-, h₂⟩)
    · exact ⟨layerTrace, .inl ⟨rfl, rfl⟩⟩
    · cases h₂
  · intro name v₁ v₂ declared hd hc
    rw [htrace (declaredSidecar_iff.1 hd).1 hc]
    rfl

end VertRule
