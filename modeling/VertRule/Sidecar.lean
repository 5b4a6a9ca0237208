import VertRule.History

/-!
# What a matching sidecar check says

A sidecar that cannot be canonicalized has the empty string for its computed digest, so its check
matches a payload that declares the empty string.  `sidecarsBound_iff` shows this to be the only
way for a check to match without a digest.  A sidecar for which the payload declares no digest is
not checked at all (`suppliedBound_iff`).
-/

namespace VertRule

variable (E : Externals)

/-- The bundle carries `value` as the sidecar `name`, and its payload declares the digest
`declared` for it. -/
def DeclaredSidecar (bundle : ExecutionBundle) (name : String) (value : Json)
    (declared : String) : Prop :=
  (name = "layer_trace" ∧ bundle.sidecars.layerTrace = some value ∧
    (extractPayloadDigests E bundle.envelopeCanonical).layerTraceDigest = some declared) ∨
  (name = "selection_policy" ∧ bundle.sidecars.selectionPolicy = some value ∧
    (extractPayloadDigests E bundle.envelopeCanonical).selectionPolicyDigest = some declared)

/-- `value` canonicalizes. -/
def Canonicalizes (value : Json) : Prop := ∃ canonical, E.canonicalize value = .ok canonical

/-- `value` canonicalizes, and `declared` is the hex digest of its canonical form. -/
def HashesTo (value : Json) (declared : String) : Prop :=
  ∃ canonical, E.canonicalize value = .ok canonical ∧ (E.blake3 canonical).toHex = declared

/-- A check that matches is about a sidecar that hashes to the digest declared for it, and the
declared sidecars of a valid bundle canonicalize. -/
structure SidecarsBound (rawBytes : Bytes) : Prop where
  matching : ∀ c ∈ (verifyBundle E rawBytes).sidecarChecks, c.isMatch = true →
    ∃ bundle value, E.executionBundleFromSlice rawBytes = .ok bundle ∧
      DeclaredSidecar E bundle c.name value c.expected ∧ HashesTo E value c.expected
  valid : (verifyBundle E rawBytes).status = .valid →
    ∀ bundle name value declared, E.executionBundleFromSlice rawBytes = .ok bundle →
      DeclaredSidecar E bundle name value declared → Canonicalizes E value

variable {E} {bundle : ExecutionBundle} {name declared : String} {value : Json}

theorem mem_sidecarCheck {sidecar : Option Json} {digest : Option String}
    {c : SidecarDigestCheck} :
    c ∈ (sidecarCheck E name sidecar digest).toList ↔
      ∃ value declared, sidecar = some value ∧ digest = some declared ∧
        c = checkSidecar E name declared value := by
  unfold sidecarCheck
  cases sidecar <;> cases digest <;> simp

/-- The checks of a bundle are those of its declared sidecars. -/
theorem mem_sidecarChecks {c : SidecarDigestCheck} :
    c ∈ sidecarChecks E bundle ↔
      ∃ name value declared, DeclaredSidecar E bundle name value declared ∧
        c = checkSidecar E name declared value := by
  simp only [sidecarChecks, List.mem_append, mem_sidecarCheck, DeclaredSidecar]
  constructor
  · rintro (⟨value, declared, hv, hd, rfl⟩ | ⟨value, declared, hv, hd, rfl⟩)
    · exact ⟨_, value, declared, .inl ⟨rfl, hv, hd⟩, rfl⟩
    · exact ⟨_, value, declared, .inr ⟨rfl, hv, hd⟩, rfl⟩
  · rintro ⟨name, value, declared, ⟨rfl, hv, hd⟩ | ⟨rfl, hv, hd⟩, rfl⟩
    · exact .inl ⟨value, declared, hv, hd, rfl⟩
    · exact .inr ⟨value, declared, hv, hd, rfl⟩

/-- A check matches when the sidecar hashes to the declared digest, or when it has no digest and
the declared one is the empty string. -/
theorem checkSidecar_isMatch :
    (checkSidecar E name declared value).isMatch = true ↔
      HashesTo E value declared ∨ (¬ Canonicalizes E value ∧ declared = "") := by
  simp only [checkSidecar, beq_iff_eq, HashesTo, Canonicalizes, digestCanonicalValue,
    SidecarDigest.recomputeFromValue, digestTrustedValue]
  cases h : E.canonicalize value with
  | error e => simp [Except.toOption, eq_comm]
  | ok canonical =>
    simp [Except.toOption]

theorem HashesTo.canonicalizes (h : HashesTo E value declared) : Canonicalizes E value :=
  h.imp fun _ h => h.1

variable {rawBytes : Bytes}

theorem verifyBundle_eq_checkBundle (hb : E.executionBundleFromSlice rawBytes = .ok bundle)
    (hf : bundle.format = executionBundleFormat) :
    verifyBundle E rawBytes = checkBundle E bundle := by
  simp [verifyBundle, hb, hf]

/-- Only a bundle of the right format has sidecar checks, or is valid. -/
theorem exists_checkBundle (h : (verifyBundle E rawBytes).status = .valid ∨
    (verifyBundle E rawBytes).sidecarChecks ≠ []) :
    ∃ bundle, E.executionBundleFromSlice rawBytes = .ok bundle ∧
      bundle.format = executionBundleFormat := by
  cases hb : E.executionBundleFromSlice rawBytes with
  | error e => simp [verifyBundle, hb, BundleVerificationResult.invalid] at h
  | ok bundle =>
    by_cases hf : bundle.format = executionBundleFormat
    · exact ⟨bundle, rfl, hf⟩
    · simp [verifyBundle, hb, hf, BundleVerificationResult.invalid] at h

/-- **A matching check means a digest exactly when every sidecar for which the payload declares
the empty string canonicalizes.** -/
theorem sidecarsBound_iff :
    SidecarsBound E rawBytes ↔
      ∀ bundle name value, E.executionBundleFromSlice rawBytes = .ok bundle →
        bundle.format = executionBundleFormat → DeclaredSidecar E bundle name value "" →
        Canonicalizes E value := by
  constructor
  · intro h bundle name value hb hf hd
    by_contra hc
    have hmem : checkSidecar E name "" value ∈ (verifyBundle E rawBytes).sidecarChecks := by
      rw [verifyBundle_eq_checkBundle hb hf]
      exact mem_sidecarChecks.2 ⟨name, value, "", hd, rfl⟩
    obtain ⟨bundle', value', hb', hd', hh⟩ :=
      h.matching _ hmem (checkSidecar_isMatch.2 (.inr ⟨hc, rfl⟩))
    -- the check is also that of a sidecar that hashes to the empty string, and none does
    obtain ⟨canonical, -, hhex⟩ := hh
    exact DigestBytes.toHex_ne_empty _ hhex
  · intro h
    have hbound : ∀ {bundle}, E.executionBundleFromSlice rawBytes = .ok bundle →
        bundle.format = executionBundleFormat → ∀ {name value declared},
        DeclaredSidecar E bundle name value declared →
        (checkSidecar E name declared value).isMatch = true → HashesTo E value declared := by
      intro bundle hb hf name value declared hd hm
      refine (checkSidecar_isMatch.1 hm).resolve_right ?_
      rintro ⟨hc, rfl⟩
      exact hc (h bundle name value hb hf hd)
    constructor
    · intro c hc hm
      obtain ⟨bundle, hb, hf⟩ := exists_checkBundle (.inr (List.ne_nil_of_mem hc))
      rw [verifyBundle_eq_checkBundle hb hf] at hc
      obtain ⟨name, value, declared, hd, rfl⟩ := mem_sidecarChecks.1 hc
      exact ⟨bundle, value, hb, hd, hbound hb hf hd hm⟩
    · intro hs bundle name value declared hb hd
      obtain ⟨bundle', hb', hf⟩ := exists_checkBundle (.inl hs)
      obtain rfl := Except.ok.inj (hb'.symm.trans hb)
      rw [verifyBundle_eq_checkBundle hb hf, checkBundle_valid_iff,
        checkBundle_errors_eq_nil] at hs
      exact (hbound hb hf hd (hs.2 _ (mem_sidecarChecks.2 ⟨_, _, _, hd, rfl⟩))).canonicalizes

/-! ### An empty declared digest -/

/-- A receipt that declares the empty string for the digest of its layer trace. -/
def emptyDigestReceipt : ReceiptEnvelope :=
  vectorEnvelope .governance 1000 (.object [("layer_trace_digest", .string "")])
    (.ofNat 0x2f00f8351e9a90ee23026784eaae111e95c804368cd04c55ef6d2d942e233209)

/-- The sidecar is an integer that no double holds exactly. -/
def emptyDigestBundle : ExecutionBundle where
  format := executionBundleFormat
  envelopeCanonical := emptyDigestReceipt.toValue.text
  sidecars := ⟨some (.ofU64 9007199254740993), none⟩

/-- The third-party code on the bundle. -/
def emptyDigestTables : Tables where
  envelopes := [(emptyDigestReceipt.toValue, emptyDigestReceipt)]
  digests := [(emptyDigestReceipt.body, emptyDigestReceipt.eventHash)]
  executionBundles := [emptyDigestBundle]
  texts_nodup := by simp

/-- The sidecar has no digest, and its check matches. -/
theorem not_sidecarsBound_emptyDigestBundle :
    ¬ SidecarsBound emptyDigestTables.externals (asBytes emptyDigestBundle.toValue.text) := by
  intro h
  have hb : emptyDigestTables.externals.executionBundleFromSlice
      (asBytes emptyDigestBundle.toValue.text) = .ok emptyDigestBundle :=
    Tables.executionBundleFromSlice_text (by simp [emptyDigestTables])
  have hjson : emptyDigestTables.externals.fromStr emptyDigestReceipt.toValue.text =
      .ok emptyDigestReceipt.toValue :=
    Tables.fromStr_text (by simp [emptyDigestTables, Tables.values])
  have hdigest : (extractPayloadDigests emptyDigestTables.externals
      emptyDigestReceipt.toValue.text).layerTraceDigest = some "" := by
    rw [extractPayloadDigests, hjson]
    rfl
  have hd : DeclaredSidecar emptyDigestTables.externals emptyDigestBundle "layer_trace"
      (.ofU64 9007199254740993) "" := .inl ⟨rfl, rfl, hdigest⟩
  have hnot : ¬ Canonicalizes emptyDigestTables.externals (.ofU64 9007199254740993) := by
    rintro ⟨canonical, hc⟩
    have hr : (Json.ofU64 9007199254740993).inRange = false := by decide +kernel
    simp [Tables.externals, hr] at hc
  have hmem : checkSidecar emptyDigestTables.externals "layer_trace" "" (.ofU64 9007199254740993) ∈
      (verifyBundle emptyDigestTables.externals
        (asBytes emptyDigestBundle.toValue.text)).sidecarChecks := by
    rw [verifyBundle_eq_checkBundle hb rfl]
    exact mem_sidecarChecks.2 ⟨_, _, _, hd, rfl⟩
  obtain ⟨_, _, _, _, canonical, -, hhex⟩ :=
    h.matching _ hmem (checkSidecar_isMatch.2 (.inr ⟨hnot, rfl⟩))
  exact DigestBytes.toHex_ne_empty _ hhex

/-! ### Sidecars that are supplied -/

/-- The bundle carries `value` as the sidecar `name`. -/
def CarriesSidecar (bundle : ExecutionBundle) (name : String) (value : Json) : Prop :=
  (name = "layer_trace" ∧ bundle.sidecars.layerTrace = some value) ∨
    (name = "selection_policy" ∧ bundle.sidecars.selectionPolicy = some value)

variable (E)

/-- What the verifier asks of a bundle: the envelope is valid, and the check of every sidecar whose
digest the payload declares matches. -/
structure BundleLaw (bundle : ExecutionBundle) : Prop where
  envelope : (verifyReceipt E (asBytes bundle.envelopeCanonical)).status = .valid
  sidecars : ∀ name value declared, DeclaredSidecar E bundle name value declared →
    HashesTo E value declared ∨ (¬ Canonicalizes E value ∧ declared = "")

/-- Every sidecar that a valid bundle carries has its digest declared, and a check that matches. -/
def SuppliedBound (rawBytes : Bytes) : Prop :=
  (verifyBundle E rawBytes).status = .valid →
    ∀ bundle, E.executionBundleFromSlice rawBytes = .ok bundle →
      ∀ name value, CarriesSidecar bundle name value →
        ∃ declared, DeclaredSidecar E bundle name value declared ∧
          ∃ c ∈ (verifyBundle E rawBytes).sidecarChecks,
            c.name = name ∧ c.expected = declared ∧ c.isMatch = true

variable {E}

theorem checkBundle_valid_iff_law :
    (checkBundle E bundle).status = .valid ↔ BundleLaw E bundle := by
  rw [checkBundle_valid_iff, checkBundle_errors_eq_nil]
  constructor
  · rintro ⟨hv, hm⟩
    refine ⟨hv, fun name value declared hd => ?_⟩
    have hc : checkSidecar E name declared value ∈ sidecarChecks E bundle :=
      mem_sidecarChecks.2 ⟨name, value, declared, hd, rfl⟩
    exact checkSidecar_isMatch.1 (hm _ hc)
  · intro law
    refine ⟨law.envelope, fun c hc => ?_⟩
    obtain ⟨name, value, declared, hd, rfl⟩ := mem_sidecarChecks.1 hc
    exact checkSidecar_isMatch.2 (law.sidecars name value declared hd)

/-- **A bundle is valid exactly when it has the right format and meets the bundle law.** -/
theorem verifyBundle_valid_iff_law :
    (verifyBundle E rawBytes).status = .valid ↔
      ∃ bundle, E.executionBundleFromSlice rawBytes = .ok bundle ∧
        bundle.format = executionBundleFormat ∧ BundleLaw E bundle := by
  constructor
  · intro hs
    obtain ⟨bundle, hb, hf⟩ := exists_checkBundle (.inl hs)
    rw [verifyBundle_eq_checkBundle hb hf] at hs
    exact ⟨bundle, hb, hf, checkBundle_valid_iff_law.1 hs⟩
  · rintro ⟨bundle, hb, hf, law⟩
    rw [verifyBundle_eq_checkBundle hb hf]
    exact checkBundle_valid_iff_law.2 law

/-- **No sidecar rides along in a valid bundle exactly when the payload declares a digest for every
sidecar that the bundle carries** (or the bundle is not valid). -/
theorem suppliedBound_iff :
    SuppliedBound E rawBytes ↔
      ∀ bundle, E.executionBundleFromSlice rawBytes = .ok bundle →
        bundle.format = executionBundleFormat → BundleLaw E bundle →
        ∀ name value, CarriesSidecar bundle name value →
          ∃ declared, DeclaredSidecar E bundle name value declared := by
  constructor
  · intro h bundle hb hf law name value hc
    have hvalid := verifyBundle_valid_iff_law.2 ⟨bundle, hb, hf, law⟩
    obtain ⟨declared, hd, -⟩ := h hvalid bundle hb name value hc
    exact ⟨declared, hd⟩
  · intro h hvalid bundle hb name value hc
    obtain ⟨bundle', hb', hf, law⟩ := verifyBundle_valid_iff_law.1 hvalid
    obtain rfl := Except.ok.inj (hb.symm.trans hb')
    obtain ⟨declared, hd⟩ := h bundle hb hf law name value hc
    refine ⟨declared, hd, checkSidecar E name declared value, ?_, rfl, rfl, ?_⟩
    · rw [verifyBundle_eq_checkBundle hb hf]
      exact mem_sidecarChecks.2 ⟨name, value, declared, hd, rfl⟩
    · exact checkSidecar_isMatch.2 (law.sidecars name value declared hd)

/-- The policy it carries has no digest in the payload. -/
def unboundPolicyBundle : ExecutionBundle where
  format := executionBundleFormat
  envelopeCanonical := firstReceipt.toValue.text
  sidecars := ⟨none, some (.object [("policy", .string "greedy")])⟩

/-- The third-party code on the bundle. -/
def unboundPolicyTables : Tables where
  envelopes := [(firstReceipt.toValue, firstReceipt)]
  digests := [(firstReceipt.body, firstReceipt.eventHash)]
  executionBundles := [unboundPolicyBundle]
  texts_nodup := by simp
  digests_nodup := firstReceipt_digest_nodup

/-- It is valid. -/
theorem not_suppliedBound_unboundPolicyBundle :
    ¬ SuppliedBound unboundPolicyTables.externals (asBytes unboundPolicyBundle.toValue.text) := by
  have hmem : (firstReceipt.toValue, firstReceipt) ∈ unboundPolicyTables.envelopes :=
    List.mem_singleton_self _
  have hb : unboundPolicyTables.externals.executionBundleFromSlice
      (asBytes unboundPolicyBundle.toValue.text) = .ok unboundPolicyBundle :=
    Tables.executionBundleFromSlice_text (List.mem_singleton_self _)
  have hjson : unboundPolicyTables.externals.fromStr firstReceipt.toValue.text =
      .ok firstReceipt.toValue := Tables.fromStr_text (Tables.mem_values hmem)
  have hnone : ∀ name value declared,
      ¬ DeclaredSidecar unboundPolicyTables.externals unboundPolicyBundle name value declared := by
    rintro name value declared (⟨-, hv, -⟩ | ⟨-, -, hd⟩)
    · cases hv
    · rw [extractPayloadDigests, show unboundPolicyBundle.envelopeCanonical =
        firstReceipt.toValue.text from rfl, hjson] at hd
      cases hd
  have hvalid : (verifyReceipt unboundPolicyTables.externals
      (asBytes firstReceipt.toValue.text)).status = .valid :=
    Tables.verifyReceipt_valid _ hmem (Tables.admissible_of_checks (by decide +kernel))
      (Tables.verifies rfl rfl rfl (List.mem_singleton_self _))
  rw [suppliedBound_iff]
  intro h
  have law : BundleLaw unboundPolicyTables.externals unboundPolicyBundle :=
    ⟨hvalid, fun name value declared hd => absurd hd (hnone name value declared)⟩
  obtain ⟨declared, hd⟩ := h _ hb rfl law "selection_policy" _ (.inr ⟨rfl, rfl⟩)
  exact hnone _ _ _ hd

end VertRule
