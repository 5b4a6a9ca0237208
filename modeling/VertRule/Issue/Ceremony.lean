import VertRule.Issue.Chain
import VertRule.Layers

/-!
# The ceremony

`generate_constitutional_artifact.rs` issues a chain of receipts, signs them, and then verifies what
it wrote (`verify_artifacts`).  Its drafts have a number for `logical_time`, where the verifier
hashes a decimal string, so nothing it issues verifies, and it never gets past its own verification
(`verifyArtifacts_ceremony`).
-/

namespace VertRule

namespace Issue

/-! ### The drafts of the ceremony -/

/-- The digests that all envelopes of the ceremony share. -/
structure Ceremony where
  contextDigest : String
  schemaDigest : String
  policyDigest : String

/-- What one envelope of the ceremony is issued for. -/
structure CeremonyStep where
  payload : Json
  logicalTime : UInt64

/-- The envelope of one crate of the ceremony, before its hash is known.  Its `logical_time` is a
number. -/
def Ceremony.body (ceremony : Ceremony) (step : CeremonyStep) (parentHash : Option String) :
    List (String × Json) :=
  [("envelope_version", .ofU64 1), ("receipt_type", .string "governance"),
    ("context_digest", .string ceremony.contextDigest),
    ("schema_digest", .string ceremony.schemaDigest),
    ("policy_digest", .string ceremony.policyDigest), ("logical_time", .ofU64 step.logicalTime),
    ("boundary_origin", .string "governance"), ("payload", step.payload)] ++
    optField "parent_id" .string parentHash

section Draft

variable {ceremony : Ceremony} {step : CeremonyStep} {parentHash : Option String}

theorem draft_ceremonyBody : Draft (ceremony.body step parentHash) := by
  cases parentHash with
  | none => exact ⟨by simp [Ceremony.body, optField], by simp [Ceremony.body, optField]⟩
  | some parent => exact ⟨by simp [Ceremony.body, optField], by simp [Ceremony.body, optField]⟩

/-- The ceremony commits to a number where the verifier reads back a string. -/
theorem not_commitsAsRead_ceremonyBody {envelope : ReceiptEnvelope} :
    ¬ CommitsAsRead (ceremony.body step parentHash) envelope := by
  intro h
  have htime := h.time
  simp [Ceremony.body, List.lookup_cons, Json.ofU64] at htime

end Draft

/-! ### `verify_artifacts` -/

/-- The files of one crate, with the name of the crate. -/
structure Artifact where
  name : String
  envelope : Bytes
  signature : Bytes

/-- What `verify_artifacts` fails with. -/
inductive ArtifactError where
  | signedReceipt (name : String) (errors : List String)
  | chain (errors : List String)
  | flag (message : String)

section Verify

variable (E : Externals)

/-- The loop over the crates. -/
def verifySignedArtifacts : List Artifact → Except ArtifactError Unit
  | [] => .ok ()
  | artifact :: artifacts => do
    let result := verifySignedReceipt E artifact.envelope artifact.signature
    if result.status ≠ .valid then throw (.signedReceipt artifact.name result.errors)
    verifySignedArtifacts artifacts

/-- The check of one flag of the result. -/
def checkFlag (flag : Bool) (message : String) : Except ArtifactError Unit :=
  if flag then .ok () else .error (.flag message)

/-- `verify_artifacts`, of the files that it reads. -/
def verifyArtifacts (artifacts : List Artifact) (chainBytes : Bytes) :
    Except ArtifactError Unit := do
  verifySignedArtifacts E artifacts
  let result := verifyReceiptChain E chainBytes
  if result.status ≠ .valid then throw (.chain result.errors)
  checkFlag result.digestValidation.chainIntegrity "chain_integrity is false"
  checkFlag result.digestValidation.orderingValid "ordering_valid is false"
  checkFlag (result.contextConsistency.all (·.uniformContext)) "uniform_context is false"
  checkFlag (result.policyConsistency.all (·.stablePolicy)) "stable_policy is false"

variable {E} {artifacts : List Artifact} {chainBytes : Bytes}

theorem verifySignedArtifacts_eq_ok :
    verifySignedArtifacts E artifacts = .ok () ↔ ∀ artifact ∈ artifacts,
      (verifySignedReceipt E artifact.envelope artifact.signature).status = .valid := by
  induction artifacts with
  | nil => simp [verifySignedArtifacts]
  | cons artifact artifacts ih =>
    rw [List.forall_mem_cons, ← ih, verifySignedArtifacts]
    by_cases h : (verifySignedReceipt E artifact.envelope artifact.signature).status = .valid
    · simp [h]
    · simp [h]

/-- Of `verify_artifacts`, only the verdicts can fail: where the chain is valid, so is every
flag that is checked after it. -/
theorem verifyArtifacts_eq_ok :
    verifyArtifacts E artifacts chainBytes = .ok () ↔
      (∀ artifact ∈ artifacts,
        (verifySignedReceipt E artifact.envelope artifact.signature).status = .valid) ∧
        (verifyReceiptChain E chainBytes).status = .valid := by
  rw [← verifySignedArtifacts_eq_ok, verifyArtifacts]
  cases verifySignedArtifacts E artifacts with
  | error e => simp
  | ok u =>
    by_cases h : (verifyReceiptChain E chainBytes).status = .valid
    · have hpos := verifyReceiptChain_consistent.positive h
      have hcontext : (verifyReceiptChain E chainBytes).contextConsistency.all
          (·.uniformContext) = true := (Option.all_eq_true _ _).2 hpos.uniformContext
      have hpolicy : (verifyReceiptChain E chainBytes).policyConsistency.all
          (·.stablePolicy) = true :=
        (Option.all_eq_true _ _).2 fun p hp => (hpos.stablePolicy p hp).1
      simp [h, checkFlag, hpos.chainIntegrity, hpos.orderingValid, hcontext, hpolicy]
    · simp [h]

end Verify

/-! ### The ceremony fails -/

section Fails

variable {E : Externals} {norm : Json → Json} {ceremony : Ceremony} {steps : List CeremonyStep}
  {values : List Json} {artifacts : List Artifact} {chainBytes : Bytes}
  {parentHash : Option String} {envelope : ReceiptEnvelope}

/-- The verifier reads the envelope in the files. -/
def ReadsEnvelope (E : Externals) (artifacts : List Artifact) (chainBytes : Bytes)
    (envelope : ReceiptEnvelope) : Prop :=
  (∃ artifact ∈ artifacts, ingestEnvelope E artifact.envelope = .ok envelope) ∨
    ∃ es, ingestChain E chainBytes = .ok es ∧ envelope ∈ es

/-- What the verifier reads in the files does not collide with the drafts that were sealed. -/
def Separates (E : Externals) (ceremony : Ceremony) (values : List Json)
    (artifacts : List Artifact) (chainBytes : Bytes) : Prop :=
  ∀ envelope, ReadsEnvelope E artifacts chainBytes envelope →
    ∀ step parentHash eventHash, ∀ value ∈ values,
      sealEnvelope E (ceremony.body step parentHash) = .ok (eventHash, value) →
        HashSeparates E (ceremony.body step parentHash) envelope

/-- Every envelope of an issued chain was sealed. -/
theorem exists_sealed_of_mem {α : Type*} {body : α → Option String → List (String × Json)}
    {steps : List α} (hissue : issueChain E body parentHash steps = .ok values) :
    ∀ value ∈ values, ∃ step parentHash eventHash,
      sealEnvelope E (body step parentHash) = .ok (eventHash, value) := by
  induction steps generalizing parentHash values with
  | nil =>
    obtain rfl := Except.ok.inj hissue
    simp
  | cons step steps ih =>
    obtain ⟨eventHash, value, rest, hseal, hrest, rfl⟩ := issueChain_cons_eq_ok.1 hissue
    exact List.forall_mem_cons.2 ⟨⟨step, _, _, hseal⟩, ih hrest⟩

/-- What is read back of a draft of the ceremony does not verify. -/
theorem ReadBack.not_verifies (laws : IssueLaws E norm) {step : CeremonyStep} {eventHash : String}
    {value v : Json}
    (hseal : sealEnvelope E (ceremony.body step parentHash) = .ok (eventHash, value))
    (h : ReadBack E norm (ceremony.body step parentHash) eventHash v envelope)
    (hsep : HashSeparates E (ceremony.body step parentHash) envelope) :
    ¬ envelope.Verifies E := fun hver =>
  not_commitsAsRead_ceremonyBody <| h.commitsAsRead laws draft_ceremonyBody hseal hsep
    (verifyEventHash_eq_ok.1 hver.eventHash)

theorem verifyReceipt_ceremony_ne_valid (laws : IssueLaws E norm)
    (hsep : Separates E ceremony values artifacts chainBytes)
    (hissue : issueChain E ceremony.body parentHash steps = .ok values) {artifact : Artifact}
    (hartifact : artifact ∈ artifacts) {value : Json} (hvalue : value ∈ values)
    (hraw : typedCanonBytes E value = .ok artifact.envelope) :
    (verifyReceipt E artifact.envelope).status ≠ .valid := by
  intro hvalid
  obtain ⟨envelope, hi, hver⟩ := verifyReceipt_valid_iff.1 hvalid
  obtain ⟨step, parent, eventHash, hseal⟩ := exists_sealed_of_mem hissue value hvalue
  obtain ⟨v, hread⟩ := readBack_of_ingest laws hseal hraw hi
  exact hread.not_verifies laws hseal
    (hsep envelope (.inl ⟨artifact, hartifact, hi⟩) step parent eventHash value hvalue hseal) hver

theorem verifyReceiptChain_ceremony_ne_valid (laws : IssueLaws E norm)
    (hsep : Separates E ceremony values artifacts chainBytes) (hne : steps ≠ [])
    (hissue : issueChain E ceremony.body none steps = .ok values)
    (hraw : typedCanonBytes E (.array values) = .ok chainBytes) :
    (verifyReceiptChain E chainBytes).status ≠ .valid := by
  intro hvalid
  obtain ⟨es, hi, hver, -⟩ := verifyReceiptChain_valid_iff.1 hvalid
  obtain ⟨step, steps, rfl⟩ := List.exists_cons_of_ne_nil hne
  obtain ⟨_, first, _, hfirst, -, rfl⟩ := issueChain_cons_eq_ok.1 hissue
  cases readChain_of_ingest laws hissue hraw hi with
  | cons hseal hread _ =>
    obtain rfl := (Prod.mk.inj (Except.ok.inj (hfirst.symm.trans hseal))).2
    exact hread.not_verifies laws hseal
      (hsep _ (.inr ⟨_, hi, List.mem_cons_self⟩) _ _ _ first List.mem_cons_self hseal)
      (hver _ List.mem_cons_self)

/-- **The ceremony does not get past its own verification**: none of its receipts is valid, nor is
its chain. -/
theorem verifyArtifacts_ceremony (laws : IssueLaws E norm)
    (hsep : Separates E ceremony values artifacts chainBytes) (hne : steps ≠ [])
    (hissue : issueChain E ceremony.body none steps = .ok values)
    (hraw : typedCanonBytes E (.array values) = .ok chainBytes)
    (hfiles : ∀ artifact ∈ artifacts, ∃ value ∈ values,
      typedCanonBytes E value = .ok artifact.envelope) :
    (∀ artifact ∈ artifacts, (verifyReceipt E artifact.envelope).status ≠ .valid) ∧
      (verifyReceiptChain E chainBytes).status ≠ .valid ∧
      verifyArtifacts E artifacts chainBytes ≠ .ok () := by
  have hchain := verifyReceiptChain_ceremony_ne_valid laws hsep hne hissue hraw
  refine ⟨fun artifact hmem => ?_, hchain, fun hok => hchain ?_⟩
  · obtain ⟨value, hvalue, hcanon⟩ := hfiles artifact hmem
    exact verifyReceipt_ceremony_ne_valid laws hsep hissue hmem hvalue hcanon
  · exact (verifyArtifacts_eq_ok.1 hok).2

end Fails

/-! ### A ceremony for one crate -/

/-- What the verifier decodes of the envelope that is issued. -/
def ceremonyReceipt : ReceiptEnvelope :=
  { firstReceipt with
    eventHash := .ofNat 0xeb9422a3b96b6565215a0b52dcae3602b75435aa234a41c26879bfe196d53aa0
    boundaryOrigin := some .governance }

/-- The envelope as it is issued, in canonical order. -/
def ceremonyValue : Json :=
  .object (ceremonyReceipt.fields.map fun f =>
    if f.1 = "logical_time" then (f.1, .ofU64 ceremonyReceipt.logicalTime) else f)

/-- The fields of the ceremony, in canonical order. -/
def ceremonyDraft : Json := .object (Json.removeKey (ceremonyReceipt.fields.map fun f =>
  if f.1 = "logical_time" then (f.1, .ofU64 ceremonyReceipt.logicalTime) else f) "event_hash")

/-- The hash the verifier computes. -/
def ceremonyHash : DigestBytes :=
  .ofNat 0x25784f747155d4eca6e763e30e1c4fac93966eb9bc41562cd5763e2474fbe2a7

/-- What the ceremony hashes, and what the verifier hashes of it. -/
def ceremonyTables : Tables where
  envelopes := [(ceremonyValue, ceremonyReceipt)]
  others := [ceremonyDraft, ceremonyReceipt.body, .array [ceremonyValue]]
  digests := [(ceremonyDraft, ceremonyReceipt.eventHash), (ceremonyReceipt.body, ceremonyHash)]
  texts_nodup := by decide +kernel

theorem issueLaws_ceremonyTables : IssueLaws (issuing ceremonyTables) Json.sorted := by
  refine issueLaws_issuing ?_ ?_
  · simp only [Tables.values, ceremonyTables, List.map_cons, List.map_nil, List.cons_append,
      List.nil_append, List.mem_cons, List.not_mem_nil, or_false]
    rintro u (rfl | rfl | rfl | rfl) <;> decide +kernel
  · simp only [ceremonyTables, List.mem_cons, List.not_mem_nil, or_false]
    rintro p rfl
    refine ⟨⟨?_, ?_⟩, fun s hs => ?_⟩
    · simp only [ReceiptEnvelope.required, List.mem_cons, List.not_mem_nil, or_false]
      rintro f (rfl | rfl | rfl | rfl | rfl | rfl | rfl) <;> rfl
    · simp only [ReceiptEnvelope.optional, List.mem_cons, List.not_mem_nil, or_false]
      rintro f (rfl | rfl | rfl | rfl | rfl) <;> exact .inl rfl
    · have hget : ceremonyValue.get "logical_time" = some (.ofU64 1000) := rfl
      rw [hget] at hs
      simp [Json.ofU64] at hs

/-- A ceremony with the digests of the test vectors. -/
def firstCeremony : Ceremony where
  contextDigest := hexEncode (List.replicate 32 0xaa)
  schemaDigest := hexEncode (List.replicate 32 0xbb)
  policyDigest := hexEncode (List.replicate 32 0xcc)

/-- The one step of the ceremony. -/
def firstStep : CeremonyStep where
  payload := governancePayload
  logicalTime := 1000

/-- The draft of the step. -/
def ceremonyBody : List (String × Json) := firstCeremony.body firstStep none

/-- The envelope as it is issued, with its members in the order of the issuer. -/
def ceremonyIssued : Json := .object (withEventHash ceremonyBody ceremonyReceipt.eventHash.toHex)

theorem issueChain_firstStep :
    issueChain (issuing ceremonyTables) firstCeremony.body none [firstStep] =
      .ok [ceremonyIssued] := by
  have hseal : sealEnvelope (issuing ceremonyTables) ceremonyBody = _ :=
    sealEnvelope_issuing (u := ceremonyDraft) (d := ceremonyReceipt.eventHash) (by decide +kernel)
      (by simp [Tables.values, ceremonyTables]) (by decide +kernel) (by simp [ceremonyTables])
  exact issueChain_cons_eq_ok.2 ⟨_, _, _, hseal, rfl, rfl⟩

theorem typedCanonBytes_ceremonyIssued : typedCanonBytes (issuing ceremonyTables) ceremonyIssued =
    .ok (asBytes ceremonyValue.text) :=
  typedCanonBytes_issuing_of_sorted (by decide +kernel) (by simp [Tables.values, ceremonyTables])
    (by decide +kernel)

theorem typedCanonBytes_ceremonyChain :
    typedCanonBytes (issuing ceremonyTables) (.array [ceremonyIssued]) =
      .ok (asBytes (Json.array [ceremonyValue]).text) :=
  typedCanonBytes_issuing_of_sorted (by decide +kernel) (by simp [Tables.values, ceremonyTables])
    (by decide +kernel)

/-- Without an `event_hash`, what is listed is a draft with its number or a serialized envelope with
its string. -/
theorem listed_without_eventHash {u : Json} (h : u ∈ ceremonyTables.values)
    (hhash : u.get "event_hash" = none) {time : Json} (htime : u.get "logical_time" = some time) :
    (u = ceremonyDraft ∧ time = .ofU64 1000) ∨
      (u = ceremonyReceipt.body ∧ time = .string "1000") := by
  simp only [Tables.values, ceremonyTables, List.map_cons, List.map_nil, List.cons_append,
    List.nil_append, List.mem_cons, List.not_mem_nil, or_false] at h
  rcases h with rfl | rfl | rfl | rfl
  · have hsome : ceremonyValue.get "event_hash" = some ceremonyReceipt.eventHash.toValue := rfl
    rw [hsome] at hhash
    cases hhash
  · exact .inl ⟨rfl, (Option.some.inj htime).symm⟩
  · exact .inr ⟨rfl, (Option.some.inj htime).symm⟩
  · cases htime

/-- The files of the crate; the signature is never read. -/
def firstArtifact : Artifact where
  name := "vertrule-schemas"
  envelope := asBytes ceremonyValue.text
  signature := []

theorem separates_ceremonyTables :
    Separates (issuing ceremonyTables) firstCeremony [ceremonyIssued] [firstArtifact]
      (asBytes (Json.array [ceremonyValue]).text) := by
  intro envelope _ step parentHash eventHash value hvalue hseal c c' hc hc' heq
  obtain rfl := List.mem_singleton.1 hvalue
  obtain ⟨-, -, -, hissued⟩ := sealEnvelope_eq_ok.1 hseal
  -- the draft is the one that was issued
  have hsame : ceremonyBody = firstCeremony.body step parentHash :=
    (List.append_inj' (Json.object.inj hissued) rfl).1
  rw [← hsame] at hc
  obtain ⟨-, -, hc⟩ := typedCanonBytes_issuing.1 hc
  obtain ⟨hmem', -, hc'⟩ := typedCanonBytes_issuing.1 hc'
  have hdraft : (Json.object ceremonyBody).sorted = ceremonyDraft := by decide +kernel
  have hbody : envelope.body.sorted = ceremonyReceipt.body := by
    have hnodup : ((Json.removeKey envelope.fields "event_hash").map Prod.fst).Nodup :=
      envelope.nodup_keys.sublist (List.filter_sublist.map _)
    have hhash : envelope.body.sorted.get "event_hash" = none := by
      rw [ReceiptEnvelope.body, Json.get_sorted_object hnodup, lookup_removeKey_self,
        Option.map_none]
    have htime : envelope.body.sorted.get "logical_time" =
        some (.string (toString envelope.logicalTime.toNat)) := by
      rw [ReceiptEnvelope.body, Json.get_sorted_object hnodup, Json.lookup_removeKey (by decide),
        envelope.lookup_fields_time]
      rfl
    rcases listed_without_eventHash hmem' hhash htime with ⟨-, h⟩ | ⟨h, -⟩
    · simp [Json.ofU64] at h
    · exact h
  rw [hc, hc', hdraft, hbody, blake3_text_issuing (d := ceremonyHash) (by simp [ceremonyTables]),
    blake3_text_issuing (d := ceremonyReceipt.eventHash) (by simp [ceremonyTables])] at heq
  exact absurd heq (by decide +kernel)

theorem ceremony_firstArtifact :
    (∀ artifact ∈ [firstArtifact],
      (verifyReceipt (issuing ceremonyTables) artifact.envelope).status ≠ .valid) ∧
      (verifyReceiptChain (issuing ceremonyTables)
        (asBytes (Json.array [ceremonyValue]).text)).status ≠ .valid ∧
      verifyArtifacts (issuing ceremonyTables) [firstArtifact]
        (asBytes (Json.array [ceremonyValue]).text) ≠ .ok () := by
  refine verifyArtifacts_ceremony issueLaws_ceremonyTables separates_ceremonyTables
    (List.cons_ne_nil _ _) issueChain_firstStep typedCanonBytes_ceremonyChain ?_
  intro artifact hmem
  obtain rfl := List.mem_singleton.1 hmem
  refine ⟨ceremonyIssued, List.mem_singleton_self _, ?_⟩
  dsimp only [firstArtifact]
  exact typedCanonBytes_ceremonyIssued

end Issue

end VertRule
