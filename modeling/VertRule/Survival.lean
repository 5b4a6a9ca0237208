import VertRule.CliLaw

/-!
# The verdict survives transport

A report carries its verdict out of the verifier when it has its canonical forms, its status is what
a browser reads, and the process exits with it.  For a chain, and for a signed receipt under a trust
policy, that comes down to integers that a double holds exactly (`verdict_survives_iff`).  Otherwise
a chain is invalid to the browser and a usage error to the shell, whatever its verdict
(`verdict_lost`), as a valid chain of two receipts is (`not_chainSurvives_farReceipts`).
-/

namespace VertRule

open Cli

variable (E : Externals)

/-- A report has its canonical forms, and `exit` tells its verdict. -/
structure Survives (result : VerificationResult) (exit : ExitCode) : Prop where
  canonBytes : ∃ canonBytes, result.toCanonBytes E = .ok canonBytes
  canonString : ∃ s, result.toCanonString E = .ok s
  digest : ∃ d, result.digest E = .ok d
  exit_valid : exit = 0 ↔ result.status = .valid
  exit_invalid : exit = 1 ↔ result.status = .invalid

/-- The verdict on a chain survives, to a browser and to a process that exits with `exit`. -/
structure ChainSurvives (rawBytes : Bytes) (exit : ExitCode) : Prop where
  survives : Survives E (verifyReceiptChain E rawBytes) exit
  wasm : ∀ chainJson, asBytes chainJson = rawBytes →
    (statusOf E (verifyChainJson E chainJson) = some "VALID" ↔
      (verifyReceiptChain E rawBytes).status = .valid)

variable {E} {admits : Char → Prop} {P : Platform} {result : VerificationResult}

/-! ### Runs -/

section Runs

variable {args : List String} {path receiptPath sigPath trustPath : String}
  {rawBytes sigBytes : Bytes} {authoritySet : AuthoritySet} {trustPolicy : TrustPolicy}

/-- A `chain` command without limit flags emits the report on its file. -/
theorem main_chain (hs : (Command.chain path {}).Spells P.maxUsize args.tail)
    (hfile : P.readFile path = .ok rawBytes) :
    main E P args = emitResult E P (verifyReceiptChain E rawBytes) := by
  rw [main_eq_run hs]
  simp only [Command.run, runChain, withFile, hfile]
  rfl

/-- A `signed` command with a trust file emits the report under that trust. -/
theorem main_trusted
    (hs : (Command.signed receiptPath sigPath (some trustPath)).Spells P.maxUsize args.tail)
    (hreceipt : P.readFile receiptPath = .ok rawBytes) (hsig : P.readFile sigPath = .ok sigBytes)
    (htrust : loadTrustConfig E P trustPath = .ok (authoritySet, trustPolicy)) :
    main E P args =
      emitResult E P (verifySignedReceiptWithTrust E rawBytes sigBytes authoritySet trustPolicy) := by
  rw [main_eq_run hs]
  simp only [Command.run, runSigned, withFile, hreceipt, hsig, htrust]

/-- A trust file without a policy leaves the default one. -/
theorem loadTrustConfig_of_no_policy {value v : Json} (hfile : P.readFile path = .ok rawBytes)
    (hread : E.fromSlice rawBytes = .ok value) (hget : value.get "authority_set" = some v)
    (hset : P.authoritySetFromValue v = .ok authoritySet)
    (hpolicy : value.get "trust_policy" = none) :
    loadTrustConfig E P path = .ok (authoritySet, .default) := by
  simp only [loadTrustConfig, hfile, hread, hget, hset, hpolicy, bind, Except.bind, pure,
    Except.pure]

end Runs

/-- The exit code of a report that has its canonical bytes. -/
theorem emitResult_exit_iff (hwrite : ∀ bytes, P.writeAll bytes = .ok ())
    (h : ∃ canonBytes, result.toCanonBytes E = .ok canonBytes) (status : VerificationStatus) :
    (emitResult E P result).exit = exitCode status ↔ result.status = status := by
  obtain ⟨canonBytes, h⟩ := h
  refine emitReport_exit.trans ⟨fun h => h.1, fun hstatus => ⟨hstatus, canonBytes, h, hwrite _⟩⟩

/-- A report without canonical bytes is emitted as a usage error. -/
theorem emitResult_exit_error {e : VerifyError} (he : result.toCanonBytes E = .error e) :
    (emitResult E P result).exit = 2 := by
  have he : typedCanonBytes E result.report.value = .error e := he
  simp [emitResult, emitReport, he, Run.error]

/-- A report survives the command line exactly when its value is admitted. -/
theorem survives_iff (hwrite : ∀ bytes, P.writeAll bytes = .ok ())
    (hc : CanonLaws E admits result.toValue) :
    Survives E result (emitResult E P result).exit ↔ result.toValue.Admitted admits := by
  constructor
  · exact fun h => hc.bytes.1 h.canonBytes
  · intro h
    have hbytes := hc.bytes.2 h
    have hexit := emitResult_exit_iff hwrite hbytes
    obtain ⟨canonBytes, hcb⟩ := hbytes
    refine ⟨⟨canonBytes, hcb⟩, hc.string.2 h, ⟨E.blake3 canonBytes, ?_⟩, hexit .valid,
      hexit .invalid⟩
    simp [VerificationResult.digest, hcb]

/-! ### The verdict survives -/

/-- **When the verdict survives transport.**  For a chain: exactly when a double holds the first and
the last logical time of the ingested chain.  For a signed receipt under a trust policy: exactly
when a double holds the current epoch, where trust is evaluated.  Text that reports repeat from
unadmitted input has to be admitted. -/
theorem verdict_survives_iff (hwrite : ∀ bytes, P.writeAll bytes = .ok ())
    (laws : EchoLaws E admits) {chainArgs signedArgs : List String}
    {chainPath receiptPath sigPath trustPath : String} {chainBytes rawBytes sigBytes : Bytes}
    {authoritySet : AuthoritySet} {trustPolicy : TrustPolicy}
    (hchainArgs : (Command.chain chainPath {}).Spells P.maxUsize chainArgs.tail)
    (hchainFile : P.readFile chainPath = .ok chainBytes)
    (hsignedArgs : (Command.signed receiptPath sigPath (some trustPath)).Spells P.maxUsize
      signedArgs.tail)
    (hreceipt : P.readFile receiptPath = .ok rawBytes) (hsig : P.readFile sigPath = .ok sigBytes)
    (htrust : loadTrustConfig E P trustPath = .ok (authoritySet, trustPolicy))
    (hchain : CanonLaws E admits (verifyReceiptChain E chainBytes).toValue)
    (hreads : ReadsBack E (verifyReceiptChain E chainBytes).toValue)
    (hsigned : CanonLaws E admits
      (verifySignedReceiptWithTrust E rawBytes sigBytes authoritySet trustPolicy).toValue) :
    (ChainSurvives E chainBytes (main E P chainArgs).exit ↔
        ChainTransportable E admits chainBytes) ∧
      (Survives E (verifySignedReceiptWithTrust E rawBytes sigBytes authoritySet trustPolicy)
          (main E P signedArgs).exit ↔
        SignedTransportable E admits rawBytes sigBytes authoritySet trustPolicy) := by
  rw [main_chain hchainArgs hchainFile, main_trusted hsignedArgs hreceipt hsig htrust]
  constructor
  · rw [← verifyReceiptChain_admitted_iff laws]
    constructor
    · exact fun h => (survives_iff hwrite hchain).1 h.survives
    · intro h
      refine ⟨(survives_iff hwrite hchain).2 h, ?_⟩
      rintro chainJson rfl
      rw [verifyChainJson, statusOf_resultToJson hreads (hchain.string.2 h),
        display_eq_valid]
  · rw [← verifySignedReceiptWithTrust_admitted_iff laws]
    exact survives_iff hwrite hsigned

/-- Otherwise a chain leaves the WASM boundary as `INVALID` and the command line as a usage
error, whatever its verdict. -/
theorem verdict_lost {args : List String} {path chainJson : String} (laws : EchoLaws E admits)
    (hs : (Command.chain path {}).Spells P.maxUsize args.tail)
    (hfile : P.readFile path = .ok (asBytes chainJson))
    (hchain : CanonLaws E admits (verifyReceiptChain E (asBytes chainJson)).toValue)
    (hfallback : FallbackLaws E (verifyReceiptChain E (asBytes chainJson)))
    (h : ¬ ChainTransportable E admits (asBytes chainJson)) :
    statusOf E (verifyChainJson E chainJson) = some "INVALID" ∧ (main E P args).exit = 2 := by
  rw [← verifyReceiptChain_admitted_iff laws] at h
  rw [main_chain hs hfile]
  constructor
  · cases hstring : (verifyReceiptChain E (asBytes chainJson)).toCanonString E with
    | error e => exact statusOf_resultToJson_error hfallback hstring
    | ok s => exact absurd (hchain.string.1 ⟨s, hstring⟩) h
  · cases hbytes : (verifyReceiptChain E (asBytes chainJson)).toCanonBytes E with
    | error e => exact emitResult_exit_error hbytes
    | ok b => exact absurd (hchain.bytes.1 ⟨b, hbytes⟩) h

/-! ### A chain whose last logical time is `2 ^ 53 + 1` -/

/-- The second receipt of a chain, at a logical time that no double holds. -/
def farReceipt : ReceiptEnvelope :=
  vectorEnvelope .governance 9007199254740993 governancePayload
    (.ofNat 0xc56e0920447ba47f73b0af2c6505843e33f7743f8267dfe6b19c4f2bb23b08c1)
    (some firstReceipt.eventHash)

/-- The chain, as JSON. -/
def farReceipts : Json := .array [firstReceipt.toValue, farReceipt.toValue]

/-- The report on a valid chain. -/
def VerificationResult.validChain (chain : ChainValidation) : VerificationResult :=
  { VerificationResult.validSingle with
    chainValidation := some chain
    contextConsistency := some ⟨true⟩
    policyConsistency := some ⟨true, false⟩
    schemaConsistency := some ⟨true⟩ }

/-- The report on a valid receipt with a signature bundle that is not one. -/
def unsignedReport : VerificationResult :=
  { VerificationResult.validSingle.addError s!"invalid signature bundle: {Tables.unlisted}" with
    signatureValidation := some ⟨true, false, false⟩ }

/-- A trust file: an authority set without keys, and no policy. -/
def trustConfig : Json :=
  .object [("authority_set", .object [("keys", .object []), ("revocations", .object []),
    ("set_id", .string "authority")])]

/-- The two chains, their reports, and the texts that stand in for a report. -/
def transportTables : Tables where
  envelopes := [(firstReceipt.toValue, firstReceipt), (secondReceipt.toValue, secondReceipt),
    (farReceipt.toValue, farReceipt)]
  others := [twoReceipts, farReceipts, trustConfig,
    (VerificationResult.validChain ⟨2, 1000, 1001⟩).toValue,
    (VerificationResult.validChain ⟨2, 1000, 9007199254740993⟩).toValue, unsignedReport.toValue,
    fallbackError "internal verifier error",
    fallbackError "canonicalization error: canonicalization error: integer out of range"]
  digests := [(firstReceipt.body, firstReceipt.eventHash),
    (secondReceipt.body, secondReceipt.eventHash), (farReceipt.body, farReceipt.eventHash)]
  texts_nodup := by decide +kernel

/-- The report on a chain whose envelopes verify and whose rules hold. -/
theorem verifyChainEnvelopes_eq {first : ReceiptEnvelope} {rest : List ReceiptEnvelope}
    (hv : ∀ env ∈ first :: rest, env.Verifies E) (hc : ValidChain (first :: rest)) :
    verifyChainEnvelopes E (first :: rest) = .validChain ⟨(first :: rest).length,
      first.logicalTime, ((first :: rest).getLast (List.cons_ne_nil _ _)).logicalTime⟩ := by
  have he := checkChainDetail_errors_eq_nil.2 hc
  obtain ⟨hl, ho, hctx, hpol, hsch⟩ := checkChainDetail_flags he
  simp [verifyChainEnvelopes, checkPerEnvelope, checkPerEnvelopeFrom_of_verifies hv, he, hl, ho,
    hctx, hpol, hsch, VerificationResult.validChain, VerificationResult.validSingle]

theorem transportTables_echoLaws : EchoLaws transportTables.externals fun _ => True :=
  Tables.echoLaws (by decide +kernel)

theorem ingestChain_farReceipts :
    ingestChain transportTables.externals (asBytes farReceipts.text) =
      .ok [firstReceipt, farReceipt] := by
  refine Tables.ingestChain_text (l := [(firstReceipt.toValue, firstReceipt),
    (farReceipt.toValue, farReceipt)]) rfl ?_ ?_ ?_ ?_ (by decide) ?_
  · simp [transportTables, Tables.values]
  · decide +kernel
  · decide +kernel
  · decide +kernel
  · simp only [List.mem_cons, List.not_mem_nil, or_false]
    rintro p (rfl | rfl)
    · exact ⟨by simp [transportTables], by decide +kernel, by decide +kernel⟩
    · exact ⟨by simp [transportTables], by decide +kernel, by decide +kernel⟩

theorem validChain_farReceipts : ValidChain [firstReceipt, farReceipt] where
  parentless := rfl
  linked := by
    rw [List.isChain_pair]
    exact ⟨rfl, by decide⟩
  context := by simp [firstReceipt, farReceipt, vectorEnvelope]
  policy := by simp [firstReceipt, farReceipt, vectorEnvelope]
  schema := by simp [firstReceipt, farReceipt, vectorEnvelope]
  distinct := by
    have hne : firstReceipt.eventHash ≠ farReceipt.eventHash := by decide +kernel
    simp [hne]

theorem verifyReceiptChain_farReceipts :
    verifyReceiptChain transportTables.externals (asBytes farReceipts.text) =
      .validChain ⟨2, 1000, 9007199254740993⟩ := by
  have hv : ∀ env ∈ [firstReceipt, farReceipt], env.Verifies transportTables.externals := by
    simp only [List.mem_cons, List.not_mem_nil, or_false]
    rintro env (rfl | rfl)
    · exact Tables.verifies rfl rfl rfl (by simp [transportTables])
    · exact Tables.verifies rfl rfl rfl (by simp [transportTables])
  rw [verifyReceiptChain, ingestChain_farReceipts]
  exact verifyChainEnvelopes_eq hv validChain_farReceipts

theorem far_mem_values :
    (VerificationResult.validChain ⟨2, 1000, 9007199254740993⟩).toValue ∈
      transportTables.values := by
  simp [transportTables, Tables.values]

theorem canonicalizationError_outOfRange {e : VerifyError}
    (he : e = .canon "integer out of range") :
    s!"canonicalization error: {transportTables.externals.message e}" =
      "canonicalization error: canonicalization error: integer out of range" := by
  subst he
  decide +kernel

/-- A directory with the chains, a receipt, a signature file that is empty and a trust file. -/
def transportPlatform : Platform where
  maxUsize := 2 ^ 64 - 1
  readFile path :=
    if path = "far.json" then .ok (asBytes farReceipts.text)
    else if path = "chain.json" then .ok (asBytes twoReceipts.text)
    else if path = "receipt.json" then .ok (asBytes firstReceipt.toValue.text)
    else if path = "signature.json" then .ok []
    else if path = "trust.json" then .ok (asBytes trustConfig.text)
    else .error "No such file or directory (os error 2)"
  writeAll _ := .ok ()
  authoritySetFromValue v :=
    if trustConfig.get "authority_set" = some v then .ok (.new "authority")
    else .error "missing field"
  trustPolicyFromValue _ := .error "missing field"
  metadataToVec _ := .error "not listed"

theorem spells_chain (path : String) :
    (Command.chain path {}).Spells transportPlatform.maxUsize
      (List.tail ["vr-verify", "chain", path]) :=
  .chain (parseLimitArgs_eq_ok.1 rfl)

theorem not_transportable_farReceipts :
    ¬ ChainTransportable transportTables.externals (fun _ => True) (asBytes farReceipts.text) := by
  intro h
  have hlast := h.last _ ingestChain_farReceipts farReceipt rfl
  exact absurd hlast (by decide)

theorem fallbackLaws_farReceipts : FallbackLaws transportTables.externals
    (verifyReceiptChain transportTables.externals (asBytes farReceipts.text)) := by
  refine ⟨fun e he => ?_, ?_⟩
  · rw [verifyReceiptChain_farReceipts, VerificationResult.toCanonString,
      Tables.typedCanonString_text far_mem_values, if_neg (by decide +kernel)] at he
    refine Tables.readsBack ?_
    rw [canonicalizationError_outOfRange (Except.error.inj he).symm]
    simp [transportTables, Tables.values]
  · rw [staticFallback_eq]
    exact Tables.fromStr_text (by simp [transportTables, Tables.values])

/-- The chain is valid, the WASM output says it is not, and the command line reports a usage
error. -/
theorem not_chainSurvives_farReceipts :
    (verifyReceiptChain transportTables.externals (asBytes farReceipts.text)).status = .valid ∧
      statusOf transportTables.externals
        (verifyChainJson transportTables.externals farReceipts.text) = some "INVALID" ∧
      (main transportTables.externals transportPlatform
        ["vr-verify", "chain", "far.json"]).exit = 2 ∧
      ¬ ChainSurvives transportTables.externals (asBytes farReceipts.text)
        (main transportTables.externals transportPlatform
          ["vr-verify", "chain", "far.json"]).exit := by
  have hvalid : (verifyReceiptChain transportTables.externals
      (asBytes farReceipts.text)).status = .valid := by
    rw [verifyReceiptChain_farReceipts]
    rfl
  have hchain : CanonLaws transportTables.externals (fun _ => True)
      (verifyReceiptChain transportTables.externals (asBytes farReceipts.text)).toValue := by
    rw [verifyReceiptChain_farReceipts]
    exact Tables.canonLaws far_mem_values
  have hfile : transportPlatform.readFile "far.json" = .ok (asBytes farReceipts.text) := by
    simp [transportPlatform]
  obtain ⟨hwasm, hexit⟩ := verdict_lost transportTables_echoLaws (spells_chain "far.json") hfile
    hchain fallbackLaws_farReceipts not_transportable_farReceipts
  refine ⟨hvalid, hwasm, hexit, fun h => ?_⟩
  rw [hexit] at h
  exact absurd (h.survives.exit_valid.2 hvalid) (by decide)

/-! ### A chain and a receipt whose verdicts survive -/

theorem transportTables_ingestChain :
    ingestChain transportTables.externals (asBytes twoReceipts.text) =
      .ok [firstReceipt, secondReceipt] :=
  ingestChain_twoReceipts (by simp [transportTables, Tables.values]) (by simp [transportTables])
    (by simp [transportTables])

theorem verifyReceiptChain_twoReceipts :
    verifyReceiptChain transportTables.externals (asBytes twoReceipts.text) =
      .validChain ⟨2, 1000, 1001⟩ := by
  have hv : ∀ env ∈ [firstReceipt, secondReceipt], env.Verifies transportTables.externals := by
    simp only [List.mem_cons, List.not_mem_nil, or_false]
    rintro env (rfl | rfl)
    · exact Tables.verifies rfl rfl rfl (by simp [transportTables])
    · exact Tables.verifies rfl rfl rfl (by simp [transportTables])
  rw [verifyReceiptChain, transportTables_ingestChain]
  exact verifyChainEnvelopes_eq hv validChain_twoReceipts

theorem transportTables_ingestEnvelope :
    ingestEnvelope transportTables.externals (asBytes firstReceipt.toValue.text) =
      .ok firstReceipt := by
  exact Tables.ingestEnvelope_text (by simp [transportTables])
    (Tables.admissible_of_checks (by decide +kernel))

theorem verifySignedReceiptWithTrust_firstReceipt :
    verifySignedReceiptWithTrust transportTables.externals (asBytes firstReceipt.toValue.text) []
      (.new "authority") .default = unsignedReport := by
  have hverifies : firstReceipt.Verifies transportTables.externals :=
    Tables.verifies rfl rfl rfl (by simp [transportTables])
  rw [verifySignedReceiptWithTrust, transportTables_ingestEnvelope]
  dsimp only
  rw [verifySingleEnvelope_of_verifies hverifies]
  rfl

theorem loadTrustConfig_trustConfig :
    loadTrustConfig transportTables.externals transportPlatform "trust.json" =
      .ok (.new "authority", .default) := by
  have hread : transportTables.externals.fromStr trustConfig.text = .ok trustConfig :=
    Tables.fromStr_text (by simp [transportTables, Tables.values])
  refine loadTrustConfig_of_no_policy (by simp [transportPlatform]) hread rfl ?_ rfl
  simp [transportPlatform, trustConfig]

theorem spells_trusted :
    (Command.signed "receipt.json" "signature.json" (some "trust.json")).Spells
      transportPlatform.maxUsize
      (List.tail ["vr-verify", "signed", "receipt.json", "signature.json", "--trust",
        "trust.json"]) :=
  .signed (parseTrustArg_eq_ok.1 rfl)

/-- The verdict on the chain of two survives, and so does that on a receipt without a signature
bundle. -/
theorem verdict_survives_twoReceipts :
    ChainSurvives transportTables.externals (asBytes twoReceipts.text)
        (main transportTables.externals transportPlatform
          ["vr-verify", "chain", "chain.json"]).exit ∧
      Survives transportTables.externals
        (verifySignedReceiptWithTrust transportTables.externals
          (asBytes firstReceipt.toValue.text) [] (.new "authority") .default)
        (main transportTables.externals transportPlatform
          ["vr-verify", "signed", "receipt.json", "signature.json", "--trust",
            "trust.json"]).exit := by
  have hmem : (VerificationResult.validChain ⟨2, 1000, 1001⟩).toValue ∈ transportTables.values := by
    simp [transportTables, Tables.values]
  have hmem' : unsignedReport.toValue ∈ transportTables.values := by
    simp [transportTables, Tables.values]
  have hi := transportTables_ingestChain
  obtain ⟨hchain, hsigned⟩ := verdict_survives_iff (P := transportPlatform) (fun _ => rfl)
    transportTables_echoLaws (spells_chain "chain.json") (by simp [transportPlatform])
    spells_trusted (by simp [transportPlatform]) (by simp [transportPlatform])
    loadTrustConfig_trustConfig (verifyReceiptChain_twoReceipts ▸ Tables.canonLaws hmem)
    (verifyReceiptChain_twoReceipts ▸ Tables.readsBack hmem)
    (verifySignedReceiptWithTrust_firstReceipt ▸ Tables.canonLaws hmem')
  refine ⟨hchain.2 ⟨?_, ?_, ?_⟩, hsigned.2 ⟨?_, ?_, ?_, ?_⟩⟩
  · exact refusalAdmitted_of_canonical (canonical_of_ingestChain hi)
  · rintro es hes first hf
    obtain rfl := Except.ok.inj (hi.symm.trans hes)
    cases hf
    decide
  · rintro es hes last hl
    obtain rfl := Except.ok.inj (hi.symm.trans hes)
    cases hl
    decide
  · exact fun _ _ _ => Tables.text_true _
  · exact fun _ _ _ _ => Tables.text_true _
  · exact fun _ _ _ _ _ _ => Tables.text_true _
  · intro _ _ _ hb
    cases hb

end VertRule
