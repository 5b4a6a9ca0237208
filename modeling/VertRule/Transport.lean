import VertRule.Echo.Report
import VertRule.History

/-!
# The verdict in transport

`wasm.rs`: how a report leaves the verifier, as canonical JSON through the WASM boundary.  A report
that cannot be canonicalized leaves with another verdict, and a report can be that way because it
repeats logical times, an epoch and text that the canonicalizer need not admit
(`verifyReceiptChain_admitted_iff`, `verifySignedReceiptWithTrust_admitted_iff`).
-/

namespace VertRule

variable (E : Externals)

/-! ### The WASM boundary -/

/-- `STATIC_FALLBACK`. -/
def staticFallback : String :=
  "\x7b\"errors\":[\"internal verifier error\"],\"status\":\"INVALID\"\x7d"

/-- `FallbackError`, serialized. -/
def fallbackError (message : String) : Json :=
  .object [("errors", .array [.string message]), ("status", .string "INVALID")]

/-- `error_json`. -/
def errorJson (message : String) : String :=
  match E.toJsonString (fallbackError message) with
  | .error _ => staticFallback
  | .ok jsonStr =>
    match E.toCanonStringFromStr jsonStr with
    | .ok s => s
    | .error _ => staticFallback

/-- `result_to_json`. -/
def resultToJson (result : VerificationResult) : String :=
  match result.toCanonString E with
  | .ok s => s
  | .error e => errorJson E s!"canonicalization error: {E.message e}"

/-- `verify_chain_json`. -/
def verifyChainJson (chainJson : String) : String :=
  resultToJson E (verifyReceiptChain E (asBytes chainJson))

/-- The `status` that a reader of an output finds in it. -/
def statusOf (output : String) : Option String :=
  (E.fromStr output).toOption.bind fun v => (v.get "status").bind Json.asStr

/-! ### What is documented -/

/-- What is documented of the canonicalizer at a value: it succeeds on admitted values only. -/
structure CanonLaws (admits : Char → Prop) (v : Json) : Prop where
  bytes : (∃ canonBytes, typedCanonBytes E v = .ok canonBytes) ↔ v.Admitted admits
  string : (∃ s, typedCanonString E v = .ok s) ↔ v.Admitted admits

/-- A canonical text of the value is read back with the same string members. -/
def ReadsBack (v : Json) : Prop :=
  ∀ s, typedCanonString E v = .ok s →
    ∃ w, E.fromStr s = .ok w ∧ ∀ key, (w.get key).bind Json.asStr = (v.get key).bind Json.asStr

/-- The texts that stand in for a report without a canonical string are read back. -/
structure FallbackLaws (result : VerificationResult) : Prop where
  error : ∀ e, result.toCanonString E = .error e →
    ReadsBack E (fallbackError s!"canonicalization error: {E.message e}")
  static : E.fromStr staticFallback = .ok (fallbackError "internal verifier error")

/-- The logical times a report on the chain would repeat are held exactly by a double, and a refusal
of the bytes is told in admitted text. -/
structure ChainTransportable (admits : Char → Prop) (rawBytes : Bytes) : Prop where
  refusal : RefusalAdmitted E admits rawBytes
  first : ∀ envelopes, ingestChain E rawBytes = .ok envelopes →
    ∀ first ∈ envelopes.head?, Json.IsDouble first.logicalTime.toNat
  last : ∀ envelopes, ingestChain E rawBytes = .ok envelopes →
    ∀ last ∈ envelopes.getLast?, Json.IsDouble last.logicalTime.toNat

/-- The epoch a report on a signed receipt would repeat is held exactly by a double, and the text it
would repeat is admitted. -/
structure SignedTransportable (admits : Char → Prop) (rawBytes sigBytes : Bytes)
    (authoritySet : AuthoritySet) (trustPolicy : TrustPolicy) : Prop where
  refusal : RefusalAdmitted E admits rawBytes
  signatureBundle : ∀ envelope m, ingestEnvelope E rawBytes = .ok envelope →
    E.signatureBundleFromSlice sigBytes = .error m → Text admits m
  metadata : ∀ envelope bundle, ingestEnvelope E rawBytes = .ok envelope →
    E.signatureBundleFromSlice sigBytes = .ok bundle → ∀ s ∈ bundle.unexpected, Text admits s
  trust : ∀ envelope bundle, ingestEnvelope E rawBytes = .ok envelope →
    E.signatureBundleFromSlice sigBytes = .ok bundle →
    verifySignature E envelope bundle = .ok () →
    Json.IsDouble trustPolicy.currentEpoch.toNat ∧ Text admits authoritySet.setId ∧
      ∀ revocation ∈ trustPolicy.enforcedRevocation authoritySet bundle.keyId.hex,
        Text admits revocation.reason

variable {E} {admits : Char → Prop} {result : VerificationResult}

theorem statusOf_of_readsBack {v : Json} {s : String} (h : ReadsBack E v)
    (hs : typedCanonString E v = .ok s) : statusOf E s = (v.get "status").bind Json.asStr := by
  obtain ⟨w, hw, hkeys⟩ := h s hs
  simp [statusOf, hw, Except.toOption, hkeys]

/-! ### Chains -/

section Chain

variable {rawBytes : Bytes}

theorem admitted_invalid_iff (laws : EchoLaws E admits) {error : String} :
    (VerificationResult.invalid error).toValue.Admitted admits ↔ Text admits error := by
  rw [VerificationResult.admitted_iff laws]
  constructor
  · rintro ⟨-, -, herrors, -⟩
    exact herrors error (by simp [VerificationResult.invalid])
  · intro h
    have hplain := VerificationResult.plain_invalid laws h
    exact ⟨by simp [hplain.chain], hplain.schemaVersion, hplain.errors, by simp [hplain.trust]⟩

theorem refusalAdmitted_of_canonical (h : E.toCanonBytesFromSlice rawBytes = .ok rawBytes) :
    RefusalAdmitted E admits rawBytes := by
  intro e _ he
  rw [h] at he
  cases he

theorem ingestChain_of_refused {e : JcsError} (hl : checkByteLimit rawBytes .default = .ok ())
    (he : E.toCanonBytesFromSlice rawBytes = .error e) :
    ingestChain E rawBytes = .error (jcsAdmissionError e) := by
  simp [ingestChain, ingestChainWithLimits, admitCanonicalBytes, hl, he]

theorem canonical_of_ingestChain {envelopes : List ReceiptEnvelope}
    (h : ingestChain E rawBytes = .ok envelopes) :
    E.toCanonBytesFromSlice rawBytes = .ok rawBytes := by
  obtain ⟨-, -, h⟩ := Except.bind_eq_ok.1 h
  obtain ⟨_, hadmit, -⟩ := Except.bind_eq_ok.1 h
  exact admitCanonicalBytes_eq_ok.1 hadmit

theorem verifyChainEnvelopes_chainValidation {envelopes : List ReceiptEnvelope} :
    (verifyChainEnvelopes E envelopes).chainValidation =
      some ⟨envelopes.length, (envelopes.head?.map (·.logicalTime)).getD 0,
        (envelopes.getLast?.map (·.logicalTime)).getD 0⟩ := by
  cases envelopes with
  | nil => rfl
  | cons first rest =>
    simp [verifyChainEnvelopes, List.getLast?_eq_some_getLast (List.cons_ne_nil first rest)]

/-- A double holds a logical time that is `0` for want of a receipt. -/
theorem isDouble_getD_logicalTime {receipt : Option ReceiptEnvelope} :
    Json.IsDouble ((receipt.map ReceiptEnvelope.logicalTime).getD 0).toNat ↔
      ∀ envelope ∈ receipt, Json.IsDouble envelope.logicalTime.toNat := by
  cases receipt with
  | none => simp [Json.isDouble_of_lt]
  | some envelope => simp

/-- A refused chain leaves only the refusal to repeat. -/
theorem chainTransportable_of_refused {e : VerifyError} (hi : ingestChain E rawBytes = .error e) :
    ChainTransportable E admits rawBytes ↔ RefusalAdmitted E admits rawBytes :=
  ⟨ChainTransportable.refusal, fun h => ⟨h, by simp [hi], by simp [hi]⟩⟩

/-- A chain that is ingested leaves its first and its last logical time. -/
theorem chainTransportable_of_ingested {envelopes : List ReceiptEnvelope}
    (hi : ingestChain E rawBytes = .ok envelopes) :
    ChainTransportable E admits rawBytes ↔
      (∀ first ∈ envelopes.head?, Json.IsDouble first.logicalTime.toNat) ∧
        ∀ last ∈ envelopes.getLast?, Json.IsDouble last.logicalTime.toNat := by
  constructor
  · exact fun h => ⟨h.first envelopes hi, h.last envelopes hi⟩
  · rintro ⟨hfirst, hlast⟩
    refine ⟨refusalAdmitted_of_canonical (canonical_of_ingestChain hi), ?_, ?_⟩
    · intro es hes
      obtain rfl := Except.ok.inj (hi.symm.trans hes)
      exact hfirst
    · intro es hes
      obtain rfl := Except.ok.inj (hi.symm.trans hes)
      exact hlast

/-- **A chain report is admitted exactly when a double holds the first and the last logical time**
(and a refusal of the bytes is told in admitted text). -/
theorem verifyReceiptChain_admitted_iff (laws : EchoLaws E admits) :
    (verifyReceiptChain E rawBytes).toValue.Admitted admits ↔
      ChainTransportable E admits rawBytes := by
  cases hi : ingestChain E rawBytes with
  | error e =>
    have hr : verifyReceiptChain E rawBytes = .invalid (E.message e) := by
      simp [verifyReceiptChain, hi]
    rw [chainTransportable_of_refused hi, hr, admitted_invalid_iff laws, text_message_iff laws]
    constructor
    · intro htraced e₀ hl he₀
      obtain rfl : jcsAdmissionError e₀ = e :=
        Except.error.inj ((ingestChain_of_refused hl he₀).symm.trans hi)
      exact jcsAdmissionError_traced.1 htraced
    · exact fun h => ingestChain_traced laws h hi
  | ok envelopes =>
    have hr : verifyReceiptChain E rawBytes = verifyChainEnvelopes E envelopes := by
      simp [verifyReceiptChain, hi]
    obtain ⟨hing, hlen⟩ := ingested_of_ingestChain laws hi
    have hplain := verifyChainEnvelopes_plain laws hing
    have htrust : (verifyChainEnvelopes E envelopes).trustValidation = none := hplain.trust
    have hlength : Json.IsDouble (UInt64.ofNat envelopes.length).toNat := by
      refine Json.isDouble_of_lt ?_
      rw [UInt64.toNat_ofNat']
      exact (Nat.mod_le _ _).trans_lt (hlen.trans_lt (by decide))
    rw [chainTransportable_of_ingested hi, ← isDouble_getD_logicalTime, ← isDouble_getD_logicalTime,
      hr, VerificationResult.admitted_iff laws, verifyChainEnvelopes_chainValidation]
    constructor
    · rintro ⟨hc, -⟩
      obtain ⟨hfirst, hlast, -⟩ := (ChainValidation.admitted_iff laws _).1 (hc _ rfl)
      exact ⟨hfirst, hlast⟩
    · rintro ⟨hfirst, hlast⟩
      refine ⟨?_, hplain.schemaVersion, hplain.errors, by simp [htrust]⟩
      rintro c ⟨⟩
      exact (ChainValidation.admitted_iff laws _).2 ⟨hfirst, hlast, hlength⟩

end Chain

/-! ### Signed receipts -/

section Signed

variable {rawBytes sigBytes : Bytes} {authoritySet : AuthoritySet} {trustPolicy : TrustPolicy}

theorem ingestEnvelope_of_refused {e : JcsError} (hl : checkByteLimit rawBytes .default = .ok ())
    (he : E.toCanonBytesFromSlice rawBytes = .error e) :
    ingestEnvelope E rawBytes = .error (jcsAdmissionError e) := by
  simp [ingestEnvelope, ingestEnvelopeWithLimits, admitCanonicalBytes, hl, he]

/-- A plain report with one more error, and a signature section, is admitted when the error is. -/
theorem admitted_addError_iff (laws : EchoLaws E admits) (hr : result.Plain admits)
    {error : String} {signature : Option SignatureValidation} :
    ({ result.addError error with signatureValidation := signature } :
      VerificationResult).toValue.Admitted admits ↔ Text admits error := by
  rw [VerificationResult.admitted_iff laws]
  constructor
  · rintro ⟨-, -, herrors, -⟩
    exact herrors error (by simp)
  · intro h
    have hadd := hr.addError h
    exact ⟨by simp [hadd.chain], hadd.schemaVersion, hadd.errors, by simp [hadd.trust]⟩

/-- A plain report with a trust section, and the error for it, is admitted when the section is. -/
theorem admitted_withTrust_iff (laws : EchoLaws E admits) (hr : result.Plain admits)
    {trust : TrustValidation} :
    ({ (if trust.status ≠ .trusted then result.addError s!"trust: {trust.status.display}"
        else result) with trustValidation := some trust } :
      VerificationResult).toValue.Admitted admits ↔ trust.toValue.Admitted admits := by
  have hplain : (if trust.status ≠ .trusted then
      result.addError s!"trust: {trust.status.display}" else result).Plain admits := by
    split_ifs
    · refine hr.addError ?_
      simp only [text_append, toString_string, TrustStatus.display_text laws, and_true]
      simp (disch := decide) only [laws.literal]
    · exact hr
  rw [VerificationResult.admitted_iff laws]
  constructor
  · rintro ⟨-, -, -, htrust⟩
    exact htrust trust rfl
  · intro h
    refine ⟨fun c hc => ?_, hplain.schemaVersion, hplain.errors, by simpa using h⟩
    cases hplain.chain.symm.trans hc

/-- The trust section on a key is admitted when the epoch, the name of the authority set and the
reason of an enforced revocation are. -/
theorem evaluateTrust_admitted_iff (laws : EchoLaws E admits) {keyId : KeyId}
    {claimed : Option String} :
    (evaluateTrust keyId authoritySet trustPolicy claimed).toValue.Admitted admits ↔
      Json.IsDouble trustPolicy.currentEpoch.toNat ∧ Text admits authoritySet.setId ∧
        ∀ revocation ∈ trustPolicy.enforcedRevocation authoritySet keyId.hex,
          Text admits revocation.reason := by
  rw [TrustValidation.admitted_iff laws]
  simp only [evaluateTrust, laws.literal keyId.isAscii, true_and, trustDecision_text_iff laws]

/-- A refused receipt leaves only the refusal to repeat. -/
theorem signedTransportable_of_refused {e : VerifyError}
    (hi : ingestEnvelope E rawBytes = .error e) :
    SignedTransportable E admits rawBytes sigBytes authoritySet trustPolicy ↔
      RefusalAdmitted E admits rawBytes :=
  ⟨SignedTransportable.refusal, fun h => ⟨h, by simp [hi], by simp [hi], by simp [hi]⟩⟩

theorem refusalAdmitted_of_ingested (hi : ingestEnvelope E rawBytes = .ok envelope) :
    RefusalAdmitted E admits rawBytes :=
  refusalAdmitted_of_canonical (ingestEnvelopeWithLimits_eq_ok.1 hi).2.1

/-- A bundle that does not parse leaves what its parser says of it. -/
theorem signedTransportable_of_unparsed {m : String}
    (hi : ingestEnvelope E rawBytes = .ok envelope)
    (hb : E.signatureBundleFromSlice sigBytes = .error m) :
    SignedTransportable E admits rawBytes sigBytes authoritySet trustPolicy ↔ Text admits m := by
  constructor
  · exact fun h => h.signatureBundle envelope m hi hb
  · intro hm
    exact ⟨refusalAdmitted_of_ingested hi, by simp [hb, hm], by simp [hb], by simp [hb]⟩

/-- A signature that fails leaves the unexpected metadata of its bundle. -/
theorem signedTransportable_of_unproven {bundle : SignatureBundle} {e : VerifyError}
    (hi : ingestEnvelope E rawBytes = .ok envelope)
    (hb : E.signatureBundleFromSlice sigBytes = .ok bundle)
    (hv : verifySignature E envelope bundle = .error e) :
    SignedTransportable E admits rawBytes sigBytes authoritySet trustPolicy ↔
      ∀ s ∈ bundle.unexpected, Text admits s := by
  constructor
  · exact fun h => h.metadata envelope bundle hi hb
  · intro hm
    refine ⟨refusalAdmitted_of_ingested hi, by simp [hb], ?_, ?_⟩
    · intro envelope' bundle' _ hb'
      obtain rfl := Except.ok.inj (hb.symm.trans hb')
      exact hm
    · intro envelope' bundle' hi' hb' hv'
      obtain rfl := Except.ok.inj (hi.symm.trans hi')
      obtain rfl := Except.ok.inj (hb.symm.trans hb')
      cases hv.symm.trans hv'

/-- A proven signature leaves what the trust section repeats. -/
theorem signedTransportable_of_proven {bundle : SignatureBundle}
    (hi : ingestEnvelope E rawBytes = .ok envelope)
    (hb : E.signatureBundleFromSlice sigBytes = .ok bundle)
    (hv : verifySignature E envelope bundle = .ok ()) :
    SignedTransportable E admits rawBytes sigBytes authoritySet trustPolicy ↔
      Json.IsDouble trustPolicy.currentEpoch.toNat ∧ Text admits authoritySet.setId ∧
        ∀ revocation ∈ trustPolicy.enforcedRevocation authoritySet bundle.keyId.hex,
          Text admits revocation.reason := by
  have hm := unexpected_eq_none (verifySignature_eq_ok.1 hv).1
  constructor
  · exact fun h => h.trust envelope bundle hi hb hv
  · intro htrust
    refine ⟨refusalAdmitted_of_ingested hi, by simp [hb], ?_, ?_⟩
    · intro envelope' bundle' _ hb'
      obtain rfl := Except.ok.inj (hb.symm.trans hb')
      simp [hm]
    · intro envelope' bundle' _ hb' _
      obtain rfl := Except.ok.inj (hb.symm.trans hb')
      exact htrust

/-- **A report on a signed receipt is admitted exactly when a double holds the epoch**
where trust is evaluated (and what it repeats of unadmitted input is admitted text). -/
theorem verifySignedReceiptWithTrust_admitted_iff (laws : EchoLaws E admits) :
    (verifySignedReceiptWithTrust E rawBytes sigBytes authoritySet trustPolicy).toValue.Admitted
        admits ↔
      SignedTransportable E admits rawBytes sigBytes authoritySet trustPolicy := by
  cases hi : ingestEnvelope E rawBytes with
  | error e =>
    have hr : verifySignedReceiptWithTrust E rawBytes sigBytes authoritySet trustPolicy =
        .invalid (E.message e) := by
      simp [verifySignedReceiptWithTrust, hi]
    rw [signedTransportable_of_refused hi, hr, admitted_invalid_iff laws, text_message_iff laws]
    constructor
    · intro htraced e₀ hl he₀
      obtain rfl : jcsAdmissionError e₀ = e :=
        Except.error.inj ((ingestEnvelope_of_refused hl he₀).symm.trans hi)
      exact jcsAdmissionError_traced.1 htraced
    · exact fun h => ingestEnvelope_traced laws h hi
  | ok envelope =>
    have hing := ingested_of_ingestEnvelope laws hi
    have hplain := verifySingleEnvelope_plain laws hing
    cases hb : E.signatureBundleFromSlice sigBytes with
    | error m =>
      simp only [signedTransportable_of_unparsed hi hb, verifySignedReceiptWithTrust, hi,
        verifySignatureBundle, hb]
      rw [admitted_addError_iff laws hplain]
      simp only [text_append, toString_string]
      simp (disch := decide) only [laws.literal, true_and]
    | ok bundle =>
      cases hv : verifySignature E envelope bundle with
      | error e =>
        simp only [signedTransportable_of_unproven hi hb hv, verifySignedReceiptWithTrust, hi,
          verifySignatureBundle, hb, hv]
        rw [admitted_addError_iff laws hplain, text_message_iff laws,
          verifySignature_traced_iff laws hing hv]
      | ok u =>
        simp only [signedTransportable_of_proven hi hb hv, verifySignedReceiptWithTrust, hi,
          verifySignatureBundle_ok hb hv]
        have hsigned : ({ verifySingleEnvelope E envelope with
            signatureValidation := some ⟨true, true, true⟩ } : VerificationResult).Plain admits :=
          ⟨hplain.schemaVersion, hplain.errors, hplain.chain, hplain.trust⟩
        rw [admitted_withTrust_iff laws hsigned, evaluateTrust_admitted_iff laws]

end Signed

/-! ### The status in the browser -/

theorem display_eq_valid {status : VerificationStatus} :
    some status.display = some "VALID" ↔ status = .valid := by
  cases status <;> decide

/-- A report that has a canonical string leaves the WASM boundary with its own status. -/
theorem statusOf_resultToJson (h : ReadsBack E result.toValue)
    (hs : ∃ s, result.toCanonString E = .ok s) :
    statusOf E (resultToJson E result) = some result.status.display := by
  obtain ⟨s, hs⟩ := hs
  rw [resultToJson, hs]
  exact (statusOf_of_readsBack h hs).trans result.get_status

/-- A report that has no canonical string leaves the WASM boundary as `INVALID`. -/
theorem statusOf_resultToJson_error {e : VerifyError} (h : FallbackLaws E result)
    (he : result.toCanonString E = .error e) :
    statusOf E (resultToJson E result) = some "INVALID" := by
  have hstatic : statusOf E staticFallback = some "INVALID" := by
    simp [statusOf, h.static, Except.toOption, fallbackError, List.lookup_cons, Json.asStr]
  rw [resultToJson, he]
  dsimp only
  unfold errorJson
  split
  next => exact hstatic
  next jsonStr hjson =>
    split
    next s hs =>
      have hcanon : typedCanonString E
          (fallbackError s!"canonicalization error: {E.message e}") = .ok s := by
        simp [typedCanonString, hjson, hs]
      rw [statusOf_of_readsBack (h.error e he) hcanon]
      simp [fallbackError, List.lookup_cons, Json.asStr]
    next => exact hstatic

/-! ### Tables keep to the documentation -/

namespace Tables

variable {T : Tables} {v : Json}

theorem text_true (s : String) : Text (fun _ => True) s := fun _ _ => trivial

theorem admitted_true_iff : v.Admitted (fun _ => True) ↔ v.inRange = true :=
  ⟨fun h => h.inRange, fun h => ⟨h, fun s _ => text_true s⟩⟩

theorem echoLaws (h : ∀ p ∈ T.envelopes, p.2.toValue.inRange = true) :
    EchoLaws T.externals fun _ => True where
  ascii _ _ := trivial
  display _ := text_true _
  debug _ := text_true _
  versionDigestAlgorithm _ := text_true _
  versionCanonicalization _ := text_true _
  fromSlice rawBytes v hc hv := by
    have hread := read_of_fromSlice hv
    simp only [externals, canonicalBytes, hread] at hc
    split_ifs at hc with hr
    exact admitted_true_iff.2 hr
  fromSlice_error _ _ _ := text_true _
  envelopeFromValue _ _ _ _ := ⟨fun _ _ => text_true _, fun _ _ => text_true _⟩
  envelopeFromValue_error _ _ _ _ := text_true _
  computeEventHash_error _ _ _ _ _ _ := text_true _
  envelopeToValue v envelope w _ henv hw := by
    have hw' : envelope.toValue = w := Except.ok.inj hw
    rw [← hw', admitted_true_iff]
    exact h (v, envelope) (mem_of_envelopeFromValue henv)
  envelopeToValue_error _ _ _ _ _ _ := text_true _
  toVec_error _ _ _ _ := text_true _
  toCanonBytes_error _ _ _ _ _ _ := text_true _
  base64Decode_error _ _ _ := text_true _
  verifyingKey_error _ _ _ := text_true _

theorem typedCanonString_text (h : v ∈ T.values) :
    typedCanonString T.externals v =
      if v.inRange then .ok v.text else .error (.canon "integer out of range") := by
  by_cases hr : v.inRange = true <;>
    simp [typedCanonString, externals, canonicalBytes, read_text h, hr,
      Except.map, JcsError.display]

theorem canonLaws (h : v ∈ T.values) : CanonLaws T.externals (fun _ => True) v where
  bytes := by
    rw [admitted_true_iff]
    by_cases hr : v.inRange = true <;>
      simp [typedCanonBytes, externals, canonicalBytes, read_text h, hr]
  string := by
    rw [admitted_true_iff, typedCanonString_text h]
    by_cases hr : v.inRange = true <;> simp [hr]

theorem readsBack (h : v ∈ T.values) : ReadsBack T.externals v := by
  intro s hs
  rw [typedCanonString_text h] at hs
  split_ifs at hs
  obtain rfl := Except.ok.inj hs
  exact ⟨v, fromStr_text h, fun _ => rfl⟩

end Tables

theorem staticFallback_eq : staticFallback = (fallbackError "internal verifier error").text := by
  decide +kernel

end VertRule
