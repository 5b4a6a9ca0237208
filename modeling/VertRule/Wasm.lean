import VertRule.Echo.Packs
import VertRule.Transport

/-!
# The WASM boundary

`wasm.rs`: the calls a browser makes, each on JSON text, and the text each returns.  A report on a
chain repeats logical times, and may lose its verdict there; the reports of the other calls never do
(`wasm_verdict`).
-/

namespace VertRule

variable (E : Externals)

/-- The canonical string of a report, or the error that stands in for it. -/
def reportToJson (report : Report) : String :=
  match typedCanonString E report.value with
  | .ok s => s
  | .error e => errorJson E s!"canonicalization error: {E.message e}"

/-- `verify_receipt_json`. -/
def verifyReceiptJson (receiptJson : String) : String :=
  resultToJson E (verifyReceipt E (asBytes receiptJson))

/-- `verify_signed_receipt_json`. -/
def verifySignedReceiptJson (receiptJson signatureJson : String) : String :=
  resultToJson E (verifySignedReceipt E (asBytes receiptJson) (asBytes signatureJson))

/-- `verify_bundle_json`. -/
def verifyBundleJson (bundleJson : String) : String :=
  match (verifyBundle E (asBytes bundleJson)).toCanonString E with
  | .ok s => s
  | .error e => errorJson E s!"canonicalization error: {E.message e}"

/-- `verify_decision_pack_json`. -/
def verifyDecisionPackJson (packJson : String) : String :=
  match (verifyDecisionPack E (asBytes packJson)).toCanonString E with
  | .ok s => s
  | .error e => errorJson E s!"canonicalization error: {E.message e}"

/-- `verify_closure_bundle_json`. -/
def verifyClosureBundleJson (bundleJson : String) : String :=
  match (verifyClosureBundle E (asBytes bundleJson)).toCanonBytes E with
  | .ok bytes => (fromUtf8 bytes).getD (errorJson E "closure bundle result was not valid UTF-8")
  | .error e => errorJson E s!"canonicalization error: {E.message e}"

/-- `digest_hex`. -/
def digestHex (input : Bytes) : String := (E.blake3 input).toHex

/-- `verifier_version`. -/
def verifierVersion : String := profileVersion

/-- A call whose report carries no logical time and no epoch. -/
inductive WasmCall where
  | receipt (receiptJson : String)
  | signed (receiptJson signatureJson : String)
  | bundle (bundleJson : String)
  | decisionPack (packJson : String)
  | closureBundle (bundleJson : String)

namespace WasmCall

/-- What a call returns. -/
def output : WasmCall → String
  | receipt receiptJson => verifyReceiptJson E receiptJson
  | signed receiptJson signatureJson => verifySignedReceiptJson E receiptJson signatureJson
  | bundle bundleJson => verifyBundleJson E bundleJson
  | decisionPack packJson => verifyDecisionPackJson E packJson
  | closureBundle bundleJson => verifyClosureBundleJson E bundleJson

/-- The report behind it. -/
def report : WasmCall → Report
  | receipt receiptJson => (verifyReceipt E (asBytes receiptJson)).report
  | signed receiptJson signatureJson =>
    (verifySignedReceipt E (asBytes receiptJson) (asBytes signatureJson)).report
  | bundle bundleJson => (verifyBundle E (asBytes bundleJson)).report
  | decisionPack packJson => (verifyDecisionPack E (asBytes packJson)).report
  | closureBundle bundleJson => (verifyClosureBundle E (asBytes bundleJson)).report

/-- The number of receipts of a closure is one that a double holds exactly. -/
def Countable : WasmCall → Prop
  | closureBundle bundleJson =>
    Json.IsDouble (UInt64.ofNat (verifyClosureBundle E (asBytes bundleJson)).closureSize).toNat
  | _ => True

end WasmCall

/-- What is documented of the canonicalizer and the parser at a report, and at the texts that stand
in for one. -/
structure DeliveryLaws (admits : Char → Prop) (report : Report) : Prop where
  canon : CanonLaws E admits report.value
  readsBack : ReadsBack E report.value
  /-- The canonical bytes are those of the canonical string. -/
  utf8 : ∀ bytes, typedCanonBytes E report.value = .ok bytes →
    ∃ s, typedCanonString E report.value = .ok s ∧ bytes = asBytes s
  fallback : ∀ e, typedCanonString E report.value = .error e ∨
    typedCanonBytes E report.value = .error e →
    ReadsBack E (fallbackError s!"canonicalization error: {E.message e}")
  static : E.fromStr staticFallback = .ok (fallbackError "internal verifier error")

variable {E} {admits : Char → Prop} {report : Report}

/-- A stand-in for a report is read as invalid. -/
theorem statusOf_errorJson {message : String}
    (hs : E.fromStr staticFallback = .ok (fallbackError "internal verifier error"))
    (hm : ReadsBack E (fallbackError message)) :
    statusOf E (errorJson E message) = some "INVALID" := by
  have hstatic : statusOf E staticFallback = some "INVALID" := by
    simp [statusOf, hs, Except.toOption, fallbackError, List.lookup_cons, Json.asStr]
  unfold errorJson
  cases hj : E.toJsonString (fallbackError message) with
  | error e => exact hstatic
  | ok jsonStr =>
    dsimp only
    cases hc : E.toCanonStringFromStr jsonStr with
    | error e => exact hstatic
    | ok s =>
      have hs : typedCanonString E (fallbackError message) = .ok s := by
        simp [typedCanonString, hj, hc]
      exact statusOf_of_readsBack hm hs

/-- **A report is read with its verdict, if the valid reports of its kind are admitted.** -/
theorem statusOf_reportToJson (laws : DeliveryLaws E admits report)
    (hvalid : report.status = .valid → report.value.Admitted admits) :
    statusOf E (reportToJson E report) = some report.status.display := by
  unfold reportToJson
  cases hs : typedCanonString E report.value with
  | ok s => exact (statusOf_of_readsBack laws.readsBack hs).trans report.tells
  | error e =>
    have hinvalid : report.status = .invalid := by
      refine VerificationStatus.eq_invalid_iff.2 fun h => ?_
      obtain ⟨s, hs'⟩ := laws.canon.string.2 (hvalid h)
      rw [hs] at hs'
      cases hs'
    rw [hinvalid]
    exact statusOf_errorJson laws.static (laws.fallback e (.inl hs))

/-- Through bytes and back, the output is the same. -/
theorem closureBundle_output (laws : DeliveryLaws E admits report) :
    (match typedCanonBytes E report.value with
      | .ok bytes => (fromUtf8 bytes).getD (errorJson E "closure bundle result was not valid UTF-8")
      | .error e => errorJson E s!"canonicalization error: {E.message e}") =
    match typedCanonBytes E report.value with
      | .ok _ => reportToJson E report
      | .error e => errorJson E s!"canonicalization error: {E.message e}" := by
  cases hb : typedCanonBytes E report.value with
  | error e => rfl
  | ok bytes =>
    obtain ⟨s, hs, rfl⟩ := laws.utf8 bytes hb
    have hutf8 : fromUtf8 (asBytes s) = some s := fromUtf8_eq_some.2 rfl
    simp [reportToJson, hs, hutf8]

/-- The valid reports of these calls are admitted. -/
theorem WasmCall.admitted_of_valid (laws : PackEchoLaws E admits) (call : WasmCall)
    (hcount : call.Countable E) (h : (call.report E).status = .valid) :
    (call.report E).value.Admitted admits := by
  cases call with
  | receipt receiptJson => exact verifyReceipt_admitted laws.toEchoLaws h
  | signed receiptJson signatureJson => exact verifySignedReceipt_admitted laws.toEchoLaws h
  | bundle bundleJson => exact verifyBundle_admitted laws.toEchoLaws h
  | decisionPack packJson => exact verifyDecisionPack_admitted laws h
  | closureBundle bundleJson => exact verifyClosureBundle_admitted laws h hcount

/-- **No verdict is lost at the WASM boundary** on receipts, signed receipts, execution bundles,
decision packs and closure bundles: whatever the text, what a call returns is read with the status
of the report. -/
theorem wasm_verdict (laws : PackEchoLaws E admits) (call : WasmCall) (hcount : call.Countable E)
    (hd : DeliveryLaws E admits (call.report E)) :
    statusOf E (call.output E) = some (call.report E).status.display := by
  have hvalid := call.admitted_of_valid laws hcount
  have hjson := statusOf_reportToJson hd hvalid
  cases call with
  | receipt receiptJson => exact hjson
  | signed receiptJson signatureJson => exact hjson
  | bundle bundleJson => exact hjson
  | decisionPack packJson => exact hjson
  | closureBundle bundleJson =>
    refine (congrArg (statusOf E) (closureBundle_output hd)).trans ?_
    split
    · exact hjson
    next e hb =>
      have hinvalid : ((WasmCall.closureBundle bundleJson).report E).status = .invalid := by
        refine VerificationStatus.eq_invalid_iff.2 fun h => ?_
        obtain ⟨bytes, hbytes⟩ := hd.canon.bytes.2 (hvalid h)
        rw [hb] at hbytes
        cases hbytes
      rw [hinvalid]
      exact statusOf_errorJson hd.static (hd.fallback e (.inr hb))

/-! ### A receipt and its call -/

namespace Tables

variable {T : Tables}

theorem packEchoLaws (h : ∀ p ∈ T.envelopes, p.2.toValue.inRange = true)
    (hroles : ∀ p ∈ T.supportSets, ∀ eventHash role targetSchema,
      SupportMember.typedReceiptDependency eventHash role targetSchema ∈ p.2 →
        ∀ s ∈ role.label, IsAscii s) : PackEchoLaws T.externals fun _ => True where
  toEchoLaws := echoLaws h
  supportSetFromValue _ _ _ _ _ _ _ _ := text_true _
  decisionPayloadFromValue _ _ _ _ _ _ _ _ := text_true _
  roleLabel v members eventHash role targetSchema hv hm := by
    cases hl : T.supportSets.lookup v with
    | none => simp [externals, hl] at hv
    | some listed =>
      obtain rfl : listed = members := by simpa [externals, hl] using hv
      exact hroles _ (mem_of_lookup_eq_some hl) eventHash role targetSchema hm

/-- A listed report with integers in range is delivered, if the static stand-in is listed. -/
theorem deliveryLaws (h : report.value ∈ T.values) (hr : report.value.inRange = true)
    (hstatic : fallbackError "internal verifier error" ∈ T.values) :
    DeliveryLaws T.externals (fun _ => True) report := by
  have hstring : typedCanonString T.externals report.value = .ok report.value.text := by
    rw [typedCanonString_text h, if_pos hr]
  have hbytes := typedCanonBytes_text h hr
  refine ⟨canonLaws h, readsBack h, ?_, ?_, ?_⟩
  · intro bytes hb
    exact ⟨_, hstring, Except.ok.inj (hb.symm.trans hbytes)⟩
  · rintro e (he | he)
    · rw [hstring] at he
      cases he
    · rw [hbytes] at he
      cases he
  · rw [staticFallback_eq]
    exact fromStr_text hstatic

end Tables

/-- The third-party code on the receipt and what the calls on it return. -/
def wasmTables : Tables where
  envelopes := [(firstReceipt.toValue, firstReceipt)]
  others := [VerificationResult.validSingle.toValue, fallbackError "internal verifier error"]
  digests := [(firstReceipt.body, firstReceipt.eventHash)]
  texts_nodup := by decide +kernel
  digests_nodup := firstReceipt_digest_nodup

theorem verifyReceipt_firstReceipt :
    verifyReceipt wasmTables.externals (asBytes firstReceipt.toValue.text) = .validSingle := by
  refine verifyReceipt_eq_validSingle (Tables.verifyReceipt_valid firstReceipt ?_
    (Tables.admissible_of_checks (by decide +kernel)) (Tables.verifies rfl rfl rfl ?_))
  · simp [wasmTables]
  · simp [wasmTables]

/-- The call on the receipt. -/
def firstReceiptCall : WasmCall := .receipt firstReceipt.toValue.text

theorem report_firstReceiptCall :
    firstReceiptCall.report wasmTables.externals = VerificationResult.validSingle.report := by
  rw [firstReceiptCall, WasmCall.report, verifyReceipt_firstReceipt]

theorem packEchoLaws_wasmTables : PackEchoLaws wasmTables.externals fun _ => True :=
  Tables.packEchoLaws (by decide +kernel) (by simp [wasmTables])

theorem deliveryLaws_firstReceiptCall : DeliveryLaws wasmTables.externals (fun _ => True)
    (firstReceiptCall.report wasmTables.externals) := by
  rw [report_firstReceiptCall]
  refine Tables.deliveryLaws ?_ (by decide +kernel) ?_
  · simp [wasmTables, Tables.values, VerificationResult.report]
  · simp [wasmTables, Tables.values]

/-- A receipt that verifies is `VALID` in the browser. -/
theorem wasm_verdict_firstReceipt :
    statusOf wasmTables.externals (verifyReceiptJson wasmTables.externals
      firstReceipt.toValue.text) = some "VALID" := by
  have hstatus := wasm_verdict packEchoLaws_wasmTables firstReceiptCall trivial
    deliveryLaws_firstReceiptCall
  rwa [report_firstReceiptCall] at hstatus

end VertRule
