import VertRule.History
import VertRule.Lib.Refusal
import VertRule.Nodes

/-!
# Verdicts under limits

The limits are checked between the other steps of ingestion, and refuse: under tighter limits a
report is the one under looser limits, or it is the refusal of a limit that is exceeded.
-/

namespace VertRule

open Refusal

/-- Every limit is at most the other's. -/
structure VerifierLimits.Le (limits limits' : VerifierLimits) : Prop where
  maxBytes : limits.maxBytes ≤ limits'.maxBytes
  maxDepth : limits.maxDepth ≤ limits'.maxDepth
  maxNodeCount : limits.maxNodeCount ≤ limits'.maxNodeCount
  maxObjectSize : limits.maxObjectSize ≤ limits'.maxObjectSize
  maxArraySize : limits.maxArraySize ≤ limits'.maxArraySize
  maxChainLength : limits.maxChainLength ≤ limits'.maxChainLength

instance : LE VerifierLimits := ⟨VerifierLimits.Le⟩

/-- The error of a limit that is exceeded. -/
def LimitError (limits : VerifierLimits) (e : VerifyError) : Prop :=
  ∃ violation : LimitViolation, violation.Exceeds limits ∧ e = .limitExceeded violation

variable (E : Externals)

/-- A report under `limits`, against the one under looser limits: it is the same, or the invalid
result whose one error is that a limit is exceeded.  A valid report is the same. -/
structure OnlyRefuses (limits : VerifierLimits) (result result' : VerificationResult) : Prop where
  eq_or_refused : result = result' ∨ ∃ violation : LimitViolation, violation.Exceeds limits ∧
    result = .invalid (E.message (.limitExceeded violation))
  eq_of_valid : result.status = .valid → result = result'

variable {E} {limits limits' : VerifierLimits} {rawBytes : Bytes}

/-! ### The checks -/

theorem checkByteLimit_eq_error {violation : LimitViolation}
    (h : checkByteLimit rawBytes limits = .error violation) : violation.Exceeds limits := by
  unfold checkByteLimit at h
  split_ifs at h with hlt
  obtain rfl := Except.error.inj h
  exact ⟨rfl, hlt⟩

theorem checkChainLength_eq_error {length : ℕ} {violation : LimitViolation}
    (h : checkChainLength length limits = .error violation) : violation.Exceeds limits := by
  unfold checkChainLength at h
  split_ifs at h with hlt
  obtain rfl := Except.error.inj h
  exact ⟨rfl, hlt⟩

theorem Json.Within.mono {v : Json} (hle : limits ≤ limits') (h : v.Within limits) :
    v.Within limits' where
  depth depth node hn := (h.depth depth node hn).trans hle.maxDepth
  count := h.count.trans hle.maxNodeCount
  object depth map hn := (h.object depth map hn).trans hle.maxObjectSize
  array depth arr hn := (h.array depth arr hn).trans hle.maxArraySize

/-- A limit check that passes under looser limits when it does under `limits`, and reports a limit
that is exceeded, refuses more. -/
theorem eqUnless_limitCheck {x y : Except LimitViolation Unit} (hok : x = .ok () → y = .ok ())
    (herr : ∀ violation, x = .error violation → violation.Exceeds limits) :
    EqUnless (LimitError limits) (x.mapError .limitExceeded) (y.mapError .limitExceeded) :=
  (EqUnless.check hok herr).mapError fun violation hv => ⟨violation, hv, rfl⟩

theorem eqUnless_checkByteLimit (hle : limits ≤ limits') :
    EqUnless (LimitError limits) ((checkByteLimit rawBytes limits).mapError .limitExceeded)
      ((checkByteLimit rawBytes limits').mapError .limitExceeded) :=
  eqUnless_limitCheck
    (fun h => checkByteLimit_eq_ok.2 ((checkByteLimit_eq_ok.1 h).trans hle.maxBytes))
    fun _ => checkByteLimit_eq_error

theorem eqUnless_checkStructure (hle : limits ≤ limits') (v : Json) :
    EqUnless (LimitError limits) ((checkStructure v limits).mapError .limitExceeded)
      ((checkStructure v limits').mapError .limitExceeded) :=
  eqUnless_limitCheck
    (fun h => checkStructure_eq_ok_iff_within.2 ((checkStructure_eq_ok_iff_within.1 h).mono hle))
    fun _ h => (checkStructure_genuine h).1

theorem eqUnless_checkChainLength (hle : limits ≤ limits') (length : ℕ) :
    EqUnless (LimitError limits) ((checkChainLength length limits).mapError .limitExceeded)
      ((checkChainLength length limits').mapError .limitExceeded) :=
  eqUnless_limitCheck
    (fun h => checkChainLength_eq_ok.2 ((checkChainLength_eq_ok.1 h).trans hle.maxChainLength))
    fun _ => checkChainLength_eq_error

/-! ### Ingestion -/

/-- Ingestion under tighter limits refuses more. -/
theorem eqUnless_ingestEnvelope (hle : limits ≤ limits') :
    EqUnless (LimitError limits) (ingestEnvelopeWithLimits E rawBytes limits)
      (ingestEnvelopeWithLimits E rawBytes limits') := by
  unfold ingestEnvelopeWithLimits
  refine (eqUnless_checkByteLimit hle).bind fun _ => (EqUnless.refl _).bind fun _ => ?_
  refine (EqUnless.refl _).bind fun value => (eqUnless_checkStructure hle value).bind fun _ => ?_
  exact .refl _

theorem eqUnless_ingestChain (hle : limits ≤ limits') :
    EqUnless (LimitError limits) (ingestChainWithLimits E rawBytes limits)
      (ingestChainWithLimits E rawBytes limits') := by
  unfold ingestChainWithLimits
  refine (eqUnless_checkByteLimit hle).bind fun _ => (EqUnless.refl _).bind fun _ => ?_
  refine (EqUnless.refl _).bind fun value => (eqUnless_checkStructure hle value).bind fun _ => ?_
  cases value with
  | array elements =>
    dsimp only
    split_ifs
    · exact .refl _
    · exact (eqUnless_checkChainLength hle elements.length).bind fun _ => .refl _
  | _ => exact .refl _

/-! ### Reports -/

variable (E) in
/-- The report on what ingestion came to. -/
def reportOn {α : Type} (report : α → VerificationResult) : Except VerifyError α → VerificationResult
  | .ok a => report a
  | .error e => .invalid (E.message e)

theorem onlyRefuses_reportOn {α : Type} {report : α → VerificationResult}
    {ingested ingested' : Except VerifyError α}
    (h : EqUnless (LimitError limits) ingested ingested') :
    OnlyRefuses E limits (reportOn E report ingested) (reportOn E report ingested') := by
  rcases h with rfl | ⟨_, ⟨violation, hv, rfl⟩, rfl⟩
  · exact ⟨.inl rfl, fun _ => rfl⟩
  · exact ⟨.inr ⟨violation, hv, rfl⟩, fun hs => by cases hs⟩

/-- **Limits only refuse.** -/
theorem limits_only_refuse (hle : limits ≤ limits') :
    OnlyRefuses E limits (verifyReceiptWithLimits E rawBytes limits)
        (verifyReceiptWithLimits E rawBytes limits') ∧
      OnlyRefuses E limits (verifyReceiptChainWithLimits E rawBytes limits)
        (verifyReceiptChainWithLimits E rawBytes limits') := by
  have hreceipt : ∀ limits, verifyReceiptWithLimits E rawBytes limits =
      reportOn E (verifySingleEnvelope E) (ingestEnvelopeWithLimits E rawBytes limits) := by
    intro limits
    unfold verifyReceiptWithLimits
    cases ingestEnvelopeWithLimits E rawBytes limits <;> rfl
  have hchain : ∀ limits, verifyReceiptChainWithLimits E rawBytes limits =
      reportOn E (verifyChainEnvelopes E) (ingestChainWithLimits E rawBytes limits) := by
    intro limits
    unfold verifyReceiptChainWithLimits
    cases ingestChainWithLimits E rawBytes limits <;> rfl
  rw [hreceipt, hreceipt, hchain, hchain]
  exact ⟨onlyRefuses_reportOn (eqUnless_ingestEnvelope hle),
    onlyRefuses_reportOn (eqUnless_ingestChain hle)⟩

/-- The default limits, with less depth. -/
def shallowLimits : VerifierLimits := { VerifierLimits.default with maxDepth := 1 }

/-- A chain of receipts is deeper. -/
theorem only_refuse_twoReceipts :
    OnlyRefuses twoReceiptTables.externals shallowLimits
        (verifyReceiptWithLimits twoReceiptTables.externals (asBytes twoReceipts.text)
          shallowLimits)
        (verifyReceiptWithLimits twoReceiptTables.externals (asBytes twoReceipts.text) .default) ∧
      OnlyRefuses twoReceiptTables.externals shallowLimits
        (verifyReceiptChainWithLimits twoReceiptTables.externals (asBytes twoReceipts.text)
          shallowLimits)
        (verifyReceiptChainWithLimits twoReceiptTables.externals (asBytes twoReceipts.text)
          .default) :=
  limits_only_refuse ⟨by decide, by decide, by decide, by decide, by decide, by decide⟩

end VertRule
