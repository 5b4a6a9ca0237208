import VertRule.Bundle

/-!
# Decision packs

`decision_pack.rs`: a decision receipt and the walk over its support set, against the receipts
the pack supplies.
-/

namespace VertRule

/-- `EXPECTED_FORMAT` of a decision pack. -/
def decisionPackFormat : String := "vr-decision-pack/v1"

/-- `MemberStatus`. -/
inductive MemberStatus where
  | verified | committed | missing | failed
  deriving DecidableEq

/-- The member holds. -/
def MemberStatus.Holds (status : MemberStatus) : Prop := status = verified ∨ status = committed

instance (status : MemberStatus) : Decidable status.Holds :=
  inferInstanceAs (Decidable (_ ∨ _))

/-- `{:?}` of a member status. -/
def MemberStatus.debug : MemberStatus → String
  | verified => "Verified"
  | committed => "Committed"
  | missing => "Missing"
  | failed => "Failed"

/-- `SupportMemberCheck`. -/
structure SupportMemberCheck where
  memberKind : String
  reference : String
  status : MemberStatus
  detail : Option String
  deriving DecidableEq

/-- The error of a member that is OUT. -/
def SupportMemberCheck.error (check : SupportMemberCheck) : Option String :=
  if check.status = .missing ∨ check.status = .failed then
    some (s!"support member {check.memberKind} \"{check.reference}\" is OUT " ++
      s!"({check.status.debug})")
  else none

theorem SupportMemberCheck.error_eq_none {check : SupportMemberCheck} :
    check.error = none ↔ check.status.Holds := by
  unfold SupportMemberCheck.error MemberStatus.Holds
  cases check.status <;> simp

/-- `DecisionPackVerificationResult`. -/
structure DecisionPackVerificationResult where
  status : VerificationStatus
  schemaVersion : String
  decisionResult : VerificationResult
  verdictKind : Option String
  memberChecks : List SupportMemberCheck
  errors : List String

/-- `invalid`. -/
def DecisionPackVerificationResult.invalid (error : String) :
    DecisionPackVerificationResult where
  status := .invalid
  schemaVersion := profileVersion
  decisionResult := .invalid "pack-level error"
  verdictKind := none
  memberChecks := []
  errors := [error]

/-- `verdict_kind_label`. -/
def DecisionReceiptPayload.verdictKindLabel (payload : DecisionReceiptPayload) : String :=
  match payload.verdict with
  | .allow => "allow"
  | .deny => "deny"
  | .conditional => "conditional"
  | .noMatch => "no_match"

/-- `is_lower_hex_64`. -/
def isLowerHex64 (s : String) : Bool := s.utf8ByteSize == 64 && s.toList.all isLowerHexDigit

/-- `char::is_whitespace`: the Unicode property `White_Space`. -/
def isWhiteSpace (c : Char) : Bool :=
  let n := c.toNat
  (0x9 ≤ n ∧ n ≤ 0xD) ∨ n = 0x20 ∨ n = 0x85 ∨ n = 0xA0 ∨ n = 0x1680 ∨ (0x2000 ≤ n ∧ n ≤ 0x200A) ∨
    n = 0x2028 ∨ n = 0x2029 ∨ n = 0x202F ∨ n = 0x205F ∨ n = 0x3000

/-- `url.trim().is_empty()`. -/
def trimIsEmpty (s : String) : Bool := s.toList.all isWhiteSpace

/-- The walk of a member that depends on a receipt: verified if a verified receipt has the
committed hash, else failed if a failing one has, else missing. -/
def replayCheck (memberKind eventHash : String) (verifiedHashes : List String)
    (failedHashes : List (String × String)) : SupportMemberCheck :=
  if eventHash ∈ verifiedHashes then ⟨memberKind, eventHash, .verified, none⟩
  else match failedHashes.lookup eventHash with
    | some detail =>
      ⟨memberKind, eventHash, .failed, some s!"supplied receipt does not verify: {detail}"⟩
    | none => ⟨memberKind, eventHash, .missing, some "committed receipt not supplied in pack"⟩

/-- `walk_member`. -/
def walkMember (verifiedHashes : List String) (failedHashes : List (String × String)) :
    SupportMember → SupportMemberCheck
  | .dependedOnReceipt eventHash =>
    replayCheck "depended_on_receipt" eventHash verifiedHashes failedHashes
  | .evidenceDigest id digest =>
    if isLowerHex64 digest then ⟨"evidence_digest", id, .committed, none⟩
    else ⟨"evidence_digest", id, .failed, some "committed digest is not 64 lowercase hex chars"⟩
  | .citedLink id url =>
    if trimIsEmpty url then ⟨"cited_link", id, .failed, some "committed link is empty"⟩
    else ⟨"cited_link", id, .committed, none⟩
  | .selectorValue key => ⟨"selector_value", key, .committed, none⟩
  | .typedReceiptDependency eventHash _ _ =>
    replayCheck "typed_receipt_dependency" eventHash verifiedHashes failedHashes

variable (E : Externals)

/-- `extract_decision_payload`. -/
def extractDecisionPayload (envelopeJson : String) : Except String DecisionReceiptPayload := do
  let value ← (E.fromStr envelopeJson).mapError fun e => s!"malformed envelope: {e}"
  match value.get "payload" with
  | none => throw "decision envelope has no payload"
  | some payload =>
    let kind := ((payload.get "payload_kind").bind Json.asStr).getD ""
    if kind ≠ decisionPayloadKind then
      throw (s!"payload is not a decision payload: expected payload_kind " ++
        s!"\"{decisionPayloadKind}\", got \"{kind}\"")
    (E.decisionPayloadFromValue payload).mapError fun e => s!"malformed decision payload: {e}"

/-- `extract_event_hash`. -/
def extractEventHash (envelopeJson : String) : Option String :=
  (E.fromStr envelopeJson).toOption.bind readEventHash

/-- What the loop over the supplied receipts collects. -/
structure SuppliedHashes where
  verifiedHashes : List String
  failedHashes : List (String × String)
  errors : List String

/-- One round of the loop over the supplied receipts. -/
def SuppliedHashes.add (st : SuppliedHashes) (supplied : String) : SuppliedHashes :=
  let result := verifyReceipt E (asBytes supplied)
  match result.status, extractEventHash E supplied with
  | .valid, some h => { st with verifiedHashes := st.verifiedHashes ++ [h] }
  | .invalid, some h =>
    { st with failedHashes := st.failedHashes ++ [(h, "; ".intercalate result.errors)] }
  | _, none =>
    { st with errors := st.errors ++
        ["depended-on receipt has no readable event_hash and was ignored"] }

/-- What `verify_decision_pack` does with a pack of the right format. -/
def checkDecisionPack (pack : DecisionPack) : DecisionPackVerificationResult :=
  let decisionResult := verifyReceipt E (asBytes pack.decisionCanonical)
  let errors := decisionResult.prefixedErrors "decision envelope"
  match extractDecisionPayload E pack.decisionCanonical with
  | .error e =>
    { status := .invalid
      schemaVersion := profileVersion
      decisionResult
      verdictKind := none
      memberChecks := []
      errors := errors ++ [e] }
  | .ok payload =>
    let supplied := pack.dependedOn.foldl (SuppliedHashes.add E) ⟨[], [], errors⟩
    let memberChecks :=
      payload.supportSet.map (walkMember supplied.verifiedHashes supplied.failedHashes)
    let errors := supplied.errors ++ memberChecks.filterMap SupportMemberCheck.error
    { status := .ofDecision
        (decisionResult.status = .valid ∧ errors = [] ∧ ∀ c ∈ memberChecks, c.status.Holds)
      schemaVersion := profileVersion
      decisionResult
      verdictKind := some payload.verdictKindLabel
      memberChecks
      errors }

/-- `verify_decision_pack`. -/
def verifyDecisionPack (rawBytes : Bytes) : DecisionPackVerificationResult :=
  match E.decisionPackFromSlice rawBytes with
  | .error e => .invalid s!"malformed pack JSON: {e}"
  | .ok pack =>
    if pack.format ≠ decisionPackFormat then
      .invalid (s!"unsupported pack format: expected \"{decisionPackFormat}\", " ++
        s!"got \"{pack.format}\"")
    else checkDecisionPack E pack

variable {E}

/-- The decision-pack report does not contradict itself. -/
structure DecisionPackVerificationResult.Consistent (r : DecisionPackVerificationResult) :
    Prop where
  status_iff : r.status = .valid ↔ r.errors = []
  decision : r.decisionResult.Consistent
  decision_valid : r.status = .valid → r.decisionResult.status = .valid
  members : r.status = .valid → ∀ c ∈ r.memberChecks, c.status.Holds

theorem DecisionPackVerificationResult.Consistent.invalid (error : String) :
    (DecisionPackVerificationResult.invalid error).Consistent where
  status_iff := by simp [DecisionPackVerificationResult.invalid]
  decision := (VerificationResult.rejected_invalid _).consistent
  decision_valid := by simp [DecisionPackVerificationResult.invalid]
  members := by simp [DecisionPackVerificationResult.invalid]

theorem SuppliedHashes.errors_add_eq_nil {st : SuppliedHashes} {s : String} :
    (st.add E s).errors = [] ↔ st.errors = [] ∧ (extractEventHash E s).isSome = true := by
  cases hs : (verifyReceipt E (asBytes s)).status <;> cases hh : extractEventHash E s <;>
    simp [add, hs, hh]

/-- The loop over the supplied receipts drops no error, and adds one for each string without a
readable hash. -/
theorem SuppliedHashes.errors_foldl_eq_nil {st : SuppliedHashes} {supplied : List String} :
    (supplied.foldl (SuppliedHashes.add E) st).errors = [] ↔
      st.errors = [] ∧ ∀ s ∈ supplied, (extractEventHash E s).isSome = true := by
  induction supplied generalizing st with
  | nil => simp
  | cons s supplied ih =>
    rw [List.foldl_cons, ih, errors_add_eq_nil, List.forall_mem_cons, and_assoc]

theorem checkDecisionPack_consistent {pack : DecisionPack} :
    (checkDecisionPack E pack).Consistent := by
  have hc : (verifyReceipt E (asBytes pack.decisionCanonical)).Consistent :=
    verifyReceipt_consistent
  unfold checkDecisionPack
  cases extractDecisionPayload E pack.decisionCanonical with
  | error e => exact ⟨by simp, hc, by simp, by simp⟩
  | ok payload =>
    dsimp only
    generalize hs : pack.dependedOn.foldl (SuppliedHashes.add E) _ = supplied
    generalize payload.supportSet.map _ = memberChecks
    have herr : supplied.errors ++ memberChecks.filterMap SupportMemberCheck.error = [] →
        (verifyReceipt E (asBytes pack.decisionCanonical)).status = .valid ∧
          ∀ c ∈ memberChecks, c.status.Holds := by
      intro he
      obtain ⟨hse, hme⟩ := List.append_eq_nil_iff.1 he
      rw [← hs] at hse
      refine ⟨hc.prefixedErrors_eq_nil.1 (SuppliedHashes.errors_foldl_eq_nil.1 hse).1, ?_⟩
      simpa only [List.filterMap_eq_nil_iff, SupportMemberCheck.error_eq_none] using hme
    constructor <;> simp only [VerificationStatus.ofDecision_eq_valid]
    · exact ⟨fun h => h.2.1, fun he => ⟨(herr he).1, he, (herr he).2⟩⟩
    · exact hc
    · exact fun h => h.1
    · exact fun h => h.2.2

theorem verifyDecisionPack_consistent {rawBytes : Bytes} :
    (verifyDecisionPack E rawBytes).Consistent := by
  unfold verifyDecisionPack
  cases E.decisionPackFromSlice rawBytes with
  | error e => exact .invalid _
  | ok pack =>
    dsimp only
    by_cases hf : pack.format ≠ decisionPackFormat
    · rw [if_pos hf]
      exact .invalid _
    · rw [if_neg hf]
      exact checkDecisionPack_consistent

end VertRule
