import VertRule.Issue.Receipt
import VertRule.PackReports

/-!
# What the digest of a report identifies

Nothing of a report is lost when it is serialized, so its canonical form determines it, to the
order of its errors; and so does its digest, as far as BLAKE3 separates canonical forms
(`VerificationResult.digest_identifies`).
-/

namespace VertRule

variable {E : Externals} {norm : Json → Json}

/-! ### Statuses -/

theorem VerificationStatus.display_injective : Function.Injective VerificationStatus.display := by
  intro a b h
  cases a <;> cases b <;> first | rfl | exact absurd h (by decide)

theorem TrustStatus.display_injective : Function.Injective TrustStatus.display := by
  intro a b h
  cases a <;> cases b <;> first | rfl | exact absurd h (by decide)

theorem MemberStatus.label_injective : Function.Injective MemberStatus.label := by
  intro a b h
  cases a <;> cases b <;> first | rfl | exact absurd h (by decide)

theorem EdgeStatus.label_injective : Function.Injective EdgeStatus.label := by
  intro a b h
  cases a <;> cases b <;> first | rfl | exact absurd h (by decide)

/-! ### The sections of a report -/

/-- Optional members are told apart where their values are. -/
theorem eq_of_norm_optional {α : Type*} {write : α → Json} {o o' : Option α}
    (h : (o.map write).map norm = (o'.map write).map norm)
    (hinj : ∀ a ∈ o, ∀ b ∈ o', norm (write a) = norm (write b) → a = b) : o = o' := by
  cases o with
  | none =>
    cases o' with
    | none => rfl
    | some b => cases h
  | some a =>
    cases o' with
    | none => cases h
    | some b => rw [hinj a rfl b rfl (Option.some.inj h)]

/-- A length that a machine word holds. -/
def FitsWord (n : ℕ) : Prop := n < 2 ^ 64

theorem FitsWord.eq {m n : ℕ} (hm : FitsWord m) (hn : FitsWord n)
    (h : UInt64.ofNat m = UInt64.ofNat n) : m = n := by
  have hval := congrArg UInt64.toNat h
  rwa [UInt64.toNat_ofNat_of_lt' hm, UInt64.toNat_ofNat_of_lt' hn] at hval

/-- Records are told apart where their members are. -/
theorem eq_of_members {α : Type*} (laws : NormalForm E norm) {toValue : α → Json}
    (members : α → List (String × Option Json)) {a b : α}
    (hvalue : ∀ a, toValue a = .object (Json.present (members a)))
    (hkeys : (members a).map Prod.fst = (members b).map Prod.fst)
    (hnodup : ((members b).map Prod.fst).Nodup)
    (hinj : (members a).map (fun m => m.2.map norm) = (members b).map (fun m => m.2.map norm) →
      a = b) (h : norm (toValue a) = norm (toValue b)) : a = b := by
  rw [hvalue, hvalue] at h
  exact hinj (laws.map_members_eq h hkeys hnodup)

section Sections

variable (laws : NormalForm E norm)
include laws

/-- The members of `DigestValidation`. -/
def DigestValidation.members (d : DigestValidation) : List (String × Option Json) :=
  [("all_hashes_match", some (.bool d.allHashesMatch)),
    ("chain_integrity", some (.bool d.chainIntegrity)),
    ("ordering_valid", some (.bool d.orderingValid))]

theorem DigestValidation.injective_toValue :
    Function.Injective fun d : DigestValidation => norm d.toValue := by
  intro d d'
  refine eq_of_members laws members (fun _ => rfl) rfl (by simp [members]) ?_
  simp only [members, List.map_cons, Option.map_some, List.cons.injEq, Option.some.injEq,
    laws.injective_bool.eq_iff]
  cases d
  cases d'
  simp

/-- The members of `ChainValidation`. -/
def ChainValidation.members (c : ChainValidation) : List (String × Option Json) :=
  [("first_logical_time", some (.ofU64 c.firstLogicalTime)),
    ("last_logical_time", some (.ofU64 c.lastLogicalTime)),
    ("length", some (.ofU64 (UInt64.ofNat c.length)))]

theorem ChainValidation.eq_of_toValue {c c' : ChainValidation} (hc : FitsWord c.length)
    (hc' : FitsWord c'.length) : norm c.toValue = norm c'.toValue → c = c' := by
  refine eq_of_members laws members (fun _ => rfl) rfl (by simp [members]) ?_
  simp only [members, List.map_cons, Option.map_some, List.cons.injEq, Option.some.injEq,
    laws.injective_ofU64.eq_iff]
  rintro ⟨hfirst, hlast, hlength, -⟩
  replace hlength := hc.eq hc' hlength
  cases c
  cases c'
  simp_all

/-- The members of `PolicyConsistency`. -/
def PolicyConsistency.members (p : PolicyConsistency) : List (String × Option Json) :=
  [("stable_policy", some (.bool p.stablePolicy)),
    ("transitions_detected", some (.bool p.transitionsDetected))]

theorem PolicyConsistency.injective_toValue :
    Function.Injective fun p : PolicyConsistency => norm p.toValue := by
  intro p p'
  refine eq_of_members laws members (fun _ => rfl) rfl (by simp [members]) ?_
  simp only [members, List.map_cons, Option.map_some, List.cons.injEq, Option.some.injEq,
    laws.injective_bool.eq_iff]
  cases p
  cases p'
  simp

theorem ContextConsistency.injective_toValue :
    Function.Injective fun c : ContextConsistency => norm c.toValue := by
  intro c c'
  refine eq_of_members laws (fun c => [("uniform_context", some (.bool c.uniformContext))])
    (fun _ => rfl) rfl (by simp) ?_
  simp only [List.map_cons, Option.map_some, List.cons.injEq, Option.some.injEq,
    laws.injective_bool.eq_iff]
  cases c
  cases c'
  simp

theorem SchemaConsistency.injective_toValue :
    Function.Injective fun s : SchemaConsistency => norm s.toValue := by
  intro s s'
  refine eq_of_members laws (fun s => [("uniform_schema", some (.bool s.uniformSchema))])
    (fun _ => rfl) rfl (by simp) ?_
  simp only [List.map_cons, Option.map_some, List.cons.injEq, Option.some.injEq,
    laws.injective_bool.eq_iff]
  cases s
  cases s'
  simp

/-- The members of `SignatureValidation`. -/
def SignatureValidation.members (s : SignatureValidation) : List (String × Option Json) :=
  [("key_id_consistent", some (.bool s.keyIdConsistent)), ("present", some (.bool s.present)),
    ("valid", some (.bool s.valid))]

theorem SignatureValidation.injective_toValue :
    Function.Injective fun s : SignatureValidation => norm s.toValue := by
  intro s s'
  refine eq_of_members laws members (fun _ => rfl) rfl (by simp [members]) ?_
  simp only [members, List.map_cons, Option.map_some, List.cons.injEq, Option.some.injEq,
    laws.injective_bool.eq_iff]
  cases s
  cases s'
  simp +contextual

/-- The members of `TrustValidation`, the absent ones too. -/
def TrustValidation.members (t : TrustValidation) : List (String × Option Json) :=
  [("authority_set_id", some (.string t.authoritySetId)), ("detail", t.detail.map .string),
    ("evaluated_at_epoch", some (.ofU64 t.evaluatedAtEpoch)), ("key_id", some (.string t.keyId)),
    ("status", some (.string t.status.display))]

theorem TrustValidation.injective_toValue :
    Function.Injective fun t : TrustValidation => norm t.toValue := by
  intro t t'
  refine eq_of_members laws members (fun t => by simp [members, toValue]) rfl (by simp [members]) ?_
  simp only [members, List.map_cons, Option.map_some, List.cons.injEq, Option.some.injEq,
    laws.injective_string.eq_iff, laws.injective_ofU64.eq_iff, Option.map_map,
    TrustStatus.display_injective.eq_iff]
  rintro ⟨hset, hdetail, hepoch, hkey, hstatus, -⟩
  replace hdetail := Option.map_injective laws.injective_string hdetail
  cases t
  cases t'
  simp_all

/-- The members of `VerificationResult`, the absent ones too. -/
def VerificationResult.members (r : VerificationResult) : List (String × Option Json) :=
  [("chain_validation", r.chainValidation.map ChainValidation.toValue),
    ("context_consistency", r.contextConsistency.map ContextConsistency.toValue),
    ("digest_validation", some r.digestValidation.toValue),
    ("errors", some (.ofStrings r.errors)),
    ("policy_consistency", r.policyConsistency.map PolicyConsistency.toValue),
    ("schema_consistency", r.schemaConsistency.map SchemaConsistency.toValue),
    ("schema_version", some (.string r.schemaVersion)),
    ("signature_validation", r.signatureValidation.map SignatureValidation.toValue),
    ("status", some (.string r.status.display)),
    ("trust_validation", r.trustValidation.map TrustValidation.toValue)]

/-- The length of the chain that is reported on fits a word, as a `usize` does. -/
def VerificationResult.Fits (r : VerificationResult) : Prop :=
  ∀ c ∈ r.chainValidation, FitsWord c.length

/-- A serialized report determines the report. -/
theorem VerificationResult.eq_of_toValue {r r' : VerificationResult} (hr : r.Fits)
    (hr' : r'.Fits) : norm r.toValue = norm r'.toValue → r = r' := by
  refine eq_of_members laws members (fun r => by simp [members, toValue]) rfl
    (by simp [members]) ?_
  simp only [members, List.map_cons, Option.map_some, List.cons.injEq, Option.some.injEq]
  rintro ⟨hchain, hcontext, hdigest, herrors, hpolicy, hschema, hversion, hsignature, hstatus,
    htrust, -⟩
  replace hchain := eq_of_norm_optional hchain fun c hc c' hc' =>
    ChainValidation.eq_of_toValue laws (hr c hc) (hr' c' hc')
  rw [Option.map_map, Option.map_map] at hcontext hpolicy hschema hsignature htrust
  replace hcontext := Option.map_injective (ContextConsistency.injective_toValue laws) hcontext
  replace hdigest := DigestValidation.injective_toValue laws hdigest
  replace herrors := laws.injective_array laws.injective_string herrors
  replace hpolicy := Option.map_injective (PolicyConsistency.injective_toValue laws) hpolicy
  replace hschema := Option.map_injective (SchemaConsistency.injective_toValue laws) hschema
  replace hversion := laws.injective_string hversion
  replace hsignature := Option.map_injective (SignatureValidation.injective_toValue laws) hsignature
  replace hstatus := VerificationStatus.display_injective (laws.injective_string hstatus)
  replace htrust := Option.map_injective (TrustValidation.injective_toValue laws) htrust
  cases r
  cases r'
  simp_all

/-! ### The reports on packs -/

/-- The members of `SidecarDigestCheck`. -/
def SidecarDigestCheck.members (c : SidecarDigestCheck) : List (String × Option Json) :=
  [("computed", some (.string c.computed)), ("expected", some (.string c.expected)),
    ("matches", some (.bool c.isMatch)), ("name", some (.string c.name))]

theorem SidecarDigestCheck.injective_toValue :
    Function.Injective fun c : SidecarDigestCheck => norm c.toValue := by
  intro c c'
  refine eq_of_members laws members (fun _ => rfl) rfl (by simp [members]) ?_
  simp only [members, List.map_cons, Option.map_some, List.cons.injEq, Option.some.injEq,
    laws.injective_string.eq_iff, laws.injective_bool.eq_iff]
  cases c
  cases c'
  simp +contextual

/-- The members of `SupportMemberCheck`, the absent ones too. -/
def SupportMemberCheck.members (c : SupportMemberCheck) : List (String × Option Json) :=
  [("detail", c.detail.map .string), ("member_kind", some (.string c.memberKind)),
    ("reference", some (.string c.reference)), ("status", some (.string c.status.label))]

theorem SupportMemberCheck.injective_toValue :
    Function.Injective fun c : SupportMemberCheck => norm c.toValue := by
  intro c c'
  refine eq_of_members laws members (fun c => by simp [members, toValue]) rfl
    (by simp [members]) ?_
  simp only [members, List.map_cons, Option.map_some, List.cons.injEq, Option.some.injEq,
    laws.injective_string.eq_iff, Option.map_map, MemberStatus.label_injective.eq_iff]
  rintro ⟨hdetail, hkind, hreference, hstatus, -⟩
  replace hdetail := Option.map_injective laws.injective_string hdetail
  cases c
  cases c'
  simp_all

/-- The members of `EdgeCheck`, the absent ones too. -/
def EdgeCheck.members (c : EdgeCheck) : List (String × Option Json) :=
  [("detail", c.detail.map .string), ("event_hash", some (.string c.eventHash)),
    ("role", c.role.map .string), ("status", some (.string c.status.label)),
    ("target_schema", c.targetSchema.map .string)]

theorem EdgeCheck.injective_toValue :
    Function.Injective fun c : EdgeCheck => norm c.toValue := by
  intro c c'
  refine eq_of_members laws members (fun c => by simp [members, toValue]) rfl
    (by simp [members]) ?_
  simp only [members, List.map_cons, Option.map_some, List.cons.injEq, Option.some.injEq,
    laws.injective_string.eq_iff, Option.map_map, EdgeStatus.label_injective.eq_iff]
  rintro ⟨hdetail, hhash, hrole, hstatus, hschema, -⟩
  replace hdetail := Option.map_injective laws.injective_string hdetail
  replace hrole := Option.map_injective laws.injective_string hrole
  replace hschema := Option.map_injective laws.injective_string hschema
  cases c
  cases c'
  simp_all

/-- The members of `BundleVerificationResult`. -/
def BundleVerificationResult.members (r : BundleVerificationResult) :
    List (String × Option Json) :=
  [("envelope_result", some r.envelopeResult.toValue), ("errors", some (.ofStrings r.errors)),
    ("schema_version", some (.string r.schemaVersion)),
    ("sidecar_checks", some (.ofList SidecarDigestCheck.toValue r.sidecarChecks)),
    ("status", some (.string r.status.display))]

theorem BundleVerificationResult.eq_of_toValue {r r' : BundleVerificationResult}
    (hr : r.envelopeResult.Fits) (hr' : r'.envelopeResult.Fits) :
    norm r.toValue = norm r'.toValue → r = r' := by
  refine eq_of_members laws members (fun _ => rfl) rfl (by simp [members]) ?_
  simp only [members, List.map_cons, Option.map_some, List.cons.injEq, Option.some.injEq]
  rintro ⟨hresult, herrors, hversion, hchecks, hstatus, -⟩
  replace hresult := VerificationResult.eq_of_toValue laws hr hr' hresult
  replace herrors := laws.injective_array laws.injective_string herrors
  replace hversion := laws.injective_string hversion
  replace hchecks := laws.injective_array (SidecarDigestCheck.injective_toValue laws) hchecks
  replace hstatus := VerificationStatus.display_injective (laws.injective_string hstatus)
  cases r
  cases r'
  simp_all

/-- The members of `DecisionPackVerificationResult`, the absent ones too. -/
def DecisionPackVerificationResult.members (r : DecisionPackVerificationResult) :
    List (String × Option Json) :=
  [("decision_result", some r.decisionResult.toValue), ("errors", some (.ofStrings r.errors)),
    ("member_checks", some (.ofList SupportMemberCheck.toValue r.memberChecks)),
    ("schema_version", some (.string r.schemaVersion)),
    ("status", some (.string r.status.display)), ("verdict_kind", r.verdictKind.map .string)]

theorem DecisionPackVerificationResult.eq_of_toValue {r r' : DecisionPackVerificationResult}
    (hr : r.decisionResult.Fits) (hr' : r'.decisionResult.Fits) :
    norm r.toValue = norm r'.toValue → r = r' := by
  refine eq_of_members laws members (fun r => by simp [members, toValue]) rfl
    (by simp [members]) ?_
  simp only [members, List.map_cons, Option.map_some, List.cons.injEq, Option.some.injEq,
    Option.map_map]
  rintro ⟨hresult, herrors, hchecks, hversion, hstatus, hverdict, -⟩
  replace hresult := VerificationResult.eq_of_toValue laws hr hr' hresult
  replace herrors := laws.injective_array laws.injective_string herrors
  replace hchecks := laws.injective_array (SupportMemberCheck.injective_toValue laws) hchecks
  replace hversion := laws.injective_string hversion
  replace hstatus := VerificationStatus.display_injective (laws.injective_string hstatus)
  replace hverdict := Option.map_injective laws.injective_string hverdict
  cases r
  cases r'
  simp_all

/-- The members of `LayeredPackVerificationResult`, the absent ones too. -/
def LayeredPackVerificationResult.members (r : LayeredPackVerificationResult) :
    List (String × Option Json) :=
  [("edge_checks", some (.ofList EdgeCheck.toValue r.edgeChecks)),
    ("errors", some (.ofStrings r.errors)), ("root_kind", r.rootKind.map .string),
    ("root_result", some r.rootResult.toValue), ("schema_version", some (.string r.schemaVersion)),
    ("status", some (.string r.status.display))]

theorem LayeredPackVerificationResult.eq_of_toValue {r r' : LayeredPackVerificationResult}
    (hr : r.rootResult.Fits) (hr' : r'.rootResult.Fits) :
    norm r.toValue = norm r'.toValue → r = r' := by
  refine eq_of_members laws members (fun r => by simp [members, toValue]) rfl
    (by simp [members]) ?_
  simp only [members, List.map_cons, Option.map_some, List.cons.injEq, Option.some.injEq,
    Option.map_map]
  rintro ⟨hchecks, herrors, hkind, hresult, hversion, hstatus, -⟩
  replace hchecks := laws.injective_array (EdgeCheck.injective_toValue laws) hchecks
  replace herrors := laws.injective_array laws.injective_string herrors
  replace hkind := Option.map_injective laws.injective_string hkind
  replace hresult := VerificationResult.eq_of_toValue laws hr hr' hresult
  replace hversion := laws.injective_string hversion
  replace hstatus := VerificationStatus.display_injective (laws.injective_string hstatus)
  cases r
  cases r'
  simp_all

/-- The members of `ClosureBundleVerificationResult`, the absent ones too. -/
def ClosureBundleVerificationResult.members (r : ClosureBundleVerificationResult) :
    List (String × Option Json) :=
  [("closure_complete", some (.bool r.closureComplete)),
    ("closure_size", some (.ofU64 (UInt64.ofNat r.closureSize))),
    ("cycle_detected", some (.bool r.cycleDetected)),
    ("edge_checks", some (.ofList EdgeCheck.toValue r.edgeChecks)),
    ("errors", some (.ofStrings r.errors)), ("manifest_digest_ok", some (.bool r.manifestDigestOk)),
    ("root_event_hash", r.rootEventHash.map .string), ("root_result", some r.rootResult.toValue),
    ("schema_version", some (.string r.schemaVersion)),
    ("status", some (.string r.status.display))]

theorem ClosureBundleVerificationResult.eq_of_toValue {r r' : ClosureBundleVerificationResult}
    (hr : r.rootResult.Fits) (hr' : r'.rootResult.Fits) (hsize : FitsWord r.closureSize)
    (hsize' : FitsWord r'.closureSize) : norm r.toValue = norm r'.toValue → r = r' := by
  refine eq_of_members laws members (fun r => by simp [members, toValue]) rfl
    (by simp [members]) ?_
  simp only [members, List.map_cons, Option.map_some, List.cons.injEq, Option.some.injEq,
    Option.map_map, laws.injective_bool.eq_iff, laws.injective_ofU64.eq_iff]
  rintro ⟨hcomplete, hclosure, hcycle, hchecks, herrors, hmanifest, hroot, hresult, hversion,
    hstatus, -⟩
  replace hclosure := hsize.eq hsize' hclosure
  replace hchecks := laws.injective_array (EdgeCheck.injective_toValue laws) hchecks
  replace herrors := laws.injective_array laws.injective_string herrors
  replace hroot := Option.map_injective laws.injective_string hroot
  replace hresult := VerificationResult.eq_of_toValue laws hr hr' hresult
  replace hversion := laws.injective_string hversion
  replace hstatus := VerificationStatus.display_injective (laws.injective_string hstatus)
  cases r
  cases r'
  simp_all

end Sections

/-! ### Canonical forms and digests -/

/-- Reports of each kind are told apart by their canonical forms, and results of receipts and chains
by their digests, where these do not collide. -/
structure ReportsIdentified (E : Externals) : Prop where
  result : ∀ r r' : VerificationResult, r.Fits → r'.Fits → ∀ c,
    r.toCanonBytes E = .ok c → r'.toCanonBytes E = .ok c → r = r'
  digest : ∀ r r' : VerificationResult, r.Fits → r'.Fits → ∀ d,
    (∀ c c', r.toCanonBytes E = .ok c → r'.toCanonBytes E = .ok c' → E.blake3 c = E.blake3 c' →
      c = c') → r.digest E = .ok d → r'.digest E = .ok d → r = r'
  bundle : ∀ r r' : BundleVerificationResult, r.envelopeResult.Fits → r'.envelopeResult.Fits →
    ∀ c, r.toCanonBytes E = .ok c → r'.toCanonBytes E = .ok c → r = r'
  decision : ∀ r r' : DecisionPackVerificationResult, r.decisionResult.Fits →
    r'.decisionResult.Fits → ∀ c, r.toCanonBytes E = .ok c → r'.toCanonBytes E = .ok c → r = r'
  layered : ∀ r r' : LayeredPackVerificationResult, r.rootResult.Fits → r'.rootResult.Fits →
    ∀ c, r.toCanonBytes E = .ok c → r'.toCanonBytes E = .ok c → r = r'
  closure : ∀ r r' : ClosureBundleVerificationResult, r.rootResult.Fits → r'.rootResult.Fits →
    FitsWord r.closureSize → FitsWord r'.closureSize →
    ∀ c, r.toCanonBytes E = .ok c → r'.toCanonBytes E = .ok c → r = r'

theorem NormalForm.eq_of_canonical (laws : NormalForm E norm) {v w : Json} {c : Bytes}
    (hv : typedCanonBytes E v = .ok c) (hw : typedCanonBytes E w = .ok c) : norm v = norm w :=
  (laws.canonical hw).1 hv

theorem VerificationResult.digest_eq_ok {r : VerificationResult} {d : DigestBytes} :
    r.digest E = .ok d ↔ ∃ c, r.toCanonBytes E = .ok c ∧ E.blake3 c = d := by
  simp only [digest, toCanonBytes, Except.bind_eq_ok, Except.pure_eq_ok, Except.ok.injEq]

/-- **A report is determined by its canonical form**, and by its digest. -/
theorem reports_identified (laws : NormalForm E norm) : ReportsIdentified E where
  result _ _ hr hr' _ h h' :=
    VerificationResult.eq_of_toValue laws hr hr' (laws.eq_of_canonical h h')
  digest r r' hr hr' d hsep h h' := by
    obtain ⟨c, hc, rfl⟩ := VerificationResult.digest_eq_ok.1 h
    obtain ⟨c', hc', hd⟩ := VerificationResult.digest_eq_ok.1 h'
    obtain rfl := hsep c c' hc hc' hd.symm
    exact VerificationResult.eq_of_toValue laws hr hr' (laws.eq_of_canonical hc hc')
  bundle _ _ hr hr' _ h h' :=
    BundleVerificationResult.eq_of_toValue laws hr hr' (laws.eq_of_canonical h h')
  decision _ _ hr hr' _ h h' :=
    DecisionPackVerificationResult.eq_of_toValue laws hr hr' (laws.eq_of_canonical h h')
  layered _ _ hr hr' _ h h' :=
    LayeredPackVerificationResult.eq_of_toValue laws hr hr' (laws.eq_of_canonical h h')
  closure _ _ hr hr' hsize hsize' _ h h' := ClosureBundleVerificationResult.eq_of_toValue laws
    hr hr' hsize hsize' (laws.eq_of_canonical h h')

/-! ### Two reports -/

/-- What the verifier reports of a valid receipt, and of bytes that it refuses. -/
def reportTables : Tables where
  envelopes := []
  others := [VerificationResult.validSingle.toValue,
    (VerificationResult.invalid "malformed JSON: chain must be a JSON array").toValue]
  texts_nodup := by decide +kernel

theorem reports_identified_reportTables : ReportsIdentified (Issue.issuing reportTables) := by
  refine reports_identified (Issue.normalForm_issuing fun u hu => ?_)
  simp only [Tables.values, reportTables, List.map_nil, List.nil_append, List.mem_cons,
    List.not_mem_nil, or_false] at hu
  rcases hu with rfl | rfl <;> decide +kernel

end VertRule
