import VertRule.Growth
import VertRule.Issue.Receipt

/-!
# Issued chains

A chain is issued by passing each `event_hash` on to the next envelope.  Its elements verify, and
they are linked, whatever the issuer was told; the verdict on the chain is left to the times and
the digests it was told (`verifyReceiptChain_issued_iff`).
-/

namespace VertRule

namespace Issue

variable {E : Externals} {norm : Json → Json}

/-! ### One step -/

/-- An envelope is read back as the step and the parent it was issued for. -/
structure Issued (E : Externals) (step : VectorStep) (parentId : Option String)
    (envelope : ReceiptEnvelope) : Prop where
  verifies : envelope.Verifies E
  time : envelope.logicalTime = step.logicalTime
  parent : envelope.parentId.map DigestBytes.toHex = parentId
  context : envelope.contextDigest.toValue = step.contextDigest
  policy : envelope.policyDigest.toValue = step.policyDigest
  schema : envelope.schemaDigest.toValue = placeholderHex64 0xbb

section OneStep

variable {body : List (String × Json)} {eventHash : String} {v value : Json}
  {envelope : ReceiptEnvelope}

/-- A member that is read back as a digest was committed to as its hex string. -/
theorem ReadBack.digest (laws : IssueLaws E norm) (hdraft : Draft body)
    (h : ReadBack E norm body eventHash v envelope) (key : String) {d : DigestBytes} {w : Json}
    (hf : (key, d.toValue) ∈ envelope.required) (hkey : key ≠ "event_hash")
    (henum : key ∉ enumerationFields) (hbody : body.lookup key = some w) : d.toValue = w := by
  have hread := (h.decoded laws).get_required hf henum
  obtain ⟨fields, rfl, -, hl⟩ := h.members laws hdraft
  rw [Json.get_object] at hread
  have hmember := hl key hkey
  rw [hread, hbody] at hmember
  exact (laws.normal.string (Option.some.inj hmember).symm).symm

theorem ReadBack.parent (laws : IssueLaws E norm) (hdraft : Draft body)
    (h : ReadBack E norm body eventHash v envelope) {parentId : Option String}
    (hbody : body.lookup "parent_id" = parentId.map .string) :
    envelope.parentId.map DigestBytes.toHex = parentId := by
  have hne : "parent_id" ≠ "event_hash" := by decide
  have hf : ("parent_id", envelope.parentId.map DigestBytes.toValue) ∈ envelope.optional := by
    simp [ReceiptEnvelope.optional]
  cases parentId with
  | none =>
    have hnone := h.optional_none laws hdraft hf hne hbody
    simpa using hnone
  | some parent =>
    have hget := h.get_string laws hdraft hne hbody
    rcases (h.decoded laws).get_optional hf (show "parent_id" ∉ enumerationFields by decide) with
      hread | ⟨-, hnull⟩
    · rw [hget] at hread
      obtain ⟨d, hd, hhex⟩ := Option.map_eq_some_iff.1 hread.symm
      rw [hd, Option.map_some, Json.string.inj hhex]
    · rw [hget] at hnull
      simp at hnull

theorem ReadBack.issued (laws : IssueLaws E norm) {step : VectorStep} {parentId : Option String}
    (hseal : sealEnvelope E (step.body parentId) = .ok (eventHash, value))
    (h : ReadBack E norm (step.body parentId) eventHash v envelope) :
    Issued E step parentId envelope where
  verifies := verifies_vectorBody laws hseal h
  time := (commitsAsRead_vectorBody laws h).1
  parent := by
    refine h.parent laws draft_vectorBody ?_
    cases parentId <;> simp [vectorBody, optField, List.lookup_cons]
  context := h.digest laws draft_vectorBody "context_digest"
    (by simp [ReceiptEnvelope.required]) (by decide) (by decide)
    (by simp [vectorBody, List.lookup_cons])
  policy := h.digest laws draft_vectorBody "policy_digest"
    (by simp [ReceiptEnvelope.required]) (by decide) (by decide)
    (by simp [vectorBody, List.lookup_cons])
  schema := h.digest laws draft_vectorBody "schema_digest"
    (by simp [ReceiptEnvelope.required]) (by decide) (by decide)
    (by simp [vectorBody, List.lookup_cons])

end OneStep

/-! ### A whole chain -/

section Run

variable {α : Type*} {body : α → Option String → List (String × Json)}
  {parentHash : Option String} {steps : List α} {values elems : List Json}
  {es : List ReceiptEnvelope} {rawBytes : Bytes}

theorem issueChain_cons_eq_ok {step : α} :
    issueChain E body parentHash (step :: steps) = .ok values ↔
      ∃ eventHash value rest, sealEnvelope E (body step parentHash) = .ok (eventHash, value) ∧
        issueChain E body (some eventHash) steps = .ok rest ∧ values = value :: rest := by
  simp only [issueChain, Except.bind_eq_ok, Except.pure_eq_ok, Except.ok.injEq, Prod.exists]
  constructor
  · rintro ⟨eventHash, value, hseal, rest, hrest, rfl⟩
    exact ⟨eventHash, value, rest, hseal, hrest, rfl⟩
  · rintro ⟨eventHash, value, rest, hseal, hrest, rfl⟩
    exact ⟨eventHash, value, hseal, rest, hrest, rfl⟩

/-- The envelopes that are read back of a chain issued after `parentHash`. -/
inductive ReadChain (E : Externals) (norm : Json → Json)
    (body : α → Option String → List (String × Json)) :
    Option String → List α → List ReceiptEnvelope → Prop
  | nil {parentHash : Option String} : ReadChain E norm body parentHash [] []
  | cons {parentHash : Option String} {step : α} {steps : List α} {eventHash : String}
      {value v : Json} {e : ReceiptEnvelope} {es : List ReceiptEnvelope} :
    sealEnvelope E (body step parentHash) = .ok (eventHash, value) →
    ReadBack E norm (body step parentHash) eventHash v e →
    ReadChain E norm body (some eventHash) steps es →
    ReadChain E norm body parentHash (step :: steps) (e :: es)

theorem readChain_of_admitted (hissue : issueChain E body parentHash steps = .ok values)
    (hsame : elems.map norm = values.map norm)
    (hall : List.Forall₂ (ElementAdmitted E) elems es) :
    ReadChain E norm body parentHash steps es := by
  induction steps generalizing parentHash values elems es with
  | nil =>
    obtain rfl := Except.ok.inj hissue
    obtain rfl : elems = [] := by simpa using hsame
    cases hall
    exact .nil
  | cons step steps ih =>
    obtain ⟨eventHash, value, rest, hseal, hrest, rfl⟩ := issueChain_cons_eq_ok.1 hissue
    obtain ⟨elem, elems, rfl, hvalue, hrestSame⟩ := List.map_eq_cons_iff.1 hsame
    cases hall with
    | cons ha hall =>
      obtain ⟨-, -, -, rfl⟩ := sealEnvelope_eq_ok.1 hseal
      exact .cons hseal ⟨hvalue, ha.schema, ha.typed⟩ (ih hrest hrestSame hall)

/-- What is ingested of the canonical text of an issued chain is read back of it. -/
theorem readChain_of_ingest (laws : IssueLaws E norm)
    (hissue : issueChain E body parentHash steps = .ok values)
    (hraw : typedCanonBytes E (.array values) = .ok rawBytes)
    (hi : ingestChain E rawBytes = .ok es) : ReadChain E norm body parentHash steps es := by
  obtain ⟨-, hcanon, elems, hv, -, -, hall⟩ := ingestChainWithLimits_eq_ok.1 hi
  obtain ⟨w, hw, hn⟩ := laws.normal.reads hraw hcanon
  obtain rfl := Except.ok.inj (hv.symm.trans hw)
  obtain ⟨elems', helems, hsame⟩ := laws.normal.array hn
  obtain rfl := Json.array.inj helems
  exact readChain_of_admitted hissue hsame hall

end Run

/-! ### What is left to check -/

section Vector

variable {parentHash : Option String} {steps : List VectorStep} {values : List Json}
  {es : List ReceiptEnvelope} {rawBytes : Bytes}

/-- Every envelope verifies, and it has the time and the digests of its step. -/
theorem ReadChain.forall₂_issued (laws : IssueLaws E norm)
    (h : ReadChain E norm VectorStep.body parentHash steps es) :
    List.Forall₂ (fun step e => ∃ parentId, Issued E step parentId e) steps es := by
  induction h with
  | nil => exact .nil
  | cons hseal hread _ ih => exact .cons ⟨_, hread.issued laws hseal⟩ ih

theorem ReadChain.issued (laws : IssueLaws E norm)
    (h : ReadChain E norm VectorStep.body parentHash steps es) :
    ∀ e ∈ es, ∃ step parentId, Issued E step parentId e := by
  induction h with
  | nil => simp
  | cons hseal hread _ ih =>
    exact List.forall_mem_cons.2 ⟨⟨_, _, hread.issued laws hseal⟩, ih⟩

/-- Every envelope has the `event_hash` of the one before as its parent. -/
theorem ReadChain.linked (laws : IssueLaws E norm)
    (h : ReadChain E norm VectorStep.body parentHash steps es) :
    (∀ first ∈ es.head?, first.parentId.map DigestBytes.toHex = parentHash) ∧
      es.IsChain fun prev curr => curr.parentId = some prev.eventHash := by
  induction h with
  | nil => simp
  | cons hseal hread _ ih =>
    obtain ⟨hhead, hchain⟩ := ih
    refine ⟨?_, List.isChain_cons.2 ⟨fun next hnext => ?_, hchain⟩⟩
    · simp [(hread.issued laws hseal).parent]
    · have hparent := hhead next hnext
      rw [← hread.toHex_eventHash laws draft_vectorBody] at hparent
      obtain ⟨d, hd, hhex⟩ := Option.map_eq_some_iff.1 hparent
      rw [hd, DigestBytes.toHex_injective hhex]

theorem map_eq_of_forall₂ {α β γ : Type*} {R : α → β → Prop} {f : β → γ} {g : α → γ}
    {l : List α} {m : List β} (h : List.Forall₂ R l m) (hR : ∀ a b, R a b → f b = g a) :
    m.map f = l.map g := by
  induction h with
  | nil => rfl
  | cons hab _ ih => rw [List.map_cons, List.map_cons, hR _ _ hab, ih]

/-- Lists with the same values are uniform alike. -/
theorem uniform_iff_of_map_eq {α β γ : Type*} {f : β → γ} {g : α → γ} {l : List α} {m : List β}
    (h : m.map f = l.map g) :
    (∀ b ∈ m, ∀ b' ∈ m, f b = f b') ↔ ∀ a ∈ l, ∀ a' ∈ l, g a = g a' := by
  have hm : (∀ b ∈ m, ∀ b' ∈ m, f b = f b') ↔ ∀ x ∈ m.map f, ∀ y ∈ m.map f, x = y := by simp
  have hl : (∀ a ∈ l, ∀ a' ∈ l, g a = g a') ↔ ∀ x ∈ l.map g, ∀ y ∈ l.map g, x = y := by simp
  rw [hm, hl, h]

/-- What the steps of a valid chain fulfil: times increase, and all share a context and a policy. -/
structure ChainSteps (steps : List VectorStep) : Prop where
  increasing : steps.Pairwise fun earlier later => earlier.logicalTime < later.logicalTime
  context : ∀ s ∈ steps, ∀ t ∈ steps, s.contextDigest = t.contextDigest
  policy : ∀ s ∈ steps, ∀ t ∈ steps, s.policyDigest = t.policyDigest

theorem ReadChain.chainRules_iff (laws : IssueLaws E norm)
    (h : ReadChain E norm VectorStep.body none steps es) (hcf : CollisionFree E es es) :
    ChainRules es ↔ ChainSteps steps := by
  have hall := h.forall₂_issued laws
  have htimes : es.map (·.logicalTime) = steps.map (·.logicalTime) :=
    map_eq_of_forall₂ hall fun _ _ ⟨_, hi⟩ => hi.time
  have hincreasing : (es.Pairwise fun earlier later => earlier.logicalTime < later.logicalTime) ↔
      steps.Pairwise fun earlier later => earlier.logicalTime < later.logicalTime := by
    rw [← List.pairwise_map (f := ReceiptEnvelope.logicalTime) (R := (· < ·)), htimes,
      List.pairwise_map]
  have hcontext := uniform_iff_of_map_eq (map_eq_of_forall₂ hall fun _ _ ⟨_, hi⟩ => hi.context)
  have hpolicy := uniform_iff_of_map_eq (map_eq_of_forall₂ hall fun _ _ ⟨_, hi⟩ => hi.policy)
  simp only [DigestBytes.toValue_injective.eq_iff] at hcontext hpolicy
  constructor
  · intro hr
    exact ⟨hincreasing.1 hr.increasing, hcontext.1 hr.context, hpolicy.1 hr.policy⟩
  · intro hs
    obtain ⟨hhead, hlinked⟩ := h.linked laws
    have hissued := h.issued laws
    have hpairs := hincreasing.2 hs.increasing
    refine ⟨fun first hf => by simpa using hhead first hf, hlinked, hpairs,
      hcontext.2 hs.context, hpolicy.2 hs.policy, fun e he e' he' => ?_, ?_⟩
    · obtain ⟨_, _, hi⟩ := hissued e he
      obtain ⟨_, _, hi'⟩ := hissued e' he'
      exact DigestBytes.toValue_injective (hi.schema.trans hi'.schema.symm)
    · -- envelopes with one hash are one envelope, and so have one time
      refine List.pairwise_map.2 (hpairs.imp_of_mem fun {e e'} he he' hlt heq => ?_)
      obtain ⟨_, _, hi⟩ := hissued e he
      obtain ⟨_, _, hi'⟩ := hissued e' he'
      rw [hcf.eq he he' hi.verifies hi'.verifies heq] at hlt
      exact UInt64.lt_irrefl _ hlt

/-- **An issued chain is valid exactly when its steps fulfil the rules of a chain**: the issuer
links and hashes correctly whatever its arguments. -/
theorem verifyReceiptChain_issued_iff (laws : IssueLaws E norm)
    (hissue : issueChain E VectorStep.body none steps = .ok values)
    (hraw : typedCanonBytes E (.array values) = .ok rawBytes)
    (hi : ingestChain E rawBytes = .ok es) (hcf : CollisionFree E es es) :
    (verifyReceiptChain E rawBytes).status = .valid ↔ ChainSteps steps := by
  have hread := readChain_of_ingest laws hissue hraw hi
  have hverifies : ∀ e ∈ es, e.Verifies E := by
    intro e he
    obtain ⟨_, _, hissued⟩ := hread.issued laws e he
    exact hissued.verifies
  rw [verifyReceiptChain_valid_iff, ← hread.chainRules_iff laws hcf, ← validChain_iff_rules]
  constructor
  · rintro ⟨es', hi', -, hvalid⟩
    obtain rfl := Except.ok.inj (hi.symm.trans hi')
    exact hvalid
  · intro hvalid
    exact ⟨es, hi, hverifies, hvalid⟩

end Vector

/-- Two envelopes with hashes of their own do not collide. -/
theorem collisionFree_pair {a b : ReceiptEnvelope} (ha : E.computeEventHash a = .ok a.eventHash)
    (hb : E.computeEventHash b = .ok b.eventHash) (hne : a.eventHash ≠ b.eventHash) :
    CollisionFree E [a, b] [a, b] := by
  have hab : ∀ d, E.computeEventHash a = .ok d → ¬ E.computeEventHash b = .ok d := by
    intro d had hbd
    exact hne ((Except.ok.inj (ha.symm.trans had)).trans (Except.ok.inj (hb.symm.trans hbd)).symm)
  simp only [CollisionFree, List.mem_cons, List.not_mem_nil, or_false]
  rintro e₁ (rfl | rfl) e₂ (rfl | rfl) d h₁ h₂
  · rfl
  · exact absurd h₂ (hab d h₁)
  · exact absurd h₁ (hab d h₂)
  · rfl

/-! ### The two receipts, as they were issued -/

/-- The third-party code on the chain, its receipts and the bodies they are sealed over. -/
def issuedChainTables : Tables where
  envelopes := [(firstReceipt.toValue, firstReceipt), (secondReceipt.toValue, secondReceipt)]
  others := [firstReceipt.body, secondReceipt.body, twoReceipts]
  digests := [(firstReceipt.body, firstReceipt.eventHash),
    (secondReceipt.body, secondReceipt.eventHash)]
  texts_nodup := by decide +kernel
  digests_nodup := twoReceiptTables.digests_nodup

theorem issueLaws_issuedChainTables : IssueLaws (issuing issuedChainTables) Json.sorted := by
  refine issueLaws_of_toValue ?_ ?_
  · simp only [Tables.values, issuedChainTables, List.map_cons, List.map_nil, List.cons_append,
      List.nil_append, List.mem_cons, List.not_mem_nil, or_false]
    rintro u (rfl | rfl | rfl | rfl | rfl) <;> decide +kernel
  · simp [issuedChainTables]

/-- A step of `generate_test_vectors.rs` with the digests of `build_envelope`. -/
def governanceStep (logicalTime : UInt64) : VectorStep where
  payload := governancePayload
  logicalTime
  receiptType := "governance"
  contextDigest := placeholderHex64 0xaa
  policyDigest := placeholderHex64 0xcc

/-- The steps at the times 1000 and 1001. -/
def twoSteps : List VectorStep := [governanceStep 1000, governanceStep 1001]

/-- The body of the second receipt, in the order of the issuer. -/
def secondBody : List (String × Json) :=
  (governanceStep 1001).body (some firstReceipt.eventHash.toHex)

/-- The two envelopes as they are issued, with their members in the order of the issuer. -/
def twoIssued : List Json :=
  [.object (withEventHash firstBody firstReceipt.eventHash.toHex),
    .object (withEventHash secondBody secondReceipt.eventHash.toHex)]

theorem issueChain_twoSteps :
    issueChain (issuing issuedChainTables) VectorStep.body none twoSteps = .ok twoIssued := by
  have hfirst : sealEnvelope (issuing issuedChainTables) firstBody = _ :=
    sealEnvelope_issuing (u := firstReceipt.body) (d := firstReceipt.eventHash) (by decide +kernel)
      (by simp [Tables.values, issuedChainTables]) (by decide +kernel)
      (by simp [issuedChainTables])
  have hsecond : sealEnvelope (issuing issuedChainTables) secondBody = _ :=
    sealEnvelope_issuing (u := secondReceipt.body) (d := secondReceipt.eventHash)
      (by decide +kernel) (by simp [Tables.values, issuedChainTables]) (by decide +kernel)
      (by simp [issuedChainTables])
  exact issueChain_cons_eq_ok.2 ⟨_, _, _, hfirst,
    issueChain_cons_eq_ok.2 ⟨_, _, _, hsecond, rfl, rfl⟩, rfl⟩

theorem typedCanonBytes_twoIssued : typedCanonBytes (issuing issuedChainTables)
    (.array twoIssued) = .ok (asBytes twoReceipts.text) := by
  refine typedCanonBytes_issuing_of_sorted ?_ ?_ ?_
  · decide +kernel
  · simp [Tables.values, issuedChainTables]
  · decide +kernel

theorem ingestChain_twoIssued : ingestChain (issuing issuedChainTables) (asBytes twoReceipts.text) =
    .ok [firstReceipt, secondReceipt] :=
  ingestChain_issuing.trans <| ingestChain_twoReceipts (by simp [Tables.values, issuedChainTables])
    (by simp [issuedChainTables]) (by simp [issuedChainTables])

theorem collisionFree_twoIssued : CollisionFree (issuing issuedChainTables)
    [firstReceipt, secondReceipt] [firstReceipt, secondReceipt] := by
  refine collisionFree_pair ?_ ?_ firstReceipt_eventHash_ne
  · exact computeEventHash_issuing (u := firstReceipt.body) (by decide +kernel)
      (by simp [Tables.values, issuedChainTables]) (by decide +kernel)
      (by simp [issuedChainTables])
  · exact computeEventHash_issuing (u := secondReceipt.body) (by decide +kernel)
      (by simp [Tables.values, issuedChainTables]) (by decide +kernel)
      (by simp [issuedChainTables])

theorem issued_twoReceipts :
    (verifyReceiptChain (issuing issuedChainTables) (asBytes twoReceipts.text)).status = .valid ↔
      ChainSteps twoSteps :=
  verifyReceiptChain_issued_iff issueLaws_issuedChainTables issueChain_twoSteps
    typedCanonBytes_twoIssued ingestChain_twoIssued collisionFree_twoIssued

end Issue

end VertRule
