import VertRule.Lib.HashChain
import VertRule.Tables

/-!
# The history a chain commits to

The `event_hash` of the last envelope of a valid chain determines every envelope before it, as
long as the envelopes involved do not collide.
-/

namespace VertRule

variable (E : Externals)

/-- Envelopes of two chains with the same recomputed `event_hash` agree on all that it commits
to. -/
def CollisionFree (es₁ es₂ : List ReceiptEnvelope) : Prop :=
  ∀ e₁ ∈ es₁, ∀ e₂ ∈ es₂, ∀ d, E.computeEventHash e₁ = .ok d → E.computeEventHash e₂ = .ok d →
    e₁.SameCommitment e₂

variable {E} {es₁ es₂ : List ReceiptEnvelope}

/-- A valid chain is a hash chain. -/
theorem ValidChain.linked (h : ValidChain es₁) :
    HashChain.Linked ReceiptEnvelope.eventHash ReceiptEnvelope.parentId es₁ := by
  cases es₁ with
  | nil => exact .nil
  | cons first rest =>
    exact HashChain.linked_of_isChain (R := Follows) (fun _ _ hf => hf.1) h.parentless h.linked

/-- Envelopes that verify are determined by their `event_hash`. -/
theorem CollisionFree.eq (h : CollisionFree E es₁ es₂) {e₁ e₂ : ReceiptEnvelope}
    (he₁ : e₁ ∈ es₁) (he₂ : e₂ ∈ es₂) (hv₁ : e₁.Verifies E) (hv₂ : e₂.Verifies E)
    (hh : e₁.eventHash = e₂.eventHash) : e₁ = e₂ := by
  have hd₁ := verifyEventHash_eq_ok.1 hv₁.eventHash
  have hd₂ := verifyEventHash_eq_ok.1 hv₂.eventHash
  rw [← hh] at hd₂
  exact (h e₁ he₁ e₂ he₂ _ hd₁ hd₂).eq hh

/-- **The head of a chain commits to its whole history**: valid chains whose last envelopes have
the same `event_hash` are the same chain. -/
theorem verifyReceiptChain_head_commits {rawBytes₁ rawBytes₂ : Bytes}
    (hv₁ : (verifyReceiptChain E rawBytes₁).status = .valid)
    (hv₂ : (verifyReceiptChain E rawBytes₂).status = .valid)
    (hi₁ : ingestChain E rawBytes₁ = .ok es₁) (hi₂ : ingestChain E rawBytes₂ = .ok es₂)
    (hne₁ : es₁ ≠ []) (hne₂ : es₂ ≠ [])
    (hlast : (es₁.getLast hne₁).eventHash = (es₂.getLast hne₂).eventHash)
    (hcf : CollisionFree E es₁ es₂) : es₁ = es₂ := by
  obtain ⟨es, hi, hver₁, hc₁⟩ := verifyReceiptChain_valid_iff.1 hv₁
  obtain rfl : es = es₁ := Except.ok.inj (hi.symm.trans hi₁)
  obtain ⟨es', hi', hver₂, hc₂⟩ := verifyReceiptChain_valid_iff.1 hv₂
  obtain rfl : es' = es₂ := Except.ok.inj (hi'.symm.trans hi₂)
  refine hc₁.linked.eq hc₂.linked
    (fun a ha b hb => hcf.eq ha hb (hver₁ a ha) (hver₂ b hb)) ?_
  rw [List.getLast?_eq_some_getLast hne₁, List.getLast?_eq_some_getLast hne₂, Option.map_some,
    Option.map_some, hlast]

/-! ### A chain of two envelopes -/

/-- The payload of `gen_valid_single_envelope`. -/
def governancePayload : Json :=
  .object [("action", .string "create"), ("domain", .string "test.governance.v1"),
    ("value", .ofU64 42)]

/-- The receipt at time 1000, with which a chain starts. -/
def firstReceipt : ReceiptEnvelope :=
  vectorEnvelope .governance 1000 governancePayload
    (.ofNat 0x997b46238034787883e3ed3408753e1a5eb27f46af7ca3dd56a3bbd7c28ab496)

theorem firstReceipt_digest_nodup :
    ([(firstReceipt.body, firstReceipt.eventHash)].map fun p => p.1.chars).Nodup :=
  List.nodup_singleton _

/-- The receipt at time 1001, whose parent is the first. -/
def secondReceipt : ReceiptEnvelope :=
  vectorEnvelope .governance 1001 governancePayload
    (.ofNat 0x8474cff3ca413f3214c2c2dc14aaefb0acd0bf092e474e723248302da02090bf)
    (some firstReceipt.eventHash)

/-- The chain of the two. -/
def twoReceipts : Json := .array [firstReceipt.toValue, secondReceipt.toValue]

/-- The third-party code on the chain and its receipts. -/
def twoReceiptTables : Tables where
  envelopes := [(firstReceipt.toValue, firstReceipt), (secondReceipt.toValue, secondReceipt)]
  others := [twoReceipts]
  digests := [(firstReceipt.body, firstReceipt.eventHash),
    (secondReceipt.body, secondReceipt.eventHash)]
  texts_nodup := by decide +kernel

theorem ingestChain_twoReceipts {T : Tables} (h : twoReceipts ∈ T.values)
    (hfirst : (firstReceipt.toValue, firstReceipt) ∈ T.envelopes)
    (hsecond : (secondReceipt.toValue, secondReceipt) ∈ T.envelopes) :
    ingestChain T.externals (asBytes twoReceipts.text) = .ok [firstReceipt, secondReceipt] := by
  refine Tables.ingestChain_text (l := [(firstReceipt.toValue, firstReceipt),
    (secondReceipt.toValue, secondReceipt)]) rfl h ?_ ?_ ?_ (by decide) ?_
  · decide +kernel
  · decide +kernel
  · decide +kernel
  · simp only [List.mem_cons, List.not_mem_nil, or_false]
    rintro p (rfl | rfl)
    · exact ⟨hfirst, by decide +kernel, by decide +kernel⟩
    · exact ⟨hsecond, by decide +kernel, by decide +kernel⟩

theorem firstReceipt_verifies : firstReceipt.Verifies twoReceiptTables.externals :=
  Tables.verifies rfl rfl rfl (by simp [twoReceiptTables])

theorem secondReceipt_verifies : secondReceipt.Verifies twoReceiptTables.externals :=
  Tables.verifies rfl rfl rfl (by simp [twoReceiptTables])

theorem firstReceipt_eventHash_ne : firstReceipt.eventHash ≠ secondReceipt.eventHash := by
  decide +kernel

theorem validChain_twoReceipts : ValidChain [firstReceipt, secondReceipt] where
  parentless := rfl
  linked := by
    rw [List.isChain_pair]
    exact ⟨rfl, by decide⟩
  context := by simp [firstReceipt, secondReceipt, vectorEnvelope]
  policy := by simp [firstReceipt, secondReceipt, vectorEnvelope]
  schema := by simp [firstReceipt, secondReceipt, vectorEnvelope]
  distinct := by simp [firstReceipt_eventHash_ne]

theorem collisionFree_twoReceipts :
    CollisionFree twoReceiptTables.externals [firstReceipt, secondReceipt]
      [firstReceipt, secondReceipt] := by
  have hfirst := verifyEventHash_eq_ok.1 firstReceipt_verifies.eventHash
  have hsecond := verifyEventHash_eq_ok.1 secondReceipt_verifies.eventHash
  simp only [CollisionFree, List.mem_cons, List.not_mem_nil, or_false]
  rintro e₁ (rfl | rfl) e₂ (rfl | rfl) d h₁ h₂
  · rfl
  · exact absurd (Except.ok.inj (hfirst.symm.trans (h₁.trans (h₂.symm.trans hsecond))))
      firstReceipt_eventHash_ne
  · exact absurd (Except.ok.inj (hfirst.symm.trans (h₂.trans (h₁.symm.trans hsecond))))
      firstReceipt_eventHash_ne
  · rfl

theorem ingestChain_twoReceiptTables :
    ingestChain twoReceiptTables.externals (asBytes twoReceipts.text) =
      .ok [firstReceipt, secondReceipt] :=
  ingestChain_twoReceipts (by simp [twoReceiptTables, Tables.values])
    (by simp [twoReceiptTables]) (by simp [twoReceiptTables])

theorem twoReceipts_valid :
    (verifyReceiptChain twoReceiptTables.externals (asBytes twoReceipts.text)).status = .valid := by
  refine verifyReceiptChain_valid_iff.2
    ⟨_, ingestChain_twoReceiptTables, ?_, validChain_twoReceipts⟩
  simp only [List.mem_cons, List.not_mem_nil, or_false]
  rintro e (rfl | rfl)
  · exact firstReceipt_verifies
  · exact secondReceipt_verifies

/-- Any valid chain with the same head as the chain of two is that chain. -/
theorem head_commits_twoReceipts :
    (verifyReceiptChain twoReceiptTables.externals (asBytes twoReceipts.text)).status = .valid ∧
      [firstReceipt, secondReceipt] = [firstReceipt, secondReceipt] :=
  ⟨twoReceipts_valid, verifyReceiptChain_head_commits twoReceipts_valid
    twoReceipts_valid ingestChain_twoReceiptTables ingestChain_twoReceiptTables
    (List.cons_ne_nil _ _) (List.cons_ne_nil _ _) rfl collisionFree_twoReceipts⟩

end VertRule
