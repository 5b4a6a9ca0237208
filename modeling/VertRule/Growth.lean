import VertRule.Elements
import VertRule.Recut

/-!
# Chains that grow

A chain of receipts is a log that is appended to.  A receipt goes on with a valid chain by a test
of its own fields against the first and the last envelope and the hashes so far (`Continues`), and
a valid chain is one that has grown by such receipts from the empty one (`validChain_append`).  So
the verdict on a longer chain is the verdict on its start and on what was appended
(`verifyReceiptChainWithLimits_append`), and the valid chains branch like a tree: two of them that
part never share an `event_hash` again (`verifyReceiptChain_fork`).
-/

namespace VertRule

/-! ### What goes on with a chain -/

/-- `e` goes on with the chain `es`. -/
structure Continues (es : List ReceiptEnvelope) (e : ReceiptEnvelope) : Prop where
  parent : e.parentId = es.getLast?.map (·.eventHash)
  later : ∀ prev ∈ es.getLast?, prev.logicalTime < e.logicalTime
  context : ∀ first ∈ es.head?, e.contextDigest = first.contextDigest
  policy : ∀ first ∈ es.head?, e.policyDigest = first.policyDigest
  schema : ∀ first ∈ es.head?, e.schemaDigest = first.schemaDigest
  fresh : e.eventHash ∉ es.map (·.eventHash)

/-- The envelopes `fs` go on with the chain `es`, one after the other. -/
inductive Grows : List ReceiptEnvelope → List ReceiptEnvelope → Prop
  | nil {es : List ReceiptEnvelope} : Grows es []
  | cons {es fs : List ReceiptEnvelope} {e : ReceiptEnvelope} (h : Continues es e)
      (hs : Grows (es ++ [e]) fs) : Grows es (e :: fs)

variable {es fs : List ReceiptEnvelope} {e : ReceiptEnvelope}

/-- A field that is uniform on a chain is uniform on the longer one if it is that of the first. -/
theorem uniform_snoc {field : ReceiptEnvelope → DigestBytes} :
    (∀ e₁ ∈ es ++ [e], ∀ e₂ ∈ es ++ [e], field e₁ = field e₂) ↔
      (∀ e₁ ∈ es, ∀ e₂ ∈ es, field e₁ = field e₂) ∧ ∀ first ∈ es.head?, field e = field first := by
  cases es with
  | nil => simp
  | cons first es =>
    simp only [List.head?_cons, Option.mem_def, Option.some.injEq, forall_eq']
    constructor
    · intro h
      have hmem : ∀ e' ∈ first :: es, e' ∈ first :: es ++ [e] := fun e' => List.mem_append_left _
      exact ⟨fun e₁ h₁ e₂ h₂ => h e₁ (hmem e₁ h₁) e₂ (hmem e₂ h₂),
        h e (by simp) first (by simp)⟩
    · rintro ⟨h, he⟩
      have hfirst : ∀ e' ∈ first :: es ++ [e], field e' = field first := by
        intro e' he'
        rcases List.mem_append.1 he' with he' | he'
        · exact h e' he' first List.mem_cons_self
        · rw [List.mem_singleton.1 he', he]
      exact fun e₁ h₁ e₂ h₂ => (hfirst e₁ h₁).trans (hfirst e₂ h₂).symm

/-- The links of a longer chain: those it had, and that of the last envelope. -/
theorem linked_snoc :
    ((∀ first ∈ (es ++ [e]).head?, first.parentId = none) ∧
        (es ++ [e]).IsChain fun prev curr => curr.parentId = some prev.eventHash) ↔
      ((∀ first ∈ es.head?, first.parentId = none) ∧
        es.IsChain fun prev curr => curr.parentId = some prev.eventHash) ∧
      e.parentId = es.getLast?.map (·.eventHash) := by
  rw [List.isChain_append]
  cases es with
  | nil => simp
  | cons first es =>
    have hlast := List.getLast?_eq_some_getLast (List.cons_ne_nil first es)
    simp [hlast, and_assoc]

theorem increasing_snoc :
    (es ++ [e]).Pairwise Before ↔ es.Pairwise Before ∧ ∀ prev ∈ es.getLast?, Before prev e := by
  rw [← List.isChain_iff_pairwise, ← List.isChain_iff_pairwise, List.isChain_append]
  simp

/-- **A chain with one more envelope is valid exactly when it was and the envelope goes on with
it.** -/
theorem validChain_snoc : ValidChain (es ++ [e]) ↔ ValidChain es ∧ Continues es e := by
  simp only [validChain_iff_rules]
  have hdistinct : ((es ++ [e]).map (·.eventHash)).Nodup ↔
      (es.map (·.eventHash)).Nodup ∧ e.eventHash ∉ es.map (·.eventHash) := by
    rw [List.map_append, List.map_singleton, ← List.concat_eq_append, List.nodup_concat, and_comm]
  constructor
  · intro h
    obtain ⟨hlinked, hparent⟩ := linked_snoc.1 ⟨h.parentless, h.linked⟩
    obtain ⟨hincreasing, hlater⟩ := increasing_snoc.1 h.increasing
    obtain ⟨hcontext, hcontext'⟩ := uniform_snoc.1 h.context
    obtain ⟨hpolicy, hpolicy'⟩ := uniform_snoc.1 h.policy
    obtain ⟨hschema, hschema'⟩ := uniform_snoc.1 h.schema
    obtain ⟨hnodup, hfresh⟩ := hdistinct.1 h.distinct
    exact ⟨⟨hlinked.1, hlinked.2, hincreasing, hcontext, hpolicy, hschema, hnodup⟩,
      ⟨hparent, hlater, hcontext', hpolicy', hschema', hfresh⟩⟩
  · rintro ⟨h, hnext⟩
    obtain ⟨hparentless, hlinked⟩ := linked_snoc.2 ⟨⟨h.parentless, h.linked⟩, hnext.parent⟩
    exact {
      parentless := hparentless
      linked := hlinked
      increasing := increasing_snoc.2 ⟨h.increasing, hnext.later⟩
      context := uniform_snoc.2 ⟨h.context, hnext.context⟩
      policy := uniform_snoc.2 ⟨h.policy, hnext.policy⟩
      schema := uniform_snoc.2 ⟨h.schema, hnext.schema⟩
      distinct := hdistinct.2 ⟨h.distinct, hnext.fresh⟩ }

/-- **A chain is valid exactly when its start is and the rest has grown from it.** -/
theorem validChain_append : ValidChain (es ++ fs) ↔ ValidChain es ∧ Grows es fs := by
  induction fs generalizing es with
  | nil => simp [Grows.nil]
  | cons f fs ih =>
    rw [List.append_cons, ih, validChain_snoc]
    constructor
    · rintro ⟨⟨h, hf⟩, hs⟩
      exact ⟨h, .cons hf hs⟩
    · rintro ⟨h, hs⟩
      cases hs with
      | cons hf hs => exact ⟨⟨h, hf⟩, hs⟩

/-! ### Texts of chains -/

section Texts

variable (E : Externals)

/-- The texts encode the elements, and their array text encodes the array. -/
structure EncodesChain (texts : List Bytes) (elems : List Json) : Prop where
  each : List.Forall₂ (Encodes E) texts elems
  whole : Encodes E (arrayText texts) (.array elems)

variable {E} {texts more : List Bytes} {elems moreElems : List Json}
  {envelopes : List ReceiptEnvelope} {limits : VerifierLimits}

theorem length_intercalate_le {α : Type*} {sep : List α} {ls ls' : List (List α)} :
    (sep.intercalate ls).length ≤ (sep.intercalate (ls ++ ls')).length := by
  induction ls with
  | nil => simp
  | cons l ls ih =>
    cases ls with
    | nil =>
      cases ls' with
      | nil => simp
      | cons l' ls' => simp [List.intercalate_cons_cons]
    | cons l' ls =>
      rw [List.cons_append, List.cons_append, List.intercalate_cons_cons,
        List.intercalate_cons_cons, ← List.cons_append, List.length_append, List.length_append,
        List.length_append, List.length_append]
      omega

/-- The start of a chain is within the byte limit of the chain. -/
theorem checkByteLimit_of_append
    (h : checkByteLimit (arrayText (texts ++ more)) limits = .ok ()) :
    checkByteLimit (arrayText texts) limits = .ok () := by
  rw [checkByteLimit_eq_ok] at h ⊢
  have hle : ((asBytes ",").intercalate texts).length ≤
      ((asBytes ",").intercalate (texts ++ more)).length := length_intercalate_le
  simp only [arrayText, List.length_append] at h ⊢
  omega

theorem elemNodes_append (depth : ℕ) (arr arr' : List Json) :
    Json.elemNodes depth (arr ++ arr') = Json.elemNodes depth arr ++ Json.elemNodes depth arr' := by
  induction arr with
  | nil => rfl
  | cons v arr ih => rw [List.cons_append, Json.elemNodes, Json.elemNodes, ih, List.append_assoc]

/-- The start of a chain is within the structural limits of the chain. -/
theorem checkStructure_of_append
    (h : checkStructure (.array (elems ++ moreElems)) limits = .ok ()) :
    checkStructure (.array elems) limits = .ok () := by
  rw [checkStructure_eq_ok_iff_within] at h ⊢
  have hlen : elems.length ≤ limits.maxArraySize := by
    have := h.array 0 _ (Json.mem_nodes_self 0 _)
    rw [List.length_append] at this
    omega
  have hnodes : (Json.array (elems ++ moreElems)).nodes 0 =
      (0, .array (elems ++ moreElems)) ::
        (Json.elemNodes 1 elems ++ Json.elemNodes 1 moreElems) := by
    rw [Json.nodes, elemNodes_append]
  -- a node of the start is the array itself or a node of the longer array
  have hnode : ∀ {depth node}, (Json.array elems).HasNode depth node →
      (depth = 0 ∧ node = .array elems) ∨
        (Json.array (elems ++ moreElems)).HasNode depth node := by
    intro depth node hn
    rw [Json.HasNode, Json.nodes] at hn
    rw [Json.HasNode, hnodes]
    rcases List.mem_cons.1 hn with hn | hn
    · exact .inl (Prod.mk.inj hn)
    · exact .inr (List.mem_cons_of_mem _ (List.mem_append_left _ hn))
  refine ⟨fun depth node hn => ?_, ?_, fun depth map hn => ?_, fun depth arr hn => ?_⟩
  · rcases hnode hn with ⟨rfl, -⟩ | hn
    · exact Nat.zero_le _
    · exact h.depth depth node hn
  · have hcount := h.count
    rw [Json.nodeCount, hnodes, List.length_cons, List.length_append] at hcount
    rw [Json.nodeCount, Json.nodes, List.length_cons, Nat.zero_add]
    omega
  · rcases hnode hn with ⟨-, hmap⟩ | hn
    · cases hmap
    · exact h.object depth map hn
  · rcases hnode hn with ⟨-, harr⟩ | hn
    · cases harr
      exact hlen
    · exact h.array depth arr hn

theorem forall₂_append_left {α β : Type*} {R : α → β → Prop} {l l' : List α} {m : List β} :
    List.Forall₂ R (l ++ l') m ↔
      ∃ before after, m = before ++ after ∧ List.Forall₂ R l before ∧ List.Forall₂ R l' after := by
  induction l generalizing m with
  | nil => simp
  | cons a l ih =>
    constructor
    · rintro (_ | ⟨h, hs⟩)
      obtain ⟨before, after, rfl, hbefore, hafter⟩ := ih.1 hs
      exact ⟨_ :: before, after, rfl, .cons h hbefore, hafter⟩
    · rintro ⟨before, after, rfl, hbefore, hafter⟩
      cases hbefore with
      | cons h hs => exact .cons h (ih.2 ⟨_, after, rfl, hs, hafter⟩)

/-- What was appended is encoded too. -/
theorem EncodesChain.appended (h : EncodesChain E texts elems)
    (h' : EncodesChain E (texts ++ more) (elems ++ moreElems)) :
    List.Forall₂ (Encodes E) more moreElems := by
  obtain ⟨before, after, heq, hbefore, hafter⟩ := forall₂_append_left.1 h'.each
  have hlen : before.length = elems.length := hbefore.length_eq.symm.trans h.each.length_eq
  obtain ⟨-, rfl⟩ := List.append_inj heq.symm hlen
  exact hafter

/-- A chain is within the limits: the bytes of its text, the nodes of its array, its length. -/
structure ChainWithin (texts : List Bytes) (elems : List Json) (limits : VerifierLimits) :
    Prop where
  bytes : checkByteLimit (arrayText texts) limits = .ok ()
  nodes : checkStructure (.array elems) limits = .ok ()
  length : checkChainLength elems.length limits = .ok ()

theorem ChainWithin.of_append (h : ChainWithin (texts ++ more) (elems ++ moreElems) limits) :
    ChainWithin texts elems limits where
  bytes := checkByteLimit_of_append h.bytes
  nodes := checkStructure_of_append h.nodes
  length := by
    have hlen := checkChainLength_eq_ok.1 h.length
    rw [List.length_append] at hlen
    exact checkChainLength_eq_ok.2 (by omega)

/-- An encoded chain is ingested exactly when it is within the limits and each element is
admitted. -/
theorem EncodesChain.ingest_eq_ok (h : EncodesChain E texts elems) :
    ingestChainWithLimits E (arrayText texts) limits = .ok envelopes ↔
      ChainWithin texts elems limits ∧ List.Forall₂ (ElementAdmitted E) elems envelopes := by
  rw [ingestChainWithLimits_eq_ok]
  constructor
  · rintro ⟨hb, -, elems', hv, hs, hlen, hall⟩
    obtain rfl := Json.array.inj (Except.ok.inj (h.whole.parsed.symm.trans hv))
    exact ⟨⟨hb, hs, hlen⟩, hall⟩
  · rintro ⟨hw, hall⟩
    exact ⟨hw.bytes, h.whole.canonical, elems, h.whole.parsed, hw.nodes, hw.length, hall⟩

/-- **The verdict on a chain that has grown** is that on the chain it has grown from, on each
receipt that was appended, and on how these go on with it. -/
theorem verifyReceiptChainWithLimits_append (h : EncodesChain E texts elems)
    (h' : EncodesChain E (texts ++ more) (elems ++ moreElems)) :
    (verifyReceiptChainWithLimits E (arrayText (texts ++ more)) limits).status = .valid ↔
      (verifyReceiptChainWithLimits E (arrayText texts) limits).status = .valid ∧
        ChainWithin (texts ++ more) (elems ++ moreElems) limits ∧
        (∀ text ∈ more, (verifyReceiptWithLimits E text limits).status = .valid) ∧
        ∃ es fs, ingestChainWithLimits E (arrayText texts) limits = .ok es ∧
          List.Forall₂ (fun text e => ingestEnvelopeWithLimits E text limits = .ok e) more fs ∧
          Grows es fs := by
  have hmore := h.appended h'
  rw [verifyReceiptChainWithLimits_valid_iff, verifyReceiptChainWithLimits_valid_iff]
  constructor
  · rintro ⟨envelopes, hi, hver, hchain⟩
    obtain ⟨hw, hall⟩ := h'.ingest_eq_ok.1 hi
    obtain ⟨es, fs, rfl, hes, hfs⟩ := forall₂_append_left.1 hall
    rw [List.forall_mem_append] at hver
    obtain ⟨hvalid, hgrows⟩ := validChain_append.1 hchain
    have hi := h.ingest_eq_ok.2 ⟨hw.of_append, hes⟩
    have hing := forall₂_ingest hmore
      (fun text ht => checkByteLimit_of_mem hw.bytes (List.mem_append_right _ ht))
      (fun elem he => checkStructure_of_mem hw.nodes (List.mem_append_right _ he)) hfs
    exact ⟨⟨es, hi, hver.1, hvalid⟩, hw, (forall_valid_iff hing).2 hver.2, es, fs, hi, hing, hgrows⟩
  · rintro ⟨⟨es, hi, hver, hvalid⟩, hw, hmoreValid, es', fs, hi', hing, hgrows⟩
    obtain rfl := Except.ok.inj (hi.symm.trans hi')
    obtain ⟨-, hes⟩ := h.ingest_eq_ok.1 hi
    have hfs := forall₂_elementAdmitted hmore hing
    have hall := forall₂_append_left.2 ⟨es, fs, rfl, hes, hfs⟩
    refine ⟨es ++ fs, h'.ingest_eq_ok.2 ⟨hw, hall⟩, ?_, validChain_append.2 ⟨hvalid, hgrows⟩⟩
    rw [List.forall_mem_append]
    exact ⟨hver, (forall_valid_iff hing).1 hmoreValid⟩

/-! ### Chains that fork -/

variable {rawBytes₁ rawBytes₂ : Bytes} {es₁ es₂ : List ReceiptEnvelope}

/-- **Valid chains that fork never meet again**: two of them are one chain up to some envelope, and
no `event_hash` of the one occurs in the other after it. -/
theorem verifyReceiptChain_fork (hv₁ : (verifyReceiptChain E rawBytes₁).status = .valid)
    (hv₂ : (verifyReceiptChain E rawBytes₂).status = .valid)
    (hi₁ : ingestChain E rawBytes₁ = .ok es₁) (hi₂ : ingestChain E rawBytes₂ = .ok es₂)
    (hcf : CollisionFree E es₁ es₂) :
    ∃ common after₁ after₂, es₁ = common ++ after₁ ∧ es₂ = common ++ after₂ ∧
      ∀ e₁ ∈ after₁, ∀ e₂ ∈ after₂, e₁.eventHash ≠ e₂.eventHash := by
  obtain ⟨es, hi, hver₁, hc₁⟩ := verifyReceiptChain_valid_iff.1 hv₁
  obtain rfl : es = es₁ := Except.ok.inj (hi.symm.trans hi₁)
  obtain ⟨es', hi', hver₂, hc₂⟩ := verifyReceiptChain_valid_iff.1 hv₂
  obtain rfl : es' = es₂ := Except.ok.inj (hi'.symm.trans hi₂)
  exact hc₁.linked.fork hc₂.linked fun a ha b hb => hcf.eq ha hb (hver₁ a ha) (hver₂ b hb)

end Texts

/-! ### The chain of two has grown from the chain of one -/

/-- The chain of the first receipt alone. -/
def oneReceipt : Json := .array [firstReceipt.toValue]

/-- The third-party code on both chains. -/
def grownTables : Tables where
  envelopes := [(firstReceipt.toValue, firstReceipt), (secondReceipt.toValue, secondReceipt)]
  others := [oneReceipt, twoReceipts]
  digests := [(firstReceipt.body, firstReceipt.eventHash),
    (secondReceipt.body, secondReceipt.eventHash)]
  texts_nodup := by decide +kernel
  digests_nodup := twoReceiptTables.digests_nodup

theorem encodesChain_grownTables (elems : List Json) (h : .array elems ∈ grownTables.values)
    (hr : (Json.array elems).inRange = true) (helems : ∀ v ∈ elems, v ∈ grownTables.values)
    (hrs : ∀ v ∈ elems, v.inRange = true) :
    EncodesChain grownTables.externals (elems.map fun v => asBytes v.text) elems where
  each := by
    rw [List.forall₂_map_left_iff, List.forall₂_same]
    exact fun v hv => Tables.encodes_text (helems v hv) (hrs v hv)
  whole := by
    rw [← asBytes_text_array]
    exact Tables.encodes_text h hr

theorem encodesChain_oneReceipt :
    EncodesChain grownTables.externals [asBytes firstReceipt.toValue.text]
      [firstReceipt.toValue] :=
  encodesChain_grownTables [firstReceipt.toValue]
    (by simp [grownTables, Tables.values, oneReceipt]) (by decide +kernel)
    (by simp [grownTables, Tables.values]) (by decide +kernel)

theorem encodesChain_twoReceipts :
    EncodesChain grownTables.externals
      ([asBytes firstReceipt.toValue.text] ++ [asBytes secondReceipt.toValue.text])
      ([firstReceipt.toValue] ++ [secondReceipt.toValue]) :=
  encodesChain_grownTables [firstReceipt.toValue, secondReceipt.toValue]
    (by simp [grownTables, Tables.values, twoReceipts]) (by decide +kernel)
    (by simp [grownTables, Tables.values]) (by decide +kernel)

theorem ingestChain_grownTables :
    ingestChain grownTables.externals (asBytes twoReceipts.text) =
      .ok [firstReceipt, secondReceipt] :=
  ingestChain_twoReceipts (by simp [grownTables, Tables.values]) (by simp [grownTables])
    (by simp [grownTables])

theorem verifies_grownTables : ∀ e ∈ [firstReceipt, secondReceipt],
    e.Verifies grownTables.externals := by
  simp only [List.mem_cons, List.not_mem_nil, or_false]
  rintro e (rfl | rfl)
  · exact Tables.verifies rfl rfl rfl (by simp [grownTables])
  · exact Tables.verifies rfl rfl rfl (by simp [grownTables])

theorem ingestChain_oneReceipt :
    ingestChain grownTables.externals (asBytes oneReceipt.text) = .ok [firstReceipt] := by
  refine Tables.ingestChain_text (l := [(firstReceipt.toValue, firstReceipt)]) rfl
    (by simp [grownTables, Tables.values]) ?_ ?_ ?_ (by decide) ?_
  · decide +kernel
  · decide +kernel
  · decide +kernel
  · simp only [List.mem_singleton, forall_eq]
    exact ⟨by simp [grownTables], by decide +kernel, by decide +kernel⟩

theorem collisionFree_grownTables :
    CollisionFree grownTables.externals [firstReceipt, secondReceipt] [firstReceipt] := by
  have hfirst := verifyEventHash_eq_ok.1 (verifies_grownTables firstReceipt (by simp)).eventHash
  have hsecond := verifyEventHash_eq_ok.1 (verifies_grownTables secondReceipt (by simp)).eventHash
  simp only [CollisionFree, List.mem_cons, List.not_mem_nil, or_false]
  rintro e₁ (rfl | rfl) e₂ rfl d h₁ h₂
  · rfl
  · exact absurd (Except.ok.inj (hfirst.symm.trans (h₂.trans (h₁.symm.trans hsecond))))
      firstReceipt_eventHash_ne

/-- The chain of two has grown from a valid chain of one. -/
theorem append_twoReceipts :
    (verifyReceiptChainWithLimits grownTables.externals
      (arrayText [asBytes firstReceipt.toValue.text]) .default).status = .valid := by
  have htext : arrayText ([asBytes firstReceipt.toValue.text] ++
      [asBytes secondReceipt.toValue.text]) = asBytes twoReceipts.text :=
    (asBytes_text_array [firstReceipt.toValue, secondReceipt.toValue]).symm
  refine ((verifyReceiptChainWithLimits_append encodesChain_oneReceipt
    encodesChain_twoReceipts).1 ?_).1
  rw [htext, verifyReceiptChainWithLimits_valid_iff]
  exact ⟨_, ingestChain_grownTables, verifies_grownTables, validChain_twoReceipts⟩

/-- The chain of two goes on after that of one. -/
theorem fork_twoReceipts :
    ∃ common after₁ after₂, [firstReceipt, secondReceipt] = common ++ after₁ ∧
      [firstReceipt] = common ++ after₂ ∧
      ∀ e₁ ∈ after₁, ∀ e₂ ∈ after₂, e₁.eventHash ≠ e₂.eventHash := by
  have hvalid : (verifyReceiptChain grownTables.externals (asBytes twoReceipts.text)).status =
      .valid :=
    verifyReceiptChain_valid_iff.2
      ⟨_, ingestChain_grownTables, verifies_grownTables, validChain_twoReceipts⟩
  have hone : (verifyReceiptChain grownTables.externals (asBytes oneReceipt.text)).status =
      .valid := by
    refine verifyReceiptChain_valid_iff.2 ⟨_, ingestChain_oneReceipt, ?_,
      validChain_twoReceipts.of_prefix ⟨[secondReceipt], rfl⟩⟩
    exact fun e he => verifies_grownTables e (List.mem_append_left [secondReceipt] he)
  exact verifyReceiptChain_fork hvalid hone ingestChain_grownTables ingestChain_oneReceipt
    collisionFree_grownTables

end VertRule
