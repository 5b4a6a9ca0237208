import VertRule.Chain
import VertRule.Lib.Scan

/-!
# The violations of the chain rules

`check_chain_detail` reports every violation of the chain rules once, and nothing else.  What it
reports of an envelope depends on the envelopes before it, so its passes are scans of the chain
(`checkChainDetail_eq`), and the report is read off them (`mem_chainErrors`).  A chain is valid
exactly when it has no violation (`checkChainDetail_errors_eq_nil`).
-/

namespace VertRule

open Scan

/-- The categories of chain errors, each with a flag in the report. -/
inductive ChainCategory where
  | linkage | ordering | context | policy | schema
  deriving DecidableEq

/-- The category of a chain error. -/
def VerifyError.chainCategory : VerifyError → Option ChainCategory
  | chainLinkageBroken .. | duplicateEventHash .. => some .linkage
  | logicalTimeNotMonotonic .. => some .ordering
  | contextInconsistent .. => some .context
  | policyInconsistent .. => some .policy
  | schemaInconsistent .. => some .schema
  | _ => none

/-- The index a chain error names. -/
def VerifyError.chainIndex : VerifyError → ℕ
  | chainLinkageBroken index .. | duplicateEventHash index .. | logicalTimeNotMonotonic index ..
  | contextInconsistent index .. | policyInconsistent index .. | schemaInconsistent index .. => index
  | _ => 0

/-- The flag of a category. -/
def ChainDetail.flag (d : ChainDetail) : ChainCategory → Bool
  | .linkage => d.linkageOk
  | .ordering => d.orderingOk
  | .context => d.contextUniform
  | .policy => d.policyStable
  | .schema => d.schemaUniform

/-- A violation of the chain rules, as the error that reports it. -/
inductive ChainViolation (es : List ReceiptEnvelope) : VerifyError → Prop
  | parent {first : ReceiptEnvelope} (hfirst : es[0]? = some first) (h : first.parentId ≠ none) :
    ChainViolation es (.chainLinkageBroken 0 none first.parentId)
  | linkage {i : ℕ} {prev curr : ReceiptEnvelope} (hprev : es[i]? = some prev)
    (hcurr : es[i + 1]? = some curr) (h : curr.parentId ≠ some prev.eventHash) :
    ChainViolation es (.chainLinkageBroken (i + 1) (some prev.eventHash) curr.parentId)
  | time {i : ℕ} {prev curr : ReceiptEnvelope} (hprev : es[i]? = some prev)
    (hcurr : es[i + 1]? = some curr) (h : curr.logicalTime ≤ prev.logicalTime) :
    ChainViolation es (.logicalTimeNotMonotonic (i + 1) prev.logicalTime curr.logicalTime)
  | duplicate {i j : ℕ} {earlier curr : ReceiptEnvelope} (hj : j < i)
    (hearlier : es[j]? = some earlier) (hcurr : es[i]? = some curr)
    (h : earlier.eventHash = curr.eventHash) :
    ChainViolation es (.duplicateEventHash i curr.eventHash)
  | context {i : ℕ} {first curr : ReceiptEnvelope} (hfirst : es[0]? = some first)
    (hcurr : es[i]? = some curr) (h : curr.contextDigest ≠ first.contextDigest) :
    ChainViolation es (.contextInconsistent i first.contextDigest curr.contextDigest)
  | policy {i : ℕ} {first curr : ReceiptEnvelope} (hfirst : es[0]? = some first)
    (hcurr : es[i]? = some curr) (h : curr.policyDigest ≠ first.policyDigest) :
    ChainViolation es (.policyInconsistent i first.policyDigest curr.policyDigest)
  | schema {i : ℕ} {first curr : ReceiptEnvelope} (hfirst : es[0]? = some first)
    (hcurr : es[i]? = some curr) (h : curr.schemaDigest ≠ first.schemaDigest) :
    ChainViolation es (.schemaInconsistent i first.schemaDigest curr.schemaDigest)

/-- The report has one error for each violation and no other, and a flag is down exactly when there
is an error of its category. -/
structure ReportsViolations (es : List ReceiptEnvelope) (d : ChainDetail) : Prop where
  nodup : d.errors.Nodup
  mem_iff : ∀ e, e ∈ d.errors ↔ ChainViolation es e
  flag_iff : ∀ c, d.flag c = false ↔ ∃ e ∈ d.errors, e.chainCategory = some c

/-- The seven rules of a chain. -/
structure ChainRules (es : List ReceiptEnvelope) : Prop where
  parentless : ∀ first ∈ es.head?, first.parentId = none
  linked : es.IsChain fun prev curr => curr.parentId = some prev.eventHash
  increasing : es.Pairwise fun earlier later => earlier.logicalTime < later.logicalTime
  context : ∀ e ∈ es, ∀ e' ∈ es, e.contextDigest = e'.contextDigest
  policy : ∀ e ∈ es, ∀ e' ∈ es, e.policyDigest = e'.policyDigest
  schema : ∀ e ∈ es, ∀ e' ∈ es, e.schemaDigest = e'.schemaDigest
  distinct : (es.map (·.eventHash)).Nodup

/-! ### The passes as scans -/

/-- What is reported of the parent of the first envelope. -/
def parentErrors : List ReceiptEnvelope → List VerifyError
  | [] => []
  | first :: _ =>
    if first.parentId.isSome then [.chainLinkageBroken 0 none first.parentId] else []

/-- What a uniformity pass reports of an envelope: its field differs from that of the first. -/
def uniformErrors (field : ReceiptEnvelope → DigestBytes)
    (makeErr : ℕ → DigestBytes → DigestBytes → VerifyError) (before : List ReceiptEnvelope)
    (curr : ReceiptEnvelope) : List VerifyError :=
  match before.head? with
  | some first =>
    if field curr ≠ field first then [makeErr before.length (field first) (field curr)] else []
  | none => []

/-- What the pass over consecutive envelopes reports of one that is not the first. -/
def pairErrors (before : List ReceiptEnvelope) (curr : ReceiptEnvelope) : List VerifyError :=
  match before.getLast? with
  | some prev =>
    (if curr.eventHash ∈ before.map (·.eventHash) then
        [.duplicateEventHash before.length curr.eventHash] else []) ++
      (if curr.parentId ≠ some prev.eventHash then
        [.chainLinkageBroken before.length (some prev.eventHash) curr.parentId] else []) ++
      if curr.logicalTime ≤ prev.logicalTime then
        [.logicalTimeNotMonotonic before.length prev.logicalTime curr.logicalTime] else []
  | none => []

/-- No error of this category. -/
def Without (c : ChainCategory) (errors : List VerifyError) : Bool :=
  errors.all fun e => e.chainCategory ≠ some c

@[simp] theorem without_append {c : ChainCategory} {errors errors' : List VerifyError} :
    Without c (errors ++ errors') = (Without c errors && Without c errors') :=
  List.all_append

section Passes

variable {before rest : List ReceiptEnvelope} {first prev curr : ReceiptEnvelope}

/-- A uniformity pass is a scan. -/
theorem checkUniformFrom_eq {field : ReceiptEnvelope → DigestBytes}
    {makeErr : ℕ → DigestBytes → DigestBytes → VerifyError} {uniform : Bool}
    {errors : List VerifyError} (hfirst : before.head? = some first) :
    checkUniformFrom field makeErr (field first) before.length rest (uniform, errors) =
      (uniform && (scan (uniformErrors field makeErr) before rest).isEmpty,
        errors ++ scan (uniformErrors field makeErr) before rest) := by
  induction rest generalizing before uniform errors with
  | nil => simp [checkUniformFrom, scan]
  | cons curr rest ih =>
    have hhead : (before ++ [curr]).head? = some first := by simp [hfirst]
    have hlen : before.length + 1 = (before ++ [curr]).length := by simp
    rw [checkUniformFrom, scan, hlen]
    split_ifs with h
    · rw [ih hhead]
      simp [uniformErrors, hfirst, h]
    · rw [ih hhead]
      simp [uniformErrors, hfirst, h]

/-- The state of the pass over consecutive envelopes, when the envelopes `passed` have been seen and
`errors` reported since `st`. -/
def PairState.next (st : PairState) (passed : List ReceiptEnvelope) (errors : List VerifyError) :
    PairState where
  seenHashes := (passed.map (·.eventHash)).toFinset
  linkageOk := st.linkageOk && Without .linkage errors
  orderingOk := st.orderingOk && Without .ordering errors
  errors := st.errors ++ errors

/-- One round of the pass reports what there is to report of the envelope. -/
theorem checkPair_eq {st : PairState} (hlast : before.getLast? = some prev)
    (hseen : st.seenHashes = (before.map (·.eventHash)).toFinset) :
    ((st.checkDuplicate before.length curr).checkLinkage before.length prev curr).checkOrdering
      before.length prev curr = st.next (before ++ [curr]) (pairErrors before curr) := by
  obtain ⟨seenHashes, linkageOk, orderingOk, errors⟩ := st
  obtain rfl : seenHashes = _ := hseen
  have hinsert : ((before ++ [curr]).map (·.eventHash)).toFinset =
      insert curr.eventHash (before.map (·.eventHash)).toFinset := by
    ext h
    simp only [List.mem_toFinset, List.map_append, List.map_cons, List.map_nil, List.mem_append,
      List.mem_singleton, Finset.mem_insert]
    exact or_comm
  simp only [PairState.checkOrdering, PairState.checkLinkage, PairState.checkDuplicate,
    PairState.next, pairErrors, hlast, hinsert, List.mem_toFinset]
  by_cases hd : curr.eventHash ∈ before.map (·.eventHash)
  · have hsame : insert curr.eventHash (before.map (·.eventHash)).toFinset =
        (before.map (·.eventHash)).toFinset := Finset.insert_eq_of_mem (List.mem_toFinset.2 hd)
    rw [hsame]
    by_cases hl : curr.parentId = some prev.eventHash <;>
      by_cases ht : curr.logicalTime ≤ prev.logicalTime <;>
      simp [hd, hl, ht, Without, VerifyError.chainCategory]
  · by_cases hl : curr.parentId = some prev.eventHash <;>
      by_cases ht : curr.logicalTime ≤ prev.logicalTime <;>
      simp [hd, hl, ht, Without, VerifyError.chainCategory]

/-- The pass over consecutive envelopes is a scan. -/
theorem checkPairs_eq {st : PairState} (hlast : before.getLast? = some prev)
    (hseen : st.seenHashes = (before.map (·.eventHash)).toFinset) :
    checkPairs before.length prev rest st =
      st.next (before ++ rest) (scan pairErrors before rest) := by
  induction rest generalizing before prev st with
  | nil => simp [checkPairs, scan, PairState.next, Without, ← hseen]
  | cons curr rest ih =>
    have hlen : before.length + 1 = (before ++ [curr]).length := by simp
    rw [checkPairs, checkPair_eq hlast hseen, hlen, ih (by simp) rfl, scan]
    simp [PairState.next, Bool.and_assoc]

end Passes

/-- The errors of a chain check, pass by pass. -/
def chainErrors (es : List ReceiptEnvelope) : List VerifyError :=
  parentErrors es ++ scan (uniformErrors (·.contextDigest) .contextInconsistent) [] es ++
    scan (uniformErrors (·.policyDigest) .policyInconsistent) [] es ++
    scan (uniformErrors (·.schemaDigest) .schemaInconsistent) [] es ++ scan pairErrors [] es

/-- **The report of a chain check is its passes.** -/
theorem checkChainDetail_eq (es : List ReceiptEnvelope) :
    checkChainDetail es = {
      linkageOk := Without .linkage (parentErrors es ++ scan pairErrors [] es)
      orderingOk := Without .ordering (scan pairErrors [] es)
      contextUniform := (scan (uniformErrors (·.contextDigest) .contextInconsistent) [] es).isEmpty
      policyStable := (scan (uniformErrors (·.policyDigest) .policyInconsistent) [] es).isEmpty
      schemaUniform := (scan (uniformErrors (·.schemaDigest) .schemaInconsistent) [] es).isEmpty
      errors := chainErrors es } := by
  cases es with
  | nil => rfl
  | cons first rest =>
    have huniform : ∀ field makeErr (errors : List VerifyError),
        checkUniform first rest field makeErr errors =
          ((scan (uniformErrors field makeErr) [] (first :: rest)).isEmpty,
            errors ++ scan (uniformErrors field makeErr) [] (first :: rest)) := by
      intro field makeErr errors
      have h : checkUniformFrom field makeErr (field first) [first].length rest (true, errors) = _ :=
        checkUniformFrom_eq rfl
      simpa [checkUniform, scan, uniformErrors] using h
    have hpairs : ∀ st : PairState, st.seenHashes = {first.eventHash} →
        checkPairs 1 first rest st =
          st.next (first :: rest) (scan pairErrors [] (first :: rest)) := by
      intro st hseen
      have h : checkPairs [first].length first rest st = _ :=
        checkPairs_eq rfl (by simp [hseen])
      simpa [scan, pairErrors] using h
    simp only [checkChainDetail, huniform]
    rw [hpairs _ rfl]
    cases hp : first.parentId <;>
      simp [PairState.next, chainErrors, parentErrors, hp, Without, VerifyError.chainCategory]

theorem checkChainDetail_errors (es : List ReceiptEnvelope) :
    (checkChainDetail es).errors = chainErrors es := by
  rw [checkChainDetail_eq]

/-! ### What the passes report -/

section Members

variable {es : List ReceiptEnvelope} {e : VerifyError}

theorem length_take_of_getElem? {i : ℕ} {curr : ReceiptEnvelope} (h : es[i]? = some curr) :
    (es.take i).length = i :=
  List.length_take_of_le (List.getElem?_eq_some_iff.1 h).1.le

theorem getLast?_take_succ {i : ℕ} {curr : ReceiptEnvelope} (h : es[i + 1]? = some curr) :
    (es.take (i + 1)).getLast? = es[i]? := by
  rw [List.getLast?_eq_getElem?, length_take_of_getElem? h, Nat.add_sub_cancel,
    List.getElem?_take_of_succ]

/-- A hash has been seen when an earlier envelope has it. -/
theorem mem_take_eventHash {i : ℕ} {hash : DigestBytes} :
    hash ∈ (es.take i).map (·.eventHash) ↔
      ∃ j < i, ∃ earlier, es[j]? = some earlier ∧ earlier.eventHash = hash := by
  rw [List.mem_map]
  constructor
  · rintro ⟨earlier, hmem, rfl⟩
    obtain ⟨j, hj⟩ := List.mem_iff_getElem?.1 hmem
    rw [List.getElem?_take] at hj
    split_ifs at hj with hlt
    exact ⟨j, hlt, earlier, hj, rfl⟩
  · rintro ⟨j, hlt, earlier, hj, rfl⟩
    refine ⟨earlier, List.mem_iff_getElem?.2 ⟨j, ?_⟩, rfl⟩
    rw [List.getElem?_take_of_lt hlt, hj]

theorem mem_parentErrors :
    e ∈ parentErrors es ↔ ∃ first, es[0]? = some first ∧ first.parentId ≠ none ∧
      e = .chainLinkageBroken 0 none first.parentId := by
  cases es with
  | nil => simp [parentErrors]
  | cons first rest => cases hp : first.parentId <;> simp [parentErrors, hp]

theorem mem_scan_uniformErrors {field : ReceiptEnvelope → DigestBytes}
    {makeErr : ℕ → DigestBytes → DigestBytes → VerifyError} :
    e ∈ scan (uniformErrors field makeErr) [] es ↔
      ∃ i first curr, es[0]? = some first ∧ es[i]? = some curr ∧ field curr ≠ field first ∧
        e = makeErr i (field first) (field curr) := by
  rw [mem_scan]
  constructor
  · rintro ⟨i, curr, hcurr, he⟩
    rw [List.nil_append, uniformErrors, List.head?_take, length_take_of_getElem? hcurr,
      List.head?_eq_getElem?] at he
    cases i with
    | zero => simp at he
    | succ i =>
      cases hfirst : es[0]? with
      | none => simp [hfirst] at he
      | some first =>
        simp only [Nat.add_eq_zero_iff, one_ne_zero, and_false, if_false, hfirst] at he
        split_ifs at he with hne
        · exact ⟨i + 1, first, curr, rfl, hcurr, hne, List.mem_singleton.1 he⟩
        · cases he
  · rintro ⟨i, first, curr, hfirst, hcurr, hne, rfl⟩
    refine ⟨i, curr, hcurr, ?_⟩
    have hi : i ≠ 0 := by
      rintro rfl
      exact hne (by rw [Option.some.inj (hfirst.symm.trans hcurr)])
    rw [List.nil_append, uniformErrors, List.head?_take, length_take_of_getElem? hcurr,
      List.head?_eq_getElem?, if_neg hi, hfirst]
    simp [hne]

theorem mem_pairErrors {before : List ReceiptEnvelope} {curr : ReceiptEnvelope} :
    e ∈ pairErrors before curr ↔ ∃ prev, before.getLast? = some prev ∧
      (curr.eventHash ∈ before.map (·.eventHash) ∧
          e = .duplicateEventHash before.length curr.eventHash ∨
        curr.parentId ≠ some prev.eventHash ∧
          e = .chainLinkageBroken before.length (some prev.eventHash) curr.parentId ∨
        curr.logicalTime ≤ prev.logicalTime ∧
          e = .logicalTimeNotMonotonic before.length prev.logicalTime curr.logicalTime) := by
  rw [pairErrors]
  cases before.getLast? with
  | none => simp
  | some prev => simp

theorem mem_scan_pairErrors :
    e ∈ scan pairErrors [] es ↔
      ∃ i prev curr, es[i]? = some prev ∧ es[i + 1]? = some curr ∧
        ((∃ j < i + 1, ∃ earlier, es[j]? = some earlier ∧ earlier.eventHash = curr.eventHash) ∧
            e = .duplicateEventHash (i + 1) curr.eventHash ∨
          curr.parentId ≠ some prev.eventHash ∧
            e = .chainLinkageBroken (i + 1) (some prev.eventHash) curr.parentId ∨
          curr.logicalTime ≤ prev.logicalTime ∧
            e = .logicalTimeNotMonotonic (i + 1) prev.logicalTime curr.logicalTime) := by
  simp only [mem_scan, mem_pairErrors, List.nil_append, mem_take_eventHash]
  constructor
  · rintro ⟨i, curr, hcurr, prev, hprev, he⟩
    rw [length_take_of_getElem? hcurr] at he
    cases i with
    | zero => simp at hprev
    | succ i => exact ⟨i, prev, curr, getLast?_take_succ hcurr ▸ hprev, hcurr, he⟩
  · rintro ⟨i, prev, curr, hprev, hcurr, he⟩
    refine ⟨i + 1, curr, hcurr, prev, (getLast?_take_succ hcurr).trans hprev, ?_⟩
    rwa [length_take_of_getElem? hcurr]

/-- **A chain check reports the violations of the chain rules.** -/
theorem mem_chainErrors : e ∈ chainErrors es ↔ ChainViolation es e := by
  simp only [chainErrors, List.mem_append, mem_parentErrors, mem_scan_uniformErrors,
    mem_scan_pairErrors]
  constructor
  · rintro ((((⟨first, hf, hp, rfl⟩ | ⟨i, first, curr, hf, hc, hne, rfl⟩) |
      ⟨i, first, curr, hf, hc, hne, rfl⟩) | ⟨i, first, curr, hf, hc, hne, rfl⟩) |
      ⟨i, prev, curr, hprev, hc, ⟨⟨j, hj, earlier, he, hh⟩, rfl⟩ | ⟨hl, rfl⟩ | ⟨ht, rfl⟩⟩)
    · exact .parent hf hp
    · exact .context hf hc hne
    · exact .policy hf hc hne
    · exact .schema hf hc hne
    · exact .duplicate hj he hc hh
    · exact .linkage hprev hc hl
    · exact .time hprev hc ht
  · intro h
    cases h with
    | parent hf hp => exact .inl (.inl (.inl (.inl ⟨_, hf, hp, rfl⟩)))
    | context hf hc hne => exact .inl (.inl (.inl (.inr ⟨_, _, _, hf, hc, hne, rfl⟩)))
    | policy hf hc hne => exact .inl (.inl (.inr ⟨_, _, _, hf, hc, hne, rfl⟩))
    | schema hf hc hne => exact .inl (.inr ⟨_, _, _, hf, hc, hne, rfl⟩)
    | linkage hprev hc hl => exact .inr ⟨_, _, _, hprev, hc, .inr (.inl ⟨hl, rfl⟩)⟩
    | time hprev hc ht => exact .inr ⟨_, _, _, hprev, hc, .inr (.inr ⟨ht, rfl⟩)⟩
    | @duplicate i j earlier curr hj he hc hh =>
      obtain ⟨k, rfl⟩ : ∃ k, i = k + 1 := ⟨i - 1, by omega⟩
      have hlt := (List.getElem?_eq_some_iff.1 hc).1
      have hprev : es[k]? = some es[k] := List.getElem?_eq_getElem (by omega)
      exact .inr ⟨k, _, curr, hprev, hc, .inl ⟨⟨j, hj, earlier, he, hh⟩, rfl⟩⟩

/-! ### One error for each violation -/

section Categories

theorem chainCategory_parentErrors (h : e ∈ parentErrors es) :
    e.chainCategory = some .linkage ∧ e.chainIndex = 0 := by
  obtain ⟨first, -, -, rfl⟩ := mem_parentErrors.1 h
  exact ⟨rfl, rfl⟩

theorem chainCategory_uniformErrors {field : ReceiptEnvelope → DigestBytes}
    {makeErr : ℕ → DigestBytes → DigestBytes → VerifyError} {c : ChainCategory}
    (hcat : ∀ i expected found, (makeErr i expected found).chainCategory = some c)
    (h : e ∈ scan (uniformErrors field makeErr) [] es) : e.chainCategory = some c := by
  obtain ⟨i, first, curr, -, -, -, rfl⟩ := mem_scan_uniformErrors.1 h
  exact hcat ..

theorem chainCategory_pairErrors (h : e ∈ scan pairErrors [] es) :
    (e.chainCategory = some .linkage ∨ e.chainCategory = some .ordering) ∧ e.chainIndex ≠ 0 := by
  obtain ⟨i, prev, curr, -, -, ⟨-, rfl⟩ | ⟨-, rfl⟩ | ⟨-, rfl⟩⟩ := mem_scan_pairErrors.1 h
  · exact ⟨.inl rfl, i.succ_ne_zero⟩
  · exact ⟨.inl rfl, i.succ_ne_zero⟩
  · exact ⟨.inr rfl, i.succ_ne_zero⟩

end Categories

theorem nodup_parentErrors : (parentErrors es).Nodup := by
  cases es with
  | nil => exact List.nodup_nil
  | cons first rest =>
    rw [parentErrors]
    split_ifs
    · exact List.nodup_singleton _
    · exact List.nodup_nil

theorem nodup_uniformErrors {field : ReceiptEnvelope → DigestBytes}
    {makeErr : ℕ → DigestBytes → DigestBytes → VerifyError}
    (hindex : ∀ i expected found, (makeErr i expected found).chainIndex = i) :
    (scan (uniformErrors field makeErr) [] es).Nodup := by
  refine nodup_scan VerifyError.chainIndex (fun before curr => ?_) fun before curr e he => ?_
  · rw [uniformErrors]
    split
    · split_ifs <;> simp
    · exact List.nodup_nil
  · rw [uniformErrors] at he
    split at he
    · split_ifs at he
      · rw [List.mem_singleton.1 he, hindex]
      · cases he
    · cases he

theorem nodup_pairErrors : (scan pairErrors [] es).Nodup := by
  refine nodup_scan VerifyError.chainIndex (fun before curr => ?_) fun before curr e he => ?_
  · rw [pairErrors]
    split
    · split_ifs <;> simp
    · exact List.nodup_nil
  · obtain ⟨prev, -, ⟨-, rfl⟩ | ⟨-, rfl⟩ | ⟨-, rfl⟩⟩ := mem_pairErrors.1 he <;> rfl

/-- The passes report different errors: those of the uniformity passes have categories of their
own, and the missing parent is reported at index 0, which no pair is. -/
theorem nodup_chainErrors : (chainErrors es).Nodup := by
  have hcontext : ∀ e ∈ scan (uniformErrors (·.contextDigest) .contextInconsistent) [] es,
      e.chainCategory = some .context := fun e => chainCategory_uniformErrors fun _ _ _ => rfl
  have hpolicy : ∀ e ∈ scan (uniformErrors (·.policyDigest) .policyInconsistent) [] es,
      e.chainCategory = some .policy := fun e => chainCategory_uniformErrors fun _ _ _ => rfl
  have hschema : ∀ e ∈ scan (uniformErrors (·.schemaDigest) .schemaInconsistent) [] es,
      e.chainCategory = some .schema := fun e => chainCategory_uniformErrors fun _ _ _ => rfl
  have hother : ∀ {e e' : VerifyError}, e.chainCategory ≠ e'.chainCategory → e ≠ e' :=
    fun h heq => h (congrArg _ heq)
  have hpair : ∀ {e e' c}, e.chainCategory = some c → c ≠ .linkage → c ≠ .ordering →
      e' ∈ scan pairErrors [] es → e ≠ e' := by
    rintro e e' c hc hl ho he' rfl
    rcases (chainCategory_pairErrors he').1 with h | h
    · exact hl (Option.some.inj (hc.symm.trans h))
    · exact ho (Option.some.inj (hc.symm.trans h))
  simp only [chainErrors, List.nodup_append, List.mem_append]
  refine ⟨⟨⟨⟨nodup_parentErrors, nodup_uniformErrors fun _ _ _ => rfl, ?_⟩,
    nodup_uniformErrors fun _ _ _ => rfl, ?_⟩, nodup_uniformErrors fun _ _ _ => rfl, ?_⟩,
    nodup_pairErrors, ?_⟩
  · intro e he e' he'
    exact hother (by simp [(chainCategory_parentErrors he).1, hcontext e' he'])
  · rintro e (he | he) e' he'
    · exact hother (by simp [(chainCategory_parentErrors he).1, hpolicy e' he'])
    · exact hother (by simp [hcontext e he, hpolicy e' he'])
  · rintro e ((he | he) | he) e' he'
    · exact hother (by simp [(chainCategory_parentErrors he).1, hschema e' he'])
    · exact hother (by simp [hcontext e he, hschema e' he'])
    · exact hother (by simp [hpolicy e he, hschema e' he'])
  · rintro e (((he | he) | he) | he) e' he'
    · rintro rfl
      exact (chainCategory_pairErrors he').2 (chainCategory_parentErrors he).2
    · exact hpair (hcontext e he) nofun nofun he'
    · exact hpair (hpolicy e he) nofun nofun he'
    · exact hpair (hschema e he) nofun nofun he'

/-! ### The flags -/

theorem without_eq_false {c : ChainCategory} {errors : List VerifyError} :
    Without c errors = false ↔ ∃ e ∈ errors, e.chainCategory = some c := by
  simp [Without, List.all_eq_false]

theorem without_of_category {c c' : ChainCategory} {errors : List VerifyError}
    (h : ∀ e ∈ errors, e.chainCategory = some c') :
    Without c errors = (decide (c' ≠ c) || errors.isEmpty) := by
  by_cases hc : c' = c
  · subst hc
    cases errors with
    | nil => simp [Without]
    | cons e errors => simp [Without, h e List.mem_cons_self]
  · have hall : ∀ e ∈ errors, e.chainCategory ≠ some c :=
      fun e he heq => hc (Option.some.inj ((h e he).symm.trans heq))
    simpa [Without, hc] using hall

/-- A flag is up exactly when no error of its category is reported. -/
theorem flag_checkChainDetail (c : ChainCategory) :
    (checkChainDetail es).flag c = Without c (chainErrors es) := by
  have hparent : Without c (parentErrors es) = (decide (.linkage ≠ c) || _) :=
    without_of_category fun e he => (chainCategory_parentErrors he).1
  have hcontext : Without c (scan (uniformErrors (·.contextDigest) .contextInconsistent) [] es) =
      (decide (.context ≠ c) || _) :=
    without_of_category fun e => chainCategory_uniformErrors fun _ _ _ => rfl
  have hpolicy : Without c (scan (uniformErrors (·.policyDigest) .policyInconsistent) [] es) =
      (decide (.policy ≠ c) || _) :=
    without_of_category fun e => chainCategory_uniformErrors fun _ _ _ => rfl
  have hschema : Without c (scan (uniformErrors (·.schemaDigest) .schemaInconsistent) [] es) =
      (decide (.schema ≠ c) || _) :=
    without_of_category fun e => chainCategory_uniformErrors fun _ _ _ => rfl
  have hpair : c ≠ .linkage → c ≠ .ordering → Without c (scan pairErrors [] es) = true := by
    intro hl ho
    refine List.all_eq_true.2 fun e he => decide_eq_true fun heq => ?_
    rcases (chainCategory_pairErrors he).1 with h | h
    · exact hl (Option.some.inj (heq.symm.trans h))
    · exact ho (Option.some.inj (heq.symm.trans h))
  rw [checkChainDetail_eq, chainErrors]
  cases c with
  | linkage => simp [ChainDetail.flag, hcontext, hpolicy, hschema]
  | ordering => simp [ChainDetail.flag, hparent, hcontext, hpolicy, hschema]
  | context => simp [ChainDetail.flag, hparent, hcontext, hpolicy, hschema, hpair]
  | policy => simp [ChainDetail.flag, hparent, hcontext, hpolicy, hschema, hpair]
  | schema => simp [ChainDetail.flag, hparent, hcontext, hpolicy, hschema, hpair]

end Members

/-! ### The chain rules -/

/-- The time of `earlier` is before that of `later`. -/
def Before (earlier later : ReceiptEnvelope) : Prop :=
  earlier.logicalTime < later.logicalTime

instance : Trans Before Before Before := ⟨UInt64.lt_trans⟩

theorem ChainRules.not_violation {es : List ReceiptEnvelope} {e : VerifyError} (h : ChainRules es) :
    ¬ ChainViolation es e := by
  intro hv
  cases hv with
  | parent hfirst hp => exact hp (h.parentless _ (List.head?_eq_getElem? ▸ hfirst))
  | linkage hprev hcurr hl =>
    obtain ⟨hi, rfl⟩ := List.getElem?_eq_some_iff.1 hcurr
    obtain ⟨_, rfl⟩ := List.getElem?_eq_some_iff.1 hprev
    exact hl (List.isChain_iff_getElem.1 h.linked _ hi)
  | time hprev hcurr ht =>
    obtain ⟨hi, rfl⟩ := List.getElem?_eq_some_iff.1 hcurr
    obtain ⟨_, rfl⟩ := List.getElem?_eq_some_iff.1 hprev
    exact UInt64.not_le.2 (List.isChain_iff_getElem.1 h.increasing.isChain _ hi) ht
  | @duplicate i j _ _ hj hearlier hcurr hh =>
    have hlt : i < (es.map (·.eventHash)).length := by
      rw [List.length_map]
      exact (List.getElem?_eq_some_iff.1 hcurr).1
    refine List.nodup_iff_getElem?_ne_getElem?.1 h.distinct j i hj hlt ?_
    rw [List.getElem?_map, List.getElem?_map, hearlier, hcurr, Option.map_some, Option.map_some, hh]
  | context hfirst hcurr hne =>
    exact hne (h.context _ (List.mem_of_getElem? hcurr) _ (List.mem_of_getElem? hfirst))
  | policy hfirst hcurr hne =>
    exact hne (h.policy _ (List.mem_of_getElem? hcurr) _ (List.mem_of_getElem? hfirst))
  | schema hfirst hcurr hne =>
    exact hne (h.schema _ (List.mem_of_getElem? hcurr) _ (List.mem_of_getElem? hfirst))

/-- A field is uniform when no envelope differs from the first. -/
theorem uniform_of_first {es : List ReceiptEnvelope} {field : ReceiptEnvelope → DigestBytes}
    (h : ∀ {i : ℕ} {first curr}, es[0]? = some first → es[i]? = some curr →
      field curr = field first) :
    ∀ e ∈ es, ∀ e' ∈ es, field e = field e' := by
  intro e he e' he'
  obtain ⟨i, hi⟩ := List.mem_iff_getElem?.1 he
  obtain ⟨j, hj⟩ := List.mem_iff_getElem?.1 he'
  obtain ⟨first, rest, rfl⟩ := List.exists_cons_of_ne_nil (List.ne_nil_of_mem he)
  exact (h rfl hi).trans (h rfl hj).symm

/-- **The chain rules hold when nothing violates them.** -/
theorem chainRules_of_not_violation {es : List ReceiptEnvelope} (h : ∀ e, ¬ ChainViolation es e) :
    ChainRules es where
  parentless first hfirst := by
    rw [List.head?_eq_getElem?] at hfirst
    exact not_not.1 fun hp => h _ (.parent hfirst hp)
  linked := List.isChain_iff_getElem.2 fun i hi => not_not.1 fun hl =>
    h _ (.linkage (List.getElem?_eq_getElem (by omega)) (List.getElem?_eq_getElem hi) hl)
  increasing := by
    have hnext : es.IsChain Before := List.isChain_iff_getElem.2 fun i hi => UInt64.not_le.1 fun ht =>
      h _ (.time (List.getElem?_eq_getElem (by omega)) (List.getElem?_eq_getElem hi) ht)
    exact hnext.pairwise
  context := uniform_of_first fun hfirst hcurr => not_not.1 fun hne => h _ (.context hfirst hcurr hne)
  policy := uniform_of_first fun hfirst hcurr => not_not.1 fun hne => h _ (.policy hfirst hcurr hne)
  schema := uniform_of_first fun hfirst hcurr => not_not.1 fun hne => h _ (.schema hfirst hcurr hne)
  distinct := by
    refine List.nodup_iff_getElem?_ne_getElem?.2 fun j i hj hi heq => ?_
    rw [List.length_map] at hi
    have hcurr : es[i]? = some es[i] := List.getElem?_eq_getElem hi
    have hearlier : es[j]? = some es[j] := List.getElem?_eq_getElem (by omega)
    rw [List.getElem?_map, List.getElem?_map, hearlier, hcurr] at heq
    exact h _ (.duplicate hj hearlier hcurr (Option.some.inj heq))

theorem validChain_iff_rules {es : List ReceiptEnvelope} : ValidChain es ↔ ChainRules es := by
  cases es with
  | nil =>
    have hrules : ChainRules [] := by constructor <;> simp
    exact iff_of_true trivial hrules
  | cons first rest =>
    constructor
    · intro h
      have huniform : ∀ {field : ReceiptEnvelope → DigestBytes},
          (∀ e ∈ rest, field e = field first) →
          ∀ e ∈ first :: rest, ∀ e' ∈ first :: rest, field e = field e' := by
        intro field hrest e he e' he'
        have hfirst : ∀ e ∈ first :: rest, field e = field first :=
          List.forall_mem_cons.2 ⟨rfl, hrest⟩
        exact (hfirst e he).trans (hfirst e' he').symm
      exact {
        parentless := fun _ hmem => Option.some.inj hmem ▸ h.parentless
        linked := h.linked.imp fun _ _ hf => hf.1
        increasing := (h.linked.imp fun _ _ hf => hf.2 : List.IsChain Before _).pairwise
        context := huniform h.context
        policy := huniform h.policy
        schema := huniform h.schema
        distinct := h.distinct }
    · intro h
      have hlinked : (first :: rest).IsChain Follows := by
        rw [List.isChain_iff_getElem]
        intro i hi
        exact ⟨List.isChain_iff_getElem.1 h.linked i hi,
          List.isChain_iff_getElem.1 h.increasing.isChain i hi⟩
      exact {
        parentless := h.parentless first rfl
        linked := hlinked
        context := fun e he => h.context e (List.mem_cons_of_mem _ he) first List.mem_cons_self
        policy := fun e he => h.policy e (List.mem_cons_of_mem _ he) first List.mem_cons_self
        schema := fun e he => h.schema e (List.mem_cons_of_mem _ he) first List.mem_cons_self
        distinct := h.distinct }

/-- **No violation is collected exactly when the chain rules hold.** -/
theorem checkChainDetail_errors_eq_nil {es : List ReceiptEnvelope} :
    (checkChainDetail es).errors = [] ↔ ValidChain es := by
  rw [checkChainDetail_errors, List.eq_nil_iff_forall_not_mem, validChain_iff_rules]
  simp only [mem_chainErrors]
  exact ⟨chainRules_of_not_violation, fun h _ => h.not_violation⟩

/-- When no violation is collected, every flag is up. -/
theorem checkChainDetail_flags {es : List ReceiptEnvelope} (h : (checkChainDetail es).errors = []) :
    (checkChainDetail es).linkageOk = true ∧ (checkChainDetail es).orderingOk = true ∧
      (checkChainDetail es).contextUniform = true ∧ (checkChainDetail es).policyStable = true ∧
      (checkChainDetail es).schemaUniform = true := by
  have hflag : ∀ c, (checkChainDetail es).flag c = true := by
    intro c
    rw [flag_checkChainDetail, ← checkChainDetail_errors, h]
    rfl
  exact ⟨hflag .linkage, hflag .ordering, hflag .context, hflag .policy, hflag .schema⟩

theorem verifyChain_eq_ok {es : List ReceiptEnvelope} : verifyChain es = .ok () ↔ ValidChain es := by
  rw [← checkChainDetail_errors_eq_nil, verifyChain]
  cases (checkChainDetail es).errors <;> simp

/-- **A chain check reports exactly the violations of the chain rules**, and accepts exactly when
the rules hold. -/
theorem checkChainDetail_exact (es : List ReceiptEnvelope) :
    ReportsViolations es (checkChainDetail es) ∧ (verifyChain es = .ok () ↔ ChainRules es) := by
  refine ⟨⟨?_, fun e => ?_, fun c => ?_⟩, verifyChain_eq_ok.trans validChain_iff_rules⟩
  · rw [checkChainDetail_errors]
    exact nodup_chainErrors
  · rw [checkChainDetail_errors]
    exact mem_chainErrors
  · rw [checkChainDetail_errors, flag_checkChainDetail, without_eq_false]

end VertRule
